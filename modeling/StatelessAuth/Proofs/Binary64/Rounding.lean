/-
What rounding to doubles keeps. Rounding to the nearest integer moves a
quotient by at most a half and keeps the order; rounding a magnitude to
the nearest double is that, with the spacing of the doubles around the
magnitude in place of one.

# Order across two spacings

Of two magnitudes the greater one may have the wider spacing. Then a
power of two stands between them, from which on the spacing is the wider
one. It is itself a double of either spacing, and so none of the two is
rounded past it (`units_round_mono`).
-/
import Mathlib.Data.Nat.Log
import StatelessAuth.Binary64

namespace StatelessAuth

theorem twoTo_pos (power : Nat) : 0 < twoTo power := Nat.two_pow_pos power

theorem twoTo_add (a b : Nat) : twoTo (a + b) = twoTo a * twoTo b :=
  Nat.pow_add 2 a b

theorem twoTo_le_twoTo {a b : Nat} (h : a ≤ b) : twoTo a ≤ twoTo b :=
  Nat.pow_le_pow_right (by decide) h

theorem twoTo_lt_twoTo {a b : Nat} (h : a < b) : twoTo a < twoTo b :=
  Nat.pow_lt_pow_right (by decide) h

theorem twoTo_dvd_twoTo {a b : Nat} (h : a ≤ b) : twoTo a ∣ twoTo b :=
  Nat.pow_dvd_pow 2 h

namespace Binary64

variable {num den a b : Nat}

theorem one_units_pos : 0 < one := twoTo_pos 1074

-- ================================================== the nearest integer

/-- The quotient is rounded down if the rest is at most a half, and up if it is
at least a half. -/
theorem nearestEven_cases (num den : Nat) :
    (nearestEven num den = num / den ∧ 2 * (num % den) ≤ den)
      ∨ (nearestEven num den = num / den + 1 ∧ den ≤ 2 * (num % den)) := by
  unfold nearestEven
  by_cases hdown : 2 * (num % den) < den
  · rw [if_pos hdown]
    exact .inl ⟨rfl, Nat.le_of_lt hdown⟩
  · rw [if_neg hdown]
    by_cases hup : den < 2 * (num % den)
    · rw [if_pos hup]
      exact .inr ⟨rfl, Nat.le_of_lt hup⟩
    · rw [if_neg hup]
      rcases Nat.mod_two_eq_zero_or_one (num / den) with heven | hodd
      · rw [heven]
        exact .inl ⟨rfl, Nat.le_of_not_lt hup⟩
      · rw [hodd]
        exact .inr ⟨rfl, Nat.le_of_not_lt hdown⟩

/-- Rounding is off by at most a half. -/
theorem nearestEven_near (num : Nat) (hden : 0 < den) :
    2 * num ≤ 2 * (nearestEven num den * den) + den
      ∧ 2 * (nearestEven num den * den) ≤ 2 * num + den := by
  have hnum := Nat.div_add_mod' num den
  have hrest := Nat.mod_lt num hden
  rcases nearestEven_cases num den with ⟨hdown, hhalf⟩ | ⟨hup, hhalf⟩
  · rw [hdown]
    omega
  · rw [hup, Nat.add_one_mul (num / den) den]
    omega

/-- A multiple is its own quotient. -/
theorem nearestEven_mul (n : Nat) (hden : 0 < den) :
    nearestEven (n * den) den = n := by
  unfold nearestEven
  rw [Nat.mul_div_cancel n hden, Nat.mul_mod_left, Nat.mul_zero, if_pos hden]

/-- A greater number is not rounded below a smaller one: where it would be, both
were halfway between the two quotients, and so they were one number. -/
theorem nearestEven_mono (h : a ≤ b) (hden : 0 < den) :
    nearestEven a den ≤ nearestEven b den := by
  refine Nat.le_of_not_lt fun hlt => ?_
  have hnext : nearestEven b den * den + den ≤ nearestEven a den * den := by
    rw [← Nat.add_one_mul]
    exact Nat.mul_le_mul_right den hlt
  have ha := (nearestEven_near a hden).2
  have hb := (nearestEven_near b hden).1
  have heq : a = b := by omega
  rw [heq] at hlt
  exact Nat.lt_irrefl _ hlt

/-- No multiple is passed by rounding. -/
theorem nearestEven_mul_le (h : num ≤ b) (hdvd : den ∣ b) (hden : 0 < den) :
    nearestEven num den * den ≤ b := by
  obtain ⟨n, rfl⟩ := hdvd
  rw [Nat.mul_comm den n] at h ⊢
  have hle := nearestEven_mono h hden
  rw [nearestEven_mul n hden] at hle
  exact Nat.mul_le_mul_right den hle

/-- The same from the other side. -/
theorem le_nearestEven_mul (h : a ≤ num) (hdvd : den ∣ a) (hden : 0 < den) :
    a ≤ nearestEven num den * den := by
  obtain ⟨n, rfl⟩ := hdvd
  rw [Nat.mul_comm den n] at h ⊢
  have hle := nearestEven_mono h hden
  rw [nearestEven_mul n hden] at hle
  exact Nat.mul_le_mul_right den hle

-- =================================================== the nearest double

/-- The distance of the doubles around a magnitude, both in units. -/
def spacing (num : Nat) : Nat := twoTo (Nat.log2 num - 52)

theorem spacing_pos (num : Nat) : 0 < spacing num := twoTo_pos _

theorem log2_lt {power : Nat} (h : num < twoTo power) (hpower : 0 < power) :
    Nat.log2 num < power := by
  by_cases hzero : num = 0
  · rw [hzero]
    exact hpower
  · exact (Nat.log2_lt hzero).2 h

/-- The spacing of the doubles below a power of two is one of the powers
up to the fifty-third before it. -/
theorem spacing_dvd {power : Nat} (h : num < twoTo (power + 53)) :
    spacing num ∣ twoTo power := by
  have hlog : Nat.log2 num < power + 53 := log2_lt h (Nat.succ_pos _)
  exact twoTo_dvd_twoTo (by omega)

/-- A magnitude in the range of doubles is rounded to a multiple of the
spacing. -/
theorem units_round (negative : Bool) (h : num < twoTo 2097) :
    (round negative num 1).units
      = nearestEven num (spacing num) * spacing num := by
  have hlog : Nat.log2 num < 2097 := log2_lt h (by decide)
  unfold round
  simp only [Nat.div_one, Nat.one_mul]
  split
  -- rounded up to the next power of two, which is written with one
  -- doubling more
  case isTrue hfull =>
    rw [if_pos (by omega), units, spacing, hfull, ← twoTo_add, ← twoTo_add]
    congr 1
    omega
  case isFalse =>
    rw [if_pos (by omega), units, spacing]

/-- The nearest double is off by at most half the spacing. -/
theorem units_round_near (negative : Bool) (h : num < twoTo 2097) :
    2 * num ≤ 2 * (round negative num 1).units + spacing num
      ∧ 2 * (round negative num 1).units ≤ 2 * num + spacing num := by
  rw [units_round negative h]
  exact nearestEven_near num (spacing_pos num)

/-- A greater magnitude is not rounded to a smaller double. -/
theorem units_round_mono (negative : Bool) (h : a ≤ b) (hb : b < twoTo 2097) :
    (round negative a 1).units ≤ (round negative b 1).units := by
  rw [units_round negative (Nat.lt_of_le_of_lt h hb), units_round negative hb]
  have hlog : Nat.log2 a ≤ Nat.log2 b := by
    rw [Nat.log2_eq_log_two, Nat.log2_eq_log_two]
    exact Nat.log_mono_right h
  -- with one spacing by the order of the quotients, with two by the
  -- power of two between the magnitudes
  by_cases hsame : Nat.log2 a - 52 = Nat.log2 b - 52
  · have hspacing : spacing a = spacing b := congrArg twoTo hsame
    rw [hspacing]
    exact Nat.mul_le_mul_right _ (nearestEven_mono h (spacing_pos b))
  · have hwide : 52 < Nat.log2 b := by omega
    have hlt : a < twoTo (Nat.log2 b) := by
      refine Nat.lt_of_lt_of_le Nat.lt_log2_self (twoTo_le_twoTo ?_)
      omega
    have hle : twoTo (Nat.log2 b) ≤ b :=
      Nat.log2_self_le (by rintro rfl; simp at hwide)
    calc nearestEven a (spacing a) * spacing a
        ≤ twoTo (Nat.log2 b) :=
          nearestEven_mul_le (Nat.le_of_lt hlt) (twoTo_dvd_twoTo (by omega))
            (spacing_pos a)
      _ ≤ nearestEven b (spacing b) * spacing b :=
          le_nearestEven_mul hle (twoTo_dvd_twoTo (by omega)) (spacing_pos b)

end Binary64

end StatelessAuth
