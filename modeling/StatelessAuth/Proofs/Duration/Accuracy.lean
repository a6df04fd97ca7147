/-
How exact the arithmetic of spans is. A finite span is a rational number
of seconds (`seconds?`); the microseconds that it is taken for are less
than one off that number, they are exact for whole seconds, they do not
depend on where the span starts, and of two spans the longer one never
leads to an earlier instant (`after_accurate`).

# One number is rounded twice

The whole seconds of a magnitude are taken for their microseconds
exactly. The fraction times a million is rounded to a double, and what
that leaves behind a whole microsecond rounds the sum. Both are the same
as to round once more `scaled`, which is the microseconds of the
magnitude before the last rounding, to the nearest integer.

The first rounding is off by far less than a half, since the doubles below a
million are close, and the second by at most a half. Both keep the order, and a
million is a double, so that no fraction is rounded past the next whole second
(`scaled_mono`).
-/
import Mathlib.Algebra.Order.Field.Rat
import Mathlib.Data.Rat.Cast.Order
import Mathlib.Tactic.Linarith
import Mathlib.Tactic.Ring
import StatelessAuth.Proofs.Binary64.Rounding
import StatelessAuth.Proofs.Calendar.Count
import StatelessAuth.Proofs.Duration

namespace StatelessAuth.Duration

open Binary64

-- ================================================== before the last rounding

/-- The product of the fraction of a magnitude with a million. -/
def product (units : Nat) : Nat := (round false (units % one * 1000000) 1).units

/-- The microseconds of a magnitude, in units, before they are rounded. -/
def scaled (units : Nat) : Nat := units / one * 1000000 * one + product units

/-- A fraction of a second times a million is small enough for close
doubles. -/
theorem fraction_lt (units : Nat) :
    units % one * 1000000 < twoTo (1041 + 53) := by
  have hfraction : units % one < twoTo 1074 := Nat.mod_lt _ one_units_pos
  have hmillion : 1000000 < twoTo 20 := by decide
  have hpower : twoTo (1041 + 53) = twoTo 1074 * twoTo 20 := twoTo_add 1074 20
  rw [hpower]
  exact Nat.mul_lt_mul_of_lt_of_lt hfraction hmillion

theorem fraction_lt_greatest (units : Nat) :
    units % one * 1000000 < twoTo 2097 :=
  Nat.lt_of_lt_of_le (fraction_lt units) (twoTo_le_twoTo (by decide))

/-- A million is a double, and so the product stays up to it. -/
theorem product_le (units : Nat) : product units ≤ 1000000 * one := by
  have hone : twoTo 1041 ∣ one := twoTo_dvd_twoTo (by decide)
  have hdvd : spacing (units % one * 1000000) ∣ 1000000 * one :=
    ((spacing_dvd (fraction_lt units)).trans hone).mul_left _
  have hle : units % one * 1000000 ≤ 1000000 * one := by
    rw [Nat.mul_comm]
    exact Nat.mul_le_mul_left _ (Nat.le_of_lt (Nat.mod_lt _ one_units_pos))
  rw [product, units_round false (fraction_lt_greatest units)]
  exact nearestEven_mul_le hle hdvd (spacing_pos _)

/-- The product is off by at most 2⁻³⁴ of a microsecond. -/
theorem product_near (units : Nat) :
    2 * (units % one * 1000000) ≤ 2 * product units + twoTo 1041
      ∧ 2 * product units ≤ 2 * (units % one * 1000000) + twoTo 1041 := by
  have hspacing : spacing (units % one * 1000000) ≤ twoTo 1041 :=
    Nat.le_of_dvd (twoTo_pos _) (spacing_dvd (fraction_lt units))
  obtain ⟨hbelow, habove⟩ := units_round_near false (fraction_lt_greatest units)
  unfold product
  omega

/-- The first rounding is that of the product alone. -/
theorem scaled_near (units : Nat) :
    2 * (units * 1000000) ≤ 2 * scaled units + twoTo 1041
      ∧ 2 * scaled units ≤ 2 * (units * 1000000) + twoTo 1041 := by
  obtain ⟨hbelow, habove⟩ := product_near units
  have hsplit : units * 1000000
      = units / one * 1000000 * one + units % one * 1000000 := by
    conv_lhs => rw [← Nat.div_add_mod' units one]
    ring
  rw [hsplit, scaled]
  omega

/-- A greater magnitude does not have fewer microseconds. -/
theorem scaled_mono {a b : Nat} (h : a ≤ b) : scaled a ≤ scaled b := by
  have hwhole : a / one ≤ b / one := Nat.div_le_div_right h
  unfold scaled
  -- within one second by the rounding, and across seconds by its bound
  by_cases hsame : a / one = b / one
  · have ha := Nat.div_add_mod' a one
    have hb := Nat.div_add_mod' b one
    rw [hsame] at ha ⊢
    have hfraction : a % one * 1000000 ≤ b % one * 1000000 := by omega
    exact Nat.add_le_add_left
      (units_round_mono false hfraction (fraction_lt_greatest b)) _
  · have hnext : (a / one + 1) * 1000000 * one ≤ b / one * 1000000 * one := by
      refine Nat.mul_le_mul_right one (Nat.mul_le_mul_right 1000000 ?_)
      omega
    calc a / one * 1000000 * one + product a
        ≤ a / one * 1000000 * one + 1000000 * one :=
          Nat.add_le_add_left (product_le a) _
      _ = (a / one + 1) * 1000000 * one := by ring
      _ ≤ b / one * 1000000 * one := hnext
      _ ≤ b / one * 1000000 * one + product b := Nat.le_add_right _ _

/-- Whole seconds have no fraction. -/
theorem scaled_mul_one (seconds : Nat) :
    scaled (seconds * one) = seconds * 1000000 * one := by
  have hproduct : product (seconds * one) ≤ 0 := by
    rw [product, Nat.mul_mod_left, Nat.zero_mul,
      units_round false (twoTo_pos _)]
    exact nearestEven_mul_le (Nat.le_refl 0) (Nat.dvd_zero _) (spacing_pos _)
  rw [scaled, Nat.mul_div_cancel _ one_units_pos, Nat.le_zero.1 hproduct,
    Nat.add_zero]

-- ======================================================== the last rounding

/-- To round a sum by its rest is to round the two together. -/
theorem roundRest_eq (negative : Bool) (sum : Nat) {rest : Nat}
    (h : rest < one) :
    roundRest (if negative then -sum else sum) negative rest
      = if negative then -(nearestEven (sum * one + rest) one : ℤ)
        else nearestEven (sum * one + rest) one := by
  have hquotient : (sum * one + rest) / one = sum := by
    rw [Nat.mul_comm, Nat.mul_add_div one_units_pos, Nat.div_eq_of_lt h,
      Nat.add_zero]
  have hrest : (sum * one + rest) % one = rest := by
    rw [Nat.mul_comm, Nat.mul_add_mod, Nat.mod_eq_of_lt h]
  unfold roundRest nearestEven
  rw [hquotient, hrest]
  by_cases hdown : 2 * rest < one
  · simp only [if_pos hdown]
  · by_cases hup : one < 2 * rest
    · cases negative with
      | false => simp [if_neg hdown, if_pos hup]
      | true =>
          simp only [if_neg hdown, if_pos hup, if_true]
          omega
    · -- a sum and its negative are even together
      cases negative with
      | false =>
          simp only [if_neg hdown, if_neg hup]
          split
          · simp
            omega
          · simp
            omega
      | true =>
          simp only [if_neg hdown, if_neg hup, if_true]
          split
          · omega
          · omega

/-- The microseconds for which a magnitude is taken. -/
def magnitude (units : Nat) : Nat := nearestEven (scaled units) one

/-- The microseconds of a magnitude are those of its rounding, with the
sign in front. -/
theorem microsOfUnits_eq (negative : Bool) (units : Nat) :
    microsOfUnits negative units
      = if negative then -(magnitude units : ℤ) else magnitude units := by
  have hsum : (units / one * 1000000 + product units / one) * one
      + product units % one = scaled units := by
    rw [Nat.add_mul, Nat.add_assoc, Nat.div_add_mod']
    rfl
  have hround := roundRest_eq negative
    (units / one * 1000000 + product units / one)
    (Nat.mod_lt (product units) one_units_pos)
  rw [hsum] at hround
  rw [magnitude, ← hround]
  unfold microsOfUnits
  push_cast
  rfl

theorem magnitude_mono {a b : Nat} (h : a ≤ b) : magnitude a ≤ magnitude b :=
  nearestEven_mono (scaled_mono h) one_units_pos

theorem magnitude_mul_one (seconds : Nat) :
    magnitude (seconds * one) = seconds * 1000000 := by
  rw [magnitude, scaled_mul_one, nearestEven_mul _ one_units_pos]

/-- The two roundings together are off by less than a microsecond. -/
theorem magnitude_near (units : Nat) :
    units * 1000000 < magnitude units * one + one
      ∧ magnitude units * one < units * 1000000 + one := by
  obtain ⟨hbelow, habove⟩ := scaled_near units
  obtain ⟨hbelow', habove'⟩ := nearestEven_near (scaled units) one_units_pos
  have hclose : twoTo 1041 < one := twoTo_lt_twoTo (by decide)
  unfold magnitude
  omega

-- ================================================================== spans

/-- The number of seconds that a span is, if it is a finite one. -/
def seconds? : Duration → Option ℚ
  | whole seconds => some seconds
  | real (.finite negative significand doublings) =>
      some ((if negative then -1 else 1) *
        (significand * 2 ^ doublings / 2 ^ 1074))
  | _ => none

/-- The microseconds for which a number of units is taken. -/
def shift (units : ℤ) : ℤ :=
  if units < 0 then -magnitude units.natAbs else magnitude units.natAbs

theorem shift_natCast (units : Nat) : shift units = magnitude units := by
  rw [shift, if_neg (Int.not_lt.2 (Int.natCast_nonneg units)),
    Int.natAbs_natCast]

theorem shift_neg (units : Nat) : shift (-units) = -magnitude units := by
  rcases Nat.eq_zero_or_pos units with rfl | hpos
  · have hzero := magnitude_mul_one 0
    rw [Nat.zero_mul, Nat.zero_mul] at hzero
    rw [Int.natCast_zero, Int.neg_zero, ← Int.natCast_zero,
      shift_natCast, hzero]
    rfl
  · rw [shift, if_pos (by omega), Int.natAbs_neg, Int.natAbs_natCast]

/-- A longer span is taken for no fewer microseconds. -/
theorem shift_mono {a b : ℤ} (h : a ≤ b) : shift a ≤ shift b := by
  obtain ⟨m, rfl | rfl⟩ := a.eq_nat_or_neg
    <;> obtain ⟨n, rfl | rfl⟩ := b.eq_nat_or_neg
  · rw [shift_natCast, shift_natCast]
    exact Int.ofNat_le.2 (magnitude_mono (Int.ofNat_le.1 h))
  · have hm : m = 0 := by omega
    have hn : n = 0 := by omega
    rw [hm, hn]
    exact Int.le_refl _
  · rw [shift_neg, shift_natCast]
    omega
  · rw [shift_neg, shift_neg]
    exact Int.neg_le_neg (Int.ofNat_le.2 (magnitude_mono (by omega)))

theorem shift_mul_one (seconds : ℤ) :
    shift (seconds * one) = seconds * 1000000 := by
  obtain ⟨n, rfl | rfl⟩ := seconds.eq_nat_or_neg
  · rw [← Int.natCast_mul, shift_natCast, magnitude_mul_one]
    push_cast
    rfl
  · rw [Int.neg_mul, ← Int.natCast_mul, shift_neg, magnitude_mul_one]
    push_cast
    ring

/-- The same accuracy below zero as above. -/
theorem shift_near (units : ℤ) :
    units * 1000000 < shift units * one + one
      ∧ shift units * one < units * 1000000 + one := by
  obtain ⟨n, rfl | rfl⟩ := units.eq_nat_or_neg
  · rw [shift_natCast]
    exact_mod_cast magnitude_near n
  · obtain ⟨hbelow, habove⟩ := magnitude_near n
    have hbelow' : (n * 1000000 : ℤ) < magnitude n * one + one := by
      exact_mod_cast hbelow
    have habove' : (magnitude n * one : ℤ) < n * 1000000 + one := by
      exact_mod_cast habove
    rw [shift_neg]
    constructor
    · linarith
    · linarith

private theorem cast_twoTo (power : Nat) : (twoTo power : ℚ) = 2 ^ power :=
  Nat.cast_pow 2 power

/-- A span of so many seconds is so many units, and these alone say how far it
leads. -/
theorem micros_of_seconds? {span : Duration} {seconds : ℚ}
    (h : span.seconds? = some seconds) :
    ∃ units : ℤ, (units : ℚ) = seconds * one
      ∧ span.micros = .ok (shift units) := by
  have hone : (one : ℚ) = 2 ^ 1074 := cast_twoTo 1074
  cases span with
  | notNumeric => cases h
  | whole count =>
      cases h
      refine ⟨count * one, ?_, ?_⟩
      · push_cast
        rfl
      · rw [micros, shift_mul_one]
  | real double =>
      cases double with
      | nan => cases h
      | infinite negative => cases h
      | finite negative significand doublings =>
          cases h
          have hunits : ((significand * twoTo doublings : Nat) : ℚ)
              = significand * 2 ^ doublings / 2 ^ 1074 * one := by
            rw [hone, div_mul_cancel₀ _ (pow_ne_zero 1074 two_ne_zero),
              Nat.cast_mul, cast_twoTo]
          cases negative with
          | false =>
              refine ⟨(significand * twoTo doublings : Nat), ?_, ?_⟩
              · rw [Int.cast_natCast, hunits,
                  if_neg Bool.false_ne_true, one_mul]
              · rw [micros, microsOfUnits_eq, shift_natCast,
                  if_neg Bool.false_ne_true]
          | true =>
              refine ⟨-(significand * twoTo doublings : Nat), ?_, ?_⟩
              · rw [Int.cast_neg, Int.cast_natCast, hunits, if_pos rfl,
                  neg_one_mul, neg_mul]
              · rw [micros, microsOfUnits_eq, shift_neg, if_pos rfl]

/-- The microseconds of a number of seconds, to less than one. -/
theorem shift_close {units : ℤ} {seconds : ℚ}
    (h : (units : ℚ) = seconds * one) :
    |(shift units : ℚ) - seconds * 1000000| < 1 := by
  have hpos : (0 : ℚ) < one := Nat.cast_pos.2 one_units_pos
  obtain ⟨hbelow, habove⟩ := shift_near units
  have hbelow' : (units : ℚ) * 1000000 < shift units * one + one := by
    exact_mod_cast hbelow
  have habove' : (shift units : ℚ) * one < units * 1000000 + one := by
    exact_mod_cast habove
  rw [h] at hbelow' habove'
  rw [abs_sub_lt_iff]
  constructor
  · refine lt_of_mul_lt_mul_right ?_ hpos.le
    linarith
  · refine lt_of_mul_lt_mul_right ?_ hpos.le
    linarith

/-- Whole seconds are taken for their microseconds exactly. -/
theorem shift_of_whole {units n : ℤ} {seconds : ℚ}
    (h : (units : ℚ) = seconds * one) (hwhole : seconds = n) :
    shift units = n * 1000000 := by
  rw [hwhole] at h
  have hunits : units = n * one := by exact_mod_cast h
  rw [hunits, shift_mul_one]

-- =============================================================== instants

/-- From every instant the span leads to the one so many microseconds later, and
out of the years 1 to 9999 if that lies outside them. -/
structure Leads (span : Duration) (shift : ℤ) : Prop where
  after_iff : ∀ start deadline : Instant,
    after start span = .ok deadline
      ↔ (deadline.micros : ℤ) = start.micros + shift
  leaves_iff : ∀ start : Instant,
    after start span = .error .outOfRange
      ↔ start.micros + shift < 0
        ∨ ((∑ year ∈ Finset.Ico 1 10000, Date.yearLength year)
            * microsPerDay : Nat) ≤ start.micros + shift

/-- A span that is taken for so many microseconds leads so far, from
everywhere. -/
theorem leads_of_micros {span : Duration} {shift : ℤ}
    (h : span.micros = .ok shift) : span.Leads shift := by
  constructor
  · intro start deadline
    rw [after_eq_ok_iff, h]
    simp
  · intro start
    rw [after_eq_outOfRange_iff, h, Date.sum_yearLength]
    simp

/-- A span that is a finite number of seconds leads by an amount of its
own from wherever it starts: the microseconds of that number to less
than one, and exactly if the number is whole. Of two such spans the
longer one does not lead to an earlier instant. What is not a number
leads nowhere. -/
theorem after_accurate :
    (∀ (span : Duration) (seconds : ℚ), span.seconds? = some seconds →
        ∃ shift : ℤ, span.Leads shift
          ∧ |(shift : ℚ) - seconds * 1000000| < 1
          ∧ ∀ n : ℤ, seconds = n → shift = n * 1000000)
      ∧ (∀ (span longer : Duration) (seconds more : ℚ)
          (start deadline later : Instant), span.seconds? = some seconds →
          longer.seconds? = some more → seconds ≤ more →
          after start span = .ok deadline → after start longer = .ok later →
          deadline ≤ later)
      ∧ ∀ start : Instant, after start (.real .nan) = .error .notANumber := by
  refine ⟨?accurate, ?monotone, ?nan⟩
  case accurate =>
    intro span seconds h
    obtain ⟨units, hunits, hmicros⟩ := micros_of_seconds? h
    exact ⟨shift units, leads_of_micros hmicros, shift_close hunits,
      fun n hwhole => shift_of_whole hunits hwhole⟩
  case monotone =>
    intro span longer seconds more start deadline later hspan hlonger hle
      hdeadline hlater
    obtain ⟨units, hunits, hmicros⟩ := micros_of_seconds? hspan
    obtain ⟨units', hunits', hmicros'⟩ := micros_of_seconds? hlonger
    have hcast : (units : ℚ) ≤ units' := by
      rw [hunits, hunits']
      exact mul_le_mul_of_nonneg_right hle (Nat.cast_nonneg one)
    have hshift : shift units ≤ shift units' :=
      shift_mono (by exact_mod_cast hcast)
    have hsum := ((leads_of_micros hmicros).after_iff start deadline).1
      hdeadline
    have hsum' := ((leads_of_micros hmicros').after_iff start later).1 hlater
    show deadline.micros ≤ later.micros
    omega
  case nan =>
    intro start
    rfl

/-- The greatest double below one second. -/
def nearlySecond : Duration := .real (.finite false (twoTo 53 - 1) 1021)

/-- It is taken for a whole second, and leads no further than one. -/
theorem after_accurate_of_nearlySecond :
    ∃ seconds : ℚ, nearlySecond.seconds? = some seconds ∧ seconds ≤ 1
      ∧ (∃ shift : ℤ, nearlySecond.Leads shift
        ∧ |(shift : ℚ) - seconds * 1000000| < 1)
      ∧ ∃ deadline later : Instant, after .first nearlySecond = .ok deadline
        ∧ after .first (.whole 1) = .ok later ∧ deadline ≤ later := by
  obtain ⟨haccurate, hmonotone, -⟩ := after_accurate
  have hmicros : nearlySecond.micros = .ok 1000000 := by decide +kernel
  have hle : ((if false then -1 else 1)
      * ((twoTo 53 - 1 : Nat) * 2 ^ 1021 / 2 ^ 1074) : ℚ) ≤ 1 := by
    have hbelow : ((twoTo 53 - 1 : Nat) : ℚ) ≤ 2 ^ 53 := by
      rw [← cast_twoTo]
      exact Nat.cast_le.2 (Nat.sub_le _ _)
    rw [if_neg Bool.false_ne_true, one_mul,
      div_le_iff₀ (pow_pos two_pos 1074), one_mul]
    calc ((twoTo 53 - 1 : Nat) : ℚ) * 2 ^ 1021
        ≤ 2 ^ 53 * 2 ^ 1021 :=
          mul_le_mul_of_nonneg_right hbelow (pow_pos two_pos 1021).le
      _ = 2 ^ 1074 := (pow_add 2 53 1021).symm
  obtain ⟨shift, hleads, hclose, -⟩ := haccurate nearlySecond _ rfl
  have hdeadline : after .first nearlySecond = .ok ⟨1000000, by decide⟩ :=
    after_eq_ok_iff.2 ⟨1000000, hmicros, rfl⟩
  have hlater : after .first (.whole 1) = .ok ⟨1000000, by decide⟩ :=
    after_eq_ok_iff.2 ⟨1000000, rfl, rfl⟩
  exact ⟨_, rfl, hle, ⟨shift, hleads, hclose⟩, _, _, hdeadline, hlater,
    hmonotone nearlySecond (.whole 1) _ 1 .first _ _ rfl rfl hle hdeadline
      hlater⟩

end StatelessAuth.Duration
