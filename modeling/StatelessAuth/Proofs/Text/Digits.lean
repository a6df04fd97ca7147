/-
Numbers written in digits and read again: what `padded` writes is what
`takeDigits?` reads, up to the digits that were cut off, and what follows
is left alone (`takeDigits?_padded`). A reader that found its digits finds
the same ones whatever is put behind the text (`takeDigits?_append`).

Numbers in digits of one width are ordered as their texts are: the first
character in which two texts differ is the first digit in which the numbers
do, and behind two texts that agree the rest decides
(`padded_append_lt_iff`).
-/
import Mathlib.Data.List.Induction
import StatelessAuth.Powers
import StatelessAuth.Text.Digits

namespace StatelessAuth

theorem tenTo_succ (power : Nat) : tenTo (power + 1) = 10 * tenTo power :=
  Nat.mul_comm (tenTo power) 10

theorem tenTo_add (a b : Nat) : tenTo (a + b) = tenTo a * tenTo b :=
  Nat.pow_add 10 a b

theorem tenTo_pos (power : Nat) : 0 < tenTo power := Nat.pow_pos (by decide)

namespace Text

theorem isDigit_digitChar {digit : Nat} (h : digit < 10) :
    isDigit (Nat.digitChar digit) = true := by
  have all : ∀ digit : Fin 10,
      isDigit (Nat.digitChar digit.val) = true := by decide
  exact all ⟨digit, h⟩

theorem digitValue_lt {c : Char} (h : isDigit c = true) :
    digitValue c < 10 := by
  simp only [isDigit, Bool.and_eq_true, decide_eq_true_eq, Char.le_def,
    UInt32.le_iff_toNat_le] at h
  have hnine : c.toNat ≤ 57 := h.2
  unfold digitValue
  omega

theorem digitChar_lt_iff {a b : Nat} (ha : a < 10) (hb : b < 10) :
    Nat.digitChar a < Nat.digitChar b ↔ a < b := by
  have all : ∀ a b : Fin 10,
      Nat.digitChar a < Nat.digitChar b ↔ a < b := by decide
  exact all ⟨a, ha⟩ ⟨b, hb⟩

theorem digitChar_inj {a b : Nat} (ha : a < 10) (hb : b < 10) :
    Nat.digitChar a = Nat.digitChar b ↔ a = b := by
  have all : ∀ a b : Fin 10,
      Nat.digitChar a = Nat.digitChar b ↔ a.val = b.val := by decide
  exact all ⟨a, ha⟩ ⟨b, hb⟩

theorem ofDigits_concat (digits : List Char) (c : Char) :
    ofDigits (digits ++ [c]) = 10 * ofDigits digits + digitValue c := by
  rw [ofDigits, List.foldl_append]
  rfl

-- =============================================================== value

/-- Digits in front of others count as many times as the others have
room for. -/
theorem ofDigits_append (digits more : List Char) :
    ofDigits (digits ++ more)
      = tenTo more.length * ofDigits digits + ofDigits more := by
  induction more using List.reverseRecOn with
  | nil =>
      rw [List.append_nil]
      exact (Nat.one_mul _).symm
  | append_singleton more c ih =>
      rw [← List.append_assoc, ofDigits_concat, ofDigits_concat, ih,
        List.length_append, List.length_singleton, tenTo_succ, Nat.mul_add,
        Nat.mul_assoc, Nat.add_assoc]

/-- So many digits write a number below that power of ten. -/
theorem ofDigits_lt {digits : List Char} (h : ∀ c ∈ digits, isDigit c = true) :
    ofDigits digits < tenTo digits.length := by
  induction digits using List.reverseRecOn with
  | nil => exact Nat.one_pos
  | append_singleton digits c ih =>
      have hlast : digitValue c < 10 := digitValue_lt (h c (by simp))
      have hrest := ih fun d hd => h d (List.mem_append_left _ hd)
      rw [ofDigits_concat, List.length_append,
        List.length_singleton, tenTo_succ]
      omega

theorem ofDigits_replicate_zero (count : Nat) :
    ofDigits (List.replicate count '0') = 0 := by
  induction count with
  | zero => rfl
  | succ count ih =>
      rw [List.replicate_succ', ofDigits_concat, ih]
      rfl

-- ============================================================== padded

@[simp] theorem length_padded (width number : Nat) :
    (padded width number).length = width := by
  induction width generalizing number with
  | zero => rfl
  | succ width ih => simp [padded, ih]

/-- What is written in a width is digits only, the zeros in front
too. -/
theorem isDigit_of_mem_padded {width number : Nat} :
    ∀ c ∈ padded width number, isDigit c = true := by
  induction width generalizing number with
  | zero =>
      intro c hc
      cases hc
  | succ width ih =>
      intro c hc
      rw [padded] at hc
      rcases List.mem_append.1 hc with hc | hc
      · exact ih c hc
      · rw [List.mem_singleton.1 hc]
        exact isDigit_digitChar (Nat.mod_lt _ (by decide))

/-- What was written is the number without the digits that had no place. -/
theorem ofDigits_padded (width number : Nat) :
    ofDigits (padded width number) = number % tenTo width := by
  induction width generalizing number with
  | zero => exact (Nat.mod_one number).symm
  | succ width ih =>
      have hlast : digitValue (Nat.digitChar (number % 10)) = number % 10 :=
        Nat.toNat_digitChar_sub_48_of_lt_ten (Nat.mod_lt _ (by decide))
      rw [padded, ofDigits_concat, ih, hlast, tenTo_succ, Nat.mod_mul,
        Nat.add_comm]

section

variable {width a b : Nat} {rest rest' : List Char}

/-- Numbers that have room in a width are told by their text, whatever
follows. -/
theorem padded_append_inj (ha : a < tenTo width) (hb : b < tenTo width) :
    padded width a ++ rest = padded width b ++ rest'
      ↔ a = b ∧ rest = rest' := by
  constructor
  · intro h
    obtain ⟨hdigits, hrest⟩ :=
      List.append_inj h (by rw [length_padded, length_padded])
    have hvalue := congrArg ofDigits hdigits
    rw [ofDigits_padded, ofDigits_padded, Nat.mod_eq_of_lt ha,
      Nat.mod_eq_of_lt hb] at hvalue
    exact ⟨hvalue, hrest⟩
  · rintro ⟨rfl, rfl⟩
    rfl

/-- Of two numbers that have room in a width the smaller is written as
the smaller text, and behind the same number the rest decides. -/
theorem padded_append_lt_iff (ha : a < tenTo width) (hb : b < tenTo width) :
    padded width a ++ rest < padded width b ++ rest'
      ↔ a < b ∨ a = b ∧ rest < rest' := by
  induction width generalizing a b rest rest' with
  | zero =>
      obtain rfl : a = 0 := Nat.lt_one_iff.1 ha
      obtain rfl : b = 0 := Nat.lt_one_iff.1 hb
      simp [padded]
  | succ width ih =>
      rw [tenTo_succ] at ha hb
      have hlast : a % 10 < 10 := Nat.mod_lt _ (by decide)
      have hlast' : b % 10 < 10 := Nat.mod_lt _ (by decide)
      -- the last digit goes to the rest
      rw [padded, padded, List.append_assoc, List.append_assoc,
        ih (by omega) (by omega), List.singleton_append,
        List.singleton_append, List.cons_lt_cons_iff,
        digitChar_lt_iff hlast hlast', digitChar_inj hlast hlast']
      by_cases hrest : rest < rest'
      · simp only [hrest, and_true]
        omega
      · simp only [hrest, and_false, or_false]
        omega

end

-- ============================================================= decimal

/-- Every number has its own text. -/
theorem decimal_injective : Function.Injective decimal := by
  intro a b h
  calc a = Nat.ofDigitChars 10 (decimal a) 0 :=
      Nat.ofDigitChars_ten_toDigits.symm
    _ = Nat.ofDigitChars 10 (decimal b) 0 := by rw [h]
    _ = b := Nat.ofDigitChars_ten_toDigits

theorem isDigit_of_mem_decimal {number : Nat} :
    ∀ c ∈ decimal number, isDigit c = true := by
  intro c hc
  exact Nat.isDigit_of_mem_toDigits (by decide) (by decide) hc

/-- A number of four digits needs no zeros in front of it. -/
theorem decimal_eq_padded {number : Nat} (low : 1000 ≤ number)
    (high : number ≤ 9999) : decimal number = padded 4 number := by
  rw [decimal, Nat.toDigits_of_base_le (by decide) (by omega),
    Nat.toDigits_of_base_le (by decide) (by omega),
    Nat.toDigits_of_base_le (by decide) (by omega),
    Nat.toDigits_of_lt_base (by omega)]
  simp only [padded, List.nil_append]
  rw [Nat.mod_eq_of_lt (a := number / 10 / 10 / 10) (by omega)]

/-- A number below 1000 is shorter than four digits: nothing is put in
front of it. -/
theorem length_decimal_lt {number : Nat} (h : number < 1000) :
    (decimal number).length < 4 := by
  have := (Nat.length_toDigits_le_iff (b := 10) (k := 3) (by decide)
    (by decide)).2 h
  rw [decimal]
  omega

-- ============================================================= reading

/-- Digits are read where there are so many of them, whatever follows. -/
theorem takeDigits?_eq_some_iff {count number : Nat} {text rest : List Char} :
    takeDigits? count text = some (number, rest)
      ↔ ∃ digits, digits.length = count ∧ (∀ c ∈ digits, isDigit c = true)
          ∧ text = digits ++ rest ∧ ofDigits digits = number := by
  unfold takeDigits?
  constructor
  · intro h
    simp only at h
    split at h
    case isFalse => cases h
    case isTrue hdigits =>
      cases h
      exact ⟨text.take count, hdigits.1, List.all_eq_true.1 hdigits.2,
        (List.take_append_drop count text).symm, rfl⟩
  · intro h
    obtain ⟨digits, hlength, hdigits, rfl, hnumber⟩ := h
    have hall : digits.all isDigit = true := List.all_eq_true.2 hdigits
    rw [List.take_left' hlength, List.drop_left' hlength,
      if_pos ⟨hlength, hall⟩, hnumber]

/-- What follows a text does not change the digits that are read in
it. -/
theorem takeDigits?_append {count number : Nat} {text rest : List Char}
    (h : takeDigits? count text = some (number, rest)) (more : List Char) :
    takeDigits? count (text ++ more) = some (number, rest ++ more) := by
  obtain ⟨digits, hlength, hdigits, rfl, hnumber⟩ := takeDigits?_eq_some_iff.1 h
  exact takeDigits?_eq_some_iff.2
    ⟨digits, hlength, hdigits, List.append_assoc .., hnumber⟩

/-- Digits that were written are read, and what follows them is left. -/
theorem takeDigits?_padded (width number : Nat) (rest : List Char) :
    takeDigits? width (padded width number ++ rest)
      = some (number % tenTo width, rest) :=
  takeDigits?_eq_some_iff.2
    ⟨padded width number, length_padded width number,
      isDigit_of_mem_padded, rfl, ofDigits_padded width number⟩

end Text

end StatelessAuth
