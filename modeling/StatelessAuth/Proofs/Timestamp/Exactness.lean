/-
Reading timestamps is exact: which texts are accepted, which instant is read
off them and which of the two errors the others get is said by the parts of
which a text is spelt, and by rational numbers (`parse_exact`).

# The moment that is meant

A spelling means a number of seconds (`Spelling.moment`): what has
passed on the clock since the start of year 1, with all digits of the
fraction, less what the clock is ahead. It is an instant if it is in the
calendar (`InCalendar`), but for what is finer than a microsecond, which
is dropped (`Instant.IsCutOf`).

# Why cutting the digits is cutting the moment

The digits of the fraction are cut before the offset is subtracted. Both the
time to the second and the offset are whole microseconds, and so nothing is
carried: the first six digits, with zeros for the missing ones, are the quotient
of the fraction (`fractionMicros_eq`), and a quotient is within one of what was
divided. The bounds of the calendar are whole microseconds too, so that a moment
is within them if what it is cut to is (`ofMicros?_count_eq_none_iff`).
-/
import Mathlib.Algebra.Order.Field.Rat
import Mathlib.Data.Rat.Cast.Order
import Mathlib.Tactic.Linarith
import Mathlib.Tactic.Ring
import StatelessAuth.Proofs.Calendar.Count
import StatelessAuth.Proofs.Duration
import StatelessAuth.Proofs.Timestamp.Grammar

namespace StatelessAuth

/-- The instant is a number of seconds without what is finer than a
microsecond. -/
def Instant.IsCutOf (instant : Instant) (moment : ℚ) : Prop :=
  instant.micros ≤ moment * 1000000 ∧ moment * 1000000 < instant.micros + 1

namespace Timestamp

open Text

-- ========================================================== what is meant

/-- The part of a second that a fraction is. -/
def Fraction.exact : Fraction → ℚ
  | absent => 0
  | @point more numeral => numeral.value / tenTo (more + 1)

namespace Spelling

/-- The date and the time exist, and the clock is less than a day off. -/
structure Occurs (s : Spelling) : Prop where
  date : s.date.Occurs
  hour : s.hour.value < 24
  minute : s.minute.value < 60
  second : s.second.value < 60
  zone : s.zone.size < 24 * 60

/-- The seconds in UTC from the start of year 1 to the time that is spelt. -/
def moment (s : Spelling) : ℚ :=
  ((s.date.elapsed * 24 + s.hour.value) * 60 + s.minute.value)
    * 60 + s.second.value + s.fraction.exact - 60 * s.zone.ahead

end Spelling

/-- A moment in the years 1 to 9999. -/
def InCalendar (moment : ℚ) : Prop :=
  0 ≤ moment
    ∧ moment < 86400 * (∑ year ∈ Finset.Ico 1 10000, Date.yearLength year : Nat)

-- ============================================================ the fraction

/-- The microseconds that are read are the quotient of the fraction. -/
theorem fractionMicros_eq {digits : List Char}
    (h : ∀ c ∈ digits, isDigit c = true) :
    fractionMicros digits
      = ofDigits digits * tenTo 6 / tenTo digits.length := by
  unfold fractionMicros
  rw [ofDigits_append, ofDigits_replicate_zero, List.length_replicate,
    Nat.add_zero]
  -- short fractions are filled up with zeros, and long ones are cut
  by_cases hshort : digits.length ≤ 6
  · have hpower : tenTo 6
        = tenTo (6 - digits.length) * tenTo digits.length := by
      rw [← tenTo_add, Nat.sub_add_cancel hshort]
    rw [List.take_of_length_le hshort, hpower, ← Nat.mul_assoc,
      Nat.mul_div_cancel _ (tenTo_pos _), Nat.mul_comm]
  · have hlong : 6 ≤ digits.length := Nat.le_of_not_le hshort
    have hpower : tenTo digits.length
        = tenTo (digits.length - 6) * tenTo 6 := by
      rw [← tenTo_add, Nat.sub_add_cancel hlong]
    have hrest : ofDigits (digits.drop 6) < tenTo (digits.length - 6) := by
      rw [← List.length_drop]
      exact ofDigits_lt fun c hc => h c (List.mem_of_mem_drop hc)
    have hsplit : ofDigits digits
        = tenTo (digits.length - 6) * ofDigits (digits.take 6)
          + ofDigits (digits.drop 6) := by
      rw [← List.length_drop, ← ofDigits_append, List.take_append_drop]
    rw [Nat.sub_eq_zero_of_le hlong, hpower,
      Nat.mul_div_mul_right _ _ (tenTo_pos 6), hsplit,
      Nat.mul_add_div (tenTo_pos _), Nat.div_eq_of_lt hrest, Nat.add_zero]
    exact Nat.one_mul _

/-- A fraction is cut to its microseconds. -/
theorem Fraction.micros_le (fraction : Fraction) :
    (fraction.micros : ℚ) ≤ fraction.exact * 1000000
      ∧ fraction.exact * 1000000 < fraction.micros + 1 := by
  cases fraction with
  | absent => norm_num [micros, exact]
  | @point more numeral =>
      have hmicros : (point numeral).micros
          = numeral.value * 1000000 / tenTo (more + 1) := by
        rw [micros, fractionMicros_eq numeral.isDigit_of_mem, numeral.length_eq]
        rfl
      have hpos : (0 : ℚ) < tenTo (more + 1) := by exact_mod_cast tenTo_pos _
      have hexact : (point numeral).exact * 1000000
          = ((numeral.value * 1000000 : Nat) : ℚ) / tenTo (more + 1) := by
        rw [exact]
        push_cast
        ring
      rw [hmicros, hexact, le_div_iff₀ hpos, div_lt_iff₀ hpos]
      constructor
      · exact_mod_cast Nat.div_mul_le_self _ _
      · exact_mod_cast Nat.lt_mul_of_div_lt (Nat.lt_succ_self _) (tenTo_pos _)

/-- A fraction is less than a second. -/
theorem Fraction.micros_lt (fraction : Fraction) :
    fraction.micros < 1000000 := by
  cases fraction with
  | absent => exact Nat.zero_lt_succ _
  | @point more numeral =>
      rw [micros, fractionMicros_eq numeral.isDigit_of_mem,
        Nat.div_lt_iff_lt_mul (tenTo_pos _), Nat.mul_comm]
      exact Nat.mul_lt_mul_of_pos_left (ofDigits_lt numeral.isDigit_of_mem)
        (tenTo_pos 6)

-- ============================================================== the moment

/-- The size of an offset does not depend on its side. -/
theorem Zone.natAbs_ahead (zone : Zone) : zone.ahead.natAbs = zone.size := by
  cases zone with
  | utc => rfl
  | clock sign h hours minutes =>
      rw [Zone.ahead]
      split
      case isTrue => exact Int.natAbs_neg _
      case isFalse => rfl

namespace Spelling

variable {s : Spelling}

/-- The microseconds that are counted for a spelling. -/
def count (s : Spelling) : Int :=
  s.reading.time.micros - s.reading.offset * 60 * microsPerSecond

/-- What is checked of a reading is that the time exists. -/
theorem isValid_iff :
    (s.reading.offset.natAbs < 24 * 60 ∧ s.reading.time.isValid = true)
      ↔ s.Occurs := by
  have hzone : s.reading.offset.natAbs = s.zone.size := s.zone.natAbs_ahead
  rw [hzone, LocalTime.isValid_iff]
  constructor
  · rintro ⟨hzone, hdate, hhour, hminute, hsecond, -⟩
    exact ⟨hdate, hhour, hminute, hsecond, hzone⟩
  · rintro ⟨hdate, hhour, hminute, hsecond, hzone⟩
    exact ⟨hzone, hdate, hhour, hminute, hsecond, s.fraction.micros_lt⟩

/-- What is counted is the moment that is meant, cut to microseconds. -/
theorem count_le (h : s.date.Occurs) :
    (s.count : ℚ) ≤ s.moment * 1000000 ∧ s.moment * 1000000 < s.count + 1 := by
  obtain ⟨hle, hlt⟩ := s.fraction.micros_le
  have hcount : (s.count : ℚ)
      = (s.moment - s.fraction.exact) * 1000000 + s.fraction.micros := by
    unfold count moment
    simp only [reading, LocalTime.micros, Date.day_eq_elapsed h,
      microsPerSecond]
    push_cast
    ring
  rw [hcount]
  constructor
  · linarith
  · linarith

/-- The instant of the count is the one that the moment is cut to. -/
theorem ofMicros?_count_eq_some_iff (h : s.date.Occurs) {instant : Instant} :
    Instant.ofMicros? s.count = some instant ↔ instant.IsCutOf s.moment := by
  obtain ⟨hle, hlt⟩ := count_le h
  rw [Instant.ofMicros?_eq_some_iff]
  constructor
  · intro hmicros
    have hcast : (instant.micros : ℚ) = s.count := by exact_mod_cast hmicros
    rw [Instant.IsCutOf, hcast]
    exact ⟨hle, hlt⟩
  · rintro ⟨hle', hlt'⟩
    have hbelow : (instant.micros : Int) < s.count + 1 := by
      exact_mod_cast lt_of_le_of_lt hle' hlt
    have habove : s.count < instant.micros + 1 := by
      exact_mod_cast lt_of_le_of_lt hle hlt'
    omega

/-- The bounds of the calendar are whole microseconds, and so a moment is on the
same side of them as what it is cut to. -/
theorem ofMicros?_count_eq_none_iff (h : s.date.Occurs) :
    Instant.ofMicros? s.count = none ↔ ¬ InCalendar s.moment := by
  obtain ⟨hle, hlt⟩ := count_le h
  have hend : ((3652059 * microsPerDay : Nat) : ℚ)
      = 86400 * (3652059 : Nat) * 1000000 := by
    norm_num [microsPerDay, microsPerSecond]
  rw [Instant.ofMicros?_eq_none_iff, InCalendar, Date.sum_yearLength,
    not_and_or, not_le, not_lt]
  constructor
  · rintro (hbefore | hafter)
    · have hneg : (s.count : ℚ) + 1 ≤ 0 := by exact_mod_cast hbefore
      exact .inl (by linarith)
    · have hge : ((3652059 * microsPerDay : Nat) : ℚ) ≤ s.count := by
        exact_mod_cast hafter
      rw [hend] at hge
      exact .inr (by linarith)
  · rintro (hbefore | hafter)
    · have hneg : (s.count : ℚ) < 0 := by linarith
      exact .inl (by exact_mod_cast hneg)
    · have hgt : ((3652059 * microsPerDay : Nat) : ℚ) < s.count + 1 := by
        rw [hend]
        linarith
      have hgt' : ((3652059 * microsPerDay : Nat) : Int) < s.count + 1 := by
        exact_mod_cast hgt
      exact .inr (by omega)

end Spelling

-- ============================================================= the reading

section

variable {s : Spelling} {text : String}

/-- What is read off a text that is spelt so. -/
theorem parse_chars (h : s.chars = text.toList) :
    parse text =
      if s.reading.offset.natAbs < 24 * 60 ∧ s.reading.time.isValid = true then
        match Instant.ofMicros? s.count with
        | none => .error .outOfRange
        | some instant => .ok instant
      else .error .malformed := by
  rw [parse, ← h, scan?_chars]
  rfl

/-- A text of the form is malformed if the time that it names does not
exist. -/
theorem parse_eq_malformed_iff (h : s.chars = text.toList) :
    parse text = .error .malformed ↔ ¬ s.Occurs := by
  rw [parse_chars h]
  by_cases hoccurs : s.Occurs
  · rw [if_pos (Spelling.isValid_iff.2 hoccurs)]
    cases Instant.ofMicros? s.count with
    | none => simp [hoccurs]
    | some instant => simp [hoccurs]
  · rw [if_neg (mt Spelling.isValid_iff.1 hoccurs)]
    simp [hoccurs]

/-- It is read as the instant that its moment is cut to. -/
theorem parse_eq_ok_iff (h : s.chars = text.toList) {instant : Instant} :
    parse text = .ok instant ↔ s.Occurs ∧ instant.IsCutOf s.moment := by
  rw [parse_chars h]
  by_cases hoccurs : s.Occurs
  · rw [if_pos (Spelling.isValid_iff.2 hoccurs),
      ← Spelling.ofMicros?_count_eq_some_iff hoccurs.date]
    cases Instant.ofMicros? s.count with
    | none => simp
    | some found => simp [hoccurs]
  · rw [if_neg (mt Spelling.isValid_iff.1 hoccurs)]
    simp [hoccurs]

/-- It is accepted if the moment is in the calendar. -/
theorem parse_accepts_iff (h : s.chars = text.toList) :
    (∃ instant, parse text = .ok instant) ↔ s.Occurs ∧ InCalendar s.moment := by
  rw [parse_chars h]
  by_cases hoccurs : s.Occurs
  · have hnone := Spelling.ofMicros?_count_eq_none_iff hoccurs.date
    rw [if_pos (Spelling.isValid_iff.2 hoccurs)]
    cases hcount : Instant.ofMicros? s.count with
    | none => simp [hnone.1 hcount]
    | some found =>
        rw [hcount] at hnone
        simpa [hoccurs] using hnone
  · rw [if_neg (mt Spelling.isValid_iff.1 hoccurs)]
    simp [hoccurs]

/-- And out of range if it is not. -/
theorem parse_leaves_iff (h : s.chars = text.toList) :
    parse text = .error .outOfRange ↔ s.Occurs ∧ ¬ InCalendar s.moment := by
  rw [parse_chars h]
  by_cases hoccurs : s.Occurs
  · rw [if_pos (Spelling.isValid_iff.2 hoccurs),
      ← Spelling.ofMicros?_count_eq_none_iff hoccurs.date]
    cases Instant.ofMicros? s.count with
    | none => simp [hoccurs]
    | some found => simp
  · rw [if_neg (mt Spelling.isValid_iff.1 hoccurs)]
    simp [hoccurs]

/-- A text that is not malformed is of the form. -/
theorem exists_spelling_of_parse (h : parse text ≠ .error .malformed) :
    ∃ s : Spelling, s.chars = text.toList := by
  cases hscan : scan? text.toList with
  | none =>
      rw [parse, hscan] at h
      exact absurd rfl h
  | some reading =>
      obtain ⟨s, hs, -⟩ := exists_spelling hscan
      exact ⟨s, hs⟩

end

/-- A timestamp is accepted exactly if it is spelt of such parts, names a time
that exists and lies in the calendar in UTC; it is read as the moment it means,
cut to microseconds. If only the calendar is left it is out of range, and
otherwise it is malformed. -/
theorem parse_exact (text : String) :
    ((∃ instant, parse text = .ok instant)
        ↔ ∃ s : Spelling, s.chars = text.toList ∧ s.Occurs
            ∧ InCalendar s.moment)
      ∧ (∀ (s : Spelling) (instant : Instant), s.chars = text.toList →
          parse text = .ok instant → instant.IsCutOf s.moment)
      ∧ (parse text = .error .outOfRange
        ↔ ∃ s : Spelling, s.chars = text.toList ∧ s.Occurs
            ∧ ¬ InCalendar s.moment)
      ∧ (parse text = .error .malformed
        ↔ ¬ ∃ s : Spelling, s.chars = text.toList ∧ s.Occurs) := by
  refine ⟨⟨?_, ?_⟩, ?_, ⟨?_, ?_⟩, ⟨?_, ?_⟩⟩
  · rintro ⟨instant, hok⟩
    obtain ⟨s, hs⟩ := exists_spelling_of_parse (by rw [hok]; nofun)
    exact ⟨s, hs, (parse_accepts_iff hs).1 ⟨instant, hok⟩⟩
  · rintro ⟨s, hs, hmeant⟩
    exact (parse_accepts_iff hs).2 hmeant
  · intro s instant hs hok
    exact ((parse_eq_ok_iff hs).1 hok).2
  · intro hrange
    obtain ⟨s, hs⟩ := exists_spelling_of_parse (by rw [hrange]; nofun)
    exact ⟨s, hs, (parse_leaves_iff hs).1 hrange⟩
  · rintro ⟨s, hs, hleaves⟩
    exact (parse_leaves_iff hs).2 hleaves
  · rintro hmalformed ⟨s, hs, hoccurs⟩
    exact (parse_eq_malformed_iff hs).1 hmalformed hoccurs
  · intro hnone
    -- what is not malformed is of the form, and then the time does not
    -- exist by itself
    by_contra hne
    obtain ⟨s, hs⟩ := exists_spelling_of_parse hne
    exact hne ((parse_eq_malformed_iff hs).2 fun hoccurs =>
      hnone ⟨s, hs, hoccurs⟩)

/-- Any two digits of minutes are an offset, and the seventh digit of
the fraction is dropped. -/
example : parse "2024-03-01T00:00:00.1234569+00:99"
    = .ok ⟨63844842060123456, by decide⟩ := by rfl

end Timestamp

end StatelessAuth
