/-
The form of a timestamp, said as what it is made of and not as how it is
read: rows of digits with marks between them, a fraction or none, and at
the end a letter or an offset (`Spelling`). The parts carry that they are
what they should be, so that every spelling is of the form
(`scan?_chars`), and a text of the form is that of a spelling
(`exists_spelling`).

Each part is read off the front of a text whatever follows it. Only the fraction
has to know what comes next, since its digits end where no digit follows; that
is so because every zone begins with a mark that is no digit and no point
(`Zone.exists_mark`).
-/
import Mathlib.Data.List.TakeWhile
import StatelessAuth.Proofs.Timestamp.RoundTrip

namespace StatelessAuth.Timestamp

open Text

-- =========================================================== the parts

/-- A row of so many ASCII digits. -/
structure Numeral (width : Nat) where
  digits : List Char
  length_eq : digits.length = width
  isDigit_of_mem : ∀ c ∈ digits, isDigit c = true

/-- The number that a row of digits writes. -/
def Numeral.value {width : Nat} (numeral : Numeral width) : Nat :=
  ofDigits numeral.digits

/-- Nothing, or a point with one digit and as many more as there are. -/
inductive Fraction
  | absent
  | point {more : Nat} (numeral : Numeral (more + 1))

def Fraction.chars : Fraction → List Char
  | absent => []
  | point numeral => '.' :: numeral.digits

/-- The microseconds of a fraction, as they are read. -/
def Fraction.micros : Fraction → Nat
  | absent => 0
  | point numeral => fractionMicros numeral.digits

/-- How a timestamp ends. -/
inductive Zone
  /-- A letter for UTC. -/
  | utc (letter : Char) (h : letter = 'Z' ∨ letter = 'z')
  /-- A sign, and by how much the clock is ahead of UTC or behind it. -/
  | clock (sign : Char) (h : sign = '+' ∨ sign = '-')
      (hours minutes : Numeral 2)

/-- The minutes by which the clock is off. -/
def Zone.size : Zone → Nat
  | utc .. => 0
  | clock _ _ hours minutes => hours.value * 60 + minutes.value

/-- The minutes by which the clock is ahead of UTC. -/
def Zone.ahead (zone : Zone) : Int :=
  match zone with
  | utc .. => 0
  | clock sign .. => if sign = '-' then -zone.size else zone.size

def Zone.chars : Zone → List Char
  | utc letter _ => [letter]
  | clock sign _ hours minutes =>
    sign :: (hours.digits ++ ':' :: minutes.digits)

/-- A timestamp, part by part. -/
structure Spelling where
  year : Numeral 4
  month : Numeral 2
  dayOfMonth : Numeral 2
  mark : Char
  mark_eq : mark = 'T' ∨ mark = 't'
  hour : Numeral 2
  minute : Numeral 2
  second : Numeral 2
  fraction : Fraction
  zone : Zone

namespace Spelling

def date (s : Spelling) : Date :=
  ⟨s.year.value, s.month.value, s.dayOfMonth.value⟩

def chars (s : Spelling) : List Char :=
  s.year.digits ++ '-' :: (s.month.digits ++ '-' :: (s.dayOfMonth.digits
    ++ s.mark :: (s.hour.digits
      ++ ':' :: (s.minute.digits ++ ':' :: (s.second.digits
        ++ (s.fraction.chars ++ s.zone.chars))))))

/-- What is read off the text. -/
def reading (s : Spelling) : Reading :=
  ⟨⟨s.date, s.hour.value, s.minute.value, s.second.value, s.fraction.micros⟩,
    s.zone.ahead⟩

end Spelling

-- ====================================================== reading a part

variable {text rest : List Char}

theorem Numeral.takeDigits?_append {width : Nat} (numeral : Numeral width)
    (rest : List Char) :
    takeDigits? width (numeral.digits ++ rest) = some (numeral.value, rest) :=
  takeDigits?_eq_some_iff.2
    ⟨numeral.digits, numeral.length_eq, numeral.isDigit_of_mem, rfl, rfl⟩

/-- What is taken off as digits is a row of them. -/
theorem exists_numeral {width number : Nat}
    (h : takeDigits? width text = some (number, rest)) :
    ∃ numeral : Numeral width, numeral.digits ++ rest = text
      ∧ numeral.value = number := by
  obtain ⟨digits, hlength, hdigits, rfl, rfl⟩ := takeDigits?_eq_some_iff.1 h
  exact ⟨⟨digits, hlength, hdigits⟩, rfl, rfl⟩

/-- What is skipped is one character of the class. -/
theorem exists_of_skip? {inClass : Char → Bool}
    (h : skip? inClass text = some rest) :
    ∃ c, inClass c = true ∧ c :: rest = text := by
  cases text with
  | nil => cases h
  | cons c text =>
      rw [skip?] at h
      split at h
      case isFalse => cases h
      case isTrue hc =>
        cases h
        exact ⟨c, hc, rfl⟩

theorem eq_cons_of_skip? {mark : Char}
    (h : skip? (· == mark) text = some rest) : text = mark :: rest := by
  obtain ⟨c, hc, rfl⟩ := exists_of_skip? h
  rw [beq_iff_eq.1 hc]

/-- A zone begins with a mark that neither goes on with the digits before it nor
begins a fraction. -/
theorem Zone.exists_mark (zone : Zone) :
    ∃ c rest, zone.chars = c :: rest ∧ isDigit c = false ∧ c ≠ '.' := by
  cases zone with
  | utc letter h =>
      refine ⟨letter, [], rfl, ?_⟩
      rcases h with rfl | rfl
      · exact ⟨by decide, by decide⟩
      · exact ⟨by decide, by decide⟩
  | clock sign h hours minutes =>
      refine ⟨sign, hours.digits ++ ':' :: minutes.digits, rfl, ?_⟩
      rcases h with rfl | rfl
      · exact ⟨by decide, by decide⟩
      · exact ⟨by decide, by decide⟩

/-- Every zone is read as the offset that it is. -/
theorem readOffset?_chars (zone : Zone) :
    readOffset? zone.chars = some zone.ahead := by
  cases zone with
  | utc letter h =>
      rcases h with rfl | rfl
      · rfl
      · rfl
  | clock sign h hours minutes =>
      have hminutes := minutes.takeDigits?_append []
      rw [List.append_nil] at hminutes
      rcases h with rfl | rfl
      · simp [Zone.chars, readOffset?, Zone.ahead, Zone.size,
          hours.takeDigits?_append, skip?_cons, hminutes, guard]
      · simp [Zone.chars, readOffset?, Zone.ahead, Zone.size,
          hours.takeDigits?_append, skip?_cons, hminutes, guard]

/-- What is read as an offset is spelt as a zone. -/
theorem exists_zone {offset : Int} (h : readOffset? text = some offset) :
    ∃ zone : Zone, zone.chars = text ∧ zone.ahead = offset := by
  unfold readOffset? at h
  split at h
  case h_1 =>
    cases h
    exact ⟨.utc 'Z' (.inl rfl), rfl, rfl⟩
  case h_2 =>
    cases h
    exact ⟨.utc 'z' (.inr rfl), rfl, rfl⟩
  case h_4 => cases h
  case h_3 sign rest _ _ =>
    simp only [Option.bind_eq_bind, Option.bind_eq_some_iff,
      Option.guard_eq_some'] at h
    obtain ⟨-, hsign, ⟨_, afterHours⟩, hhours, afterColon, hcolon,
      ⟨_, afterMinutes⟩, hminutes, -, rfl, hsize⟩ := h
    obtain ⟨hours, rfl, rfl⟩ := exists_numeral hhours
    obtain rfl := eq_cons_of_skip? hcolon
    obtain ⟨minutes, rfl, rfl⟩ := exists_numeral hminutes
    refine ⟨.clock sign hsign hours minutes, ?_, ?_⟩
    · rw [Zone.chars, List.append_nil]
    · simpa [Zone.ahead, Zone.size] using hsize

/-- A fraction is taken off in front of a zone, whose mark ends it. -/
theorem takeFraction?_chars (fraction : Fraction) (zone : Zone) :
    takeFraction? (fraction.chars ++ zone.chars)
      = some (fraction.micros, zone.chars) := by
  obtain ⟨c, rest, hzone, hdigit, hpoint⟩ := zone.exists_mark
  rw [hzone]
  cases fraction with
  | absent => exact takeFraction?_of_ne hpoint rest
  | point numeral =>
      have hne : numeral.digits ≠ [] :=
        List.ne_nil_of_length_eq_add_one numeral.length_eq
      exact takeFraction?_point hne numeral.isDigit_of_mem hdigit rest

/-- What is taken off as a fraction is spelt as one. -/
theorem exists_fraction {micros : Nat}
    (h : takeFraction? text = some (micros, rest)) :
    ∃ fraction : Fraction, fraction.chars ++ rest = text
      ∧ fraction.micros = micros := by
  unfold takeFraction? at h
  split at h
  case h_2 =>
    cases h
    exact ⟨.absent, rfl, rfl⟩
  case h_1 behind =>
    simp only at h
    split at h
    case isTrue => cases h
    case isFalse hne =>
      cases h
      obtain ⟨more, hmore⟩ :=
        Nat.exists_eq_add_one_of_ne_zero (mt List.length_eq_zero_iff.1 hne)
      refine ⟨.point ⟨behind.takeWhile isDigit, hmore,
        fun _ => List.mem_takeWhile_imp⟩, ?_, rfl⟩
      rw [Fraction.chars, List.cons_append, List.takeWhile_append_dropWhile]

-- ======================================================== the whole text

/-- Every spelling is of the form, and is read part by part. -/
theorem scan?_chars (s : Spelling) : scan? s.chars = some s.reading := by
  have hmark : (s.mark == 'T' || s.mark == 't') = true := by
    simpa using s.mark_eq
  simp only [scan?, Spelling.chars, Option.bind_eq_bind, Option.bind_some,
    Numeral.takeDigits?_append, skip?_cons, BEq.rfl, hmark]
  rw [takeFraction?_chars, Option.bind_some, readOffset?_chars]
  rfl

/-- A text of the form is spelt of such parts. -/
theorem exists_spelling {reading : Reading} (h : scan? text = some reading) :
    ∃ s : Spelling, s.chars = text ∧ s.reading = reading := by
  unfold scan? at h
  simp only [Option.bind_eq_bind, Option.bind_eq_some_iff] at h
  -- each step of the reader gives one part of the spelling
  obtain ⟨⟨_, _⟩, hyear, _, hhyphen, ⟨_, _⟩, hmonth, _, hhyphen', ⟨_, _⟩,
    hday, _, hmark, ⟨_, _⟩, hhour, _, hcolon, ⟨_, _⟩, hminute, _, hcolon',
    ⟨_, _⟩, hsecond, ⟨_, _⟩, hfraction, _, hzone, hreading⟩ := h
  obtain ⟨year, rfl, rfl⟩ := exists_numeral hyear
  obtain rfl := eq_cons_of_skip? hhyphen
  obtain ⟨month, rfl, rfl⟩ := exists_numeral hmonth
  obtain rfl := eq_cons_of_skip? hhyphen'
  obtain ⟨dayOfMonth, rfl, rfl⟩ := exists_numeral hday
  obtain ⟨mark, hletter, rfl⟩ := exists_of_skip? hmark
  obtain ⟨hour, rfl, rfl⟩ := exists_numeral hhour
  obtain rfl := eq_cons_of_skip? hcolon
  obtain ⟨minute, rfl, rfl⟩ := exists_numeral hminute
  obtain rfl := eq_cons_of_skip? hcolon'
  obtain ⟨second, rfl, rfl⟩ := exists_numeral hsecond
  obtain ⟨fraction, rfl, rfl⟩ := exists_fraction hfraction
  obtain ⟨zone, rfl, rfl⟩ := exists_zone hzone
  cases hreading
  simp only [Bool.or_eq_true, beq_iff_eq] at hletter
  exact ⟨⟨year, month, dayOfMonth, mark, hletter, hour, minute, second,
    fraction, zone⟩, rfl, rfl⟩

end StatelessAuth.Timestamp
