/-
The form of timestamps is prefix-free: no text of the form begins another
one (`eq_nil_of_scan?_append`), and neither does a text that is written
for an instant, whose year may have less than four digits
(`formatChars_eq_of_isPrefix`).

# Why nothing can follow

Each reader of `scan?` takes a number of characters that the text itself
determines, so that a text with more behind it is read the same way up to
the offset (the lemmas `.._append`). The one reader that takes as much as
it can is that of the fraction; it is stopped by the first character of
the offset, which is no digit. The offset ends the text, and its length is
given by its first character.
-/
import Mathlib.Data.Option.Basic
import StatelessAuth.Proofs.Calendar.Instant
import StatelessAuth.Proofs.Text.Digits
import StatelessAuth.Timestamp

namespace StatelessAuth.Timestamp

open Text

-- ======================================================= what follows

/-- A character is skipped whatever comes behind the text. -/
theorem skip?_append {inClass : Char → Bool} {text rest : List Char}
    (h : skip? inClass text = some rest) (more : List Char) :
    skip? inClass (text ++ more) = some (rest ++ more) := by
  cases text with
  | nil => cases h
  | cons c text =>
      rw [skip?] at h
      split at h
      case isFalse => cases h
      case isTrue hc =>
        cases h
        rw [List.cons_append, skip?, if_pos hc]

/-- It is one character. -/
theorem length_of_skip? {inClass : Char → Bool} {text rest : List Char}
    (h : skip? inClass text = some rest) : text.length = rest.length + 1 := by
  cases text with
  | nil => cases h
  | cons c text =>
      rw [skip?] at h
      split at h
      case isFalse => cases h
      case isTrue =>
        cases h
        rfl

/-- Without a point there is no fraction. -/
theorem takeFraction?_of_ne {c : Char} (h : c ≠ '.') (rest : List Char) :
    takeFraction? (c :: rest) = some (0, c :: rest) := by
  unfold takeFraction?
  split
  case h_1 heq =>
    injection heq with hc
    exact absurd hc h
  case h_2 => rfl

/-- A fraction goes as far as the digits do. -/
theorem takeFraction?_point {digits : List Char} {c : Char} (hne : digits ≠ [])
    (hdigits : ∀ c ∈ digits, isDigit c = true) (hc : isDigit c = false)
    (rest : List Char) :
    takeFraction? ('.' :: (digits ++ c :: rest))
      = some (fractionMicros digits, c :: rest) := by
  have htake : (digits ++ c :: rest).takeWhile isDigit = digits := by
    rw [List.takeWhile_append_of_pos hdigits,
      List.takeWhile_cons_of_neg (by simp [hc]), List.append_nil]
  have hdrop : (digits ++ c :: rest).dropWhile isDigit = c :: rest := by
    rw [List.dropWhile_append_of_pos hdigits,
      List.dropWhile_cons_of_neg (by simp [hc])]
  unfold takeFraction?
  simp only
  rw [htake, hdrop, if_neg hne]

/-- What follows a fraction does not matter to it, if the fraction was not
ended by the end of the text. -/
theorem takeFraction?_append {text rest : List Char} {c : Char} {micros : Nat}
    (h : takeFraction? text = some (micros, c :: rest)) (more : List Char) :
    takeFraction? (text ++ more) = some (micros, c :: rest ++ more) := by
  cases text with
  | nil => cases h
  | cons d text =>
      by_cases hd : d = '.'
      · subst hd
        rw [List.cons_append]
        unfold takeFraction? at h ⊢
        simp only at h ⊢
        split at h
        case isTrue => cases h
        case isFalse hne =>
          injection h with h
          injection h with hmicros hrest
          -- the digits end before the text does
          have hshort : (text.takeWhile isDigit).length ≠ text.length := by
            intro hall
            have := congrArg List.length
              (List.takeWhile_append_dropWhile (p := isDigit) (l := text))
            rw [List.length_append, hrest, List.length_cons] at this
            omega
          have htake : (text ++ more).takeWhile isDigit
              = text.takeWhile isDigit := by
            rw [List.takeWhile_append, if_neg hshort]
          have hdrop : (text ++ more).dropWhile isDigit
              = c :: rest ++ more := by
            rw [List.dropWhile_append, hrest]
            rfl
          rw [htake, hdrop, if_neg hne, hmicros]
      · rw [takeFraction?_of_ne hd] at h
        injection h with h
        injection h with hmicros hrest
        injection hrest with hcd htext
        rw [List.cons_append, takeFraction?_of_ne hd, hmicros, hcd, htext]
        rfl

/-- An offset is one letter, or a sign and five more characters. -/
theorem shape_of_readOffset? {text : List Char} {offset : Int}
    (h : readOffset? text = some offset) :
    ∃ c rest, text = c :: rest
      ∧ ((c = 'Z' ∨ c = 'z') ∧ rest.length = 0
        ∨ (c = '+' ∨ c = '-') ∧ rest.length = 5) := by
  unfold readOffset? at h
  split at h
  case h_1 => exact ⟨'Z', [], rfl, Or.inl ⟨Or.inl rfl, rfl⟩⟩
  case h_2 => exact ⟨'z', [], rfl, Or.inl ⟨Or.inr rfl, rfl⟩⟩
  case h_4 => cases h
  case h_3 sign rest _ _ =>
    simp only [Option.bind_eq_bind, Option.bind_eq_some_iff,
      Option.guard_eq_some'] at h
    obtain ⟨-, hsign, ⟨hours, afterHours⟩, hhours, afterColon, hcolon,
      ⟨minutes, afterMinutes⟩, hminutes, -, hend, -⟩ := h
    obtain ⟨_, hlength, -, rfl, -⟩ := takeDigits?_eq_some_iff.1 hhours
    obtain ⟨_, hlength', -, rfl, -⟩ := takeDigits?_eq_some_iff.1 hminutes
    have hrest : afterMinutes = [] := hend
    have hskip : afterHours.length = _ := length_of_skip? hcolon
    refine ⟨sign, _, rfl, Or.inr ⟨hsign, ?_⟩⟩
    rw [List.length_append, hlength, hskip, hrest, List.append_nil, hlength']

/-- What ends a text as its offset is not an offset with more behind it. -/
theorem eq_nil_of_readOffset?_append {text more : List Char}
    {offset other : Int} (h : readOffset? text = some offset)
    (h' : readOffset? (text ++ more) = some other) : more = [] := by
  obtain ⟨c, rest, rfl, hshape⟩ := shape_of_readOffset? h
  obtain ⟨c', rest', heq, hshape'⟩ := shape_of_readOffset? h'
  rw [List.cons_append] at heq
  injection heq with hc hrest
  subst hc
  subst hrest
  apply List.eq_nil_of_length_eq_zero
  rw [List.length_append] at hshape'
  -- a letter is no sign, so that both shapes are the same one
  rcases hshape with ⟨hletter, hlength⟩ | ⟨hsign, hlength⟩
  · rcases hshape' with ⟨-, hlength'⟩ | ⟨hsign, -⟩
    · omega
    · rcases hletter with rfl | rfl <;> rcases hsign with h | h <;> cases h
  · rcases hshape' with ⟨hletter, -⟩ | ⟨-, hlength'⟩
    · rcases hletter with rfl | rfl <;> rcases hsign with h | h <;> cases h
    · omega

-- ========================================================= prefix-free

/-- A text that is accepted as a timestamp is of the form. -/
theorem scan?_of_parse {text : String} {instant : Instant}
    (h : parse text = .ok instant) :
    ∃ reading, scan? text.toList = some reading := by
  unfold parse at h
  split at h
  case h_1 => cases h
  case h_2 reading hscan => exact ⟨reading, hscan⟩

/-- The text names an existing time that, in UTC, is outside the years 1 to
9999. -/
def LeavesCalendar (text : String) : Prop :=
  ∃ reading, scan? text.toList = some reading
    ∧ reading.offset.natAbs < 24 * 60 ∧ reading.time.isValid = true
    ∧ ((reading.time.micros : Int) < reading.offset * 60 * microsPerSecond
      ∨ (3652059 * microsPerDay : Nat)
        ≤ reading.time.micros - reading.offset * 60 * microsPerSecond)

/-- These texts are the ones that are out of range. -/
theorem parse_eq_outOfRange_iff {text : String} :
    parse text = .error .outOfRange ↔ LeavesCalendar text := by
  unfold parse LeavesCalendar
  cases hscan : scan? text.toList with
  | none => simp
  | some reading =>
      simp only [Option.some.injEq, exists_eq_left']
      by_cases hexists : reading.offset.natAbs < 24 * 60
        ∧ reading.time.isValid = true
      · have hrange : (reading.time.micros : Int)
              - reading.offset * 60 * microsPerSecond < 0
            ↔ (reading.time.micros : Int)
              < reading.offset * 60 * microsPerSecond := by omega
        rw [if_pos hexists, ← hrange, ← Instant.ofMicros?_eq_none_iff,
          ← LocalTime.toInstant?]
        cases hinstant :
            reading.time.toInstant? (reading.offset * 60 * microsPerSecond) with
        | none => simp [hexists]
        | some instant => simp
      · rw [if_neg hexists]
        constructor
        · intro h
          cases h
        · intro h
          obtain ⟨hoffset, htime, -⟩ := h
          exact absurd ⟨hoffset, htime⟩ hexists

/-- A text of the form is not of the form any more with something behind
it. -/
theorem eq_nil_of_scan?_append {text more : List Char} {reading other : Reading}
    (h : scan? text = some reading) (h' : scan? (text ++ more) = some other) :
    more = [] := by
  unfold scan? at h
  simp only [Option.bind_eq_bind, Option.bind_eq_some_iff] at h
  obtain ⟨⟨year, t1⟩, h1, t2, h2, ⟨month, t3⟩, h3, t4, h4,
    ⟨dayOfMonth, t5⟩, h5, t6, h6, ⟨hour, t7⟩, h7, t8, h8, ⟨minute, t9⟩, h9,
    t10, h10, ⟨second, t11⟩, h11, ⟨microsecond, t12⟩, h12, offset, h13, -⟩ := h
  -- up to the offset nothing behind the text is seen, and the offset
  -- has a length of its own
  obtain ⟨c, rest, rfl, -⟩ := shape_of_readOffset? h13
  unfold scan? at h'
  simp only [Option.bind_eq_bind, Option.bind_some, takeDigits?_append h1,
    skip?_append h2, takeDigits?_append h3, skip?_append h4,
    takeDigits?_append h5, skip?_append h6, takeDigits?_append h7,
    skip?_append h8, takeDigits?_append h9, skip?_append h10,
    takeDigits?_append h11, takeFraction?_append h12] at h'
  obtain ⟨other, h', -⟩ := Option.bind_eq_some_iff.1 h'
  exact eq_nil_of_readOffset?_append h13 h'

end StatelessAuth.Timestamp
