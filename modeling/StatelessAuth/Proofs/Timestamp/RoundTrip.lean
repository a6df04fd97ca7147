/-
What is written for an instant is read as that instant, from the year 1000
on (`parse_format`). Before that year the text has less than four digits
of a year and is not of the form (`parse_format_eq`), but it is still told
apart from every text that is: no text of the form begins it or is begun by
it (`formatChars_eq_of_isPrefix`).
-/
import StatelessAuth.Proofs.Calendar.Count
import StatelessAuth.Proofs.Timestamp.Scan

namespace StatelessAuth.Timestamp

open Text

-- ========================================================= round trip

theorem skip?_cons {inClass : Char → Bool} {c : Char} (h : inClass c = true)
    (rest : List Char) : skip? inClass (c :: rest) = some rest := by
  rw [skip?, if_pos h]

/-- Six digits are read as the microseconds that they were written
for. -/
theorem takeFraction?_padded {c : Char} (hc : isDigit c = false) (micros : Nat)
    (rest : List Char) :
    takeFraction? ('.' :: (padded 6 micros ++ c :: rest))
      = some (micros % tenTo 6, c :: rest) := by
  have hne : padded 6 micros ≠ [] :=
    List.ne_nil_of_length_eq_add_one (length_padded 6 micros)
  have hmicros : fractionMicros (padded 6 micros) = micros % tenTo 6 := by
    rw [fractionMicros, length_padded,
      List.take_of_length_le (Nat.le_of_eq (length_padded 6 micros)),
      ← ofDigits_padded]
    simp
  rw [takeFraction?_point hne isDigit_of_mem_padded hc, hmicros]

/-- The time of a clock in UTC is read as it was written. -/
theorem scan?_formatChars {t : LocalTime} (hvalid : t.isValid = true)
    (hyear : 1000 ≤ t.date.year) : scan? (formatChars t) = some ⟨t, 0⟩ := by
  obtain ⟨hdate, hhour, hminute, hsecond, hmicrosecond⟩ :=
    LocalTime.isValid_iff.1 hvalid
  have hyear' := hdate.year.2
  have hmonth := hdate.month.2
  have hday := hdate.dayOfMonth_le
  unfold scan? formatChars
  rw [decimal_eq_padded hyear hyear']
  simp only [List.append_assoc, List.cons_append, Option.bind_eq_bind,
    Option.bind_some, takeDigits?_padded, skip?_cons, BEq.rfl, Bool.true_or]
  -- every part fits its width, so that nothing is cut off it
  have htwo : tenTo 2 = 100 := rfl
  have hfour : tenTo 4 = 10000 := rfl
  have hsix : tenTo 6 = 1000000 := rfl
  rw [takeFraction?_padded (by decide), htwo, hfour, hsix,
    Nat.mod_eq_of_lt (a := t.date.year) (by omega),
    Nat.mod_eq_of_lt (a := t.date.month) (by omega),
    Nat.mod_eq_of_lt (a := t.date.dayOfMonth) (by omega),
    Nat.mod_eq_of_lt (a := t.hour) (by omega),
    Nat.mod_eq_of_lt (a := t.minute) (by omega),
    Nat.mod_eq_of_lt (a := t.second) (by omega),
    Nat.mod_eq_of_lt (a := t.microsecond) (by omega)]
  rfl

/-- An instant from the year 1000 on is read back from its text. -/
theorem parse_format {t : Instant} (h : 1000 ≤ t.year) :
    parse (format t) = .ok t := by
  rw [Instant.year] at h
  have hvalid := LocalTime.isValid_ofInstant t
  have hscan : scan? (format t).toList = some ⟨LocalTime.ofInstant t, 0⟩ := by
    rw [format, String.toList_ofList]
    exact scan?_formatChars hvalid h
  have hinstant :
      (LocalTime.ofInstant t).toInstant? (0 * 60 * microsPerSecond)
        = some t := by
    rw [Int.zero_mul, Int.zero_mul]
    exact LocalTime.toInstant?_ofInstant t
  rw [parse, hscan]
  simp only
  rw [if_pos ⟨by decide, hvalid⟩, hinstant]

theorem format_ne_empty (t : Instant) : format t ≠ "" := by
  intro h
  have hchars := congrArg String.toList h
  rw [format, String.toList_ofList] at hchars
  simp [formatChars] at hchars

-- ============================================== told apart from others

/-- A text of the form begins with four digits. -/
theorem isDigit_of_scan? {text : List Char} {reading : Reading}
    (h : scan? text = some reading) :
    4 ≤ text.length ∧ ∀ c ∈ text.take 4, isDigit c = true := by
  unfold scan? at h
  obtain ⟨⟨year, rest⟩, hyear, -⟩ := Option.bind_eq_some_iff.1 h
  obtain ⟨digits, hlength, hdigits, rfl, -⟩ := takeDigits?_eq_some_iff.1 hyear
  rw [List.take_left' hlength, List.length_append, hlength]
  exact ⟨Nat.le_add_right .., hdigits⟩

/-- The text of a year before 1000 has a hyphen among its first four
characters. -/
theorem hyphen_mem_formatChars {t : LocalTime} (h : t.date.year < 1000) :
    4 ≤ (formatChars t).length ∧ '-' ∈ (formatChars t).take 4 := by
  have hshort := length_decimal_lt h
  have hpos : 0 < (decimal t.date.year).length := Nat.length_toDigits_pos
  unfold formatChars
  simp only [List.append_assoc, List.cons_append]
  constructor
  · simp only [List.length_append, List.length_cons, length_padded]
    omega
  · rw [List.take_append, List.mem_append]
    right
    rw [show 4 - (decimal t.date.year).length
      = (3 - (decimal t.date.year).length) + 1 by omega, List.take_succ_cons]
    exact List.mem_cons_self ..

/-- The text of a year before 1000 is of no form that is read. -/
theorem scan?_formatChars_of_lt {t : LocalTime} (h : t.date.year < 1000) :
    scan? (formatChars t) = none := by
  cases hscan : scan? (formatChars t) with
  | none => rfl
  | some reading =>
      obtain ⟨-, hmem⟩ := hyphen_mem_formatChars h
      exact absurd ((isDigit_of_scan? hscan).2 _ hmem) (by decide)

/-- What is read off the text of an instant. -/
theorem parse_format_eq (t : Instant) :
    parse (format t) = if 1000 ≤ t.year then .ok t else .error .malformed := by
  split
  case isTrue hyear => exact parse_format hyear
  case isFalse hyear =>
    rw [Instant.year] at hyear
    rw [parse, format, String.toList_ofList,
      scan?_formatChars_of_lt (Nat.lt_of_not_le hyear)]

/-- If one text begins the other, they begin alike. -/
private theorem take_eq_of_isPrefix {count : Nat} {a b : List Char}
    (ha : count ≤ a.length) (hb : count ≤ b.length) (h : a <+: b ∨ b <+: a) :
    a.take count = b.take count := by
  rcases h with ⟨more, rfl⟩ | ⟨more, rfl⟩
  · rw [List.take_append_of_le_length ha]
  · rw [List.take_append_of_le_length hb]

/-- The text of an instant and a text of the form are the same, if one of
them begins the other. -/
theorem formatChars_eq_of_isPrefix {t : Instant} {text : List Char}
    {reading : Reading} (h : scan? text = some reading)
    (hbegins : formatChars (LocalTime.ofInstant t) <+: text
      ∨ text <+: formatChars (LocalTime.ofInstant t)) :
    formatChars (LocalTime.ofInstant t) = text := by
  by_cases hyear : (LocalTime.ofInstant t).date.year < 1000
  · -- a hyphen stands where the other text has a digit
    obtain ⟨hlength, hmem⟩ := hyphen_mem_formatChars hyear
    obtain ⟨hlength', hdigits⟩ := isDigit_of_scan? h
    rw [take_eq_of_isPrefix hlength hlength' hbegins] at hmem
    exact absurd (hdigits _ hmem) (by decide)
  · have hscan := scan?_formatChars (LocalTime.isValid_ofInstant t)
      (Nat.le_of_not_lt hyear)
    rcases hbegins with ⟨more, rfl⟩ | ⟨more, heq⟩
    · rw [eq_nil_of_scan?_append hscan h, List.append_nil]
    · rw [← heq] at hscan ⊢
      rw [eq_nil_of_scan?_append h hscan, List.append_nil]

end StatelessAuth.Timestamp
