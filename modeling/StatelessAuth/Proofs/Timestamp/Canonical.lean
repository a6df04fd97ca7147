/-
Timestamps as names of instants. What is written tells the instant, in whatever
place its clock stood: two times have one timestamp exactly if they are the same
instant (`ZonedTime.format?_faithful`). From the year 1000 on the timestamp is
the canonical form of all the texts that are read as its instant, and canonical
forms are ordered as texts as their instants are in time
(`Timestamp.canonical_orders`).

# Why no two texts are the same

All parts but the year are written in their width, so that equal texts
have equal parts. The year has as many digits as it needs, and a hyphen
ends it, which is no digit; so it is cut off whole, before the year 1000
as after it.

# Why the texts are in order

From the year 1000 on the year has its width, too. Then the texts differ
first where the parts do (`Text.padded_append_lt_iff`), and there the
earlier time has the smaller part (`Instant.lt_iff`). Before the year
1000 there is no such order: the year 999 is behind the year 1000 as a
text.
-/
import StatelessAuth.Proofs.Calendar.Order
import StatelessAuth.Proofs.Text.Split
import StatelessAuth.Proofs.Timestamp.Zoned

namespace StatelessAuth

namespace Timestamp

open Text

-- =============================================================== texts

variable {t t' : LocalTime}

theorem toList_format (instant : Instant) :
    (format instant).toList = formatChars (LocalTime.ofInstant instant) :=
  String.toList_ofList

/-- The parts of a time that exists have room in the widths of their places. -/
structure Fits (t : LocalTime) : Prop where
  year : t.date.year < tenTo 4
  month : t.date.month < tenTo 2
  dayOfMonth : t.date.dayOfMonth < tenTo 2
  hour : t.hour < tenTo 2
  minute : t.minute < tenTo 2
  second : t.second < tenTo 2
  microsecond : t.microsecond < tenTo 6

/-- The calendar and the clock keep every part within its width. -/
theorem fits_of_isValid (h : t.isValid = true) : Fits t := by
  obtain ⟨hdate, hhour, hminute, hsecond, hmicrosecond⟩ :=
    LocalTime.isValid_iff.1 h
  have htwo : tenTo 2 = 100 := rfl
  have hyear : t.date.year < tenTo 4 := Nat.lt_succ_of_le hdate.year.2
  have hmonth := hdate.month.2
  have hday := hdate.dayOfMonth_le
  exact ⟨hyear, by omega, by omega, by omega, by omega, by omega, hmicrosecond⟩

theorem hyphen_not_mem_decimal (number : Nat) : '-' ∉ decimal number := by
  intro h
  exact absurd (isDigit_of_mem_decimal _ h) (by decide)

/-- Times that exist are told by what is written for them. -/
theorem formatChars_inj (h : t.isValid = true) (h' : t'.isValid = true)
    (heq : formatChars t = formatChars t') : t = t' := by
  have fits := fits_of_isValid h
  have fits' := fits_of_isValid h'
  unfold formatChars at heq
  simp only [List.append_assoc, List.cons_append] at heq
  -- the year ends at the first hyphen, and behind it every part has its
  -- width
  obtain ⟨hyear, hrest⟩ :=
    append_cons_inj (hyphen_not_mem_decimal _) (hyphen_not_mem_decimal _) heq
  simp only [padded_append_inj fits.month fits'.month,
    padded_append_inj fits.dayOfMonth fits'.dayOfMonth,
    padded_append_inj fits.hour fits'.hour,
    padded_append_inj fits.minute fits'.minute,
    padded_append_inj fits.second fits'.second,
    padded_append_inj fits.microsecond fits'.microsecond, List.cons.injEq,
    true_and, and_true] at hrest
  obtain ⟨hmonth, hday, hhour, hminute, hsecond, hmicrosecond⟩ := hrest
  apply LocalTime.eq_of_parts_eq
  simp only [LocalTime.parts, Date.parts, decimal_injective hyear, hmonth,
    hday, hhour, hminute, hsecond, hmicrosecond]

/-- From the year 1000 on, what is written is ordered as the parts are. -/
theorem formatChars_lt_iff (h : t.isValid = true) (h' : t'.isValid = true)
    (hyear : 1000 ≤ t.date.year) (hyear' : 1000 ≤ t'.date.year) :
    formatChars t < formatChars t' ↔ t.parts < t'.parts := by
  have fits := fits_of_isValid h
  have fits' := fits_of_isValid h'
  unfold formatChars
  rw [decimal_eq_padded hyear (Nat.le_of_lt_succ fits.year),
    decimal_eq_padded hyear' (Nat.le_of_lt_succ fits'.year)]
  simp only [List.append_assoc, List.cons_append,
    padded_append_lt_iff fits.year fits'.year,
    padded_append_lt_iff fits.month fits'.month,
    padded_append_lt_iff fits.dayOfMonth fits'.dayOfMonth,
    padded_append_lt_iff fits.hour fits'.hour,
    padded_append_lt_iff fits.minute fits'.minute,
    padded_append_lt_iff fits.second fits'.second,
    padded_append_lt_iff fits.microsecond fits'.microsecond,
    LocalTime.parts, Date.parts, List.nil_append, List.cons_lt_cons_iff,
    List.not_lt_nil, Char.lt_irrefl, false_or, true_and]

/-- With a year of four digits all is in its width. -/
theorem length_formatChars (h : t.isValid = true) (hyear : 1000 ≤ t.date.year) :
    (formatChars t).length = 27 := by
  have fits := fits_of_isValid h
  rw [formatChars, decimal_eq_padded hyear (Nat.le_of_lt_succ fits.year)]
  simp only [List.length_append, List.length_cons, length_padded,
    List.length_nil]

-- ============================================================ instants

/-- What is written tells the instant, in every year. -/
theorem format_injective : Function.Injective format := by
  intro a b h
  have hchars := congrArg String.toList h
  rw [toList_format, toList_format] at hchars
  have htime := formatChars_inj (LocalTime.isValid_ofInstant a)
    (LocalTime.isValid_ofInstant b) hchars
  apply Instant.eq_of_micros_eq
  rw [← LocalTime.micros_ofInstant a, htime, LocalTime.micros_ofInstant]

variable {a b : Instant}

theorem length_format (h : 1000 ≤ a.year) : (format a).length = 27 := by
  rw [Instant.year] at h
  rw [← String.length_toList, toList_format]
  exact length_formatChars (LocalTime.isValid_ofInstant a) h

/-- And their order is that of the instants. -/
theorem format_lt_format_iff (ha : 1000 ≤ a.year) (hb : 1000 ≤ b.year) :
    format a < format b ↔ a < b := by
  rw [Instant.year] at ha hb
  rw [String.lt_iff, toList_format, toList_format, Instant.lt_iff]
  exact formatChars_lt_iff (LocalTime.isValid_ofInstant a)
    (LocalTime.isValid_ofInstant b) ha hb

/-- The last microsecond of the year 999 is written with a greater text than the
first of the year 1000. -/
example : format ⟨31525372800000000, by decide⟩
    < format ⟨31525372799999999, by decide⟩ := by
  decide +kernel

-- ====================================================== canonical forms

/-- The canonical form of a timestamp: its instant, written. -/
def canonical (text : String) : Except ParseError String :=
  (parse text).map format

/-- The canonical form depends on the instant alone. -/
theorem canonical_of_parse {text : String} {instant : Instant}
    (h : parse text = .ok instant) : canonical text = .ok (format instant) := by
  rw [canonical, h]
  rfl

/-- A timestamp of an instant from the year 1000 on has a canonical form
of 27 characters, which is read as the same instant and is its own
canonical form; and two canonical forms are in the order of their
instants, and the same if these are. -/
theorem canonical_orders {text : String} {instant : Instant}
    (hparse : parse text = .ok instant) (hyear : 1000 ≤ instant.year) :
    ∃ form, canonical text = .ok form ∧ form.length = 27
      ∧ parse form = parse text ∧ canonical form = .ok form
      ∧ ∀ (other : String) (otherInstant : Instant),
          parse other = .ok otherInstant → 1000 ≤ otherInstant.year →
          ∃ otherForm, canonical other = .ok otherForm
            ∧ (form < otherForm ↔ instant < otherInstant)
            ∧ (form = otherForm ↔ instant = otherInstant) := by
  have hread := parse_format hyear
  refine ⟨format instant, canonical_of_parse hparse, length_format hyear, ?_,
    canonical_of_parse hread, ?_⟩
  · rw [hread, hparse]
  · intro other otherInstant hother hyear'
    exact ⟨format otherInstant, canonical_of_parse hother,
      format_lt_format_iff hyear hyear', format_injective.eq_iff⟩

/-- Of three spellings with three offsets two have one canonical form,
and the third is of an instant an hour later. -/
theorem canonical_orders_of_offsets :
    ∃ form later, canonical "2024-03-01T00:00:00.1234569+00:99" = .ok form
      ∧ canonical "2024-02-29t22:21:00.123456z" = .ok form
      ∧ canonical "2024-02-29T23:00:00-00:30" = .ok later
      ∧ form.length = 27 ∧ form < later := by
  have hparse : parse "2024-03-01T00:00:00.1234569+00:99"
      = .ok ⟨63844842060123456, by decide⟩ := by rfl
  have hsame : parse "2024-02-29t22:21:00.123456z"
      = .ok ⟨63844842060123456, by decide⟩ := by rfl
  have hlater : parse "2024-02-29T23:00:00-00:30"
      = .ok ⟨63844846200000000, by decide⟩ := by rfl
  have hyear : 1000 ≤ (⟨63844842060123456, by decide⟩ : Instant).year := by
    decide +kernel
  have hyear' : 1000 ≤ (⟨63844846200000000, by decide⟩ : Instant).year := by
    decide +kernel
  obtain ⟨form, hform, hlength, -, -, horders⟩ := canonical_orders hparse hyear
  obtain ⟨sameForm, hsameForm, -, heq⟩ := horders _ _ hsame hyear
  obtain ⟨laterForm, hlaterForm, hlt, -⟩ := horders _ _ hlater hyear'
  obtain rfl : form = sameForm := heq.2 rfl
  exact ⟨form, laterForm, hform, hsameForm, hlaterForm, hlength,
    hlt.2 (by decide)⟩

end Timestamp

-- ===================================================== times of clocks

namespace ZonedTime

variable {t t' : ZonedTime}

/-- The microseconds in UTC from the start of year 1, with the days of
the years and the months before the date counted one by one. -/
def elapsed (t : ZonedTime) : Int :=
  (((t.shown.date.elapsed * 24 + t.shown.hour) * 60 + t.shown.minute)
    * 60 + t.shown.second) * microsPerSecond + t.shown.microsecond - t.ahead

/-- Counting the days at once or one by one is the same. -/
theorem micros_eq_elapsed (t : ZonedTime) : t.micros = t.elapsed := by
  have hday := Date.day_eq_elapsed (LocalTime.isValid_iff.1 t.isValid).1
  unfold micros elapsed LocalTime.micros
  rw [hday]
  push_cast
  rfl

/-- A time without a timestamp is one outside the calendar. -/
theorem format?_eq_none_iff : t.format? = none ↔ ¬ t.InCalendar := by
  rw [format?, Option.map_eq_none_iff, LocalTime.toInstant?,
    Instant.ofMicros?_eq_none_iff, InCalendar, Date.sum_yearLength,
    not_and_or, not_le, not_lt]
  exact Iff.rfl

/-- What is written for a time is written for its instant. -/
theorem format?_eq_some_iff {text : String} :
    t.format? = some text
      ↔ ∃ instant : Instant, (instant.micros : Int) = t.elapsed
          ∧ Timestamp.format instant = text := by
  simp only [format?, Option.map_eq_some_iff, toInstant?_eq_some_iff,
    micros_eq_elapsed]

/-- A time has a timestamp exactly if it is in the calendar, and two
times that have one have the same exactly if they are the same instant. -/
theorem format?_faithful (t t' : ZonedTime) :
    (t.format? = none ↔ ¬ t.InCalendar)
      ∧ ∀ text text', t.format? = some text → t'.format? = some text' →
        (text = text' ↔ t.elapsed = t'.elapsed) := by
  refine ⟨format?_eq_none_iff, ?_⟩
  intro text text' h h'
  obtain ⟨instant, hmicros, rfl⟩ := format?_eq_some_iff.1 h
  obtain ⟨instant', hmicros', rfl⟩ := format?_eq_some_iff.1 h'
  rw [← hmicros, ← hmicros', Timestamp.format_injective.eq_iff, Int.ofNat_inj]
  exact ⟨congrArg Instant.micros, Instant.eq_of_micros_eq⟩

/-- The instant of the leap day, on a clock that is four hours ahead. -/
def leapMorning : ZonedTime :=
  ⟨⟨⟨2024, 3, 1⟩, 5, 30, 0, 123456⟩, 14400000000, by decide, by decide⟩

/-- The first midnight of the calendar, on a clock that is an hour ahead. -/
def firstMidnight : ZonedTime :=
  ⟨⟨⟨1, 1, 1⟩, 0, 0, 0, 0⟩, 3600000000, by decide, by decide⟩

/-- The evening before in the west and the morning in the east have one
timestamp, and the first midnight in the east has none. -/
theorem format?_faithful_of_morning :
    (∃ text, leapDay.format? = some text ∧ leapMorning.format? = some text)
      ∧ firstMidnight.format? = none := by
  obtain ⟨hevening, heq⟩ := format?_faithful leapDay leapMorning
  obtain ⟨hmorning, -⟩ := format?_faithful leapMorning leapDay
  obtain ⟨hmidnight, -⟩ := format?_faithful firstMidnight leapDay
  have hin : leapMorning.InCalendar := by
    rw [InCalendar, Date.sum_yearLength]
    decide
  have hout : ¬ firstMidnight.InCalendar := by
    rw [InCalendar, Date.sum_yearLength]
    decide
  have hinstant : leapDay.elapsed = leapMorning.elapsed := by
    rw [← micros_eq_elapsed, ← micros_eq_elapsed]
    decide
  obtain ⟨text, htext⟩ :=
    Option.ne_none_iff_exists'.1 fun h => hevening.1 h inCalendar_leapDay
  obtain ⟨text', htext'⟩ :=
    Option.ne_none_iff_exists'.1 fun h => hmorning.1 h hin
  obtain rfl : text = text' := (heq text text' htext htext').2 hinstant
  exact ⟨⟨text, htext, htext'⟩, hmidnight.2 hout⟩

end ZonedTime

end StatelessAuth
