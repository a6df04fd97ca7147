/-
Times of clocks anywhere, written as timestamps in UTC and read again:
from the year 1000 on they denote the same instant as before, to the
microsecond, and before that year they are not read at all
(`parse_format?`). Nothing is ever read as another instant.

The year that counts is that of UTC, and it is written without leading zeros,
while four digits are asked for when it is read.
-/
import StatelessAuth.Proofs.Calendar.Count
import StatelessAuth.Proofs.Duration
import StatelessAuth.Proofs.Timestamp.RoundTrip

namespace StatelessAuth

/-- What a clock shows, and by how many microseconds, less than a day of
them, it is ahead of UTC. -/
structure ZonedTime where
  shown : LocalTime
  ahead : Int
  isValid : shown.isValid = true
  ahead_lt : ahead.natAbs < microsPerDay

namespace ZonedTime

/-- The microseconds in UTC from the start of year 1. -/
def micros (t : ZonedTime) : Int := t.shown.micros - t.ahead

/-- The time is in the years 1 to 9999 of UTC. -/
def InCalendar (t : ZonedTime) : Prop :=
  0 ≤ t.micros
    ∧ t.micros
      < (∑ year ∈ Finset.Ico 1 10000, Date.yearLength year : Nat)
        * microsPerDay

/-- The timestamp of the time, if it is in the calendar. -/
def format? (t : ZonedTime) : Option String :=
  (t.shown.toInstant? t.ahead).map Timestamp.format

theorem toInstant?_eq_some_iff {t : ZonedTime} {instant : Instant} :
    t.shown.toInstant? t.ahead = some instant
      ↔ (instant.micros : Int) = t.micros :=
  Instant.ofMicros?_eq_some_iff

/-- Every time in the calendar has an instant. -/
theorem exists_instant {t : ZonedTime} (h : t.InCalendar) :
    ∃ instant : Instant, (instant.micros : Int) = t.micros := by
  obtain ⟨hfirst, hlast⟩ := h
  rw [Date.sum_yearLength] at hlast
  refine ⟨⟨t.micros.toNat, ?_⟩, Int.toNat_of_nonneg hfirst⟩
  omega

end ZonedTime

/-- A time in the calendar has a timestamp. From the year 1000 on it is read as
the instant of the time, and before that it is malformed. -/
theorem Timestamp.parse_format? (t : ZonedTime) (h : t.InCalendar) :
    ∃ (text : String) (instant : Instant), t.format? = some text
      ∧ (instant.micros : Int) = t.micros
      ∧ parse text = if 1000 ≤ instant.year then .ok instant
          else .error .malformed := by
  obtain ⟨instant, hmicros⟩ := ZonedTime.exists_instant h
  refine ⟨format instant, instant, ?_, hmicros, parse_format_eq instant⟩
  rw [ZonedTime.format?, ZonedTime.toInstant?_eq_some_iff.2 hmicros]
  rfl

/-- The last day of February 2024, an hour and a half before midnight,
on a clock that is three hours behind: 1 March in UTC. -/
def ZonedTime.leapDay : ZonedTime :=
  ⟨⟨⟨2024, 2, 29⟩, 22, 30, 0, 123456⟩, -10800000000, by decide, by decide⟩

theorem ZonedTime.inCalendar_leapDay : leapDay.InCalendar := by
  rw [InCalendar, Date.sum_yearLength]
  decide

/-- It is written for the day after, and read as the same instant. -/
theorem Timestamp.parse_format?_leapDay :
    ZonedTime.leapDay.InCalendar
      ∧ ∃ (text : String) (instant : Instant),
          ZonedTime.leapDay.format? = some text
          ∧ (instant.micros : Int) = ZonedTime.leapDay.micros
          ∧ parse text = .ok instant := by
  obtain ⟨text, instant, htext, hmicros, hparse⟩ :=
    parse_format? ZonedTime.leapDay ZonedTime.inCalendar_leapDay
  have hcount : ZonedTime.leapDay.micros = (63844853400123456 : Nat) := by
    decide
  obtain rfl : instant = ⟨63844853400123456, by decide⟩ :=
    Instant.eq_of_micros_eq (Int.ofNat_inj.1 (hmicros.trans hcount))
  rw [if_pos (by decide +kernel)] at hparse
  exact ⟨ZonedTime.inCalendar_leapDay, text, _, htext, hmicros, hparse⟩

/-- The last microsecond of the year 999, on a clock in UTC. -/
def ZonedTime.lastOf999 : ZonedTime :=
  ⟨⟨⟨999, 12, 31⟩, 23, 59, 59, 999999⟩, 0, by decide, by decide⟩

/-- It is in the calendar, and its own timestamp is malformed. -/
theorem Timestamp.parse_format?_lastOf999 :
    ZonedTime.lastOf999.InCalendar
      ∧ ZonedTime.lastOf999.format? = some "999-12-31T23:59:59.999999Z"
      ∧ parse "999-12-31T23:59:59.999999Z" = .error .malformed := by
  refine ⟨?_, ?_, ?_⟩
  · rw [ZonedTime.InCalendar, Date.sum_yearLength]
    decide
  · decide +kernel
  · decide +kernel

end StatelessAuth
