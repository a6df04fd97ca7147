/-
Points in time, to the microsecond, in the years 1 to 9999.

An `Instant` counts microseconds from midnight UTC of 1 January of
year 1; the bound is part of the type, so whatever yields an instant has
answered for its range. A `LocalTime` is what a clock on a wall shows:
together with the offset of its place from UTC it names an instant, if
that lies in the range.
-/
import StatelessAuth.Calendar.Date

namespace StatelessAuth

def microsPerSecond : Nat := 1000000

def microsPerDay : Nat := 86400 * microsPerSecond

/-- A point in time in the years 1 to 9999. -/
structure Instant where
  /-- Microseconds since the start of year 1 in UTC. -/
  micros : Nat
  inRange : micros < 3652059 * microsPerDay
  deriving DecidableEq

namespace Instant

def first : Instant := ⟨0, by decide⟩

instance : Inhabited Instant := ⟨first⟩

/-- The instant of a count of microseconds, if it is in range. -/
def ofMicros? (micros : Int) : Option Instant :=
  if h : 0 ≤ micros ∧ micros.toNat < 3652059 * microsPerDay then
    some ⟨micros.toNat, h.2⟩
  else none

instance : LT Instant := ⟨fun a b => a.micros < b.micros⟩
instance : LE Instant := ⟨fun a b => a.micros ≤ b.micros⟩
instance (a b : Instant) : Decidable (a < b) :=
  inferInstanceAs (Decidable (a.micros < b.micros))
instance (a b : Instant) : Decidable (a ≤ b) :=
  inferInstanceAs (Decidable (a.micros ≤ b.micros))

end Instant

structure LocalTime where
  date : Date
  hour : Nat
  minute : Nat
  second : Nat
  microsecond : Nat
  deriving DecidableEq, Repr

namespace LocalTime

/-- The date exists, and so does the time in a day of 24 hours without
leap seconds. -/
def isValid (t : LocalTime) : Bool :=
  t.date.isValid && t.hour < 24 && t.minute < 60 && t.second < 60
    && t.microsecond < 1000000

/-- Microseconds from the start of year 1 on the same clock. -/
def micros (t : LocalTime) : Nat :=
  (((t.date.day * 24 + t.hour) * 60 + t.minute) * 60 + t.second)
    * microsPerSecond + t.microsecond

/-- The time in UTC of an instant. -/
def ofInstant (t : Instant) : LocalTime :=
  let seconds := t.micros / microsPerSecond
  { date := Date.ofDay (seconds / 86400)
    hour := seconds / 3600 % 24
    minute := seconds / 60 % 60
    second := seconds % 60
    microsecond := t.micros % microsPerSecond }

/-- The instant at which a clock shows `t` in a place whose clocks are
`offset` microseconds ahead of UTC. -/
def toInstant? (t : LocalTime) (offset : Int) : Option Instant :=
  Instant.ofMicros? (t.micros - offset)

end LocalTime

end StatelessAuth
