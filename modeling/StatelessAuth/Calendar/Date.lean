/-
The proleptic Gregorian calendar: the leap-year rule of today extended to
every year from year 1 on.

Days are counted from 1 January of year 1, which is day 0. `Date.day`
counts up to a date and `Date.ofDay` finds the date of a count: first the
year by the cycles of 400, 100, 4 and 1 years, then the month by walking
over the lengths of the months.
-/

namespace StatelessAuth

/-- A year, a month from 1 to 12 and a day of the month from 1 on. -/
structure Date where
  year : Nat
  month : Nat
  dayOfMonth : Nat
  deriving DecidableEq, Repr

namespace Date

/-- Every fourth year, but of the hundreds only every fourth. -/
def isLeap (year : Nat) : Bool :=
  year % 4 = 0 && (year % 100 ≠ 0 || year % 400 = 0)

def monthLengths (leap : Bool) : List Nat :=
  [31, if leap then 29 else 28, 31, 30, 31, 30, 31, 31, 30, 31, 30, 31]

/-- The date exists: the year is 1 to 9999, and the month has the day. -/
def isValid (d : Date) : Bool :=
  1 ≤ d.year && d.year ≤ 9999 && 1 ≤ d.month && 1 ≤ d.dayOfMonth
    && d.dayOfMonth ≤ ((monthLengths (isLeap d.year))[d.month - 1]?).getD 0

/-- The days before 1 January of a year. -/
def daysBeforeYear (year : Nat) : Nat :=
  let past := year - 1
  365 * past + past / 4 - past / 100 + past / 400

def total : List Nat → Nat
  | [] => 0
  | length :: rest => length + total rest

/-- The days from 1 January of year 1 to the date. -/
def day (d : Date) : Nat :=
  daysBeforeYear d.year
    + total ((monthLengths (isLeap d.year)).take (d.month - 1))
    + (d.dayOfMonth - 1)

/-- The month and the day in it that lie `days` days past the first of
`month`, the months from `month` on having the given lengths. -/
def walkMonths (month : Nat) (days : Nat) : List Nat → Nat × Nat
  | [] => (month, days)
  | length :: rest =>
      if days < length then (month, days)
      else walkMonths (month + 1) (days - length) rest

/-- The year of a day, and how many of its days are past. A cycle of 400
years has 146097 days, one of 100 has 36524 and one of 4 has 1461; the
last day of a leap cycle belongs to the fourth year of it. -/
def yearOfDay (days : Nat) : Nat × Nat :=
  let inCycle := days % 146097
  let hundreds := min (inCycle / 36524) 3
  let inHundred := inCycle - hundreds * 36524
  let inFour := inHundred % 1461
  let years := min (inFour / 365) 3
  (days / 146097 * 400 + hundreds * 100 + inHundred / 1461 * 4 + years + 1,
    inFour - years * 365)

/-- The date that lies `days` days past 1 January of year 1. -/
def ofDay (days : Nat) : Date :=
  let (year, inYear) := yearOfDay days
  let (month, inMonth) := walkMonths 1 inYear (monthLengths (isLeap year))
  ⟨year, month, inMonth + 1⟩

end Date

end StatelessAuth
