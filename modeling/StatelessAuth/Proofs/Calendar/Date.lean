/-
Counting days and finding dates are inverse to each other: the date that
`Date.ofDay` finds for a count of days in the years 1 to 9999 exists, and
`Date.day` counts up to it again (`isValid_ofDay`, `day_ofDay`).

# The two halves

The year is found by cycles (`yearOfDay_spec`): the number of days past
splits into whole years and a rest that is a day of the next year. The
rest is below 365, or it is 365 and the year is a leap year; that the last
day of a leap cycle falls into its fourth year is what the two minima of
`yearOfDay` are for.

The month is found by walking (`walkMonths_spec`): what was walked over
and what is left make the days, and what is left is below the length of
the month where the walk ends.
-/
import StatelessAuth.Calendar.Date

namespace StatelessAuth.Date

-- =============================================================== years

/-- The days of a year. -/
def yearLength (year : Nat) : Nat := total (monthLengths (isLeap year))

theorem yearLength_eq (year : Nat) :
    yearLength year = if isLeap year then 366 else 365 := by
  unfold yearLength
  cases isLeap year with
  | false => rfl
  | true => rfl

/-- The cycles by which a day is found. Only the last day of a leap cycle
has more than 364 days of its year behind it. -/
private theorem yearOfDay_cycles (days : Nat) :
    ∃ ages hundreds fours years,
      hundreds ≤ 3 ∧ fours ≤ 24 ∧ years ≤ 3
        ∧ (yearOfDay days).1
            = 400 * ages + 100 * hundreds + 4 * fours + years + 1
        ∧ days = 146097 * ages + 36524 * hundreds + 1461 * fours + 365 * years
            + (yearOfDay days).2
        ∧ (yearOfDay days).2 ≤ 365
        ∧ ((yearOfDay days).2 = 365 →
            years = 3 ∧ (fours = 24 → hundreds = 3)) := by
  unfold yearOfDay
  simp only
  generalize hages : days / 146097 = ages
  generalize hcycle : days % 146097 = inCycle
  generalize hhundreds : min (inCycle / 36524) 3 = hundreds
  generalize hhundred : inCycle - hundreds * 36524 = inHundred
  generalize hfours : inHundred / 1461 = fours
  generalize hfour : inHundred % 1461 = inFour
  generalize hyears : min (inFour / 365) 3 = years
  refine ⟨ages, hundreds, fours, years, ?_, ?_, ?_, ?_, ?_, ?_, ?_⟩
  · omega
  · omega
  · omega
  · omega
  · omega
  · omega
  · intro h
    omega

/-- The days before a year that is given by its cycles, as each cycle
has its length. -/
private theorem daysBeforeYear_cycles {ages hundreds fours years : Nat}
    (hhundreds : hundreds ≤ 3) (hfours : fours ≤ 24) (hyears : years ≤ 3) :
    daysBeforeYear (400 * ages + 100 * hundreds + 4 * fours + years + 1)
      = 146097 * ages + 36524 * hundreds + 1461 * fours + 365 * years := by
  unfold daysBeforeYear
  simp only [Nat.add_sub_cancel]
  have h4 : (400 * ages + 100 * hundreds + 4 * fours + years) / 4
      = 100 * ages + 25 * hundreds + fours := by omega
  have h100 : (400 * ages + 100 * hundreds + 4 * fours + years) / 100
      = 4 * ages + hundreds := by omega
  have h400 : (400 * ages + 100 * hundreds + 4 * fours + years) / 400
      = ages := by omega
  rw [h4, h100, h400]
  omega

/-- The fourth year of a cycle of four is a leap year, but of those that end
a hundred years only the fourth. -/
private theorem isLeap_cycles {ages hundreds fours : Nat} (hfours : fours ≤ 24)
    (hlast : fours = 24 → hundreds = 3) :
    isLeap (400 * ages + 100 * hundreds + 4 * fours + 3 + 1) = true := by
  have h4 : (400 * ages + 100 * hundreds + 4 * fours + 3 + 1) % 4 = 0 := by
    omega
  have h400 : (400 * ages + 100 * hundreds + 4 * fours + 3 + 1) % 100 = 0
      → (400 * ages + 100 * hundreds + 4 * fours + 3 + 1) % 400 = 0 := by
    intro h
    have h24 : fours = 24 := by omega
    rw [h24, hlast h24]
    omega
  simp only [isLeap, Bool.and_eq_true, Bool.or_eq_true, decide_eq_true_eq,
    h4, true_and]
  exact (Decidable.em _).symm.imp_right h400

/-- The year of a day: the days before the year and the day in the year
make the count, and the year has the day. -/
theorem yearOfDay_spec (days : Nat) :
    1 ≤ (yearOfDay days).1
      ∧ daysBeforeYear (yearOfDay days).1 + (yearOfDay days).2 = days
      ∧ (yearOfDay days).2 < yearLength (yearOfDay days).1 := by
  obtain ⟨ages, hundreds, fours, years, hhundreds, hfours, hyears,
    hyear, hdays, hle, hlast⟩ := yearOfDay_cycles days
  refine ⟨by omega, ?_, ?_⟩
  · rw [hyear, daysBeforeYear_cycles hhundreds hfours hyears]
    exact hdays.symm
  · rw [yearLength_eq]
    split
    case isTrue => omega
    case isFalse hleap =>
      -- the day behind 365 others is that of a leap year
      have hne : (yearOfDay days).2 ≠ 365 := by
        intro h
        obtain ⟨h3, h24⟩ := hlast h
        apply hleap
        rw [hyear, h3]
        exact isLeap_cycles hfours h24
      omega

/-- A day that the calendar has is in one of its years. -/
theorem year_le_of_lt {days : Nat} (h : days < 3652059) :
    (yearOfDay days).1 ≤ 9999 := by
  unfold yearOfDay
  simp only
  omega

-- ============================================================== months

/-- A walk over months ends in one of them, with less days left than it
has, and the months it went over make the rest. -/
theorem walkMonths_spec (lengths : List Nat) (month days : Nat)
    (h : days < total lengths) :
    ∃ past length, walkMonths month days lengths
        = (month + past, days - total (lengths.take past))
      ∧ lengths[past]? = some length
      ∧ total (lengths.take past) ≤ days
      ∧ days - total (lengths.take past) < length := by
  induction lengths generalizing month days with
  | nil => cases h
  | cons length rest ih =>
      rw [walkMonths]
      split
      case isTrue hlt =>
        refine ⟨0, length, rfl, rfl, Nat.zero_le _, ?_⟩
        simpa [total] using hlt
      case isFalse hge =>
        rw [total] at h
        obtain ⟨past, found, hwalk, hfound, hle, hlt⟩ :=
          ih (month + 1) (days - length) (by omega)
        refine ⟨past + 1, found, ?_, hfound, ?_, ?_⟩
        · rw [hwalk, List.take_succ_cons, total]
          congr 1
          · omega
          · omega
        · rw [List.take_succ_cons, total]
          omega
        · rw [List.take_succ_cons, total]
          omega

-- =============================================================== dates

/-- The parts of the date of a day: the year has the day, and the month is
one of the twelve and has the day of the month. -/
theorem ofDay_spec (days : Nat) :
    ∃ past length, ofDay days
        = ⟨(yearOfDay days).1, 1 + past, (yearOfDay days).2
            - total ((monthLengths (isLeap (yearOfDay days).1)).take past) + 1⟩
      ∧ (monthLengths (isLeap (yearOfDay days).1))[past]? = some length
      ∧ total ((monthLengths (isLeap (yearOfDay days).1)).take past)
          ≤ (yearOfDay days).2
      ∧ (yearOfDay days).2
          - total ((monthLengths (isLeap (yearOfDay days).1)).take past)
            < length := by
  obtain ⟨-, -, hyear⟩ := yearOfDay_spec days
  obtain ⟨past, length, hwalk, hlength, hle, hlt⟩ := walkMonths_spec _ 1 _ hyear
  refine ⟨past, length, ?_, hlength, hle, hlt⟩
  unfold ofDay
  simp only [hwalk]

/-- A day that the calendar has is one of its dates. -/
theorem isValid_ofDay {days : Nat} (h : days < 3652059) :
    (ofDay days).isValid = true := by
  obtain ⟨past, length, hdate, hlength, -, hlt⟩ := ofDay_spec days
  obtain ⟨hpos, -, -⟩ := yearOfDay_spec days
  have hle := year_le_of_lt h
  rw [hdate]
  simp only [isValid, Bool.and_eq_true, decide_eq_true_eq,
    Nat.add_sub_cancel_left, hlength, Option.getD_some]
  omega

/-- Counting up to the date of a day gives the day. -/
theorem day_ofDay (days : Nat) : (ofDay days).day = days := by
  obtain ⟨past, length, hdate, -, hle, -⟩ := ofDay_spec days
  obtain ⟨-, hdays, -⟩ := yearOfDay_spec days
  rw [hdate]
  simp only [day, Nat.add_sub_cancel_left, Nat.add_sub_cancel]
  omega

end StatelessAuth.Date
