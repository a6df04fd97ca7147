/-
The calendar counted day by day: how long a month is, which dates occur, and how
many days have gone by before a date, as the sum over the years and the months
before it (`Date.elapsed`).

The count that is used takes no sums. The years before a date are counted at
once, four hundred and four and one hundred of them at a time, and this agrees
with the sum since it does so from one year to the next
(`daysBeforeYear_succ`). So the two counts are the same
(`day_eq_elapsed`), and the years 1 to 9999 have 3652059 days
(`sum_yearLength`).
-/
import Mathlib.Algebra.BigOperators.Intervals
import StatelessAuth.Proofs.Calendar.Instant

namespace StatelessAuth

namespace Date

-- ======================================================= which dates occur

/-- The days of a month. -/
def monthLength (leap : Bool) (month : Nat) : Nat :=
  match month with
  | 2 => if leap then 29 else 28
  | 4 | 6 | 9 | 11 => 30
  | _ => 31

/-- The year and the month are of the calendar, and the month has the day. -/
structure Occurs (d : Date) : Prop where
  year : 1 ≤ d.year ∧ d.year ≤ 9999
  month : 1 ≤ d.month ∧ d.month ≤ 12
  dayOfMonth : 1 ≤ d.dayOfMonth
    ∧ d.dayOfMonth ≤ monthLength (isLeap d.year) d.month

theorem monthLength_le (leap : Bool) (month : Nat) :
    monthLength leap month ≤ 31 := by
  unfold monthLength
  split
  · cases leap with
    | false => decide
    | true => decide
  all_goals decide

theorem Occurs.dayOfMonth_le {d : Date} (h : d.Occurs) : d.dayOfMonth ≤ 31 :=
  Nat.le_trans h.dayOfMonth.2 (monthLength_le _ _)

/-- The leap years are those that four divides, without the hundreds
that four hundred does not divide. -/
theorem isLeap_iff {year : Nat} :
    isLeap year = true ↔ 4 ∣ year ∧ (100 ∣ year → 400 ∣ year) := by
  simp only [isLeap, Bool.and_eq_true, Bool.or_eq_true, decide_eq_true_eq]
  omega

theorem getElem?_monthLengths (leap : Bool) {month : Nat}
    (h : 1 ≤ month ∧ month ≤ 12) :
    (monthLengths leap)[month - 1]? = some (monthLength leap month) := by
  have all : ∀ leap : Bool, ∀ past : Fin 12,
      (monthLengths leap)[past.val]?
        = some (monthLength leap (past.val + 1)) := by decide
  have hmonth := all leap ⟨month - 1, by omega⟩
  rw [Nat.sub_add_cancel h.1] at hmonth
  exact hmonth

/-- A month past the twelfth has no days at all. -/
theorem getElem?_monthLengths_of_lt (leap : Bool) {month : Nat}
    (h : 12 < month) : (monthLengths leap)[month - 1]? = none := by
  apply List.getElem?_eq_none
  show 12 ≤ month - 1
  omega

/-- The dates that are let through are those that occur. -/
theorem isValid_iff {d : Date} : d.isValid = true ↔ d.Occurs := by
  simp only [isValid, Bool.and_eq_true, decide_eq_true_eq]
  constructor
  · rintro ⟨⟨⟨hyear, hmonth⟩, hday⟩, hlength⟩
    -- a month past the twelfth has no day, and this date has one
    have htwelve : d.month ≤ 12 := by
      apply Nat.le_of_not_lt
      intro hlt
      rw [getElem?_monthLengths_of_lt _ hlt, Option.getD_none] at hlength
      omega
    rw [getElem?_monthLengths _ ⟨hmonth, htwelve⟩, Option.getD_some] at hlength
    exact ⟨hyear, ⟨hmonth, htwelve⟩, ⟨hday, hlength⟩⟩
  · rintro ⟨hyear, hmonth, hday, hlength⟩
    rw [getElem?_monthLengths _ hmonth, Option.getD_some]
    exact ⟨⟨⟨hyear, hmonth.1⟩, hday⟩, hlength⟩

-- ========================================================= the days before

/-- The days between 1 January of year 1 and a date: those of the years before,
of the months before, and of the month. -/
def elapsed (d : Date) : Nat :=
  ∑ year ∈ Finset.Ico 1 d.year, yearLength year
    + ∑ month ∈ Finset.Ico 1 d.month, monthLength (isLeap d.year) month
    + (d.dayOfMonth - 1)

/-- From one year to the next the count grows by the days of the
year. -/
theorem daysBeforeYear_succ {year : Nat} (h : 1 ≤ year) :
    daysBeforeYear (year + 1) = daysBeforeYear year + yearLength year := by
  obtain ⟨past, rfl⟩ := Nat.exists_eq_add_of_le' h
  have hle : past / 100 ≤ past / 4 :=
    Nat.div_le_div_left (by decide) (by decide)
  have hleap : isLeap (past + 1) = true ↔ _ := isLeap_iff
  rw [yearLength_eq]
  unfold daysBeforeYear
  simp only [Nat.add_sub_cancel, Nat.succ_div]
  -- one year more is one more quotient of those that divide it
  by_cases h4 : 4 ∣ past + 1
  · by_cases h100 : 100 ∣ past + 1
    · by_cases h400 : 400 ∣ past + 1
      · rw [if_pos h4, if_pos h100, if_pos h400,
          if_pos (hleap.2 ⟨h4, fun _ => h400⟩)]
        omega
      · rw [if_pos h4, if_pos h100, if_neg h400,
          if_neg fun hyear => h400 ((hleap.1 hyear).2 h100)]
        omega
    · have h400 : ¬ 400 ∣ past + 1 :=
        fun h400 => h100 (Nat.dvd_trans (by decide) h400)
      rw [if_pos h4, if_neg h100, if_neg h400,
        if_pos (hleap.2 ⟨h4, fun hdvd => absurd hdvd h100⟩)]
      omega
  · have h100 : ¬ 100 ∣ past + 1 :=
      fun h100 => h4 (Nat.dvd_trans (by decide) h100)
    have h400 : ¬ 400 ∣ past + 1 :=
      fun h400 => h4 (Nat.dvd_trans (by decide) h400)
    rw [if_neg h4, if_neg h100, if_neg h400,
      if_neg fun hyear => h4 (hleap.1 hyear).1]
    omega

/-- The years that are counted at once have as many days as they have
one by one. -/
theorem daysBeforeYear_eq_sum {year : Nat} (h : 1 ≤ year) :
    daysBeforeYear year = ∑ past ∈ Finset.Ico 1 year, yearLength past := by
  induction year, h using Nat.le_induction with
  | base => rfl
  | succ year h ih => rw [daysBeforeYear_succ h, ih, Finset.sum_Ico_succ_top h]

theorem total_take_monthLengths (leap : Bool) {month : Nat}
    (h : 1 ≤ month ∧ month ≤ 12) :
    total ((monthLengths leap).take (month - 1))
      = ∑ past ∈ Finset.Ico 1 month, monthLength leap past := by
  obtain ⟨hpos, hle⟩ := h
  have all : ∀ leap : Bool, ∀ past : Fin 12,
      total ((monthLengths leap).take past.val)
        = ∑ past ∈ Finset.Ico 1 (past.val + 1), monthLength leap past := by
    decide
  have hmonth := all leap ⟨month - 1, by omega⟩
  simpa [Nat.sub_add_cancel hpos] using hmonth

/-- The days that are counted at once are those that are counted one by one. -/
theorem day_eq_elapsed {d : Date} (h : d.Occurs) : d.day = d.elapsed := by
  unfold day elapsed
  rw [daysBeforeYear_eq_sum h.year.1, total_take_monthLengths _ h.month]

/-- The days of the calendar. -/
theorem sum_yearLength :
    ∑ year ∈ Finset.Ico 1 10000, yearLength year = 3652059 := by
  rw [← daysBeforeYear_eq_sum (by decide)]
  rfl

end Date

theorem LocalTime.isValid_iff {t : LocalTime} :
    t.isValid = true
      ↔ t.date.Occurs ∧ t.hour < 24 ∧ t.minute < 60 ∧ t.second < 60
        ∧ t.microsecond < 1000000 := by
  simp only [isValid, Bool.and_eq_true, decide_eq_true_eq,
    Date.isValid_iff, and_assoc]

end StatelessAuth
