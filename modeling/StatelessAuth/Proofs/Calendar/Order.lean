/-
Earlier and later, read off the parts of a time. Of two times that exist the
earlier one is the one with the smaller part where the two first differ, from
the year down to the microsecond (`LocalTime.micros_lt_iff`), and so it is with
instants and the times that clocks in UTC show for them (`Instant.lt_iff`).

# Why the first difference decides

Whatever the finer parts are, they do not make up for one more of a coarser
part: the days of a year that have gone by are less than the year has, and so
are those of a month (`Date.sum_add_lt`, once for the years and once for the
months), and the parts of a day have their bounds. That is one direction. The
other needs no counting, since parts are smaller, the same or greater, and the
same parts are the same time.
-/
import Mathlib.Algebra.Order.BigOperators.Group.Finset
import Mathlib.Data.List.Lex
import StatelessAuth.Proofs.Calendar.Count

namespace StatelessAuth

-- =============================================================== dates

namespace Date

/-- So many whole blocks and a part of the next one are less than more
blocks. -/
theorem sum_add_lt {length : Nat → Nat} {a b rest : Nat} (ha : 1 ≤ a)
    (hab : a < b) (hrest : rest < length a) :
    ∑ i ∈ Finset.Ico 1 a, length i + rest < ∑ i ∈ Finset.Ico 1 b, length i := by
  calc ∑ i ∈ Finset.Ico 1 a, length i + rest
      < ∑ i ∈ Finset.Ico 1 a, length i + length a := Nat.add_lt_add_left hrest _
    _ = ∑ i ∈ Finset.Ico 1 (a + 1), length i :=
      (Finset.sum_Ico_succ_top ha length).symm
    _ ≤ ∑ i ∈ Finset.Ico 1 b, length i :=
        Finset.sum_le_sum_of_subset (Finset.Ico_subset_Ico_right hab)

/-- The days of its year that have gone by before a date. -/
def inYear (d : Date) : Nat :=
  ∑ month ∈ Finset.Ico 1 d.month,
    monthLength (isLeap d.year) month + (d.dayOfMonth - 1)

theorem elapsed_eq_add_inYear (d : Date) :
    d.elapsed = ∑ year ∈ Finset.Ico 1 d.year, yearLength year + d.inYear :=
  Nat.add_assoc _ _ _

variable {d d' : Date}

theorem Occurs.inMonth_lt (h : d.Occurs) :
    d.dayOfMonth - 1 < monthLength (isLeap d.year) d.month := by
  have hday := h.dayOfMonth
  omega

/-- A date is one of the days of its year. -/
theorem Occurs.inYear_lt (h : d.Occurs) : d.inYear < yearLength d.year := by
  have hmonths : ∀ leap : Bool,
      ∑ month ∈ Finset.Ico 1 13, monthLength leap month
        = total (monthLengths leap) := by decide
  rw [yearLength, ← hmonths]
  exact sum_add_lt h.month.1 (Nat.lt_succ_of_le h.month.2) h.inMonth_lt

/-- The parts of a date, the coarsest first. -/
def parts (d : Date) : List Nat := [d.year, d.month, d.dayOfMonth]

theorem eq_of_parts_eq (h : d.parts = d'.parts) : d = d' := by
  cases d
  cases d'
  simpa [parts] using h

/-- Before a date with smaller parts there are fewer days. -/
theorem day_lt_of_parts_lt (h : d.Occurs) (h' : d'.Occurs)
    (hlt : d.parts < d'.parts) : d.day < d'.day := by
  rw [day_eq_elapsed h, day_eq_elapsed h', elapsed_eq_add_inYear,
    elapsed_eq_add_inYear]
  simp only [parts, List.cons_lt_cons_iff, List.not_lt_nil, and_false,
    or_false] at hlt
  -- by the part in which the two first differ
  rcases hlt with hyear | ⟨hyear, hmonth | ⟨hmonth, hday⟩⟩
  · exact Nat.lt_of_lt_of_le (sum_add_lt h.year.1 hyear h.inYear_lt)
      (Nat.le_add_right _ _)
  · have hmonths := sum_add_lt h.month.1 hmonth h.inMonth_lt
    rw [inYear, inYear, ← hyear]
    omega
  · have hfirst := h.dayOfMonth.1
    rw [inYear, inYear, ← hyear, ← hmonth]
    omega

end Date

-- =============================================================== times

namespace LocalTime

/-- The parts of a time, the coarsest first. -/
def parts (t : LocalTime) : List Nat :=
  t.date.parts ++ [t.hour, t.minute, t.second, t.microsecond]

variable {t t' : LocalTime}

theorem eq_of_parts_eq (h : t.parts = t'.parts) : t = t' := by
  obtain ⟨date, hour, minute, second, microsecond⟩ := t
  obtain ⟨date', hour', minute', second', microsecond'⟩ := t'
  obtain ⟨hdate, htime⟩ := List.append_inj h rfl
  obtain rfl : date = date' := Date.eq_of_parts_eq hdate
  simpa using htime

/-- A time with smaller parts comes earlier. -/
theorem micros_lt_of_parts_lt (h : t.isValid = true) (h' : t'.isValid = true)
    (hlt : t.parts < t'.parts) : t.micros < t'.micros := by
  obtain ⟨hdate, hhour, hminute, hsecond, hmicrosecond⟩ := isValid_iff.1 h
  obtain ⟨hdate', hhour', hminute', hsecond', hmicrosecond'⟩ := isValid_iff.1 h'
  have hday := Date.day_lt_of_parts_lt hdate hdate'
  have hsame : t.date.parts = t'.date.parts → t.date.day = t'.date.day :=
    fun heq => congrArg Date.day (Date.eq_of_parts_eq heq)
  simp only [parts, Date.parts, List.cons_append, List.nil_append,
    List.cons_lt_cons_iff, List.not_lt_nil, and_false, or_false,
    List.cons.injEq, and_true] at hlt hday hsame
  unfold micros microsPerSecond
  omega

/-- Of two times that exist the earlier one has the smaller parts. -/
theorem micros_lt_iff (h : t.isValid = true) (h' : t'.isValid = true) :
    t.micros < t'.micros ↔ t.parts < t'.parts := by
  rcases lt_trichotomy t.parts t'.parts with hlt | heq | hgt
  · exact iff_of_true (micros_lt_of_parts_lt h h' hlt) hlt
  · rw [eq_of_parts_eq heq]
    exact iff_of_false (Nat.lt_irrefl _) (lt_irrefl _)
  · exact iff_of_false (Nat.lt_asymm (micros_lt_of_parts_lt h' h hgt))
      (lt_asymm hgt)

end LocalTime

/-- Of two instants the earlier one is shown with the smaller parts. -/
theorem Instant.lt_iff {a b : Instant} :
    a < b ↔ (LocalTime.ofInstant a).parts < (LocalTime.ofInstant b).parts := by
  rw [← LocalTime.micros_lt_iff (LocalTime.isValid_ofInstant a)
    (LocalTime.isValid_ofInstant b), LocalTime.micros_ofInstant,
    LocalTime.micros_ofInstant]
  exact Iff.rfl

end StatelessAuth
