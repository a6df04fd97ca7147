/-
Instants and the times that clocks in UTC show for them: the time of an
instant exists and names the instant again (`toInstant?_ofInstant`).
-/
import StatelessAuth.Calendar.Instant
import StatelessAuth.Proofs.Calendar.Date

namespace StatelessAuth

/-- The year of an instant in UTC. -/
def Instant.year (t : Instant) : Nat := (LocalTime.ofInstant t).date.year

theorem Instant.eq_of_micros_eq {a b : Instant} (h : a.micros = b.micros) :
    a = b := by
  cases a
  cases b
  subst h
  rfl

theorem Instant.le_antisymm {a b : Instant} (h : a ≤ b) (h' : b ≤ a) : a = b :=
  eq_of_micros_eq (Nat.le_antisymm h h')

theorem Instant.ofMicros?_micros (t : Instant) :
    Instant.ofMicros? t.micros = some t := by
  unfold Instant.ofMicros?
  rw [dif_pos ⟨Int.natCast_nonneg _, t.inRange⟩]
  rfl

/-- No instant has a count before the start of year 1 or after the end of year
9999. -/
theorem Instant.ofMicros?_eq_none_iff {count : Int} :
    Instant.ofMicros? count = none
      ↔ count < 0 ∨ (3652059 * microsPerDay : Nat) ≤ count := by
  unfold Instant.ofMicros?
  split
  case isTrue hrange =>
    simp only [reduceCtorEq, false_iff]
    omega
  case isFalse hrange =>
    simp only [true_iff]
    omega

namespace LocalTime

private theorem days_lt (t : Instant) :
    t.micros / microsPerSecond / 86400 < 3652059 := by
  have h := t.inRange
  unfold microsPerDay at h
  unfold microsPerSecond at h ⊢
  omega

/-- A clock in UTC shows times that exist. -/
theorem isValid_ofInstant (t : Instant) : (ofInstant t).isValid = true := by
  have hdate := Date.isValid_ofDay (days_lt t)
  unfold isValid ofInstant
  simp only [hdate, Bool.and_eq_true, decide_eq_true_eq, true_and]
  unfold microsPerSecond
  omega

/-- A time that a clock shows counts up to its instant. -/
theorem micros_ofInstant (t : Instant) : (ofInstant t).micros = t.micros := by
  have hday := Date.day_ofDay (t.micros / microsPerSecond / 86400)
  unfold micros ofInstant
  simp only [hday]
  unfold microsPerSecond
  omega

/-- The time of an instant in UTC names the instant. -/
theorem toInstant?_ofInstant (t : Instant) :
    (ofInstant t).toInstant? 0 = some t := by
  rw [toInstant?, micros_ofInstant, Int.sub_zero, Instant.ofMicros?_micros]

end LocalTime

end StatelessAuth
