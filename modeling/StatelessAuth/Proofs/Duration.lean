/-
The instant past another by a span: it is the one whose microseconds are
the sum, if there is one (`after_eq_ok_iff`).
-/
import StatelessAuth.Duration
import StatelessAuth.Proofs.Calendar.Instant

namespace StatelessAuth

theorem Instant.ofMicros?_eq_some_iff {count : Int} {t : Instant} :
    Instant.ofMicros? count = some t ↔ (t.micros : Int) = count := by
  constructor
  · intro h
    unfold Instant.ofMicros? at h
    split at h
    case isTrue hrange =>
      cases h
      exact Int.toNat_of_nonneg hrange.1
    case isFalse => cases h
  · intro h
    subst h
    exact Instant.ofMicros?_micros t

namespace Duration

/-- A span leads from one instant to another when it has as many microseconds
as lie between them. -/
theorem after_eq_ok_iff {start deadline : Instant} {span : Duration} :
    after start span = .ok deadline
      ↔ ∃ shift, span.micros = .ok shift
          ∧ (deadline.micros : Int) = start.micros + shift := by
  unfold after
  rcases hmicros : span.micros with cause | shift
  · simp
  · simp only [Except.ok.injEq, exists_eq_left']
    rw [← Instant.ofMicros?_eq_some_iff]
    rcases Instant.ofMicros? (start.micros + shift) with - | instant
    · simp
    · simp

/-- A span leads out of the calendar when it is infinite, or when the sum of the
microseconds is the count of no instant. -/
theorem after_eq_outOfRange_iff {start : Instant} {span : Duration} :
    after start span = .error .outOfRange
      ↔ span.micros = .error .outOfRange
        ∨ ∃ shift, span.micros = .ok shift
          ∧ (start.micros + shift < 0
            ∨ (3652059 * microsPerDay : Nat) ≤ start.micros + shift) := by
  unfold after
  rcases hmicros : span.micros with cause | shift
  · simp
  · simp only [Except.ok.injEq, exists_eq_left', reduceCtorEq, false_or]
    rw [← Instant.ofMicros?_eq_none_iff]
    rcases Instant.ofMicros? (start.micros + shift) with - | instant
    · simp
    · simp

end Duration

end StatelessAuth
