/-
Lifetimes of zero or less. A token for one is issued, and it is of no use: its
end is the instant of the issue or lies before it, and what is past stays past
(`validate_of_nonpositive`). Two cases are not that simple.

At its end a token still holds. So one whose lifetime comes to no microsecond
passes once, at the instant of its issue itself, and only then.

An end before the year 1000 is written and signed, but not read. Such a token is
refused as one whose expiration cannot be read, not as one that has expired.
-/
import StatelessAuth.Proofs.Token.Lifetime

namespace StatelessAuth

namespace Duration

/-- A span that is a number and not above zero. -/
def IsNonpositive : Duration → Prop
  | whole seconds => seconds ≤ 0
  | real (.finite negative significand _) => negative = true ∨ significand = 0
  | real (.infinite negative) => negative = true
  | real .nan => False
  | notNumeric => False

/-- A rest is rounded away from zero or not at all. -/
theorem roundRest_le (sum : Int) (rest : Nat) :
    roundRest sum true rest ≤ sum := by
  unfold roundRest
  simp only [if_true]
  split
  · exact Int.le_refl sum
  · split
    · omega
    · split
      · exact Int.le_refl sum
      · omega

/-- A number below zero is rounded to one that is not above it. -/
theorem microsOfUnits_le (units : Nat) : microsOfUnits true units ≤ 0 := by
  unfold microsOfUnits
  simp only [if_true]
  refine Int.le_trans (roundRest_le _ _) (Int.neg_nonpos_of_nonneg ?_)
  refine Int.add_nonneg (Int.mul_nonneg ?_ (by decide)) ?_
  · exact Int.ediv_nonneg (Int.natCast_nonneg _) (Int.natCast_nonneg _)
  · exact Int.ediv_nonneg (Int.natCast_nonneg _) (Int.natCast_nonneg _)

theorem microsOfUnits_zero : microsOfUnits false 0 = 0 := by decide +kernel

/-- A span that is not above zero does not lead forward. -/
theorem micros_nonpos {span : Duration} {shift : Int} (h : span.IsNonpositive)
    (hmicros : span.micros = .ok shift) : shift ≤ 0 := by
  cases span with
  | notNumeric => exact h.elim
  | whole seconds =>
      have hseconds : seconds ≤ 0 := h
      cases hmicros
      omega
  | real seconds =>
      cases seconds with
      | nan => exact h.elim
      | infinite negative => cases hmicros
      | finite negative significand doublings =>
          have hshift :
              microsOfUnits negative (significand * twoTo doublings) = shift :=
            Except.ok.inj hmicros
          rw [← hshift]
          rcases h with rfl | rfl
          · exact microsOfUnits_le _
          · rw [Nat.zero_mul]
            cases negative with
            | true => exact microsOfUnits_le 0
            | false => exact Int.le_of_eq microsOfUnits_zero

/-- The end of such a span is its start if it comes to no microsecond,
and before it otherwise. -/
theorem after_nonpositive {start deadline : Instant} {span : Duration}
    (h : span.IsNonpositive) (hafter : after start span = .ok deadline) :
    deadline ≤ start ∧ (deadline = start ↔ span.micros = .ok 0) := by
  obtain ⟨shift, hmicros, hsum⟩ := after_eq_ok_iff.1 hafter
  have hshift := micros_nonpos h hmicros
  have hle : deadline.micros ≤ start.micros := by omega
  refine ⟨hle, ?_⟩
  rw [hmicros, Except.ok.injEq]
  constructor
  · rintro rfl
    omega
  · rintro rfl
    apply Instant.eq_of_micros_eq
    omega

end Duration

namespace Token

/-- A token for a lifetime of zero or less has expired at its issue and
ever after, but for the instant of the issue itself when the lifetime
comes to no microsecond, and but for an end before the year 1000, which
is refused as unreadable. -/
theorem validate_of_nonpositive {now : Instant} {identity salt : String}
    {lifetime : Duration} {key : Key} {token : Token}
    (hlifetime : lifetime.IsNonpositive) (hidentity : identity ≠ "")
    (htoken : issue now identity lifetime salt key = .ok token) :
    ∃ deadline, Duration.after now lifetime = .ok deadline ∧ deadline ≤ now
      ∧ (deadline = now ↔ lifetime.micros = .ok 0)
      ∧ ∀ clock, now ≤ clock →
          validate clock token.toText salt key =
            if deadline.year < 1000
              then .error (.refused .expirationUnparseable)
            else if deadline = now ∧ clock = now then .ok ()
            else .error (.refused .expired) := by
  obtain ⟨deadline, hdeadline, -⟩ := issue_eq_ok_iff.1 htoken
  obtain ⟨hle, hzero⟩ := Duration.after_nonpositive hlifetime hdeadline
  refine ⟨deadline, hdeadline, hle, hzero, ?_⟩
  intro clock hclock
  by_cases hyear : deadline.year < 1000
  · rw [if_pos hyear]
    exact validate_of_issue_of_lt htoken hdeadline hyear hidentity clock
  · rw [if_neg hyear,
      validate_of_issue htoken hdeadline (Nat.le_of_not_lt hyear)
        hidentity clock]
    -- the clock is not past the end only where all three instants are one
    have hsame : clock ≤ deadline ↔ deadline = now ∧ clock = now := by
      constructor
      · intro h
        exact ⟨Instant.le_antisymm hle (Nat.le_trans hclock h),
          Instant.le_antisymm (Nat.le_trans h hle) hclock⟩
      · rintro ⟨rfl, rfl⟩
        exact Nat.le_refl _
    rw [if_congr hsame rfl rfl]

/-- Noon of the last day of February 2024. -/
def leapNoon : Instant := ⟨63844804800000000, by decide⟩

/-- A token is issued then for every lifetime that ends in the
calendar. -/
theorem exists_issue_leapNoon {lifetime : Duration} {deadline : Instant}
    (h : Duration.after leapNoon lifetime = .ok deadline) :
    ∃ token, issue leapNoon "ana" lifetime "salt" (.bytes [107])
      = .ok token := by
  have hkey : (Key.bytes [107]).usable? = some [107] :=
    Key.usable?_eq_some_iff.2 ⟨List.cons_ne_nil _ _, rfl⟩
  exact exists_issue h hkey "ana" "salt"

/-- A token for a second less than none has expired when it is issued. -/
theorem validate_of_nonpositive_second :
    (Duration.whole (-1)).IsNonpositive
      ∧ ∃ token,
          issue leapNoon "ana" (.whole (-1)) "salt" (.bytes [107]) = .ok token
        ∧ validate leapNoon token.toText "salt" (.bytes [107])
            = .error (.refused .expired) := by
  have hlifetime : (Duration.whole (-1)).IsNonpositive := by
    show (-1 : Int) ≤ 0
    decide
  have hdeadline : Duration.after leapNoon (.whole (-1))
      = .ok ⟨63844804799000000, by decide⟩ :=
    Duration.after_eq_ok_iff.2 ⟨-1000000, rfl, by decide⟩
  obtain ⟨token, htoken⟩ := exists_issue_leapNoon hdeadline
  obtain ⟨deadline, hafter, -, -, hvalidate⟩ :=
    validate_of_nonpositive hlifetime (by decide) htoken
  cases hdeadline.symm.trans hafter
  refine ⟨hlifetime, token, htoken, ?_⟩
  rw [hvalidate leapNoon (Nat.le_refl _), if_neg (by decide +kernel),
    if_neg (by decide)]

/-- A token for no time at all passes at the instant of its issue. -/
theorem zero_passes_at_issue :
    (Duration.whole 0).IsNonpositive
      ∧ ∃ token,
          issue leapNoon "ana" (.whole 0) "salt" (.bytes [107]) = .ok token
        ∧ validate leapNoon token.toText "salt" (.bytes [107]) = .ok () := by
  have hdeadline : Duration.after leapNoon (.whole 0) = .ok leapNoon :=
    Duration.after_eq_ok_iff.2 ⟨0, rfl, by decide⟩
  obtain ⟨token, htoken⟩ := exists_issue_leapNoon hdeadline
  refine ⟨Int.le_refl 0, token, htoken, ?_⟩
  rw [validate_of_issue htoken hdeadline
    (show 1000 ≤ leapNoon.year by decide +kernel) (by decide) leapNoon]
  exact if_pos (Nat.le_refl _)

end Token

end StatelessAuth
