/-
What the issuing of a token yields and what the check of one asks for,
each said once: `issue_eq_ok_iff` and `check_eq_ok_iff`.
-/
import StatelessAuth.Proofs.Signature
import StatelessAuth.Token

namespace StatelessAuth.Token

/-- A token is issued when the end of its lifetime is an instant and the
key signs. -/
theorem issue_eq_ok_iff {now : Instant} {identity salt : String}
    {lifetime : Duration} {key : Key} {token : Token} :
    issue now identity lifetime salt key = .ok token
      ↔ ∃ deadline, Duration.after now lifetime = .ok deadline
          ∧ token.identity = identity
          ∧ token.expiration = Timestamp.format deadline
          ∧ signatureFor key token.identity token.expiration salt
              = .ok token.signature := by
  unfold issue
  constructor
  · intro h
    split at h
    case h_1 => cases h
    case h_2 deadline hdeadline =>
      simp only at h
      split at h
      case h_1 => cases h
      case h_2 signature hsignature =>
        cases h
        exact ⟨deadline, hdeadline, rfl, rfl, hsignature⟩
  · intro h
    obtain ⟨deadline, hdeadline, rfl, hexpiration, hsignature⟩ := h
    -- what was signed is what the deadline is written as
    rw [hexpiration] at hsignature
    rw [hdeadline]
    simp only
    rw [hsignature]
    simp only
    rw [← hexpiration]

/-- A token can be issued whenever the end of its lifetime is an instant, if
the key signs at all. -/
theorem exists_issue {now deadline : Instant} {lifetime : Duration} {key : Key}
    {secret : List UInt8}
    (hdeadline : Duration.after now lifetime = .ok deadline)
    (hkey : key.usable? = some secret) (identity salt : String) :
    ∃ token, issue now identity lifetime salt key = .ok token := by
  obtain ⟨signature, hsignature⟩ :
      ∃ signature, signatureFor key identity (Timestamp.format deadline) salt
        = .ok signature := ⟨_, sign_eq_ok_iff.2 ⟨secret, hkey, rfl⟩⟩
  exact ⟨⟨identity, Timestamp.format deadline, signature⟩,
    issue_eq_ok_iff.2 ⟨deadline, hdeadline, rfl, rfl, hsignature⟩⟩

/-- A policy issues the texts of such tokens. -/
theorem policyIssue_eq_ok_iff {now : Instant} {identity salt text : String}
    {policy : TokenPolicy} :
    policy.issue now identity salt = .ok text
      ↔ ∃ token, issue now identity policy.lifetime salt policy.key = .ok token
          ∧ text = token.toText := by
  unfold TokenPolicy.issue
  constructor
  · intro h
    cases htoken : issue now identity policy.lifetime salt policy.key with
    | error cause =>
        rw [htoken, Except.map] at h
        cases h
    | ok token =>
        rw [htoken, Except.map] at h
        injection h with h
        exact ⟨token, rfl, h.symm⟩
  · intro h
    obtain ⟨token, htoken, rfl⟩ := h
    rw [htoken]
    rfl

/-- An expiration passes when it is an instant that is not past. -/
theorem checkExpiration_eq_ok_iff {now : Instant} {expiration : String} :
    checkExpiration now expiration = .ok ()
      ↔ ∃ deadline, Timestamp.parse expiration = .ok deadline
        ∧ now ≤ deadline := by
  unfold checkExpiration
  split
  case h_1 hparse => simp [hparse]
  case h_2 hparse => simp [hparse]
  case h_3 deadline hparse =>
    split
    case isTrue hlt =>
      constructor
      · intro h
        cases h
      · intro h
        obtain ⟨other, hother, hle⟩ := h
        rw [hparse] at hother
        cases hother
        exact absurd hlt (Nat.not_lt_of_le hle)
    case isFalse hge =>
      exact ⟨fun _ => ⟨deadline, hparse, Nat.le_of_not_lt hge⟩, fun _ => rfl⟩

/-- A token passes when its signature is the one that the key gives, and its
expiration is not past. -/
theorem check_eq_ok_iff {now : Instant} {token : Token} {salt : String}
    {key : Key} :
    check now token salt key = .ok ()
      ↔ signatureFor key token.identity token.expiration salt
          = .ok token.signature
        ∧ ∃ deadline, Timestamp.parse token.expiration = .ok deadline
          ∧ now ≤ deadline := by
  unfold check
  split
  case h_1 hsignature => simp [hsignature]
  case h_2 signature hsignature =>
    rw [hsignature, ← checkExpiration_eq_ok_iff]
    split
    case isTrue heq => simp [heq]
    case isFalse hne => simp [hne]

end StatelessAuth.Token
