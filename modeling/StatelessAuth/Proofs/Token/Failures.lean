/-
What the judgement of a text ends with: the text passes, or is refused for a
reason of the closed list, or there is an accident of the calendar.

# The one way out of the list

The reading of an expiration fails in two ways. What is not of the form, or
names a time that does not exist, is malformed, and that is a reason of the
list. But a time may exist where its clock stands, and have no place in the
calendar once the clock is set to UTC: at the very beginning of the year 1 in
the east, at the very end of the year 9999 in the west
(`Timestamp.LeavesCalendar`). No reason of the list stands for that.

The expiration is read only when it is signed, so it takes somebody who has the
key to get there (`validate_eq_outOfRange_iff`).
-/
import StatelessAuth.Proofs.Token.Precedence

namespace StatelessAuth.Token

/-- The text passes, or is refused for a reason that speaks of a token or of
the key. -/
def IsClosed (outcome : Except Failure Unit) : Prop :=
  outcome = .ok ()
    ∨ ∃ reason : Refusal, (reason.isOfToken = true ∨ reason = .signingFailed)
      ∧ outcome = .error (.refused reason)

/-- The text is a token, signed with the key and the salt, whose expiration
leaves the calendar on its way to UTC. -/
def IsSignedAstray (text salt : String) (key : Key) : Prop :=
  ∃ token, ofText text = .ok token
    ∧ signatureFor key token.identity token.expiration salt
      = .ok token.signature
    ∧ Timestamp.LeavesCalendar token.expiration

variable {now : Instant} {text salt : String} {key : Key} {demand : Demand}
  {failure : Failure}

-- ======================================================== the outcomes

/-- Whatever demand is not met, what comes of it is a reason of the list, or
the expiration leaves the calendar. -/
theorem isClosed_of_unmet (h : Unmet now text salt key demand failure) :
    IsClosed (.error failure) ∨ failure = .expirationOutOfRange := by
  cases h with
  | form => exact .inl (.inr ⟨_, .inl rfl, rfl⟩)
  | identity => exact .inl (.inr ⟨_, .inl rfl, rfl⟩)
  | expiration => exact .inl (.inr ⟨_, .inl rfl, rfl⟩)
  | key => exact .inl (.inr ⟨_, .inr rfl, rfl⟩)
  | signature => exact .inl (.inr ⟨_, .inl rfl, rfl⟩)
  | malformed => exact .inl (.inr ⟨_, .inl rfl, rfl⟩)
  | outOfRange => exact .inr rfl
  | lifetime => exact .inl (.inr ⟨_, .inl rfl, rfl⟩)

/-- The accident is neither a pass nor a refusal. -/
theorem not_isClosed_outOfRange :
    ¬ IsClosed (.error .expirationOutOfRange) := by
  intro h
  rcases h with h | ⟨reason, -, h⟩
  · cases h
  · cases h

-- ==================================================== out of the calendar

/-- A text that is signed and leaves the calendar ends there at every
instant. -/
theorem validate_of_isSignedAstray (h : IsSignedAstray text salt key) :
    validate now text salt key = .error .expirationOutOfRange := by
  obtain ⟨token, hread, hsigned, hleaves⟩ := h
  rw [validate_of_ofText hread, check_eq_checkExpiration hsigned,
    checkExpiration, Timestamp.parse_eq_outOfRange_iff.2 hleaves]

/-- An expiration leaves the calendar only if it is signed. -/
theorem validate_eq_outOfRange_iff :
    validate now text salt key = .error .expirationOutOfRange
      ↔ IsSignedAstray text salt key := by
  refine ⟨?_, validate_of_isSignedAstray⟩
  intro h
  obtain ⟨demand, hunmet, hfirst⟩ := validate_eq_error_iff.1 h
  cases hunmet with
  | outOfRange hcut hspells hparse =>
      -- the demands before this one are met, so that the text was read
      -- and is signed
      obtain ⟨token, hread⟩ := exists_ofText_of_met (hfirst.mono (by decide))
      obtain ⟨-, hsecond, -⟩ := hcut.pieces_eq hread
      rw [hsecond, Base64url.decodeText_encodeText] at hspells
      cases hspells
      exact ⟨token, hread, signatureFor_of_met hread hfirst,
        Timestamp.parse_eq_outOfRange_iff.1 hparse⟩

-- ============================================================ the list

/-- A judgement, be it with a key or with the policy of the key, ends in the
list unless the text is signed and its expiration leaves the calendar; and then
it ends outside the list, at every instant. -/
theorem validate_closed_iff (now : Instant) (text salt : String) (key : Key)
    (lifetime : Duration) :
    (IsClosed (validate now text salt key) ↔ ¬ IsSignedAstray text salt key)
      ∧ (IsSignedAstray text salt key →
          validate now text salt key = .error .expirationOutOfRange)
      ∧ (TokenPolicy.mk key lifetime).validate now text salt
          = validate now text salt key := by
  refine ⟨?closed, validate_of_isSignedAstray, rfl⟩
  case closed =>
    constructor
    · intro hclosed hastray
      rw [validate_of_isSignedAstray hastray] at hclosed
      exact not_isClosed_outOfRange hclosed
    · intro hkept
      cases houtcome : validate now text salt key with
      | ok => exact .inl rfl
      | error failure =>
          obtain ⟨demand, hunmet, -⟩ := validate_eq_error_iff.1 houtcome
          rcases isClosed_of_unmet hunmet with hclosed | rfl
          · exact hclosed
          · exact absurd (validate_eq_outOfRange_iff.1 houtcome) hkept

/-- The outcome of an expiration that leaves the calendar, told apart by
computation. -/
def isOutOfRange : Except Failure Unit → Bool
  | .error .expirationOutOfRange => true
  | _ => false

/-- What is computed is the outcome that is meant. -/
theorem eq_of_isOutOfRange {outcome : Except Failure Unit}
    (h : isOutOfRange outcome = true) :
    outcome = .error .expirationOutOfRange := by
  unfold isOutOfRange at h
  split at h
  · rfl
  · cases h

/-- The text of a token for the first instant of the year 1, an hour east of
UTC, signed with the key of the one byte 107 and the salt "salt". -/
def eastern : String :=
  "YW5h.MDAwMS0wMS0wMVQwMDowMDowMCswMTowMA.jeXF3mS-GhkRjKDwb_h1V4DYUX4BZH1AwPO38fp3caAS1Hws9etadpE0TNNgf8dPx8xBHOv_1h5CeYRzhMGZsQ"

/-- At the beginning of the year 2024 the token of that instant ends outside
the list. -/
theorem eastern_not_closed :
    validate ⟨63839664000000000, by decide⟩ eastern "salt" (.bytes [107])
        = .error .expirationOutOfRange
      ∧ ¬ IsClosed
        (validate ⟨63839664000000000, by decide⟩ eastern "salt"
          (.bytes [107])) := by
  have houtcome : validate ⟨63839664000000000, by decide⟩ eastern "salt"
      (.bytes [107]) = .error .expirationOutOfRange :=
    eq_of_isOutOfRange (by decide +kernel)
  rw [houtcome]
  exact ⟨rfl, not_isClosed_outOfRange⟩

end StatelessAuth.Token
