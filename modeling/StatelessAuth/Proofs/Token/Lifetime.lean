/-
How long a token is of use: until the instant at which its lifetime ends,
that instant included, and not after it (`issue_valid_until_deadline`). Before
the issue it is of use as well; nothing tells when a token was made.

The instant goes a long way between the issue and the check. It is written
as a text, spelled in base64url, put between two points, cut out again,
read, spelled once more for the signature, and read as an instant. No step
may lose a microsecond, and none may refuse what the step before it wrote.
The one thing that is asked for is a year of four digits, since other years
are written but not read (`Timestamp.parse_format`).
-/
import StatelessAuth.Proofs.Duration
import StatelessAuth.Proofs.Timestamp.RoundTrip
import StatelessAuth.Proofs.Token.Codec
import StatelessAuth.Proofs.Token.Issue

namespace StatelessAuth.Token

variable {now deadline : Instant} {identity salt : String}
  {lifetime : Duration} {key : Key} {token : Token}

-- ============================================================ one check

/-- An expiration that can be read passes or is past, and nothing else. -/
theorem checkExpiration_of_parse {expiration : String}
    (h : Timestamp.parse expiration = .ok deadline) (clock : Instant) :
    checkExpiration clock expiration
      = if clock ≤ deadline then .ok () else .error (.refused .expired) := by
  unfold checkExpiration
  rw [h]
  simp only
  by_cases hle : clock ≤ deadline
  · have hnot : ¬ deadline < clock := Nat.not_lt_of_le hle
    rw [if_neg hnot, if_pos hle]
  · have hlt : deadline < clock := Nat.lt_of_not_le hle
    rw [if_pos hlt, if_neg hle]

/-- Of a signed token the expiration decides. -/
theorem check_eq_checkExpiration
    (hsigned : signatureFor key token.identity token.expiration salt
      = .ok token.signature) :
    check now token salt key = checkExpiration now token.expiration := by
  unfold check
  rw [hsigned]
  show (if token.signature = token.signature then _ else _) = _
  rw [if_pos rfl]

/-- A signed token whose expiration can be read passes or has expired. -/
theorem check_of_signed
    (hsigned : signatureFor key token.identity token.expiration salt
      = .ok token.signature)
    (hparse : Timestamp.parse token.expiration = .ok deadline)
    (clock : Instant) :
    check clock token salt key
      = if clock ≤ deadline then .ok () else .error (.refused .expired) := by
  rw [check_eq_checkExpiration hsigned]
  exact checkExpiration_of_parse hparse clock

-- ========================================================= from the issue

/-- What is issued for somebody is read back from its text. -/
theorem ofText_of_issue
    (htoken : issue now identity lifetime salt key = .ok token)
    (hidentity : identity ≠ "") : ofText token.toText = .ok token := by
  obtain ⟨deadline, -, rfl, hexpiration, hsignature⟩ := issue_eq_ok_iff.1 htoken
  obtain ⟨hne, hdot⟩ := signature_shape hsignature
  refine ofText_toText hidentity ?_ hne hdot
  rw [hexpiration]
  exact Timestamp.format_ne_empty deadline

/-- Of the text of what is issued the end of the lifetime decides. -/
theorem validate_eq_checkExpiration_of_issue
    (htoken : issue now identity lifetime salt key = .ok token)
    (hdeadline : Duration.after now lifetime = .ok deadline)
    (hidentity : identity ≠ "")
    (clock : Instant) :
    validate clock token.toText salt key
      = checkExpiration clock (Timestamp.format deadline) := by
  obtain ⟨instant, hinstant, -, hexpiration, hsigned⟩ :=
    issue_eq_ok_iff.1 htoken
  -- the expiration was written from the same instant that the lifetime
  -- leads to
  have hsame : instant = deadline := by
    rw [hdeadline] at hinstant
    injection hinstant with h
    exact h.symm
  unfold validate
  rw [ofText_of_issue htoken hidentity, ← hsame, ← hexpiration]
  exact check_eq_checkExpiration hsigned

/-- The text of what is issued is checked by nothing but the clock. -/
theorem validate_of_issue
    (htoken : issue now identity lifetime salt key = .ok token)
    (hdeadline : Duration.after now lifetime = .ok deadline)
    (hyear : 1000 ≤ deadline.year)
    (hidentity : identity ≠ "") (clock : Instant) :
    validate clock token.toText salt key
      = if clock ≤ deadline then .ok () else .error (.refused .expired) := by
  rw [validate_eq_checkExpiration_of_issue htoken hdeadline hidentity]
  exact checkExpiration_of_parse (Timestamp.parse_format hyear) clock

/-- A lifetime that ends before the year 1000 is signed, but its end is
not read. -/
theorem validate_of_issue_of_lt
    (htoken : issue now identity lifetime salt key = .ok token)
    (hdeadline : Duration.after now lifetime = .ok deadline)
    (hyear : deadline.year < 1000)
    (hidentity : identity ≠ "") (clock : Instant) :
    validate clock token.toText salt key
      = .error (.refused .expirationUnparseable) := by
  rw [validate_eq_checkExpiration_of_issue htoken hdeadline hidentity,
    checkExpiration, Timestamp.parse_format_eq, if_neg (Nat.not_le_of_lt hyear)]

/-- Whenever a lifetime ends in a year of four digits, a token is issued that
is read back from its text, and at every instant its text passes up to the
end of the lifetime and has expired after it. The same comes of a policy with
this key and this lifetime. -/
theorem issue_valid_until_deadline {secret : List UInt8}
    (hdeadline : Duration.after now lifetime = .ok deadline)
    (hyear : 1000 ≤ deadline.year)
    (hidentity : identity ≠ "") (hsecret : secret ≠ []) (salt : String) :
    ∃ token, issue now identity lifetime salt (.bytes secret) = .ok token
      ∧ ofText token.toText = .ok token
      ∧ (TokenPolicy.mk (.bytes secret) lifetime).issue now identity salt
          = .ok token.toText
      ∧ ∀ clock,
          validate clock token.toText salt (.bytes secret)
              = (if clock ≤ deadline then .ok ()
                  else .error (.refused .expired))
            ∧ (TokenPolicy.mk (.bytes secret) lifetime).validate clock
                token.toText salt
              = (if clock ≤ deadline then .ok ()
                  else .error (.refused .expired)) := by
  have hkey : (Key.bytes secret).usable? = some secret :=
    Key.usable?_eq_some_iff.2 ⟨hsecret, rfl⟩
  obtain ⟨token, htoken⟩ := exists_issue hdeadline hkey identity salt
  refine ⟨token, htoken, ofText_of_issue htoken hidentity, ?_, ?_⟩
  · unfold TokenPolicy.issue
    rw [htoken]
    rfl
  · intro clock
    have hvalidate := validate_of_issue htoken hdeadline hyear hidentity clock
    exact ⟨hvalidate, hvalidate⟩

/-- Half a second before the year 1000, for half a second: the token passes at
the first instant of the year and has expired a microsecond later. -/
theorem issue_valid_until_deadline_of_year :
    ∃ token, issue ⟨31525372799500000, by decide⟩ "a.b"
        (.real (.finite false (twoTo 52) 1021)) "Wg.AA" (.bytes [107])
          = .ok token
      ∧ validate ⟨31525372800000000, by decide⟩ token.toText "Wg.AA"
          (.bytes [107]) = .ok ()
      ∧ validate ⟨31525372800000001, by decide⟩ token.toText "Wg.AA"
          (.bytes [107]) = .error (.refused .expired) := by
  have hmicros : Duration.microsOfUnits false (twoTo 52 * twoTo 1021)
      = 500000 := by
    decide +kernel
  have hdeadline : Duration.after ⟨31525372799500000, by decide⟩
      (.real (.finite false (twoTo 52) 1021))
        = .ok ⟨31525372800000000, by decide⟩ :=
    Duration.after_eq_ok_iff.2 ⟨500000, congrArg Except.ok hmicros, by decide⟩
  obtain ⟨token, htoken, -, -, hvalid⟩ := issue_valid_until_deadline hdeadline
    (show 1000 ≤ Instant.year _ by decide +kernel) (show "a.b" ≠ "" by decide)
    (show [(107 : UInt8)] ≠ [] by decide) "Wg.AA"
  refine ⟨token, htoken, ?_, ?_⟩
  · rw [(hvalid _).1]
    exact if_pos (by decide)
  · rw [(hvalid _).1]
    exact if_neg (by decide)

end StatelessAuth.Token
