/-
The texts that pass as tokens are those that were honestly made: the
spellings of an identity and of an expiration that is not past, and behind
them the signature that the key gives for these spellings and the salt
(`validate_accepts_iff`).

Every step of the way from the text to the answer takes one form only:
pieces are cut at points, a piece has one spelling, what is read is spelled
again before it is signed, and the signature is compared character by
character. So a second text for the same identity and expiration would have
to differ somewhere, and there is no place where it could.
-/
import StatelessAuth.Proofs.Timestamp.RoundTrip
import StatelessAuth.Proofs.Token.Codec
import StatelessAuth.Proofs.Token.Issue

namespace StatelessAuth

/-- Data that can sign are bytes, or a buffer of bytes, and not
empty. -/
theorem Key.usable?_ofValue_eq_some_iff {datum : Value} {secret : List UInt8} :
    (Key.ofValue datum).usable? = some secret
      ↔ secret ≠ [] ∧ (datum = .bytes secret ∨ datum = .buffer secret) := by
  rw [Key.usable?_eq_some_iff]
  cases datum with
  | bytes data => simp [Key.ofValue]
  | buffer data => simp [Key.ofValue]
  | _ => simp [Key.ofValue]

namespace Token

theorem ne_empty_of_parse {expiration : String} {deadline : Instant}
    (h : Timestamp.parse expiration = .ok deadline) : expiration ≠ "" := by
  intro h
  subst h
  cases h

/-- A text passes when it is the text of a token with an identity, signed,
and not past. -/
theorem validate_eq_ok_iff {now : Instant} {text salt : String} {key : Key} :
    validate now text salt key = .ok ()
      ↔ ∃ token : Token, text = token.toText ∧ token.identity ≠ ""
          ∧ signatureFor key token.identity token.expiration salt
              = .ok token.signature
          ∧ ∃ deadline, Timestamp.parse token.expiration = .ok deadline
            ∧ now ≤ deadline := by
  have hstep : validate now text salt key = .ok ()
      ↔ ∃ token, ofText text = .ok token
        ∧ check now token salt key = .ok () := by
    unfold validate
    split
    case h_1 hread => simp [hread]
    case h_2 token hread => simp [hread]
  rw [hstep]
  constructor
  · intro h
    obtain ⟨token, hread, hcheck⟩ := h
    obtain ⟨htext, hidentity, -, -, -⟩ := ofText_eq_ok_iff.1 hread
    obtain ⟨hsignature, hexpiration⟩ := check_eq_ok_iff.1 hcheck
    exact ⟨token, htext, hidentity, hsignature, hexpiration⟩
  · intro h
    obtain ⟨token, rfl, hidentity, hsignature, deadline, hparse, hle⟩ := h
    obtain ⟨hne, hdot⟩ := signature_shape hsignature
    exact ⟨token, ofText_toText hidentity (ne_empty_of_parse hparse) hne hdot,
      check_eq_ok_iff.2 ⟨hsignature, deadline, hparse, hle⟩⟩

/-- A token is given by its identity and its expiration, if it was signed
by a known key in a known context. -/
theorem eq_of_signatureFor {key : Key} {salt : String} {token other : Token}
    (h : signatureFor key token.identity token.expiration salt
      = .ok token.signature)
    (h' : signatureFor key other.identity other.expiration salt
      = .ok other.signature)
    (hidentity : token.identity = other.identity)
    (hexpiration : token.expiration = other.expiration) : token = other := by
  rw [hidentity, hexpiration, h'] at h
  injection h with hsignature
  cases token
  cases other
  simp only [mk.injEq]
  exact ⟨hidentity, hexpiration, hsignature.symm⟩

/-- A text passes exactly if it is made of the spelling of an identity, the
spelling of an expiration that is not past, and the signature of the two in
the context of the salt, by a key that signs. Two texts that pass with the
same salt and the same key, at whatever instants, and name the same identity
and the same expiration are the same text. -/
theorem validate_accepts_iff (now : Instant) (text salt : String)
    (datum : Value) :
    (validate now text salt (Key.ofValue datum) = .ok ()
      ↔ (∃ secret, secret ≠ []
        ∧ (datum = .bytes secret ∨ datum = .buffer secret))
        ∧ ∃ identity expiration deadline signature,
            identity ≠ ""
            ∧ Timestamp.parse expiration = .ok deadline ∧ now ≤ deadline
            ∧ sign (Key.ofValue datum)
                (Base64url.encodeText identity ++ "."
                  ++ Base64url.encodeText expiration) salt
              = .ok signature
            ∧ text = Base64url.encodeText identity ++ "."
                ++ Base64url.encodeText expiration ++ "." ++ signature)
    ∧ ∀ (later : Instant) (other : String) (token otherToken : Token),
        validate now text salt (Key.ofValue datum) = .ok () →
        validate later other salt (Key.ofValue datum) = .ok () →
        ofText text = .ok token → ofText other = .ok otherToken →
        token.identity = otherToken.identity →
        token.expiration = otherToken.expiration →
        text = other := by
  constructor
  · rw [validate_eq_ok_iff]
    constructor
    · intro h
      obtain ⟨token, rfl, hidentity, hsignature, deadline, hparse, hle⟩ := h
      obtain ⟨secret, husable, -⟩ := sign_eq_ok_iff.1 hsignature
      exact ⟨⟨secret, Key.usable?_ofValue_eq_some_iff.1 husable⟩,
        token.identity, token.expiration, deadline, token.signature,
        hidentity, hparse, hle, hsignature, rfl⟩
    · intro h
      obtain ⟨-, identity, expiration, deadline, signature, hidentity,
        hparse, hle, hsignature, rfl⟩ := h
      exact ⟨⟨identity, expiration, signature⟩, rfl, hidentity, hsignature,
        deadline, hparse, hle⟩
  · intro later other token otherToken hvalid hvalid' hread hread'
      hidentity hexpiration
    obtain ⟨signed, hsigned, -, hsignature, -⟩ := validate_eq_ok_iff.1 hvalid
    obtain ⟨signed', hsigned', -, hsignature', -⟩ :=
      validate_eq_ok_iff.1 hvalid'
    -- each text is that of what it is read as, and there is one
    -- signature for what both say
    have htext := (ofText_eq_ok_iff.1 hread).1
    have hother := (ofText_eq_ok_iff.1 hread').1
    rw [toText_injective (hsigned.symm.trans htext)] at hsignature
    rw [toText_injective (hsigned'.symm.trans hother)] at hsignature'
    rw [htext, hother,
      eq_of_signatureFor hsignature hsignature' hidentity hexpiration]

/-- A token that is signed with the bytes of a buffer passes at the instant of
its expiration, a minute into 2024, and as the only text for what it says. -/
theorem validate_accepts_at_deadline :
    ∃ text token, ofText text = .ok token
      ∧ validate ⟨63839664060000000, by decide⟩ text "Wg.AA"
          (Key.ofValue (.buffer [107])) = .ok ()
      ∧ ∀ other otherToken,
          validate ⟨63839664060000000, by decide⟩ other "Wg.AA"
            (Key.ofValue (.buffer [107])) = .ok () →
          ofText other = .ok otherToken → token.identity = otherToken.identity →
          token.expiration = otherToken.expiration → text = other := by
  have hparse : Timestamp.parse
      (Timestamp.format ⟨63839664060000000, by decide⟩)
      = .ok ⟨63839664060000000, by decide⟩ := Timestamp.parse_format (by decide)
  obtain ⟨signature, hsignature⟩ :
    ∃ signature, sign (Key.ofValue (.buffer [107]))
      (Base64url.encodeText "a.b" ++ "."
        ++ Base64url.encodeText
          (Timestamp.format ⟨63839664060000000, by decide⟩)) "Wg.AA"
      = .ok signature := ⟨_, sign_eq_ok_iff.2 ⟨[107], rfl, rfl⟩⟩
  have haccepts := fun text => validate_accepts_iff
    ⟨63839664060000000, by decide⟩ text "Wg.AA" (.buffer [107])
  have hvalid := (haccepts _).1.2
    ⟨⟨[107], by decide, Or.inr rfl⟩, "a.b", _, _, signature,
      by decide, hparse, Nat.le_refl _, hsignature, rfl⟩
  obtain ⟨token, htext, hidentity, hsigned, deadline, hdeadline, -⟩ :=
    validate_eq_ok_iff.1 hvalid
  obtain ⟨hne, hdot⟩ := signature_shape hsigned
  have hread := ofText_toText hidentity (ne_empty_of_parse hdeadline) hne hdot
  rw [← htext] at hread
  exact ⟨_, token, hread, hvalid, fun other otherToken hother hread' =>
    (haccepts _).2 _ other token otherToken hvalid hother hread hread'⟩

end Token

end StatelessAuth
