/-
A signature belongs to one identity, one expiration and one salt
(`issue_binds_signature`): nobody can move the signature of a token to
another identity, another expiration or the salt of another user, unless
the keyed digest collides.

# Why no boundary is missing

Between the expiration and the salt nothing is signed, and the salt may be
any text, so it could be feared that characters of the one pass for
characters of the other. The first point ends the spelling of the
identity, since a spelling has none. Of the two spellings of expirations
behind it one begins the other, so the expirations begin each other too
(`Base64url.isPrefix_of_encodeChars`), and the form of timestamps lets no
text of it begin another (`Timestamp.formatChars_eq_of_isPrefix`). What
then is left is the salt.

A token as a whole has only the salt left to be changed. With another one it
does not pass, whatever its expiration is and whether or not that can be
read (`check_of_other_salt`).
-/
import StatelessAuth.Proofs.Base64url.Prefix
import StatelessAuth.Proofs.Text.Split
import StatelessAuth.Proofs.Text.Utf8
import StatelessAuth.Proofs.Timestamp.RoundTrip
import StatelessAuth.Proofs.Token.Issue

namespace StatelessAuth.Token

/-- What is signed has one point, behind the spelling of the
identity. -/
theorem toList_signedContent_append (identity expiration salt : String) :
    (signedContent identity expiration ++ salt).toList
      = Base64url.encodeChars (Utf8.encode identity)
        ++ '.' :: (Base64url.encodeChars (Utf8.encode expiration)
          ++ salt.toList) := by
  unfold signedContent
  simp [String.toList_append]

/-- An expiration that was written and one that is accepted are the same, if
of their spellings with something behind them the characters agree. -/
theorem expiration_eq_of_append {deadline : Instant} {expiration : String}
    {reading : Timestamp.Reading} {salt salt' : List Char}
    (hscan : Timestamp.scan? expiration.toList = some reading)
    (h : Base64url.encodeChars (Utf8.encode (Timestamp.format deadline)) ++ salt
      = Base64url.encodeChars (Utf8.encode expiration) ++ salt') :
    Timestamp.format deadline = expiration := by
  have hwritten : (Timestamp.format deadline).toList
      = Timestamp.formatChars (LocalTime.ofInstant deadline) := by
    rw [Timestamp.format, String.toList_ofList]
  have hbegins : (Timestamp.format deadline).toList <+: expiration.toList
      ∨ expiration.toList <+: (Timestamp.format deadline).toList := by
    have hfirst := List.prefix_append
      (Base64url.encodeChars (Utf8.encode (Timestamp.format deadline))) salt
    rw [h] at hfirst
    -- of two beginnings of one text one begins the other
    rcases List.prefix_or_prefix_of_prefix hfirst
      (List.prefix_append _ salt') with h | h
    · exact Or.inl (Utf8.isPrefix_of_encode
        (Base64url.isPrefix_of_encodeChars h))
    · exact Or.inr (Utf8.isPrefix_of_encode
        (Base64url.isPrefix_of_encodeChars h))
  apply String.toList_injective
  rw [hwritten] at hbegins ⊢
  exact Timestamp.formatChars_eq_of_isPrefix hscan hbegins

/-- The signed bytes tell identity, expiration and salt, if one expiration
was written and the other is accepted. -/
theorem signedBytes_signedContent_inj
    {identity other salt otherSalt expiration : String}
    {deadline instant : Instant}
    (hparse : Timestamp.parse expiration = .ok instant)
    (h : signedBytes (signedContent identity (Timestamp.format deadline)) salt
      = signedBytes (signedContent other expiration) otherSalt) :
    identity = other ∧ Timestamp.format deadline = expiration
      ∧ salt = otherSalt := by
  obtain ⟨reading, hscan⟩ := Timestamp.scan?_of_parse hparse
  have hchars := congrArg String.toList (signedBytes_inj h)
  rw [toList_signedContent_append, toList_signedContent_append] at hchars
  obtain ⟨hidentity, hrest⟩ :=
    Text.append_cons_inj (Base64url.dot_not_mem_encodeChars _)
      (Base64url.dot_not_mem_encodeChars _) hchars
  have hexpiration := expiration_eq_of_append hscan hrest
  rw [hexpiration] at hrest
  refine ⟨Utf8.encode_injective (Base64url.encodeChars_injective hidentity),
    hexpiration, ?_⟩
  exact String.toList_injective (List.append_cancel_left hrest)

/-- The signature of an issued token is the signature of another identity,
an accepted expiration and a salt only if these are those of the token, or
if two different messages have the same tag. What is signed tells the three
without any condition on tags. -/
theorem issue_binds_signature {now : Instant} {identity salt : String}
    {lifetime : Duration} {secret : List UInt8} {token : Token}
    (hissue : issue now identity lifetime salt (.bytes secret) = .ok token)
    {other otherSalt expiration : String} {instant : Instant}
    (hparse : Timestamp.parse expiration = .ok instant) :
    (signedBytes (signedContent identity token.expiration) salt
        = signedBytes (signedContent other expiration) otherSalt →
      identity = other ∧ token.expiration = expiration ∧ salt = otherSalt)
    ∧ (signatureFor (.bytes secret) other expiration otherSalt
        = .ok token.signature →
      identity = other ∧ token.expiration = expiration ∧ salt = otherSalt
      ∨ signedBytes (signedContent identity token.expiration) salt
          ≠ signedBytes (signedContent other expiration) otherSalt
        ∧ Hmac.tag secret (signedBytes
            (signedContent identity token.expiration) salt)
          = Hmac.tag secret (signedBytes (signedContent other expiration)
              otherSalt)) := by
  obtain ⟨deadline, -, hidentity, hexpiration, hsignature⟩ :=
    issue_eq_ok_iff.1 hissue
  have hmessage : signedBytes (signedContent identity token.expiration) salt
        = signedBytes (signedContent other expiration) otherSalt →
      identity = other ∧ token.expiration = expiration ∧ salt = otherSalt := by
    intro h
    rw [hexpiration] at h ⊢
    exact signedBytes_signedContent_inj hparse h
  refine ⟨hmessage, fun h => ?_⟩
  rw [hidentity] at hsignature
  by_cases hsame : signedBytes (signedContent identity token.expiration) salt
      = signedBytes (signedContent other expiration) otherSalt
  · exact Or.inl (hmessage hsame)
  · exact Or.inr ⟨hsame, tag_eq_of_sign_eq hsignature h⟩

/-- A token issued at the start of 2024 for an identity with a point in it
and a salt that looks like the end of a token: its own signature, computed
again from what it says, satisfies the conditions. -/
theorem issue_binds_signature_of_dotted :
    ∃ token, issue ⟨63839664000000000, by decide⟩ "a.b" (.whole 60) "Wg.AA"
      (.bytes [107]) = .ok token
      ∧ Timestamp.parse token.expiration = .ok ⟨63839664060000000, by decide⟩
      ∧ signatureFor (.bytes [107]) "a.b" token.expiration "Wg.AA"
          = .ok token.signature
      ∧ ("a.b" = "a.b" ∧ token.expiration = token.expiration ∧ "Wg.AA" = "Wg.AA"
        ∨ signedBytes (signedContent "a.b" token.expiration) "Wg.AA"
            ≠ signedBytes (signedContent "a.b" token.expiration) "Wg.AA"
          ∧ Hmac.tag [107] (signedBytes
              (signedContent "a.b" token.expiration) "Wg.AA")
            = Hmac.tag [107] (signedBytes
                (signedContent "a.b" token.expiration) "Wg.AA")) := by
  have hparse : Timestamp.parse
      (Timestamp.format ⟨63839664060000000, by decide⟩)
      = .ok ⟨63839664060000000, by decide⟩ := Timestamp.parse_format (by decide)
  obtain ⟨signature, hsignature⟩ :
    ∃ signature, signatureFor (.bytes [107]) "a.b"
      (Timestamp.format ⟨63839664060000000, by decide⟩) "Wg.AA"
        = .ok signature :=
    ⟨_, sign_eq_ok_iff.2 ⟨[107], rfl, rfl⟩⟩
  have hissue : issue ⟨63839664000000000, by decide⟩ "a.b" (.whole 60) "Wg.AA"
      (.bytes [107])
      = .ok ⟨"a.b", Timestamp.format ⟨63839664060000000, by decide⟩,
        signature⟩ :=
    issue_eq_ok_iff.2 ⟨⟨63839664060000000, by decide⟩, rfl, rfl,
      rfl, hsignature⟩
  exact ⟨_, hissue, hparse, hsignature,
    (issue_binds_signature hissue hparse).2 hsignature⟩

-- ============================================================= salts

/-- What is signed of a token with two salts collides. -/
def CollidesUnder (key : Key) (salt otherSalt : String) (token : Token) :
    Prop :=
  ∃ secret, key = .bytes secret
    ∧ Hmac.Collides secret
      (signedBytes (signedContent token.identity token.expiration) salt)
      (signedBytes (signedContent token.identity token.expiration) otherSalt)

theorem not_collidesUnder_self (key : Key) (salt : String) (token : Token) :
    ¬ token.CollidesUnder key salt salt := by
  intro h
  obtain ⟨secret, -, hdiffer, -⟩ := h
  exact hdiffer rfl

/-- A token that is signed with one salt does not pass with another, but for
collisions. -/
theorem check_of_other_salt {now : Instant} {key : Key}
    {salt otherSalt : String} {token : Token}
    (hsigned : signatureFor key token.identity token.expiration salt
      = .ok token.signature)
    (hne : otherSalt ≠ salt) :
    check now token otherSalt key = .error (.refused .signatureMismatch)
      ∨ token.CollidesUnder key salt otherSalt := by
  obtain ⟨secret, hkey, -⟩ := sign_eq_ok_iff.1 hsigned
  obtain ⟨signature, hother⟩ : ∃ signature,
      signatureFor key token.identity token.expiration otherSalt
        = .ok signature :=
    ⟨_, sign_eq_ok_iff.2 ⟨secret, hkey, rfl⟩⟩
  -- the same signature under another salt takes the same message or a
  -- collision
  by_cases hsame : signature = token.signature
  · right
    rw [hsame] at hother
    rcases (sign_eq_ok_iff_of_signed hsigned).1 hother with hjoined | hcollides
    · exact absurd ((String.append_right_inj _).1 hjoined).symm hne
    · exact hcollides
  · left
    unfold check
    rw [hother]
    show (if signature = token.signature then _ else _) = _
    rw [if_neg hsame]

end StatelessAuth.Token
