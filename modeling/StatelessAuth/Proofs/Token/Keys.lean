/-
Which keys sign differently (`keys_told_apart`).

Keys that the keyed digest takes for one, those with the same block,
sign alike whatever there is to sign, and what passes under one of them
passes under the other. There are such keys: zeros at the end of a short
key say nothing (`padded_key_signs_alike`). Between keys of different
blocks only a collision of the digest can make two signatures the same,
and it takes one for each text that is to pass under both of them.

Under every key something passes, at any instant and with any salt: a
token that holds until the end of the calendar.
-/
import StatelessAuth.Proofs.Hash.Hmac
import StatelessAuth.Proofs.Settings.Loading
import StatelessAuth.Proofs.Token.Acceptance
import StatelessAuth.Proofs.Token.Precedence

namespace StatelessAuth

variable {key other : List UInt8} {content salt text : String}
  {now later : Instant}

-- ========================================================== signatures

theorem sign_bytes (h : key ≠ []) (content salt : String) :
    sign (.bytes key) content salt
      = .ok (Base64url.encode (Hmac.tag key (signedBytes content salt))) :=
  sign_eq_ok_iff.2 ⟨key, Key.usable?_eq_some_iff.2 ⟨h, rfl⟩, rfl⟩

/-- Two keys give one signature if they are alike, or else by a collision. -/
theorem sign_eq_sign_iff (hkey : key ≠ []) (hother : other ≠ []) :
    sign (.bytes key) content salt = sign (.bytes other) content salt
      ↔ Hmac.AreAlike key other
        ∨ Hmac.ConfusedAt key other (signedBytes content salt) := by
  rw [sign_bytes hkey, sign_bytes hother, ← Hmac.tag_eq_iff]
  constructor
  · intro h
    injection h with hsignature
    exact Base64url.encode_injective hsignature
  · intro htag
    rw [htag]

namespace Token

-- ======================================================= what passes

/-- The last instant of the year 9999. -/
def lastInstant : Instant := ⟨3652059 * microsPerDay - 1, by decide⟩

theorem le_lastInstant (now : Instant) : now ≤ lastInstant :=
  Nat.le_sub_one_of_lt now.inRange

/-- Whoever has the key can make a token that lasts as long as the
calendar. -/
theorem exists_validate_eq_ok (hkey : key ≠ []) (now : Instant)
    (salt : String) :
    ∃ text, validate now text salt (.bytes key) = .ok () := by
  let token : Token := ⟨"a", Timestamp.format lastInstant, Base64url.encode
    (Hmac.tag key (signedBytes
      (signedContent "a" (Timestamp.format lastInstant)) salt))⟩
  have hidentity : token.identity ≠ "" := by
    show "a" ≠ ""
    decide
  have hsignature :
      signatureFor (.bytes key) token.identity token.expiration salt
        = .ok token.signature :=
    sign_bytes hkey _ salt
  have hparse : Timestamp.parse token.expiration = .ok lastInstant :=
    Timestamp.parse_format (by decide)
  exact ⟨token.toText, validate_eq_ok_iff.2
    ⟨token, rfl, hidentity, hsignature, lastInstant, hparse,
      le_lastInstant now⟩⟩

/-- Under keys that are alike a text has one outcome. -/
theorem validate_of_areAlike (hkey : key ≠ []) (hother : other ≠ [])
    (halike : Hmac.AreAlike key other) (now : Instant) (text salt : String) :
    validate now text salt (.bytes key)
      = validate now text salt (.bytes other) := by
  have hsame : ∀ content, sign (.bytes key) content salt
      = sign (.bytes other) content salt :=
    fun _ => (sign_eq_sign_iff hkey hother).2 (Or.inl halike)
  simp only [validate, check, signatureFor, hsame]

/-- The digest takes two keys for one where the token of a text is signed. -/
def IsConfused (key other : List UInt8) (text salt : String) : Prop :=
  ∃ token, ofText text = .ok token
    ∧ Hmac.ConfusedAt key other
      (signedBytes (signedContent token.identity token.expiration) salt)

/-- What passes under one key is refused under another that is not like
it, but for collisions. -/
theorem validate_of_other_key (hkey : key ≠ []) (hother : other ≠ [])
    (hdiffer : ¬ Hmac.AreAlike key other)
    (hvalid : validate now text salt (.bytes key) = .ok ()) (later : Instant) :
    validate later text salt (.bytes other)
      = .error (.refused .signatureMismatch)
      ∨ IsConfused key other text salt := by
  obtain ⟨token, rfl, hidentity, hsignature, deadline, hparse, -⟩ :=
    validate_eq_ok_iff.1 hvalid
  obtain ⟨hne, hdot⟩ := signature_shape hsignature
  have hread := ofText_toText hidentity (ne_empty_of_parse hparse) hne hdot
  have hsigned := sign_bytes hother
    (signedContent token.identity token.expiration) salt
  -- either the other key gives the same signature, or the token shows that
  -- it was not the one that signed
  by_cases hsame :
      sign (.bytes key) (signedContent token.identity token.expiration) salt
        = sign (.bytes other)
            (signedContent token.identity token.expiration) salt
  · right
    rcases (sign_eq_sign_iff hkey hother).1 hsame with halike | hconfused
    · exact absurd halike hdiffer
    · exact ⟨token, hread, hconfused⟩
  · left
    rw [validate_of_ofText hread]
    apply check_of_other_signature hsigned
    intro heq
    apply hsame
    rw [hsigned, heq]
    exact hsignature

/-- Two keys that can sign give a content and a salt one signature
exactly if they are alike, or where the digest has a collision. Of two
configured keys that are alike every text is judged alike; of two that
are not, each lets texts pass at any instant and with any salt, and what
passes under the first has a wrong signature under the second at all
instants, where the digest has no collision. -/
theorem keys_told_apart :
    (∀ key other : List UInt8, key ≠ [] → other ≠ [] → ∀ content salt,
      ∃ signature otherSignature, sign (.bytes key) content salt = .ok signature
        ∧ sign (.bytes other) content salt = .ok otherSignature
        ∧ (signature = otherSignature
          ↔ Hmac.AreAlike key other
            ∨ Hmac.ConfusedAt key other (signedBytes content salt)))
    ∧ ∀ source settings otherSource otherSettings,
        Settings.load source = .valid settings →
        Settings.load otherSource = .valid otherSettings →
        ∃ key other, settings.tokenKey = .bytes key
          ∧ otherSettings.tokenKey = .bytes other
          ∧ (Hmac.AreAlike key other → ∀ now text salt,
              validate now text salt settings.tokenKey
                = validate now text salt otherSettings.tokenKey)
          ∧ (¬ Hmac.AreAlike key other → ∀ now salt,
              (∃ text, validate now text salt settings.tokenKey = .ok ())
              ∧ ∀ text, validate now text salt settings.tokenKey = .ok () →
                ∀ later,
                  validate later text salt otherSettings.tokenKey
                      = .error (.refused .signatureMismatch)
                    ∨ IsConfused key other text salt) := by
  refine ⟨?signatures, ?configured⟩
  case signatures =>
    intro key other hkey hother content salt
    refine ⟨_, _, sign_bytes hkey content salt,
      sign_bytes hother content salt, ?_⟩
    rw [← sign_eq_sign_iff hkey hother, sign_bytes hkey, sign_bytes hother,
      Except.ok.injEq]
  case configured =>
    intro source settings otherSource otherSettings hload hotherLoad
    have hchecked :=
      Settings.isChecked_of_fields (Settings.load_eq_valid_iff.1 hload).1
    have hotherChecked :=
      Settings.isChecked_of_fields (Settings.load_eq_valid_iff.1 hotherLoad).1
    obtain ⟨key, husable⟩ := hchecked.tokenKey
    obtain ⟨other, hotherUsable⟩ := hotherChecked.tokenKey
    obtain ⟨hkey, htokenKey⟩ := Key.usable?_eq_some_iff.1 husable
    obtain ⟨hother, hotherTokenKey⟩ := Key.usable?_eq_some_iff.1 hotherUsable
    refine ⟨key, other, htokenKey, hotherTokenKey, ?_⟩
    rw [htokenKey, hotherTokenKey]
    refine ⟨validate_of_areAlike hkey hother, fun hdiffer now salt => ⟨?_, ?_⟩⟩
    · exact exists_validate_eq_ok hkey now salt
    · intro text hvalid later
      exact validate_of_other_key hkey hother hdiffer hvalid later

/-- A letter, the same letter and a zero, and another letter: the first two sign
alike, and as keys of settings the first and the third do not let the same texts
pass. -/
theorem keys_told_apart_of_letters :
    (∃ signature, sign (.bytes [107]) "content" "salt" = .ok signature
      ∧ sign (.bytes [107, 0]) "content" "salt" = .ok signature)
    ∧ ∃ text, validate ⟨63839664000000000, by decide⟩ text "salt"
        (.bytes [107]) = .ok ()
        ∧ (validate ⟨63839664000000000, by decide⟩ text "salt" (.bytes [108])
            = .error (.refused .signatureMismatch)
          ∨ IsConfused [107] [108] text "salt") := by
  obtain ⟨hsignatures, hconfigured⟩ := keys_told_apart
  constructor
  · obtain ⟨signature, _, hsigned, hotherSigned, hiff⟩ :=
      hsignatures [107] [107, 0] (List.cons_ne_nil _ _) (List.cons_ne_nil _ _)
        "content" "salt"
    rw [← hiff.2 (Or.inl (by decide))] at hotherSigned
    exact ⟨signature, hsigned, hotherSigned⟩
  · have hload : ∀ token : List UInt8, token ≠ [] →
        Settings.load (Settings.written "" "" [112] token .nan "" "")
          = .valid ⟨.text "", .text "", .bytes [112], .bytes token,
            .real .nan, .text "", .text ""⟩ :=
      fun _ htoken =>
        Settings.load_written (List.cons_ne_nil _ _) htoken _ _ _ _ _
    obtain ⟨_, _, ⟨rfl⟩, ⟨rfl⟩, -, hdiffer⟩ :=
      hconfigured _ _ _ _ (hload [107] (List.cons_ne_nil _ _))
        (hload [108] (List.cons_ne_nil _ _))
    obtain ⟨⟨text, hvalid⟩, hother⟩ :=
      hdiffer (by decide) ⟨63839664000000000, by decide⟩ "salt"
    exact ⟨text, hvalid, hother text hvalid _⟩

/-- Two different keys can sign everything alike: a zero at the end is
not seen. -/
theorem padded_key_signs_alike :
    ¬ ∀ key other : List UInt8, key ≠ [] → other ≠ [] → key ≠ other →
      ∃ content salt, sign (.bytes key) content salt
        ≠ sign (.bytes other) content salt := by
  intro h
  have hkey : ([107] : List UInt8) ≠ [] := List.cons_ne_nil _ _
  have hpadded : ([107, 0] : List UInt8) ≠ [] := List.cons_ne_nil _ _
  have halike : Hmac.AreAlike [107] [107, 0] := ⟨1, 0, rfl⟩
  obtain ⟨content, salt, hdiffer⟩ := h [107] [107, 0] hkey hpadded (by decide)
  exact hdiffer ((sign_eq_sign_iff hkey hpadded).2 (Or.inl halike))

end Token

end StatelessAuth
