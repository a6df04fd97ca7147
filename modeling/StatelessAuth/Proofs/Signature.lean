/-
What a signature says: which keys sign, what the text of a signature looks
like, and what a signature covers.

The bytes that are covered have no boundary in them, so that they tell
content and salt only put together (`signedBytes_inj`). A signature tells
its tag (`tag_eq_of_sign_eq`); whether a tag tells the bytes is not a
matter of this library, so that two pairs with one signature are the same
text put together or a collision (`sign_eq_ok_iff_of_signed`).
-/
import StatelessAuth.Proofs.Base64url.Codec
import StatelessAuth.Signature

namespace StatelessAuth

/-- A key signs exactly if it is bytes and there are any. -/
theorem Key.usable?_eq_some_iff {key : Key} {secret : List UInt8} :
    key.usable? = some secret ↔ secret ≠ [] ∧ key = .bytes secret := by
  unfold Key.usable?
  split
  case h_1 =>
    constructor
    · intro h
      cases h
    · intro h
      obtain ⟨hne, heq⟩ := h
      injection heq with heq
      exact absurd heq.symm hne
  case h_2 first rest =>
    constructor
    · intro h
      cases h
      exact ⟨List.cons_ne_nil first rest, rfl⟩
    · intro h
      obtain ⟨-, heq⟩ := h
      injection heq with heq
      rw [heq]
  case h_3 => simp
  case h_4 => simp

/-- A key signs everything or nothing. -/
theorem sign_eq_ok_iff {key : Key} {content salt signature : String} :
    sign key content salt = .ok signature
      ↔ ∃ secret, key.usable? = some secret
          ∧ signature = Base64url.encode
              (Hmac.tag secret (signedBytes content salt)) := by
  unfold sign
  split
  case h_1 hkey => simp [hkey]
  case h_2 secret hkey =>
    constructor
    · intro h
      cases h
      exact ⟨secret, hkey, rfl⟩
    · intro h
      obtain ⟨other, hother, rfl⟩ := h
      rw [hkey] at hother
      cases hother
      rfl

/-- A signature has characters, and no point is among them. -/
theorem signature_shape {key : Key} {content salt signature : String}
    (h : sign key content salt = .ok signature) :
    signature ≠ "" ∧ '.' ∉ signature.toList := by
  obtain ⟨secret, -, rfl⟩ := sign_eq_ok_iff.1 h
  rw [Base64url.toList_encode]
  refine ⟨?_, Base64url.dot_not_mem_encodeChars _⟩
  intro hempty
  have hnil : Hmac.tag secret (signedBytes content salt) = [] := by
    rw [← Base64url.encodeChars_eq_nil_iff, ← Base64url.toList_encode, hempty]
    rfl
  have hlength := Hmac.length_tag secret (signedBytes content salt)
  rw [hnil] at hlength
  cases hlength

/-- A signature tells its tag. -/
theorem tag_eq_of_sign_eq {secret : List UInt8}
    {content salt content' salt' signature : String}
    (h : sign (.bytes secret) content salt = .ok signature)
    (h' : sign (.bytes secret) content' salt' = .ok signature) :
    Hmac.tag secret (signedBytes content salt)
      = Hmac.tag secret (signedBytes content' salt') := by
  obtain ⟨first, hfirst, hsignature⟩ := sign_eq_ok_iff.1 h
  obtain ⟨second, hsecond, hsignature'⟩ := sign_eq_ok_iff.1 h'
  obtain ⟨-, heq⟩ := Key.usable?_eq_some_iff.1 hfirst
  obtain ⟨-, heq'⟩ := Key.usable?_eq_some_iff.1 hsecond
  injection heq with heq
  injection heq' with heq'
  rw [heq] at heq' ⊢
  rw [← heq'] at hsignature'
  exact Base64url.encode_injective (hsignature.symm.trans hsignature')

/-- The bytes that are covered tell content and salt, put together. -/
theorem signedBytes_inj {content salt content' salt' : String}
    (h : signedBytes content salt = signedBytes content' salt') :
    content ++ salt = content' ++ salt' := by
  apply Utf8.encode_injective
  rw [Utf8.encode_append, Utf8.encode_append]
  exact h

-- =========================================================== collisions

/-- Two different messages have the same tag. -/
def Hmac.Collides (secret message other : List UInt8) : Prop :=
  message ≠ other ∧ tag secret message = tag secret other

/-- A signature is that of another content and salt exactly if these are the
same text put together, or if the messages collide. -/
theorem sign_eq_ok_iff_of_signed {key : Key}
    {content salt content' salt' signature : String}
    (h : sign key content salt = .ok signature) :
    sign key content' salt' = .ok signature
      ↔ content ++ salt = content' ++ salt'
        ∨ ∃ secret, key = .bytes secret
          ∧ Hmac.Collides secret (signedBytes content salt)
              (signedBytes content' salt') := by
  obtain ⟨secret, husable, hsignature⟩ := sign_eq_ok_iff.1 h
  have hkey := (Key.usable?_eq_some_iff.1 husable).2
  constructor
  · intro h'
    -- the tags agree, by one message or by two that collide
    by_cases hsame : signedBytes content salt = signedBytes content' salt'
    · exact Or.inl (signedBytes_inj hsame)
    · subst hkey
      exact Or.inr ⟨secret, rfl, hsame, tag_eq_of_sign_eq h h'⟩
  · intro h'
    apply sign_eq_ok_iff.2
    refine ⟨secret, husable, ?_⟩
    rcases h' with hjoined | ⟨other, hother, -, htag⟩
    · have hbytes := congrArg Utf8.encode hjoined
      rw [Utf8.encode_append, Utf8.encode_append] at hbytes
      rw [hsignature, signedBytes, signedBytes, hbytes]
    · rw [hkey] at hother
      injection hother with hother
      rw [hsignature, hother, htag]

end StatelessAuth
