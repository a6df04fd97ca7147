/-
What a stored password is bound to. The signature in it covers the password
and the salt put together, with nothing between them, so that it tells the
two only as one text (`check_binds_joined`): whoever moves the end of the
password to the front of the salt has another pair that passes
(`shifted_pair_passes`).

The salt of a user is not the client's to choose. With the salt given, a
stored text is bound to the password, as it is with the password given to
the salt, and between passwords of one length to both; only messages that
collide are an exception.
-/
import StatelessAuth.Password
import StatelessAuth.Proofs.Signature

namespace StatelessAuth.Password

variable {key : Key} {password salt stored : String}

/-- A password passes for a stored text exactly if it is stored as this
text. -/
theorem check_eq_ok_iff :
    check key password salt stored = .ok ()
      ↔ store key password salt = .ok stored := by
  unfold check
  rcases store key password salt with reason | expected
  · simp
  · simp only [Except.ok.injEq]
    by_cases heq : expected = stored
    · rw [if_pos heq]
      simp [heq]
    · rw [if_neg heq]
      simp [heq]

/-- A password is stored as the mark and its signature. -/
theorem store_eq_ok_iff :
    store key password salt = .ok stored
      ↔ ∃ signature, sign key password salt = .ok signature
        ∧ stored = scheme ++ signature := by
  unfold store
  rcases sign key password salt with reason | signature
  · simp [Except.map]
  · simp only [Except.map, Except.ok.injEq, exists_eq_left']
    exact eq_comm

/-- A key that signs stores every password. -/
theorem exists_store {secret : List UInt8} (h : key.usable? = some secret)
    (password salt : String) : ∃ stored, store key password salt = .ok stored :=
  ⟨_, store_eq_ok_iff.2 ⟨_, sign_eq_ok_iff.2 ⟨secret, h, rfl⟩, rfl⟩⟩

theorem store_eq_ok_mark_iff {signature : String} :
    store key password salt = .ok (scheme ++ signature)
      ↔ sign key password salt = .ok signature := by
  rw [store_eq_ok_iff]
  refine ⟨?_, fun h => ⟨signature, h, rfl⟩⟩
  intro h
  obtain ⟨other, hother, hsame⟩ := h
  rw [hother, (String.append_right_inj scheme).1 hsame]

/-- A key that signs finds nothing wrong but the password. -/
theorem check_eq_mismatch_iff :
    check key password salt stored = .error .passwordMismatch
      ↔ (∃ secret, key.usable? = some secret)
        ∧ store key password salt ≠ .ok stored := by
  unfold check
  cases hkey : key.usable? with
  | none =>
      have hstore : store key password salt = .error .signingFailed := by
        simp [store, sign, hkey, Except.map]
      simp [hstore]
  | some secret =>
      obtain ⟨expected, hstore⟩ := exists_store hkey password salt
      by_cases hsame : expected = stored
      · simp [hstore, hsame]
      · simp [hstore, hsame]

-- ================================================= what a client gives

/-- What a client gives as a password is compared as one, if it is a text of
characters. -/
theorem checkGiven_of_string (key : Key) (password salt stored : String) :
    checkGiven key password salt stored
      = match check key password salt stored with
        | .error reason => .error (.refused reason)
        | .ok () => .ok () := by
  cases hcheck : check key password salt stored with
  | error reason => simp [checkGiven, hcheck]
  | ok => simp [checkGiven, hcheck]

/-- No bytes write a text with half of a surrogate pair, and a key that could
sign shows it. -/
theorem checkGiven_of_torn {given : Wording} {secret : List UInt8}
    (hgiven : given.string? = none) (hkey : key.usable? = some secret)
    (salt stored : String) :
    checkGiven key given salt stored = .error .unencodable := by
  simp only [checkGiven, hgiven, hkey]

/-- What a client gives passes only as a text of characters. -/
theorem checkGiven_eq_ok_iff {given : Wording} :
    checkGiven key given salt stored = .ok ()
      ↔ ∃ password : String, given = password
          ∧ check key password salt stored = .ok () := by
  constructor
  · intro h
    rcases hgiven : given.string? with - | password
    · simp only [checkGiven, hgiven] at h
      split at h
      case h_1 => cases h
      case h_2 => cases h
    · refine ⟨password, Wording.string?_eq_some_iff.1 hgiven, ?_⟩
      simp only [checkGiven, hgiven] at h
      split at h
      case h_1 => cases h
      case h_2 hcheck => exact hcheck
  · intro h
    obtain ⟨password, rfl, hcheck⟩ := h
    rw [checkGiven_of_string, hcheck]

/-- No password is stored as a text without the mark. -/
theorem store_ne_of_unmarked (h : ¬ scheme.toList <+: stored.toList) :
    store key password salt ≠ .ok stored := by
  intro hstore
  obtain ⟨signature, -, rfl⟩ := store_eq_ok_iff.1 hstore
  apply h
  rw [String.toList_append]
  exact List.prefix_append _ _

/-- Of two texts put together, the parts are told by one of them, or by the
length of one. -/
theorem parts_eq_of_joined {a b c d : String} (h : a ++ b = c ++ d)
    (hpart : a = c ∨ b = d ∨ a.length = c.length) : a = c ∧ b = d := by
  have hchars := congrArg String.toList h
  rw [String.toList_append, String.toList_append] at hchars
  have hlength : a.toList.length = c.toList.length := by
    have htotal := congrArg List.length hchars
    rw [List.length_append, List.length_append] at htotal
    -- equal on either side, the parts have one length on both
    rcases hpart with rfl | rfl | hlength
    · rfl
    · omega
    · rwa [String.length_toList, String.length_toList]
  obtain ⟨hfirst, hsecond⟩ := List.append_inj hchars hlength
  exact ⟨String.toList_injective hfirst, String.toList_injective hsecond⟩

/-- A password and a salt pass for a stored text exactly if they are stored as
this text too, and they are exactly if they are the same text as the first
password and salt when put together, or if the messages collide. So of two
pairs that agree in the password, in the salt or in the length of the
password only the same passes, but for collisions. -/
theorem check_binds_joined (hstored : store key password salt = .ok stored)
    (other otherSalt : String) :
    (check key other otherSalt stored = .ok ()
      ↔ store key other otherSalt = .ok stored)
    ∧ (store key other otherSalt = .ok stored
        ↔ password ++ salt = other ++ otherSalt
          ∨ ∃ secret, key = .bytes secret
            ∧ Hmac.Collides secret (signedBytes password salt)
                (signedBytes other otherSalt))
    ∧ (store key other otherSalt = .ok stored →
        (password = other ∨ salt = otherSalt ∨ password.length = other.length) →
        (password = other ∧ salt = otherSalt)
          ∨ ∃ secret, key = .bytes secret
            ∧ Hmac.Collides secret (signedBytes password salt)
              (signedBytes other otherSalt)) := by
  obtain ⟨signature, hsigned, rfl⟩ := store_eq_ok_iff.1 hstored
  have hjoined : store key other otherSalt = .ok (scheme ++ signature)
      ↔ password ++ salt = other ++ otherSalt
        ∨ ∃ secret, key = .bytes secret
          ∧ Hmac.Collides secret (signedBytes password salt)
            (signedBytes other otherSalt) := by
    rw [store_eq_ok_mark_iff]
    exact sign_eq_ok_iff_of_signed hsigned
  refine ⟨check_eq_ok_iff, hjoined, ?_⟩
  intro hother hpart
  rcases hjoined.1 hother with h | hcollides
  · exact Or.inl (parts_eq_of_joined h hpart)
  · exact Or.inr hcollides

/-- Of the pairs that are put together as one text, the shifted one passes, and
another password with the same salt does not without a collision. -/
theorem check_binds_joined_of_shift :
    ∃ stored, store (.bytes [107]) "ab" "c" = .ok stored
      ∧ check (.bytes [107]) "a" "bc" stored = .ok ()
      ∧ (store (.bytes [107]) "ad" "c" = .ok stored →
        ("ab" = "ad" ∧ "c" = "c")
          ∨ ∃ secret, Key.bytes [107] = .bytes secret
            ∧ Hmac.Collides secret (signedBytes "ab" "c")
                (signedBytes "ad" "c")) := by
  obtain ⟨stored, hstored⟩ :=
    exists_store (show (Key.bytes [107]).usable? = some [107] from rfl) "ab" "c"
  obtain ⟨hcheck, hjoined, -⟩ := check_binds_joined hstored "a" "bc"
  obtain ⟨-, -, hparts⟩ := check_binds_joined hstored "ad" "c"
  refine ⟨stored, hstored, ?_, ?_⟩
  · apply hcheck.2
    apply hjoined.2
    exact Or.inl (by decide)
  · intro hother
    exact hparts hother (Or.inr (Or.inl rfl))

/-- The second letter of a password passes as the first of the salt: another
password with another salt is stored as the same text, and passes for it,
without any collision. -/
theorem shifted_pair_passes :
    (∃ stored, store (.bytes [107]) "ab" "c" = .ok stored
      ∧ store (.bytes [107]) "a" "bc" = .ok stored
      ∧ check (.bytes [107]) "a" "bc" stored = .ok ())
    ∧ ¬ (("ab" = "a" ∧ "c" = "bc")
      ∨ (signedBytes "ab" "c" ≠ signedBytes "a" "bc"
        ∧ Hmac.tag [107] (signedBytes "ab" "c")
          = Hmac.tag [107] (signedBytes "a" "bc"))) := by
  have hbytes : signedBytes "ab" "c" = signedBytes "a" "bc" := by decide +kernel
  constructor
  · obtain ⟨stored, hstored⟩ := exists_store
      (show (Key.bytes [107]).usable? = some [107] from rfl) "ab" "c"
    have hshifted : store (.bytes [107]) "a" "bc" = .ok stored := by
      rw [← hstored, store, store, sign, sign, hbytes]
    exact ⟨stored, hstored, hshifted, check_eq_ok_iff.2 hshifted⟩
  · intro h
    rcases h with ⟨hpassword, -⟩ | ⟨hdiffer, -⟩
    · exact absurd hpassword (by decide)
    · exact hdiffer hbytes

end StatelessAuth.Password
