/-
Which data configure a key, and which key (`Key.configured_exact`).

A text configures the bytes that it spells in base64url, blanks around
the spelling or not. No character of a spelling is a blank, and no two
byte strings have one spelling: so what is around it is cut off whole
and nothing else, and two texts configure one key exactly if they are
the same text without their ends.

Bytes and byte buffers configure what they hold. No key is empty, and
nothing else configures one. So whatever passes as settings can sign.
-/
import StatelessAuth.Proofs.Base64url.Codec
import StatelessAuth.Proofs.Settings.Loading
import StatelessAuth.Proofs.Text.Blank

namespace StatelessAuth

open Text

namespace Base64url

theorem isBlank_of_mem_encodeChars {bytes : List UInt8} :
    ∀ c ∈ encodeChars bytes, isBlank c = false :=
  forall_mem_encodeChars (by decide)

end Base64url

namespace Key

/-- The text is the spelling of the bytes with blanks around it, or none. -/
def Spells (content : String) (secret : List UInt8) : Prop :=
  ∃ left right, (∀ c ∈ left, isBlank c = true) ∧ (∀ c ∈ right, isBlank c = true)
    ∧ content.toList = left ++ (Base64url.encodeChars secret ++ right)

/-- What is left of a text without its ends is the spelling and nothing
more. -/
theorem spells_iff {content : String} {secret : List UInt8} :
    Spells content secret ↔ trim isBlank content = Base64url.encode secret := by
  unfold Spells trim
  constructor
  · rintro ⟨left, right, hleft, hright, hcontent⟩
    rw [hcontent, trimChars_append hleft
      Base64url.isBlank_of_mem_encodeChars hright]
    rfl
  · intro h
    -- what was cut off stands around the rest, and the rest is the
    -- spelling
    obtain ⟨left, right, hleft, hright, hcontent⟩ :=
      exists_trimChars isBlank content.toList
    refine ⟨left, right, hleft, hright, ?_⟩
    rw [String.ofList_injective h] at hcontent
    exact hcontent

variable {content : String} {secret data : List UInt8} {key : Key}

/-- A datum that stands for bytes configures them, if there are any. -/
theorem rule_eq_valid_iff {value : Value} :
    rule value = .valid key
      ↔ ∃ secret, bytesOf value = .ok secret ∧ secret ≠ []
        ∧ key = .bytes secret := by
  unfold rule
  split
  case h_1 problem hproblem => simp [hproblem, Validated.fail]
  case h_2 hempty =>
    rw [hempty]
    simp [Validated.fail]
  case h_3 first rest hbytes =>
    rw [hbytes]
    simp [eq_comm]

/-- A text stands for the bytes that it spells. -/
theorem bytesOf_text_eq_ok_iff :
    bytesOf (.text content) = .ok secret ↔ Spells content secret := by
  rw [spells_iff, ← Base64url.decode_eq_ok_iff, bytesOf]
  cases Base64url.decode (trim isBlank content) with
  | ok data => simp
  | error problem => simp

/-- A text configures the bytes that it spells, unless it spells
none. -/
theorem rule_text_iff :
    rule (.text content) = .valid key
      ↔ ∃ secret, secret ≠ [] ∧ Spells content secret
        ∧ key = .bytes secret := by
  simp only [rule_eq_valid_iff, bytesOf_text_eq_ok_iff]
  constructor
  · rintro ⟨secret, hspells, hne, hkey⟩
    exact ⟨secret, hne, hspells, hkey⟩
  · rintro ⟨secret, hne, hspells, hkey⟩
    exact ⟨secret, hspells, hne, hkey⟩

/-- Bytes configure themselves. -/
theorem rule_bytes_iff :
    rule (.bytes data) = .valid key ↔ data ≠ [] ∧ key = .bytes data := by
  rw [rule_eq_valid_iff]
  constructor
  · rintro ⟨secret, hbytes, hne, hkey⟩
    cases hbytes
    exact ⟨hne, hkey⟩
  · rintro ⟨hne, hkey⟩
    exact ⟨data, rfl, hne, hkey⟩

/-- A buffer configures what bytes of its content do. -/
theorem rule_buffer_iff :
    rule (.buffer data) = .valid key ↔ data ≠ [] ∧ key = .bytes data := by
  rw [rule_eq_valid_iff, ← rule_bytes_iff, rule_eq_valid_iff]
  rfl

/-- Two texts configure one key if they differ at most in the blanks
around them. -/
theorem rule_text_of_valid {other : String}
    (h : rule (.text content) = .valid key) :
    rule (.text other) = .valid key
      ↔ trim isBlank other = trim isBlank content := by
  obtain ⟨secret, hne, hspells, rfl⟩ := rule_text_iff.1 h
  rw [rule_text_iff, spells_iff.1 hspells]
  constructor
  · rintro ⟨secret', -, hspells', hsame⟩
    cases hsame
    exact spells_iff.1 hspells'
  · intro htrim
    exact ⟨secret, hne, spells_iff.2 htrim, rfl⟩

theorem exists_sign_of_rule {value : Value} (h : rule value = .valid key)
    (content salt : String) :
    ∃ signature, sign key content salt = .ok signature := by
  obtain ⟨secret, hsecret⟩ := usable?_of_rule h
  exact ⟨_, sign_eq_ok_iff.2 ⟨secret, hsecret, rfl⟩⟩

/-- A text configures the bytes that it spells, blanks around it or not,
bytes and byte buffers configure what they hold, none of them an empty
key, and nothing else configures a key. The keys of valid settings are
configured so, and they sign whatever there is to sign. Two texts
configure one key exactly if they are the same but for the blanks around
them. -/
theorem configured_exact :
    (∀ content key, rule (.text content) = .valid key
        ↔ ∃ secret, secret ≠ [] ∧ Spells content secret ∧ key = .bytes secret)
      ∧ (∀ data key, rule (.bytes data) = .valid key
        ↔ data ≠ [] ∧ key = .bytes data)
      ∧ (∀ data key, rule (.buffer data) = .valid key
        ↔ data ≠ [] ∧ key = .bytes data)
      ∧ (∀ value, (∀ content, value ≠ .text content) →
          (∀ data, value ≠ .bytes data) →
          (∀ data, value ≠ .buffer data) → ∀ key, rule value ≠ .valid key)
      ∧ (∀ source settings, Settings.load source = .valid settings →
          (∃ value, source.given? "PWD_KEY" = some value
              ∧ rule value = .valid settings.passwordKey)
            ∧ (∃ value, source.given? "TOKEN_KEY" = some value
              ∧ rule value = .valid settings.tokenKey)
            ∧ ∀ content salt, (∃ signature,
                sign settings.passwordKey content salt = .ok signature)
              ∧ ∃ signature,
                sign settings.tokenKey content salt = .ok signature)
      ∧ ∀ content other key, rule (.text content) = .valid key →
          (rule (.text other) = .valid key
            ↔ trim isBlank other = trim isBlank content) := by
  refine ⟨fun _ _ => rule_text_iff, fun _ _ => rule_bytes_iff,
    fun _ _ => rule_buffer_iff, ?others, ?settings,
    fun _ _ _ => rule_text_of_valid⟩
  case others =>
    intro value htext hbytes hbuffer key h
    obtain ⟨secret, hsecret, -⟩ := rule_eq_valid_iff.1 h
    cases value with
    | text content => exact htext content rfl
    | bytes data => exact hbytes data rfl
    | buffer data => exact hbuffer data rfl
    -- everything else stands for no bytes
    | _ => cases hsecret
  case settings =>
    intro source settings h
    obtain ⟨-, -, hpassword, htoken, -⟩ :=
      Settings.fields_eq_valid_iff.1 (Settings.load_eq_valid_iff.1 h).1
    obtain ⟨password, hgiven, hrule⟩ :=
      SettingsSource.required_eq_valid_iff.1 hpassword
    obtain ⟨token, hgiven', hrule'⟩ :=
      SettingsSource.required_eq_valid_iff.1 htoken
    refine ⟨⟨password, hgiven, hrule⟩, ⟨token, hgiven', hrule'⟩, ?_⟩
    intro content salt
    exact ⟨exists_sign_of_rule hrule content salt,
      exists_sign_of_rule hrule' content salt⟩

/-- Three bytes spelt behind an ideographic space and before an information
separator are a key, and so is the spelling alone. -/
theorem configured_exact_of_spaced :
    rule (.text "\u3000a2V5\x1f") = .valid (.bytes [107, 101, 121])
      ∧ rule (.text "a2V5") = .valid (.bytes [107, 101, 121]) := by
  obtain ⟨htext, -, -, -, -, hsame⟩ := configured_exact
  have hspells : Spells "\u3000a2V5\x1f" [107, 101, 121] :=
    ⟨['\u3000'], ['\x1f'], List.forall_mem_singleton.2 rfl,
      List.forall_mem_singleton.2 rfl, by decide⟩
  have hspaced := (htext _ _).2
    ⟨[107, 101, 121], List.cons_ne_nil _ _, hspells, rfl⟩
  exact ⟨hspaced, (hsame _ _ _ hspaced).2 (by decide)⟩

/-- Not only texts and bytes configure a key: a buffer does as well. -/
theorem configured_by_buffer :
    ¬ ∀ value : Value, (∀ content, value ≠ .text content) →
      (∀ data, value ≠ .bytes data) → ∀ key, rule value ≠ .valid key := by
  intro h
  exact h (.buffer [107]) nofun nofun (.bytes [107]) rfl

end Key

end StatelessAuth
