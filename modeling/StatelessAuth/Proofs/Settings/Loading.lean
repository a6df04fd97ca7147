/-
What is known of settings that were checked. The rules are asked of each
setting alone, wherever it comes from, and they ask for a kind: texts are
texts, a duration is a double, and the keys have at least one byte
(`Settings.IsChecked`). Nothing more is asked: whatever is of the right kinds
can be loaded (`Settings.isChecked_iff_exists_load`), a duration that is no
number and an empty name of a cookie included.
-/
import StatelessAuth.Proofs.Schema.Rule
import StatelessAuth.Proofs.Signature
import StatelessAuth.Settings

namespace StatelessAuth

-- ============================================================= sources

namespace SettingsSource

variable {α : Type} {source : SettingsSource} {name : String} {rule : Rule α}
  {result : α}

/-- A setting without a default is what its rule makes of what is
given. -/
theorem required_eq_valid_iff :
    source.required name rule = .valid result
      ↔ ∃ value, source.given? name = some value
        ∧ rule value = .valid result := by
  unfold required
  cases source.given? name with
  | none => simp
  | some value => simp [Validated.under_eq_valid_iff]

/-- An argument of the exact name is what is given for a setting. -/
theorem given?_of_argument {value : Value}
    (h : Value.field? name source.arguments = some value) :
    source.given? name = some value := by
  unfold given? argument?
  simp only [h]

end SettingsSource

-- ================================================================ keys

/-- A key that was checked can sign. -/
theorem Key.usable?_of_rule {value : Value} {key : Key}
    (h : rule value = .valid key) :
    ∃ secret, key.usable? = some secret := by
  unfold rule at h
  split at h
  case h_1 => cases h
  case h_2 => cases h
  case h_3 first rest _ =>
    cases h
    exact ⟨first :: rest, rfl⟩

theorem Key.rule_bytes {secret : List UInt8} (h : secret ≠ []) :
    rule (.bytes secret) = .valid (.bytes secret) := by
  cases secret with
  | nil => exact absurd rfl h
  | cons first rest => rfl

-- ============================================================ settings

namespace Settings

/-- The settings are of the right kinds. -/
structure IsChecked (settings : Settings) : Prop where
  projectName : ∃ name, settings.projectName = .text name
  apiRoot : ∃ path, settings.apiRoot = .text path
  passwordKey : ∃ secret, settings.passwordKey.usable? = some secret
  tokenKey : ∃ secret, settings.tokenKey.usable? = some secret
  tokenDuration : ∃ seconds, settings.tokenDuration = .real seconds
  cookieName : ∃ name, settings.cookieName = .text name
  logLevel : ∃ level, settings.logLevel = .text level

variable {source : SettingsSource} {settings : Settings}

/-- Settings are valid if each of them is, wherever it comes from. -/
theorem fields_eq_valid_iff :
    fields source = .valid settings
      ↔ textSetting source "PROJECT_NAME" "WebToken Auth"
          = .valid settings.projectName
        ∧ textSetting source "API_V1_STR" "/api/v1" = .valid settings.apiRoot
        ∧ source.required "PWD_KEY" Key.rule = .valid settings.passwordKey
        ∧ source.required "TOKEN_KEY" Key.rule = .valid settings.tokenKey
        ∧ (source.setting "TOKEN_DURATION_SEC" Rule.number
            defaultDuration).map Duration.real
          = .valid settings.tokenDuration
        ∧ textSetting source "AUTH_COOKIE_NAME" "auth-token"
            = .valid settings.cookieName
        ∧ textSetting source "LOG_LEVEL" "INFO" = .valid settings.logLevel := by
  unfold fields
  constructor
  · intro h
    -- from the last setting back to the first, as they were joined
    obtain ⟨_, level, hsix, hlevel, rfl⟩ := Validated.andThen_eq_valid_iff.1 h
    obtain ⟨_, cookie, hfive, hcookie, rfl⟩ :=
      Validated.andThen_eq_valid_iff.1 hsix
    obtain ⟨_, duration, hfour, hduration, rfl⟩ :=
      Validated.andThen_eq_valid_iff.1 hfive
    obtain ⟨_, tokenKey, hthree, htokenKey, rfl⟩ :=
      Validated.andThen_eq_valid_iff.1 hfour
    obtain ⟨_, passwordKey, htwo, hpasswordKey, rfl⟩ :=
      Validated.andThen_eq_valid_iff.1 hthree
    obtain ⟨_, path, hone, hpath, rfl⟩ := Validated.andThen_eq_valid_iff.1 htwo
    obtain ⟨project, hproject, rfl⟩ := Validated.map_eq_valid_iff.1 hone
    exact ⟨hproject, hpath, hpasswordKey, htokenKey, hduration, hcookie, hlevel⟩
  · rintro ⟨hproject, hpath, hpasswordKey, htokenKey, hduration,
      hcookie, hlevel⟩
    rw [hproject, hpath, hpasswordKey, htokenKey, hduration, hcookie, hlevel]
    rfl

/-- Each of the seven is of its kind, since its rule gave it. -/
theorem isChecked_of_fields (h : fields source = .valid settings) :
    settings.IsChecked := by
  obtain ⟨hproject, hpath, hpasswordKey, htokenKey, hduration, hcookie,
    hlevel⟩ := fields_eq_valid_iff.1 h
  -- a text setting is the text that its rule gave
  have htext : ∀ {name default value},
      textSetting source name default = .valid value →
        ∃ content, value = .text content := by
    intro name default value h
    obtain ⟨content, -, rfl⟩ := Validated.map_eq_valid_iff.1 h
    exact ⟨content, rfl⟩
  have hkey : ∀ {name key}, source.required name Key.rule = .valid key →
      ∃ secret, key.usable? = some secret := by
    intro name key h
    obtain ⟨value, -, hrule⟩ := SettingsSource.required_eq_valid_iff.1 h
    exact Key.usable?_of_rule hrule
  obtain ⟨seconds, -, hseconds⟩ := Validated.map_eq_valid_iff.1 hduration
  exact ⟨htext hproject, htext hpath, hkey hpasswordKey, hkey htokenKey,
    ⟨seconds, hseconds.symm⟩, htext hcookie, htext hlevel⟩

/-- Settings are loaded if they fit and no argument is left over. -/
theorem load_eq_valid_iff :
    load source = .valid settings
      ↔ fields source = .valid settings ∧ unknown source = [] := by
  unfold load
  cases fields source with
  | valid checked =>
      cases unknown source with
      | nil => simp
      | cons fault rest => simp
  | invalid faults => simp

/-- Arguments for all the settings. -/
def written (project path : String) (password token : List UInt8)
    (seconds : Binary64) (cookie level : String) : SettingsSource :=
  ⟨[("PROJECT_NAME", .text project), ("API_V1_STR", .text path),
    ("PWD_KEY", .bytes password), ("TOKEN_KEY", .bytes token),
    ("TOKEN_DURATION_SEC", .real seconds), ("AUTH_COOKIE_NAME", .text cookie),
    ("LOG_LEVEL", .text level)], .empty, by simp [SettingsSource.options]⟩

/-- Whatever is of the right kind can be given as arguments, and nothing
is made of it. -/
theorem load_written {password token : List UInt8} (hpassword : password ≠ [])
    (htoken : token ≠ []) (project path : String) (seconds : Binary64)
    (cookie level : String) :
    load (written project path password token seconds cookie level)
      = .valid ⟨.text project, .text path, .bytes password, .bytes token,
          .real seconds, .text cookie, .text level⟩ := by
  refine load_eq_valid_iff.2 ⟨?fields, ?unknown⟩
  case fields =>
    -- every setting has an argument of its exact name, so that neither
    -- case nor environment matters
    have hgiven : ∀ name {value}, Value.field? name
        (written project path password token seconds cookie level).arguments
          = some value →
        (written project path password token seconds cookie level).given? name
          = some value :=
      fun _ => SettingsSource.given?_of_argument
    unfold fields textSetting SettingsSource.setting SettingsSource.required
    rw [hgiven "PROJECT_NAME" rfl, hgiven "API_V1_STR" rfl,
      hgiven "PWD_KEY" rfl, hgiven "TOKEN_KEY" rfl,
      hgiven "TOKEN_DURATION_SEC" rfl, hgiven "AUTH_COOKIE_NAME" rfl,
      hgiven "LOG_LEVEL" rfl]
    simp only [Key.rule_bytes hpassword, Key.rule_bytes htoken]
    rfl
  case unknown =>
    unfold unknown written
    simp [names, Text.sameName]

/-- The kinds are all that is checked. -/
theorem isChecked_iff_exists_load :
    settings.IsChecked ↔ ∃ source, load source = .valid settings := by
  constructor
  · intro h
    obtain ⟨⟨project, hproject⟩, ⟨path, hpath⟩, ⟨password, hpassword⟩,
      ⟨token, htoken⟩, ⟨seconds, hseconds⟩, ⟨cookie, hcookie⟩,
      ⟨level, hlevel⟩⟩ := h
    obtain ⟨hpassword, hpasswordKey⟩ := Key.usable?_eq_some_iff.1 hpassword
    obtain ⟨htoken, htokenKey⟩ := Key.usable?_eq_some_iff.1 htoken
    refine ⟨written project path password token seconds cookie level, ?_⟩
    rw [load_written hpassword htoken, ← hproject, ← hpath, ← hpasswordKey,
      ← htokenKey, ← hseconds, ← hcookie, ← hlevel]
  · intro h
    obtain ⟨source, h⟩ := h
    exact isChecked_of_fields (load_eq_valid_iff.1 h).1

end Settings

end StatelessAuth
