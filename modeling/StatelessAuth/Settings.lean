/-
The settings of an application.

# Where a setting comes from

Each setting is looked for on its own: first among the arguments, by its
exact name or else by its name in any case, then in the environment, by
its name behind `SERVICE_` in any case, and else it has its default. The
two keys have none. What loses is never looked at.

An argument of another kind says how settings are looked for, and not what
they are (`SettingsSource.options`). None of these is ever given: they are
no arguments of a `SettingsSource`.

# What is wrong with settings

`Settings.load` reports every setting that is missing or does not fit, in
the order of the fields, and then every argument that is no setting.

# Settings that nobody checked

`Settings.unchecked` takes its arguments as they are, by their exact names
alone. So that it can, the settings that should be texts are data of any
kind, and a key may be absent; whoever uses such a setting has to say what
becomes of it.
-/
import StatelessAuth.Environment
import StatelessAuth.Schema.Rule
import StatelessAuth.Token

namespace StatelessAuth

-- ================================================================ keys

/-- Why a datum is no key. -/
inductive KeyFault
  /-- It is a text, but no base64url. -/
  | undecodable
  /-- It is neither bytes nor a text. -/
  | notText
  /-- It has no bytes. -/
  | empty
  deriving DecidableEq, Repr

def KeyFault.message : KeyFault → String
  | undecodable => "A chave deve estar codificada em base64url sem padding."
  | notText => "A chave deve ser texto base64url."
  | empty => "A chave não pode ser vazia."

namespace Key

/-- The bytes of a datum that is to be a key: bytes as they are, or a text
that spells them, blanks around it passed over. -/
def bytesOf (value : Value) : Except KeyFault (List UInt8) :=
  match value with
  | .bytes data => .ok data
  | .buffer data => .ok data
  | .text content =>
      match Base64url.decode (Text.trim Text.isBlank content) with
      | .ok data => .ok data
      | .error _ => .error .undecodable
  | _ => .error .notText

/-- A key: at least one byte. -/
def rule : Rule Key := fun value =>
  match bytesOf value with
  | .error problem => .fail (.rule problem.message) value
  | .ok [] => .fail (.rule KeyFault.empty.message) value
  | .ok (first :: rest) => .valid (.bytes (first :: rest))

end Key

-- ============================================================= sources

namespace SettingsSource

/-- The arguments that say how settings are looked for. -/
def options : List String :=
  ["_case_sensitive", "_nested_model_default_partial_update", "_env_prefix",
   "_env_prefix_target", "_env_file", "_env_file_encoding",
   "_env_ignore_empty", "_env_nested_delimiter", "_env_nested_max_split",
   "_env_parse_none_str", "_env_parse_enums", "_cli_prog_name",
   "_cli_parse_args", "_cli_settings_source", "_cli_parse_none_str",
   "_cli_hide_none_type", "_cli_avoid_json", "_cli_enforce_required",
   "_cli_use_class_docs_for_groups", "_cli_exit_on_error", "_cli_prefix",
   "_cli_flag_prefix_char", "_cli_implicit_flags",
   "_cli_ignore_unknown_args", "_cli_kebab_case", "_cli_shortcuts",
   "_secrets_dir", "_build_sources"]

end SettingsSource

/-- Where settings are looked for. -/
structure SettingsSource where
  arguments : List (String × Value)
  environment : Environment
  /-- No argument says how settings are looked for. -/
  plain : ∀ argument ∈ arguments, argument.1 ∉ SettingsSource.options

namespace SettingsSource

/-- Where nothing is given but the environment. -/
def ofEnvironment (environment : Environment) : SettingsSource :=
  ⟨[], environment, nofun⟩

variable {α : Type}

/-- The argument for a setting: that of the exact name, or else the first
whose name differs at most in case. -/
def argument? (source : SettingsSource) (name : String) : Option Value :=
  match Value.field? name source.arguments with
  | some value => some value
  | none =>
      (source.arguments.find? fun (other, _) =>
        Text.sameName other name).map (·.2)

/-- The datum given for a setting. -/
def given? (source : SettingsSource) (name : String) : Option Value :=
  match source.argument? name with
  | some value => some value
  | none => (source.environment.find? ("SERVICE_" ++ name)).map .text

/-- A setting that has a default. -/
def setting (source : SettingsSource) (name : String) (rule : Rule α)
    (default : α) : Validated α :=
  match source.given? name with
  | some value => (rule value).under name
  | none => .valid default

/-- A setting that has to be given. -/
def required (source : SettingsSource) (name : String) (rule : Rule α) :
    Validated α :=
  match source.given? name with
  | some value => (rule value).under name
  | none => .invalid [⟨.missing, [name], .record source.arguments⟩]

end SettingsSource

-- ============================================================ settings

/-- The settings. Those that are data are texts, once they were checked. -/
structure Settings where
  projectName : Value
  /-- The path under which the routes of the interface lie. -/
  apiRoot : Value
  passwordKey : Key
  tokenKey : Key
  tokenDuration : Duration
  cookieName : Value
  logLevel : Value

namespace Settings

def names : List String :=
  ["PROJECT_NAME", "API_V1_STR", "PWD_KEY", "TOKEN_KEY", "TOKEN_DURATION_SEC",
   "AUTH_COOKIE_NAME", "LOG_LEVEL"]

/-- Half an hour. -/
def defaultDuration : Binary64 := .ofInt 1800

/-- The arguments that are no settings, each a fault. -/
def unknown (source : SettingsSource) : List Fault :=
  (source.arguments.filter fun (name, _) => !names.any (Text.sameName name)).map
    fun (name, value) => ⟨.extraForbidden, [name], value⟩

/-- A setting that is a text. -/
def textSetting (source : SettingsSource) (name default : String) :
    Validated Value :=
  (source.setting name Rule.text default).map .text

/-- The settings by their fields alone. -/
def fields (source : SettingsSource) : Validated Settings :=
  (((((((textSetting source "PROJECT_NAME" "WebToken Auth").map mk).andThen
    (textSetting source "API_V1_STR" "/api/v1")).andThen
    (source.required "PWD_KEY" Key.rule)).andThen
    (source.required "TOKEN_KEY" Key.rule)).andThen
    ((source.setting "TOKEN_DURATION_SEC" Rule.number defaultDuration).map
      Duration.real)).andThen
    (textSetting source "AUTH_COOKIE_NAME" "auth-token")).andThen
    (textSetting source "LOG_LEVEL" "INFO")

/-- The settings that a source holds. -/
def load (source : SettingsSource) : Validated Settings :=
  match fields source, unknown source with
  | .valid settings, [] => .valid settings
  | checked, extra => .invalid (checked.faults ++ extra)

/-- Settings taken as they are given, without any check; what is not given
has its default, or else is absent. -/
def unchecked (arguments : List (String × Value)) : Settings :=
  let given (name : String) (default : Value) : Value :=
    (Value.field? name arguments).getD default
  { projectName := given "PROJECT_NAME" (.text "WebToken Auth")
    apiRoot := given "API_V1_STR" (.text "/api/v1")
    passwordKey := Key.ofValue? (Value.field? "PWD_KEY" arguments)
    tokenKey := Key.ofValue? (Value.field? "TOKEN_KEY" arguments)
    tokenDuration :=
      Duration.ofValue (given "TOKEN_DURATION_SEC" (.real defaultDuration))
    cookieName := given "AUTH_COOKIE_NAME" (.text "auth-token")
    logLevel := given "LOG_LEVEL" (.text "INFO") }

def tokenPolicy (settings : Settings) : TokenPolicy :=
  ⟨settings.tokenKey, settings.tokenDuration⟩

end Settings

end StatelessAuth
