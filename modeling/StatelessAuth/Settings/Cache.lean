/-
Settings that are loaded once and then kept.

The environment may change at any time, but as long as settings are kept
it is not read again. A load that fails keeps nothing, so that the next
one reads the environment again, and it is reported in the log. Kept
settings have a number, which counts the successful loads before them.

The report names all faults. How it shows what was found, and where it
sends the reader for more, is a matter of whoever writes it (`FaultStyle`).
-/
import StatelessAuth.Log.Entry
import StatelessAuth.Settings

namespace StatelessAuth

/-- How a report is written. -/
structure FaultStyle where
  /-- What was found where a fault is, and of what type it is. -/
  shown : Environment → Fault → String
  /-- The address under which each type of faults is explained. -/
  manual : String

/-- Settings with the number of their load. -/
structure KeptSettings where
  number : Nat
  settings : Settings

/-- The environment, and what was loaded from it. -/
structure SettingsCache where
  environment : Environment
  kept : Option KeptSettings
  /-- How many loads have succeeded. -/
  loads : Nat

namespace SettingsCache

def start : SettingsCache := ⟨.empty, none, 0⟩

def put (cache : SettingsCache) (entries : List (String × String)) :
    SettingsCache :=
  { cache with environment := cache.environment.putAll entries }

def remove (cache : SettingsCache) (name : String) : SettingsCache :=
  { cache with environment := cache.environment.remove name }

def clear (cache : SettingsCache) : SettingsCache :=
  { cache with kept := none }

/-- The head of a report: how many faults there are. -/
def failureHead (faults : List Fault) : String :=
  "Erro fatal de validação ao carregar configurações: "
    ++ toString faults.length
    ++ (if faults.length = 1 then " validation error" else " validation errors")
    ++ " for Settings"

/-- The lines on one fault: its place, its sentence with what was found, and
where to read on. -/
def faultLines (style : FaultStyle) (environment : Environment)
    (fault : Fault) : String :=
  "\n" ++ ".".intercalate fault.path
    ++ "\n  " ++ fault.cause.message
    ++ " [type=" ++ fault.cause.code ++ ", "
    ++ style.shown environment fault ++ "]"
    ++ "\n    For further information visit " ++ style.manual
    ++ fault.cause.code

/-- The report of a load that failed in an environment. -/
def failureReport (style : FaultStyle) (environment : Environment)
    (faults : List Fault) : Log.Entry :=
  .critical (failureHead faults
    ++ String.join (faults.map (faultLines style environment)))

/-- What was asked for, and what was logged over it. -/
structure Answer where
  result : Except (List Fault) KeptSettings
  log : List Log.Entry

/-- The settings: those that are kept, or else those that the environment
holds now. -/
def get (style : FaultStyle) (cache : SettingsCache) : SettingsCache × Answer :=
  match cache.kept with
  | some kept => (cache, ⟨.ok kept, []⟩)
  | none =>
      match Settings.load (.ofEnvironment cache.environment) with
      | .valid settings =>
          let kept : KeptSettings := ⟨cache.loads, settings⟩
          ({ cache with kept := some kept, loads := cache.loads + 1 },
            ⟨.ok kept, []⟩)
      | .invalid faults =>
          (cache,
            ⟨.error faults, [failureReport style cache.environment faults]⟩)

/-- What can be done with a cache. -/
inductive Command
  | put (entries : List (String × String))
  | remove (name : String)
  | clear
  | get
  deriving DecidableEq, Repr

/-- What a command changes, and the answer if it asks for the settings. -/
def step (style : FaultStyle) (cache : SettingsCache) :
    Command → SettingsCache × Option Answer
  | .put entries => (cache.put entries, none)
  | .remove name => (cache.remove name, none)
  | .clear => (cache.clear, none)
  | .get =>
      let (cache, answer) := cache.get style
      (cache, some answer)

end SettingsCache

end StatelessAuth
