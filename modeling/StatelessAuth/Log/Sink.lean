/-
Where log entries go: one sink with a threshold, or none at all.

`setUp` takes the old sink away before it looks at the name of the new
threshold, so that a name that is no level leaves no sink. A message is
put together before the threshold is looked at, so that arguments that do
not fit are reported whether or not the entry would have been written. The
sink writes what it is handed, under the name that comes with it.
-/
import StatelessAuth.Log.Entry
import StatelessAuth.Log.Message
import StatelessAuth.Text.Case

namespace StatelessAuth.Log

/-- The threshold of a name in any case. -/
def threshold? (name : String) : Option Nat :=
  thresholds.lookup (Text.upper name)

/-- What is installed: a sink with a threshold, or nothing. -/
structure Sink where
  threshold : Option Nat
  deriving DecidableEq, Repr

/-- Why no threshold can be set. -/
inductive LevelFault
  /-- The name is that of no level. -/
  | unknown
  /-- What stands in the place of the name has no letters. -/
  | notText
  /-- The name is a byte string. -/
  | notName
  deriving DecidableEq, Repr

namespace Sink

def none : Sink := ⟨.none⟩

/-- Installs a sink for the entries from the named level on, if there is
such a level. What has no letters is refused while the old sink is still
there. -/
def setUp (before : Sink) (name : Value) : Sink × Option LevelFault :=
  match name with
  | .text name =>
      match threshold? name with
      | some level => (⟨some level⟩, .none)
      | .none => (none, some .unknown)
  | .bytes _ | .buffer _ => (none, some .notName)
  | _ => (before, some .notText)

def takes (sink : Sink) (entry : Entry) : Bool :=
  match sink.threshold with
  | some level => level ≤ entry.level
  | .none => false

def written (sink : Sink) (entries : List Entry) : List Entry :=
  entries.filter sink.takes

end Sink

-- ================================================================ calls

/-- A call to the log, as it is made. -/
structure Call where
  /-- The name of who calls. -/
  caller : Document
  level : Document
  message : Document
  arguments : List Document

/-- Why a call fails. -/
inductive CallError
  /-- The name of who calls is no text. -/
  | callerName
  /-- The level is no integer. -/
  | level
  | template (cause : TemplateError)
  deriving DecidableEq, Repr

/-- A datum names who calls: a text, or nothing at all. -/
def isCaller : Document → Bool
  | .text _ => true
  | value => value.isVoid

/-- The integer that a level is; the truth values count as one and none. -/
def levelNumber? : Document → Option Int
  | .integer level => some level
  | .bool level => some (if level then 1 else 0)
  | _ => none

/-- What a call writes. A call at no positive level is not a call at all. -/
def Sink.record (sink : Sink) (call : Call) : Except CallError (List Entry) :=
  if ¬ isCaller call.caller then .error .callerName
  else
    match levelNumber? call.level with
    | .none => .error .level
    | some level =>
        if level ≤ 0 then .ok []
        else
          match message call.message.inSentence call.arguments with
          | .error cause => .error (.template cause)
          | .ok text => .ok (sink.written [.ofLevel level.toNat text])

end StatelessAuth.Log
