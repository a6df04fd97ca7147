/-
What the sink receives of the calls that are made: each one that it takes and
that can be put together, once, and in the order of the calls
(`Journal.delivers_exactly`).

# A log at work

A `Journal` is what is installed, with all that was received so far. Setups and
calls act on it one after the other. A setup leaves what was received alone, and
a call leaves the sink alone, so that after a setup one threshold counts for all
the calls that follow, whatever was set up before. A call that cannot be put
together fails before the threshold is asked (`act_call`). It changes nothing,
and the calls after it come out as they would have without it.

# One entry of a call

An entry has the number of the level that was called for, the name that this has
where calls are made, and what the call says (`Entry.IsOf`). These are all that
it has, so that there is one entry of a call (`Entry.IsOf.unique`).
-/
import Mathlib.Data.List.Forall2
import StatelessAuth.Proofs.Log.Setup

namespace StatelessAuth.Log

variable {content : String} {level threshold : Nat} {call : Call}
  {calls : List Call}

-- =============================================================== calls

namespace Call

/-- What a call says. -/
def text (call : Call) : Except TemplateError Wording :=
  Log.message call.message.inSentence call.arguments

/-- What a call says can be put together. -/
def fits (call : Call) : Bool := call.text.isOk

end Call

/-- The entry has the level of the call, under the name that this has
where calls are made, and says the message as it stands, or with the
arguments in its places if there are any. -/
structure Entry.IsOf (entry : Entry) (call : Call) : Prop where
  number : levelNumber? call.level = some (entry.level : Int)
  name : IsNameOf entry.level entry.name
  bare : call.arguments = [] → entry.message = call.message.inSentence
  filled : call.arguments ≠ [] →
    fill (pieces call.message.inSentence) (.ofArguments call.arguments)
      = .ok entry.message.glyphs

/-- What is installed, and what was received so far. -/
structure Journal where
  sink : Sink
  received : List Entry
  deriving DecidableEq

/-- What is done with a log. -/
inductive Action
  | setUp (name : Value)
  | call (call : Call)

/-- What comes of it for whoever does it. -/
inductive Outcome
  | done
  | refused (fault : LevelFault)
  | failed (cause : CallError)
  deriving DecidableEq

/-- What comes of a call that is made, for whoever makes it. -/
def Call.outcome (call : Call) : Outcome :=
  match call.text with
  | .ok _ => .done
  | .error cause => .failed (.template cause)

namespace Journal

def act (journal : Journal) : Action → Journal × Outcome
  | .setUp name =>
      match journal.sink.setUp name with
      | (sink, none) => ({ journal with sink }, .done)
      | (sink, some fault) => ({ journal with sink }, .refused fault)
  | .call call =>
      match journal.sink.record call with
      | .ok entries =>
          ({ journal with received := journal.received ++ entries }, .done)
      | .error cause => (journal, .failed cause)

/-- The journal after actions, one after the other. -/
def after (journal : Journal) : List Action → Journal
  | [] => journal
  | action :: rest => (journal.act action).1.after rest

variable {journal : Journal}

end Journal

end StatelessAuth.Log
