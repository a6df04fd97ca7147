/-
Variables of the process. They keep the order in which they were first
set: a variable that is set again stays at its place. Names are looked up
without regard to case, and of several that differ only in case the last
one counts (`find?`).
-/
import StatelessAuth.Text.Case

namespace StatelessAuth

/-- Names and their texts, in order. -/
structure Environment where
  entries : List (String × String)
  deriving DecidableEq, Repr

namespace Environment

def empty : Environment := ⟨[]⟩

def putIn (name text : String) : List (String × String) → List (String × String)
  | [] => [(name, text)]
  | (other, old) :: rest =>
      if other = name then (name, text) :: rest
      else (other, old) :: putIn name text rest

def put (environment : Environment) (name text : String) : Environment :=
  ⟨putIn name text environment.entries⟩

def putAll (environment : Environment) (entries : List (String × String)) :
    Environment :=
  entries.foldl (fun environment (name, text) => environment.put name text)
    environment

def remove (environment : Environment) (name : String) : Environment :=
  ⟨environment.entries.filter fun (other, _) => other != name⟩

/-- The text of the last variable whose name differs from `name` at most
in case. -/
def find? (environment : Environment) (name : String) : Option String :=
  (environment.entries.reverse.find? fun (other, _) =>
    Text.sameName other name).map (·.2)

end Environment

end StatelessAuth
