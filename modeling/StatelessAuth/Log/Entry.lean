/-
What is said in a log: a message at a level. Levels are positive numbers.

# Two tables of levels

Whoever calls the log has names for five levels, and the sink has seven
levels of its own. A call is handed on to the sink (`handed`) under the name
that its level has where it was made, if the sink has a level of that name.
Otherwise it is handed on by the number alone, from which the sink makes a
name. So a level that only the sink has a name for is written by its number.
-/
import StatelessAuth.Text.Wording

namespace StatelessAuth.Log

-- =============================================================== levels

/-- The levels that have a name where calls are made. -/
def callerLevels : List (String × Nat) :=
  [("DEBUG", 10), ("INFO", 20), ("WARNING", 30), ("ERROR", 40),
   ("CRITICAL", 50)]

/-- The levels of the sink. A threshold can be set to each of them. -/
def thresholds : List (String × Nat) :=
  [("TRACE", 5), ("DEBUG", 10), ("INFO", 20), ("SUCCESS", 25),
   ("WARNING", 30), ("ERROR", 40), ("CRITICAL", 50)]

/-- The name that is made for a level without one. -/
def numberName (level : Nat) : String := "Level " ++ toString level

/-- The name of a level where calls are made. -/
def calledName (level : Nat) : String :=
  match callerLevels.find? (·.2 == level) with
  | some (name, _) => name
  | none => numberName level

/-- The name and the number that the sink has for a level that is called
for. -/
def handed (level : Nat) : String × Nat :=
  match thresholds.lookup (calledName level) with
  | some number => (calledName level, number)
  | none => (numberName level, level)

-- ============================================================== entries

structure Entry where
  level : Nat
  /-- The name under which the level is written. -/
  name : String
  message : Wording
  deriving DecidableEq, Repr

namespace Entry

/-- The entry that becomes of a message at a level. -/
def ofLevel (level : Nat) (message : Wording) : Entry :=
  let (name, level) := handed level
  ⟨level, name, message⟩

/-- A message for who follows what happens. -/
def info (message : Wording) : Entry := ofLevel 20 message

/-- A message about something that should not have happened. -/
def warning (message : Wording) : Entry := ofLevel 30 message

/-- A message about something that ends the work. -/
def critical (message : Wording) : Entry := ofLevel 50 message

end Entry

end StatelessAuth.Log
