/-
What stops the reading of a JSON text, and where.

A reader gives what it read and the text that follows. When it stops, it
gives the flaw and the text from the flaw on; how much of the whole came
before is then a matter of lengths (`Stop.position`), so that no reader
has to count.
-/
import StatelessAuth.Text.Wording

namespace StatelessAuth.Json

/-- What is wrong with a text. -/
inductive Flaw
  /-- A field should have begun with its name. -/
  | fieldName
  /-- A name should have been followed by a colon. -/
  | colon
  /-- An item should have been followed by a comma or by the end. -/
  | comma
  /-- A value should have begun. -/
  | value
  /-- Something follows the value. -/
  | trailing
  /-- A text has no closing quote. -/
  | unclosed
  /-- A control character stands in a text as it is. -/
  | control
  /-- There is no such escape. -/
  | escape
  /-- An escape by number lacks its four digits. -/
  | numberEscape
  /-- An integer has more digits than are read. -/
  | longInteger
  /-- Lists and records stand in each other deeper than is read. -/
  | nesting
  /-- The bytes of the text are no code points. -/
  | encoding
  deriving DecidableEq, Repr

def Flaw.message : Flaw → String
  | fieldName => "Expecting property name enclosed in double quotes"
  | colon => "Expecting ':' delimiter"
  | comma => "Expecting ',' delimiter"
  | value => "Expecting value"
  | trailing => "Extra data"
  | unclosed => "Unterminated string starting at"
  | control => "Invalid control character at"
  | escape => "Invalid \\escape"
  | numberEscape => "Invalid \\uXXXX escape"
  | longInteger => "Exceeds the limit for integers"
  | nesting => "Exceeds the limit for nesting"
  | encoding => "Invalid encoding"

/-- A flaw, and the text from there on. -/
structure Stop where
  flaw : Flaw
  rest : List Glyph
  deriving DecidableEq, Repr

/-- How many code points of a whole text come before the flaw. -/
def Stop.position (stop : Stop) (whole : List Glyph) : Nat :=
  whole.length - stop.rest.length

/-- What was read and the text that follows, or where reading stopped. -/
abbrev Progress (α : Type) := Except Stop (α × List Glyph)

end StatelessAuth.Json
