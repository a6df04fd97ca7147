/-
Data written as JSON texts, without blanks between the parts.

Texts are quoted with as few escapes as there can be; doubles are written
in the fewest digits and always as doubles, so that they are read back as
what they are. A byte string is written as the text that spells it. The
doubles that are no numbers have words that the reader takes, but they are
no part of JSON (`isWritable`). Half of a surrogate pair is written as it
is, so that what is written of a document need not have bytes.
-/
import StatelessAuth.Base64url
import StatelessAuth.Binary64.Decimal
import StatelessAuth.Text.Display
import StatelessAuth.Value

namespace StatelessAuth.Json

-- =============================================================== leaves

/-- A character between quotes. -/
def quotedChar (c : Char) : List Char :=
  if c = '"' ∨ c = '\\' then ['\\', c]
  else if c = '\n' then ['\\', 'n']
  else if c = '\r' then ['\\', 'r']
  else if c = '\t' then ['\\', 't']
  else if c.toNat < 0x20 then '\\' :: 'u' :: Text.hexDigits 4 c.toNat
  else [c]

def quotedGlyph : Glyph → List Glyph
  | .char c => (quotedChar c).map .char
  | .half offset => [.half offset]

def quoted (text : Wording) : Wording :=
  ⟨.char '"' :: text.glyphs.flatMap quotedGlyph ++ [.char '"']⟩

def realText : Binary64 → String
  | .nan => "NaN"
  | .infinite negative => if negative then "-Infinity" else "Infinity"
  | x => x.text

def commas : List Wording → Wording
  | [] => ""
  | [item] => item
  | item :: rest => item ++ "," ++ commas rest

-- =============================================================== values

mutual

def write : Document → Wording
  | .null => "null"
  | .bool value => if value then "true" else "false"
  | .integer value => toString value
  | .real value => realText value
  | .text value => quoted value
  | .bytes data => quoted (Base64url.encode data)
  | .buffer data => quoted (Base64url.encode data)
  | .list items => "[" ++ commas (writeItems items) ++ "]"
  | .record fields => "\x7b" ++ commas (writeFields fields) ++ "\x7d"

def writeItems : List Document → List Wording
  | [] => []
  | item :: rest => write item :: writeItems rest

def writeFields : List (Wording × Document) → List Wording
  | [] => []
  | (name, value) :: rest =>
      (quoted name ++ ":" ++ write value) :: writeFields rest

end

variable {τ : Type}

mutual

/-- The JSON text of a datum is JSON: it holds no double that is no
number. -/
def isWritable : Value τ → Bool
  | .real (.finite _ _ _) => true
  | .real _ => false
  | .list items => areWritable items
  | .record fields => areFieldsWritable fields
  | _ => true

def areWritable : List (Value τ) → Bool
  | [] => true
  | item :: rest => isWritable item && areWritable rest

def areFieldsWritable : List (τ × Value τ) → Bool
  | [] => true
  | (_, value) :: rest => isWritable value && areFieldsWritable rest

end

mutual

/-- How deep lists and records stand in each other in a datum. -/
def nesting : Value τ → Nat
  | .list items => nestingOfItems items + 1
  | .record fields => nestingOfFields fields + 1
  | _ => 0

def nestingOfItems : List (Value τ) → Nat
  | [] => 0
  | item :: rest => max (nesting item) (nestingOfItems rest)

def nestingOfFields : List (τ × Value τ) → Nat
  | [] => 0
  | (_, value) :: rest => max (nesting value) (nestingOfFields rest)

end

end StatelessAuth.Json
