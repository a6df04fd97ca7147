/-
Data as a report shows them: texts between quotes, byte strings as texts
with the mark `b` in front, lists and records with their brackets, and the
words `None`, `True` and `False`.

A byte buffer is a byte string in the brackets of its kind, with one
difference: an apostrophe in it is escaped between any quotes
(`displayBuffer`).
-/
import StatelessAuth.Binary64.Decimal
import StatelessAuth.Text.Display
import StatelessAuth.Value

namespace StatelessAuth.Value

/-- Texts with a comma and a blank between them. -/
def commas : List String → String
  | [] => ""
  | [item] => item
  | item :: rest => item ++ ", " ++ commas rest

/-- The quote that some bytes are shown between, and a byte between them. -/
def byteQuote (data : List UInt8) : Char :=
  Text.displayQuote (data.map fun byte => .char (Char.ofNat byte.toNat))

def displayByte (quote : Char) (byte : UInt8) : List Char :=
  let c := Char.ofNat byte.toNat
  if byte < 0x80 then Text.displayChar quote c
  else '\\' :: 'x' :: Text.hexDigits 2 byte.toNat

/-- A byte string as a report shows it. -/
def displayBytes (data : List UInt8) : String :=
  let quote := byteQuote data
  String.ofList ('b' :: quote :: data.flatMap (displayByte quote) ++ [quote])

/-- A byte of a buffer shown between `quote`s. -/
def displayBufferByte (quote : Char) (byte : UInt8) : List Char :=
  if byte = 0x27 then ['\\', '\''] else displayByte quote byte

/-- A byte buffer as a report shows it. -/
def displayBuffer (data : List UInt8) : String :=
  let quote := byteQuote data
  String.ofList
    ("bytearray(b".toList ++ quote :: data.flatMap (displayBufferByte quote)
      ++ [quote, ')'])

variable {τ : Type} [Textual τ]

mutual

def display : Value τ → String
  | .null => "None"
  | .bool value => if value then "True" else "False"
  | .integer value => toString value
  | .real value => value.text
  | .text value => Text.display (Textual.wording value)
  | .bytes data => displayBytes data
  | .buffer data => displayBuffer data
  | .list items => "[" ++ commas (displayItems items) ++ "]"
  | .record fields => "\x7b" ++ commas (displayFields fields) ++ "\x7d"

/-- The items of a list, each as a report shows it. -/
def displayItems : List (Value τ) → List String
  | [] => []
  | item :: rest => item.display :: displayItems rest

/-- The fields of a record, each as a report shows it. -/
def displayFields : List (τ × Value τ) → List String
  | [] => []
  | (name, value) :: rest =>
      (Text.display (Textual.wording name) ++ ": " ++ value.display)
        :: displayFields rest

end

/-- A datum in a sentence: a text stands for itself. -/
def inSentence : Value τ → τ
  | .text value => value
  | value => Textual.ofString value.display

end StatelessAuth.Value
