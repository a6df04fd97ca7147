/-
The form in which a report shows a text: between quotes, with everything
that would not be seen written as an escape.

The quote is the single one, unless the text holds single quotes and no
double one. The backslash and the quote in use are escaped, line feed,
carriage return and tab have escapes of their own, and any other code
point that is not printable is written by its number, in as few of two,
four or eight hexadecimal digits as hold it. So a text can be shown that
has no bytes of its own.
-/
import StatelessAuth.Text.Printable
import StatelessAuth.Text.Wording

namespace StatelessAuth.Text

/-- The last `width` hexadecimal digits of a number, in small letters. -/
def hexDigits (width number : Nat) : List Char :=
  match width with
  | 0 => []
  | width + 1 =>
      hexDigits width (number / 16) ++ [Nat.digitChar (number % 16)]

/-- One character of a text shown between `quote`s. -/
def displayChar (quote c : Char) : List Char :=
  if c = quote ∨ c = '\\' then ['\\', c]
  else if c = '\n' then ['\\', 'n']
  else if c = '\r' then ['\\', 'r']
  else if c = '\t' then ['\\', 't']
  else if isPrintable c then [c]
  else if c.toNat < 0x100 then '\\' :: 'x' :: hexDigits 2 c.toNat
  else if c.toNat < 0x10000 then '\\' :: 'u' :: hexDigits 4 c.toNat
  else '\\' :: 'U' :: hexDigits 8 c.toNat

/-- One code point of a text shown between `quote`s. -/
def displayGlyph (quote : Char) : Glyph → List Char
  | .char c => displayChar quote c
  | .half offset => '\\' :: 'u' :: hexDigits 4 (0xD800 + offset)

/-- The quote that a text is shown between. -/
def displayQuote (text : List Glyph) : Char :=
  if .char '\'' ∈ text ∧ .char '"' ∉ text then '"' else '\''

/-- A text as a report shows it. -/
def display (text : Wording) : String :=
  let quote := displayQuote text.glyphs
  String.ofList (quote :: text.glyphs.flatMap (displayGlyph quote) ++ [quote])

end StatelessAuth.Text
