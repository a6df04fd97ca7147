/-
Arguments as the places of a template show them.

An argument is first written as the letter of its place says, as a text or
as a number, and then set into the width of the place. Only numbers can be
filled up with zeros, which stand between the sign and the digits. A lone
character may be given by its number, and then it may be half of a surrogate
pair as well.
-/
import StatelessAuth.Log.Template
import StatelessAuth.Value.Display

namespace StatelessAuth.Log

open Text

/-- A number to be written: its sign, what stands before its digits, and
its digits. -/
structure Signed where
  negative : Bool
  lead : List Char
  body : List Char

/-- An argument, written but not yet set into its width. -/
inductive Written
  | plain (text : List Glyph)
  | number (signed : Signed)

/-- The integer of an argument where an integer is written: doubles lose
their fraction if `rounding`. -/
def integerOf (rounding : Bool) : Document → Except TemplateError Int
  | .integer n => .ok n
  | .bool b => .ok (if b then 1 else 0)
  | .real (.finite negative significand doublings) =>
      if rounding then
        let size : Int := significand * twoTo doublings / Binary64.one
        .ok (if negative then -size else size)
      else .error .mismatch
  | .real .nan => .error (if rounding then .malformed else .mismatch)
  | .real (.infinite _) => .error (if rounding then .outOfRange else .mismatch)
  | _ => .error .mismatch

/-- The most digits that can be asked of an integer: with its sign and what
stands before it, its length is an integer of 32 bits. -/
def mostPlaces : Nat := twoTo 31 - 4

/-- An integer with at least so many digits of a base. -/
def writtenInteger (base : Nat) (capital : Bool) (lead : List Char)
    (precision : Option Int) (n : Int) : Except TemplateError Written :=
  let places := (precision.getD 0).toNat
  let digits := Nat.toDigits base n.natAbs
  let digits := if capital then digits.map Char.toUpper else digits
  if mostPlaces < places then .error .outOfRange
  else
    .ok (.number ⟨decide (n < 0), lead,
      List.replicate (places - digits.length) '0' ++ digits⟩)

/-- The double of an argument where a double is written. -/
def doubleOf : Document → Except TemplateError Binary64
  | .real x => .ok x
  | .bool b => .ok (.ofInt (if b then 1 else 0))
  | .integer n =>
      match Binary64.ofInt n with
      | .infinite _ => .error .outOfRange
      | x => .ok x
  | _ => .error .mismatch

/-- The digits of a finite double as its letter says. -/
def doubleBody (letter : Char) (places : Nat) (alternate : Bool) (units : Nat) :
    List Char :=
  match letter.toLower with
  | 'f' => Binary64.fixedText units places alternate
  | 'e' =>
      Binary64.scientificText letter (places + 1) alternate
        (Binary64.significant units (places + 1))
  | _ =>
      Binary64.generalText (if letter = 'G' then 'E' else 'e') units
        (max places 1) alternate

/-- A double as its letter says. -/
def writtenDouble (letter : Char) (precision : Option Int) (alternate : Bool)
    (x : Binary64) : Written :=
  let places := (precision.getD 6).toNat
  let word (s : String) :=
    if letter.isUpper then s.toList.map Char.toUpper else s.toList
  match x with
  | .nan => .number ⟨false, [], word "nan"⟩
  | .infinite negative => .number ⟨negative, [], word "inf"⟩
  | x => .number ⟨x.isNegative, [], doubleBody letter places alternate x.units⟩

/-- A text cut to a precision. -/
def writtenText (precision : Option Int) (text : Wording) : Written :=
  match precision with
  | none => .plain text.glyphs
  | some size => .plain (text.glyphs.take size.toNat)

/-- The escape of a character that is not ASCII. -/
def asciiChar (c : Char) : List Char :=
  if c.toNat < 0x80 then [c]
  else if c.toNat < 0x100 then '\\' :: 'x' :: hexDigits 2 c.toNat
  else if c.toNat < 0x10000 then '\\' :: 'u' :: hexDigits 4 c.toNat
  else '\\' :: 'U' :: hexDigits 8 c.toNat

/-- A lone character, given as it is or by its number. -/
def writtenChar : Document → Except TemplateError Written
  | .text content =>
      match content.glyphs with
      | [glyph] => .ok (.plain [glyph])
      | _ => .error .mismatch
  | .integer n =>
      match if n < 0 then none else Glyph.ofNat? n.toNat with
      | some glyph => .ok (.plain [glyph])
      | none => .error .outOfRange
  | .bool b => .ok (.plain [.char (Char.ofNat (if b then 1 else 0))])
  | _ => .error .mismatch

/-- An argument as a letter says, not yet set into the width. -/
def writtenAs (letter : Char) (alternate : Bool) (precision : Option Int)
    (value : Document) : Except TemplateError Written :=
  let lead (mark : Char) := if alternate then ['0', mark] else []
  match letter with
  | 's' => .ok (writtenText precision value.inSentence)
  | 'r' => .ok (writtenText precision value.display)
  | 'a' =>
      .ok (writtenText precision
        (String.ofList (value.display.toList.flatMap asciiChar)))
  | 'c' => writtenChar value
  | 'd' | 'i' | 'u' =>
      integerOf true value >>= writtenInteger 10 false [] precision
  | 'o' => integerOf false value >>= writtenInteger 8 false (lead 'o') precision
  | 'x' =>
      integerOf false value >>= writtenInteger 16 false (lead 'x') precision
  | 'X' => integerOf false value >>= writtenInteger 16 true (lead 'X') precision
  | 'e' | 'E' | 'f' | 'F' | 'g' | 'G' =>
      (doubleOf value).map (writtenDouble letter precision alternate)
  | _ => .error .malformed

/-- An argument as its place says, not yet set into the width. -/
def written (place : Place) (precision : Option Int) (value : Document) :
    Except TemplateError Written :=
  match place.letter with
  | .char letter => writtenAs letter place.alternate precision value
  | .half _ => .error .malformed

/-- The sign that a number is written with. -/
def signText (place : Place) (negative : Bool) : List Char :=
  if negative then ['-']
  else if place.plusSign then ['+']
  else if place.blankSign then [' ']
  else []

/-- What is written, set into a width. Zeros that fill a number up stand
between its sign and its digits. -/
def fitted (place : Place) (width : Nat) (left : Bool) : Written → List Glyph
  | .plain text =>
      let blanks := List.replicate (width - text.length) (.char ' ')
      if left then text ++ blanks else blanks ++ text
  | .number ⟨negative, lead, body⟩ =>
      let front := signText place negative ++ lead
      let missing := width - (front ++ body).length
      let text :=
        if place.zeroFilled ∧ ¬ left then
          front ++ List.replicate missing '0' ++ body
        else if left then front ++ body ++ List.replicate missing ' '
        else List.replicate missing ' ' ++ front ++ body
      text.map .char

end StatelessAuth.Log
