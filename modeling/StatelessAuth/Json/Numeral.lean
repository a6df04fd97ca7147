/-
Numbers, of which as much is read as makes a number: an optional minus, a
zero or digits that do not begin with one, a point with digits behind it,
a power of ten with digits. A point or a power that lacks its digits is
left to what follows. A number with neither is an integer.

A number is looked for in the run of characters that can stand in one
(`mayStand`); what is left of the run goes back to the text.
-/
import StatelessAuth.Json.Flaw
import StatelessAuth.Text.Digits
import StatelessAuth.Value

namespace StatelessAuth.Json

open Text

/-- The whole part of a number: a lone zero, or digits. -/
def takeWhole : List Char → List Char × List Char
  | '0' :: rest => (['0'], rest)
  | text => (text.takeWhile isDigit, text.dropWhile isDigit)

/-- A point and the digits behind it. -/
def takeFraction? : List Char → Option (List Char × List Char)
  | '.' :: rest =>
      let digits := rest.takeWhile isDigit
      if digits = [] then none else some (digits, rest.dropWhile isDigit)
  | _ => none

/-- The size of a power of ten, from behind the letter and the sign. -/
def takePowerSize? (negative : Bool) (text : List Char) :
    Option (Int × List Char) :=
  let digits := text.takeWhile isDigit
  let size : Int := ofDigits digits
  if digits = [] then none
  else some (if negative then -size else size, text.dropWhile isDigit)

def takePower? : List Char → Option (Int × List Char)
  | letter :: '-' :: rest =>
      if letter = 'e' ∨ letter = 'E' then takePowerSize? true rest else none
  | letter :: '+' :: rest =>
      if letter = 'e' ∨ letter = 'E' then takePowerSize? false rest else none
  | letter :: rest =>
      if letter = 'e' ∨ letter = 'E' then takePowerSize? false rest else none
  | [] => none

/-- The number of the digits given, its fraction and power as far as there
are such. -/
def numberOf (negative : Bool) (whole : List Char)
    (fraction? : Option (List Char)) (power? : Option Int) : Document :=
  if fraction?.isNone && power?.isNone then
    let size : Int := ofDigits whole
    .integer (if negative then -size else size)
  else
    let fraction := fraction?.getD []
    .real (.ofDecimal negative (ofDigits (whole ++ fraction))
      (power?.getD 0 - fraction.length))

/-- The number in front of some characters, and those that follow it. -/
def readNumeral (text : List Char) : Except Flaw (Document × List Char) :=
  let (negative, unsigned) :=
    match text with
    | '-' :: rest => (true, rest)
    | text => (false, text)
  let (whole, rest) := takeWhole unsigned
  let (fraction?, rest) :=
    match takeFraction? rest with
    | some (digits, rest) => (some digits, rest)
    | none => (none, rest)
  let (power?, rest) :=
    match takePower? rest with
    | some (power, rest) => (some power, rest)
    | none => (none, rest)
  if whole = [] then .error .value
  else if integerDigits < whole.length ∧ fraction? = none ∧ power? = none then
    .error .longInteger
  else .ok (numberOf negative whole fraction? power?, rest)

/-- The character can stand in a number. -/
def mayStand (c : Char) : Bool :=
  isDigit c || c == '-' || c == '+' || c == '.' || c == 'e' || c == 'E'

def readNumber (text : List Glyph) : Progress Document :=
  let (run, behind) := Glyph.spanChars mayStand text
  match readNumeral run with
  | .error flaw => .error ⟨flaw, text⟩
  | .ok (value, rest) => .ok (value, rest.map .char ++ behind)

end StatelessAuth.Json
