/-
Numbers written in decimal, as a configuration holds them.

A number is an optional sign, digits with at most one point among or
around them, and an optional power of ten; the words for infinity and for
"not a number" are numbers too, in any case. `readSpaced?` is the reading
of a configured text: white space around the number is passed over, and
in a text that is not a number as it stands single low lines between
other characters are taken out.
-/
import StatelessAuth.Binary64
import StatelessAuth.Text.Blank
import StatelessAuth.Text.Case
import StatelessAuth.Text.Digits
import StatelessAuth.Text.Split

namespace StatelessAuth.Binary64

open Text

/-- The sign in front of a number, and the rest: a minus, a plus, or
nothing for a plus. -/
def takeSign : List Char → Bool × List Char
  | '-' :: rest => (true, rest)
  | '+' :: rest => (false, rest)
  | text => (false, text)

/-- A power of ten: the letter, a sign, and at least one digit to the end
of the text. No text at all is the power zero. -/
def readExponent? : List Char → Option Int
  | [] => some 0
  | e :: rest =>
      let (negative, digits) := takeSign rest
      if (e = 'e' ∨ e = 'E') ∧ digits ≠ [] ∧ digits.all isDigit then
        let size : Int := ofDigits digits
        some (if negative then -size else size)
      else none

/-- A number without its sign: digits, a point with digits, a power of
ten. There is a digit before the point or after it. -/
def readMagnitude? (negative : Bool) (text : List Char) : Option Binary64 :=
  let whole := text.takeWhile isDigit
  let rest := text.dropWhile isDigit
  let (fraction, rest) :=
    match rest with
    | '.' :: rest => (rest.takeWhile isDigit, rest.dropWhile isDigit)
    | rest => ([], rest)
  if whole = [] ∧ fraction = [] then none
  else
    (readExponent? rest).map fun exponent =>
      ofDecimal negative (ofDigits (whole ++ fraction))
        (exponent - fraction.length)

def read? (text : String) : Option Binary64 :=
  let (negative, rest) := takeSign text.toList
  let word := lower (String.ofList rest)
  if word = "inf" ∨ word = "infinity" then some (.infinite negative)
  else if word = "nan" then some .nan
  else readMagnitude? negative rest

/-- A text with low lines in it that are neither at an end nor doubled,
without them. -/
def joinGroups? (text : String) : Option String :=
  let groups := split '_' text.toList
  if 1 < groups.length ∧ groups.all (!·.isEmpty) then
    some (String.ofList groups.flatten)
  else none

/-- A configured number. -/
def readSpaced? (text : String) : Option Binary64 :=
  match read? (trim isWhiteSpace text) with
  | some number => some number
  | none => (joinGroups? text).bind read?

end StatelessAuth.Binary64
