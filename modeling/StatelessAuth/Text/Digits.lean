/-
Digits. Only those of ASCII count; a number is read from decimal digits
alone, without sign or blanks, and written with at least a given number of
them.
-/

namespace StatelessAuth.Text

/-- The most digits that are read as an integer. -/
def integerDigits : Nat := 4300

/-- One of the ten ASCII digits. -/
def isDigit (c : Char) : Bool :=
  '0' ≤ c && c ≤ '9'

/-- One of the sixteen hexadecimal digits, of which six are letters. -/
def isHexDigit (c : Char) : Bool :=
  isDigit c || ('a' ≤ c && c ≤ 'f') || ('A' ≤ c && c ≤ 'F')

def digitValue (c : Char) : Nat :=
  c.toNat - 48

/-- The number that digits write, most significant first. -/
def ofDigits (digits : List Char) : Nat :=
  digits.foldl (fun number c => 10 * number + digitValue c) 0

/-- The last `width` decimal digits of a number, zeros in front. -/
def padded (width number : Nat) : List Char :=
  match width with
  | 0 => []
  | width + 1 => padded width (number / 10) ++ [Nat.digitChar (number % 10)]

/-- A number in decimal without zeros in front. -/
def decimal (number : Nat) : List Char :=
  Nat.toDigits 10 number

/-- Reads exactly `count` digits and gives the number and what follows. -/
def takeDigits? (count : Nat) (text : List Char) : Option (Nat × List Char) :=
  let digits := text.take count
  if digits.length = count ∧ digits.all isDigit then
    some (ofDigits digits, text.drop count)
  else none

end StatelessAuth.Text
