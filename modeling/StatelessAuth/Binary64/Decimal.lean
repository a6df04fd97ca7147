/-
Doubles written in decimal.

All forms start from the exact value. `significant` gives the digits of a
magnitude to a number of places counted from its first digit, and `fixed`
to a number of places behind the point; both round to the nearest, a tie
going to the even digit. `shortest` takes the fewest digits that read
back as the same double, and of those the nearest.
-/
import StatelessAuth.Binary64
import StatelessAuth.Text.Digits

namespace StatelessAuth.Binary64

open Text

/-- Digits, and the power of ten that the first of them counts. -/
structure Digits where
  digits : Nat
  power : Int
  deriving DecidableEq, Repr

/-- The power of ten of the first digit of a magnitude that is not zero.
No magnitude is below 10⁻⁴⁰⁰. -/
def leadingPower (units : Nat) : Int :=
  (decimal (units * tenTo 400 / one)).length - 401

/-- A magnitude times a power of ten, as a fraction of integers. -/
def scaled (units : Nat) (power : Int) : Nat × Nat :=
  if 0 ≤ power then (units * tenTo power.toNat, one)
  else (units, one * tenTo (-power).toNat)

/-- The `count` leading digits of a magnitude. -/
def significant (units count : Nat) : Digits :=
  if units = 0 then ⟨0, 0⟩
  else
    let power := leadingPower units
    let (num, den) := scaled units (count - 1 - power)
    let digits := nearestEven num den
    if digits = tenTo count then ⟨tenTo (count - 1), power + 1⟩
    else ⟨digits, power⟩

/-- Of the two neighbours of a magnitude among the numbers of `count`
digits the nearest that reads back as the double. -/
def readingBack? (x : Binary64) (count : Nat) : Option Digits :=
  let power := leadingPower x.units
  let (num, den) := scaled x.units (count - 1 - power)
  let nearest := nearestEven num den
  let other := if nearest = num / den then nearest + 1 else num / den
  ([nearest, other].find? fun digits =>
    (ofDecimal false digits (power - count + 1)).units = x.units).map
      fun digits =>
        if digits = tenTo count then ⟨tenTo (count - 1), power + 1⟩
        else ⟨digits, power⟩

/-- The fewest digits that read back as the double, and how many they
are. Seventeen always do. -/
def shortest (x : Binary64) : Digits × Nat :=
  if x.units = 0 then (⟨0, 0⟩, 1)
  else
    let found := (List.range 16).findSome? fun before =>
      (readingBack? x (before + 1)).map fun digits => (digits, before + 1)
    found.getD (significant x.units 17, 17)

-- =============================================================== texts

/-- Digits with a point before the last `places` of them; with no places
there is a point only if asked for. -/
def pointed (places : Nat) (keepPoint : Bool) (digits : Nat) : List Char :=
  decimal (digits / tenTo places)
    ++ (if places = 0 then if keepPoint then ['.'] else []
        else '.' :: padded places digits)

/-- A magnitude with `places` digits behind the point. -/
def fixedText (units places : Nat) (keepPoint : Bool) : List Char :=
  pointed places keepPoint (nearestEven (units * tenTo places) one)

/-- A power of ten behind its letter: a sign and at least two digits. -/
def powerText (letter : Char) (power : Int) : List Char :=
  let size := power.natAbs
  letter :: (if power < 0 then '-' else '+')
    :: (if size < 10 then padded 2 size else decimal size)

/-- Digits with one before the point, and the power of ten. -/
def scientificText (letter : Char) (count : Nat) (keepPoint : Bool)
    (digits : Digits) : List Char :=
  pointed (count - 1) keepPoint digits.digits ++ powerText letter digits.power

/-- `count` digits, all of them before the point or some behind it, by
their power. -/
def positionalText (count : Nat) (keepPoint : Bool) (digits : Digits) :
    List Char :=
  let places := count - 1 - digits.power
  if 0 ≤ places then pointed places.toNat keepPoint digits.digits
  else pointed 0 keepPoint (digits.digits * tenTo (-places).toNat)

/-- The number of digits that are left without the zeros at the end. -/
def stripZeros (count digits : Nat) : Nat × Nat :=
  match count with
  | 0 => (0, digits)
  | 1 => (1, digits)
  | count + 1 =>
      if digits % 10 = 0 then stripZeros count (digits / 10)
      else (count + 1, digits)

/-- More digits than any double has in decimal: at most 767 of them are not
zeros at an end. -/
def mostDigits : Nat := 1000

/-- A magnitude to `count` digits, positional where its power is at least
-4 and below `count`. Zeros at the end are kept only if asked for. -/
def generalText (letter : Char) (units count : Nat) (keepZeros : Bool) :
    List Char :=
  let count := if keepZeros then count else min count mostDigits
  let digits := significant units count
  let (left, stripped) :=
    if keepZeros then (count, digits.digits) else stripZeros count digits.digits
  if -4 ≤ digits.power ∧ digits.power < count then
    positionalText left keepZeros ⟨stripped, digits.power⟩
  else scientificText letter left keepZeros ⟨stripped, digits.power⟩

/-- A magnitude in the fewest digits: positional with at least one digit
behind the point from 10⁻⁴ up to 10¹⁶. -/
def shortestText (x : Binary64) : List Char :=
  let (digits, count) := shortest x
  if -4 ≤ digits.power ∧ digits.power < 16 then
    let places := (count : Int) - 1 - digits.power
    if 1 ≤ places then pointed places.toNat true digits.digits
    else pointed 1 true (digits.digits * tenTo (1 - places).toNat)
  else scientificText 'e' count false digits

def isNegative : Binary64 → Bool
  | .nan => false
  | .infinite negative => negative
  | .finite negative _ _ => negative

def text : Binary64 → String
  | .nan => "nan"
  | .infinite negative => if negative then "-inf" else "inf"
  | .finite negative significand doublings =>
      String.ofList ((if negative then ['-'] else [])
        ++ shortestText (.finite false significand doublings))

end StatelessAuth.Binary64
