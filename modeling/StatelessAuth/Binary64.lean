/-
Double-precision numbers as exact values.

A finite double is a sign and a magnitude that is a multiple of 2⁻¹⁰⁷⁴,
the least positive double. The magnitude is kept as a significand below
2⁵³ and a count of doublings, so that arithmetic on doubles is arithmetic
on natural numbers and one rounding at the end.

# Rounding

`round` takes a magnitude as a fraction of `unit`s and gives the nearest
double, a tie going to the even significand, and infinity from half a
step past the greatest finite double on. Reading a decimal text, reading
an integer and multiplying are all this one function.
-/
import StatelessAuth.Powers

namespace StatelessAuth

/-- A double: not a number, an infinity, or a sign with
`significand * 2 ^ doublings` units of 2⁻¹⁰⁷⁴. -/
inductive Binary64
  | nan
  | infinite (negative : Bool)
  | finite (negative : Bool) (significand doublings : Nat)
  deriving DecidableEq, Repr

namespace Binary64

def one : Nat := twoTo 1074

/-- The nearest integer to `num / den`, a tie going to the even one. -/
def nearestEven (num den : Nat) : Nat :=
  let floor := num / den
  let twice := 2 * (num % den)
  if twice < den then floor
  else if den < twice then floor + 1
  else floor + floor % 2

/-- The double nearest to `num / den` units. -/
def round (negative : Bool) (num den : Nat) : Binary64 :=
  let doublings := Nat.log2 (num / den) - 52
  let significand := nearestEven num (den * twoTo doublings)
  if significand = twoTo 53 then
    if doublings < 2045 then .finite negative (twoTo 52) (doublings + 1)
    else .infinite negative
  else if doublings ≤ 2045 then .finite negative significand doublings
  else .infinite negative

def ofInt (n : Int) : Binary64 :=
  round (decide (n < 0)) (n.natAbs * one) 1

/-- The double nearest to `digits * 10 ^ exponent`. A magnitude of 10³¹⁰
or more is infinite and one below 10⁻³³⁰ is zero whatever the digits. -/
def ofDecimal (negative : Bool) (digits : Nat) (exponent : Int) : Binary64 :=
  let scale := (Nat.toDigits 10 digits).length + exponent
  if digits = 0 ∨ scale < -330 then .finite negative 0 0
  else if 310 < scale then .infinite negative
  else if 0 ≤ exponent then
    round negative (digits * tenTo exponent.toNat * one) 1
  else round negative (digits * one) (tenTo (-exponent).toNat)

/-- The 64 bits of the interchange format: sign, eleven bits of exponent,
fifty-two of fraction. -/
def toBits : Binary64 → Nat
  | .nan => 0x7FF8000000000000
  | .infinite negative =>
      (if negative then twoTo 63 else 0) + 0x7FF0000000000000
  | .finite negative significand doublings =>
      (if negative then twoTo 63 else 0)
        + (if significand < twoTo 52 then significand
           else doublings * twoTo 52 + significand)

/-- The magnitude of a finite double in units; zero for the others. -/
def units : Binary64 → Nat
  | .finite _ significand doublings => significand * twoTo doublings
  | _ => 0

def toInt? : Binary64 → Option Int
  | .finite negative significand doublings =>
      let magnitude := significand * twoTo doublings
      if magnitude % one = 0 then
        let whole : Int := magnitude / one
        some (if negative then -whole else whole)
      else none
  | _ => none

end Binary64

end StatelessAuth
