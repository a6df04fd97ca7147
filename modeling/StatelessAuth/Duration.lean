/-
Spans of time in seconds, and the instant that lies one past another.

A span is an integer or a double; integers shift an instant exactly. A
double is split into whole seconds and a fraction, the fraction times a
million is rounded to a double, that is split again into whole
microseconds and a rest, and the rest rounds the sum to the nearest
microsecond, a tie going to the even sum.
-/
import StatelessAuth.Calendar.Instant
import StatelessAuth.Value

namespace StatelessAuth

/-- A span of seconds, or something that is no number. -/
inductive Duration
  | whole (seconds : Int)
  | real (seconds : Binary64)
  | notNumeric
  deriving DecidableEq, Repr

inductive DurationError
  /-- The span is no number of any kind. -/
  | notNumeric
  | notANumber
  /-- The sum is outside the years 1 to 9999. -/
  | outOfRange
  deriving DecidableEq, Repr

namespace Duration

/-- The span that a datum is: numbers are, and the truth values count as
one second and none. -/
def ofValue : Value → Duration
  | .integer seconds => .whole seconds
  | .bool seconds => .whole (if seconds then 1 else 0)
  | .real seconds => .real seconds
  | _ => .notNumeric

/-- Rounds a sum by a rest of `rest` units in the direction of the sign:
less than half is dropped, more than half is one step, and half is a step
only from an odd sum. -/
def roundRest (sum : Int) (negative : Bool) (rest : Nat) : Int :=
  let step : Int := if negative then -1 else 1
  if 2 * rest < Binary64.one then sum
  else if Binary64.one < 2 * rest then sum + step
  else if sum % 2 = 0 then sum
  else sum + step

/-- The microseconds of a magnitude of seconds in units. -/
def microsOfUnits (negative : Bool) (units : Nat) : Int :=
  let fraction := units % Binary64.one
  let product := (Binary64.round false (fraction * 1000000) 1).units
  let sum : Int := units / Binary64.one * 1000000 + product / Binary64.one
  roundRest (if negative then -sum else sum) negative (product % Binary64.one)

/-- The shift of a span in microseconds. -/
def micros : Duration → Except DurationError Int
  | .whole seconds => .ok (seconds * 1000000)
  | .real (.finite negative significand doublings) =>
      .ok (microsOfUnits negative (significand * twoTo doublings))
  | .real (.infinite _) => .error .outOfRange
  | .real .nan => .error .notANumber
  | .notNumeric => .error .notNumeric

/-- The instant that lies a span past `start`. -/
def after (start : Instant) (span : Duration) : Except DurationError Instant :=
  match span.micros with
  | .error e => .error e
  | .ok shift =>
      match Instant.ofMicros? (start.micros + shift) with
      | none => .error .outOfRange
      | some instant => .ok instant

end Duration

end StatelessAuth
