/-
Times of a clock given by numbers: year, month and day, and then as much
of hour, minute, second and microsecond as is said, the rest being zero.

Numbers that are no integers, or that are too many or too few, are of the
wrong kind; integers of more than 32 bits are out of range whatever they
are for; and of the rest some name no time (`FieldFault`). The offset of
the clock is a span of less than a day to either side.
-/
import StatelessAuth.Duration

namespace StatelessAuth

/-- Why some data name no time of a clock. -/
inductive FieldFault
  /-- A number that is none, or too many or too few of them. -/
  | kind
  /-- A number that is too great. -/
  | outOfRange
  /-- There is no such time, or no such offset. -/
  | noSuchTime
  deriving DecidableEq, Repr

namespace LocalTime

/-- An integer of 32 bits; the truth values count as one and none. -/
def field : Value → Except FieldFault Int
  | .integer n =>
      if -twoTo 31 ≤ n ∧ n < twoTo 31 then .ok n else .error .outOfRange
  | .bool b => .ok (if b then 1 else 0)
  | _ => .error .kind

def ofNumbers? (numbers : List Int) : Option LocalTime :=
  match numbers with
  | [year, month, dayOfMonth, hour, minute, second, microsecond] =>
      let t : LocalTime :=
        ⟨⟨year.toNat, month.toNat, dayOfMonth.toNat⟩, hour.toNat, minute.toNat,
          second.toNat, microsecond.toNat⟩
      if numbers.all (0 ≤ ·) && t.isValid then some t else none
  | _ => none

/-- The time that some data name. More than eight are too many at once; of
fewer each is read before they are counted, but none behind the seventh. -/
def ofFields (fields : List Value) : Except FieldFault LocalTime :=
  if 8 < fields.length then .error .kind
  else
    match (fields.take 7).mapM field with
    | .error cause => .error cause
    | .ok numbers =>
        if fields.length < 3 ∨ 7 < fields.length then .error .kind
        else
          match ofNumbers?
              (numbers ++ List.replicate (7 - numbers.length) 0) with
          | none => .error .noSuchTime
          | some t => .ok t

/-- The offset of a clock in microseconds: a span of less than a day. Spans
of more than 999999999 days are out of range. -/
def offsetOf (span : Duration) : Except FieldFault Int :=
  match span.micros with
  | .error .notNumeric => .error .kind
  | .error .notANumber => .error .noSuchTime
  | .error .outOfRange => .error .outOfRange
  | .ok micros =>
      if micros.natAbs < microsPerDay then .ok micros
      else if micros < -999999999 * microsPerDay
          ∨ 1000000000 * microsPerDay ≤ micros then
        .error .outOfRange
      else .error .noSuchTime

end LocalTime

end StatelessAuth
