/-
Instants as text: date, the letter T, time of day, an optional fraction
of a second, and the offset of the clock from UTC.

# Reading

`scan?` is the form alone: digits, separators and letters in their
places and nothing before or after. `parse` then asks that the offset is
less than a day and that the date and the time exist; an offset may have
any two digits of minutes. Digits of the fraction past the sixth are
dropped. What fails here is `malformed`; only an existing time that
leaves the years 1 to 9999 on its way to UTC is `outOfRange`.

# Writing

`format` writes UTC with six digits of fraction and the letter Z. All
fields but the year have leading zeros, so a text of a year before 1000
cannot be read back.
-/
import StatelessAuth.Calendar.Instant
import StatelessAuth.Text.Digits
import StatelessAuth.Text.Display

namespace StatelessAuth.Timestamp

open Text

/-- What the form of a timestamp holds. -/
structure Reading where
  time : LocalTime
  /-- Minutes by which the clock is ahead of UTC. -/
  offset : Int
  deriving DecidableEq, Repr

/-- Why a text is no timestamp. -/
inductive ParseError
  /-- The text is not of the form, or the time does not exist. -/
  | malformed
  /-- The time exists, but in UTC it is outside the years 1 to 9999. -/
  | outOfRange
  deriving DecidableEq, Repr

/-- What is reported for a text that is malformed. -/
def malformedMessage (text : String) : String :=
  "Data inválida: " ++ display text

-- ============================================================= reading

/-- Passes over one character of a class. -/
def skip? (inClass : Char → Bool) : List Char → Option (List Char)
  | c :: rest => if inClass c then some rest else none
  | [] => none

/-- Microseconds of the digits of a fraction: the first six, with zeros
for the missing ones. -/
def fractionMicros (digits : List Char) : Nat :=
  ofDigits ((digits.take 6) ++ List.replicate (6 - digits.length) '0')

/-- A point with at least one digit, or nothing. -/
def takeFraction? : List Char → Option (Nat × List Char)
  | '.' :: rest =>
      let digits := rest.takeWhile isDigit
      if digits = [] then none
      else some (fractionMicros digits, rest.dropWhile isDigit)
  | text => some (0, text)

/-- The offset that ends a timestamp, in minutes. -/
def readOffset? : List Char → Option Int
  | ['Z'] => some 0
  | ['z'] => some 0
  | sign :: rest => do
      guard (sign = '+' ∨ sign = '-')
      let (hours, rest) ← takeDigits? 2 rest
      let rest ← skip? (· == ':') rest
      let (minutes, rest) ← takeDigits? 2 rest
      guard (rest = [])
      let size : Int := hours * 60 + minutes
      some (if sign = '-' then -size else size)
  | [] => none

/-- The fields of a text of the form. -/
def scan? (text : List Char) : Option Reading := do
  let (year, text) ← takeDigits? 4 text
  let text ← skip? (· == '-') text
  let (month, text) ← takeDigits? 2 text
  let text ← skip? (· == '-') text
  let (dayOfMonth, text) ← takeDigits? 2 text
  let text ← skip? (fun c => c == 'T' || c == 't') text
  let (hour, text) ← takeDigits? 2 text
  let text ← skip? (· == ':') text
  let (minute, text) ← takeDigits? 2 text
  let text ← skip? (· == ':') text
  let (second, text) ← takeDigits? 2 text
  let (microsecond, text) ← takeFraction? text
  let offset ← readOffset? text
  some ⟨⟨⟨year, month, dayOfMonth⟩, hour, minute, second, microsecond⟩, offset⟩

def parse (text : String) : Except ParseError Instant :=
  match scan? text.toList with
  | none => .error .malformed
  | some reading =>
      if reading.offset.natAbs < 24 * 60 ∧ reading.time.isValid then
        match reading.time.toInstant?
            (reading.offset * 60 * microsPerSecond) with
        | none => .error .outOfRange
        | some instant => .ok instant
      else .error .malformed

-- ============================================================= writing

/-- The characters of a time in UTC. -/
def formatChars (t : LocalTime) : List Char :=
  decimal t.date.year ++ '-' :: padded 2 t.date.month
    ++ '-' :: padded 2 t.date.dayOfMonth
    ++ 'T' :: padded 2 t.hour
    ++ ':' :: padded 2 t.minute
    ++ ':' :: padded 2 t.second
    ++ '.' :: padded 6 t.microsecond ++ ['Z']

def format (instant : Instant) : String :=
  String.ofList (formatChars (LocalTime.ofInstant instant))

end StatelessAuth.Timestamp
