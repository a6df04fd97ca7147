/-
Cookies as a server sends them.

A cookie is set or removed by a text of the form `name=value`, followed by
its attributes in alphabetical order. A name has to be made of the
characters that need no quotes and must not be the name of an attribute;
a value with other characters in it is put between quotes.
-/
import StatelessAuth.Calendar.Instant
import StatelessAuth.Text.Case
import StatelessAuth.Text.Digits

namespace StatelessAuth.Cookie

open Text

-- =============================================================== names

/-- An ASCII letter, a digit, or one of the marks that need no quotes. -/
def isTokenChar (c : Char) : Bool :=
  c.isAlphanum || "!#$%&'*+-.^_`|~:".toList.contains c

/-- The names of attributes, which no cookie can have. -/
def attributeNames : List String :=
  ["expires", "path", "comment", "domain", "max-age", "secure", "httponly",
   "version", "samesite"]

/-- A cookie of this name can be sent. -/
def isSendable (name : String) : Bool :=
  name ≠ "" && name.toList.all isTokenChar
    && !attributeNames.contains (lower name)

-- ============================================================== values

/-- The three octal digits of a number below 512. -/
def octal (number : Nat) : List Char :=
  [Nat.digitChar (number / 64), Nat.digitChar (number / 8 % 8),
   Nat.digitChar (number % 8)]

/-- A character of a value between quotes. -/
def quotedChar (c : Char) : List Char :=
  if c = '"' ∨ c = '\\' then ['\\', c]
  else if isTokenChar c || " ()/<=>?@[]\x7b\x7d".toList.contains c then [c]
  else if c.toNat < 256 then '\\' :: octal c.toNat
  else [c]

/-- A value as it is sent. -/
def quoted (value : String) : String :=
  if value ≠ "" ∧ value.toList.all isTokenChar then value
  else String.ofList ('"' :: value.toList.flatMap quotedChar ++ ['"'])

-- =============================================================== dates

/-- The days of the week from the first day of year 1 on. -/
def weekdays : List String := ["Mon", "Tue", "Wed", "Thu", "Fri", "Sat", "Sun"]

def months : List String :=
  ["Jan", "Feb", "Mar", "Apr", "May", "Jun", "Jul", "Aug", "Sep", "Oct", "Nov",
   "Dec"]

/-- A number in decimal, with blanks in front up to four characters. -/
def inFour (number : Nat) : List Char :=
  let digits := decimal number
  List.replicate (4 - digits.length) ' ' ++ digits

/-- An instant as the attribute `expires` writes it, without the fraction
of a second. -/
def dateText (instant : Instant) : String :=
  let t := LocalTime.ofInstant instant
  (weekdays[t.date.day % 7]?).getD "" ++ ", "
    ++ String.ofList (padded 2 t.date.dayOfMonth) ++ " "
    ++ (months[t.date.month - 1]?).getD "" ++ " "
    ++ String.ofList (inFour t.date.year) ++ " "
    ++ String.ofList (padded 2 t.hour ++ ':' :: padded 2 t.minute
      ++ ':' :: padded 2 t.second) ++ " GMT"

-- =============================================================== texts

def settingText (name value : String) : String :=
  name ++ "=" ++ quoted value ++ "; HttpOnly; Path=/; SameSite=lax"

/-- The text that removes a cookie: an empty value that has expired. -/
def removalText (name : String) (now : Instant) : String :=
  name ++ "=" ++ quoted "" ++ "; expires=" ++ dateText now
    ++ "; HttpOnly; Max-Age=0; Path=/; SameSite=lax"

end StatelessAuth.Cookie
