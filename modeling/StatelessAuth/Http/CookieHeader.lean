/-
Cookies as a client sends them back.

A header is cut at its semicolons, and each piece at its first equals
sign; a piece without one is a value without a name. Blanks around both
are dropped, and so are the quotes around a value, with their escapes.
Several headers count as one after the other, and of several cookies of
one name the last one counts.
-/
import StatelessAuth.Text.Blank
import StatelessAuth.Text.Split

namespace StatelessAuth.Cookie

open Text

def isOctal (c : Char) : Bool :=
  '0' ≤ c && c ≤ '7'

/-- The character of three octal digits below 256. -/
def octalChar? (a b c : Char) : Option Char :=
  if isOctal a && a ≤ '3' && isOctal b && isOctal c then
    some (Char.ofNat
      ((a.toNat - 48) * 64 + (b.toNat - 48) * 8 + (c.toNat - 48)))
  else none

/-- A quoted text without its escapes. A backslash at the end, or in front
of a line feed, stands for itself. -/
def unescape : List Char → List Char
  | '\\' :: a :: b :: c :: rest =>
      match octalChar? a b c with
      | some shown => shown :: unescape rest
      | none =>
          if a = '\n' then '\\' :: unescape (a :: b :: c :: rest)
          else a :: unescape (b :: c :: rest)
  | '\\' :: a :: rest =>
      if a = '\n' then '\\' :: unescape (a :: rest) else a :: unescape rest
  | c :: rest => c :: unescape rest
  | [] => []
termination_by text => text.length

/-- A value without the quotes around it. -/
def unquoted (value : List Char) : List Char :=
  match value with
  | '"' :: c :: rest =>
      if (c :: rest).getLast? = some '"' then unescape ((c :: rest).dropLast)
      else value
  | _ => value

/-- The name and the value of a piece; of an empty piece there is none. -/
def pair? (piece : List Char) : Option (List Char × List Char) :=
  let (name, value) :=
    match cutFirst '=' piece with
    | (name, some value) => (name, value)
    | (value, none) => ([], value)
  let name := trimChars isBlank name
  let value := trimChars isBlank value
  if name = [] ∧ value = [] then none else some (name, unquoted value)

/-- The cookies of a header, in order. -/
def pairs (header : List Char) : List (List Char × List Char) :=
  (split ';' header).filterMap pair?

/-- The value of the last cookie of a name in some headers. -/
def find? (headers : List (List Char)) (name : String) : Option String :=
  ((headers.flatMap pairs).reverse.find? fun (other, _) =>
    other = name.toList).map fun (_, value) => String.ofList value

end StatelessAuth.Cookie
