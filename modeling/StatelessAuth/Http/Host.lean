/-
Hosts of addresses.

A host is a name, or between square brackets a numeric address or one of a
kind yet to come; a port may follow it. A numeric address has eight groups
of hexadecimal digits, of which the last two may be written as four octets,
and one run of groups that are zero may be left out of it (`groups?` counts
those that are there).
-/
import StatelessAuth.Text.Digits
import StatelessAuth.Text.Split

namespace StatelessAuth.Host

open Text

-- =============================================================== names

/-- A character that has no other meaning in an address. -/
def isPlainChar (c : Char) : Bool :=
  c.isAlphanum || "-._~!$&'()*+,;=".toList.contains c

def isNameChar (c : Char) : Bool :=
  isPlainChar c || c == '%'

-- ================================================== numeric addresses

/-- A number below 256 without needless zeros in front. -/
def isOctet (text : List Char) : Bool :=
  text.all isDigit && decimal (ofDigits text) == text && ofDigits text < 256

/-- Four octets with points between them. -/
def isOctets (text : List Char) : Bool :=
  let octets := split '.' text
  octets.length == 4 && octets.all isOctet

/-- One to four hexadecimal digits. -/
def isGroup (text : List Char) : Bool :=
  text.all isHexDigit && 1 ≤ text.length && text.length ≤ 4

/-- How many groups some texts write; the last may be four octets, which
are two groups. -/
def groups? : List (List Char) → Option Nat
  | [] => some 0
  | [last] =>
      if isGroup last then some 1 else if isOctets last then some 2 else none
  | text :: rest => if isGroup text then (groups? rest).map (· + 1) else none

/-- A text cut where it first has two colons in a row. -/
def cutGap? : List Char → Option (List Char × List Char)
  | [] => none
  | ':' :: ':' :: rest => some ([], rest)
  | c :: rest => (cutGap? rest).map fun (before, after) => (c :: before, after)

/-- The texts between colons; an empty text has none. -/
def groupTexts (text : List Char) : List (List Char) :=
  if text.isEmpty then [] else split ':' text

/-- The text is a numeric address: eight groups, or fewer with a gap. -/
def isNumeric (text : List Char) : Bool :=
  match cutGap? text with
  | none => groups? (groupTexts text) == some 8
  | some (before, after) =>
      let front := groupTexts before
      front.all isGroup &&
        (groups? (groupTexts after)).any fun count => front.length + count < 8

/-- The text is an address of a kind yet to come: the letter v, the number
of the kind and behind a point what that kind makes of it. -/
def isOfLaterKind : List Char → Bool
  | 'v' :: rest =>
      match cutFirst '.' rest with
      | (number, some address) =>
          !number.isEmpty && number.all isHexDigit && !address.isEmpty &&
            address.all fun c => isPlainChar c || c == ':'
      | _ => false
  | _ => false

-- =============================================================== hosts

/-- Nothing, or behind a colon a number of 16 bits. -/
def isPort : List Char → Bool
  | [] => true
  | ':' :: digits =>
      !digits.isEmpty && digits.length ≤ integerDigits && digits.all isDigit &&
        ofDigits digits < 65536
  | _ => false

/-- The text names a host, perhaps with a port. -/
def isHost : List Char → Bool
  | '[' :: rest =>
      match cutFirst ']' rest with
      | (address, some port) =>
          (isNumeric address || isOfLaterKind address) && isPort port
      | _ => false
  | text => text.head?.any isNameChar && isPort (text.dropWhile isNameChar)

end StatelessAuth.Host
