/-
Base64 with the URL-safe alphabet and no padding: three bytes become
four digits of six bits, and a last group of one or two bytes becomes
two or three digits whose unused low bits are zero.

# One spelling per byte string

The reader takes only texts that the writer produces: a character
outside the alphabet, a length that leaves one digit over, and unused
bits that are not zero are refused, in this order. So a byte string has
one spelling, and whatever is signed over the spelling is signed over
the bytes.

The codec works on digits (numbers below 64); `digitChar` and
`digitValue?` carry them to characters and back.
-/
import StatelessAuth.Text.Utf8

namespace StatelessAuth.Base64url

-- ======================================================== the alphabet

/-- The character of a six-bit digit: capitals, small letters, decimal
digits, hyphen, low line. -/
def digitChar (value : Nat) : Char :=
  if value < 26 then Char.ofNat (65 + value)
  else if value < 52 then Char.ofNat (71 + value)
  else if value < 62 then Char.ofNat (value - 4)
  else if value = 62 then '-'
  else '_'

/-- The six-bit digit that a character stands for. -/
def digitValue? (c : Char) : Option Nat :=
  if 'A' ≤ c ∧ c ≤ 'Z' then some (c.toNat - 65)
  else if 'a' ≤ c ∧ c ≤ 'z' then some (c.toNat - 71)
  else if '0' ≤ c ∧ c ≤ '9' then some (c.toNat + 4)
  else if c = '-' then some 62
  else if c = '_' then some 63
  else none

-- ============================================================== groups

def toDigits : List UInt8 → List Nat
  | [] => []
  | [a] => [a.toNat / 4, a.toNat % 4 * 16]
  | [a, b] => [a.toNat / 4, a.toNat % 4 * 16 + b.toNat / 16, b.toNat % 16 * 4]
  | a :: b :: c :: rest =>
      a.toNat / 4 :: (a.toNat % 4 * 16 + b.toNat / 16)
        :: (b.toNat % 16 * 4 + c.toNat / 64) :: c.toNat % 64 :: toDigits rest

/-- The byte string of a list of digits, if the digits end with a group
and no unused bit of the last group is set. -/
def ofDigits? : List Nat → Option (List UInt8)
  | [] => some []
  | [_] => none
  | [p, q] =>
      if q % 16 = 0 then some [UInt8.ofNat (p * 4 + q / 16)] else none
  | [p, q, r] =>
      if r % 4 = 0 then
        some [UInt8.ofNat (p * 4 + q / 16), UInt8.ofNat (q % 16 * 16 + r / 4)]
      else none
  | p :: q :: r :: s :: rest =>
      (ofDigits? rest).map fun bytes =>
        UInt8.ofNat (p * 4 + q / 16) :: UInt8.ofNat (q % 16 * 16 + r / 4)
          :: UInt8.ofNat (r % 4 * 64 + s) :: bytes

-- =========================================================== the codec

inductive DecodeError
  | alphabet
  /-- A length that is one more than a multiple of four. -/
  | length (characters : Nat)
  /-- Unused bits of the last group that are not zero. -/
  | trailingBits
  /-- Bytes that are no UTF-8 text, where a text is asked for. -/
  | notUtf8
  deriving DecidableEq, Repr

def DecodeError.message : DecodeError → String
  | .alphabet => "Caractere fora do alfabeto base64url"
  | .length characters =>
      "Invalid base64-encoded string: number of data characters ("
        ++ toString characters ++ ") cannot be 1 more than a multiple of 4"
  | .trailingBits => "Codificação base64url não canônica"
  | .notUtf8 => "Conteúdo decodificado não é UTF-8"

/-- The spelling of a byte string, character by character. -/
def encodeChars (bytes : List UInt8) : List Char :=
  (toDigits bytes).map digitChar

def decodeChars (text : List Char) : Except DecodeError (List UInt8) :=
  match text.mapM digitValue? with
  | none => .error .alphabet
  | some digits =>
      if text.length % 4 = 1 then .error (.length text.length)
      else
        match ofDigits? digits with
        | none => .error .trailingBits
        | some bytes => .ok bytes

def encode (bytes : List UInt8) : String :=
  String.ofList (encodeChars bytes)

def decode (text : String) : Except DecodeError (List UInt8) :=
  decodeChars text.toList

/-- The spelling of a text: that of its UTF-8 bytes. -/
def encodeText (text : String) : String :=
  encode (Utf8.encode text)

def decodeText (text : String) : Except DecodeError String :=
  match decode text with
  | .error e => .error e
  | .ok bytes =>
      match Utf8.decode? bytes with
      | none => .error .notUtf8
      | some content => .ok content

end StatelessAuth.Base64url
