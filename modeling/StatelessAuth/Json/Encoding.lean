/-
The bytes of a JSON text as its code points.

A byte order mark in front tells the encoding. Without one, a JSON text
begins with characters whose numbers are below 128, so that the zeros
among its first four bytes tell how wide its units are and which byte of a
unit comes first (`Encoding.ofZeros`). A text of two bytes is a single
unit, and a text without zeros at its beginning is UTF-8.

Bytes that make no whole units, or numbers past U+10FFFF, are no text. But
half of a surrogate pair without its partner is let through, in UTF-8 as
the three bytes that its number would have (`pieces?`).
-/
import StatelessAuth.Json.Quoted
import StatelessAuth.Text.Utf8

namespace StatelessAuth.Json

/-- How code points are written as bytes. In `wide` units of two bytes, and
in `long` units of four, the greater byte may come first. -/
inductive Encoding
  | utf8
  | wide (greaterFirst : Bool)
  | long (greaterFirst : Bool)
  deriving DecidableEq, Repr

namespace Encoding

-- ============================================================ detection

/-- The encoding that the zeros among the first bytes of a text show. -/
def ofZeros : List UInt8 → Encoding
  | a :: b :: c :: d :: _ =>
      if a = 0 then if b = 0 then long true else wide true
      else if b = 0 then if c = 0 ∧ d = 0 then long false else wide false
      else utf8
  | [a, b] => if a = 0 then wide true else if b = 0 then wide false else utf8
  | _ => utf8

/-- The encoding of a text, and the bytes behind its mark. -/
def detect : List UInt8 → Encoding × List UInt8
  | 0x00 :: 0x00 :: 0xFE :: 0xFF :: rest => (long true, rest)
  | 0xFF :: 0xFE :: 0x00 :: 0x00 :: rest => (long false, rest)
  | 0xFE :: 0xFF :: rest => (wide true, rest)
  | 0xFF :: 0xFE :: rest => (wide false, rest)
  | 0xEF :: 0xBB :: 0xBF :: rest => (utf8, rest)
  | bytes => (ofZeros bytes, bytes)

-- ================================================================ units

/-- The number that some bytes write, the greatest one first. -/
def number (bytes : List UInt8) : Nat :=
  bytes.foldl (fun number byte => number * 256 + byte.toNat) 0

/-- The number of a unit. -/
def unit (greaterFirst : Bool) (bytes : List UInt8) : Nat :=
  number (if greaterFirst then bytes else bytes.reverse)

/-- The units of two bytes. -/
def wideUnits? (greaterFirst : Bool) : List UInt8 → Option (List Sign)
  | [] => some []
  | a :: b :: rest =>
      (wideUnits? greaterFirst rest).map
        (.unit (Fin.ofNat 0x10000 (unit greaterFirst [a, b])) :: ·)
  | _ => none

/-- The code points of units of four bytes. -/
def longUnits? (greaterFirst : Bool) : List UInt8 → Option (List Glyph)
  | [] => some []
  | a :: b :: c :: d :: rest => do
      let glyph ← Glyph.ofNat? (unit greaterFirst [a, b, c, d])
      let rest ← longUnits? greaterFirst rest
      some (glyph :: rest)
  | _ => none

-- =============================================================== UTF-8

/-- The half of a pair whose number is written in three bytes, if that is
what they write. -/
def half? (a b c : UInt8) : Option Glyph :=
  if a = 0xED ∧ 0xA0 ≤ b ∧ b < 0xC0 ∧ 0x80 ≤ c ∧ c < 0xC0 then
    some (.halfOf ((b.toNat - 0xA0) * 64 + (c.toNat - 0x80)))
  else none

/-- The code points of some bytes behind others that were read, the last
one first. The bytes between two halves have to be UTF-8, and none of them
begins what is a half. -/
def pieces? (before : List UInt8) : List UInt8 → Option (List Glyph)
  | a :: b :: c :: rest =>
      match half? a b c with
      | some half => do
          let text ← Utf8.decode? before.reverse
          let rest ← pieces? [] rest
          some (text.toList.map .char ++ half :: rest)
      | none => pieces? (a :: before) (b :: c :: rest)
  | rest =>
      (Utf8.decode? (before.reverse ++ rest)).map (·.toList.map .char)

/-- The code points of some bytes in UTF-8. -/
def decodeUtf8? (bytes : List UInt8) : Option (List Glyph) :=
  match Utf8.decode? bytes with
  | some text => some (text.toList.map .char)
  | none => pieces? [] bytes

/-- The code points of some bytes in an encoding. -/
def decode? (bytes : List UInt8) : Encoding → Option (List Glyph)
  | utf8 => decodeUtf8? bytes
  | wide greaterFirst => (wideUnits? greaterFirst bytes).map glyphsOf
  | long greaterFirst => longUnits? greaterFirst bytes

end Encoding

def glyphs? (bytes : List UInt8) : Option (List Glyph) :=
  let (encoding, bytes) := Encoding.detect bytes
  encoding.decode? bytes

end StatelessAuth.Json
