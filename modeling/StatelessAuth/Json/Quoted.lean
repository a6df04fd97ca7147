/-
Texts between double quotes.

Code points stand for themselves, but for the quote, the backslash and the
control characters; an escape gives a character by a letter or a unit of
16 bits by four hexadecimal digits. Two units one after the other that are
a surrogate pair are one character (`glyphsOf`). A half without its partner
stays what it is, and so does one that is not written as a unit.
-/
import StatelessAuth.Json.Flaw

namespace StatelessAuth.Json

-- ================================================================ units

/-- What a text is made of before pairs are put together. -/
inductive Sign
  | glyph (glyph : Glyph)
  /-- A unit of 16 bits. -/
  | unit (number : Fin 0x10000)
  deriving DecidableEq, Repr

/-- The character of two units, if they are a surrogate pair. -/
def pair? (high low : Fin 0x10000) : Option Glyph :=
  if 0xD800 ≤ high ∧ high < 0xDC00 ∧ 0xDC00 ≤ low ∧ low < 0xE000 then
    Glyph.ofNat? (0x10000 + (high - 0xD800) * 0x400 + (low - 0xDC00))
  else none

/-- The code points of signs. -/
def glyphsOf : List Sign → List Glyph
  | [] => []
  | .glyph glyph :: rest => glyph :: glyphsOf rest
  | .unit high :: .unit low :: rest =>
      match pair? high low with
      | some glyph => glyph :: glyphsOf rest
      | none =>
          .ofCode (high.castLE (by decide)) :: glyphsOf (.unit low :: rest)
  | .unit number :: rest =>
      .ofCode (number.castLE (by decide)) :: glyphsOf rest

-- ============================================================== escapes

def hexValue? (c : Char) : Option Nat :=
  if '0' ≤ c ∧ c ≤ '9' then some (c.toNat - 48)
  else if 'a' ≤ c ∧ c ≤ 'f' then some (c.toNat - 87)
  else if 'A' ≤ c ∧ c ≤ 'F' then some (c.toNat - 55)
  else none

/-- The number of a hexadecimal digit. -/
def digit? (glyph : Glyph) : Option Nat :=
  glyph.char?.bind hexValue?

/-- The unit of four hexadecimal digits. -/
def unit? (a b c d : Glyph) : Option (Fin 0x10000) := do
  let a ← digit? a
  let b ← digit? b
  let c ← digit? c
  let d ← digit? d
  some (Fin.ofNat 0x10000 (((a * 16 + b) * 16 + c) * 16 + d))

/-- The character that a letter stands for behind a backslash. -/
def escaped? : Glyph → Option Char
  | .char '"' => some '"'
  | .char '\\' => some '\\'
  | .char '/' => some '/'
  | .char 'b' => some '\x08'
  | .char 'f' => some '\x0c'
  | .char 'n' => some '\n'
  | .char 'r' => some '\r'
  | .char 't' => some '\t'
  | _ => none

-- ============================================================== reading

/-- The signs up to the closing quote. `start` is the text from the opening
quote on. -/
def readSigns (start : List Glyph) : List Glyph → Progress (List Sign)
  | [] => .error ⟨.unclosed, start⟩
  | .char '"' :: rest => .ok ([], rest)
  | .char '\\' :: .char 'u' :: a :: b :: c :: d :: rest =>
      match unit? a b c d, rest with
      | some unit, _ :: _ =>
          (readSigns start rest).map fun (signs, rest) =>
            (.unit unit :: signs, rest)
      | _, _ =>
          .error ⟨.numberEscape, .char 'u' :: a :: b :: c :: d :: rest⟩
  | .char '\\' :: .char 'u' :: rest =>
      .error ⟨.numberEscape, .char 'u' :: rest⟩
  | .char '\\' :: letter :: rest =>
      match escaped? letter with
      | some c =>
          (readSigns start rest).map fun (signs, rest) =>
            (.glyph (.char c) :: signs, rest)
      | none => .error ⟨.escape, .char '\\' :: letter :: rest⟩
  | .char c :: rest =>
      if c = '\\' then .error ⟨.unclosed, start⟩
      else if c.toNat < 0x20 then .error ⟨.control, .char c :: rest⟩
      else
        (readSigns start rest).map fun (signs, rest) =>
          (.glyph (.char c) :: signs, rest)
  | .half offset :: rest =>
      (readSigns start rest).map fun (signs, rest) =>
        (.glyph (.half offset) :: signs, rest)

/-- Reads a text from behind its opening quote. -/
def readQuoted (afterQuote : List Glyph) : Progress Wording :=
  (readSigns (.char '"' :: afterQuote) afterQuote).map fun (signs, rest) =>
    (⟨glyphsOf signs⟩, rest)

end StatelessAuth.Json
