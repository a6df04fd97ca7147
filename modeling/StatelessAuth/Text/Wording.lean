/-
Texts as they are kept while nothing is written.

A text is a run of code points. Most of these are characters, but 2048 of
them are not: the halves of the pairs with which UTF-16 writes what a
single unit cannot hold. An escape by number can bring a half into a text
without its partner. Such a text can be kept, compared and quoted as any
other, but no bytes write it in UTF-8. It can be neither signed nor sent.

A `Wording` is any text, and a `String` a text of characters alone. Data
that were read come in both kinds (`Textual`), since what is read from a
client may hold a half, and what is kept of users and keys does not.

Main statements: `string?_eq_some_iff` and `string?_eq_none_iff`, by which
a text is one of characters, or has a half in it.
-/

namespace StatelessAuth

-- ========================================================= code points

/-- A code point: a character, or half of a surrogate pair. -/
inductive Glyph
  | char (c : Char)
  /-- The half whose number is so much more than that of the first one. -/
  | half (offset : Fin 2048)
  deriving DecidableEq, Repr

namespace Glyph

/-- The half of a number, which counts from any multiple of 2048. -/
def halfOf (number : Nat) : Glyph := .half (Fin.ofNat 2048 number)

/-- The code point of a number. The numbers that no character has are
those from U+D800 on, and U+D800 is a multiple of 2048. -/
def ofCode (code : Fin 0x110000) : Glyph :=
  if h : code.val.isValidChar then .char (Char.ofNatAux code h)
  else halfOf code

def ofNat? (number : Nat) : Option Glyph :=
  if h : number < 0x110000 then some (ofCode ⟨number, h⟩) else none

def char? : Glyph → Option Char
  | .char c => some c
  | .half _ => none

/-- The characters in front of a text for which a test holds, and what
follows them. -/
def spanChars (test : Char → Bool) : List Glyph → List Char × List Glyph
  | .char c :: rest =>
      if test c then
        let (chars, rest) := spanChars test rest
        (c :: chars, rest)
      else ([], .char c :: rest)
  | text => ([], text)

theorem spanChars_append {test : Char → Bool} {run : List Char} {c : Char}
    {rest : List Glyph} (hrun : ∀ d ∈ run, test d = true)
    (hstop : test c = false) :
    spanChars test (run.map .char ++ .char c :: rest)
      = (run, .char c :: rest) := by
  induction run with
  | nil => simp [spanChars, hstop]
  | cons d run ih =>
      obtain ⟨hd, hrun⟩ := List.forall_mem_cons.1 hrun
      simp [spanChars, hd, ih hrun]

end Glyph

-- =============================================================== texts

/-- A text of code points of both kinds. -/
structure Wording where
  glyphs : List Glyph
  deriving DecidableEq, Repr

namespace Wording

def ofString (text : String) : Wording := ⟨text.toList.map .char⟩

instance : Coe String Wording := ⟨ofString⟩

instance : Append Wording := ⟨fun a b => ⟨a.glyphs ++ b.glyphs⟩⟩

/-- The characters of code points that are nothing else. -/
def chars? : List Glyph → Option (List Char)
  | [] => some []
  | .char c :: rest => (chars? rest).map (c :: ·)
  | .half _ :: _ => none

/-- The same text as one of characters, if all its code points are. -/
def string? (text : Wording) : Option String :=
  (chars? text.glyphs).map String.ofList

theorem chars?_eq_some_iff {glyphs : List Glyph} {chars : List Char} :
    chars? glyphs = some chars ↔ glyphs = chars.map .char := by
  induction glyphs generalizing chars with
  | nil => cases chars <;> simp [chars?]
  | cons glyph rest ih =>
      cases glyph with
      | half offset => cases chars <;> simp [chars?]
      | char c =>
          cases chars with
          | nil => simp [chars?]
          | cons d more =>
              rw [List.map_cons, List.cons.injEq, Glyph.char.injEq, ← ih,
                chars?, Option.map_eq_some_iff]
              constructor
              · intro h
                obtain ⟨_, hrest, heq⟩ := h
                obtain ⟨rfl, rfl⟩ := List.cons.inj heq
                exact ⟨rfl, hrest⟩
              · intro h
                obtain ⟨rfl, hrest⟩ := h
                exact ⟨more, hrest, rfl⟩

theorem string?_eq_some_iff {text : Wording} {content : String} :
    text.string? = some content ↔ text = ofString content := by
  rw [string?, Option.map_eq_some_iff, ofString]
  constructor
  · intro h
    obtain ⟨chars, hchars, rfl⟩ := h
    rw [String.toList_ofList, ← chars?_eq_some_iff.1 hchars]
  · intro h
    rw [h]
    exact ⟨_, chars?_eq_some_iff.2 rfl, String.ofList_toList⟩

@[simp]
theorem string?_ofString (text : String) :
    (ofString text).string? = some text :=
  string?_eq_some_iff.2 rfl

/-- A text is not one of characters exactly if it has a half in it. -/
theorem string?_eq_none_iff {text : Wording} :
    text.string? = none ↔ ∃ offset, .half offset ∈ text.glyphs := by
  rw [string?, Option.map_eq_none_iff]
  induction text.glyphs with
  | nil => simp [chars?]
  | cons glyph rest ih =>
      cases glyph with
      | half offset =>
          exact iff_of_true rfl ⟨offset, List.mem_cons_self⟩
      | char c => simp [chars?, ih]

end Wording

-- ======================================================= kinds of texts

/-- A kind of texts: every text of characters is one, and `string?` gives
back those that are. -/
class Textual (τ : Type) where
  ofString : String → τ
  string? : τ → Option String
  wording : τ → Wording

instance : Textual String := ⟨fun text => text, some, Wording.ofString⟩

instance : Textual Wording :=
  ⟨Wording.ofString, Wording.string?, fun text => text⟩

namespace Textual

@[simp]
theorem ofString_string (text : String) :
    (Textual.ofString text : String) = text := rfl

@[simp]
theorem string?_string (text : String) : Textual.string? text = some text :=
  rfl

@[simp]
theorem ofString_wording (text : String) :
    (Textual.ofString text : Wording) = .ofString text := rfl

@[simp]
theorem string?_wording (text : Wording) :
    Textual.string? text = text.string? := rfl

end Textual

end StatelessAuth
