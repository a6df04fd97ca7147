/-
JSON texts read as data.

A value is a record, a list, a text, a number or a word; besides `true`,
`false` and `null` the words for the doubles that are no numbers are
taken. Of a field that is given twice the last value counts. Only four
characters are blanks between the parts. Lists and records may stand in
each other only to a depth that the caller sets. Texts and names may hold
halves of surrogate pairs, so that what is read is a `Document`.

The readers of a value, of the fields of a record and of the items of a
list call each other, and each call has read at least one character since
the last call of the same reader. So the fuel that `read` gives, twice the
length and more, is never used up.
-/
import StatelessAuth.Json.Encoding
import StatelessAuth.Json.Numeral

namespace StatelessAuth.Json

/-- The blanks between the parts of a text. -/
def isGap (c : Char) : Bool :=
  c == ' ' || c == '\t' || c == '\n' || c == '\r'

/-- The text without the blanks in front. -/
def skipGap (text : List Glyph) : List Glyph :=
  (Glyph.spanChars isGap text).2

/-- The words that are values. -/
def words : List (String × Document) :=
  [("null", .null), ("true", .bool true), ("false", .bool false),
   ("NaN", .real .nan), ("Infinity", .real (.infinite false)),
   ("-Infinity", .real (.infinite true))]

/-- A word in front of a text. -/
def takeWord? (text : List Glyph) : Option (Document × List Glyph) :=
  (words.find? fun (word, _) =>
    (Wording.ofString word).glyphs.isPrefixOf text).map
    fun (word, value) => (value, text.drop word.length)

/-- Reads the name of a field and the colon behind it. -/
def readName : List Glyph → Progress Wording
  | .char '"' :: rest =>
      match readQuoted rest with
      | .error stop => .error stop
      | .ok (name, rest) =>
          match skipGap rest with
          | .char ':' :: rest => .ok (name, skipGap rest)
          | rest => .error ⟨.colon, rest⟩
  | text => .error ⟨.fieldName, text⟩

mutual

/-- Reads a value in which lists and records stand at most `depth` deep. -/
def readValue : Nat → Nat → List Glyph → Progress Document
  | 0, _, text => .error ⟨.value, text⟩
  | _ + 1, _, .char '"' :: rest =>
      (readQuoted rest).map fun (content, rest) => (.text content, rest)
  | _ + 1, 0, .char '{' :: rest => .error ⟨.nesting, .char '{' :: rest⟩
  | _ + 1, 0, .char '[' :: rest => .error ⟨.nesting, .char '[' :: rest⟩
  | fuel + 1, depth + 1, .char '{' :: rest =>
      match skipGap rest with
      | .char '}' :: rest => .ok (.record [], rest)
      | rest => readFields fuel depth [] rest
  | fuel + 1, depth + 1, .char '[' :: rest =>
      match skipGap rest with
      | .char ']' :: rest => .ok (.list [], rest)
      | rest =>
          (readItems fuel depth rest).map fun (items, rest) =>
            (.list items, rest)
  | _ + 1, _, text =>
      match takeWord? text with
      | some (value, rest) => .ok (value, rest)
      | none => readNumber text

/-- Reads the fields of a record from the first or the next name on, those
before being known. -/
def readFields : Nat → Nat → List (Wording × Document) → List Glyph →
    Progress Document
  | 0, _, _, text => .error ⟨.fieldName, text⟩
  | fuel + 1, depth, before, text =>
      match readName text with
      | .error stop => .error stop
      | .ok (name, rest) =>
          match readValue fuel depth rest with
          | .error stop => .error stop
          | .ok (value, rest) =>
              let fields := Value.putField name value before
              match skipGap rest with
              | .char '}' :: rest => .ok (.record fields, rest)
              | .char ',' :: rest => readFields fuel depth fields (skipGap rest)
              | rest => .error ⟨.comma, rest⟩

/-- Reads the items of a list from the first or the next one on. -/
def readItems : Nat → Nat → List Glyph → Progress (List Document)
  | 0, _, text => .error ⟨.value, text⟩
  | fuel + 1, depth, text =>
      match readValue fuel depth text with
      | .error stop => .error stop
      | .ok (item, rest) =>
          match skipGap rest with
          | .char ']' :: rest => .ok ([item], rest)
          | .char ',' :: rest =>
              (readItems fuel depth (skipGap rest)).map fun (items, rest) =>
                (item :: items, rest)
          | rest => .error ⟨.comma, rest⟩

end

/-- Why a text is no JSON, and after how many code points. -/
structure ReadError where
  flaw : Flaw
  position : Nat
  deriving DecidableEq, Repr

/-- The datum that a whole text is, lists and records standing at most
`depth` deep in it. -/
def readGlyphs (depth : Nat) (text : List Glyph) : Except ReadError Document :=
  match readValue (2 * text.length + 2) depth (skipGap text) with
  | .error stop => .error ⟨stop.flaw, stop.position text⟩
  | .ok (value, rest) =>
      match skipGap rest with
      | [] => .ok value
      | rest => .error ⟨.trailing, (Stop.mk .trailing rest).position text⟩

/-- The datum that a text is, however deep. -/
def read (text : String) : Except ReadError Document :=
  readGlyphs text.length (Wording.ofString text).glyphs

/-- The datum that the text of some bytes is. How deep lists and records may
stand in it is a matter of the machine that reads it. -/
def readBytes (depth : Nat) (bytes : List UInt8) : Except ReadError Document :=
  match glyphs? bytes with
  | none => .error ⟨.encoding, 0⟩
  | some text => readGlyphs depth text

end StatelessAuth.Json
