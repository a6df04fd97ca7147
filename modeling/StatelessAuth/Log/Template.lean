/-
Messages with places for arguments.

A place is a percent sign, a name in round brackets if the arguments are a
record, marks, a width, a precision behind a point, and a letter that says
how the argument is written; two percent signs stand for one. A width or a
precision may be a star, and is then an argument itself. `pieces` takes a
template apart without looking at any argument; where a place turns out to
be none, the stars before that point are kept (`Piece.broken`), since
their arguments are still asked for first.
-/
import StatelessAuth.Powers
import StatelessAuth.Text.Digits
import StatelessAuth.Text.Wording

namespace StatelessAuth.Log

open Text

/-- Why a message cannot be put together. -/
inductive TemplateError
  /-- The arguments are too few, too many, or of the wrong kind. -/
  | mismatch
  /-- The template itself is incomplete, or has a letter that is none. -/
  | malformed
  /-- A number is too great for its place. -/
  | outOfRange
  /-- The record of arguments lacks a name. -/
  | unknownName
  /-- The message would be longer than any text can be. -/
  | tooLong
  deriving DecidableEq, Repr

/-- The two numbers of a place. -/
inductive Measure
  | width
  | precision
  deriving DecidableEq, Repr

/-- What a number of a place is below: they are integers of 64 and of 32
bits. -/
def Measure.bound : Measure → Nat
  | width => twoTo 63
  | precision => twoTo 31

/-- A number that stands in the template or among the arguments. -/
inductive Extent
  | unset
  | stated (size : Nat)
  | argument
  deriving DecidableEq, Repr

/-- How an argument is written. -/
structure Place where
  leftAligned : Bool
  plusSign : Bool
  blankSign : Bool
  alternate : Bool
  zeroFilled : Bool
  width : Extent
  precision : Extent
  letter : Glyph
  deriving DecidableEq, Repr

/-- The parts of a template. -/
inductive Piece
  | literal (glyph : Glyph)
  /-- The next argument is the one of this name. -/
  | name (key : Wording)
  /-- A name without its closing bracket. -/
  | openName
  | place (place : Place)
  /-- No place, which shows after some stars. -/
  | broken (stars : List Measure)
  deriving DecidableEq, Repr

-- ============================================================== reading

/-- The text up to the bracket that closes `depth` open ones, and what
follows it. -/
def takeName? (depth : Nat) : List Glyph → Option (List Glyph × List Glyph)
  | [] => none
  | glyph :: rest =>
      if glyph = .char ')' ∧ depth = 1 then some ([], rest)
      else
        let depth :=
          if glyph = .char ')' then depth - 1
          else if glyph = .char '(' then depth + 1
          else depth
        (takeName? depth rest).map fun (name, rest) => (glyph :: name, rest)

/-- The marks in front of a width. -/
def isMark (c : Char) : Bool :=
  c == '-' || c == '+' || c == ' ' || c == '#' || c == '0'

/-- A width or a precision, and what follows it; `unstated` if there is
none. A number that is too great is no number. -/
def takeExtent? (measure : Measure) (unstated : Extent) :
    List Glyph → Option (Extent × List Glyph)
  | .char '*' :: rest => some (.argument, rest)
  | text =>
      let (digits, rest) := Glyph.spanChars isDigit text
      if digits = [] then some (unstated, rest)
      else if ofDigits digits < measure.bound then
        some (.stated (ofDigits digits), rest)
      else none

/-- A precision with the point in front of it, and what follows it. -/
def takePrecision? : List Glyph → Option (Extent × List Glyph)
  | .char '.' :: rest => takeExtent? .precision (.stated 0) rest
  | text => some (.unset, text)

/-- What follows a letter for the size of a number, which says nothing. -/
def skipSize : List Glyph → List Glyph
  | .char c :: rest =>
      if c = 'h' ∨ c = 'l' ∨ c = 'L' then rest else .char c :: rest
  | text => text

/-- The measure, if it is a star. -/
def starOf (measure : Measure) (extent : Extent) : List Measure :=
  if extent = .argument then [measure] else []

/-- A place from its marks on, and what follows it. -/
def takePlace (text : List Glyph) : Piece × List Glyph :=
  let (marks, rest) := Glyph.spanChars isMark text
  match takeExtent? .width .unset rest with
  | none => (.broken [], [])
  | some (width, rest) =>
      match takePrecision? rest with
      | none => (.broken (starOf .width width), [])
      | some (precision, rest) =>
          match skipSize rest with
          | [] =>
              (.broken (starOf .width width ++ starOf .precision precision), [])
          | letter :: rest =>
              (.place
                { leftAligned := '-' ∈ marks, plusSign := '+' ∈ marks
                  blankSign := ' ' ∈ marks, alternate := '#' ∈ marks
                  zeroFilled := '0' ∈ marks, width, precision, letter }, rest)

/-- The pieces of a template; each has at least one code point, so that
the length of the template is fuel enough. -/
def piecesOf : Nat → List Glyph → List Piece
  | 0, _ => []
  | _, [] => []
  | fuel + 1, .char '%' :: .char '%' :: rest =>
      .literal (.char '%') :: piecesOf fuel rest
  | fuel + 1, .char '%' :: .char '(' :: rest =>
      match takeName? 1 rest with
      | none => [.openName]
      | some (name, rest) =>
          let (piece, rest) := takePlace rest
          .name ⟨name⟩ :: piece :: piecesOf fuel rest
  | fuel + 1, .char '%' :: rest =>
      let (piece, rest) := takePlace rest
      piece :: piecesOf fuel rest
  | fuel + 1, glyph :: rest => .literal glyph :: piecesOf fuel rest

/-- The pieces of a template. -/
def pieces (template : Wording) : List Piece :=
  piecesOf template.glyphs.length template.glyphs

end StatelessAuth.Log
