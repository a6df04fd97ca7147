/-
Messages put together from a template and its arguments.

`fill` goes through the pieces of a template and takes an argument at each
place, so that what is wrong with a template matters only where the
arguments before it were used up properly. A template without arguments is
a message as it stands.
-/
import StatelessAuth.Log.Argument

namespace StatelessAuth.Log

/-- The arguments that are left. -/
inductive Supply
  /-- Arguments in order, each to be used. -/
  | inOrder (rest : List Document)
  /-- Arguments by name, and the one that the next place takes. -/
  | byName (fields : List (Wording × Document)) (next : Option Document)

namespace Supply

/-- The arguments as they are given: a lone record that is not empty gives
them by name. -/
def ofArguments : List Document → Supply
  | [.record (field :: fields)] =>
      .byName (field :: fields) (some (.record (field :: fields)))
  | arguments => .inOrder arguments

def take : Supply → Except TemplateError (Document × Supply)
  | .inOrder (value :: rest) => .ok (value, .inOrder rest)
  | .byName fields (some value) => .ok (value, .byName fields none)
  | _ => .error .mismatch

/-- Makes the argument of a name the next one. -/
def select (name : Wording) : Supply → Except TemplateError Supply
  | .byName fields _ =>
      match Value.field? name fields with
      | some value => .ok (.byName fields (some value))
      | none => .error .unknownName
  | .inOrder _ => .error .mismatch

/-- No argument is left that had to be used. -/
def isUsed : Supply → Bool
  | .inOrder rest => rest.isEmpty
  | .byName _ _ => true

/-- Takes the argument that a star stands for: an integer within the bound
of its measure. -/
def takeStar (supply : Supply) (measure : Measure) :
    Except TemplateError (Int × Supply) :=
  match supply.take with
  | .ok (.integer size, supply) =>
      if -measure.bound ≤ size ∧ size < measure.bound then .ok (size, supply)
      else .error .outOfRange
  | .ok (.bool size, supply) => .ok (if size then 1 else 0, supply)
  | .ok _ => .error .mismatch
  | .error e => .error e

/-- Takes the arguments that stars stand for. -/
def takeStars (supply : Supply) : List Measure → Except TemplateError Supply
  | [] => .ok supply
  | measure :: rest => do
      let (_, supply) ← supply.takeStar measure
      supply.takeStars rest

/-- A number of a place, which may stand among the arguments. -/
def takeExtent (supply : Supply) (measure : Measure) :
    Extent → Except TemplateError (Option Int × Supply)
  | .unset => .ok (none, supply)
  | .stated size => .ok (some size, supply)
  | .argument =>
      (supply.takeStar measure).map fun (size, supply) => (some size, supply)

end Supply

-- ============================================================= messages

/-- A width that no text can have. -/
def hugeWidth : Nat := twoTo 31

/-- The size of a width, whose sign only says to which side the text goes.
The least integer of 64 bits has no size there. -/
def widthSize (width : Int) : Nat :=
  if width.natAbs < Measure.width.bound then width.natAbs else 0

/-- Takes an argument and writes it. -/
def filled (place : Place) (supply : Supply) :
    Except TemplateError (List Glyph × Supply) := do
  let (width, supply) ← supply.takeExtent .width place.width
  let (precision, supply) ← supply.takeExtent .precision place.precision
  let (value, supply) ← supply.take
  let text ← written place precision value
  let width := width.getD 0
  if hugeWidth ≤ widthSize width then .error .tooLong
  else
    .ok (fitted place (widthSize width) (place.leftAligned || width < 0) text,
      supply)

/-- The message of the pieces. Every argument that is given in order has
to be used. -/
def fill : List Piece → Supply → Except TemplateError (List Glyph)
  | [], supply => if supply.isUsed then .ok [] else .error .mismatch
  | .literal c :: rest, supply => (fill rest supply).map (c :: ·)
  | .name key :: rest, supply => do
      let supply ← supply.select key
      fill rest supply
  | .openName :: _, supply =>
      match supply with
      | .inOrder _ => .error .mismatch
      | .byName _ _ => .error .malformed
  | .place place :: rest, supply => do
      let (text, supply) ← filled place supply
      let more ← fill rest supply
      .ok (text ++ more)
  | .broken stars :: _, supply => do
      let _ ← supply.takeStars stars
      .error .malformed

/-- The message of a template: the template as it stands if there are no
arguments. -/
def message (template : Wording) (arguments : List Document) :
    Except TemplateError Wording :=
  if arguments.isEmpty then .ok template
  else (fill (pieces template) (.ofArguments arguments)).map Wording.mk

end StatelessAuth.Log
