/-
Patterns of paths.

A pattern is a path in which names in braces stand for parts that are left
open, each with a kind behind a colon if it is not any text between two
slashes. Braces around anything else stand for themselves. A pattern whose
parameters are of unknown kinds, or have a name in common, is none.

# Matching

`capture?` goes through a pattern from left to right and gives each
parameter as much as it can take, then less, until what follows fits too;
so the first way that fits decides what a parameter holds. A path may end
in a line feed that the pattern does not have.
-/
import StatelessAuth.Text.Digits

namespace StatelessAuth

open Text

/-- What a parameter may hold. -/
inductive ParameterKind
  /-- Characters without a slash, at least one. -/
  | text
  /-- Any characters of one line. -/
  | line
  | integer
  /-- Digits, which may have a point and digits behind them. -/
  | decimal
  /-- Hexadecimal digits in groups of 8, 4, 4, 4 and 12; between two groups
  there may be a hyphen. -/
  | identifier
  deriving DecidableEq, Repr

/-- What can go wrong with a path and its pattern. -/
inductive PathFault
  /-- A parameter is of a kind that does not exist. -/
  | unknownKind
  /-- Two parameters have one name. -/
  | repeatedName
  /-- A parameter has a name that is needed for something else. -/
  | reservedName
  /-- A parameter that is an integer has more digits than are read. -/
  | longInteger
  deriving DecidableEq, Repr

inductive PathPart
  | char (c : Char)
  | parameter (name : List Char) (kind : ParameterKind)
  deriving DecidableEq, Repr

/-- A path with parameters. -/
abbrev PathPattern := List PathPart

namespace ParameterKind

def ofName? (name : List Char) : Option ParameterKind :=
  [("str", text), ("path", line), ("int", integer), ("float", decimal),
   ("uuid", identifier)].lookup (String.ofList name)

/-- The text cut in two wherever the first part has at least `least`
characters, all of a class; the longest first part comes first. -/
def cuts (inClass : Char → Bool) (least : Nat) (path : List Char) :
    List (List Char × List Char) :=
  let most := (path.takeWhile inClass).length
  ((List.range (most + 1)).reverse.filter (least ≤ ·)).map fun size =>
    (path.take size, path.drop size)

/-- Digits, with a point and more digits as long as there are any. -/
def decimalCuts (path : List Char) : List (List Char × List Char) :=
  (cuts isDigit 1 path).flatMap fun (whole, rest) =>
    match rest with
    | '.' :: more =>
        ((cuts isDigit 1 more).map fun (digits, rest) =>
          (whole ++ '.' :: digits, rest)) ++ [(whole, rest)]
    | _ => [(whole, rest)]

/-- The text behind groups of hexadecimal digits of some sizes. -/
def skipGroups? : List Nat → List Char → Option (List Char)
  | [], path => some path
  | size :: sizes, path =>
      if (path.take size).length = size ∧ (path.take size).all isHexDigit then
        match path.drop size, sizes with
        | '-' :: rest, _ :: _ => skipGroups? sizes rest
        | rest, _ => skipGroups? sizes rest
      else none

/-- The ways to cut off what a parameter holds, in the order in which they
are tried. -/
def holdings (kind : ParameterKind) (path : List Char) :
    List (List Char × List Char) :=
  match kind with
  | text => cuts (· != '/') 1 path
  | line => cuts (· != '\n') 0 path
  | integer => cuts isDigit 1 path
  | decimal => decimalCuts path
  | identifier =>
      match skipGroups? [8, 4, 4, 4, 12] path with
      | some rest => [(path.take (path.length - rest.length), rest)]
      | none => []

end ParameterKind

namespace PathPattern

-- ============================================================== reading

def isNameStart (c : Char) : Bool :=
  c.isAlpha || c == '_'

def isNameChar (c : Char) : Bool :=
  c.isAlphanum || c == '_'

/-- A name, and what follows it. -/
def takeName? (text : List Char) : Option (List Char × List Char) :=
  match text with
  | c :: _ =>
      if isNameStart c then
        some (text.takeWhile isNameChar, text.dropWhile isNameChar)
      else none
  | [] => none

/-- The name of a parameter and that of its kind, from behind the opening
brace, and what follows the closing one. -/
def takeParameter? (text : List Char) :
    Option ((List Char × List Char) × List Char) :=
  match takeName? text with
  | some (name, '}' :: rest) => some ((name, "str".toList), rest)
  | some (name, ':' :: rest) =>
      match takeName? rest with
      | some (kind, '}' :: rest) => some ((name, kind), rest)
      | _ => none
  | _ => none

/-- The parts of a text, each of which has at least one character, so that
the length of the text is fuel enough. -/
def partsOf : Nat → List Char → Except PathFault PathPattern
  | 0, _ => .ok []
  | _, [] => .ok []
  | fuel + 1, c :: rest =>
      match if c = '{' then takeParameter? rest else none with
      | none => (partsOf fuel rest).map (.char c :: ·)
      | some ((name, kind), rest) =>
          match ParameterKind.ofName? kind with
          | none => .error .unknownKind
          | some kind => (partsOf fuel rest).map (.parameter name kind :: ·)

def names (pattern : PathPattern) : List (List Char) :=
  pattern.filterMap fun
    | .parameter name _ => some name
    | .char _ => none

def ofText (text : String) : Except PathFault PathPattern :=
  match partsOf text.length text.toList with
  | .error fault => .error fault
  | .ok pattern =>
      if pattern.names.Nodup then .ok pattern else .error .repeatedName

-- ============================================================== braces

/-- The text of a pattern without the kinds of its parameters. -/
def outline (pattern : PathPattern) : List Char :=
  pattern.flatMap fun
    | .char c => [c]
    | .parameter name _ => '{' :: name ++ ['}']

/-- What stands between an opening brace and the next closing one, both on
one line. `inner` is what was read since the brace that is open, the last
character first. -/
def braced (inner : Option (List Char)) : List Char → List (List Char)
  | [] => []
  | c :: rest =>
      match inner with
      | none => braced (if c = '{' then some [] else none) rest
      | some read =>
          if c = '}' then read.reverse :: braced none rest
          else if c = '\n' then braced none rest
          else braced (some (c :: read)) rest

/-- The names that a pattern takes for itself. -/
def takenNames (pattern : PathPattern) : List (List Char) :=
  braced none pattern.outline

-- ============================================================= matching

/-- What a parameter holds in a path. -/
structure Holding where
  kind : ParameterKind
  content : List Char
  deriving DecidableEq, Repr

/-- The parameters of a path of the pattern, in order. -/
def capture? : PathPattern → List Char → Option (List Holding)
  | [], rest => if rest = [] ∨ rest = ['\n'] then some [] else none
  | .char c :: pattern, d :: rest =>
      if c = d then capture? pattern rest else none
  | .char _ :: _, [] => none
  | .parameter _ kind :: pattern, path =>
      (kind.holdings path).findSome? fun (content, rest) =>
        (capture? pattern rest).map (⟨kind, content⟩ :: ·)

/-- What a parameter holds cannot be read as its kind. -/
def Holding.isUnreadable (holding : Holding) : Bool :=
  holding.kind == .integer && integerDigits < holding.content.length

end PathPattern

end StatelessAuth
