/-
The rules by which a datum is taken as a text, a truth value, a number or
a record.

A rule turns a datum into a result or a fault. Texts are also taken from
UTF-8 bytes; truth values from the numbers 0 and 1 and from a closed list
of words; numbers from truth values and from texts. `required` applies a
rule to a field of a record.

A text is taken as it is, whatever kind of texts the data have. A rule
that looks into it (its length, its words) needs its characters, and
refuses a text that has half of a surrogate pair.
-/
import StatelessAuth.Binary64.Reading
import StatelessAuth.Schema.Fault
import StatelessAuth.Text.Utf8

namespace StatelessAuth

/-- How a datum is taken as a result of a type. -/
abbrev Rule (α : Type) (τ : Type := String) := Value τ → Validated α τ

namespace Rule

variable {α τ : Type} [Textual τ]

-- =============================================================== leaves

/-- A text of any length, or the text that bytes write in UTF-8. -/
def text : Rule τ τ := fun value =>
  match value with
  | .text content => .valid content
  | .bytes data | .buffer data =>
      match Utf8.decode? data with
      | some content => .valid (Textual.ofString content)
      | none => .fail .stringUnicode value
  | _ => .fail .stringType value

/-- A text of at least so many characters. -/
def textOfLength (atLeast : Nat) : Rule String τ := fun value =>
  match text value with
  | .valid content =>
      match Textual.string? content with
      | some content =>
          if content.length < atLeast then
            .fail (.stringTooShort atLeast) value
          else .valid content
      | none => .fail .stringUnicode value
  | .invalid faults => .invalid faults

/-- The words for yes and for no, in small letters. -/
def truthWord? (word : String) : Option Bool :=
  if word ∈ ["1", "true", "t", "yes", "y", "on"] then some true
  else if word ∈ ["0", "false", "f", "no", "n", "off"] then some false
  else none

/-- What the integers of 64 bits are below. -/
def longBound : Int := twoTo 63

/-- The integers of 64 bits, of which only 0 and 1 are truth values. -/
def truthNumber (number : Int) (value : Value τ) : Validated Bool τ :=
  if number = 0 then .valid false
  else if number = 1 then .valid true
  else .fail .boolParsing value

/-- A truth value: one as it is, the numbers 0 and 1, or one of the words
in any case. Other words and other integers of 64 bits could have been
one; nothing else could. A double counts as the integer that it is, the
least integer of 64 bits excepted. -/
def flag : Rule Bool τ := fun value =>
  match value with
  | .bool b => .valid b
  | .integer n =>
      if -longBound ≤ n ∧ n < longBound then truthNumber n value
      else .fail .boolType value
  | .real x =>
      match x.toInt? with
      | some n =>
          if -longBound < n ∧ n < longBound then truthNumber n value
          else .fail .boolType value
      | none => .fail .boolType value
  | .text word =>
      match Textual.string? word with
      | some word =>
          match truthWord? (Text.lower word) with
          | some b => .valid b
          | none => .fail .boolParsing value
      | none => .fail .stringUnicode value
  | .bytes data =>
      match (Utf8.decode? data).bind (truthWord? <| Text.lower ·) with
      | some b => .valid b
      | none => .fail .boolParsing value
  | _ => .fail .boolType value

/-- A double: one as it is, an integer in the range of doubles, a truth
value as 0 or 1, or a text that writes a number. -/
def number : Rule Binary64 τ := fun value =>
  match value with
  | .real x => .valid x
  | .integer n =>
      match Binary64.ofInt n with
      | .infinite _ => .fail .floatType value
      | x => .valid x
  | .bool b => .valid (Binary64.ofInt (if b then 1 else 0))
  | .text content =>
      match Textual.string? content with
      | some content =>
          match Binary64.readSpaced? content with
          | some x => .valid x
          | none => .fail .floatParsing value
      | none => .fail .stringUnicode value
  | .bytes data =>
      match (Utf8.decode? data).bind Binary64.readSpaced? with
      | some x => .valid x
      | none => .fail .floatParsing value
  | _ => .fail .floatType value

-- ============================================================== records

/-- A field that has to be there. -/
def required [DecidableEq τ] (name : String) (rule : Rule α τ) : Rule α τ :=
  fun value =>
  match value with
  | .record fields =>
      match Value.field? (Textual.ofString name) fields with
      | some found => (rule found).under name
      | none => .invalid [⟨.missing, [name], value⟩]
  | _ => .invalid [⟨.missing, [name], value⟩]

/-- A record of the named model, its fields taken by `fields`. -/
def model (name : String) (fields : Rule α τ) : Rule α τ := fun value =>
  match value with
  | .record _ => fields value
  | _ => .fail (.modelType name) value

end Rule

end StatelessAuth
