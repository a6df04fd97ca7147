/-
What is wrong with a datum that does not fit its declaration, and where.

A fault names its cause, the path of field names that leads to it, and
the datum that was found there (for a field that is missing, the record
that lacks it). `Validated` is a result or a list of faults, and `andThen`
puts two of them together keeping the faults of both, so that one bad
field never hides another.
-/
import StatelessAuth.Value

namespace StatelessAuth

/-- What is wrong with a datum. -/
inductive FaultCause
  | missing
  | stringType
  | stringUnicode
  | stringTooShort (atLeast : Nat)
  | boolType
  | boolParsing
  | floatType
  | floatParsing
  /-- A record of the named model was expected. -/
  | modelType (model : String)
  /-- A request body that is a record was expected. -/
  | bodyType
  /-- A rule of the field itself failed, with its own text. -/
  | rule (text : String)
  | extraForbidden
  deriving DecidableEq, Repr

namespace FaultCause

def code : FaultCause → String
  | missing => "missing"
  | stringType => "string_type"
  | stringUnicode => "string_unicode"
  | stringTooShort _ => "string_too_short"
  | boolType => "bool_type"
  | boolParsing => "bool_parsing"
  | floatType => "float_type"
  | floatParsing => "float_parsing"
  | modelType _ => "model_type"
  | bodyType => "model_attributes_type"
  | rule _ => "value_error"
  | extraForbidden => "extra_forbidden"

def message : FaultCause → String
  | missing => "Field required"
  | stringType => "Input should be a valid string"
  | stringUnicode =>
      "Input should be a valid string, unable to parse raw data as a unicode string"
  | stringTooShort atLeast =>
      "String should have at least " ++ toString atLeast
        ++ (if atLeast = 1 then " character" else " characters")
  | boolType => "Input should be a valid boolean"
  | boolParsing => "Input should be a valid boolean, unable to interpret input"
  | floatType => "Input should be a valid number"
  | floatParsing =>
      "Input should be a valid number, unable to parse string as a number"
  | modelType model =>
      "Input should be a valid dictionary or instance of " ++ model
  | bodyType =>
      "Input should be a valid dictionary or object to extract fields from"
  | rule text => "Value error, " ++ text
  | extraForbidden => "Extra inputs are not permitted"

end FaultCause

/-- A fault at a place, the datum having texts of a kind. -/
structure Fault (τ : Type := String) where
  cause : FaultCause
  path : List String
  found : Value τ

/-- The fault seen from a record in which the datum is a field. -/
def Fault.under {τ : Type} (name : String) (fault : Fault τ) : Fault τ :=
  { fault with path := name :: fault.path }

/-- A result, or all the faults that were found. -/
inductive Validated (α : Type) (τ : Type := String)
  | valid (result : α)
  | invalid (faults : List (Fault τ))

namespace Validated

variable {α β τ : Type}

/-- A single fault, at the place where the datum stands. -/
def fail (cause : FaultCause) (found : Value τ) : Validated α τ :=
  .invalid [⟨cause, [], found⟩]

def map (f : α → β) : Validated α τ → Validated β τ
  | .valid a => .valid (f a)
  | .invalid faults => .invalid faults

/-- Both results put together, or the faults of the first and then those
of the second. -/
def andThen : Validated (α → β) τ → Validated α τ → Validated β τ
  | .valid f, .valid a => .valid (f a)
  | .valid _, .invalid faults => .invalid faults
  | .invalid faults, .valid _ => .invalid faults
  | .invalid first, .invalid second => .invalid (first ++ second)

/-- The same as seen from a record in which the datum is a field. -/
def under (name : String) : Validated α τ → Validated α τ
  | .valid a => .valid a
  | .invalid faults => .invalid (faults.map (Fault.under name))

def faults : Validated α τ → List (Fault τ)
  | .valid _ => []
  | .invalid faults => faults

end Validated

end StatelessAuth
