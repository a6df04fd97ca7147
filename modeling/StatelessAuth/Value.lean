/-
Untyped data: what a document, a configuration or a request holds before
it is checked. Integers and doubles are kept apart, and so are byte
strings and byte buffers, which some rules take and others do not.

The texts in it are of either kind: a `Value` has texts of characters, and
a `Document`, which is what a client sends, has any.

The fields of a record keep their order. A field that is given twice
stands at its first place with its last value, so that look-up never has
to choose (`Value.putField`).
-/
import StatelessAuth.Binary64
import StatelessAuth.Text.Wording

namespace StatelessAuth

/-- A datum of no declared type. -/
inductive Value (τ : Type := String)
  | null
  | bool (value : Bool)
  | integer (value : Int)
  | real (value : Binary64)
  | text (value : τ)
  | bytes (data : List UInt8)
  | buffer (data : List UInt8)
  | list (items : List (Value τ))
  | record (fields : List (τ × Value τ))

/-- A datum whose texts may hold halves of surrogate pairs. -/
abbrev Document := Value Wording

namespace Value

variable {τ : Type}

instance : Inhabited (Value τ) := ⟨.null⟩

/-- A datum that says nothing: none at all, no, zero, or no content. -/
def isVoid [Textual τ] : Value τ → Bool
  | .null => true
  | .bool value => !value
  | .integer value => value == 0
  | .real (.finite _ significand _) => significand == 0
  | .real _ => false
  | .text value => Textual.string? value == some ""
  | .bytes data => data.isEmpty
  | .buffer data => data.isEmpty
  | .list items => items.isEmpty
  | .record fields => fields.isEmpty

-- ============================================================== fields

section Fields

variable [DecidableEq τ]

/-- The value of a field among fields. -/
def field? (name : τ) (fields : List (τ × Value τ)) : Option (Value τ) :=
  fields.lookup name

/-- The fields with one more, or with the new value of the one that was
there. -/
def putField (name : τ) (value : Value τ) :
    List (τ × Value τ) → List (τ × Value τ)
  | [] => [(name, value)]
  | (other, old) :: rest =>
      if other = name then (name, value) :: rest
      else (other, old) :: putField name value rest

end Fields

-- ============================================================== strings

section Strings

variable [Textual τ]

mutual

/-- The same datum with texts of characters, if that is what all its texts
and names are. -/
def strings? : Value τ → Option Value
  | .null => some .null
  | .bool value => some (.bool value)
  | .integer value => some (.integer value)
  | .real value => some (.real value)
  | .text value => (Textual.string? value).map .text
  | .bytes data => some (.bytes data)
  | .buffer data => some (.buffer data)
  | .list items => (itemStrings? items).map .list
  | .record fields => (fieldStrings? fields).map .record

def itemStrings? : List (Value τ) → Option (List Value)
  | [] => some []
  | item :: rest => do
      let item ← strings? item
      let rest ← itemStrings? rest
      some (item :: rest)

def fieldStrings? : List (τ × Value τ) → Option (List (String × Value))
  | [] => some []
  | (name, value) :: rest => do
      let name ← Textual.string? name
      let value ← strings? value
      let rest ← fieldStrings? rest
      some ((name, value) :: rest)

end

end Strings

end Value

end StatelessAuth
