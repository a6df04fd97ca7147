/-
What a rule accepts: the conditions under which a combination of rules
yields a result, one for each way to combine them; and what it finds wrong:
the faults of a combination are those of its parts, in order, and a rule for
a lone datum finds at most one, in the datum itself (`Rule.IsWhole`).

The kind of texts makes no difference to a combination, and so there is one
lemma for the data of both kinds.
-/
import StatelessAuth.Schema.Models

namespace StatelessAuth

namespace Validated

variable {α β γ τ : Type} {a : Validated α τ}

theorem map_eq_valid_iff {f : α → β} {result : β} :
    a.map f = .valid result ↔ ∃ x, a = .valid x ∧ f x = result := by
  cases a with
  | valid x => simp [map]
  | invalid faults => simp [map]

/-- Two results together are a result only if both are. -/
theorem andThen_eq_valid_iff {f : Validated (α → β) τ} {result : β} :
    f.andThen a = .valid result
      ↔ ∃ g x, f = .valid g ∧ a = .valid x ∧ g x = result := by
  cases f with
  | valid g => cases a <;> simp [andThen]
  | invalid faults => cases a <;> simp [andThen]

theorem under_eq_valid_iff {name : String} {result : α} :
    a.under name = .valid result ↔ a = .valid result := by
  cases a with
  | valid x => simp [under]
  | invalid faults => simp [under]

theorem map_map (a : Validated α τ) (f : α → β) (g : β → γ) :
    (a.map f).map g = a.map (g ∘ f) := by
  cases a with
  | valid x => rfl
  | invalid faults => rfl

theorem map_under (a : Validated α τ) (f : α → β) (name : String) :
    (a.under name).map f = (a.map f).under name := by
  cases a with
  | valid x => rfl
  | invalid faults => rfl

-- -------------------------------------------------------------- faults

theorem faults_map (f : α → β) (a : Validated α τ) :
    (a.map f).faults = a.faults := by
  cases a with
  | valid x => rfl
  | invalid faults => rfl

/-- One part never hides what is wrong with the other. -/
theorem faults_andThen (f : Validated (α → β) τ) (a : Validated α τ) :
    (f.andThen a).faults = f.faults ++ a.faults := by
  cases f with
  | valid g => cases a <;> rfl
  | invalid faults =>
      cases a with
      | valid x => exact (List.append_nil faults).symm
      | invalid more => rfl

/-- Of every fault it is told in which field it stands. -/
theorem faults_under (name : String) (a : Validated α τ) :
    (a.under name).faults = a.faults.map (Fault.under name) := by
  cases a with
  | valid x => rfl
  | invalid faults => rfl

/-- A result, or at least one fault. Only of such data do the faults tell
whether there is a result. -/
def IsFounded (a : Validated α τ) : Prop := a ≠ .invalid []

/-- Where nothing is wrong there is a result. -/
theorem IsFounded.exists_valid (h : a.IsFounded) (hfaults : a.faults = []) :
    ∃ result, a = .valid result := by
  cases a with
  | valid result => exact ⟨result, rfl⟩
  | invalid faults =>
      cases hfaults
      exact absurd rfl h

/-- What is made of a founded result is founded. -/
theorem IsFounded.map (h : a.IsFounded) (f : α → β) : (a.map f).IsFounded := by
  cases a with
  | valid result => exact nofun
  | invalid faults =>
      intro heq
      cases heq
      exact h rfl

/-- Two parts that are founded are so together. -/
theorem IsFounded.andThen {f : Validated (α → β) τ} (hf : f.IsFounded)
    (h : a.IsFounded) : (f.andThen a).IsFounded := by
  intro heq
  have hfaults := congrArg faults heq
  rw [faults_andThen] at hfaults
  -- without a fault both parts have a result, and so have they together
  obtain ⟨hfirst, hsecond⟩ := List.append_eq_nil_iff.1 hfaults
  obtain ⟨g, rfl⟩ := hf.exists_valid hfirst
  obtain ⟨x, rfl⟩ := h.exists_valid hsecond
  cases heq

/-- A field of a record is founded as its datum is. -/
theorem IsFounded.under (h : a.IsFounded) (name : String) :
    (a.under name).IsFounded := by
  intro heq
  have hfaults := congrArg faults heq
  rw [faults_under] at hfaults
  obtain ⟨x, rfl⟩ := h.exists_valid (List.map_eq_nil_iff.1 hfaults)
  cases heq

end Validated

namespace Rule

variable {α β τ : Type} {rule : Rule α τ} {value : Value τ}

section Fields

variable [DecidableEq τ] [Textual τ] {name : String} {found : Value τ}
  {given : List (τ × Value τ)}

/-- A field has a result if it is there and the rule gives one for it. -/
theorem required_eq_valid_iff {result : α} :
    required name rule value = .valid result
      ↔ ∃ fields found, value = .record fields
          ∧ Value.field? (Textual.ofString name) fields = some found
          ∧ rule found = .valid result := by
  unfold required
  split
  case h_1 fields =>
    split
    case h_1 found hfound =>
      rw [Validated.under_eq_valid_iff]
      constructor
      · intro h
        exact ⟨fields, found, rfl, hfound, h⟩
      · intro h
        obtain ⟨_, _, heq, hother, h⟩ := h
        cases heq
        rw [hfound] at hother
        cases hother
        exact h
    case h_2 hmissing =>
      constructor
      · intro h
        cases h
      · intro h
        obtain ⟨_, _, heq, hother, -⟩ := h
        cases heq
        rw [hmissing] at hother
        cases hother
  case h_2 hno =>
    constructor
    · intro h
      cases h
    · intro h
      obtain ⟨fields, _, heq, -, -⟩ := h
      exact absurd heq (hno fields)

/-- A field that is not there is told as missing, in the record. -/
theorem required_of_none
    (h : Value.field? (Textual.ofString name) given = none) :
    required name rule (.record given)
      = .invalid [⟨.missing, [name], .record given⟩] := by
  unfold required
  simp only [h]

theorem required_of_some
    (h : Value.field? (Textual.ofString name) given = some found) :
    required name rule (.record given) = (rule found).under name := by
  unfold required
  simp only [h]

/-- It makes no difference whether a field is made something of before or
after. -/
theorem required_map (name : String) (rule : Rule α τ) (f : α → β)
    (value : Value τ) :
    required name (fun found => (rule found).map f) value
      = (required name rule value).map f := by
  cases value with
  | record given =>
      rcases hfield : Value.field? (Textual.ofString name) given with - | found
      · rw [required_of_none hfield, required_of_none hfield]
        rfl
      · rw [required_of_some hfield, required_of_some hfield,
          Validated.map_under]
  | _ => rfl

end Fields

/-- A text is long enough if it is one and has the characters. -/
theorem textOfLength_eq_valid_iff {atLeast : Nat} {value : Value}
    {content : String} :
    textOfLength atLeast value = .valid content
      ↔ text value = .valid content ∧ atLeast ≤ content.length := by
  unfold textOfLength
  split
  case h_1 other hother =>
    rw [hother]
    simp only [Textual.string?_string]
    split
    case isTrue hshort =>
      constructor
      · intro h
        cases h
      · intro h
        obtain ⟨h, hlong⟩ := h
        cases h
        exact absurd hshort (Nat.not_lt_of_le hlong)
    case isFalse hlong =>
      constructor
      · intro h
        cases h
        exact ⟨rfl, Nat.le_of_not_lt hlong⟩
      · intro h
        obtain ⟨h, -⟩ := h
        cases h
        rfl
  case h_2 faults hfaults => simp [hfaults]

/-- A text of either kind that is long enough has that many characters. -/
theorem le_length_of_textOfLength [Textual τ] {atLeast : Nat} {content : String}
    (h : textOfLength atLeast value = .valid content) :
    atLeast ≤ content.length := by
  unfold textOfLength at h
  split at h
  case h_2 => cases h
  case h_1 =>
    split at h
    case h_2 => cases h
    case h_1 =>
      split at h
      case isTrue => cases h
      case isFalse hlong =>
        cases h
        exact Nat.le_of_not_lt hlong

-- -------------------------------------------------------------- faults

/-- A rule finds at most one thing wrong, in the datum itself. -/
def IsWhole (rule : Rule α τ) : Prop :=
  ∀ value, (∃ result, rule value = .valid result)
    ∨ ∃ cause, rule value = .fail cause value

/-- A datum that such a rule refuses has its fault. -/
theorem IsWhole.isFounded (h : rule.IsWhole) (value : Value τ) :
    (rule value).IsFounded := by
  rcases h value with ⟨result, heq⟩ | ⟨cause, heq⟩
  · rw [heq]
    exact nofun
  · rw [heq]
    exact nofun

/-- A rule finds nothing wrong, or one thing, in the datum itself. -/
theorem IsWhole.faults_cases (h : rule.IsWhole) (value : Value τ) :
    ((rule value).faults = [] ∧ ∀ cause, rule value ≠ .fail cause value)
      ∨ ∃ cause, (rule value).faults = [⟨cause, [], value⟩]
          ∧ ∀ other, rule value = .fail other value ↔ other = cause := by
  rcases h value with ⟨result, heq⟩ | ⟨cause, heq⟩
  · left
    rw [heq]
    exact ⟨rfl, fun _ => nofun⟩
  · right
    rw [heq]
    refine ⟨cause, rfl, fun other => ⟨?_, ?_⟩⟩
    · intro hother
      cases hother
      rfl
    · rintro rfl
      rfl

/-- A rule stays so if something is made of its results. -/
theorem IsWhole.map (h : rule.IsWhole) (f : α → β) :
    IsWhole fun value => (rule value).map f := by
  intro value
  rcases h value with ⟨result, hvalid⟩ | ⟨cause, hfail⟩
  · exact Or.inl ⟨f result, congrArg (Validated.map f) hvalid⟩
  · exact Or.inr ⟨cause, congrArg (Validated.map f) hfail⟩

/-- Texts are taken or refused as a whole, in either kind. -/
theorem isWhole_text [Textual τ] : IsWhole (text : Rule τ τ) := by
  intro value
  unfold text
  split
  case h_1 content => exact Or.inl ⟨content, rfl⟩
  -- what is left are bytes, which are a text if they decode
  case h_4 => exact Or.inr ⟨_, rfl⟩
  all_goals
    split
    case h_1 content _ => exact Or.inl ⟨_, rfl⟩
    case h_2 => exact Or.inr ⟨_, rfl⟩

/-- So are texts of some length, since the length is asked of a text
only. -/
theorem isWhole_textOfLength [Textual τ] (atLeast : Nat) :
    IsWhole (textOfLength atLeast : Rule String τ) := by
  intro value
  unfold textOfLength
  rcases isWhole_text value with ⟨content, hvalid⟩ | ⟨cause, hfail⟩
  · rw [hvalid]
    simp only
    split
    case h_2 => exact Or.inr ⟨_, rfl⟩
    case h_1 content _ =>
      split
      case isTrue => exact Or.inr ⟨_, rfl⟩
      case isFalse => exact Or.inl ⟨content, rfl⟩
  · rw [hfail]
    exact Or.inr ⟨cause, rfl⟩

/-- And numbers, whichever kind of datum they are read from. -/
theorem isWhole_number : IsWhole (number : Rule Binary64) := by
  intro value
  unfold number
  -- any other functions would do; these must not be computed
  obtain ⟨ofInt, hofInt⟩ : ∃ ofInt, ofInt = Binary64.ofInt := ⟨_, rfl⟩
  obtain ⟨read, hread⟩ : ∃ read, read = Binary64.readSpaced? := ⟨_, rfl⟩
  rw [← hofInt, ← hread]
  split
  case h_1 x => exact Or.inl ⟨x, rfl⟩
  case h_2 n =>
    split
    case h_1 => exact Or.inr ⟨_, rfl⟩
    case h_2 => exact Or.inl ⟨_, rfl⟩
  case h_3 => exact Or.inl ⟨_, rfl⟩
  case h_6 => exact Or.inr ⟨_, rfl⟩
  case h_4 content =>
    rw [Textual.string?_string]
    simp only
    split
    case h_1 x _ => exact Or.inl ⟨x, rfl⟩
    case h_2 => exact Or.inr ⟨_, rfl⟩
  case h_5 =>
    split
    case h_1 x _ => exact Or.inl ⟨x, rfl⟩
    case h_2 => exact Or.inr ⟨_, rfl⟩

end Rule

/-- Who logs in has a name. -/
theorem LoginPayload.username_ne_empty {τ : Type} [DecidableEq τ] [Textual τ]
    {value : Value τ} {payload : LoginPayload τ}
    (h : fields value = .valid payload) : payload.username ≠ "" := by
  unfold fields at h
  obtain ⟨g, pwd, hname, -, rfl⟩ := Validated.andThen_eq_valid_iff.1 h
  obtain ⟨username, hrequired, rfl⟩ := Validated.map_eq_valid_iff.1 hname
  obtain ⟨_, found, -, -, hfound⟩ := Rule.required_eq_valid_iff.1 hrequired
  -- the rule of the field asks for one character, and the empty text
  -- has none
  have hlength := Rule.le_length_of_textOfLength hfound
  show username ≠ ""
  intro hempty
  rw [hempty] at hlength
  exact absurd hlength (by decide)

end StatelessAuth
