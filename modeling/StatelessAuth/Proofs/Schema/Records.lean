/-
The records that the application takes in and gives out, checked as they
are declared (`Model.validates_exactly`).

Each record has a check of its own, which puts its fields together by
hand. It comes to the same as the check of a declaration
(`validate_eq_check`), so that what holds of all declarations holds of
these. Of a declaration itself one thing has to be seen, that no two of
its places are the same.
-/
import StatelessAuth.Proofs.Schema.Shape

namespace StatelessAuth

-- ========================================================= combinations

namespace Rule

variable {α : Type} {rule fields : Rule α} {write : α → Value}

/-- A record is checked as it is declared, if its fields are. -/
theorem model_eq_check {model : String} {declared : List (String × Shape)}
    (h : ∀ given, (fields (.record given)).map write
      = (Shape.checkFields declared (.record given)).map .record)
    (value : Value) :
    (Rule.model model fields value).map write
      = (Shape.record model declared).check value := by
  cases value with
  | record given => exact h given
  | _ => rfl

/-- A record with a single field. -/
theorem required_eq_checkFields {name : String} {shape : Shape}
    (h : ∀ value, (rule value).map write = shape.check value)
    (given : List (String × Value)) :
    (required name rule (.record given)).map
      (fun result => Value.record [(name, write result)])
      = (Shape.checkFields [(name, shape)] (.record given)).map .record := by
  have hcheck : shape.check = fun value => (rule value).map write :=
    funext fun value => (h value).symm
  simp only [Shape.checkFields, hcheck, required_map]
  cases required name rule (.record given) with
  | valid result => rfl
  | invalid faults => rfl

end Rule

-- =============================================================== models

/-- The records that are checked. -/
inductive Model
  | loginPayload
  | logoffPayload
  | loginResult
  | logoffResult
  | identityOut
  | authRecord
  deriving DecidableEq, Repr

namespace Model

/-- What a datum is taken for, written as a datum. -/
def validate : Model → Rule Value
  | loginPayload => fun value =>
    (LoginPayload.rule value).map LoginPayload.toValue
  | logoffPayload => fun value =>
    (LogoffPayload.rule value).map LogoffPayload.toValue
  | loginResult => fun value => (LoginResult.rule value).map LoginResult.toValue
  | logoffResult => fun value =>
    (LogoffResult.rule value).map LogoffResult.toValue
  | identityOut => fun value => (IdentityOut.rule value).map IdentityOut.toValue
  | authRecord => fun value => (AuthRecord.rule value).map AuthRecord.toValue

def shape : Model → Shape
  | loginPayload => .record "LoginPayload"
      [("username", .leaf (.textOfLength 1)), ("pwd", .leaf .text)]
  | logoffPayload => .record "LogoffPayload" [("logoff", .leaf .flag)]
  | loginResult => .record "LoginResult"
      [("result", .record "LoginResultBody" [("success", .leaf .flag)])]
  | logoffResult => .record "LogoffResult"
      [("result", .record "LogoffResultBody" [("logged_off", .leaf .flag)])]
  | identityOut => .record "IdentityOut" [("identity", .leaf .text)]
  | authRecord => .record "AuthRecord"
      [("username", .leaf (.textOfLength 1)), ("pwd", .leaf .text),
        ("pwd_salt", .leaf .text), ("token_salt", .leaf .text)]

theorem isDistinct_shape (model : Model) : model.shape.IsDistinct := by
  unfold Shape.IsDistinct
  cases model <;> decide

/-- Each record is checked as its declaration is. -/
theorem validate_eq_check (model : Model) (value : Value) :
    model.validate value = model.shape.check value := by
  cases model with
  | loginPayload =>
      refine Rule.model_eq_check ?_ value
      intro given
      simp only [LoginPayload.fields, Shape.checkFields, Shape.check,
        Leaf.textOfLength, Leaf.text, Rule.leafOf, Rule.required_map]
      cases Rule.required "username" (Rule.textOfLength 1) (.record given) with
      | valid username =>
          cases Rule.required "pwd" Rule.text (.record given) with
          | valid pwd => rfl
          | invalid faults => rfl
      | invalid faults =>
          cases Rule.required "pwd" Rule.text (.record given) with
          | valid pwd => rfl
          | invalid more => rfl
  | logoffPayload =>
      refine Rule.model_eq_check ?_ value
      intro given
      refine (Validated.map_map _ _ _).trans ?_
      exact Rule.required_eq_checkFields (fun _ => rfl) given
  | loginResult =>
      refine Rule.model_eq_check ?_ value
      intro given
      refine (Validated.map_map _ _ _).trans ?_
      refine Rule.required_eq_checkFields (fun found => ?_) given
      exact Rule.model_eq_check
        (Rule.required_eq_checkFields fun _ => rfl) found
  | logoffResult =>
      refine Rule.model_eq_check ?_ value
      intro given
      refine (Validated.map_map _ _ _).trans ?_
      refine Rule.required_eq_checkFields (fun found => ?_) given
      exact Rule.model_eq_check
        (Rule.required_eq_checkFields fun _ => rfl) found
  | identityOut =>
      refine Rule.model_eq_check ?_ value
      intro given
      refine (Validated.map_map _ _ _).trans ?_
      exact Rule.required_eq_checkFields (fun _ => rfl) given
  | authRecord =>
      refine Rule.model_eq_check ?_ value
      intro given
      simp only [AuthRecord.fields, Shape.checkFields, Shape.check,
        Leaf.textOfLength, Leaf.text, Rule.leafOf, Rule.required_map]
      -- the fields are put together from the left here and from the right there
      cases Rule.required "username" (Rule.textOfLength 1) (.record given) <;>
        cases Rule.required "pwd" Rule.text (.record given) <;>
        cases Rule.required "pwd_salt" Rule.text (.record given) <;>
        cases Rule.required "token_salt" Rule.text (.record given) <;>
        simp [Validated.map, Validated.andThen, AuthRecord.toValue]

-- =============================================================== result

/-- The check loses nothing that is wrong, and gives out what it takes in. -/
structure IsExact (validate : Rule Value) (shape : Shape) : Prop where
  /-- A datum passes if every declared field is there and valid, and
  only then. -/
  complete : ∀ value, (∃ out, validate value = .valid out) ↔ shape.Fits value
  form : ∀ value out, validate value = .valid out → shape.IsForm out
  /-- Neither fields that are not declared nor the order of fields
  matter, at any depth (`Shape.agrees_of_undeclared`,
  `Shape.agrees_of_perm`). -/
  agreement : ∀ value other, shape.Agrees value other →
    ∀ out, validate value = .valid out ↔ validate other = .valid out
  stable : ∀ value out, validate value = .valid out → validate out = .valid out
  /-- No two faults are in one place, as no two places are the same. -/
  places : shape.places.Nodup
  faults : ∀ value faults, validate value = .invalid faults →
    faults ≠ [] ∧ (faults.map Fault.path).Sublist shape.places
      ∧ ∀ fault, fault ∈ faults ↔ shape.Blames value fault

/-- Each of the records is checked exactly as it is declared. -/
theorem validates_exactly (model : Model) :
    IsExact model.validate model.shape := by
  have hdistinct := model.isDistinct_shape
  have hcheck : model.validate = model.shape.check :=
    funext model.validate_eq_check
  rw [hcheck]
  refine ⟨?complete, ?form, ?agreement, ?stable, hdistinct, ?faults⟩
  case complete =>
    intro value
    exact Shape.exists_valid_iff_fits _ value
  case form =>
    intro value out h
    exact Shape.isForm_of_valid _ hdistinct h
  case agreement =>
    intro value other h out
    exact Shape.valid_iff_of_agrees h out
  case stable =>
    intro value out h
    exact Shape.check_of_valid _ hdistinct h
  case faults =>
    intro value faults h
    have hfaults : (model.shape.check value).faults = faults := by
      rw [h]
      rfl
    refine ⟨?_, ?_, ?_⟩
    · intro hnone
      rw [hnone] at h
      exact Shape.isFounded_check _ value h
    · rw [← hfaults]
      exact Shape.sublist_places _ value
    · intro fault
      rw [← hfaults]
      exact Shape.mem_faults_iff _ value fault

/-- The answer to a login with a word for yes, and with more than it
should have. -/
def sampleAnswer : List (String × Value) :=
  [("note", .null),
    ("result", .record [("more", .list []), ("success", .text "Yes")])]

/-- An answer passes with a word in it and with more than is declared,
in any order, and is written in one form, which passes again as it is. -/
theorem validates_exactly_of_answer :
    ∃ out, loginResult.validate (.record sampleAnswer) = .valid out
      ∧ loginResult.validate (.record sampleAnswer.reverse) = .valid out
      ∧ loginResult.validate (.record sampleAnswer.tail) = .valid out
      ∧ loginResult.validate out = .valid out := by
  have hexact := validates_exactly loginResult
  have hinner : (Shape.record "LoginResultBody" [("success", .leaf .flag)]).Fits
      (.record [("more", .list []), ("success", .text "Yes")]) := by
    refine .record (List.forall_mem_singleton.2 ⟨_, rfl⟩)
      (List.forall_mem_singleton.2 ?_)
    intro found hfound
    cases hfound
    exact Shape.fits_flag_iff.2
      ⟨true, .text rfl ⟨"yes", by decide, by decide +kernel⟩⟩
  have hfits : loginResult.shape.Fits (.record sampleAnswer) := by
    refine .record (List.forall_mem_singleton.2 ⟨_, rfl⟩)
      (List.forall_mem_singleton.2 ?_)
    intro found hfound
    cases hfound
    exact hinner
  have hreversed : loginResult.shape.Agrees (.record sampleAnswer)
      (.record sampleAnswer.reverse) :=
    Shape.agrees_of_perm (by decide) (List.reverse_perm _).symm
  have hshort : loginResult.shape.Agrees (.record sampleAnswer)
      (.record sampleAnswer.tail) :=
    Shape.agrees_of_undeclared (by decide)
  obtain ⟨out, hout⟩ := (hexact.complete _).2 hfits
  exact ⟨out, hout, (hexact.agreement _ _ hreversed out).1 hout,
    (hexact.agreement _ _ hshort out).1 hout, hexact.stable _ _ hout⟩

end Model

end StatelessAuth
