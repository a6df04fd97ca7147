/-
What becomes of a datum that is taken as a record with declared fields.

A declaration (`Shape`) is a tree: a leaf has a rule of its own, and a
record has a name and fields, each with its own declaration.
`Shape.check` puts the rules of the leaves together in the one way in
which records are checked. What this comes to is said without it: which
data fit (`Fits`), what is written of them (`IsForm`), which data are
the same to a declaration (`Agrees`), and what is wrong with a datum and
where (`Blames`).

# Faults

The places of a declaration are listed in the order in which it is
written (`places`). The faults of a datum stand at some of these places,
in this order, so that no place has two. No field is passed over because
another one is wrong: the faults are exactly those that `Blames` finds
(`mem_faults_iff`).
-/
import Mathlib.Data.List.Forall2
import Mathlib.Data.List.Nodup
import StatelessAuth.Proofs.Schema.Truth

namespace StatelessAuth

-- =============================================================== leaves

/-- A rule for a lone datum, which takes what it gives for itself. -/
structure Leaf where
  rule : Rule Value
  isWhole : rule.IsWhole
  stable : ∀ {value out : Value}, rule value = .valid out →
    rule out = .valid out

namespace Rule

/-- A rule whose results are taken for themselves when they are written. -/
def leafOf {α : Type} (rule : Rule α) (write : α → Value) (h : rule.IsWhole)
    (hstable : ∀ value result, rule value = .valid result →
      rule (write result) = .valid result) : Leaf where
  rule value := (rule value).map write
  isWhole := h.map write
  stable := by
    intro value out hout
    obtain ⟨result, hresult, rfl⟩ := Validated.map_eq_valid_iff.1 hout
    rw [hstable value result hresult]
    rfl

end Rule

namespace Leaf

def text : Leaf :=
  Rule.leafOf Rule.text .text Rule.isWhole_text fun _ _ _ => rfl

def textOfLength (atLeast : Nat) : Leaf :=
  Rule.leafOf (Rule.textOfLength atLeast) .text
    (Rule.isWhole_textOfLength atLeast) <| by
    intro value content h
    have hlength := (Rule.textOfLength_eq_valid_iff.1 h).2
    exact Rule.textOfLength_eq_valid_iff.2 ⟨rfl, hlength⟩

def flag : Leaf :=
  Rule.leafOf Rule.flag .bool Rule.isWhole_flag fun _ _ _ => rfl

end Leaf

-- =============================================================== shapes

/-- How a datum is declared. -/
inductive Shape
  | leaf (own : Leaf)
  | record (model : String) (fields : List (String × Shape))

namespace Shape

/-- To show something of all declarations, it is enough to show it of
the leaves, and of a record as far as it holds of the fields. -/
@[elab_as_elim]
theorem induct {motive : Shape → Prop} (leaf : ∀ own, motive (.leaf own))
    (record : ∀ model fields, (∀ field ∈ fields, motive field.2) →
      motive (.record model fields)) : ∀ shape, motive shape
  | .leaf own => leaf own
  | .record model fields => record model fields fun field _ =>
    induct leaf record field.2
termination_by shape => shape
decreasing_by
  rename_i hmem
  have hsize := List.sizeOf_lt_of_mem hmem
  cases field
  simp only [Shape.record.sizeOf_spec, Prod.mk.sizeOf_spec] at hsize ⊢
  omega

mutual

def check : Shape → Rule Value
  | .leaf own => own.rule
  | .record model fields => Rule.model model fun value =>
      (checkFields fields value).map .record

def checkFields : List (String × Shape) → Rule (List (String × Value))
  | [] => fun _ => .valid []
  | (name, shape) :: rest => fun value =>
      ((Rule.required name (check shape) value).map fun out outs =>
        (name, out) :: outs).andThen (checkFields rest value)

end

mutual

/-- The places of a declaration: its own, and those of its fields in order. -/
def places : Shape → List (List String)
  | .leaf _ => [[]]
  | .record _ fields => [] :: placesOf fields

def placesOf : List (String × Shape) → List (List String)
  | [] => []
  | (name, shape) :: rest => (places shape).map (name :: ·) ++ placesOf rest

end

/-- Every declared field is there and is valid by itself. -/
inductive Fits : Shape → Value → Prop
  | leaf {own : Leaf} {value out : Value} (h : own.rule value = .valid out) :
      Fits (.leaf own) value
  | record {model : String} {fields : List (String × Shape)}
      {given : List (String × Value)}
      (hpresent : ∀ field ∈ fields,
        ∃ found, Value.field? field.1 given = some found)
      (hfits : ∀ field ∈ fields, ∀ found,
        Value.field? field.1 given = some found → Fits field.2 found) :
      Fits (.record model fields) (.record given)

/-- The datum has the declared fields in order and no others. -/
inductive IsForm : Shape → Value → Prop
  | leaf (own : Leaf) (value : Value) : IsForm (.leaf own) value
  | record {model : String} {fields : List (String × Shape)}
      {outs : List (String × Value)}
      (hnames : outs.map Prod.fst = fields.map Prod.fst)
      (hforms : ∀ field ∈ fields, ∀ out,
        Value.field? field.1 outs = some out → IsForm field.2 out) :
      IsForm (.record model fields) (.record outs)

/-- Two data differ at most in fields that are not declared, and in the
order of fields. -/
inductive Agrees : Shape → Value → Value → Prop
  | refl (shape : Shape) (value : Value) : Agrees shape value value
  | record {model : String} {fields : List (String × Shape)}
      {given other : List (String × Value)}
      (hpresent : ∀ field ∈ fields,
        (Value.field? field.1 given).isSome
          = (Value.field? field.1 other).isSome)
      (hagrees : ∀ field ∈ fields, ∀ found found',
        Value.field? field.1 given = some found →
        Value.field? field.1 other = some found' →
        Agrees field.2 found found') :
      Agrees (.record model fields) (.record given) (.record other)

/-- The fault is one of the datum. -/
inductive Blames : Shape → Value → Fault → Prop
  | leaf {own : Leaf} {value : Value} {cause : FaultCause}
      (h : own.rule value = .fail cause value) :
      Blames (.leaf own) value ⟨cause, [], value⟩
  | noRecord {model : String} {fields : List (String × Shape)} {value : Value}
      (h : ∀ given, value ≠ .record given) :
      Blames (.record model fields) value ⟨.modelType model, [], value⟩
  | missing {model : String} {fields : List (String × Shape)}
      {given : List (String × Value)} {field : String × Shape}
      (hmem : field ∈ fields) (h : Value.field? field.1 given = none) :
      Blames (.record model fields) (.record given)
        ⟨.missing, [field.1], .record given⟩
  | within {model : String} {fields : List (String × Shape)}
      {given : List (String × Value)} {field : String × Shape} {found : Value}
      {fault : Fault} (hmem : field ∈ fields)
      (hfound : Value.field? field.1 given = some found)
      (h : Blames field.2 found fault) :
      Blames (.record model fields) (.record given) (fault.under field.1)

variable {shape : Shape} {model : String} {fields : List (String × Shape)}
  {given other outs : List (String × Value)} {value out : Value} {fault : Fault}

/-- A truth value is whatever counts as one. -/
theorem fits_flag_iff :
    (Shape.leaf .flag).Fits value ↔ ∃ b, Rule.CountsAs value b := by
  constructor
  · intro h
    cases h with
    | leaf hout =>
        obtain ⟨b, hflag, -⟩ := Validated.map_eq_valid_iff.1 hout
        exact ⟨b, Rule.flag_eq_valid_iff.1 hflag⟩
  · intro h
    obtain ⟨b, hcounts⟩ := h
    have hflag := Rule.flag_eq_valid_iff.2 hcounts
    exact .leaf (Validated.map_eq_valid_iff.2 ⟨b, hflag, rfl⟩)

-- =============================================================== fields

/-- A field of a record is there and taken as a field of another. -/
def IsTaken (given : List (String × Value)) (field : String × Shape)
    (out : String × Value) : Prop :=
  out.1 = field.1 ∧ ∃ found, Value.field? field.1 given = some found
    ∧ field.2.check found = .valid out.2

/-- What is written of a record has an entry for each declared field, in
order. -/
theorem checkFields_eq_valid_iff :
    checkFields fields (.record given) = .valid outs
      ↔ List.Forall₂ (IsTaken given) fields outs := by
  -- along the declared fields, each of which writes the next entry
  induction fields generalizing outs with
  | nil =>
      rw [List.forall₂_nil_left_iff]
      constructor
      · intro h
        cases h
        rfl
      · intro h
        rw [h]
        rfl
  | cons field rest ih =>
      obtain ⟨name, shape⟩ := field
      show Validated.andThen _ _ = _ ↔ _
      rw [Validated.andThen_eq_valid_iff, List.forall₂_cons_left_iff]
      constructor
      · intro h
        obtain ⟨put, tail, hput, htail, rfl⟩ := h
        obtain ⟨out, hout, rfl⟩ := Validated.map_eq_valid_iff.1 hput
        obtain ⟨_, found, heq, hfield, hcheck⟩ :=
          Rule.required_eq_valid_iff.1 hout
        cases heq
        exact ⟨(name, out), tail, ⟨rfl, found, hfield, hcheck⟩, ih.1 htail, rfl⟩
      · intro h
        obtain ⟨⟨_, out⟩, tail, ⟨rfl, found, hfield, hcheck⟩, htail, rfl⟩ := h
        refine ⟨_, tail, Validated.map_eq_valid_iff.2 ⟨out, ?_, rfl⟩,
          ih.2 htail, rfl⟩
        exact Rule.required_eq_valid_iff.2 ⟨given, found, rfl, hfield, hcheck⟩

/-- Only a record passes as one, and it passes field by field. -/
theorem check_record_eq_valid_iff :
    (Shape.record model fields).check value = .valid out
      ↔ ∃ given outs, value = .record given ∧ out = .record outs
          ∧ List.Forall₂ (IsTaken given) fields outs := by
  cases value with
  | record given =>
      refine Validated.map_eq_valid_iff.trans ⟨?_, ?_⟩
      · intro h
        obtain ⟨outs, houts, rfl⟩ := h
        exact ⟨given, outs, rfl, rfl, checkFields_eq_valid_iff.1 houts⟩
      · intro h
        obtain ⟨_, outs, heq, rfl, houts⟩ := h
        cases heq
        exact ⟨outs, checkFields_eq_valid_iff.2 houts, rfl⟩
  | _ =>
      refine ⟨nofun, ?_⟩
      intro h
      obtain ⟨_, _, heq, -⟩ := h
      cases heq

/-- The faults of the fields stand one behind the other, and none of
them is left out because of another. -/
theorem faults_checkFields (fields : List (String × Shape)) (value : Value) :
    (checkFields fields value).faults
      = fields.flatMap fun field =>
          (Rule.required field.1 field.2.check value).faults := by
  induction fields with
  | nil => rfl
  | cons field rest ih =>
      show (Validated.andThen _ _).faults = _
      rw [Validated.faults_andThen, Validated.faults_map, ih, List.flatMap_cons]

/-- A record has the faults of its fields, and none of its own. -/
theorem faults_check_record (given : List (String × Value)) :
    ((Shape.record model fields).check (.record given)).faults
      = fields.flatMap fun field =>
          (Rule.required field.1 field.2.check (.record given)).faults := by
  show (Validated.map _ _).faults = _
  rw [Validated.faults_map, faults_checkFields]

/-- A field is founded if every datum of it is. -/
theorem isFounded_required {rule : Rule Value}
    (h : ∀ value, (rule value).IsFounded) (name : String)
    (given : List (String × Value)) :
    (Rule.required name rule (.record given)).IsFounded := by
  rcases hfield : Value.field? name given with - | found
  · rw [Rule.required_of_none hfield]
    exact nofun
  · rw [Rule.required_of_some hfield]
    exact (h found).under name

/-- What is not valid has a fault. -/
theorem isFounded_check (shape : Shape) :
    ∀ value, (shape.check value).IsFounded := by
  induction shape using induct with
  | leaf own => exact own.isWhole.isFounded
  | record model fields ih =>
      intro value
      cases value with
      | record given =>
          refine Validated.IsFounded.map ?_ _
          induction fields with
          | nil => exact nofun
          | cons field rest hrest =>
              obtain ⟨hfield, hfields⟩ := List.forall_mem_cons.1 ih
              exact ((isFounded_required hfield _ _).map _).andThen
                (hrest hfields)
      | _ => exact nofun

-- ========================================================= completeness

/-- Fields pass together exactly if each passes by itself. -/
theorem exists_valid_checkFields_iff :
    (∃ outs, checkFields fields (.record given) = .valid outs)
      ↔ ∀ field ∈ fields, ∃ found, Value.field? field.1 given = some found
          ∧ ∃ out, field.2.check found = .valid out := by
  induction fields with
  | nil => exact iff_of_true ⟨[], rfl⟩ (List.forall_mem_nil _)
  | cons field rest ih =>
      rw [List.forall_mem_cons, ← ih]
      simp only [checkFields_eq_valid_iff, List.forall₂_cons_left_iff]
      constructor
      · intro h
        obtain ⟨_, out, tail, ⟨-, found, hfield, hcheck⟩, htail, -⟩ := h
        exact ⟨⟨found, hfield, out.2, hcheck⟩, tail, htail⟩
      · intro h
        obtain ⟨⟨found, hfield, out, hcheck⟩, tail, htail⟩ := h
        exact ⟨_, (field.1, out), tail,
          ⟨rfl, found, hfield, hcheck⟩, htail, rfl⟩

/-- And the record passes with them. -/
theorem exists_valid_check_record_iff :
    (∃ out, (Shape.record model fields).check (.record given) = .valid out)
      ↔ ∀ field ∈ fields, ∃ found, Value.field? field.1 given = some found
          ∧ ∃ out, field.2.check found = .valid out := by
  rw [← exists_valid_checkFields_iff]
  constructor
  · intro h
    obtain ⟨out, hout⟩ := h
    obtain ⟨outs, houts, -⟩ := Validated.map_eq_valid_iff.1 hout
    exact ⟨outs, houts⟩
  · intro h
    obtain ⟨outs, houts⟩ := h
    exact ⟨.record outs, Validated.map_eq_valid_iff.2 ⟨outs, houts, rfl⟩⟩

/-- A datum passes exactly if every declared field is there and is valid
by itself. -/
theorem exists_valid_iff_fits (shape : Shape) :
    ∀ value, (∃ out, shape.check value = .valid out) ↔ shape.Fits value := by
  induction shape using induct with
  | leaf own =>
      intro value
      constructor
      · intro h
        obtain ⟨out, hout⟩ := h
        exact .leaf hout
      · intro h
        cases h with
        | leaf hout => exact ⟨_, hout⟩
  | record model fields ih =>
      intro value
      cases value with
      | record given =>
          rw [exists_valid_check_record_iff]
          constructor
          · intro h
            refine .record ?_ ?_
            · intro field hmem
              obtain ⟨found, hfound, -⟩ := h field hmem
              exact ⟨found, hfound⟩
            · intro field hmem found hfound
              obtain ⟨other, hother, hvalid⟩ := h field hmem
              rw [hfound] at hother
              cases hother
              exact (ih field hmem found).1 hvalid
          · intro h
            cases h with
            | record hpresent hfits =>
                intro field hmem
                obtain ⟨found, hfound⟩ := hpresent field hmem
                exact ⟨found, hfound,
                  (ih field hmem found).2 (hfits field hmem found hfound)⟩
      | _ =>
          refine iff_of_false ?_ nofun
          intro h
          obtain ⟨out, hout⟩ := h
          cases hout

-- =============================================================== places

theorem nil_mem_places (shape : Shape) : [] ∈ shape.places := by
  cases shape with
  | leaf own => exact List.mem_singleton_self _
  | record model fields => exact List.mem_cons_self

/-- The faults in a field stand at the places of the field, if those in
its datum do. -/
theorem sublist_places_required {name : String} {shape : Shape}
    (h : ∀ value, ((shape.check value).faults.map Fault.path).Sublist
      shape.places) :
    ((Rule.required name shape.check (.record given)).faults.map
      Fault.path).Sublist (shape.places.map (name :: ·)) := by
  rcases hfield : Value.field? name given with - | found
  · rw [Rule.required_of_none hfield]
    exact List.singleton_sublist.2
      (List.mem_map.2 ⟨[], nil_mem_places shape, rfl⟩)
  · rw [Rule.required_of_some hfield, Validated.faults_under, List.map_map]
    have hpath : (Fault.path : Fault → List String) ∘ Fault.under name
        = (name :: ·) ∘ Fault.path := rfl
    rw [hpath, ← List.map_map]
    exact (h found).map _

/-- Faults stand at places of the declaration, in its order. -/
theorem sublist_places (shape : Shape) :
    ∀ value, ((shape.check value).faults.map Fault.path).Sublist
      shape.places := by
  induction shape using induct with
  | leaf own =>
      intro value
      rcases own.isWhole value with ⟨out, hvalid⟩ | ⟨cause, hfail⟩
      · simp only [check, hvalid]
        exact List.nil_sublist _
      · simp only [check, hfail]
        exact List.Sublist.refl _
  | record model fields ih =>
      intro value
      cases value with
      | record given =>
          rw [faults_check_record]
          refine List.Sublist.cons _ ?_
          induction fields with
          | nil => exact List.Sublist.refl _
          | cons field rest hrest =>
              obtain ⟨hfield, hfields⟩ := List.forall_mem_cons.1 ih
              rw [List.flatMap_cons, List.map_append]
              exact (sublist_places_required hfield).append (hrest hfields)
      | _ => exact List.singleton_sublist.2 (nil_mem_places _)

/-- What is found wrong with a field of a record. -/
theorem mem_faults_required_iff {field : String × Shape} :
    fault ∈ (Rule.required field.1 field.2.check (.record given)).faults
      ↔ (Value.field? field.1 given = none
        ∧ fault = ⟨.missing, [field.1], .record given⟩)
        ∨ ∃ found inner, Value.field? field.1 given = some found
            ∧ inner ∈ (field.2.check found).faults
              ∧ inner.under field.1 = fault := by
  rcases hfield : Value.field? field.1 given with - | found
  · rw [Rule.required_of_none hfield]
    simp [Validated.faults]
  · rw [Rule.required_of_some hfield, Validated.faults_under, List.mem_map]
    simp

/-- The faults of a datum are those that it is to blame for, and no others. -/
theorem mem_faults_iff (shape : Shape) :
    ∀ value fault, fault ∈ (shape.check value).faults
      ↔ shape.Blames value fault := by
  induction shape using induct with
  | leaf own =>
      intro value fault
      rcases own.isWhole value with ⟨out, hvalid⟩ | ⟨cause, hfail⟩
      · refine iff_of_false ?_ ?_
        · simp only [check, hvalid]
          exact List.not_mem_nil
        · intro h
          cases h with
          | leaf hfail =>
              rw [hvalid] at hfail
              cases hfail
      · constructor
        · intro h
          simp only [check, hfail] at h
          cases List.mem_singleton.1 h
          exact .leaf hfail
        · intro h
          cases h with
          | leaf hother =>
              simp only [check, hother]
              exact List.mem_singleton_self _
  | record model fields ih =>
      intro value fault
      cases value with
      | record given =>
          rw [faults_check_record, List.mem_flatMap]
          constructor
          · intro h
            obtain ⟨field, hmem, hfault⟩ := h
            rcases mem_faults_required_iff.1 hfault
              with ⟨hnone, rfl⟩ | ⟨found, inner, hfound, hinner, rfl⟩
            · exact .missing hmem hnone
            · exact .within hmem hfound ((ih field hmem found inner).1 hinner)
          · intro h
            cases h with
            | noRecord hno => exact absurd rfl (hno given)
            | missing hmem hnone =>
                exact ⟨_, hmem, mem_faults_required_iff.2 (Or.inl ⟨hnone, rfl⟩)⟩
            | within hmem hfound hinner =>
                refine ⟨_, hmem, mem_faults_required_iff.2
                  (Or.inr ⟨_, _, hfound, ?_, rfl⟩)⟩
                exact (ih _ hmem _ _).2 hinner
      | _ =>
          constructor
          · intro h
            cases List.mem_singleton.1 h
            exact .noRecord nofun
          · intro h
            cases h with
            | noRecord _ => exact List.mem_singleton_self _

-- ============================================================= outputs

/-- No two places of a declaration are the same. -/
def IsDistinct (shape : Shape) : Prop := shape.places.Nodup

/-- Every declared field is a place. -/
theorem singleton_mem_placesOf {field : String × Shape} (h : field ∈ fields) :
    [field.1] ∈ placesOf fields := by
  induction fields with
  | nil => cases h
  | cons first rest ih =>
      refine List.mem_append.2 ?_
      rcases List.mem_cons.1 h with rfl | hmem
      · exact Or.inl (List.mem_map.2 ⟨[], nil_mem_places _, rfl⟩)
      · exact Or.inr (ih hmem)

/-- The fields of a record have names of their own, and no field has two
places that are the same. -/
theorem IsDistinct.of_record (h : (Shape.record model fields).IsDistinct) :
    (fields.map Prod.fst).Nodup ∧ ∀ field ∈ fields, field.2.IsDistinct := by
  have hplaces : (placesOf fields).Nodup := (List.nodup_cons.1 h).2
  clear h
  induction fields with
  | nil => exact ⟨List.nodup_nil, List.forall_mem_nil _⟩
  | cons field rest ih =>
      obtain ⟨hown, hrest, hapart⟩ := List.nodup_append'.1 hplaces
      obtain ⟨hnames, hdistinct⟩ := ih hrest
      refine ⟨List.nodup_cons.2 ⟨?_, hnames⟩,
        List.forall_mem_cons.2 ⟨hown.of_map, hdistinct⟩⟩
      intro hmem
      obtain ⟨other, hother, hname⟩ := List.mem_map.1 hmem
      refine hapart (List.mem_map.2 ⟨[], nil_mem_places _, rfl⟩) ?_
      rw [← hname]
      exact singleton_mem_placesOf hother

theorem names_of_isTaken (h : List.Forall₂ (IsTaken given) fields outs) :
    outs.map Prod.fst = fields.map Prod.fst := by
  induction h with
  | nil => rfl
  | cons hfirst _ ih => rw [List.map_cons, List.map_cons, hfirst.1, ih]

/-- Where names are not used twice, an entry is found by its name. -/
theorem field?_of_mem {name : String} (hnames : (given.map Prod.fst).Nodup)
    (hmem : (name, value) ∈ given) : Value.field? name given = some value := by
  induction given with
  | nil => cases hmem
  | cons entry rest ih =>
      obtain ⟨other, first⟩ := entry
      obtain ⟨hother, hrest⟩ := List.nodup_cons.1 hnames
      unfold Value.field?
      rcases List.mem_cons.1 hmem with heq | hmem
      · cases heq
        exact List.lookup_cons_self
      · have hne : name ≠ other := by
          intro heq
          rw [heq] at hmem
          exact hother (List.mem_map.2 ⟨_, hmem, rfl⟩)
        rw [List.lookup_cons, beq_false_of_ne hne]
        exact ih hrest hmem

theorem mem_of_field? {name : String}
    (h : Value.field? name given = some value) : (name, value) ∈ given := by
  obtain ⟨before, after, rfl, -⟩ := List.lookup_eq_some_iff.1 h
  exact List.mem_append_right before List.mem_cons_self

/-- An entry that is written comes from a field. -/
theorem exists_field_of_mem {entry : String × Value}
    (h : List.Forall₂ (IsTaken given) fields outs) (hmem : entry ∈ outs) :
    ∃ field ∈ fields, IsTaken given field entry := by
  induction h with
  | nil => cases hmem
  | cons hfirst _ ih =>
      rcases List.mem_cons.1 hmem with rfl | hmem
      · exact ⟨_, List.mem_cons_self, hfirst⟩
      · obtain ⟨field, hfield, htaken⟩ := ih hmem
        exact ⟨field, List.mem_cons_of_mem _ hfield, htaken⟩

/-- What is written has the declared fields and no others. -/
theorem isForm_of_valid (shape : Shape) : shape.IsDistinct →
    ∀ {value out : Value}, shape.check value = .valid out →
      shape.IsForm out := by
  induction shape using induct with
  | leaf own =>
      intro _ value out _
      exact .leaf own out
  | record model fields ih =>
      intro hdistinct value out h
      obtain ⟨given, outs, rfl, rfl, htaken⟩ := check_record_eq_valid_iff.1 h
      obtain ⟨hnames, hfields⟩ := IsDistinct.of_record hdistinct
      refine .record (names_of_isTaken htaken) ?_
      intro field hmem out hout
      -- the entry was written for a field of its name, and there is
      -- only one
      obtain ⟨other, hother, hname, found, -, hcheck⟩ :=
        exists_field_of_mem htaken (mem_of_field? hout)
      have hsame : field = other :=
        List.inj_on_of_nodup_map hnames hmem hother hname
      rw [← hsame] at hcheck
      exact ih field hmem (hfields field hmem) hcheck

/-- Fields that are taken from one record are taken from another, if
each of them is. -/
theorem forall₂_isTaken_of_mem (h : List.Forall₂ (IsTaken given) fields outs)
    (hother : ∀ field ∈ fields, ∀ entry ∈ outs, IsTaken given field entry →
      IsTaken other field entry) :
    List.Forall₂ (IsTaken other) fields outs := by
  obtain ⟨hlength, hzip⟩ := List.forall₂_iff_zip.1 h
  refine List.forall₂_iff_zip.2 ⟨hlength, ?_⟩
  intro field entry hpair
  obtain ⟨hfield, hentry⟩ := List.of_mem_zip hpair
  exact hother field hfield entry hentry (hzip hpair)

/-- What is written is taken for itself. -/
theorem check_of_valid (shape : Shape) : shape.IsDistinct →
    ∀ {value out : Value}, shape.check value = .valid out →
      shape.check out = .valid out := by
  induction shape using induct with
  | leaf own =>
      intro _ value out h
      exact own.stable h
  | record model fields ih =>
      intro hdistinct value out h
      obtain ⟨given, outs, rfl, rfl, htaken⟩ := check_record_eq_valid_iff.1 h
      obtain ⟨hnames, hfields⟩ := IsDistinct.of_record hdistinct
      refine check_record_eq_valid_iff.2 ⟨outs, outs, rfl, rfl, ?_⟩
      refine forall₂_isTaken_of_mem htaken ?_
      intro field hmem entry hentry hentryTaken
      obtain ⟨hname, found, -, hcheck⟩ := hentryTaken
      refine ⟨hname, entry.2, ?_, ih field hmem (hfields field hmem) hcheck⟩
      rw [← names_of_isTaken htaken] at hnames
      rw [← hname]
      exact field?_of_mem hnames hentry

-- ========================================================== agreement

/-- Data agree both ways. -/
theorem Agrees.symm (h : shape.Agrees value out) : shape.Agrees out value := by
  induction h with
  | refl shape value => exact .refl shape value
  | record hpresent _ ih =>
      refine .record (fun field hmem => (hpresent field hmem).symm) ?_
      intro field hmem found found' hfound hfound'
      exact ih field hmem found' found hfound' hfound

/-- What is written of a datum is written of every datum that agrees with it. -/
theorem valid_of_agrees (shape : Shape) : ∀ {value other out : Value},
    shape.Agrees value other → shape.check value = .valid out →
      shape.check other = .valid out := by
  induction shape using induct with
  | leaf own =>
      intro value other out hagrees h
      cases hagrees
      exact h
  | record model fields ih =>
      intro value other out hagrees h
      cases hagrees with
      | refl => exact h
      | @record _ _ given other hpresent hagrees =>
          obtain ⟨_, outs, heq, rfl, htaken⟩ := check_record_eq_valid_iff.1 h
          cases heq
          refine check_record_eq_valid_iff.2 ⟨other, outs, rfl, rfl, ?_⟩
          refine forall₂_isTaken_of_mem htaken ?_
          intro field hmem entry _ hentryTaken
          obtain ⟨hname, found, hfound, hcheck⟩ := hentryTaken
          have hsome := hpresent field hmem
          rw [hfound] at hsome
          obtain ⟨found', hfound'⟩ := Option.isSome_iff_exists.1 hsome.symm
          exact ⟨hname, found', hfound',
            ih field hmem (hagrees field hmem found found' hfound hfound')
              hcheck⟩

/-- Data that agree pass or fail together, and what is written of them
is one. -/
theorem valid_iff_of_agrees {value other : Value}
    (h : shape.Agrees value other) (out : Value) :
    shape.check value = .valid out ↔ shape.check other = .valid out :=
  ⟨valid_of_agrees shape h, valid_of_agrees shape h.symm⟩

/-- Records in which the declared fields are the same agree. -/
theorem agrees_of_field? (h : ∀ field ∈ fields,
    Value.field? field.1 given = Value.field? field.1 other) :
    (Shape.record model fields).Agrees (.record given) (.record other) := by
  refine .record (fun field hmem => by rw [h field hmem]) ?_
  intro field hmem found found' hfound hfound'
  rw [h field hmem, hfound'] at hfound
  cases hfound
  exact .refl _ _

/-- The order of fields makes no difference. -/
theorem agrees_of_perm (hnames : (given.map Prod.fst).Nodup)
    (h : given.Perm other) :
    (Shape.record model fields).Agrees (.record given) (.record other) := by
  have hnames' : (other.map Prod.fst).Nodup :=
    (h.map Prod.fst).nodup_iff.1 hnames
  refine agrees_of_field? ?_
  intro field _
  refine Option.ext fun found => ⟨?_, ?_⟩
  · intro hfound
    exact field?_of_mem hnames' (h.mem_iff.1 (mem_of_field? hfound))
  · intro hfound
    exact field?_of_mem hnames (h.mem_iff.2 (mem_of_field? hfound))

/-- A field that is not declared makes no difference. -/
theorem agrees_of_undeclared {name : String} (h : name ∉ fields.map Prod.fst) :
    (Shape.record model fields).Agrees (.record ((name, value) :: given))
      (.record given) := by
  refine agrees_of_field? ?_
  intro field hmem
  have hne : field.1 ≠ name := by
    intro heq
    exact h (List.mem_map.2 ⟨field, hmem, heq⟩)
  unfold Value.field?
  rw [List.lookup_cons, beq_false_of_ne hne]

end Shape

end StatelessAuth
