/-
What is looked at for a setting, and what is wrong with it.

# What wins

What wins for a setting is told without any look-up
(`SettingsSource.Wins`): the argument of its exact name, or else the
first argument of its name in another case, or else the variable of its
name in any case, or else nothing. Where no argument is given twice and
no two variables have one name but for the case, this is what is looked
at (`wins_iff`), and nothing else is.

# What is wrong

Each setting is judged by itself, and at most one thing is wrong with
it: it is missing, or what won for it does not fit
(`Declaration.Fails`). `Judged` goes through declared settings in their
order.
-/
import Mathlib.Data.List.Pairwise
import StatelessAuth.Proofs.Settings.Loading

namespace StatelessAuth

open Text

-- ============================================================= sources

namespace SettingsSource

variable {α : Type} {source : SettingsSource} {name : String}
  {given : Option Value}

/-- No argument is given twice, and no two variables have names that
differ at most in case. -/
structure IsDistinct (source : SettingsSource) : Prop where
  arguments : (source.arguments.map Prod.fst).Nodup
  environment : source.environment.entries.Pairwise fun entry other =>
    ¬ sameName entry.1 other.1 = true

/-- No argument has the name, in whatever case. -/
def Lacks (source : SettingsSource) (name : String) : Prop :=
  ∀ entry ∈ source.arguments, ¬ sameName entry.1 name = true

instance (source : SettingsSource) (name : String) :
    Decidable (source.Lacks name) :=
  inferInstanceAs (Decidable
    (∀ entry ∈ source.arguments, ¬ sameName entry.1 name = true))

/-- What wins for a setting: a datum, or nothing. -/
inductive Wins (source : SettingsSource) (name : String) : Option Value → Prop
  | exact {value : Value} (h : (name, value) ∈ source.arguments) :
      Wins source name (some value)
  | otherCase {before after : List (String × Value)} {other : String}
      {value : Value} (hexact : ∀ value, (name, value) ∉ source.arguments)
      (hsplit : source.arguments = before ++ (other, value) :: after)
      (hsame : sameName other name = true)
      (hfirst : ∀ entry ∈ before, ¬ sameName entry.1 name = true) :
      Wins source name (some value)
  | ofEnvironment {other text : String} (hlacks : source.Lacks name)
      (hentry : (other, text) ∈ source.environment.entries)
      (hsame : sameName other ("SERVICE_" ++ name) = true) :
      Wins source name (some (.text text))
  | nothing (hlacks : source.Lacks name)
      (hunset : ∀ entry ∈ source.environment.entries,
        ¬ sameName entry.1 ("SERVICE_" ++ name) = true) :
      Wins source name none

theorem sameName_iff {a b : String} :
    sameName a b = true ↔ lower a = lower b := by
  rw [sameName, beq_iff_eq]

/-- Nothing but what wins is looked at: what is looked at has won. -/
theorem wins_given? (source : SettingsSource) (name : String) :
    source.Wins name (source.given? name) := by
  unfold given? argument?
  -- the look-ups in their order: the exact name, the name in another
  -- case, and the variable
  cases hexact : Value.field? name source.arguments with
  | some value =>
      obtain ⟨before, after, hsplit, -⟩ := List.lookup_eq_some_iff.1 hexact
      refine .exact ?_
      rw [hsplit]
      exact List.mem_append_right _ List.mem_cons_self
  | none =>
      cases hcase : source.arguments.find? fun entry =>
        sameName entry.1 name with
      | some entry =>
          obtain ⟨hsame, before, after, hsplit, hfirst⟩ :=
            List.find?_eq_some_iff_append.1 hcase
          refine .otherCase ?_ hsplit hsame (by simpa using hfirst)
          intro value hmem
          have hne := List.lookup_eq_none_iff.1 hexact (name, value) hmem
          simp at hne
      | none =>
          have hlacks : source.Lacks name := List.find?_eq_none.1 hcase
          unfold Environment.find?
          cases hvariable : source.environment.entries.reverse.find?
              fun entry => sameName entry.1 ("SERVICE_" ++ name) with
          | some entry =>
              exact .ofEnvironment hlacks
                (List.mem_reverse.1 (List.mem_of_find?_eq_some hvariable))
                (List.find?_eq_some_iff_append.1 hvariable).1
          | none =>
              refine .nothing hlacks fun entry hmem => ?_
              exact List.find?_eq_none.1 hvariable entry
                (List.mem_reverse.2 hmem)

/-- Where no argument has the name in any case, neither of the two
look-ups finds one. -/
theorem argument?_of_lacks (h : source.Lacks name) :
    source.argument? name = none := by
  have hexact : Value.field? name source.arguments = none := by
    refine List.lookup_eq_none_iff.2 fun entry hmem => ?_
    rw [bne_iff_ne]
    intro heq
    exact h entry hmem (sameName_iff.2 (by rw [heq]))
  have hcase : source.arguments.find?
      (fun entry => sameName entry.1 name) = none :=
    List.find?_eq_none.2 h
  unfold argument?
  simp only [hexact]
  rw [Option.map_eq_none_iff]
  exact hcase

/-- Of variables with distinct names only one can be found. -/
theorem find?_of_mem {environment : Environment} {other text : String}
    (h : environment.entries.Pairwise fun entry other =>
      ¬ sameName entry.1 other.1 = true)
    (hentry : (other, text) ∈ environment.entries)
    (hsame : sameName other name = true) :
    environment.find? name = some text := by
  have hsymm : Std.Symm fun entry other : String × String =>
      ¬ sameName entry.1 other.1 = true :=
    ⟨fun entry other hne hsame =>
      hne (sameName_iff.2 (sameName_iff.1 hsame).symm)⟩
  unfold Environment.find?
  cases hfound : environment.entries.reverse.find? fun entry =>
    sameName entry.1 name with
  | none =>
      exact absurd hsame
        (List.find?_eq_none.1 hfound (other, text) (List.mem_reverse.2 hentry))
  | some entry =>
      have hmem := List.mem_reverse.1 (List.mem_of_find?_eq_some hfound)
      have hname := (List.find?_eq_some_iff_append.1 hfound).1
      by_cases heq : entry = (other, text)
      · rw [heq]
        rfl
      · have hdiffer := h.forall hmem hentry heq
        exact absurd (sameName_iff.2
          ((sameName_iff.1 hname).trans (sameName_iff.1 hsame).symm)) hdiffer

/-- Of distinct names at most one thing wins. -/
theorem given?_of_wins (h : source.IsDistinct)
    (hwins : source.Wins name given) :
    source.given? name = given := by
  cases hwins with
  | @exact value hmem =>
      apply given?_of_argument
      obtain ⟨before, after, hsplit⟩ := List.append_of_mem hmem
      refine List.lookup_eq_some_iff.2
        ⟨before, after, hsplit, fun entry hentry => ?_⟩
      rw [bne_iff_ne]
      intro heq
      have hnodup := h.arguments
      rw [hsplit, List.map_append, List.map_cons, List.nodup_append] at hnodup
      exact hnodup.2.2 entry.1 (List.mem_map_of_mem hentry)
        name List.mem_cons_self heq.symm
  | @otherCase before after other value hexact hsplit hsame hfirst =>
      have hnone : Value.field? name source.arguments = none := by
        refine List.lookup_eq_none_iff.2 fun entry hmem => ?_
        rw [bne_iff_ne]
        intro heq
        refine hexact entry.2 ?_
        rw [heq]
        exact hmem
      have hcase : source.arguments.find? (fun entry => sameName entry.1 name)
          = some (other, value) :=
        List.find?_eq_some_iff_append.2
          ⟨hsame, before, after, hsplit, by simpa using hfirst⟩
      have hargument : source.argument? name = some value := by
        unfold argument?
        simp only [hnone]
        rw [Option.map_eq_some_iff]
        exact ⟨(other, value), hcase, rfl⟩
      unfold given?
      rw [hargument]
  | @ofEnvironment other text hlacks hentry hsame =>
      unfold given?
      rw [argument?_of_lacks hlacks]
      simp only
      rw [find?_of_mem h.environment hentry hsame]
      rfl
  | nothing hlacks hunset =>
      unfold given?
      rw [argument?_of_lacks hlacks]
      simp only
      rw [Environment.find?, List.find?_eq_none.2]
      · rfl
      · intro entry hmem
        exact hunset entry (List.mem_reverse.1 hmem)

/-- What wins for a setting is what is given for it. -/
theorem wins_iff (h : source.IsDistinct) : source.Wins name given
    ↔ source.given? name = given := by
  constructor
  · exact given?_of_wins h
  · intro hgiven
    rw [← hgiven]
    exact wins_given? source name

-- -------------------------------------------------------------- values

variable {other : SettingsSource} {rule : Rule α}

/-- A setting takes a value: what won for it by its rule, or its default
if nothing did. -/
def Takes (source : SettingsSource) (name : String) (rule : Rule α)
    (default : Option α) (result : α) : Prop :=
  (∃ value, source.Wins name (some value) ∧ rule value = .valid result)
    ∨ (source.Wins name none ∧ default = some result)

/-- What a setting takes is told by what wins for it. -/
theorem Takes.of_wins {default : Option α} {result : α}
    (h : source.Takes name rule default result)
    (hwins : ∀ given, source.Wins name given ↔ other.Wins name given) :
    other.Takes name rule default result := by
  rcases h with ⟨value, hvalue, hrule⟩ | ⟨hnothing, hdefault⟩
  · exact Or.inl ⟨value, (hwins _).1 hvalue, hrule⟩
  · exact Or.inr ⟨(hwins _).1 hnothing, hdefault⟩

/-- A setting with a default is what it takes. -/
theorem setting_eq_valid_iff (h : source.IsDistinct) {default result : α} :
    source.setting name rule default = .valid result
      ↔ source.Takes name rule (some default) result := by
  simp only [Takes, wins_iff h]
  unfold setting
  cases source.given? name with
  | some value => simp [Validated.under_eq_valid_iff]
  | none => simp

/-- The same if what is taken is made into something else. -/
theorem map_setting_eq_valid_iff {β : Type} (h : source.IsDistinct)
    {f : α → β} {default : α} {result : β} :
    (source.setting name rule default).map f = .valid result
      ↔ ∃ x, result = f x ∧ source.Takes name rule (some default) x := by
  simp only [Validated.map_eq_valid_iff, setting_eq_valid_iff h]
  constructor
  · rintro ⟨x, htakes, rfl⟩
    exact ⟨x, rfl, htakes⟩
  · rintro ⟨x, rfl, htakes⟩
    exact ⟨x, htakes, rfl⟩

theorem required_eq_valid_iff_takes (h : source.IsDistinct) {result : α} :
    source.required name rule = .valid result
      ↔ source.Takes name rule none result := by
  simp [Takes, wins_iff h, required_eq_valid_iff]

/-- A setting that does not fit says why. -/
theorem isFounded_setting (h : rule.IsWhole) (source : SettingsSource)
    (name : String) (default : α) :
    (source.setting name rule default).IsFounded := by
  unfold setting
  cases source.given? name with
  | some value => exact (h.isFounded value).under name
  | none => exact nofun

/-- So does one that is missing. -/
theorem isFounded_required (h : rule.IsWhole) (source : SettingsSource)
    (name : String) :
    (source.required name rule).IsFounded := by
  unfold required
  cases source.given? name with
  | some value => exact (h.isFounded value).under name
  | none => exact nofun

end SettingsSource

-- ======================================================== declarations

/-- A key is wrong as a whole or not at all. -/
theorem Key.isWhole_rule : rule.IsWhole := by
  intro value
  unfold rule
  split
  case h_1 => exact Or.inr ⟨_, rfl⟩
  case h_2 => exact Or.inr ⟨_, rfl⟩
  case h_3 first rest _ => exact Or.inl ⟨.bytes (first :: rest), rfl⟩

/-- What a setting has to be. -/
inductive SettingKind
  | text
  | key
  | number
  deriving DecidableEq, Repr

namespace SettingKind

/-- A datum is not of the kind, for this cause. -/
def Rejects : SettingKind → Value → FaultCause → Prop
  | text, value, cause => Rule.text value = .fail cause value
  | key, value, cause => Key.rule value = .fail cause value
  | number, value, cause => Rule.number value = .fail cause value

/-- The faults of a datum that is to be of the kind. -/
def faults : SettingKind → Value → List Fault
  | text, value => (Rule.text value).faults
  | key, value => (Key.rule value).faults
  | number, value => (Rule.number value).faults

/-- A datum is rejected for at most one cause, since a setting of each
kind is judged as a whole. -/
theorem faults_cases (kind : SettingKind) (value : Value) :
    (kind.faults value = [] ∧ ∀ cause, ¬ kind.Rejects value cause)
      ∨ ∃ cause, kind.faults value = [⟨cause, [], value⟩]
          ∧ ∀ other, kind.Rejects value other ↔ other = cause := by
  cases kind with
  | text => exact Rule.isWhole_text.faults_cases value
  | key => exact Key.isWhole_rule.faults_cases value
  | number => exact Rule.isWhole_number.faults_cases value

end SettingKind

/-- What is said of a fault: its cause, and the place. -/
def Fault.report (fault : Fault) : FaultCause × List String :=
  (fault.cause, fault.path)

/-- What is declared of a setting. -/
structure Declaration where
  name : String
  kind : SettingKind
  /-- It has no default. -/
  isRequired : Bool
  deriving DecidableEq, Repr

namespace Declaration

/-- What is wrong with a setting: it is missing, or what won for it does
not fit. -/
inductive Fails (declared : Declaration) (source : SettingsSource) :
    Fault → Prop
  | missing (hrequired : declared.isRequired = true)
      (hwins : source.Wins declared.name none) :
      Fails declared source
        ⟨.missing, [declared.name], .record source.arguments⟩
  | unfit {value : Value} {cause : FaultCause}
      (hwins : source.Wins declared.name (some value))
      (hrejects : declared.kind.Rejects value cause) :
      Fails declared source ⟨cause, [declared.name], value⟩

/-- The faults of a setting by what is given for it. -/
def faults (declared : Declaration) (source : SettingsSource) : List Fault :=
  match source.given? declared.name with
  | some value => (declared.kind.faults value).map (Fault.under declared.name)
  | none =>
      if declared.isRequired
        then [⟨.missing, [declared.name], .record source.arguments⟩] else []

variable {declared : Declaration} {source : SettingsSource}

/-- At most one thing is wrong with a setting. -/
theorem faults_cases (h : source.IsDistinct) (declared : Declaration) :
    (declared.faults source = [] ∧ ∀ fault, ¬ declared.Fails source fault)
      ∨ ∃ fault, declared.faults source = [fault]
          ∧ ∀ other, declared.Fails source other ↔ other = fault := by
  unfold faults
  cases hgiven : source.given? declared.name with
  | some value =>
      -- nothing else wins, so that the setting can fail in one way only
      have hwins {given : Option Value}
          (hother : source.Wins declared.name given) : given = some value :=
        (SettingsSource.given?_of_wins h hother).symm.trans hgiven
      rcases declared.kind.faults_cases value
        with ⟨hnone, hfits⟩ | ⟨cause, hone, hrejects⟩
      · left
        refine ⟨by simp [hnone], fun fault hfails => ?_⟩
        cases hfails with
        | missing _ hother => cases hwins hother
        | unfit hother hrejects =>
            cases hwins hother
            exact hfits _ hrejects
      · right
        refine ⟨⟨cause, [declared.name], value⟩, by simp [hone, Fault.under],
          fun other => ⟨?_, ?_⟩⟩
        · intro hfails
          cases hfails with
          | missing _ hother => cases hwins hother
          | unfit hother hcause =>
              cases hwins hother
              rw [(hrejects _).1 hcause]
        · rintro rfl
          exact .unfit ((SettingsSource.wins_iff h).2 hgiven)
            ((hrejects cause).2 rfl)
  | none =>
      have hwins {given : Option Value}
          (hother : source.Wins declared.name given) : given = none :=
        (SettingsSource.given?_of_wins h hother).symm.trans hgiven
      by_cases hrequired : declared.isRequired = true
      · right
        refine ⟨⟨.missing, [declared.name], .record source.arguments⟩,
          by simp [hrequired], fun other => ⟨?_, ?_⟩⟩
        · intro hfails
          cases hfails with
          | missing => rfl
          | unfit hother => cases hwins hother
        · rintro rfl
          exact .missing hrequired ((SettingsSource.wins_iff h).2 hgiven)
      · left
        refine ⟨by simp [hrequired], fun fault hfails => ?_⟩
        cases hfails with
        | missing htrue => exact hrequired htrue
        | unfit hother => cases hwins hother

/-- Nothing is reported of a setting exactly if nothing is wrong with
it. -/
theorem faults_eq_nil_iff (h : source.IsDistinct) :
    declared.faults source = [] ↔ ∀ fault, ¬ declared.Fails source fault := by
  rcases declared.faults_cases h with ⟨hnone, hfits⟩ | ⟨fault, hone, hfails⟩
  · exact iff_of_true hnone hfits
  · refine iff_of_false ?_ fun hfits => hfits fault ((hfails fault).2 rfl)
    rw [hone]
    exact List.cons_ne_nil _ _

/-- What is wrong with a setting is told by what wins for it. -/
theorem Fails.of_wins {other : SettingsSource} {fault : Fault}
    (h : declared.Fails source fault)
    (hwins : ∀ given, source.Wins declared.name given
      ↔ other.Wins declared.name given) :
    ∃ found, declared.Fails other found ∧ found.report = fault.report := by
  cases h with
  | missing hrequired hnothing =>
      exact ⟨_, .missing hrequired ((hwins _).1 hnothing), rfl⟩
  | unfit hvalue hrejects =>
      exact ⟨_, .unfit ((hwins _).1 hvalue) hrejects, rfl⟩

end Declaration

namespace SettingsSource

variable {α : Type} {rule : Rule α}

/-- A setting with a default reports what is wrong with it as it is declared. -/
theorem faults_setting (kind : SettingKind)
    (hkind : ∀ value, kind.faults value = (rule value).faults)
    (source : SettingsSource) (name : String) (default : α) :
    (source.setting name rule default).faults
      = Declaration.faults ⟨name, kind, false⟩ source := by
  unfold setting Declaration.faults
  simp only [hkind]
  cases source.given? name with
  | some value => exact Validated.faults_under _ _
  | none => rfl

/-- The same of a setting without one, which may be missing as well. -/
theorem faults_required (kind : SettingKind)
    (hkind : ∀ value, kind.faults value = (rule value).faults)
    (source : SettingsSource) (name : String) :
    (source.required name rule).faults
      = Declaration.faults ⟨name, kind, true⟩ source := by
  unfold required Declaration.faults
  simp only [hkind]
  cases source.given? name with
  | some value => exact Validated.faults_under _ _
  | none => rfl

end SettingsSource

/-- The faults of declared settings: one for each with which something
is wrong, in the order of the declarations. -/
inductive Judged (source : SettingsSource) :
    List Declaration → List Fault → Prop
  | nil : Judged source [] []
  | fits {declared : Declaration} {rest : List Declaration}
      {faults : List Fault} (h : ∀ fault, ¬ declared.Fails source fault)
      (hrest : Judged source rest faults) :
      Judged source (declared :: rest) faults
  | fails {declared : Declaration} {rest : List Declaration} {fault : Fault}
      {faults : List Fault} (h : declared.Fails source fault)
      (hrest : Judged source rest faults) :
      Judged source (declared :: rest) (fault :: faults)

/-- What is judged setting by setting is what is reported of all of
them. -/
theorem judged_iff {source : SettingsSource} (h : source.IsDistinct)
    {declarations : List Declaration} {faults : List Fault} :
    Judged source declarations faults
      ↔ faults = declarations.flatMap fun declared =>
          declared.faults source := by
  -- along the declarations, whose faults are reported one behind the
  -- other
  induction declarations generalizing faults with
  | nil =>
      constructor
      · rintro ⟨⟩
        rfl
      · rintro rfl
        exact .nil
  | cons declared rest ih =>
      rw [List.flatMap_cons]
      rcases declared.faults_cases h with ⟨hnone, hfits⟩ | ⟨fault, hone, hfails⟩
      · rw [hnone, List.nil_append, ← ih]
        constructor
        · intro hjudged
          cases hjudged with
          | fits _ hrest => exact hrest
          | fails hother => exact absurd hother (hfits _)
        · intro hrest
          exact .fits hfits hrest
      · rw [hone, List.singleton_append]
        constructor
        · intro hjudged
          cases hjudged with
          | fits hother => exact absurd ((hfails fault).2 rfl) (hother fault)
          | fails hother hrest => rw [(hfails _).1 hother, ih.1 hrest]
        · rintro rfl
          exact .fails ((hfails fault).2 rfl) (ih.2 rfl)

/-- The same is reported of declared settings for which the same wins. -/
theorem Judged.of_wins {source other : SettingsSource}
    {declarations : List Declaration} {faults : List Fault}
    (h : Judged source declarations faults)
    (hwins : ∀ declared ∈ declarations, ∀ given,
      source.Wins declared.name given ↔ other.Wins declared.name given) :
    ∃ found, Judged other declarations found
      ∧ found.map Fault.report = faults.map Fault.report := by
  induction h with
  | nil => exact ⟨[], .nil, rfl⟩
  | @fits declared rest faults hfits _ ih =>
      obtain ⟨found, hjudged, hreport⟩ :=
        ih fun d hmem => hwins d (List.mem_cons_of_mem _ hmem)
      refine ⟨found, .fits (fun fault hfails => ?_) hjudged, hreport⟩
      obtain ⟨fault', hfails', -⟩ :=
        hfails.of_wins fun given =>
          (hwins declared List.mem_cons_self given).symm
      exact hfits fault' hfails'
  | @fails declared rest fault faults hfails _ ih =>
      obtain ⟨found, hjudged, hreport⟩ :=
        ih fun d hmem => hwins d (List.mem_cons_of_mem _ hmem)
      obtain ⟨fault', hfails', hreport'⟩ :=
        hfails.of_wins (hwins declared List.mem_cons_self)
      exact ⟨fault' :: found, .fails hfails' hjudged,
        by simp [hreport, hreport']⟩

end StatelessAuth
