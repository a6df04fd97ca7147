/-
What a setup of the log that fails leaves behind.

# Setups that succeed

A setup succeeds if its name is that of a level (`NamesLevel`), and what it
installs does not depend on what was there (`setUp_of_namesLevel`). So after
setups that succeeded there is a sink, with one of the seven thresholds
(`exists_threshold`), and none of these is above a critical entry.

# Setups that fail

A text that names no level is refused when the old sink is gone already.
No entry is written from then on, however many setups fail after it,
until one succeeds (`setUp_of_unknown_level`). The calls themselves do
not tell: whether a call fails, and why, does not depend on the sink
(`record_none`). So what is installed is not as it was before, and an
entry that would have been written is lost (`critical_entry_lost`).

# Names of levels

An entry has the number of the level that was called for, and the name that this
has where calls are made (`Entry.ofLevel_eq`). Nothing is lost on the way to the
sink, because the levels that both sides name have the same number on both
(`handed_eq`). The other two levels of the sink are reached by number only, and
are written without their names.
-/
import StatelessAuth.Log.Sink

namespace StatelessAuth.Log

variable {sink : Sink} {name : Value} {content : String} {level : Nat}

-- ============================================================== levels

/-- The name is that of a level, in any case. -/
def NamesLevel (name : Value) : Prop :=
  ∃ content level, name = .text content ∧ threshold? content = some level

theorem threshold?_eq_none_iff :
    threshold? content = none
      ↔ ∀ entry ∈ thresholds, Text.upper content ≠ entry.1 := by
  simp [threshold?, List.lookup_eq_none_iff]

/-- No threshold is above a critical entry. -/
theorem le_of_threshold? (h : threshold? content = some level) :
    level ≤ 50 := by
  have hall : ∀ entry ∈ thresholds, entry.2 ≤ 50 := by decide
  obtain ⟨before, after, hsplit, -⟩ := List.lookup_eq_some_iff.1 h
  apply hall (Text.upper content, level)
  rw [hsplit]
  exact List.mem_append_right _ List.mem_cons_self

/-- The level has this name where calls are made, or has none and this
is made for it. -/
def IsNameOf (level : Nat) (name : String) : Prop :=
  (name, level) ∈ callerLevels
    ∨ (∀ other, (other, level) ∉ callerLevels) ∧ name = numberName level

/-- What a level is called is the name that it has, or the one that is
made for it. -/
theorem isNameOf_calledName (level : Nat) :
    IsNameOf level (calledName level) := by
  unfold calledName
  split
  case h_1 name number hfind =>
    have hmem := List.mem_of_find?_eq_some hfind
    have hnumber := List.find?_some hfind
    simp only [beq_iff_eq] at hnumber
    rw [hnumber] at hmem
    exact Or.inl hmem
  case h_2 hfind =>
    refine Or.inr ⟨?_, rfl⟩
    intro other hmem
    exact List.find?_eq_none.1 hfind _ hmem (beq_self_eq_true level)

/-- The sink has each level that is named where calls are made, under the same
number. -/
theorem lookup_of_mem_callerLevels {name : String}
    (h : (name, level) ∈ callerLevels) :
    thresholds.lookup name = some level := by
  have hall : ∀ entry ∈ callerLevels,
      thresholds.lookup entry.1 = some entry.2 := by
    decide
  exact hall _ h

/-- No level of the sink has a name that is made of a number. -/
theorem lookup_numberName (level : Nat) :
    thresholds.lookup (numberName level) = none := by
  rw [List.lookup_eq_none_iff]
  intro entry hentry
  -- such a name begins as `Level` does, and no level of the sink does
  have hfirst : ∀ entry ∈ thresholds, entry.1.toList.head? ≠ some 'L' := by
    decide
  rw [bne_iff_ne]
  intro heq
  apply hfirst entry hentry
  rw [← heq, numberName, String.toList_append]
  rfl

/-- On the way to the sink a level keeps its number, and the name that
it has where calls are made. -/
theorem handed_eq (level : Nat) : handed level = (calledName level, level) := by
  unfold handed
  rcases isNameOf_calledName level with hmem | ⟨-, heq⟩
  · rw [lookup_of_mem_callerLevels hmem]
  · rw [heq, lookup_numberName]

/-- An entry has the number and the name of the level as they are where
calls are made. -/
theorem Entry.ofLevel_eq (level : Nat) (message : Wording) :
    ofLevel level message = ⟨level, calledName level, message⟩ := by
  rw [ofLevel, handed_eq]

-- ============================================================== setups

namespace Sink

/-- What is installed after setups. -/
def setUpAll (before : Sink) (names : List Value) : Sink :=
  names.foldl (fun sink name => (sink.setUp name).1) before

/-- A setup with the name of a level installs the threshold of the
level. -/
theorem setUp_of_threshold? (h : threshold? content = some level) :
    sink.setUp (.text content) = (⟨some level⟩, .none) := by
  simp [setUp, h]

/-- What a setup that succeeds installs does not depend on what was there. -/
theorem setUp_of_namesLevel (h : NamesLevel name) (other : Sink) :
    other.setUp name = sink.setUp name := by
  obtain ⟨content, level, rfl, hlevel⟩ := h
  rw [setUp_of_threshold? hlevel, setUp_of_threshold? hlevel]

/-- After setups that succeeded there is a sink, and none that passes
over a critical entry. -/
theorem exists_threshold {earlier : List Value} (hne : earlier ≠ [])
    (h : ∀ known ∈ earlier, NamesLevel known) (before : Sink) :
    ∃ level ≤ 50, before.setUpAll earlier = ⟨some level⟩ := by
  obtain ⟨rest, last, rfl⟩ := List.eq_nil_or_concat earlier |>.resolve_left hne
  obtain ⟨content, level, rfl, hlevel⟩ := h last (by simp)
  refine ⟨level, le_of_threshold? hlevel, ?_⟩
  simp [setUpAll, setUp_of_threshold? hlevel]

/-- No sink comes back by a setup that fails. -/
theorem setUp_none (h : ¬ NamesLevel name) : (none.setUp name).1 = none := by
  unfold setUp
  split
  case h_1 content =>
    split
    case h_1 level hlevel => exact absurd ⟨content, level, rfl, hlevel⟩ h
    case h_2 => rfl
  all_goals rfl

/-- However many setups fail, no sink comes back. -/
theorem setUpAll_none {later : List Value}
    (h : ∀ refused ∈ later, ¬ NamesLevel refused) :
    none.setUpAll later = none := by
  induction later with
  | nil => rfl
  | cons name rest ih =>
      obtain ⟨hname, hrest⟩ := List.forall_mem_cons.1 h
      show ((none.setUp name).1).setUpAll rest = none
      rw [setUp_none hname, ih hrest]

-- =============================================================== calls

theorem written_none (entries : List Entry) : none.written entries = [] :=
  List.filter_eq_nil_iff.2 fun _ _ => nofun

/-- Without a sink a call fails as it does with one, and else writes nothing. -/
theorem record_none (sink : Sink) (call : Call) :
    none.record call = (sink.record call).map fun _ => [] := by
  -- the sink is asked last, so the failures before it are the same
  unfold record
  split
  case isTrue => rfl
  case isFalse =>
    split
    case h_1 => rfl
    case h_2 =>
      split
      case isTrue => rfl
      case isFalse =>
        split
        case h_1 => rfl
        case h_2 text _ =>
          rw [written_none]
          rfl

/-- A call at the level of the threshold, or above it, is written. -/
theorem record_of_le {caller text : Wording} (hpos : 0 < level)
    (h : ∃ threshold ≤ level, sink = ⟨some threshold⟩) :
    sink.record ⟨.text caller, .integer level, .text text, []⟩
      = .ok [⟨level, calledName level, text⟩] := by
  obtain ⟨threshold, hle, rfl⟩ := h
  have hne : level ≠ 0 := Nat.ne_of_gt hpos
  simp [record, isCaller, levelNumber?, hne, message, Value.inSentence,
    Entry.ofLevel_eq, written, takes, hle]

-- ============================================================== result

/-- After setups that succeeded, a text that names no level is refused,
and the sink that was there is gone. Then, however many setups fail
after it, each call fails as it would have failed before, and what would
have been written is not: so a call comes out as before exactly if
nothing would have been written, and no critical entry is. A setup that
succeeds installs what it would have installed before. -/
theorem setUp_of_unknown_level (earlier : List Value) (name : String)
    (hne : earlier ≠ []) (hearlier : ∀ known ∈ earlier, NamesLevel known)
    (hname : ∀ entry ∈ thresholds, Text.upper name ≠ entry.1) :
    (none.setUpAll earlier).setUp (.text name) = (none, some .unknown)
      ∧ none.setUpAll earlier ≠ none
      ∧ (∀ later, (∀ refused ∈ later, ¬ NamesLevel refused) → ∀ call,
          (none.setUpAll later).record call
            = ((none.setUpAll earlier).record call).map fun _ => [])
      ∧ (∀ call, none.record call = (none.setUpAll earlier).record call
          ↔ ∀ entries, (none.setUpAll earlier).record call = .ok entries →
              entries = [])
      ∧ (∀ caller text : Wording, ∀ level : Nat, 50 ≤ level →
          (none.setUpAll earlier).record
              ⟨.text caller, .integer level, .text text, []⟩
            = .ok [⟨level, calledName level, text⟩])
      ∧ ∀ known, NamesLevel known →
          none.setUp known = (none.setUpAll earlier).setUp known := by
  obtain ⟨threshold, hbound, hinstalled⟩ := exists_threshold hne hearlier none
  refine ⟨?refused, ?gone, ?silent, ?alike, ?critical,
    fun known h => setUp_of_namesLevel h none⟩
  case refused => simp [setUp, threshold?_eq_none_iff.2 hname]
  case gone =>
    rw [hinstalled]
    exact nofun
  case silent =>
    intro later hlater call
    rw [setUpAll_none hlater, ← record_none]
  case alike =>
    intro call
    rw [record_none (none.setUpAll earlier)]
    cases (none.setUpAll earlier).record call with
    | error cause => simp [Except.map]
    | ok entries => simp [Except.map, eq_comm]
  case critical =>
    intro caller text level hlevel
    exact record_of_le (by omega)
      ⟨threshold, Nat.le_trans hbound hlevel, hinstalled⟩

/-- A call that is written under every threshold. -/
def criticalCall : Call := ⟨.text "main", .integer 50, .text "stop", []⟩

/-- After `info`, the level `verbose` is refused, and a critical entry
that would have been written is not. -/
theorem setUp_of_unknown_level_of_verbose :
    (none.setUpAll [.text "info"]).setUp (.text "verbose")
        = (none, some .unknown)
      ∧ (none.setUpAll [.text "info"]).record criticalCall
        = .ok [⟨50, "CRITICAL", "stop"⟩]
      ∧ none.record criticalCall = .ok [] := by
  obtain ⟨hrefused, -, hsilent, -, hcritical, -⟩ :=
    setUp_of_unknown_level [.text "info"] "verbose" (List.cons_ne_nil _ _)
      (List.forall_mem_singleton.2 ⟨"info", 20, rfl, by decide⟩) (by decide)
  have hwritten : (none.setUpAll [.text "info"]).record criticalCall
      = .ok [⟨50, "CRITICAL", "stop"⟩] :=
    hcritical "main" "stop" 50 (Nat.le_refl 50)
  have hlost := hsilent [] (List.forall_mem_nil _) criticalCall
  rw [hwritten] at hlost
  exact ⟨hrefused, hwritten, hlost⟩

/-- A setup that fails does not leave the log as it was. -/
theorem critical_entry_lost :
    ¬ ∀ (earlier : List Value) (name : String), earlier ≠ [] →
      (∀ known ∈ earlier, NamesLevel known) →
      (∀ entry ∈ thresholds, Text.upper name ≠ entry.1) →
      ∀ call, ((none.setUpAll earlier).setUp (.text name)).1.record call
        = (none.setUpAll earlier).record call := by
  intro h
  have hsame := h [.text "info"] "verbose" (List.cons_ne_nil _ _)
    (List.forall_mem_singleton.2 ⟨"info", 20, rfl, by decide⟩)
    (by decide) criticalCall
  have hbefore : (none.setUpAll [.text "info"]).record criticalCall
      = .ok [⟨50, calledName 50, "stop"⟩] :=
    record_of_le (by decide) ⟨20, by decide, by decide⟩
  rw [hbefore] at hsame
  cases hsame

end Sink

end StatelessAuth.Log
