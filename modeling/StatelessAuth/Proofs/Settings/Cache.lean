/-
What a get is answered with after any history of a cache
(`get_answers_first_load`).

# Where an answer comes from

The environment after a history is what was put and removed makes of it,
whatever was asked in between (`environmentAfter`). The settings that a
get is answered with were loaded at some get before it or at this one:
the first that could load since the cache was last cleared. The history
up to there is the origin of the answer (`IsOrigin`). It is told by the
history alone, without the cache.

# The invariant

After a history the settings of its origin are kept, under the number of
loads at the origin, and nothing is kept if there is no origin
(`kept_after_iff`). A get is answered with what is kept after it
(`get_answer_iff`).
-/
import Mathlib.Data.List.Induction
import StatelessAuth.Settings.Cache

namespace StatelessAuth.SettingsCache

-- =========================================================== histories

/-- What a command makes of the environment. -/
def Command.change : Command → Environment → Environment
  | .put entries, environment => environment.putAll entries
  | .remove name, environment => environment.remove name
  | .clear, environment => environment
  | .get, environment => environment

/-- The environment after a history. -/
def environmentAfter (environment : Environment) (history : List Command) :
    Environment :=
  history.foldl (fun environment command => command.change environment)
    environment

/-- The settings that the environment holds after a history. -/
def loadAfter (environment : Environment) (history : List Command) :
    Validated Settings :=
  Settings.load (.ofEnvironment (environmentAfter environment history))

/-- A cache in which nothing was asked for yet. -/
def startIn (environment : Environment) : SettingsCache :=
  { start with environment }

/-- The cache after a history. -/
def after (style : FaultStyle) (cache : SettingsCache)
    (history : List Command) : SettingsCache :=
  history.foldl (fun cache command => (cache.step style command).1) cache

/-- What a get after a history is answered. -/
def answerAfter (style : FaultStyle) (environment : Environment)
    (history : List Command) : Answer :=
  (((startIn environment).after style history).get style).2

/-- No get since the last clear found settings to load. -/
def NothingLoaded (environment : Environment) (history : List Command) : Prop :=
  ∀ earlier between, history = earlier ++ .get :: between → .clear ∉ between →
    ∀ settings, loadAfter environment earlier ≠ .valid settings

/-- The first get since the last clear that found settings to load came
after `first`, and it found these. -/
structure IsOrigin (environment : Environment) (history first : List Command)
    (settings : Settings) : Prop where
  since : ∃ later, history = first ++ .get :: later ∧ .clear ∉ later
  load : loadAfter environment first = .valid settings
  earliest : NothingLoaded environment first

variable {style : FaultStyle} {environment : Environment}
  {history first between : List Command} {command : Command}
  {cache : SettingsCache} {kept : KeptSettings} {settings : Settings}
  {faults : List Fault}

-- ============================================================= origins

/-- With one more command the origin stays what it was, unless the
command clears the cache or is the first get that can load. -/
theorem isOrigin_concat_iff :
    IsOrigin environment (history ++ [command]) first settings
      ↔ (command ≠ .clear ∧ IsOrigin environment history first settings)
        ∨ (command = .get ∧ history = first
          ∧ loadAfter environment history = .valid settings
          ∧ NothingLoaded environment history) := by
  constructor
  · rintro ⟨⟨later, hsplit, hclear⟩, hload, hearliest⟩
    -- either the get of the origin is the new command, or the new one
    -- is the last of those after it
    rcases List.eq_nil_or_concat later with rfl | ⟨before, last, rfl⟩
    · obtain ⟨rfl, hcommand⟩ := List.append_inj' hsplit rfl
      exact Or.inr ⟨(List.cons.inj hcommand).1, rfl, hload, hearliest⟩
    · rw [List.concat_eq_append] at hsplit hclear
      rw [← List.cons_append, ← List.append_assoc] at hsplit
      obtain ⟨rfl, hcommand⟩ := List.append_inj' hsplit rfl
      obtain ⟨rfl, -⟩ := List.cons.inj hcommand
      rw [List.mem_append, not_or] at hclear
      refine Or.inl ⟨?_, ⟨before, rfl, hclear.1⟩, hload, hearliest⟩
      intro heq
      exact hclear.2 (List.mem_singleton.2 heq.symm)
  · rintro (⟨hcommand, ⟨later, rfl, hclear⟩, hload, hearliest⟩ |
      ⟨rfl, rfl, hload, hearliest⟩)
    · refine ⟨⟨later ++ [command], by simp, ?_⟩, hload, hearliest⟩
      rw [List.mem_append, List.mem_singleton, not_or]
      exact ⟨hclear, hcommand.symm⟩
    · exact ⟨⟨[], rfl, List.not_mem_nil⟩, hload, hearliest⟩

/-- The origin stays as long as nothing is cleared. -/
theorem IsOrigin.append (h : IsOrigin environment history first settings)
    (hclear : .clear ∉ between) :
    IsOrigin environment (history ++ between) first settings := by
  obtain ⟨⟨later, rfl, hlater⟩, hload, hearliest⟩ := h
  refine ⟨⟨later ++ between, by simp, ?_⟩, hload, hearliest⟩
  rw [List.mem_append, not_or]
  exact ⟨hlater, hclear⟩

/-- If a get since the last clear could load, one of them was the first. -/
theorem exists_isOrigin (earlier between : List Command) {settings : Settings}
    (hsplit : history = earlier ++ .get :: between) (hclear : .clear ∉ between)
    (hload : loadAfter environment earlier = .valid settings) :
    ∃ first found, IsOrigin environment history first found := by
  -- if this get was not the first to load, an earlier one is tried, so
  -- that the search ends
  by_cases hearliest : NothingLoaded environment earlier
  · exact ⟨earlier, settings, ⟨between, hsplit, hclear⟩, hload, hearliest⟩
  · unfold NothingLoaded at hearliest
    push Not at hearliest
    obtain ⟨before, rest, hbefore, hrest, other, hother⟩ := hearliest
    have hshorter : before.length < earlier.length := by
      rw [hbefore, List.length_append, List.length_cons]
      omega
    refine exists_isOrigin before (rest ++ .get :: between) ?_ ?_ hother
    · rw [hsplit, hbefore, List.append_assoc, List.cons_append]
    · rw [List.mem_append, List.mem_cons, not_or, not_or]
      exact ⟨hrest, nofun, hclear⟩
termination_by earlier.length

/-- Without a get that loaded there is no origin. -/
theorem nothingLoaded_iff :
    NothingLoaded environment history
      ↔ ∀ first settings, ¬ IsOrigin environment history first settings := by
  constructor
  · intro h first settings horigin
    obtain ⟨later, hsplit, hclear⟩ := horigin.since
    exact h first later hsplit hclear settings horigin.load
  · intro h earlier between hsplit hclear settings hload
    obtain ⟨first, found, horigin⟩ :=
      exists_isOrigin earlier between hsplit hclear hload
    exact h first found horigin

/-- A clear ends what was loaded before. -/
theorem nothingLoaded_clear (environment : Environment)
    (history : List Command) :
    NothingLoaded environment (history ++ [.clear]) := by
  rw [nothingLoaded_iff]
  intro first settings h
  rcases isOrigin_concat_iff.1 h with ⟨hclear, -⟩ | ⟨hget, -⟩
  · exact hclear rfl
  · cases hget

-- =============================================================== steps

theorem after_concat (cache : SettingsCache) (history : List Command)
    (command : Command) :
    cache.after style (history ++ [command])
      = ((cache.after style history).step style command).1 := by
  simp [after, List.foldl_append]

theorem after_append (cache : SettingsCache) (history between : List Command) :
    cache.after style (history ++ between)
      = (cache.after style history).after style between :=
  List.foldl_append

/-- What is kept is handed out, and nothing is read. -/
theorem get_of_kept (h : cache.kept = some kept) :
    cache.get style = (cache, ⟨.ok kept, []⟩) := by
  unfold get
  rw [h]

/-- Settings that were loaded are kept, under the number of loads before
them. -/
theorem get_of_valid (h : cache.kept = none)
    (hload : Settings.load (.ofEnvironment cache.environment)
      = .valid settings) :
    cache.get style
      = ({ cache with
            kept := some ⟨cache.loads, settings⟩
            loads := cache.loads + 1 },
          ⟨.ok ⟨cache.loads, settings⟩, []⟩) := by
  unfold get
  rw [h]
  simp only
  rw [hload]

/-- A load that fails leaves the cache as it was, and is logged. -/
theorem get_of_invalid (h : cache.kept = none)
    (hload : Settings.load (.ofEnvironment cache.environment)
      = .invalid faults) :
    cache.get style
      = (cache, ⟨.error faults,
          [failureReport style cache.environment faults]⟩) := by
  unfold get
  rw [h]
  simp only
  rw [hload]

/-- What a get can do: answer with what is kept, load, or fail. -/
theorem get_cases (style : FaultStyle) (cache : SettingsCache) :
    (∃ kept, cache.kept = some kept ∧ cache.get style = (cache, ⟨.ok kept, []⟩))
    ∨ (∃ settings, cache.kept = none
        ∧ Settings.load (.ofEnvironment cache.environment) = .valid settings
        ∧ cache.get style
          = ({ cache with
                kept := some ⟨cache.loads, settings⟩
                loads := cache.loads + 1 },
              ⟨.ok ⟨cache.loads, settings⟩, []⟩))
    ∨ ∃ faults, cache.kept = none
        ∧ Settings.load (.ofEnvironment cache.environment) = .invalid faults
        ∧ cache.get style
          = (cache, ⟨.error faults,
              [failureReport style cache.environment faults]⟩) := by
  cases hkept : cache.kept with
  | some kept => exact Or.inl ⟨kept, rfl, get_of_kept hkept⟩
  | none =>
      cases hload : Settings.load (.ofEnvironment cache.environment) with
      | valid settings =>
          exact Or.inr (Or.inl ⟨settings, rfl, rfl, get_of_valid hkept hload⟩)
      | invalid faults =>
          exact Or.inr (Or.inr ⟨faults, rfl, rfl, get_of_invalid hkept hload⟩)

/-- A get is answered with what is kept after it. -/
theorem get_answer_iff :
    (cache.get style).2 = ⟨.ok kept, []⟩
      ↔ (cache.get style).1.kept = some kept := by
  rcases get_cases style cache with
    ⟨other, hkept, hget⟩ | ⟨settings, -, -, hget⟩ | ⟨faults, hkept, -, hget⟩
  · rw [hget]
    simp [hkept]
  · rw [hget]
    simp
  · rw [hget]
    simp [hkept]

/-- After a get is kept what was kept before it, or else what it has loaded. -/
theorem kept_get_iff :
    (cache.get style).1.kept = some kept
      ↔ cache.kept = some kept
        ∨ (cache.kept = none
          ∧ Settings.load (.ofEnvironment cache.environment)
              = .valid kept.settings
          ∧ kept.number = cache.loads) := by
  rcases get_cases style cache
    with ⟨other, hkept, hget⟩ | ⟨settings, hkept, hload, hget⟩ |
    ⟨faults, hkept, hload, hget⟩
  · rw [hget]
    simp [hkept]
  · rw [hget, hkept, hload]
    constructor
    · intro h
      cases h
      exact Or.inr ⟨rfl, rfl, rfl⟩
    · rintro (h | ⟨-, hsettings, hnumber⟩)
      · cases h
      · cases hsettings
        rw [← hnumber]
  · rw [hget, hload]
    simp [hkept]

/-- A get leaves the environment alone, and so does a clear. -/
theorem step_environment (cache : SettingsCache) (command : Command) :
    (cache.step style command).1.environment
      = command.change cache.environment := by
  cases command with
  | get =>
      show (cache.get style).1.environment = cache.environment
      rcases get_cases style cache
        with ⟨_, -, hget⟩ | ⟨_, -, -, hget⟩ | ⟨_, -, -, hget⟩
      all_goals rw [hget]
  | _ => rfl

/-- Loads are only ever counted up. -/
theorem loads_le_step (cache : SettingsCache) (command : Command) :
    cache.loads ≤ (cache.step style command).1.loads := by
  cases command with
  | get =>
      show cache.loads ≤ (cache.get style).1.loads
      rcases get_cases style cache
        with ⟨_, -, hget⟩ | ⟨_, -, -, hget⟩ | ⟨_, -, -, hget⟩
      · exact Nat.le_of_eq (by rw [hget])
      · exact Nat.le_of_lt (by rw [hget]; exact Nat.lt_succ_self _)
      · exact Nat.le_of_eq (by rw [hget])
  | _ => exact Nat.le_refl _

/-- The number of what is kept was given before. -/
theorem number_lt_step (h : ∀ kept, cache.kept = some kept →
    kept.number < cache.loads) (command : Command)
    (hkept : (cache.step style command).1.kept = some kept) :
    kept.number < (cache.step style command).1.loads := by
  cases command with
  | put entries => exact h kept hkept
  | remove name => exact h kept hkept
  | clear => cases hkept
  | get =>
      change (cache.get style).1.kept = some kept at hkept
      show kept.number < (cache.get style).1.loads
      rcases get_cases style cache
        with ⟨_, -, hget⟩ | ⟨_, -, -, hget⟩ | ⟨_, -, -, hget⟩
      · rw [hget] at hkept ⊢
        exact h kept hkept
      · rw [hget] at hkept ⊢
        cases hkept
        exact Nat.lt_succ_self _
      · rw [hget] at hkept ⊢
        exact h kept hkept

-- =============================================================== runs

/-- What was asked for in between does not show in the environment. -/
theorem environment_after (environment : Environment) (history : List Command) :
    ((startIn environment).after style history).environment
      = environmentAfter environment history := by
  induction history using List.reverseRecOn with
  | nil => rfl
  | append_singleton history command ih =>
      rw [after_concat, step_environment, ih, environmentAfter,
        environmentAfter, List.foldl_append]
      rfl

/-- Through a history as well. -/
theorem loads_le_after (cache : SettingsCache) (between : List Command) :
    cache.loads ≤ (cache.after style between).loads := by
  induction between using List.reverseRecOn with
  | nil => exact Nat.le_refl _
  | append_singleton between command ih =>
      rw [after_concat]
      exact Nat.le_trans ih (loads_le_step _ command)

/-- Each number is given once: what is kept has one that no later load
is given. -/
theorem number_lt_loads
    (hkept : ((startIn environment).after style history).kept = some kept) :
    kept.number < ((startIn environment).after style history).loads := by
  induction history using List.reverseRecOn generalizing kept with
  | nil => cases hkept
  | append_singleton history command ih =>
      rw [after_concat] at hkept ⊢
      exact number_lt_step (fun _ => ih) command hkept

/-- What is kept after a history are the settings of its origin, under
the number of loads before it. -/
theorem kept_after_iff :
    ((startIn environment).after style history).kept = some kept
      ↔ ∃ first, IsOrigin environment history first kept.settings
          ∧ kept.number = ((startIn environment).after style first).loads := by
  induction history using List.reverseRecOn generalizing kept with
  | nil =>
      constructor
      · intro h
        cases h
      · rintro ⟨first, ⟨⟨later, hsplit, -⟩, -, -⟩, -⟩
        exact absurd hsplit.symm
          (List.append_ne_nil_of_right_ne_nil first (List.cons_ne_nil _ _))
  | append_singleton history command ih =>
      rw [after_concat]
      simp only [isOrigin_concat_iff]
      cases command with
      | put entries => simpa [step, put] using ih
      | remove name => simpa [step, remove] using ih
      | clear => simp [step, clear]
      | get =>
          -- the get loads only if nothing is kept, which is if there is
          -- no origin yet
          have hnone : ((startIn environment).after style history).kept = none
              ↔ NothingLoaded environment history := by
            rw [nothingLoaded_iff, Option.eq_none_iff_forall_ne_some]
            constructor
            · intro h first settings horigin
              exact h ⟨_, settings⟩ (ih.2 ⟨first, horigin, rfl⟩)
            · intro h other hother
              obtain ⟨first, horigin, -⟩ := ih.1 hother
              exact h first other.settings horigin
          show (((startIn environment).after style history).get style).1.kept
            = some kept ↔ _
          rw [kept_get_iff, hnone, ih, environment_after]
          constructor
          · rintro (⟨first, horigin, hnumber⟩ | ⟨hnothing, hload, hnumber⟩)
            · exact ⟨first, Or.inl ⟨nofun, horigin⟩, hnumber⟩
            · exact ⟨history, Or.inr ⟨rfl, rfl, hload, hnothing⟩, hnumber⟩
          · rintro ⟨first, ⟨-, horigin⟩ | ⟨-, rfl, hload, hnothing⟩, hnumber⟩
            · exact Or.inl ⟨first, horigin, hnumber⟩
            · exact Or.inr ⟨hnothing, hload, hnumber⟩

-- ============================================================= answers

/-- A get is answered with the settings of its origin, and nothing is logged. -/
theorem answerAfter_of_isOrigin
    (h : IsOrigin environment (history ++ [.get]) first settings) :
    answerAfter style environment history
      = ⟨.ok ⟨((startIn environment).after style first).loads, settings⟩,
          []⟩ := by
  have hkept : ((startIn environment).after style (history ++ [.get])).kept
      = some ⟨((startIn environment).after style first).loads, settings⟩ :=
    kept_after_iff.2 ⟨first, h, rfl⟩
  rw [after_concat] at hkept
  exact get_answer_iff.2 hkept

/-- A get without an origin fails and leaves the cache as it was. -/
theorem get_of_nothingLoaded
    (h : NothingLoaded environment (history ++ [.get])) :
    ∃ faults, loadAfter environment history = .invalid faults
      ∧ ((startIn environment).after style history).get style
        = ((startIn environment).after style history,
          ⟨.error faults, [failureReport style
            (environmentAfter environment history) faults]⟩) := by
  have hnone := nothingLoaded_iff.1 h
  rcases get_cases style ((startIn environment).after style history)
    with ⟨kept, hkept, -⟩ | ⟨settings, -, hload, -⟩ | ⟨faults, -, hload, hget⟩
  · obtain ⟨first, horigin, -⟩ := kept_after_iff.1 hkept
    exact absurd (horigin.append (by simp)) (hnone first kept.settings)
  · rw [environment_after] at hload
    exact absurd hload (h history [] rfl List.not_mem_nil settings)
  · rw [environment_after] at hload hget
    exact ⟨faults, hload, hget⟩

/-- A get that is answered with settings has an origin. -/
theorem exists_isOrigin_of_answer {log : List Log.Entry}
    (h : answerAfter style environment history = ⟨.ok kept, log⟩) :
    ∃ first, IsOrigin environment (history ++ [.get]) first kept.settings
      ∧ kept.number = ((startIn environment).after style first).loads := by
  by_cases hnothing : NothingLoaded environment (history ++ [.get])
  · obtain ⟨faults, -, hget⟩ := get_of_nothingLoaded hnothing
    rw [answerAfter, hget] at h
    cases h
  · rw [nothingLoaded_iff] at hnothing
    push Not at hnothing
    obtain ⟨first, settings, horigin⟩ := hnothing
    rw [answerAfter_of_isOrigin horigin] at h
    cases h
    exact ⟨first, horigin, rfl⟩

variable {later : KeptSettings} {log laterLog : List Log.Entry}

/-- Until the cache is cleared, all gets are answered with the same. -/
theorem answerAfter_of_not_cleared
    (h : answerAfter style environment history = ⟨.ok kept, log⟩)
    (hclear : .clear ∉ between) :
    answerAfter style environment (history ++ .get :: between)
      = ⟨.ok kept, []⟩ := by
  obtain ⟨first, horigin, hnumber⟩ := exists_isOrigin_of_answer h
  have hlonger : IsOrigin environment
      ((history ++ .get :: between) ++ [.get]) first kept.settings := by
    have hrest : .clear ∉ between ++ [Command.get] := by
      rw [List.mem_append, not_or]
      exact ⟨hclear, by simp⟩
    have happend := horigin.append hrest
    rwa [List.append_assoc, List.singleton_append, ← List.cons_append,
      ← List.append_assoc] at happend
  rw [answerAfter_of_isOrigin hlonger, ← hnumber]

/-- After a clear, settings are loaded anew. -/
theorem number_lt_of_cleared
    (h : answerAfter style environment history = ⟨.ok kept, log⟩)
    (hlater : answerAfter style environment (history ++ .get :: between)
      = ⟨.ok later, laterLog⟩)
    (hclear : .clear ∈ between) : kept.number < later.number := by
  obtain ⟨first, horigin, hnumber⟩ := exists_isOrigin_of_answer h
  obtain ⟨second, ⟨⟨rest, hsplit, hrest⟩, -, -⟩, hsecond⟩ :=
    exists_isOrigin_of_answer hlater
  -- the clear stands in front of the second origin, and so does the first get
  obtain ⟨middle, rfl⟩ : ∃ middle, second = (history ++ [.get]) ++ middle := by
    rw [List.append_assoc, List.cons_append, ← List.singleton_append,
      ← List.append_assoc] at hsplit
    rcases List.append_eq_append_iff.1 hsplit
      with ⟨middle, hmiddle, -⟩ | ⟨middle, -, hmiddle⟩
    · exact ⟨middle, hmiddle⟩
    · have hmem : Command.clear ∈ .get :: rest := by
        rw [hmiddle]
        exact List.mem_append_right _ (List.mem_append_left _ hclear)
      rcases List.mem_cons.1 hmem with heq | hmem
      · cases heq
      · exact absurd hmem hrest
  have hkept : ((startIn environment).after style (history ++ [.get])).kept
      = some kept :=
    kept_after_iff.2 ⟨first, horigin, hnumber⟩
  calc kept.number
      < ((startIn environment).after style (history ++ [.get])).loads :=
        number_lt_loads hkept
    _ ≤ (((startIn environment).after style (history ++ [.get])).after style
          middle).loads :=
        loads_le_after _ middle
    _ = later.number := by rw [hsecond, ← after_append]

/-- A get with an origin is answered with what the get at the origin was
answered with: the settings that the environment held then, whatever
became of it since, and nothing is logged. Any other get fails over what
the environment holds now, reports it once as critical, and leaves the
cache as it was. Two gets that are answered with settings are answered
with the same ones if nothing was cleared between them, and never with
the same ones otherwise. -/
theorem get_answers_first_load (style : FaultStyle) (environment : Environment)
    (history : List Command) :
    (∀ first settings, IsOrigin environment (history ++ [.get]) first settings →
      ∃ number, answerAfter style environment first
        = ⟨.ok ⟨number, settings⟩, []⟩
        ∧ answerAfter style environment history = ⟨.ok ⟨number, settings⟩, []⟩)
    ∧ ((∀ first settings,
        ¬ IsOrigin environment (history ++ [.get]) first settings) →
      ∃ faults, loadAfter environment history = .invalid faults
        ∧ answerAfter style environment history
          = ⟨.error faults, [failureReport style
              (environmentAfter environment history) faults]⟩
        ∧ (failureReport style (environmentAfter environment history)
            faults).level = 50
        ∧ (startIn environment).after style (history ++ [.get])
          = (startIn environment).after style history)
    ∧ ∀ between kept later log laterLog,
        answerAfter style environment history = ⟨.ok kept, log⟩ →
        answerAfter style environment (history ++ .get :: between)
          = ⟨.ok later, laterLog⟩ →
        (.clear ∉ between → kept = later)
          ∧ (.clear ∈ between → kept.number ≠ later.number) := by
  refine ⟨?origin, ?failure, ?sharing⟩
  case origin =>
    intro first settings h
    have hfirst : IsOrigin environment (first ++ [.get]) first settings :=
      ⟨⟨[], rfl, List.not_mem_nil⟩, h.load, h.earliest⟩
    exact ⟨_, answerAfter_of_isOrigin hfirst, answerAfter_of_isOrigin h⟩
  case failure =>
    intro h
    obtain ⟨faults, hload, hget⟩ := get_of_nothingLoaded (nothingLoaded_iff.2 h)
    refine ⟨faults, hload, ?_, rfl, ?_⟩
    · rw [answerAfter, hget]
    · rw [after_concat]
      show (((startIn environment).after style history).get style).1 = _
      rw [hget]
  case sharing =>
    intro between kept later log laterLog h hlater
    constructor
    · intro hclear
      rw [answerAfter_of_not_cleared h hclear] at hlater
      cases hlater
      rfl
    · intro hclear
      exact Nat.ne_of_lt (number_lt_of_cleared h hlater hclear)

/-- Reports that show nothing of what was found. -/
def sampleStyle : FaultStyle := ⟨fun _ _ => "", ""⟩

/-- Two short keys. -/
def sampleEntries : List (String × String) :=
  [("SERVICE_PWD_KEY", "YQ"), ("SERVICE_TOKEN_KEY", "YWI")]

/-- A get that fails, and then the keys. -/
def sampleHistory : List Command := [.get, .put sampleEntries]

/-- With the keys in the environment settings are found, and the rest
are defaults. -/
theorem load_sampleHistory : loadAfter .empty sampleHistory
    = .valid ⟨.text "WebToken Auth", .text "/api/v1", .bytes [97],
        .bytes [97, 98], .real Settings.defaultDuration, .text "auth-token",
        .text "INFO"⟩ := rfl

/-- The get before the keys found none. -/
theorem nothingLoaded_sampleHistory : NothingLoaded .empty sampleHistory := by
  intro earlier between hsplit hclear settings hload
  rcases earlier with _ | ⟨command, _ | ⟨other, rest⟩⟩
  · cases hload
  · simp [sampleHistory] at hsplit
  · simp [sampleHistory] at hsplit

/-- The first get fails, the second loads, and the third has what the
second has although there is no key any more; after a clear and with the
keys again, a fourth has settings of its own. -/
theorem get_answers_first_load_of_removal :
    (∃ faults, answerAfter sampleStyle .empty []
        = ⟨.error faults, [failureReport sampleStyle .empty faults]⟩)
    ∧ ∃ kept later, answerAfter sampleStyle .empty sampleHistory
        = ⟨.ok kept, []⟩
        ∧ answerAfter sampleStyle .empty
            (sampleHistory ++ [.get, .remove "SERVICE_PWD_KEY"])
              = ⟨.ok kept, []⟩
        ∧ answerAfter sampleStyle .empty (sampleHistory ++ [.get, .clear])
          = ⟨.ok later, []⟩
        ∧ kept.number ≠ later.number := by
  obtain ⟨-, hfailure, -⟩ := get_answers_first_load sampleStyle .empty []
  obtain ⟨horigin, -, -⟩ := get_answers_first_load sampleStyle .empty
    (sampleHistory ++ [.get, .remove "SERVICE_PWD_KEY"])
  obtain ⟨hcleared, -, -⟩ :=
    get_answers_first_load sampleStyle .empty (sampleHistory ++ [.get, .clear])
  obtain ⟨-, -, hsharing⟩ :=
    get_answers_first_load sampleStyle .empty sampleHistory
  have hnone : ∀ first settings,
      ¬ IsOrigin .empty ([] ++ [.get]) first settings := by
    intro first settings h
    rcases isOrigin_concat_iff.1 h
      with ⟨-, ⟨later, hsplit, -⟩, -, -⟩ | ⟨-, -, hload, -⟩
    · exact absurd hsplit.symm
        (List.append_ne_nil_of_right_ne_nil first (List.cons_ne_nil _ _))
    · cases hload
  obtain ⟨faults, -, hfailed, -⟩ := hfailure hnone
  obtain ⟨number, hfirst, hlater⟩ := horigin sampleHistory _
    ⟨⟨[.remove "SERVICE_PWD_KEY", .get], rfl, by decide⟩, load_sampleHistory,
      nothingLoaded_sampleHistory⟩
  obtain ⟨other, -, hother⟩ := hcleared (sampleHistory ++ [.get, .clear]) _
    ⟨⟨[], rfl, List.not_mem_nil⟩, load_sampleHistory,
      nothingLoaded_clear .empty (sampleHistory ++ [.get])⟩
  exact ⟨⟨faults, hfailed⟩, ⟨number, _⟩, ⟨other, _⟩, hfirst, hlater, hother,
    (hsharing [.clear] _ _ _ _ hfirst hother).2 (List.mem_singleton.2 rfl)⟩

end StatelessAuth.SettingsCache
