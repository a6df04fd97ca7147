/-
Which records are stored in the course of a run. A record is under a key
because it was there at the start or because an event put it there, and no
event since has dropped it or put another in its place (`find?_step`). So what
holds of the records of the start and of all records that are put holds of
every record at every moment (`stored_of_puts`).

A run goes on from each of its moments as a run of its own, from the state
that the event of the moment leaves (`transcript_suffix`). What is claimed of
the time after an event is proved of that run.
-/
import StatelessAuth.Proofs.App.Transcript
import StatelessAuth.Proofs.Schema.Rule

namespace StatelessAuth

/-- Each record is stored under the name of its user. -/
def Store.IsKeyed (store : Store) : Prop :=
  ∀ key record, store.find? key = some record → record.username = key

/-- The datum that a record is written as is taken as this record. -/
theorem AuthRecord.rule_toValue {record : AuthRecord}
    (h : record.username ≠ "") :
    rule record.toValue = .valid record := by
  have hlength : 1 ≤ record.username.length :=
    Nat.one_le_iff_ne_zero.2 (mt String.length_eq_zero_iff.1 h)
  have hname : Rule.required "username" (Rule.textOfLength 1) record.toValue
      = .valid record.username :=
    Rule.required_eq_valid_iff.2
      ⟨_, _, rfl, rfl, Rule.textOfLength_eq_valid_iff.2 ⟨rfl, hlength⟩⟩
  show fields record.toValue = .valid record
  rw [fields, hname]
  rfl

namespace Service

variable {service : Service} {state : State} {event : Event}
  {events : List Event} {moment : Moment} {past later : List Moment}
  {key : String} {record : AuthRecord}

/-- The event puts a record under a key: it holds a datum that fits. -/
def Event.Puts (key : String) (record : AuthRecord) (event : Event) : Prop :=
  ∃ fields, event = .put key (.record fields)
    ∧ AuthRecord.rule (.record fields) = .valid record

/-- An event that puts a record names the key. -/
theorem Event.Puts.key_eq {other : String} {datum : Value}
    (h : (Event.put other datum).Puts key record) : other = key := by
  obtain ⟨fields, hevent, -⟩ := h
  injection hevent

/-- The datum that a record is written as puts this record, under its key. -/
theorem Event.puts_put_toValue_iff {other : String} {found : AuthRecord}
    (h : record.username ≠ "") :
    (Event.put key record.toValue).Puts other found
      ↔ other = key ∧ found = record := by
  have hrule := AuthRecord.rule_toValue h
  constructor
  · intro hputs
    obtain ⟨fields, hevent, hfound⟩ := hputs
    injection hevent with hkey hdatum
    rw [← hdatum, hrule] at hfound
    injection hfound with hrecord
    exact ⟨hkey.symm, hrecord.symm⟩
  · intro hsame
    obtain ⟨rfl, rfl⟩ := hsame
    exact ⟨_, rfl, hrule⟩

-- ============================================================= one step

/-- The record that was put replaces what was under the key, and nothing
else changes. -/
theorem step_of_puts (h : event.Puts key record) :
    (service.step state event).1
      = { state with store := state.store.put key record } := by
  obtain ⟨fields, rfl, hrule⟩ := h
  rw [step, hrule]

/-- A datum that fits is stored as a record, and one that does not is not. -/
theorem step_put_cases (service : Service) (state : State) (key : String)
    (datum : Value) :
    (∃ record, (Event.put key datum).Puts key record
      ∧ (service.step state (.put key datum)).1
        = { state with store := state.store.put key record })
    ∨ ((∀ record, ¬ (Event.put key datum).Puts key record)
      ∧ (service.step state (.put key datum)).1 = state) := by
  by_cases hputs : ∃ record, (Event.put key datum).Puts key record
  · obtain ⟨record, hputs⟩ := hputs
    exact Or.inl ⟨record, hputs, step_of_puts hputs⟩
  · refine Or.inr ⟨not_exists.1 hputs, ?_⟩
    cases datum with
    | record fields =>
        rcases hrule : AuthRecord.rule (.record fields) with record | faults
        · exact absurd ⟨record, fields, rfl, hrule⟩ hputs
        · rw [step, hrule]
    | _ => rfl

/-- A record that is stored after an event was put by it, or was stored before
and neither dropped nor replaced. -/
theorem find?_step
    (h : (service.step state event).1.store.find? key = some record) :
    event.Puts key record
      ∨ (state.store.find? key = some record ∧ event ≠ .drop key
        ∧ ∀ other, ¬ event.Puts key other) := by
  cases event with
  | clock now => exact Or.inr ⟨h, nofun, nofun⟩
  | lifespan => exact Or.inr ⟨h, nofun, nofun⟩
  | request request => exact Or.inr ⟨h, nofun, nofun⟩
  | drop other =>
      have hstore : (state.store.drop other).find? key = some record := h
      by_cases hkey : key = other
      · subst hkey
        rw [Store.find?_drop_self] at hstore
        cases hstore
      · rw [Store.find?_drop_of_ne _ hkey] at hstore
        refine Or.inr ⟨hstore, ?_, nofun⟩
        intro hevent
        injection hevent with hother
        exact hkey hother.symm
  | put other datum =>
      rcases step_put_cases service state other datum
        with ⟨found, hputs, hstep⟩ | ⟨hnone, hstep⟩
      · have hstore : (state.store.put other found).find? key
            = some record := by
          rw [hstep] at h
          exact h
        by_cases hkey : key = other
        · subst hkey
          rw [Store.find?_put_self] at hstore
          injection hstore with hfound
          rw [← hfound]
          exact Or.inl hputs
        · rw [Store.find?_put_of_ne _ _ hkey] at hstore
          refine Or.inr ⟨hstore, nofun, ?_⟩
          intro another hanother
          exact hkey hanother.key_eq.symm
      · rw [hstep] at h
        refine Or.inr ⟨h, nofun, ?_⟩
        intro another hanother
        have hkey := hanother.key_eq
        subst hkey
        exact hnone another hanother

-- ============================================================ whole runs

/-- What comes after a moment is the run of its events from the state that the
event of the moment leaves. -/
theorem transcript_suffix
    (h : service.transcript state events = past ++ moment :: later) :
    later = service.transcript (service.step moment.state moment.event).1
      (later.map (·.event)) := by
  -- along the past: its first moment is that of the first event
  induction past generalizing state events with
  | nil =>
      cases events with
      | nil => cases h
      | cons event rest =>
          rw [transcript, List.nil_append, List.cons.injEq] at h
          obtain ⟨hmoment, hlater⟩ := h
          rw [← hlater, ← hmoment, map_event_transcript]
  | cons first past ih =>
      cases events with
      | nil => cases h
      | cons event rest =>
          rw [transcript, List.cons_append, List.cons.injEq] at h
          exact ih h.2

/-- What holds of every record of the start and of every record that is put
holds of every record that is ever stored. -/
theorem stored_of_puts {p : String → AuthRecord → Prop}
    (hstart : ∀ key record, state.store.find? key = some record → p key record)
    (hputs : ∀ event ∈ events, ∀ key record, event.Puts key record →
      p key record) :
    ∀ moment ∈ service.transcript state events, ∀ key record,
      moment.state.store.find? key = some record → p key record := by
  -- each event leaves a state whose records are good again, so that the
  -- rest of the run starts as the whole of it did
  induction events generalizing state with
  | nil =>
      intro moment hmoment
      cases hmoment
  | cons event rest ih =>
      intro moment hmoment
      rw [List.forall_mem_cons] at hputs
      rw [transcript, List.mem_cons] at hmoment
      obtain ⟨hfirst, hrest⟩ := hputs
      rcases hmoment with rfl | hmoment
      · exact hstart
      · refine ih ?_ hrest moment hmoment
        intro key record hfind
        rcases find?_step hfind with hput | ⟨hold, -, -⟩
        · exact hfirst key record hput
        · exact hstart key record hold

end Service

end StatelessAuth
