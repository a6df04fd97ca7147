/-
Runs of the application, written down moment by moment: what happened, in
which state, and what was answered (`Service.transcript`). The answers
alone are those of the run (`run_eq_transcript`).

What is claimed of runs is claimed of each moment together with the
moments before it (`Throughout`). It is proved by an invariant of the past:
one that holds of no past at all and is kept by every moment that is as it
should be holds of every past (`Throughout.invariant`).
-/
import Mathlib.Data.List.Induction
import StatelessAuth.App.Service
import StatelessAuth.Proofs.Http.Cookie

namespace StatelessAuth

-- ============================================================= the past

section

variable {α : Type} {p q : List α → α → Prop} {past rest : List α} {a : α}

/-- Something holds of each entry of a list and the entries before it. -/
def Throughout (p : List α → α → Prop) (entries : List α) : Prop :=
  ∀ before entry after, entries = before ++ entry :: after → p before entry

theorem throughout_nil : Throughout p [] := by
  intro before entry after heq
  exact absurd heq.symm
    (List.append_ne_nil_of_right_ne_nil before (List.cons_ne_nil _ _))

/-- What held of each entry so far did not depend on what came after
it. -/
theorem Throughout.of_append (h : Throughout p (past ++ rest)) :
    Throughout p past := by
  intro before entry after heq
  rw [heq, List.append_assoc, List.cons_append] at h
  exact h before entry (after ++ rest) rfl

theorem Throughout.last (h : Throughout p (past ++ [a])) : p past a :=
  h past a [] rfl

theorem Throughout.and (h : Throughout p past) (h' : Throughout q past) :
    Throughout (fun before entry => p before entry ∧ q before entry) past :=
  fun before entry after heq =>
    ⟨h before entry after heq, h' before entry after heq⟩

/-- One more entry adds one thing to show, and takes nothing away. This
is the step that an induction along a run makes. -/
theorem throughout_concat :
    Throughout p (past ++ [a]) ↔ Throughout p past ∧ p past a := by
  constructor
  · intro h
    exact ⟨h.of_append, h.last⟩
  · intro h before entry after heq
    obtain ⟨hpast, hlast⟩ := h
    -- either the entry is the new one, or it stood before and the new
    -- one is the last of those after it
    rcases List.eq_nil_or_concat after with rfl | ⟨after, other, rfl⟩
    · obtain ⟨rfl, hentry⟩ := List.append_inj' heq rfl
      rw [← (List.cons.inj hentry).1]
      exact hlast
    · rw [List.concat_eq_append, ← List.cons_append, ← List.append_assoc] at heq
      obtain ⟨heq, -⟩ := List.append_inj' heq rfl
      exact hpast before entry after heq

/-- An invariant that every entry of the right kind keeps holds of the whole
list. -/
theorem Throughout.invariant {I : List α → Prop} (h : Throughout p past)
    (empty : I []) (keep : ∀ before entry, I before → p before entry →
      I (before ++ [entry])) :
    I past := by
  -- along the past from its beginning, since `keep` adds at the end
  induction past using List.reverseRecOn with
  | nil => exact empty
  | append_singleton before entry ih =>
      exact keep before entry (ih h.of_append) h.last

/-- What an invariant and the kind of an entry yield together holds throughout
the list. -/
theorem Throughout.of_invariant {I : List α → Prop} (h : Throughout p past)
    (empty : I [])
    (keep : ∀ before entry, I before → p before entry → I (before ++ [entry]))
    (yield : ∀ before entry, I before → p before entry → q before entry) :
    Throughout q past := by
  intro before entry after heq
  -- the invariant is wanted of what came before the entry, not of the
  -- whole list
  have hbefore : Throughout p before := by
    rw [heq] at h
    exact h.of_append
  exact yield before entry (hbefore.invariant empty keep)
    (h before entry after heq)

end

-- ============================================================== moments

/-- The values of the cookies that a response sets. -/
def Response.tokens (response : Response) : List String :=
  response.setCookies.filterMap Cookie.carried?

namespace Service

/-- What happens at one point of a run: an event, the state that it meets,
and its answer. -/
structure Moment where
  state : State
  event : Event
  answer : Answer

namespace Moment

/-- The response of a moment, if a request was answered in it. -/
def response? (moment : Moment) : Option Response :=
  match moment.answer with
  | .handled handled => some handled.response
  | _ => none

/-- The tokens that are given out in a moment. -/
def tokens (moment : Moment) : List String :=
  match moment.response? with
  | some response => response.tokens
  | none => []

/-- The moment is a request for a route. -/
def Asks (service : Service) (route : Route) (request : Request)
    (moment : Moment) : Prop :=
  moment.event = .request request
    ∧ Route.find service.apiRoot request.method request.path = .route route

/-- A request is answered, and done. -/
def IsDone (moment : Moment) : Prop :=
  ∃ response, moment.response? = some response ∧ response.status = 200

/-- The answer is the one that the application gives. -/
def IsOf (service : Service) (moment : Moment) : Prop :=
  moment.answer = (service.step moment.state moment.event).2

end Moment

/-- The moments of a run. -/
def transcript (service : Service) (state : State) : List Event → List Moment
  | [] => []
  | event :: rest =>
      let (next, answer) := service.step state event
      ⟨state, event, answer⟩ :: service.transcript next rest

/-- The moment in which an event meets a state. -/
def meet (service : Service) (state : State) (event : Event) : Moment :=
  ⟨state, event, (service.step state event).2⟩

/-- A moment is written down with the answer that was given. -/
theorem isOf_meet (service : Service) (state : State) (event : Event) :
    (service.meet state event).IsOf service :=
  rfl

variable {service : Service} {state : State} {events : List Event}
  {moment : Moment} {request other : Request} {route route' : Route}

/-- A moment is of one request. -/
theorem Moment.Asks.request_eq (h : moment.Asks service route request)
    (h' : moment.Asks service route' other) : request = other := by
  have hevent := h.1
  rw [h'.1] at hevent
  cases hevent
  rfl

/-- And the request is for one route. -/
theorem Moment.Asks.route_eq (h : moment.Asks service route request)
    (h' : moment.Asks service route' other) : route = route' := by
  have hfind := h.2
  rw [h.request_eq h', h'.2] at hfind
  cases hfind
  rfl

/-- The answers of a run are those of its moments, so that what is shown
of moments is shown of what clients see. -/
theorem run_eq_transcript :
    service.run state events
      = (service.transcript state events).map (·.answer) := by
  induction events generalizing state with
  | nil => rfl
  | cons event rest ih =>
      simp only [run, transcript, List.map_cons, ih]

/-- The first event meets the state, and the rest what it left. -/
theorem transcript_cons (service : Service) (state : State) (event : Event)
    (rest : List Event) :
    service.transcript state (event :: rest)
      = service.meet state event :: service.transcript
          (service.step state event).1 rest :=
  rfl

/-- Each event has its moment, in the same order. -/
theorem map_event_transcript (service : Service) (state : State)
    (events : List Event) :
    (service.transcript state events).map (·.event) = events := by
  induction events generalizing state with
  | nil => rfl
  | cons event rest ih =>
      simp only [transcript, List.map_cons, ih]

/-- In no state on the way is anything answered that the application
does not answer. -/
theorem isOf_of_mem_transcript (h : moment ∈ service.transcript state events) :
    moment.IsOf service := by
  induction events generalizing state with
  | nil => cases h
  | cons event rest ih =>
      rw [transcript, List.mem_cons] at h
      rcases h with rfl | h
      · rfl
      · exact ih h

/-- The same at every point of a run, as an invariant takes it. -/
theorem throughout_isOf (service : Service) (state : State)
    (events : List Event) :
    Throughout (fun _ moment => moment.IsOf service)
      (service.transcript state events) := by
  intro before moment after heq
  apply isOf_of_mem_transcript
  rw [heq]
  exact List.mem_append_right before (List.mem_cons_self ..)

-- ============================================================ responses

/-- A request is answered by the route alone, from the time and the
records as the moment finds them. -/
theorem Moment.IsOf.response?_of_request (h : moment.IsOf service)
    (hevent : moment.event = .request request) :
    moment.response?
      = some (service.respond moment.state.now moment.state.store
          request).response := by
  rw [Moment.IsOf, hevent] at h
  rw [Moment.response?, h, step]

/-- Only a request has a response. A record can be refused when it is
put, but that is no response either. -/
theorem Moment.IsOf.event_of_response? {response : Response}
    (h : moment.IsOf service) (hresponse : moment.response? = some response) :
    ∃ request, moment.event = .request request := by
  unfold Moment.IsOf at h
  rw [Moment.response?, h] at hresponse
  cases hevent : moment.event with
  | request request => exact ⟨request, rfl⟩
  | clock now => simp [hevent, step] at hresponse
  | drop key => simp [hevent, step] at hresponse
  | lifespan => simp [hevent, step] at hresponse
  | put key datum =>
      rw [hevent] at hresponse
      cases datum with
      | record fields =>
          rw [step] at hresponse
          cases hrule : AuthRecord.rule (.record fields)
          all_goals simp [hrule] at hresponse
      | _ => simp [step] at hresponse

theorem Moment.tokens_eq {response : Response}
    (h : moment.response? = some response) :
    moment.tokens = response.tokens := by
  rw [Moment.tokens, h]

end Service

end StatelessAuth
