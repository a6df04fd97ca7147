/-
Nothing is kept of a token that was given out, so none can be taken back by
itself. What takes tokens back is the salt of their user: once the record of
the user is dropped, or another salt is put in the place of the one that a
token was signed with, the token is turned away, at every instant and in
whatever state the store is later (`rotation_revokes`).

It is turned away as long as its salt is gone, and no longer. A salt that
comes back lets in again what was signed with it, however many other salts
there were meanwhile (`restored_salt_readmits`).

# Why no renewal carries a session over

A token is signed with the salt that the record of its identity has when it is
given out, by a login and by a visit alike, if each record is stored under the
name of its user (`Moment.IsOf.signed_of_keyed`). Which tokens led to it does
not matter. And that a stored record has the salt of the token later is ruled
out event by event, from the rotation on (`stored_of_puts`).
-/
import StatelessAuth.Proofs.App.Authenticity
import StatelessAuth.Proofs.App.Records

namespace StatelessAuth.Service

variable {service : Service} {start : State} {events : List Event}
  {past later : List Moment} {turn issued moment visit : Moment}
  {user salt : String}
  {token : Token}

namespace Moment

/-- The record of a user goes: it is dropped, or one with another salt takes
its place. -/
def Rotates (user : String) (moment : Moment) : Prop :=
  ∃ old, moment.state.store.find? user = some old
    ∧ (moment.event = .drop user
      ∨ ∃ new, moment.event.Puts user new ∧ new.tokenSalt ≠ old.tokenSalt)

/-- The moment is a visit to `me` with a text in the cookie. -/
def Shows (service : Service) (text : String) (moment : Moment) : Prop :=
  ∃ request, moment.Asks service .me request
    ∧ service.settings.cookieOf request = .ok (some text)

end Moment

/-- In none of the moments is a record with this salt put for the user. -/
def Unrestored (user salt : String) (moments : List Moment) : Prop :=
  ∀ moment ∈ moments, ∀ record, moment.event.Puts user record →
    record.tokenSalt ≠ salt

-- ========================================================== one moment

/-- What is given out is signed with the salt of the record of its identity. -/
theorem Moment.IsOf.signed_of_keyed (h : moment.IsOf service)
    (hkeyed : moment.state.store.IsKeyed)
    (htoken : token.toText ∈ moment.tokens) :
    ∃ signer, moment.state.store.find? token.identity = some signer
      ∧ Token.signatureFor service.settings.tokenKey token.identity
          token.expiration signer.tokenSalt = .ok token.signature := by
  obtain ⟨route, request, hroute, hasks, hdone⟩ :=
    h.asks_of_tokens (List.ne_nil_of_mem htoken)
  rcases hroute with rfl | rfl
  · -- the record of a login is looked up under the name that the token is given
    obtain ⟨payload, admission, -, hlogIn, htokens⟩ :=
      h.login_of_isDone hasks hdone
    obtain ⟨record, -, hrecord, -, -, hset, -⟩ := logIn_eq_ok_iff.1 hlogIn
    rw [htokens] at htoken
    obtain ⟨-, -, hidentity, -, hsigned⟩ :=
      Token.issue_eq_ok_iff.1 (issue_of_settingCookie hset htoken)
    rw [hidentity, hkeyed _ _ hrecord] at hsigned ⊢
    exact ⟨record, hrecord, hsigned⟩
  · obtain ⟨cookie, admission, -, hidentify, hresponse⟩ :=
      h.me_of_isDone hasks hdone
    obtain ⟨_, old, record, -, -, hrecord, -, hset, -⟩ :=
      identify_eq_ok_iff.1 hidentify
    rw [Moment.tokens_eq hresponse] at htoken
    obtain ⟨-, -, hidentity, -, hsigned⟩ :=
      Token.issue_eq_ok_iff.1 (issue_of_settingCookie hset htoken)
    rw [hidentity] at hsigned ⊢
    exact ⟨record, hrecord, hsigned⟩

/-- A visit with a token whose salt is not that of the record of its identity
is unauthorized. -/
theorem Moment.IsOf.unauthorized_of_other_salt (h : visit.IsOf service)
    (hshows : visit.Shows service token.toText)
    (hsigned : Token.signatureFor service.settings.tokenKey token.identity
      token.expiration salt = .ok token.signature)
    (hother : ∀ record, visit.state.store.find? token.identity = some record →
      record.tokenSalt ≠ salt) :
    visit.response? = some .unauthorized
      ∨ ∃ current, visit.state.store.find? token.identity = some current
          ∧ token.CollidesUnder service.settings.tokenKey salt
              current.tokenSalt := by
  obtain ⟨request, hasks, hcookie⟩ := hshows
  rcases identify_of_other_salt visit.state.now hsigned hother
    with ⟨why, hwhy⟩ | hcollides
  · left
    rw [h.response?_of_me hasks, me_of_rejected hcookie hwhy]
  · exact Or.inr hcollides

/-- What a rotation leaves under the name of the user has another salt than
every one that it does not put there. -/
theorem Moment.Rotates.salt_ne (h : turn.Rotates user)
    (hother : ∀ record, turn.event.Puts user record → record.tokenSalt ≠ salt) :
    ∀ record, (service.step turn.state turn.event).1.store.find? user
      = some record → record.tokenSalt ≠ salt := by
  intro record hfind
  -- what is there after the rotation was put by it, since nothing
  -- survives it
  rcases find?_step hfind with hputs | ⟨-, hdrop, hnone⟩
  · exact hother record hputs
  · obtain ⟨old, -, hevent⟩ := h
    rcases hevent with hdropped | ⟨new, hputs, -⟩
    · exact absurd hdropped hdrop
    · exact absurd hputs (hnone new)

-- ============================================== runs with other salts

/-- The record of the sample with another salt. -/
def sampleRenewed (stored salt : String) : AuthRecord :=
  { sampleRecord stored with tokenSalt := salt }

def samplePut (stored salt : String) : Event :=
  .put "ana" (sampleRenewed stored salt).toValue

/-- The state after other salts were put, the last one first. -/
def sampleAfter (stored : String) : List String → State
  | [] => sampleStart stored
  | salt :: earlier =>
      { sampleAfter stored earlier with
        store := (sampleAfter stored earlier).store.put "ana"
          (sampleRenewed stored salt) }

/-- A login, other salts for its user one after the other, and a visit. -/
def sampleRotation (stored text : String) (salts : List String) : List Event :=
  .request sampleLogin ::
    (salts.map (samplePut stored) ++ [.request (sampleVisit text)])

variable {stored text : String} {earlier : List String}

theorem puts_samplePut_iff {key : String} {record : AuthRecord} :
    (samplePut stored salt).Puts key record
      ↔ key = "ana" ∧ record = sampleRenewed stored salt :=
  Event.puts_put_toValue_iff (show "ana" ≠ "" by decide)

/-- A moment in which a salt is put, and the run from the state that it
leaves. -/
theorem transcript_samplePut (events : List Event) :
    sample.transcript (sampleAfter stored earlier)
      (samplePut stored salt :: events)
      = sample.meet (sampleAfter stored earlier) (samplePut stored salt)
        :: sample.transcript (sampleAfter stored (salt :: earlier)) events := by
  have hstep : (sample.step (sampleAfter stored earlier)
      (samplePut stored salt)).1 = sampleAfter stored (salt :: earlier) :=
    step_of_puts (puts_samplePut_iff.2 ⟨rfl, rfl⟩)
  rw [transcript_cons, hstep]

/-- The login leaves the state as it was, and then the salts are put. -/
theorem transcript_sampleRotation (stored text : String) (salts : List String) :
    sample.transcript (sampleStart stored) (sampleRotation stored text salts)
      = sample.meet (sampleStart stored) (.request sampleLogin)
        :: sample.transcript (sampleAfter stored [])
          (salts.map (samplePut stored) ++ [.request (sampleVisit text)]) :=
  rfl

theorem find?_sampleAfter :
    (sampleAfter stored (salt :: earlier)).store.find? "ana"
      = some (sampleRenewed stored salt) :=
  Store.find?_put_self ..

/-- Each salt that is put is a rotation, if it is not the one before it. -/
theorem rotates_samplePut {old : AuthRecord}
    (hold : (sampleAfter stored earlier).store.find? "ana" = some old)
    (hne : salt ≠ old.tokenSalt) :
    (sample.meet (sampleAfter stored earlier)
      (samplePut stored salt)).Rotates "ana" :=
  ⟨old, hold, Or.inr
    ⟨sampleRenewed stored salt, puts_samplePut_iff.2 ⟨rfl, rfl⟩, hne⟩⟩

/-- A request puts no record. -/
theorem unrestored_request (state : State) (request : Request) :
    Unrestored user salt [sample.meet state (.request request)] := by
  intro moment hmoment record hputs
  rw [List.mem_singleton] at hmoment
  subst hmoment
  obtain ⟨_, hevent, -⟩ := hputs
  cases hevent

/-- A salt that is put is another one, and so are those after it. -/
theorem unrestored_samplePut {state : State} {other : String}
    (hne : other ≠ salt) (h : Unrestored user salt later) :
    Unrestored user salt
      (sample.meet state (samplePut stored other) :: later) := by
  refine List.forall_mem_cons.2 ⟨?_, h⟩
  intro record hputs
  obtain ⟨-, rfl⟩ := puts_samplePut_iff.1 hputs
  exact hne

/-- The one record of the start is under its name. -/
theorem isKeyed_sampleStart (stored : String) :
    (sampleStart stored).store.IsKeyed := by
  intro key record hfind
  by_cases hkey : key = "ana"
  · subst hkey
    cases hfind
    rfl
  · have hstore : (sampleStart stored).store
        = Store.empty.put "ana" (sampleRecord stored) := rfl
    rw [hstore, Store.find?_put_of_ne _ _ hkey] at hfind
    cases hfind

/-- Every record that is put is under its name. -/
theorem isKeyed_sampleRotation (stored text : String) (salts : List String) :
    ∀ event ∈ sampleRotation stored text salts, ∀ key record,
      event.Puts key record → record.username = key := by
  intro event hevent key record hputs
  rw [sampleRotation, List.mem_cons, List.mem_append,
    List.mem_singleton] at hevent
  rcases hevent with rfl | hevent | rfl
  · obtain ⟨_, hevent, -⟩ := hputs
    cases hevent
  · obtain ⟨salt, -, rfl⟩ := List.mem_map.1 hevent
    obtain ⟨rfl, rfl⟩ := puts_samplePut_iff.1 hputs
    rfl
  · obtain ⟨_, hevent, -⟩ := hputs
    cases hevent

/-- The visit shows any text that a cookie holds without quotes. -/
theorem shows_sampleVisit (h : text.toList.all Cookie.isTokenChar = true)
    (state : State) :
    (sample.meet state (.request (sampleVisit text))).Shows sample text :=
  ⟨_, asks_sampleVisit state text, cookieOf_sampleVisit h⟩

/-- The login gives out a token, which lets its bearer in wherever the record is
the same as before. -/
theorem sample_readmits :
    ∃ (stored : String) (token : Token), token.identity = "ana"
      ∧ token.toText.toList.all Cookie.isTokenChar = true
      ∧ (sample.meet (sampleStart stored) (.request sampleLogin)).tokens
          = [token.toText]
      ∧ ∀ store : Store, store.find? "ana" = some (sampleRecord stored) →
        (sample.meet ⟨(sampleStart stored).now, store⟩
          (.request (sampleVisit token.toText))).IsDone := by
  obtain ⟨stored, setCookie, token, deadline, hlogIn, hset, hcarried, hfor,
    hdeadline⟩ := sample_logIn
  have htoken := (Token.all_isTokenChar_toText hfor.signed).2
  have hle : (sampleStart stored).now ≤ deadline := by
    show 63839664000000000 ≤ deadline.micros
    omega
  refine ⟨stored, token, hfor.named, htoken, ?_, ?_⟩
  · exact ((isOf_meet ..).tokens_of_logIn
      (asks_sampleLogin _) take_sampleLogin hlogIn hcarried).2
  · intro store hrecord
    exact (isOf_meet ..).isDone_of_identify (asks_sampleVisit _ _)
      (cookieOf_sampleVisit htoken) (identify_of_isFor hfor hrecord hle hset)

-- ============================================================ all runs

/-- After a rotation no record of the user has a salt that is not put again. -/
theorem salt_ne_of_rotates
    (hrun : service.transcript start events = past ++ turn :: later)
    (hturn : turn.Rotates user)
    (hunrestored : Unrestored user salt (turn :: later)) :
    ∀ moment ∈ later, ∀ record, moment.state.store.find? user = some record →
      record.tokenSalt ≠ salt := by
  obtain ⟨hfirst, hrest⟩ := List.forall_mem_cons.1 hunrestored
  -- neither what the rotation leaves has the salt nor what is put after it
  have hlater := transcript_suffix hrun
  have hputs : ∀ event ∈ later.map (·.event), ∀ key record,
      event.Puts key record → key = user → record.tokenSalt ≠ salt := by
    intro event hevent key record hputs hkey
    obtain ⟨moment, hmoment, rfl⟩ := List.mem_map.1 hevent
    rw [hkey] at hputs
    exact hrest moment hmoment record hputs
  have hstart : ∀ key record,
      (service.step turn.state turn.event).1.store.find? key = some record →
      key = user → record.tokenSalt ≠ salt := by
    intro key record hfind hkey
    rw [hkey] at hfind
    exact hturn.salt_ne hfirst record hfind
  intro moment hmoment record hfind
  rw [hlater] at hmoment
  exact stored_of_puts hstart hputs moment hmoment user record hfind rfl

/-- In a run in which each record is stored under the name of its user, a token
that is given out before the record of its identity goes was signed with the
salt of a record of that time, and unless this salt is put again for the user,
every later visit that shows the token is unauthorized; only messages that
collide are an exception. -/
theorem rotation_revokes (service : Service) (start : State)
    (events : List Event) {past later : List Moment} {turn issued : Moment}
    {token : Token}
    (hkeyed : start.store.IsKeyed)
    (hputs : ∀ event ∈ events, ∀ key record, event.Puts key record →
      record.username = key)
    (hrun : service.transcript start events = past ++ turn :: later)
    (hturn : turn.Rotates token.identity)
    (hissued : issued ∈ past) (htoken : token.toText ∈ issued.tokens) :
    ∃ signer, issued.state.store.find? token.identity = some signer
      ∧ Token.signatureFor service.settings.tokenKey token.identity
          token.expiration signer.tokenSalt = .ok token.signature
      ∧ (Unrestored token.identity signer.tokenSalt (turn :: later) →
        ∀ visit ∈ later, visit.Shows service token.toText →
          visit.response? = some .unauthorized
          ∨ ∃ current, visit.state.store.find? token.identity = some current
            ∧ token.CollidesUnder service.settings.tokenKey signer.tokenSalt
              current.tokenSalt) := by
  have hissued' : issued ∈ service.transcript start events := by
    rw [hrun]
    exact List.mem_append_left _ hissued
  obtain ⟨signer, hsigner, hsigned⟩ :=
    (isOf_of_mem_transcript hissued').signed_of_keyed
      (stored_of_puts hkeyed hputs issued hissued') htoken
  refine ⟨signer, hsigner, hsigned, ?_⟩
  intro hunrestored visit hvisit hshows
  have hvisit' : visit ∈ service.transcript start events := by
    rw [hrun]
    exact List.mem_append_right _ (List.mem_cons_of_mem _ hvisit)
  exact (isOf_of_mem_transcript hvisit').unauthorized_of_other_salt
    hshows hsigned (salt_ne_of_rotates hrun hturn hunrestored visit hvisit)

/-- A second salt puts an end to the token of the login. -/
theorem rotation_revokes_of_second_salt :
    ∃ (stored : String) (token : Token) (login turn visit : Moment),
      sample.transcript (sampleStart stored)
          (sampleRotation stored token.toText ["second"])
        = [login] ++ turn :: [visit]
      ∧ turn.Rotates token.identity ∧ token.toText ∈ login.tokens
      ∧ visit.Shows sample token.toText
      ∧ (visit.response? = some .unauthorized
        ∨ ∃ current, visit.state.store.find? token.identity = some current
          ∧ token.CollidesUnder sample.settings.tokenKey "salt"
            current.tokenSalt) := by
  obtain ⟨stored, token, hidentity, htoken, htokens, -⟩ := sample_readmits
  have hrun : sample.transcript (sampleStart stored)
      (sampleRotation stored token.toText ["second"])
      = [sample.meet (sampleStart stored) (.request sampleLogin)]
        ++ sample.meet (sampleAfter stored []) (samplePut stored "second")
          :: [sample.meet (sampleAfter stored ["second"])
            (.request (sampleVisit token.toText))] := by
    rw [transcript_sampleRotation, List.map_cons, List.cons_append,
      transcript_samplePut]
    rfl
  have hturn : (sample.meet (sampleAfter stored [])
      (samplePut stored "second")).Rotates token.identity := by
    rw [hidentity]
    exact rotates_samplePut rfl (show "second" ≠ "salt" by decide)
  have hgiven : token.toText
      ∈ (sample.meet (sampleStart stored) (.request sampleLogin)).tokens := by
    rw [htokens]
    exact List.mem_singleton_self _
  obtain ⟨signer, hsigner, -, hvisits⟩ :=
    rotation_revokes sample (sampleStart stored) _
      (isKeyed_sampleStart stored)
      (isKeyed_sampleRotation stored token.toText ["second"]) hrun hturn
      (List.mem_singleton_self _) hgiven
  have hsalt : signer = sampleRecord stored := by
    rw [hidentity] at hsigner
    exact (Option.some.inj hsigner).symm
  subst hsalt
  have hunrestored : Unrestored token.identity (sampleRecord stored).tokenSalt
      [sample.meet (sampleAfter stored []) (samplePut stored "second"),
        sample.meet (sampleAfter stored ["second"])
        (.request (sampleVisit token.toText))] :=
    unrestored_samplePut (show "second" ≠ "salt" by decide)
      (unrestored_request _ _)
  have hshows := shows_sampleVisit htoken (sampleAfter stored ["second"])
  exact ⟨stored, token, _, _, _, hrun, hturn, hgiven, hshows,
    hvisits hunrestored _ (List.mem_singleton_self _) hshows⟩

/-- A token that is given out before two rotations is of use again when its
salt is put a third time, though the salt that the second of them replaced is
not. -/
theorem restored_salt_readmits :
    ∃ (stored : String) (token : Token) (login first turn again visit : Moment)
      (old signer current : AuthRecord),
      sample.transcript (sampleStart stored)
          (sampleRotation stored token.toText ["second", "third", "salt"])
        = [login, first] ++ turn :: [again, visit]
      ∧ (sampleStart stored).store.IsKeyed
      ∧ (∀ event ∈ sampleRotation stored token.toText
          ["second", "third", "salt"], ∀ key record, event.Puts key record →
          record.username = key)
      ∧ turn.Rotates token.identity
        ∧ turn.state.store.find? token.identity = some old
      ∧ Unrestored token.identity old.tokenSalt [turn, again, visit]
      ∧ token.toText ∈ login.tokens ∧ visit.Shows sample token.toText
        ∧ visit.IsDone
      ∧ login.state.store.find? token.identity = some signer
      ∧ visit.state.store.find? token.identity = some current
      ∧ ¬ token.CollidesUnder sample.settings.tokenKey signer.tokenSalt
          current.tokenSalt := by
  obtain ⟨stored, token, hidentity, htoken, htokens, hdone⟩ := sample_readmits
  have hrun : sample.transcript (sampleStart stored)
      (sampleRotation stored token.toText ["second", "third", "salt"])
      = [sample.meet (sampleStart stored) (.request sampleLogin),
          sample.meet (sampleAfter stored []) (samplePut stored "second")]
        ++ sample.meet (sampleAfter stored ["second"])
          (samplePut stored "third") ::
            [sample.meet (sampleAfter stored ["third", "second"])
                (samplePut stored "salt"),
              sample.meet (sampleAfter stored ["salt", "third", "second"])
                (.request (sampleVisit token.toText))] := by
    rw [transcript_sampleRotation, List.map_cons, List.cons_append,
      transcript_samplePut, List.map_cons, List.cons_append,
      transcript_samplePut, List.map_cons, List.cons_append,
      transcript_samplePut]
    rfl
  refine ⟨stored, token, _, _, _, _, _, sampleRenewed stored "second",
    sampleRecord stored, sampleRenewed stored "salt", hrun,
    isKeyed_sampleStart stored, isKeyed_sampleRotation _ _ _, ?_, ?_, ?_, ?_,
    shows_sampleVisit htoken _, ?_, ?_, ?_, ?_⟩
  · rw [hidentity]
    exact rotates_samplePut find?_sampleAfter
      (show "third" ≠ "second" by decide)
  · rw [hidentity]
    exact find?_sampleAfter
  · have hthird : "third" ≠ "second" := by decide
    have hsalt : "salt" ≠ "second" := by decide
    exact unrestored_samplePut hthird
      (unrestored_samplePut hsalt (unrestored_request _ _))
  · rw [htokens]
    exact List.mem_singleton_self _
  · exact hdone _ find?_sampleAfter
  · rw [hidentity]
    rfl
  · rw [hidentity]
    exact find?_sampleAfter
  · exact Token.not_collidesUnder_self _ _ token

end StatelessAuth.Service
