/-
A session goes on as long as it is used (`session_slides`): after a login,
a client that always shows the token that it was given last is let in
exactly as long as no pause was longer than a token holds, and once it is
turned away it stays away.

# The invariant

At each point the client holds one token, and that token expires the
lifetime of a token after somebody was last let in (`Holds`). Expirations
travel as texts, so this is where it matters that a text names its instant
to the microsecond (`Timestamp.parse_format`). A visit that comes in time
replaces the token by one that expires later, and a visit that comes too
late replaces nothing, so that every later visit comes too late as well.

The other things that happen between the visits do not matter: they give
out no token, as long as there is no other login among them. Nor is anything
asked of the settings: that the first login is done shows that the name of
the cookie can be sent and that the key signs.
-/
import StatelessAuth.Proofs.App.Authenticity
import StatelessAuth.Proofs.Schema.Rule

namespace StatelessAuth.Service

variable {service : Service} {past : List Moment} {moment : Moment}
  {request : Request} {record : AuthRecord} {shift : Int} {token : Token}
  {since deadline : Instant}

-- ============================================================ the past

/-- Somebody is let in: a login or a visit to `me` that is done. -/
def Moment.letsIn (service : Service) (moment : Moment) : Bool :=
  match moment.event, moment.response? with
  | .request request, some response =>
      let destination := Route.find service.apiRoot request.method request.path
      (destination = .route .login || destination = .route .me)
        && response.status = 200
  | _, _ => false

/-- What is computed is what is meant: a route that lets in, and a
success. -/
theorem Moment.letsIn_iff :
    moment.letsIn service = true
      ↔ ∃ route request, (route = .login ∨ route = .me)
          ∧ moment.Asks service route request ∧ moment.IsDone := by
  unfold letsIn Asks IsDone
  rcases hevent : moment.event with _ | _ | _ | _ | request
  case request =>
    rcases hresponse : moment.response? with - | response
    · simp
    · simp only [Event.request.injEq, Option.some.injEq, Bool.and_eq_true,
        Bool.or_eq_true, decide_eq_true_eq, exists_eq_left']
      constructor
      · intro h
        rcases h with ⟨hfind | hfind, hstatus⟩
        · exact ⟨.login, request, Or.inl rfl, ⟨rfl, hfind⟩, hstatus⟩
        · exact ⟨.me, request, Or.inr rfl, ⟨rfl, hfind⟩, hstatus⟩
      · intro h
        obtain ⟨route, _, hroute, ⟨rfl, hfind⟩, hstatus⟩ := h
        rcases hroute with rfl | rfl
        · exact ⟨Or.inl hfind, hstatus⟩
        · exact ⟨Or.inr hfind, hstatus⟩
  all_goals simp

/-- The instant at which somebody was last let in. -/
def lastAdmission? (service : Service) (past : List Moment) : Option Instant :=
  (past.filter (·.letsIn service)).getLast?.map (·.state.now)

/-- The token that was given out last. -/
def lastToken? (past : List Moment) : Option String :=
  (past.flatMap (·.tokens)).getLast?

/-- An admission is the last one when it comes. -/
theorem lastAdmission?_concat (h : moment.letsIn service = true) :
    service.lastAdmission? (past ++ [moment]) = some moment.state.now := by
  rw [lastAdmission?, List.filter_append, List.filter_cons_of_pos h,
    List.filter_nil, List.getLast?_concat, Option.map_some]

theorem lastAdmission?_concat_of_not (h : moment.letsIn service = false) :
    service.lastAdmission? (past ++ [moment])
      = service.lastAdmission? past := by
  rw [lastAdmission?, lastAdmission?, List.filter_append,
    List.filter_cons_of_neg (by simp [h]), List.filter_nil, List.append_nil]

theorem lastToken?_concat {text : String} (h : moment.tokens = [text]) :
    lastToken? (past ++ [moment]) = some text := by
  rw [lastToken?, List.flatMap_append, List.flatMap_singleton, h,
    List.getLast?_concat]

theorem lastToken?_concat_of_nil (h : moment.tokens = []) :
    lastToken? (past ++ [moment]) = lastToken? past := by
  rw [lastToken?, lastToken?, List.flatMap_append, List.flatMap_singleton, h,
    List.append_nil]

/-- The last admission was at a moment of the past. -/
theorem exists_of_lastAdmission?
    (h : service.lastAdmission? past = some since) :
    ∃ earlier ∈ past, earlier.letsIn service = true
      ∧ earlier.state.now = since := by
  obtain ⟨earlier, hearlier, hsince⟩ := Option.map_eq_some_iff.1 h
  obtain ⟨hmem, hlets⟩ := List.mem_filter.1 (List.mem_of_getLast? hearlier)
  exact ⟨earlier, hmem, hlets, hsince⟩

-- ========================================================= the session

/-- A login that is done, of a record that is stored under its own name. -/
def Moment.Opens (service : Service) (record : AuthRecord) (moment : Moment) :
    Prop :=
  ∃ request payload, moment.Asks service .login request ∧ moment.IsDone
    ∧ RequestBody.take service.platform.depths LoginPayload.fields request
        = .ok payload
    ∧ payload.username = record.username
    ∧ moment.state.store.find? record.username = some record

/-- The application can give out tokens to the user of a record, and they hold
so many microseconds. -/
structure Serves (service : Service) (record : AuthRecord) (shift : Int) :
    Prop where
  lifetime : service.settings.tokenDuration.micros = .ok shift
  named : record.username ≠ ""
  able : ∃ now salt setCookie,
    service.settings.settingCookie now record.username salt = .ok setCookie

/-- A visit shows the token that was given out last, finds the record as it
was, and does not come before any admission or visit of the past; and it is
at an instant from which a lifetime ends in form. -/
structure Visits (service : Service) (record : AuthRecord) (shift : Int)
    (past : List Moment) (moment : Moment) (request : Request) : Prop where
  shown : service.settings.cookieOf request = .ok (lastToken? past)
  known : moment.state.store.find? record.username = some record
  onward : ∀ earlier ∈ past,
    (earlier.letsIn service = true ∨ ∃ other, earlier.Asks service .me other) →
      earlier.state.now ≤ moment.state.now
  inForm : EndsInForm shift moment.state.now

/-- The moment is no other login that is done, and if it is a visit to `me`,
it belongs to the session. -/
def Continues (service : Service) (record : AuthRecord) (shift : Int)
    (past : List Moment) (moment : Moment) : Prop :=
  ∀ request, ¬ (moment.Asks service .login request ∧ moment.IsDone)
    ∧ (moment.Asks service .me request →
      Visits service record shift past moment request)

/-- A visit is not later after the last admission than a token holds. -/
def InTime (service : Service) (shift : Int) (past : List Moment)
    (moment : Moment) : Prop :=
  ∀ request, moment.Asks service .me request →
    ∀ since, service.lastAdmission? past = some since →
      (moment.state.now.micros : Int) - since.micros ≤ shift

/-- The token that was given out last is one of the record and expires the
lifetime of a token after the last admission. Whoever was turned away came
after that, and as long as nobody was, every visit was in time. -/
structure Holds (service : Service) (record : AuthRecord) (shift : Int)
    (past : List Moment) (token : Token) (since deadline : Instant) : Prop where
  given : lastToken? past = some token.toText
  isFor : token.IsFor service.settings.tokenKey record deadline
  admitted : service.lastAdmission? past = some since
  lasts : (deadline.micros : Int) = since.micros + shift
  refused : ∀ earlier ∈ past, ∀ request, earlier.Asks service .me request →
    ¬ earlier.IsDone → deadline < earlier.state.now
  kept : Throughout (InTime service shift) past
    ∨ ∃ earlier ∈ past, ∃ request, earlier.Asks service .me request
      ∧ ¬ earlier.IsDone

-- ========================================================== one moment

/-- A visit in time is answered with the name and a token that expires the
lifetime of a token later. -/
theorem visit_in_time (h : Holds service record shift past token since deadline)
    (hserves : Serves service record shift)
    (hmoment : moment.IsOf service) (hasks : moment.Asks service .me request)
    (hvisits : Visits service record shift past moment request)
    (hle : moment.state.now ≤ deadline) :
    ∃ setCookies, ∃ fresh : Token, ∃ freshDeadline : Instant,
      moment.response? = some
        (.done (IdentityOut.toValue ⟨record.username⟩) setCookies)
      ∧ moment.tokens = [fresh.toText]
      ∧ fresh.IsFor service.settings.tokenKey record freshDeadline
      ∧ (freshDeadline.micros : Int) = moment.state.now.micros + shift := by
  obtain ⟨instant, hinstant, -⟩ := hvisits.inForm
  obtain ⟨_, _, _, hable⟩ := hserves.able
  obtain ⟨setCookie, hset⟩ := Settings.settingCookie_again hable
    (Duration.after_eq_ok_iff.2 ⟨shift, hserves.lifetime, hinstant⟩)
    record.username record.tokenSalt
  obtain ⟨fresh, freshDeadline, hcarried, hfor, hlasts⟩ :=
    isFor_of_settingCookie hset hserves.named hserves.lifetime hvisits.inForm
  have hcookie := hvisits.shown
  rw [h.given] at hcookie
  have hresponse := hmoment.response?_of_me hasks
  rw [me_of_identify hcookie (identify_of_isFor h.isFor hvisits.known hle hset)]
    at hresponse
  refine ⟨[setCookie], fresh, freshDeadline, hresponse, ?_, hfor, hlasts⟩
  rw [Moment.tokens_eq hresponse, Response.tokens_done hcarried]

/-- A visit after the expiration is turned away, though it shows the
right token. -/
theorem visit_too_late
    (h : Holds service record shift past token since deadline)
    (hmoment : moment.IsOf service) (hasks : moment.Asks service .me request)
    (hvisits : Visits service record shift past moment request)
    (hlt : deadline < moment.state.now) :
    moment.response? = some .unauthorized := by
  have hcookie := hvisits.shown
  rw [h.given] at hcookie
  rw [hmoment.response?_of_me hasks, me_of_rejected hcookie
    (identify_of_isFor_expired h.isFor hvisits.known hlt)]

/-- Who is turned away has nothing done. -/
theorem not_isDone_of_unauthorized (h : moment.response? = some .unauthorized) :
    ¬ moment.IsDone := by
  intro h
  obtain ⟨response, hresponse, hstatus⟩ := h
  rw [h] at hresponse
  cases hresponse
  exact absurd hstatus (by decide)

/-- A visit is in time if it is not after the expiration of the token. -/
theorem le_deadline_iff
    (h : Holds service record shift past token since deadline) :
    moment.state.now ≤ deadline
      ↔ (moment.state.now.micros : Int) - since.micros ≤ shift := by
  have hlasts := h.lasts
  show moment.state.now.micros ≤ deadline.micros ↔ _
  omega

/-- While the token has not expired, nobody was turned away, and every visit
was in time. -/
theorem kept_of_le (h : Holds service record shift past token since deadline)
    (hvisits : Visits service record shift past moment request)
    (hle : moment.state.now ≤ deadline) :
    Throughout (InTime service shift) past
      ∧ ∀ earlier ∈ past, ∀ other, earlier.Asks service .me other →
          earlier.IsDone := by
  have hnone : ∀ earlier ∈ past, ∀ other, earlier.Asks service .me other →
      earlier.IsDone := by
    intro earlier hmem other hother
    by_contra hnot
    have hlate : deadline.micros < earlier.state.now.micros :=
      h.refused earlier hmem other hother hnot
    have honward : earlier.state.now.micros ≤ moment.state.now.micros :=
      hvisits.onward earlier hmem (Or.inr ⟨other, hother⟩)
    have hle' : moment.state.now.micros ≤ deadline.micros := hle
    omega
  refine ⟨?_, hnone⟩
  -- whoever was turned away earlier came after the expiration, which is
  -- still to come
  rcases h.kept with hkept | ⟨earlier, hmem, other, hother, hnot⟩
  · exact hkept
  · exact absurd (hnone earlier hmem other hother) hnot

/-- Time goes on, so that a later token expires no earlier. -/
theorem Holds.le_of_visits
    (h : Holds service record shift past token since deadline)
    (hvisits : Visits service record shift past moment request)
    {fresh : Instant}
    (hlasts : (fresh.micros : Int) = moment.state.now.micros + shift) :
    deadline ≤ fresh := by
  obtain ⟨earlier, hmem, hlets, hsince⟩ := exists_of_lastAdmission? h.admitted
  have honward : earlier.state.now.micros ≤ moment.state.now.micros :=
    hvisits.onward earlier hmem (Or.inl hlets)
  rw [hsince] at honward
  have hdeadline := h.lasts
  show deadline.micros ≤ fresh.micros
  omega

/-- Every visit up to one is in time exactly if that one does not come after
the expiration of the token. -/
theorem inTime_iff (h : Holds service record shift past token since deadline)
    (hasks : moment.Asks service .me request)
    (hvisits : Visits service record shift past moment request) :
    Throughout (InTime service shift) (past ++ [moment])
      ↔ moment.state.now ≤ deadline := by
  rw [throughout_concat, le_deadline_iff h]
  constructor
  · intro hkept
    obtain ⟨-, hlast⟩ := hkept
    exact hlast request hasks since h.admitted
  · intro hle
    refine ⟨(kept_of_le h hvisits ((le_deadline_iff h).2 hle)).1, ?_⟩
    intro other _ instant hinstant
    rw [h.admitted] at hinstant
    cases hinstant
    exact hle

-- ========================================================= the whole run

/-- What a login that opens a session finds and sets. -/
theorem Moment.IsOf.opens (hmoment : moment.IsOf service)
    (hopens : moment.Opens service record) :
    record.username ≠ "" ∧ ∃ request setCookie,
      moment.Asks service .login request
      ∧ moment.IsDone
      ∧ service.settings.settingCookie moment.state.now record.username
          record.tokenSalt = .ok setCookie
      ∧ moment.tokens = [setCookie].filterMap Cookie.carried? := by
  obtain ⟨request, payload, hasks, hdone, htake, hname, hrecord⟩ := hopens
  obtain ⟨taken, admission, htaken, hlogin, htokens⟩ :=
    hmoment.login_of_isDone hasks hdone
  rw [htake] at htaken
  cases htaken
  obtain ⟨found, key, hfound, -, -, hset, -⟩ := logIn_eq_ok_iff.1 hlogin
  rw [hname, hrecord] at hfound
  cases hfound
  obtain ⟨items, hfields⟩ := RequestBody.fields_of_take htake
  have hne := LoginPayload.username_ne_empty hfields
  rw [hname] at hne
  exact ⟨hne, request, admission.setCookie, hasks, hdone, hset, htokens⟩

/-- The invariant holds of the login that opens the session. -/
theorem holds_of_opens (hmoment : moment.IsOf service)
    (hopens : moment.Opens service record)
    (hlifetime : service.settings.tokenDuration.micros = .ok shift)
    (hform : EndsInForm shift moment.state.now) :
    ∃ token since deadline,
      Holds service record shift [moment] token since deadline := by
  obtain ⟨hname, request, setCookie, hasks, hdone, hset, htokens⟩ :=
    hmoment.opens hopens
  obtain ⟨token, deadline, hcarried, hfor, hlasts⟩ :=
    isFor_of_settingCookie hset hname hlifetime hform
  rw [List.filterMap_cons_some hcarried, List.filterMap_nil] at htokens
  have hlets : moment.letsIn service = true :=
    Moment.letsIn_iff.2 ⟨.login, request, Or.inl rfl, hasks, hdone⟩
  have hnovisit : ∀ other, ¬ moment.Asks service .me other := by
    intro other hother
    exact absurd (hasks.route_eq hother) (by decide)
  have hgiven : lastToken? ([] ++ [moment]) = some token.toText :=
    lastToken?_concat htokens
  have hadmitted : service.lastAdmission? ([] ++ [moment])
      = some moment.state.now :=
    lastAdmission?_concat hlets
  refine ⟨token, moment.state.now, deadline, ?_⟩
  refine ⟨hgiven, hfor, hadmitted, hlasts, ?_, Or.inl ?_⟩
  · intro earlier hmem other hother
    rw [List.mem_singleton] at hmem
    rw [hmem] at hother
    exact absurd hother (hnovisit other)
  · show Throughout (InTime service shift) ([] ++ [moment])
    rw [throughout_concat]
    refine ⟨throughout_nil, ?_⟩
    intro other hother
    exact absurd hother (hnovisit other)

/-- The invariant survives a moment in which nobody is let in, if a visit in
it is too late: nothing is given out. -/
theorem Holds.concat_of_not
    (h : Holds service record shift past token since deadline)
    (hmoment : moment.IsOf service) (hlets : moment.letsIn service = false)
    (hlate : ∀ request, moment.Asks service .me request →
      deadline < moment.state.now) :
    Holds service record shift (past ++ [moment]) token since deadline := by
  have htokens : moment.tokens = [] := by
    by_contra htokens
    rw [Moment.letsIn_iff.2 (hmoment.asks_of_tokens htokens)] at hlets
    cases hlets
  refine ⟨?_, h.isFor, ?_, h.lasts, ?_, ?_⟩
  · rw [lastToken?_concat_of_nil htokens]
    exact h.given
  · rw [lastAdmission?_concat_of_not hlets]
    exact h.admitted
  · intro earlier hmem other hother hrefused
    rcases List.mem_append.1 hmem with hmem | hmem
    · exact h.refused earlier hmem other hother hrefused
    · rw [List.mem_singleton] at hmem
      rw [hmem] at hother ⊢
      exact hlate other hother
  -- a visit that lets nobody in is one that was turned away; without
  -- one the past is as it was
  · by_cases hvisit : ∃ request, moment.Asks service .me request
    · obtain ⟨request, hasks⟩ := hvisit
      refine Or.inr ⟨moment,
        List.mem_append_right _ (List.mem_singleton_self _), request,
        hasks, ?_⟩
      intro hdone
      rw [Moment.letsIn_iff.2 ⟨.me, request, Or.inr rfl, hasks, hdone⟩] at hlets
      cases hlets
    · rcases h.kept with hkept | ⟨earlier, hmem, hearlier⟩
      · exact Or.inl (throughout_concat.2
          ⟨hkept, fun other hother => absurd ⟨other, hother⟩ hvisit⟩)
      · exact Or.inr ⟨earlier, List.mem_append_left _ hmem, hearlier⟩

/-- The invariant holds of the new token after a visit in time. -/
theorem Holds.concat_of_le
    (h : Holds service record shift past token since deadline)
    (hserves : Serves service record shift)
    (hmoment : moment.IsOf service) (hasks : moment.Asks service .me request)
    (hvisits : Visits service record shift past moment request)
    (hle : moment.state.now ≤ deadline) :
    ∃ token since deadline,
      Holds service record shift (past ++ [moment]) token since deadline := by
  obtain ⟨setCookies, fresh, freshDeadline, hresponse, htokens, hfor, hlasts⟩ :=
    visit_in_time h hserves hmoment hasks hvisits hle
  obtain ⟨-, hdone⟩ := kept_of_le h hvisits hle
  have hdone' : moment.IsDone := ⟨_, hresponse, rfl⟩
  have hlets : moment.letsIn service = true :=
    Moment.letsIn_iff.2 ⟨.me, request, Or.inr rfl, hasks, hdone'⟩
  refine ⟨fresh, moment.state.now, freshDeadline, ?_⟩
  refine ⟨lastToken?_concat htokens, hfor,
    lastAdmission?_concat hlets, hlasts, ?_,
    Or.inl ((inTime_iff h hasks hvisits).2 hle)⟩
  intro earlier hmem other hother hrefused
  rcases List.mem_append.1 hmem with hmem | hmem
  · exact absurd (hdone earlier hmem other hother) hrefused
  · rw [List.mem_singleton] at hmem
    rw [hmem] at hrefused
    exact absurd hdone' hrefused

/-- The invariant survives every moment that belongs to the session. -/
theorem Holds.concat (h : Holds service record shift past token since deadline)
    (hserves : Serves service record shift)
    (hmoment : moment.IsOf service)
    (hcontinues : Continues service record shift past moment) :
    ∃ token since deadline,
      Holds service record shift (past ++ [moment]) token since deadline := by
  -- in time there is a new token to hold, and otherwise the old one is
  -- held on to
  by_cases hintime : ∃ request, moment.Asks service .me request
    ∧ moment.state.now ≤ deadline
  · obtain ⟨request, hasks, hle⟩ := hintime
    exact h.concat_of_le hserves hmoment hasks
      ((hcontinues request).2 hasks) hle
  · have hlate : ∀ request, moment.Asks service .me request →
        deadline < moment.state.now :=
      fun request hasks =>
        Nat.lt_of_not_le fun hle => hintime ⟨request, hasks, hle⟩
    refine ⟨token, since, deadline, h.concat_of_not hmoment ?_ hlate⟩
    refine Bool.eq_false_iff.2 (mt Moment.letsIn_iff.1 ?_)
    intro hlets
    rcases hlets with ⟨route, request, rfl | rfl, hasks, hdone⟩
    · exact (hcontinues request).1 ⟨hasks, hdone⟩
    · exact not_isDone_of_unauthorized (visit_too_late h hmoment hasks
        ((hcontinues request).2 hasks) (hlate request hasks)) hdone

/-- In a session, a visit is answered with the name of the user exactly if it
and all visits before it were in time, measured from the last admission.
If it is, it sets exactly one token, which expires the lifetime of a token
later, and not before the token that it replaces. If it is not, it is turned
away without a cookie; and after one visit that was turned away, so are all
others. -/
theorem session_slides {start : State} {events : List Event} {login : Moment}
    {later : List Moment}
    (hrun : service.transcript start events = login :: later)
    (hlifetime : service.settings.tokenDuration.micros = .ok shift)
    (hopens : login.Opens service record)
    (hform : EndsInForm shift login.state.now)
    (hlater : Throughout
      (fun before moment => Continues service record shift
        (login :: before) moment) later) :
    Throughout
      (fun before visit => ∀ request, visit.Asks service .me request →
        ((∃ setCookies, visit.response?
            = some (.done (IdentityOut.toValue ⟨record.username⟩) setCookies))
          ↔ Throughout (InTime service shift) (login :: before ++ [visit]))
        ∧ (visit.IsDone →
          ∃ (old fresh : Token) (oldDeadline deadline : Instant),
            lastToken? (login :: before) = some old.toText
            ∧ Timestamp.parse old.expiration = .ok oldDeadline
            ∧ visit.tokens = [fresh.toText]
            ∧ Timestamp.parse fresh.expiration = .ok deadline
            ∧ (deadline.micros : Int) = visit.state.now.micros + shift
            ∧ oldDeadline ≤ deadline)
        ∧ (¬ visit.IsDone → visit.response? = some .unauthorized)
        ∧ ((∃ earlier ∈ before, ∃ other, earlier.Asks service .me other
          ∧ ¬ earlier.IsDone) →
            visit.response? = some .unauthorized))
      later := by
  have hall := throughout_isOf service start events
  rw [hrun] at hall
  have hfirst : login.IsOf service := hall [] login later rfl
  have hrest : Throughout (fun _ moment => moment.IsOf service) later := by
    intro before moment after heq
    exact hall (login :: before) moment after (by rw [heq, List.cons_append])
  obtain ⟨hname, _, setCookie, -, -, hset, -⟩ := hfirst.opens hopens
  have hserves : Serves service record shift :=
    ⟨hlifetime, hname, _, _, setCookie, hset⟩
  refine Throughout.of_invariant
    (I := fun before => ∃ token since deadline,
      Holds service record shift (login :: before) token since deadline)
    (hrest.and hlater) ?empty ?keep ?yield
  case empty => exact holds_of_opens hfirst hopens hlifetime hform
  case keep =>
    intro before moment ⟨token, since, deadline, h⟩ ⟨hmoment, hcontinues⟩
    exact h.concat hserves hmoment hcontinues
  case yield =>
    intro before visit ⟨token, since, deadline, h⟩
      ⟨hmoment, hcontinues⟩ request hasks
    have hvisits := (hcontinues request).2 hasks
    by_cases hle : visit.state.now ≤ deadline
    · obtain ⟨setCookies, fresh, freshDeadline, hresponse, htokens, hfor,
        hlasts⟩ := visit_in_time h hserves hmoment hasks hvisits hle
      have hdone : visit.IsDone := ⟨_, hresponse, rfl⟩
      refine ⟨⟨fun _ => (inTime_iff h hasks hvisits).2 hle,
        fun _ => ⟨setCookies, hresponse⟩⟩, fun _ => ?_,
        fun hnot => absurd hdone hnot, ?_⟩
      · refine ⟨token, fresh, deadline, freshDeadline, h.given,
          h.isFor.expires, htokens, hfor.expires, hlasts, ?_⟩
        exact h.le_of_visits hvisits hlasts
      · intro hearlier
        obtain ⟨earlier, hmem, other, hother, hnot⟩ := hearlier
        exact absurd ((kept_of_le h hvisits hle).2 earlier
          (List.mem_cons_of_mem login hmem) other hother) hnot
    · have hresponse :=
        visit_too_late h hmoment hasks hvisits (Nat.lt_of_not_le hle)
      have hnot := not_isDone_of_unauthorized hresponse
      refine ⟨⟨?_, fun hkept =>
          absurd ((inTime_iff h hasks hvisits).1 hkept) hle⟩,
        fun hdone => absurd hdone hnot, fun _ => hresponse, fun _ => hresponse⟩
      intro hnamed
      obtain ⟨setCookies, hdone⟩ := hnamed
      exact absurd ⟨_, hdone, rfl⟩ hnot

/-- The visit of the sample, exactly a lifetime after the login, is in time and
is answered with a token that holds for another minute. -/
theorem session_slides_of_visit :
    ∃ (stored text : String) (login tick visit : Moment),
      sample.transcript (sampleStart stored) (sampleEvents text)
        = login :: [tick, visit]
      ∧ sample.settings.tokenDuration.micros = .ok 60000000
      ∧ login.Opens sample (sampleRecord stored)
        ∧ EndsInForm 60000000 login.state.now
      ∧ Throughout (fun before moment =>
          Continues sample (sampleRecord stored) 60000000 (login :: before)
            moment) [tick, visit]
      ∧ visit.Asks sample .me (sampleVisit text) ∧ visit.IsDone
      ∧ ∃ (fresh : Token) (deadline : Instant), visit.tokens = [fresh.toText]
          ∧ Timestamp.parse fresh.expiration = .ok deadline
          ∧ (deadline.micros : Int) = visit.state.now.micros + 60000000 := by
  obtain ⟨stored, token, login, tick, visit, htranscript, hstart, hlogin,
    hdone, htokens, htick, hstate, hvisit, hdone', hcookie⟩ := sample_run
  have hlifetime : sample.settings.tokenDuration.micros = .ok 60000000 := by
    decide +kernel
  have hnow : login.state.now.micros = 63839664000000000 := by
    rw [hstart]
    rfl
  have hnow' : visit.state.now.micros = 63839664060000000 := by rw [hstate]
  have hform : EndsInForm 60000000 login.state.now := by
    refine ⟨⟨63839664060000000, by decide⟩, ?_, by decide +kernel⟩
    rw [hnow]
    decide
  have hform' : EndsInForm 60000000 visit.state.now := by
    refine ⟨⟨63839664120000000, by decide⟩, ?_, by decide +kernel⟩
    rw [hnow']
    decide
  have hopens : login.Opens sample (sampleRecord stored) := by
    refine ⟨sampleLogin, _, hlogin, hdone, take_sampleLogin, rfl, ?_⟩
    rw [hstart]
    rfl
  have hsilent : ∀ route request, ¬ tick.Asks sample route request :=
    fun _ request h => htick request h.1
  have hnothing : tick.tokens = [] := by
    by_contra htokens
    have htickOf : tick.IsOf sample :=
      throughout_isOf sample _ _ [login] tick [visit] htranscript
    obtain ⟨route, request, -, hasks, -⟩ := htickOf.asks_of_tokens htokens
    exact hsilent route request hasks
  have hlater : Throughout (fun before moment =>
      Continues sample (sampleRecord stored) 60000000 (login :: before) moment)
      (([] ++ [tick]) ++ [visit]) := by
    rw [throughout_concat, throughout_concat]
    refine ⟨⟨throughout_nil, ?_⟩, ?_⟩
    · intro request
      exact ⟨fun h => hsilent _ request h.1,
        fun h => absurd h (hsilent _ request)⟩
    · intro request
      refine ⟨fun h => absurd (hvisit.route_eq h.1) (by decide), fun h => ?_⟩
      refine ⟨?_, ?_, ?_, hform'⟩
      · rw [← hvisit.request_eq h, hcookie]
        show _ = Except.ok (lastToken? (([] ++ [login]) ++ [tick]))
        rw [lastToken?_concat_of_nil hnothing, lastToken?_concat htokens]
      · rw [hstate]
        rfl
      · intro earlier hmem hcomes
        rcases List.mem_cons.1 hmem with rfl | hmem
        · show earlier.state.now.micros ≤ visit.state.now.micros
          omega
        · rw [List.mem_singleton.1 hmem] at hcomes
          rcases hcomes with hlets | ⟨other, hother⟩
          · obtain ⟨route, other, -, hother, -⟩ := Moment.letsIn_iff.1 hlets
            exact absurd hother (hsilent route other)
          · exact absurd hother (hsilent _ other)
  obtain ⟨-, hfresh, -, -⟩ :=
    session_slides htranscript hlifetime hopens hform hlater [tick] visit
      [] rfl (sampleVisit token.toText) hvisit
  obtain ⟨old, fresh, oldDeadline, deadline, -, -, hset, hparse,
    hdeadline, -⟩ := hfresh hdone'
  exact ⟨stored, token.toText, login, tick, visit, htranscript, hlifetime,
    hopens, hform, hlater, hvisit, hdone', fresh, deadline, hset,
    hparse, hdeadline⟩

end StatelessAuth.Service
