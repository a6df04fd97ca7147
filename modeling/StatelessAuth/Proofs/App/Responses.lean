/-
What each route can answer. A response that is no success is bare: its
status is not 200, and it sets no cookie (`Response.IsBare`). Whatever
goes wrong ends in a bare response, so that a login and a visit to `me` are
either bare or the one success that they have (`login_cases`, `me_cases`).

From this follows which responses give out tokens (`tokens_of_respond`).
A logoff that succeeds sets a cookie as well, but an empty one.
-/
import StatelessAuth.Proofs.App.Authentication
import StatelessAuth.Proofs.App.Transcript

namespace StatelessAuth

-- ======================================================= bare responses

/-- The response is no success, and sets no cookie. -/
def Response.IsBare (response : Response) : Prop :=
  response.status ≠ 200 ∧ response.setCookies = []

theorem Response.IsBare.tokens {response : Response} (h : response.IsBare) :
    response.tokens = [] := by
  rw [Response.tokens, h.2]
  rfl

theorem Response.isBare_plain {status : Nat} (body : Body) (h : status ≠ 200) :
    (plain status body).IsBare :=
  ⟨h, rfl⟩

theorem Response.isBare_broken (cause : Breakdown) : (broken cause).IsBare := by
  refine ⟨?_, rfl⟩
  show 500 ≠ 200
  decide

theorem Response.tokens_done {value : Value} {setCookie text : String}
    (h : Cookie.carried? setCookie = some text) :
    (done value [setCookie]).tokens = [text] := by
  show [setCookie].filterMap Cookie.carried? = [text]
  rw [List.filterMap_cons_some h, List.filterMap_nil]

namespace RequestBody

/-- A report is bare, and so is the breakdown when it cannot be sent. -/
theorem isBare_rejectionOf (reports : List Document) :
    (rejectionOf reports).IsBare := by
  unfold rejectionOf
  split
  case isTrue =>
    split
    case h_1 => exact Response.isBare_plain _ (by decide)
    case h_2 => exact Response.isBare_broken _
  case isFalse => exact Response.isBare_broken _

/-- A body that cannot be read is refused. -/
theorem isBare_unreadable (error : Json.ReadError) :
    (unreadable error).IsBare := by
  unfold unreadable
  split
  case isTrue => exact Response.isBare_plain _ (by decide)
  case isFalse => exact isBare_rejectionOf _

/-- Faults are refused, however many there are and whatever they
quote. -/
theorem isBare_rejection (depths : Depths) (faults : List (Fault Wording)) :
    (rejection depths faults).IsBare := by
  unfold rejection
  split
  case isTrue => exact isBare_rejectionOf _
  case isFalse => exact Response.isBare_broken _

variable {α : Type} {depths : RequestBody.Depths} {fields : Rule α Wording}
  {request : Request}

/-- A datum is answered with a bare response, or the payload is taken from a
record. -/
theorem check_cases (fields : Rule α Wording) (value : Document) :
    (∃ faults, check fields value = .invalid faults)
      ∨ ∃ items payload, check fields value = .valid payload
          ∧ fields (.record items) = .valid payload := by
  rcases hcheck : check fields value with payload | faults
  · right
    unfold check at hcheck
    split at hcheck
    case h_1 items => exact ⟨items, payload, rfl, hcheck⟩
    case h_2 => cases hcheck
  · exact Or.inl ⟨faults, rfl⟩

/-- A body is answered with a bare response, or the payload is taken from a
record. -/
theorem take_cases (depths : RequestBody.Depths) (fields : Rule α Wording)
    (request : Request) :
    (∃ response, take depths fields request = .error response ∧ response.IsBare)
      ∨ ∃ items payload, take depths fields request = .ok payload
          ∧ fields (.record items) = .valid payload := by
  unfold take
  simp only
  by_cases hempty : request.body = []
  · rw [if_pos hempty]
    exact Or.inl ⟨_, rfl, isBare_rejection _ _⟩
  rw [if_neg hempty]
  by_cases hjson : request.hasJsonBody = true
  · rw [if_pos hjson]
    rcases Json.readBytes depths.read request.body with error | value
    · exact Or.inl ⟨_, rfl, isBare_unreadable error⟩
    · simp only
      rcases check_cases fields value
        with ⟨faults, h⟩ | ⟨items, payload, h, hfields⟩
      · rw [h]
        exact Or.inl ⟨_, rfl, isBare_rejection _ _⟩
      · rw [h]
        exact Or.inr ⟨items, payload, rfl, hfields⟩
  · rw [if_neg hjson]
    rcases Utf8.decode? request.body with - | text
    · exact Or.inl ⟨_, rfl, Response.isBare_broken _⟩
    · -- a text is no record
      exact Or.inl ⟨_, rfl, isBare_rejection _ _⟩

/-- What is answered before there is a payload is bare. -/
theorem isBare_of_take {response : Response}
    (h : take depths fields request = .error response) : response.IsBare := by
  rcases take_cases depths fields request
    with ⟨other, hother, hbare⟩ | ⟨_, _, htaken, -⟩
  · rw [hother] at h
    cases h
    exact hbare
  · rw [htaken] at h
    cases h

/-- What is taken was taken from a record. -/
theorem fields_of_take {payload : α}
    (h : take depths fields request = .ok payload) :
    ∃ items, fields (.record items) = .valid payload := by
  rcases take_cases depths fields request
    with ⟨_, hother, -⟩ | ⟨items, other, htaken, hfields⟩
  · rw [hother] at h
    cases h
  · rw [htaken] at h
    cases h
    exact ⟨items, hfields⟩

end RequestBody

namespace Service

variable {depths : RequestBody.Depths} {settings : Settings} {now : Instant}
  {store : Store} {request : Request}

/-- What stops a request is told as a rejection or as a breakdown. -/
theorem isBare_stopped (setback : Setback) :
    (stopped setback).response.IsBare := by
  cases setback with
  | rejected why => exact Response.isBare_plain _ (by decide)
  | broken cause => exact Response.isBare_broken _

-- ============================================================== routes

/-- A login is answered with a bare response, or lets somebody in. -/
theorem login_cases (depths : RequestBody.Depths) (settings : Settings)
    (now : Instant) (store : Store) (request : Request) :
    (login depths settings now store request).response.IsBare
      ∨ ∃ payload admission,
          RequestBody.take depths LoginPayload.fields request = .ok payload
          ∧ logIn settings now store payload = .ok admission
          ∧ (login depths settings now store request).response
              = .done (LoginResult.toValue ⟨true⟩) [admission.setCookie] := by
  unfold login
  rcases htake : RequestBody.take depths LoginPayload.fields request
    with response | payload
  · exact Or.inl (RequestBody.isBare_of_take htake)
  · simp only
    rcases hlogin : logIn settings now store payload with setback | admission
    · exact Or.inl (isBare_stopped setback)
    · exact Or.inr ⟨payload, admission, rfl, hlogin, rfl⟩

/-- A visit to `me` is answered with a bare response, or lets somebody in. -/
theorem me_cases (settings : Settings) (now : Instant) (store : Store)
    (request : Request) :
    (me settings now store request).response.IsBare
      ∨ ∃ cookie admission, settings.cookieOf request = .ok cookie
          ∧ identify settings now store cookie = .ok admission
          ∧ (me settings now store request).response
              = .done (IdentityOut.toValue ⟨admission.identity⟩)
                  [admission.setCookie] := by
  unfold me
  rcases hcookie : settings.cookieOf request with cause | cookie
  · exact Or.inl (isBare_stopped _)
  · simp only
    rcases hidentify : identify settings now store cookie
      with setback | admission
    · exact Or.inl (isBare_stopped setback)
    · exact Or.inr ⟨cookie, admission, rfl, hidentify, rfl⟩

/-- Who is let in by a login is told so. -/
theorem login_of_logIn {payload : LoginPayload Wording} {admission : Admission}
    (htake : RequestBody.take depths LoginPayload.fields request = .ok payload)
    (h : logIn settings now store payload = .ok admission) :
    (login depths settings now store request).response
      = .done (LoginResult.toValue ⟨true⟩) [admission.setCookie] := by
  unfold login
  rw [htake]
  simp only
  rw [h]

/-- Who is let in by a visit is told the name. -/
theorem me_of_identify {cookie : Option String} {admission : Admission}
    (hcookie : settings.cookieOf request = .ok cookie)
    (h : identify settings now store cookie = .ok admission) :
    (me settings now store request).response
      = .done (IdentityOut.toValue ⟨admission.identity⟩)
          [admission.setCookie] := by
  unfold me
  rw [hcookie]
  simp only
  rw [h]

/-- Who is rejected on a visit is told nothing but that. -/
theorem me_of_rejected {cookie : Option String} {why : Rejection}
    (hcookie : settings.cookieOf request = .ok cookie)
    (h : identify settings now store cookie = .error (.rejected why)) :
    (me settings now store request).response = .unauthorized := by
  unfold me
  rw [hcookie]
  simp only
  rw [h]
  rfl

/-- A logoff gives out no token: the cookie that it sets is empty. -/
theorem tokens_logoff (depths : RequestBody.Depths) (settings : Settings)
    (now : Instant) (request : Request) :
    (logoff depths settings now request).response.tokens = [] := by
  unfold logoff
  rcases htake : RequestBody.take depths LogoffPayload.fields request
    with response | payload
  · exact (RequestBody.isBare_of_take htake).tokens
  · simp only
    split
    case isFalse => rfl
    case isTrue =>
      unfold Settings.removalCookie
      rcases hname : settings.sentCookieName with cause | name
      · rfl
      · have hsendable := (Settings.sentCookieName_eq_ok_iff.1 hname).2
        show [Cookie.removalText name now].filterMap Cookie.carried? = []
        rw [List.filterMap_cons_none
          (Cookie.carried?_removalText hsendable now)]
        rfl

theorem tokens_showPage (page : Option Body) :
    (showPage page).response.tokens = [] := by
  cases page with
  | none => rfl
  | some body => rfl

/-- Only logins and visits to `me` give out tokens, and only if they
succeed. -/
theorem tokens_of_respond {service : Service}
    (h : (service.respond now store request).response.tokens ≠ []) :
    ∃ route, (route = .login ∨ route = .me)
      ∧ Route.find service.apiRoot request.method request.path = .route route
      ∧ (service.respond now store request).response.status = 200 := by
  unfold respond at h ⊢
  -- the routes one by one; those that have nothing to do with cookies
  -- are closed together
  rcases hfind : Route.find service.apiRoot request.method request.path
    with (_ | _ | _ | _ | _) | _ | _ | _ | _
  all_goals
    rw [hfind] at h
    simp only at h ⊢
  · exact absurd (tokens_showPage _) h
  · refine ⟨.login, Or.inl rfl, rfl, ?_⟩
    rcases login_cases service.platform.depths service.settings now store
      request with hbare | ⟨_, _, _, _, hdone⟩
    · exact absurd hbare.tokens h
    · rw [hdone]
      rfl
  · exact absurd (tokens_logoff _ service.settings now request) h
  · refine ⟨.me, Or.inr rfl, rfl, ?_⟩
    rcases me_cases service.settings now store request
      with hbare | ⟨_, _, _, _, hdone⟩
    · exact absurd hbare.tokens h
    · rw [hdone]
      rfl
  all_goals exact absurd rfl h

-- ============================================================= moments

variable {service : Service} {moment : Moment}

namespace Moment.IsOf

/-- A login is answered from the records and the clock that the moment
meets. -/
theorem response?_of_login (h : moment.IsOf service)
    (hasks : moment.Asks service .login request) :
    moment.response? = some
      (login service.platform.depths service.settings moment.state.now
        moment.state.store request).response := by
  rw [h.response?_of_request hasks.1, respond, hasks.2]

/-- So is a visit. -/
theorem response?_of_me (h : moment.IsOf service)
    (hasks : moment.Asks service .me request) :
    moment.response? = some
      (me service.settings moment.state.now moment.state.store
        request).response := by
  rw [h.response?_of_request hasks.1, respond, hasks.2]

/-- A login that is done let somebody in, and gave out what the cookie
carries. -/
theorem login_of_isDone (h : moment.IsOf service)
    (hasks : moment.Asks service .login request) (hdone : moment.IsDone) :
    ∃ payload admission,
      RequestBody.take service.platform.depths LoginPayload.fields request
        = .ok payload
      ∧ logIn service.settings moment.state.now moment.state.store payload
          = .ok admission
      ∧ moment.tokens = [admission.setCookie].filterMap Cookie.carried? := by
  have hresponse := h.response?_of_login hasks
  obtain ⟨response, hresponse', hstatus⟩ := hdone
  rw [hresponse] at hresponse'
  cases hresponse'
  rcases login_cases service.platform.depths service.settings moment.state.now
      moment.state.store request
    with hbare | ⟨payload, admission, htake, hlogin, heq⟩
  · exact absurd hstatus hbare.1
  · refine ⟨payload, admission, htake, hlogin, ?_⟩
    rw [Moment.tokens_eq hresponse, heq]
    rfl

/-- A visit that is done let somebody in. -/
theorem me_of_isDone (h : moment.IsOf service)
    (hasks : moment.Asks service .me request) (hdone : moment.IsDone) :
    ∃ cookie admission, service.settings.cookieOf request = .ok cookie
      ∧ identify service.settings moment.state.now moment.state.store cookie
          = .ok admission
      ∧ moment.response?
          = some (.done (IdentityOut.toValue ⟨admission.identity⟩)
              [admission.setCookie]) := by
  have hresponse := h.response?_of_me hasks
  obtain ⟨response, hresponse', hstatus⟩ := hdone
  rw [hresponse] at hresponse'
  cases hresponse'
  rcases me_cases service.settings moment.state.now moment.state.store request
    with hbare | ⟨cookie, admission, hcookie, hidentify, heq⟩
  · exact absurd hstatus hbare.1
  · refine ⟨cookie, admission, hcookie, hidentify, ?_⟩
    rw [hresponse, heq]

/-- Where a token is given out, a login or a visit is done. -/
theorem asks_of_tokens (h : moment.IsOf service)
    (htokens : moment.tokens ≠ []) :
    ∃ route request, (route = .login ∨ route = .me)
      ∧ moment.Asks service route request
      ∧ moment.IsDone := by
  rcases hresponse : moment.response? with - | response
  · unfold Moment.tokens at htokens
    rw [hresponse] at htokens
    exact absurd rfl htokens
  · obtain ⟨request, hevent⟩ := h.event_of_response? hresponse
    have hrespond := h.response?_of_request hevent
    rw [Moment.tokens_eq hrespond] at htokens
    obtain ⟨route, hroute, hfind, hstatus⟩ := tokens_of_respond htokens
    exact ⟨route, request, hroute, ⟨hevent, hfind⟩, _, hrespond, hstatus⟩

/-- Who logs in is given the token that the cookie carries. -/
theorem tokens_of_logIn {payload : LoginPayload Wording}
    {admission : Admission} {text : String} (h : moment.IsOf service)
    (hasks : moment.Asks service .login request)
    (htake : RequestBody.take service.platform.depths LoginPayload.fields
      request = .ok payload)
    (hlogIn : logIn service.settings moment.state.now moment.state.store payload
      = .ok admission)
    (hcarried : Cookie.carried? admission.setCookie = some text) :
    moment.IsDone ∧ moment.tokens = [text] := by
  have hresponse := h.response?_of_login hasks
  rw [login_of_logIn htake hlogIn] at hresponse
  refine ⟨⟨_, hresponse, rfl⟩, ?_⟩
  rw [Moment.tokens_eq hresponse, Response.tokens_done hcarried]

/-- A visit of who is let in is done. -/
theorem isDone_of_identify {cookie : Option String} {admission : Admission}
    (h : moment.IsOf service) (hasks : moment.Asks service .me request)
    (hcookie : service.settings.cookieOf request = .ok cookie)
    (hidentify : identify service.settings moment.state.now
      moment.state.store cookie = .ok admission) :
    moment.IsDone := by
  have hresponse := h.response?_of_me hasks
  rw [me_of_identify hcookie hidentify] at hresponse
  exact ⟨_, hresponse, rfl⟩

end Moment.IsOf

end Service

end StatelessAuth
