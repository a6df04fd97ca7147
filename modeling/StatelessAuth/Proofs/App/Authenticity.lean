/-
Nobody is let in who did not log in before (`run_authentic`): in a run in
which no signed text is presented that was not given out, every visit to
`me` that names somebody comes after a login under that name.

# Where a token comes from

A visit replaces the token that it presents by a new one, so that between
a login and a visit there may be any number of tokens, and records may have
come and gone meanwhile. But the new token has the identity of the old one,
and the old one was given out earlier. So each token that was given out
traces back to a login under its identity (`Traced`), which is the
invariant of the past; the record of the identity at each step matters only
for its salt.
-/
import StatelessAuth.Proofs.App.Responses
import StatelessAuth.Proofs.Http.CookieHeader

namespace StatelessAuth.Service

variable {service : Service} {past : List Moment} {moment : Moment}
  {identity text : String} {token : Token}

namespace Moment

/-- The moment is a login that is done, and the record that was looked up for
it is that of an identity. -/
def LogsIn (service : Service) (identity : String) (moment : Moment) : Prop :=
  ∃ request payload record, moment.Asks service .login request ∧ moment.IsDone
    ∧ RequestBody.take service.platform.depths LoginPayload.fields request
        = .ok payload
    ∧ moment.state.store.find? payload.username = some record
    ∧ record.username = identity

/-- The moment is a visit to `me` with a cookie whose token has the right
signature. -/
def Presents (service : Service) (text : String) (moment : Moment) : Prop :=
  ∃ request token record, moment.Asks service .me request
    ∧ service.settings.cookieOf request = .ok (some text)
    ∧ Token.ofText text = .ok token
    ∧ moment.state.store.find? token.identity = some record
    ∧ Token.signatureFor service.settings.tokenKey token.identity
      token.expiration record.tokenSalt = .ok token.signature

end Moment

/-- What the moment presents with the right signature was given out in the
past. -/
def Unforged (service : Service) (past : List Moment) (moment : Moment) :
    Prop :=
  ∀ text, moment.Presents service text → ∃ earlier ∈ past, text ∈ earlier.tokens

/-- Every token that was given out traces back to a login under its
identity. -/
def Traced (service : Service) (past : List Moment) : Prop :=
  ∀ moment ∈ past, ∀ text ∈ moment.tokens, ∀ token,
    Token.ofText text = .ok token →
    ∃ login ∈ past, login.LogsIn service token.identity

-- ========================================================== one moment

/-- A text names only one identity, and a cookie that is set holds the
text of the one that it was set for. -/
private theorem identity_of_settingCookie {settings : Settings} {now : Instant}
    {salt setCookie : String}
    (hset : settings.settingCookie now identity salt = .ok setCookie)
    (htext : text ∈ [setCookie].filterMap Cookie.carried?)
    (hread : Token.ofText text = .ok token) : token.identity = identity := by
  rw [(Token.ofText_eq_ok_iff.1 hread).1] at htext
  obtain ⟨-, -, hidentity, -, -⟩ :=
    Token.issue_eq_ok_iff.1 (issue_of_settingCookie hset htext)
  exact hidentity

/-- A visit is done only with a token of the right signature, and
answers with another of the same identity. -/
theorem Moment.IsOf.presents_of_isDone {request : Request}
    (h : moment.IsOf service) (hasks : moment.Asks service .me request)
    (hdone : moment.IsDone) :
    ∃ text token salt, ∃ admission : Admission, moment.Presents service text
      ∧ Token.ofText text = .ok token
      ∧ service.settings.settingCookie moment.state.now token.identity salt
          = .ok admission.setCookie
      ∧ moment.response? = some (.done (IdentityOut.toValue ⟨token.identity⟩)
          [admission.setCookie]) := by
  obtain ⟨cookie, admission, hcookie, hidentify, hresponse⟩ :=
    h.me_of_isDone hasks hdone
  obtain ⟨text, token, record, rfl, hread, hrecord, hcheck, hset, hidentity⟩ :=
    identify_eq_ok_iff.1 hidentify
  have hsignature := (Token.check_eq_ok_iff.1 hcheck).1
  rw [hidentity] at hresponse
  exact ⟨text, token, record.tokenSalt, admission,
    ⟨request, token, record, hasks, hcookie, hread, hrecord, hsignature⟩,
    hread, hset, hresponse⟩

/-- A token is given out to who logs in under its identity, or to who
presents a token of the same identity. -/
theorem Moment.IsOf.origin (h : moment.IsOf service)
    (htext : text ∈ moment.tokens) (hread : Token.ofText text = .ok token) :
    moment.LogsIn service token.identity
      ∨ ∃ shown old, moment.Presents service shown
        ∧ Token.ofText shown = .ok old
          ∧ old.identity = token.identity := by
  obtain ⟨route, request, hroute, hasks, hdone⟩ :=
    h.asks_of_tokens (List.ne_nil_of_mem htext)
  -- cookies with a value are set by two routes, and by no other
  rcases hroute with rfl | rfl
  · left
    obtain ⟨payload, admission, htake, hlogin, htokens⟩ :=
      h.login_of_isDone hasks hdone
    obtain ⟨record, key, hrecord, -, -, hset, -⟩ := logIn_eq_ok_iff.1 hlogin
    rw [htokens] at htext
    exact ⟨request, payload, record, hasks, hdone, htake, hrecord,
      (identity_of_settingCookie hset htext hread).symm⟩
  · right
    obtain ⟨shown, old, salt, admission, hpresents, hold, hset, hresponse⟩ :=
      h.presents_of_isDone hasks hdone
    rw [Moment.tokens_eq hresponse] at htext
    exact ⟨shown, old, hpresents, hold,
      (identity_of_settingCookie hset htext hread).symm⟩

-- ================================================= a run of one visit

/-- Documents are read and quoted to depths that are common, and there are no
pages. -/
def samplePlatform : Platform := ⟨⟨960, 940⟩, fun _ => none⟩

/-- An application whose tokens hold for a minute. -/
def sample : Service :=
  ⟨samplePlatform,
    ⟨.text "WebToken Auth", .text "/api/v1", .bytes [112], .bytes [107],
      .real (.ofInt 60), .text "auth-token", .text "INFO"⟩,
      "/api/v1", ⟨some 20⟩⟩

/-- The login of the sample, with what stands between the quotes of the
password. -/
def sampleLoginOf (quoted : String) : Request :=
  ⟨"POST", "/api/v1/auth/login",
    [("content-type", Utf8.encode "application/json")],
    Utf8.encode
      ("\x7b\"username\":\"ana\",\"pwd\":\"" ++ quoted ++ "\"\x7d")⟩

def sampleLogin : Request := sampleLoginOf "open"

def sampleVisit (text : String) : Request :=
  ⟨"GET", "/api/v1/auth/me",
    [("cookie", Utf8.encode ("auth-token" ++ "=" ++ text))], []⟩

def sampleRecord (stored : String) : AuthRecord :=
  ⟨"ana", stored, "pepper", "salt"⟩

/-- The start of 2024, with one record. -/
def sampleStart (stored : String) : State :=
  ⟨⟨63839664000000000, by decide⟩, ⟨[("ana", sampleRecord stored)]⟩⟩

/-- A login, and a visit a minute later. -/
def sampleEvents (text : String) : List Event :=
  [.request sampleLogin, .clock ⟨63839664060000000, by decide⟩,
    .request (sampleVisit text)]

/-- A payload is taken if the part of the outcome that can be compared says
so. -/
theorem take_eq_ok_of_toOption {α : Type} {depths : RequestBody.Depths}
    {fields : Rule α Wording} {request : Request} {payload : α}
    (h : (RequestBody.take depths fields request).toOption = some payload) :
    RequestBody.take depths fields request = .ok payload := by
  rcases htake : RequestBody.take depths fields request with response | taken
  · rw [htake] at h
    cases h
  · rw [htake] at h
    cases h
    rfl

theorem take_sampleLogin :
    RequestBody.take samplePlatform.depths LoginPayload.fields sampleLogin
      = .ok ⟨"ana", "open"⟩ :=
  take_eq_ok_of_toOption (by decide +kernel)

/-- What the browser sends back is the token itself. -/
theorem cookieOf_sampleVisit {text : String}
    (h : text.toList.all Cookie.isTokenChar = true) :
    sample.settings.cookieOf (sampleVisit text) = .ok (some text) := by
  have hname : Text.sameName "cookie" "cookie" = true := by decide +kernel
  have hheader : (sampleVisit text).header "cookie"
      = [received (Utf8.encode ("auth-token" ++ "=" ++ text))] := by
    simp [Request.header, sampleVisit, hname]
  show Except.ok ((sampleVisit text).cookie? "auth-token") = _
  rw [Cookie.cookie?_of_header (by decide +kernel) h hheader]

/-- The login succeeds, and gives out a token that holds until the visit. -/
theorem sample_logIn :
    ∃ (stored setCookie : String) (token : Token) (deadline : Instant),
      logIn sample.settings (sampleStart stored).now (sampleStart stored).store
          ⟨"ana", "open"⟩ = .ok ⟨"ana", setCookie⟩
      ∧ sample.settings.settingCookie (sampleStart stored).now
          (sampleRecord stored).username (sampleRecord stored).tokenSalt
            = .ok setCookie
      ∧ Cookie.carried? setCookie = some token.toText
      ∧ token.IsFor sample.settings.tokenKey (sampleRecord stored) deadline
      ∧ deadline.micros = 63839664060000000 := by
  obtain ⟨stored, hstored⟩ :=
    Password.exists_store
      (show sample.settings.passwordKey.usable? = some [112] from rfl)
        "open" "pepper"
  have hlifetime : sample.settings.tokenDuration.micros = .ok 60000000 := by
    decide +kernel
  have hnow : (sampleStart stored).now.micros = 63839664000000000 := rfl
  have hform : EndsInForm 60000000 (sampleStart stored).now := by
    refine ⟨⟨63839664060000000, by decide⟩, ?_, by decide +kernel⟩
    rw [hnow]
    decide
  obtain ⟨instant, hinstant, hyear⟩ := hform
  obtain ⟨issued, hissued⟩ := Token.exists_issue
    (Duration.after_eq_ok_iff.2 ⟨60000000, hlifetime, hinstant⟩)
    (show sample.settings.tokenKey.usable? = some [107] from rfl)
    (sampleRecord stored).username (sampleRecord stored).tokenSalt
  have hset := Settings.settingCookie_eq_ok_iff.2
    ⟨issued, "auth-token", hissued, rfl, by decide +kernel, rfl⟩
  obtain ⟨token, deadline, hcarried, hfor, hlasts⟩ :=
    isFor_of_settingCookie hset (show "ana" ≠ "" by decide) hlifetime
      ⟨instant, hinstant, hyear⟩
  refine ⟨stored, _, token, deadline, ?_, hset, hcarried, hfor, ?_⟩
  · exact logIn_eq_ok_iff.2
      ⟨sampleRecord stored, sample.settings.passwordKey, rfl, rfl,
      Password.checkGiven_eq_ok_iff.2
        ⟨"open", rfl, Password.check_eq_ok_iff.2 hstored⟩, hset, rfl⟩
  · rw [hnow] at hlasts
    omega

/-- The login is asked for, in whatever state. -/
theorem asks_sampleLogin (state : State) :
    (sample.meet state (.request sampleLogin)).Asks sample .login
      sampleLogin := by
  have hfind : Route.find "/api/v1" "POST" "/api/v1/auth/login"
      = .route .login := by
    decide +kernel
  exact ⟨rfl, hfind⟩

/-- And so is the visit, with any token. -/
theorem asks_sampleVisit (state : State) (text : String) :
    (sample.meet state (.request (sampleVisit text))).Asks sample .me
      (sampleVisit text) := by
  have hfind : Route.find "/api/v1" "GET" "/api/v1/auth/me" = .route .me := by
    decide +kernel
  exact ⟨rfl, hfind⟩

/-- The run has three moments. The clock leaves the records as they are,
so that the visit finds the ones of the start. -/
theorem sample_transcript (stored text : String) :
    ∃ login tick visit : Moment,
      sample.transcript (sampleStart stored) (sampleEvents text)
        = [login, tick, visit]
      ∧ login.IsOf sample ∧ login.state = sampleStart stored
      ∧ login.Asks sample .login sampleLogin
      ∧ (∀ request, tick.event ≠ .request request)
      ∧ visit.IsOf sample
      ∧ visit.state = ⟨⟨63839664060000000, by decide⟩,
          (sampleStart stored).store⟩
      ∧ visit.Asks sample .me (sampleVisit text) := by
  refine ⟨_, _, _, rfl, rfl, rfl, asks_sampleLogin _, ?_, rfl, rfl,
    asks_sampleVisit _ _⟩
  intro request h
  cases h

/-- In the run of the login and a visit with the token that it gave out, both
are done. -/
theorem sample_run :
    ∃ (stored : String) (token : Token) (login tick visit : Moment),
      sample.transcript (sampleStart stored) (sampleEvents token.toText)
        = [login, tick, visit]
      ∧ login.state = sampleStart stored
      ∧ login.Asks sample .login sampleLogin ∧ login.IsDone
      ∧ login.tokens = [token.toText]
      ∧ (∀ request, tick.event ≠ .request request)
      ∧ visit.state = ⟨⟨63839664060000000, by decide⟩,
          (sampleStart stored).store⟩
      ∧ visit.Asks sample .me (sampleVisit token.toText) ∧ visit.IsDone
      ∧ sample.settings.cookieOf (sampleVisit token.toText)
          = .ok (some token.toText) := by
  obtain ⟨stored, setCookie, token, deadline, hlogIn, hset, hcarried, hfor,
    hdeadline⟩ := sample_logIn
  obtain ⟨login, tick, visit, htranscript, hlogin, hstart, hasks, htick,
    hvisit, hstate, hasks'⟩ := sample_transcript stored token.toText
  have hcookie := cookieOf_sampleVisit
    (Token.all_isTokenChar_toText hfor.signed).2
  have hnow : visit.state.now.micros = 63839664060000000 := by rw [hstate]
  have hafter : Duration.after visit.state.now sample.settings.tokenDuration
      = .ok ⟨63839664120000000, by decide⟩ := by
    refine Duration.after_eq_ok_iff.2 ⟨60000000, by decide +kernel, ?_⟩
    rw [hnow]
    decide
  -- a visit sets a cookie too, and can: the settings are those that set
  -- one a minute ago
  obtain ⟨setCookie', hset'⟩ := Settings.settingCookie_again hset hafter
    (sampleRecord stored).username (sampleRecord stored).tokenSalt
  have hrecord : visit.state.store.find? (sampleRecord stored).username
      = some (sampleRecord stored) := by
    rw [hstate]
    rfl
  have hidentify := identify_of_isFor hfor hrecord
    (Nat.le_of_eq (hnow.trans hdeadline.symm)) hset'
  rw [← hstart] at hlogIn
  obtain ⟨hdone, htokens⟩ :=
    hlogin.tokens_of_logIn hasks take_sampleLogin hlogIn hcarried
  exact ⟨stored, token, login, tick, visit, htranscript, hstart, hasks,
    hdone, htokens, htick, hstate, hasks',
    hvisit.isDone_of_identify hasks' hcookie hidentify, hcookie⟩

-- ============================================================ all runs

/-- A moment that presents nothing forged keeps the invariant. -/
theorem traced_concat (h : Traced service past) (hmoment : moment.IsOf service)
    (hunforged : Unforged service past moment) :
    Traced service (past ++ [moment]) := by
  intro other hother text htext token hread
  rcases List.mem_append.1 hother with hother | hother
  · obtain ⟨login, hlogin, hlogsIn⟩ := h other hother text htext token hread
    exact ⟨login, List.mem_append_left _ hlogin, hlogsIn⟩
  · rw [List.mem_singleton] at hother
    subst hother
    rcases hmoment.origin htext hread
      with hlogsIn | ⟨shown, old, hpresents, hold, hsame⟩
    · exact ⟨other, List.mem_append_right _ (List.mem_singleton_self _),
        hlogsIn⟩
    · -- the token that was shown is older, so that its login is known
      obtain ⟨earlier, hearlier, hshown⟩ := hunforged shown hpresents
      obtain ⟨login, hlogin, hlogsIn⟩ :=
        h earlier hearlier shown hshown old hold
      rw [hsame] at hlogsIn
      exact ⟨login, List.mem_append_left _ hlogin, hlogsIn⟩

/-- In a run in which nothing forged is presented, whatever else happens in
it and whatever the records are, every visit to `me` that is done names an
identity under which a login was done before it; and of all responses only
those of a login or a visit to `me` that is done set a cookie with a
value. -/
theorem run_authentic (service : Service) (start : State) (events : List Event)
    (hunforged : Throughout (Unforged service)
      (service.transcript start events)) :
    Throughout
      (fun past moment =>
        (∀ request, moment.Asks service .me request → moment.IsDone →
          ∃ identity setCookies, moment.response?
              = some (.done (IdentityOut.toValue ⟨identity⟩) setCookies)
            ∧ ∃ login ∈ past, login.LogsIn service identity)
        ∧ (moment.tokens ≠ [] →
          ∃ route request, (route = .login ∨ route = .me)
            ∧ moment.Asks service route request ∧ moment.IsDone))
      (service.transcript start events) := by
  refine Throughout.of_invariant (I := Traced service)
    ((throughout_isOf service start events).and hunforged) ?empty ?keep ?yield
  case empty =>
    intro moment hmoment
    cases hmoment
  case keep =>
    intro past moment htraced ⟨hmoment, hunforged⟩
    exact traced_concat htraced hmoment hunforged
  case yield =>
    intro past moment htraced ⟨hmoment, hunforged⟩
    refine ⟨fun request hasks hdone => ?_, hmoment.asks_of_tokens⟩
    obtain ⟨text, token, salt, admission, hpresents, hread, -, hresponse⟩ :=
      hmoment.presents_of_isDone hasks hdone
    -- what the visit presents was given out, so that the invariant of
    -- the past has a login for it
    obtain ⟨earlier, hearlier, htext⟩ := hunforged text hpresents
    exact ⟨token.identity, _, hresponse,
      htraced earlier hearlier text htext token hread⟩

/-- The visit of the sample is done, and the login before it was under its
name. -/
theorem run_authentic_of_visit :
    ∃ (stored text : String) (past : List Moment) (visit : Moment),
      sample.transcript (sampleStart stored) (sampleEvents text)
        = past ++ [visit]
      ∧ Throughout (Unforged sample)
          (sample.transcript (sampleStart stored) (sampleEvents text))
      ∧ visit.IsDone
      ∧ ∃ identity setCookies, visit.response?
            = some (.done (IdentityOut.toValue ⟨identity⟩) setCookies)
          ∧ ∃ login ∈ past, login.LogsIn sample identity := by
  obtain ⟨stored, token, login, tick, visit, htranscript, -, hlogin, -,
    htokens, htick, -, hvisit, hdone, hcookie⟩ := sample_run
  have hfirst : Unforged sample [] login := by
    intro text h
    obtain ⟨request, _, _, hasks, -⟩ := h
    exact absurd (hlogin.route_eq hasks) (by decide)
  have hsecond : Unforged sample [login] tick := by
    intro text h
    obtain ⟨request, _, _, hasks, -⟩ := h
    exact absurd hasks.1 (htick request)
  have hthird : Unforged sample [login, tick] visit := by
    intro text h
    obtain ⟨request, _, _, hasks, hother, -⟩ := h
    rw [← hvisit.request_eq hasks, hcookie] at hother
    cases hother
    refine ⟨login, List.mem_cons_self .., ?_⟩
    rw [htokens]
    exact List.mem_singleton_self _
  have hunforged : Throughout (Unforged sample)
      (sample.transcript (sampleStart stored) (sampleEvents token.toText)) := by
    rw [htranscript]
    show Throughout (Unforged sample) ((([] ++ [login]) ++ [tick]) ++ [visit])
    rw [throughout_concat, throughout_concat, throughout_concat]
    exact ⟨⟨⟨throughout_nil, hfirst⟩, hsecond⟩, hthird⟩
  have hauthentic :=
    run_authentic sample (sampleStart stored) (sampleEvents token.toText)
      hunforged [login, tick] visit [] htranscript
  exact ⟨stored, token.toText, [login, tick], visit, htranscript,
    hunforged, hdone, hauthentic.1 _ hvisit hdone⟩

end StatelessAuth.Service
