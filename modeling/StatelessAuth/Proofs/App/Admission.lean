/-
What it takes to be let in, and what one gets, both said of the response
without the steps that lead to it. The settings are such that a cookie can be
set (`Settings.AreReady`): otherwise a visit and a login break down although
nobody is turned away.

# One judgement on two ways

A visit does not hand the text of its cookie over to the policy of the tokens.
It reads the text, looks for the record of whoever the token names, and has the
token checked with the salt of that record. The policy would read the text once
more and come to the same check, so that the two agree on every text
(`Shows.validate_eq`). What they do with an outcome differs. The policy tells
each reason from the others, and the visit tells all of them alike; and what is
no reason at all, an expiration that leaves the calendar on its way to UTC,
breaks the visit down.

# What goes where

A login handles two names, two keys and three texts of a record. The name in the
payload finds the record, and the name in the record is the one that the token
gets. The stored text is compared under the key of the passwords with the salt
of the passwords, and the token is signed under the other key with the other
salt. What a response has to do with them is said with each in its place
(`AuthRecord.Keeps`, `Response.LetsIn`). A password that has no bytes is kept by
no record, and yet a login with it is not turned away like the others
(`torn_password_breaks`).
-/
import StatelessAuth.Proofs.App.Configured
import StatelessAuth.Proofs.Token.Failures

namespace StatelessAuth

variable {settings : Settings} {now : Instant} {store : Store}
  {payload : LoginPayload Wording} {record : AuthRecord}
  {identity salt : String}

-- ============================================================= cookies

/-- Nothing but the key of the tokens can keep a cookie from being set with a
new token. -/
structure Settings.AreReady (settings : Settings) (now : Instant) : Prop where
  cookieName : ∃ name, settings.cookieName = .text name
    ∧ Cookie.isSendable name = true
  lifetime : ∃ deadline, Duration.after now settings.tokenDuration
    = .ok deadline

/-- The response is a success. It sets one cookie, of the name in the settings,
and what the cookie carries is what the policy of the settings issues. -/
def Response.LetsIn (settings : Settings) (now : Instant)
    (identity salt : String) (value : Value) (response : Response) : Prop :=
  ∃ name token, settings.cookieName = .text name
    ∧ settings.tokenPolicy.issue now identity salt = .ok token
    ∧ response = .done value [Cookie.settingText name token]
    ∧ Cookie.carried? (Cookie.settingText name token) = some token

theorem Response.LetsIn.status {value : Value} {response : Response}
    (h : response.LetsIn settings now identity salt value) :
    response.status = 200 := by
  obtain ⟨name, token, -, -, rfl, -⟩ := h
  rfl

namespace Settings

/-- A cookie name that can be sent is one that can be looked for,
whether or not a cookie has it. -/
theorem AreReady.exists_cookieOf (h : settings.AreReady now)
    (request : Request) :
    ∃ cookie, settings.cookieOf request = .ok cookie := by
  obtain ⟨name, hname, -⟩ := h.cookieName
  refine ⟨request.cookie? name, ?_⟩
  rw [cookieOf, hname]

/-- The text that sets the cookie lets in whoever it is sent to, with whatever
else the response says. -/
theorem letsIn_of_settingCookie {setCookie : String}
    (h : settings.settingCookie now identity salt = .ok setCookie)
    (value : Value) :
    (Response.done value [setCookie]).LetsIn settings now identity
      salt value := by
  obtain ⟨token, name, htoken, hname, hsendable, rfl⟩ :=
    settingCookie_eq_ok_iff.1 h
  have hissue : settings.tokenPolicy.issue now identity salt
      = .ok token.toText :=
    Token.policyIssue_eq_ok_iff.2 ⟨token, htoken, rfl⟩
  obtain ⟨hne, hplain⟩ := Token.all_isTokenChar_of_issue htoken
  exact ⟨name, token.toText, hname, hissue, rfl,
    Cookie.carried?_settingText hsendable hne hplain⟩

/-- With a key that signs nothing is missing for a cookie. -/
theorem AreReady.exists_settingCookie (h : settings.AreReady now)
    {secret : List UInt8} (hkey : settings.tokenKey.usable? = some secret)
    (identity salt : String) :
    ∃ setCookie, settings.settingCookie now identity salt = .ok setCookie := by
  obtain ⟨name, hname, hsendable⟩ := h.cookieName
  obtain ⟨deadline, hdeadline⟩ := h.lifetime
  exact exists_settingCookie_of_usable hname hsendable hdeadline hkey
    identity salt

end Settings

-- =========================================================== judgements

/-- A text that does not pass is refused for some reason, or it is signed and
its expiration leaves the calendar. -/
theorem Token.refused_or_isSignedAstray {text : String} {key : Key}
    {failure : Failure} (h : validate now text salt key = .error failure) :
    (∃ reason, failure = .refused reason) ∨ IsSignedAstray text salt key := by
  obtain ⟨demand, hunmet, -⟩ := validate_eq_error_iff.1 h
  -- of the three ways to fail a demand only the first is impossible
  -- here
  rcases isClosed_of_unmet hunmet with (hok | ⟨reason, -, hrefused⟩) | rfl
  · cases hok
  · cases hrefused
    exact Or.inl ⟨reason, rfl⟩
  · exact Or.inr (validate_eq_outOfRange_iff.1 h)

/-- Whoever has the key can sign a name with any expiration. -/
theorem Token.exists_signed {key : Key} {secret : List UInt8}
    {identity expiration : String} (hkey : key.usable? = some secret)
    (hidentity : identity ≠ "")
    (hexpiration : expiration ≠ "") (salt : String) :
    ∃ token : Token, token.identity = identity ∧ token.expiration = expiration
      ∧ ofText token.toText = .ok token
      ∧ signatureFor key token.identity token.expiration salt
          = .ok token.signature := by
  obtain ⟨signature, hsigned⟩ :
      ∃ signature, signatureFor key identity expiration salt = .ok signature :=
    ⟨_, sign_eq_ok_iff.2 ⟨secret, hkey, rfl⟩⟩
  obtain ⟨hne, hdot⟩ := signature_shape hsigned
  exact ⟨⟨identity, expiration, signature⟩, rfl, rfl,
    ofText_toText hidentity hexpiration hne hdot, hsigned⟩

/-- The stored text of a record is the mark and the signature of a password with
the salt that the record has for it. -/
def AuthRecord.Keeps (key : Key) (password : Wording) (record : AuthRecord) :
    Prop :=
  ∃ (text : String) (signature : String), password = text
    ∧ sign key text record.pwdSalt = .ok signature
      ∧ record.pwd = "#01#" ++ signature

/-- Being recognised by the application is having a record that keeps
the password: storing the password with the salt of the record gives the
stored text again. -/
theorem recognized_iff :
    Recognized settings store payload record
      ↔ store.find? payload.username = some record
        ∧ record.Keeps settings.passwordKey payload.pwd := by
  unfold Recognized AuthRecord.Keeps
  simp only [Password.store_eq_ok_iff, exists_and_left]
  exact Iff.rfl

namespace Service.Occasion

variable {occasion : Occasion} {text : String} {token : Token}

-- ============================================================== visits

/-- The cookie of the request is the text of a token, and there is a record of
whoever the token names. -/
structure Shows (occasion : Occasion) (text : String) (token : Token)
    (record : AuthRecord) : Prop where
  cookie : occasion.service.settings.cookieOf occasion.request = .ok (some text)
  read : Token.ofText text = .ok token
  found : occasion.store.find? token.identity = some record

/-- What the request shows is valid for the policy of the settings, with the
salt of the record. -/
def ShowsValid (occasion : Occasion) (text : String) (token : Token)
    (record : AuthRecord) : Prop :=
  occasion.Shows text token record
    ∧ occasion.service.settings.tokenPolicy.validate occasion.now text
      record.tokenSalt
      = .ok ()

/-- What the request shows is signed, and has an expiration that leaves the
calendar. -/
def ShowsAstray (occasion : Occasion) : Prop :=
  ∃ text token record, occasion.Shows text token record
    ∧ Token.IsSignedAstray text record.tokenSalt
      occasion.service.settings.tokenKey

/-- The policy comes to the check of the token that was read. -/
theorem Shows.validate_eq (h : occasion.Shows text token record) :
    occasion.service.settings.tokenPolicy.validate occasion.now text
      record.tokenSalt
      = Token.check occasion.now token record.tokenSalt
          occasion.service.settings.tokenKey :=
  Token.validate_of_ofText h.read

theorem Shows.presented_eq (h : occasion.Shows text token record) :
    presented occasion.store (some text) = .ok (token, record) :=
  presented_eq_ok_iff.2 ⟨text, rfl, h.read, h.found⟩

/-- A valid token lets in, with another one signed with the same
salt. -/
theorem handled_of_showsValid (hasks : occasion.Asks .me)
    (hready : occasion.service.settings.AreReady occasion.now)
    (h : occasion.ShowsValid text token record) :
    occasion.handled.response.LetsIn occasion.service.settings occasion.now
      token.identity record.tokenSalt
        (IdentityOut.toValue ⟨token.identity⟩) := by
  obtain ⟨hshows, hvalid⟩ := h
  rw [hshows.validate_eq] at hvalid
  -- a signature that passes tells that the key signs, so that it signs
  -- the new token as well
  have hsignature := (Token.check_eq_ok_iff.1 hvalid).1
  obtain ⟨secret, hkey, -⟩ := sign_eq_ok_iff.1 hsignature
  obtain ⟨setCookie, hset⟩ :=
    hready.exists_settingCookie hkey token.identity record.tokenSalt
  have hidentify : identify occasion.service.settings occasion.now
      occasion.store (some text)
      = .ok ⟨token.identity, setCookie⟩ :=
    identify_eq_ok_iff.2
      ⟨text, token, record, rfl, hshows.read, hshows.found, hvalid, hset, rfl⟩
  rw [handled_of_me hasks, me_of_identify hshows.cookie hidentify]
  exact Settings.letsIn_of_settingCookie hset _

/-- A success comes of what is shown and valid. -/
theorem exists_showsValid_of_status (hasks : occasion.Asks .me)
    (h : occasion.handled.response.status = 200) :
    ∃ text token record, occasion.ShowsValid text token record := by
  rw [handled_of_me hasks] at h
  rcases me_cases occasion.service.settings occasion.now occasion.store
    occasion.request with hbare | ⟨cookie, admission, hcookie, hidentify, -⟩
  · exact absurd h hbare.1
  · obtain ⟨text, token, record, rfl, hread, hfound, hcheck, -, -⟩ :=
      identify_eq_ok_iff.1 hidentify
    have hshows : occasion.Shows text token record := ⟨hcookie, hread, hfound⟩
    refine ⟨text, token, record, hshows, ?_⟩
    rw [hshows.validate_eq]
    exact hcheck

/-- A visit without anything valid is turned away, unless it gets stuck at what
is shown. -/
theorem exists_isTurnedAway_of_not_showsValid (hasks : occasion.Asks .me)
    (hready : occasion.service.settings.AreReady occasion.now)
    (hkey : occasion.service.settings.tokenKey ≠ .absent)
    (hno : ∀ text token record, ¬ occasion.ShowsValid text token record)
    (hkept : ¬ occasion.ShowsAstray) : ∃ why, occasion.IsTurnedAway why := by
  obtain ⟨cookie, hcookie⟩ := hready.exists_cookieOf occasion.request
  cases hpresented : presented occasion.store cookie with
  | error why =>
      exact ⟨why, .me hasks hcookie (unidentified_of_presented hpresented)⟩
  | ok shown =>
      obtain ⟨token, record⟩ := shown
      obtain ⟨text, rfl, hread, hfound⟩ := presented_eq_ok_iff.1 hpresented
      have hshows : occasion.Shows text token record := ⟨hcookie, hread, hfound⟩
      cases houtcome : occasion.service.settings.tokenPolicy.validate
        occasion.now text record.tokenSalt with
      -- what stays is refused by the policy, and a refusal is either a
      -- reason or an expiration that leaves the calendar
      | ok => exact absurd ⟨hshows, houtcome⟩ (hno text token record)
      | error failure =>
          rcases Token.refused_or_isSignedAstray houtcome
            with ⟨reason, rfl⟩ | hastray
          · rw [hshows.validate_eq] at houtcome
            exact ⟨_, .me hasks hcookie (.refused hread hfound hkey houtcome)⟩
          · exact absurd ⟨text, token, record, hshows, hastray⟩ hkept

/-- The overflow is no reason to refuse, so that nothing on the way to
the response takes it for one. -/
theorem handled_of_showsAstray (hasks : occasion.Asks .me)
    (h : occasion.ShowsAstray) :
    occasion.handled.response = .broken (.failure .expirationOutOfRange) := by
  obtain ⟨text, token, record, hshows, hastray⟩ := h
  have hcheck : Token.check occasion.now token record.tokenSalt
      occasion.service.settings.tokenKey = .error .expirationOutOfRange := by
    rw [← hshows.validate_eq]
    exact Token.validate_of_isSignedAstray hastray
  obtain ⟨other, hother, hsignature, -⟩ := hastray
  have hdemanded := Token.demanded_of_signatureFor hsignature
  have hidentify : identify occasion.service.settings occasion.now
      occasion.store (some text)
      = .error (.broken .expirationOutOfRange) := by
    unfold identify
    simp only [hshows.presented_eq, hdemanded, hcheck]
  rw [handled_of_me hasks, me_of_setback hshows.cookie hidentify]
  rfl

end Service.Occasion

namespace Service

variable {occasion : Occasion}

/-- A visit agrees with the policy of the settings. It is a success exactly if
the cookie is read as a token, there is a record of whoever the token names, and
the policy finds the text valid with the salt of that record. Then it tells that
name, and sets one cookie, with what the policy issues for the same name and
salt. In every other case it is answered as unauthorized, without a cookie. The
exception is an expiration that is signed and leaves the calendar. (Settings in
which the key of the tokens was left out have no policy to agree with.) The
records stay as they are. -/
theorem me_agrees_with_policy (hasks : occasion.Asks .me)
    (hready : occasion.service.settings.AreReady occasion.now) :
    (occasion.handled.response.status = 200
      ↔ ∃ text token record, occasion.ShowsValid text token record)
    ∧ (∀ text token record, occasion.ShowsValid text token record →
      occasion.handled.response.LetsIn occasion.service.settings occasion.now
        token.identity record.tokenSalt (IdentityOut.toValue ⟨token.identity⟩))
    ∧ (occasion.service.settings.tokenKey ≠ .absent →
      (∀ text token record, ¬ occasion.ShowsValid text token record) →
      ¬ occasion.ShowsAstray →
      occasion.handled.response = .unauthorized
        ∧ occasion.handled.response.status = 401
        ∧ occasion.handled.response.setCookies = [])
    ∧ (occasion.ShowsAstray →
      occasion.handled.response = .broken (.failure .expirationOutOfRange))
    ∧ (occasion.service.step ⟨occasion.now, occasion.store⟩
        (.request occasion.request)).1.store = occasion.store := by
  refine ⟨?success, ?letIn, ?other, Occasion.handled_of_showsAstray hasks, rfl⟩
  case letIn =>
    intro text token record h
    exact Occasion.handled_of_showsValid hasks hready h
  case success =>
    refine ⟨Occasion.exists_showsValid_of_status hasks, ?_⟩
    intro h
    obtain ⟨text, token, record, h⟩ := h
    exact (Occasion.handled_of_showsValid hasks hready h).status
  case other =>
    intro hkey hno hkept
    obtain ⟨why, hwhy⟩ :=
      Occasion.exists_isTurnedAway_of_not_showsValid hasks hready hkey hno hkept
    rw [Occasion.handled_of_isTurnedAway hwhy]
    exact ⟨rfl, rfl, rfl⟩

/-- The visit of the sample with a text in the cookie, at the start of 2024. -/
def sampleCall (text : String) (store : Store) : Occasion :=
  ⟨sample, (sampleStart "").now, store, sampleVisit text⟩

theorem asks_sampleCall (text : String) (store : Store) :
    (sampleCall text store).Asks .me :=
  (asks_sampleVisit ⟨(sampleStart "").now, store⟩ text).2

/-- Nothing is wrong with the settings of the sample. -/
theorem areReady_sample : sample.settings.AreReady (sampleStart "").now :=
  ⟨⟨"auth-token", rfl, by decide +kernel⟩, _, after_minute ""⟩

/-- The sample can be shown a token with any expiration, signed with its key. -/
theorem exists_shows_sampleCall {expiration : String} (hne : expiration ≠ "") :
    ∃ text token record,
      (sampleCall text (sampleStart "").store).Shows text token record
      ∧ token.expiration = expiration
      ∧ Token.signatureFor sample.settings.tokenKey token.identity
          token.expiration record.tokenSalt = .ok token.signature := by
  obtain ⟨token, hidentity, hexpiration, hread, hsigned⟩ :=
    Token.exists_signed
      (show sample.settings.tokenKey.usable? = some [107] from rfl)
      (show "ana" ≠ "" by decide) hne "salt"
  have hfound : (sampleStart "").store.find? token.identity
      = some (sampleRecord "") := by
    rw [hidentity]
    rfl
  have hplain := (Token.all_isTokenChar_toText hsigned).2
  exact ⟨token.toText, token, sampleRecord "",
    ⟨cookieOf_sampleVisit hplain, hread, hfound⟩, hexpiration, hsigned⟩

/-- With the expiration at the present instant the token is still
valid. -/
theorem exists_showsValid_sampleCall :
    ∃ text token record,
      (sampleCall text (sampleStart "").store).ShowsValid text token
        record := by
  obtain ⟨text, token, record, hshows, hexpiration, hsigned⟩ :=
    exists_shows_sampleCall (show "2024-01-01T00:00:00Z" ≠ "" by decide)
  have hparse : Timestamp.parse "2024-01-01T00:00:00Z"
      = .ok (sampleStart "").now := by rfl
  rw [← hexpiration] at hparse
  refine ⟨text, token, record, hshows, ?_⟩
  rw [hshows.validate_eq]
  exact Token.check_eq_ok_iff.2 ⟨hsigned, _, hparse, Nat.le_refl _⟩

/-- An expiration in the first hour of the calendar, an hour ahead of
UTC, can be signed as any other text. -/
theorem exists_showsAstray_sampleCall :
    ∃ text, (sampleCall text (sampleStart "").store).ShowsAstray := by
  obtain ⟨text, token, record, hshows, hexpiration, hsigned⟩ :=
    exists_shows_sampleCall (show "0001-01-01T00:00:00+01:00" ≠ "" by decide)
  have hparse : Timestamp.parse "0001-01-01T00:00:00+01:00"
      = .error .outOfRange := by rfl
  rw [← hexpiration] at hparse
  exact ⟨text, text, token, record, hshows, token, hshows.read, hsigned,
    Timestamp.parse_eq_outOfRange_iff.1 hparse⟩

/-- A valid token is a success as long as its name has a record, and is turned
away when there are no records. A token signed for the first midnight of the
calendar, on a clock that is an hour ahead, breaks the visit down. -/
theorem me_agrees_with_policy_of_call :
    ∃ text astray,
      (sampleCall text (sampleStart "").store).handled.response.status = 200
      ∧ (sampleCall text .empty).handled.response.status = 401
      ∧ (sampleCall astray (sampleStart "").store).handled.response.status
          = 500 := by
  obtain ⟨text, token, record, hvalid⟩ := exists_showsValid_sampleCall
  obtain ⟨astray, hastray⟩ := exists_showsAstray_sampleCall
  obtain ⟨hsuccess, -⟩ :=
    me_agrees_with_policy (asks_sampleCall text _) areReady_sample
  obtain ⟨-, -, hother, -⟩ :=
    me_agrees_with_policy (asks_sampleCall text .empty) areReady_sample
  obtain ⟨-, -, -, hbroken, -⟩ :=
    me_agrees_with_policy (asks_sampleCall astray _) areReady_sample
  -- without records nothing is shown, whatever the cookie holds
  have hnobody : ∀ shown token record,
      ¬ (sampleCall text .empty).Shows shown token record := by
    intro shown token record h
    cases h.found
  refine ⟨text, astray, hsuccess.2 ⟨text, token, record, hvalid⟩, ?_, ?_⟩
  · refine (hother ?_ ?_ ?_).2.1
    · exact Key.noConfusion
    · exact fun shown token record h => hnobody shown token record h.1
    · exact fun ⟨shown, token, record, h, _⟩ => hnobody shown token record h
  · rw [hbroken hastray]
    rfl

-- ============================================================== logins

/-- A login with the password of the record is a success. -/
theorem Occasion.letsIn_of_recognized {passwordSecret tokenSecret : List UInt8}
    (hasks : occasion.Asks .login) (hbrings : occasion.Brings payload)
    (hpassword : occasion.service.settings.passwordKey.usable?
      = some passwordSecret)
    (htoken : occasion.service.settings.tokenKey.usable? = some tokenSecret)
    (hready : occasion.service.settings.AreReady occasion.now)
    (h : Recognized occasion.service.settings occasion.store payload record) :
    occasion.handled.response.LetsIn occasion.service.settings occasion.now
      record.username record.tokenSalt (LoginResult.toValue ⟨true⟩) := by
  obtain ⟨setCookie, hset⟩ :=
    hready.exists_settingCookie htoken record.username record.tokenSalt
  have hlogIn : logIn occasion.service.settings occasion.now
      occasion.store payload
      = .ok ⟨record.username, setCookie⟩ := by
    rw [logIn_of_recognized hpassword h]
    exact letIn_eq_ok_iff.2 ⟨hset, rfl⟩
  rw [handled_of_login hasks, login_of_logIn hbrings hlogIn]
  exact Settings.letsIn_of_settingCookie hset _

/-- A login is a success exactly if the name in the payload has a record that
keeps the password. Then it sets one cookie, with what the policy issues for the
name and the salt of the record. Otherwise, whatever text is stored, it is
answered as unauthorized, without a cookie. The exception is a password without
bytes for a name that has a record. The records stay as they are. -/
theorem login_exact {passwordSecret tokenSecret : List UInt8}
    (hasks : occasion.Asks .login) (hbrings : occasion.Brings payload)
    (hpassword : occasion.service.settings.passwordKey.usable?
      = some passwordSecret)
    (htoken : occasion.service.settings.tokenKey.usable? = some tokenSecret)
    (hready : occasion.service.settings.AreReady occasion.now) :
    (occasion.handled.response.status = 200
      ↔ ∃ record, occasion.store.find? payload.username = some record
          ∧ record.Keeps occasion.service.settings.passwordKey payload.pwd)
    ∧ (∀ record, occasion.store.find? payload.username = some record →
      record.Keeps occasion.service.settings.passwordKey payload.pwd →
      occasion.handled.response.LetsIn occasion.service.settings occasion.now
        record.username record.tokenSalt (LoginResult.toValue ⟨true⟩))
    ∧ ((∀ record, occasion.store.find? payload.username = some record →
        ¬ record.Keeps occasion.service.settings.passwordKey payload.pwd) →
      ¬ Unsignable occasion.store payload →
      occasion.handled.response = .unauthorized
        ∧ occasion.handled.response.status = 401
        ∧ occasion.handled.response.setCookies = [])
    ∧ (Unsignable occasion.store payload →
      occasion.handled.response = .broken (.failure .unencodable))
    ∧ (occasion.service.step ⟨occasion.now, occasion.store⟩
        (.request occasion.request)).1.store = occasion.store := by
  have hletsIn := fun record
      (h : Recognized occasion.service.settings occasion.store
        payload record) =>
    Occasion.letsIn_of_recognized hasks hbrings hpassword htoken hready h
  have hunauthorized :
      (∀ record, ¬ Recognized occasion.service.settings occasion.store
        payload record) →
      ¬ Unsignable occasion.store payload →
        occasion.handled.response = .unauthorized := by
    intro hno hsigned
    obtain ⟨why, hwhy⟩ :=
      Occasion.exists_isTurnedAway_of_not_recognized hasks hbrings
        hpassword hno hsigned
    rw [Occasion.handled_of_isTurnedAway hwhy]
  have hbroken : Unsignable occasion.store payload →
      occasion.handled.response = .broken (.failure .unencodable) := by
    intro hunsignable
    rw [Occasion.handled_of_unsignable hasks hbrings hpassword hunsignable]
  refine ⟨?success, ?letIn, ?other, hbroken, rfl⟩
  case success =>
    constructor
    · intro h
      -- of the three ends of a login only the record with the password
      -- is a success
      by_contra hno
      have hnobody : ∀ record,
          ¬ Recognized occasion.service.settings occasion.store
            payload record :=
        fun record hrecord => hno ⟨record, recognized_iff.1 hrecord⟩
      by_cases hunsignable : Unsignable occasion.store payload
      · rw [hbroken hunsignable] at h
        exact absurd h (show ¬ 500 = 200 by decide)
      · rw [hunauthorized hnobody hunsignable] at h
        exact absurd h (show ¬ 401 = 200 by decide)
    · intro h
      obtain ⟨record, h⟩ := h
      exact (hletsIn record (recognized_iff.2 h)).status
  case letIn =>
    intro record hfound hkeeps
    exact hletsIn record (recognized_iff.2 ⟨hfound, hkeeps⟩)
  case other =>
    intro hno hsigned
    have hnobody : ∀ record,
        ¬ Recognized occasion.service.settings occasion.store payload record :=
      fun record hrecord =>
        hno record (recognized_iff.1 hrecord).1 (recognized_iff.1 hrecord).2
    rw [hunauthorized hnobody hsigned]
    exact ⟨rfl, rfl, rfl⟩

/-- The login of the sample is a success with the stored text that
belongs to its password, and is turned away when the password itself is
stored. -/
theorem login_exact_of_stored :
    (lastingLogin (.ofInt 60) (sampleStart "").now).handled.response.status
      = 200
      ∧ (sampleAttempt [112] [107]
          (sampleStart "").now "open").handled.response.status
        = 401 := by
  obtain ⟨record, hrecord⟩ :=
    recognized_lasting (.ofInt 60) (sampleStart "").now
  have hasks : (lastingLogin (.ofInt 60) (sampleStart "").now).Asks .login :=
    (asks_sampleLogin (sampleStart "")).2
  have hasks' : (sampleAttempt [112] [107] (sampleStart "").now "open").Asks
      .login :=
    (asks_sampleLogin (sampleStart "open")).2
  obtain ⟨hsuccess, -⟩ :=
    login_exact hasks take_sampleLogin rfl rfl areReady_sample
  obtain ⟨-, -, hother, -⟩ :=
    login_exact hasks' take_sampleLogin rfl rfl areReady_sample
  refine ⟨hsuccess.2 ⟨record, recognized_iff.1 hrecord⟩, (hother ?_ ?_).2.1⟩
  · intro record hfound hkeeps
    obtain ⟨-, text, -, hstored⟩ := recognized_iff.2 ⟨hfound, hkeeps⟩
    cases hfound
    have hunmarked : ¬ Password.scheme.toList <+: "open".toList := by decide
    exact Password.store_ne_of_unmarked hunmarked hstored
  · intro hunsignable
    exact absurd hunsignable.torn (by decide)

/-- The record does not keep half of a surrogate pair as its password. But a
login with that breaks down, and is not answered as unauthorized. -/
theorem torn_password_breaks :
    (tornLogin (sampleStart sampleStored).store).Asks .login
      ∧ (tornLogin (sampleStart sampleStored).store).Brings tornPayload
      ∧ sample.settings.AreReady (sampleStart sampleStored).now
      ∧ (∀ record,
        (sampleStart sampleStored).store.find? tornPayload.username
          = some record →
        ¬ record.Keeps sample.settings.passwordKey tornPayload.pwd)
      ∧ (tornLogin (sampleStart sampleStored).store).handled.response.status
          = 500 := by
  refine ⟨asks_tornLogin _, brings_tornLogin _, areReady_sample, ?_, ?_⟩
  · intro record hfound hkeeps
    exact not_recognized_of_torn rfl (recognized_iff.2 ⟨hfound, hkeeps⟩)
  · rw [Occasion.handled_of_unsignable (asks_tornLogin _)
      (brings_tornLogin _) rfl (unsignable_tornLogin sampleStored)]
    rfl

end Service

end StatelessAuth
