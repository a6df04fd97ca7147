/-
What settings that were checked are good for. An application is set up with
them, and somebody logs in with a name and a password.

# Who is turned away, and who should be let in

The keys were checked, so that both can sign: whether the password is right is
found out if it has bytes (`recognized_or_unrecognized_of_usable`), and who
sends a wrong one is told so. Who sends the right one is to be given a token in
a cookie, and two settings have a part in that of which only the kind was
checked. The duration has to lead to an instant, and the name of the cookie has
to be one that can be sent (`Settings.Hitch`). Where one of them fails, the
request breaks down, as it does for a password without bytes
(`login_of_loaded`).

# What the check lets pass

A duration fails that is no number, is infinite, or is longer than what is left
of the calendar, on either side. The clock decides where the side ends, so that
no check of the settings alone could tell; but some durations fail under every
clock, and those are loaded as well (`endless_duration_breaks`).
-/
import StatelessAuth.Proofs.App.Rejections
import StatelessAuth.Proofs.Duration
import StatelessAuth.Proofs.Settings.Loading

namespace StatelessAuth

variable {settings : Settings} {now : Instant} {store : Store}
  {payload : LoginPayload Wording} {record : AuthRecord} {cause : Failure}

-- ============================================================= cookies

namespace Settings

/-- What keeps the cookie from being set with a new token, if the keys sign. -/
inductive Hitch (settings : Settings) (now : Instant) : Failure → Prop
  | lifetime {e : DurationError}
      (h : Duration.after now settings.tokenDuration = .error e) :
      Hitch settings now (.lifetime e)
  | cookieName {deadline : Instant} {name : String}
      (hdeadline : Duration.after now settings.tokenDuration = .ok deadline)
      (hname : settings.cookieName = .text name)
      (h : Cookie.isSendable name = false) :
      Hitch settings now .cookieName

/-- A hitch is what the request breaks down at: the token is made before
the name is looked at, so that the duration comes first. -/
theorem settingCookie_of_hitch (hchecked : settings.IsChecked)
    (h : settings.Hitch now cause) (identity salt : String) :
    settings.settingCookie now identity salt = .error cause := by
  obtain ⟨secret, hsecret⟩ := hchecked.tokenKey
  have hdemanded := Key.demanded_of_usable hsecret
  unfold settingCookie tokenPolicy TokenPolicy.issue
  cases h with
  | lifetime h =>
      simp [hdemanded, Token.issue, h, bind, Except.bind, Except.map]
  | cookieName hdeadline hname h =>
      obtain ⟨token, htoken⟩ :=
        Token.exists_issue hdeadline hsecret identity salt
      have hsent : settings.sentCookieName = .error .cookieName := by
        simp [sentCookieName, hname, h]
      simp [hdemanded, htoken, hsent, bind, Except.bind, Except.map]

/-- Settings that were checked have nothing else that could fail. -/
theorem exists_settingCookie (hchecked : settings.IsChecked)
    (h : ∀ cause, ¬ settings.Hitch now cause) (identity salt : String) :
    ∃ text, settings.settingCookie now identity salt = .ok text := by
  obtain ⟨secret, hsecret⟩ := hchecked.tokenKey
  obtain ⟨name, hname⟩ := hchecked.cookieName
  cases hdeadline : Duration.after now settings.tokenDuration with
  | error e => exact absurd (.lifetime hdeadline) (h _)
  | ok deadline =>
      cases hsendable : Cookie.isSendable name with
      | false => exact absurd (.cookieName hdeadline hname hsendable) (h _)
      | true =>
          exact exists_settingCookie_of_usable hname hsendable hdeadline
            hsecret identity salt

end Settings

-- ============================================================== logins

namespace Service

/-- An application is set up with the settings that it is given. -/
theorem settings_of_create {platform : Platform} {service : Service}
    (h : create platform settings = .ok service) :
    service.settings = settings := by
  unfold create at h
  split at h
  case h_1 => cases h
  case h_2 =>
    split at h
    case isTrue => cases h
    case isFalse =>
      split at h
      case h_1 =>
        split at h
        case isTrue => cases h
        case isFalse =>
          cases h
          rfl
      case h_2 => cases h

variable {occasion : Occasion}

/-- What a login with the right password is answered: it breaks down at a
hitch, and sets a cookie if there is none. -/
theorem Occasion.handled_of_recognized (hchecked : settings.IsChecked)
    (hsettings : occasion.service.settings = settings)
    (hasks : occasion.Asks .login)
    (hbrings : occasion.Brings payload)
    (h : Recognized settings occasion.store payload record) :
    (∀ cause, settings.Hitch occasion.now cause →
      occasion.handled.response = .broken (.failure cause))
    ∧ ((∀ cause, ¬ settings.Hitch occasion.now cause) →
      ∃ setCookie, settings.settingCookie occasion.now record.username
          record.tokenSalt = .ok setCookie
        ∧ occasion.handled.response
          = .done (LoginResult.toValue ⟨true⟩) [setCookie]) := by
  obtain ⟨secret, hsecret⟩ := hchecked.passwordKey
  have hlogIn : logIn settings occasion.now occasion.store payload
      = letIn settings occasion.now record.username record.tokenSalt :=
    logIn_of_recognized hsecret h
  rw [handled_of_login hasks, hsettings]
  refine ⟨?hitch, ?none⟩
  case hitch =>
    intro cause hhitch
    rw [letIn, Settings.settingCookie_of_hitch hchecked hhitch] at hlogIn
    rw [login_of_setback hbrings hlogIn]
    rfl
  case none =>
    intro hno
    obtain ⟨setCookie, hset⟩ :=
      Settings.exists_settingCookie hchecked hno record.username
        record.tokenSalt
    rw [letIn, hset] at hlogIn
    exact ⟨setCookie, hset, login_of_logIn hbrings hlogIn⟩

/-- A login under settings that were loaded and set up. Who sends the wrong
password is told that nobody is let in. Who sends the right one is given a
cookie, unless the duration leads to no instant or the name of the cookie cannot
be sent; then the request breaks down at that and at nothing else. It also
breaks down at a password without bytes, if there is a record to compare it
with. So it is answered with a success or as unauthorized exactly if the
password is wrong or there is no such hitch, and the password has bytes or the
name no record. -/
theorem login_of_loaded {source : SettingsSource} {platform : Platform}
    (hload : Settings.load source = .valid settings)
    (hcreate : create platform settings = .ok occasion.service)
    (hasks : occasion.Asks .login) (hbrings : occasion.Brings payload) :
    ((∀ record, ¬ Recognized settings occasion.store payload record) →
      ¬ Unsignable occasion.store payload →
      occasion.handled.response = .unauthorized)
    ∧ (Unsignable occasion.store payload →
      occasion.handled.response = .broken (.failure .unencodable))
    ∧ (∀ record, Recognized settings occasion.store payload record →
      (∀ cause, settings.Hitch occasion.now cause →
        occasion.handled.response = .broken (.failure cause))
      ∧ ((∀ cause, ¬ settings.Hitch occasion.now cause) →
        ∃ setCookie, settings.settingCookie occasion.now record.username
            record.tokenSalt = .ok setCookie
          ∧ occasion.handled.response
            = .done (LoginResult.toValue ⟨true⟩) [setCookie]))
    ∧ (occasion.handled.response.status = 200
      ∨ occasion.handled.response.status = 401
        ↔ ¬ ((∃ record, Recognized settings occasion.store payload record)
            ∧ ∃ cause, settings.Hitch occasion.now cause)
          ∧ ¬ Unsignable occasion.store payload) := by
  have hchecked := Settings.isChecked_iff_exists_load.2 ⟨source, hload⟩
  obtain rfl := settings_of_create hcreate
  obtain ⟨secret, hsecret⟩ := hchecked.passwordKey
  have hrejected :
      (∀ record, ¬ Recognized occasion.service.settings occasion.store
        payload record) →
      ¬ Unsignable occasion.store payload →
        occasion.handled.response = .unauthorized := by
    intro hno hsigned
    obtain ⟨why, hwhy⟩ :=
      Occasion.exists_isTurnedAway_of_not_recognized hasks hbrings
        hsecret hno hsigned
    rw [Occasion.handled_of_isTurnedAway hwhy]
  have hbroken : Unsignable occasion.store payload →
      occasion.handled.response = .broken (.failure .unencodable) := by
    intro hunsignable
    rw [Occasion.handled_of_unsignable hasks hbrings hsecret hunsignable]
  have hrecognized := fun record
      (h : Recognized occasion.service.settings occasion.store
        payload record) =>
    Occasion.handled_of_recognized hchecked rfl hasks hbrings h
  refine ⟨hrejected, hbroken, hrecognized, ?answered⟩
  case answered =>
    -- every breakdown has one status, which is neither of the two
    have hstatus : ¬ ((500 : Nat) = 200 ∨ (500 : Nat) = 401) := by decide
    by_cases hunsignable : Unsignable occasion.store payload
    · rw [hbroken hunsignable]
      exact iff_of_false hstatus fun h => h.2 hunsignable
    · by_cases h : ∃ record,
          Recognized occasion.service.settings occasion.store payload record
      · obtain ⟨record, h⟩ := h
        by_cases hhitch : ∃ cause,
          occasion.service.settings.Hitch occasion.now cause
        · obtain ⟨cause, hcause⟩ := hhitch
          rw [(hrecognized record h).1 cause hcause]
          exact iff_of_false hstatus
            fun hno => hno.1 ⟨⟨record, h⟩, cause, hcause⟩
        · obtain ⟨setCookie, -, hdone⟩ :=
            (hrecognized record h).2 fun cause hcause => hhitch ⟨cause, hcause⟩
          rw [hdone]
          exact iff_of_true (Or.inl rfl)
            ⟨fun hboth => hhitch hboth.2, hunsignable⟩
      · rw [hrejected (fun record hrecord => h ⟨record, hrecord⟩) hunsignable]
        exact iff_of_true (Or.inr rfl) ⟨fun hboth => h hboth.1, hunsignable⟩

-- ================================================== a login of a sample

/-- The settings of the sample, but for the duration. -/
def lasting (seconds : Binary64) : SettingsSource :=
  Settings.written "WebToken Auth" "/api/v1" [112]
    [107] seconds "auth-token" "INFO"

/-- What is stored for the password that the sample sends. -/
def sampleStored : String :=
  "#01#9gNNU4HVhMjpiwJYrGeuknWQuwQOjmUbRn2XwcWIp" ++
    "_6JT8hG-H0yos6pAdfqrfWETclYb6Vh3ehrZ9W3qJj5IA"

/-- The login of the sample with these settings. The stored text is that of the
password which the request sends. -/
def lastingLogin (seconds : Binary64) (now : Instant) : Occasion :=
  ⟨⟨samplePlatform, { sample.settings with tokenDuration := .real seconds },
      sample.apiRoot, sample.sink⟩,
    now, (sampleStart sampleStored).store, sampleLogin⟩

variable (seconds : Binary64) (now : Instant)

/-- Any number is loaded as a duration. -/
theorem load_lasting : Settings.load (lasting seconds)
    = .valid (lastingLogin seconds now).service.settings :=
  Settings.load_written (by decide) (by decide) _ _ _ _ _

/-- The duration has no part in what is set up. -/
theorem create_lasting :
    create samplePlatform (lastingLogin seconds now).service.settings
      = .ok (lastingLogin seconds now).service := by
  have hsink : Log.Sink.none.setUp (.text "INFO") = (sample.sink, none) := by
    decide +kernel
  have hlevel : Log.Sink.none.setUp
      (lastingLogin seconds now).service.settings.logLevel
      = (sample.sink, none) := hsink
  unfold create
  rw [hlevel]
  rfl

/-- The record keeps the password that is sent, under every clock and
for every duration. -/
theorem recognized_lasting :
    ∃ record, Recognized (lastingLogin seconds now).service.settings
      (lastingLogin seconds now).store ⟨"ana", "open"⟩ record := by
  refine ⟨_, rfl, "open", rfl, ?_⟩
  apply Password.store_eq_ok_iff.2
  refine ⟨_, sign_eq_ok_iff.2 ⟨[112], rfl, rfl⟩, ?_⟩
  decide +kernel

/-- A minute after the start of 2024 is in the calendar. -/
theorem after_minute (stored : String) :
    Duration.after (sampleStart stored).now (.real (.ofInt 60))
      = .ok ⟨63839664060000000, by decide⟩ := by
  refine Duration.after_eq_ok_iff.2 ⟨60000000, by decide +kernel, ?_⟩
  show ((63839664060000000 : Nat) : Int) = (63839664000000000 : Nat) + 60000000
  decide

/-- At the start of 2024 nothing keeps a cookie from being set for a minute. -/
theorem not_hitch_minute (stored : String) :
    ¬ (lastingLogin (.ofInt 60) now).service.settings.Hitch
      (sampleStart stored).now cause := by
  intro hhitch
  cases hhitch with
  | lifetime hfails =>
      have hnone := hfails.symm.trans (after_minute stored)
      cases hnone
  | cookieName _ hname hfails =>
      cases hname
      exact absurd hfails (by decide +kernel)

/-- With a minute as the duration the login is answered with a success. -/
theorem login_of_loaded_of_minute :
    ∃ settings, Settings.load (lasting (.ofInt 60)) = .valid settings
      ∧ ∃ occasion : Occasion, create samplePlatform settings
          = .ok occasion.service
        ∧ occasion.Asks .login ∧ occasion.handled.response.status = 200 := by
  have hasks : (lastingLogin (.ofInt 60) (sampleStart "").now).Asks .login :=
    (asks_sampleLogin (sampleStart "")).2
  obtain ⟨record, h⟩ := recognized_lasting (.ofInt 60) (sampleStart "").now
  obtain ⟨-, -, hrecognized, -⟩ :=
    login_of_loaded (load_lasting _ _) (create_lasting _ _) hasks
      take_sampleLogin
  obtain ⟨setCookie, -, hdone⟩ :=
    (hrecognized record h).2 fun _ => not_hitch_minute _ ""
  refine ⟨_, load_lasting _ _, _, create_lasting _ _, hasks, ?_⟩
  rw [hdone]
  rfl

/-- A duration of more than thirty thousand years into the past is loaded, and
the application is set up. But whatever the clock, the login breaks down. -/
theorem endless_duration_breaks :
    ∃ settings, Settings.load (lasting (.ofInt (-1000000000000)))
      = .valid settings
      ∧ ∀ now, create samplePlatform settings
          = .ok (lastingLogin (.ofInt (-1000000000000)) now).service
        ∧ (lastingLogin (.ofInt (-1000000000000)) now).Asks .login
        ∧ (lastingLogin (.ofInt (-1000000000000)) now).Brings ⟨"ana", "open"⟩
        ∧ (lastingLogin (.ofInt (-1000000000000)) now).handled.response
          = .broken (.failure (.lifetime .outOfRange))
        ∧ (lastingLogin (.ofInt (-1000000000000)) now).handled.response.status
            = 500 := by
  refine ⟨_, load_lasting _ .first, fun now => ?_⟩
  have hmicros : (Duration.real (.ofInt (-1000000000000))).micros
      = .ok (-1000000000000000000) := by decide +kernel
  have hfails : Duration.after now (.real (.ofInt (-1000000000000)))
      = .error .outOfRange := by
    refine Duration.after_eq_outOfRange_iff.2 (Or.inr ⟨_, hmicros, Or.inl ?_⟩)
    -- the calendar is shorter than the duration, so that no instant of
    -- it is late enough to go back that far
    have hrange := now.inRange
    unfold microsPerDay microsPerSecond at hrange
    omega
  have hchecked : (lastingLogin (.ofInt (-1000000000000))
      now).service.settings.IsChecked :=
    Settings.isChecked_iff_exists_load.2 ⟨_, load_lasting _ _⟩
  have hasks := (asks_sampleLogin ⟨now, (sampleStart "").store⟩).2
  obtain ⟨record, h⟩ := recognized_lasting (.ofInt (-1000000000000)) now
  have hbroken := (Occasion.handled_of_recognized hchecked rfl hasks
    take_sampleLogin h).1 _ (.lifetime hfails)
  refine ⟨create_lasting _ _, hasks, take_sampleLogin, hbroken, ?_⟩
  rw [hbroken]
  rfl

end Service

end StatelessAuth
