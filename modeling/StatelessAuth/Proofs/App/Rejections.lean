/-
What is told when somebody is turned away. A client is told one thing,
whatever the reason; the log is told the reason and the name that was
claimed, and nothing of what only the records and the settings know.

# Reasons

A `Rejection` is a category of failure and, where there is one, the name that
was claimed. When it comes about is said for a cookie (`Unidentified`) and for
a name with a password (`Unrecognized`) in terms of what the cookie is read as,
of the record that is found, and of the signatures that the keys give. These
are all the rejections that there are (`identify_eq_rejected_iff`,
`logIn_eq_rejected_iff`). In particular a stored password that is none at all
is as good as one that is another (`Password.store_ne_of_unmarked`).

# A password that is no text of characters

Half of a surrogate pair in a password has no bytes, so that such a
password belongs to no record. Nobody finds that out, since it cannot be
signed in order to be compared (`Unsignable`): with a key that signs, a
login comes to this, to a rejection, or to the record whose password it
is (`recognized_or_unrecognized_of_usable`). The request breaks down,
and only if the name has a record (`torn_password_tells_records`).

# Two occasions

The keys, the salts, the stored passwords, the password that was sent and the
signature of the token all have a part in whether a rejection comes about, and
none in what becomes of it. So it takes no comparison of two runs: the response
and the log of an occasion are computed from the rejection
(`handled_of_isTurnedAway`), and two occasions with one rejection agree.
-/
import StatelessAuth.Proofs.App.Authenticity

namespace StatelessAuth

variable {settings : Settings} {now : Instant} {store : Store}
  {cookie : Option String} {payload : LoginPayload Wording}
  {record : AuthRecord} {secret : List UInt8}
  {why : Rejection}

-- ============================================================= reasons

/-- A cookie does not tell who sends it. -/
inductive Unidentified (settings : Settings) (now : Instant) (store : Store) :
    Option String → Rejection → Prop
  | none : Unidentified settings now store none .noCookie
  | empty : Unidentified settings now store (some "") .noCookie
  | unreadable {text : String} {reason : Refusal} (hne : text ≠ "")
      (hread : Token.ofText text = .error reason) :
      Unidentified settings now store (some text) (.unreadable reason)
  | unknown {text : String} {token : Token}
      (hread : Token.ofText text = .ok token)
      (hrecord : store.find? token.identity = .none) :
      Unidentified settings now store (some text) .unknownIdentity
  | refused {text : String} {token : Token} {record : AuthRecord}
      {reason : Refusal} (hread : Token.ofText text = .ok token)
      (hrecord : store.find? token.identity = some record)
      (hkey : settings.tokenKey ≠ .absent)
      (hcheck : Token.check now token record.tokenSalt settings.tokenKey
        = .error (.refused reason)) :
      Unidentified settings now store (some text)
        (.refused token.identity reason)

/-- A name and a password do not let anybody in. -/
inductive Unrecognized (settings : Settings) (store : Store)
    (payload : LoginPayload Wording) : Rejection → Prop
  | unknown (hrecord : store.find? payload.username = none) :
      Unrecognized settings store payload (.unknownUser payload.username)
  | wrongPassword {record : AuthRecord} {password : String}
      {secret : List UInt8}
      (hrecord : store.find? payload.username = some record)
      (hpassword : payload.pwd = password)
      (hkey : settings.passwordKey.usable? = some secret)
      (hstored : Password.store settings.passwordKey password record.pwdSalt
        ≠ .ok record.pwd) :
      Unrecognized settings store payload (.wrongPassword payload.username)

/-- The name has a record, and the password is the one of the record. -/
def Recognized (settings : Settings) (store : Store)
    (payload : LoginPayload Wording) (record : AuthRecord) : Prop :=
  store.find? payload.username = some record
    ∧ ∃ password : String, payload.pwd = password
      ∧ Password.store settings.passwordKey password record.pwdSalt
        = .ok record.pwd

/-- The name has a record, so that the password is to be signed; but it has half
of a surrogate pair, and no bytes. -/
structure Unsignable (store : Store) (payload : LoginPayload Wording) :
    Prop where
  found : ∃ record, store.find? payload.username = some record
  torn : payload.pwd.string? = none

/-- Where the cookie is made everybody has been let in, so that what
fails there is a breakdown. -/
theorem letIn_ne_rejected {identity salt : String} :
    letIn settings now identity salt ≠ .error (.rejected why) := by
  unfold letIn
  split
  · intro h
    cases h
  · intro h
    cases h

/-- What a cookie presents nothing for is one of the first four
reasons. -/
theorem unidentified_of_presented (h : presented store cookie = .error why) :
    Unidentified settings now store cookie why := by
  unfold presented at h
  split at h
  case h_1 =>
    cases h
    exact .none
  case h_2 text =>
    split at h
    case isTrue hempty =>
      cases h
      rw [hempty]
      exact .empty
    case isFalse hne =>
      split at h
      case h_1 reason hread =>
        cases h
        exact .unreadable hne hread
      case h_2 token hread =>
        split at h
        case h_1 hrecord =>
          cases h
          exact .unknown hread hrecord
        case h_2 => cases h

/-- Who sends a cookie is rejected for one of the reasons that a cookie can
give. -/
theorem identify_eq_rejected_iff :
    identify settings now store cookie = .error (.rejected why)
      ↔ Unidentified settings now store cookie why := by
  constructor
  · intro h
    unfold identify at h
    split at h
    case h_1 other hpresented =>
      cases h
      exact unidentified_of_presented hpresented
    case h_2 token record hpresented =>
      obtain ⟨text, rfl, hread, hrecord⟩ := presented_eq_ok_iff.1 hpresented
      split at h
      case h_1 => cases h
      case h_2 key hkey =>
        obtain ⟨hgiven, rfl⟩ := Key.demanded_eq_ok_iff.1 hkey
        split at h
        case h_1 reason hcheck =>
          cases h
          exact .refused hread hrecord hgiven hcheck
        case h_2 => cases h
        case h_3 => exact absurd h letIn_ne_rejected
  · intro h
    cases h with
    | none => rfl
    | empty => rfl
    | unreadable hne hread =>
        unfold identify presented
        simp only [if_neg hne, hread]
    | @unknown text token hread hrecord =>
        have hne : text ≠ "" := by
          intro h
          subst h
          cases hread
        unfold identify presented
        simp only [if_neg hne, hread, hrecord]
    | refused hread hrecord hkey hcheck =>
        have hpresented := presented_eq_ok_iff.2 ⟨_, rfl, hread, hrecord⟩
        have hdemanded := Key.demanded_eq_ok_iff.2 ⟨hkey, rfl⟩
        unfold identify
        simp only [hpresented, hdemanded, hcheck]

/-- A password is found to be the wrong one if it is a text of characters, and
the key could sign it. -/
theorem checkGiven_eq_mismatch_iff {key : Key} {given : Wording}
    {salt stored : String} :
    Password.checkGiven key given salt stored
      = .error (.refused .passwordMismatch)
      ↔ ∃ password : String, given = password
        ∧ (∃ secret, key.usable? = some secret)
          ∧ Password.store key password salt ≠ .ok stored := by
  constructor
  · intro h
    cases hgiven : given.string? with
    | none =>
        simp only [Password.checkGiven, hgiven] at h
        split at h
        case h_1 => cases h
        case h_2 => cases h
    | some password =>
        obtain rfl := Wording.string?_eq_some_iff.1 hgiven
        rw [Password.checkGiven_of_string] at h
        split at h
        case h_1 reason hcheck =>
          cases h
          exact ⟨password, rfl, Password.check_eq_mismatch_iff.1 hcheck⟩
        case h_2 => cases h
  · intro h
    obtain ⟨password, rfl, hwrong⟩ := h
    rw [Password.checkGiven_of_string, Password.check_eq_mismatch_iff.2 hwrong]

/-- Who sends a name and a password is rejected because the name has no record,
or the record another password. -/
theorem logIn_eq_rejected_iff :
    logIn settings now store payload = .error (.rejected why)
      ↔ Unrecognized settings store payload why := by
  constructor
  · intro h
    unfold logIn at h
    split at h
    case h_1 hrecord =>
      cases h
      exact .unknown hrecord
    case h_2 record hrecord =>
      split at h
      case h_1 => cases h
      case h_2 key hkey =>
        obtain ⟨-, rfl⟩ := Key.demanded_eq_ok_iff.1 hkey
        split at h
        case h_1 hcheck =>
          cases h
          -- a mismatch tells that there was a signature to compare
          obtain ⟨password, hpassword, ⟨secret, husable⟩, hstored⟩ :=
            checkGiven_eq_mismatch_iff.1 hcheck
          exact .wrongPassword hrecord hpassword husable hstored
        case h_2 => cases h
        case h_3 => exact absurd h letIn_ne_rejected
  · intro h
    cases h with
    | unknown hrecord =>
        unfold logIn
        rw [hrecord]
    | @wrongPassword record password secret hrecord hpassword hkey hstored =>
        have hdemanded := Key.demanded_of_usable hkey
        have hcheck :=
          checkGiven_eq_mismatch_iff.2
            ⟨password, hpassword, ⟨secret, hkey⟩, hstored⟩
        unfold logIn
        simp only [hrecord, hdemanded, hcheck]

/-- After the password it all hangs on the cookie. -/
theorem logIn_of_recognized
    (hsecret : settings.passwordKey.usable? = some secret)
    (h : Recognized settings store payload record) :
    logIn settings now store payload
      = letIn settings now record.username record.tokenSalt := by
  obtain ⟨hrecord, password, hpassword, hstored⟩ := h
  have hdemanded := Key.demanded_of_usable hsecret
  have hcheck := Password.checkGiven_eq_ok_iff.2
    ⟨password, hpassword, Password.check_eq_ok_iff.2 hstored⟩
  unfold logIn
  simp only [hrecord, hdemanded, hcheck]

/-- The stored text is not even looked at, since the password has to be
signed before. -/
theorem logIn_of_unsignable
    (hsecret : settings.passwordKey.usable? = some secret)
    (h : Unsignable store payload) :
    logIn settings now store payload = .error (.broken .unencodable) := by
  obtain ⟨record, hrecord⟩ := h.found
  have hdemanded := Key.demanded_of_usable hsecret
  have hcheck := Password.checkGiven_of_torn h.torn hsecret
    record.pwdSalt record.pwd
  unfold logIn
  simp only [hrecord, hdemanded, hcheck]

/-- A key of the passwords that signs tells who is turned away, if there is
anything to sign. -/
theorem recognized_or_unrecognized_of_usable
    (hsecret : settings.passwordKey.usable? = some secret) (store : Store)
    (payload : LoginPayload Wording) :
    (∃ record, Recognized settings store payload record)
      ∨ (∃ why, Unrecognized settings store payload why)
      ∨ Unsignable store payload := by
  cases hrecord : store.find? payload.username with
  | none => exact Or.inr (Or.inl ⟨_, .unknown hrecord⟩)
  | some record =>
      cases hgiven : payload.pwd.string? with
      | none => exact Or.inr (Or.inr ⟨⟨record, hrecord⟩, hgiven⟩)
      | some password =>
          have hpassword := Wording.string?_eq_some_iff.1 hgiven
          by_cases hstored :
              Password.store settings.passwordKey password record.pwdSalt
                = .ok record.pwd
          · exact Or.inl ⟨record, hrecord, password, hpassword, hstored⟩
          · exact Or.inr (Or.inl
              ⟨_, .wrongPassword hrecord hpassword hsecret hstored⟩)

/-- A password without bytes is that of no record. -/
theorem not_recognized_of_torn (htorn : payload.pwd.string? = none) :
    ¬ Recognized settings store payload record := by
  intro h
  obtain ⟨-, password, hpassword, -⟩ := h
  rw [hpassword, Wording.string?_ofString] at htorn
  cases htorn

namespace Service

-- =========================================================== occasions

/-- A request comes to an application. -/
structure Occasion where
  service : Service
  now : Instant
  store : Store
  request : Request

namespace Occasion

variable {occasion : Occasion} {route : Route}

def handled (occasion : Occasion) : Handled :=
  occasion.service.respond occasion.now occasion.store occasion.request

/-- The request is one for a route. -/
def Asks (route : Route) (occasion : Occasion) : Prop :=
  Route.find occasion.service.apiRoot occasion.request.method
    occasion.request.path = .route route

/-- The body of the request is read as a name and a password. -/
def Brings (payload : LoginPayload Wording) (occasion : Occasion) : Prop :=
  RequestBody.take occasion.service.platform.depths LoginPayload.fields
    occasion.request = .ok payload

/-- Who sends the request is turned away: with a cookie, or with a name and a
password while the key of the passwords can sign. -/
inductive IsTurnedAway (occasion : Occasion) : Rejection → Prop
  | me {cookie : Option String} {why : Rejection} (hasks : occasion.Asks .me)
      (hcookie : occasion.service.settings.cookieOf occasion.request
        = .ok cookie)
      (h : Unidentified occasion.service.settings occasion.now occasion.store
        cookie why) :
      IsTurnedAway occasion why
  | login {payload : LoginPayload Wording} {secret : List UInt8}
      {why : Rejection} (hasks : occasion.Asks .login)
      (hbrings : occasion.Brings payload)
      (hkey : occasion.service.settings.passwordKey.usable? = some secret)
      (h : Unrecognized occasion.service.settings occasion.store payload
        why) :
      IsTurnedAway occasion why

/-- A visit is answered by its route. -/
theorem handled_of_me (h : occasion.Asks .me) :
    occasion.handled
      = me occasion.service.settings occasion.now occasion.store
          occasion.request := by
  unfold handled respond
  rw [h]

/-- A login is answered by its route, as deep as the platform reads. -/
theorem handled_of_login (h : occasion.Asks .login) :
    occasion.handled
      = login occasion.service.platform.depths occasion.service.settings
          occasion.now occasion.store occasion.request := by
  unfold handled respond
  rw [h]

end Occasion

variable {depths : RequestBody.Depths} {request : Request} {setback : Setback}

/-- What stops a visit is all that is told of it. -/
theorem me_of_setback (hcookie : settings.cookieOf request = .ok cookie)
    (h : identify settings now store cookie = .error setback) :
    me settings now store request = stopped setback := by
  unfold me
  rw [hcookie]
  simp only
  rw [h]

/-- The same for a login whose body was taken. -/
theorem login_of_setback
    (htake : RequestBody.take depths LoginPayload.fields request = .ok payload)
    (h : logIn settings now store payload = .error setback) :
    login depths settings now store request = stopped setback := by
  unfold login
  rw [htake]
  simp only
  rw [h]

namespace Occasion

variable {occasion : Occasion}

/-- The response is always the same, and the log is made of the rejection. -/
theorem handled_of_isTurnedAway (h : occasion.IsTurnedAway why) :
    occasion.handled = ⟨.unauthorized, [why.entry]⟩ := by
  cases h with
  | me hasks hcookie h =>
      rw [handled_of_me hasks,
        me_of_setback hcookie (identify_eq_rejected_iff.2 h)]
      rfl
  | login hasks hbrings hkey h =>
      rw [handled_of_login hasks,
        login_of_setback hbrings (logIn_eq_rejected_iff.2 h)]
      rfl

/-- What cannot be signed breaks the request down, and nothing is logged. -/
theorem handled_of_unsignable (hasks : occasion.Asks .login)
    (hbrings : occasion.Brings payload)
    (hkey : occasion.service.settings.passwordKey.usable? = some secret)
    (h : Unsignable occasion.store payload) :
    occasion.handled = ⟨.broken (.failure .unencodable), []⟩ := by
  rw [handled_of_login hasks,
    login_of_setback hbrings (logIn_of_unsignable hkey h)]
  rfl

/-- Whoever is not the one of a record is turned away, unless there is
nothing to sign. -/
theorem exists_isTurnedAway_of_not_recognized (hasks : occasion.Asks .login)
    (hbrings : occasion.Brings payload)
    (hkey : occasion.service.settings.passwordKey.usable? = some secret)
    (hno : ∀ record, ¬ Recognized occasion.service.settings occasion.store
      payload record)
    (hsigned : ¬ Unsignable occasion.store payload) :
    ∃ why, occasion.IsTurnedAway why := by
  rcases recognized_or_unrecognized_of_usable hkey occasion.store payload
    with h | h | h
  · obtain ⟨record, h⟩ := h
    exact absurd h (hno record)
  · obtain ⟨why, h⟩ := h
    exact ⟨why, .login hasks hbrings hkey h⟩
  · exact absurd h hsigned

/-- A login is turned away as one that is rejected. -/
theorem logIn_of_isTurnedAway (hasks : occasion.Asks .login)
    (hbrings : occasion.Brings payload) (h : occasion.IsTurnedAway why) :
    logIn occasion.service.settings occasion.now occasion.store payload
      = .error (.rejected why) := by
  cases h with
  | me hasks' =>
      rw [Asks, hasks] at hasks'
      cases hasks'
  | login _ hbrings' _ hunrecognized =>
      rw [Brings, hbrings] at hbrings'
      cases hbrings'
      exact logIn_eq_rejected_iff.2 hunrecognized

/-- A login is turned away exactly if it is that of no record, unless it
comes to nothing at all. -/
theorem exists_isTurnedAway_iff (hasks : occasion.Asks .login)
    (hbrings : occasion.Brings payload)
    (hkey : occasion.service.settings.passwordKey.usable? = some secret) :
    (∃ why, occasion.IsTurnedAway why)
      ↔ (∀ record,
          ¬ Recognized occasion.service.settings occasion.store payload record)
        ∧ ¬ Unsignable occasion.store payload := by
  constructor
  · intro h
    obtain ⟨why, h⟩ := h
    -- whoever is turned away was rejected, and the other two ends of a
    -- login are none
    have hrejected := logIn_of_isTurnedAway hasks hbrings h
    constructor
    · intro record hrecognized
      rw [logIn_of_recognized hkey hrecognized] at hrejected
      exact letIn_ne_rejected hrejected
    · intro hunsignable
      rw [logIn_of_unsignable hkey hunsignable] at hrejected
      cases hrejected
  · intro h
    exact exists_isTurnedAway_of_not_recognized hasks hbrings hkey h.1 h.2

theorem exists_of_stopped (h : (stopped setback).response.status = 401) :
    ∃ why, setback = .rejected why := by
  cases setback with
  | rejected why => exact ⟨why, rfl⟩
  | broken cause => exact absurd h (show ¬ 500 = 401 by decide)

/-- A visit is answered as unauthorized only for a reason that a cookie can
give. -/
theorem exists_isTurnedAway_of_me (hasks : occasion.Asks .me)
    (h : occasion.handled.response.status = 401) :
    ∃ why, occasion.IsTurnedAway why := by
  rw [handled_of_me hasks, me] at h
  split at h
  case h_1 =>
    obtain ⟨why, hwhy⟩ := exists_of_stopped h
    cases hwhy
  case h_2 cookie hcookie =>
    split at h
    case h_1 setback hidentify =>
      obtain ⟨why, rfl⟩ := exists_of_stopped h
      exact ⟨why, .me hasks hcookie (identify_eq_rejected_iff.1 hidentify)⟩
    case h_2 => exact absurd h (show ¬ 200 = 401 by decide)

/-- A login is answered as unauthorized only for a reason that a name
and a password can give. -/
theorem exists_isTurnedAway_of_login (hasks : occasion.Asks .login)
    (hbrings : occasion.Brings payload)
    (hkey : occasion.service.settings.passwordKey.usable? = some secret)
    (h : occasion.handled.response.status = 401) :
    ∃ why, occasion.IsTurnedAway why := by
  rw [handled_of_login hasks, login, hbrings] at h
  simp only at h
  split at h
  case h_1 setback hlogIn =>
    obtain ⟨why, rfl⟩ := exists_of_stopped h
    exact ⟨why, .login hasks hbrings hkey (logIn_eq_rejected_iff.1 hlogIn)⟩
  case h_2 => exact absurd h (show ¬ 200 = 401 by decide)

end Occasion

/-- Whoever is turned away is told the same, and is given no cookie. What is
logged is told by the rejection: two occasions with the same one are logged
the same, be the settings, the records, the clocks and the requests what they
may. And nobody is answered like that for any other reason, be it on a visit or
on a login with a name and a password.

A login that is not that of a record is turned away, unless its password has no
bytes and its name a record. Then the request breaks down, without a cookie and
without a word in the log. -/
theorem turned_away_alike (first second : Occasion) :
    (∀ why, first.IsTurnedAway why →
      first.handled.response = .unauthorized
        ∧ first.handled.response.status = 401
        ∧ first.handled.response.setCookies = [])
    ∧ (∀ why, first.IsTurnedAway why → second.IsTurnedAway why →
      first.handled.log = second.handled.log)
    ∧ (first.Asks .me → first.handled.response.status = 401 →
      ∃ why, first.IsTurnedAway why)
    ∧ ∀ (payload : LoginPayload Wording) (secret : List UInt8),
        first.Asks .login → first.Brings payload →
        first.service.settings.passwordKey.usable? = some secret →
        (first.handled.response.status = 401 → ∃ why, first.IsTurnedAway why)
        ∧ ((∃ why, first.IsTurnedAway why)
          ↔ (∀ record, ¬ Recognized first.service.settings first.store
              payload record)
            ∧ ¬ Unsignable first.store payload)
        ∧ (Unsignable first.store payload →
            first.handled = ⟨.broken (.failure .unencodable), []⟩) := by
  refine ⟨?response, ?log, ?visit, ?login⟩
  case response =>
    intro why h
    rw [Occasion.handled_of_isTurnedAway h]
    exact ⟨rfl, rfl, rfl⟩
  case log =>
    intro why hfirst hsecond
    rw [Occasion.handled_of_isTurnedAway hfirst,
      Occasion.handled_of_isTurnedAway hsecond]
  case visit =>
    intro hasks h
    exact Occasion.exists_isTurnedAway_of_me hasks h
  case login =>
    intro payload secret hasks hbrings hkey
    refine ⟨?_, ?_, ?_⟩
    · exact Occasion.exists_isTurnedAway_of_login hasks hbrings hkey
    · exact Occasion.exists_isTurnedAway_iff hasks hbrings hkey
    · exact Occasion.handled_of_unsignable hasks hbrings hkey

/-- The login of the sample, with other keys, another clock and a stored text of
any kind. -/
def sampleAttempt (password token : List UInt8) (now : Instant)
    (stored : String) : Occasion :=
  ⟨⟨samplePlatform,
      { sample.settings with
        passwordKey := .bytes password
        tokenKey := .bytes token },
      sample.apiRoot, sample.sink⟩,
    now, (sampleStart stored).store, sampleLogin⟩

/-- A stored text without the mark is no password, so that whoever comes
to it is turned away. -/
theorem isTurnedAway_sampleAttempt (password token : List UInt8) (now : Instant)
    (stored : String) (hkey : password ≠ [])
    (hstored : ¬ Password.scheme.toList <+: stored.toList) :
    (sampleAttempt password token now stored).IsTurnedAway
      (.wrongPassword "ana") := by
  have husable : (Key.bytes password).usable? = some password :=
    Key.usable?_eq_some_iff.2 ⟨hkey, rfl⟩
  have hrecord : (sampleStart stored).store.find? "ana"
      = some (sampleRecord stored) := rfl
  refine .login (asks_sampleLogin ⟨now, (sampleStart stored).store⟩).2
    take_sampleLogin husable ?_
  exact .wrongPassword hrecord rfl husable
    (Password.store_ne_of_unmarked hstored)

/-- A password in the clear in one store and an empty text in another, under
keys and clocks that have nothing in common, are the same to the client and to
the log. -/
theorem turned_away_alike_of_unmarked :
    ∃ first second : Occasion,
      first.service.settings.passwordKey ≠ second.service.settings.passwordKey
      ∧ first.service.settings.tokenKey ≠ second.service.settings.tokenKey
      ∧ first.now ≠ second.now ∧ first.store ≠ second.store
      ∧ first.handled.response.status = 401
      ∧ second.handled.response = first.handled.response
      ∧ second.handled.log = first.handled.log := by
  let first := sampleAttempt [1] [2] .first "open"
  let second := sampleAttempt [3, 4] [] ⟨63839664000000000, by decide⟩ ""
  have hfirst : first.IsTurnedAway (.wrongPassword "ana") :=
    isTurnedAway_sampleAttempt _ _ _ _ (by decide) (by decide)
  have hsecond : second.IsTurnedAway (.wrongPassword "ana") :=
    isTurnedAway_sampleAttempt _ _ _ _ (by decide) (by decide)
  obtain ⟨htold, -⟩ := turned_away_alike first second
  obtain ⟨htold', hlogged, -⟩ := turned_away_alike second first
  obtain ⟨hresponse, hstatus, -⟩ := htold _ hfirst
  obtain ⟨hresponse', -, -⟩ := htold' _ hsecond
  refine ⟨first, second, ?_, ?_, ?_, ?_, hstatus,
    hresponse'.trans hresponse.symm, hlogged _ hsecond hfirst⟩
  · decide
  · decide
  · decide
  · decide

-- ============================================= half of a surrogate pair

/-- The login of the sample with half of a surrogate pair as the password. -/
def tornLogin (store : Store) : Occasion :=
  ⟨sample, (sampleStart "").now, store, sampleLoginOf "\\ud800"⟩

def tornPayload : LoginPayload Wording := ⟨"ana", ⟨[.half ⟨0, by decide⟩]⟩⟩

theorem asks_tornLogin (store : Store) : (tornLogin store).Asks .login :=
  (asks_sampleLogin ⟨(sampleStart "").now, store⟩).2

/-- The escape is read as the half that it stands for. -/
theorem brings_tornLogin (store : Store) :
    (tornLogin store).Brings tornPayload := by
  have htake : (RequestBody.take samplePlatform.depths LoginPayload.fields
      (sampleLoginOf "\\ud800")).toOption = some tornPayload := by
    decide +kernel
  exact take_eq_ok_of_toOption htake

/-- Where the name has a record there is nothing to sign. -/
theorem unsignable_tornLogin (stored : String) :
    Unsignable (tornLogin (sampleStart stored).store).store tornPayload :=
  ⟨⟨sampleRecord stored, rfl⟩, rfl⟩

/-- Nobody logs in with half of a surrogate pair, whether the name has a record
or not. But the client can tell the one from the other: a name without a record
is turned away, and one with a record breaks the request down. -/
theorem torn_password_tells_records :
    ∃ nobody somebody : Store,
      nobody.find? tornPayload.username = none
      ∧ somebody.find? tornPayload.username = some (sampleRecord "")
      ∧ (∀ store, (tornLogin store).Asks .login
        ∧ (tornLogin store).Brings tornPayload
        ∧ ∀ record, ¬ Recognized sample.settings store tornPayload record)
      ∧ (tornLogin nobody).handled.response.status = 401
      ∧ (tornLogin somebody).handled.response.status = 500 := by
  have hkey : sample.settings.passwordKey.usable? = some [112] := rfl
  refine ⟨.empty, (sampleStart "").store, rfl, rfl, ?_, ?_, ?_⟩
  · intro store
    exact ⟨asks_tornLogin store, brings_tornLogin store,
      fun record => not_recognized_of_torn rfl⟩
  · rw [Occasion.handled_of_isTurnedAway
      (.login (asks_tornLogin .empty) (brings_tornLogin .empty) hkey
        (.unknown rfl))]
    rfl
  · rw [Occasion.handled_of_unsignable (asks_tornLogin _)
      (brings_tornLogin _) hkey (unsignable_tornLogin "")]
    rfl

end Service

end StatelessAuth
