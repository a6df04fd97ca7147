/-
Who is let in, and with what: the conditions of `identify` and `logIn`,
each said once (`identify_eq_ok_iff`, `logIn_eq_ok_iff`). Both end in a
cookie with a token that was issued at that instant
(`settingCookie_eq_ok_iff`), and what the cookie carries is the text of
that token (`carried?_of_settingCookie`).

Such a token is of use until it expires and not after
(`identify_of_isFor`, `identify_of_isFor_expired`), and only while the
record of its identity has the salt that it was signed with
(`identify_of_other_salt`). Its expiration was written and is read again,
so that it has to be in a year of four digits (`EndsInForm`).
-/
import StatelessAuth.App.Authentication
import StatelessAuth.Proofs.Http.Cookie
import StatelessAuth.Proofs.Password
import StatelessAuth.Proofs.Token.Binding
import StatelessAuth.Proofs.Token.Lifetime

namespace StatelessAuth

-- ============================================================= cookies

/-- Whoever demands a key gets the one of the settings, unless it was
left out. -/
theorem Key.demanded_eq_ok_iff {key given : Key} :
    key.demanded = .ok given ↔ key ≠ .absent ∧ given = key := by
  unfold Key.demanded
  split
  case isTrue habsent => simp [habsent]
  case isFalse hgiven =>
    constructor
    · intro h
      cases h
      exact ⟨hgiven, rfl⟩
    · intro h
      obtain ⟨-, rfl⟩ := h
      rfl

/-- A key that can sign was handed over. -/
theorem Key.demanded_of_usable {key : Key} {secret : List UInt8}
    (h : key.usable? = some secret) : key.demanded = .ok key := by
  refine Key.demanded_eq_ok_iff.2 ⟨?_, rfl⟩
  intro habsent
  rw [habsent] at h
  cases h

/-- A key that signed something was handed over. -/
theorem Token.demanded_of_signatureFor {key : Key}
    {identity expiration salt signature : String}
    (h : signatureFor key identity expiration salt = .ok signature) :
    key.demanded = .ok key := by
  obtain ⟨secret, hkey, -⟩ := sign_eq_ok_iff.1 h
  exact Key.demanded_of_usable hkey

namespace Settings

variable {settings : Settings} {now : Instant} {identity salt text : String}

/-- A cookie is named by the settings, which may name it with something
that is no text, or with a text that no header can hold. -/
theorem sentCookieName_eq_ok_iff {name : String} :
    settings.sentCookieName = .ok name
      ↔ settings.cookieName = .text name ∧ Cookie.isSendable name = true := by
  unfold sentCookieName
  split
  case h_1 other hother =>
    rw [hother]
    split
    case isTrue hsendable =>
      constructor
      · intro h
        cases h
        exact ⟨rfl, hsendable⟩
      · intro h
        obtain ⟨heq, -⟩ := h
        cases heq
        rfl
    case isFalse hnot =>
      constructor
      · intro h
        cases h
      · intro h
        obtain ⟨heq, hsendable⟩ := h
        cases heq
        exact absurd hsendable hnot
  all_goals
    constructor
    · intro h
      cases h
    · intro h
      obtain ⟨heq, -⟩ := h
      simp_all

/-- A cookie is set with a token that is issued now. -/
theorem settingCookie_eq_ok_iff :
    settings.settingCookie now identity salt = .ok text
      ↔ ∃ token name,
          Token.issue now identity settings.tokenDuration salt
            settings.tokenKey = .ok token
          ∧ settings.cookieName = .text name ∧ Cookie.isSendable name = true
          ∧ text = Cookie.settingText name token.toText := by
  unfold settingCookie tokenPolicy TokenPolicy.issue
  constructor
  · intro h
    cases hkey : settings.tokenKey.demanded with
    | error cause => simp [hkey, bind, Except.bind] at h
    | ok key =>
        cases htoken : Token.issue now identity settings.tokenDuration salt
            settings.tokenKey with
        | error cause => simp [hkey, htoken, bind, Except.bind, Except.map] at h
        | ok token =>
            cases hname : settings.sentCookieName with
            | error cause =>
                simp [hkey, htoken, hname, bind, Except.bind, Except.map] at h
            | ok name =>
                simp only [hkey, htoken, hname, bind, Except.bind,
                  Except.map] at h
                -- nothing went wrong, so that what was set is what the
                -- token and the name make
                injection h with h
                obtain ⟨htext, hsendable⟩ := sentCookieName_eq_ok_iff.1 hname
                exact ⟨token, name, rfl, htext, hsendable, h.symm⟩
  · intro h
    obtain ⟨token, name, htoken, hname, hsendable, rfl⟩ := h
    obtain ⟨-, -, -, -, hsignature⟩ := Token.issue_eq_ok_iff.1 htoken
    have hkey := Token.demanded_of_signatureFor hsignature
    have hsent := sentCookieName_eq_ok_iff.2 ⟨hname, hsendable⟩
    simp only [hkey, htoken, hsent, bind, Except.bind, Except.map]

/-- A cookie can be set for anybody when it has a name that can be sent, the key
signs, and the lifetime of a token ends in the calendar. -/
theorem exists_settingCookie_of_usable {name : String} {deadline : Instant}
    {secret : List UInt8} (hname : settings.cookieName = .text name)
    (hsendable : Cookie.isSendable name = true)
    (hdeadline : Duration.after now settings.tokenDuration = .ok deadline)
    (hkey : settings.tokenKey.usable? = some secret) (identity salt : String) :
    ∃ text, settings.settingCookie now identity salt = .ok text := by
  obtain ⟨token, htoken⟩ := Token.exists_issue hdeadline hkey identity salt
  exact ⟨_, settingCookie_eq_ok_iff.2
    ⟨token, name, htoken, hname, hsendable, rfl⟩⟩

/-- What could set a cookie once can set one at every instant at which the
lifetime of a token ends in the calendar. -/
theorem settingCookie_again {later deadline : Instant}
    (h : settings.settingCookie now identity salt = .ok text)
    (hdeadline : Duration.after later settings.tokenDuration = .ok deadline)
    (other otherSalt : String) :
    ∃ next, settings.settingCookie later other otherSalt = .ok next := by
  obtain ⟨token, name, htoken, hname, hsendable, -⟩ :=
    settingCookie_eq_ok_iff.1 h
  obtain ⟨-, -, -, -, hsignature⟩ := Token.issue_eq_ok_iff.1 htoken
  obtain ⟨secret, hkey, -⟩ := sign_eq_ok_iff.1 hsignature
  exact exists_settingCookie_of_usable hname hsendable hdeadline hkey
    other otherSalt

end Settings

-- ============================================================== tokens

/-- A signed token is written with letters, digits, the two signs of the
code and the dots between its parts. Nothing of it is quoted in a
cookie. -/
theorem Token.all_isTokenChar_toText {token : Token} {key : Key}
    {content salt : String} (h : sign key content salt = .ok token.signature) :
    token.toText ≠ "" ∧ token.toText.toList.all Cookie.isTokenChar = true := by
  obtain ⟨secret, -, hsignature⟩ := sign_eq_ok_iff.1 h
  constructor
  · intro hempty
    have hchars := congrArg String.toList hempty
    rw [toList_toText] at hchars
    simp at hchars
  · rw [toList_toText, hsignature, Base64url.toList_encode]
    simp only [List.all_append, List.all_cons,
      Cookie.all_isTokenChar_encodeChars, Bool.and_true, Bool.true_and]
    decide

/-- What was issued is signed. -/
theorem Token.all_isTokenChar_of_issue {now : Instant} {identity salt : String}
    {lifetime : Duration} {key : Key} {token : Token}
    (h : issue now identity lifetime salt key = .ok token) :
    token.toText ≠ "" ∧ token.toText.toList.all Cookie.isTokenChar = true := by
  obtain ⟨-, -, -, -, hsignature⟩ := issue_eq_ok_iff.1 h
  exact all_isTokenChar_toText hsignature

/-- What a cookie that is set carries is the text of a token that is issued
now. -/
theorem carried?_of_settingCookie {settings : Settings} {now : Instant}
    {identity salt text : String}
    (h : settings.settingCookie now identity salt = .ok text) :
    ∃ token, Token.issue now identity settings.tokenDuration salt
        settings.tokenKey = .ok token
      ∧ Cookie.carried? text = some token.toText := by
  obtain ⟨token, name, htoken, -, hname, rfl⟩ :=
    Settings.settingCookie_eq_ok_iff.1 h
  obtain ⟨hne, hplain⟩ := Token.all_isTokenChar_of_issue htoken
  exact ⟨token, htoken, Cookie.carried?_settingText hname hne hplain⟩

/-- What is given out with a cookie that is set is a token that is issued
now. -/
theorem issue_of_settingCookie {settings : Settings} {now : Instant}
    {identity salt text : String} {token : Token}
    (h : settings.settingCookie now identity salt = .ok text)
    (htoken : token.toText ∈ [text].filterMap Cookie.carried?) :
    Token.issue now identity settings.tokenDuration salt settings.tokenKey
      = .ok token := by
  obtain ⟨issued, hissued, hcarried⟩ := carried?_of_settingCookie h
  rw [List.filterMap_cons_some hcarried, List.filterMap_nil,
    List.mem_singleton] at htoken
  rw [Token.toText_injective htoken]
  exact hissued

-- ============================================================= sessions

variable {settings : Settings} {now : Instant} {store : Store}
  {admission : Admission}

/-- Nothing is asked any more of whoever has come as far as the
cookie. -/
theorem letIn_eq_ok_iff {identity salt : String} :
    letIn settings now identity salt = .ok admission
      ↔ settings.settingCookie now identity salt = .ok admission.setCookie
        ∧ admission.identity = identity := by
  unfold letIn
  split
  case h_1 cause hcause => simp [hcause]
  case h_2 setCookie hcookie =>
    constructor
    · intro h
      cases h
      exact ⟨hcookie, rfl⟩
    · intro h
      obtain ⟨heq, rfl⟩ := h
      rw [hcookie] at heq
      cases heq
      rfl

/-- A cookie presents a token when it is the text of one, and the identity
of the token has a record. -/
theorem presented_eq_ok_iff {cookie : Option String} {token : Token}
    {record : AuthRecord} :
    presented store cookie = .ok (token, record)
      ↔ ∃ text, cookie = some text ∧ Token.ofText text = .ok token
          ∧ store.find? token.identity = some record := by
  constructor
  · intro h
    unfold presented at h
    split at h
    case h_1 => cases h
    case h_2 text =>
      split at h
      case isTrue => cases h
      case isFalse =>
        split at h
        case h_1 => cases h
        case h_2 other hread =>
          split at h
          case h_1 => cases h
          case h_2 found hfound =>
            cases h
            exact ⟨text, rfl, hread, hfound⟩
  · intro h
    obtain ⟨text, rfl, hread, hrecord⟩ := h
    -- no token is read from the empty text, which counts as no cookie
    have hne : text ≠ "" := by
      intro h
      subst h
      cases hread
    unfold presented
    simp only [if_neg hne, hread, hrecord]

/-- Who sends a cookie is let in when it presents a token that passes, and a
new one can be set. -/
theorem identify_eq_ok_iff {cookie : Option String} :
    identify settings now store cookie = .ok admission
      ↔ ∃ text token record, cookie = some text ∧ Token.ofText text = .ok token
          ∧ store.find? token.identity = some record
          ∧ Token.check now token record.tokenSalt settings.tokenKey = .ok ()
          ∧ settings.settingCookie now token.identity record.tokenSalt
              = .ok admission.setCookie
          ∧ admission.identity = token.identity := by
  constructor
  · intro h
    unfold identify at h
    split at h
    case h_1 => cases h
    case h_2 token record hpresented =>
      obtain ⟨text, hcookie, hread, hrecord⟩ := presented_eq_ok_iff.1 hpresented
      split at h
      case h_1 => cases h
      case h_2 key hkey =>
        -- the key that was demanded is the one that the check is made
        -- with
        obtain ⟨-, rfl⟩ := Key.demanded_eq_ok_iff.1 hkey
        split at h
        case h_1 => cases h
        case h_2 => cases h
        case h_3 hcheck =>
          obtain ⟨hset, hidentity⟩ := letIn_eq_ok_iff.1 h
          exact ⟨text, token, record, hcookie, hread, hrecord, hcheck,
            hset, hidentity⟩
  · intro h
    obtain ⟨text, token, record, hcookie, hread, hrecord, hcheck, hset,
      hidentity⟩ := h
    have hpresented := presented_eq_ok_iff.2 ⟨text, hcookie, hread, hrecord⟩
    have hkey := Token.demanded_of_signatureFor
      (Token.check_eq_ok_iff.1 hcheck).1
    unfold identify
    simp only [hpresented, hkey, hcheck]
    exact letIn_eq_ok_iff.2 ⟨hset, hidentity⟩

/-- A cookie whose token is signed but past its expiration is refused. -/
theorem identify_of_expired {text : String} {token : Token}
    {record : AuthRecord} {deadline : Instant}
    (hread : Token.ofText text = .ok token)
    (hrecord : store.find? token.identity = some record)
    (hsignature : Token.signatureFor settings.tokenKey token.identity
      token.expiration record.tokenSalt = .ok token.signature)
    (hparse : Timestamp.parse token.expiration = .ok deadline)
    (hpast : deadline < now) :
    identify settings now store (some text)
      = .error (.rejected (.refused token.identity .expired)) := by
  have hpresented := presented_eq_ok_iff.2 ⟨text, rfl, hread, hrecord⟩
  have hkey := Token.demanded_of_signatureFor hsignature
  have hcheck : Token.check now token record.tokenSalt settings.tokenKey
      = .error (.refused .expired) := by
    have hnot : ¬ now ≤ deadline := Nat.not_le_of_lt hpast
    rw [Token.check_of_signed hsignature hparse, if_neg hnot]
  unfold identify
  simp only [hpresented, hkey, hcheck]

/-- A cookie whose token was signed with a salt that the record of its identity
does not have is rejected, but for collisions. So it is when there is no such
record. -/
theorem identify_of_other_salt (now : Instant) {token : Token} {salt : String}
    (hsigned : Token.signatureFor settings.tokenKey token.identity
      token.expiration salt = .ok token.signature)
    (hother : ∀ record, store.find? token.identity = some record →
      record.tokenSalt ≠ salt) :
    (∃ why, identify settings now store (some token.toText)
      = .error (.rejected why))
      ∨ ∃ record, store.find? token.identity = some record
          ∧ token.CollidesUnder settings.tokenKey salt record.tokenSalt := by
  rcases hpresented : presented store (some token.toText)
    with why | ⟨shown, record⟩
  · refine Or.inl ⟨why, ?_⟩
    unfold identify
    rw [hpresented]
  · obtain ⟨text, htext, hread, hrecord⟩ := presented_eq_ok_iff.1 hpresented
    injection htext with htext
    rw [← htext] at hread
    have hsame : token = shown :=
      Token.toText_injective (Token.ofText_eq_ok_iff.1 hread).1
    subst hsame
    have hkey := Token.demanded_of_signatureFor hsigned
    -- the same text is signed for the other salt only if the two joined
    -- contents are the same, and that is the collision
    rcases Token.check_of_other_salt hsigned (hother record hrecord)
      with hcheck | hcollides
    · refine Or.inl ⟨.refused token.identity .signatureMismatch, ?_⟩
      unfold identify
      simp only [hpresented, hkey]
      rw [hcheck]
    · exact Or.inr ⟨record, hrecord, hcollides⟩

/-- Who sends a name and a password is let in when the name has a record, the
password is the one of the record, and a token can be set. -/
theorem logIn_eq_ok_iff {payload : LoginPayload Wording} :
    logIn settings now store payload = .ok admission
      ↔ ∃ record key, store.find? payload.username = some record
          ∧ settings.passwordKey.demanded = .ok key
          ∧ Password.checkGiven key payload.pwd record.pwdSalt
              record.pwd = .ok ()
          ∧ settings.settingCookie now record.username record.tokenSalt
              = .ok admission.setCookie
          ∧ admission.identity = record.username := by
  constructor
  · intro h
    unfold logIn at h
    split at h
    case h_1 => cases h
    case h_2 record hrecord =>
      split at h
      case h_1 => cases h
      case h_2 key hkey =>
        split at h
        case h_1 => cases h
        case h_2 => cases h
        case h_3 hcheck =>
          obtain ⟨hset, hidentity⟩ := letIn_eq_ok_iff.1 h
          exact ⟨record, key, hrecord, hkey, hcheck, hset, hidentity⟩
  · intro h
    obtain ⟨record, key, hrecord, hkey, hcheck, hset, hidentity⟩ := h
    unfold logIn
    simp only [hrecord, hkey, hcheck]
    exact letIn_eq_ok_iff.2 ⟨hset, hidentity⟩

-- ================================================= tokens of a record

/-- The token is one of a record, signed and in form, and expires at an
instant. -/
structure Token.IsFor (key : Key) (record : AuthRecord) (deadline : Instant)
    (token : Token) : Prop where
  read : ofText token.toText = .ok token
  named : token.identity = record.username
  signed : signatureFor key token.identity token.expiration record.tokenSalt
    = .ok token.signature
  expires : Timestamp.parse token.expiration = .ok deadline

/-- A lifetime ends in the calendar, and in a year of four digits. -/
def EndsInForm (shift : Int) (now : Instant) : Prop :=
  ∃ deadline : Instant, (deadline.micros : Int) = now.micros + shift
    ∧ 1000 ≤ deadline.year

variable {record : AuthRecord} {shift : Int}

/-- A cookie that is set for a record carries a token of it, which expires
the lifetime of a token later. -/
theorem isFor_of_settingCookie {setCookie : String}
    (hset : settings.settingCookie now record.username record.tokenSalt
      = .ok setCookie)
    (hname : record.username ≠ "")
    (hlifetime : settings.tokenDuration.micros = .ok shift)
    (hform : EndsInForm shift now) :
    ∃ (token : Token) (deadline : Instant), Cookie.carried? setCookie
      = some token.toText
      ∧ token.IsFor settings.tokenKey record deadline
      ∧ (deadline.micros : Int) = now.micros + shift := by
  obtain ⟨token, hissue, hcarried⟩ := carried?_of_settingCookie hset
  obtain ⟨deadline, hafter, hnamed, hexpiration, hsigned⟩ :=
    Token.issue_eq_ok_iff.1 hissue
  obtain ⟨shift', hmicros, hdeadline⟩ := Duration.after_eq_ok_iff.1 hafter
  obtain ⟨instant, hinstant, hyear⟩ := hform
  rw [hlifetime] at hmicros
  injection hmicros with hshift
  rw [← hshift] at hdeadline
  -- an instant is told by its microseconds, so that the one in form is
  -- the one of the token
  have hsame : instant = deadline := by
    have hfound := Instant.ofMicros?_eq_some_iff.2 hinstant
    rw [Instant.ofMicros?_eq_some_iff.2 hdeadline] at hfound
    exact (Option.some.inj hfound).symm
  rw [hsame] at hyear
  refine ⟨token, deadline, hcarried, ⟨?_, hnamed, hsigned, ?_⟩, hdeadline⟩
  · exact Token.ofText_of_issue hissue hname
  · rw [hexpiration]
    exact Timestamp.parse_format hyear

variable {token : Token} {deadline : Instant}

/-- Who shows a token of a record in time is let in, if a cookie can be
set. -/
theorem identify_of_isFor {setCookie : String}
    (htoken : token.IsFor settings.tokenKey record deadline)
    (hrecord : store.find? record.username = some record) (hle : now ≤ deadline)
    (hset : settings.settingCookie now record.username record.tokenSalt
      = .ok setCookie) :
    identify settings now store (some token.toText)
      = .ok ⟨record.username, setCookie⟩ := by
  refine identify_eq_ok_iff.2
    ⟨token.toText, token, record, rfl, htoken.read, ?_, ?_, ?_,
      htoken.named.symm⟩
  · rw [htoken.named]
    exact hrecord
  · exact Token.check_eq_ok_iff.2 ⟨htoken.signed, deadline, htoken.expires, hle⟩
  · rw [htoken.named]
    exact hset

/-- After its expiration the same token is of no use, with nothing else
changed. -/
theorem identify_of_isFor_expired
    (htoken : token.IsFor settings.tokenKey record deadline)
    (hrecord : store.find? record.username = some record)
    (hlt : deadline < now) :
    identify settings now store (some token.toText)
      = .error (.rejected (.refused token.identity .expired)) := by
  refine identify_of_expired htoken.read ?_ htoken.signed htoken.expires hlt
  rw [htoken.named]
  exact hrecord

end StatelessAuth
