/-
Who a client is, and how a client becomes someone.

A login checks a name and a password against the record of the name, and
sets the cookie with a new token. A later request shows who sends it by
that cookie (`identify`): the token is read, the record of its identity
supplies the salt, the token is checked with it, and a new one takes its
place, so that a session goes on as long as it is used.

# What is told

Whatever is wrong, the client is told the same (`Response.unauthorized`).
The reason goes to the log (`Rejection.entry`), where it names nothing but
the reason and who was claimed to be asking.
-/
import StatelessAuth.App.Store
import StatelessAuth.Http.Cookie
import StatelessAuth.Http.Request
import StatelessAuth.Http.Response
import StatelessAuth.Log.Entry
import StatelessAuth.Password
import StatelessAuth.Settings

namespace StatelessAuth

/-- Why nobody is let in. -/
inductive Rejection
  /-- The request has no cookie, or an empty one. -/
  | noCookie
  /-- The cookie is no token. -/
  | unreadable (reason : Refusal)
  /-- The identity of the token has no record. -/
  | unknownIdentity
  /-- The token does not hold. -/
  | refused (identity : String) (reason : Refusal)
  /-- The name has no record. -/
  | unknownUser (username : String)
  /-- The password is not the one of the name. -/
  | wrongPassword (username : String)
  deriving DecidableEq, Repr

def Rejection.entry : Rejection → Log.Entry
  | noCookie => .info "Requisição sem cookie de autenticação."
  | unreadable reason => .warning ("Token rejeitado no parse: " ++ reason.kind)
  | unknownIdentity =>
      .warning "Token rejeitado: usuário do token não encontrado."
  | refused identity reason =>
      .warning ("Token rejeitado para '" ++ identity ++ "': " ++ reason.kind)
  | unknownUser username =>
      .info ("Login falhou: usuário '" ++ username ++ "' não encontrado.")
  | wrongPassword username =>
      .info ("Login falhou: senha incorreta para '" ++ username ++ "'.")

def loginEntry (username : String) : Log.Entry :=
  .info ("Login bem-sucedido para '" ++ username ++ "'.")

/-- Why a request is not answered with what it asks for. -/
inductive Setback
  | rejected (why : Rejection)
  | broken (cause : Failure)
  deriving DecidableEq, Repr

-- ============================================================== cookies

namespace Settings

/-- The name of the cookie, if it can be sent. -/
def sentCookieName (settings : Settings) : Except Failure String :=
  match settings.cookieName with
  | .text name =>
      if Cookie.isSendable name then .ok name else .error .cookieName
  | .bytes _ | .buffer _ | .list _ | .record _ => .error .cookieNameNotName
  | _ => .error .cookieNameNotText

/-- The text that sets the cookie with a new token. The token is made
before the name of the cookie is looked at. -/
def settingCookie (settings : Settings) (now : Instant)
    (identity salt : String) : Except Failure String := do
  let _ ← settings.tokenKey.demanded
  let token ← settings.tokenPolicy.issue now identity salt
  let name ← settings.sentCookieName
  .ok (Cookie.settingText name token)

def removalCookie (settings : Settings) (now : Instant) :
    Except Failure String :=
  settings.sentCookieName.map fun name => Cookie.removalText name now

/-- The cookie that a request sends. A name that has parts cannot be looked
up; any other datum that is no text is the name of no cookie. -/
def cookieOf (settings : Settings) (request : Request) :
    Except Failure (Option String) :=
  match settings.cookieName with
  | .text name => .ok (request.cookie? name)
  | .buffer _ | .list _ | .record _ => .error .cookieNameNotName
  | _ => .ok none

end Settings

-- ============================================================ sessions

structure Admission where
  identity : String
  setCookie : String
  deriving DecidableEq, Repr

/-- The token in a cookie, and the record of its identity. -/
def presented (store : Store) (cookie : Option String) :
    Except Rejection (Token × AuthRecord) :=
  match cookie with
  | none => .error .noCookie
  | some text =>
      if text = "" then .error .noCookie
      else
        match Token.ofText text with
        | .error reason => .error (.unreadable reason)
        | .ok token =>
            match store.find? token.identity with
            | none => .error .unknownIdentity
            | some record => .ok (token, record)

/-- Lets someone in under a name, with a new token for the cookie. -/
def letIn (settings : Settings) (now : Instant) (identity salt : String) :
    Except Setback Admission :=
  match settings.settingCookie now identity salt with
  | .error cause => .error (.broken cause)
  | .ok setCookie => .ok ⟨identity, setCookie⟩

/-- Who sends a cookie. -/
def identify (settings : Settings) (now : Instant) (store : Store)
    (cookie : Option String) : Except Setback Admission :=
  match presented store cookie with
  | .error why => .error (.rejected why)
  | .ok (token, record) =>
      match settings.tokenKey.demanded with
      | .error cause => .error (.broken cause)
      | .ok key =>
          match Token.check now token record.tokenSalt key with
          | .error (.refused reason) =>
              .error (.rejected (.refused token.identity reason))
          | .error cause => .error (.broken cause)
          | .ok () => letIn settings now token.identity record.tokenSalt

/-- Who logs in with a name and a password. -/
def logIn (settings : Settings) (now : Instant) (store : Store)
    (payload : LoginPayload Wording) : Except Setback Admission :=
  match store.find? payload.username with
  | none => .error (.rejected (.unknownUser payload.username))
  | some record =>
      match settings.passwordKey.demanded with
      | .error cause => .error (.broken cause)
      | .ok key =>
          match Password.checkGiven key payload.pwd record.pwdSalt
              record.pwd with
          | .error (.refused .passwordMismatch) =>
              .error (.rejected (.wrongPassword payload.username))
          | .error cause => .error (.broken cause)
          | .ok () => letIn settings now record.username record.tokenSalt

end StatelessAuth
