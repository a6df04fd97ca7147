/-
The application as a whole: how it is set up, and how it answers whatever
happens to it.

What it runs on is not its own (`Platform`): how deep a document is read
and quoted before the machine gives up, and what stands in the pages that
the framework makes about the interface.

`Service.respond` answers a request from what was set up, the present instant
and the records; it changes none of them, so that all a session knows is
in the cookie. `Service.step` adds what changes between requests: the
clock moves, and records come and go.
-/
import StatelessAuth.App.Authentication
import StatelessAuth.App.RequestBody
import StatelessAuth.App.Route
import StatelessAuth.Http.Address
import StatelessAuth.Log.Sink

namespace StatelessAuth

/-- What an application runs on. -/
structure Platform where
  depths : RequestBody.Depths
  /-- What stands in a page about the interface, if it can be made. -/
  page : Page → Option Body

structure Service where
  platform : Platform
  settings : Settings
  /-- The path under which the routes of the interface lie. -/
  apiRoot : String
  sink : Log.Sink

/-- Why the application cannot be set up. -/
inductive SetupError
  | level (fault : Log.LevelFault)
  | namelessProject
  /-- The path of the interface is no text. -/
  | rootNotText
  /-- The path of the interface does not begin with a slash. -/
  | relativeRoot
  deriving DecidableEq, Repr

/-- A response, and what was logged over it. -/
structure Handled where
  response : Response
  log : List Log.Entry

namespace Service

-- =============================================================== set up

def version : String := "0.1.0"

def purpose : String :=
  "Autenticação stateless com tokens assinados e com expiração."

/-- The application with some settings. -/
def create (platform : Platform) (settings : Settings) :
    Except SetupError Service :=
  match Log.Sink.none.setUp settings.logLevel with
  | (_, some fault) => .error (.level fault)
  | (sink, none) =>
      if settings.projectName.isVoid then .error .namelessProject
      else
        match settings.apiRoot with
        | .text apiRoot =>
            if apiRoot ≠ "" ∧ apiRoot.toList.head? ≠ some '/' then
              .error .relativeRoot
            else .ok ⟨platform, settings, apiRoot, sink⟩
        | _ => .error .rootNotText

-- ============================================================= requests

/-- The response to a request that is not answered with what it asks for. -/
def stopped : Setback → Handled
  | .rejected why => ⟨.unauthorized, [why.entry]⟩
  | .broken cause => ⟨.broken (.failure cause), []⟩

/-- Answers a page about the interface. -/
def showPage (page : Option Body) : Handled :=
  match page with
  | some body => ⟨.plain 200 body, []⟩
  | none => ⟨.broken .page, []⟩

def login (depths : RequestBody.Depths) (settings : Settings) (now : Instant)
    (store : Store) (request : Request) : Handled :=
  match RequestBody.take depths LoginPayload.fields request with
  | .error response => ⟨response, []⟩
  | .ok payload =>
      match logIn settings now store payload with
      | .error setback => stopped setback
      | .ok admission =>
          ⟨.done (LoginResult.toValue ⟨true⟩) [admission.setCookie],
            [loginEntry admission.identity]⟩

/-- Answers a logoff, which needs no token. -/
def logoff (depths : RequestBody.Depths) (settings : Settings) (now : Instant)
    (request : Request) : Handled :=
  match RequestBody.take depths LogoffPayload.fields request with
  | .error response => ⟨response, []⟩
  | .ok payload =>
      let result := LogoffResult.toValue ⟨payload.logoff⟩
      if payload.logoff then
        match settings.removalCookie now with
        | .error cause => ⟨.broken (.failure cause), []⟩
        | .ok setCookie => ⟨.done result [setCookie], []⟩
      else ⟨.done result [], []⟩

def me (settings : Settings) (now : Instant) (store : Store)
    (request : Request) : Handled :=
  match settings.cookieOf request with
  | .error cause => stopped (.broken cause)
  | .ok cookie =>
      match identify settings now store cookie with
      | .error setback => stopped setback
      | .ok admission =>
          ⟨.done (IdentityOut.toValue ⟨admission.identity⟩)
            [admission.setCookie], []⟩

def welcome (settings : Settings) : Handled :=
  ⟨.done (.record
    [("message", .text
      ("Bem-vindo à " ++ settings.projectName.inSentence ++ "!"))])
    [], []⟩

def respond (service : Service) (now : Instant) (store : Store)
    (request : Request) : Handled :=
  match Route.find service.apiRoot request.method request.path with
  | .route (.page page) => showPage (service.platform.page page)
  | .route .login =>
      login service.platform.depths service.settings now store request
  | .route .logoff =>
      logoff service.platform.depths service.settings now request
  | .route .me => me service.settings now store request
  | .route .root => welcome service.settings
  | .wrongMethod allowed => ⟨.methodNotAllowed allowed, []⟩
  | .moved path => ⟨.redirect (Address.ofPath request.host? path), []⟩
  | .nowhere => ⟨.notFound, []⟩
  | .faulty fault => ⟨.broken (.path fault), []⟩

-- ============================================================== events

inductive Event
  | clock (now : Instant)
  /-- A record is put under a key, if the datum fits. -/
  | put (key : String) (datum : Value)
  | drop (key : String)
  /-- The application starts, and then it ends. -/
  | lifespan
  | request (request : Request)

inductive Answer
  | done
  /-- What was to be put is no record of any kind. -/
  | noRecord
  | invalid (faults : List Fault)
  | logged (log : List Log.Entry)
  | handled (handled : Handled)

/-- What changes between requests. -/
structure State where
  now : Instant
  store : Store
  deriving DecidableEq

def State.start : State := ⟨.first, .empty⟩

def lifespanEntries : List Log.Entry :=
  [.info "Aplicação iniciada e pronta.", .info "Aplicação encerrada."]

/-- What an event changes, and its answer. The log holds the entries that
the sink takes. -/
def step (service : Service) (state : State) : Event → State × Answer
  | .clock now => ({ state with now }, .done)
  | .put key (.record fields) =>
      match AuthRecord.rule (.record fields) with
      | .valid record =>
          ({ state with store := state.store.put key record }, .done)
      | .invalid faults => (state, .invalid faults)
  | .put _ _ => (state, .noRecord)
  | .drop key => ({ state with store := state.store.drop key }, .done)
  | .lifespan => (state, .logged (service.sink.written lifespanEntries))
  | .request request =>
      let handled := service.respond state.now state.store request
      (state, .handled ⟨handled.response, service.sink.written handled.log⟩)

/-- The answers to events that happen one after the other. -/
def run (service : Service) (state : State) : List Event → List Answer
  | [] => []
  | event :: rest =>
      let (next, answer) := service.step state event
      answer :: service.run next rest

end Service

end StatelessAuth
