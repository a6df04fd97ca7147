/-
The routes of the application, and how a request finds its route.

Beside the routes of the interface there are pages that describe the
interface, which the framework adds by itself and looks for first.

The paths of the routes are patterns, since the path of the interface may
have parameters; what these hold is of no further use. A route is found by
its pattern. If the path is one of a route but the method is not, the
method is refused; if it is no path, but would be one with a slash more or
without the slashes at its end, the client is told that path. If something
is wrong with the paths of the interface themselves, only the pages are
still found.
-/
import StatelessAuth.Http.PathPattern
import StatelessAuth.Text.Split

namespace StatelessAuth

/-- The pages that describe the interface: its schema, and what shows it
to a reader. -/
inductive Page
  | schema
  | docs
  | docsReturn
  | redoc
  deriving DecidableEq, Repr

namespace Page

def all : List Page := [schema, docs, docsReturn, redoc]

def path : Page → String
  | schema => "/openapi.json"
  | docs => "/docs"
  | docsReturn => "/docs/oauth2-redirect"
  | redoc => "/redoc"

end Page

inductive Route
  | page (page : Page)
  | login
  | logoff
  | me
  | root
  deriving DecidableEq, Repr

namespace Route

def pages : List Route := Page.all.map page

/-- The routes in the order in which they are looked for. -/
def all : List Route := pages ++ [login, logoff, me, root]

def methods : Route → List String
  | page _ => ["GET", "HEAD"]
  | login => ["POST"]
  | logoff => ["POST"]
  | me => ["GET"]
  | root => ["GET"]

def path (apiRoot : String) : Route → String
  | page which => which.path
  | login => apiRoot ++ "/auth/login"
  | logoff => apiRoot ++ "/auth/logoff"
  | me => apiRoot ++ "/auth/me"
  | root => "/"

/-- The name of what a login or a logoff takes from the body, which no
parameter of a path can have. -/
def bodyName : String := "payload"

/-- What is wrong with the paths, if anything is. All the routes of the
interface share what comes before their own names, so that the first one
speaks for them. -/
def fault? (apiRoot : String) : Option PathFault :=
  match PathPattern.ofText (login.path apiRoot) with
  | .error fault => some fault
  | .ok pattern =>
      if bodyName.toList ∈ pattern.takenNames then some .reservedName else none

/-- The parameters of a path, if it is one of the route. -/
def capture? (apiRoot path : String) (route : Route) :
    Option (List PathPattern.Holding) :=
  match PathPattern.ofText (route.path apiRoot) with
  | .ok pattern => pattern.capture? path.toList
  | .error _ => none

/-- The route of a path, and the parameters of the path. -/
def ofPath? (apiRoot path : String) :
    Option (Route × List PathPattern.Holding) :=
  all.findSome? fun route =>
    (route.capture? apiRoot path).map fun holdings => (route, holdings)

-- ============================================================= finding

/-- A path with a slash more, or without the slashes at its end. -/
def otherSpelling (path : String) : String :=
  if path.toList.getLast? = some '/' then
    String.ofList ((path.toList.reverse.dropWhile (· == '/')).reverse)
  else path ++ "/"

inductive Destination
  | route (route : Route)
  | wrongMethod (allowed : List String)
  | moved (path : String)
  | nowhere
  | faulty (fault : PathFault)
  deriving DecidableEq, Repr

/-- A destination, unless a parameter of the path cannot be read. -/
def unlessUnreadable (holdings : List PathPattern.Holding)
    (destination : Destination) : Destination :=
  if holdings.any (·.isUnreadable) then .faulty .longInteger else destination

/-- The page that a request of a method for a path asks for. -/
def page? (method path : String) : Option Route :=
  pages.find? fun route =>
    method ∈ route.methods && (route.capture? "" path).isSome

/-- Where a request leads that asks for no page. -/
def findBehindPages (apiRoot method path : String) : Destination :=
  match fault? apiRoot with
  | some fault => .faulty fault
  | none =>
      match ofPath? apiRoot path with
      | some (route, holdings) =>
          unlessUnreadable holdings
            (if method ∈ route.methods then .route route
              else .wrongMethod route.methods)
      | none =>
          match ofPath? apiRoot (otherSpelling path) with
          | some (_, holdings) =>
              unlessUnreadable holdings (.moved (otherSpelling path))
          | none => .nowhere

/-- Where a request of a method for a path leads. -/
def find (apiRoot method path : String) : Destination :=
  match page? method path with
  | some found => .route found
  | none => findBehindPages apiRoot method path

-- ============================================================= listing

/-- Why a route has no path that could be named. -/
inductive UnnamedPath
  | faulty (fault : PathFault)
  | parametric
  deriving DecidableEq, Repr

def onlyPath (apiRoot : String) (route : Route) : Except UnnamedPath String :=
  match fault? apiRoot, PathPattern.ofText (route.path apiRoot) with
  | some fault, _ => .error (.faulty fault)
  | none, .error fault => .error (.faulty fault)
  | none, .ok pattern =>
      if pattern.names.isEmpty then .ok (route.path apiRoot)
      else .error .parametric

end Route

end StatelessAuth
