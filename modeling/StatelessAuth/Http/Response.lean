/-
Responses.

A response names the cookies it sets by their texts. A request whose
handling breaks down has a response too, which tells the client nothing;
what broke is kept beside it (`Response.broken`).
-/
import StatelessAuth.Http.PathPattern
import StatelessAuth.Refusal

namespace StatelessAuth

/-- What a response holds. -/
inductive Body
  | empty
  | json (value : Value)
  | text (content : String)

/-- What made the handling of a request break down. -/
inductive Breakdown
  /-- A token or a cookie could not be made, or not be checked. -/
  | failure (cause : Failure)
  /-- A report holds a double that JSON cannot write. -/
  | unwritable
  /-- A report quotes lists and records that stand too deep in each other. -/
  | nesting
  /-- A report holds a text that has no bytes. -/
  | unencodable
  /-- A report would hold bytes as the text that they write, and they write
  none. -/
  | undecodable
  /-- A page about the application cannot be made. -/
  | page
  /-- The paths are no paths, or that of the request cannot be read. -/
  | path (fault : PathFault)
  deriving DecidableEq, Repr

structure Response where
  status : Nat
  body : Body
  /-- The methods that would have been right. -/
  allow : List String
  location : Option String
  setCookies : List String
  breakdown : Option Breakdown

namespace Response

/-- A response with a body and nothing else. -/
def plain (status : Nat) (body : Body) : Response :=
  ⟨status, body, [], none, [], none⟩

/-- A response that only says what is the matter. -/
def detail (status : Nat) (text : String) : Response :=
  plain status (.json (.record [("detail", .text text)]))

/-- The response to a request that nobody is let in for. It is always the
same. -/
def unauthorized : Response := detail 401 "Não autorizado"

def notFound : Response := detail 404 "Not Found"

/-- There is something at the path, but for another method. -/
def methodNotAllowed (allow : List String) : Response :=
  { detail 405 "Method Not Allowed" with allow }

def redirect (location : String) : Response :=
  { plain 307 .empty with location := some location }

/-- A request that was done, with the cookies that come of it. -/
def done (value : Value) (setCookies : List String) : Response :=
  { plain 200 (.json value) with setCookies }

def broken (cause : Breakdown) : Response :=
  { plain 500 (.text "Internal Server Error") with breakdown := some cause }

end Response

end StatelessAuth
