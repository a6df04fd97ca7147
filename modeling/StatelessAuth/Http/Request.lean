/-
Requests.

A body and the value of a header travel as bytes, whatever these are. The
server takes every byte of a header for a character (`received`), so that a
character outside ASCII, sent as UTF-8, arrives as several others.
-/
import StatelessAuth.Http.CookieHeader
import StatelessAuth.Text.Case
import StatelessAuth.Text.Utf8

namespace StatelessAuth

/-- What a client sends. -/
structure Request where
  method : String
  path : String
  headers : List (String × List UInt8)
  body : List UInt8
  deriving DecidableEq, Repr

/-- The text of a header as it arrives. -/
def received (value : List UInt8) : List Char :=
  value.map fun byte => Char.ofNat byte.toNat

/-- The type of a body is that of a JSON text: `application`, and `json`
or a kind of it. Parameters behind a semicolon do not matter. -/
def isJsonType (mediaType : List Char) : Bool :=
  let name := Text.lower (String.ofList
    (Text.trimChars Text.isBlank (Text.cutFirst ';' mediaType).1))
  match Text.split '/' name.toList with
  | [kind, subkind] =>
      kind == "application".toList
        && (subkind == "json".toList || "+json".toList.isSuffixOf subkind)
  | _ => false

namespace Request

/-- The headers of a name in any case, in order and as they arrive. -/
def header (request : Request) (name : String) : List (List Char) :=
  (request.headers.filter fun (other, _) => Text.sameName other name).map
    fun (_, value) => received value

def cookie? (request : Request) (name : String) : Option String :=
  Cookie.find? (request.header "cookie") name

/-- The name by which the client calls the server. -/
def host? (request : Request) : Option (List Char) :=
  (request.header "host").head?

def hasJsonBody (request : Request) : Bool :=
  match request.header "content-type" with
  | mediaType :: _ => isJsonType mediaType
  | [] => false

end Request

end StatelessAuth
