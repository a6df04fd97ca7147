/-
A client that keeps the cookie it was given last, and sends it back.
-/
import StatelessAuth.Http.Response
import StatelessAuth.Text.Split
import StatelessAuth.Text.Utf8

namespace StatelessAuth

/-- The name and value of the cookie that is kept, as they were sent. -/
structure CookieJar where
  cookie : Option String
  deriving DecidableEq, Repr

namespace CookieJar

def empty : CookieJar := ⟨none⟩

/-- Keeps the cookie that a text sets; an empty value removes it. -/
def keep (text : String) : CookieJar :=
  let pair := (Text.cutFirst ';' text.toList).1
  match Text.cutFirst '=' pair with
  | (_, some value) =>
      if value = ['"', '"'] then empty else ⟨some (String.ofList pair)⟩
  | (_, none) => empty

/-- What is kept after a response: the cookie that it set last, if it set
any. -/
def absorb (jar : CookieJar) (response : Response) : CookieJar :=
  match response.setCookies.getLast? with
  | some text => keep text
  | none => jar

def headers (jar : CookieJar) : List (String × List UInt8) :=
  match jar.cookie with
  | some pair => [("cookie", Utf8.encode pair)]
  | none => []

end CookieJar

end StatelessAuth
