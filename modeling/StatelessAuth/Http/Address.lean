/-
Addresses of paths on a server.

A client says by which name it reaches the server; a name that could not
be one is not listened to. In an address the characters of a path stand
for themselves if they mean nothing else there, and all others by the
numbers of their bytes.
-/
import StatelessAuth.Http.Host
import StatelessAuth.Text.Display
import StatelessAuth.Text.Utf8

namespace StatelessAuth.Address

open Text

-- =============================================================== server

def defaultHost : List Char := "testserver".toList

-- =============================================================== paths

/-- A byte that stands for itself in the path of an address. -/
def isPathByte (byte : UInt8) : Bool :=
  let c := Char.ofNat byte.toNat
  byte < 0x80 && (c.isAlphanum || "/-._~!$&'()*+,;=:@%[]".toList.contains c)

/-- A byte of a path: itself, or its number behind a percent sign. -/
def pathByte (byte : UInt8) : List Char :=
  if isPathByte byte then [Char.ofNat byte.toNat]
  else '%' :: (hexDigits 2 byte.toNat).map Char.toUpper

/-- The address of a path on the server that a client calls by a name. -/
def ofPath (host? : Option (List Char)) (path : String) : String :=
  let host := (host?.filter Host.isHost).getD defaultHost
  "http://" ++ String.ofList (host ++ (Utf8.encode path).flatMap pathByte)

end StatelessAuth.Address
