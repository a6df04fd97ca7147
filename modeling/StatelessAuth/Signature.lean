/-
Signatures of a content in a context. The context, called salt, is not
sent along with the signature: who checks it has to know it.

`signedBytes` is the one place that says what is signed, the UTF-8 bytes
of the content followed by those of the salt with nothing between them.

Contents and salts are texts of characters. A text with half of a surrogate
pair (`Wording`) has no UTF-8 bytes, and what would be signed with one stops
where its bytes are asked for, with an error of the encoding that is none of
the reasons of `Refusal`; see `Password.checkGiven`, to which alone such a
text can come from a client.
-/
import StatelessAuth.Base64url
import StatelessAuth.Hash.Hmac
import StatelessAuth.Refusal
import StatelessAuth.Value

namespace StatelessAuth

/-- A secret as it is handed to the signer. -/
inductive Key
  | bytes (data : List UInt8)
  /-- Something that is no byte string. -/
  | other
  /-- Nothing was handed over. -/
  | absent
  deriving DecidableEq, Repr

namespace Key

/-- The secret that a datum is: byte strings and byte buffers are. -/
def ofValue : Value → Key
  | .bytes data => .bytes data
  | .buffer data => .bytes data
  | _ => .other

/-- The bytes to sign with; there is at least one. -/
def usable? : Key → Option (List UInt8)
  | .bytes [] => none
  | .bytes (first :: rest) => some (first :: rest)
  | .other => none
  | .absent => none

/-- The secret that a datum is, if there is a datum. -/
def ofValue? : Option Value → Key
  | some value => ofValue value
  | none => .absent

/-- A secret that is asked for: of one that was not handed over nothing can
be asked. -/
def demanded (key : Key) : Except Failure Key :=
  if key = .absent then .error .keyAbsent else .ok key

end Key

/-- The bytes that a signature of a content with a salt covers. -/
def signedBytes (content salt : String) : List UInt8 :=
  Utf8.encode content ++ Utf8.encode salt

/-- The signature of a content with a salt: the tag, spelled in
base64url. -/
def sign (key : Key) (content salt : String) : Except Refusal String :=
  match key.usable? with
  | none => .error .signingFailed
  | some secret =>
      .ok (Base64url.encode (Hmac.tag secret (signedBytes content salt)))

end StatelessAuth
