/-
Tokens: an identity, the instant until which it holds, and a signature of
both.

# Form

The text of a token has three pieces with points between them: identity
and expiration in base64url, and the signature as it is. `Token.ofText`
asks for exactly three pieces, none empty, before it looks into any, then
for the identity, then for the expiration; the signature it takes as it
comes. A token that was read is not yet to be trusted.

# Checks

`Token.check` signs identity and expiration again with the salt that the
caller knows, compares, and only then reads the expiration, so that
nothing depends on an expiration that was not signed. The first check
that fails decides. A token still holds at the instant of its expiration.

# Texts

Identities, expirations and salts are texts of characters, as all texts are
that were read from base64url. A text with half of a surrogate pair has no
bytes to be spelled or signed: given as an identity or as a salt it ends in
an error of the encoding, which is none of the reasons, and the text of a
cookie or of a header cannot hold one.
-/
import StatelessAuth.Signature
import StatelessAuth.Text.Split
import StatelessAuth.Timestamp

namespace StatelessAuth

/-- A token taken apart. -/
structure Token where
  identity : String
  expiration : String
  signature : String
  deriving DecidableEq, Repr

/-- What tokens are made with: the secret and how long they hold. -/
structure TokenPolicy where
  key : Key
  lifetime : Duration
  deriving DecidableEq, Repr

namespace Token

-- ================================================================ form

def toText (token : Token) : String :=
  Base64url.encodeText token.identity ++ "."
    ++ Base64url.encodeText token.expiration ++ "." ++ token.signature

/-- The token of a text, its pieces given. -/
def ofPieces (identity expiration signature : String) : Except Refusal Token :=
  match Base64url.decodeText identity with
  | .error _ => .error .identityUndecodable
  | .ok name =>
      match Base64url.decodeText expiration with
      | .error _ => .error .expirationUndecodable
      | .ok deadline => .ok ⟨name, deadline, signature⟩

/-- The token that a text holds. -/
def ofText (text : String) : Except Refusal Token :=
  match Text.split '.' text.toList with
  | [identity, expiration, signature] =>
      if identity = [] ∨ expiration = [] ∨ signature = [] then
        .error .formatInvalid
      else
        ofPieces (String.ofList identity) (String.ofList expiration)
          (String.ofList signature)
  | _ => .error .formatInvalid

-- ============================================================= signing

/-- The part of a token that is signed: the first two pieces of its text
and the point between them. -/
def signedContent (identity expiration : String) : String :=
  Base64url.encodeText identity ++ "." ++ Base64url.encodeText expiration

/-- The signature of an identity and an expiration in a context. -/
def signatureFor (key : Key) (identity expiration salt : String) :
    Except Refusal String :=
  sign key (signedContent identity expiration) salt

/-- A new token for an identity. The expiration is computed before the key
is looked at. A lifetime of zero or less gives a token too. -/
def issue (now : Instant) (identity : String) (lifetime : Duration)
    (salt : String) (key : Key) : Except Failure Token :=
  match Duration.after now lifetime with
  | .error e => .error (.lifetime e)
  | .ok instant =>
      let expiration := Timestamp.format instant
      match signatureFor key identity expiration salt with
      | .error reason => .error (.refused reason)
      | .ok signature => .ok ⟨identity, expiration, signature⟩

-- ============================================================== checks

def checkExpiration (now : Instant) (expiration : String) :
    Except Failure Unit :=
  match Timestamp.parse expiration with
  | .error .malformed => .error (.refused .expirationUnparseable)
  | .error .outOfRange => .error .expirationOutOfRange
  | .ok instant =>
      if instant < now then .error (.refused .expired) else .ok ()

/-- Checks a token that was read: the signature, then the expiration. -/
def check (now : Instant) (token : Token) (salt : String) (key : Key) :
    Except Failure Unit :=
  match signatureFor key token.identity token.expiration salt with
  | .error reason => .error (.refused reason)
  | .ok signature =>
      if signature = token.signature then checkExpiration now token.expiration
      else .error (.refused .signatureMismatch)

def validate (now : Instant) (text salt : String) (key : Key) :
    Except Failure Unit :=
  match ofText text with
  | .error reason => .error (.refused reason)
  | .ok token => check now token salt key

end Token

namespace TokenPolicy

/-- The text of a new token for an identity. -/
def issue (policy : TokenPolicy) (now : Instant) (identity salt : String) :
    Except Failure String :=
  (Token.issue now identity policy.lifetime salt policy.key).map Token.toText

def validate (policy : TokenPolicy) (now : Instant) (text salt : String) :
    Except Failure Unit :=
  Token.validate now text salt policy.key

end TokenPolicy

end StatelessAuth
