/-
Why a key, a password or a token is refused, and what else can stop the
work on one.

The reasons are a closed list, and none carries anything secret: a log
may name the reason while the client is told only that it failed. What is
not a reason but an accident of what is at hand (a duration that is no
number, an instant outside the calendar, a cookie name that cannot be sent,
a password that no bytes write) or of settings that nobody checked is a
`Failure` of its own.
-/
import StatelessAuth.Duration

namespace StatelessAuth

inductive Refusal
  /-- The key cannot sign: it is empty or no byte string. -/
  | signingFailed
  /-- The password is not the stored one. -/
  | passwordMismatch
  /-- The token has not exactly three pieces, or one is empty. -/
  | formatInvalid
  /-- The first piece of the token spells no text. -/
  | identityUndecodable
  /-- The second piece of the token spells no text. -/
  | expirationUndecodable
  /-- The token's signature is not the one computed for it. -/
  | signatureMismatch
  /-- The signed expiration is no timestamp. -/
  | expirationUnparseable
  /-- The expiration is past. -/
  | expired
  deriving DecidableEq, Repr

namespace Refusal

/-- The name of a reason in logs and reports. -/
def kind : Refusal → String
  | signingFailed => "SigningFailed"
  | passwordMismatch => "PwdNotMatching"
  | formatInvalid => "FormatInvalid"
  | identityUndecodable => "IdentityDecodeFailed"
  | expirationUndecodable => "ExpirationDecodeFailed"
  | signatureMismatch => "SignatureMismatch"
  | expirationUnparseable => "ExpirationUnparseable"
  | expired => "Expired"

/-- The symbol of a reason in the list of reasons. -/
def symbol : Refusal → String
  | signingFailed => "SIGNING_FAILED"
  | passwordMismatch => "PWD_NOT_MATCHING"
  | formatInvalid => "TOKEN_FORMAT_INVALID"
  | identityUndecodable => "TOKEN_IDENTITY_DECODE_FAILED"
  | expirationUndecodable => "TOKEN_EXPIRATION_DECODE_FAILED"
  | signatureMismatch => "TOKEN_SIGNATURE_MISMATCH"
  | expirationUnparseable => "TOKEN_EXPIRATION_UNPARSEABLE"
  | expired => "TOKEN_EXPIRED"

/-- The reason speaks of a token. -/
def isOfToken : Refusal → Bool
  | signingFailed => false
  | passwordMismatch => false
  | _ => true

/-- The text of a report: what was said when it was made, or else the
name of the reason. -/
def report (reason : Refusal) (said : String) : String :=
  if said = "" then reason.kind else said

/-- A class of reasons: all of them, those of a token, or a single one. -/
inductive Category
  | any
  | ofToken
  | exactly (reason : Refusal)
  deriving DecidableEq, Repr

/-- The reason that a class names; only a class of one reason does. -/
def Category.reason? : Category → Option Refusal
  | exactly reason => some reason
  | _ => none

end Refusal

/-- What can stop the making or the checking of a token. -/
inductive Failure
  /-- A reason of the closed list. -/
  | refused (reason : Refusal)
  /-- The lifetime cannot be added to the present instant. -/
  | lifetime (error : DurationError)
  /-- The signed expiration exists, but in UTC it leaves the calendar. -/
  | expirationOutOfRange
  /-- The name of the cookie cannot be sent in a header. -/
  | cookieName
  /-- A password has half of a surrogate pair, and so no bytes to sign. -/
  | unencodable
  /-- A key that is needed was never given. -/
  | keyAbsent
  /-- What stands in the place of the name of the cookie has no letters. -/
  | cookieNameNotText
  /-- What stands in the place of the name of the cookie is a byte string or
  has parts. -/
  | cookieNameNotName
  deriving DecidableEq, Repr

end StatelessAuth
