/-
Stored passwords. What is stored is a mark of the scheme and the
signature of the password with a salt of its own; a password is right if
it gives the stored text again.

What a client gives as a password may be a text with half of a surrogate
pair. No bytes write it, so that it can be neither signed nor compared; this
shows when it is to be signed, after the key was looked at (`checkGiven`).
-/
import StatelessAuth.Signature

namespace StatelessAuth.Password

/-- The mark in front of a stored password. -/
def scheme : String := "#01#"

/-- The form in which a password is stored. -/
def store (key : Key) (password salt : String) : Except Refusal String :=
  (sign key password salt).map (scheme ++ ·)

/-- Compares a password with a stored one; a key that cannot sign is
refused first. -/
def check (key : Key) (password salt stored : String) : Except Refusal Unit :=
  match store key password salt with
  | .error reason => .error reason
  | .ok expected =>
      if expected = stored then .ok () else .error .passwordMismatch

/-- Compares what a client gave as a password with a stored one. -/
def checkGiven (key : Key) (given : Wording) (salt stored : String) :
    Except Failure Unit :=
  match given.string? with
  | some password =>
      match check key password salt stored with
      | .error reason => .error (.refused reason)
      | .ok () => .ok ()
  | none =>
      match key.usable? with
      | none => .error (.refused .signingFailed)
      | some _ => .error .unencodable

end StatelessAuth.Password
