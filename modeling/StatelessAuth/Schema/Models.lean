/-
The records that go in and out of the application, each with the rule
that takes it from a datum and the datum that it is written as. Fields
that are not declared are passed over, and faults come in the order in
which the fields are declared.

Nothing is asked of the password of a login but that it is a text, and so
it is of the kind that the texts of the request are.
-/
import StatelessAuth.Schema.Rule

namespace StatelessAuth

-- ============================================================= requests

section Requests

variable {τ : Type} [DecidableEq τ] [Textual τ]

/-- What a login is asked with. -/
structure LoginPayload (τ : Type := String) where
  username : String
  pwd : τ
  deriving DecidableEq, Repr

namespace LoginPayload

def fields : Rule (LoginPayload τ) τ := fun value =>
  ((Rule.required "username" (Rule.textOfLength 1) value).map mk).andThen
    (Rule.required "pwd" Rule.text value)

def rule : Rule (LoginPayload τ) τ := Rule.model "LoginPayload" fields

def toValue (payload : LoginPayload) : Value :=
  .record [("username", .text payload.username), ("pwd", .text payload.pwd)]

end LoginPayload

/-- Whether a logoff is wanted. -/
structure LogoffPayload where
  logoff : Bool
  deriving DecidableEq, Repr

namespace LogoffPayload

def fields : Rule LogoffPayload τ := fun value =>
  (Rule.required "logoff" Rule.flag value).map mk

def rule : Rule LogoffPayload τ := Rule.model "LogoffPayload" fields

def toValue (payload : LogoffPayload) : Value :=
  .record [("logoff", .bool payload.logoff)]

end LogoffPayload

end Requests

-- ============================================================== answers

/-- The answer to a login. -/
structure LoginResult where
  success : Bool
  deriving DecidableEq, Repr

namespace LoginResult

def body : Rule Bool :=
  Rule.model "LoginResultBody" (Rule.required "success" Rule.flag)

def rule : Rule LoginResult :=
  Rule.model "LoginResult" fun value =>
    (Rule.required "result" body value).map mk

def toValue (result : LoginResult) : Value :=
  .record [("result", .record [("success", .bool result.success)])]

end LoginResult

/-- The answer to a logoff. -/
structure LogoffResult where
  loggedOff : Bool
  deriving DecidableEq, Repr

namespace LogoffResult

def body : Rule Bool :=
  Rule.model "LogoffResultBody" (Rule.required "logged_off" Rule.flag)

def rule : Rule LogoffResult :=
  Rule.model "LogoffResult" fun value =>
    (Rule.required "result" body value).map mk

def toValue (result : LogoffResult) : Value :=
  .record [("result", .record [("logged_off", .bool result.loggedOff)])]

end LogoffResult

/-- The answer that names who is logged in. -/
structure IdentityOut where
  identity : String
  deriving DecidableEq, Repr

namespace IdentityOut

def rule : Rule IdentityOut :=
  Rule.model "IdentityOut" fun value =>
    (Rule.required "identity" Rule.text value).map mk

def toValue (out : IdentityOut) : Value :=
  .record [("identity", .text out.identity)]

end IdentityOut

-- ================================================================ store

/-- What is known of a user: the name, the stored password with its salt,
and the salt of the user's tokens. -/
structure AuthRecord where
  username : String
  pwd : String
  pwdSalt : String
  tokenSalt : String
  deriving DecidableEq, Repr

namespace AuthRecord

def fields : Rule AuthRecord := fun value =>
  ((((Rule.required "username" (Rule.textOfLength 1) value).map mk).andThen
    (Rule.required "pwd" Rule.text value)).andThen
    (Rule.required "pwd_salt" Rule.text value)).andThen
    (Rule.required "token_salt" Rule.text value)

def rule : Rule AuthRecord := Rule.model "AuthRecord" fields

def toValue (record : AuthRecord) : Value :=
  .record
    [("username", .text record.username), ("pwd", .text record.pwd),
     ("pwd_salt", .text record.pwdSalt), ("token_salt", .text record.tokenSalt)]

end AuthRecord

end StatelessAuth
