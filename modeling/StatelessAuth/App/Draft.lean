/-
A response in the making, to which the texts of its cookies are added one
by one. What fails adds nothing.
-/
import StatelessAuth.App.Authentication

namespace StatelessAuth

structure Draft where
  now : Instant
  setCookies : List String
  deriving DecidableEq

namespace Draft

/-- What can be done with a response in the making. -/
inductive Action
  | clock (now : Instant)
  /-- The cookie is set with a new token. -/
  | set (identity salt : String)
  | remove
  deriving DecidableEq

/-- The text that an action adds, if it adds one. -/
def added (settings : Settings) (draft : Draft) :
    Action → Except Failure (List String)
  | .clock _ => .ok []
  | .set identity salt =>
      (settings.settingCookie draft.now identity salt).map ([·])
  | .remove => (settings.removalCookie draft.now).map ([·])

def act (settings : Settings) (draft : Draft) (action : Action) : Draft :=
  let now :=
    match action with
    | .clock now => now
    | _ => draft.now
  match draft.added settings action with
  | .ok texts => ⟨now, draft.setCookies ++ texts⟩
  | .error _ => draft

end Draft

end StatelessAuth
