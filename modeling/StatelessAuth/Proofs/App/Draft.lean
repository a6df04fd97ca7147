/-
A response in the making, to which cookies are added one by one.

Whatever is done to it adds one text behind the others or, if it fails,
leaves it as it is (`added_cases`). So the texts of a response are those
of the actions that did not fail, in order, and none is ever taken back
(`setCookies_after`, `isPrefix_after`).

A removal fails if the name of the cookie cannot be sent, and at nothing
else. A new token is made before the name is looked at, so that of two
things that are wrong the token is the one that is reported
(`settingCookie_eq`).

The two texts come from functions that share no more than the name. That
a removal takes away what was set is therefore a fact about their
readers: to a client, both are about the same cookie, and change no
other (`Settings.Tells`).
-/
import StatelessAuth.App.Draft
import StatelessAuth.Proofs.App.Authentication
import StatelessAuth.Proofs.Http.SetCookie

namespace StatelessAuth

open Cookie

-- ============================================================= settings

/-- What is made of a result fails as the result does. -/
theorem map_fails_iff {α β : Type} (f : α → β) (result : Except Failure α) :
    (∃ cause, result.map f = .error cause)
      ↔ ∃ cause, result = .error cause := by
  cases result with
  | error cause => exact iff_of_true ⟨cause, rfl⟩ ⟨cause, rfl⟩
  | ok value => exact iff_of_false nofun nofun

namespace Settings

variable {settings : Settings} {now : Instant} {identity salt text : String}

/-- The name of the cookie is one that can be sent. -/
def HasSendableName (settings : Settings) : Prop :=
  ∃ name, settings.cookieName = .text name ∧ isSendable name = true

/-- The token that the cookie is set with. -/
def newToken (settings : Settings) (now : Instant) (identity salt : String) :
    Except Failure String := do
  let _ ← settings.tokenKey.demanded
  settings.tokenPolicy.issue now identity salt

/-- A new token is the text of one that is issued now. -/
theorem newToken_eq_ok_iff :
    settings.newToken now identity salt = .ok text
      ↔ ∃ token, Token.issue now identity settings.tokenDuration salt
          settings.tokenKey = .ok token
          ∧ text = token.toText := by
  unfold newToken
  constructor
  · intro h
    cases hkey : settings.tokenKey.demanded with
    | error cause =>
        rw [hkey] at h
        cases h
    | ok key =>
        rw [hkey] at h
        exact Token.policyIssue_eq_ok_iff.1 h
  · intro h
    obtain ⟨token, htoken, rfl⟩ := h
    obtain ⟨-, -, -, -, hsignature⟩ := Token.issue_eq_ok_iff.1 htoken
    rw [Token.demanded_of_signatureFor hsignature]
    exact Token.policyIssue_eq_ok_iff.2 ⟨token, htoken, rfl⟩

/-- The token is made first, and then the name is looked at. -/
theorem settingCookie_eq :
    settings.settingCookie now identity salt
      = match settings.newToken now identity salt with
        | .error cause => .error cause
        | .ok token => settings.sentCookieName.map fun name =>
          settingText name token := by
  unfold settingCookie newToken
  cases settings.tokenKey.demanded with
  | error cause => rfl
  | ok key =>
      cases settings.tokenPolicy.issue now identity salt with
      | error cause => rfl
      | ok token =>
          cases settings.sentCookieName with
          | error cause => rfl
          | ok name => rfl

/-- Naming the cookie fails at the name alone. -/
theorem sentCookieName_fails_iff :
    (∃ cause, settings.sentCookieName = .error cause)
      ↔ ¬ settings.HasSendableName := by
  rcases hname : settings.sentCookieName with cause | name
  · refine iff_of_true ⟨cause, rfl⟩ ?_
    intro hsendable
    obtain ⟨name, hsent⟩ := hsendable
    rw [sentCookieName_eq_ok_iff.2 hsent] at hname
    cases hname
  · refine iff_of_false nofun ?_
    exact not_not_intro ⟨name, sentCookieName_eq_ok_iff.1 hname⟩

end Settings

namespace Draft

variable {settings : Settings} {draft : Draft} {action : Action}

/-- The action is meant to add a text. -/
def Action.IsCall : Action → Prop
  | .clock _ => False
  | .set _ _ => True
  | .remove => True

end Draft

open Draft in
/-- The text is about the cookie of the settings and tells a client to
do what the action is for: to keep a new token there, or nothing. What
else the client keeps stays. -/
def Settings.Tells (settings : Settings) (now : Instant) (action : Action)
    (text : String) : Prop :=
  ∃ name instruction, settings.cookieName = .text name
    ∧ Instruction.read? text = some instruction ∧ instruction.Addresses name
    ∧ match action with
      | .clock _ => False
      | .set identity salt =>
          ∃ token, settings.newToken now identity salt = .ok token
            ∧ instruction.Sets token
            ∧ ∀ kept : Kept, kept.obey text
              = Function.update kept (place name) (some token)
      | .remove =>
          instruction.Removes
            ∧ ∀ kept : Kept, kept.obey text
              = Function.update kept (place name) none

namespace Draft

variable {settings : Settings} {draft : Draft} {action : Action}

-- ============================================================ one action

/-- The text with a new token tells a client to keep it, since the token
has no character that a cookie would have to quote. -/
theorem tells_of_set {identity salt text : String}
    (h : settings.settingCookie draft.now identity salt = .ok text) :
    settings.Tells draft.now (.set identity salt) text := by
  obtain ⟨token, name, htoken, hname, hsendable, rfl⟩ :=
    Settings.settingCookie_eq_ok_iff.1 h
  obtain ⟨hne, hplain⟩ := Token.all_isTokenChar_of_issue htoken
  obtain ⟨instruction, hread, haddresses, hsets⟩ :=
    exists_sets_of_settingText hsendable hne hplain
  exact ⟨name, instruction, hname, hread, haddresses, token.toText,
    Settings.newToken_eq_ok_iff.2 ⟨token, htoken, rfl⟩, hsets,
    fun kept => kept.obey_of_sets hread haddresses hsets⟩

/-- The text without a value tells a client to keep nothing. -/
theorem tells_of_remove {text : String}
    (h : settings.removalCookie draft.now = .ok text) :
    settings.Tells draft.now .remove text := by
  unfold Settings.removalCookie at h
  rcases hsent : settings.sentCookieName with cause | name
  · rw [hsent] at h
    cases h
  · rw [hsent] at h
    cases h
    obtain ⟨hname, hsendable⟩ := Settings.sentCookieName_eq_ok_iff.1 hsent
    obtain ⟨instruction, hread, haddresses, hremoves⟩ :=
      exists_removes_of_removalText hsendable draft.now
    exact ⟨name, instruction, hname, hread, haddresses, hremoves,
      fun kept => kept.obey_of_removes hread haddresses hremoves⟩

/-- A call adds one text, which tells what the call is for, or it fails. -/
theorem added_cases (hcall : action.IsCall) :
    (∃ text, draft.added settings action = .ok [text]
      ∧ settings.Tells draft.now action text)
      ∨ ∃ cause, draft.added settings action = .error cause := by
  cases action with
  | clock now => exact absurd hcall id
  | set identity salt =>
      rcases hset : settings.settingCookie draft.now identity salt
        with cause | text
      · exact Or.inr ⟨cause, by rw [added, hset]; rfl⟩
      · exact Or.inl ⟨text, by rw [added, hset]; rfl, tells_of_set hset⟩
  | remove =>
      rcases hremoval : settings.removalCookie draft.now with cause | text
      · exact Or.inr ⟨cause, by rw [added, hremoval]; rfl⟩
      · exact Or.inl ⟨text, by rw [added, hremoval]; rfl,
          tells_of_remove hremoval⟩

theorem act_of_added {texts : List String}
    (h : draft.added settings action = .ok texts) :
    (draft.act settings action).setCookies = draft.setCookies ++ texts := by
  unfold act
  rw [h]

/-- An action that fails leaves the clock as well as the texts. -/
theorem act_of_failed {cause : Failure}
    (h : draft.added settings action = .error cause) :
    draft.act settings action = draft := by
  unfold act
  rw [h]

/-- A removal needs a name and nothing else. -/
theorem remove_fails_iff :
    (∃ cause, draft.added settings .remove = .error cause)
      ↔ ¬ settings.HasSendableName := by
  rw [← Settings.sentCookieName_fails_iff]
  exact (map_fails_iff _ _).trans (map_fails_iff _ _)

/-- A cookie that has no token and no name fails for want of the
token. -/
theorem set_fails_of_newToken {identity salt : String} {cause : Failure}
    (h : settings.newToken draft.now identity salt = .error cause) :
    draft.added settings (.set identity salt) = .error cause := by
  rw [added, Settings.settingCookie_eq, h]
  rfl

/-- A cookie that is set needs both. -/
theorem set_fails_iff {identity salt : String} :
    (∃ cause, draft.added settings (.set identity salt) = .error cause)
      ↔ (∃ cause, settings.newToken draft.now identity salt = .error cause)
        ∨ ¬ settings.HasSendableName := by
  rcases htoken : settings.newToken draft.now identity salt with cause | token
  · exact ⟨fun _ => Or.inl ⟨cause, rfl⟩,
      fun _ => ⟨cause, set_fails_of_newToken htoken⟩⟩
  -- with a token in hand only the name is left to fail
  · have hok : ¬ ∃ cause, Except.ok token
        = (Except.error cause : Except Failure String) := nofun
    rw [or_iff_right hok, ← Settings.sentCookieName_fails_iff, added,
      Settings.settingCookie_eq, htoken]
    exact (map_fails_iff _ _).trans (map_fails_iff _ _)

-- ================================================================= runs

/-- The draft after actions, one after the other. -/
def after (settings : Settings) (draft : Draft) : List Action → Draft
  | [] => draft
  | action :: rest => (draft.act settings action).after settings rest

/-- What each of the actions adds, or why it fails. -/
def answers (settings : Settings) (draft : Draft) :
    List Action → List (Except Failure (List String))
  | [] => []
  | action :: rest =>
      draft.added settings action ::
        (draft.act settings action).answers settings rest

/-- The texts of an answer. What failed has none. -/
def textsOf : Except Failure (List String) → List String
  | .ok texts => texts
  | .error _ => []

/-- Actions can be cut in two anywhere. -/
theorem after_append (before rest : List Action) :
    draft.after settings (before ++ rest)
      = (draft.after settings before).after settings rest := by
  induction before generalizing draft with
  | nil => rfl
  | cons action before ih => exact ih

/-- One step: the texts of an answer come behind the others, and what
failed has none to bring. -/
theorem setCookies_act :
    (draft.act settings action).setCookies
      = draft.setCookies ++ textsOf (draft.added settings action) := by
  rcases hadded : draft.added settings action with cause | texts
  · rw [act_of_failed hadded, textsOf, List.append_nil]
  · exact act_of_added hadded

/-- The texts are those of the answers, in order. -/
theorem setCookies_after (actions : List Action) :
    (draft.after settings actions).setCookies
      = draft.setCookies
          ++ (draft.answers settings actions).flatMap textsOf := by
  induction actions generalizing draft with
  | nil => exact (List.append_nil _).symm
  | cons action rest ih =>
      rw [after, ih, setCookies_act, answers, List.flatMap_cons,
        List.append_assoc]

theorem isPrefix_after (actions : List Action) :
    draft.setCookies <+: (draft.after settings actions).setCookies := by
  rw [setCookies_after]
  exact List.prefix_append _ _

-- =============================================================== result

/-- What a call does to a draft. -/
structure Answered (settings : Settings) (draft : Draft) (action : Action) :
    Prop where
  /-- It adds one text, which tells what the call is for, or it fails
  and changes nothing. -/
  atomic :
    (∃ text, draft.added settings action = .ok [text]
        ∧ (draft.act settings action).setCookies = draft.setCookies ++ [text]
        ∧ settings.Tells draft.now action text)
      ∨ ∃ cause, draft.added settings action = .error cause
        ∧ draft.act settings action = draft
  remove : action = .remove →
    ((∃ cause, draft.added settings action = .error cause)
      ↔ ¬ settings.HasSendableName)
  set : ∀ identity salt, action = .set identity salt →
    ((∃ cause, draft.added settings action = .error cause)
        ↔ (∃ cause, settings.newToken draft.now identity salt = .error cause)
          ∨ ¬ settings.HasSendableName)
      ∧ ∀ cause, settings.newToken draft.now identity salt = .error cause →
          draft.added settings action = .error cause

/-- Each of the calls is answered so, whatever came before it. -/
theorem answered_of_isCall (hcall : action.IsCall) :
    draft.Answered settings action := by
  refine ⟨?atomic, ?remove, ?set⟩
  case atomic =>
    rcases added_cases hcall with ⟨text, hadded, htells⟩ | ⟨cause, hfailed⟩
    · exact Or.inl ⟨text, hadded, act_of_added hadded, htells⟩
    · exact Or.inr ⟨cause, hfailed, act_of_failed hfailed⟩
  case remove =>
    intro haction
    rw [haction]
    exact remove_fails_iff
  case set =>
    intro identity salt haction
    rw [haction]
    exact ⟨set_fails_iff, fun cause => set_fails_of_newToken⟩

/-- Through any sequence of actions, whatever the settings are, each
call adds exactly one text behind the others or fails and changes
nothing, and no later action takes back what was added. In the end there
are the texts of the calls that did not fail, in order. -/
theorem accumulates (settings : Settings) (start : Draft)
    (actions : List Action) :
    (∀ before action rest, actions = before ++ action :: rest → action.IsCall →
        (start.after settings before).Answered settings action
        ∧ ((start.after settings before).act settings action).setCookies
            <+: (start.after settings actions).setCookies)
      ∧ (start.after settings actions).setCookies
          = start.setCookies
              ++ (start.answers settings actions).flatMap textsOf := by
  refine ⟨?_, setCookies_after actions⟩
  intro before action rest hactions hcall
  refine ⟨answered_of_isCall hcall, ?_⟩
  -- what this call added is there at the end, since the rest only adds
  rw [hactions, after_append]
  exact isPrefix_after rest

/-- Settings that nobody checked, with a key that signs and a duration
of a minute. -/
def sampleSettings : Settings :=
  ⟨.null, .null, .absent, .bytes [107], .whole 60, .text "auth-token", .null⟩

/-- These settings lack nothing that the two calls need. -/
theorem not_sampleSettings_fails :
    ¬ ((∃ cause, sampleSettings.newToken .first "ana" "salt" = .error cause)
      ∨ ¬ sampleSettings.HasSendableName) := by
  have hafter : Duration.after .first (.whole 60)
      = .ok ⟨60000000, by decide⟩ := by
    refine Duration.after_eq_ok_iff.2 ⟨60000000, by decide +kernel, ?_⟩
    show ((60000000 : Nat) : Int) = (0 : Nat) + 60000000
    decide
  obtain ⟨token, htoken⟩ := Token.exists_issue hafter
    (show sampleSettings.tokenKey.usable? = some [107] from rfl) "ana" "salt"
  have hok : sampleSettings.newToken .first "ana" "salt" = .ok token.toText :=
    Settings.newToken_eq_ok_iff.2 ⟨token, htoken, rfl⟩
  intro hfails
  rcases hfails with ⟨cause, hcause⟩ | hnot
  · rw [hok] at hcause
    cases hcause
  · exact hnot ⟨"auth-token", rfl, by decide +kernel⟩

/-- A cookie that is set and then removed leaves two texts, the second
of which takes away what the first one set. -/
theorem accumulates_of_removal :
    ∃ token setting removal,
      (after sampleSettings ⟨.first, []⟩
          [.set "ana" "salt", .remove]).setCookies = [setting, removal]
      ∧ ∀ kept : Kept, kept.obey setting
          = Function.update kept (place "auth-token") (some token)
        ∧ (kept.obey setting).obey removal
            = Function.update kept (place "auth-token") none := by
  obtain ⟨hcalls, -⟩ :=
    accumulates sampleSettings ⟨.first, []⟩ [.set "ana" "salt", .remove]
  have hset := (hcalls [] _ _ rfl trivial).1
  have hremove := (hcalls [.set "ana" "salt"] .remove [] rfl trivial).1
  rcases hset.atomic with ⟨setting, -, hsetting, htells⟩ | ⟨cause, hfails, -⟩
  case inr =>
    exact absurd ((hset.set "ana" "salt" rfl).1.1 ⟨cause, hfails⟩)
      not_sampleSettings_fails
  rcases hremove.atomic
    with ⟨removal, -, hremoval, htells'⟩ | ⟨cause, hfails, -⟩
  case inr =>
    exact absurd (Or.inr ((hremove.remove rfl).1 ⟨cause, hfails⟩))
      not_sampleSettings_fails
  obtain ⟨name, -, hname, -, -, token, -, -, hobey⟩ := htells
  obtain ⟨other, -, hother, -, -, -, hobey'⟩ := htells'
  cases hname
  cases hother
  refine ⟨token, setting, removal, ?_, fun kept => ⟨hobey kept, ?_⟩⟩
  · exact hremoval.trans (congrArg (· ++ [removal]) hsetting)
  · rw [hobey', hobey, Function.update_idem]

end Draft

end StatelessAuth
