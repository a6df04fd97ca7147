/-
The way of a token to the client and back, which loses nothing
(`tokenCookie_lossless`): what sets the cookie shows the text of the token as
it is, and what reads the cookie finds this text among whatever other cookies
the client sends along, and takes it for the token.

The two ends share no code. One decides about quotes (`Cookie.quoted`), the
other cuts, trims and takes quotes off (`Cookie.pair?`), and neither undoes the
other on every text. They meet because all that a token is spelled with is
plain (`Token.all_isTokenChar_of_issue`): the digits of base64url and the point,
whatever the identity and the salt are.
-/
import StatelessAuth.Proofs.App.Configured
import StatelessAuth.Proofs.Http.CookieHeader

namespace StatelessAuth

/-- A cookie with what was issued for somebody presents it, as long as
there is a record. -/
theorem presented_of_issue {now : Instant} {identity salt : String}
    {lifetime : Duration} {key : Key} {token : Token}
    (htoken : Token.issue now identity lifetime salt key = .ok token)
    (hidentity : identity ≠ "") (store : Store) :
    presented store (some token.toText)
      = match store.find? identity with
        | none => .error .unknownIdentity
        | some record => .ok (token, record) := by
  have hread := Token.ofText_of_issue htoken hidentity
  obtain ⟨hne, -⟩ := Token.all_isTokenChar_of_issue htoken
  obtain ⟨-, -, hnamed, -⟩ := Token.issue_eq_ok_iff.1 htoken
  cases hfound : store.find? identity with
  | none => simp only [presented, if_neg hne, hread, hnamed, hfound]
  | some record => simp only [presented, if_neg hne, hread, hnamed, hfound]

/-- With a name that can be sent, a key that signs and a lifetime that
ends in the calendar, the cookie is set to the text of a new token,
without quotes, and with three attributes behind it. From any request
that carries this name with this text, other cookies or not, the text is
read and taken for the same token. -/
theorem tokenCookie_lossless {settings : Settings} {now deadline : Instant}
    {name identity : String} {secret : List UInt8}
    (hname : settings.cookieName = .text name)
    (hsendable : Cookie.isSendable name = true) (hidentity : identity ≠ "")
    (hkey : settings.tokenKey.usable? = some secret)
    (hdeadline : Duration.after now settings.tokenDuration = .ok deadline)
    (salt : String) :
    ∃ token : Token,
      settings.tokenPolicy.issue now identity salt = .ok token.toText
      ∧ settings.settingCookie now identity salt
          = .ok (name ++ "=" ++ token.toText
              ++ "; HttpOnly; Path=/; SameSite=lax")
      ∧ ∀ request : Request, request.Carries name token.toText →
          settings.cookieOf request = .ok (some token.toText)
          ∧ ∀ store, presented store (some token.toText)
              = match store.find? identity with
                | none => .error .unknownIdentity
                | some record => .ok (token, record) := by
  obtain ⟨token, htoken⟩ := Token.exists_issue hdeadline hkey identity salt
  obtain ⟨hne, hplain⟩ := Token.all_isTokenChar_of_issue htoken
  refine ⟨token, Token.policyIssue_eq_ok_iff.2 ⟨token, htoken, rfl⟩,
    ?written, ?read⟩
  case written =>
    have hset := Settings.settingCookie_eq_ok_iff.2
      ⟨token, name, htoken, hname, hsendable, rfl⟩
    rwa [Cookie.settingText, Cookie.quoted_of_all hne hplain] at hset
  case read =>
    intro request hcarries
    refine ⟨?_, presented_of_issue htoken hidentity⟩
    rw [Settings.cookieOf, hname]
    exact congrArg Except.ok
      (Cookie.cookie?_of_carries hsendable hplain hcarries)

namespace Service

/-- A visit to the sample with its cookie between two others, and one more in a
header of its own. -/
def crowdedVisit (text : String) : Request :=
  ⟨"GET", "/api/v1/auth/me",
    [("cookie", Utf8.encode
        ("theme=dark; auth-token=" ++ text ++ ";old-auth-token=x")),
      ("Cookie", Utf8.encode "auth=token")], []⟩

/-- Only one of the four is named as the cookie, though the names of two
others end or begin like it. -/
theorem carries_crowdedVisit {text : String}
    (h : text.toList.all Cookie.isTokenChar = true) :
    (crowdedVisit text).Carries "auth-token" text := by
  have hnames : Text.sameName "cookie" "cookie" = true
      ∧ Text.sameName "Cookie" "cookie" = true := by decide +kernel
  have hheader : (crowdedVisit text).header "cookie"
      = [["theme=dark".toList, " auth-token=".toList ++ text.toList,
          "old-auth-token=x".toList], ["auth=token".toList]].map
          (Text.join ';') := by
    have harrive : ∀ other ∈
        ["theme=dark; auth-token=", ";old-auth-token=x", "auth=token"],
        received (Utf8.encode other) = other.toList := by decide +kernel
    simp [Request.header, crowdedVisit, hnames, Cookie.received_append,
      Cookie.received_of_all h, harrive, Text.join]
  refine ⟨["theme=dark".toList], " auth-token=".toList ++ text.toList,
    ["old-auth-token=x".toList, "auth=token".toList],
    ⟨_, hheader, rfl, ?_⟩, ?_, ?_⟩
  · have htext : ';' ∉ text.toList := Cookie.not_mem_of_all (by decide) h
    simp [htext]
  · exact ⟨[' '], [], List.forall_mem_singleton.2 rfl,
      List.forall_mem_nil _, by simp⟩
  -- those behind it have other names, so that none of them takes its
  -- place
  · have hothers : ∀ other ∈ ["old-auth-token=x".toList, "auth=token".toList],
        (Cookie.pair? other).map (·.1) ≠ some "auth-token".toList := by
      decide +kernel
    intro other hother hnamed
    obtain ⟨value, hpair⟩ := (Cookie.isNamed_iff (by decide +kernel)).1 hnamed
    exact hothers other hother (by rw [hpair]; rfl)

/-- The text of a token of the sample is found in a crowd of cookies. -/
theorem tokenCookie_lossless_of_crowd :
    ∃ token : Token,
      sample.settings.settingCookie (sampleStart "").now "ana" "salt"
          = .ok ("auth-token=" ++ token.toText
              ++ "; HttpOnly; Path=/; SameSite=lax")
      ∧ sample.settings.cookieOf (crowdedVisit token.toText)
          = .ok (some token.toText)
      ∧ presented (sampleStart "").store (some token.toText)
          = .ok (token, sampleRecord "") := by
  obtain ⟨token, hissue, hset, hread⟩ := tokenCookie_lossless
    (show sample.settings.cookieName = .text "auth-token" from rfl)
    (by decide +kernel)
    (show "ana" ≠ "" by decide)
    (show sample.settings.tokenKey.usable? = some [107] from rfl)
    (after_minute "") "salt"
  obtain ⟨issued, hissued, htext⟩ := Token.policyIssue_eq_ok_iff.1 hissue
  have hplain := (Token.all_isTokenChar_of_issue hissued).2
  rw [← htext] at hplain
  obtain ⟨hcookie, hpresented⟩ := hread _ (carries_crowdedVisit hplain)
  exact ⟨token, hset, hcookie, hpresented _⟩

end Service

end StatelessAuth
