/-
What a logoff is answered with (`logoff_matches_effect`).

A logoff looks at the body of the request and at nothing else that a client
sends: at no cookie, at no record, and at the clock only for the date of the
removal. So two things are enough. What the body is read as decides the answer
(`RequestBody.take_eq`), and of what it is read as only one field matters, in
the sense of `Rule.CountsAs`.

# Refusals

Whatever does not say yes or no is refused, and no cookie is removed. A refusal
quotes the datum that is wrong (`Reading.quoted?`). It is told as a fault of the
datum if the datum can be quoted (`IsQuotable`), unless the reader gave up on
the body before it had any (`Reading.IsOutOfForm`): an integer with more digits
than are read is an example (`long_integer_is_bad_request`).
-/
import StatelessAuth.Proofs.App.Draft
import StatelessAuth.Proofs.App.Rejections
import StatelessAuth.Proofs.Schema.Truth

namespace StatelessAuth

namespace RequestBody

variable {α : Type} {depths : Depths} {fields : Rule α Wording}
  {request : Request} {payload : α}

-- ============================================================= readings

/-- What the body of a request is read as. -/
inductive Reading
  | absent
  | unreadable (error : Json.ReadError)
  /-- The body is not declared a JSON text, and no text either. -/
  | undecodable
  | datum (value : Document)

def reading (depth : Nat) (request : Request) : Reading :=
  if request.body = [] then .absent
  else if request.hasJsonBody then
    match Json.readBytes depth request.body with
    | .error error => .unreadable error
    | .ok value => .datum value
  else
    match Utf8.decode? request.body with
    | some text => .datum (.text text)
    | none => .undecodable

/-- The name of the field that a logoff reads. -/
def logoffName : Wording := "logoff"

namespace Reading

/-- What the reading is taken for, or the response that says what is wrong with
it. -/
def taken (depths : Depths) (fields : Rule α Wording) : Reading →
    Except Response α
  | absent => .error (rejection depths [⟨.missing, [], .null⟩])
  | unreadable error => .error (RequestBody.unreadable error)
  | undecodable => .error (.broken .undecodable)
  | datum value =>
      match check fields value with
      | .valid payload => .ok payload
      | .invalid faults => .error (rejection depths faults)

/-- The reader gave up for a reason that is no matter of the form of a text. -/
def IsOutOfForm (reading : Reading) : Prop :=
  ∃ error, reading = .unreadable error ∧ isOutOfForm error.flaw = true

/-- The body says whether a logoff is wanted. -/
def Says (wanted : Bool) (reading : Reading) : Prop :=
  ∃ fields found, reading = .datum (.record fields)
    ∧ Value.field? logoffName fields = some found ∧ Rule.CountsAs found wanted

/-- The datum that a refusal quotes, if there is one. -/
def quoted? : Reading → Option Document
  | absent => some .null
  | unreadable _ => some (.record [])
  | undecodable => none
  | datum (.record fields) =>
      some ((Value.field? logoffName fields).getD (.record fields))
  | datum value => some value

end Reading

/-- What is asked of the body of a request is asked of what it is read as. -/
theorem take_eq (depths : Depths) (fields : Rule α Wording)
    (request : Request) :
    take depths fields request
      = (reading depths.read request).taken depths fields := by
  unfold take reading
  simp only
  by_cases hempty : request.body = []
  · rw [if_pos hempty, if_pos hempty]
    rfl
  rw [if_neg hempty, if_neg hempty]
  by_cases hjson : request.hasJsonBody = true
  · rw [if_pos hjson, if_pos hjson]
    cases Json.readBytes depths.read request.body with
    | error error => rfl
    | ok value => rfl
  · rw [if_neg hjson, if_neg hjson]
    cases Utf8.decode? request.body with
    | none => rfl
    | some text => rfl

/-- A body that is declared JSON is what the reader makes of it, and
here the reader gave up. -/
theorem reading_of_error {depth : Nat} {error : Json.ReadError}
    (hne : request.body ≠ []) (hjson : request.hasJsonBody = true)
    (h : Json.readBytes depth request.body = .error error) :
    reading depth request = .unreadable error := by
  unfold reading
  rw [if_neg hne, if_pos hjson, h]

/-- The body and its declared type are all that is read. -/
theorem reading_congr {first second : Request} (depth : Nat)
    (hbody : first.body = second.body)
    (htype : first.header "content-type" = second.header "content-type") :
    reading depth first = reading depth second := by
  unfold reading Request.hasJsonBody
  rw [hbody, htype]

-- ============================================================== reports

/-- A report can quote the datum: lists and records do not stand in it too deep,
it has no double that is no number, and its texts have bytes. -/
structure IsQuotable (depths : Depths) (value : Document) : Prop where
  shallow : Json.nesting (reported value) ≤ depths.quote
  writable : Json.isWritable (reported value) = true
  spelled : ∃ spelling, Value.strings? (reported value) = some spelling

/-- The path to a fault is made of names of fields, which are written as
any text. -/
theorem areWritable_fieldNames (path : List String) :
    Json.areWritable (path.map fieldName) = true := by
  induction path with
  | nil => rfl
  | cons name rest ih => exact ih

/-- They hold no half of a pair either. -/
theorem itemStrings?_fieldNames (path : List String) :
    Value.itemStrings? (path.map fieldName) = some (path.map .text) := by
  induction path with
  | nil => rfl
  | cons name rest ih =>
      simp [Value.itemStrings?, fieldName, Value.strings?, ih]

/-- What a cause is reported with can always be written. -/
theorem context_spec (cause : FaultCause) :
    Json.areFieldsWritable (context cause) = true
      ∧ ∃ spelling, Value.fieldStrings? (context cause) = some spelling := by
  cases cause with
  | stringTooShort atLeast =>
      refine ⟨rfl, ?_⟩
      simp [context, Value.fieldStrings?, Value.strings?]
  | _ => exact ⟨rfl, [], rfl⟩

/-- A report can be written if what it quotes can. -/
theorem isWritable_report (fault : Fault Wording) :
    Json.isWritable (report fault)
      = Json.isWritable (reported fault.found) := by
  have hpath : Json.areWritable (.text (Wording.ofString "body")
      :: fault.path.map fieldName) = true :=
    areWritable_fieldNames ("body" :: fault.path)
  show (true && (Json.areWritable (.text (Wording.ofString "body")
      :: fault.path.map fieldName)
    && (true && (Json.isWritable (reported fault.found)
      && Json.areFieldsWritable (context fault.cause))))) = _
  rw [hpath, (context_spec fault.cause).1]
  simp

/-- So is its spelling: what a report adds to the quote has characters
alone. -/
theorem exists_strings?_report {fault : Fault Wording} {quote : Value}
    (h : Value.strings? (reported fault.found) = some quote) :
    ∃ spelling, Value.strings? (report fault) = some spelling := by
  obtain ⟨more, hmore⟩ := (context_spec fault.cause).2
  simp [report, Value.strings?, Value.fieldStrings?, Value.itemStrings?,
    itemStrings?_fieldNames, h, hmore]

/-- Reports that can be written and spelled are sent with the
refusal. -/
theorem status_rejectionOf {reports : List Document}
    (hwritable : Json.areWritable reports = true)
    (hspelled : ∃ spelling, Value.itemStrings? reports = some spelling) :
    (rejectionOf reports).status = 422 := by
  obtain ⟨spelling, hspelling⟩ := hspelled
  unfold rejectionOf
  rw [if_pos hwritable, hspelling]
  rfl

/-- One fault is reported as such if what it quotes can be written. -/
theorem status_rejection {fault : Fault Wording}
    (h : IsQuotable depths fault.found) :
    (rejection depths [fault]).status = 422 := by
  obtain ⟨quote, hquote⟩ := h.spelled
  obtain ⟨spelling, hspelling⟩ := exists_strings?_report hquote
  have hshallow : [fault].all (fun fault =>
      decide (Json.nesting (reported fault.found) ≤ depths.quote)) = true := by
    simp [h.shallow]
  have hwritable : Json.areWritable [report fault] = true := by
    simp [Json.areWritable, isWritable_report, h.writable]
  have hspelled : Value.itemStrings? [report fault] = some [spelling] := by
    simp [Value.itemStrings?, hspelling]
  unfold rejection
  rw [if_pos hshallow]
  exact status_rejectionOf hwritable ⟨[spelling], hspelled⟩

/-- A body that is no JSON text is refused by its form, or else as a bad
request. -/
theorem status_unreadable (error : Json.ReadError) :
    (unreadable error).status = if isOutOfForm error.flaw then 400
      else 422 := by
  unfold unreadable
  by_cases h : isOutOfForm error.flaw = true
  · rw [if_pos h, if_pos h]
    rfl
  · rw [if_neg h, if_neg h]
    apply status_rejectionOf rfl
    simp [Value.itemStrings?, Value.strings?, Value.fieldStrings?]

-- ============================================================ a logoff

variable {reading : Reading} {value : Document}

/-- The fields of a logoff are one, and it counts as a truth value. -/
theorem logoffFields_eq_valid_iff {fields : List (Wording × Document)}
    {payload : LogoffPayload} :
    LogoffPayload.fields (.record fields) = .valid payload
      ↔ ∃ found, Value.field? logoffName fields = some found
          ∧ Rule.CountsAs found payload.logoff := by
  unfold LogoffPayload.fields
  rw [Validated.map_eq_valid_iff]
  constructor
  · intro h
    obtain ⟨wanted, hrequired, rfl⟩ := h
    obtain ⟨_, found, heq, hfield, hflag⟩ :=
      Rule.required_eq_valid_iff.1 hrequired
    cases heq
    exact ⟨found, hfield, Rule.flag_eq_valid_iff.1 hflag⟩
  · intro h
    obtain ⟨found, hfield, hcounts⟩ := h
    exact ⟨payload.logoff, Rule.required_eq_valid_iff.2
      ⟨fields, found, rfl, hfield, Rule.flag_eq_valid_iff.2 hcounts⟩, rfl⟩

/-- A datum is taken exactly if it passes the check. -/
theorem datum_taken_eq_ok_iff {payload : α} :
    (Reading.datum value).taken depths fields = .ok payload
      ↔ check fields value = .valid payload := by
  rcases hcheck : check fields value with other | faults
  · simp only [Reading.taken, hcheck, Except.ok.injEq, Validated.valid.injEq]
  · simp only [Reading.taken, hcheck]
    exact ⟨nofun, nofun⟩

/-- A logoff is taken from a record whose field counts as a truth value. -/
theorem taken_eq_ok_iff {payload : LogoffPayload} :
    reading.taken depths LogoffPayload.fields = .ok payload
      ↔ reading.Says payload.logoff := by
  cases reading with
  | absent => exact ⟨nofun, nofun⟩
  | unreadable error => exact ⟨nofun, nofun⟩
  | undecodable => exact ⟨nofun, nofun⟩
  | datum value =>
      rw [datum_taken_eq_ok_iff]
      cases value with
      | record fields =>
          refine logoffFields_eq_valid_iff.trans ⟨?_, ?_⟩
          · intro h
            obtain ⟨found, hfield, hcounts⟩ := h
            exact ⟨fields, found, rfl, hfield, hcounts⟩
          · intro h
            obtain ⟨_, found, heq, hfield, hcounts⟩ := h
            cases heq
            exact ⟨found, hfield, hcounts⟩
      | _ => exact ⟨nofun, nofun⟩

/-- What a record is refused for stands in the field, or is that there is
none. -/
theorem exists_fault_of_logoffFields {fields : List (Wording × Document)}
    (h : ∀ payload, LogoffPayload.fields (.record fields) ≠ .valid payload) :
    ∃ fault, LogoffPayload.fields (.record fields) = .invalid [fault]
      ∧ (Reading.datum (.record fields)).quoted? = some fault.found := by
  rcases hfield : Value.field? logoffName fields with - | found
  · refine ⟨⟨.missing, ["logoff"], .record fields⟩, ?_, ?_⟩
    · rw [LogoffPayload.fields, Rule.required_of_none hfield]
      rfl
    · simp only [Reading.quoted?, hfield]
      rfl
  · rcases Rule.isWhole_flag found with ⟨wanted, hvalid⟩ | ⟨cause, hfail⟩
    · have hcounts := Rule.flag_eq_valid_iff.1 hvalid
      exact absurd (logoffFields_eq_valid_iff.2 ⟨found, hfield, hcounts⟩)
        (h ⟨wanted⟩)
    · refine ⟨⟨cause, ["logoff"], found⟩, ?_, ?_⟩
      · rw [LogoffPayload.fields, Rule.required_of_some hfield, hfail]
        rfl
      · simp only [Reading.quoted?, hfield]
        rfl

/-- A datum without an answer has one fault, which stands in what is quoted. -/
theorem exists_fault_of_datum
    (h : ∀ wanted, ¬ (Reading.datum value).Says wanted) :
    ∃ fault, (Reading.datum value).taken depths LogoffPayload.fields
        = .error (rejection depths [fault])
      ∧ (Reading.datum value).quoted? = some fault.found := by
  cases value with
  | record fields =>
      have hrefused : ∀ payload, LogoffPayload.fields (.record fields)
          ≠ .valid payload := by
        intro payload hvalid
        obtain ⟨found, hfield, hcounts⟩ := logoffFields_eq_valid_iff.1 hvalid
        exact h payload.logoff ⟨fields, found, rfl, hfield, hcounts⟩
      obtain ⟨fault, hfault, hfound⟩ := exists_fault_of_logoffFields hrefused
      refine ⟨fault, ?_, hfound⟩
      simp only [Reading.taken, check, hfault]
  | _ => exact ⟨⟨.bodyType, [], _⟩, rfl, rfl⟩

/-- How a body that does not say yes or no is refused. -/
structure Reading.IsRefused (depths : Depths) (reading : Reading)
    (response : Response) : Prop where
  bare : response.IsBare
  outOfForm : reading.IsOutOfForm → response.status = 400
  reported : ¬ reading.IsOutOfForm →
    (∃ value, reading.quoted? = some value ∧ IsQuotable depths value) →
    response.status = 422

/-- What is no matter of the reader is reported as the one fault that it has. -/
theorem isRefused_rejection {fault : Fault Wording}
    (hform : ¬ reading.IsOutOfForm)
    (hquoted : reading.quoted? = some fault.found) :
    reading.IsRefused depths (rejection depths [fault]) := by
  refine ⟨isBare_rejection _ _, fun h => absurd h hform, ?_⟩
  intro _ h
  obtain ⟨value, hvalue, hquotable⟩ := h
  rw [hquoted] at hvalue
  cases hvalue
  exact status_rejection hquotable

/-- What does not say yes or no is refused in one of the ways that its
reading has. -/
theorem exists_isRefused (h : ∀ wanted, ¬ reading.Says wanted) :
    ∃ response, reading.taken depths LogoffPayload.fields = .error response
      ∧ reading.IsRefused depths response := by
  cases reading with
  | absent => exact ⟨_, rfl, isRefused_rejection nofun rfl⟩
  | unreadable error =>
      refine ⟨_, rfl, isBare_unreadable error, ?_, ?_⟩
      · intro hform
        obtain ⟨_, heq, hflaw⟩ := hform
        cases heq
        rw [status_unreadable, if_pos hflaw]
      · intro hform _
        have hflaw : ¬ isOutOfForm error.flaw = true :=
          fun h => hform ⟨error, rfl, h⟩
        rw [status_unreadable, if_neg hflaw]
  | undecodable => exact ⟨_, rfl, Response.isBare_broken _, nofun, nofun⟩
  | datum value =>
      obtain ⟨fault, htaken, hfound⟩ := exists_fault_of_datum h
      exact ⟨_, htaken, isRefused_rejection nofun hfound⟩

end RequestBody

namespace Service

open Cookie RequestBody

variable {depths : Depths} {settings : Settings} {now : Instant}
  {request : Request}

-- ============================================================== answers

theorem logoff_of_unsaid
    (h : ∀ wanted, ¬ (reading depths.read request).Says wanted) :
    (reading depths.read request).IsRefused depths
      (logoff depths settings now request).response := by
  obtain ⟨response, htaken, hrefused⟩ := exists_isRefused h
  unfold logoff
  rw [take_eq, htaken]
  exact hrefused

/-- A logoff that is not wanted leaves the cookie alone, under all
settings. -/
theorem logoff_of_unwanted (h : (reading depths.read request).Says false) :
    logoff depths settings now request
      = ⟨.done (LogoffResult.toValue ⟨false⟩) [], []⟩ := by
  have htaken : (reading depths.read request).taken depths LogoffPayload.fields
      = .ok ⟨false⟩ := taken_eq_ok_iff.2 h
  unfold logoff
  rw [take_eq, htaken]
  rfl

/-- A logoff that is wanted sets the cookie to nothing, if the cookie can be
sent. -/
theorem logoff_of_wanted {removal : String}
    (h : (reading depths.read request).Says true)
    (hremoval : settings.removalCookie now = .ok removal) :
    logoff depths settings now request
      = ⟨.done (LogoffResult.toValue ⟨true⟩) [removal], []⟩ := by
  have htaken : (reading depths.read request).taken depths LogoffPayload.fields
      = .ok ⟨true⟩ := taken_eq_ok_iff.2 h
  unfold logoff
  rw [take_eq, htaken]
  simp only [if_true, hremoval]

theorem withoutCookies_done (value : Value) (setCookies : List String) :
    { Response.done value setCookies with setCookies := [] }
      = .done value [] := rfl

/-- Either the instant does not matter, or it dates the one removal. -/
theorem logoff_at (depths : Depths) (settings : Settings) (request : Request) :
    (∃ response : Response, response.setCookies = []
        ∧ ∀ now, logoff depths settings now request = ⟨response, []⟩)
      ∨ ∃ front back : String, ∀ now, logoff depths settings now request
          = ⟨.done (LogoffResult.toValue ⟨true⟩)
              [front ++ dateText now ++ back], []⟩ := by
  unfold logoff
  rcases htake : take depths LogoffPayload.fields request
    with response | payload
  · exact Or.inl ⟨response, (isBare_of_take htake).2, fun _ => rfl⟩
  · cases payload with | mk wanted =>
    cases wanted with
    | false => exact Or.inl ⟨_, rfl, fun _ => rfl⟩
    | true =>
        unfold Settings.removalCookie
        rcases settings.sentCookieName with cause | name
        · exact Or.inl ⟨_, rfl, fun _ => rfl⟩
        · exact Or.inr ⟨name ++ "=" ++ quoted "" ++ "; expires=",
            "; HttpOnly; Max-Age=0; Path=/; SameSite=lax", fun _ => rfl⟩

namespace Occasion

variable {occasion first second : Occasion}

/-- What the body of the request is read as. -/
def reading (occasion : Occasion) : Reading :=
  RequestBody.reading occasion.service.platform.depths.read occasion.request

theorem handled_of_logoff (h : occasion.Asks .logoff) :
    occasion.handled
      = logoff occasion.service.platform.depths occasion.service.settings
          occasion.now occasion.request := by
  unfold handled respond
  rw [h]

/-- The answer to a logoff says what becomes of the cookie. -/
structure LogsOff (occasion : Occasion) : Prop where
  /-- One cookie is set, which takes the cookie away and touches no other. -/
  wanted : occasion.reading.Says true →
    ∃ removal, occasion.handled.response
        = .done (LogoffResult.toValue ⟨true⟩) [removal]
      ∧ occasion.service.settings.Tells occasion.now .remove removal
  unwanted : occasion.reading.Says false →
    occasion.handled.response = .done (LogoffResult.toValue ⟨false⟩) []
  otherwise : (∀ wanted, ¬ occasion.reading.Says wanted) →
    occasion.reading.IsRefused occasion.service.platform.depths
      occasion.handled.response

/-- Two occasions are answered the same, but for the dates of their removals. -/
structure AreAnsweredAlike (first second : Occasion) : Prop where
  response : { first.handled.response with setCookies := [] }
    = { second.handled.response with setCookies := [] }
  setCookies :
    first.handled.response.setCookies = []
      ∧ second.handled.response.setCookies = []
    ∨ ∃ front back : String,
        first.handled.response.setCookies
          = [front ++ dateText first.now ++ back]
        ∧ second.handled.response.setCookies
          = [front ++ dateText second.now ++ back]
  log : first.handled.log = second.handled.log

/-- Each of the three answers is read off what the body says. -/
theorem logsOff_of_asks (hasks : occasion.Asks .logoff)
    (hname : occasion.service.settings.HasSendableName) : occasion.LogsOff := by
  have hhandled := handled_of_logoff hasks
  refine ⟨?wanted, ?unwanted, ?otherwise⟩
  case wanted =>
    intro hsaid
    obtain ⟨name, hsent⟩ := hname
    have hremoval : occasion.service.settings.removalCookie occasion.now
        = .ok (removalText name occasion.now) := by
      unfold Settings.removalCookie
      rw [Settings.sentCookieName_eq_ok_iff.2 hsent]
      rfl
    refine ⟨removalText name occasion.now, ?_, ?_⟩
    · rw [hhandled, logoff_of_wanted hsaid hremoval]
    · exact @Draft.tells_of_remove _ ⟨occasion.now, []⟩ _ hremoval
  case unwanted =>
    intro hsaid
    rw [hhandled, logoff_of_unwanted hsaid]
  case otherwise =>
    intro hnot
    rw [hhandled]
    exact logoff_of_unsaid hnot

/-- A body that the reader gave up on says nothing. -/
theorem status_of_isOutOfForm (hasks : occasion.Asks .logoff)
    (hname : occasion.service.settings.HasSendableName)
    (hform : occasion.reading.IsOutOfForm) :
    occasion.handled.response.status = 400 := by
  have hnot : ∀ wanted, ¬ occasion.reading.Says wanted := by
    intro wanted h
    obtain ⟨error, hunreadable, -⟩ := hform
    obtain ⟨_, _, hdatum, -⟩ := h
    rw [hunreadable] at hdatum
    cases hdatum
  exact ((logsOff_of_asks hasks hname).otherwise hnot).outOfForm hform

/-- What is read and what is set up are all that an answer is made of, so that
two occasions with the same of both differ in the instant alone. -/
theorem areAnsweredAlike_of_asks (hfirst : first.Asks .logoff)
    (hsecond : second.Asks .logoff)
    (hdepths : first.service.platform.depths = second.service.platform.depths)
    (hsettings : first.service.settings = second.service.settings)
    (hreading : first.reading = second.reading) :
    first.AreAnsweredAlike second := by
  have hhandled : ∀ now,
      logoff first.service.platform.depths first.service.settings now
        first.request
        = logoff second.service.platform.depths second.service.settings now
            second.request := by
    intro now
    unfold reading at hreading
    unfold logoff
    rw [take_eq, take_eq, hreading, hsettings, hdepths]
  have hfirst := (handled_of_logoff hfirst).trans (hhandled first.now)
  have hsecond := handled_of_logoff hsecond
  -- both are answered as the second request is at some instant, which
  -- matters only for the date
  rcases logoff_at second.service.platform.depths second.service.settings
      second.request with ⟨response, hnone, heq⟩ | ⟨front, back, heq⟩
  · rw [heq] at hfirst hsecond
    refine ⟨?_, Or.inl ⟨?_, ?_⟩, ?_⟩
    · rw [hfirst, hsecond]
    · rw [hfirst]
      exact hnone
    · rw [hsecond]
      exact hnone
    · rw [hfirst, hsecond]
  · rw [heq] at hfirst hsecond
    refine ⟨?_, Or.inr ⟨front, back, ?_, ?_⟩, ?_⟩
    · rw [hfirst, hsecond, withoutCookies_done, withoutCookies_done]
    · rw [hfirst]
      rfl
    · rw [hsecond]
      rfl
    · rw [hfirst, hsecond]

end Occasion

-- =============================================================== result

/-- The answer to a logoff matches what it does to the cookie. It is the same
whatever the records are and whatever else the request brings, a cookie or none;
the clock dates the removal. -/
theorem logoff_matches_effect :
    (∀ occasion : Occasion, occasion.Asks .logoff →
      occasion.service.settings.HasSendableName → occasion.LogsOff)
    ∧ ∀ first second : Occasion, first.Asks .logoff → second.Asks .logoff →
        first.service.platform.depths = second.service.platform.depths →
        first.service.settings = second.service.settings →
        first.request.body = second.request.body →
        first.request.header "content-type"
          = second.request.header "content-type" →
        first.AreAnsweredAlike second := by
  constructor
  · intro occasion hasks hname
    exact Occasion.logsOff_of_asks hasks hname
  · intro first second hfirst hsecond hdepths hsettings hbody htype
    apply Occasion.areAnsweredAlike_of_asks hfirst hsecond hdepths hsettings
    unfold Occasion.reading
    rw [hdepths]
    exact reading_congr _ hbody htype

/-- A logoff at the sample, with more headers. -/
def sampleLogoff (now : Instant) (store : Store)
    (more : List (String × List UInt8)) (body : List UInt8) : Occasion :=
  ⟨sample, now, store,
    ⟨"POST", "/api/v1/auth/logoff",
      ("content-type", Utf8.encode "application/json") :: more, body⟩⟩

section

variable {now : Instant} {store : Store} {more : List (String × List UInt8)}
  {body : List UInt8}

/-- It is for the logoff, whatever else the request brings. -/
theorem asks_sampleLogoff :
    (sampleLogoff now store more body).Asks .logoff := by
  have hfind : Route.find "/api/v1" "POST" "/api/v1/auth/logoff"
      = .route .logoff := by
    decide +kernel
  exact hfind

theorem hasSendableName_sampleLogoff :
    (sampleLogoff now store more body).service.settings.HasSendableName :=
  ⟨"auth-token", rfl, by decide +kernel⟩

/-- The first header declares the body as JSON, so that more of them
change nothing. -/
theorem hasJsonBody_sampleLogoff :
    (sampleLogoff now store more body).request.hasJsonBody = true := by
  have hname : Text.sameName "content-type" "content-type" = true := by
    decide +kernel
  have htype : isJsonType (received (Utf8.encode "application/json"))
      = true := by
    decide +kernel
  simp [Request.hasJsonBody, Request.header, sampleLogoff, hname, htype]

end

/-- A word for yes. -/
def sampleYes : List UInt8 := Utf8.encode "\x7b\"logoff\":\"Yes\"\x7d"

/-- A forged cookie and an empty store, or no cookie and a record: who
asks for it by a word for yes is logged off, in any case of its letters. -/
theorem logoff_matches_effect_of_yes :
    ∃ first second : Occasion,
      first.store ≠ second.store ∧ first.now ≠ second.now
      ∧ first.request.header "cookie" ≠ [] ∧ second.request.header "cookie" = []
      ∧ first.LogsOff ∧ first.handled.response.status = 200
      ∧ first.handled.response.setCookies.length = 1
      ∧ first.AreAnsweredAlike second := by
  let first := sampleLogoff .first .empty
    [("cookie", Utf8.encode "auth-token=forged")] sampleYes
  let second := sampleLogoff (sampleStart "").now (sampleStart "").store
    [] sampleYes
  have hsaid : first.reading.Says true := by
    have htake : take samplePlatform.depths LogoffPayload.fields first.request
        = .ok ⟨true⟩ :=
      take_eq_ok_of_toOption (by decide +kernel)
    rw [take_eq] at htake
    exact taken_eq_ok_iff.1 htake
  have hlogsOff :=
    logoff_matches_effect.1 first asks_sampleLogoff hasSendableName_sampleLogoff
  have halike := logoff_matches_effect.2 first second asks_sampleLogoff
    asks_sampleLogoff rfl rfl rfl (by decide +kernel)
  obtain ⟨removal, hresponse, -⟩ := hlogsOff.wanted hsaid
  refine ⟨first, second, ?_, ?_, ?_, ?_, hlogsOff, ?_, ?_, halike⟩
  · decide
  · decide
  · decide +kernel
  · decide +kernel
  · rw [hresponse]
    rfl
  · rw [hresponse]
    rfl

end Service

-- ==================================================== integers too long

namespace Json

open Text

/-- A record with an integer in the field of a logoff, written by its digits. -/
def integerBody (digits : List Char) : String :=
  "\x7b\"logoff\":" ++ String.ofList digits ++ "\x7d"

/-- The characters in front of the integer. -/
def fieldStart : List Char := ['"', 'l', 'o', 'g', 'o', 'f', 'f', '"', ':']

/-- The record from behind its opening brace. -/
def integerField (digits : List Char) : List Glyph :=
  fieldStart.map .char ++ (digits.map .char ++ [.char '\x7d'])

variable {digits : List Char}

/-- The text begins with its brace, as the reader meets it. -/
theorem toList_integerBody (digits : List Char) :
    (integerBody digits).toList
      = '\x7b' :: (fieldStart ++ (digits ++ ['\x7d'])) := by
  simp [integerBody, fieldStart, String.toList_append]

/-- All of it is characters, and written in UTF-8. -/
theorem glyphs?_integerBody (digits : List Char) :
    glyphs? (Utf8.encode (integerBody digits))
      = some (.char '\x7b' :: integerField digits) := by
  have hdetect : Encoding.detect (Utf8.encode (integerBody digits))
      = (.utf8, Utf8.encode (integerBody digits)) := by
    -- the first four characters have one byte each, and none of them is zero
    obtain ⟨rest, hrest⟩ :
        ∃ rest, Utf8.encode (integerBody digits)
          = 123 :: 34 :: 108 :: 111 :: rest := by
      rw [Utf8.encode, toList_integerBody]
      exact ⟨_, rfl⟩
    rw [hrest]
    simp [Encoding.detect, Encoding.ofZeros]
  rw [glyphs?, hdetect]
  simp only [Encoding.decode?, Encoding.decodeUtf8?, Utf8.decode?_encode]
  rw [toList_integerBody]
  simp [integerField]

/-- A numeral of digits alone is an integer, and one with too many is
given up on. -/
theorem readNumeral_of_long (hdigits : ∀ c ∈ digits, isDigit c = true)
    (hlong : integerDigits ≤ digits.length) :
    readNumeral ('1' :: digits) = .error .longInteger := by
  have hall : ∀ c ∈ '1' :: digits, isDigit c = true :=
    List.forall_mem_cons.2 ⟨rfl, hdigits⟩
  -- the whole part is all of it, so that neither a fraction nor a power
  -- follows
  have hwhole : takeWhole ('1' :: digits) = ('1' :: digits, []) := by
    have htake : ('1' :: digits).takeWhile isDigit = '1' :: digits :=
      List.takeWhile_eq_self_iff.2 hall
    have hdrop : ('1' :: digits).dropWhile isDigit = [] :=
      List.dropWhile_eq_nil_iff.2 hall
    exact congrArg₂ Prod.mk htake hdrop
  have hfraction : takeFraction? [] = none := rfl
  have hpower : takePower? [] = none := rfl
  simp [readNumeral, hwhole, hfraction, hpower, hlong]

/-- The digits are all that can stand in the number. -/
theorem readNumber_of_long (hdigits : ∀ c ∈ digits, isDigit c = true)
    (hlong : integerDigits ≤ digits.length) :
    readNumber (('1' :: digits).map .char ++ [.char '\x7d'])
      = .error ⟨.longInteger, ('1' :: digits).map .char ++ [.char '\x7d']⟩ := by
  have hall : ∀ c ∈ '1' :: digits, mayStand c = true := by
    intro c hc
    have hdigit : isDigit c = true := by
      rcases List.mem_cons.1 hc with rfl | hc
      · rfl
      · exact hdigits c hc
    simp [mayStand, hdigit]
  have hspan : Glyph.spanChars mayStand
      (('1' :: digits).map .char ++ [.char '\x7d'])
      = ('1' :: digits, [.char '\x7d']) :=
    Glyph.spanChars_append hall rfl
  rw [readNumber, hspan]
  simp only [readNumeral_of_long hdigits hlong]

/-- The reader gives up on an integer that is too long. -/
theorem readBytes_of_long (hdigits : ∀ c ∈ digits, isDigit c = true)
    (hlong : integerDigits ≤ digits.length) (depth : Nat) :
    ∃ error, readBytes (depth + 1) (Utf8.encode (integerBody ('1' :: digits)))
        = .error error
      ∧ error.flaw = .longInteger := by
  -- any fuel is enough for a number, since reading one calls nothing
  -- that takes fuel
  have hvalue : ∀ fuel depth,
      readValue (fuel + 1) depth (('1' :: digits).map .char ++ [.char '\x7d'])
        = .error ⟨.longInteger, ('1' :: digits).map .char
          ++ [.char '\x7d']⟩ := by
    intro fuel depth
    have hword : takeWord? (('1' :: digits).map .char ++ [.char '\x7d'])
        = none := rfl
    rw [List.map_cons, List.cons_append] at hword ⊢
    rw [readValue]
    · simp only [hword]
      exact readNumber_of_long hdigits hlong
    all_goals nofun
  have hread : ∀ fuel depth,
      readValue (fuel + 3) (depth + 1)
        (.char '\x7b' :: integerField ('1' :: digits))
        = .error ⟨.longInteger, ('1' :: digits).map .char
          ++ [.char '\x7d']⟩ := by
    intro fuel depth
    have hname : readName (integerField ('1' :: digits))
        = .ok (("logoff" : String), ('1' :: digits).map .char
          ++ [.char '\x7d']) := rfl
    rw [readValue]
    show readFields (fuel + 2) depth [] (integerField ('1' :: digits)) = _
    simp only [readFields, hname, hvalue]
  have hgap : skipGap (.char '\x7b' :: integerField ('1' :: digits))
      = .char '\x7b' :: integerField ('1' :: digits) := rfl
  -- the fuel is more than the three calls that it takes to reach the integer
  obtain ⟨fuel, hfuel⟩ : ∃ fuel,
      2 * (Glyph.char '\x7b' :: integerField ('1' :: digits)).length + 2
        = fuel + 3 := by
    refine ⟨2 * (integerField ('1' :: digits)).length + 1, ?_⟩
    rw [List.length_cons]
    omega
  rw [readBytes, glyphs?_integerBody]
  simp only [readGlyphs, hgap, hfuel, hread]
  exact ⟨_, rfl, rfl⟩

end Json

namespace Service

open Json Text RequestBody

/-- A numeral that begins with 1 and goes on writes neither 0 nor 1. -/
theorem not_countsAs_of_digits {digits : List Char} (hne : digits ≠ [])
    (wanted : Bool) :
    ¬ Rule.CountsAs (.integer (ofDigits ('1' :: digits)) : Document)
      wanted := by
  have hvalue : ofDigits ('1' :: digits)
      = tenTo digits.length * 1 + ofDigits digits :=
    ofDigits_append ['1'] digits
  have hgreat : 10 ≤ tenTo digits.length := by
    obtain ⟨rest, hrest⟩ :=
      Nat.exists_eq_succ_of_ne_zero (mt List.length_eq_zero_iff.1 hne)
    rw [hrest, tenTo_succ]
    exact Nat.le_mul_of_pos_right 10 (tenTo_pos rest)
  intro h
  -- an integer counts only as the number that it is
  have hcounts := Rule.countsAs_integer_iff.1 h
  have hsmall : wanted.toInt ≤ 1 := by
    cases wanted with
    | false => decide
    | true => decide
  omega

/-- A logoff that an integer of too many digits stands in the way of is a bad
request. -/
theorem status_of_long {now : Instant} {store : Store}
    {more : List (String × List UInt8)} {digits : List Char}
    (hdigits : ∀ c ∈ digits, isDigit c = true)
    (hlong : integerDigits ≤ digits.length) :
    (sampleLogoff now store more
      (Utf8.encode (integerBody ('1' :: digits)))).handled.response.status
        = 400 := by
  obtain ⟨error, herror, hflaw⟩ := readBytes_of_long hdigits hlong 959
  have hne : Utf8.encode (integerBody ('1' :: digits)) ≠ [] := by
    rw [Utf8.encode, toList_integerBody]
    exact List.cons_ne_nil _ _
  apply Occasion.status_of_isOutOfForm asks_sampleLogoff
    hasSendableName_sampleLogoff
  refine ⟨error, reading_of_error hne hasJsonBody_sampleLogoff herror, ?_⟩
  rw [hflaw]
  rfl

/-- The logoff of the sample with an integer of 4301 digits. -/
def longLogoff : Occasion :=
  sampleLogoff .first .empty []
    (Utf8.encode (integerBody (List.replicate 4301 '1')))

/-- An integer that is neither 0 nor 1 says neither yes nor no, but a
record with one of 4301 digits is not refused as unprocessable. -/
theorem long_integer_is_bad_request :
    (∀ wanted, ¬ Rule.CountsAs
      (.integer (ofDigits (List.replicate 4301 '1')) : Document) wanted)
    ∧ longLogoff.Asks .logoff
    ∧ longLogoff.handled.response.status = 400
    ∧ ¬ longLogoff.handled.response.status = 422 := by
  have hdigits : ∀ c ∈ List.replicate 4300 '1', isDigit c = true := by
    intro c hc
    rw [List.eq_of_mem_replicate hc]
    rfl
  have hlong : integerDigits ≤ (List.replicate 4300 '1').length :=
    Nat.le_of_eq List.length_replicate.symm
  have hreplicate : List.replicate 4301 '1' = '1' :: List.replicate 4300 '1' :=
    List.replicate_succ
  have hstatus : longLogoff.handled.response.status = 400 := by
    rw [longLogoff, hreplicate]
    exact status_of_long hdigits hlong
  refine ⟨?_, asks_sampleLogoff, hstatus, ?_⟩
  · rw [hreplicate]
    exact not_countsAs_of_digits
      (List.cons_ne_nil '1' (List.replicate 4299 '1'))
  · rw [hstatus]
    decide

end Service

end StatelessAuth
