/-
What a request has to say, taken from its body.

The body has to be there, to be declared a JSON text, to be one, to be a
record, and to have the fields that are asked for. A body that is not
declared a JSON text is taken for a text, which is no record. What is
wrong is reported to the client (`rejection`), each fault with its place,
its sentence and the datum that was found there.

A report must be writable as JSON, and as bytes: if it holds a double that
is no number, a text with half of a surrogate pair, or lists and records
deeper in each other than the machine goes, no report can be sent, and the
handling of the request breaks down. Fields whose names begin with `_sa`
are bookkeeping of a storage layer and are left out of reports.
-/
import StatelessAuth.Http.Request
import StatelessAuth.Http.Response
import StatelessAuth.Json.Reader
import StatelessAuth.Json.Writer
import StatelessAuth.Schema.Models

namespace StatelessAuth.RequestBody

/-- How deep lists and records may stand in each other. Both are a matter
of the machine. -/
structure Depths where
  /-- In a document that is read. -/
  read : Nat
  /-- In a datum that a report quotes. -/
  quote : Nat

-- ============================================================= reports

mutual

/-- A datum as it is reported. -/
def reported : Document → Document
  | .list items => .list (reportedItems items)
  | .record fields => .record (reportedFields fields)
  | value => value

def reportedItems : List Document → List Document
  | [] => []
  | item :: rest => reported item :: reportedItems rest

def reportedFields : List (Wording × Document) → List (Wording × Document)
  | [] => []
  | (name, value) :: rest =>
      if (Wording.ofString "_sa").glyphs.isPrefixOf name.glyphs then
        reportedFields rest
      else (name, reported value) :: reportedFields rest

end

/-- What a cause is reported with besides its sentence. -/
def context : FaultCause → List (Wording × Document)
  | .stringTooShort atLeast =>
      [("ctx", .record [("min_length", .integer atLeast)])]
  | _ => []

/-- The name of a declared field in the path to a fault. -/
def fieldName (name : String) : Document := .text name

/-- A fault as it is reported. -/
def report (fault : Fault Wording) : Document :=
  .record
    (("type", .text fault.cause.code)
      :: ("loc", .list (.text "body" :: fault.path.map fieldName))
      :: ("msg", .text fault.cause.message)
      :: ("input", reported fault.found)
      :: context fault.cause)

/-- The response that says what is wrong. Whether the report can be written
as JSON shows before its bytes are asked for. -/
def rejectionOf (reports : List Document) : Response :=
  if Json.areWritable reports then
    match Value.itemStrings? reports with
    | some reports => .plain 422 (.json (.record [("detail", .list reports)]))
    | none => .broken .unencodable
  else .broken .unwritable

def rejection (depths : Depths) (faults : List (Fault Wording)) : Response :=
  if faults.all fun fault =>
      Json.nesting (reported fault.found) ≤ depths.quote then
    rejectionOf (faults.map report)
  else .broken .nesting

/-- What is wrong with a text is a matter of its size or its bytes, not of its
form; of such flaws no place is told. -/
def isOutOfForm : Json.Flaw → Bool
  | .longInteger | .nesting | .encoding => true
  | _ => false

/-- The response to a body that is no JSON text. -/
def unreadable (error : Json.ReadError) : Response :=
  if isOutOfForm error.flaw then
    .detail 400 "There was an error parsing the body"
  else
    rejectionOf
      [.record
        [("type", .text "json_invalid"),
         ("loc", .list [.text "body", .integer error.position]),
         ("msg", .text "JSON decode error"),
         ("input", .record []),
         ("ctx", .record [("error", .text error.flaw.message)])]]

-- ============================================================== taking

variable {α : Type}

/-- The payload of a datum that has to be a record with some fields. -/
def check (fields : Rule α Wording) (value : Document) : Validated α Wording :=
  match value with
  | .record _ => fields value
  | _ => .fail .bodyType value

/-- The payload of a request, or the response that says what is wrong with
it. -/
def take (depths : Depths) (fields : Rule α Wording) (request : Request) :
    Except Response α :=
  let checked (value : Document) : Except Response α :=
    match check fields value with
    | .valid payload => .ok payload
    | .invalid faults => .error (rejection depths faults)
  if request.body = [] then .error (rejection depths [⟨.missing, [], .null⟩])
  else if request.hasJsonBody then
    match Json.readBytes depths.read request.body with
    | .error error => .error (unreadable error)
    | .ok value => checked value
  else
    match Utf8.decode? request.body with
    | some text => checked (.text text)
    | none => .error (.broken .undecodable)

end StatelessAuth.RequestBody
