import Admission.Gate
import Admission.Json.Writer
import Admission.Service.Framework
import Admission.Text.Utf8

/-!
# The service

The gate of offices behind a framework. A command to create an office and one to update an office each have an endpoint; a
command that passes is answered with an empty body, and one that does not with the envelope of its rejection. A response
comes with the rows that its making writes to the log.
-/

namespace Admission.Service

/-- The environment in which the service runs, unless another is set. -/
def environment : Text := "development"

/-! ## Rows -/

/-- The row of a check that has looked at every field. -/
def checkedRow (mode : Mode) (violations : List Violation) : Log.Row :=
  { severity := 10
    logger := "commandgate.services.command_validator"
    message := Text.concat [Gate.office.schema.resource, " ", mode.name, " validation finished with ",
      Text.ofNat violations.length, " violation(s)"]
    extras := { resource := .str Gate.office.schema.resource, mode := .str mode.name, violations := .int violations.length } }

/-- What a rejection tells the log beside its message: the resource and the number of violations, when it has them. -/
def rejectionExtras (r : Rejection) : Log.Extras :=
  match r with
  | .validationFailed resource violations =>
    { errorCode := .str r.code
      resource := .str resource
      violations := if violations.isEmpty then .null else .int violations.length }
  | _ => { errorCode := .str r.code }

/-- The row of a rejection. -/
def rejectedRow (method path : Text) (r : Rejection) : Log.Row :=
  { severity := 30
    logger := "commandgate.core.errors"
    message := Text.concat ["Rejected ", method, " ", path, ": ", r.message]
    extras := rejectionExtras r }

/-- The row of a fault that is no rejection. -/
def unhandledRow (method path : Text) : Log.Row :=
  { severity := 40
    logger := "commandgate.core.errors"
    message := Text.concat ["Unhandled error on ", method, " ", path]
    extras := { errorCode := .str "INTERNAL_ERROR" }
    traced := true }

/-! ## Bodies -/

/-- A value as the body of a response; none when it cannot be written or encoded. -/
def body? (v : Value) : Option Text :=
  match Json.write .compact v with
  | .ok text => if text.isWellFormed then some text else none
  | .error _ => none

/-- Texts and written values as the body of a response. -/
def objectBody (members : List (Text × Text)) : Text := Json.Layout.compact.object members

/-- The body for a fault that is no rejection. -/
def internalErrorBody : Text :=
  objectBody [("code", Json.writeString "INTERNAL_ERROR"), ("message", Json.writeString "An unexpected error occurred.")]

/-- The body that tells that the service is up. -/
def healthBody : Text := objectBody [("status", Json.writeString "ok"), ("env", Json.writeString environment)]

/-! ## Wrong parameters -/

/-- A parameter as it is named to a client, by the way to it. -/
def ParameterError.field (e : ParameterError) : Text :=
  Text.join "." (e.location.filter fun (part : Text) => decide (part ≠ "body"))

/-- The report of a wrong parameter. -/
def ParameterError.report (e : ParameterError) : Members :=
  [("field", .str e.field), ("message", .str e.message), ("type", .str e.kind)]

/-- What a client is told of wrong parameters. -/
def parameterReport (errors : List ParameterError) : Members :=
  [("code", .str "VALIDATION_ERROR"), ("message", .str "Request validation failed."),
    ("details", .dict [("errors", .list (errors.map fun e => .dict e.report))])]

/-! ## Responses -/

/-- The response to a fault that is no rejection, behind rows that were logged before it. -/
def internalError (method path : Text) (rows : List Log.Row) : Response :=
  { status := 500, body := internalErrorBody, rows := rows ++ [unhandledRow method path] }

/-- The response to a rejected command, behind rows that were logged before it. A rejection that cannot be told ends as a
fault. -/
def rejected (method path : Text) (rows : List Log.Row) (r : Rejection) : Response :=
  match body? (.dict r.envelope) with
  | some body => { status := r.status, body, rows := rows ++ [rejectedRow method path r] }
  | none => internalError method path (rows ++ [rejectedRow method path r])

/-- The response to wrong parameters, of which nothing is logged unless they cannot be told. -/
def refused (method path : Text) (errors : List ParameterError) : Response :=
  match body? (.dict (parameterReport errors)) with
  | some body => { status := 422, body, rows := [] }
  | none => internalError method path []

/-- The response to a check that ended so, behind rows that were logged before it. -/
def concluded (method path : Text) (rows : List Log.Row) : Except Fault Unit → Response
  | .ok () => { status := 204, body := [], rows }
  | .error (.rejected r) => rejected method path rows r
  | .error _ => internalError method path rows

/-- The response to a command to create or update an office. -/
def checked (method path : Text) (mode : Mode) (text : Text) : Response :=
  match Gate.office.examine mode (some text) with
  | .error f => concluded method path [] (.error f)
  | .ok violations =>
    concluded method path [checkedRow mode violations] (verdict Gate.office.schema.resource violations)

/-- Why a body is not read at all. -/
def notUtf8 : Rejection := .malformedPayload "body is not UTF-8"

/-- The text that the octets of a body are in UTF-8, on which the endpoints for commands depend. -/
def rawBody (body : List UInt8) : Except Rejection Text :=
  match Utf8.decode? body with
  | some text => .ok text
  | none => .error notUtf8

/-- The response of an endpoint for commands, by what the framework made of that on which it depends and of its parameters; no
parameter is looked at. -/
def handled {α : Type} (method path : Text) (mode : Mode) : Except Uncalled (Text × α) → Response
  | .error (.raised r) => rejected method path [] r
  | .error (.refused errors) => refused method path errors
  | .ok (text, _) => checked method path mode text

/-- An office id in a path is an integer above zero. -/
def officeId (F : Framework) (s : Text) : Except (List ParameterError) Int := F.integerAbove "office_id" 0 s

/-- The response of an endpoint. -/
def answer (F : Framework) (method path : Text) (body : List UInt8) : Endpoint → Response
  | .health => { status := 200, body := healthBody, rows := [] }
  | .create => handled method path .create (F.solve (rawBody body) (.ok ()))
  | .update id => handled method path .update (F.solve (rawBody body) (officeId F id))

/-- The response to a request. -/
def respond (F : Framework) (r : Request) : Response :=
  match F.route r.method r.target with
  | .endpoint endpoint method path => answer F method path r.body endpoint
  | .own response => response

/-- The rows of the start and the stop of the service. -/
def lifecycle : List Log.Row :=
  [{ severity := 20, logger := "commandgate.main", message := Text.concat ["Command gate started (", environment, ")"] },
    { severity := 20, logger := "commandgate.main", message := "Command gate shutting down" }]

end Admission.Service
