import Admission.Violation

/-!
# Rejections

Why a command is rejected. Each cause has a code for programs, a key by which clients find a message in their own
language, a message, the status of a response, and details; the envelope is what a client gets to see of it.
-/

namespace Admission

/-- A cause of rejection. A malformed payload has a reason, which may be empty; `internal` is for a cause of no kind of
its own. -/
inductive Rejection where
  | internal (message : Text) (details : Members)
  | malformedPayload (reason : Text)
  | unsupportedParameters (names : List Text)
  | malformedField (field : Text) (value : Value) (kind : Text)
  | validationFailed (resource : Text) (violations : List Violation)

namespace Rejection

/-- The code of a rejection. -/
def code : Rejection → Text
  | .internal .. => "INTERNAL_ERROR"
  | .malformedPayload _ => "MALFORMED_PAYLOAD"
  | .unsupportedParameters _ => "UNSUPPORTED_PARAMETER"
  | .malformedField .. => "MALFORMED_FIELD"
  | .validationFailed .. => "VALIDATION_FAILED"

/-- The key by which clients find a message in their own language. -/
def messageKey : Rejection → Text
  | .internal .. => "error.msg.internal"
  | .malformedPayload _ => "error.msg.invalid.request.body"
  | .unsupportedParameters _ => "error.msg.parameter.unsupported"
  | .malformedField _ _ kind => Text.concat ["validation.msg.invalid.", kind, ".format"]
  | .validationFailed .. => "validation.msg.validation.errors.exist"

/-- The status of the response to a rejected command. -/
def status : Rejection → Nat
  | .internal .. => 500
  | _ => 400

/-- The message of a rejection. -/
def message : Rejection → Text
  | .internal message _ => message
  | .malformedPayload _ => "The body of the request sent is not valid JSON."
  | .unsupportedParameters names => Text.concat ["Unsupported parameter(s): ", Text.join ", " (Text.sorted names), "."]
  | .malformedField field value kind =>
    Text.concat ["The parameter ", field, " is not a valid ", kind, ": ", value.literal, "."]
  | .validationFailed .. => "Validation errors exist."

/-- The details of a rejection. -/
def details : Rejection → Members
  | .internal _ details => details
  | .malformedPayload reason => if reason = [] then [] else [("reason", .str reason)]
  | .unsupportedParameters names => [("parameters", .list ((Text.sorted names).map .str))]
  | .malformedField field value kind => [("field", .str field), ("value", value), ("kind", .str kind)]
  | .validationFailed resource violations =>
    [("resource", .str resource), ("errors", .list (violations.map fun v => .dict v.report))]

/-- The members that every envelope has. -/
def summary (r : Rejection) : Members :=
  [("code", .str r.code), ("message", .str r.message), ("message_key", .str r.messageKey)]

/-- What a client is told of a rejection; empty details are left out. -/
def envelope (r : Rejection) : Members :=
  if r.details.isEmpty then r.summary else r.summary.concat ("details", .dict r.details)

end Rejection

end Admission
