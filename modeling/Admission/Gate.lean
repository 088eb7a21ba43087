import Admission.Schema.Office
import Admission.Tally

/-!
# The gate

A gate lets the commands of a resource pass or tells what is wrong with them. It looks at a command in two phases. The
first is its structure: it has to be an object whose members are all supported and whose context can be read; the first
fault ends the check. The second is its fields: each one that has to be there or is there is read and its rules are applied,
with one tally for all of them, and all violations are told together. A field that cannot be read ends the check as well.
-/

namespace Admission

/-- A gate: the commands it knows, and the context of reading that holds where a payload carries none. -/
structure Gate where
  schema : Schema
  defaults : Defaults := {}

namespace Gate

/-- The structure of a payload is sound: all its members are supported and its context can be read. -/
def checkStructure (g : Gate) (payload : Payload) : Except Fault Unit :=
  match g.schema.unsupported payload.names with
  | [] => do
    discard (payload.dateFormat g.defaults)
    discard (payload.locale g.defaults)
  | unsupported => .error (.rejected (.unsupportedParameters unsupported))

/-- Whether a field has to be checked although it may be absent. -/
def isRequired (mode : Mode) (f : Field) : Bool := decide (mode = .create) && f.requiredOnCreate

/-- One field of a payload: a tally with its violations, and the tally as it is when the field is optional and absent. -/
def tallyField (g : Gate) (mode : Mode) (payload : Payload) (t : Tally) (f : Field) : Except Fault Tally := do
  Payload.checkName f.name
  if !isRequired mode f && !payload.has f.name then return t
  let value ← payload.extract g.defaults f.kind f.name
  let (result, t) := t.apply f.name value f.rules
  discard result
  return t

/-- A tally of all fields of a payload, in the order of the schema. -/
def tallyFields (g : Gate) (mode : Mode) (payload : Payload) : Except Fault Tally :=
  (g.schema.fields mode).foldlM (g.tallyField mode payload) { resource := g.schema.resource, violations := [] }

/-- The violations of a payload whose structure is sound. -/
def examinePayload (g : Gate) (mode : Mode) (payload : Payload) : Except Fault (List Violation) := do
  g.checkStructure payload
  let t ← g.tallyFields mode payload
  return t.violations

/-- Lets a payload pass or tells what is wrong with it. -/
def validatePayload (g : Gate) (mode : Mode) (payload : Payload) : Except Fault Unit := do
  let violations ← g.examinePayload mode payload
  verdict g.schema.resource violations

/-- The violations of a command whose text denotes a payload. -/
def examine (g : Gate) (mode : Mode) (text : Option Text) : Except Fault (List Violation) := do
  let payload ← Payload.read text
  g.examinePayload mode payload

/-- Lets a command pass or tells what is wrong with it. -/
def validate (g : Gate) (mode : Mode) (text : Option Text) : Except Fault Unit := do
  let violations ← g.examine mode text
  verdict g.schema.resource violations

/-- A command is judged by the payload that its text denotes. -/
theorem validate_eq (g : Gate) (mode : Mode) (text : Option Text) :
    g.validate mode text = (Payload.read text).bind (g.validatePayload mode) := by
  unfold validate examine validatePayload
  cases Payload.read text <;> rfl

/-- The gate of offices. -/
def office : Gate := { schema := Schema.office }

/-- The gates in service. -/
def all : List Gate := [office]

/-- The gate of a resource. -/
def ofResource? (resource : Text) : Option Gate := all.find? fun g => decide (g.schema.resource = resource)

end Gate

end Admission
