import Admission.Payload.Field
import Admission.Rule

/-!
# Schemas

A schema describes the commands of a resource: which members a payload may have, and how each field is read and judged
when the resource is created and when it is updated. Every field it describes is a member that a payload may have; that is
part of the type, and `Schema.ofFields` is where it is decided.
-/

namespace Admission

/-- What a command does to a resource. -/
inductive Mode where
  | create
  | update
  deriving DecidableEq

/-- The name of a mode. -/
def Mode.name : Mode → Text
  | .create => "create"
  | .update => "update"

/-- A field of a schema: its name, the kind as which it is read, whether a create command has to have it, and its
rules. -/
structure Field where
  name : Text
  kind : FieldKind
  requiredOnCreate : Bool
  rules : List Rule
  deriving DecidableEq

/-- The commands of a resource. The members that a payload may have can include some that are no fields. -/
structure Schema where
  resource : Text
  supported : List Text
  createFields : List Field
  updateFields : List Field
  name_mem : ∀ f ∈ createFields ++ updateFields, f.name ∈ supported

/-- Why a description gives no schema. -/
inductive SchemaFault where
  | unknownKind (name : Text)
  | unsupportedField (resource field : Text)
  deriving DecidableEq

/-- What is told of a description that gives no schema. -/
def SchemaFault.message : SchemaFault → Text
  | .unknownKind name => name.quoted ++ " is not a valid FieldKind"
  | .unsupportedField resource field => Text.concat [resource, ": field ", field.quoted, " is not a supported parameter"]

namespace Schema

/-- The schema of a description. The first field, of the create and then of the update fields, that is not supported is
told. -/
def ofFields (resource : Text) (supported : List Text) (createFields updateFields : List Field) :
    Except SchemaFault Schema :=
  match h : (createFields ++ updateFields).find? fun f => !supported.contains f.name with
  | some f => .error (.unsupportedField resource f.name)
  | none =>
    .ok
      { resource, supported, createFields, updateFields
        name_mem := fun f hf => by
          have := List.find?_eq_none.1 h f hf
          simpa using this }

/-- The fields that are checked in a mode. -/
def fields (s : Schema) : Mode → List Field
  | .create => s.createFields
  | .update => s.updateFields

/-- The names that are not supported, each once, in ascending order. -/
def unsupported (s : Schema) (names : List Text) : List Text :=
  Text.sorted (names.eraseDups.filter fun name => !s.supported.contains name)

end Schema

end Admission
