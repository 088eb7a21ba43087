import Admission.Fault
import Admission.Json.Reader

/-!
# Payloads

A payload is the object that the text of a command denotes. It may carry a context for its own reading, a date format and
a locale; where it does not, defaults hold.
-/

namespace Admission

/-- The context of reading that holds where a payload carries none. -/
structure Defaults where
  dateFormat : Text := "yyyy-MM-dd"
  locale : Text := "en"

/-- A payload: the members of the object of a command. -/
abbrev Payload := Members

namespace Payload

/-- The payload of a text. No text and a blank one hold none. -/
def read : Option Text → Except Fault Payload
  | none => .error (.rejected (.malformedPayload "empty body"))
  | some text =>
    if text.isBlank then .error (.rejected (.malformedPayload "empty body"))
    else
      match Json.read text with
      | .ok (.dict members) => .ok members
      | .ok _ => .error (.rejected (.malformedPayload "top-level value must be a JSON object"))
      | .error e => .error (.rejected (.malformedPayload (e.reason text)))

/-- A text of the context. It is missing when its member is absent, null or blank; a member of another kind is
malformed. -/
def contextText (payload : Payload) (name default : Text) : Except Fault Text :=
  match payload.get name with
  | .null => .ok default
  | .str s => .ok (if s.strip = [] then default else s.strip)
  | v => .error (.ofRejection (.malformedField name v name))

/-- The member that holds the date format. -/
def dateFormatName : Text := "dateFormat"

/-- The member that holds the locale. -/
def localeName : Text := "locale"

/-- The date format by which the dates of a payload are read. -/
def dateFormat (defaults : Defaults) (payload : Payload) : Except Fault Text :=
  payload.contextText dateFormatName defaults.dateFormat

/-- The locale of a payload. Names of months are read in English whatever it is. -/
def locale (defaults : Defaults) (payload : Payload) : Except Fault Text :=
  payload.contextText localeName defaults.locale

end Payload

end Admission
