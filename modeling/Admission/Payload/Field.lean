import Admission.DatePattern.Reading
import Admission.Payload.Basic

/-!
# Reading fields

A field of a payload is read as a text, an integer or a date. An absent field, a null one and, for integers and dates, a
blank text read as nothing; a value that cannot be read as the kind asked for is malformed.
-/

namespace Admission

/-- The kinds as which a field can be read. -/
inductive FieldKind where
  | string
  | integer
  | date
  deriving DecidableEq

namespace FieldKind

/-- The name of a kind. -/
def name : FieldKind → Text
  | .string => "string"
  | .integer => "integer"
  | .date => "date"

/-- All kinds. -/
def all : List FieldKind := [.string, .integer, .date]

/-- The kind of a name. -/
def ofName? (name : Text) : Option FieldKind := all.find? fun kind => decide (kind.name = name)

end FieldKind

namespace Payload

/-- What reading a field ends in whose value is not of a kind. -/
def malformed (name : Text) (value : Value) (kind : FieldKind) : Fault := .ofRejection (.malformedField name value kind.name)

/-- The text that a value gives: the stripped text of a text, and the JSON word or digits of a boolean or a number. -/
def textOf (name : Text) : Value → Except Fault (Option Text)
  | .null => .ok none
  | .str s => .ok (some s.strip)
  | .bool b => .ok (some (if b then "true" else "false"))
  | .int n => if Text.IsShort n then .ok (some (Text.ofInt n)) else .error (.unwritable .longInteger)
  | .float x => .ok (some x.text)
  | v => .error (malformed name v .string)

/-- The integer that a value gives: a whole number of either kind, or a text of a sign and digits. -/
def integerOf (name : Text) : Value → Except Fault (Option Int)
  | .null => .ok none
  | .int n => .ok (some n)
  | .float x =>
    match x.toInt? with
    | some n => .ok (some n)
    | none => .error (malformed name (.float x) .integer)
  | .str s =>
    if s.strip = [] then .ok none
    else
      match s.strip.readSigned with
      | .ok n => .ok (some n)
      | .error (.tooManyDigits count) => .error (.tooManyDigits count)
      | .error .notInteger => .error (malformed name (.str s) .integer)
  | v => .error (malformed name v .integer)

/-- The side on which a part of a date is beyond the machine integers, of 64 and then of 32 bits, if it is. -/
def partOverflow? (n : Int) : Option PartOverflow :=
  if n < -9223372036854775808 ∨ 9223372036854775807 < n then some .beyondMachine
  else if 2147483647 < n then some .aboveMaximum
  else if n < -2147483648 then some .belowMinimum
  else none

/-- The three integers of a list that is a date in parts. -/
def dateParts? : List Value → Option (Int × Int × Int)
  | [.int y, .int m, .int d] => some (y, m, d)
  | _ => none

/-- The date of a list of year, month and day. The parts are looked at from left to right before the date is. -/
def dateOfParts (name : Text) (items : List Value) : Except Fault Date :=
  match dateParts? items with
  | none => .error (malformed name (.list items) .date)
  | some (y, m, d) =>
    match [y, m, d].findSome? partOverflow? with
    | some side => .error (.partOverflow side)
    | none =>
      match Date.ofParts? y.toNat m.toNat d.toNat with
      | some date => .ok date
      | none => .error (malformed name (.list items) .date)

/-- The date that a value gives: a list of three parts, or a text that the date format reads. -/
def dateOf (format : Except Fault Text) (name : Text) : Value → Except Fault (Option Date)
  | .null => .ok none
  | .list items => (dateOfParts name items).map some
  | .str s =>
    if s.strip = [] then .ok none
    else
      match format with
      | .error e => .error e
      | .ok pattern =>
        match DatePattern.read pattern s.strip with
        | .ok d => .ok (some d)
        | .error .repeatedPart => .error .repeatedPart
        | .error .unreadable => .error (malformed name (.str s) .date)
  | v => .error (malformed name v .date)

/-- A field can be asked for by a name that is not empty. -/
def checkName (name : Text) : Except Fault Unit := if name = [] then .error .emptyFieldName else .ok ()

/-- Whether a field stands in a payload, with any value. -/
def hasField (payload : Payload) (name : Text) : Except Fault Bool := do
  checkName name
  return payload.has name

/-- A field read as a text. -/
def textField (payload : Payload) (name : Text) : Except Fault (Option Text) := do
  checkName name
  textOf name (payload.get name)

/-- A field read as an integer. -/
def integerField (payload : Payload) (name : Text) : Except Fault (Option Int) := do
  checkName name
  integerOf name (payload.get name)

/-- A field read as a date, by the date format of the payload. -/
def dateField (defaults : Defaults) (payload : Payload) (name : Text) : Except Fault (Option Date) := do
  checkName name
  dateOf (payload.dateFormat defaults) name (payload.get name)

/-- A field read as a kind; nothing reads as null. -/
def extract (defaults : Defaults) (payload : Payload) (kind : FieldKind) (name : Text) : Except Fault Value :=
  match kind with
  | .string => (payload.textField name).map fun r => r.elim .null .str
  | .integer => (payload.integerField name).map fun r => r.elim .null .int
  | .date => (payload.dateField defaults name).map fun r => r.elim .null .date

end Payload

end Admission
