import Admission.Json.Writer
import Admission.Log.Row
import Admission.Log.Template

/-!
# Records and lines

A record is an event as it is logged: its message is still a template with arguments, and attributes are set on it. Four of
the attributes are extras, which its line tells; an attribute under the name of one of the record's own is set over it. The
line is one JSON object: the time, the severity, the logger and the message, and behind them the extras that are not null.
-/

namespace Admission.Log

/-- The names of the extras that a line tells, in their order. -/
def extraNames : List Text := ["resource", "error_code", "violations", "mode"]

/-- Names that no attribute is set under: those of the trace of a fault and of what makes a record one. -/
def reservedNames : List Text := ["exc_info", "getMessage", "__class__", "__dict__"]

/-- An event as it is logged. -/
structure Record where
  severity : Int
  logger : Text
  template : Text
  arguments : List Value
  attributes : Members
  unreserved : ∀ name ∈ attributes.names, name ∉ reservedNames := by decide

/-- Why a record gives no line. -/
inductive RecordFault where
  | template (f : TemplateFault)
  | write (e : Json.WriteError)
  deriving DecidableEq

/-- What is told of a record that gives no line, when it is fixed. -/
def RecordFault.message? : RecordFault → Option Text
  | .template f => f.message?
  | .write e => e.message?

namespace Record

/-- An attribute of a record: the one that was set, or the record's own one. -/
def valueOf (r : Record) (name : Text) (own : Value) : Value := (r.attributes.lookup name).getD own

/-- The arguments of a record: those that were set stand for themselves. -/
def messageArguments (r : Record) : Arguments :=
  match r.attributes.lookup (Text.ofString "args") with
  | some v => .single v
  | none => .ofList r.arguments

/-- The message of a record. A severity without a name is named by its number, which has to be short; that is the first thing
that a record is made with. -/
def message (r : Record) : Except RecordFault Text := do
  if !decide (Text.IsShort r.severity) then throw (.template (.unwritable .longInteger))
  match (r.valueOf "msg" (.str r.template)).display? with
  | .error cause => throw (.template (.unwritable cause))
  | .ok template => (fill template r.messageArguments).mapError .template

/-- What a line tells before the extras. -/
def heading (r : Record) (timestamp message : Text) : Members :=
  [("timestamp", .str timestamp), ("level", r.valueOf "levelname" (.str (severityName r.severity))),
    ("logger", r.valueOf "name" (.str r.logger)), ("message", .str message)]

/-- The extras of a record that are not null. -/
def extras (r : Record) : Members := (extraNames.map fun name => (name, r.attributes.get name)).filter fun m => !m.2.isNull

/-- A record as a line, with the time at which it is written. -/
def line (timestamp : Text) (r : Record) : Except RecordFault Text := do
  let message ← r.message
  (Json.write .spaced (.dict (r.heading timestamp message ++ r.extras))).mapError .write

end Record

end Admission.Log
