import Admission.Value.Display

/-!
# Log rows

A row tells of one event: how severe it is, which logger it comes from, a message, and up to four extras. An extra that is
null is left out.
-/

namespace Admission.Log

/-- The severity of events: names for some numbers, and a general name for the others. -/
def severityNames : List (Int × Text) :=
  [(0, "NOTSET"), (10, "DEBUG"), (20, "INFO"), (30, "WARNING"), (40, "ERROR"), (50, "CRITICAL")]

/-- The name of a severity. -/
def severityName (n : Int) : Text := (severityNames.lookup n).getD (Text.concat ["Level ", Text.ofInt n])

/-- What a row tells beside its message; null is nothing. -/
structure Extras where
  resource : Value := .null
  errorCode : Value := .null
  violations : Value := .null
  mode : Value := .null

/-- The extras by name, in order. -/
def Extras.all (e : Extras) : Members :=
  [("resource", e.resource), ("error_code", e.errorCode), ("violations", e.violations), ("mode", e.mode)]

/-- The extras that a row tells. -/
def Extras.members (e : Extras) : Members := e.all.filter fun m => !m.2.isNull

/-- A row of the log; `traced` when it carries the trace of a fault. -/
structure Row where
  severity : Int
  logger : Text
  message : Text
  extras : Extras := {}
  traced : Bool := false

namespace Row

/-- The members that every row has. -/
def heading (r : Row) : Members :=
  [("level", .str (severityName r.severity)), ("logger", .str r.logger), ("message", .str r.message)]

/-- The members of a row. -/
def members (r : Row) : Members := r.heading ++ r.extras.members

end Row

end Admission.Log
