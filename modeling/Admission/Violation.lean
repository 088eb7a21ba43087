import Admission.Value.Display

/-!
# Violations

A violation tells that a value of a field broke a rule. It names the resource, the field and the rule's code, carries the
value, and has a key by which clients find a message in their own language, and a message of its own. Whoever records a
violation may give any text for a code; only a violation under one of the codes can be reported.
-/

namespace Admission

/-- What kind of rule a violation broke, or a text that stands in the place of a code. -/
inductive RuleCode where
  | required
  | blank
  | tooLong
  | notPositive
  | foreign (text : Text)
  deriving DecidableEq

namespace RuleCode

/-- The name of a code. -/
def name : RuleCode → Text
  | .required => "required"
  | .blank => "blank"
  | .tooLong => "too_long"
  | .notPositive => "not_positive_integer"
  | .foreign text => text

/-- Whether a code is one, and no text in its place. -/
def isOwn : RuleCode → Bool
  | .foreign _ => false
  | _ => true

/-- All codes. -/
def all : List RuleCode := [.required, .blank, .tooLong, .notPositive]

/-- The code of a name. -/
def ofName? (name : Text) : Option RuleCode := all.find? fun code => decide (code.name = name)

/-- The end of the message key of a code; a missing value and a blank one share theirs, and a text in the place of a code
has none. -/
def keySuffix : RuleCode → Text
  | .required => "cannot.be.blank"
  | .blank => "cannot.be.blank"
  | .tooLong => "exceeds.max.length"
  | .notPositive => "not.greater.than.zero"
  | .foreign _ => []

end RuleCode

/-- A value of a field that broke a rule, and the limit of the rule when it has one. -/
structure Violation where
  resource : Text
  field : Text
  code : RuleCode
  value : Value
  limit : Option Int

namespace Violation

/-- The key by which clients find a message in their own language. -/
def messageKey (v : Violation) : Text :=
  Text.concat ["validation.msg.", v.resource, ".", v.field, ".", v.code.keySuffix]

/-- A limit in a message. -/
def limitText : Option Int → Text
  | some n => Text.ofInt n
  | none => "None"

/-- The message of a violation. -/
def message (v : Violation) : Text :=
  match v.code with
  | .required => Text.concat ["The parameter ", v.field, " is mandatory."]
  | .blank => Text.concat ["The parameter ", v.field, " cannot be blank."]
  | .tooLong => Text.concat ["The parameter ", v.field, " exceeds max length of ", limitText v.limit, "."]
  | .notPositive | .foreign _ => Text.concat ["The parameter ", v.field, " must be greater than 0."]

/-- A value as a report gives it: what is neither null, nor a boolean, nor a number, nor a text is given as text. -/
def reportedValue : Value → Value
  | .date d => .str (Value.date d).display
  | .list items => .str (Value.list items).display
  | .dict members => .str (Value.dict members).display
  | v => v

/-- A limit as a value. -/
def limitValue : Option Int → Value
  | some n => .int n
  | none => .null

/-- What keeps the value of a violation from being given as text, where it is. -/
def unwritableValue? : Value → Option Unwritable
  | .list items => (Value.list items).unwritable?
  | .dict members => (Value.dict members).unwritable?
  | _ => none

/-- What keeps the limit of a violation from being told in its message, which only that of too long a value tells. -/
def unwritableLimit? (v : Violation) : Option Unwritable :=
  match v.code, v.limit with
  | .tooLong, some n => if Text.IsShort n then none else some .longInteger
  | _, _ => none

/-- The report of a violation. -/
def report (v : Violation) : Members :=
  [("resource", .str v.resource), ("field", .str v.field), ("code", .str v.code.name), ("message_key", .str v.messageKey),
   ("message", .str v.message), ("value", reportedValue v.value), ("limit", limitValue v.limit)]

end Violation

end Admission
