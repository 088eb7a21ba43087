import Admission.Rejection

/-!
# Faults

What can end a check of a command. Most faults are rejections, which tell the client what is wrong with the command; the
others are told to no client, and a service can only say that an error happened. A rejection may itself end in another fault,
where a value in it cannot be written or its report cannot be encoded (`Fault.ofRejection`).
-/

namespace Admission

/-- Why a number of a date given in parts is beyond what a date can be asked for: beyond the machine integers of 32 bits
on either side, or beyond those of 64 bits. -/
inductive PartOverflow where
  | aboveMaximum
  | belowMinimum
  | beyondMachine
  deriving DecidableEq

/-- What ends a check. -/
inductive Fault where
  | rejected (r : Rejection)
  | emptyFieldName
  | tooManyDigits (count : Nat)
  | partOverflow (side : PartOverflow)
  | repeatedPart
  | notComparable (kind : Text)
  | unwritable (cause : Unwritable)
  | foreignCode
  | illFormedReport

namespace Fault

/-- The message of a fault. Those that arise inside a pattern or a report have none that is fixed. -/
def message? : Fault → Option Text
  | .rejected r => some r.message
  | .emptyFieldName => some "field name must be non-empty"
  | .tooManyDigits count => some (Text.tooManyDigits count)
  | .partOverflow .aboveMaximum => some "signed integer is greater than maximum"
  | .partOverflow .belowMinimum => some "signed integer is less than minimum"
  | .partOverflow .beyondMachine => some "Python int too large to convert to C long"
  | .notComparable kind => some (Text.concat ["'>' not supported between instances of '", kind, "' and 'int'"])
  | .unwritable cause => cause.message?
  | .foreignCode => some "'str' object has no attribute 'value'"
  | .repeatedPart => none
  | .illFormedReport => none

end Fault

/-- What keeps a violation from being reported: its value, its code or its limit, in this order, or a surrogate in the name of
its resource or of its field. -/
def Violation.fault? (v : Violation) : Option Fault :=
  match Violation.unwritableValue? v.value with
  | some cause => some (.unwritable cause)
  | none =>
    if !v.code.isOwn then some .foreignCode
    else
      match v.unwritableLimit? with
      | some cause => some (.unwritable cause)
      | none => if v.resource.isWellFormed && v.field.isWellFormed then none else some .illFormedReport

/-- What keeps a rejection from being told. A report of violations is put together one by one, and the name of the resource
comes last. -/
def Rejection.fault? : Rejection → Option Fault
  | .malformedField _ value _ => value.unwritable?.map .unwritable
  | .validationFailed resource violations =>
    (violations.findSome? Violation.fault?).or (if resource.isWellFormed then none else some .illFormedReport)
  | .internal .. | .malformedPayload _ | .unsupportedParameters _ => none

/-- What ends a check that rejects: the rejection, when it can be told. -/
def Fault.ofRejection (r : Rejection) : Fault := r.fault?.getD (.rejected r)

/-- What ends a check that has found violations. -/
def Fault.ofViolations (resource : Text) (violations : List Violation) : Fault :=
  .ofRejection (.validationFailed resource violations)

/-- The verdict on the violations that were found: none pass, some reject. -/
def verdict (resource : Text) (violations : List Violation) : Except Fault Unit :=
  if violations.isEmpty then .ok () else .error (.ofViolations resource violations)

end Admission
