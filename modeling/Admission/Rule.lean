import Admission.Fault

/-!
# Rules

A rule judges one value, whatever other rules say of it. Rules other than the two that ask for a value pass over a null
one. A rule that compares a value with a number cannot judge every value, and neither can one that measures how long its text
is; `Rule.judge` stops at such a rule and keeps what the rules before it have found.
-/

namespace Admission

/-- A rule for the value of a field. -/
inductive Rule where
  | notBlank
  | notNull
  | maxLength (limit : Int)
  | positive
  deriving DecidableEq

namespace Value

/-- Whether a value is null or a text of blanks only. -/
def isBlank : Value → Bool
  | .null => true
  | .str s => s.isBlank
  | _ => false

/-- Whether a value is above zero, for the values that are compared with numbers; a boolean counts as zero or one. -/
def isPositive? : Value → Option Bool
  | .bool b => some b
  | .int n => some (decide (0 < n))
  | .float x => some x.isPositive
  | _ => none

end Value

namespace Rule

/-- The code of the violations of a rule. -/
def code : Rule → RuleCode
  | .notBlank => .blank
  | .notNull => .required
  | .maxLength _ => .tooLong
  | .positive => .notPositive

/-- The limit that the violations of a rule carry. -/
def limit : Rule → Option Int
  | .maxLength n => some n
  | _ => none

/-- Whether a value breaks a rule; the fault when the rule cannot look at it. A length is that of the form a reader sees. -/
def isBroken? (r : Rule) (v : Value) : Except Fault Bool :=
  match r with
  | .notBlank => .ok v.isBlank
  | .notNull => .ok v.isNull
  | .maxLength n =>
    match v.display? with
    | .ok shown => .ok (!v.isNull && decide (n < shown.length))
    | .error cause => .error (.unwritable cause)
  | .positive =>
    if v.isNull then .ok false
    else
      match v.isPositive? with
      | some b => .ok !b
      | none => .error (.notComparable v.kindName)

/-- The violation of a rule by a value of a field. -/
def violation (r : Rule) (resource field : Text) (v : Value) : Violation :=
  { resource, field, code := r.code, value := v, limit := r.limit }

/-- What rules say of a value of a field: the violations, in the order of the rules, up to a rule that cannot look at the
value, and the fault of that rule if there is one. -/
def judge (resource field : Text) (v : Value) : List Rule → List Violation × Option Fault
  | [] => ([], none)
  | r :: rest =>
    match r.isBroken? v with
    | .error f => ([], some f)
    | .ok false => judge resource field v rest
    | .ok true =>
      let (violations, stopped) := judge resource field v rest
      (r.violation resource field v :: violations, stopped)

end Rule

end Admission
