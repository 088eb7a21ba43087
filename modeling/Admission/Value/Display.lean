import Admission.Binary64.Shortest
import Admission.Text.Quoted
import Admission.Value.Basic

/-!
# Values in messages

Two forms of a value as text. `Value.literal` shows what kind of value it is: texts stand in quotes and dates are spelled
as a construction. `Value.display` is the form a reader sees: a text as it is, a date in ISO form, and all else as its
literal. A value with too long an integer in it, or too deep a nesting, is not written in either form
(`Value.unwritable?`).
-/

namespace Admission

/-- Why a value is not written. -/
inductive Unwritable where
  | longInteger
  | tooDeep
  deriving DecidableEq

/-- What is told of a value that is not written; of too deep a nesting nothing that is fixed. -/
def Unwritable.message? : Unwritable → Option Text
  | .longInteger => some Text.tooLong
  | .tooDeep => none

namespace Value

/-- The literal of a date. -/
def dateLiteral (d : Date) : Text :=
  Text.concat ["datetime.date(", Text.ofNat d.year, ", ", Text.ofNat d.month, ", ", Text.ofNat d.day, ")"]

mutual

/-- A value in the form that shows its kind. -/
def literal : Value → Text
  | .null => "None"
  | .bool true => "True"
  | .bool false => "False"
  | .int n => Text.ofInt n
  | .float x => x.text
  | .str s => s.quoted
  | .date d => dateLiteral d
  | .list items => "[" ++ (Text.join ", " (literals items) ++ "]")
  | .dict members => "\x7b" ++ (Text.join ", " (memberLiterals members) ++ "\x7d")

/-- The literals of values. -/
def literals : List Value → List Text
  | [] => []
  | v :: rest => literal v :: literals rest

/-- The literals of members: the name, a colon and the value. -/
def memberLiterals : List (Text × Value) → List Text
  | [] => []
  | (name, v) :: rest => (name.quoted ++ (": " ++ literal v)) :: memberLiterals rest

end

/-- A value in the form that a reader sees. -/
def display : Value → Text
  | .str s => s
  | .date d => d.iso
  | v => v.literal

mutual

/-- What keeps a value from being written when lists and objects may stand in one another so deep: the first of it from the
left. -/
def unwritableWithin? : Nat → Value → Option Unwritable
  | _, .int n => if Text.IsShort n then none else some .longInteger
  | 0, .list _ => some .tooDeep
  | depth + 1, .list items => unwritableItem? depth items
  | 0, .dict _ => some .tooDeep
  | depth + 1, .dict members => unwritableMember? depth members
  | _, .null => none
  | _, .bool _ => none
  | _, .float _ => none
  | _, .str _ => none
  | _, .date _ => none

/-- What keeps the items of a list from being written. -/
def unwritableItem? : Nat → List Value → Option Unwritable
  | _, [] => none
  | depth, v :: rest => (unwritableWithin? depth v).or (unwritableItem? depth rest)

/-- What keeps the values of members from being written; their names always are. -/
def unwritableMember? : Nat → List (Text × Value) → Option Unwritable
  | _, [] => none
  | depth, (_, v) :: rest => (unwritableWithin? depth v).or (unwritableMember? depth rest)

end

/-- What keeps a value from being written. -/
def unwritable? (v : Value) : Option Unwritable := v.unwritableWithin? nestingLimit

/-- A value in the form that a reader sees, when it is written. -/
def display? (v : Value) : Except Unwritable Text :=
  match v.unwritable? with
  | none => .ok v.display
  | some u => .error u

/-- A value in the form that shows its kind, when it is written. -/
def literal? (v : Value) : Except Unwritable Text :=
  match v.unwritable? with
  | none => .ok v.literal
  | some u => .error u

end Value

end Admission
