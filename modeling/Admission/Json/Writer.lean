import Admission.Value.Display

/-!
# Writing JSON

Values as JSON text. The two layouts in use differ in the blanks behind commas and colons and in whether numbers that are
not finite may be written. Code points are written as themselves; only the quote, the backslash and the control characters
are escaped. A date has no form in JSON, and what is not written anywhere is not written here: too long an integer, and too
deep a nesting.
-/

namespace Admission.Json

/-- A layout of JSON text: what separates items, what separates a name from its value, and whether a number that is not
finite has a form. -/
structure Layout where
  itemSeparator : Text
  nameSeparator : Text
  nonFinite : Bool

/-- The layout of responses. -/
def Layout.compact : Layout := { itemSeparator := ",", nameSeparator := ":", nonFinite := false }

/-- The layout of log lines. -/
def Layout.spaced : Layout := { itemSeparator := ", ", nameSeparator := ": ", nonFinite := true }

/-- Why a value is not written. -/
inductive WriteError where
  | notSerializable (kind : Text)
  | notFinite
  | unwritable (cause : Unwritable)
  deriving DecidableEq

/-- What is told of a value that is not written. -/
def WriteError.message? : WriteError → Option Text
  | .notSerializable kind => some (Text.concat ["Object of type ", kind, " is not JSON serializable"])
  | .notFinite => some "Out of range float values are not JSON compliant"
  | .unwritable cause => cause.message?

/-- A code point inside a string. -/
def escape (c : CodePoint) : Text :=
  if c = '"' ∨ c = '\\' then ['\\', c]
  else if c = '\x08' then "\\b"
  else if c = '\x0c' then "\\f"
  else if c = '\n' then "\\n"
  else if c = '\r' then "\\r"
  else if c = '\t' then "\\t"
  else if c.val ≤ 0x1F then "\\u" ++ Text.hex 4 c.val
  else [c]

/-- A text as a string. -/
def writeString (s : Text) : Text := CodePoint.ofChar '"' :: (s.flatMap escape ++ [CodePoint.ofChar '"'])

/-- A binary number. -/
def writeFloat (layout : Layout) (x : Binary64) : Except WriteError Text :=
  if x.isFinite then .ok x.text
  else if layout.nonFinite then
    .ok (match x with
      | .infinite negative => Binary64.signText negative ++ "Infinity"
      | _ => "NaN")
  else .error .notFinite

/-- Written items as a list. -/
def Layout.list (layout : Layout) (items : List Text) : Text := "[" ++ (Text.join layout.itemSeparator items ++ "]")

/-- A name and a written value as a member. -/
def Layout.member (layout : Layout) (m : Text × Text) : Text := writeString m.1 ++ (layout.nameSeparator ++ m.2)

/-- Names and written values as an object. -/
def Layout.object (layout : Layout) (members : List (Text × Text)) : Text :=
  "\x7b" ++ (Text.join layout.itemSeparator (members.map layout.member) ++ "\x7d")

mutual

/-- A value in a layout, when lists and objects may stand in one another so deep. -/
def writeWithin (layout : Layout) : Nat → Value → Except WriteError Text
  | _, .null => .ok "null"
  | _, .bool b => .ok (if b then "true" else "false")
  | _, .int n => if Text.IsShort n then .ok (Text.ofInt n) else .error (.unwritable .longInteger)
  | _, .float x => writeFloat layout x
  | _, .str s => .ok (writeString s)
  | _, .date _ => .error (.notSerializable "date")
  | 0, .list _ => .error (.unwritable .tooDeep)
  | depth + 1, .list items => do
    let parts ← writeItems layout depth items
    return layout.list parts
  | 0, .dict _ => .error (.unwritable .tooDeep)
  | depth + 1, .dict members => do
    let parts ← writeMembers layout depth members
    return layout.object parts

/-- The items of a list, each in the layout. -/
def writeItems (layout : Layout) : Nat → List Value → Except WriteError (List Text)
  | _, [] => .ok []
  | depth, v :: rest => do
    let part ← writeWithin layout depth v
    let parts ← writeItems layout depth rest
    return part :: parts

/-- The members of an object, each value in the layout. -/
def writeMembers (layout : Layout) : Nat → List (Text × Value) → Except WriteError (List (Text × Text))
  | _, [] => .ok []
  | depth, (name, v) :: rest => do
    let part ← writeWithin layout depth v
    let parts ← writeMembers layout depth rest
    return (name, part) :: parts

end

/-- A value in a layout. -/
def write (layout : Layout) (v : Value) : Except WriteError Text := writeWithin layout nestingLimit v

end Admission.Json
