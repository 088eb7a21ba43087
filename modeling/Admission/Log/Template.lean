import Admission.Log.Directive

/-!
# Message templates

A log message is written as a template and arguments. A template is passed code point by code point: behind a percent sign
stands a directive, which may begin with a key in parentheses, and two percent signs stand for one. A directive takes the
next argument, and one with a key takes what an object has under the key; a star in it takes an argument for its width or
its precision. A record without arguments is not a template, and its message is taken as it is.
-/

namespace Admission.Log

/-- The arguments of a template: several, or one that stands for itself. -/
inductive Arguments where
  | several (args : List Value)
  | single (v : Value)

/-- A list of arguments. An object with members that is alone stands for itself, so that its members are found by key. -/
def Arguments.ofList : List Value → Arguments
  | [.dict (m :: members)] => .single (.dict (m :: members))
  | args => .several args

/-- A value that counts as something where it is asked for as a condition. -/
def isTruthy : Value → Bool
  | .null => false
  | .bool b => b
  | .int n => decide (n ≠ 0)
  | .float (.finite _ biased fraction) => decide (Binary64.significand biased fraction ≠ 0)
  | .float _ => true
  | .str s => !s.isEmpty
  | .date _ => true
  | .list items => !items.isEmpty
  | .dict members => !members.isEmpty

/-- No arguments: the message is not a template. -/
def Arguments.isEmpty : Arguments → Bool
  | .several args => args.isEmpty
  | .single v => !isTruthy v

/-- The arguments that are left, and the value in which keys are looked up. -/
structure Supply where
  mapping : Option Value
  left : List Value

namespace Supply

/-- A list or an object that stands for itself is one in which keys are looked up. -/
def ofArguments : Arguments → Supply
  | .several args => { mapping := none, left := args }
  | .single (.list items) => { mapping := some (.list items), left := [.list items] }
  | .single (.dict members) => { mapping := some (.dict members), left := [.dict members] }
  | .single v => { mapping := none, left := [v] }

/-- The next argument. -/
def next (s : Supply) : Except TemplateFault (Value × Supply) :=
  match s.left with
  | [] => .error .tooFewArguments
  | v :: rest => .ok (v, { s with left := rest })

/-- What stands under a key is the argument that is left. -/
def pick (s : Supply) (key : Text) : Except TemplateFault Supply :=
  match s.mapping with
  | none => .error .noMapping
  | some (.dict members) =>
    match members.lookup key with
    | none => .error (.absentKey key)
    | some v => .ok { s with left := [v] }
  | some _ => .error .keyOfList

/-- The integer that a star takes. -/
def nextInteger (s : Supply) : Except TemplateFault (Int × Supply) := do
  let (v, s) ← s.next
  match v with
  | .int n => return (n, s)
  | .bool b => return (if b then 1 else 0, s)
  | _ => throw .starNotInteger

end Supply

/-- The greatest width. -/
def maxWidth : Nat := 9223372036854775807

/-- The greatest precision. -/
def maxPrecision : Nat := 2147483647

/-- Where in a directive the next code point stands: among the flags, in or behind the width, in or behind the precision, or
behind a letter for a size. -/
inductive Place where
  | flags
  | width
  | starWidth
  | point
  | precision
  | starPrecision
  | size
  deriving DecidableEq

/-- What a code point in a template is part of: the message itself, a directive that has just begun, the key of a directive
with so many parentheses open inside it, or a directive. -/
inductive Region where
  | message
  | opened
  | key (inner : Nat) (passed : Text)
  | directive (place : Place) (d : Directive)

/-- A template that has been passed up to an index: what its next code point is part of, the arguments that are left, and
what has been written. -/
structure Filling where
  index : Nat
  region : Region
  supply : Supply
  written : Text

namespace Filling

/-- A number with one digit more. -/
def longer (n : Nat) (digit limit : Nat) (fault : TemplateFault) : Except TemplateFault Nat :=
  if limit < 10 * n + digit then .error fault else .ok (10 * n + digit)

/-- The width that a star takes; a negative one stands for its flag. -/
def starWidth (d : Directive) (n : Int) : Except TemplateFault Directive :=
  if (maxWidth : Int) < n ∨ n < -(maxWidth : Int) - 1 then .error (.starBeyondMachine "ssize_t")
  else .ok { d with width := some n.natAbs, left := d.left || decide (n < 0) }

/-- The precision that a star takes; a negative one is zero. -/
def starPrecision (d : Directive) (n : Int) : Except TemplateFault Directive :=
  if (maxPrecision : Int) < n ∨ n < -(maxPrecision : Int) - 1 then .error (.starBeyondMachine "int")
  else .ok { d with precision := some n.toNat }

/-- A code point in front of the letter of a directive, the place behind it, and the directive and the arguments that are
left then; none when the code point is the letter. -/
def advance (place : Place) (d : Directive) (s : Supply) (c : CodePoint) :
    Except TemplateFault (Option (Place × Directive × Supply)) :=
  match place, d.flag? c, c.asciiDigit? with
  | .flags, some d, _ => .ok (some (.flags, d, s))
  | .flags, none, some digit => .ok (some (.width, { d with width := some digit }, s))
  | .width, _, some digit => do
    let width ← longer (d.width.getD 0) digit maxWidth .widthTooBig
    return some (.width, { d with width := some width }, s)
  | .point, _, some digit => .ok (some (.precision, { d with precision := some digit }, s))
  | .precision, _, some digit => do
    let precision ← longer (d.precision.getD 0) digit maxPrecision .precisionTooBig
    return some (.precision, { d with precision := some precision }, s)
  | place, _, _ =>
    if c = '*' ∧ place = .flags then do
      let (n, s) ← s.nextInteger
      let d ← starWidth d n
      return some (.starWidth, d, s)
    else if c = '*' ∧ place = .point then do
      let (n, s) ← s.nextInteger
      let d ← starPrecision d n
      return some (.starPrecision, d, s)
    else if c = '.' ∧ (place = .flags ∨ place = .width ∨ place = .starWidth) then
      .ok (some (.point, { d with precision := some 0 }, s))
    else if (c = 'h' ∨ c = 'l' ∨ c = 'L') ∧ place ≠ .size then .ok (some (.size, d, s))
    else .ok none

/-- One code point inside a directive. -/
def stepDirective (f : Filling) (place : Place) (d : Directive) (c : CodePoint) : Except TemplateFault Filling := do
  match ← advance place d f.supply c with
  | some (place, d, supply) => return { f with index := f.index + 1, region := .directive place d, supply }
  | none =>
    let (v, supply) ← f.supply.next
    let shown ← d.write c f.index v
    return { index := f.index + 1, region := .message, supply, written := f.written ++ shown }

/-- One code point of a template. -/
def step (f : Filling) (c : CodePoint) : Except TemplateFault Filling :=
  match f.region with
  | .message =>
    if c = '%' then .ok { f with index := f.index + 1, region := .opened }
    else .ok { f with index := f.index + 1, written := f.written ++ [c] }
  | .opened =>
    if c = '%' then .ok { f with index := f.index + 1, region := .message, written := f.written ++ [c] }
    else if c = '(' then
      if f.supply.mapping.isNone then .error .noMapping else .ok { f with index := f.index + 1, region := .key 0 [] }
    else f.stepDirective .flags {} c
  | .key inner passed =>
    if c = ')' ∧ inner = 0 then do
      let supply ← f.supply.pick passed
      return { f with index := f.index + 1, region := .directive .flags {}, supply }
    else
      let inner := if c = ')' then inner - 1 else if c = '(' then inner + 1 else inner
      .ok { f with index := f.index + 1, region := .key inner (passed ++ [c]) }
  | .directive place d => f.stepDirective place d c

/-- The message of a template that has been passed. Arguments that are left over are a fault, but where keys are looked up. -/
def finish (f : Filling) : Except TemplateFault Text :=
  match f.region with
  | .message => if f.supply.left.isEmpty || f.supply.mapping.isSome then .ok f.written else .error .tooManyArguments
  | .key _ _ => .error .incompleteKey
  | .opened | .directive _ _ => .error .incomplete

end Filling

/-- The message of a template and its arguments. -/
def fill (template : Text) (args : Arguments) : Except TemplateFault Text :=
  if args.isEmpty then .ok template
  else do
    let start : Filling := { index := 0, region := .message, supply := .ofArguments args, written := [] }
    let f ← template.foldlM Filling.step start
    f.finish

end Admission.Log
