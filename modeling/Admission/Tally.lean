import Admission.Rule

/-!
# Tallies

A tally collects the violations of one resource. The rules of a field are applied to its value in two ways that come to the
same: `Tally.chain` records each violation as it is found, and `Tally.apply` judges first and records all. A value that a
rule cannot look at stops both, and the violations found before it stay.

A tally in use is a `Ledger`. It hands out its violations as lists with which the caller may do as it likes, so it tells
lists apart by their places and not by what stands in them. It records what it is given to add, whatever the code.
-/

namespace Admission

/-- The violations of one resource that have been found so far, in order. -/
structure Tally where
  resource : Text
  violations : List Violation

namespace Tally

def size (t : Tally) : Nat := t.violations.length

def isEmpty (t : Tally) : Bool := t.violations.isEmpty

/-- A tally with one violation more. -/
def push (t : Tally) (v : Violation) : Tally := { t with violations := t.violations ++ [v] }

/-- The violation of a code by a value of a field, of the resource of a tally. -/
def violation (t : Tally) (field : Text) (code : RuleCode) (value : Value) (limit : Option Int) : Violation :=
  { resource := t.resource, field, code, value, limit }

/-- Rules applied one by one, each violation recorded before the next rule is looked at. -/
def chain (t : Tally) (field : Text) (v : Value) : List Rule → Except Fault Value × Tally
  | [] => (.ok v, t)
  | r :: rest =>
    match r.isBroken? v with
    | .error f => (.error f, t)
    | .ok false => chain t field v rest
    | .ok true => chain (t.push (r.violation t.resource field v)) field v rest

/-- Rules applied as a whole: what they say of the value is worked out and then recorded. -/
def apply (t : Tally) (field : Text) (v : Value) (rules : List Rule) : Except Fault Value × Tally :=
  let (violations, stopped) := Rule.judge t.resource field v rules
  (match stopped with
    | some f => .error f
    | none => .ok v, { t with violations := t.violations ++ violations })

/-- The verdict on a tally. -/
def verdict (t : Tally) : Except Fault Unit := Admission.verdict t.resource t.violations

end Tally

/-- What can be done with a tally in use. A violation is added under a code, or under the name of one, which has to be looked up
first. A list that was handed out is cleared by its number among them, from zero on. -/
inductive TallyStep where
  | check (chained : Bool) (field : Text) (value : Value) (rules : List Rule)
  | add (field : Text) (code : RuleCode) (value : Value) (limit : Option Int)
  | addNamed (field : Text) (name : Text) (value : Value) (limit : Option Int)
  | violations
  | clear (index : Nat)
  | isEmpty
  | size
  | verdict

/-- What a step on a tally answers. -/
inductive TallyAnswer where
  | checked (value : Value)
  | added (v : Violation)
  | violations (vs : List Violation)
  | isEmpty (b : Bool)
  | size (n : Nat)
  | done

/-- Why a step on a tally fails. -/
inductive TallyFault where
  | fault (f : Fault)
  | unknownCode (name : Text)

/-- What is told of a code name that is none. -/
def unknownCodeMessage (name : Text) : Text := name.quoted ++ " is not a valid RuleCode"

/-- A tally in use. Lists of violations have places, and whoever holds the place of a list sees what is done to it: the tally
has its own list at one place, and the caller holds the places of the lists that were handed out, in their order. -/
structure Ledger where
  resource : Text
  lists : List (List Violation)
  own : Nat
  handed : List Nat

namespace Ledger

/-- A ledger without violations, from which nothing has been handed out. -/
def opened (resource : Text) : Ledger := { resource, lists := [[]], own := 0, handed := [] }

/-- The tally of a ledger. -/
def tally (l : Ledger) : Tally := { resource := l.resource, violations := l.lists.getD l.own [] }

/-- The violations of a tally, written to the ledger's own list. -/
def record (l : Ledger) (t : Tally) : Ledger := { l with lists := l.lists.set l.own t.violations }

/-- A copy of the ledger's own list is handed out, at a place that no list had. -/
def handOut (l : Ledger) : Ledger :=
  { l with lists := l.lists ++ [l.tally.violations], handed := l.handed ++ [l.lists.length] }

/-- The list at a place without its violations. -/
def clear (l : Ledger) (place : Nat) : Ledger := { l with lists := l.lists.set place [] }

/-- A violation is recorded under the code that is given, and nothing is asked about the code. -/
def add (l : Ledger) (field : Text) (code : RuleCode) (value : Value) (limit : Option Int) : Except TallyFault TallyAnswer × Ledger :=
  let v := l.tally.violation field code value limit
  (.ok (.added v), l.record (l.tally.push v))

/-- A step: its answer, and the ledger behind it. -/
def step (l : Ledger) : TallyStep → Except TallyFault TallyAnswer × Ledger
  | .check chained field value rules =>
    let (result, t) := if chained then l.tally.chain field value rules else l.tally.apply field value rules
    (match result with
      | .ok v => .ok (.checked v)
      | .error f => .error (.fault f), l.record t)
  | .add field code value limit => l.add field code value limit
  | .addNamed field name value limit =>
    match RuleCode.ofName? name with
    | none => (.error (.unknownCode name), l)
    | some code => l.add field code value limit
  | .violations => (.ok (.violations l.tally.violations), l.handOut)
  | .clear index =>
    match l.handed[index]? with
    | none => (.ok .done, l)
    | some place => (.ok .done, l.clear place)
  | .isEmpty => (.ok (.isEmpty l.tally.isEmpty), l)
  | .size => (.ok (.size l.tally.size), l)
  | .verdict =>
    (match l.tally.verdict with
      | .ok () => .ok .done
      | .error f => .error (.fault f), l)

/-- The ledger behind a run of steps, those that fail included. -/
def run (l : Ledger) (steps : List TallyStep) : Ledger := steps.foldl (fun l s => (l.step s).2) l

end Ledger

end Admission
