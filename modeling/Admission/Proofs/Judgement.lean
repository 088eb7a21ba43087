import Admission.Rule
import Mathlib.Data.List.TakeWhile

/-!
# What rules say of a value

The meaning of the rules, told without `Rule.isBroken?`: when a value fails a rule, and when a rule cannot look at a value at
all. `Rule.judge` then finds the failures and nothing else: one violation for each rule that the value fails, in the order of
the rules, up to the first rule that cannot look at the value (`Rule.judge_eq`).
-/

namespace Admission

namespace Value

/-- A value that can be compared with a number: null apart, the booleans and the numbers. -/
def isComparable : Value → Bool
  | .null | .bool _ | .int _ | .float _ => true
  | .str _ | .date _ | .list _ | .dict _ => false

@[simp] theorem unwritable?_null : Value.null.unwritable? = none := rfl

@[simp] theorem unwritable?_str (s : Text) : (Value.str s).unwritable? = none := rfl

@[simp] theorem display?_str (s : Text) : (Value.str s).display? = .ok s := rfl

theorem unwritable?_int (n : Int) : (Value.int n).unwritable? = if Text.IsShort n then none else some .longInteger := rfl

/-- A value is null exactly when it is recognised as null. -/
theorem isNull_eq_true_iff (v : Value) : v.isNull = true ↔ v = .null := by
  cases v <;> simp [isNull]

end Value

namespace Rule

/-- A value fails a rule. A missing value fails only the two rules that ask for one, and a text of blanks only counts as
missing for the first of them. -/
def Fails : Rule → Value → Prop
  | .notBlank, v => v = .null ∨ ∃ s : Text, v = .str s ∧ ∀ c ∈ s, c.isBlank = true
  | .notNull, v => v = .null
  | .maxLength n, v => v ≠ .null ∧ ∃ shown, v.display? = .ok shown ∧ n < shown.length
  | .positive, v =>
    v = .bool false ∨ (∃ n : Int, v = .int n ∧ n ≤ 0) ∨ ∃ x : Binary64, v = .float x ∧ x.isPositive = false

/-- What keeps a rule from looking at a value: it measures, and the value is not written as text, or it compares, and the value is
of a kind that is compared with no number. -/
def stop? : Rule → Value → Option Fault
  | .maxLength _, v => v.unwritable?.map .unwritable
  | .positive, v => if v.isComparable then none else some (.notComparable v.kindName)
  | .notBlank, _ | .notNull, _ => none

/-- A rule cannot look at a value. -/
def Stops (r : Rule) (v : Value) : Prop := (r.stop? v).isSome = true

instance (r : Rule) (v : Value) : Decidable (r.Stops v) := inferInstanceAs (Decidable (_ = true))

@[simp] theorem stop?_notBlank (v : Value) : notBlank.stop? v = none := rfl

@[simp] theorem stop?_notNull (v : Value) : notNull.stop? v = none := rfl

@[simp] theorem stop?_maxLength (n : Int) (v : Value) : (maxLength n).stop? v = v.unwritable?.map .unwritable := rfl

/-- What keeps a rule from looking at a value, in its two forms. -/
theorem stop?_eq_some_iff (r : Rule) (v : Value) (f : Fault) :
    r.stop? v = some f ↔
      r = .positive ∧ v.isComparable = false ∧ f = .notComparable v.kindName ∨
        ∃ n cause, r = .maxLength n ∧ v.unwritable? = some cause ∧ f = .unwritable cause := by
  cases r with
  | positive => cases h : v.isComparable <;> simp [stop?, h, @eq_comm _ f]
  | notBlank => simp [stop?]
  | notNull => simp [stop?]
  | maxLength n => simp [stop?, @eq_comm _ f]

theorem not_stops_iff (r : Rule) (v : Value) : ¬ r.Stops v ↔ r.stop? v = none := by
  rw [Stops, Bool.not_eq_true, Option.isSome_eq_false_iff, Option.isNone_iff_eq_none]

/-- A rule fails exactly as it is kept from looking at the value. -/
theorem isBroken?_eq_error_iff (r : Rule) (v : Value) (f : Fault) : r.isBroken? v = .error f ↔ r.stop? v = some f := by
  cases r with
  | positive => cases v <;> simp [isBroken?, stop?, Value.isNull, Value.isPositive?, Value.isComparable]
  | notBlank => simp [isBroken?, stop?]
  | notNull => simp [isBroken?, stop?]
  | maxLength n =>
    rw [isBroken?, stop?, Value.display?]
    cases v.unwritable? <;> simp

/-- A rule answers that it is broken exactly when the value fails it. -/
theorem isBroken?_eq_ok_true_iff (r : Rule) (v : Value) : r.isBroken? v = .ok true ↔ r.Fails v := by
  cases r with
  | notBlank => cases v <;> simp [isBroken?, Fails, Value.isBlank, Text.isBlank]
  | notNull => simp [isBroken?, Fails, Value.isNull_eq_true_iff]
  | maxLength n =>
    rw [isBroken?, Fails, ne_eq, ← Value.isNull_eq_true_iff]
    cases v.display? <;> simp
  | positive => cases v <;> simp [isBroken?, Fails, Value.isNull, Value.isPositive?]

instance (r : Rule) (v : Value) : Decidable (r.Fails v) :=
  match h : r.isBroken? v with
  | .ok true => .isTrue ((isBroken?_eq_ok_true_iff r v).1 h)
  | .ok false => .isFalse fun hfails => by simp [(isBroken?_eq_ok_true_iff r v).2 hfails] at h
  | .error _ => .isFalse fun hfails => by simp [(isBroken?_eq_ok_true_iff r v).2 hfails] at h

/-- The violations that a value of a field deserves: one for each rule that it fails, in the order of the rules. -/
def failures (resource field : Text) (v : Value) (rules : List Rule) : List Violation :=
  (rules.filter fun r => decide (r.Fails v)).map fun r => r.violation resource field v

/-- The rules up to the first that cannot look at a value. -/
def beforeStop (v : Value) (rules : List Rule) : List Rule := rules.takeWhile fun r => (r.stop? v).isNone

/-- What keeps the first of the rules that cannot look at a value from doing so. -/
def firstStop? (v : Value) (rules : List Rule) : Option Fault := rules.findSome? fun r => r.stop? v

/-- Rules that are judged find the failures up to the first rule that cannot look at the value, and stop as that rule does. The
induction is on the rules, and goes on behind one that can look at the value. -/
theorem judge_eq (resource field : Text) (v : Value) (rules : List Rule) :
    judge resource field v rules = (failures resource field v (beforeStop v rules), firstStop? v rules) := by
  induction rules with
  | nil => rfl
  | cons r rest ih =>
    rw [judge, beforeStop, firstStop?, List.findSome?_cons, ih]
    cases hr : r.isBroken? v with
    | error f =>
      have hstop := (isBroken?_eq_error_iff r v f).1 hr
      rw [List.takeWhile_cons_of_neg (by simp [hstop]), hstop]
      rfl
    | ok broken =>
      have hstop : r.stop? v = none := by
        refine Option.eq_none_iff_forall_ne_some.2 fun f hf => ?_
        rw [(isBroken?_eq_error_iff r v f).2 hf] at hr
        cases hr
      rw [List.takeWhile_cons_of_pos (by simp [hstop]), hstop]
      have hfails : r.Fails v ↔ broken = true := by rw [← isBroken?_eq_ok_true_iff, hr, Except.ok.injEq]
      cases broken <;> simp [failures, hfails, beforeStop, firstStop?]

/-- Rules that can look at a value, in front of one that cannot, are those before the first stop, and that one is the first to
stop. -/
theorem beforeStop_append {before : List Rule} {r : Rule} {v : Value} {f : Fault} (hbefore : ∀ q ∈ before, ¬ q.Stops v)
    (hr : r.stop? v = some f) (after : List Rule) :
    beforeStop v (before ++ r :: after) = before ∧ firstStop? v (before ++ r :: after) = some f := by
  have hnone : ∀ q ∈ before, q.stop? v = none := fun q hq => (not_stops_iff q v).1 (hbefore q hq)
  constructor
  · rw [beforeStop, List.takeWhile_append_of_pos fun q hq => by simp [hnone q hq], List.takeWhile_cons_of_neg (by simp [hr]),
      List.append_nil]
  · rw [firstStop?, List.findSome?_append, List.findSome?_eq_none_iff.2 hnone, List.findSome?_cons, hr]
    rfl

/-- Rules that can all look at a value have no stop among them. -/
theorem beforeStop_eq_self {v : Value} {rules : List Rule} (h : ∀ r ∈ rules, ¬ r.Stops v) : beforeStop v rules = rules :=
  List.takeWhile_eq_self_iff.2 fun r hr => by simp [(not_stops_iff r v).1 (h r hr)]

theorem firstStop?_eq_none_iff (v : Value) (rules : List Rule) : firstStop? v rules = none ↔ ∀ r ∈ rules, ¬ r.Stops v := by
  simp only [firstStop?, List.findSome?_eq_none_iff, not_stops_iff]

/-- The first stop of rules is that of one of them, and those before it can look at the value. -/
theorem exists_of_firstStop? {v : Value} {rules : List Rule} {f : Fault} (h : firstStop? v rules = some f) :
    ∃ before r after, rules = before ++ r :: after ∧ (∀ q ∈ before, ¬ q.Stops v) ∧ r.stop? v = some f := by
  obtain ⟨before, r, after, hsplit, hr, hbefore⟩ := List.findSome?_eq_some_iff.1 h
  exact ⟨before, r, after, hsplit, fun q hq => (not_stops_iff q v).2 (hbefore q hq), hr⟩

/-- No rule is kept from looking at a value by a rejection. -/
theorem firstStop?_ne_rejected (v : Value) (rules : List Rule) (rej : Rejection) : firstStop? v rules ≠ some (.rejected rej) := by
  intro h
  obtain ⟨before, r, after, -, -, hr⟩ := exists_of_firstStop? h
  rcases (stop?_eq_some_iff r v _).1 hr with ⟨-, -, heq⟩ | ⟨n, cause, -, -, heq⟩
  · cases heq
  · cases heq

/-- Rules that can all look at a value find the violations that it deserves. -/
theorem judge_of_forall_not_stops (resource field : Text) (v : Value) (rules : List Rule) (h : ∀ r ∈ rules, ¬ r.Stops v) :
    judge resource field v rules = (failures resource field v rules, none) := by
  rw [judge_eq, beforeStop_eq_self h, (firstStop?_eq_none_iff v rules).2 h]

end Rule

end Admission
