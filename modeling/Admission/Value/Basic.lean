import Admission.Binary64.Basic
import Admission.Calendar.Date

/-!
# Values

What a payload holds and what is extracted from it. A payload holds every kind but dates; a date arises when a field is
read as one. The members of an object keep their order, and a name stands in it once: `Members.put` gives a repeated
name its first place and its last value.
-/

namespace Admission

/-- A value of a payload, or one extracted from it. -/
inductive Value where
  | null
  | bool (b : Bool)
  | int (n : Int)
  | float (x : Binary64)
  | str (s : Text)
  | date (d : Date)
  | list (items : List Value)
  | dict (members : List (Text × Value))

/-- How deep lists and objects may stand in one another, where values are read or written. A hundred and fifty levels always may, and
three thousand never; where it ends between them depends on what else is under way, and is chosen here. -/
def nestingLimit : Nat := 1000

/-- The members of an object, in order. -/
abbrev Members := List (Text × Value)

namespace Members

/-- An object with one member more, or with the value of a member replaced in its place. -/
def put : Members → Text → Value → Members
  | [], name, value => [(name, value)]
  | (k, v) :: rest, name, value => if k = name then (k, value) :: rest else (k, v) :: put rest name value

/-- The object that a list of members denotes. -/
def ofList (members : List (Text × Value)) : Members := members.foldl (fun ms m => put ms m.1 m.2) []

/-- The names of the members, in order. -/
def names (ms : Members) : List Text := ms.map (·.1)

/-- The value under a name; a name that is absent has the value null. -/
def get (ms : Members) (name : Text) : Value := (ms.lookup name).getD .null

/-- A name stands in an object, whatever its value. -/
def has (ms : Members) (name : Text) : Bool := (ms.lookup name).isSome

/-- What is found in an object after a member was put into it: that member under its name, and what was there before
under every other. -/
theorem lookup_put (ms : Members) (name k : Text) (v : Value) :
    (put ms name v).lookup k = if k = name then some v else ms.lookup k := by
  induction ms with
  | nil =>
    rw [put, List.lookup_cons, List.lookup_nil]
    by_cases h : k = name
    · rw [if_pos h, beq_iff_eq.2 h]
    · rw [if_neg h, beq_eq_false_iff_ne.2 h]
  | cons m rest ih =>
    obtain ⟨n, w⟩ := m
    rw [put]
    split
    · next hn =>
      subst hn
      rw [List.lookup_cons, List.lookup_cons]
      by_cases h : k = n
      · rw [if_pos h, beq_iff_eq.2 h]
      · rw [if_neg h, beq_eq_false_iff_ne.2 h]
    · next hn =>
      rw [List.lookup_cons, List.lookup_cons, ih]
      by_cases h : k = n
      · have hk : k ≠ name := fun e => hn (h.symm.trans e)
        rw [beq_iff_eq.2 h, if_neg hk, if_neg hk]
      · rw [beq_eq_false_iff_ne.2 h]

theorem get_put (ms : Members) (name k : Text) (v : Value) :
    (put ms name v).get k = if k = name then v else ms.get k := by
  unfold get
  rw [lookup_put]
  split <;> rfl

/-- Putting a member keeps the names and their order; a new name comes last. -/
theorem names_put (ms : Members) (name : Text) (v : Value) :
    (put ms name v).names = if name ∈ ms.names then ms.names else ms.names ++ [name] := by
  induction ms with
  | nil => rfl
  | cons m rest ih =>
    obtain ⟨n, w⟩ := m
    rw [put]
    split
    · next h =>
      subst h
      simp [names]
    · next h =>
      have h' : name ≠ n := fun e => h e.symm
      unfold names at ih ⊢
      simp only [List.map_cons, ih, List.mem_cons, h', false_or]
      split <;> simp

/-- Every name stands once in the object that a list of members denotes. -/
theorem nodup_names_ofList (ms : List (Text × Value)) : (ofList ms).names.Nodup := by
  suffices h : ∀ acc : Members, acc.names.Nodup → (ms.foldl (fun ms m => put ms m.1 m.2) acc).names.Nodup from
    h [] List.nodup_nil
  induction ms with
  | nil => exact fun _ h => h
  | cons m rest ih =>
    intro acc h
    refine ih _ ?_
    rw [names_put]
    split
    · exact h
    · next hm =>
      rw [List.nodup_append]
      refine ⟨h, by simp, ?_⟩
      intro a ha b hb
      rw [List.mem_singleton] at hb
      subst hb
      exact fun e => hm (e ▸ ha)

end Members

namespace Value

/-- The null value. -/
def isNull : Value → Bool
  | .null => true
  | _ => false

/-- The name of a value's kind, as messages give it. -/
def kindName : Value → Text
  | .null => "NoneType"
  | .bool _ => "bool"
  | .int _ => "int"
  | .float _ => "float"
  | .str _ => "str"
  | .date _ => "datetime.date"
  | .list _ => "list"
  | .dict _ => "dict"

end Value

end Admission
