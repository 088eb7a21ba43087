import Admission.Proofs.Judgement
import Admission.Proofs.NumberText
import Admission.Tally

/-!
# Rules applied to a value

The rules of a field are applied to its value one by one, or judged as a whole and recorded. Both ways come to the same
(`Tally.chain_eq_apply`). A tally gains one violation for each rule that the value fails, behind those that it has and in the order of
the rules. The first rule that cannot look at the value ends the run: what the rules before it found stays, and none behind it is
looked at (`Tally.chain_outcome`).
-/

namespace Admission

namespace Tally

/-- A tally with more violations behind those that it has. -/
def extend (t : Tally) (found : List Violation) : Tally := { t with violations := t.violations ++ found }

@[simp] theorem extend_nil (t : Tally) : t.extend [] = t := by simp [extend]

@[simp] theorem resource_push (t : Tally) (w : Violation) : (t.push w).resource = t.resource := rfl

/-- A violation that is recorded before others stands in front of them. -/
theorem extend_push (t : Tally) (w : Violation) (found : List Violation) : (t.push w).extend found = t.extend (w :: found) := by
  simp [extend, push]

/-- Rules that are judged as a whole extend a tally by what they find, and end as the first of them that stops. -/
theorem apply_eq (t : Tally) (field : Text) (v : Value) (rules : List Rule) :
    t.apply field v rules =
      (match (Rule.judge t.resource field v rules).2 with
        | some f => .error f
        | none => .ok v, t.extend (Rule.judge t.resource field v rules).1) := rfl

/-- Rules that are applied one by one come to the same as rules that are judged as a whole: the same result, and the same tally. The
induction is on the rules that are left, for every tally that those before them may have left behind. -/
theorem chain_eq_apply (t : Tally) (field : Text) (v : Value) (rules : List Rule) : t.chain field v rules = t.apply field v rules := by
  induction rules generalizing t with
  | nil => simp [chain, apply_eq, Rule.judge]
  | cons r rest ih =>
    rw [apply_eq, chain, Rule.judge]
    cases r.isBroken? v with
    | error f => simp
    | ok broken =>
      cases broken with
      | false => exact (ih t).trans (apply_eq ..)
      | true =>
        have hrest := (ih (t.push (r.violation t.resource field v))).trans (apply_eq ..)
        rwa [extend_push, resource_push] at hrest

/-- Rules that can all look at a value give it back, and extend a tally by the violations that it deserves. -/
theorem apply_of_forall_not_stops (t : Tally) (field : Text) {v : Value} {rules : List Rule} (h : ∀ r ∈ rules, ¬ r.Stops v) :
    t.apply field v rules = (.ok v, t.extend (Rule.failures t.resource field v rules)) := by
  rw [apply_eq, Rule.judge_of_forall_not_stops _ _ _ _ h]

/-- The first rule that cannot look at a value ends the run, and the tally is extended by what the rules before it find. -/
theorem apply_of_stop (t : Tally) (field : Text) {v : Value} {before : List Rule} {r : Rule} {f : Fault}
    (hbefore : ∀ q ∈ before, ¬ q.Stops v) (hr : r.stop? v = some f) (after : List Rule) :
    t.apply field v (before ++ r :: after) = (.error f, t.extend (Rule.failures t.resource field v before)) := by
  obtain ⟨hfound, hstop⟩ := Rule.beforeStop_append hbefore hr after
  rw [apply_eq, Rule.judge_eq, hfound, hstop]

/-- What rules do to a tally, in three parts.
1. It does not matter whether they are applied one by one or judged as a whole.
2. When they can all look at the value, the value is given back, and the tally has gained one violation for each rule that the value
   fails, in the order of the rules, and nothing else.
3. When some rule cannot look at the value, the first such rule ends the run: by the kind of a value that is compared with no number, or
   by what keeps a value from being written that is measured. The tally has gained the violations for the rules before it, and nothing
   else. -/
theorem chain_outcome (t : Tally) (field : Text) (v : Value) (rules : List Rule) :
    t.chain field v rules = t.apply field v rules ∧
      ((∀ r ∈ rules, ¬ r.Stops v) →
        t.chain field v rules = (.ok v, t.extend (Rule.failures t.resource field v rules))) ∧
      ((∃ r ∈ rules, r.Stops v) →
        ∃ before r after f, rules = before ++ r :: after ∧ (∀ q ∈ before, ¬ q.Stops v) ∧
          (r = .positive ∧ v.isComparable = false ∧ f = .notComparable v.kindName ∨
            ∃ n cause, r = .maxLength n ∧ v.unwritable? = some cause ∧ f = .unwritable cause) ∧
          t.chain field v rules = (.error f, t.extend (Rule.failures t.resource field v before))) := by
  refine ⟨chain_eq_apply t field v rules, ?_, ?_⟩
  · intro hlook
    rw [chain_eq_apply, apply_of_forall_not_stops t field hlook]
  · rintro ⟨q, hq, hstops⟩
    cases hfirst : Rule.firstStop? v rules with
    | none => exact absurd hstops ((Rule.firstStop?_eq_none_iff v rules).1 hfirst q hq)
    | some f =>
      obtain ⟨before, r, after, rfl, hbefore, hr⟩ := Rule.exists_of_firstStop? hfirst
      refine ⟨before, r, after, f, rfl, hbefore, (Rule.stop?_eq_some_iff r v f).1 hr, ?_⟩
      rw [chain_eq_apply, apply_of_stop t field hbefore hr]

/-- The tally of a room whose code was missing. -/
def codeless : Tally := ⟨"room", [Rule.notBlank.violation "room" "code" .null]⟩

/-- A rule list with limits of length around the rule that compares. -/
def seatRules : List Rule := [.notBlank, .maxLength 3, .positive, .maxLength 0]

/-- A number of seats that is no number breaks a limit of length before it is compared, and the rule behind is not looked at; no seats
at all can be looked at by every rule, and break the same rule twice. -/
theorem chain_of_seats :
    (∃ before r after f, seatRules = before ++ r :: after ∧
        codeless.chain "seats" (.str "none") seatRules =
          (.error f, codeless.extend (Rule.failures "room" "seats" (.str "none") before))) ∧
      codeless.chain "seats" (.str "none") seatRules =
        (.error (.notComparable "str"), codeless.extend [(Rule.maxLength 3).violation "room" "seats" (.str "none")]) ∧
      codeless.chain "seats" (.bool false) [.positive, .maxLength 5, .notNull, .positive] =
        (.ok (.bool false),
          codeless.extend (List.replicate 2 (Rule.positive.violation "room" "seats" (.bool false)))) := by
  refine ⟨?_, rfl, ?_⟩
  · obtain ⟨before, r, after, f, hsplit, -, -, hchain⟩ := (chain_outcome codeless "seats" (.str "none") seatRules).2.2 (by decide)
    exact ⟨before, r, after, f, hsplit, hchain⟩
  · exact (chain_outcome codeless "seats" (.bool false) _).2.1 (by decide)

/-- A value that the rules give back although it is none of the numbers, and a value that is a number and that they do not give back: a
boolean is compared with zero as well, and an integer is not written when it has too many digits, so that it cannot be measured. -/
theorem chain_of_bool_and_of_leastLong :
    codeless.chain "seats" (.bool false) [.positive] =
        (.ok (.bool false), codeless.extend [Rule.positive.violation "room" "seats" (.bool false)]) ∧
      codeless.chain "seats" (.int Text.leastLong) [.notBlank, .maxLength 5] = (.error (.unwritable .longInteger), codeless) := by
  constructor
  · rfl
  · have hstop : (Rule.maxLength 5).stop? (.int Text.leastLong) = some (.unwritable .longInteger) := by
      rw [Rule.stop?, Value.unwritable?_int, if_neg Text.not_isShort_leastLong]
      rfl
    have hbefore : ∀ q ∈ [Rule.notBlank], ¬ q.Stops (.int Text.leastLong) := by
      intro q hq
      rw [List.mem_singleton.1 hq]
      simp [Rule.Stops, Rule.stop?]
    rw [chain_eq_apply]
    exact (apply_of_stop codeless "seats" hbefore hstop []).trans (by simp [Rule.failures, Rule.Fails, extend])

end Tally

end Admission
