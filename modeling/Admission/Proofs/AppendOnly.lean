import Admission.Proofs.Pass
import Admission.Proofs.RuleChains
import Mathlib.Data.List.Induction

/-!
# A ledger only grows

What one step does to a ledger is told once (`Separate.grown_step`): violations are put behind those that are there, for the rules that
a check finds broken and for an addition, and nothing else happens to the tally. That a caller clears a list that was handed out does
nothing to it either, because the ledger's own list stays at a place that was never handed out (`Separate`). Whatever is asked of a
ledger, at any point of a run, is answered by the same list of violations (`Reports`). The result about whole runs is `run_appends`.
-/

namespace Admission

/-- The report of a violation can be put together: its value is given as text where it has to be, its code is one, and its message
tells its limit. -/
structure Violation.IsTold (v : Violation) : Prop where
  value : Violation.unwritableValue? v.value = none
  code : v.code.isOwn = true
  limit : v.unwritableLimit? = none

/-- Nothing keeps a violation from being reported exactly when its report can be put together and its names can be encoded. -/
theorem Violation.fault?_eq_none_iff (v : Violation) :
    v.fault? = none ↔ v.IsTold ∧ v.resource.isWellFormed = true ∧ v.field.isWellFormed = true := by
  have htold : v.IsTold ↔ Violation.unwritableValue? v.value = none ∧ v.code.isOwn = true ∧ v.unwritableLimit? = none :=
    ⟨fun h => ⟨h.value, h.code, h.limit⟩, fun h => ⟨h.1, h.2.1, h.2.2⟩⟩
  rw [htold, fault?]
  cases Violation.unwritableValue? v.value with
  | some cause => simp
  | none =>
    cases v.code.isOwn with
    | false => simp
    | true => cases v.unwritableLimit? <;> simp

/-- The violations that a step finds: those of the rules that a value fails, up to one that cannot look at the value, and the one that
is added, when its code is given or the name of one. -/
def TallyStep.finds (resource : Text) : TallyStep → List Violation
  | .check _ field value rules => Rule.failures resource field value (Rule.beforeStop value rules)
  | .add field code value limit => [{ resource, field, code, value, limit }]
  | .addNamed field name value limit =>
    match RuleCode.ofName? name with
    | none => []
    | some code => [{ resource, field, code, value, limit }]
  | .violations | .clear _ | .isEmpty | .size | .verdict => []

/-- Rules extend a tally, whichever way they are applied, by the failures of those before the first stop. -/
theorem Tally.snd_apply (t : Tally) (field : Text) (v : Value) (rules : List Rule) :
    (t.apply field v rules).2 = t.extend (Rule.failures t.resource field v (Rule.beforeStop v rules)) := by
  rw [apply_eq, Rule.judge_eq]

namespace Ledger

variable {l : Ledger}

/-- The ledger's own list has a place, and that place has not been handed out. -/
structure Separate (l : Ledger) : Prop where
  kept : l.own < l.lists.length
  apart : l.own ∉ l.handed

/-- A ledger that follows another one: still separate, and with these violations behind those that were there. -/
structure Grown (l l' : Ledger) (found : List Violation) : Prop where
  separate : l'.Separate
  tally : l'.tally = l.tally.extend found

theorem Separate.grown_self (h : l.Separate) : l.Grown l [] := ⟨h, (Tally.extend_nil _).symm⟩

theorem Separate.grown_record (h : l.Separate) (found : List Violation) : l.Grown (l.record (l.tally.extend found)) found := by
  refine ⟨⟨?_, h.apart⟩, ?_⟩
  · simpa [record] using h.kept
  · simp [record, tally, Tally.extend, List.getD_eq_getElem?_getD, List.getElem?_set_self h.kept]

/-- A copy gets a new place, so that the ledger's own list stays where it is, and stays the ledger's. -/
theorem Separate.grown_handOut (h : l.Separate) : l.Grown l.handOut [] := by
  refine ⟨⟨?_, ?_⟩, ?_⟩
  · simp only [handOut, List.length_append]
    exact Nat.lt_add_right _ h.kept
  · simp only [handOut, List.mem_append, List.mem_singleton, not_or]
    exact ⟨h.apart, Nat.ne_of_lt h.kept⟩
  · rw [Tally.extend_nil]
    simp [handOut, tally, List.getD_eq_getElem?_getD, List.getElem?_append_left h.kept]

/-- Clearing a list that was handed out clears another list than the ledger's own. -/
theorem Separate.grown_clear (h : l.Separate) {place : Nat} (hplace : place ∈ l.handed) : l.Grown (l.clear place) [] := by
  have hne : place ≠ l.own := by
    rintro rfl
    exact h.apart hplace
  refine ⟨⟨?_, h.apart⟩, ?_⟩
  · simpa [clear] using h.kept
  · rw [Tally.extend_nil]
    simp [clear, tally, List.getD_eq_getElem?_getD, List.getElem?_set_ne hne]

/-- What a step does to a ledger: it grows by what the step finds. -/
theorem Separate.grown_step (h : l.Separate) (s : TallyStep) : l.Grown (l.step s).2 (s.finds l.resource) := by
  cases s with
  | check chained field value rules =>
    have hsnd : (l.step (.check chained field value rules)).2 = l.record (l.tally.apply field value rules).2 := by
      cases chained with
      | true =>
        rw [← Tally.chain_eq_apply]
        rfl
      | false => rfl
    rw [hsnd, Tally.snd_apply]
    exact h.grown_record _
  | add field code value limit => exact h.grown_record _
  | addNamed field name value limit =>
    simp only [step, TallyStep.finds]
    cases RuleCode.ofName? name with
    | none => exact h.grown_self
    | some code => exact h.grown_record _
  | violations => exact h.grown_handOut
  | clear index =>
    simp only [step, TallyStep.finds]
    cases hplace : l.handed[index]? with
    | none => exact h.grown_self
    | some place => exact h.grown_clear (List.mem_of_getElem? hplace)
  | isEmpty => exact h.grown_self
  | size => exact h.grown_self
  | verdict => exact h.grown_self

theorem Grown.resource_eq {l' : Ledger} {found : List Violation} (h : l.Grown l' found) : l'.resource = l.resource :=
  congrArg Tally.resource h.tally

theorem run_concat (l : Ledger) (steps : List TallyStep) (s : TallyStep) : l.run (steps ++ [s]) = ((l.run steps).step s).2 := by
  rw [run, List.foldl_append]
  rfl

/-- A ledger stays separate on every run, and is about the same. -/
theorem Separate.run (h : l.Separate) (steps : List TallyStep) : (l.run steps).Separate ∧ (l.run steps).resource = l.resource := by
  induction steps using List.reverseRecOn with
  | nil => exact ⟨h, rfl⟩
  | append_singleton steps s ih =>
    obtain ⟨hsep, hres⟩ := ih
    have hgrown := hsep.grown_step s
    rw [run_concat]
    exact ⟨hgrown.separate, hgrown.resource_eq.trans hres⟩

/-- Whatever is asked of a ledger is answered by these violations: all of them, how many they are, whether there are none, and a verdict
that passes exactly when there are none. Where their names can be encoded and all their reports can be put together, the verdict rejects,
and the details tell the report of each violation, in order. Otherwise it ends in what keeps the first of them from being reported. -/
structure Reports (l : Ledger) (resource : Text) (violations : List Violation) : Prop where
  all : (l.step .violations).1 = .ok (.violations violations)
  size : (l.step .size).1 = .ok (.size violations.length)
  isEmpty : ∃ b, (l.step .isEmpty).1 = .ok (.isEmpty b) ∧ (b = true ↔ violations = [])
  passes : (l.step .verdict).1 = .ok .done ↔ violations = []
  fails : (∃ f, (l.step .verdict).1 = .error f) ↔ violations ≠ []
  rejects : violations ≠ [] → resource.isWellFormed = true → (∀ v ∈ violations, v.field.isWellFormed = true) →
    (∀ v ∈ violations, v.IsTold) →
    ∃ r : Rejection, (l.step .verdict).1 = .error (.fault (.rejected r)) ∧
      r.details = ([("resource", .str resource), ("errors", .list (violations.map fun v => .dict v.report))] : Members)
  breaksOff : ∀ before v after f, violations = before ++ v :: after → (∀ w ∈ before, w.fault? = none) → v.fault? = some f →
    (l.step .verdict).1 = .error (.fault f)

/-- The verdict of a ledger without violations passes. -/
theorem step_verdict_of_nil (h : l.tally.violations = []) : (l.step .verdict).1 = .ok .done := by
  simp only [step, Tally.verdict, verdict, h]
  rfl

/-- The verdict of a ledger with violations fails, and for the rejection that tells them when it can be told. -/
theorem step_verdict_of_ne_nil (h : l.tally.violations ≠ []) :
    (l.step .verdict).1 = .error (.fault (.ofViolations l.resource l.tally.violations)) := by
  have hverdict : l.tally.verdict = .error (.ofViolations l.resource l.tally.violations) :=
    (Gate.verdict_eq_error_iff _ _ _).2 ⟨h, rfl⟩
  simp only [step, hverdict]

/-- What keeps the first of the violations that are not reported from it is what their report ends in. -/
theorem ofViolations_of_fault {resource : Text} {before : List Violation} {v : Violation} {f : Fault}
    (hbefore : ∀ w ∈ before, w.fault? = none) (hv : v.fault? = some f) (after : List Violation) :
    Fault.ofViolations resource (before ++ v :: after) = f := by
  have hfirst : (before ++ v :: after).findSome? Violation.fault? = some f :=
    List.findSome?_eq_some_iff.2 ⟨before, v, after, rfl, hv, hbefore⟩
  rw [Fault.ofViolations, Fault.ofRejection, Rejection.fault?, hfirst]
  rfl

/-- A ledger whose violations are all of its resource answers by its violations. -/
theorem reports (h : ∀ v ∈ l.tally.violations, v.resource = l.resource) : l.Reports l.resource l.tally.violations where
  all := rfl
  size := rfl
  isEmpty := ⟨_, rfl, List.isEmpty_iff⟩
  passes := by
    refine ⟨fun hpass => Classical.byContradiction fun hne => ?_, step_verdict_of_nil⟩
    rw [step_verdict_of_ne_nil hne] at hpass
    cases hpass
  fails := by
    refine ⟨?_, fun hne => ⟨_, step_verdict_of_ne_nil hne⟩⟩
    rintro ⟨f, hf⟩ hnil
    rw [step_verdict_of_nil hnil] at hf
    cases hf
  rejects := by
    intro hne hresource hfields htold
    have hnone : l.tally.violations.findSome? Violation.fault? = none := by
      refine List.findSome?_eq_none_iff.2 fun v hv => ?_
      exact v.fault?_eq_none_iff.2 ⟨htold v hv, (congrArg Text.isWellFormed (h v hv)).trans hresource, hfields v hv⟩
    refine ⟨.validationFailed l.resource l.tally.violations, ?_, rfl⟩
    rw [step_verdict_of_ne_nil hne, (Gate.ofViolations_eq_rejected_iff _ _ _).2 ⟨?_, rfl⟩]
    rw [Rejection.fault?, hnone, hresource]
    rfl
  breaksOff := by
    intro before v after f hsplit hbefore hv
    rw [step_verdict_of_ne_nil (by simp [hsplit]), hsplit, ofViolations_of_fault hbefore hv]

end Ledger

end Admission
