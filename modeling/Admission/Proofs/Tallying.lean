import Admission.Gate
import Admission.Proofs.RuleChains
import Admission.Proofs.Traversal

/-!
# One tally for all fields

A pass keeps one tally, to which each field in turn adds what its rules find. What a field adds does not depend on what the tally
already holds (`tallyField_eq`), so that the pass comes to the same as a check of every field by itself, the findings joined in the
order of the schema (`tallyFields_eq`). Passes are compared and taken apart in that form.
-/

namespace Admission

namespace Gate

/-- The violations of one field of a payload by itself: none when it is optional and absent. -/
def checkField (g : Gate) (mode : Mode) (payload : Payload) (f : Field) : Except Fault (List Violation) := do
  Payload.checkName f.name
  if !isRequired mode f && !payload.has f.name then return []
  let value ← payload.extract g.defaults f.kind f.name
  match Rule.judge g.schema.resource f.name value f.rules with
  | (violations, none) => return violations
  | (_, some fault) => throw fault

/-- The violations of each field of a payload by itself, joined in the order of the schema. -/
def checkFields (g : Gate) (mode : Mode) (payload : Payload) : Except Fault (List Violation) :=
  ((g.schema.fields mode).mapM (g.checkField mode payload)).map List.flatten

variable {g : Gate} {mode : Mode} {payload : Payload}

/-- What a field does to a tally of the resource: it fails as it does by itself, or puts its own violations behind those that are
there, whichever these are. -/
theorem tallyField_eq {t : Tally} (ht : t.resource = g.schema.resource) (f : Field) :
    g.tallyField mode payload t f = (g.checkField mode payload f).map t.extend := by
  unfold tallyField checkField
  cases Payload.checkName f.name with
  | error e => rfl
  | ok u =>
    by_cases hskip : (!isRequired mode f && !payload.has f.name) = true
    · simp [hskip, bind, Except.bind, pure, Except.pure, Except.map]
    · cases hextract : payload.extract g.defaults f.kind f.name with
      | error e => simp [hskip, bind, Except.bind, Except.map]
      | ok v =>
        simp only [hskip, bind, Except.bind, Tally.apply_eq, ht, Bool.false_eq_true, if_false]
        cases Rule.judge g.schema.resource f.name v f.rules with
        | mk violations stopped =>
          cases stopped with
          | none => rfl
          | some fault => rfl

/-- A run over fields extends a tally by what each of them finds by itself. The induction is on the fields, for every tally of the
resource that those before them may have left behind. -/
theorem foldlM_tallyField (fields : List Field) {t : Tally} (ht : t.resource = g.schema.resource) :
    fields.foldlM (g.tallyField mode payload) t =
      (fields.mapM (g.checkField mode payload)).map fun found => t.extend found.flatten := by
  induction fields generalizing t with
  | nil => simp [pure, Except.pure, Except.map]
  | cons f rest ih =>
    rw [List.foldlM_cons, mapM_cons_eq, tallyField_eq ht]
    cases g.checkField mode payload f with
    | error e => rfl
    | ok violations =>
      have hrest := ih (t := t.extend violations) ht
      simp only [Except.map, bind, Except.bind] at hrest ⊢
      rw [hrest]
      cases rest.mapM (g.checkField mode payload) with
      | error e => rfl
      | ok found => simp [Tally.extend]

/-- The tally of a pass holds what the fields find by themselves. -/
theorem tallyFields_eq (g : Gate) (mode : Mode) (payload : Payload) :
    g.tallyFields mode payload =
      (g.checkFields mode payload).map fun violations => { resource := g.schema.resource, violations } := by
  rw [tallyFields, foldlM_tallyField _ rfl, checkFields]
  cases (g.schema.fields mode).mapM (g.checkField mode payload) with
  | error e => rfl
  | ok found => simp [Except.map, Tally.extend]

/-- A payload is examined by its structure and then by its fields, each of them by itself. -/
theorem examinePayload_eq (g : Gate) (mode : Mode) (payload : Payload) :
    g.examinePayload mode payload = (g.checkStructure payload).bind fun _ => g.checkFields mode payload := by
  simp only [examinePayload, tallyFields_eq, bind, Except.bind]
  cases g.checkStructure payload with
  | error e => rfl
  | ok u => cases g.checkFields mode payload <;> rfl

end Gate

end Admission
