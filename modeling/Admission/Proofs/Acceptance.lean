import Admission.Proofs.Pass

/-!
# Which commands pass

A command passes exactly when its payload has a sound structure and every field that is checked admits its raw value
(`validate_eq_ok_iff_admits`). What a field admits depends on its own kind and rules alone, and on the date format of the payload.
-/

namespace Admission

/-- A field admits a raw value: the value can be read as the kind of the field, and what is read fails none of its rules, all of
which can look at it. -/
def Field.Admits (f : Field) (pattern : Text) (raw : Value) : Prop :=
  ∃ v, f.kind.readValue pattern f.name raw = .ok v ∧ ∀ r ∈ f.rules, ¬ r.Stops v ∧ ¬ r.Fails v

/-- A field that asks for a value does not admit null. -/
theorem Field.Admits.ne_null {f : Field} {pattern : Text} {raw : Value} (h : f.Admits pattern raw)
    (hasks : .notNull ∈ f.rules ∨ .notBlank ∈ f.rules) : raw ≠ .null := by
  rintro rfl
  obtain ⟨v, hv, hrules⟩ := h
  rw [Payload.readValue_null] at hv
  cases hv
  rcases hasks with hnull | hblank
  · exact (hrules _ hnull).2 rfl
  · exact (hrules _ hblank).2 (Or.inl rfl)

namespace Gate

section Passing

variable {g : Gate} {mode : Mode} {payload : Payload} {f : Field}

/-- A field is settled and deserves nothing exactly when it admits its raw value. -/
theorem settled_and_deserved_eq_nil_iff (hsound : g.Sound payload) (hname : f.name ≠ []) :
    g.Settled payload f ∧ g.deserved payload f = [] ↔
      f.Admits (payload.effectiveFormat g.defaults) (payload.get f.name) := by
  have hformat := Payload.dateFormat_eq g.defaults hsound.dateFormat
  unfold Settled deserved Field.Admits
  rw [Payload.extract_eq_readValue f.kind hname hformat]
  cases f.kind.readValue (payload.effectiveFormat g.defaults) f.name (payload.get f.name) with
  | error e => simp
  | ok v => simp [Rule.failures, List.filter_eq_nil_iff, forall_and]

/-- Fields are checked without a fault and without a violation exactly when each of them admits its raw value. -/
theorem checkFields_eq_nil_iff (hnames : ∀ f ∈ g.schema.fields mode, f.name ≠ []) (hsound : g.Sound payload) :
    g.checkFields mode payload = .ok [] ↔
      ∀ f ∈ g.schema.fields mode, Checks mode payload f →
        f.Admits (payload.effectiveFormat g.defaults) (payload.get f.name) := by
  rw [checkFields_eq_ok_iff hnames, eq_comm, allDeserved, List.flatMap_eq_nil_iff]
  constructor
  · rintro ⟨hsettled, hdeserved⟩ f hf hchecks
    have hmem : f ∈ g.checked mode payload := mem_checked_iff.2 ⟨hf, hchecks⟩
    exact (settled_and_deserved_eq_nil_iff hsound (hnames f hf)).1 ⟨hsettled f hmem, hdeserved f hmem⟩
  · intro h
    have hboth : ∀ f ∈ g.checked mode payload, g.Settled payload f ∧ g.deserved payload f = [] := by
      intro f hf
      obtain ⟨hmem, hchecks⟩ := mem_checked_iff.1 hf
      exact (settled_and_deserved_eq_nil_iff hsound (hnames f hmem)).2 (h f hmem hchecks)
    exact ⟨fun f hf => (hboth f hf).1, fun f hf => (hboth f hf).2⟩

/-- A payload passes exactly when its structure is sound and every field that is checked admits its raw value. -/
theorem validatePayload_eq_ok_iff_admits (hnames : ∀ f ∈ g.schema.fields mode, f.name ≠ []) :
    g.validatePayload mode payload = .ok () ↔
      g.Sound payload ∧ ∀ f ∈ g.schema.fields mode, Checks mode payload f →
        f.Admits (payload.effectiveFormat g.defaults) (payload.get f.name) := by
  rw [validatePayload_eq_ok_iff]
  exact and_congr_right fun hsound => checkFields_eq_nil_iff hnames hsound

/-- A command passes exactly when its text gives a payload with a sound structure and every field that is checked admits its raw
value. -/
theorem validate_eq_ok_iff_admits {text : Option Text} (hnames : ∀ f ∈ g.schema.fields mode, f.name ≠ []) :
    g.validate mode text = .ok () ↔
      ∃ payload, Payload.read text = .ok payload ∧ g.Sound payload ∧
        ∀ f ∈ g.schema.fields mode, Checks mode payload f →
          f.Admits (payload.effectiveFormat g.defaults) (payload.get f.name) := by
  rw [validate_eq_ok_iff]
  exact exists_congr fun payload => and_congr_right fun _ => validatePayload_eq_ok_iff_admits hnames

end Passing

end Gate

end Admission
