import Admission.Proofs.Pass
import Admission.Proofs.ReadPayloads

/-!
# Which cause of rejection is told

A command can be wrong in several ways at once. It is rejected for the first of them in a fixed order (`FirstCause`), whatever
else is wrong with it: its text, the names of its members, its date format, its locale, the first field that cannot be read, and
only then what its fields deserve.
-/

namespace Admission

namespace Gate

/-- A field is malformed: reading it rejects the command. -/
def IsMalformed (g : Gate) (payload : Payload) (f : Field) : Prop :=
  ∃ field value kind,
    payload.extract g.defaults f.kind f.name = .error (.rejected (.malformedField field value kind))

/-- The cause for which a command is rejected, the first that applies in this order: its text gives no payload; something is
wrong with the structure of the payload; a field is malformed, and those that are checked before it are settled; the fields are
settled, and deserve violations that can be told. -/
inductive FirstCause (g : Gate) (mode : Mode) (text : Option Text) : Rejection → Prop where
  | unread {reason : Text} (h : Payload.read text = .error (.rejected (.malformedPayload reason))) :
    FirstCause g mode text (.malformedPayload reason)
  | unsound {payload : Payload} {r : Rejection} (hread : Payload.read text = .ok payload)
      (h : g.StructureCause payload r) : FirstCause g mode text r
  | malformed {payload : Payload} {before after : List Field} {f : Field} (hread : Payload.read text = .ok payload)
      (hsound : g.Sound payload) (hsplit : g.checked mode payload = before ++ f :: after)
      (hbefore : ∀ q ∈ before, g.Settled payload q) (h : g.IsMalformed payload f) :
    FirstCause g mode text (.malformedField f.name (payload.get f.name) f.kind.name)
  | deserved {payload : Payload} (hread : Payload.read text = .ok payload) (hsound : g.Sound payload)
      (hsettled : ∀ f ∈ g.checked mode payload, g.Settled payload f) (hne : g.allDeserved mode payload ≠ [])
      (htold : (Rejection.validationFailed g.schema.resource (g.allDeserved mode payload)).fault? = none) :
    FirstCause g mode text (.validationFailed g.schema.resource (g.allDeserved mode payload))

section Precedence

variable {g : Gate} {mode : Mode} {text : Option Text}

/-- A malformed field of a sound payload is told under its own name and kind, with its own raw value. -/
theorem extract_of_isMalformed {payload : Payload} {f : Field} (hsound : g.Sound payload) (hname : f.name ≠ [])
    (h : g.IsMalformed payload f) :
    payload.extract g.defaults f.kind f.name =
      .error (.rejected (.malformedField f.name (payload.get f.name) f.kind.name)) := by
  obtain ⟨field, value, kind, h⟩ := h
  rw [h]
  rcases extract_error hsound hname h with heq | hleak
  · rw [((Fault.ofRejection_eq_rejected_iff _ _).1 heq.symm).2]
  · exact absurd rfl (hleak.ne_rejected _)

/-- A field that ends a pass with a rejection is malformed. -/
theorem isMalformed_of_ends {payload : Payload} {f : Field} {r : Rejection} (hsound : g.Sound payload) (hname : f.name ≠ [])
    (h : g.Ends payload f (.rejected r)) :
    g.IsMalformed payload f ∧ r = .malformedField f.name (payload.get f.name) f.kind.name := by
  rcases h with h | ⟨v, -, hstop⟩
  · rcases extract_error hsound hname h with heq | hleak
    · obtain ⟨-, rfl⟩ := (Fault.ofRejection_eq_rejected_iff _ _).1 heq.symm
      exact ⟨⟨_, _, _, h⟩, rfl⟩
    · exact absurd rfl (hleak.ne_rejected r)
  · exact absurd hstop (Rule.firstStop?_ne_rejected v f.rules r)

/-- A command that is rejected is rejected for the first cause. -/
theorem firstCause_of_validate (hnames : ∀ f ∈ g.schema.fields mode, f.name ≠ []) {r : Rejection}
    (h : g.validate mode text = .error (.rejected r)) : g.FirstCause mode text r := by
  rcases (validate_eq_error_iff g mode text _).1 h with hread | ⟨payload, hread, h⟩
  · obtain ⟨reason, heq⟩ := read_error hread
    cases heq
    exact .unread hread
  · rcases (validatePayload_eq_error_iff g mode payload _).1 h with ⟨r', heq, hcause⟩ | ⟨hsound, h⟩
    · obtain ⟨-, rfl⟩ := (Fault.ofRejection_eq_rejected_iff _ _).1 heq.symm
      exact .unsound hread hcause
    · rcases h with hfields | ⟨violations, hfields, hverdict⟩
      · obtain ⟨before, f, after, hsplit, hbefore, hends⟩ := (checkFields_eq_error_iff hnames _).1 hfields
        have hmem : f ∈ g.checked mode payload := by simp [hsplit]
        obtain ⟨hmalformed, rfl⟩ := isMalformed_of_ends hsound (hnames f (mem_checked_iff.1 hmem).1) hends
        exact .malformed hread hsound hsplit hbefore hmalformed
      · obtain ⟨hsettled, rfl⟩ := (checkFields_eq_ok_iff hnames _).1 hfields
        obtain ⟨hne, heq⟩ := (verdict_eq_error_iff _ _ _).1 hverdict
        obtain ⟨htold, rfl⟩ := (ofViolations_eq_rejected_iff _ _ _).1 heq.symm
        exact .deserved hread hsound hsettled hne htold

/-- The first cause is what a command is rejected for. -/
theorem FirstCause.validate (hnames : ∀ f ∈ g.schema.fields mode, f.name ≠ []) {r : Rejection}
    (h : g.FirstCause mode text r) : g.validate mode text = .error (.rejected r) := by
  rw [validate_eq_error_iff]
  cases h with
  | unread h => exact Or.inl h
  | @unsound payload _ hread h =>
    have htold := (Fault.ofRejection_eq_rejected_iff r r).2 ⟨h.fault?_eq_none hread, rfl⟩
    exact Or.inr ⟨payload, hread, (validatePayload_eq_error_iff _ _ _ _).2 (Or.inl ⟨r, htold.symm, h⟩)⟩
  | @malformed payload before after f hread hsound hsplit hbefore h =>
    have hmem : f ∈ g.checked mode payload := by simp [hsplit]
    have hends := extract_of_isMalformed hsound (hnames f (mem_checked_iff.1 hmem).1) h
    refine Or.inr ⟨payload, hread, (validatePayload_eq_error_iff _ _ _ _).2 (Or.inr ⟨hsound, Or.inl ?_⟩)⟩
    exact (checkFields_eq_error_iff hnames _).2 ⟨before, f, after, hsplit, hbefore, Or.inl hends⟩
  | @deserved payload hread hsound hsettled hne htold =>
    refine Or.inr ⟨payload, hread, (validatePayload_eq_error_iff _ _ _ _).2 (Or.inr ⟨hsound, Or.inr ?_⟩)⟩
    refine ⟨_, checkFields_of_settled hnames hsettled, (verdict_eq_error_iff _ _ _).2 ⟨hne, Eq.symm ?_⟩⟩
    exact (ofViolations_eq_rejected_iff _ _ _).2 ⟨htold, rfl⟩

theorem not_settled_of_isMalformed {payload : Payload} {f : Field} (h : g.IsMalformed payload f) : ¬ g.Settled payload f := by
  rintro ⟨v, hv, -⟩
  obtain ⟨field, value, kind, h⟩ := h
  rw [hv] at h
  cases h

theorem mem_names_of_not_isContext {payload : Payload} {name : Text} (h : ¬ Payload.IsContext (payload.get name)) :
    name ∈ payload.names ∧ payload.get name ≠ .null := by
  have hnull : payload.get name ≠ .null := fun hnull => h (Or.inl hnull)
  exact ⟨Members.mem_names_of_get_ne_null hnull, hnull⟩

/-- A malformed field of a sound payload is there, and is not null. -/
theorem mem_names_of_isMalformed {payload : Payload} {f : Field} (hsound : g.Sound payload) (hname : f.name ≠ [])
    (h : g.IsMalformed payload f) : f.name ∈ payload.names ∧ payload.get f.name ≠ .null := by
  have hnull : payload.get f.name ≠ .null := by
    intro hnull
    obtain ⟨field, value, kind, h⟩ := h
    rw [Payload.extract_eq_readValue f.kind hname (Payload.dateFormat_eq g.defaults hsound.dateFormat), hnull,
      Payload.readValue_null] at h
    cases h
  exact ⟨Members.mem_names_of_get_ne_null hnull, hnull⟩

/-- A malformed field leaves no room for violations: a command that has one is never told any, at whatever position it stands. -/
theorem ne_validationFailed_of_isMalformed (hnames : ∀ f ∈ g.schema.fields mode, f.name ≠ []) {payload : Payload} {f : Field}
    (hread : Payload.read text = .ok payload) (hf : f ∈ g.checked mode payload) (h : g.IsMalformed payload f)
    (resource : Text) (violations : List Violation) :
    g.validate mode text ≠ .error (.rejected (.validationFailed resource violations)) := by
  intro hvalidate
  cases firstCause_of_validate hnames hvalidate with
  | unsound _ hcause => cases hcause
  | deserved hread' _ hsettled _ _ =>
    rw [hread] at hread'
    cases hread'
    exact not_settled_of_isMalformed h (hsettled f hf)

/-- A member that a command is told to be malformed is there, and is not null. -/
theorem mem_names_of_malformedField (hnames : ∀ f ∈ g.schema.fields mode, f.name ≠ []) {name : Text} {value : Value}
    {kind : Text} (hvalidate : g.validate mode text = .error (.rejected (.malformedField name value kind))) :
    ∃ payload, Payload.read text = .ok payload ∧ name ∈ payload.names ∧ value = payload.get name ∧ value ≠ .null := by
  cases firstCause_of_validate hnames hvalidate with
  | @unsound payload _ hread hcause =>
    cases hcause with
    | dateFormat _ h =>
      obtain ⟨hmem, hnull⟩ := mem_names_of_not_isContext h
      exact ⟨payload, hread, hmem, rfl, hnull⟩
    | locale _ _ h =>
      obtain ⟨hmem, hnull⟩ := mem_names_of_not_isContext h
      exact ⟨payload, hread, hmem, rfl, hnull⟩
  | @malformed payload before after f hread hsound hsplit hbefore h =>
    have hmem : f ∈ g.checked mode payload := by simp [hsplit]
    obtain ⟨hmem, hnull⟩ := mem_names_of_isMalformed hsound (hnames f (mem_checked_iff.1 hmem).1) h
    exact ⟨payload, hread, hmem, rfl, hnull⟩

/-- A command is rejected for the first cause that applies to it, and for no other. So a malformed field suppresses all the
violations of the fields before and after it, and only a member that is there is ever told to be malformed. -/
theorem validate_eq_rejected_iff_firstCause (g : Gate) (mode : Mode) (text : Option Text)
    (hnames : ∀ f ∈ g.schema.fields mode, f.name ≠ []) :
    (∀ r, g.validate mode text = .error (.rejected r) ↔ g.FirstCause mode text r) ∧
      (∀ payload, Payload.read text = .ok payload → (∃ f ∈ g.checked mode payload, g.IsMalformed payload f) →
        ∀ resource violations, g.validate mode text ≠ .error (.rejected (.validationFailed resource violations))) ∧
      ∀ name value kind, g.validate mode text = .error (.rejected (.malformedField name value kind)) →
        ∃ payload, Payload.read text = .ok payload ∧ name ∈ payload.names ∧ value = payload.get name ∧ value ≠ .null := by
  refine ⟨fun r => ⟨firstCause_of_validate hnames, FirstCause.validate hnames⟩, ?_, ?_⟩
  · rintro payload hread ⟨f, hf, h⟩
    exact ne_validationFailed_of_isMalformed hnames hread hf h
  · intro name value kind h
    exact mem_names_of_malformedField hnames h

/-- An update of an office with a blank name and an unreadable day of opening is rejected for the day alone, though its name stands
first. -/
theorem office_rejects_unread_day :
    office.validate .update (some ("\x7b\"name\": \"\", \"openingDate\": \"soon\"\x7d" : Text)) =
      .error (.rejected (.malformedField "openingDate" (.str "soon") "date")) := by
  have hread : Payload.read (some ("\x7b\"name\": \"\", \"openingDate\": \"soon\"\x7d" : Text)) =
      .ok [("name", .str ""), ("openingDate", .str "soon")] := by cbv
  have hsound : office.Sound [("name", .str ""), ("openingDate", .str "soon")] :=
    ⟨by decide, .inl rfl, .inl rfl⟩
  have hsplit : office.checked .update [("name", .str ""), ("openingDate", .str "soon")] =
      [{ name := "name", kind := .string, requiredOnCreate := true, rules := Schema.textRules }] ++
        { name := "openingDate", kind := .date, requiredOnCreate := true, rules := [.notNull] } :: [] := by decide
  have hname : Payload.extract {} [("name", .str ""), ("openingDate", .str "soon")] .string "name" = .ok (.str "") := rfl
  have hday : Payload.extract {} [("name", .str ""), ("openingDate", .str "soon")] .date "openingDate" =
      .error (.rejected (.malformedField "openingDate" (.str "soon") "date")) := rfl
  refine ((validate_eq_rejected_iff_firstCause office .update _ (by decide)).1 _).2 (.malformed hread hsound hsplit ?_ ?_)
  · intro q hq
    cases List.mem_singleton.1 hq
    exact ⟨_, hname, by decide⟩
  · exact ⟨_, _, _, hday⟩

end Precedence

end Gate

end Admission
