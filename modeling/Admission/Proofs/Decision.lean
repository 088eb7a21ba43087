import Admission.Proofs.Pass

/-!
# Decisions

A pass comes to a decision when it gets through all its fields: it lets the command through, or rejects it with the violations
that it found (`Decides`). Every other end is a fault that stops it on the way. Passes are compared with one another by the
violations on which they decide.
-/

namespace Admission

/-- A pass for a resource ended by a decision on violations: it let the command through when there were none, and rejected it
with all of them when there were some. -/
inductive Decides (resource : Text) : Except Fault Unit → List Violation → Prop where
  | passed : Decides resource (.ok ()) []
  | rejected {violations : List Violation} (h : violations ≠ []) :
    Decides resource (.error (.rejected (.validationFailed resource violations))) violations

/-- A fault is the decision of a pass, and nothing that stopped it on the way. -/
def Fault.IsDecision : Fault → Prop
  | .rejected (.validationFailed ..) => True
  | .rejected (.internal ..) | .rejected (.malformedPayload _) | .rejected (.unsupportedParameters _)
  | .rejected (.malformedField ..) => False
  | .emptyFieldName | .tooManyDigits _ | .partOverflow _ | .repeatedPart | .notComparable _ | .unwritable _ | .foreignCode
  | .illFormedReport => False

theorem Fault.IsDecision.exists_rejected {e : Fault} (h : e.IsDecision) : ∃ r, e = .rejected r := by
  cases e with
  | rejected r => exact ⟨r, rfl⟩
  | _ => cases h

/-- A rejection that is no decision ends a pass in none, whether it can be told or not. -/
theorem Fault.not_isDecision_ofRejection {r : Rejection} (h : ¬ (Fault.rejected r).IsDecision) : ¬ (Fault.ofRejection r).IsDecision := by
  intro hdecision
  obtain ⟨r', heq⟩ := hdecision.exists_rejected
  obtain ⟨-, rfl⟩ := (ofRejection_eq_rejected_iff r r').1 heq
  exact h (heq ▸ hdecision)

theorem Decides.isDecision {resource : Text} {e : Fault} {violations : List Violation}
    (h : Decides resource (.error e) violations) : e.IsDecision := by
  cases h
  trivial

/-- A pass decides on one list of violations only. -/
theorem Decides.unique {resource : Text} {outcome : Except Fault Unit} {violations others : List Violation}
    (h : Decides resource outcome violations) (h' : Decides resource outcome others) : violations = others := by
  cases h <;> cases h' <;> rfl

theorem Decides.eq_ok {resource : Text} {outcome : Except Fault Unit} (h : Decides resource outcome []) : outcome = .ok () := by
  cases h with
  | passed => rfl
  | rejected hne => exact absurd rfl hne

/-- The verdict on violations decides on them, when they can be reported. -/
theorem decides_verdict {resource : Text} {violations : List Violation}
    (h : Fault.ofViolations resource violations = .rejected (.validationFailed resource violations)) :
    Decides resource (verdict resource violations) violations := by
  cases violations with
  | nil => exact .passed
  | cons v rest =>
    rw [(Gate.verdict_eq_error_iff resource (v :: rest) _).2 ⟨by simp, h.symm⟩]
    exact .rejected (by simp)

/-- A verdict that decides does so on the violations that it was given. -/
theorem eq_of_decides_verdict {resource : Text} {violations others : List Violation}
    (h : Decides resource (verdict resource others) violations) : violations = others := by
  cases others with
  | nil =>
    cases h
    rfl
  | cons v rest =>
    generalize houtcome : verdict resource (v :: rest) = outcome at h
    cases h with
    | passed => simp [verdict] at houtcome
    | rejected hne =>
      obtain ⟨-, heq⟩ := (Gate.verdict_eq_error_iff _ _ _).1 houtcome
      obtain ⟨-, heq⟩ := (Gate.ofViolations_eq_rejected_iff _ _ _).1 heq.symm
      exact (Rejection.validationFailed.inj heq).2

theorem Payload.Leaks.not_isDecision {pattern : Text} {kind : FieldKind} {raw : Value} {e : Fault}
    (h : Payload.Leaks pattern kind raw e) : ¬ e.IsDecision := by
  cases h <;> exact id

namespace Gate

variable {g : Gate} {mode : Mode} {payload : Payload}

/-! ## What stops a pass -/

theorem StructureCause.not_isDecision {r : Rejection} (h : g.StructureCause payload r) :
    ¬ (Fault.ofRejection r).IsDecision := by
  cases h <;> exact Fault.not_isDecision_ofRejection id

theorem checkField_of_nameless {f : Field} (hname : f.name = []) :
    g.checkField mode payload f = .error .emptyFieldName := by
  simp only [checkField, Payload.checkName, if_pos hname]
  rfl

/-- How a field of a sound payload stops a pass: it has no name; its raw value is malformed, or leaks a fault that no client is
told; or one of its rules cannot look at what was read. -/
inductive FieldFault (g : Gate) (payload : Payload) (f : Field) : Fault → Prop where
  | nameless (h : f.name = []) : FieldFault g payload f .emptyFieldName
  | malformed : FieldFault g payload f (Payload.malformed f.name (payload.get f.name) f.kind)
  | leaks {e : Fault} (h : Payload.Leaks (payload.effectiveFormat g.defaults) f.kind (payload.get f.name) e) :
    FieldFault g payload f e
  | stops {v : Value} {e : Fault} (h : Rule.firstStop? v f.rules = some e) : FieldFault g payload f e

/-- A field of a sound payload stops a pass in one of these ways only. -/
theorem fieldFault_of_checkField {f : Field} {e : Fault} (hsound : g.Sound payload)
    (h : g.checkField mode payload f = .error e) : g.FieldFault payload f e := by
  by_cases hname : f.name = []
  · rw [checkField_of_nameless hname] at h
    cases h
    exact .nameless hname
  · by_cases hchecks : Checks mode payload f
    · rcases (checkField_eq_error_iff hname hchecks e).1 h with hread | ⟨v, -, hstop⟩
      · rcases extract_error hsound hname hread with rfl | hleaks
        · exact .malformed
        · exact .leaks hleaks
      · exact .stops hstop
    · rw [checkField_of_not_checks hname hchecks] at h
      cases h

/-- What a field stops a pass with is no decision. -/
theorem FieldFault.not_isDecision {f : Field} {e : Fault} (h : g.FieldFault payload f e) : ¬ e.IsDecision := by
  cases h with
  | nameless _ => exact id
  | malformed => exact Fault.not_isDecision_ofRejection id
  | leaks hleaks => exact hleaks.not_isDecision
  | stops hstop =>
    intro hdecision
    obtain ⟨r, rfl⟩ := hdecision.exists_rejected
    exact Rule.firstStop?_ne_rejected _ _ r hstop

/-- The fields of a sound payload stop a pass as one of them does. -/
theorem exists_fieldFault_of_checkFields {e : Fault} (hsound : g.Sound payload) (h : g.checkFields mode payload = .error e) :
    ∃ f, g.FieldFault payload f e := by
  rw [checkFields, map_eq_error_iff, mapM_eq_error_iff] at h
  obtain ⟨-, f, -, -, -, hf⟩ := h
  exact ⟨f, fieldFault_of_checkField hsound hf⟩

/-- What stops a pass before its verdict is no decision. -/
theorem not_isDecision_of_examinePayload {e : Fault} (h : g.examinePayload mode payload = .error e) : ¬ e.IsDecision := by
  rw [examinePayload_eq] at h
  cases hstructure : g.checkStructure payload with
  | error e' =>
    rw [hstructure] at h
    cases h
    obtain ⟨r, rfl, hcause⟩ := (checkStructure_eq_error_iff g payload e).1 hstructure
    exact hcause.not_isDecision
  | ok u =>
    rw [hstructure] at h
    have hsound := (checkStructure_eq_ok_iff g payload).1 hstructure
    obtain ⟨f, hf⟩ := exists_fieldFault_of_checkFields hsound h
    exact hf.not_isDecision

/-! ## Passes that decide -/

theorem field_eq_of_mem_deserved {f : Field} {v : Violation} (h : v ∈ g.deserved payload f) : v.field = f.name := by
  obtain ⟨value, r, -, -, rfl⟩ := exists_of_mem_deserved h
  rfl

/-- The fields of a schema all have names where their check comes through. -/
theorem name_ne_nil_of_checkFields {violations : List Violation} (h : g.checkFields mode payload = .ok violations) :
    ∀ f ∈ g.schema.fields mode, f.name ≠ [] := by
  intro f hf hname
  rw [checkFields] at h
  obtain ⟨found, hfound, -⟩ := (map_eq_ok_iff _ _ _).1 h
  obtain ⟨vs, hvs⟩ := forall_ok_of_mapM hfound f hf
  rw [checkField_of_nameless hname] at hvs
  cases hvs

/-- A payload that is examined to the end has a sound structure, fields with names that are all settled where they are checked,
and the violations that it deserves. -/
theorem of_examinePayload_eq_ok {violations : List Violation} (h : g.examinePayload mode payload = .ok violations) :
    g.Sound payload ∧ (∀ f ∈ g.schema.fields mode, f.name ≠ []) ∧ (∀ f ∈ g.checked mode payload, g.Settled payload f) ∧
      violations = g.allDeserved mode payload := by
  rw [examinePayload_eq] at h
  obtain ⟨u, hstructure, h⟩ := bind_eq_ok_iff.1 h
  have hnames := name_ne_nil_of_checkFields h
  obtain ⟨hsettled, heq⟩ := (checkFields_eq_ok_iff hnames violations).1 h
  exact ⟨(checkStructure_eq_ok_iff g payload).1 hstructure, hnames, hsettled, heq⟩

/-- A pass that decides has examined its payload to the end, and decides on what it found. -/
theorem examinePayload_of_decides {violations : List Violation}
    (h : Decides g.schema.resource (g.validatePayload mode payload) violations) :
    g.examinePayload mode payload = .ok violations := by
  rw [validatePayload_eq] at h
  cases hfound : g.examinePayload mode payload with
  | error e =>
    rw [hfound] at h
    exact absurd h.isDecision (not_isDecision_of_examinePayload hfound)
  | ok found =>
    rw [hfound] at h
    rw [eq_of_decides_verdict h]

/-- A pass that has examined its payload to the end decides on what it found, where the gate's reports can be encoded and its limits
are short. -/
theorem decides_of_examinePayload {violations : List Violation} (hreportable : g.Reportable mode) (hlimits : g.HasShortLimits mode)
    (h : g.examinePayload mode payload = .ok violations) :
    Decides g.schema.resource (g.validatePayload mode payload) violations := by
  obtain ⟨-, -, -, rfl⟩ := of_examinePayload_eq_ok h
  rw [validatePayload_eq, h]
  exact decides_verdict (ofViolations_of_hasShortLimits hreportable hlimits payload)

/-- The commands of a room, which are the same when it is created and when it is updated: a code and a number of seats. -/
def room : Gate :=
  let fields : List Field :=
    [{ name := "code", kind := .string, requiredOnCreate := true, rules := [.notBlank, .maxLength 4] },
      { name := "seats", kind := .integer, requiredOnCreate := true, rules := [.notNull, .positive] }]
  { schema :=
      { resource := "room"
        supported := ["code", "seats"]
        createFields := fields
        updateFields := fields
        name_mem := by decide } }

theorem room_reportable (mode : Mode) : room.Reportable mode := by
  cases mode <;> exact ⟨by decide, by decide⟩

theorem room_hasShortLimits (mode : Mode) : room.HasShortLimits mode := by
  cases mode <;> unfold HasShortLimits <;> decide

end Gate

end Admission
