import Admission.Proofs.Extraction
import Admission.Proofs.Structure
import Admission.Proofs.Tallying

/-!
# What a pass over a command does

A pass is told apart into its steps. A field that is checked is settled, when it can be read and its rules can all look at what
was read, or it ends the pass. The fields end as the first of them that is not settled, and else give all the violations that
they deserve.
-/

namespace Admission

/-! ## What can be told -/

/-- What keeps a violation from being reported is no rejection. -/
theorem Violation.fault?_ne_rejected (v : Violation) (r : Rejection) : v.fault? ≠ some (.rejected r) := by
  unfold fault?
  split
  · simp
  · split
    · simp
    · split
      · simp
      · split <;> simp

/-- Only too many digits keep a limit from being told. -/
theorem Violation.unwritableLimit?_eq {v : Violation} {cause : Unwritable} (h : v.unwritableLimit? = some cause) :
    cause = .longInteger := by
  unfold unwritableLimit? at h
  split at h
  · split at h
    · cases h
    · exact (Option.some.inj h).symm
  · cases h

/-- What keeps a rejection from being told is no rejection. -/
theorem Rejection.fault?_ne_rejected (r r' : Rejection) : r.fault? ≠ some (.rejected r') := by
  cases r with
  | malformedField field value kind => simp [fault?]
  | validationFailed resource violations =>
    rw [fault?]
    intro h
    rcases Option.or_eq_some_iff.1 h with h | ⟨-, h⟩
    · obtain ⟨v, -, hv⟩ := List.exists_of_findSome?_eq_some h
      exact v.fault?_ne_rejected r' hv
    · split at h <;> cases h
  | internal message details => exact (Option.some_ne_none _).symm
  | malformedPayload reason => exact (Option.some_ne_none _).symm
  | unsupportedParameters names => exact (Option.some_ne_none _).symm

/-- A check that rejects ends in the rejection exactly when it can be told. -/
theorem Fault.ofRejection_eq_rejected_iff (r r' : Rejection) : Fault.ofRejection r = .rejected r' ↔ r.fault? = none ∧ r' = r := by
  rw [ofRejection]
  cases h : r.fault? with
  | none => simp [eq_comm]
  | some e =>
    have hne : e ≠ .rejected r' := by
      rintro rfl
      exact r.fault?_ne_rejected r' h
    simpa using hne

namespace Gate

/-! ## The fields of a payload -/

/-- A field is checked: a create command has to have it, or the payload has it. -/
def Checks (mode : Mode) (payload : Payload) (f : Field) : Prop :=
  (mode = .create ∧ f.requiredOnCreate = true) ∨ f.name ∈ payload.names

instance (mode : Mode) (payload : Payload) (f : Field) : Decidable (Checks mode payload f) :=
  inferInstanceAs (Decidable (_ ∨ _))

theorem checks_update_iff (payload : Payload) (f : Field) : Checks .update payload f ↔ f.name ∈ payload.names := by
  simp [Checks]

/-- The fields that are checked, in the order of the schema. -/
def checked (g : Gate) (mode : Mode) (payload : Payload) : List Field :=
  (g.schema.fields mode).filter fun f => decide (Checks mode payload f)

/-- A field is settled: it can be read, and all its rules can look at what was read. -/
def Settled (g : Gate) (payload : Payload) (f : Field) : Prop :=
  ∃ v, payload.extract g.defaults f.kind f.name = .ok v ∧ ∀ r ∈ f.rules, ¬ r.Stops v

/-- The violations that a field of a payload deserves, by its own value alone. -/
def deserved (g : Gate) (payload : Payload) (f : Field) : List Violation :=
  match payload.extract g.defaults f.kind f.name with
  | .ok v => Rule.failures g.schema.resource f.name v f.rules
  | .error _ => []

/-- The violations that a payload deserves: those of each field that is checked, in the order of the schema. -/
def allDeserved (g : Gate) (mode : Mode) (payload : Payload) : List Violation :=
  (g.checked mode payload).flatMap (g.deserved payload)

/-- A field ends a pass: it cannot be read, or one of its rules cannot look at what was read. -/
def Ends (g : Gate) (payload : Payload) (f : Field) (e : Fault) : Prop :=
  payload.extract g.defaults f.kind f.name = .error e ∨
    ∃ v, payload.extract g.defaults f.kind f.name = .ok v ∧ Rule.firstStop? v f.rules = some e

/-- A field is settled, or it ends the pass. -/
theorem settled_or_ends (g : Gate) (payload : Payload) (f : Field) : g.Settled payload f ∨ ∃ e, g.Ends payload f e := by
  cases hv : payload.extract g.defaults f.kind f.name with
  | error e => exact Or.inr ⟨e, Or.inl hv⟩
  | ok v =>
    cases hstop : Rule.firstStop? v f.rules with
    | some e => exact Or.inr ⟨e, Or.inr ⟨v, hv, hstop⟩⟩
    | none => exact Or.inl ⟨v, hv, (Rule.firstStop?_eq_none_iff v f.rules).1 hstop⟩

/-- A mode asks for a field exactly when a create command has to have it. -/
theorem checks_iff (mode : Mode) (payload : Payload) (f : Field) :
    Checks mode payload f ↔ isRequired mode f = true ∨ payload.has f.name = true := by
  simp [Checks, isRequired, Members.has_eq_true_iff]

theorem checkField_of_not_checks {g : Gate} {mode : Mode} {payload : Payload} {f : Field} (hname : f.name ≠ [])
    (h : ¬ Checks mode payload f) : g.checkField mode payload f = .ok [] := by
  rw [checks_iff, not_or, Bool.not_eq_true, Bool.not_eq_true] at h
  simp only [checkField, Payload.checkName, if_neg hname, h.1, h.2]
  rfl

/-- A settled field that is checked gives the violations that it deserves. -/
theorem checkField_of_settled {g : Gate} {mode : Mode} {payload : Payload} {f : Field} (hname : f.name ≠ [])
    (hchecks : Checks mode payload f) (h : g.Settled payload f) :
    g.checkField mode payload f = .ok (g.deserved payload f) := by
  obtain ⟨v, hv, hrules⟩ := h
  have hgo : (!isRequired mode f && !payload.has f.name) = false := by
    rcases (checks_iff mode payload f).1 hchecks with h | h <;> simp [h]
  simp only [checkField, Payload.checkName, if_neg hname, hgo, hv, deserved, bind, Except.bind]
  rw [Rule.judge_of_forall_not_stops _ _ _ _ hrules]
  rfl

/-- A field that is checked and is not settled fails as it ends the pass. -/
theorem checkField_of_ends {g : Gate} {mode : Mode} {payload : Payload} {f : Field} {e : Fault} (hname : f.name ≠ [])
    (hchecks : Checks mode payload f) (h : g.Ends payload f e) : g.checkField mode payload f = .error e := by
  have hgo : (!isRequired mode f && !payload.has f.name) = false := by
    rcases (checks_iff mode payload f).1 hchecks with h | h <;> simp [h]
  simp only [checkField, Payload.checkName, if_neg hname, hgo, bind, Except.bind]
  rcases h with hread | ⟨v, hv, hstop⟩
  · simp only [hread]
    rfl
  · simp only [hv, Rule.judge_eq, hstop]
    rfl

/-- A field that stands in both of two payloads or in neither, and that is read as the same where it is checked, ends alike in both. -/
theorem checkField_eq_of_extract {g : Gate} {mode : Mode} {payload other : Payload} {f : Field}
    (hmem : f.name ∈ payload.names ↔ f.name ∈ other.names)
    (hextract : Checks mode payload f → payload.extract g.defaults f.kind f.name = other.extract g.defaults f.kind f.name) :
    g.checkField mode payload f = g.checkField mode other f := by
  have hhas : payload.has f.name = other.has f.name := (Members.has_eq_has_iff payload other f.name).2 hmem
  by_cases hchecks : Checks mode payload f
  · rw [checkField, checkField, hhas, hextract hchecks]
  · -- Nothing is read of the field, in either payload.
    have hskip : (!isRequired mode f && !payload.has f.name) = true := by
      rw [checks_iff, not_or, Bool.not_eq_true, Bool.not_eq_true] at hchecks
      rw [hchecks.1, hchecks.2]
      rfl
    simp only [checkField, ← hhas, hskip, if_true]

/-- A field that is checked gives violations exactly when it is settled. -/
theorem checkField_isOk_iff {g : Gate} {mode : Mode} {payload : Payload} {f : Field} (hname : f.name ≠ [])
    (hchecks : Checks mode payload f) : (∃ vs, g.checkField mode payload f = .ok vs) ↔ g.Settled payload f := by
  refine ⟨fun ⟨vs, h⟩ => ?_, fun h => ⟨_, checkField_of_settled hname hchecks h⟩⟩
  rcases g.settled_or_ends payload f with hs | ⟨e, he⟩
  · exact hs
  · rw [checkField_of_ends hname hchecks he] at h
    cases h

/-- A field that is checked fails exactly as it ends the pass. -/
theorem checkField_eq_error_iff {g : Gate} {mode : Mode} {payload : Payload} {f : Field} (hname : f.name ≠ [])
    (hchecks : Checks mode payload f) (e : Fault) : g.checkField mode payload f = .error e ↔ g.Ends payload f e := by
  refine ⟨fun h => ?_, checkField_of_ends hname hchecks⟩
  rcases g.settled_or_ends payload f with hs | ⟨e', he⟩
  · rw [checkField_of_settled hname hchecks hs] at h
    cases h
  · rw [checkField_of_ends hname hchecks he] at h
    cases h
    exact he

theorem mem_checked_iff {g : Gate} {mode : Mode} {payload : Payload} {f : Field} :
    f ∈ g.checked mode payload ↔ f ∈ g.schema.fields mode ∧ Checks mode payload f := by
  rw [checked, List.mem_filter, decide_eq_true_eq]

section Fields

variable {g : Gate} {mode : Mode} {payload : Payload}

/-- Only the fields that are checked count. -/
theorem checkFields_eq (hnames : ∀ f ∈ g.schema.fields mode, f.name ≠ []) :
    g.checkFields mode payload =
      ((g.checked mode payload).mapM (g.checkField mode payload)).map List.flatten := by
  have hskip : ∀ f ∈ g.schema.fields mode, decide (Checks mode payload f) = false →
      g.checkField mode payload f = .ok [] := by
    intro f hf hchecks
    exact checkField_of_not_checks (hnames f hf) (of_decide_eq_false hchecks)
  rw [checked, ← flatten_mapM_filter _ _ _ hskip, checkFields]

/-- Fields that are all settled give all the violations that they deserve, in the order of the schema. -/
theorem checkFields_of_settled (hnames : ∀ f ∈ g.schema.fields mode, f.name ≠ [])
    (h : ∀ f ∈ g.checked mode payload, g.Settled payload f) :
    g.checkFields mode payload = .ok (g.allDeserved mode payload) := by
  have hok : ∀ f ∈ g.checked mode payload, g.checkField mode payload f = .ok (g.deserved payload f) := by
    intro f hf
    obtain ⟨hmem, hchecks⟩ := mem_checked_iff.1 hf
    exact checkField_of_settled (hnames f hmem) hchecks (h f hf)
  rw [checkFields_eq hnames, mapM_of_forall_ok _ _ _ hok]
  rfl

/-- The fields give violations exactly when all that are checked are settled, and then those that they deserve. -/
theorem checkFields_eq_ok_iff (hnames : ∀ f ∈ g.schema.fields mode, f.name ≠ []) (violations : List Violation) :
    g.checkFields mode payload = .ok violations ↔
      (∀ f ∈ g.checked mode payload, g.Settled payload f) ∧ violations = g.allDeserved mode payload := by
  constructor
  · intro h
    have hsettled : ∀ f ∈ g.checked mode payload, g.Settled payload f := by
      rw [checkFields_eq hnames] at h
      obtain ⟨vs, hvs, -⟩ := (map_eq_ok_iff _ _ _).1 h
      intro f hf
      obtain ⟨hmem, hchecks⟩ := mem_checked_iff.1 hf
      exact (checkField_isOk_iff (hnames f hmem) hchecks).1 (forall_ok_of_mapM hvs f hf)
    refine ⟨hsettled, ?_⟩
    rw [checkFields_of_settled hnames hsettled] at h
    exact (Except.ok.inj h).symm
  · rintro ⟨hsettled, rfl⟩
    exact checkFields_of_settled hnames hsettled

/-- The fields end as the first of those checked that is not settled. -/
theorem checkFields_eq_error_iff (hnames : ∀ f ∈ g.schema.fields mode, f.name ≠ []) (e : Fault) :
    g.checkFields mode payload = .error e ↔
      ∃ before f after, g.checked mode payload = before ++ f :: after ∧ (∀ q ∈ before, g.Settled payload q) ∧
        g.Ends payload f e := by
  have hname : ∀ f ∈ g.checked mode payload, f.name ≠ [] := fun f hf => hnames f (mem_checked_iff.1 hf).1
  have hchecks : ∀ f ∈ g.checked mode payload, Checks mode payload f := fun f hf => (mem_checked_iff.1 hf).2
  rw [checkFields_eq hnames, map_eq_error_iff, mapM_eq_error_iff]
  constructor
  · rintro ⟨before, f, after, heq, hbefore, hf⟩
    have hmem : f ∈ g.checked mode payload := by simp [heq]
    refine ⟨before, f, after, heq, fun q hq => ?_, (checkField_eq_error_iff (hname f hmem) (hchecks f hmem) e).1 hf⟩
    have hmem : q ∈ g.checked mode payload := by simp [heq, hq]
    exact (checkField_isOk_iff (hname q hmem) (hchecks q hmem)).1 (hbefore q hq)
  · rintro ⟨before, f, after, heq, hbefore, hf⟩
    have hmem : f ∈ g.checked mode payload := by simp [heq]
    refine ⟨before, f, after, heq, fun q hq => ?_, checkField_of_ends (hname f hmem) (hchecks f hmem) hf⟩
    have hmem : q ∈ g.checked mode payload := by simp [heq, hq]
    exact (checkField_isOk_iff (hname q hmem) (hchecks q hmem)).2 (hbefore q hq)

end Fields

/-- A field with a name that cannot be read in a sound payload is malformed, under its own name and kind and with its own raw
value, or it ends in a fault that no client is told. -/
theorem extract_error {g : Gate} {payload : Payload} {f : Field} {e : Fault} (hsound : g.Sound payload)
    (hname : f.name ≠ []) (h : payload.extract g.defaults f.kind f.name = .error e) :
    e = Payload.malformed f.name (payload.get f.name) f.kind ∨
      Payload.Leaks (payload.effectiveFormat g.defaults) f.kind (payload.get f.name) e := by
  rw [Payload.extract_eq_readValue f.kind hname (Payload.dateFormat_eq g.defaults hsound.dateFormat)] at h
  exact Payload.readValue_error h

/-- A payload is judged by its violations. -/
theorem validatePayload_eq (g : Gate) (mode : Mode) (payload : Payload) :
    g.validatePayload mode payload = (g.examinePayload mode payload).bind (verdict g.schema.resource) := rfl

/-- A payload of a sound structure is examined field by field. -/
theorem examinePayload_of_sound {g : Gate} {mode : Mode} {payload : Payload} (h : g.Sound payload) :
    g.examinePayload mode payload = g.checkFields mode payload := by
  rw [examinePayload_eq, checkStructure_of_sound h]
  rfl

/-- Payloads whose structure is checked with the same result, which have the same fields of the schema, and whose fields are read as the
same where they are checked are examined with the same result. -/
theorem examinePayload_eq_of_extract {g : Gate} {mode : Mode} {payload other : Payload}
    (hstructure : g.checkStructure payload = g.checkStructure other)
    (hmem : ∀ f ∈ g.schema.fields mode, f.name ∈ payload.names ↔ f.name ∈ other.names)
    (hextract : ∀ f ∈ g.checked mode payload,
      payload.extract g.defaults f.kind f.name = other.extract g.defaults f.kind f.name) :
    g.examinePayload mode payload = g.examinePayload mode other := by
  have hfields : ∀ f ∈ g.schema.fields mode, g.checkField mode payload f = g.checkField mode other f := by
    intro f hf
    exact checkField_eq_of_extract (hmem f hf) fun hchecks => hextract f (mem_checked_iff.2 ⟨hf, hchecks⟩)
  rw [examinePayload_eq, examinePayload_eq, hstructure, checkFields, checkFields, mapM_congr hfields]

/-! ## The verdict -/

/-- The verdict on violations is a fault exactly when there are some. -/
theorem verdict_eq_error_iff (resource : Text) (violations : List Violation) (e : Fault) :
    verdict resource violations = .error e ↔ violations ≠ [] ∧ e = Fault.ofViolations resource violations := by
  cases violations <;> simp [verdict, eq_comm]

/-- Violations reject a command exactly when they can be reported. -/
theorem ofViolations_eq_rejected_iff (resource : Text) (violations : List Violation) (r : Rejection) :
    Fault.ofViolations resource violations = .rejected r ↔
      (Rejection.validationFailed resource violations).fault? = none ∧ r = .validationFailed resource violations :=
  Fault.ofRejection_eq_rejected_iff _ _

/-- A gate whose reports can be encoded: no surrogate stands in the resource or in the name of a field. -/
structure Reportable (g : Gate) (mode : Mode) : Prop where
  resource : g.schema.resource.isWellFormed = true
  names : ∀ f ∈ g.schema.fields mode, f.name.isWellFormed = true

/-- A gate whose rules carry no limit of more digits than are written. -/
def HasShortLimits (g : Gate) (mode : Mode) : Prop :=
  ∀ f ∈ g.schema.fields mode, ∀ r ∈ f.rules, ∀ n ∈ r.limit, Text.IsShort n

/-- A violation that a field deserves is one of its rules', by its value. -/
theorem exists_of_mem_deserved {g : Gate} {payload : Payload} {f : Field} {v : Violation} (h : v ∈ g.deserved payload f) :
    ∃ value, ∃ r ∈ f.rules, r.Fails value ∧ v = r.violation g.schema.resource f.name value := by
  unfold deserved at h
  split at h
  · next value _ =>
    obtain ⟨r, hr, rfl⟩ := List.mem_map.1 h
    obtain ⟨hmem, hfails⟩ := List.mem_filter.1 hr
    exact ⟨value, r, hmem, of_decide_eq_true hfails, rfl⟩
  · simp at h

/-- A violation that a field deserves has the value as which the field is extracted. -/
theorem isExtracted_of_mem_deserved {g : Gate} {payload : Payload} {f : Field} {v : Violation} (h : v ∈ g.deserved payload f) :
    v.value.IsExtracted := by
  unfold deserved at h
  split at h
  · next value hvalue =>
    obtain ⟨r, -, rfl⟩ := List.mem_map.1 h
    exact Payload.isExtracted_of_extract hvalue
  · cases h

/-- Only the limit of a violation that a payload deserves can keep it from being reported, when the gate's reports can be encoded. -/
theorem fault?_of_mem_allDeserved {g : Gate} {mode : Mode} {payload : Payload} {v : Violation} (h : g.Reportable mode)
    (hv : v ∈ g.allDeserved mode payload) : v.fault? = v.unwritableLimit?.map .unwritable := by
  obtain ⟨f, hf, hv⟩ := List.mem_flatMap.1 hv
  have hextracted := isExtracted_of_mem_deserved hv
  obtain ⟨value, r, -, -, rfl⟩ := exists_of_mem_deserved hv
  have hvalue : Violation.unwritableValue? value = none := by
    cases value with
    | list _ => cases hextracted
    | dict _ => cases hextracted
    | _ => rfl
  have hcode : r.code.isOwn = true := by cases r <;> rfl
  simp only [Violation.fault?, Rule.violation, hvalue, hcode, h.resource, h.names f (mem_checked_iff.1 hf).1, Bool.not_true,
    Bool.and_self, Bool.false_eq_true, if_false, if_true]
  cases Violation.unwritableLimit? _ <;> rfl

/-- What keeps a payload's violations from being reported is a limit of too many digits. -/
theorem ofViolations_allDeserved {g : Gate} {mode : Mode} (hreportable : g.Reportable mode) (payload : Payload) :
    Fault.ofViolations g.schema.resource (g.allDeserved mode payload) =
      if ∃ v ∈ g.allDeserved mode payload, v.unwritableLimit? ≠ none then .unwritable .longInteger
      else .rejected (.validationFailed g.schema.resource (g.allDeserved mode payload)) := by
  have hfault : ∀ v ∈ g.allDeserved mode payload, v.fault? = v.unwritableLimit?.map .unwritable :=
    fun v hv => fault?_of_mem_allDeserved hreportable hv
  split
  · next h =>
    cases hfind : (g.allDeserved mode payload).findSome? Violation.fault? with
    | none =>
      obtain ⟨v, hv, hlimit⟩ := h
      have hnone := List.findSome?_eq_none_iff.1 hfind v hv
      rw [hfault v hv, Option.map_eq_none_iff] at hnone
      exact absurd hnone hlimit
    | some e =>
      obtain ⟨v, hv, he⟩ := List.exists_of_findSome?_eq_some hfind
      rw [hfault v hv, Option.map_eq_some_iff] at he
      obtain ⟨cause, hcause, rfl⟩ := he
      obtain rfl := Violation.unwritableLimit?_eq hcause
      rw [Fault.ofViolations, Fault.ofRejection, Rejection.fault?, hfind]
      rfl
  · next h =>
    refine (ofViolations_eq_rejected_iff _ _ _).2 ⟨?_, rfl⟩
    have hfind : (g.allDeserved mode payload).findSome? Violation.fault? = none := by
      refine List.findSome?_eq_none_iff.2 fun v hv => ?_
      rw [hfault v hv, Option.map_eq_none_iff]
      exact Decidable.byContradiction fun hlimit => h ⟨v, hv, hlimit⟩
    rw [Rejection.fault?, hfind, hreportable.resource]
    rfl

/-- A payload deserves no violation with a limit of too many digits where no rule has one. -/
theorem unwritableLimit?_of_hasShortLimits {g : Gate} {mode : Mode} (hlimits : g.HasShortLimits mode) {payload : Payload}
    {v : Violation} (hv : v ∈ g.allDeserved mode payload) : v.unwritableLimit? = none := by
  obtain ⟨f, hf, hv⟩ := List.mem_flatMap.1 hv
  obtain ⟨value, r, hr, -, rfl⟩ := exists_of_mem_deserved hv
  cases r with
  | maxLength n => exact if_pos (hlimits f (mem_checked_iff.1 hf).1 _ hr n rfl)
  | notBlank => rfl
  | notNull => rfl
  | positive => rfl

/-- What a payload deserves is reported when the gate's reports can be encoded and its limits are short. -/
theorem ofViolations_of_hasShortLimits {g : Gate} {mode : Mode} (hreportable : g.Reportable mode) (hlimits : g.HasShortLimits mode)
    (payload : Payload) :
    Fault.ofViolations g.schema.resource (g.allDeserved mode payload) =
      .rejected (.validationFailed g.schema.resource (g.allDeserved mode payload)) := by
  rw [ofViolations_allDeserved hreportable, if_neg]
  rintro ⟨v, hv, hlimit⟩
  exact hlimit (unwritableLimit?_of_hasShortLimits hlimits hv)

/-! ## The whole pass -/

/-- A text that gives no payload is rejected as a malformed one. -/
theorem read_error {text : Option Text} {e : Fault} (h : Payload.read text = .error e) :
    ∃ reason, e = .rejected (.malformedPayload reason) := by
  unfold Payload.read at h
  split at h
  · exact ⟨_, (Except.error.inj h).symm⟩
  · split at h
    · exact ⟨_, (Except.error.inj h).symm⟩
    · split at h
      · cases h
      · exact ⟨_, (Except.error.inj h).symm⟩
      · exact ⟨_, (Except.error.inj h).symm⟩

/-- A payload fails at its structure, at one of its fields, or by the verdict on its violations. -/
theorem validatePayload_eq_error_iff (g : Gate) (mode : Mode) (payload : Payload) (e : Fault) :
    g.validatePayload mode payload = .error e ↔
      (∃ r, e = .ofRejection r ∧ g.StructureCause payload r) ∨
        g.Sound payload ∧
          (g.checkFields mode payload = .error e ∨
            ∃ violations, g.checkFields mode payload = .ok violations ∧
              verdict g.schema.resource violations = .error e) := by
  rw [← checkStructure_eq_error_iff, ← checkStructure_eq_ok_iff]
  simp only [validatePayload, examinePayload_eq, bind, Except.bind]
  cases g.checkStructure payload with
  | error e' => simp
  | ok u => cases g.checkFields mode payload <;> simp

/-- A payload passes exactly when its structure is sound and its fields give no violation. -/
theorem validatePayload_eq_ok_iff (g : Gate) (mode : Mode) (payload : Payload) :
    g.validatePayload mode payload = .ok () ↔ g.Sound payload ∧ g.checkFields mode payload = .ok [] := by
  rw [← checkStructure_eq_ok_iff]
  simp only [validatePayload, examinePayload_eq, bind, Except.bind]
  cases g.checkStructure payload with
  | error e' => simp
  | ok u =>
    cases g.checkFields mode payload with
    | error e' => simp
    | ok violations => cases violations <;> simp [verdict]

/-- A command fails where its text gives no payload, or as the payload of its text does. -/
theorem validate_eq_error_iff (g : Gate) (mode : Mode) (text : Option Text) (e : Fault) :
    g.validate mode text = .error e ↔
      Payload.read text = .error e ∨
        ∃ payload, Payload.read text = .ok payload ∧ g.validatePayload mode payload = .error e := by
  rw [validate_eq]
  cases Payload.read text <;> simp [Except.bind]

theorem validate_eq_of_read {g : Gate} {mode : Mode} {text : Option Text} {payload : Payload}
    (hread : Payload.read text = .ok payload) : g.validate mode text = g.validatePayload mode payload := by
  rw [validate_eq, hread]
  rfl

/-- A command passes exactly when its text gives a payload that does. -/
theorem validate_eq_ok_iff (g : Gate) (mode : Mode) (text : Option Text) :
    g.validate mode text = .ok () ↔
      ∃ payload, Payload.read text = .ok payload ∧ g.validatePayload mode payload = .ok () := by
  rw [validate_eq]
  cases Payload.read text <;> simp [Except.bind]

end Gate

end Admission