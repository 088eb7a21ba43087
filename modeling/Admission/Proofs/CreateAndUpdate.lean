import Admission.Proofs.Decision

/-!
# Creating against updating

A schema that describes the same fields for both modes is stricter when it creates, and only about what is absent. Both passes
stop for the same faults, and where they decide the update decides on the violations of the create that stand at a member of the
payload (`validate_update_of_create`).
-/

namespace Admission

namespace Gate

/-- A violation stands at a member that the payload has. -/
def AtMember (payload : Payload) (v : Violation) : Prop := v.field ∈ payload.names

instance (payload : Payload) : DecidablePred (AtMember payload) := fun v => inferInstanceAs (Decidable (v.field ∈ payload.names))

/-- The violations that stand at a member of a payload, in order. -/
def atMembers (payload : Payload) (violations : List Violation) : List Violation :=
  violations.filter fun v => decide (AtMember payload v)

section Fields

variable {g : Gate} {payload : Payload} {f : Field}

/-- An absent field is read as nothing, whatever the date format is. -/
theorem extract_of_absent (defaults : Defaults) (kind : FieldKind) {name : Text} (hname : name ≠ [])
    (h : name ∉ payload.names) : payload.extract defaults kind name = .ok .null := by
  have hcheck : Payload.checkName name = .ok () := by rw [Payload.checkName, if_neg hname]
  have hget : payload.get name = .null := Members.get_of_not_mem h
  cases kind with
  | string =>
    simp only [Payload.extract, Payload.textField, hcheck, hget]
    rfl
  | integer =>
    simp only [Payload.extract, Payload.integerField, hcheck, hget]
    rfl
  | date =>
    simp only [Payload.extract, Payload.dateField, hcheck, hget]
    rfl

/-- An absent field is settled: every rule can look at nothing. -/
theorem settled_of_absent (hname : f.name ≠ []) (h : f.name ∉ payload.names) : g.Settled payload f := by
  refine ⟨.null, extract_of_absent g.defaults f.kind hname h, fun r _ => ?_⟩
  rw [Rule.not_stops_iff]
  cases r <;> rfl

/-- What a field that is there deserves stands at a member. -/
theorem atMembers_deserved_of_mem (h : f.name ∈ payload.names) :
    atMembers payload (g.deserved payload f) = g.deserved payload f := by
  refine List.filter_eq_self.2 fun v hv => ?_
  have hfield := field_eq_of_mem_deserved hv
  exact decide_eq_true (by rw [AtMember, hfield]; exact h)

/-- What an absent field deserves stands at no member. -/
theorem atMembers_deserved_of_absent (h : f.name ∉ payload.names) : atMembers payload (g.deserved payload f) = [] := by
  refine List.filter_eq_nil_iff.2 fun v hv hat => ?_
  have hfield := field_eq_of_mem_deserved hv
  have hmem : v.field ∈ payload.names := of_decide_eq_true hat
  rw [hfield] at hmem
  exact h hmem

/-- One field in an update: it stops the pass as in a create, or gives those of its violations that stand at a member. -/
theorem checkField_update (g : Gate) (payload : Payload) (f : Field) :
    g.checkField .update payload f = (g.checkField .create payload f).map (atMembers payload) := by
  by_cases hname : f.name = []
  · rw [checkField_of_nameless hname, checkField_of_nameless hname]
    rfl
  by_cases hmem : f.name ∈ payload.names
  · have hupdate : Checks .update payload f := Or.inr hmem
    have hcreate : Checks .create payload f := Or.inr hmem
    rcases g.settled_or_ends payload f with hsettled | ⟨e, hends⟩
    · rw [checkField_of_settled hname hupdate hsettled, checkField_of_settled hname hcreate hsettled, Except.map,
        atMembers_deserved_of_mem hmem]
    · rw [checkField_of_ends hname hupdate hends, checkField_of_ends hname hcreate hends]
      rfl
  · have hupdate : ¬ Checks .update payload f := by
      rintro (⟨hmode, -⟩ | h)
      · cases hmode
      · exact hmem h
    rw [checkField_of_not_checks hname hupdate]
    by_cases hcreate : Checks .create payload f
    · rw [checkField_of_settled hname hcreate (settled_of_absent hname hmem), Except.map, atMembers_deserved_of_absent hmem]
    · rw [checkField_of_not_checks hname hcreate]
      rfl

/-- A traversal whose every item gives a part of what it gives in another one: both fail alike, or the joined results are such a
part. -/
theorem flatten_mapM_of_filter {α β ε : Type} (f f' : α → Except ε (List β)) (p : β → Bool) (xs : List α)
    (h : ∀ x ∈ xs, f' x = (f x).map (List.filter p)) :
    (xs.mapM f').map List.flatten = ((xs.mapM f).map List.flatten).map (List.filter p) := by
  induction xs with
  | nil => rfl
  | cons x xs ih =>
    have ih := ih fun y hy => h y (List.mem_cons_of_mem x hy)
    rw [mapM_cons_eq, mapM_cons_eq, h x List.mem_cons_self]
    cases f x with
    | error e => rfl
    | ok b =>
      cases hxs : xs.mapM f with
      | error e =>
        rw [hxs] at ih
        cases hxs' : xs.mapM f' with
        | error e' =>
          rw [hxs'] at ih
          exact ih
        | ok bs =>
          rw [hxs'] at ih
          cases ih
      | ok bs =>
        rw [hxs] at ih
        cases hxs' : xs.mapM f' with
        | error e' =>
          rw [hxs'] at ih
          cases ih
        | ok bs' =>
          rw [hxs'] at ih
          have hjoined : bs'.flatten = bs.flatten.filter p := Except.ok.inj ih
          simp only [Except.map, List.flatten_cons, List.filter_append, hjoined]

/-- The fields in an update, where a schema describes the same ones for both modes. -/
theorem checkFields_update (hsame : g.schema.updateFields = g.schema.createFields) (payload : Payload) :
    g.checkFields .update payload = (g.checkFields .create payload).map (atMembers payload) := by
  have hfields : g.schema.fields .update = g.schema.fields .create := hsame
  rw [checkFields, checkFields, hfields]
  exact flatten_mapM_of_filter _ _ _ _ fun f _ => checkField_update g payload f

/-- A payload that updates is examined as one that creates, but for the violations that stand at no member. -/
theorem examinePayload_update (hsame : g.schema.updateFields = g.schema.createFields) (payload : Payload) :
    g.examinePayload .update payload = (g.examinePayload .create payload).map (atMembers payload) := by
  rw [examinePayload_eq, examinePayload_eq, checkFields_update hsame]
  cases g.checkStructure payload <;> rfl

/-- A violation whose limit cannot be told stands at a member: nothing is never too long. -/
theorem atMember_of_unwritableLimit {mode : Mode} (hnames : ∀ f ∈ g.schema.fields mode, f.name ≠ []) {v : Violation}
    (hv : v ∈ g.allDeserved mode payload) (hlimit : v.unwritableLimit? ≠ none) : AtMember payload v := by
  obtain ⟨f, hf, hv⟩ := List.mem_flatMap.1 hv
  refine Decidable.byContradiction fun habsent => ?_
  rw [AtMember, field_eq_of_mem_deserved hv] at habsent
  have hextract := extract_of_absent g.defaults f.kind (hnames f (mem_checked_iff.1 hf).1) habsent
  simp only [deserved, hextract] at hv
  obtain ⟨r, hr, rfl⟩ := List.mem_map.1 hv
  cases r with
  | maxLength n => exact (of_decide_eq_true (List.mem_filter.1 hr).2 : (Rule.maxLength n).Fails .null).1 rfl
  | notBlank => exact hlimit rfl
  | notNull => exact hlimit rfl
  | positive => exact hlimit rfl

/-- Where a limit cannot be told, it is one of both passes. -/
theorem exists_unwritableLimit_atMembers_iff {mode : Mode} (hnames : ∀ f ∈ g.schema.fields mode, f.name ≠ []) :
    (∃ v ∈ atMembers payload (g.allDeserved mode payload), v.unwritableLimit? ≠ none) ↔
      ∃ v ∈ g.allDeserved mode payload, v.unwritableLimit? ≠ none := by
  constructor
  · rintro ⟨v, hv, hlimit⟩
    exact ⟨v, List.mem_of_mem_filter hv, hlimit⟩
  · rintro ⟨v, hv, hlimit⟩
    exact ⟨v, List.mem_filter.2 ⟨hv, decide_eq_true (atMember_of_unwritableLimit hnames hv hlimit)⟩, hlimit⟩

/-- Both passes over a payload are stopped by the same fault, which is no decision, or both decide. -/
theorem validatePayload_update (hsame : g.schema.updateFields = g.schema.createFields) (hcreatable : g.Reportable .create)
    (hupdatable : g.Reportable .update) (payload : Payload) :
    (∃ e, ¬ e.IsDecision ∧ g.validatePayload .create payload = .error e ∧ g.validatePayload .update payload = .error e) ∨
      ∃ violations, Decides g.schema.resource (g.validatePayload .create payload) violations ∧
        Decides g.schema.resource (g.validatePayload .update payload) (atMembers payload violations) := by
  have hexamined := examinePayload_update hsame payload
  cases hcreate : g.examinePayload .create payload with
  | error e =>
    rw [hcreate] at hexamined
    refine .inl ⟨e, not_isDecision_of_examinePayload hcreate, ?_, ?_⟩
    · rw [validatePayload_eq, hcreate]
      rfl
    · rw [validatePayload_eq, hexamined]
      rfl
  | ok violations =>
    rw [hcreate] at hexamined
    obtain ⟨-, hnames, -, rfl⟩ := of_examinePayload_eq_ok hcreate
    obtain ⟨-, -, -, hupdated⟩ := of_examinePayload_eq_ok hexamined
    have hofCreate := ofViolations_allDeserved hcreatable payload
    have hofUpdate := ofViolations_allDeserved hupdatable payload
    rw [← hupdated] at hofUpdate
    rw [validatePayload_eq, validatePayload_eq, hcreate, hexamined]
    by_cases hlong : ∃ v ∈ g.allDeserved .create payload, v.unwritableLimit? ≠ none
    · -- The violation with the limit is one of both passes, and neither can report it.
      have hupdateLong := (exists_unwritableLimit_atMembers_iff hnames).2 hlong
      rw [if_pos hlong] at hofCreate
      rw [if_pos hupdateLong] at hofUpdate
      obtain ⟨v, hv, -⟩ := hlong
      obtain ⟨w, hw, -⟩ := hupdateLong
      exact .inl ⟨.unwritable .longInteger, id, (verdict_eq_error_iff _ _ _).2 ⟨List.ne_nil_of_mem hv, hofCreate.symm⟩,
        (verdict_eq_error_iff _ _ _).2 ⟨List.ne_nil_of_mem hw, hofUpdate.symm⟩⟩
    · rw [if_neg hlong] at hofCreate
      rw [if_neg fun hupdateLong => hlong ((exists_unwritableLimit_atMembers_iff hnames).1 hupdateLong)] at hofUpdate
      exact .inr ⟨_, decides_verdict hofCreate, decides_verdict hofUpdate⟩

end Fields

/-- Creating against updating, in two parts, for a gate that describes the same fields for both modes and whose reports can be
encoded.
1. Both passes over a command are stopped by the same fault, which is no decision; or both decide, and the update does so on the
   violations of the create that stand at a member of the payload, in their order.
2. So a command that may create may update. -/
theorem validate_update_of_create (g : Gate) (hsame : g.schema.updateFields = g.schema.createFields)
    (hreportable : g.Reportable .create) (text : Option Text) :
    ((∃ e, ¬ e.IsDecision ∧ g.validate .create text = .error e ∧ g.validate .update text = .error e) ∨
        ∃ payload violations, Payload.read text = .ok payload ∧
          Decides g.schema.resource (g.validate .create text) violations ∧
          Decides g.schema.resource (g.validate .update text) (atMembers payload violations)) ∧
      (g.validate .create text = .ok () → g.validate .update text = .ok ()) := by
  have hupdatable : g.Reportable .update := by
    refine ⟨hreportable.resource, fun f hf => hreportable.names f ?_⟩
    exact (congrArg (f ∈ ·) hsame).mp hf
  have hends : (∃ e, ¬ e.IsDecision ∧ g.validate .create text = .error e ∧ g.validate .update text = .error e) ∨
      ∃ payload violations, Payload.read text = .ok payload ∧
        Decides g.schema.resource (g.validate .create text) violations ∧
        Decides g.schema.resource (g.validate .update text) (atMembers payload violations) := by
    simp only [validate_eq]
    cases hread : Payload.read text with
    | error e =>
      obtain ⟨reason, rfl⟩ := read_error hread
      exact .inl ⟨_, id, rfl, rfl⟩
    | ok payload =>
      rcases validatePayload_update hsame hreportable hupdatable payload with hstopped | ⟨violations, hdecide⟩
      · exact .inl hstopped
      · exact .inr ⟨payload, violations, rfl, hdecide⟩
  refine ⟨hends, fun hpasses => ?_⟩
  rcases hends with ⟨e, -, hcreate, -⟩ | ⟨payload, violations, -, hcreate, hupdate⟩
  · rw [hpasses] at hcreate
    cases hcreate
  · rw [hpasses] at hcreate
    cases hcreate
    exact hupdate.eq_ok

/-- A room of no seats and without a code: a create tells both violations, and an update the one at the member that is there. -/
theorem room_update_of_create :
    Decides "room" (room.validate .create (some ("\x7b\"seats\": 0\x7d" : Text)))
        [Rule.notBlank.violation "room" "code" .null, Rule.positive.violation "room" "seats" (.int 0)] ∧
      Decides "room" (room.validate .update (some ("\x7b\"seats\": 0\x7d" : Text)))
        [Rule.positive.violation "room" "seats" (.int 0)] := by
  have hread : Payload.read (some ("\x7b\"seats\": 0\x7d" : Text)) = .ok [("seats", .int 0)] := by cbv
  have hfound : room.examinePayload .create [("seats", .int 0)] =
      .ok [Rule.notBlank.violation "room" "code" .null, Rule.positive.violation "room" "seats" (.int 0)] := by
    rw [examinePayload_of_sound ⟨by decide, .inl rfl, .inl rfl⟩]
    rfl
  have hdecides : Decides "room" (room.validate .create (some ("\x7b\"seats\": 0\x7d" : Text)))
      [Rule.notBlank.violation "room" "code" .null, Rule.positive.violation "room" "seats" (.int 0)] := by
    rw [validate_eq, hread]
    exact decides_of_examinePayload (room_reportable .create) (room_hasShortLimits .create) hfound
  refine ⟨hdecides, ?_⟩
  rcases (validate_update_of_create room rfl (room_reportable .create) (some ("\x7b\"seats\": 0\x7d" : Text))).1 with
    ⟨e, hstopped, hcreate, -⟩ | ⟨payload, violations, hread', hcreate, hupdate⟩
  · rw [hcreate] at hdecides
    exact absurd hdecides.isDecision hstopped
  · rw [hread] at hread'
    cases hread'
    cases hdecides.unique hcreate
    have hthere : atMembers [("seats", .int 0)]
        [Rule.notBlank.violation "room" "code" .null, Rule.positive.violation "room" "seats" (.int 0)] =
          [Rule.positive.violation "room" "seats" (.int 0)] := rfl
    rw [hthere] at hupdate
    exact hupdate

end Gate

end Admission
