import Admission.Proofs.Pass

/-!
# Complete reports

A pass whose fields are all settled tells every violation that they deserve, in the order of the schema and of the rules, and
nothing else (`validate_reports_deserved`). There are two exceptions: asking whether a payload has a field without a name is a fault,
even where the field need not be there (`not_reports_nameless`), and a limit of too many digits cannot be written in the message of
its violation.
-/

namespace Admission

namespace Gate

/-- A pass tells exactly what the payload deserves: it lets the command through when that is nothing, and rejects it with the
resource and the whole list when it is something. -/
def Reports (g : Gate) (mode : Mode) (text : Option Text) (payload : Payload) : Prop :=
  (g.allDeserved mode payload = [] → g.validate mode text = .ok ()) ∧
    (g.allDeserved mode payload ≠ [] →
      g.validate mode text = .error (.rejected (.validationFailed g.schema.resource (g.allDeserved mode payload))))

/-- A rule is known by its code and its limit. -/
theorem rule_ext {r q : Rule} (hcode : r.code = q.code) (hlimit : r.limit = q.limit) : r = q := by
  cases r <;> cases q <;> simp_all [Rule.code, Rule.limit]

/-- A field whose rules all differ deserves no violation twice. -/
theorem nodup_deserved (g : Gate) (payload : Payload) (f : Field) (h : f.rules.Nodup) : (g.deserved payload f).Nodup := by
  unfold deserved
  split
  · refine (h.filter _).map fun r q heq => ?_
    exact rule_ext (congrArg Violation.code heq) (congrArg Violation.limit heq)
  · exact List.nodup_nil

/-- A payload deserves no violation twice, where no two fields share a name and no field has a rule twice. -/
theorem nodup_allDeserved (g : Gate) (mode : Mode) (payload : Payload)
    (hnames : ((g.schema.fields mode).map Field.name).Nodup) (hrules : ∀ f ∈ g.schema.fields mode, f.rules.Nodup) :
    (g.allDeserved mode payload).Nodup := by
  have hchecked : ((g.checked mode payload).map Field.name).Nodup :=
    hnames.sublist (List.filter_sublist.map _)
  rw [allDeserved, List.nodup_flatMap]
  refine ⟨fun f hf => nodup_deserved g payload f (hrules f (mem_checked_iff.1 hf).1), ?_⟩
  refine (List.pairwise_map.1 hchecked).imp fun {f q} hne => ?_
  intro v hf hq
  obtain ⟨value, r, -, -, rfl⟩ := exists_of_mem_deserved hf
  obtain ⟨value', r', -, -, heq⟩ := exists_of_mem_deserved hq
  exact hne (congrArg Violation.field heq)

/-- A pass over a payload with a sound structure whose fields are all settled tells exactly what the payload deserves: one
violation for each rule that the value of a checked field fails, in the order of the schema and then of the rules. None is told
twice where no two fields share a name and no field has a rule twice. The names of fields are not empty, and the limits of rules
have no more digits than are written. -/
theorem validate_reports_deserved (g : Gate) (mode : Mode) (text : Option Text) (payload : Payload)
    (hread : Payload.read text = .ok payload) (hstructure : g.checkStructure payload = .ok ())
    (hnames : ∀ f ∈ g.schema.fields mode, f.name ≠ []) (hreportable : g.Reportable mode) (hlimits : g.HasShortLimits mode)
    (hsettled : ∀ f ∈ g.checked mode payload, g.Settled payload f) :
    g.Reports mode text payload ∧
      (((g.schema.fields mode).map Field.name).Nodup → (∀ f ∈ g.schema.fields mode, f.rules.Nodup) →
        (g.allDeserved mode payload).Nodup) := by
  have hsound := (checkStructure_eq_ok_iff g payload).1 hstructure
  have hfields := checkFields_of_settled hnames hsettled
  refine ⟨⟨fun hnil => ?_, fun hne => ?_⟩, nodup_allDeserved g mode payload⟩
  · rw [validate_eq_ok_iff]
    refine ⟨payload, hread, (validatePayload_eq_ok_iff g mode payload).2 ⟨hsound, ?_⟩⟩
    rw [hfields, hnil]
  · rw [validate_eq_error_iff]
    refine Or.inr ⟨payload, hread, (validatePayload_eq_error_iff g mode payload _).2 (Or.inr ⟨hsound, Or.inr ?_⟩)⟩
    exact ⟨_, hfields, (verdict_eq_error_iff _ _ _).2 ⟨hne, (ofViolations_of_hasShortLimits hreportable hlimits payload).symm⟩⟩

/-- The commands of a branch: a code of four letters at most, a capacity that need not be told, and a day of opening. -/
def branch : Gate :=
  { schema :=
      { resource := "branch"
        supported := ["code", "capacity", "openedOn"]
        createFields :=
          [{ name := "code", kind := .string, requiredOnCreate := true, rules := [.notBlank, .maxLength 4] },
            { name := "capacity", kind := .integer, requiredOnCreate := false, rules := [.notNull, .positive] },
            { name := "openedOn", kind := .date, requiredOnCreate := true, rules := [.notNull] }]
        updateFields := []
        name_mem := by decide } }

/-- A branch with too long a code, no capacity and no day deserves three violations, one in each field, and all are told. -/
theorem branch_reports_three :
    branch.Reports .create (some ("\x7b\"capacity\": 0, \"code\": \"B0001\"\x7d" : Text))
        [("capacity", .int 0), ("code", .str "B0001")] ∧
      (branch.allDeserved .create [("capacity", .int 0), ("code", .str "B0001")]).map (fun v => (v.field, v.code)) =
        ([("code", .tooLong), ("capacity", .notPositive), ("openedOn", .required)] : List (Text × RuleCode)) := by
  have hchecked : branch.checked .create [("capacity", .int 0), ("code", .str "B0001")] = branch.schema.createFields := by
    decide
  have hstructure : branch.checkStructure [("capacity", .int 0), ("code", .str "B0001")] = .ok () :=
    checkStructure_of_sound ⟨by decide, .inl rfl, .inl rfl⟩
  have hlimits : branch.HasShortLimits .create := by
    unfold HasShortLimits
    decide
  refine ⟨(validate_reports_deserved branch .create _ _ (by cbv) hstructure (by decide) ⟨by decide, by decide⟩ hlimits ?_).1, rfl⟩
  rw [hchecked]
  intro f hf
  simp only [branch, List.mem_cons, List.not_mem_nil, or_false] at hf
  rcases hf with rfl | rfl | rfl
  · exact ⟨.str "B0001", rfl, by decide⟩
  · exact ⟨.int 0, rfl, by decide⟩
  · exact ⟨.null, rfl, by decide⟩

/-- A gate that knows one member, whose name is empty, and need not have it. -/
def nameless : Gate :=
  { schema :=
      { resource := "record"
        supported := [[]]
        createFields := [{ name := [], kind := .string, requiredOnCreate := false, rules := [] }]
        updateFields := []
        name_mem := by decide } }

/-- A gate that knows one member, which has to be shorter than the negative of a number of too many digits. -/
def longLimit : Gate :=
  { schema :=
      { resource := "record"
        supported := ["mark"]
        createFields := [{ name := "mark", kind := .string, requiredOnCreate := false, rules := [.maxLength (-Text.leastLong)] }]
        updateFields := []
        name_mem := by decide } }

/-- A mark of any length breaks such a limit. -/
theorem allDeserved_longLimit :
    longLimit.allDeserved .create [("mark", .str "x")] =
      [(Rule.maxLength (-Text.leastLong)).violation "record" "mark" (.str "x")] := by
  have hnonneg := Text.leastLong_nonneg
  have hfails : (Rule.maxLength (-Text.leastLong)).Fails (.str "x") := by
    refine ⟨nofun, "x", rfl, ?_⟩
    have hlength : (0 : Int) < ((("x" : Text).length : Nat) : Int) := by decide
    omega
  change [_].flatMap (longLimit.deserved [("mark", .str "x")]) = _
  rw [List.flatMap_singleton]
  change Rule.failures "record" "mark" (.str "x") [.maxLength (-Text.leastLong)] = _
  simp [Rule.failures, hfails]

theorem sound_longLimit : longLimit.Sound [("mark", .str "x")] := ⟨by decide, .inl rfl, .inl rfl⟩

theorem settled_longLimit :
    ∀ f ∈ longLimit.checked .create [("mark", .str "x")], longLimit.Settled [("mark", .str "x")] f := by
  intro f hf
  obtain rfl : f = { name := "mark", kind := .string, requiredOnCreate := false, rules := [.maxLength (-Text.leastLong)] } :=
    List.mem_singleton.1 (List.mem_of_mem_filter hf)
  refine ⟨.str "x", by rfl, fun r hr => ?_⟩
  rw [List.mem_singleton.1 hr]
  exact Bool.false_ne_true

/-- The violation of such a limit is told to no client, because the limit cannot be written. -/
theorem validate_longLimit :
    longLimit.validate .create (some ("\x7b\"mark\": \"x\"\x7d" : Text)) = .error (.unwritable .longInteger) := by
  have hread : Payload.read (some ("\x7b\"mark\": \"x\"\x7d" : Text)) = .ok [("mark", .str "x")] := by cbv
  have hfields := checkFields_of_settled (by decide) settled_longLimit
  have hlong : ¬ Text.IsShort (-Text.leastLong) := by
    rw [Text.isShort_iff, Int.natAbs_neg, ← Text.isShort_iff]
    exact Text.not_isShort_leastLong
  rw [allDeserved_longLimit] at hfields
  rw [validate_eq_of_read hread, validatePayload_eq_error_iff]
  refine .inr ⟨sound_longLimit, .inr ⟨_, hfields, (verdict_eq_error_iff _ _ _).2 ⟨List.cons_ne_nil _ _, ?_⟩⟩⟩
  have hfault : ((Rule.maxLength (-Text.leastLong)).violation "record" "mark" (.str "x")).fault? = some (.unwritable .longInteger) := by
    have hlimit : ((Rule.maxLength (-Text.leastLong)).violation "record" "mark" (.str "x")).unwritableLimit? = some .longInteger :=
      if_neg hlong
    simp only [Violation.fault?, hlimit]
    rfl
  rw [Fault.ofViolations, Fault.ofRejection, Rejection.fault?, List.findSome?_cons, hfault]
  rfl

/-- Neither the condition on names nor that on limits can be left out. The empty payload deserves nothing of a gate whose only field has
no name, and is yet not let through, because a field cannot be looked for by an empty name. A violation of a limit of too many digits is
deserved, and yet not told. -/
theorem not_reports_nameless :
    (¬ ∀ (g : Gate) (mode : Mode) (text : Option Text) (payload : Payload), Payload.read text = .ok payload →
      g.checkStructure payload = .ok () → g.Reportable mode → g.HasShortLimits mode →
      (∀ f ∈ g.checked mode payload, g.Settled payload f) → g.Reports mode text payload) ∧
    ¬ ∀ (g : Gate) (mode : Mode) (text : Option Text) (payload : Payload), Payload.read text = .ok payload →
      g.checkStructure payload = .ok () → (∀ f ∈ g.schema.fields mode, f.name ≠ []) → g.Reportable mode →
      (∀ f ∈ g.checked mode payload, g.Settled payload f) → g.Reports mode text payload := by
  constructor
  · intro h
    have hchecked : nameless.checked .create [] = [] := by decide
    have hdeserved : nameless.allDeserved .create [] = [] := by
      rw [allDeserved, hchecked]
      rfl
    have hlimits : nameless.HasShortLimits .create := by
      unfold HasShortLimits
      decide
    have hread : Payload.read (some ("\x7b\x7d" : Text)) = .ok [] := by cbv
    have hsound : nameless.Sound [] := ⟨by decide, .inl rfl, .inl rfl⟩
    have hpasses := (h nameless .create _ [] hread (checkStructure_of_sound hsound) ⟨by decide, by decide⟩ hlimits
      (by simp [hchecked])).1 hdeserved
    have hfault : nameless.validate .create (some ("\x7b\x7d" : Text)) = .error .emptyFieldName := by
      rw [validate_eq_of_read hread, validatePayload_eq, examinePayload_of_sound hsound]
      rfl
    rw [hfault] at hpasses
    cases hpasses
  · intro h
    have hrejects := (h longLimit .create (some ("\x7b\"mark\": \"x\"\x7d" : Text)) [("mark", .str "x")] (by cbv)
      (checkStructure_of_sound sound_longLimit) (by decide) ⟨by decide, by decide⟩ settled_longLimit).2 (by rw [allDeserved_longLimit]; exact List.cons_ne_nil _ _)
    rw [validate_longLimit] at hrejects
    cases hrejects

end Gate

end Admission
