import Admission.Proofs.Json.Refusal
import Admission.Proofs.Json.RoundTrip
import Admission.Proofs.Precedence

/-!
# What the envelope of a rejection takes over

A rejection takes texts over from the command that it rejects: the names of unsupported members, the value of a malformed field, the
values that broke rules. They are the only texts of its envelope in which a surrogate can stand, so that a gate's rejection can be
told to a client exactly when all of them are well formed (`IsOrdinary.exists_envelope`). What is written of the envelope tells it
(`IsOrdinary.survives_envelope`).
-/

namespace Admission

/-- A violation as a gate finds it: the names of its resource and of its field are well formed, its code is one, its value was
extracted, and the integers that it gives are short. -/
structure Violation.IsOrdinary (v : Violation) : Prop where
  resource : v.resource.isWellFormed = true
  field : v.field.isWellFormed = true
  code : v.code.isOwn = true
  value : v.value.IsExtracted
  short : ∀ n, v.value = .int n → Text.IsShort n
  limit : ∀ n, v.limit = some n → Text.IsShort n

namespace Rejection

/-- The texts that a rejection takes over as they are. -/
def echoed : Rejection → List Text
  | .internal message details => message :: Value.memberTexts details
  | .malformedPayload _ => []
  | .unsupportedParameters names => names
  | .malformedField _ value _ => value.texts
  | .validationFailed _ violations => violations.flatMap fun v => v.value.texts

/-- A rejection can be told: no surrogate stands in a text that it takes over. -/
def Tellable (r : Rejection) : Prop := ∀ s ∈ r.echoed, s.isWellFormed = true

instance (r : Rejection) : Decidable r.Tellable := inferInstanceAs (Decidable (∀ s ∈ r.echoed, _))

/-- A rejection as a gate gives it: what it says in words of its own is well formed, and what it takes over was read from a text of
JSON. -/
def IsOrdinary : Rejection → Prop
  | .internal .. => False
  | .malformedPayload reason => reason.isWellFormed = true
  | .unsupportedParameters _ => True
  | .malformedField field value kind => field.isWellFormed = true ∧ kind.isWellFormed = true ∧ ∃ s, Json.Denotes s value
  | .validationFailed resource violations => resource.isWellFormed = true ∧ ∀ v ∈ violations, v.IsOrdinary

/-- How deep the value of a malformed field is; no other rejection takes a deep value over. -/
def depth : Rejection → Nat
  | .malformedField _ value _ => value.depth
  | .internal .. | .malformedPayload _ | .unsupportedParameters _ | .validationFailed .. => 0

end Rejection

/-! ## Reports -/

namespace Violation

/-- The message of a violation of a field with a well-formed name is well formed. -/
theorem isWellFormed_message {v : Violation} (h : v.field.isWellFormed = true) : v.message.isWellFormed = true := by
  have hlimit : ∀ limit, (limitText limit).isWellFormed = true := by
    intro limit
    cases limit with
    | none => exact Text.isWellFormed_ofString _
    | some n => exact Text.isWellFormed_ofInt n
  unfold message
  cases v.code <;> simp [Text.isWellFormed_concat, Text.isWellFormed_ofString, h, hlimit]

/-- An extracted value is reported in a form that can be written and that has the same texts, but for that of a date. -/
theorem IsOrdinary.writable_reportedValue {v : Violation} (h : v.IsOrdinary) :
    Json.Writable (reportedValue v.value) ∧ (reportedValue v.value).texts.all Text.isWellFormed = v.value.texts.all Text.isWellFormed := by
  have hextracted := h.value
  cases hvalue : v.value with
  | null => exact ⟨Json.writable_null, rfl⟩
  | int n => exact ⟨Json.writable_int (h.short n hvalue), rfl⟩
  | str s => exact ⟨Json.writable_str s, rfl⟩
  | date d =>
    have hdate : (Value.date d).display.isWellFormed = true := Value.isWellFormed_iso d
    refine ⟨Json.writable_str _, ?_⟩
    simp [reportedValue, Value.texts, hdate]
  | bool _ => simp [hvalue, Value.IsExtracted] at hextracted
  | float _ => simp [hvalue, Value.IsExtracted] at hextracted
  | list _ => simp [hvalue, Value.IsExtracted] at hextracted
  | dict _ => simp [hvalue, Value.IsExtracted] at hextracted

/-- The report of an ordinary violation can be written. -/
theorem IsOrdinary.writable_report {v : Violation} (h : v.IsOrdinary) : Json.Writable (.dict v.report) := by
  have hlimit : Json.Writable (limitValue v.limit) := by
    cases hlimit : v.limit with
    | none => exact Json.writable_null
    | some n => exact Json.writable_int (h.limit n hlimit)
  refine Json.writable_dict ?_
  simp [report, Json.writable_str, h.writable_reportedValue.1, hlimit]

/-- A surrogate stands in the report of an ordinary violation only where one stands in its value. -/
theorem IsOrdinary.texts_report {v : Violation} (h : v.IsOrdinary) :
    (Value.memberTexts v.report).all Text.isWellFormed = v.value.texts.all Text.isWellFormed := by
  have hlimit : (limitValue v.limit).texts = [] := by cases v.limit <;> rfl
  have hcode : v.code.name.isWellFormed = true ∧ v.code.keySuffix.isWellFormed = true := by
    have hown := h.code
    cases hcode : v.code with
    | foreign text => simp [hcode, RuleCode.isOwn] at hown
    | _ => decide
  simp [report, Value.memberTexts, Value.texts, Text.isWellFormed_ofString, Text.isWellFormed_concat, messageKey, h.resource, h.field,
    hcode, isWellFormed_message h.field, h.writable_reportedValue.2, hlimit]

/-- The report of an ordinary violation survives being written. -/
theorem IsOrdinary.survives_report {v : Violation} (h : v.IsOrdinary) : Json.Survives .compact (.dict v.report) := by
  have hextracted := h.value
  have hvalue : Json.Survives .compact (reportedValue v.value) := by
    cases hvalue : v.value with
    | null => exact Json.survives_null
    | int n => exact Json.survives_int (h.short n hvalue)
    | str s => exact Json.survives_str s
    | date d => exact Json.survives_str _
    | bool _ => simp [hvalue, Value.IsExtracted] at hextracted
    | float _ => simp [hvalue, Value.IsExtracted] at hextracted
    | list _ => simp [hvalue, Value.IsExtracted] at hextracted
    | dict _ => simp [hvalue, Value.IsExtracted] at hextracted
  have hlimit : Json.Survives .compact (limitValue v.limit) := by
    cases hlimit : v.limit with
    | none => exact Json.survives_null
    | some n => exact Json.survives_int (h.limit n hlimit)
  refine Json.survives_object Json.isReadable_compact ["resource", "field", "code", "message_key", "message", "value", "limit"]
    rfl (by decide) ?_
  simp [report, Json.survives_str, hvalue, hlimit]

theorem depth_reportedValue (v : Value) : (reportedValue v).depth = 0 := by
  cases v <;> rfl

theorem depth_report (v : Violation) : (Value.dict v.report).depth = 1 := by
  have hlimit : (limitValue v.limit).depth = 0 := by
    cases v.limit <;> rfl
  simp [report, Value.depth, Value.memberDepth, depth_reportedValue, hlimit]

end Violation

/-! ## Envelopes -/

namespace Rejection

/-- An envelope can be written when the details of the rejection can. -/
theorem writable_envelope {r : Rejection} (h : ∀ m ∈ r.details, Json.Writable m.2) : Json.Writable (.dict r.envelope) := by
  refine Json.writable_dict ?_
  unfold envelope summary
  split
  · simp [Json.writable_str]
  · simp [Json.writable_str, Json.writable_dict h]

/-- The texts of an envelope are well formed when the code, the message, the key and the texts of the details are. -/
theorem texts_envelope (r : Rejection) :
    (Value.dict r.envelope).texts.all Text.isWellFormed =
      (r.code.isWellFormed && (r.message.isWellFormed && (r.messageKey.isWellFormed &&
        (Value.memberTexts r.details).all Text.isWellFormed))) := by
  unfold envelope summary
  cases hdetails : r.details with
  | nil => simp [Value.texts, Value.memberTexts, Text.isWellFormed_ofString]
  | cons m rest => simp [Value.texts, Value.memberTexts, Text.isWellFormed_ofString]

theorem isWellFormed_code (r : Rejection) : r.code.isWellFormed = true := by
  cases r <;> exact Text.isWellFormed_ofString _

/-- Texts in order are well formed when they are. -/
theorem all_sorted (names : List Text) : (Text.sorted names).all Text.isWellFormed = names.all Text.isWellFormed :=
  (List.mergeSort_perm names Text.precedes).all_eq

theorem itemTexts_map_str (names : List Text) : Value.itemTexts (names.map .str) = names := by
  induction names with
  | nil => rfl
  | cons name rest ih => rw [List.map_cons, Value.itemTexts, ih, Value.texts, List.singleton_append]

/-- The texts of reports are well formed when those of the values are. -/
theorem texts_reports {violations : List Violation} (h : ∀ v ∈ violations, v.IsOrdinary) :
    (Value.itemTexts (violations.map fun v => .dict v.report)).all Text.isWellFormed =
      (violations.flatMap fun v => v.value.texts).all Text.isWellFormed := by
  induction violations with
  | nil => rfl
  | cons v rest ih =>
    obtain ⟨hv, hrest⟩ := List.forall_mem_cons.1 h
    rw [List.map_cons, Value.itemTexts, List.all_append, ih hrest, Value.texts, hv.texts_report, List.flatMap_cons, List.all_append]

/-- The envelope of an ordinary rejection can be written, and a surrogate stands in it exactly when one stands in a text that the
rejection takes over. -/
theorem IsOrdinary.exists_envelope {r : Rejection} (h : r.IsOrdinary) :
    ∃ body, Json.Writes .compact body (.dict r.envelope) ∧ body.isWellFormed = r.echoed.all Text.isWellFormed := by
  suffices hparts : (∀ m ∈ r.details, Json.Writable m.2) ∧
      (r.message.isWellFormed && (r.messageKey.isWellFormed && (Value.memberTexts r.details).all Text.isWellFormed)) =
        r.echoed.all Text.isWellFormed by
    obtain ⟨body, hbody, hwell⟩ := writable_envelope hparts.1
    refine ⟨body, hbody, ?_⟩
    rw [hwell, texts_envelope, isWellFormed_code, Bool.true_and, hparts.2]
  cases r with
  | internal message details => cases h
  | malformedPayload reason =>
    have hreason : reason.isWellFormed = true := h
    simp only [message, messageKey, details, echoed, Text.isWellFormed_ofString]
    by_cases hnil : reason = []
    · simp [hnil, Value.memberTexts]
    · simp [hnil, Value.memberTexts, Value.texts, hreason, Text.isWellFormed_ofString, Json.writable_str]
  | unsupportedParameters names =>
    have hjoin : (Text.join ", " (Text.sorted names)).isWellFormed = names.all Text.isWellFormed := by
      rw [Text.isWellFormed_join (Text.isWellFormed_ofString _), all_sorted]
    have hlist : Json.Writable (.list ((Text.sorted names).map .str)) := by
      refine Json.writable_list ?_
      simp [Json.writable_str]
    constructor
    · simpa [details] using hlist
    · simp [message, messageKey, details, echoed, Text.isWellFormed_concat, Text.isWellFormed_ofString, Value.memberTexts,
        Value.texts, itemTexts_map_str, hjoin, all_sorted]
  | malformedField field value kind =>
    obtain ⟨hfield, hkind, s, hs⟩ := h
    constructor
    · simp [details, Json.writable_str, Json.writable_of_denotes hs]
    · simp [message, messageKey, details, echoed, Text.isWellFormed_concat, Text.isWellFormed_ofString, Value.memberTexts,
        Value.texts, hfield, hkind, Value.isWellFormed_literal]
  | validationFailed resource violations =>
    obtain ⟨hresource, hviolations⟩ := h
    have hlist : Json.Writable (.list (violations.map fun v => .dict v.report)) := by
      refine Json.writable_list ?_
      intro w hw
      obtain ⟨v, hv, rfl⟩ := List.mem_map.1 hw
      exact (hviolations v hv).writable_report
    constructor
    · simp [details, Json.writable_str, hlist]
    · simp [message, messageKey, details, echoed, Text.isWellFormed_ofString, Value.memberTexts, Value.texts, hresource,
        texts_reports hviolations]

/-- The details of an ordinary rejection survive. -/
theorem IsOrdinary.survives_details {r : Rejection} (h : r.IsOrdinary) : Json.Survives .compact (.dict r.details) := by
  cases r with
  | internal message details => cases h
  | malformedPayload reason =>
    rw [details]
    split
    · exact Json.survives_object Json.isReadable_compact [] rfl (by simp) (by simp)
    · exact Json.survives_object Json.isReadable_compact ["reason"] rfl (by simp) (by simp [Json.survives_str])
  | unsupportedParameters names =>
    have hlist : Json.Survives .compact (.list ((Text.sorted names).map .str)) := by
      refine Json.survives_list Json.isReadable_compact ?_
      simp [Json.survives_str]
    exact Json.survives_object Json.isReadable_compact ["parameters"] rfl (by simp) (by simpa [details] using hlist)
  | malformedField field value kind =>
    obtain ⟨-, -, s, hs⟩ := h
    have hvalue : Json.Survives .compact value := Json.survives_of_denotes Json.isReadable_compact hs
    refine Json.survives_object Json.isReadable_compact ["field", "value", "kind"] rfl (by decide) ?_
    simpa [details, Json.survives_str] using hvalue
  | validationFailed resource violations =>
    have hlist : Json.Survives .compact (.list (violations.map fun v => .dict v.report)) := by
      refine Json.survives_list Json.isReadable_compact ?_
      intro w hw
      obtain ⟨v, hv, rfl⟩ := List.mem_map.1 hw
      exact (h.2 v hv).survives_report
    refine Json.survives_object Json.isReadable_compact ["resource", "errors"] rfl (by decide) ?_
    simpa [details, Json.survives_str] using hlist

/-- The envelope of an ordinary rejection survives. -/
theorem IsOrdinary.survives_envelope {r : Rejection} (h : r.IsOrdinary) : Json.Survives .compact (.dict r.envelope) := by
  unfold envelope
  split
  · refine Json.survives_object Json.isReadable_compact ["code", "message", "message_key"] rfl (by decide) ?_
    simp [summary, Json.survives_str]
  · refine Json.survives_object Json.isReadable_compact ["code", "message", "message_key", "details"] rfl (by decide) ?_
    simp [summary, Json.survives_str, h.survives_details]

/-- The envelope of an ordinary rejection is no deeper than four levels, or two more than the value that it takes over. -/
theorem IsOrdinary.depth_envelope_le {r : Rejection} (h : r.IsOrdinary) : (Value.dict r.envelope).depth ≤ max 4 (r.depth + 2) := by
  have hstr : ∀ s : Text, (Value.str s).depth = 0 := fun _ => rfl
  have hdetails : (Value.dict r.details).depth ≤ max 3 (r.depth + 1) := by
    cases r with
    | internal message details => cases h
    | malformedPayload reason =>
      rw [details]
      split <;> simp [Value.depth, Value.memberDepth]
    | unsupportedParameters names =>
      have hitems : Value.itemDepth ((Text.sorted names).map .str) ≤ 0 := by
        rw [Value.itemDepth_le_iff]
        simp [hstr]
      simp [details, Value.depth, Value.memberDepth]
      omega
    | malformedField field value kind =>
      simp [details, Value.depth, Value.memberDepth, depth]
    | validationFailed resource violations =>
      have hitems : Value.itemDepth (violations.map fun v => .dict v.report) ≤ 1 := by
        rw [Value.itemDepth_le_iff]
        simp [Violation.depth_report]
      simp [details, Value.depth, Value.memberDepth]
      omega
  unfold envelope
  split
  · simp [summary, Value.depth, Value.memberDepth]
  · simp only [summary, List.concat_eq_append, List.cons_append, List.nil_append, Value.depth, Value.memberDepth] at hdetails ⊢
    omega

/-- The envelope of an ordinary rejection may be as deep as it is when what it takes over is no deeper than a hundred and fifty
levels. -/
theorem IsOrdinary.depth_envelope_le_nestingLimit {r : Rejection} (h : r.IsOrdinary) (hdepth : r.depth ≤ 150) :
    (Value.dict r.envelope).depth ≤ nestingLimit := by
  have hlevels := h.depth_envelope_le
  rw [nestingLimit]
  omega

end Rejection

/-! ## The rejections of a gate -/

namespace Gate

variable {g : Gate} {mode : Mode} {text : Option Text}

/-- What a payload that was read deserves is ordinary when the reports of the gate can be encoded and its limits are short. -/
theorem isOrdinary_of_mem_allDeserved (hreportable : g.Reportable mode) (hlimits : g.HasShortLimits mode) {payload : Payload}
    (hread : Payload.read text = .ok payload) {v : Violation} (h : v ∈ g.allDeserved mode payload) : v.IsOrdinary := by
  obtain ⟨f, hf, hv⟩ := List.mem_flatMap.1 h
  have hfield : f ∈ g.schema.fields mode := (mem_checked_iff.1 hf).1
  unfold deserved at hv
  split at hv
  · next value hvalue =>
    obtain ⟨r, hr, rfl⟩ := List.mem_map.1 hv
    exact {
      resource := hreportable.resource
      field := hreportable.names f hfield
      code := by cases r <;> rfl
      value := Payload.isExtracted_of_extract hvalue
      short := by
        rintro n rfl
        exact Payload.isShort_of_extract hread hvalue
      limit := fun n hn => hlimits f hfield r (List.mem_filter.1 hr).1 n (Option.mem_def.2 hn) }
  · cases hv

/-- A rejection is ordinary when the names of the gate's fields are not empty, its reports can be encoded and its limits are short. -/
theorem isOrdinary_of_validate (hnames : ∀ f ∈ g.schema.fields mode, f.name ≠ []) (hreportable : g.Reportable mode)
    (hlimits : g.HasShortLimits mode) {r : Rejection} (h : g.validate mode text = .error (.rejected r)) : r.IsOrdinary := by
  cases firstCause_of_validate hnames h with
  | unread hread => exact Payload.isWellFormed_of_read hread
  | unsound hread hcause =>
    cases hcause with
    | unsupported _ => trivial
    | dateFormat _ _ => exact ⟨Text.isWellFormed_ofString _, Text.isWellFormed_ofString _, Payload.exists_denotes_get hread _⟩
    | locale _ _ _ => exact ⟨Text.isWellFormed_ofString _, Text.isWellFormed_ofString _, Payload.exists_denotes_get hread _⟩
  | @malformed payload before after f hread _ hsplit _ _ =>
    have hmem : f ∈ g.checked mode payload := by simp [hsplit]
    have hkind : f.kind.name.isWellFormed = true := by
      cases f.kind <;> exact Text.isWellFormed_ofString _
    exact ⟨hreportable.names f (mem_checked_iff.1 hmem).1, hkind, Payload.exists_denotes_get hread _⟩
  | deserved hread _ _ _ _ => exact ⟨hreportable.resource, fun v hv => isOrdinary_of_mem_allDeserved hreportable hlimits hread hv⟩

end Gate

end Admission
