import Admission.Proofs.Decision
import Admission.Proofs.TextOrder

/-!
# The members that a payload may have

A schema lists the members that a payload may have, and describes no field that is not among them. A payload with other members is
rejected for them before anything that they or the fields hold is looked at: the rejection tells exactly these members, each once and
in the order of code points (`rejects_unsupported_iff`).
-/

namespace Admission

/-- What is told of names that are not all supported: those that are not, each once, in the order of code points. -/
structure TellsUnsupported (supported names told : List Text) : Prop where
  mem_iff : ∀ name, name ∈ told ↔ name ∈ names ∧ name ∉ supported
  ascending : told.Pairwise Text.Before

/-- Names have one such list, which depends on neither their order nor their number. -/
theorem TellsUnsupported.unique {supported names others told told' : List Text} (h : TellsUnsupported supported names told)
    (h' : TellsUnsupported supported others told') (hsame : ∀ name, name ∈ names ↔ name ∈ others) : told = told' := by
  refine Text.eq_of_pairwise_before h.ascending h'.ascending ?_
  intro name
  rw [h.mem_iff, h'.mem_iff, hsame]

namespace Schema

/-! ## The description of a schema -/

section Description

variable {resource : Text} {supported : List Text} {createFields updateFields : List Field}

/-- The first field of a description whose name is not supported, and what stands before it and behind it. -/
theorem find?_unsupported_iff (fields : List Field) (f : Field) :
    fields.find? (fun f => !supported.contains f.name) = some f ↔
      ∃ before after, fields = before ++ f :: after ∧ (∀ q ∈ before, q.name ∈ supported) ∧ f.name ∉ supported := by
  rw [List.find?_eq_some_iff_append]
  constructor
  · rintro ⟨hf, before, after, hsplit, hbefore⟩
    exact ⟨before, after, hsplit, fun q hq => by simpa using hbefore q hq, by simpa using hf⟩
  · rintro ⟨before, after, hsplit, hbefore, hf⟩
    exact ⟨by simpa using hf, before, after, hsplit, fun q hq => by simpa using hbefore q hq⟩

/-- A description gives no schema exactly when a field has a name that is not supported, and the first such field, of the create
and then of the update fields, is the one that is told. -/
theorem ofFields_eq_error_iff (fault : SchemaFault) :
    ofFields resource supported createFields updateFields = .error fault ↔
      ∃ before f after, createFields ++ updateFields = before ++ f :: after ∧ (∀ q ∈ before, q.name ∈ supported) ∧
        f.name ∉ supported ∧ fault = .unsupportedField resource f.name := by
  unfold ofFields
  split
  · next f hfound =>
    constructor
    · intro h
      cases h
      obtain ⟨before, after, hsplit, hbefore, hf⟩ := (find?_unsupported_iff _ f).1 hfound
      exact ⟨before, f, after, hsplit, hbefore, hf, rfl⟩
    · rintro ⟨before, q, after, hsplit, hbefore, hq, rfl⟩
      have hfirst := (find?_unsupported_iff _ q).2 ⟨before, after, hsplit, hbefore, hq⟩
      rw [hfound] at hfirst
      cases hfirst
      rfl
  · next hnone =>
    constructor
    · intro h
      cases h
    · rintro ⟨before, q, after, hsplit, hbefore, hq, rfl⟩
      have hfirst := (find?_unsupported_iff _ q).2 ⟨before, after, hsplit, hbefore, hq⟩
      rw [hnone] at hfirst
      cases hfirst

/-- The schema of a description has its resource, its supported names and its fields. -/
theorem eq_of_ofFields {s : Schema} (h : ofFields resource supported createFields updateFields = .ok s) :
    s.resource = resource ∧ s.supported = supported ∧ s.createFields = createFields ∧ s.updateFields = updateFields := by
  unfold ofFields at h
  split at h
  · cases h
  · cases h
    exact ⟨rfl, rfl, rfl, rfl⟩

/-- The fields of a description that gives a schema all have names that are supported. -/
theorem name_mem_of_ofFields {s : Schema} (h : ofFields resource supported createFields updateFields = .ok s) :
    ∀ f ∈ createFields ++ updateFields, f.name ∈ supported := by
  obtain ⟨-, rfl, rfl, rfl⟩ := eq_of_ofFields h
  exact s.name_mem

/-- A description gives a schema exactly when all its fields have names that are supported. -/
theorem exists_ofFields_iff :
    (∃ s, ofFields resource supported createFields updateFields = .ok s) ↔
      ∀ f ∈ createFields ++ updateFields, f.name ∈ supported := by
  constructor
  · rintro ⟨s, hs⟩
    exact name_mem_of_ofFields hs
  · intro h
    cases hresult : ofFields resource supported createFields updateFields with
    | ok s => exact ⟨s, rfl⟩
    | error fault =>
      obtain ⟨before, f, after, hsplit, -, hf, -⟩ := (ofFields_eq_error_iff fault).1 hresult
      exact absurd (h f (by simp [hsplit])) hf

end Description

/-! ## The names that are not supported -/

/-- A list from which repetitions are erased holds nothing twice. -/
theorem nodup_eraseDups (names : List Text) : names.eraseDups.Nodup := by
  induction names using List.reverseRecOn with
  | nil => exact List.nodup_nil
  | append_singleton names name ih =>
    rw [List.eraseDups_append, List.removeAll]
    by_cases h : name ∈ names
    · rw [List.filter_cons_of_neg (by simpa using h)]
      simpa using ih
    · rw [List.filter_cons_of_pos (by simpa using h)]
      refine ih.append (List.nodup_singleton name) ?_
      exact List.disjoint_singleton.2 fun hmem => h (List.mem_eraseDups.1 hmem)

/-- A schema tells the names that it does not support, each once and in order. -/
theorem tellsUnsupported_unsupported (s : Schema) (names : List Text) :
    TellsUnsupported s.supported names (s.unsupported names) := by
  refine ⟨mem_unsupported_iff s names, ?_⟩
  exact Text.pairwise_before_sorted ((nodup_eraseDups names).filter _)

end Schema

theorem Rejection.details_unsupportedParameters {names : List Text} (h : names.Pairwise Text.Before) :
    (Rejection.unsupportedParameters names).details = ([("parameters", .list (names.map .str))] : Members) := by
  rw [details, Text.sorted_of_pairwise_before h]

namespace Gate

/-- A pass rejects a command for names that are not supported. -/
def RejectsUnsupported (g : Gate) (mode : Mode) (text : Option Text) (names : List Text) : Prop :=
  g.validate mode text = .error (.rejected (.unsupportedParameters names))

section Rejecting

variable {g : Gate} {mode : Mode} {payload : Payload}

/-- No field stops a pass for names that are not supported. -/
theorem FieldFault.ne_unsupported {f : Field} {e : Fault} (h : g.FieldFault payload f e) (names : List Text) :
    e ≠ .rejected (.unsupportedParameters names) := by
  cases h with
  | nameless _ => nofun
  | malformed =>
    intro heq
    cases ((Fault.ofRejection_eq_rejected_iff _ _).1 heq).2
  | leaks hleaks => exact hleaks.ne_rejected _
  | stops hstop =>
    rintro rfl
    exact Rule.firstStop?_ne_rejected _ _ _ hstop

/-- A payload is rejected for names that are not supported exactly when it has some, and then for these. -/
theorem validatePayload_eq_unsupported_iff (names : List Text) :
    g.validatePayload mode payload = .error (.rejected (.unsupportedParameters names)) ↔
      (∃ name ∈ payload.names, name ∉ g.schema.supported) ∧ names = g.schema.unsupported payload.names := by
  rw [validatePayload_eq_error_iff]
  constructor
  · rintro (⟨r, heq, hcause⟩ | ⟨hsound, hfields | ⟨violations, -, hverdict⟩⟩)
    · obtain ⟨-, rfl⟩ := (Fault.ofRejection_eq_rejected_iff _ _).1 heq.symm
      cases hcause with
      | unsupported h => exact ⟨h, rfl⟩
    · obtain ⟨f, hf⟩ := exists_fieldFault_of_checkFields hsound hfields
      exact absurd rfl (hf.ne_unsupported names)
    · obtain ⟨-, heq⟩ := (verdict_eq_error_iff _ _ _).1 hverdict
      obtain ⟨-, heq⟩ := (ofViolations_eq_rejected_iff _ _ _).1 heq.symm
      cases heq
  · rintro ⟨h, rfl⟩
    exact .inl ⟨_, rfl, .unsupported h⟩

/-- A command is rejected for names that are not supported exactly when its payload has some, and then for the one list of them. -/
theorem rejectsUnsupported_iff {text : Option Text} (hread : Payload.read text = .ok payload) (names : List Text) :
    g.RejectsUnsupported mode text names ↔
      (∃ name ∈ payload.names, name ∉ g.schema.supported) ∧ TellsUnsupported g.schema.supported payload.names names := by
  have htold : TellsUnsupported g.schema.supported payload.names (g.schema.unsupported payload.names) :=
    g.schema.tellsUnsupported_unsupported payload.names
  rw [RejectsUnsupported, validate_eq_of_read hread, validatePayload_eq_unsupported_iff]
  refine and_congr_right fun _ => ?_
  constructor
  · rintro rfl
    exact htold
  · intro h
    exact h.unique htold fun _ => Iff.rfl

end Rejecting

/-- The members that a payload may have, in three parts, for the description of a schema.
1. The description gives a schema exactly when the name of each of its fields is supported.
2. Otherwise the first field, of the create and then of the update fields, whose name is not supported is told.
3. A gate of this schema rejects a command for unsupported members exactly when its payload has some. What it tells are these
   members, each once and in the order of code points, and so do the details of the rejection; none of them is the name of a field.
   The pass in either mode over any other payload with members of the same names, whatever their values, is rejected alike. -/
theorem rejects_unsupported_iff (resource : Text) (supported : List Text) (createFields updateFields : List Field) :
    ((∃ s, Schema.ofFields resource supported createFields updateFields = .ok s) ↔
        ∀ f ∈ createFields ++ updateFields, f.name ∈ supported) ∧
      (∀ fault, Schema.ofFields resource supported createFields updateFields = .error fault ↔
        ∃ before f after, createFields ++ updateFields = before ++ f :: after ∧ (∀ q ∈ before, q.name ∈ supported) ∧
          f.name ∉ supported ∧ fault = .unsupportedField resource f.name) ∧
      ∀ (g : Gate), Schema.ofFields resource supported createFields updateFields = .ok g.schema →
        ∀ (mode : Mode) (text : Option Text) (payload : Payload), Payload.read text = .ok payload →
          ((∃ names, g.RejectsUnsupported mode text names) ↔ ∃ name ∈ payload.names, name ∉ supported) ∧
            ∀ names, g.RejectsUnsupported mode text names →
              TellsUnsupported supported payload.names names ∧
                (Rejection.unsupportedParameters names).details = ([("parameters", .list (names.map .str))] : Members) ∧
                (∀ f ∈ createFields ++ updateFields, f.name ∉ names) ∧
                ∀ (otherMode : Mode) (otherText : Option Text) (other : Payload), Payload.read otherText = .ok other →
                  (∀ name, name ∈ other.names ↔ name ∈ payload.names) →
                    g.RejectsUnsupported otherMode otherText names := by
  refine ⟨Schema.exists_ofFields_iff, Schema.ofFields_eq_error_iff, ?_⟩
  intro g hschema mode text payload hread
  have hnames := Schema.name_mem_of_ofFields hschema
  obtain ⟨-, rfl, -, -⟩ := Schema.eq_of_ofFields hschema
  refine ⟨⟨?_, ?_⟩, ?_⟩
  · rintro ⟨names, hrejects⟩
    exact ((rejectsUnsupported_iff hread names).1 hrejects).1
  · intro h
    exact ⟨_, (rejectsUnsupported_iff hread _).2 ⟨h, g.schema.tellsUnsupported_unsupported payload.names⟩⟩
  · intro names hrejects
    obtain ⟨⟨name, hname, hnot⟩, htells⟩ := (rejectsUnsupported_iff hread names).1 hrejects
    refine ⟨htells, Rejection.details_unsupportedParameters htells.ascending, ?_, ?_⟩
    · intro f hf htold
      exact ((htells.mem_iff f.name).1 htold).2 (hnames f hf)
    · intro otherMode otherText other hother hsame
      have htellsOther : TellsUnsupported g.schema.supported other.names names :=
        ⟨fun n => by rw [htells.mem_iff, hsame], htells.ascending⟩
      exact (rejectsUnsupported_iff hother names).2 ⟨⟨name, (hsame name).2 hname, hnot⟩, htellsOther⟩

/-- A room with members that no room has, one of them repeated and one spelled with an escape, creates nothing and updates nothing,
though its seats are no number in the one command and missing a value in the other. -/
theorem room_rejects_unsupported :
    room.RejectsUnsupported .create
        (some ("\x7b\"zone\": 1, \"seats\": \"none\", \"\\u0061rea\": [], \"zone\": null\x7d" : Text)) ["area", "zone"] ∧
      (Rejection.unsupportedParameters ["area", "zone"]).details =
        ([("parameters", .list [.str "area", .str "zone"])] : Members) ∧
      room.RejectsUnsupported .update (some ("\x7b\"area\": 2, \"zone\": 3, \"seats\": null\x7d" : Text)) ["area", "zone"] := by
  have hread : Payload.read
      (some ("\x7b\"zone\": 1, \"seats\": \"none\", \"\\u0061rea\": [], \"zone\": null\x7d" : Text)) =
        .ok [("zone", .null), ("seats", .str "none"), ("area", .list [])] := by cbv
  have hother : Payload.read (some ("\x7b\"area\": 2, \"zone\": 3, \"seats\": null\x7d" : Text)) =
      .ok [("area", .int 2), ("zone", .int 3), ("seats", .null)] := by cbv
  have hschema : Schema.ofFields "room" ["code", "seats"] room.schema.createFields room.schema.updateFields =
      .ok room.schema := rfl
  obtain ⟨hiff, htold⟩ := (rejects_unsupported_iff "room" ["code", "seats"] room.schema.createFields
    room.schema.updateFields).2.2 room hschema .create _ _ hread
  obtain ⟨names, hrejects⟩ := hiff.2 ⟨"zone", by decide, by decide⟩
  obtain ⟨htells, hdetails, -, hsame⟩ := htold names hrejects
  have hlist : TellsUnsupported ["code", "seats"] ["zone", "seats", "area"] ["area", "zone"] := by
    refine ⟨?_, List.pairwise_pair.2 (.rel (by decide))⟩
    intro name
    constructor
    · intro hname
      rcases List.mem_pair.1 hname with rfl | rfl <;> decide
    · rintro ⟨hname, hnot⟩
      have hseats : name ≠ Text.ofString "seats" := fun h => hnot (by simp [h])
      simp only [List.mem_cons, List.not_mem_nil, or_false] at hname ⊢
      rcases hname with h | h | h
      · exact .inr h
      · exact absurd h hseats
      · exact .inl h
  obtain rfl : names = ["area", "zone"] := htells.unique hlist fun _ => Iff.rfl
  refine ⟨hrejects, hdetails, hsame .update _ _ hother ?_⟩
  intro name
  simp only [Members.names, List.map_cons, List.map_nil, List.mem_cons, List.not_mem_nil, or_false]
  exact or_rotate

end Gate

end Admission
