import Admission.Proofs.AllowList
import Admission.Proofs.Independence
import Admission.Proofs.PayloadLanguage

/-!
# The order of members

A pass looks at the members of a payload by their names, and visits the fields in the order of the schema. So two commands whose
payloads hold the same members in different orders end alike, whatever is wrong with them (`validate_eq_of_same`).
-/

namespace Admission

namespace Members

/-- Two objects hold the same members, in whatever order: under every name both have the same value, or neither has one. The order that
does not count is that of the objects themselves: a value that is an object is the same only with its members in the same order, which
the message of a malformed field shows. -/
def Same (ms others : Members) : Prop := ∀ name, ms.lookup name = others.lookup name

/-- Where every name stands once, what is found under a name is the value of its member. -/
theorem lookup_eq_some_iff_mem {ms : Members} (h : ms.names.Nodup) (name : Text) (v : Value) :
    ms.lookup name = some v ↔ (name, v) ∈ ms :=
  lookup_eq_some_iff_mem_of_nodup h name v

/-- Objects in which every name stands once hold the same members exactly when one is the other in another order. -/
theorem same_iff_perm {ms others : Members} (h : ms.names.Nodup) (h' : others.names.Nodup) : ms.Same others ↔ ms.Perm others := by
  rw [List.perm_ext_iff_of_nodup (List.Nodup.of_map _ h) (List.Nodup.of_map _ h')]
  constructor
  · rintro hsame ⟨name, v⟩
    rw [← lookup_eq_some_iff_mem h, ← lookup_eq_some_iff_mem h', hsame]
  · intro hmem name
    refine Option.ext fun v => ?_
    rw [lookup_eq_some_iff_mem h, lookup_eq_some_iff_mem h', hmem]

variable {ms others : Members}

theorem Same.mem_names_iff (h : ms.Same others) (name : Text) : name ∈ ms.names ↔ name ∈ others.names := by
  rw [Members.mem_names_iff, Members.mem_names_iff, h]

theorem Same.agreeAbout (h : ms.Same others) (name : Text) : Payload.AgreeAbout name ms others := by
  refine ⟨?_, ?_, ?_⟩
  · rw [has, has, h]
  · rw [get, get, h]
  · rw [get, get, h]

end Members

/-- In a payload that was read every name stands once. -/
theorem Payload.nodup_names_of_read {text : Option Text} {payload : Payload} (h : Payload.read text = .ok payload) :
    payload.names.Nodup := by
  obtain ⟨t, -, before, s, after, -, -, -, hdenotes⟩ := isDocument_of_read h
  cases hdenotes with
  | number _ hmeans => cases hmeans
  | object _ hmean =>
    rw [(Json.membersMean_iff _ _).1 hmean]
    exact Members.nodup_names_ofList _

namespace Gate

section Same

variable {g : Gate} {mode : Mode} {payload other : Payload}

/-- Payloads with the same names and the same context have a structure of the same soundness, and the same is told of it. -/
theorem checkStructure_eq_of_context (hnames : ∀ name, name ∈ payload.names ↔ name ∈ other.names)
    (hformat : payload.get Payload.dateFormatName = other.get Payload.dateFormatName)
    (hlocale : payload.get Payload.localeName = other.get Payload.localeName) :
    g.checkStructure payload = g.checkStructure other := by
  have hunsupported : g.schema.unsupported payload.names = g.schema.unsupported other.names :=
    (g.schema.tellsUnsupported_unsupported payload.names).unique (g.schema.tellsUnsupported_unsupported other.names) hnames
  rw [checkStructure, checkStructure, hunsupported, Payload.dateFormat, Payload.dateFormat, Payload.locale, Payload.locale,
    Payload.contextText, Payload.contextText, Payload.contextText, Payload.contextText, hformat, hlocale]

/-- The same members are examined with the same result. -/
theorem examinePayload_eq_of_same (h : payload.Same other) : g.examinePayload mode payload = g.examinePayload mode other :=
  examinePayload_eq_of_extract
    (checkStructure_eq_of_context h.mem_names_iff (h.agreeAbout _).raw (h.agreeAbout _).raw)
    (fun f _ => h.mem_names_iff f.name) (fun f _ => (h.agreeAbout f.name).extract_eq g.defaults f.kind)

end Same

/-- The order of members, in two parts, for two commands of which both give a payload.
1. Their payloads hold the same members exactly when one is the other in another order.
2. If they do, both passes end alike: both let their command through, or both end in the same fault, a rejection with all its
   details included. -/
theorem validate_eq_of_same (g : Gate) (mode : Mode) (text otherText : Option Text) (payload other : Payload)
    (hread : Payload.read text = .ok payload) (hother : Payload.read otherText = .ok other) :
    (payload.Same other ↔ payload.Perm other) ∧
      (payload.Same other → g.validate mode text = g.validate mode otherText) := by
  refine ⟨Members.same_iff_perm (Payload.nodup_names_of_read hread) (Payload.nodup_names_of_read hother), ?_⟩
  intro hsame
  rw [validate_eq_of_read hread, validate_eq_of_read hother, validatePayload, validatePayload, examinePayload_eq_of_same hsame]

/-- A room of no seats with too long a code, and the same room with its members in the other order, its seats told twice and its code
spelled with an escape: both commands are rejected alike, with the violations in the order of the schema. -/
theorem room_validate_eq_reordered :
    room.validate .create (some ("\x7b\"code\": \"R0001\", \"seats\": 0\x7d" : Text)) =
        room.validate .create (some ("\x7b\"seats\": 7, \"code\" : \"\\u00520001\",\n\"seats\":0 \x7d" : Text)) ∧
      Decides "room" (room.validate .create (some ("\x7b\"seats\": 7, \"code\" : \"\\u00520001\",\n\"seats\":0 \x7d" : Text)))
        [(Rule.maxLength 4).violation "room" "code" (.str "R0001"), Rule.positive.violation "room" "seats" (.int 0)] := by
  have hread : Payload.read (some ("\x7b\"code\": \"R0001\", \"seats\": 0\x7d" : Text)) =
      .ok [("code", .str "R0001"), ("seats", .int 0)] := by cbv
  have hother : Payload.read (some ("\x7b\"seats\": 7, \"code\" : \"\\u00520001\",\n\"seats\":0 \x7d" : Text)) =
      .ok [("seats", .int 0), ("code", .str "R0001")] := by cbv
  have hfound : room.examinePayload .create [("seats", .int 0), ("code", .str "R0001")] =
      .ok [(Rule.maxLength 4).violation "room" "code" (.str "R0001"), Rule.positive.violation "room" "seats" (.int 0)] := by
    rw [examinePayload_of_sound ⟨by decide, .inl rfl, .inl rfl⟩]
    rfl
  obtain ⟨hperm, hend⟩ := validate_eq_of_same room .create _ _ _ _ hread hother
  refine ⟨hend (hperm.2 (List.Perm.swap ..)), ?_⟩
  rw [validate_eq, hother]
  exact decides_of_examinePayload (room_reportable .create) (room_hasShortLimits .create) hfound

end Gate

end Admission
