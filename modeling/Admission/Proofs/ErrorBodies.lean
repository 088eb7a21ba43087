import Admission.Proofs.Answers
import Admission.Proofs.Encoding

/-!
# Error bodies are read back

The body of a bad request is the envelope of the rejection that was raised, as JSON in UTF-8. Its octets are read back as that
envelope, member for member (`respond_reads_back`): what a rejection takes over from a command was itself read from a text of JSON, and
the integers that it reports have no more digits than are read.
-/

namespace Admission

/-- A value is null, a truth value, a number or a text. -/
def Value.IsScalar : Value → Prop
  | .null | .bool _ | .int _ | .float _ | .str _ => True
  | .date _ | .list _ | .dict _ => False

namespace Service

theorem notUtf8_isOrdinary : notUtf8.IsOrdinary := Text.isWellFormed_ofString _

/-- A body of a response tells a value that survives: it can be encoded, and it is written of the value and tells it. -/
theorem tells_of_body? {v : Value} {body : Text} (hsurvives : Json.Survives .compact v) (h : body? v = some body) :
    body.isWellFormed = true ∧ Json.Tells body v := by
  obtain ⟨text, htext, htells⟩ := hsurvives
  unfold body? at h
  split at h
  · next written hwrite =>
    split at h
    · next hwell =>
      cases h
      obtain rfl := htext.eq_of_write hwrite
      exact ⟨hwell, htells⟩
    · cases h
  · cases h

/-! ## Wrong parameters -/

/-- What a client is told of one wrong parameter survives. -/
theorem survives_parameterReport (e : ParameterError) : Json.Survives .compact (.dict (parameterReport [e])) := by
  have herror : Json.Survives .compact (.dict e.report) :=
    Json.survives_object Json.isReadable_compact ["field", "message", "type"] rfl (by decide)
      (by simp [ParameterError.report, Json.survives_str])
  have hlist : Json.Survives .compact (.list [.dict e.report]) :=
    Json.survives_list Json.isReadable_compact (by simpa using herror)
  have hdetails : Json.Survives .compact (.dict [("errors", .list [.dict e.report])]) :=
    Json.survives_object Json.isReadable_compact ["errors"] rfl (by simp) (by simpa using hlist)
  exact Json.survives_object Json.isReadable_compact ["code", "message", "details"] rfl (by decide)
    (by simp [parameterReport, Json.survives_str, hdetails])

/-- What a client is told of one wrong parameter whose name, message and kind have no surrogate is written without one. -/
theorem exists_writes_parameterReport {e : ParameterError} (hfield : e.field.isWellFormed = true)
    (hmessage : e.message.isWellFormed = true) (hkind : e.kind.isWellFormed = true) :
    ∃ body, Json.Writes .compact body (.dict (parameterReport [e])) ∧ body.isWellFormed = true := by
  have hreport : Json.Writable (.dict e.report) := Json.writable_dict (by simp [ParameterError.report, Json.writable_str])
  have hlist : Json.Writable (.list [.dict e.report]) := Json.writable_list (by simpa using hreport)
  have hdetails : Json.Writable (.dict [("errors", .list [.dict e.report])]) := Json.writable_dict (by simpa using hlist)
  have hall : Json.Writable (.dict (parameterReport [e])) :=
    Json.writable_dict (by simp [parameterReport, Json.writable_str, hdetails])
  obtain ⟨body, hbody, hwell⟩ := hall
  refine ⟨body, hbody, ?_⟩
  rw [hwell]
  simp [parameterReport, ParameterError.report, Value.texts, Value.memberTexts, Value.itemTexts, Text.isWellFormed_ofString, hfield,
    hmessage, hkind]

/-- What a client is told of one wrong parameter is no deeper than values may be. -/
theorem depth_parameterReport_le (e : ParameterError) : (Value.dict (parameterReport [e])).depth ≤ nestingLimit := by
  simp [parameterReport, ParameterError.report, Value.depth, Value.itemDepth, Value.memberDepth, nestingLimit]

/-! ## Rejections -/

/-- A request raises a rejection: its body is no text, or the gate of offices rejects the command that it brings. -/
inductive Request.Raises (F : Framework) (r : Request) : Rejection → Prop where
  | undecoded {endpoint : Endpoint} {mode : Mode} {method path : Text} (reaches : r.Reaches F endpoint method path)
      (checks : endpoint.Checks mode) (body : Utf8.decode? r.body = none) : r.Raises F notUtf8
  | decided {mode : Mode} {text : Text} {rej : Rejection} (brings : r.Brings F mode text)
      (rejects : Gate.office.validate mode (some text) = .error (.rejected rej)) : r.Raises F rej

section Framework

variable {F : Framework} {r : Request}

/-- A text that is no office id is answered for it alone, in a body that tells that and is read back. -/
theorem exists_refused (hF : F.Lawful) {id : Text} {errors : List ParameterError} (h : officeId F id = .error errors) (method path : Text) :
    (∃ e, errors = [e] ∧ e.field = "path.office_id") ∧
      ∃ body, refused method path errors = { status := 422, body, rows := [] } ∧
        Json.read body = .ok (.dict (parameterReport errors)) := by
  obtain ⟨message, kind, rfl, hmessage, hkind⟩ := hF.located h
  generalize he : ParameterError.mk ["path", "office_id"] message kind = e
  have hfield : e.field = "path.office_id" := by
    rw [← he]
    rfl
  subst he
  refine ⟨⟨_, rfl, hfield⟩, ?_⟩
  obtain ⟨body, hbody, hwell⟩ := exists_writes_parameterReport (hfield ▸ Text.isWellFormed_ofString _) hmessage hkind
  have hsome : body? (.dict (parameterReport [⟨["path", "office_id"], message, kind⟩])) = some body := by
    rw [body?, hbody.write_eq (depth_parameterReport_le _)]
    exact if_pos hwell
  have htells := (tells_of_body? (survives_parameterReport _) hsome).2
  exact ⟨body, by rw [refused, hsome], htells.read_eq (depth_parameterReport_le _)⟩

/-- A rejection that a request raises is ordinary, and the request is answered with it. -/
theorem Request.Raises.exists_rejected (hF : F.Lawful) {rej : Rejection} (h : r.Raises F rej) :
    rej.IsOrdinary ∧ ∃ method path rows, respond F r = rejected method path rows rej := by
  cases h with
  | @undecoded endpoint mode method path reaches checks body =>
    refine ⟨notUtf8_isOrdinary, method, path, [], ?_⟩
    rw [reaches.respond_eq]
    cases checks <;> rw [answer, rawBody_of_undecoded body, hF.solve_raised, handled]
  | @decided mode text rej brings rejects =>
    obtain ⟨method, path, rows, hrespond⟩ := exists_respond_eq_concluded hF brings
    rw [rejects] at hrespond
    exact ⟨office_isOrdinary rejects, method, path, rows, hrespond⟩

/-- A request that raises a rejection and is answered as a bad request is answered with the envelope of the rejection. -/
theorem Request.Raises.tells (hF : F.Lawful) {rej : Rejection} (h : r.Raises F rej) (hstatus : (respond F r).status = 400) :
    (respond F r).body.isWellFormed = true ∧ Json.Tells (respond F r).body (.dict rej.envelope) := by
  obtain ⟨hordinary, method, path, rows, hrespond⟩ := h.exists_rejected hF
  rw [hrespond, rejected] at hstatus ⊢
  cases hbody : body? (.dict rej.envelope) with
  | none => simp [hbody, internalError] at hstatus
  | some body => exact tells_of_body? hordinary.survives_envelope hbody

/-- A request for the check of a command that is answered as a bad request raised a rejection. -/
theorem exists_raises (hF : F.Lawful) {endpoint : Endpoint} {mode : Mode} {method path : Text} (h : r.Reaches F endpoint method path)
    (hchecks : endpoint.Checks mode) (hstatus : (respond F r).status = 400) : ∃ rej, r.Raises F rej := by
  have hhandled := handled_respond hF h hchecks
  generalize hresponse : respond F r = response at hhandled hstatus
  cases hhandled with
  | undecoded body => exact ⟨notUtf8, .undecoded h hchecks body⟩
  | misnamed _ _ wrong =>
    obtain ⟨-, body, hrefused, -⟩ := exists_refused hF wrong method path
    rw [hrefused] at hstatus
    cases hstatus
  | @checked text body named =>
    have hbrings := h.brings hchecks body named
    have hanswered := answered_respond hF hbrings
    rw [hresponse] at hanswered
    generalize houtcome : Gate.office.validate mode (some text) = outcome at hanswered
    cases hanswered with
    | passed status _ => simp [hstatus] at status
    | told _ _ => exact ⟨_, .decided hbrings houtcome⟩
    | untold _ status _ => simp [hstatus] at status
    | fault _ status _ => simp [hstatus] at status

end Framework

/-- The details of a rejection for violations are the resource and the reports, in the order of the violations. -/
theorem get_details_validationFailed (resource : Text) (violations : List Violation) :
    (Rejection.validationFailed resource violations).envelope.get "details" =
      .dict [("resource", .str resource), ("errors", .list (violations.map fun v => .dict v.report))] := rfl

/-- A report gives null, a truth value, a number or a text. -/
theorem isScalar_get_report (v : Violation) : Value.IsScalar (v.report.get "value") := by
  have hget : v.report.get "value" = Violation.reportedValue v.value := rfl
  rw [hget]
  cases v.value <;> exact trivial

/-- A request for the check of a command that is answered as a bad request raised a rejection. Whatever rejection it raised, the body has
octets in UTF-8 that decode to it, and it reads as JSON to the envelope of that rejection, when the value of a malformed field is no more
than a hundred and fifty levels deep. The details of a rejection for violations have the report of each of them in its place, and every
report gives null, a truth value, a number or a text as the value. -/
theorem respond_reads_back (F : Framework) (hF : F.Lawful) (r : Request) (endpoint : Endpoint) (mode : Mode) (method path : Text)
    (h : r.Reaches F endpoint method path) (hchecks : endpoint.Checks mode) (hstatus : (respond F r).status = 400) :
    (∃ rej, r.Raises F rej) ∧
      ∀ rej, r.Raises F rej → rej.depth ≤ 150 →
        (∃ octets, Utf8.encode? (respond F r).body = some octets ∧ Utf8.decode? octets = some (respond F r).body) ∧
          Json.read (respond F r).body = .ok (.dict rej.envelope) ∧
          ∀ resource violations, rej = .validationFailed resource violations →
            rej.envelope.get "details" =
                .dict [("resource", .str resource), ("errors", .list (violations.map fun v => .dict v.report))] ∧
              ∀ v ∈ violations, Value.IsScalar (v.report.get "value") := by
  refine ⟨exists_raises hF h hchecks hstatus, ?_⟩
  intro rej hraises hdepth
  obtain ⟨hordinary, -⟩ := hraises.exists_rejected hF
  obtain ⟨hwell, htells⟩ := hraises.tells hF hstatus
  refine ⟨Utf8.exists_octets hwell, htells.read_eq (hordinary.depth_envelope_le_nestingLimit hdepth), ?_⟩
  rintro resource violations rfl
  exact ⟨get_details_validationFailed resource violations, fun v _ => isScalar_get_report v⟩

/-- An update of the office of id 7 whose name is a list in a list is rejected for the name, and the client reads the list back as it
was, line end and all. -/
theorem respond_reads_back_nested_name :
    let r : Request := ⟨"PUT", "/offices/7/validate", "\x7b\"name\": [[7, \"\\n\"]]\x7d".toUTF8.data.toList⟩
    let rej : Rejection := .malformedField "name" (.list [.list [.int 7, .str "\n"]]) "string"
    r.Raises .inProcess rej ∧ (respond .inProcess r).status = 400 ∧
      Json.read (respond .inProcess r).body = .ok (.dict rej.envelope) := by
  intro r rej
  have hlocate : locate? (Path.ofTarget r.target) = some (Endpoint.update "7", Text.ofString "/offices/7/validate") := by
    decide +kernel
  have hreaches : r.Reaches .inProcess (.update "7") "PUT" "/offices/7/validate" := reaches_inProcess hlocate rfl rfl
  have hid : PathInteger.readAbove 0 "7" = .ok 7 := by decide +kernel
  have hbrings : r.Brings .inProcess .update "\x7b\"name\": [[7, \"\\n\"]]\x7d" :=
    ⟨⟨_, _, _, hreaches, .update (officeId_inProcess hid)⟩, by decide +kernel⟩
  have hread : Payload.read (some ("\x7b\"name\": [[7, \"\\n\"]]\x7d" : Text)) =
      .ok [("name", .list [.list [.int 7, .str "\n"]])] := by cbv
  have hsound : Gate.office.Sound [("name", .list [.list [.int 7, .str "\n"]])] :=
    ⟨by decide, .inl rfl, .inl rfl⟩
  have hsplit : Gate.office.checked .update [("name", .list [.list [.int 7, .str "\n"]])] =
      [] ++ { name := "name", kind := .string, requiredOnCreate := true, rules := Schema.textRules } :: [] := by decide
  have hname : Payload.extract {} [("name", .list [.list [.int 7, .str "\n"]])] .string "name" = .error (.rejected rej) := rfl
  have hraises : r.Raises .inProcess rej :=
    .decided hbrings (Gate.FirstCause.validate (office_names .update) (.malformed hread hsound hsplit (by simp) ⟨_, _, _, hname⟩))
  have hstatus : (respond .inProcess r).status = 400 := by decide +kernel
  obtain ⟨-, hback⟩ := respond_reads_back .inProcess Framework.inProcess_lawful r (.update "7") .update _ _ hreaches (.update "7") hstatus
  exact ⟨hraises, hstatus, (hback rej hraises (by decide)).2.1⟩

end Service

end Admission
