import Admission.Proofs.Decision
import Admission.Proofs.ErrorBodies

/-!
# The log agrees with the responses

The rows that are written while a command is checked tell the same as the response to it. Rows are written in three places, and
the responses elsewhere; every response to a request for the check of a command comes with its rows in one of five ways (`Logged`), from
which the agreement is read off (`respond_rows`).
-/

namespace Admission

/-! ## What rows tell -/

namespace Log.Row

/-- A row tells that a check came to its end: in which mode, and with how many violations. -/
structure TellsCheck (row : Log.Row) (mode : Mode) (count : Nat) : Prop where
  level : Log.severityName row.severity = "DEBUG"
  logger : row.logger = "commandgate.services.command_validator"
  extras : row.extras = { resource := .str "office", mode := .str mode.name, violations := .int count }

/-- A row tells a rejection: its code and its message, and the resource and the number of violations where it has them. -/
structure TellsRejection (row : Log.Row) (code message : Text) (resource violations : Value) : Prop where
  level : Log.severityName row.severity = "WARNING"
  extras : row.extras = { errorCode := .str code, resource, violations }
  message : message <:+ row.message

/-- A row tells an internal error. -/
structure TellsCrash (row : Log.Row) : Prop where
  level : Log.severityName row.severity = "ERROR"
  code : row.extras.errorCode = .str "INTERNAL_ERROR"

end Log.Row

namespace Service

/-- The row of a check tells the check. -/
theorem tellsCheck_checkedRow (mode : Mode) (violations : List Violation) :
    (checkedRow mode violations).TellsCheck mode violations.length :=
  ⟨rfl, rfl, rfl⟩

/-- The message of a row of a rejection ends with the message of the rejection. -/
theorem suffix_rejectedRow (method path : Text) (rej : Rejection) : rej.message <:+ (rejectedRow method path rej).message := by
  simp only [rejectedRow, Text.concat, List.flatten_cons, List.flatten_nil, List.append_nil, ← List.append_assoc]
  exact List.suffix_append _ _

/-- The row of a rejection for violations tells how many there are. -/
theorem tellsRejection_validationFailed (method path resource : Text) {violations : List Violation} (h : violations ≠ []) :
    (rejectedRow method path (.validationFailed resource violations)).TellsRejection "VALIDATION_FAILED" "Validation errors exist."
      (.str resource) (.int violations.length) := by
  refine ⟨rfl, ?_, suffix_rejectedRow method path (.validationFailed resource violations)⟩
  cases violations with
  | nil => exact absurd rfl h
  | cons v rest => rfl

/-- The row of any other rejection tells neither a resource nor a number of violations. -/
theorem tellsRejection_of_not_isDecision (method path : Text) {rej : Rejection} (h : ¬ (Fault.rejected rej).IsDecision) :
    (rejectedRow method path rej).TellsRejection rej.code rej.message .null .null := by
  refine ⟨rfl, ?_, suffix_rejectedRow method path rej⟩
  cases rej with
  | validationFailed resource violations => exact absurd trivial h
  | internal message details => rfl
  | malformedPayload reason => rfl
  | unsupportedParameters names => rfl
  | malformedField field value kind => rfl

/-! ## Responses and their rows -/

/-- How a response to a request for the check of a command comes with its rows. -/
inductive Logged (mode : Mode) (method path : Text) : Response → Prop where
  | passed : Logged mode method path { status := 204, body := [], rows := [checkedRow mode []] }
  | failed {violations : List Violation} {body : Text} (found : violations ≠ [])
      (tells : Json.Tells body (.dict (Rejection.validationFailed "office" violations).envelope)) :
    Logged mode method path
      { status := 400, body,
        rows := [checkedRow mode violations, rejectedRow method path (.validationFailed "office" violations)] }
  | refused {rej : Rejection} {body : Text} (undecided : ¬ (Fault.rejected rej).IsDecision)
      (tells : Json.Tells body (.dict rej.envelope)) :
    Logged mode method path { status := 400, body, rows := [rejectedRow method path rej] }
  | misnamed (body : Text) : Logged mode method path { status := 422, body, rows := [] }
  | crashed {rows : List Log.Row} (calm : ∀ row ∈ rows, Log.severityName row.severity ≠ "ERROR") :
    Logged mode method path (internalError method path rows)

theorem level_ne_error (mode : Mode) (violations : List Violation) (method path : Text) (rej : Rejection) :
    Log.severityName (checkedRow mode violations).severity ≠ "ERROR" ∧
      Log.severityName (rejectedRow method path rej).severity ≠ "ERROR" := by
  have hdebug : Log.severityName 10 ≠ "ERROR" := by decide
  have hwarning : Log.severityName 30 ≠ "ERROR" := by decide
  exact ⟨hdebug, hwarning⟩

/-- The response to a rejected command has the envelope of the rejection for its body and the row of the rejection behind those before, or
it is an internal error. -/
theorem rejected_eq {rej : Rejection} (h : rej.IsOrdinary) (method path : Text) (rows : List Log.Row) :
    (∃ body, Json.Tells body (.dict rej.envelope) ∧
        rejected method path rows rej = { status := 400, body, rows := rows ++ [rejectedRow method path rej] }) ∨
      rejected method path rows rej = internalError method path (rows ++ [rejectedRow method path rej]) := by
  unfold rejected
  cases hbody : body? (.dict rej.envelope) with
  | none => exact .inr rfl
  | some body =>
    refine .inl ⟨body, (tells_of_body? h.survives_envelope hbody).2, ?_⟩
    simp only [status_of_isOrdinary h]

/-- A rejection that comes before the verdict is logged with its row alone. -/
theorem logged_refused {rej : Rejection} (hordinary : rej.IsOrdinary) (hundecided : ¬ (Fault.rejected rej).IsDecision) (mode : Mode)
    (method path : Text) : Logged mode method path (rejected method path [] rej) := by
  rcases rejected_eq hordinary method path [] with ⟨body, htells, heq⟩ | heq
  · rw [heq]
    exact .refused hundecided htells
  · rw [heq]
    refine .crashed ?_
    simp [(level_ne_error mode [] method path rej).2]

/-- What ends a pass before its verdict is no decision. -/
theorem not_isDecision_of_examine {g : Gate} {mode : Mode} {text : Option Text} {e : Fault} (h : g.examine mode text = .error e) :
    ¬ e.IsDecision := by
  unfold Gate.examine at h
  cases hread : Payload.read text with
  | error f =>
    obtain ⟨reason, rfl⟩ := Gate.read_error hread
    rw [hread] at h
    cases h
    exact id
  | ok payload =>
    rw [hread] at h
    exact Gate.not_isDecision_of_examinePayload h

/-- The verdict on violations is logged behind the row of the check. -/
theorem logged_verdict (mode : Mode) (method path : Text) {violations : List Violation}
    (h : ∀ rej, verdict "office" violations = .error (.rejected rej) → rej.IsOrdinary) :
    Logged mode method path (concluded method path [checkedRow mode violations] (verdict "office" violations)) := by
  cases violations with
  | nil => exact .passed
  | cons v rest =>
    have hverdict : verdict "office" (v :: rest) = .error (.ofViolations "office" (v :: rest)) := rfl
    obtain ⟨hcheck, hrejection⟩ := level_ne_error mode (v :: rest) method path (.validationFailed "office" (v :: rest))
    rw [hverdict] at h ⊢
    by_cases hrejected : ∃ rej, Fault.ofViolations "office" (v :: rest) = .rejected rej
    · obtain ⟨rej, heq⟩ := hrejected
      obtain ⟨-, rfl⟩ := (Gate.ofViolations_eq_rejected_iff _ _ _).1 heq
      rw [heq] at h ⊢
      rw [concluded]
      rcases rejected_eq (h _ rfl) method path [checkedRow mode (v :: rest)] with ⟨body, htells, heq⟩ | heq
      · rw [heq]
        exact .failed (by simp) htells
      · rw [heq]
        exact .crashed (by simp [hcheck, hrejection])
    · rw [concluded_of_leak (not_exists.1 hrejected)]
      exact .crashed (by simp [hcheck])

/-- The check of a command is logged as it ends. -/
theorem logged_checked (method path : Text) (mode : Mode) (text : Text) : Logged mode method path (checked method path mode text) := by
  have hvalidate : Gate.office.validate mode (some text) = (Gate.office.examine mode (some text)).bind (verdict "office") := rfl
  have hrejected : ∀ rej, Gate.office.validate mode (some text) = .error (.rejected rej) → rej.IsOrdinary := fun _ => office_isOrdinary
  rw [hvalidate] at hrejected
  unfold checked
  cases hexamine : Gate.office.examine mode (some text) with
  | error e =>
    rw [hexamine] at hrejected
    by_cases hrej : ∃ rej, e = .rejected rej
    · obtain ⟨rej, rfl⟩ := hrej
      exact logged_refused (hrejected rej rfl) (not_isDecision_of_examine hexamine) mode method path
    · dsimp only
      rw [concluded_of_leak (not_exists.1 hrej)]
      exact .crashed (by simp)
  | ok violations =>
    rw [hexamine] at hrejected
    exact logged_verdict mode method path hrejected

/-- Every response to a request for the check of a command comes with its rows in one of these ways. -/
theorem logged_respond {F : Framework} (hF : F.Lawful) {r : Request} {endpoint : Endpoint} {mode : Mode} {method path : Text}
    (h : r.Reaches F endpoint method path) (hchecks : endpoint.Checks mode) : Logged mode method path (respond F r) := by
  have hhandled := handled_respond hF h hchecks
  generalize respond F r = response at hhandled
  cases hhandled with
  | undecoded _ => exact logged_refused notUtf8_isOrdinary id mode method path
  | misnamed _ _ wrong =>
    obtain ⟨-, body, hrefused, -⟩ := exists_refused hF wrong method path
    rw [hrefused]
    exact .misnamed body
  | checked _ _ => exact logged_checked method path mode _

/-! ## Agreement -/

theorem get_envelope (rej : Rejection) :
    Members.get rej.envelope "code" = .str rej.code ∧ Members.get rej.envelope "message" = .str rej.message := by
  unfold Rejection.envelope
  split <;> exact ⟨rfl, rfl⟩

/-- A rejection that is no decision has another code than that for violations. -/
theorem code_ne_of_not_isDecision {rej : Rejection} (h : ¬ (Fault.rejected rej).IsDecision) : rej.code ≠ "VALIDATION_FAILED" := by
  have hcodes : Text.ofString "INTERNAL_ERROR" ≠ "VALIDATION_FAILED" ∧ Text.ofString "MALFORMED_PAYLOAD" ≠ "VALIDATION_FAILED" ∧
      Text.ofString "UNSUPPORTED_PARAMETER" ≠ "VALIDATION_FAILED" ∧ Text.ofString "MALFORMED_FIELD" ≠ "VALIDATION_FAILED" := by
    decide
  cases rej with
  | validationFailed resource violations => exact absurd trivial h
  | internal message details => exact hcodes.1
  | malformedPayload reason => exact hcodes.2.1
  | unsupportedParameters names => exact hcodes.2.2.1
  | malformedField field value kind => exact hcodes.2.2.2

/-- How the body and the rows of a bad request agree: the last row tells the code and the message of the body. For violations, the row of
the check stands before it, and both rows tell as many violations as the body has errors. -/
def TellsAlike (mode : Mode) (response : Response) : Prop :=
  ∃ envelope code message, Json.Denotes response.body (.dict envelope) ∧ Members.get envelope "code" = .str code ∧
    Members.get envelope "message" = .str message ∧
    (code = "VALIDATION_FAILED" → ∃ check rejection details errors, response.rows = [check, rejection] ∧
      Members.get envelope "details" = .dict details ∧ Members.get details "errors" = .list errors ∧ errors ≠ [] ∧
      check.TellsCheck mode errors.length ∧ rejection.TellsRejection code message (.str "office") (.int errors.length)) ∧
    (code ≠ "VALIDATION_FAILED" → ∃ rejection, response.rows = [rejection] ∧ rejection.TellsRejection code message .null .null)

/-- A bad request for violations tells alike. -/
theorem tellsAlike_failed {mode : Mode} {method path body : Text} {violations : List Violation} (hne : violations ≠ [])
    (htells : Json.Tells body (.dict (Rejection.validationFailed "office" violations).envelope)) :
    TellsAlike mode
      { status := 400, body,
        rows := [checkedRow mode violations, rejectedRow method path (.validationFailed "office" violations)] } := by
  obtain ⟨hcode, hmessage⟩ := get_envelope (.validationFailed "office" violations)
  refine ⟨_, _, _, htells.denotes, hcode, hmessage, fun _ => ?_, fun hother => absurd rfl hother⟩
  refine ⟨_, _, _, _, rfl, get_details_validationFailed "office" violations, rfl, by simpa using hne, ?_, ?_⟩
  · rw [List.length_map]
    exact tellsCheck_checkedRow mode violations
  · rw [List.length_map]
    exact tellsRejection_validationFailed method path "office" hne

/-- A bad request for any other reason tells alike. -/
theorem tellsAlike_refused {mode : Mode} {method path body : Text} {rej : Rejection}
    (hundecided : ¬ (Fault.rejected rej).IsDecision) (htells : Json.Tells body (.dict rej.envelope)) :
    TellsAlike mode { status := 400, body, rows := [rejectedRow method path rej] } := by
  obtain ⟨hcode, hmessage⟩ := get_envelope rej
  refine ⟨_, _, _, htells.denotes, hcode, hmessage, fun hfailed => absurd hfailed (code_ne_of_not_isDecision hundecided), ?_⟩
  intro _
  exact ⟨_, rfl, tellsRejection_of_not_isDecision method path hundecided⟩

/-- Rows of which none is an error tell no internal error. -/
theorem not_tellsCrash {rows : List Log.Row} (h : ∀ row ∈ rows, Log.severityName row.severity ≠ "ERROR") :
    ¬ ∃ row ∈ rows, row.TellsCrash := by
  rintro ⟨row, hrow, hcrash⟩
  exact h row hrow hcrash.level

/-- A request for the check of a command that passes writes the row of the check and no other, with no violations. A bad request writes
rows that tell the same as its body. A request whose office has no id writes none. An internal error is told exactly where the
response is one; and there are no other responses. -/
theorem respond_rows (F : Framework) (hF : F.Lawful) (r : Request) (endpoint : Endpoint) (mode : Mode) (method path : Text)
    (h : r.Reaches F endpoint method path) (hchecks : endpoint.Checks mode) :
    ((respond F r).status = 204 → ∃ row, (respond F r).rows = [row] ∧ row.TellsCheck mode 0) ∧
      ((respond F r).status = 400 → TellsAlike mode (respond F r)) ∧
      ((respond F r).status = 422 → (respond F r).rows = []) ∧
      ((∃ row ∈ (respond F r).rows, row.TellsCrash) ↔ (respond F r).status = 500) ∧
      (respond F r).status ∈ [204, 400, 422, 500] := by
  have hlogged := logged_respond hF h hchecks
  generalize respond F r = response at hlogged
  cases hlogged with
  | passed =>
    refine ⟨fun _ => ⟨_, rfl, tellsCheck_checkedRow mode []⟩, by simp, by simp, iff_of_false (not_tellsCrash ?_) (by simp), by simp⟩
    simp [(level_ne_error mode [] method path notUtf8).1]
  | @failed violations body hne htells =>
    refine ⟨by simp, fun _ => tellsAlike_failed hne htells, by simp, iff_of_false (not_tellsCrash ?_) (by simp), by simp⟩
    simpa using level_ne_error mode violations method path (.validationFailed "office" violations)
  | refused hundecided htells =>
    refine ⟨by simp, fun _ => tellsAlike_refused hundecided htells, by simp, iff_of_false (not_tellsCrash ?_) (by simp), by simp⟩
    simp [(level_ne_error mode [] method path _).2]
  | misnamed f => exact ⟨by simp, by simp, by simp, by simp, by simp⟩
  | @crashed rows hcalm =>
    have hcrash : (unhandledRow method path).TellsCrash := ⟨rfl, rfl⟩
    refine ⟨by simp [internalError], by simp [internalError], by simp [internalError], iff_of_true ?_ rfl, by simp [internalError]⟩
    exact ⟨_, by simp [internalError], hcrash⟩

/-- An update of the office of id 7 with no funds left is answered as a bad request with one error, and both rows tell one violation. -/
theorem respond_rows_without_funds :
    let r : Request := ⟨"PUT", "/offices/7/validate", "\x7b\"funds\": 0\x7d".toUTF8.data.toList⟩
    r.Reaches .inProcess (.update "7") "PUT" "/offices/7/validate" ∧ (respond .inProcess r).status = 400 ∧
      TellsAlike .update (respond .inProcess r) ∧ ¬ ∃ row ∈ (respond .inProcess r).rows, row.TellsCrash := by
  intro r
  have hlocate : locate? (Path.ofTarget r.target) = some (Endpoint.update "7", Text.ofString "/offices/7/validate") := by
    decide +kernel
  have hreaches : r.Reaches .inProcess (.update "7") "PUT" "/offices/7/validate" := reaches_inProcess hlocate rfl rfl
  have hstatus : (respond .inProcess r).status = 400 := by decide +kernel
  obtain ⟨-, halike, -, hcrash, -⟩ :=
    respond_rows .inProcess Framework.inProcess_lawful r (.update "7") .update _ _ hreaches (.update "7")
  refine ⟨hreaches, hstatus, halike hstatus, ?_⟩
  rw [hcrash, hstatus]
  simp

end Service

end Admission
