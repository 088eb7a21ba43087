import Admission.Proofs.Envelope
import Admission.Proofs.Requests

/-!
# The answers of the service

What a client is answered to a command, against what the gate of offices says of it. A command that passes is answered with an empty
body, and one that is rejected with the envelope of its rejection, unless a surrogate stands in a text that the envelope takes over.
Such a rejection cannot be encoded and ends as an internal error, as a fault does (`respond_command`).
-/

namespace Admission

namespace Service

/-- An endpoint takes commands of a mode; one to update an office has to name the office. -/
inductive Endpoint.Takes (F : Framework) : Endpoint → Mode → Prop where
  | create : Endpoint.Takes F .create .create
  | update {id : Text} {n : Int} (h : officeId F id = .ok n) : Endpoint.Takes F (.update id) .update

/-- A request brings a command: it is led to an endpoint that takes commands of the mode, and its body is the text of the command in
UTF-8. -/
structure Request.Brings (F : Framework) (r : Request) (mode : Mode) (text : Text) : Prop where
  endpoint : ∃ endpoint method path, r.Reaches F endpoint method path ∧ endpoint.Takes F mode
  body : Utf8.decode? r.body = some text

section Framework

variable {F : Framework} {r : Request} {endpoint : Endpoint} {mode : Mode} {method path text : Text}

/-- A request that reaches an endpoint brings a command when its body is a text and the office, if there is one, is named by an id. -/
theorem Request.Reaches.brings (h : r.Reaches F endpoint method path) (hchecks : endpoint.Checks mode)
    (hbody : Utf8.decode? r.body = some text) (hnamed : endpoint.IsNamed F) : r.Brings F mode text := by
  refine ⟨⟨endpoint, method, path, h, ?_⟩, hbody⟩
  cases hchecks with
  | create => exact .create
  | update id =>
    obtain ⟨n, hn⟩ := hnamed id rfl
    exact .update hn

/-- The check of a command ends as the gate of offices concludes about the command. -/
theorem exists_checked_eq_concluded (method path : Text) (mode : Mode) (text : Text) :
    ∃ rows, checked method path mode text = concluded method path rows (Gate.office.validate mode (some text)) := by
  unfold checked Gate.validate
  cases Gate.office.examine mode (some text) with
  | error f => exact ⟨[], rfl⟩
  | ok violations => exact ⟨[checkedRow mode violations], rfl⟩

/-- A request that brings a command is answered as the gate of offices concludes about the command. -/
theorem exists_respond_eq_concluded (hF : F.Lawful) (h : r.Brings F mode text) :
    ∃ method path rows, respond F r = concluded method path rows (Gate.office.validate mode (some text)) := by
  obtain ⟨endpoint, method, path, hreaches, htakes⟩ := h.endpoint
  have hanswer : answer F method path r.body endpoint = checked method path mode text := by
    cases htakes with
    | create => rw [answer, rawBody_of_decode? h.body, hF.solve_called, handled]
    | update hid => rw [answer, rawBody_of_decode? h.body, hid, hF.solve_called, handled]
  obtain ⟨rows, hrows⟩ := exists_checked_eq_concluded method path mode text
  exact ⟨method, path, rows, by rw [hreaches.respond_eq, hanswer, hrows]⟩

end Framework

/-- A gate's rejection has the status of a bad request. -/
theorem status_of_isOrdinary {rej : Rejection} (h : rej.IsOrdinary) : rej.status = 400 := by
  cases rej with
  | internal _ _ => cases h
  | malformedPayload _ => rfl
  | unsupportedParameters _ => rfl
  | malformedField _ _ _ => rfl
  | validationFailed _ _ => rfl

/-- What an ordinary rejection is told by has the form in which its envelope is written, and no surrogate stands in a text that the
rejection takes over. -/
theorem of_body?_envelope {rej : Rejection} (h : rej.IsOrdinary) {body : Text} (hbody : body? (.dict rej.envelope) = some body) :
    Json.write .compact (.dict rej.envelope) = .ok body ∧ rej.Tellable := by
  obtain ⟨text, htext, hwell⟩ := h.exists_envelope
  unfold body? at hbody
  split at hbody
  · next written hwrite =>
    split at hbody
    · next hencoded =>
      cases hbody
      obtain rfl := htext.eq_of_write hwrite
      exact ⟨hwrite, List.all_eq_true.1 (hwell ▸ hencoded)⟩
    · cases hbody
  · cases hbody

/-- An ordinary rejection without surrogates in what it takes over is told, unless it takes over what is too deep. -/
theorem exists_body?_envelope {rej : Rejection} (h : rej.IsOrdinary) (hdepth : rej.depth ≤ 150) (htellable : rej.Tellable) :
    ∃ body, body? (.dict rej.envelope) = some body := by
  obtain ⟨text, htext, hwell⟩ := h.exists_envelope
  have hencoded : text.isWellFormed = true := hwell ▸ List.all_eq_true.2 htellable
  refine ⟨text, ?_⟩
  rw [body?, htext.write_eq (h.depth_envelope_le_nestingLimit hdepth)]
  exact if_pos hencoded

/-- How a command is answered, by what the gate says of it. -/
inductive Answered : Except Fault Unit → Response → Prop where
  | passed {a : Response} (status : a.status = 204) (body : a.body = []) : Answered (.ok ()) a
  | told {rej : Rejection} {a : Response} (status : a.status = 400) (body : body? (.dict rej.envelope) = some a.body) :
    Answered (.error (.rejected rej)) a
  | untold {rej : Rejection} {a : Response} (none : body? (.dict rej.envelope) = none) (status : a.status = 500)
      (body : a.body = internalErrorBody) : Answered (.error (.rejected rej)) a
  | fault {e : Fault} {a : Response} (leak : ∀ rej, e ≠ .rejected rej) (status : a.status = 500)
      (body : a.body = internalErrorBody) : Answered (.error e) a

/-- An ordinary rejection is answered with its envelope, or as an internal error when it cannot be told. -/
theorem answered_rejected {rej : Rejection} (h : rej.IsOrdinary) (method path : Text) (rows : List Log.Row) :
    Answered (.error (.rejected rej)) (rejected method path rows rej) := by
  unfold rejected
  cases hbody : body? (.dict rej.envelope) with
  | none => exact .untold hbody rfl rfl
  | some body => exact .told (status_of_isOrdinary h) hbody

/-- A fault that is no rejection ends as an internal error. -/
theorem concluded_of_leak {e : Fault} (h : ∀ rej, e ≠ .rejected rej) (method path : Text) (rows : List Log.Row) :
    concluded method path rows (.error e) = internalError method path rows := by
  cases e with
  | rejected rej => exact absurd rfl (h rej)
  | emptyFieldName => rfl
  | tooManyDigits _ => rfl
  | partOverflow _ => rfl
  | repeatedPart => rfl
  | notComparable _ => rfl
  | unwritable _ => rfl
  | foreignCode => rfl
  | illFormedReport => rfl

/-- What the gate concludes is answered so, when its rejections are ordinary. -/
theorem answered_concluded {outcome : Except Fault Unit} (h : ∀ rej, outcome = .error (.rejected rej) → rej.IsOrdinary)
    (method path : Text) (rows : List Log.Row) : Answered outcome (concluded method path rows outcome) := by
  cases outcome with
  | ok u => exact .passed rfl rfl
  | error e =>
    by_cases hrejected : ∃ rej, e = .rejected rej
    · obtain ⟨rej, rfl⟩ := hrejected
      exact answered_rejected (h rej rfl) method path rows
    · have hleak := not_exists.1 hrejected
      rw [concluded_of_leak hleak]
      exact .fault hleak rfl rfl

theorem office_names (mode : Mode) : ∀ f ∈ Gate.office.schema.fields mode, f.name ≠ [] := by
  cases mode <;> decide

theorem office_reportable (mode : Mode) : Gate.office.Reportable mode := by
  cases mode <;> exact ⟨by decide, by decide⟩

theorem office_hasShortLimits (mode : Mode) : Gate.office.HasShortLimits mode := by
  unfold Gate.HasShortLimits
  cases mode <;> decide

theorem office_isOrdinary {mode : Mode} {text : Option Text} {rej : Rejection}
    (h : Gate.office.validate mode text = .error (.rejected rej)) : rej.IsOrdinary :=
  Gate.isOrdinary_of_validate (office_names mode) (office_reportable mode) (office_hasShortLimits mode) h

/-- A request that brings a command is answered by what the gate of offices says of the command. -/
theorem answered_respond {F : Framework} (hF : F.Lawful) {r : Request} {mode : Mode} {text : Text} (h : r.Brings F mode text) :
    Answered (Gate.office.validate mode (some text)) (respond F r) := by
  obtain ⟨method, path, rows, hrespond⟩ := exists_respond_eq_concluded hF h
  rw [hrespond]
  exact answered_concluded (fun rej hvalidate => office_isOrdinary hvalidate) method path rows

/-- A command that is brought to the service is answered with an empty body and the status of no content exactly when it passes the
gate of offices. One that is rejected is answered as a bad request, with the envelope of its rejection as JSON, or as an internal error.
It is the former only when no surrogate stands in a text that the rejection takes over, and always then unless what it takes over is more
than a hundred and fifty levels deep. Nothing else is answered as a bad request, and every other fault is answered as an internal error. -/
theorem respond_command (F : Framework) (hF : F.Lawful) (r : Request) (mode : Mode) (text : Text) (h : r.Brings F mode text) :
    ((respond F r).status = 204 ∧ (respond F r).body = [] ↔ Gate.office.validate mode (some text) = .ok ()) ∧
      (∀ rej, Gate.office.validate mode (some text) = .error (.rejected rej) →
        ((respond F r).status = 400 ∧ Json.write .compact (.dict rej.envelope) = .ok (respond F r).body ∧ rej.Tellable ∨
            (respond F r).status = 500 ∧ (respond F r).body = internalErrorBody) ∧
          (rej.depth ≤ 150 →
            ((respond F r).status = 400 ∧ Json.write .compact (.dict rej.envelope) = .ok (respond F r).body ↔ rej.Tellable) ∧
              ((respond F r).status = 500 ∧ (respond F r).body = internalErrorBody ↔ ¬ rej.Tellable))) ∧
      ((respond F r).status = 400 → ∃ rej, Gate.office.validate mode (some text) = .error (.rejected rej)) ∧
      (∀ e, Gate.office.validate mode (some text) = .error e → (∀ rej, e ≠ .rejected rej) →
        (respond F r).status = 500 ∧ (respond F r).body = internalErrorBody) := by
  have hanswered := answered_respond hF h
  have hordinary : ∀ rej, Gate.office.validate mode (some text) = .error (.rejected rej) → rej.IsOrdinary := fun _ => office_isOrdinary
  generalize Gate.office.validate mode (some text) = outcome at hanswered hordinary
  generalize respond F r = a at hanswered
  cases hanswered with
  | passed hstatus hbody => simp [hstatus, hbody]
  | @told rej _ hstatus hbody =>
    obtain ⟨hwrite, htellable⟩ := of_body?_envelope (hordinary rej rfl) hbody
    simp [htellable, hstatus, hwrite]
  | @untold rej _ hnone hstatus hbody =>
    have huntellable : rej.depth ≤ 150 → ¬ rej.Tellable := by
      intro hdepth htellable
      obtain ⟨body, hsome⟩ := exists_body?_envelope (hordinary rej rfl) hdepth htellable
      rw [hnone] at hsome
      cases hsome
    simp +contextual [huntellable, hstatus, hbody]
  | fault hleak hstatus hbody => simp [hleak, hstatus, hbody]

/-- An update of the office of id 7 with no funds left is answered with the envelope of its violation. -/
theorem respond_update_without_funds :
    let r : Request := ⟨"PUT", "/offices/7/validate", "\x7b\"funds\": 0\x7d".toUTF8.data.toList⟩
    r.Brings .inProcess .update "\x7b\"funds\": 0\x7d" ∧
      ∃ rej, Gate.office.validate .update (some ("\x7b\"funds\": 0\x7d" : Text)) = .error (.rejected rej) ∧
        (respond .inProcess r).status = 400 ∧ Json.write .compact (.dict rej.envelope) = .ok (respond .inProcess r).body := by
  intro r
  have hbrings : r.Brings .inProcess .update "\x7b\"funds\": 0\x7d" := by
    have hlocate : locate? (Path.ofTarget r.target) = some (Endpoint.update "7", Text.ofString "/offices/7/validate") := by decide +kernel
    have hid : PathInteger.readAbove 0 "7" = .ok 7 := by decide +kernel
    have hreaches : r.Reaches .inProcess (.update "7") "PUT" "/offices/7/validate" := reaches_inProcess hlocate rfl rfl
    refine ⟨⟨_, _, _, hreaches, .update (officeId_inProcess hid)⟩, ?_⟩
    decide +kernel
  have hstatus : (respond .inProcess r).status = 400 := by decide +kernel
  obtain ⟨-, hrejected, hbad, -⟩ := respond_command .inProcess Framework.inProcess_lawful r .update _ hbrings
  obtain ⟨rej, hrej⟩ := hbad hstatus
  obtain ⟨-, hwrite, -⟩ | ⟨hcrash, -⟩ := (hrejected rej hrej).1
  · exact ⟨hbrings, rej, hrej, hstatus, hwrite⟩
  · rw [hstatus] at hcrash
    cases hcrash

/-- A command to create an office with a member whose name is half of a surrogate pair is rejected, and the client is not told so: the
answer is an internal error. -/
theorem respond_lone_surrogate :
    let r : Request := ⟨"POST", "/offices/validate", "\x7b\"\\ud800\": 1\x7d".toUTF8.data.toList⟩
    r.Brings .inProcess .create "\x7b\"\\ud800\": 1\x7d" ∧
      Gate.office.validate .create (some ("\x7b\"\\ud800\": 1\x7d" : Text)) =
        .error (.rejected (.unsupportedParameters [[⟨0xD800, by decide⟩]])) ∧
      (respond .inProcess r).status = 500 := by
  intro r
  have hbrings : r.Brings .inProcess .create "\x7b\"\\ud800\": 1\x7d" := by
    have hlocate : locate? (Path.ofTarget r.target) = some (Endpoint.create, Text.ofString "/offices/validate") := by decide +kernel
    have hreaches : r.Reaches .inProcess .create "POST" "/offices/validate" := reaches_inProcess hlocate rfl rfl
    refine ⟨⟨_, _, _, hreaches, .create⟩, ?_⟩
    decide +kernel
  have hread : Payload.read (some ("\x7b\"\\ud800\": 1\x7d" : Text)) = .ok [([⟨0xD800, by decide⟩], .int 1)] := by cbv
  have hunsupported : Gate.office.schema.unsupported [[⟨0xD800, by decide⟩]] = [[⟨0xD800, by decide⟩]] := by decide +kernel
  have hcause : Gate.office.StructureCause [([⟨0xD800, by decide⟩], .int 1)] (.unsupportedParameters [[⟨0xD800, by decide⟩]]) := by
    rw [← hunsupported]
    refine .unsupported ⟨[⟨0xD800, by decide⟩], ?_, ?_⟩
    · decide +kernel
    · decide +kernel
  refine ⟨hbrings, Gate.FirstCause.validate (by decide) (.unsound hread hcause), ?_⟩
  decide +kernel

end Service

end Admission
