import Admission.Proofs.ErrorBodies
import Admission.Proofs.TextParts

/-!
# Which fault of an update is told

A request to update an office can be wrong in its octets, in the id of the office and in its command, in any combination. Octets that
are no text are told first, an id that is none next, and only then what the gate says of the command (`respond_update`). Nothing of the
answer depends on which id it is.
-/

namespace Admission

/-! ## Paths of updates -/

namespace Service

/-- The path of the updates of an office. -/
def updatePath (id : Text) : Text := "/offices/" ++ (id ++ "/validate")

/-- Every segment that is not empty names an office to be updated, though it may be no id. -/
theorem locate?_updatePath {id : Text} (hne : id ≠ []) (hslash : CodePoint.ofChar '/' ∉ id) :
    locate? (updatePath id) = some (.update id, updatePath id) := by
  have hparts : Path.segments (updatePath id) = [[], "offices", id, "validate"] := by
    have hroot : updatePath id = [] ++ CodePoint.ofChar '/' ::
        (("offices" : Text) ++ CodePoint.ofChar '/' :: (id ++ CodePoint.ofChar '/' :: ("validate" : Text))) := rfl
    have hlast : (updatePath id).getLast? ≠ some (CodePoint.ofChar '\n') := by
      have hend : updatePath id = "/offices/" ++ (id ++ "/validat") ++ [CodePoint.ofChar 'e'] := by
        simp [updatePath, Text.ofString]
      rw [hend, List.getLast?_append_cons]
      decide
    rw [Path.segments, if_neg hlast, hroot, Text.splitOn_append_cons (by simp), Text.splitOn_append_cons (by decide),
      Text.splitOn_append_cons hslash, Text.splitOn_of_not_mem (by decide)]
  have hendpoint : endpointAt? (updatePath id) = some (.update id) := by
    rw [endpointAt?, hparts]
    simp [hne]
  rw [locate?, hendpoint]

/-- A request by the method of updates to such a path reaches the endpoint of updates of a service in one process with its clients. -/
theorem reaches_update {r : Request} {id : Text} (hne : id ≠ []) (hslash : CodePoint.ofChar '/' ∉ id)
    (hpath : Path.ofTarget r.target = updatePath id) (hmethod : r.method.upper = "PUT") :
    r.Reaches .inProcess (.update id) "PUT" (Path.shown (updatePath id)) := by
  refine reaches_inProcess ?_ hmethod rfl
  rw [hpath]
  exact locate?_updatePath hne hslash

/-! ## Precedence -/

/-- What the gate says of a command settles the status and the body of an answer to it. -/
theorem Answered.unique {outcome : Except Fault Unit} {a b : Response} (ha : Answered outcome a) (hb : Answered outcome b) :
    a.status = b.status ∧ a.body = b.body := by
  cases ha with
  | passed status body =>
    cases hb with
    | passed status' body' => exact ⟨by rw [status, status'], by rw [body, body']⟩
  | told status body =>
    cases hb with
    | told status' body' =>
      rw [body] at body'
      exact ⟨by rw [status, status'], Option.some.inj body'⟩
    | untold none _ _ => simp [body] at none
    | fault leak _ _ => exact absurd rfl (leak _)
  | untold none status body =>
    cases hb with
    | told _ body' => simp [none] at body'
    | untold _ status' body' => exact ⟨by rw [status, status'], by rw [body, body']⟩
    | fault leak _ _ => exact absurd rfl (leak _)
  | fault leak status body =>
    cases hb with
    | told _ _ => exact absurd rfl (leak _)
    | untold _ _ _ => exact absurd rfl (leak _)
    | fault _ status' body' => exact ⟨by rw [status, status'], by rw [body, body']⟩

section Framework

variable {F : Framework} {r : Request} {id method path : Text}

/-- An update whose octets are no text is answered for them, whatever names the office. -/
theorem respond_of_undecoded (hF : F.Lawful) (h : r.Reaches F (.update id) method path) (hbody : Utf8.decode? r.body = none) :
    (respond F r).status = 400 ∧ Json.read (respond F r).body = .ok (.dict notUtf8.envelope) := by
  have hraises : r.Raises F notUtf8 := .undecoded h (.update id) hbody
  have htellable : notUtf8.Tellable := by decide
  have hdepth : notUtf8.depth ≤ 150 := by decide
  obtain ⟨body, hsome⟩ := exists_body?_envelope notUtf8_isOrdinary hdepth htellable
  have hstatus : (respond F r).status = 400 := by
    obtain ⟨-, method, path, rows, hrespond⟩ := hraises.exists_rejected hF
    rw [hrespond, rejected, hsome]
    rfl
  exact ⟨hstatus, (hraises.tells hF hstatus).2.read_eq (notUtf8_isOrdinary.depth_envelope_le_nestingLimit hdepth)⟩

/-- An update whose octets are a text is answered for its office id when that is none, whatever the text is. -/
theorem respond_of_misnamed (hF : F.Lawful) (h : r.Reaches F (.update id) method path) {text : Text}
    (hbody : Utf8.decode? r.body = some text) {errors : List ParameterError} (hid : officeId F id = .error errors) :
    (respond F r).status = 422 ∧ (∃ e, errors = [e] ∧ e.field = "path.office_id") ∧
      Json.read (respond F r).body = .ok (.dict (parameterReport errors)) := by
  have hhandled := handled_respond hF h (.update id)
  generalize respond F r = response at hhandled
  cases hhandled with
  | undecoded body => simp [hbody] at body
  | misnamed _ named wrong =>
    obtain rfl := Endpoint.update.inj named
    rw [hid] at wrong
    obtain rfl := Except.error.inj wrong
    obtain ⟨hone, body, hrefused, hread⟩ := exists_refused hF hid method path
    rw [hrefused]
    exact ⟨rfl, hone, hread⟩
  | checked _ named =>
    obtain ⟨n, hn⟩ := named id rfl
    simp [hid] at hn

/-- An update whose octets are a text and whose office id is one is answered by what the gate says of the text. -/
theorem answered_update (hF : F.Lawful) (h : r.Reaches F (.update id) method path) {text : Text} (hbody : Utf8.decode? r.body = some text)
    {n : Int} (hid : officeId F id = .ok n) : Answered (Gate.office.validate .update (some text)) (respond F r) := by
  refine answered_respond hF (h.brings (.update id) hbody ?_)
  rintro _ ⟨rfl⟩
  exact ⟨n, hid⟩

end Framework

/-- A request to update an office whose octets are no text is answered for them, whatever names the office. One whose octets are a text is
answered for its office id when that is none, whatever the text is. When it is one, the request is answered by what the gate says of the
text as an update, and just as any other with the same octets and an id that is one. -/
theorem respond_update (F : Framework) (hF : F.Lawful) (r : Request) (id method path : Text)
    (h : r.Reaches F (.update id) method path) :
    (Utf8.decode? r.body = none →
        (respond F r).status = 400 ∧ Json.read (respond F r).body = .ok (.dict notUtf8.envelope) ∧
          notUtf8.envelope.get "code" = .str "MALFORMED_PAYLOAD") ∧
      ∀ text, Utf8.decode? r.body = some text →
        (∀ errors, officeId F id = .error errors →
          (respond F r).status = 422 ∧ (∃ e, errors = [e] ∧ e.field = "path.office_id") ∧
            Json.read (respond F r).body = .ok (.dict (parameterReport errors))) ∧
        ∀ n, officeId F id = .ok n →
          0 < n ∧ Answered (Gate.office.validate .update (some text)) (respond F r) ∧
            ∀ (r' : Request) (id' method' path' : Text) (n' : Int), r'.Reaches F (.update id') method' path' →
              officeId F id' = .ok n' → r'.body = r.body →
                (respond F r').status = (respond F r).status ∧ (respond F r').body = (respond F r).body := by
  constructor
  · intro hbody
    obtain ⟨hstatus, htold⟩ := respond_of_undecoded hF h hbody
    exact ⟨hstatus, htold, rfl⟩
  · intro text hbody
    refine ⟨fun errors hid => respond_of_misnamed hF h hbody hid, fun n hid => ?_⟩
    refine ⟨hF.above hid, answered_update hF h hbody hid, ?_⟩
    intro r' id' method' path' n' hreaches' hid' hsame
    exact (answered_update hF hreaches' (hsame ▸ hbody) hid').unique (answered_update hF h hbody hid)

/-- A request to update an office, by its target and the octets of its body. -/
def updateOf (target : Text) (body : List UInt8) : Request := { method := "PUT", target, body }

/-- An update of the office of id 0 is answered for an octet that is no text, and for the id when it holds a brace alone. With a brace
alone, updates of the office of id 7 and of that of id 12, which has a plus and zeros in front, are answered alike. -/
theorem respond_update_three_ids :
    let ill := updateOf "/offices/0/validate" [0xFF]
    let zero := updateOf "/offices/0/validate" [0x7B]
    let seven := updateOf "/offices/7/validate" [0x7B]
    let twelve := updateOf "/offices/+0012/validate" [0x7B]
    ((respond .inProcess ill).status = 400 ∧ Json.read (respond .inProcess ill).body = .ok (.dict notUtf8.envelope)) ∧
      ((respond .inProcess zero).status = 422 ∧
        Json.read (respond .inProcess zero).body =
          .ok (.dict (parameterReport [PathIntegerFault.error "office_id" (.notAbove 0)]))) ∧
      (respond .inProcess seven).status = 400 ∧
      (respond .inProcess twelve).status = (respond .inProcess seven).status ∧
      (respond .inProcess twelve).body = (respond .inProcess seven).body := by
  intro ill zero seven twelve
  have htarget : Path.ofTarget "/offices/0/validate" = updatePath "0" := by decide +kernel
  have hmethod : Text.upper "PUT" = "PUT" := by decide +kernel
  have hreaches : ∀ body, (updateOf "/offices/0/validate" body).Reaches .inProcess (.update "0") "PUT" (Path.shown (updatePath "0")) :=
    fun body => reaches_update (by decide) (by decide) htarget hmethod
  have hseven : seven.Reaches .inProcess (.update "7") "PUT" (Path.shown (updatePath "7")) :=
    reaches_update (by decide) (by decide) (by decide +kernel) hmethod
  have htwelve : twelve.Reaches .inProcess (.update "+0012") "PUT" (Path.shown (updatePath "+0012")) :=
    reaches_update (by decide) (by decide) (by decide +kernel) hmethod
  have hzero : PathInteger.readAbove 0 "0" = .error (.notAbove 0) := by decide +kernel
  have hid : PathInteger.readAbove 0 "7" = .ok 7 := by decide +kernel
  have hid' : PathInteger.readAbove 0 "+0012" = .ok 12 := by decide +kernel
  have hlawful := Framework.inProcess_lawful
  obtain ⟨hundecoded, -⟩ := respond_update .inProcess hlawful ill "0" _ _ (hreaches [0xFF])
  obtain ⟨-, hdecoded⟩ := respond_update .inProcess hlawful zero "0" _ _ (hreaches [0x7B])
  obtain ⟨-, hupdate⟩ := respond_update .inProcess hlawful seven "7" _ _ hseven
  obtain ⟨hill, hillBody, -⟩ := hundecoded (by decide)
  obtain ⟨hmisnamed, -⟩ := hdecoded "\x7b" (by decide)
  obtain ⟨hstatus, -, hbody⟩ := hmisnamed _ (officeId_inProcess_error hzero)
  obtain ⟨-, hnamed⟩ := hupdate "\x7b" (by decide)
  obtain ⟨-, -, hsame⟩ := hnamed 7 (officeId_inProcess hid)
  obtain ⟨hstatuses, hbodies⟩ := hsame twelve "+0012" _ _ 12 htwelve (officeId_inProcess hid') rfl
  exact ⟨⟨hill, hillBody⟩, ⟨hstatus, hbody⟩, by decide +kernel, hstatuses, hbodies⟩

end Service

end Admission
