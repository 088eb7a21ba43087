import Admission.Proofs.Traversal
import Admission.Proofs.WellFormed
import Admission.Service.InProcess
import Admission.Service.Respond

/-!
# Requests for the check of a command

Two endpoints check commands, each those of one mode. A request that a framework leads to one of them is handled in one of three ways
(`Handled`): its body is not UTF-8, or the office that it is about is not named by an id, or the command in its body is checked. A lawful
framework puts the text of the body together before it tells that the id is none.
-/

namespace Admission

/-- An integer that is read above a bound is above it. -/
theorem PathInteger.lt_of_readAbove {bound n : Int} {s : Text} (h : readAbove bound s = .ok n) : bound < n := by
  unfold readAbove at h
  split at h
  · cases h
  · split at h
    · cases h
    · split at h
      · next habove =>
        cases h
        exact habove
      · cases h

theorem PathIntegerFault.isWellFormed_message (f : PathIntegerFault) : f.message.isWellFormed = true := by
  cases f with
  | notAbove bound => rw [message, Text.isWellFormed_append, Text.isWellFormed_ofString, Text.isWellFormed_ofInt, Bool.and_self]
  | unreadable => exact Text.isWellFormed_ofString _
  | tooLong => exact Text.isWellFormed_ofString _

theorem PathIntegerFault.isWellFormed_kind (f : PathIntegerFault) : f.kind.isWellFormed = true := by
  cases f <;> exact Text.isWellFormed_ofString _

namespace Service

theorem Framework.integerAbove_inProcess (name : Text) (bound : Int) (s : Text) :
    inProcess.integerAbove name bound s = (PathInteger.readAbove bound s).mapError fun f => [PathIntegerFault.error name f] := rfl

/-- The framework of a service in one process with its clients does what the service relies on. -/
theorem Framework.inProcess_lawful : Framework.inProcess.Lawful where
  solve_raised _ _ := rfl
  solve_refused _ _ := rfl
  solve_called _ _ := rfl
  above := by
    intro name bound n s h
    rw [integerAbove_inProcess] at h
    exact PathInteger.lt_of_readAbove (mapError_eq_ok_iff.1 h)
  located := by
    intro name bound s errors h
    rw [integerAbove_inProcess] at h
    obtain ⟨f, -, rfl⟩ := mapError_eq_error_iff.1 h
    exact ⟨f.message, f.kind, rfl, f.isWellFormed_message, f.isWellFormed_kind⟩

/-- A framework leads a request to an endpoint, under a method and a path. -/
def Request.Reaches (F : Framework) (r : Request) (endpoint : Endpoint) (method path : Text) : Prop :=
  F.route r.method r.target = .endpoint endpoint method path

/-- A request reaches the endpoint at the path of its target by the method of the endpoint, whatever the case of the method. -/
theorem reaches_inProcess {r : Request} {endpoint : Endpoint} {located path : Text}
    (hlocate : locate? (Path.ofTarget r.target) = some (endpoint, located)) (hmethod : r.method.upper = endpoint.method)
    (hpath : Path.shown located = path) : r.Reaches .inProcess endpoint endpoint.method path := by
  have hroute : Framework.inProcess.route r.method r.target = routeInProcess r.method.upper r.target := rfl
  rw [Request.Reaches, hroute, routeInProcess, hlocate, ← hpath, ← hmethod]
  exact if_pos hmethod

theorem officeId_inProcess {s : Text} {n : Int} (h : PathInteger.readAbove 0 s = .ok n) : officeId .inProcess s = .ok n := by
  rw [officeId, Framework.integerAbove_inProcess, h]
  rfl

theorem officeId_inProcess_error {s : Text} {f : PathIntegerFault} (h : PathInteger.readAbove 0 s = .error f) :
    officeId .inProcess s = .error [PathIntegerFault.error "office_id" f] := by
  rw [officeId, Framework.integerAbove_inProcess, h]
  rfl

/-- An endpoint checks commands of a mode. -/
inductive Endpoint.Checks : Endpoint → Mode → Prop where
  | create : Endpoint.Checks .create .create
  | update (id : Text) : Endpoint.Checks (.update id) .update

/-- An endpoint names no office, or it names one by an id. -/
def Endpoint.IsNamed (F : Framework) (endpoint : Endpoint) : Prop := ∀ id, endpoint = .update id → ∃ n, officeId F id = .ok n

/-- How a request for the check of a command is handled: its body is no text, or it is one and the office has no id, or the text is
checked. -/
inductive Handled (F : Framework) (r : Request) (endpoint : Endpoint) (mode : Mode) (method path : Text) : Response → Prop where
  | undecoded (body : Utf8.decode? r.body = none) : Handled F r endpoint mode method path (rejected method path [] notUtf8)
  | misnamed {text id : Text} {errors : List ParameterError} (body : Utf8.decode? r.body = some text) (named : endpoint = .update id)
      (wrong : officeId F id = .error errors) : Handled F r endpoint mode method path (refused method path errors)
  | checked {text : Text} (body : Utf8.decode? r.body = some text) (named : endpoint.IsNamed F) :
    Handled F r endpoint mode method path (checked method path mode text)

section Framework

variable {F : Framework} {r : Request} {endpoint : Endpoint} {mode : Mode} {method path : Text}

theorem Request.Reaches.respond_eq (h : r.Reaches F endpoint method path) :
    respond F r = answer F method path r.body endpoint := by
  rw [respond, h]

theorem rawBody_of_decode? {body : List UInt8} {text : Text} (h : Utf8.decode? body = some text) : rawBody body = .ok text := by
  rw [rawBody, h]

theorem rawBody_of_undecoded {body : List UInt8} (h : Utf8.decode? body = none) : rawBody body = .error notUtf8 := by
  rw [rawBody, h]

/-- A request for the check of a command is handled in one of these ways by a lawful framework. -/
theorem handled_respond (hF : F.Lawful) (h : r.Reaches F endpoint method path) (hchecks : endpoint.Checks mode) :
    Handled F r endpoint mode method path (respond F r) := by
  rw [h.respond_eq]
  cases hbody : Utf8.decode? r.body with
  | none =>
    have hraised : answer F method path r.body endpoint = rejected method path [] notUtf8 := by
      cases hchecks <;> rw [answer, rawBody_of_undecoded hbody, hF.solve_raised, handled]
    rw [hraised]
    exact .undecoded hbody
  | some text =>
    cases hchecks with
    | create =>
      rw [answer, rawBody_of_decode? hbody, hF.solve_called, handled]
      exact .checked hbody (fun _ heq => by cases heq)
    | update id =>
      rw [answer, rawBody_of_decode? hbody]
      cases hid : officeId F id with
      | error errors =>
        rw [hF.solve_refused, handled]
        exact .misnamed hbody rfl hid
      | ok n =>
        have hnamed : (Endpoint.update id).IsNamed F := by
          rintro _ ⟨rfl⟩
          exact ⟨n, hid⟩
        rw [hF.solve_called, handled]
        exact .checked hbody hnamed

end Framework

end Service

end Admission
