import Admission.Log.Row
import Admission.Rejection

/-!
# Frameworks

The service stands behind a framework, which it does not make itself. The framework leads a request to an endpoint, reads the
parameters that stand in its path, and puts together what the endpoint depends on before it calls it. `Framework.Lawful` is
what the service relies on; beside it a framework may do as it likes.
-/

namespace Admission.Service

/-- A request: the method, the target as requested, and the octets of the body. -/
structure Request where
  method : Text
  target : Text
  body : List UInt8

/-- A response: the status, the body, and the rows that were logged. -/
structure Response where
  status : Nat
  body : Text
  rows : List Log.Row

/-- What an address leads to; that of updates has a text in its path for the id of an office. -/
inductive Endpoint where
  | health
  | create
  | update (officeId : Text)
  deriving DecidableEq

/-- Where a request leads: to an endpoint, under the method and the path by which the log tells it, or to a response that the
framework makes itself. -/
inductive Route where
  | endpoint (endpoint : Endpoint) (method path : Text)
  | own (response : Response)

/-- What is wrong with a parameter: where it stands, from the outside in, a message, and of which kind the error is. -/
structure ParameterError where
  location : List Text
  message : Text
  kind : Text

/-- Why an endpoint is not called: what it depends on was rejected, or its parameters are wrong. -/
inductive Uncalled where
  | raised (r : Rejection)
  | refused (errors : List ParameterError)

/-- A framework: where it leads a method and a target, how it reads an integer above a bound from the text of a parameter in a
path, and what it makes of that on which an endpoint depends together with the parameters of the endpoint. -/
structure Framework where
  route : Text → Text → Route
  integerAbove : (name : Text) → (bound : Int) → Text → Except (List ParameterError) Int
  solve : {α β : Type} → Except Rejection α → Except (List ParameterError) β → Except Uncalled (α × β)

/-- What the service relies on in a framework. -/
structure Framework.Lawful (F : Framework) : Prop where
  /-- What an endpoint depends on is put together before a wrong parameter is told. -/
  solve_raised : ∀ {α β : Type} (r : Rejection) (parameters : Except (List ParameterError) β),
    F.solve (.error r : Except Rejection α) parameters = .error (.raised r)
  /-- Wrong parameters are told together. -/
  solve_refused : ∀ {α β : Type} (a : α) (errors : List ParameterError),
    F.solve (.ok a) (.error errors : Except (List ParameterError) β) = .error (.refused errors)
  /-- Where nothing is wrong, an endpoint is called. -/
  solve_called : ∀ {α β : Type} (a : α) (b : β), F.solve (.ok a) (.ok b) = .ok (a, b)
  /-- A bound of a parameter is kept. -/
  above : ∀ {name : Text} {bound n : Int} {s : Text}, F.integerAbove name bound s = .ok n → bound < n
  /-- A text that is no such integer is told in one error at its place in the path, in texts without surrogates. -/
  located : ∀ {name : Text} {bound : Int} {s : Text} {errors : List ParameterError}, F.integerAbove name bound s = .error errors →
    ∃ message kind, errors = [{ location := ["path", name], message, kind }] ∧ message.isWellFormed = true ∧
      kind.isWellFormed = true

end Admission.Service
