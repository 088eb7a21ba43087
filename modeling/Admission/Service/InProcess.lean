import Admission.Json.Writer
import Admission.Service.Framework
import Admission.Service.Path
import Admission.Service.PathInteger
import Admission.Text.Case

/-!
# A framework in one process with its clients

The framework with which the service runs when its clients run in the same process: methods come in capitals and targets with
their octets read, and a path with slashes too many at its end leads where it leads without them.
-/

namespace Admission.Service

/-- The method that an endpoint answers to. -/
def Endpoint.method : Endpoint → Text
  | .health => "GET"
  | .create => "POST"
  | .update _ => "PUT"

/-- The endpoint at a path. -/
def endpointAt? (path : Text) : Option Endpoint :=
  match Path.segments path with
  | [root, a] => if root = [] ∧ a = Text.ofString "health" then some .health else none
  | [root, a, b] =>
    if root = [] ∧ a = Text.ofString "offices" ∧ b = Text.ofString "validate" then some .create else none
  | [root, a, id, b] =>
    if root = [] ∧ a = Text.ofString "offices" ∧ id ≠ [] ∧ b = Text.ofString "validate" then some (.update id) else none
  | _ => none

/-- The endpoint to which a path leads, and the path itself. -/
def locate? (path : Text) : Option (Endpoint × Text) :=
  match endpointAt? path with
  | some endpoint => some (endpoint, path)
  | none => (endpointAt? (Path.dropTrailingSlashes path)).map fun e => (e, Path.dropTrailingSlashes path)

/-- A response that tells one text; a request for the head alone gets no body. -/
def ownResponse (method : Text) (status : Nat) (detail : Text) : Response :=
  { status, body := if method = Text.ofString "HEAD" then [] else Json.Layout.compact.object [("detail", Json.writeString detail)],
    rows := [] }

/-- Where a target leads. -/
def routeInProcess (method target : Text) : Route :=
  match locate? (Path.ofTarget target) with
  | none => .own (ownResponse method 404 "Not Found")
  | some (endpoint, path) =>
    if method = endpoint.method then .endpoint endpoint method (Path.shown path)
    else .own (ownResponse method 405 "Method Not Allowed")

/-- The error of a parameter in a path that is no integer above a bound. -/
def PathIntegerFault.error (name : Text) (f : PathIntegerFault) : ParameterError :=
  { location := ["path", name], message := f.message, kind := f.kind }

namespace Framework

/-- The framework of a service that runs in one process with its clients. -/
def inProcess : Framework where
  route method target := routeInProcess method.upper target
  integerAbove name bound s := (PathInteger.readAbove bound s).mapError fun f => [PathIntegerFault.error name f]
  solve
    | .error r, _ => .error (.raised r)
    | .ok _, .error errors => .error (.refused errors)
    | .ok a, .ok b => .ok (a, b)

end Framework

end Admission.Service
