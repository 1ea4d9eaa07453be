import Switchyard.Routine
import Switchyard.Url

/-!
# Exchanges with a controller

The controller is asked over HTTP. A request says what is asked of which URL,
and what goes with it; it comes back with a response, or with the reason why
there is none.
-/

namespace Switchyard.Controller

/-- What is asked of a URL. -/
inductive Method where
  | get
  | put
deriving DecidableEq, Repr

def Method.name : Method → String
  | .get => "GET"
  | .put => "PUT"

/-- A request. Its body, if it has one, is JSON text, and its time limit is in
milliseconds. -/
structure Request where
  method : Method
  url : Url
  secret : Option String
  body : Option String
  timeLimit : Nat
deriving DecidableEq

/-- What the controller answers. -/
structure Response where
  status : Nat
  body : String
deriving DecidableEq, Repr

def Response.isSuccess (response : Response) : Bool :=
  decide (200 ≤ response.status ∧ response.status < 300)

/-- Why there is no response. -/
inductive NoResponse where
  | tooLate
  | broken (reason : String)
deriving DecidableEq, Repr

abbrev Reply := Except NoResponse Response

abbrev Inquiry (Result : Type) := Routine (fun _ : Request => Reply) Result

def unreachable (reason : String) (_ : Request) : Reply :=
  .error (.broken reason)

end Switchyard.Controller
