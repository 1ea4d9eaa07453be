import Switchyard.Bus
import Switchyard.Failure
import Switchyard.Group
import Switchyard.Policy
import Switchyard.Routine
import Switchyard.Selection

/-!
# Requests of the control loop

The control loop works with parties that it does not know: a store, a
controller, a memory of selections, a bus and a clock. All it does with them is
to make requests and to go on with the answers.
-/

namespace Switchyard.Control

/-- How a probe of a group ended: by itself, or because it took longer than
allowed. -/
inductive ProbeEnd where
  | finished (result : Except ControllerError Unit)
  | outlasted

/-- What the control loop may ask of the parties around it. Lengths of time are
in nanoseconds. -/
inductive Request where
  | readPolicy
  | readStored
  | writePolicy (policy : Policy)
  | recordStatus (message : String)
  | publish (notice : Notice)
  | activeProfile
  | remember (selection : Selection)
  /-- Have all members of a group measured, for no longer than a limit. -/
  | probe (group : String) (limit : Nat)
  | query (group : String) (order : MemberOrder)
  | apply (group proxy : String)
  | pause (length : Nat)
deriving DecidableEq

abbrev Request.Answer : Request → Type
  | .readPolicy => Except StoreError Policy
  | .readStored => Except StoreError Policy
  | .writePolicy _ => Except StoreError Unit
  | .recordStatus _ => Except StoreError Unit
  | .publish _ => Unit
  | .activeProfile => Option String
  | .remember _ => Except StoreError Unit
  | .probe _ _ => ProbeEnd
  | .query _ _ => Except ControllerError Group
  | .apply _ _ => Except ControllerError Bool
  | .pause _ => Unit

abbrev Work (Result : Type) := Routine Request.Answer Result

abbrev ask (request : Request) : Work request.Answer := Routine.call request

end Switchyard.Control
