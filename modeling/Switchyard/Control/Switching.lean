import Switchyard.Control.Request
import Switchyard.Decision
import Switchyard.Timing

/-!
# Making a move

A move is applied once. When the controller takes it, it is remembered, and then
the group is queried a few times, with a pause before each query, until the
target shows up as the selection. Whether it could be remembered changes
nothing.
-/

namespace Switchyard.Control

/-- How a move came out, if nothing failed. -/
inductive SwitchResult where
  | confirmed
  | applyFailed
  | confirmFailed (observed : Option String)
deriving DecidableEq, Repr

/-- Remembers that a proxy was applied to a group, if there is an active
profile. -/
def rememberSelection (group proxy : String) : Work Unit := do
  match ← ask .activeProfile with
  | none => pure ()
  | some profile =>
    let _ ← ask (.remember ⟨profile, group, proxy⟩)
    pure ()

/-- Waits for the target to show up as the selection, for a number of queries at
most. The last argument is what the query before showed. -/
def confirm (timing : Timing) (group target : String) :
    Nat → Option String → Work (Except ControllerError SwitchResult)
  | 0, observed => pure (.ok (.confirmFailed observed))
  | attempts + 1, _ => do
    ask (.pause (Duration.ofMillis timing.confirmInterval.toNat))
    match ← ask (.query group .byDelay) with
    | .error error => pure (.error error)
    | .ok seen =>
      if seen.selected? = some target then pure (.ok .confirmed)
      else confirm timing group target attempts seen.selectedDisplay?

def makeMove (timing : Timing) (group : String) (plan : Move) :
    Work (Except ControllerError SwitchResult) := do
  match ← ask (.apply group plan.target.name) with
  | .error error => pure (.error error)
  | .ok false => pure (.ok .applyFailed)
  | .ok true =>
    rememberSelection group plan.target.name
    confirm timing group plan.target.name timing.confirmAttempts.toNat none

end Switchyard.Control
