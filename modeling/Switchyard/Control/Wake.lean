import Switchyard.Bus

/-!
# Waking up

Between two cycles the loop waits on its receiver, with or without a deadline. A
cancellation wins over everything, and what the receiver finds wins over a
deadline that has passed. Notices about a new status are passed over.
-/

namespace Switchyard.Control

/-- What ended a wait. -/
inductive Wake where
  | event (notice : Notice)
  | lagged (missed : Nat)
  | timeout
  | cancelled
  | closed
deriving DecidableEq, Repr

namespace Wake

def isEvent : Wake → Bool
  | .event _ => true
  | .lagged _ => true
  | _ => false

def isDue (now : Nat) : Option Nat → Bool
  | none => false
  | some deadline => decide (deadline ≤ now)

/-- Looks whether a wait is over. What the receiver passed over stays passed
over also when the wait goes on. -/
def look (receiver : Nat) (deadline : Option Nat) (now : Nat)
    (isCancelled : Bool) (bus : Bus) : Option Wake × Bus :=
  if isCancelled then (some .cancelled, bus)
  else
    match bus.receiveRelevant receiver with
    | (.notice notice, bus) => (some (.event notice), bus)
    | (.missed count, bus) => (some (.lagged count), bus)
    | (.closed, bus) => (some .closed, bus)
    | (.nothing, bus) =>
      (if isDue now deadline then some .timeout else none, bus)

end Wake

end Switchyard.Control
