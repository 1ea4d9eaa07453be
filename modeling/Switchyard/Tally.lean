import Switchyard.Json
import Switchyard.Quotient53

/-!
# The tally of a run

The control loop counts what it does. The counters only grow.
-/

namespace Switchyard

/-- How often each thing happened since the run began. -/
structure Tally where
  cycles : Nat
  evaluations : Nat
  switches : Nat
  skips : Nat
  transientFailures : Nat
  unexpectedErrors : Nat
  wakeupsByEvent : Nat
  wakeupsByTimeout : Nat
deriving DecidableEq, Repr

namespace Tally

def zero : Tally := ⟨0, 0, 0, 0, 0, 0, 0, 0⟩

instance : Inhabited Tally := ⟨zero⟩

def countCycle (tally : Tally) : Tally :=
  { tally with cycles := tally.cycles + 1 }

def countEvaluation (tally : Tally) : Tally :=
  { tally with evaluations := tally.evaluations + 1 }

def countSwitch (tally : Tally) : Tally :=
  { tally with switches := tally.switches + 1 }

def countSkip (tally : Tally) : Tally := { tally with skips := tally.skips + 1 }

def countTransientFailure (tally : Tally) : Tally :=
  { tally with transientFailures := tally.transientFailures + 1 }

def countUnexpectedError (tally : Tally) : Tally :=
  { tally with unexpectedErrors := tally.unexpectedErrors + 1 }

def countWakeup (byEvent : Bool) (tally : Tally) : Tally :=
  if byEvent then { tally with wakeupsByEvent := tally.wakeupsByEvent + 1 }
  else { tally with wakeupsByTimeout := tally.wakeupsByTimeout + 1 }

/-- The millionths of a switch for each evaluation. The quotient is a binary
number of 53 digits before it is rounded to millionths. -/
def switchMillionths (tally : Tally) : Nat :=
  if tally.evaluations = 0 then 0
  else
    let quotient := Quotient53.of tally.switches tally.evaluations
    divideToEven (quotient.digits * 1000000) (1 <<< quotient.places)

def switchRate (tally : Tally) : String :=
  let millionths := tally.switchMillionths
  let decimals := toString (millionths % 1000000)
  toString (millionths / 1000000) ++ "." ++
    String.ofList (List.replicate (6 - decimals.length) '0') ++ decimals

def toJson (tally : Tally) : Json :=
  let count (name : String) (value : Nat) : String × Json :=
    (name, .ofNat value)
  .object [
    count "cycles" tally.cycles, count "evaluations" tally.evaluations,
    count "switches" tally.switches, count "skips" tally.skips,
    count "transient_failures" tally.transientFailures,
    count "unexpected_errors" tally.unexpectedErrors,
    count "wakeups_by_event" tally.wakeupsByEvent,
    count "wakeups_by_timeout" tally.wakeupsByTimeout,
    ("switch_rate", .text tally.switchRate)]

end Tally

end Switchyard
