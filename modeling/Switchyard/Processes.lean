/-!
# Processes

Every running process has a number. A signal can be sent to a number; without a
signal the sending only finds out whether there is somebody to get one. The
number zero stands for the sender's whole process group.
-/

namespace Switchyard

/-- The signals that are sent and heeded here. -/
inductive Signal where
  | hangUp
  | interrupt
  | terminate
deriving DecidableEq, Repr

namespace Signal

def number : Signal → Nat
  | .hangUp => 1
  | .interrupt => 2
  | .terminate => 15

end Signal

/-- Why a signal was not delivered. -/
inductive Undelivered where
  | noSuchProcess
  | notPermitted
deriving DecidableEq, Repr

def Undelivered.message : Undelivered → String
  | .noSuchProcess => "ESRCH: No such process"
  | .notPermitted => "EPERM: Operation not permitted"

/-- The processes of a machine as one of them sees them: its own number, the
numbers of the running processes, and the signals it has sent, each with the
number it was sent to. -/
structure Processes where
  own : Nat
  running : List Nat
  sent : List (Nat × Signal)
deriving DecidableEq, Repr

namespace Processes

def canReach (processes : Processes) (target : Nat) : Bool :=
  target == 0 || target == processes.own || processes.running.contains target

/-- Sends a signal, or only finds out whether somebody would get it. -/
def send (target : Nat) (signal : Option Signal) (processes : Processes) :
    Except Undelivered Unit × Processes :=
  if processes.canReach target then
    (.ok (), { processes with
      sent :=
        processes.sent ++ (signal.map fun signal => (target, signal)).toList })
  else (.error .noSuchProcess, processes)

end Processes

end Switchyard
