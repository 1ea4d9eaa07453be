import Switchyard.Bus
import Switchyard.Processes

/-!
# Control signals

A running daemon can be asked from outside to stop or to look again at once.
-/

namespace Switchyard

/-- What a running daemon can be asked. -/
inductive ControlSignal where
  | stop
  | reload
deriving DecidableEq, Repr

namespace ControlSignal

def name : ControlSignal → String
  | .stop => "STOP"
  | .reload => "RELOAD"

def ofName? : String → Option ControlSignal
  | "STOP" => some .stop
  | "RELOAD" => some .reload
  | _ => none

def notice : ControlSignal → Notice
  | .stop => .engineStopped
  | .reload => .profileReloaded

def carrier : ControlSignal → Signal
  | .stop => .terminate
  | .reload => .hangUp

def ofSignal : Signal → ControlSignal
  | .terminate => .stop
  | .interrupt => .stop
  | .hangUp => .reload

def stops : ControlSignal → Bool
  | .stop => true
  | .reload => false

end ControlSignal

end Switchyard
