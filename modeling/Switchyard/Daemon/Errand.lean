import Switchyard.Control.Request
import Switchyard.Daemon.Setup

/-!
# Errands

What the control loop asks for, the daemon gets from its host and from the
controller. An errand is the work that serves one request of the loop. Letting
time pass and putting notices on the bus need no errand.
-/

namespace Switchyard.Daemon

/-- What an errand may ask of the world. -/
inductive Request where
  | host (request : Host.Request)
  | controller (request : Controller.Request)

abbrev Request.Answer : Request → Type
  | .host request => request.Answer
  | .controller _ => Controller.Reply

abbrev Errand (Result : Type) := Routine Request.Answer Result

def onHost {Result : Type} (work : Host.Work Result) : Errand Result :=
  work.relay Request.host fun _ given => given

def onDisk {Result : Type} (work : Files.Work Result) : Errand Result :=
  onHost (Host.onDisk work)

def inquire {Result : Type} (inquiry : Controller.Inquiry Result) :
    Errand Result :=
  inquiry.relay Request.controller fun _ given => given

/-- The errand that serves a request which the loop makes at a moment, given in
milliseconds. -/
def Setup.errand (setup : Setup) (moment : Int64) :
    (request : Control.Request) → Errand request.Answer
  | .readPolicy => onDisk setup.folder.policy
  | .readStored => onDisk setup.folder.stored
  | .writePolicy policy => onDisk (setup.folder.update policy)
  | .recordStatus message => onDisk (setup.folder.record ⟨moment, message⟩)
  | .publish _ => pure ()
  | .activeProfile => pure setup.selections.profile
  | .remember selection => onDisk (setup.selections.save selection)
  | .probe group _ => do pure (.finished (← inquire (setup.client.probe group)))
  | .query group order => inquire (setup.client.query group order)
  | .apply group proxy => inquire (setup.client.select group proxy)
  | .pause _ => pure ()

end Switchyard.Daemon
