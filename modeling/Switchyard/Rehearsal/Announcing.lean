import Switchyard.Control.Loop
import Switchyard.Rehearsal.Script

/-!
# Rehearsed reports

Reports are announced one after the other to a store and to a bus with one
receiver.
-/

namespace Switchyard.Rehearsal

open Control (Loop Surroundings)

/-- What announcing a report led to: its message, the message that is visible in
the store then, the number of statuses recorded so far, and the notice that the
receiver got. -/
structure Announcement where
  message : String
  visible : Option String
  recorded : Nat
  notice : Option Notice

def announceFrom (locale : Locale) (receiver : Nat) :
    Surroundings Scene → List Report → List Announcement
  | _, [] => []
  | around, report :: reports =>
    let (_, around) := (Loop.announce locale report).run
      (Surroundings.answer fun request => Scene.answer request) around
    let (found, bus) := around.bus.receive receiver
    { message := report.text locale
      visible := around.outside.store.status?.map StatusRecord.message
      recorded := around.outside.store.history.length
      notice := match found with
        | .notice notice => some notice
        | _ => none } :: announceFrom locale receiver { around with
          bus := bus } reports

def rehearseReports (locale : Locale) (faults : StoreFaults)
    (reports : List Report) : List Announcement :=
  let (receiver, bus) := (Bus.withCapacity Bus.usualCapacity).subscribe
  let scene := { Scene.opening .plain .initial none with storeFaults := faults }
  announceFrom locale receiver ⟨scene, 0, false, bus⟩ reports

end Switchyard.Rehearsal
