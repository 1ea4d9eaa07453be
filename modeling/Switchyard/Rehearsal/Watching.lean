import Switchyard.Files.Disk
import Switchyard.Watcher

/-!
# Rehearsed watching

A watcher is set on a file of a folder while files of that folder are written,
removed and renamed. After each act there is time enough for the watcher to
announce what it has gathered.
-/

namespace Switchyard.Rehearsal

open Files (Disk Event)

/-- What may be done to the files of a folder, or to the watcher. -/
inductive FileAct where
  | write (names : List String)
  | remove (names : List String)
  | rename (source target : String)
  | cancel
deriving DecidableEq, Repr

/-- What can be seen of a watcher after an act. -/
inductive Announced where
  | changed
  | nothing
  | closed
deriving DecidableEq, Repr

def Announced.name : Announced → String
  | .changed => "config_changed"
  | .nothing => "nothing"
  | .closed => "closed"

/-- The events of one change of a file, if it succeeds, and the disk after
it. -/
def eventsOf (outcome : Except Files.Fault Unit × Disk) (events : List Event) :
    List Event × Disk :=
  match outcome.1 with
  | .ok () => (events, outcome.2)
  | .error _ => ([], outcome.2)

def writeFile (path : String) (disk : Disk) : List Event × Disk :=
  eventsOf (disk.save path []) [
    ⟨.creation, [path]⟩, ⟨.modification, [path]⟩, ⟨.closeAfterWriting, [path]⟩]

def removeFile (path : String) (disk : Disk) : List Event × Disk :=
  eventsOf (disk.remove path) [⟨.removal, [path]⟩]

def eachFile (act : String → Disk → List Event × Disk) :
    List String → Disk → List Event × Disk
  | [], disk => ([], disk)
  | path :: paths, disk =>
    let (first, disk) := act path disk
    let (rest, disk) := eachFile act paths disk
    (first ++ rest, disk)

def FileAct.perform (folder : String) (disk : Disk) :
    FileAct → List Event × Disk
  | .write names => eachFile writeFile (names.map (Files.join folder)) disk
  | .remove names => eachFile removeFile (names.map (Files.join folder)) disk
  | .rename source target =>
    let source := Files.join folder source
    let target := Files.join folder target
    eventsOf (disk.rename source target) [⟨.renaming, [source, target]⟩]
  | .cancel => ([], disk)

/-- Lets a watcher gather events at a moment and announce what there is to
announce. -/
def gather (now : Nat) (events : List Event) (watcher : Watcher) :
    List Nat × Watcher :=
  let news := events.map fun event =>
    (now, Watcher.Occasion.news (.event event))
  watcher.follow (news ++ [(now + watcher.debounce, .deadline)])

/-- What can be seen of a watcher after each of some acts. Each act takes the
time that the watcher needs. -/
def rehearseActs (folder : String) :
    Nat → Watcher → Disk → List FileAct → List Announced
  | _, _, _, [] => []
  | now, watcher, disk, act :: acts =>
    let (events, disk) := act.perform folder disk
    let watcher := if act = .cancel then (watcher.step now .cancellation).1
      else watcher
    let (moments, watcher) := gather now events watcher
    let seen :=
      if watcher.stage = .ended then .closed
      else if moments.isEmpty then .nothing
      else .changed
    seen :: rehearseActs folder (now + watcher.debounce + 1) watcher disk acts

/-- What can be seen of a watcher on a file of a folder after each of some acts.
A folder that is missing cannot be watched. -/
def rehearseWatching (disk : Disk) (folder name : String) (debounce : Nat)
    (acts : List FileAct) : Option (List Announced) :=
  if disk.isFolder folder then
    some (rehearseActs folder 0
      (Watcher.start (Files.join folder name) debounce) disk acts)
  else none

end Switchyard.Rehearsal
