import Switchyard.Control.Loop
import Switchyard.ControlSignal
import Switchyard.Rehearsal.Script

/-!
# Rehearsed runs

A rehearsal runs the control loop, or one move, on a virtual clock. The clock
starts at zero, moves only when everything waits, and then jumps to the next
moment at which something is due.
-/

namespace Switchyard.Rehearsal

open Control (Loop Surroundings Work)

/-- Carries a piece of work out, letting time pass where it has to. -/
def drive {Result : Type} : Work Result → Nat → Scene → Result × Nat × Scene
  | .done result, now, scene => (result, now, scene)
  | .ask request resume, now, scene =>
    let begun := scene.begin request now
    let later := max now (begun.deadline?.getD now)
    let (given, scene) := begun.conclude request later
    drive (resume given) later scene

/-- A rehearsed loop with what is around it. -/
structure Run where
  loop : Loop
  around : Surroundings Scene

namespace Run

def poll (run : Run) : Run :=
  let (loop, around) :=
    run.loop.poll (fun request => Scene.answer request) run.around
  ⟨loop, around⟩

def start (timing : Timing) (locale : Locale) (scene : Scene) : Run :=
  let (loop, around) :=
    Loop.start timing locale ⟨scene, 0, false,
      Bus.withCapacity Bus.usualCapacity⟩
  poll ⟨loop, around⟩

def nextMoment? (run : Run) : Option Nat :=
  match run.loop.stage with
  | .ended _ => none
  | .waiting deadline => deadline
  | _ => run.around.outside.deadline?

def moveClock (length : Nat) (run : Run) : Run :=
  { run with around := { run.around with now := run.around.now + length } }

/-- Lets time pass. Everything that is due up to and including the end of that
time happens. -/
def advance (run : Run) (length : Nat) : Run :=
  match run.nextMoment? with
  | none => run.moveClock length
  | some moment =>
    let jump := moment - run.around.now
    if 0 < jump ∧
      jump ≤ length then (run.moveClock jump).poll.advance (length - jump)
    else run.moveClock length
termination_by length
decreasing_by omega

def publish (notice : Notice) (times : Nat) (run : Run) : Run :=
  { run with around := { run.around with
    bus := run.around.bus.publishTimes notice times } }

def cancel (run : Run) : Run :=
  { run with around := { run.around with isCancelled := true } }

def changeScene (change : Scene → Scene) (run : Run) : Run :=
  { run with
    around := { run.around with outside := change run.around.outside } }

end Run

/-- What may be done to a rehearsed loop from outside. Times are in
milliseconds. -/
inductive Act where
  | advance (millis : Nat)
  | script (changes : List (Controller → Controller))
  | policy (policy : Policy)
  | profile (profile : Option String)
  | storeFaults (faults : StoreFaults)
  | selectionFault (fault : Option String)
  | notify (notice : Notice) (times : Nat)
  | signal (signal : ControlSignal)
  | cancel

/-- Does something to a rehearsed loop, and then lets the loop go on until it
waits. -/
def Run.act (run : Run) : Act → Run
  | .advance millis => run.advance (Duration.ofMillis millis)
  | .script changes =>
    (run.changeScene fun scene =>
      { scene with
        controller := changes.foldl (fun controller change => change controller)
          scene.controller }).poll
  | .policy policy =>
    (run.changeScene fun scene =>
      { scene with store := scene.store.update policy }).poll
  | .profile profile =>
    (run.changeScene fun scene =>
      { scene with selections := scene.selections.setProfile profile }).poll
  | .storeFaults faults =>
    (run.changeScene fun scene => { scene with storeFaults := faults }).poll
  | .selectionFault fault =>
    (run.changeScene fun scene => { scene with selectionFault := fault }).poll
  | .notify notice times => (run.publish notice times).poll
  | .signal signal =>
    let told := run.publish signal.notice 1
    (if signal.stops then told.cancel else told).poll
  | .cancel => run.cancel.poll

/-- What a rehearsed loop shows: the controller's calls, the messages and the
attempts to remember a selection that are new, and how everything stands. -/
structure Sight where
  millis : Nat
  calls : List (Nat × Call)
  messages : List String
  attempts : List Selection
  selected : String
  stored : Policy
  tally : Tally
  exit : Option Control.Exit
  receivers : Nat

def Run.sight (before : Option Run) (run : Run) : Sight :=
  let scene := run.around.outside
  let seen {Item : Type} (items : Scene → List Item) : List Item :=
    (items scene).drop
      ((before.map fun earlier => (items earlier.around.outside).length).getD 0)
  { millis := Duration.wholeMillis run.around.now
    calls := seen fun scene => scene.controller.calls
    messages := (seen fun scene => scene.store.history).map StatusRecord.message
    attempts := seen Scene.attempts
    selected := scene.controller.selected
    stored := scene.store.stored
    tally := run.loop.tally
    exit := run.loop.exit?
    receivers := run.around.bus.receiverCount }

def Run.sights : Run → List Act → List Sight
  | _, [] => []
  | run, act :: acts =>
    let next := run.act act
    next.sight (some run) :: next.sights acts

def rehearse (timing : Timing) (locale : Locale) (scene : Scene)
    (acts : List Act) : List Sight :=
  let run := Run.start timing locale scene
  run.sight none :: run.sights acts

end Switchyard.Rehearsal
