import Switchyard.Control.Request
import Switchyard.Store.Memory

/-!
# A rehearsed controller and rehearsed stores

To see what the control loop would do, it is run against a controller and stores
that follow a script. The controller lists what the script gives, takes its time
for a probe, follows an applied selection at once, after some queries or never,
and fails where the script says so. It keeps a list of the calls it got.
-/

namespace Switchyard.Rehearsal

open Control (Request)

/-- A call to the controller. -/
inductive Call where
  | probe (group : String)
  | query (group : String) (order : MemberOrder)
  | apply (group proxy : String)
deriving DecidableEq, Repr

/-- A controller that follows a script. `followAfter` is the number of queries
for which an applied selection does not show yet, if it ever shows; `pending` is
an applied selection with the number of queries it still waits for. The time of
a probe is in milliseconds. -/
structure Controller where
  members : List Proxy
  selected : String
  accepts : Bool
  followAfter : Option Nat
  probeDelay : Nat
  probeError : Option ControllerError
  queryError : Option ControllerError
  applyError : Option ControllerError
  queriesLeft : Nat
  pending : Option (String × Nat)
  calls : List (Nat × Call)

namespace Controller

/-- A controller with an empty group, which takes everything and never fails. -/
def plain : Controller where
  members := []
  selected := ""
  accepts := true
  followAfter := some 0
  probeDelay := 0
  probeError := none
  queryError := none
  applyError := none
  queriesLeft := 0
  pending := none
  calls := []

instance : Inhabited Controller := ⟨plain⟩

def note (controller : Controller) (now : Nat) (call : Call) : Controller :=
  { controller with
    calls := controller.calls ++ [(Duration.wholeMillis now, call)] }

/-- Whether a query fails, and the controller after that is decided. -/
def queryFailure (controller : Controller) :
    Option ControllerError × Controller :=
  match controller.queryError, controller.queriesLeft with
  | some error, 0 => (some error, controller)
  | some _, left + 1 => (none, { controller with queriesLeft := left })
  | none, _ => (none, controller)

/-- Lets a pending selection come one query closer, or come into effect. -/
def settlePending (controller : Controller) : Controller :=
  match controller.pending with
  | none => controller
  | some (proxy, 0) => { controller with selected := proxy, pending := none }
  | some (proxy, left + 1) => { controller with pending := some (proxy, left) }

def query (group : String) (order : MemberOrder) (controller : Controller) :
    Except ControllerError Group × Controller :=
  match controller.queryFailure with
  | (some error, controller) => (.error error, controller)
  | (none, controller) =>
    let settled := controller.settlePending
    (.ok ((Group.mk group settled.selected settled.members).sorted order),
      settled)

def apply (proxy : String) (controller : Controller) :
    Except ControllerError Bool × Controller :=
  match controller.applyError with
  | some error => (.error error, controller)
  | none =>
    if controller.accepts then
      match controller.followAfter with
      | none => (.ok true, controller)
      | some 0 => (.ok true, { controller with selected := proxy })
      | some left =>
        (.ok true, { controller with pending := some (proxy, left) })
    else (.ok false, controller)

end Controller

/-- The calls of the store that a script may make fail, each with the reason it
then gives. -/
structure StoreFaults where
  snapshot : Option String
  stored : Option String
  update : Option String
  record : Option String
deriving Inhabited

def StoreFaults.none : StoreFaults := ⟨.none, .none, .none, .none⟩

def guarded {Value : Type} (fault : Option String) (value : Value) :
    Except StoreError Value :=
  match fault with
  | some reason => .error (.other reason)
  | none => .ok value

/-- A request that was made and not answered yet: when it will be, in
nanoseconds, and, for a probe, how the probe will end. -/
structure Underway where
  due : Nat
  probeEnd : Control.ProbeEnd

/-- The state of affairs around a rehearsed loop: the controller, the stores
with the faults they are made to have, every attempt to remember a selection,
and the request that is under way. -/
structure Scene where
  controller : Controller
  store : Store.Memory
  storeFaults : StoreFaults
  selections : Store.SelectionMemory
  selectionFault : Option String
  attempts : List Selection
  underway : Option Underway

namespace Scene

def opening (controller : Controller) (policy : Policy)
    (profile : Option String) : Scene where
  controller := controller
  store := .ofPolicy policy
  storeFaults := .none
  selections := .ofProfile profile
  selectionFault := none
  attempts := []
  underway := none

def deadline? (scene : Scene) : Option Nat := scene.underway.map Underway.due

/-- How a probe that begins now will end. One that needs exactly the time it is
given ends by itself. -/
def plannedProbe (controller : Controller) (limit now : Nat) : Underway :=
  let length := Duration.ofMillis controller.probeDelay
  if length ≤ limit then
    let result := match controller.probeError with
      | some error => .error error
      | none => .ok ()
    ⟨now + length, .finished result⟩
  else ⟨now + limit, .outlasted⟩

def begin (request : Request) (now : Nat) (scene : Scene) : Scene :=
  match request with
  | .probe group limit =>
    { scene with
      controller := scene.controller.note now (.probe group)
      underway := some (plannedProbe scene.controller limit now) }
  | .pause length => { scene with underway := some ⟨now + length, .outlasted⟩ }
  | _ => { scene with underway := some ⟨now, .outlasted⟩ }

def serve (request : Request) (now : Nat) (scene : Scene) :
    request.Answer × Scene :=
  match request with
  | .readPolicy =>
    (guarded scene.storeFaults.snapshot scene.store.policy, scene)
  | .readStored => (guarded scene.storeFaults.stored scene.store.stored, scene)
  | .writePolicy policy =>
    match guarded scene.storeFaults.update () with
    | .error error => (.error error, scene)
    | .ok () => (.ok (), { scene with store := scene.store.update policy })
  | .recordStatus message =>
    match guarded scene.storeFaults.record () with
    | .error error => (.error error, scene)
    | .ok () =>
      let status := ⟨Int64.ofNat (Duration.wholeMillis now), message⟩
      (.ok (), { scene with store := scene.store.record status })
  | .publish _ => ((), scene)
  | .activeProfile => (scene.selections.profile, scene)
  | .remember selection =>
    let scene := { scene with attempts := scene.attempts ++ [selection] }
    match guarded scene.selectionFault () with
    | .error error => (.error error, scene)
    | .ok () =>
      (.ok (), { scene with selections := scene.selections.save selection })
  | .probe _ _ =>
    ((scene.underway.map Underway.probeEnd).getD .outlasted, scene)
  | .query group order =>
    let (given, controller) :=
      (scene.controller.note now (.query group order)).query group order
    (given, { scene with controller := controller })
  | .apply group proxy =>
    let (given, controller) :=
      (scene.controller.note now (.apply group proxy)).apply proxy
    (given, { scene with controller := controller })
  | .pause _ => ((), scene)

def conclude (request : Request) (now : Nat) (scene : Scene) :
    request.Answer × Scene :=
  let (given, scene) := scene.serve request now
  (given, { scene with underway := none })

def answer (request : Request) (now : Nat) (scene : Scene) :
    Option request.Answer × Scene :=
  let scene := if scene.underway.isNone then scene.begin request now else scene
  if now < scene.deadline?.getD now then (none, scene)
  else
    let (given, scene) := scene.conclude request now
    (some given, scene)

end Scene

end Switchyard.Rehearsal
