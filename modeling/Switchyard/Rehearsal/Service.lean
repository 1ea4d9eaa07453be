import Switchyard.Control.Loop
import Switchyard.Daemon.Errand
import Switchyard.Watcher

/-!
# Rehearsed service

A daemon that has been set up is run on a virtual clock, on a host of its own
and with a controller whose replies are given beforehand. Meanwhile others edit
the policy file and send signals. Only pauses take time.
-/

namespace Switchyard.Rehearsal

open Control (Loop Surroundings)
open Daemon (Setup)

/-- The state of affairs around a rehearsed daemon: its host, the replies of the
controller that are left and the one that comes when none is left, the messages
of the recorded statuses, how often the loop has written the policy since the
watcher looked, and the end of the pause that is under way. -/
structure Premises where
  setup : Setup
  host : Host
  replies : List Controller.Reply
  lastReply : Controller.Reply
  messages : List String
  policyWrites : Nat
  pauseEnd : Option Nat

namespace Premises

def fulfil (request : Daemon.Request) (premises : Premises) :
    request.Answer × Premises :=
  match request with
  | .host request =>
    let (given, host) := premises.host.answer request
    (given, { premises with host := host })
  | .controller _ =>
    match premises.replies with
    | [] => (premises.lastReply, premises)
    | reply :: replies => (reply, { premises with replies := replies })

def note (request : Control.Request) (given : request.Answer)
    (premises : Premises) : Premises :=
  match request, given with
  | .recordStatus message, .ok () =>
    { premises with messages := premises.messages ++ [message] }
  | .writePolicy _, .ok () =>
    { premises with policyWrites := premises.policyWrites + 1 }
  | _, _ => premises

def pause (length now : Nat) (premises : Premises) : Option Unit × Premises :=
  let moment := premises.pauseEnd.getD (now + length)
  if moment ≤ now then (some (), { premises with pauseEnd := none })
  else (none, { premises with pauseEnd := some moment })

def answer (request : Control.Request) (now : Nat) (premises : Premises) :
    Option request.Answer × Premises :=
  match request with
  | .pause length => premises.pause length now
  | request =>
    let moment := Int64.ofNat (Duration.wholeMillis now)
    let (given, premises) :=
      (premises.setup.errand moment request).complete fulfil premises
    (some given, premises.note request given)

end Premises

/-- A rehearsed daemon: its loop with what is around it, and the watcher of its
policy file. -/
structure Service where
  loop : Loop
  around : Surroundings Premises
  watcher : Watcher

/-- What may be done while a daemon runs. -/
inductive Deed where
  | edit (content : Bytes)
  | signal (signal : Signal)
deriving DecidableEq

namespace Service

def exit? (service : Service) : Option Control.Exit := service.loop.exit?

def tell (occasion : Watcher.Occasion) (service : Service) : Service :=
  let (watcher, announces) := service.watcher.step service.around.now occasion
  let bus :=
    if announces then service.around.bus.publish .policyChanged
    else service.around.bus
  { service with
    watcher := watcher, around := { service.around with bus := bus } }

/-- Tells the watcher that a new policy has taken the place of the old one. -/
def tellOfPolicy (service : Service) : Service :=
  let path := service.around.outside.setup.folder.policyPath
  service.tell (.news (.event ⟨.renaming, [Store.draftPath path, path]⟩))

def poll (service : Service) : Service :=
  let (loop, around) := service.loop.poll Premises.answer service.around
  let written := around.outside.policyWrites
  let outside := { around.outside with policyWrites := 0 }
  let next : Service :=
    { service with loop := loop, around := { around with outside := outside } }
  if written = 0 then next else next.tellOfPolicy

def start (setup : Setup) (host : Host) (replies : List Controller.Reply)
    (lastReply : Controller.Reply) : Service :=
  let premises : Premises := ⟨setup, host, replies, lastReply, [], 0, none⟩
  let (loop, around) := Loop.start setup.timing setup.locale
    ⟨premises, 0, false, Bus.withCapacity Bus.usualCapacity⟩
  let watcher := Watcher.start setup.folder.policyPath
    (Duration.ofMillis (setup.watchDebounce.getD 0))
  let watcher :=
    if setup.watchDebounce.isNone then (watcher.step 0 .cancellation).1
    else watcher
  poll ⟨loop, around, watcher⟩

def loopMoment? (service : Service) : Option Nat :=
  match service.loop.stage with
  | .ended _ => none
  | .waiting deadline => deadline
  | _ => service.around.outside.pauseEnd

def nextMoment? (service : Service) : Option Nat :=
  match service.loopMoment?, service.watcher.deadline? with
  | some first, some second => some (min first second)
  | none, moment => moment
  | moment, none => moment

def moveClock (length : Nat) (service : Service) : Service :=
  { service with
    around := { service.around with now := service.around.now + length } }

/-- Lets time pass until something is so, or up to a length of time. -/
def advance (isSo : Service → Bool) (service : Service) (length : Nat) :
    Service :=
  if isSo service then service
  else
    match service.nextMoment? with
    | none => service.moveClock length
    | some moment =>
      let jump := max 1 (moment - service.around.now)
      if jump ≤ length then
        advance isSo ((service.moveClock jump).tell .deadline).poll
          (length - jump)
      else service.moveClock length
termination_by length
decreasing_by omega

def replacePolicy (content : Bytes) (service : Service) : Service :=
  let premises := service.around.outside
  let path := premises.setup.folder.policyPath
  let edited := (premises.host.disk.save (path ++ ".edit") content).2
  let disk := (edited.rename (path ++ ".edit") path).2
  let outside := { premises with host := { premises.host with disk := disk } }
  { service with around := { service.around with outside := outside } }

def act (service : Service) : Deed → Service
  | .edit content => (service.replacePolicy content).tellOfPolicy.poll
  | .signal signal =>
    let request := ControlSignal.ofSignal signal
    let bus := service.around.bus.publish request.notice
    let around :=
      { service.around with
        bus := bus
        isCancelled := service.around.isCancelled || request.stops }
    { service with around := around }.poll

def messages (service : Service) : List String :=
  service.around.outside.messages

/-- Lets time pass until the daemon has recorded more than a number of statuses
or has ended, for ten seconds at most. The result is the message of the last
status, unless the daemon has ended. -/
def await (count : Nat) (service : Service) : Option String × Service :=
  let isOver (service : Service) : Bool :=
    decide (count < service.messages.length) || service.exit?.isSome
  let service := service.advance isOver (Duration.ofMillis 10000)
  (if service.exit?.isSome then none else service.messages.getLast?, service)

/-- Does several things one after another, and after each that is said to be
waited for sees which status comes. -/
def witness : List (Deed × Bool) → Service → List (Option String) × Service
  | [], service => ([], service)
  | (deed, isAwaited) :: deeds, service =>
    let next := service.act deed
    if isAwaited then
      let (seen, next) := next.await service.messages.length
      let (later, last) := next.witness deeds
      (seen :: later, last)
    else next.witness deeds

/-- Whether the process number file holds the number of the daemon. -/
def holdsPidFile (service : Service) : Bool :=
  let premises := service.around.outside
  let found := premises.host.disk.readText premises.setup.pidFile.path
  found.toOption == some (toString premises.host.processes.own)

/-- Stops a daemon that is still running, and has it clean up. The result is how
its run ended, or what failed while it cleaned up. -/
def finish (service : Service) :
    Except DaemonError (Option Control.Exit) × Host :=
  let ended :=
    if service.exit?.isSome then service
    else service.act (.signal .terminate)
  let premises := ended.around.outside
  let (outcome, host) := premises.host.perform premises.setup.conclude
  (outcome.map fun () => ended.exit?, host)

end Service

end Switchyard.Rehearsal
