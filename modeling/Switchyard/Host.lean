import Switchyard.Files.Disk
import Switchyard.Processes

/-!
# The host

A host has a disk and processes. A piece of work on a host makes requests of
both.
-/

namespace Switchyard

/-- A host as one of its processes sees it. -/
structure Host where
  disk : Files.Disk
  processes : Processes
deriving Repr

namespace Host

/-- What a process may ask of its host. -/
inductive Request where
  | file (request : Files.Request)
  | ownNumber
  /-- Send a signal to a process, or only find out whether there is one. -/
  | send (target : Nat) (signal : Option Signal)
deriving DecidableEq

abbrev Request.Answer : Request → Type
  | .file request => request.Answer
  | .ownNumber => Nat
  | .send _ _ => Except Undelivered Unit

abbrev Work (Result : Type) := Routine Request.Answer Result

abbrev ask (request : Request) : Work request.Answer := Routine.call request

def onDisk {Result : Type} (work : Files.Work Result) : Work Result :=
  work.relay Request.file fun _ given => given

def answer (request : Request) (host : Host) : request.Answer × Host :=
  match request with
  | .file request =>
    let (given, disk) := host.disk.answer request
    (given, { host with disk := disk })
  | .ownNumber => (host.processes.own, host)
  | .send target signal =>
    let (given, processes) := host.processes.send target signal
    (given, { host with processes := processes })

def perform {Result : Type} (work : Work Result) (host : Host) :
    Result × Host :=
  work.complete answer host

@[simp]
theorem perform_onDisk {Result : Type} (work : Files.Work Result)
    (host : Host) :
    host.perform (onDisk work) =
      ((host.disk.perform work).1,
        { host with disk := (host.disk.perform work).2 }) := by
  induction work generalizing host with
  | done result => rfl
  | ask request resume resumeFact => exact resumeFact _ _

end Host

end Switchyard
