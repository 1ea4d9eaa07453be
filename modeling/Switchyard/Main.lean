import Switchyard.CommandLine.Command
import Switchyard.Control.Loop
import Switchyard.Daemon.Errand
import Switchyard.Watcher

/-!
# The program

The program carries out on a real host what the commands ask for: it answers
their requests, prints their lines and ends with their exit code. It has no
connection to a controller, so every request to the controller ends as one that
found nobody.
-/

namespace Switchyard.Program

/-- The files that are open for writing, in the order in which they were
opened. -/
abbrev Handles := Array IO.FS.Handle

def faultOf : IO.Error → Files.Fault
  | .noFileOrDirectory _ _ _ => .notFound
  | .noSuchThing _ _ _ => .notFound
  | .alreadyExists _ _ _ => .alreadyThere
  | error => .other (toString error)

def attempt {Value : Type} (action : IO Value) :
    IO (Except Files.Fault Value) := do
  try
    return .ok (← action)
  catch error =>
    return .error (faultOf error)

def openFile (path : String) : StateT Handles IO (Except Files.Fault Nat) := do
  match ← attempt (IO.FS.Handle.mk path .write) with
  | .error fault => return .error fault
  | .ok handle =>
    let handles ← get
    set (handles.push handle)
    return .ok handles.size

def writeOpen (number : Nat) (bytes : Bytes) :
    StateT Handles IO (Except Files.Fault Unit) := do
  match (← get)[number]? with
  | none => return .error .notFound
  | some handle =>
    attempt do
      handle.write ⟨bytes.toArray⟩
      handle.flush

def answerFile : (request : Files.Request) → StateT Handles IO request.Answer
  | .read path => attempt do return (← IO.FS.readBinFile path).toList
  | .makeFolders path =>
    attempt (IO.FS.createDirAll (if path.isEmpty then "." else path))
  | .truncate path => openFile path
  | .write number bytes => writeOpen number bytes
  | .rename source target => attempt (IO.FS.rename source target)
  | .remove path => attempt (IO.FS.removeFile path)

def processFolder (name : String) : String := "/proc/" ++ name

/-- The number of this process, which is the first word that the system tells of
it. -/
def ownNumber : IO Nat := do
  let told ← IO.FS.readFile (processFolder "self/stat")
  return (String.ofList (told.toList.takeWhile Char.isDigit)).toNat?.getD 0

def isThere (number : Nat) : IO Bool := do
  match ← attempt
    (IO.FS.readFile (processFolder (toString number ++ "/stat"))) with
  | .ok _ => return true
  | .error _ => return false

/-- Finds out whether a signal would reach somebody. No signal is ever sent. -/
def deliver (target : Nat) (signal : Option Signal) :
    IO (Except Undelivered Unit) := do
  if target = 0 || (← isThere target) then
    return if signal.isNone then .ok () else .error .notPermitted
  else return .error .noSuchProcess

def answer : (request : Daemon.Request) → StateT Handles IO request.Answer
  | .host (.file request) => answerFile request
  | .host .ownNumber => ownNumber
  | .host (.send target signal) => deliver target signal
  | .controller _ => return .error (.broken "no connection to the controller")

def carry {Result : Type} : Daemon.Errand Result → StateT Handles IO Result
  | .done result => return result
  | .ask request resume => do carry (resume (← answer request))

/-- Carries an errand out, and closes the files that it has opened. -/
def carryOut {Result : Type} (errand : Daemon.Errand Result) : IO Result := do
  return (← (carry errand).run #[]).1

/-- The number that some digits with a point among them give, without the
point. -/
def pointless (digits : List Char) : Nat :=
  (String.ofList (digits.filter Char.isDigit)).toNat?.getD 0

/-- The milliseconds since 1970: those up to the start of the system, in whole
seconds, and those since, in hundredths of a second. -/
def wallClock : IO Nat := do
  let told ← IO.FS.readFile (processFolder "stat")
  let line := (told.splitOn "\n").find? fun line => line.startsWith "btime "
  let up ← IO.FS.readFile (processFolder "uptime")
  let hundredths := pointless (up.toList.takeWhile (· != ' '))
  return 1000 * pointless ((line.getD "").toList) + 10 * hundredths

def environment : IO Settings.Environment := do
  let bytes ← IO.FS.readBinFile (processFolder "self/environ")
  let entries := ((Bytes.text? bytes.toList).getD "").splitOn "\x00"
  let named := entries.filterMap fun entry =>
    match entry.toList.dropWhile (· != '=') with
    | [] => none
    | _ :: value =>
      some (String.ofList (entry.toList.takeWhile (· != '=')),
        String.ofList value)
  return NameMap.ofList named

/-- A request of the loop with its answer, which waits to be fetched. -/
abbrev Prepared := Option ((request : Control.Request) × request.Answer)

def handOut (request : Control.Request) (_ : Nat) (prepared : Prepared) :
    Option request.Answer × Prepared :=
  match prepared with
  | some ⟨answered, given⟩ =>
    if same : answered = request then (some (same ▸ given), none)
    else (none, prepared)
  | none => (none, none)

def pending? : Control.Stage → Option Control.Request
  | .reading => some .readPolicy
  | .evaluating _ _ (.ask request _) => some request
  | .reporting (.ask request _) _ => some request
  | _ => none

def serveRequest (setup : Daemon.Setup) (request : Control.Request) :
    IO request.Answer := do
  if let .pause length := request then
    IO.sleep (UInt32.ofNat (Duration.wholeMillis length))
  carryOut (setup.errand (Int64.ofNat (← wallClock)) request)

def policyContent (setup : Daemon.Setup) : IO (Option Bytes) := do
  return (← carryOut
    (Daemon.onDisk (Files.ask (.read setup.folder.policyPath)))).toOption

/-- Runs the loop of a daemon. While the loop waits, the policy file is looked
at again and again. -/
partial def serve (setup : Daemon.Setup) (seen : Option Bytes)
    (watcher : Watcher) (loop : Control.Loop)
    (around : Control.Surroundings Prepared) : IO Control.Exit := do
  let around := { around with now := ← IO.monoNanosNow }
  let next := loop.step handOut around
  let (loop, around) := (next.loop, next.around)
  match loop.exit?, pending? loop.stage with
  | some exit, _ => return exit
  | none, some request =>
    let given ← serveRequest setup request
    serve setup seen watcher loop
      { around with outside := some ⟨request, given⟩ }
  | none, none =>
    if next.goesOn then serve setup seen watcher loop around
    else
      IO.sleep 50
      let now ← IO.monoNanosNow
      let found ← policyContent setup
      let path := setup.folder.policyPath
      let watcher :=
        if found = seen then watcher
        else (watcher.step now (.news (.event ⟨.unspecified, [path]⟩))).1
      let (watcher, announces) := watcher.step now .deadline
      let bus :=
        if announces then around.bus.publish .policyChanged else around.bus
      serve setup found watcher loop { around with bus := bus }

def runDaemon (setup : Daemon.Setup) : IO (Except DaemonError Unit) := do
  let now ← IO.monoNanosNow
  let (loop, around) := Control.Loop.start setup.timing setup.locale
    ⟨none, now, false, Bus.withCapacity Bus.usualCapacity⟩
  let watcher := Watcher.start setup.folder.policyPath
    (Duration.ofMillis (setup.watchDebounce.getD 0))
  let watcher :=
    if setup.watchDebounce.isNone then (watcher.step now .cancellation).1
    else watcher
  let _ ← serve setup (← policyContent setup) watcher loop around
  carryOut (Daemon.onHost setup.conclude)

def conclude : CommandLine.Ending → IO UInt32
  | .done => return 0
  | .misuse => do
    IO.eprintln "error: unexpected or missing argument"
    return 2
  | .failed message => do
    IO.eprintln ("Error: " ++ message)
    return 1
  | .serve setup => do
    match ← runDaemon setup with
    | .ok () => return 0
    | .error error =>
      IO.eprintln ("Error: " ++ error.message)
      return 1

def run (arguments : List String) : IO UInt32 := do
  let today := ((Calendar.timestampText (← wallClock)).splitOn " ").headD ""
  let outcome ← carryOut (Daemon.onHost
    (CommandLine.start ⟨arguments, ← environment, today⟩))
  for line in outcome.lines do
    IO.println line
  conclude outcome.ending

end Switchyard.Program

def main (arguments : List String) : IO UInt32 :=
  Switchyard.Program.run arguments
