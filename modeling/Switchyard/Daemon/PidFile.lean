import Switchyard.ControlSignal
import Switchyard.Failure
import Switchyard.Host
import Switchyard.Text.Blank

/-!
# The process number file

A running daemon writes its process number into a file. Whoever finds the number
of a running process there starts no second daemon, and finds out whom to
signal. A number of no running process is left over from a daemon that did not
get to clean up, and is replaced.
-/

namespace Switchyard.Daemon

/-- Why a text is not a process number. -/
inductive NumberFault where
  | empty
  | badDigit
  | tooLarge
deriving DecidableEq, Repr

def NumberFault.message : NumberFault → String
  | .empty => "cannot parse integer from empty string"
  | .badDigit => "invalid digit found in string"
  | .tooLarge => "number too large to fit in target type"

/-- The number that some decimal digits continue. The first thing that is wrong,
from the left, is the fault. -/
def continueNumber : Nat → List Char → Except NumberFault Nat
  | value, [] => .ok value
  | value, character :: characters =>
    if character.isDigit then
      let next := 10 * value + (character.toNat - '0'.toNat)
      if next < UInt32.size then continueNumber next characters
      else .error .tooLarge
    else .error .badDigit

/-- The process number that a text gives, with white space around it and perhaps
a plus sign. -/
def processNumber (text : String) : Except NumberFault Nat :=
  match Text.trimChars text.toList with
  | [] => .error .empty
  | ['+'] => .error .badDigit
  | '+' :: digits => continueNumber 0 digits
  | digits => continueNumber 0 digits

def greatestNumber : Nat := 2147483647

/-- Whether there is a process of a number. A process that must not be signalled
is there. -/
def isRunning (number : Nat) : Host.Work Bool := do
  if number ≤ greatestNumber then
    match ← Host.ask (.send number none) with
    | .ok () => pure true
    | .error .notPermitted => pure true
    | .error .noSuchProcess => pure false
  else pure false

def sendTo (number : Nat) (signal : ControlSignal) :
    Host.Work (Except DaemonError Unit) := do
  let refuse (reason : String) : Except DaemonError Unit :=
    .error (.signalSend signal.name number reason)
  if number ≤ greatestNumber then
    match ← Host.ask (.send number (some signal.carrier)) with
    | .ok () => pure (.ok ())
    | .error undelivered => pure (refuse undelivered.message)
  else pure (refuse NumberFault.tooLarge.message)

end Switchyard.Daemon

namespace Switchyard

/-- A process number file, and whether this process has written it. -/
structure PidFile where
  path : String
  isOwned : Bool
deriving DecidableEq, Repr

namespace PidFile

open Daemon (isRunning processNumber)

def atPath (path : String) : PidFile := ⟨path, false⟩

def interpret (file : PidFile) :
    Except Files.Fault Bytes → Except DaemonError (Option Nat)
  | .error .notFound => .ok none
  | .error fault => .error (.pidFileRead file.path fault.message)
  | .ok bytes =>
    match bytes.text? with
    | none => .error (.pidFileRead file.path Files.Fault.notText.message)
    | some text =>
      match processNumber text with
      | .ok number => .ok (some number)
      | .error fault =>
        .error
          (.pidFileRead file.path ("Invalid PID format: " ++ fault.message))

def read (file : PidFile) : Host.Work (Except DaemonError (Option Nat)) := do
  let found ← Host.onDisk (Files.ask (.read file.path))
  pure (file.interpret found)

/-- The number in the file, if it is the number of a running process. -/
def running (file : PidFile) : Host.Work (Except DaemonError (Option Nat)) := do
  match ← file.read with
  | .error error => pure (.error error)
  | .ok none => pure (.ok none)
  | .ok (some number) =>
    pure (.ok (if ← isRunning number then some number else none))

def write (file : PidFile) : Host.Work (Except DaemonError PidFile) := do
  let refuse (fault : Files.Fault) : Except DaemonError PidFile :=
    .error (.pidFileWrite file.path fault.message)
  let number ← (Host.ask .ownNumber : Host.Work Nat)
  match ← Host.onDisk
    (Files.ask (.makeFolders ((Files.parent? file.path).getD ""))) with
  | .error fault => pure (refuse fault)
  | .ok () =>
    match ← Host.onDisk
      (Files.overwrite file.path (Bytes.ofText (toString number))) with
    | .error fault => pure (refuse fault)
    | .ok () => pure (.ok { file with isOwned := true })

/-- Makes the file this process's own, unless another running process has it. -/
def acquire (file : PidFile) : Host.Work (Except DaemonError PidFile) := do
  match ← file.read with
  | .error error => pure (.error error)
  | .ok none => file.write
  | .ok (some number) =>
    let own ← (Host.ask .ownNumber : Host.Work Nat)
    if number = own then file.write
    else if ← isRunning number then
      pure (.error (.alreadyRunning file.path number))
    else file.write

def removed (file : PidFile) : Except Files.Fault Unit → Except DaemonError Unit
  | .ok () => .ok ()
  | .error .notFound => .ok ()
  | .error fault => .error (.pidFileRemoval file.path fault.message)

/-- Gives the file up: takes it away if this process has written it. -/
def release (file : PidFile) :
    Host.Work (Except DaemonError Unit × PidFile) := do
  if file.isOwned then
    let outcome ← Host.onDisk (Files.ask (.remove file.path))
    pure (file.removed outcome, { file with isOwned := false })
  else pure (.ok (), file)

end PidFile

end Switchyard
