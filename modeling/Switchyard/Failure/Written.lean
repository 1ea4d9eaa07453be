import Switchyard.Failure
import Switchyard.Json.Members

/-!
# Failures in JSON

A failure is written as the name of its kind together with what it carries, and
reported as the name of its kind together with its message.
-/

namespace Switchyard

def failureReport (kind : String) : Json := .object [("error", .text kind)]

def failureReportWith (kind message : String) : Json :=
  .object [("error", .text kind), ("message", .text message)]

def ControllerError.kind : ControllerError → String
  | .groupNotFound _ => "NotFound"
  | .network _ => "Network"
  | .api _ _ => "Api"
  | .invalidResponse _ => "InvalidResponse"
  | .timeout _ => "Timeout"
  | .invalidUrl _ => "InvalidUrl"

def ControllerError.report (error : ControllerError) : Json :=
  failureReportWith error.kind error.message

def ControllerError.ofJson? (value : Json) : Option ControllerError := do
  match ← value.textAt "kind" with
  | "NotFound" => some (.groupNotFound (← value.textAt "text"))
  | "Network" => some (.network (← value.textAt "text"))
  | "Api" =>
    some (.api (← value.required "status" (Json.nat? 65536))
      (← value.textAt "text"))
  | "InvalidResponse" => some (.invalidResponse (← value.textAt "text"))
  | "Timeout" => some (.timeout (← value.natAt "ms"))
  | "InvalidUrl" => some (.invalidUrl (← value.textAt "text"))
  | _ => none

def StoreError.kind : StoreError → String
  | .files _ => "Io"
  | .corrupt _ _ => "Corrupt"
  | .other _ => "Custom"

def StoreError.ofJson? (value : Json) : Option StoreError := do
  match ← value.textAt "kind" with
  | "Corrupt" => some (.corrupt (← value.textAt "path") (← value.textAt "text"))
  | "Io" => some (.files (← value.textAt "text"))
  | _ => some (.other (← value.textAt "text"))

def ControlError.report : ControlError → Json
  | .controller error => error.report
  | .store error => failureReportWith "Store" error.message
  | error@(.settings _) => failureReportWith "Config" error.message

/-- The report of a failure of the settings. The wording of a reader or of the
file system is left out. -/
def SettingsError.report : SettingsError → Json
  | .notFound _ => failureReport "NotFound"
  | .unreadable _ _ => failureReport "Read"
  | .notToml _ => failureReport "Syntax"
  | error@(.missingVariable _) =>
    failureReportWith "MissingEnvVar" error.message
  | error@(.badValue _ _) => failureReportWith "InvalidValue" error.message

def SettingsError.ofJson? (value : Json) : Option SettingsError := do
  match ← value.textAt "kind" with
  | "NotFound" => some (.notFound (← value.textAt "path"))
  | "Read" => some (.unreadable (← value.textAt "path") (← value.textAt "text"))
  | "MissingEnvVar" => some (.missingVariable (← value.textAt "text"))
  | _ => some (.badValue (← value.textAt "field") (← value.textAt "text"))

def DaemonError.ofJson? (value : Json) : Option DaemonError := do
  let path := value.textAt "path"
  let reason := value.textAt "text"
  let pid := value.required "pid" (Json.nat? UInt32.size)
  match ← value.textAt "kind" with
  | "AlreadyRunning" => some (.alreadyRunning (← path) (← pid))
  | "PidFileRead" => some (.pidFileRead (← path) (← reason))
  | "PidFileWrite" => some (.pidFileWrite (← path) (← reason))
  | "PidFileRemoval" => some (.pidFileRemoval (← path) (← reason))
  | "NotRunning" => some .notRunning
  | "SignalSetup" => some (.signalSetup (← reason))
  | "SignalSend" =>
    some (.signalSend (← value.textAt "signal") (← pid) (← reason))
  | "Io" => some (.files (← reason))
  | _ => some (.invalid (← reason))

end Switchyard
