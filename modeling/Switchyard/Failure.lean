/-!
# Causes of failure

Each part of the program fails for causes of its own. A cause carries what the
message needs, and there is one wording for each.
-/

namespace Switchyard

/-- Why the controller could not serve a request. -/
inductive ControllerError where
  | groupNotFound (group : String)
  | network (reason : String)
  | api (status : Nat) (message : String)
  | invalidResponse (reason : String)
  | timeout (millis : Nat)
  | invalidUrl (reason : String)
deriving DecidableEq, Repr

def ControllerError.message : ControllerError → String
  | .groupNotFound group => "Group not found: " ++ group
  | .network reason => "Network error: " ++ reason
  | .api status message => "API error: " ++ toString status ++ " - " ++ message
  | .invalidResponse reason => "Invalid response: " ++ reason
  | .timeout millis => "Timeout after " ++ toString millis ++ " ms"
  | .invalidUrl reason => "Invalid controller URL: " ++ reason

/-- Why a store could not serve a call. -/
inductive StoreError where
  | files (reason : String)
  | corrupt (path reason : String)
  | other (reason : String)
deriving DecidableEq, Repr

def StoreError.message : StoreError → String
  | .files reason => "IO error: " ++ reason
  | .corrupt path reason => "Corrupt store file " ++ path ++ ": " ++ reason
  | .other reason => reason

/-- Why a cycle of the control loop failed, or why it could not be set up. -/
inductive ControlError where
  | controller (error : ControllerError)
  | store (error : StoreError)
  | settings (reason : String)
deriving DecidableEq, Repr

def ControlError.message : ControlError → String
  | .controller error => error.message
  | .store error => error.message
  | .settings reason => "Configuration error: " ++ reason

/-- Why the settings could not be used. -/
inductive SettingsError where
  | notFound (path : String)
  | unreadable (path reason : String)
  | notToml (reason : String)
  | missingVariable (name : String)
  | badValue (field reason : String)
deriving DecidableEq, Repr

def SettingsError.message : SettingsError → String
  | .notFound path => "No config file at " ++ path
  | .unreadable path reason =>
    "Cannot read config file " ++ path ++ ": " ++ reason
  | .notToml reason => "Config is not valid TOML: " ++ reason
  | .missingVariable name =>
    "Config references $\x7b" ++ name ++
      "\x7d, which is not set in the environment"
  | .badValue field reason => "Bad config value at " ++ field ++ ": " ++ reason

/-- Why the daemon could not run, or could not be reached. -/
inductive DaemonError where
  | alreadyRunning (path : String) (pid : Nat)
  | pidFileRead (path reason : String)
  | pidFileWrite (path reason : String)
  | pidFileRemoval (path reason : String)
  | notRunning
  | signalSetup (reason : String)
  | signalSend (signal : String) (pid : Nat) (reason : String)
  | settings (error : SettingsError)
  | invalid (reason : String)
  | store (error : StoreError)
  | controller (error : ControllerError)
  | files (reason : String)
deriving DecidableEq, Repr

def DaemonError.message : DaemonError → String
  | .alreadyRunning path pid =>
    "Daemon already running (PID file: " ++ path ++ ", PID: " ++
      toString pid ++ ")"
  | .pidFileRead path reason =>
    "Failed to read PID file at " ++ path ++ ": " ++ reason
  | .pidFileWrite path reason =>
    "Failed to write PID file at " ++ path ++ ": " ++ reason
  | .pidFileRemoval path reason =>
    "Failed to remove PID file at " ++ path ++ ": " ++ reason
  | .notRunning => "Daemon is not running"
  | .signalSetup reason => "Failed to set up signal handlers: " ++ reason
  | .signalSend signal pid reason =>
    "Failed to send " ++ signal ++ " to PID " ++ toString pid ++ ": " ++ reason
  | .settings error => error.message
  | .invalid reason => "Invalid configuration: " ++ reason
  | .store error => "Store error: " ++ error.message
  | .controller error => "Engine error: " ++ error.message
  | .files reason => "IO error: " ++ reason

end Switchyard
