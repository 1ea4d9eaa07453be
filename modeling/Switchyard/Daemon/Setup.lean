import Switchyard.Controller.Client
import Switchyard.Daemon.PidFile
import Switchyard.Report
import Switchyard.Settings.Findings
import Switchyard.Store.Folder

/-!
# Setting up the daemon

Before the control loop can run, the settings are checked, the process number
file is acquired, the stores are opened and the client of the controller is
made. If anything fails after the process number file has been acquired, that
file is given up again.
-/

namespace Switchyard.Daemon

/-- All that a running daemon has at hand. The debounce of the watcher is in
milliseconds; without one the policy file is not watched. -/
structure Setup where
  pidFile : PidFile
  folder : Store.Folder
  selections : Store.SelectionFile
  client : Controller.Client
  locale : Locale
  timing : Timing
  watchDebounce : Option Nat
deriving DecidableEq

def check (settings : Settings) : Except DaemonError (List Settings.Finding) :=
  match settings.findings.outcome with
  | .ok warnings => .ok warnings
  | .error error => .error (.invalid error.message)

def localeOf (settings : Settings) : Except DaemonError Locale :=
  match Locale.parse? settings.language with
  | .ok locale => .ok locale
  | .error error => .error (.invalid error.message)

/-- Opens the stores and makes the client, for a daemon that has acquired its
process number file. -/
def furnish (home : Option String) (settings : Settings) (locale : Locale)
    (pidFile : PidFile) :
    Host.Work (Except DaemonError Setup) := do
  let path := settings.dataFolder home
  match ← Host.onDisk (Store.Folder.open? path) with
  | .error error => pure (.error (.store error))
  | .ok folder =>
    match Controller.Client.ofAccess settings.access with
    | .error error => pure (.error (.controller error))
    | .ok client =>
      let debounce := settings.files.watchDebounce.toNat
      pure (.ok {
        pidFile := pidFile
        folder := folder
        selections := Store.SelectionFile.ofFolder path settings.files.profile
        client := client
        locale := locale
        timing := settings.pace.timing
        watchDebounce :=
          if settings.files.isWatched then some debounce else none })

def prepare (home : Option String) (settings : Settings) :
    Host.Work (Except DaemonError Setup) := do
  match check settings, localeOf settings with
  | .error error, _ => pure (.error error)
  | _, .error error => pure (.error error)
  | .ok _, .ok locale =>
    match ← (PidFile.atPath (settings.pidFilePath home)).acquire with
    | .error error => pure (.error error)
    | .ok pidFile =>
      match ← furnish home settings locale pidFile with
      | .ok setup => pure (.ok setup)
      | .error error =>
        let _ ← pidFile.release
        pure (.error error)

def Setup.conclude (setup : Setup) : Host.Work (Except DaemonError Unit) := do
  pure (← setup.pidFile.release).1

end Switchyard.Daemon
