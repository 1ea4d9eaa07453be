import Switchyard.CommandLine.Arguments
import Switchyard.Daemon.Setup
import Switchyard.Settings.File

/-!
# Commands

A command reads the settings first, then makes sure that there is a log file
where one is wanted, and then does its work. Lines that were printed before a
failure stay printed.
-/

namespace Switchyard.CommandLine

/-- How a command ends. A command that starts a daemon ends when the daemon
does. -/
inductive Ending where
  | done
  | failed (message : String)
  | misuse
  | serve (setup : Daemon.Setup)
deriving DecidableEq

def Ending.code? : Ending → Option Nat
  | .done => some 0
  | .failed _ => some 1
  | .misuse => some 2
  | .serve _ => none

/-- What a command prints, and how it ends. -/
structure Outcome where
  lines : List String
  ending : Ending
deriving DecidableEq

/-- What a command finds when it starts: its arguments, the variables of the
environment, and the date in the form that names of log files have. -/
structure Circumstances where
  arguments : List String
  environment : Settings.Environment
  today : String

def Circumstances.home? (circumstances : Circumstances) : Option String :=
  (circumstances.environment.find? "HOME").filter fun home => !home.isEmpty

def failure (message : String) : Outcome := ⟨[], .failed message⟩

def versionLine : String := "autoswitch 0.1.0"

def usage : List String := [
  "Keeps a proxy selector group on its fastest candidate",
  "",
  "Usage: autoswitch [OPTIONS] [COMMAND]",
  "",
  "Commands:",
  "  run     Run the control loop in the foreground (default)",
  "  stop    Ask the running daemon to stop",
  "  reload  Ask the running daemon to re-evaluate now",
  "  status  Show the last status line and whether the daemon is running",
  "  config  Auto-switch settings",
  "  help    Print this message or the help of the given subcommand(s)",
  "",
  "Options:",
  "  -c, --config <CONFIG>  Configuration file path (defaults to ~/.autoswitch/config.toml)" ++
    " [env: AUTOSWITCH_CONFIG=]",
  "  -h, --help             Print help",
  "  -V, --version          Print version"]

def askDaemon (home : Option String) (settings : Settings)
    (signal : ControlSignal) : Host.Work Outcome := do
  match ← (PidFile.atPath (settings.pidFilePath home)).running with
  | .error error => pure (failure error.message)
  | .ok none => pure (failure DaemonError.notRunning.message)
  | .ok (some number) =>
    match ← Daemon.sendTo number signal with
    | .error error => pure (failure error.message)
    | .ok () =>
      let request := match signal with
        | .stop => "Stop"
        | .reload => "Reload"
      pure ⟨[request ++ " requested (PID " ++ toString number ++ ")"], .done⟩

def statusLine (settings : Settings) : Option StatusRecord → String
  | some record => record.line
  | none => ((Locale.parse? settings.language).toOption.getD .en).noStatus

def showStatus (home : Option String) (settings : Settings) :
    Host.Work Outcome := do
  match ← Host.onDisk (Store.Folder.open? (settings.dataFolder home)) with
  | .error error => pure (failure error.message)
  | .ok folder =>
    match ← Host.onDisk folder.status? with
    | .error error => pure (failure error.message)
    | .ok status =>
      let line := statusLine settings status
      match ← (PidFile.atPath (settings.pidFilePath home)).running with
      | .error error => pure ⟨[line], .failed error.message⟩
      | .ok none => pure ⟨[line, "Daemon: not running"], .done⟩
      | .ok (some number) =>
        pure ⟨[line, "Daemon: running (PID " ++ toString number ++ ")"], .done⟩

def showPolicy (home : Option String) (settings : Settings) :
    Host.Work Outcome := do
  match ← Host.onDisk (Store.Folder.open? (settings.dataFolder home)) with
  | .error error => pure (failure error.message)
  | .ok folder =>
    match ← Host.onDisk folder.policy with
    | .error error => pure (failure error.message)
    | .ok policy => pure ⟨[policy.toJson.pretty], .done⟩

def startDaemon (home : Option String) (settings : Settings) :
    Host.Work Outcome := do
  match ← Daemon.prepare home settings with
  | .error error => pure (failure error.message)
  | .ok setup => pure ⟨[], .serve setup⟩

def carryOut (home : Option String) (settings : Settings) :
    Command → Host.Work Outcome
  | .run => startDaemon home settings
  | .ask signal => askDaemon home settings signal
  | .showStatus => showStatus home settings
  | .showPolicy => showPolicy home settings

def openLog (folder today : String) : Files.Work (Except Files.Fault Unit) := do
  match ← Files.ask (.makeFolders folder) with
  | .error fault => pure (.error fault)
  | .ok () =>
    let path := Files.join folder ("autoswitch." ++ today ++ ".log")
    match ← Files.ask (.read path) with
    | .ok _ => pure (.ok ())
    | .error .notFound => do
      let opened ← Files.ask (.truncate path)
      pure (opened.map fun _ => ())
    | .error fault => pure (.error fault)

def openLogIfWanted (folder : Option String) (today : String) :
    Files.Work (Except Files.Fault Unit) :=
  match folder with
  | none => pure (.ok ())
  | some folder => openLog folder today

def usualSettingsPath (home : Option String) : String :=
  Files.join (Files.join (home.getD "") ".autoswitch") "config.toml"

def invoke (circumstances : Circumstances) (invocation : Invocation) :
    Host.Work Outcome := do
  let home := circumstances.home?
  let path := invocation.settingsPath.getD (usualSettingsPath home)
  match ← Host.onDisk (Settings.loadOrUsual circumstances.environment path) with
  | .error error => pure (failure error.message)
  | .ok settings =>
    match ← Host.onDisk
      (openLogIfWanted (settings.logFolder? home) circumstances.today) with
    | .error fault => pure (failure fault.message)
    | .ok () => carryOut home settings invocation.command

def start (circumstances : Circumstances) : Host.Work Outcome :=
  match read (circumstances.environment.find? "AUTOSWITCH_CONFIG")
    circumstances.arguments with
  | .error .help => pure ⟨usage, .done⟩
  | .error .version => pure ⟨[versionLine], .done⟩
  | .error .misuse => pure ⟨[], .misuse⟩
  | .ok invocation => invoke circumstances invocation

end Switchyard.CommandLine
