import Switchyard.Json.Fields
import Switchyard.Timing

/-!
# Settings

The settings say where the controller is and how it is asked, where files are
kept, in which language statuses are written, and how the control loop keeps
time. They come in sections; every section and every field may be left out.
-/

namespace Switchyard

namespace Settings

/-- How the controller is reached; times are in milliseconds. -/
structure Access where
  url : String
  secret : Option String
  requestTimeout : UInt64
  probeUrl : String
  probeTimeout : UInt64
deriving DecidableEq, Repr

/-- Where files are kept, which profile is active, and whether the policy file
is watched. -/
structure Files where
  dataFolder : String
  profile : Option String
  isWatched : Bool
  watchDebounce : UInt64
deriving DecidableEq, Repr

/-- How much is logged, and into which folder. -/
structure Logging where
  level : String
  folder : Option String
deriving DecidableEq, Repr

/-- The timing of the control loop; its bounds are in seconds, all other times
in milliseconds. -/
structure Pace where
  minIntervalSeconds : UInt64
  maxIntervalSeconds : UInt64
  fastRetry : UInt64
  healthCheckTimeout : UInt64
  minImprovement : UInt32
  confirmAttempts : UInt32
  confirmInterval : UInt64
deriving DecidableEq, Repr

end Settings

/-- All settings. -/
structure Settings where
  access : Settings.Access
  files : Settings.Files
  language : String
  logging : Settings.Logging
  pidFile : String
  pace : Settings.Pace
deriving DecidableEq, Repr

namespace Settings

def Access.usual : Access where
  url := "http://127.0.0.1:9090"
  secret := none
  requestTimeout := 20000
  probeUrl := "https://www.gstatic.com/generate_204"
  probeTimeout := 5000

def Files.usual : Files where
  dataFolder := "~/.autoswitch"
  profile := none
  isWatched := true
  watchDebounce := 250

def Logging.usual : Logging := ⟨"info", none⟩

def Pace.usual : Pace where
  minIntervalSeconds := 5
  maxIntervalSeconds := 300
  fastRetry := 1000
  healthCheckTimeout := 15000
  minImprovement := 50
  confirmAttempts := 3
  confirmInterval := 500

def usualLanguage : String := "en"

def usualPidFile : String := "~/.autoswitch/autoswitch.pid"

def usual : Settings :=
  ⟨Access.usual, Files.usual, usualLanguage, Logging.usual,
    usualPidFile, Pace.usual⟩

instance : Inhabited Settings := ⟨usual⟩

def textMember (name : String) : Option String → List (String × Json)
  | none => []
  | some value => [(name, .text value)]

def Access.toJson (access : Access) : Json :=
  .object ([("controller_url", .text access.url)] ++ textMember "secret"
    access.secret ++ [ ("request_timeout_ms", .int access.requestTimeout.toNat),
    ("probe_url", .text access.probeUrl),
    ("probe_timeout_ms", .int access.probeTimeout.toNat)])

def Access.ofJson? (value : Json) : Option Access := do
  let fields ← value.fields?
    ["controller_url", "secret", "request_timeout_ms", "probe_url",
      "probe_timeout_ms"]
  some {
    url := ← fields.orElse "controller_url" usual.url Json.text?
    secret := ← fields.optional "secret" Json.text?
    requestTimeout :=
      ← fields.orElse "request_timeout_ms" usual.requestTimeout Json.word64?
    probeUrl := ← fields.orElse "probe_url" usual.probeUrl Json.text?
    probeTimeout :=
      ← fields.orElse "probe_timeout_ms" usual.probeTimeout Json.word64? }

def Files.toJson (files : Files) : Json :=
  .object ([("data_dir", .text files.dataFolder)] ++ textMember "profile"
    files.profile ++ [ ("watch", .bool files.isWatched),
    ("watch_debounce_ms", .int files.watchDebounce.toNat)])

def Files.ofJson? (value : Json) : Option Files := do
  let fields ← value.fields? ["data_dir", "profile", "watch",
    "watch_debounce_ms"]
  some {
    dataFolder := ← fields.orElse "data_dir" usual.dataFolder Json.text?
    profile := ← fields.optional "profile" Json.text?
    isWatched := ← fields.orElse "watch" usual.isWatched Json.bool?
    watchDebounce :=
      ← fields.orElse "watch_debounce_ms" usual.watchDebounce Json.word64? }

def languageToJson (language : String) : Json :=
  .object [("locale", .text language)]

def languageOfJson? (value : Json) : Option String := do
  (← value.fields? ["locale"]).orElse "locale" usualLanguage Json.text?

def Logging.toJson (logging : Logging) : Json :=
  .object ([("level", .text logging.level)] ++ textMember "dir" logging.folder)

def Logging.ofJson? (value : Json) : Option Logging := do
  let fields ← value.fields? ["level", "dir"]
  some {
    level := ← fields.orElse "level" usual.level Json.text?
    folder := ← fields.optional "dir" Json.text? }

def pidFileToJson (pidFile : String) : Json :=
  .object [("pid_file", .text pidFile)]

def pidFileOfJson? (value : Json) : Option String := do
  (← value.fields? ["pid_file"]).orElse "pid_file" usualPidFile Json.text?

def Pace.toJson (pace : Pace) : Json :=
  .object [
    ("min_interval_secs", .int pace.minIntervalSeconds.toNat),
    ("max_interval_secs", .int pace.maxIntervalSeconds.toNat),
    ("fast_retry_ms", .int pace.fastRetry.toNat),
    ("health_check_timeout_ms", .int pace.healthCheckTimeout.toNat),
    ("min_improvement_ms", .int pace.minImprovement.toNat),
    ("confirm_attempts", .int pace.confirmAttempts.toNat),
    ("confirm_interval_ms", .int pace.confirmInterval.toNat)]

def Pace.ofJson? (value : Json) : Option Pace := do
  let fields ← value.fields?
    ["min_interval_secs", "max_interval_secs", "fast_retry_ms",
      "health_check_timeout_ms", "min_improvement_ms", "confirm_attempts",
      "confirm_interval_ms"]
  some {
    minIntervalSeconds :=
      ← fields.orElse "min_interval_secs" usual.minIntervalSeconds Json.word64?
    maxIntervalSeconds :=
      ← fields.orElse "max_interval_secs" usual.maxIntervalSeconds Json.word64?
    fastRetry := ← fields.orElse "fast_retry_ms" usual.fastRetry Json.word64?
    healthCheckTimeout := ←
      fields.orElse "health_check_timeout_ms"
      usual.healthCheckTimeout Json.word64?
    minImprovement :=
      ← fields.orElse "min_improvement_ms" usual.minImprovement Json.word32?
    confirmAttempts :=
      ← fields.orElse "confirm_attempts" usual.confirmAttempts Json.word32?
    confirmInterval :=
      ← fields.orElse "confirm_interval_ms" usual.confirmInterval Json.word64? }

def toJson (settings : Settings) : Json :=
  .object [
    ("engine", settings.access.toJson), ("store", settings.files.toJson),
    ("status", languageToJson settings.language),
    ("log", settings.logging.toJson),
    ("daemon", pidFileToJson settings.pidFile),
    ("timing", settings.pace.toJson)]

def ofJson? (value : Json) : Option Settings := do
  let fields ← value.fields? ["engine", "store", "status", "log",
    "daemon", "timing"]
  some {
    access := ← fields.orElse "engine" usual.access Access.ofJson?
    files := ← fields.orElse "store" usual.files Files.ofJson?
    language := ← fields.orElse "status" usual.language languageOfJson?
    logging := ← fields.orElse "log" usual.logging Logging.ofJson?
    pidFile := ← fields.orElse "daemon" usual.pidFile pidFileOfJson?
    pace := ← fields.orElse "timing" usual.pace Pace.ofJson? }

/-- The way to reach the controller with a secret only if it is not empty. -/
def Access.effective (access : Access) : Access :=
  { access with secret := access.secret.filter fun secret => !secret.isEmpty }

/-- A number of seconds in milliseconds, or the greatest number of milliseconds
there is. -/
def millisOfSeconds (seconds : UInt64) : UInt64 :=
  UInt64.ofNat (min (seconds.toNat * 1000) (UInt64.size - 1))

def Pace.timing (pace : Pace) : Timing where
  minInterval := millisOfSeconds pace.minIntervalSeconds
  maxInterval := millisOfSeconds pace.maxIntervalSeconds
  fastRetry := pace.fastRetry
  healthCheckTimeout := pace.healthCheckTimeout
  minImprovement := pace.minImprovement
  confirmAttempts := pace.confirmAttempts
  confirmInterval := pace.confirmInterval

/-- A path in which a tilde in front stands for the home folder, if there is
one. -/
def expandHome (home : Option String) (path : String) : String :=
  match home, path.toList with
  | some folder, ['~'] => folder
  | some folder, '~' :: '/' :: rest => folder ++ String.ofList ('/' :: rest)
  | _, _ => path

def dataFolder (home : Option String) (settings : Settings) : String :=
  expandHome home settings.files.dataFolder

def logFolder? (home : Option String) (settings : Settings) : Option String :=
  settings.logging.folder.map (expandHome home)

def pidFilePath (home : Option String) (settings : Settings) : String :=
  expandHome home settings.pidFile

end Settings

end Switchyard
