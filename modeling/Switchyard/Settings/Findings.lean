import Switchyard.Failure
import Switchyard.Settings
import Switchyard.Text.Blank
import Switchyard.Url.Reader

/-!
# Checking settings

A check of the settings finds errors, which keep the daemon from running, and
warnings, which do not. The findings come in a fixed order, section by section.
-/

namespace Switchyard.Settings

/-- Something that was found, and the field in which it was found. -/
structure Finding where
  place : String
  message : String
deriving DecidableEq, Repr

/-- All that was found. -/
structure Findings where
  errors : List Finding
  warnings : List Finding
deriving DecidableEq, Repr

namespace Findings

def and (first second : Findings) : Findings :=
  ⟨first.errors ++ second.errors, first.warnings ++ second.warnings⟩

def error (isFound : Bool) (place message : String) : Findings :=
  ⟨if isFound then [⟨place, message⟩] else [], []⟩

def warning (isFound : Bool) (place message : String) : Findings :=
  ⟨[], if isFound then [⟨place, message⟩] else []⟩

def all (checks : List Findings) : Findings := checks.foldl and ⟨[], []⟩

def isValid (findings : Findings) : Bool := findings.errors.isEmpty

def outcome (findings : Findings) : Except SettingsError (List Finding) :=
  match findings.errors with
  | [] => .ok findings.warnings
  | first :: _ => .error (.badValue first.place first.message)

end Findings

def languages : List String := ["en", "zh"]

def isLocal (url : Url) : Bool :=
  match url.hostText? with
  | some host => ["127.0.0.1", "localhost", "[::1]"].contains host
  | none => false

def urlFindings (access : Access) : Findings :=
  let place := "engine.controller_url"
  if Text.isBlank access.url then
    .error true place "controller_url cannot be empty"
  else
    match Url.parse access.url with
    | .error error => .error true place ("invalid URL: " ++ error.message)
    | .ok url =>
      if url.scheme != "http" && url.scheme != "https" then
        .error true place "controller_url must start with http:// or https://"
      else
        .warning (!isLocal url && access.secret.isNone) "engine.secret"
          "controller is not on loopback and no secret is set"

def positiveFindings (placeSection field : String) (isZero : Bool) : Findings :=
  .error isZero (placeSection ++ "." ++ field)
    (field ++ " must be greater than 0")

def Access.findings (access : Access) : Findings :=
  .all [
    urlFindings access,
    positiveFindings "engine" "request_timeout_ms" (access.requestTimeout == 0),
    positiveFindings "engine" "probe_timeout_ms" (access.probeTimeout == 0),
    .error (Url.parse access.probeUrl).toOption.isNone "engine.probe_url"
      "probe_url must be an absolute URL"]

def Files.findings (files : Files) : Findings :=
  .all [
    .error (Text.isBlank files.dataFolder) "store.data_dir"
      "data_dir cannot be empty",
    .warning files.profile.isNone "store.profile"
      "no active profile, applied switches will not be remembered"]

def languageFindings (language : String) : Findings :=
  .error (!languages.contains language) "status.locale"
    ("Unknown locale '" ++ language ++ "', valid values: [\"" ++
      "\", \"".intercalate languages ++ "\"]")

def Pace.findings (pace : Pace) : Findings :=
  .all [
    positiveFindings "timing" "min_interval_secs"
      (pace.minIntervalSeconds == 0),
    .error (decide (pace.maxIntervalSeconds < pace.minIntervalSeconds))
      "timing.max_interval_secs"
      "max_interval_secs must not be below min_interval_secs",
    positiveFindings "timing" "fast_retry_ms" (pace.fastRetry == 0),
    positiveFindings "timing" "health_check_timeout_ms"
      (pace.healthCheckTimeout == 0),
    positiveFindings "timing" "confirm_attempts" (pace.confirmAttempts == 0)]

def findings (settings : Settings) : Findings :=
  .all [settings.access.findings, settings.files.findings,
    languageFindings settings.language, settings.pace.findings]

end Switchyard.Settings
