import Switchyard.Files.Disk
import Switchyard.Settings.Loading

/-!
# The settings file

Settings are kept in a file. Whoever has no such file gets the usual settings; a
file that is there has to be readable.
-/

namespace Switchyard.Settings

def load (environment : Environment) (path : String) :
    Files.Work (Except SettingsError Settings) := do
  match ← Files.ask (.read path) with
  | .error .notFound => pure (.error (.notFound path))
  | .error fault => pure (.error (.unreadable path fault.message))
  | .ok bytes =>
    match bytes.text? with
    | none => pure (.error (.unreadable path Files.Fault.notText.message))
    | some text => pure (ofText environment text)

/-- The settings in the file at a path, or the usual ones where there is no such
file. -/
def loadOrUsual (environment : Environment) (path : String) :
    Files.Work (Except SettingsError Settings) := do
  match ← load environment path with
  | .error (.notFound _) => pure (.ok usual)
  | outcome => pure outcome

end Switchyard.Settings
