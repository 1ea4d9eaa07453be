import Switchyard.Failure
import Switchyard.NameMap
import Switchyard.Settings
import Switchyard.Toml.Reader

/-!
# Loading settings

Settings are written in TOML. Before the text is read, references to variables
of the environment are replaced by their values; the values themselves are not
searched for references. The first reference to a variable that is not set is an
error, wherever it stands.
-/

namespace Switchyard.Settings

abbrev Environment := NameMap String

/-- The value of a variable. No variable has an equals sign or a null character
in its name. -/
def valueOf? (environment : Environment) (name : List Char) : Option String :=
  if name.contains '=' || name.contains '\x00' then none
  else environment.find? (String.ofList name)

/-- The name in a reference and the characters behind it, when what stands
behind a dollar sign and an opening brace is a name and a closing brace. -/
def splitReference? (characters : List Char) : Option (List Char × List Char) :=
  let name := characters.takeWhile (· != '\x7d')
  match characters.dropWhile (· != '\x7d') with
  | [] => none
  | _ :: rest => if name.isEmpty then none else some (name, rest)

theorem length_lt_of_splitReference? {characters name rest : List Char}
    (split : splitReference? characters = some (name, rest)) :
    rest.length < characters.length := by
  have shorter :=
    (List.dropWhile_sublist (fun character : Char => character != '\x7d')
    (l := characters)).length_le
  unfold splitReference? at split
  cases left : characters.dropWhile (· != '\x7d') with
  | nil => simp [left] at split
  | cons head tail =>
    rw [left] at shorter
    simp only [left] at split
    split at split
    · cases split
    · simp only [Option.some.injEq, Prod.mk.injEq] at split
      rw [← split.2]
      simp only [List.length_cons] at shorter
      omega

def expand (environment : Environment) :
    List Char → Except SettingsError (List Char)
  | [] => .ok []
  | '$' :: '\x7b' :: behind =>
    match _ : splitReference? behind with
    | some (name, rest) =>
      match valueOf? environment name with
      | none => .error (.missingVariable (String.ofList name))
      | some value => (expand environment rest).map (value.toList ++ ·)
    | none => (expand environment ('\x7b' :: behind)).map ('$' :: ·)
  | character :: behind => (expand environment behind).map (character :: ·)
termination_by characters => characters.length
decreasing_by
  all_goals simp only [List.length_cons]
  · have shorter :=
      length_lt_of_splitReference? ‹splitReference? behind = some (name, rest)›
    omega
  all_goals omega

def ofText (environment : Environment) (text : String) :
    Except SettingsError Settings := do
  let expanded ← expand environment text.toList
  match (Toml.parse? (String.ofList expanded)).bind Settings.ofJson? with
  | some settings => .ok settings
  | none => .error (.notToml "unexpected text or value")

end Switchyard.Settings
