import Switchyard.ControlSignal

/-!
# Arguments

The arguments of the program name a command, and perhaps the settings file. The
option for the settings file may stand on every level of the command, but only
once on each; the one that stands on the deepest level counts. A variable of the
environment takes the place of the option where it is missing. An empty path is
refused wherever it counts for a level.
-/

namespace Switchyard.CommandLine

/-- What the program can be told to do. -/
inductive Command where
  | run
  | ask (signal : ControlSignal)
  | showStatus
  | showPolicy
deriving DecidableEq, Repr

/-- A command with the path of the settings file, if one is given. -/
structure Invocation where
  command : Command
  settingsPath : Option String
deriving DecidableEq, Repr

/-- Why no command is carried out. -/
inductive Refusal where
  | help
  | version
  | misuse
deriving DecidableEq, Repr

/-- How far the arguments have named a command: not at all, up to the commands
about the policy, or completely. -/
inductive Level where
  | top
  | policy
  | complete (command : Command)
deriving DecidableEq, Repr

def Level.next? : Level → String → Option Level
  | .top, "run" => some (.complete .run)
  | .top, "stop" => some (.complete (.ask .stop))
  | .top, "reload" => some (.complete (.ask .reload))
  | .top, "status" => some (.complete .showStatus)
  | .top, "config" => some .policy
  | .policy, "show" => some (.complete .showPolicy)
  | _, _ => none

/-- Whether there are commands below a level, so that help can be asked for with
a word. -/
def Level.hasCommands : Level → Bool
  | .complete _ => false
  | _ => true

def Level.command? : Level → Option Command
  | .top => some .run
  | .policy => none
  | .complete command => some command

/-- What has been read so far: the level, the path given on it, the path that
counts so far, and whether some level above has none of its own. -/
structure Progress where
  level : Level
  given : Option String
  settingsPath : Option String
  isLacking : Bool

namespace Progress

def start : Progress := ⟨.top, none, none, false⟩

def takePath (path : String) (progress : Progress) : Except Refusal Progress :=
  if path.isEmpty || progress.given.isSome then .error .misuse
  else .ok { progress with given := some path, settingsPath := some path }

def descend (level : Level) (progress : Progress) : Progress :=
  { progress with
    level := level
    given := none
    isLacking := progress.isLacking || progress.given.isNone }

def conclude (fallback : Option String) (progress : Progress) :
    Except Refusal Invocation :=
  let isLacking := progress.isLacking || progress.given.isNone
  match progress.level.command? with
  | none => .error .misuse
  | some command =>
    if isLacking && fallback == some "" then .error .misuse
    else .ok ⟨command, progress.settingsPath <|> fallback⟩

end Progress

/-- What is read after one argument: the path of the settings file may still be
missing. -/
structure Taken where
  progress : Progress
  isPathDue : Bool

/-- Takes an option that is written out, with a value if one stands behind an
equals sign. -/
def takeLong (name : String) (value : Option String) (progress : Progress) :
    Except Refusal Taken :=
  match name, value with
  | "config", some path => (progress.takePath path).map (⟨·, false⟩)
  | "config", none => .ok ⟨progress, true⟩
  | "help", none => .error .help
  | "version", none =>
    .error (if progress.level = .top then .version else .misuse)
  | _, _ => .error .misuse

def takeShort (letters : List Char) (progress : Progress) :
    Except Refusal Taken :=
  match letters with
  | ['c'] => .ok ⟨progress, true⟩
  | 'c' :: '=' :: path =>
    (progress.takePath (String.ofList path)).map (⟨·, false⟩)
  | 'c' :: path => (progress.takePath (String.ofList path)).map (⟨·, false⟩)
  | 'h' :: _ => .error .help
  | 'V' :: _ => .error (if progress.level = .top then .version else .misuse)
  | _ => .error .misuse

def splitLong (option : List Char) : String × Option String :=
  let name := String.ofList (option.takeWhile (· != '='))
  match option.dropWhile (· != '=') with
  | [] => (name, none)
  | _ :: value => (name, some (String.ofList value))

def leadsSomewhere : Level → List String → Bool
  | _, [] => true
  | level, word :: words =>
    match level.next? word with
    | some next => leadsSomewhere next words
    | none => word == "help" && level.hasCommands && words.isEmpty

def takeArgument (argument : String) (progress : Progress) :
    Except Refusal Taken :=
  match argument.toList with
  | '-' :: '-' :: option =>
    let (name, value) := splitLong option
    takeLong name value progress
  | '-' :: letter :: letters => takeShort (letter :: letters) progress
  | _ =>
    match progress.level.next? argument with
    | some level => .ok ⟨progress.descend level, false⟩
    | none => .error .misuse

/-- Whether an argument can be a value: anything but another option. -/
def isValue (argument : String) : Bool :=
  match argument.toList with
  | '-' :: _ :: _ => false
  | _ => true

/-- Reads arguments. Behind two dashes no option and no command is looked for,
and nothing else is wanted there. -/
def readFrom (fallback : Option String) :
    Progress → List String → Except Refusal Invocation
  | progress, [] => progress.conclude fallback
  | progress, ["--"] => progress.conclude fallback
  | progress, argument :: arguments =>
    if argument == "--" then .error .misuse
    else if argument == "help" && progress.level.hasCommands then
      .error (if leadsSomewhere progress.level arguments then .help
        else .misuse)
    else
      match takeArgument argument progress with
      | .error refusal => .error refusal
      | .ok taken =>
        if taken.isPathDue then
          match arguments with
          | [] => .error .misuse
          | path :: others =>
            if isValue path then
              match taken.progress.takePath path with
              | .error refusal => .error refusal
              | .ok progress => readFrom fallback progress others
            else .error .misuse
        else readFrom fallback taken.progress arguments

/-- What the arguments of the program say. The fallback is the path that the
environment gives. -/
def read (fallback : Option String) (arguments : List String) :
    Except Refusal Invocation :=
  readFrom fallback Progress.start arguments

example : (read none []).toOption = some ⟨.run, none⟩ := by decide +kernel

example : (read none ["config", "show", "--config=a"]).toOption =
    some ⟨.showPolicy, some "a"⟩ := by
  decide +kernel

example : (read none ["-c", "a", "status", "-cb"]).toOption = some ⟨.showStatus,
    some "b"⟩ := by
  decide +kernel

example : (read none ["-c", "--version"]).toOption = none := by decide +kernel

end Switchyard.CommandLine
