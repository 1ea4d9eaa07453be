import Switchyard.Files.Path
import Switchyard.Routine

/-!
# The disk

A disk holds folders, files and links that lead nowhere. A file is a name for a
content; whoever has opened a file for writing writes to that content from its
beginning, also when the name has been given to another content since. Every
change of the disk is one of a few small steps, each of which may fail and then
changes nothing.
-/

namespace Switchyard.Files

/-- Why a step on the disk is refused. -/
inductive Fault where
  | notFound
  | alreadyThere
  | isFolder
  | notFolder
  | notEmpty
  | notText
  | other (reason : String)
deriving DecidableEq, Repr

def Fault.message : Fault → String
  | .notFound => "No such file or directory (os error 2)"
  | .alreadyThere => "File exists (os error 17)"
  | .isFolder => "Is a directory (os error 21)"
  | .notFolder => "Not a directory (os error 20)"
  | .notEmpty => "Directory not empty (os error 39)"
  | .notText => "stream did not contain valid UTF-8"
  | .other reason => reason

/-- What a name may stand for. A file is the number of its content. -/
inductive Entry where
  | file (content : Nat)
  | folder
  | brokenLink
deriving DecidableEq, Repr

/-- All names with what they stand for, the contents in the order of their
numbers, and the folder from which paths start. The top is a folder without
being listed. -/
structure Disk where
  entries : List (Place × Entry)
  contents : List Bytes
  working : Place
deriving Repr

namespace Disk

def entryAt? (disk : Disk) (place : Place) : Option Entry :=
  if place.isEmpty then some .folder else disk.entries.lookup place

/-- Why the way to a place cannot be gone, if it cannot: on it, from a place
already reached, is something that is no folder, or nothing. -/
def obstacle? (disk : Disk) (reached : Place) : List String → Option Fault
  | [] => none
  | [_] => none
  | name :: names =>
    match disk.entryAt? (reached ++ [name]) with
    | some .folder => disk.obstacle? (reached ++ [name]) names
    | some (.file _) => some .notFolder
    | _ => some .notFound

def reach (disk : Disk) (path : String) : Except Fault Place :=
  let place := placeOf disk.working path
  match disk.obstacle? [] place with
  | some fault => .error fault
  | none => .ok place

def content (disk : Disk) (number : Nat) : Bytes :=
  disk.contents[number]?.getD []

def read (disk : Disk) (path : String) : Except Fault Bytes := do
  match disk.entryAt? (← disk.reach path) with
  | some (.file number) => .ok (disk.content number)
  | some .folder => .error .isFolder
  | _ => .error .notFound

def readText (disk : Disk) (path : String) : Except Fault String := do
  match (← disk.read path).text? with
  | some text => .ok text
  | none => .error .notText

def isFolder (disk : Disk) (path : String) : Bool :=
  match disk.reach path with
  | .ok place => disk.entryAt? place == some .folder
  | .error _ => false

/-- All paths below a place, in the order of their texts; those of folders end
in a slash. -/
def list (disk : Disk) (top : Place) : List String :=
  let below := disk.entries.filterMap fun listed =>
    if top.isPrefixOf listed.1 && top.length < listed.1.length then
      let path := "/".intercalate (listed.1.drop top.length)
      some (if listed.2 == .folder then path ++ "/" else path)
    else none
  below.mergeSort fun left right => decide (left ≤ right)

def put (disk : Disk) (place : Place) (entry : Entry) : Disk :=
  { disk with
    entries := disk.entries.filter (fun listed => listed.1 != place) ++
      [(place, entry)] }

theorem lookup_filter_ne {place other : Place} (apart : other ≠ place)
    (entries : List (Place × Entry)) :
    (entries.filter fun listed => listed.1 != place).lookup other =
      entries.lookup other := by
  induction entries with
  | nil => rfl
  | cons listed rest restFact =>
    obtain ⟨name, entry⟩ := listed
    by_cases same : name = place
    · subst same
      simp [restFact, List.lookup_cons, beq_eq_false_iff_ne.2 apart]
    · by_cases found : other = name
      · subst found
        simp [apart]
      · simp [same, restFact, List.lookup_cons, beq_eq_false_iff_ne.2 found]

/-- After a name was given something to stand for, it stands for that and every
other name for what it stood for before. -/
theorem entryAt?_put {place : Place} (named : place ≠ [])
    (entry : Entry) (disk : Disk) (other : Place) :
    (disk.put place entry).entryAt? other =
      if other = place then some entry else disk.entryAt? other := by
  unfold entryAt? put
  by_cases top : other = []
  · subst top
    rw [if_neg named.symm]
    rfl
  · by_cases same : other = place
    · subst same
      have gone : (disk.entries.filter fun listed => listed.1 != other).lookup
          other = none := by
        rw [List.lookup_eq_none_iff]
        intro listed member
        have apart : listed.1 ≠ other := by
          simpa using (List.mem_filter.1 member).2
        exact bne_iff_ne.2 apart.symm
      simp [top, List.lookup_append, gone]
    · simp [top, same, List.lookup_append, lookup_filter_ne same,
        List.lookup_cons, beq_eq_false_iff_ne.2 same]

def drop (disk : Disk) (place : Place) : Disk :=
  { disk with
    entries := disk.entries.filter fun listed => !place.isPrefixOf listed.1 }

/-- Makes the folders that lead to a place, which is given by what is reached
already and the names that are left. -/
def makeAlong (reached : Place) : List String → Disk → Except Fault Unit × Disk
  | [], disk => (.ok (), disk)
  | name :: names, disk =>
    let place := reached ++ [name]
    match disk.entryAt? place with
    | some .folder => makeAlong place names disk
    | none => makeAlong place names (disk.put place .folder)
    | some _ =>
      (.error (if names.isEmpty then .alreadyThere else .notFolder), disk)

/-- A disk on which there is only the working folder and what leads to it. -/
def blank (working : Place) : Disk := (makeAlong [] working ⟨[], [], working⟩).2

def makeFolders (disk : Disk) (path : String) : Except Fault Unit × Disk :=
  makeAlong [] (placeOf disk.working path) disk

/-- Opens the file at a path for writing and empties it. If there is none, it
comes about. The result is the number of its content. -/
def truncate (disk : Disk) (path : String) : Except Fault Nat × Disk :=
  match disk.reach path with
  | .error fault => (.error fault, disk)
  | .ok place =>
    match disk.entryAt? place with
    | some (.file number) =>
      (.ok number, { disk with contents := disk.contents.set number [] })
    | some .folder => (.error .isFolder, disk)
    | some .brokenLink => (.error .notFound, disk)
    | none =>
      let number := disk.contents.length
      (.ok number, { disk.put place (.file number) with
        contents := disk.contents ++ [[]] })

/-- Writes bytes over the beginning of a content. What was there behind them
stays. -/
def write (disk : Disk) (number : Nat) (bytes : Bytes) : Disk :=
  { disk with
    contents :=
      disk.contents.set number
        (bytes ++ (disk.content number).drop bytes.length) }

/-- Gives what one path leads to another path instead. A file that the other
path led to loses that name in the same step. -/
def rename (disk : Disk) (source target : String) : Except Fault Unit × Disk :=
  match disk.reach source, disk.reach target with
  | .error fault, _ => (.error fault, disk)
  | _, .error fault => (.error fault, disk)
  | .ok oldPlace, .ok newPlace =>
    match disk.entryAt? oldPlace, disk.entryAt? newPlace with
    | none, _ => (.error .notFound, disk)
    | some .folder, none =>
      let moved := disk.entries.map fun listed =>
        if oldPlace.isPrefixOf listed.1 then
          (newPlace ++ listed.1.drop oldPlace.length, listed.2)
        else listed
      (.ok (), { disk with entries := moved })
    | some .folder, some _ => (.error .notEmpty, disk)
    | some _, some .folder => (.error .isFolder, disk)
    | some entry, _ => (.ok (), (disk.drop oldPlace).put newPlace entry)

def remove (disk : Disk) (path : String) : Except Fault Unit × Disk :=
  match disk.reach path with
  | .error fault => (.error fault, disk)
  | .ok place =>
    match disk.entryAt? place with
    | none => (.error .notFound, disk)
    | some .folder => (.error .isFolder, disk)
    | some _ => (.ok (), disk.drop place)

def removeTree (disk : Disk) (path : String) : Except Fault Unit × Disk :=
  match disk.reach path with
  | .error fault => (.error fault, disk)
  | .ok place =>
    match disk.entryAt? place with
    | none => (.error .notFound, disk)
    | some .folder => (.ok (), disk.drop place)
    | some _ => (.error .notFolder, disk)

/-- Writes a whole file at once and makes the folders on the way to it. -/
def save (disk : Disk) (path : String) (bytes : Bytes) :
    Except Fault Unit × Disk :=
  match disk.makeFolders ((parent? path).getD "") with
  | (.error fault, disk) => (.error fault, disk)
  | (.ok (), disk) =>
    match disk.truncate path with
    | (.error fault, disk) => (.error fault, disk)
    | (.ok number, disk) => (.ok (), disk.write number bytes)

end Disk

/-- What a program may ask of a disk. -/
inductive Request where
  | read (path : String)
  | makeFolders (path : String)
  | truncate (path : String)
  | write (number : Nat) (bytes : Bytes)
  | rename (source target : String)
  | remove (path : String)
deriving DecidableEq

abbrev Request.Answer : Request → Type
  | .read _ => Except Fault Bytes
  | .makeFolders _ => Except Fault Unit
  | .truncate _ => Except Fault Nat
  | .write _ _ => Except Fault Unit
  | .rename _ _ => Except Fault Unit
  | .remove _ => Except Fault Unit

abbrev Work (Result : Type) := Routine Request.Answer Result

abbrev ask (request : Request) : Work request.Answer := Routine.call request

def overwrite (path : String) (bytes : Bytes) : Work (Except Fault Unit) := do
  match ← ask (.truncate path) with
  | .error fault => pure (.error fault)
  | .ok number => ask (.write number bytes)

def Disk.answer (request : Request) (disk : Disk) : request.Answer × Disk :=
  match request with
  | .read path => (disk.read path, disk)
  | .makeFolders path => disk.makeFolders path
  | .truncate path => disk.truncate path
  | .write number bytes => (.ok (), disk.write number bytes)
  | .rename source target => disk.rename source target
  | .remove path => disk.remove path

def Disk.perform {Result : Type} (work : Work Result) (disk : Disk) :
    Result × Disk :=
  work.complete Disk.answer disk

end Switchyard.Files
