import Switchyard.Files.Path

/-!
# Events of files

The file system tells what has happened to files. An event concerns a file when
it changes something and has to do with a file of the same name; files of one
folder are told apart by their names.
-/

namespace Switchyard.Files

/-- What may happen to files. -/
inductive Change where
  | unspecified
  | access
  | closeAfterWriting
  | creation
  | modification
  | renaming
  | removal
  | other
deriving DecidableEq, Repr

def Change.ofName? : String → Option Change
  | "any" => some .unspecified
  | "access" => some .access
  | "close_write" => some .closeAfterWriting
  | "create" => some .creation
  | "modify" => some .modification
  | "rename" => some .renaming
  | "remove" => some .removal
  | "other" => some .other
  | _ => none

/-- Whether nothing but an access has happened; closing a file counts as one. -/
def Change.isAccess : Change → Bool
  | .access => true
  | .closeAfterWriting => true
  | _ => false

/-- An event with the paths of the files that it is about. -/
structure Event where
  change : Change
  paths : List String
deriving DecidableEq, Repr

def Event.touches (event : Event) (path : String) : Bool :=
  match lastName? path with
  | none => false
  | some name =>
    !event.change.isAccess && event.paths.any fun other =>
      lastName? other == some name

end Switchyard.Files
