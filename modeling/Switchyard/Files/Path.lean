import Switchyard.Text.Bytes

/-!
# Paths

A path is a text of names with slashes between them. It is absolute when it
begins with a slash, and starts from the working folder otherwise. A single
point stands for the folder it is in, two points for the folder above.
-/

namespace Switchyard.Files

abbrev Place := List String

/-- The parts of a path between its slashes, without empty ones and without
those for the folder itself. -/
def pathParts (path : String) : List String :=
  (path.splitOn "/").filter fun part => part != "" && part != "."

def step (place : Place) (part : String) : Place :=
  if part == ".." then place.dropLast else place ++ [part]

def placeOf (working : Place) (path : String) : Place :=
  let start := if path.startsWith "/" then [] else working
  (pathParts path).foldl step start

/-- The path of a name in a folder; an absolute path stays as it is. -/
def join (folder name : String) : String :=
  if name.startsWith "/" || folder.isEmpty then name
  else if folder.endsWith "/" then folder ++ name
  else folder ++ "/" ++ name

def lastName? (path : String) : Option String :=
  match (pathParts path).getLast? with
  | some name => if name == ".." then none else some name
  | none => none

/-- The path of the folder in which the last name of a path is. A single name is
in the working folder, whose path is empty; the top is in no folder. -/
def parent? (path : String) : Option String :=
  match pathParts path with
  | [] => none
  | parts =>
    some ((if path.startsWith "/" then "/" else "") ++ "/".intercalate
      parts.dropLast)

end Switchyard.Files
