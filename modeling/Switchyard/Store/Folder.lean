import Switchyard.Policy
import Switchyard.Selection
import Switchyard.StatusRecord
import Switchyard.Store.Document
import Switchyard.Store.Memory

/-!
# Stores in a folder

The policy and the last status are kept in two files of one folder, apart from
each other, so that writing a status never looks like an edit of the policy.
Selections are kept in a third file.
-/

namespace Switchyard.Store

/-- A store in the folder at a path. -/
structure Folder where
  path : String
deriving DecidableEq, Repr

namespace Folder

def policyPath (folder : Folder) : String :=
  Files.join folder.path "autoswitch.json"

def statusPath (folder : Folder) : String :=
  Files.join folder.path "autoswitch-status.json"

/-- The store in the folder at a path. The folder is made if it is not there. -/
def open? (path : String) : Files.Work (Except StoreError Folder) := do
  match ← Files.ask (.makeFolders path) with
  | .error fault => pure (.error (.files fault.message))
  | .ok () => pure (.ok ⟨path⟩)

def stored (folder : Folder) : Files.Work (Except StoreError Policy) :=
  readDocument folder.policyPath Policy.ofJson? .initial

def policy (folder : Folder) : Files.Work (Except StoreError Policy) := do
  pure ((← folder.stored).map Policy.clamped)

def update (folder : Folder) (policy : Policy) :
    Files.Work (Except StoreError Unit) :=
  writeDocument folder.policyPath policy.toJson

def record (folder : Folder) (status : StatusRecord) :
    Files.Work (Except StoreError Unit) :=
  writeDocument folder.statusPath status.toJson

/-- The last status that was recorded, unless its message is blank. -/
def status? (folder : Folder) :
    Files.Work (Except StoreError (Option StatusRecord)) := do
  let found ← readDocument folder.statusPath
    (Json.orNull? StatusRecord.ofJson?) none
  pure (found.map fun status => status.bind StatusRecord.visible?)

end Folder

def SelectionMap.toJson (entries : SelectionMap) : Json :=
  .object (entries.toList.map fun entry =>
    (entry.1, .object (entry.2.toList.map fun selection =>
      (selection.1, .text selection.2))))

def SelectionMap.ofJson? : Json → Option SelectionMap :=
  Json.map? (Json.map? Json.text?)

/-- The file of selections in a folder, and the active profile, if there is
one. -/
structure SelectionFile where
  path : String
  profile : Option String
deriving DecidableEq, Repr

namespace SelectionFile

/-- The file of selections in the folder at a path. A blank profile is none. -/
def ofFolder (path : String) (profile : Option String) : SelectionFile :=
  ⟨Files.join path "selections.json",
    profile.filter fun profile => !Text.isBlank profile⟩

def load (file : SelectionFile) : Files.Work (Except StoreError SelectionMap) :=
  readDocument file.path SelectionMap.ofJson? NameMap.empty

def save (file : SelectionFile) (selection : Selection) :
    Files.Work (Except StoreError Unit) := do
  match ← file.load with
  | .error error => pure (.error error)
  | .ok entries =>
    writeDocument file.path (SelectionMap.toJson (entries.save selection))

def selected? (file : SelectionFile) (profile group : String) :
    Files.Work (Except StoreError (Option String)) := do
  pure ((← file.load).map (SelectionMap.selected? profile group))

end SelectionFile

end Switchyard.Store
