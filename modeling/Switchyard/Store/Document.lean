import Switchyard.Failure
import Switchyard.Files.Disk
import Switchyard.Json.Printer
import Switchyard.Json.Reader
import Switchyard.Text.Blank

/-!
# Documents in files

A store keeps its values as JSON documents. A document that is missing or blank
counts as not written yet. A document is written next to its file first and then
takes the file's name in one step, so that whoever reads the file finds the old
document or the new one and never a part of one.
-/

namespace Switchyard.Store

/-- The path under which a document is written before it takes its place. -/
def draftPath (path : String) : String := path ++ ".tmp"

/-- What the content of a file says, or a value of its own where nothing is
written. -/
def interpret {Value : Type} (path : String) (read : Json → Option Value)
    (absent : Value) :
    Except Files.Fault Bytes → Except StoreError Value
  | .error .notFound => .ok absent
  | .error fault => .error (.files fault.message)
  | .ok bytes =>
    match bytes.text? with
    | none => .error (.files Files.Fault.notText.message)
    | some text =>
      if Text.isBlank text then .ok absent
      else
        match (Json.parse? text).bind read with
        | some value => .ok value
        | none => .error (.corrupt path "unexpected text or value")

def readDocument {Value : Type} (path : String) (read : Json → Option Value)
    (absent : Value) :
    Files.Work (Except StoreError Value) := do
  let found ← Files.ask (.read path)
  pure (interpret path read absent found)

def writeDocument (path : String) (value : Json) :
    Files.Work (Except StoreError Unit) := do
  let refuse (fault : Files.Fault) : Files.Work (Except StoreError Unit) :=
    pure (.error (.files fault.message))
  match ← Files.ask (.makeFolders ((Files.parent? path).getD "")) with
  | .error fault => refuse fault
  | .ok () =>
    match ← Files.ask (.truncate (draftPath path)) with
    | .error fault => refuse fault
    | .ok number =>
      match ← Files.ask (.write number (Bytes.ofText value.pretty)) with
      | .error fault => refuse fault
      | .ok () =>
        match ← Files.ask (.rename (draftPath path) path) with
        | .ok () => pure (.ok ())
        | .error fault =>
          let _ ← Files.ask (.remove (draftPath path))
          refuse fault

end Switchyard.Store
