import Switchyard.Json.Fields

/-!
# Remembered selections

A selection that the program applied is remembered under the active profile and
the group, so that it can be restored.
-/

namespace Switchyard

/-- The proxy that was applied to a group under a profile. -/
structure Selection where
  profile : String
  group : String
  proxy : String
deriving DecidableEq, Repr

namespace Selection

def fieldNames : List String := ["profile", "group", "proxy"]

def toJson (selection : Selection) : Json :=
  .object [("profile", .text selection.profile),
    ("group", .text selection.group), ("proxy", .text selection.proxy)]

def ofJson? (value : Json) : Option Selection := do
  let fields ← value.fields? fieldNames
  some {
    profile := ← fields.required "profile" Json.text?
    group := ← fields.required "group" Json.text?
    proxy := ← fields.required "proxy" Json.text? }

end Selection

end Switchyard
