import Switchyard.Calendar
import Switchyard.Json.Fields
import Switchyard.Text.Blank

/-!
# The last status

Every look at the group ends with a message for the user. The last one is kept
together with the moment at which it was written.
-/

namespace Switchyard

/-- A message and the milliseconds since 1970 at which it was written. -/
structure StatusRecord where
  timestampMillis : Int64
  message : String
deriving DecidableEq, Repr, Inhabited

namespace StatusRecord

def visible? (record : StatusRecord) : Option StatusRecord :=
  if Text.isBlank record.message then none else some record

/-- The milliseconds since 1970, if they are positive and have a date. -/
def moment? (record : StatusRecord) : Option Nat :=
  let millis := record.timestampMillis.toInt
  if 0 < millis ∧ millis ≤ Calendar.lastMillis then some millis.toNat else none

def line (record : StatusRecord) : String :=
  match record.moment? with
  | some millis => "[" ++ Calendar.timestampText millis ++ "] " ++
    record.message
  | none => "[--] " ++ record.message

def fieldNames : List String :=
  ["auto_switch_last_status_timestamp", "auto_switch_last_status_message"]

def toJson (record : StatusRecord) : Json :=
  .object [
    ("auto_switch_last_status_timestamp", .int record.timestampMillis.toInt),
    ("auto_switch_last_status_message", .text record.message)]

def ofJson? (value : Json) : Option StatusRecord := do
  let fields ← value.fields? fieldNames
  some {
    timestampMillis :=
      ← fields.orElse "auto_switch_last_status_timestamp" 0 Json.int64?
    message := ← fields.orElse "auto_switch_last_status_message" "" Json.text? }

end StatusRecord

end Switchyard
