import Switchyard.Json
import Switchyard.NameSet
import Switchyard.NameMap

/-!
# Records in JSON

A record is written as an object, or as an array of its fields in their order.
In an object, fields of other names are skipped and a field given twice is
refused. In an array, trailing fields may be left out and more items than fields
are refused. A field with the value null counts as given.
-/

namespace Switchyard.Json

def bool? : Json → Option Bool
  | .bool value => some value
  | _ => none

def text? : Json → Option String
  | .text value => some value
  | _ => none

def nat? (bound : Nat) : Json → Option Nat
  | .int value => if 0 ≤ value ∧ value < bound then some value.toNat else none
  | _ => none

def word64? (value : Json) : Option UInt64 :=
  (value.nat? UInt64.size).map UInt64.ofNat

def word32? (value : Json) : Option UInt32 :=
  (value.nat? UInt32.size).map UInt32.ofNat

def int64? : Json → Option Int64
  | .int value => if isInt64 value then some (Int64.ofInt value) else none
  | _ => none

def int32? : Json → Option Int
  | .int value =>
    if Int32.minValue.toInt ≤ value ∧
      value ≤ Int32.maxValue.toInt then some value else none
  | _ => none

def list? {Value : Type} (read : Json → Option Value) :
    Json → Option (List Value)
  | .array items => items.mapM read
  | _ => none

def texts? (value : Json) : Option (List String) := value.list? text?

/-- The set of names that is written; order and repetitions do not matter. -/
def names? (value : Json) : Option NameSet :=
  value.texts?.map NameSet.ofList

/-- The map that is written; of members with the same key the last one
counts. -/
def map? {Value : Type} (read : Json → Option Value) :
    Json → Option (NameMap Value)
  | .object members =>
    (members.mapM fun member => (read member.2).map (member.1, ·)).map
      NameMap.ofList
  | _ => none

def orNull? {Value : Type} (read : Json → Option Value) :
    Json → Option (Option Value)
  | .null => some none
  | value => (read value).map some

/-- The fields that a written record gives. -/
structure Fields where
  given : List (String × Json)

/-- The fields of a written record whose field names, in their order, are
listed. -/
def fields? (names : List String) : Json → Option Fields
  | .object members =>
    let known := members.filter fun member => names.contains member.1
    if (known.map Prod.fst).Nodup then some ⟨known⟩ else none
  | .array items => if items.length ≤ names.length then some ⟨names.zip items⟩
    else none
  | _ => none

namespace Fields

variable {Value : Type}

def required (fields : Fields) (name : String) (read : Json → Option Value) :
    Option Value :=
  (fields.given.lookup name).bind read

def orElse (fields : Fields) (name : String) (absent : Value)
    (read : Json → Option Value) : Option Value :=
  match fields.given.lookup name with
  | none => some absent
  | some value => read value

def optional (fields : Fields) (name : String) (read : Json → Option Value) :
    Option (Option Value) :=
  fields.orElse name none (orNull? read)

end Fields

/-- The name of the case that is written: as a text, or as an object with that
one key and null. -/
def caseName? : Json → Option String
  | .text name => some name
  | .object [(name, .null)] => some name
  | _ => none

end Switchyard.Json
