import Switchyard.Json.Fields

/-!
# Objects with loose members

Scripts are written as objects in which a member that is missing counts as null,
and in which of members with the same name the last one counts.
-/

namespace Switchyard.Json

mutual

/-- The value in which every object has only the last of its members with the
same name. -/
def withLastMembers : Json → Json
  | .array items => .array (lastOfItems items)
  | .object members => .object (lastOfMembers members)
  | value => value

def lastOfItems : List Json → List Json
  | [] => []
  | item :: items => withLastMembers item :: lastOfItems items

/-- The members of an object without those that a later one replaces. -/
def lastOfMembers : List (String × Json) → List (String × Json)
  | [] => []
  | (name, value) :: members =>
    if members.any (·.1 == name) then lastOfMembers members
    else (name, withLastMembers value) :: lastOfMembers members

end

variable {Value : Type}

def member (value : Json) (name : String) : Json :=
  match value with
  | .object members => (members.lookup name).getD .null
  | _ => .null

def required (value : Json) (name : String) (read : Json → Option Value) :
    Option Value :=
  read (value.member name)

def orElse (value : Json) (name : String) (absent : Value)
    (read : Json → Option Value) : Option Value :=
  match value.member name with
  | .null => some absent
  | given => read given

def optional (value : Json) (name : String) (read : Json → Option Value) :
    Option (Option Value) :=
  orNull? read (value.member name)

def textAt (value : Json) (name : String) : Option String :=
  value.required name text?

def natAt (value : Json) (name : String) : Option Nat :=
  value.required name (nat? UInt64.size)

end Switchyard.Json
