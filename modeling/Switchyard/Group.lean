import Switchyard.Delay
import Switchyard.Text.Blank

/-!
# Proxies and their groups

A selector group lists proxies and names the one that is selected. The selected
name may be blank, which means that nothing is selected, and it may be the name
of a proxy outside of the list.
-/

namespace Switchyard

/-- A proxy as its group lists it. -/
structure Proxy where
  name : String
  title : String
  delay : Delay
deriving DecidableEq, Repr, Inhabited

/-- What a group looked like when it was queried. -/
structure Group where
  name : String
  selected : String
  members : List Proxy
deriving DecidableEq, Repr, Inhabited

/-- The order in which a group's members are asked for. -/
inductive MemberOrder where
  | asListed
  | byTitle
  | byDelay
deriving DecidableEq, Repr

namespace Proxy

def displayName (proxy : Proxy) : String :=
  if Text.isBlank proxy.title then proxy.name else proxy.title

def fieldNames : List String := ["name", "title", "delay"]

def toJson (proxy : Proxy) : Json :=
  .object [("name", .text proxy.name), ("title", .text proxy.title),
    ("delay", proxy.delay.toJson)]

def ofJson? (value : Json) : Option Proxy := do
  let fields ← value.fields? fieldNames
  some {
    name := ← fields.required "name" Json.text?
    title := ← fields.orElse "title" "" Json.text?
    delay := ← fields.orElse "delay" .unknown Delay.ofJson? }

end Proxy

namespace MemberOrder

def name : MemberOrder → String
  | .asListed => "default"
  | .byTitle => "title"
  | .byDelay => "delay"

def ofName? : String → Option MemberOrder
  | "default" => some .asListed
  | "title" => some .byTitle
  | "delay" => some .byDelay
  | _ => none

def toJson (order : MemberOrder) : Json := .text order.name

def ofJson? (value : Json) : Option MemberOrder := value.caseName?.bind ofName?

def precedes : MemberOrder → Proxy → Proxy → Bool
  | .asListed, _, _ => true
  | .byTitle, left, right => decide (left.displayName ≤ right.displayName)
  | .byDelay, left, right => decide (left.delay.score ≤ right.delay.score)

def sort (order : MemberOrder) (members : List Proxy) : List Proxy :=
  match order with
  | .asListed => members
  | order => members.mergeSort order.precedes

end MemberOrder

namespace Group

def selected? (group : Group) : Option String :=
  if Text.isBlank group.selected then none else some group.selected

def member? (group : Group) (name : String) : Option Proxy :=
  group.members.find? fun proxy => proxy.name == name

/-- What to call the selected proxy: its display name, or its plain name if it
is no member. -/
def selectedDisplay? (group : Group) : Option String :=
  group.selected?.map fun name =>
    ((group.member? name).map Proxy.displayName).getD name

def memberNames (group : Group) : List String := group.members.map Proxy.name

def sorted (group : Group) (order : MemberOrder) : Group :=
  { group with members := order.sort group.members }

def fieldNames : List String := ["name", "now", "proxies"]

def toJson (group : Group) : Json :=
  .object [("name", .text group.name), ("now", .text group.selected),
    ("proxies", .array (group.members.map Proxy.toJson))]

def ofJson? (value : Json) : Option Group := do
  let fields ← value.fields? fieldNames
  some {
    name := ← fields.required "name" Json.text?
    selected := ← fields.orElse "now" "" Json.text?
    members := ← fields.orElse "proxies" [] (Json.list? Proxy.ofJson?) }

end Group

end Switchyard
