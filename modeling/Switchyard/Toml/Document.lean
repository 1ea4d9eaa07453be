import Switchyard.Json

/-!
# Documents of TOML

A document is a list of statements: headers, which open a table or add a table
to a list, and pairs, which go into the table that is open. A table may be
opened once. Tables that only came about on the way to others may still be
opened; tables that came about by a key of several parts may only be filled by
such keys.
-/

namespace Switchyard.Toml

/-- What stands in a document. -/
inductive Statement where
  | table (key : List String)
  | listTable (key : List String)
  | pair (key : List String) (value : Json)

/-- How a table came about: on the way to another one, by its own header, or by
a key of several parts. -/
inductive Origin where
  | passed
  | opened
  | dotted
deriving DecidableEq, Repr

/-- What a key leads to while a document is read. -/
inductive Node where
  | value (value : Json)
  | table (origin : Origin) (entries : List (String × Node))
  | list (tables : List (List (String × Node)))

abbrev Entries := List (String × Node)

namespace Entries

def set (key : String) (node : Node) : Entries → Entries
  | [] => [(key, node)]
  | (other, held) :: rest =>
    if other == key then (key, node) :: rest
    else (other, held) :: set key node rest

def add (key : String) (value : Json) (entries : Entries) : Option Entries :=
  if (entries.lookup key).isSome then none
  else some (entries ++ [(key, .value value)])

/-- Changes the table to which a key leads. Tables on the way come about, and of
a list of tables the last one is meant. -/
def change (alter : Entries → Option Entries) :
    List String → Entries → Option Entries
  | [], entries => alter entries
  | key :: keys, entries =>
    match entries.lookup key with
    | none => (change alter keys []).map fun inner =>
      set key (.table .passed inner) entries
    | some (.table origin inner) =>
      (change alter keys inner).map fun inner =>
        set key (.table origin inner) entries
    | some (.list tables) =>
      (change alter keys (tables.getLast?.getD [])).map fun inner =>
        set key (.list (tables.dropLast ++ [inner])) entries
    | some (.value _) => none

def openTable (key : String) (entries : Entries) : Option Entries :=
  match entries.lookup key with
  | none => some (set key (.table .opened []) entries)
  | some (.table .passed inner) => some (set key (.table .opened inner) entries)
  | some _ => none

def addTable (key : String) (entries : Entries) : Option Entries :=
  match entries.lookup key with
  | none => some (set key (.list [[]]) entries)
  | some (.list tables) => some (set key (.list (tables ++ [[]])) entries)
  | some _ => none

def place (value : Json) : List String → Entries → Option Entries
  | [], _ => none
  | [key], entries => add key value entries
  | key :: next :: keys, entries =>
    match entries.lookup key with
    | none =>
      (place value (next :: keys) []).map fun inner =>
        set key (.table .dotted inner) entries
    | some (.table .dotted inner) =>
      (place value (next :: keys) inner).map fun inner =>
        set key (.table .dotted inner) entries
    | some (.table .passed inner) =>
      if keys.isEmpty then none
      else
        (place value (next :: keys) inner).map fun inner =>
          set key (.table .passed inner) entries
    | some _ => none

end Entries

/-- What is open while a document is read, and all that was read. -/
structure Draft where
  openKey : List String
  entries : Entries

namespace Draft

def add (draft : Draft) : Statement → Option Draft
  | .table key => do
    let last ← key.getLast?
    some ⟨key, ← draft.entries.change (Entries.openTable last) key.dropLast⟩
  | .listTable key => do
    let last ← key.getLast?
    some ⟨key, ← draft.entries.change (Entries.addTable last) key.dropLast⟩
  | .pair key value => do
    some { draft with
      entries :=
        ← draft.entries.change (Entries.place value key) draft.openKey }

end Draft

mutual

def Node.toJson : Node → Json
  | .value value => value
  | .table _ entries => .object (membersOf entries)
  | .list tables => .array (tablesOf tables)

def membersOf : List (String × Node) → List (String × Json)
  | [] => []
  | (key, node) :: rest => (key, node.toJson) :: membersOf rest

def tablesOf : List (List (String × Node)) → List Json
  | [] => []
  | entries :: rest => .object (membersOf entries) :: tablesOf rest

end

def documentOf? (statements : List Statement) : Option Json :=
  (statements.foldlM Draft.add ⟨[], []⟩).map fun draft =>
    .object (membersOf draft.entries)

/-- The value of a table that is written between braces, if its pairs go
together. -/
def inlineTable? (pairs : List (List String × Json)) : Option Json :=
  (pairs.foldlM (fun entries pair => Entries.place pair.2 pair.1 entries)
      ([] : Entries)).map
    fun entries => .object (membersOf entries)

end Switchyard.Toml
