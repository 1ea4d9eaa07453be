import Switchyard.Toml.Document

/-!
# What a document keeps

Each statement of a TOML document adds to what the statements before it have
said. A value that was given stays where it is: no key is given twice, a table
is opened only if it is new or came about on the way to another one, and a table
that is open is only filled. So a value that is read early on is in the document
as a whole.
-/

namespace Switchyard.Toml

/-- The value to which a path of keys leads, through tables. -/
def Node.valueAt? : List String → Node → Option Json
  | [], .value given => some given
  | key :: keys, .table _ entries => (entries.lookup key).bind (valueAt? keys)
  | _, _ => none

/-- Whether all values are still where they were. -/
def Node.Keeps (before after : Node) : Prop :=
  ∀ keys value, before.valueAt? keys = some value →
    after.valueAt? keys = some value

theorem Node.Keeps.refl (node : Node) : node.Keeps node :=
  fun _ _ found => found

theorem Node.Keeps.trans {before between after : Node}
    (former : before.Keeps between) (latter : between.Keeps after) :
    before.Keeps after :=
  fun keys value found => latter keys value (former keys value found)

/-- In a list of tables there is no value that a path leads to. -/
theorem Node.keeps_of_list (tables : List Entries) (after : Node) :
    (list tables).Keeps after := by
  intro keys value found
  cases keys <;> cases found

namespace Entries

def Keeps (before after : Entries) : Prop :=
  ∀ key node, before.lookup key = some node →
    ∃ held, after.lookup key = some held ∧ node.Keeps held

variable {before after entries : Entries} {key : String} {node : Node}

theorem Keeps.refl (entries : Entries) : Keeps entries entries :=
  fun _ node found => ⟨node, found, .refl node⟩

theorem Keeps.trans {between : Entries} (former : Keeps before between)
    (latter : Keeps between after) : Keeps before after := by
  intro key node found
  obtain ⟨held, foundLater, kept⟩ := former key node found
  obtain ⟨last, foundLast, keptLast⟩ := latter key held foundLater
  exact ⟨last, foundLast, kept.trans keptLast⟩

theorem Keeps.table (keeps : Keeps before after) (origin other : Origin) :
    (Node.table origin before).Keeps (.table other after) := by
  intro keys value found
  cases keys with
  | nil => cases found
  | cons key keys =>
    obtain ⟨node, there, inside⟩ := Option.bind_eq_some_iff.1 found
    obtain ⟨held, thereLater, kept⟩ := keeps key node there
    exact Option.bind_eq_some_iff.2 ⟨held, thereLater, kept keys value inside⟩

theorem lookup_set (key : String) (node : Node) (entries : Entries)
    (other : String) :
    (set key node entries).lookup other =
      if other = key then some node else entries.lookup other := by
  induction entries with
  | nil =>
    by_cases same : other = key
    · simp [set, same]
    · simp [set, same, List.lookup_cons, beq_eq_false_iff_ne.2 same]
  | cons first rest restFact =>
    obtain ⟨name, held⟩ := first
    rw [set]
    by_cases there : name = key
    · rw [if_pos (beq_iff_eq.2 there), there]
      by_cases same : other = key
      · simp [same]
      · simp [same, List.lookup_cons, beq_eq_false_iff_ne.2 same]
    · rw [if_neg (by simpa using there), List.lookup_cons,
        List.lookup_cons, restFact]
      by_cases same : other = name
      · simp [same, there]
      · simp [beq_eq_false_iff_ne.2 same]

theorem keeps_set
    (fits : ∀ held, entries.lookup key = some held → held.Keeps node) :
    Keeps entries (set key node entries) := by
  intro other held found
  rw [lookup_set]
  by_cases same : other = key
  · rw [if_pos same]
    exact ⟨node, rfl, fits held (same ▸ found)⟩
  · rw [if_neg same]
    exact ⟨held, found, .refl held⟩

theorem keeps_set_of_free (free : entries.lookup key = none) :
    Keeps entries (set key node entries) := by
  refine keeps_set fun held found => ?_
  rw [free] at found
  cases found

theorem keeps_set_table {origin : Origin} {inner changed : Entries}
    (there : entries.lookup key = some (.table origin inner))
    (keeps : Keeps inner changed) (other : Origin) :
    Keeps entries (set key (.table other changed) entries) := by
  refine keeps_set fun held found => ?_
  obtain rfl := Option.some.inj (there.symm.trans found)
  exact keeps.table origin other

theorem keeps_set_of_list {tables : List Entries}
    (there : entries.lookup key = some (.list tables)) :
    Keeps entries (set key node entries) := by
  refine keeps_set fun held found => ?_
  obtain rfl := Option.some.inj (there.symm.trans found)
  exact Node.keeps_of_list tables node

/-- Whether a way of changing entries takes no value away. -/
def Keeping (alter : Entries → Option Entries) : Prop :=
  ∀ before after, alter before = some after → Keeps before after

theorem keeping_add (key : String) (value : Json) :
    Keeping (add key value) := by
  intro before after added
  unfold add at added
  by_cases taken : (before.lookup key).isSome = true
  · rw [if_pos taken] at added
    cases added
  · rw [if_neg taken] at added
    obtain rfl := Option.some.inj added
    intro other node found
    refine ⟨node, ?_, .refl node⟩
    rw [List.lookup_append, found, Option.some_or]

theorem keeping_openTable (key : String) : Keeping (openTable key) := by
  intro before after opened
  unfold openTable at opened
  split at opened
  · next free =>
    obtain rfl := Option.some.inj opened
    exact keeps_set_of_free free
  · next inner passed =>
    obtain rfl := Option.some.inj opened
    exact keeps_set_table passed (.refl inner) .opened
  · cases opened

theorem keeping_addTable (key : String) : Keeping (addTable key) := by
  intro before after added
  unfold addTable at added
  split at added
  · next free =>
    obtain rfl := Option.some.inj added
    exact keeps_set_of_free free
  · next tables listed =>
    obtain rfl := Option.some.inj added
    exact keeps_set_of_list listed
  · cases added

theorem keeping_change {alter : Entries → Option Entries}
    (keeping : Keeping alter) (keys : List String) :
    Keeping (change alter keys) := by
  induction keys with
  | nil => exact keeping
  | cons key keys keysFact =>
    intro before after changed
    unfold change at changed
    split at changed
    · next free =>
      obtain ⟨inner, -, rfl⟩ := Option.map_eq_some_iff.1 changed
      exact keeps_set_of_free free
    · next origin inner there =>
      obtain ⟨onward, inside, rfl⟩ := Option.map_eq_some_iff.1 changed
      exact keeps_set_table there (keysFact inner onward inside) origin
    · next tables there =>
      obtain ⟨onward, -, rfl⟩ := Option.map_eq_some_iff.1 changed
      exact keeps_set_of_list there
    · cases changed

theorem keeping_place (value : Json) (keys : List String) :
    Keeping (place value keys) := by
  -- Along dotted keys a table is entered only if it is new or was not opened by
  -- a header.
  induction keys with
  | nil =>
    intro before after placed
    cases placed
  | cons key keys keysFact =>
    cases keys with
    | nil => exact keeping_add key value
    | cons next keys =>
      intro before after placed
      unfold place at placed
      split at placed
      · next free =>
        obtain ⟨inner, -, rfl⟩ := Option.map_eq_some_iff.1 placed
        exact keeps_set_of_free free
      · next inner there =>
        obtain ⟨onward, inside, rfl⟩ := Option.map_eq_some_iff.1 placed
        exact keeps_set_table there (keysFact inner onward inside) .dotted
      · next inner there =>
        by_cases last : keys.isEmpty = true
        · rw [if_pos last] at placed
          cases placed
        · rw [if_neg last] at placed
          obtain ⟨onward, inside, rfl⟩ := Option.map_eq_some_iff.1 placed
          exact keeps_set_table there (keysFact inner onward inside) .passed
      · cases placed

end Entries

section Statements

open Entries (Keeps)

theorem Draft.keeps_of_add {draft after : Draft} {statement : Statement}
    (added : draft.add statement = some after) :
    Keeps draft.entries after.entries := by
  cases statement with
  | table key =>
    obtain ⟨last, -, added⟩ := Option.bind_eq_some_iff.1 added
    obtain ⟨entries, changed, added⟩ := Option.bind_eq_some_iff.1 added
    obtain rfl := Option.some.inj added
    exact Entries.keeping_change (Entries.keeping_openTable last) _ _ _ changed
  | listTable key =>
    obtain ⟨last, -, added⟩ := Option.bind_eq_some_iff.1 added
    obtain ⟨entries, changed, added⟩ := Option.bind_eq_some_iff.1 added
    obtain rfl := Option.some.inj added
    exact Entries.keeping_change (Entries.keeping_addTable last) _ _ _ changed
  | pair key value =>
    obtain ⟨entries, changed, added⟩ := Option.bind_eq_some_iff.1 added
    obtain rfl := Option.some.inj added
    exact Entries.keeping_change (Entries.keeping_place value key) _ _ _ changed

/-- However many statements follow, a value stays where it was given. -/
theorem Draft.keeps_of_foldlM {statements : List Statement}
    {draft after : Draft} (added : statements.foldlM add draft = some after) :
    Keeps draft.entries after.entries := by
  induction statements generalizing draft with
  | nil =>
    obtain rfl := Option.some.inj added
    exact .refl draft.entries
  | cons statement statements statementsFact =>
    rw [List.foldlM_cons] at added
    obtain ⟨between, first, onward⟩ := Option.bind_eq_some_iff.1 added
    exact (keeps_of_add first).trans (statementsFact onward)

end Statements

theorem lookup_membersOf (entries : Entries) (key : String) :
    (membersOf entries).lookup key = (entries.lookup key).map Node.toJson := by
  induction entries with
  | nil => rfl
  | cons first rest restFact =>
    obtain ⟨name, node⟩ := first
    rw [membersOf, List.lookup_cons, List.lookup_cons, restFact]
    cases key == name <;> rfl

/-- What a path of keys leads to, through objects. -/
def memberAt? : List String → Json → Option Json
  | [], value => some value
  | key :: keys, .object members => (members.lookup key).bind (memberAt? keys)
  | _, _ => none

theorem memberAt?_cons_eq_some_iff {key : String} {keys : List String}
    {value inside : Json} :
    memberAt? (key :: keys) value = some inside ↔
      ∃ members next, value = .object members ∧ members.lookup key = some next ∧
        memberAt? keys next = some inside := by
  cases value with
  | object members =>
    rw [memberAt?, Option.bind_eq_some_iff]
    constructor
    · rintro ⟨next, there, found⟩
      exact ⟨members, next, rfl, there, found⟩
    · rintro ⟨_, next, ⟨⟩, there, found⟩
      exact ⟨next, there, found⟩
  | _ => simp [memberAt?]

theorem memberAt?_toJson {keys : List String} {node : Node} {value : Json}
    (found : node.valueAt? keys = some value) :
    memberAt? keys node.toJson = some value := by
  induction keys generalizing node with
  | nil =>
    cases node with
    | value given => exact found
    | table origin entries => cases found
    | list tables => cases found
  | cons key keys keysFact =>
    cases node with
    | value given => cases found
    | table origin entries =>
      obtain ⟨inner, there, inside⟩ := Option.bind_eq_some_iff.1 found
      rw [Node.toJson, memberAt?, lookup_membersOf, there]
      exact keysFact inside
    | list tables => cases found

/-- A value that the first statements of a document give is in the document,
whatever follows. -/
theorem memberAt?_of_documentOf? {former later : List Statement} {draft : Draft}
    {document : Json} {keys : List String} {value : Json}
    (made : documentOf? (former ++ later) = some document)
    (begun : former.foldlM Draft.add ⟨[], []⟩ = some draft)
    (given : (Node.table .passed draft.entries).valueAt? keys = some value) :
    memberAt? keys document = some value := by
  obtain ⟨whole, added, rfl⟩ := Option.map_eq_some_iff.1 made
  rw [List.foldlM_append, begun] at added
  have keeps := (Draft.keeps_of_foldlM added).table .passed .passed
  exact memberAt?_toJson (keeps keys value given)

end Switchyard.Toml
