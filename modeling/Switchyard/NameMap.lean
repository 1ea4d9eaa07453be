/-!
# Maps from names

A map from names keeps its entries in increasing order of their keys, so it is
written in one way only and a look-up finds at most one entry.
-/

namespace Switchyard

/-- A finite map from names, as its list of entries in increasing order of the
keys. -/
structure NameMap (Value : Type) where
  toList : List (String × Value)
  increasing : (toList.map Prod.fst).Pairwise (· < ·)

namespace NameMap

variable {Value : Type}

def empty : NameMap Value := ⟨[], List.Pairwise.nil⟩

instance : Inhabited (NameMap Value) := ⟨empty⟩

def find? (entries : NameMap Value) (name : String) : Option Value :=
  entries.toList.lookup name

@[simp]
theorem find?_empty {name : String} :
    (empty : NameMap Value).find? name = none := rfl

/-- Sets the value under a name in a list of entries that is in increasing
order. -/
def place (name : String) (value : Value) :
    List (String × Value) → List (String × Value)
  | [] => [(name, value)]
  | (head, held) :: tail =>
    if name < head then (name, value) :: (head, held) :: tail
    else if head < name then (head, held) :: place name value tail
    else (name, value) :: tail

theorem mem_keys_place {name other : String} {value : Value}
    {entries : List (String × Value)} :
    other ∈ (place name value entries).map Prod.fst ↔
      other = name ∨ other ∈ entries.map Prod.fst := by
  induction entries with
  | nil => simp [place]
  | cons entry tail tailFact =>
    obtain ⟨head, held⟩ := entry
    by_cases before : name < head
    · simp [place, before]
    · by_cases behind : head < name
      · simp only [place, before, behind, if_true, if_false, List.map_cons,
          List.mem_cons, tailFact]
        grind
      · have same : name = head :=
          String.le_antisymm (String.not_lt.1 behind) (String.not_lt.1 before)
        simp [place, same]

theorem increasing_place {name : String} {value : Value}
    {entries : List (String × Value)}
    (increasing : (entries.map Prod.fst).Pairwise (· < ·)) :
    ((place name value entries).map Prod.fst).Pairwise (· < ·) := by
  induction entries with
  | nil => simp [place]
  | cons entry tail tailFact =>
    obtain ⟨head, held⟩ := entry
    obtain ⟨headFact, tailIncreasing⟩ := List.pairwise_cons.1 increasing
    by_cases before : name < head
    · simp only [place, before, if_true]
      refine List.pairwise_cons.2 ⟨?_, increasing⟩
      intro other member
      rcases List.mem_cons.1 member with rfl | inTail
      · exact before
      · exact String.lt_trans before (headFact other inTail)
    · by_cases behind : head < name
      · simp only [place, before, behind, if_true, if_false]
        refine List.pairwise_cons.2 ⟨?_, tailFact tailIncreasing⟩
        intro other member
        rcases mem_keys_place.1 member with rfl | inTail
        · exact behind
        · exact headFact other inTail
      · have same : name = head :=
          String.le_antisymm (String.not_lt.1 behind) (String.not_lt.1 before)
        subst same
        simp only [place, before, if_false]
        exact increasing

/-- The map with the value under one name set, in place of the value that was
there. -/
def insert (name : String) (value : Value) (entries : NameMap Value) :
    NameMap Value :=
  ⟨place name value entries.toList, increasing_place entries.increasing⟩

/-- The map of a list of entries; where a name occurs twice, its last entry
counts. -/
def ofList (entries : List (String × Value)) : NameMap Value :=
  entries.foldl (fun built entry => built.insert entry.1 entry.2) empty

theorem lookup_place {name other : String} {value : Value}
    {entries : List (String × Value)}
    (increasing : (entries.map Prod.fst).Pairwise (· < ·)) :
    (place name value entries).lookup other =
      if other = name then some value else entries.lookup other := by
  induction entries with
  | nil =>
    by_cases same : other = name
    · simp [place, same]
    · simp [place, List.lookup_cons, same, beq_eq_false_iff_ne.2 same]
  | cons entry tail tailFact =>
    obtain ⟨head, held⟩ := entry
    obtain ⟨_, tailIncreasing⟩ := List.pairwise_cons.1 increasing
    by_cases before : name < head
    · by_cases same : other = name
      · simp [place, before, same]
      · simp [place, before, List.lookup_cons, same, beq_eq_false_iff_ne.2 same]
    · by_cases behind : head < name
      · simp only [place, before, behind, if_true, if_false, List.lookup_cons,
          tailFact tailIncreasing]
        by_cases same : other = name
        · subst same
          have apart : other ≠ head := fun equality =>
            String.lt_irrefl head (by rw [equality] at behind; exact behind)
          simp [beq_eq_false_iff_ne.2 apart]
        · simp [same]
      · have same : name = head :=
          String.le_antisymm (String.not_lt.1 behind) (String.not_lt.1 before)
        subst same
        by_cases equal : other = name
        · simp [place, equal]
        · simp [place, List.lookup_cons, equal, beq_eq_false_iff_ne.2 equal]

/-- After an entry is set, its name leads to the new value and every other name
to what it led to before. -/
@[simp]
theorem find?_insert {name other : String} {value : Value}
    {entries : NameMap Value} :
    (entries.insert name value).find? other =
      if other = name then some value else entries.find? other :=
  lookup_place entries.increasing

end NameMap

end Switchyard
