/-!
# Sets of names

A set of names is kept as the one increasing list that holds its members. Names
are ordered by code point, which is also the order of their UTF-8 bytes, so two
sets with the same members are equal and are written in the same way.
-/

namespace Switchyard

/-- A finite set of names, as its increasing list of members. -/
structure NameSet where
  toList : List String
  increasing : toList.Pairwise (· < ·)

namespace NameSet

instance : DecidableEq NameSet := fun left right =>
  if equality : left.toList = right.toList then
    isTrue (by cases left; cases right; cases equality; rfl)
  else
    isFalse (fun same => equality (congrArg NameSet.toList same))

@[ext]
theorem ext {left right : NameSet} (equality : left.toList = right.toList) :
    left = right := by
  cases left; cases right; cases equality; rfl

instance : Membership String NameSet := ⟨fun names name => name ∈ names.toList⟩

instance (name : String) (names : NameSet) : Decidable (name ∈ names) :=
  inferInstanceAs (Decidable (name ∈ names.toList))

theorem mem_toList {name : String} {names : NameSet} :
    name ∈ names.toList ↔ name ∈ names :=
  Iff.rfl

theorem increasing_nil : ([] : List String).Pairwise (· < ·) :=
  List.Pairwise.nil

def empty : NameSet := ⟨[], increasing_nil⟩

instance : Inhabited NameSet := ⟨empty⟩

def size (names : NameSet) : Nat := names.toList.length

def isEmpty (names : NameSet) : Bool := names.toList.isEmpty

/-- Puts a name at its place in an increasing list, unless it is already
there. -/
def place (name : String) : List String → List String
  | [] => [name]
  | head :: tail =>
    if name < head then name :: head :: tail
    else if head < name then head :: place name tail
    else head :: tail

theorem mem_place {name other : String} {names : List String} :
    other ∈ place name names ↔ other = name ∨ other ∈ names := by
  induction names with
  | nil => simp [place]
  | cons head tail tailFact =>
    by_cases before : name < head
    · simp [place, before]
    · by_cases behind : head < name
      · simp only [place, before, behind, if_true, if_false,
          List.mem_cons, tailFact]
        grind
      · have same : name = head :=
          String.le_antisymm (String.not_lt.1 behind) (String.not_lt.1 before)
        simp [place, same]

theorem increasing_place {name : String} {names : List String}
    (increasing : names.Pairwise (· < ·)) :
    (place name names).Pairwise (· < ·) := by
  induction names with
  | nil => simp [place]
  | cons head tail tailFact =>
    obtain ⟨headFact, tailIncreasing⟩ := List.pairwise_cons.1 increasing
    by_cases before : name < head
    · simp only [place, before, if_true]
      refine List.pairwise_cons.2 ⟨?_, increasing⟩
      intro other member
      rcases List.mem_cons.1 member with rfl | inTail
      · exact before
      · exact String.lt_trans before (headFact other inTail)
    · by_cases behind : head < name
      · simp only [place, before, behind, if_true, if_false]
        refine List.pairwise_cons.2 ⟨?_, tailFact tailIncreasing⟩
        intro other member
        rcases mem_place.1 member with rfl | inTail
        · exact behind
        · exact headFact other inTail
      · simpa only [place, before, behind, if_false] using increasing

def insert (name : String) (names : NameSet) : NameSet :=
  ⟨place name names.toList, increasing_place names.increasing⟩

/-- The set of the names in a list, whatever their order and however often they
occur. -/
def ofList (names : List String) : NameSet :=
  names.foldr insert empty

@[simp]
theorem mem_insert {name other : String} {names : NameSet} :
    other ∈ names.insert name ↔ other = name ∨ other ∈ names :=
  mem_place

@[simp]
theorem not_mem_empty {name : String} : ¬ name ∈ empty := by
  intro member
  simpa [empty] using mem_toList.2 member

@[simp]
theorem mem_ofList {name : String} {names : List String} :
    name ∈ ofList names ↔ name ∈ names := by
  induction names with
  | nil => simp [ofList]
  | cons head tail tailFact =>
    have unfolded : ofList (head :: tail) = (ofList tail).insert head := rfl
    simp [unfolded, tailFact]

def filter (keeps : String → Bool) (names : NameSet) : NameSet :=
  ⟨names.toList.filter keeps, names.increasing.filter keeps⟩

@[simp]
theorem mem_filter {name : String} {keeps : String → Bool} {names : NameSet} :
    name ∈ names.filter keeps ↔ name ∈ names ∧ keeps name = true :=
  List.mem_filter

@[simp]
theorem toList_filter (keeps : String → Bool) (names : NameSet) :
    (names.filter keeps).toList = names.toList.filter keeps := rfl

end NameSet

end Switchyard
