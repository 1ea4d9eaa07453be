import Switchyard.NameMap
import Switchyard.Policy
import Switchyard.Selection
import Switchyard.StatusRecord

/-!
# Stores in memory

The store in memory holds a policy and every status that was recorded. The
memory of selections holds the last proxy of each group for each profile, and
which profile is active.
-/

namespace Switchyard.Store

/-- A policy, and the recorded statuses with the oldest first. -/
structure Memory where
  stored : Policy
  history : List StatusRecord
deriving Inhabited

namespace Memory

def ofPolicy (policy : Policy) : Memory := ⟨policy, []⟩

/-- The policy to act on: the stored one with its periods raised to their least
values. -/
def policy (store : Memory) : Policy := store.stored.clamped

def update (policy : Policy) (store : Memory) : Memory :=
  { store with stored := policy }

def record (status : StatusRecord) (store : Memory) : Memory :=
  { store with history := store.history ++ [status] }

/-- The last status that was recorded, unless its message is blank. -/
def status? (store : Memory) : Option StatusRecord :=
  store.history.getLast?.bind StatusRecord.visible?

end Memory

abbrev SelectionMap := NameMap (NameMap String)

namespace SelectionMap

/-- Remembers a selection in place of an earlier one of the same profile and
group. -/
def save (selection : Selection) (entries : SelectionMap) : SelectionMap :=
  let groups := (entries.find? selection.profile).getD NameMap.empty
  entries.insert selection.profile
    (groups.insert selection.group selection.proxy)

def selected? (profile group : String) (entries : SelectionMap) :
    Option String :=
  (entries.find? profile).bind fun groups => groups.find? group

def count (entries : SelectionMap) : Nat :=
  (entries.toList.flatMap fun entry => entry.2.toList).length

/-- After a selection is saved, its profile and group lead to its proxy, and all
others to what they led to before. -/
@[simp]
theorem selected?_save {selection : Selection} {profile group : String}
    {entries : SelectionMap} :
    selected? profile group (save selection entries) =
      if profile = selection.profile ∧
        group = selection.group then some selection.proxy
      else selected? profile group entries := by
  unfold selected? save
  rw [NameMap.find?_insert]
  by_cases sameProfile : profile = selection.profile
  · subst sameProfile
    by_cases sameGroup : group = selection.group
    · simp [sameGroup]
    · cases found : entries.find? selection.profile with
      | none => simp [sameGroup]
      | some groups => simp [sameGroup]
  · simp [sameProfile]

end SelectionMap

/-- The remembered selections and the active profile. -/
structure SelectionMemory where
  profile : Option String
  entries : SelectionMap
deriving Inhabited

namespace SelectionMemory

def ofProfile (profile : Option String) : SelectionMemory :=
  ⟨profile, NameMap.empty⟩

def setProfile (profile : Option String) (store : SelectionMemory) :
    SelectionMemory :=
  { store with profile := profile }

def save (selection : Selection) (store : SelectionMemory) : SelectionMemory :=
  { store with entries := store.entries.save selection }

end SelectionMemory

end Switchyard.Store
