import Switchyard.Decision

/-!
# What a decision chooses

The best proxy of a pool is one of the pool, and the pool is made of candidates
that are members of the group. A move leads to the best one, away from the
current selection; where that is a candidate, the rest after the last switch is
over and the move pays off.
-/

namespace Switchyard.Decision

theorem better_mem {left right : Proxy} {proxies : List Proxy}
    (leftMember : left ∈ proxies) (rightMember : right ∈ proxies) :
    better left right ∈ proxies := by
  unfold better
  split
  · exact rightMember
  · exact leftMember

theorem foldl_better_mem {first : Proxy} {rest proxies : List Proxy}
    (firstMember : first ∈ proxies)
    (restMembers : ∀ proxy ∈ rest, proxy ∈ proxies) :
    rest.foldl better first ∈ proxies := by
  induction rest generalizing first with
  | nil => exact firstMember
  | cons next rest restFact =>
    exact restFact
      (better_mem firstMember (restMembers next List.mem_cons_self))
      fun proxy member => restMembers proxy (List.mem_cons_of_mem _ member)

theorem best?_mem {proxies : List Proxy} {best : Proxy}
    (found : best? proxies = some best) :
    best ∈ proxies := by
  cases proxies with
  | nil => cases found
  | cons first rest =>
    obtain rfl := Option.some.inj found
    exact foldl_better_mem List.mem_cons_self fun proxy member =>
      List.mem_cons_of_mem _ member

theorem mem_of_mem_pool {preferStableOnly : Bool} {candidates : List Proxy}
    {proxy : Proxy} (member : proxy ∈ pool preferStableOnly candidates) :
    proxy ∈ candidates := by
  unfold pool at member
  dsimp only at member
  split at member
  · exact (List.mem_filter.1 member).1
  · exact member

theorem mem_candidates {policy : Policy} {group : Group} {proxy : Proxy} :
    proxy ∈ candidates policy group ↔
      proxy ∈ group.members ∧ proxy.name ∈ policy.candidates := by
  simp [candidates]

/-- Whether the current selection is a candidate. -/
def HoldsCandidate (policy : Policy) (group : Group) : Prop :=
  ∃ proxy ∈ candidates policy group, group.selected? = some proxy.name

instance (policy : Policy) (group : Group) :
    Decidable (HoldsCandidate policy group) :=
  inferInstanceAs (Decidable
    (∃ proxy ∈ candidates policy group, group.selected? = some proxy.name))

theorem isSome_current? {policy : Policy} {group : Group} :
    (current? (candidates policy group) group).isSome = true ↔
      HoldsCandidate policy group := by
  unfold current? HoldsCandidate
  cases group.selected? with
  | none => simp
  | some name =>
    rw [Option.bind_some, List.find?_isSome]
    simp only [beq_iff_eq, Option.some.injEq]
    exact exists_congr fun proxy => and_congr_right fun _ => eq_comm

theorem best?_eq_none_iff {proxies : List Proxy} :
    best? proxies = none ↔ proxies = [] := by
  cases proxies <;> simp [best?]

theorem pool_ne_nil {preferStableOnly : Bool} {candidates : List Proxy}
    (some : candidates ≠ []) :
    pool preferStableOnly candidates ≠ [] := by
  unfold pool
  dsimp only
  split
  · next preferred => simpa using (Bool.and_eq_true_iff.1 preferred).2
  · exact some

/-- All that an examination can come to, each time with what it rests on. -/
inductive Examined (policy : Policy) (group : Group) (sinceSwitch : Option Nat)
    (minImprovement : Nat) : Decision ⊕ Weighing → Prop
  | missing (none : candidates policy group = []) :
    Examined policy group sinceSwitch minImprovement
      (.inl (.missingCandidates group.memberNames))
  | optimal {desired : Proxy}
    (best : best? (pool policy.preferStableOnly (candidates policy group)) =
      some desired)
    (selected : group.selected? = some desired.name) :
    Examined policy group sinceSwitch minImprovement
      (.inl (.hold (.alreadyOptimal desired)))
  | resting {desired current : Proxy} {remaining : Nat}
    (best : best? (pool policy.preferStableOnly (candidates policy group)) =
      some desired)
    (unselected : group.selected? ≠ some desired.name)
    (found : current? (candidates policy group) group = some current)
    (rests : restRemaining? policy sinceSwitch = some remaining) :
    Examined policy group sinceSwitch minImprovement
      (.inl (.hold (.cooldown group.selectedDisplay? remaining)))
  | weighed {desired : Proxy}
    (best : best? (pool policy.preferStableOnly (candidates policy group)) =
      some desired)
    (unselected : group.selected? ≠ some desired.name)
    (rested : (current? (candidates policy group) group).isSome = true →
      restRemaining? policy sinceSwitch = none) :
    Examined policy group sinceSwitch minImprovement
      (.inr ⟨current? (candidates policy group) group, desired,
        policy.preferStableOnly, minImprovement⟩)

theorem examined (policy : Policy) (group : Group) (sinceSwitch : Option Nat)
    (minImprovement : Nat) :
    Examined policy group sinceSwitch minImprovement
      (examine policy group sinceSwitch minImprovement) := by
  unfold examine
  dsimp only
  split
  · next none => exact .missing (List.isEmpty_iff.1 none)
  · next some =>
    split
    · next nothing =>
      exact absurd (best?_eq_none_iff.1 nothing)
        (pool_ne_nil (mt List.isEmpty_iff.2 some))
    · next desired best =>
      split
      · next selected => exact .optimal best selected
      · next unselected =>
        split
        · next remaining resting =>
          obtain ⟨found, rests⟩ := Option.ite_none_right_eq_some.1 resting
          obtain ⟨current, currentFact⟩ := Option.isSome_iff_exists.1 found
          exact .resting best unselected currentFact rests
        · next rested =>
          refine .weighed best unselected fun found => ?_
          rwa [if_pos found] at rested

def isMissing : Decision → Bool
  | missingCandidates _ => true
  | _ => false

theorem isMissing_conclude (group : Group) (weighing : Weighing)
    (paysOff : Bool) :
    (conclude group weighing paysOff).isMissing = false := by
  unfold conclude
  split <;> rfl

/-- The candidates are missing exactly where none of them is a member of the
group. -/
theorem isMissing_decide (policy : Policy) (group : Group)
    (sinceSwitch : Option Nat) (minImprovement : Nat) :
    (decide policy group sinceSwitch minImprovement).isMissing =
      (candidates policy group).isEmpty := by
  have someBest {desired : Proxy}
      (best : best? (pool policy.preferStableOnly (candidates policy group)) =
        some desired) :
      (candidates policy group).isEmpty = false := by
    rw [List.isEmpty_eq_false_iff]
    exact List.ne_nil_of_mem (mem_of_mem_pool (best?_mem best))
  have grounds := examined policy group sinceSwitch minImprovement
  unfold decide decideBy
  generalize examine policy group sinceSwitch minImprovement = examination
    at grounds ⊢
  cases grounds with
  | missing none => simp [none, isMissing]
  | optimal best selected => simp [someBest best, isMissing]
  | resting best unselected found rests => simp [someBest best, isMissing]
  | weighed best unselected rested => simp [someBest best, isMissing_conclude]

/-- What speaks for a move to a proxy: it is the best of its pool and is not
selected, and where the current selection is a candidate the rest after the last
switch is over and the move pays off. -/
structure Justified (policy : Policy) (group : Group) (sinceSwitch : Option Nat)
    (minImprovement : Nat) (target : Proxy) : Prop where
  best : best? (pool policy.preferStableOnly (candidates policy group)) =
    some target
  unselected : group.selected? ≠ some target.name
  rested : HoldsCandidate policy group →
    restRemaining? policy sinceSwitch = none
  paysOff : ∀ {current : Proxy},
    current? (candidates policy group) group = some current →
    (Weighing.mk (some current) target policy.preferStableOnly
      minImprovement).paysOff = true

theorem conclude_eq_move_iff {group : Group} {weighing : Weighing}
    {paysOff : Bool} {plan : Move} :
    conclude group weighing paysOff = .move plan ↔
      (weighing.current.isSome = true → paysOff = true) ∧
        plan = ⟨weighing.desired, weighing.current.isNone,
          group.selectedDisplay?⟩ := by
  unfold conclude
  cases paysOff <;> cases weighing.current <;> simp [eq_comm]

section Moves

variable {policy : Policy} {group : Group} {sinceSwitch : Option Nat}
  {minImprovement : Nat} {plan : Move}

/-- A move is made only after it was weighed. -/
theorem exists_weighing_of_move {rules : List Rule}
    (decided : decideBy rules policy group sinceSwitch minImprovement =
      .move plan) :
    ∃ weighing, examine policy group sinceSwitch minImprovement =
      .inr weighing ∧
      conclude group weighing (weighing.paysOffBy rules) = .move plan := by
  have grounds := examined policy group sinceSwitch minImprovement
  unfold decideBy at decided
  cases found : examine policy group sinceSwitch minImprovement with
  | inl settled =>
    rw [found] at decided grounds
    obtain rfl : settled = .move plan := decided
    cases grounds
  | inr weighing =>
    rw [found] at decided
    exact ⟨weighing, rfl, decided⟩

theorem justified_of_decide
    (decided : decide policy group sinceSwitch minImprovement = .move plan) :
    Justified policy group sinceSwitch minImprovement plan.target := by
  obtain ⟨weighing, found, concluded⟩ := exists_weighing_of_move decided
  obtain ⟨paysOff, rfl⟩ := conclude_eq_move_iff.1 concluded
  have grounds := examined policy group sinceSwitch minImprovement
  rw [found] at grounds
  cases grounds with
  | weighed best unselected rested =>
    refine ⟨best, unselected, fun holds => rested (isSome_current?.2 holds), ?_⟩
    intro current held
    rw [held] at paysOff
    exact paysOff rfl

/-- A move leads to a candidate that is a member of the group and is not the
current selection. -/
theorem target_of_decide
    (decided : decide policy group sinceSwitch minImprovement = .move plan) :
    plan.target ∈ candidates policy group ∧
      group.selected? ≠ some plan.target.name :=
  have justified := justified_of_decide decided
  ⟨mem_of_mem_pool (best?_mem justified.best), justified.unselected⟩

end Moves

end Switchyard.Decision
