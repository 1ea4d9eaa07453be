import Mathlib.Data.List.Nodup
import Switchyard.Proofs.Grounds

/-!
# Members in another order

The loop asks for the members of a group sorted by their delays. The sort is
stable: of members with one score those that the controller lists earlier stay
ahead. So the first member of least score is the same one in both orders, and so
is every member that is looked up by its name, as long as no two members share
one. Every decision is the same, and ties go to the controller's order.
-/

namespace Switchyard

namespace MemberOrder

theorem sort_perm (order : MemberOrder) (members : List Proxy) :
    (order.sort members).Perm members := by
  cases order with
  | asListed => exact .refl members
  | byTitle => exact List.mergeSort_perm members _
  | byDelay => exact List.mergeSort_perm members _

theorem precedes_byDelay_iff {left right : Proxy} :
    byDelay.precedes left right = true ↔ left.delay.score ≤ right.delay.score :=
  decide_eq_true_iff

theorem precedes_trans (order : MemberOrder) (first second third : Proxy)
    (former : order.precedes first second = true)
    (latter : order.precedes second third = true) :
    order.precedes first third = true := by
  cases order with
  | asListed => rfl
  | byTitle =>
    simp only [precedes, decide_eq_true_eq] at *
    exact String.le_trans former latter
  | byDelay =>
    rw [precedes_byDelay_iff] at *
    exact Nat.le_trans former latter

theorem precedes_total (order : MemberOrder) (left right : Proxy) :
    (order.precedes left right || order.precedes right left) = true := by
  cases order with
  | asListed => rfl
  | byTitle =>
    simp only [precedes, Bool.or_eq_true, decide_eq_true_eq]
    exact String.le_total _ _
  | byDelay =>
    rw [Bool.or_eq_true, precedes_byDelay_iff, precedes_byDelay_iff]
    exact Nat.le_total _ _

theorem sort_eq_mergeSort (order : MemberOrder) (members : List Proxy) :
    order.sort members = members.mergeSort order.precedes := by
  cases order with
  | asListed =>
    have ordered : members.Pairwise fun left right =>
        asListed.precedes left right = true :=
      List.pairwise_of_forall fun _ _ => rfl
    exact (List.mergeSort_of_pairwise ordered).symm
  | byTitle => rfl
  | byDelay => rfl

theorem pairwise_sort (order : MemberOrder) (members : List Proxy) :
    (order.sort members).Pairwise fun left right =>
      order.precedes left right = true := by
  rw [sort_eq_mergeSort]
  exact List.pairwise_mergeSort order.precedes_trans
    order.precedes_total members

/-- Members that may stand in either order are in the same order before and
after the sort. -/
theorem filter_sort {order : MemberOrder} {members : List Proxy}
    {holds : Proxy → Bool}
    (level : ∀ left ∈ members, ∀ right ∈ members, holds left = true →
      holds right = true → order.precedes left right = true) :
    (order.sort members).filter holds = members.filter holds := by
  have ordered : (members.filter holds).Pairwise fun left right =>
      order.precedes left right = true := by
    apply List.pairwise_of_forall_mem_list
    intro left leftMember right rightMember
    rw [List.mem_filter] at leftMember rightMember
    exact level left leftMember.1 right rightMember.1 leftMember.2 rightMember.2
  have kept : (members.filter holds).Sublist (order.sort members) := by
    rw [sort_eq_mergeSort]
    exact List.sublist_mergeSort order.precedes_trans
      order.precedes_total ordered List.filter_sublist
  have among := kept.filter holds
  rw [List.filter_filter] at among
  simp only [Bool.and_self] at among
  have lengths := ((order.sort_perm members).filter holds).length_eq
  exact (among.eq_of_length lengths.symm).symm

theorem pairwise_sort_byDelay (members : List Proxy) :
    (byDelay.sort members).Pairwise fun left right =>
      left.delay.score ≤ right.delay.score :=
  (byDelay.pairwise_sort members).imp precedes_byDelay_iff.1

/-- Members that all have one score are in the same order before and after the
sort. -/
theorem filter_sort_byDelay {members : List Proxy} {holds : Proxy → Bool}
    (level : ∀ left ∈ members, ∀ right ∈ members, holds left = true →
      holds right = true → left.delay.score = right.delay.score) :
    (byDelay.sort members).filter holds = members.filter holds := by
  apply filter_sort
  intro left leftMember right rightMember leftFact rightFact
  rw [precedes_byDelay_iff]
  exact Nat.le_of_eq
    (level left leftMember right rightMember leftFact rightFact)

theorem find?_sort_byDelay {members : List Proxy} {holds : Proxy → Bool}
    (level : ∀ left ∈ members, ∀ right ∈ members, holds left = true →
      holds right = true → left.delay.score = right.delay.score) :
    (byDelay.sort members).find? holds = members.find? holds := by
  rw [← List.head?_filter, ← List.head?_filter, filter_sort_byDelay level]

end MemberOrder

namespace Group

variable {group : Group}

@[simp]
theorem selected?_sorted (group : Group) (order : MemberOrder) :
    (group.sorted order).selected? = group.selected? := rfl

theorem memberNames_sorted_perm (group : Group) (order : MemberOrder) :
    (group.sorted order).memberNames.Perm group.memberNames :=
  (order.sort_perm group.members).map Proxy.name

/-- Members with one name are one member where no two members share a name, so
they are found by it in either order, whatever else is asked of them. -/
theorem find?_name_sorted (distinct : group.memberNames.Nodup)
    (holds : Proxy → Bool) (name : String) :
    ((group.sorted .byDelay).members.filter holds).find?
      (fun proxy => proxy.name == name) = (group.members.filter holds).find?
      fun proxy => proxy.name == name := by
  rw [List.find?_filter, List.find?_filter]
  apply MemberOrder.find?_sort_byDelay
  intro left leftMember right rightMember leftFact rightFact
  simp only [decide_eq_true_eq, beq_iff_eq] at leftFact rightFact
  have same : left.name = right.name := leftFact.2.trans rightFact.2.symm
  rw [List.inj_on_of_nodup_map distinct leftMember rightMember same]

theorem selectedDisplay?_sorted (distinct : group.memberNames.Nodup) :
    (group.sorted .byDelay).selectedDisplay? = group.selectedDisplay? := by
  have sameMember (name : String) :
      (group.sorted .byDelay).member? name = group.member? name := by
    have found := find?_name_sorted distinct (fun _ => true) name
    rwa [List.filter_true, List.filter_true] at found
  unfold selectedDisplay?
  simp only [selected?_sorted, sameMember]

end Group

namespace Decision

section Sorted

variable {policy : Policy} {group : Group}

theorem candidates_sorted_perm (policy : Policy) (group : Group)
    (order : MemberOrder) :
    (candidates policy (group.sorted order)).Perm (candidates policy group) :=
  (order.sort_perm group.members).filter _

/-- Which candidate is the best one does not depend on whether the members are
sorted before. -/
theorem isFirstLeast_sorted {best : Proxy} :
    IsFirstLeast (candidates policy (group.sorted .byDelay)) best ↔
      IsFirstLeast (candidates policy group) best := by
  have sameMembers (proxy : Proxy) :
      proxy ∈ candidates policy (group.sorted .byDelay) ↔
      proxy ∈ candidates policy group :=
    (candidates_sorted_perm policy group .byDelay).mem_iff
  have sameFirst : (candidates policy (group.sorted .byDelay)).find?
        (fun proxy => proxy.delay.score == best.delay.score) =
      (candidates policy group).find? fun proxy =>
        proxy.delay.score == best.delay.score := by
    unfold candidates
    rw [List.find?_filter, List.find?_filter]
    apply MemberOrder.find?_sort_byDelay
    intro left _ right _ leftFact rightFact
    simp only [decide_eq_true_eq, beq_iff_eq] at leftFact rightFact
    rw [leftFact.2, rightFact.2]
  constructor
  · intro isBest
    exact ⟨fun proxy member =>
      isBest.least proxy ((sameMembers proxy).2 member),
      sameFirst ▸ isBest.first⟩
  · intro isBest
    exact ⟨fun proxy member =>
      isBest.least proxy ((sameMembers proxy).1 member),
      sameFirst.symm ▸ isBest.first⟩

theorem best?_candidates_sorted (policy : Policy) (group : Group) :
    best? (candidates policy (group.sorted .byDelay)) =
      best? (candidates policy group) := by
  apply Option.ext
  intro best
  rw [best?_eq_some_iff, best?_eq_some_iff, isFirstLeast_sorted]

theorem current?_sorted (distinct : group.memberNames.Nodup) (policy : Policy) :
    current? (candidates policy (group.sorted .byDelay))
      (group.sorted .byDelay) = current? (candidates policy group) group := by
  unfold current? candidates
  simp only [Group.selected?_sorted, Group.find?_name_sorted distinct]

theorem findsAlike_sorted (distinct : group.memberNames.Nodup)
    (policy : Policy) :
    FindsAlike policy policy (group.sorted .byDelay) group where
  best := best?_candidates_sorted policy group
  current := current?_sorted distinct policy
  selected := rfl
  shown := Group.selectedDisplay?_sorted distinct
  cooldown := rfl

end Sorted

/-- The proxy that a decision takes for the best one, if it comes to that. -/
def favoured? : Decision → Option Proxy
  | .hold (.alreadyOptimal desired) => some desired
  | .hold (.noImprovement _ desired) => some desired
  | .move plan => some plan.target
  | _ => none

theorem favoured?_conclude (group : Group) (weighing : Weighing)
    (paysOff : Bool) :
    (conclude group weighing paysOff).favoured? = some weighing.desired := by
  unfold conclude
  split <;> rfl

theorem isFirstLeast_of_favoured {policy : Policy} {group : Group}
    {sinceSwitch : Option Nat} {minImprovement : Nat} {favoured : Proxy}
    (named : (decide policy group sinceSwitch minImprovement).favoured? =
      some favoured) :
    IsFirstLeast (candidates policy group) favoured := by
  have grounds := examined policy group sinceSwitch minImprovement
  unfold decide decideBy at named
  generalize examine policy group sinceSwitch minImprovement = examination
    at grounds named
  cases grounds with
  | missing none => cases named
  | optimal best selected =>
    cases named
    exact best?_pool_eq_some_iff.1 best
  | resting best unselected found rests => cases named
  | weighed best unselected rested =>
    obtain rfl :=
      Option.some.inj ((favoured?_conclude group _ _).symm.trans named)
    exact best?_pool_eq_some_iff.1 best

/-- Whether the members of a group are sorted by their delays before makes no
difference to what is decided about it, but that members are listed in their new
order where no candidate is among them. What is taken for the best candidate is
the first one of least score in the controller's order. -/
theorem ties_go_to_listed_order (policy : Policy) {group : Group}
    (sinceSwitch : Option Nat) (minImprovement : Nat)
    (distinct : group.memberNames.Nodup) :
    let sorted := group.sorted .byDelay
    let decision := decide policy sorted sinceSwitch minImprovement
    decision = (decide policy group sinceSwitch minImprovement).listing
      sorted.memberNames ∧ sorted.memberNames.Perm group.memberNames ∧
      sorted.members.Pairwise
        (fun left right => left.delay.score ≤ right.delay.score) ∧
      ∀ favoured, decision.favoured? = some favoured →
        IsFirstLeast (candidates policy group) favoured := by
  intro sorted decision
  refine ⟨(findsAlike_sorted distinct policy).decide_eq,
    group.memberNames_sorted_perm .byDelay,
    MemberOrder.pairwise_sort_byDelay group.members, fun favoured named => ?_⟩
  exact isFirstLeast_sorted.1 (isFirstLeast_of_favoured named)

/-- Of two proxies that are equally fast the one that is listed earlier stays
ahead when the members are sorted, and the move leads to it. Where there are no
candidates the new order is shown. -/
theorem ties_go_to_listed_order_of_twins :
    let policy : Policy :=
      { Policy.initial with candidates := NameSet.ofList ["A", "B", "D"] }
    let listed : Group :=
      ⟨"GLOBAL", "A", [⟨"C", "", .timeout⟩, ⟨"A", "Alpha", .stable 91⟩,
      ⟨"B", "", .stable 40⟩, ⟨"D", "", .stable 40⟩]⟩
    let sorted := listed.sorted .byDelay
    listed.memberNames.Nodup ∧
      decide Policy.initial sorted none 50 = .missingCandidates ["B",
        "D", "A", "C"] ∧
      decide policy sorted (some (Duration.ofSeconds 30)) 50 =
        .move ⟨⟨"B", "", .stable 40⟩, false, some "Alpha"⟩ ∧
      IsFirstLeast (candidates policy listed) ⟨"B", "", .stable 40⟩ := by
  intro policy listed sorted
  have distinct : listed.memberNames.Nodup := by decide
  have names : sorted.memberNames = ["B", "D", "A", "C"] := by
    have timedOut : Delay.timeout.score = 4294967295 := rfl
    have slow : (Delay.stable 91).score = 91 := rfl
    have fast : (Delay.stable 40).score = 40 := rfl
    simp [sorted, listed, Group.memberNames, Group.sorted, MemberOrder.sort,
      List.mergeSort, List.MergeSort.Internal.splitInTwo, MemberOrder.precedes,
      timedOut, slow, fast]
  obtain ⟨missing, -⟩ := ties_go_to_listed_order Policy.initial none 50 distinct
  obtain ⟨same, -, -, first⟩ :=
    ties_go_to_listed_order policy (some (Duration.ofSeconds 30)) 50 distinct
  have moves : decide policy sorted (some (Duration.ofSeconds 30)) 50 =
      .move ⟨⟨"B", "", .stable 40⟩, false, some "Alpha"⟩ := by
    rw [same]
    decide +kernel
  refine ⟨distinct, ?_, moves, first _ (by rw [moves]; rfl)⟩
  rw [missing, names]
  decide +kernel

end Decision

end Switchyard
