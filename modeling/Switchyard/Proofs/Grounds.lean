import Switchyard.Proofs.LeastScore
import Switchyard.Proofs.Weighings

/-!
# The grounds of a decision

A decision about a group follows from the candidates that are members, the best
one of those that are eligible, the candidate that is selected, if there is one,
and the time since the last switch. The main statements give every decision its
condition, and say what has no influence: whether the policy prefers stable
proxies, and the two rules about a desired proxy without a latency.
-/

namespace Switchyard.Decision

section Rests

variable {policy : Policy} {sinceSwitch : Option Nat}

/-- Whether the rest after the last switch is not over. -/
def IsResting (policy : Policy) (sinceSwitch : Option Nat) : Prop :=
  ∃ elapsed, sinceSwitch = some elapsed ∧ elapsed < policy.cooldown

theorem restRemaining?_eq_some_iff {remaining : Nat} :
    restRemaining? policy sinceSwitch = some remaining ↔
      ∃ elapsed, sinceSwitch = some elapsed ∧ elapsed < policy.cooldown ∧
        max (Duration.wholeSeconds (policy.cooldown - elapsed)) 1 =
          remaining := by
  unfold restRemaining?
  cases sinceSwitch with
  | none => simp
  | some elapsed =>
    rw [Option.bind_some, Option.ite_none_right_eq_some]
    constructor
    · rintro ⟨tooEarly, seconds⟩
      exact ⟨elapsed, rfl, tooEarly, Option.some.inj seconds⟩
    · rintro ⟨since, same, tooEarly, rfl⟩
      obtain rfl := Option.some.inj same
      exact ⟨tooEarly, rfl⟩

theorem isResting_iff :
    IsResting policy sinceSwitch ↔
      restRemaining? policy sinceSwitch ≠ none := by
  rw [Option.ne_none_iff_exists']
  constructor
  · rintro ⟨elapsed, since, tooEarly⟩
    exact ⟨_, restRemaining?_eq_some_iff.2 ⟨elapsed, since, tooEarly, rfl⟩⟩
  · rintro ⟨remaining, rests⟩
    obtain ⟨elapsed, since, tooEarly, -⟩ := restRemaining?_eq_some_iff.1 rests
    exact ⟨elapsed, since, tooEarly⟩

/-- As long as a rest is not over, at least a second of it is counted as left,
and never more than all of it. -/
theorem remaining_bounds {elapsed : Nat} (resting : elapsed < policy.cooldown) :
    max (Duration.wholeSeconds (policy.cooldown - elapsed)) 1 ≤
      policy.cooldownSeconds.toNat := by
  unfold Policy.cooldown Duration.ofSeconds at resting
  simp only [Policy.cooldown, Duration.ofSeconds, Duration.wholeSeconds]
  omega

end Rests

/-- Which decision is made between the best candidate and the one that is
selected, if there is one. The conditions are asked in this order, and each
decision is made exactly under its own. -/
structure Answers (policy : Policy) (group : Group) (sinceSwitch : Option Nat)
    (minImprovement : Nat) (desired : Proxy) (current : Option Proxy)
    (decision : Decision) : Prop where
  optimal : decision = .hold (.alreadyOptimal desired) ↔
    group.selected? = some desired.name
  cooldown : group.selected? ≠ some desired.name →
    ((∃ remaining, decision =
        .hold (.cooldown group.selectedDisplay? remaining)) ↔
      current ≠ none ∧ IsResting policy sinceSwitch)
  remaining : ∀ {shown : Option String} {remaining : Nat},
    decision = .hold (.cooldown shown remaining) →
      1 ≤ remaining ∧ remaining ≤ policy.cooldownSeconds.toNat ∧
        ∃ elapsed, sinceSwitch = some elapsed ∧
          (0 < Duration.wholeSeconds (policy.cooldown - elapsed) →
            remaining = Duration.wholeSeconds (policy.cooldown - elapsed))
  move : group.selected? ≠ some desired.name →
    ¬ (current ≠ none ∧ IsResting policy sinceSwitch) →
    ((∃ plan, decision = .move plan ∧ plan.target = desired) ↔
      current = none ∨
        ∃ held, current = some held ∧ Outdoes minImprovement desired held)
  noImprovement : group.selected? ≠ some desired.name →
    ¬ (current ≠ none ∧ IsResting policy sinceSwitch) →
    ((decision = .hold (.noImprovement group.selectedDisplay? desired)) ↔
      ¬ (current = none ∨
        ∃ held, current = some held ∧ Outdoes minImprovement desired held))
  plan : ∀ {plan : Move}, decision = .move plan →
    (plan.forced = true ↔ current = none) ∧
      plan.previous = group.selectedDisplay?

section Answers

variable {policy : Policy} {group : Group} {sinceSwitch : Option Nat}
  {minImprovement : Nat} {desired : Proxy} {current : Option Proxy}

theorem answers_of_optimal (selected : group.selected? = some desired.name) :
    Answers policy group sinceSwitch minImprovement desired current
      (.hold (.alreadyOptimal desired)) where
  optimal := iff_of_true rfl selected
  cooldown unselected := absurd selected unselected
  remaining decided := by cases decided
  move unselected := absurd selected unselected
  noImprovement unselected := absurd selected unselected
  plan decided := by cases decided

theorem answers_of_resting {remaining : Nat}
    (unselected : group.selected? ≠ some desired.name)
    (found : current ≠ none)
    (rests : restRemaining? policy sinceSwitch = some remaining) :
    Answers policy group sinceSwitch minImprovement desired current
      (.hold (.cooldown group.selectedDisplay? remaining)) := by
  have resting : IsResting policy sinceSwitch :=
    isResting_iff.2 (by rw [rests]; exact nofun)
  exact {
    optimal := iff_of_false nofun unselected
    cooldown := fun _ => iff_of_true ⟨remaining, rfl⟩ ⟨found, resting⟩
    remaining := by
      rintro shown seconds ⟨rfl, rfl⟩
      obtain ⟨elapsed, since, tooEarly, rfl⟩ :=
        restRemaining?_eq_some_iff.1 rests
      refine ⟨Nat.le_max_right _ _, remaining_bounds tooEarly, elapsed, since,
        fun positive => ?_⟩
      exact Nat.max_eq_left positive
    move := fun _ rested => absurd ⟨found, resting⟩ rested
    noImprovement := fun _ rested => absurd ⟨found, resting⟩ rested
    plan := nofun }

theorem answers_of_weighed {paysOff : Bool} {preferStableOnly : Bool}
    (unselected : group.selected? ≠ some desired.name)
    (rested : ¬ (current ≠ none ∧ IsResting policy sinceSwitch))
    (worth : paysOff = true ↔
      current = none ∨
        ∃ held, current = some held ∧ Outdoes minImprovement desired held) :
    Answers policy group sinceSwitch minImprovement desired current
      (conclude group ⟨current, desired, preferStableOnly, minImprovement⟩
        paysOff) := by
  cases paysOff with
  | true =>
    have moves := worth.1 rfl
    exact {
      optimal := iff_of_false nofun unselected
      cooldown := fun _ => iff_of_false nofun rested
      remaining := nofun
      move := fun _ _ => iff_of_true ⟨_, rfl, rfl⟩ moves
      noImprovement := fun _ _ => iff_of_false nofun (not_not_intro moves)
      plan := by
        rintro plan ⟨rfl⟩
        exact ⟨Option.isNone_iff_eq_none, rfl⟩ }
  | false =>
    have stays : ¬ (current = none ∨
        ∃ held, current = some held ∧ Outdoes minImprovement desired held) :=
      fun moves => Bool.false_ne_true (worth.2 moves)
    obtain ⟨held, rfl⟩ := Option.ne_none_iff_exists'.1 (not_or.1 stays).1
    exact {
      optimal := iff_of_false nofun unselected
      cooldown := fun _ => iff_of_false nofun rested
      remaining := nofun
      move := fun _ _ => iff_of_false nofun stays
      noImprovement := fun _ _ => iff_of_true rfl stays
      plan := nofun }

end Answers

theorem current?_eq_find? (candidates : List Proxy) (group : Group) :
    current? candidates group =
      candidates.find? fun proxy =>
        Decidable.decide (group.selected? = some proxy.name) := by
  unfold current?
  cases group.selected? with
  | none => exact (List.find?_eq_none.2 (by simp)).symm
  | some name =>
    rw [Option.bind_some]
    congr 1
    funext proxy
    rw [Bool.eq_iff_iff, beq_iff_eq, decide_eq_true_eq,
      Option.some.injEq, eq_comm]

section Decided

variable {policy : Policy} {group : Group} {sinceSwitch : Option Nat}
  {minImprovement : Nat}

theorem decide_eq_missing_iff :
    decide policy group sinceSwitch minImprovement =
      .missingCandidates group.memberNames ↔ candidates policy group = [] := by
  constructor
  · intro missing
    have isMissing := isMissing_decide policy group sinceSwitch minImprovement
    rw [missing] at isMissing
    exact List.isEmpty_iff.1 isMissing.symm
  · intro none
    unfold decide decideBy examine
    rw [none]
    rfl

theorem exists_answers (some : candidates policy group ≠ []) :
    ∃ desired, IsFirstLeast (candidates policy group) desired ∧
      Answers policy group sinceSwitch minImprovement desired
        (current? (candidates policy group) group)
        (decide policy group sinceSwitch minImprovement) := by
  have grounds := examined policy group sinceSwitch minImprovement
  unfold decide decideBy
  generalize examine policy group sinceSwitch minImprovement = examination
    at grounds ⊢
  cases grounds with
  | missing none => exact absurd none some
  | optimal best selected =>
    exact ⟨_, best?_pool_eq_some_iff.1 best, answers_of_optimal selected⟩
  | resting best unselected found rests =>
    have held : current? (candidates policy group) group ≠ none := by
      rw [found]
      exact nofun
    exact ⟨_, best?_pool_eq_some_iff.1 best,
      answers_of_resting unselected held rests⟩
  | weighed best unselected rested =>
    have notResting : ¬ (current? (candidates policy group) group ≠ none ∧
        IsResting policy sinceSwitch) := fun resting =>
      isResting_iff.1 resting.2 (rested (Option.isSome_iff_ne_none.2 resting.1))
    exact ⟨_, best?_pool_eq_some_iff.1 best,
      answers_of_weighed unselected notResting Weighing.paysOff_iff⟩

/-- What is eligible has the same best proxy as all that is allowed. -/
theorem isFirstLeast_eligible {allowed : List Proxy} {desired : Proxy}
    (preferStableOnly : Bool) (isBest : IsFirstLeast allowed desired) :
    let stable := allowed.filter fun proxy => proxy.delay.isStable
    IsFirstLeast (if preferStableOnly = true ∧ stable ≠ [] then stable
      else allowed) desired := by
  intro stable
  split
  · next preferred =>
    obtain ⟨proxy, member⟩ := List.exists_mem_of_ne_nil stable preferred.2
    exact (isFirstLeast_filter_isStable ⟨proxy, List.mem_filter.1 member⟩).2
      isBest
  · exact isBest

end Decided

/-- Every decision has its condition. The candidates that are members of the
group are looked at in the group's order, those without a latency only if the
policy does not prefer stable ones or there are no others; the first one of
least score is desired. -/
theorem decided_on_grounds (policy : Policy) (group : Group)
    (sinceSwitch : Option Nat) (minImprovement : Nat) :
    let decision := decide policy group sinceSwitch minImprovement
    let allowed := group.members.filter fun proxy =>
      Decidable.decide (proxy.name ∈ policy.candidates)
    let stable := allowed.filter fun proxy => proxy.delay.isStable
    let eligible := if policy.preferStableOnly = true ∧ stable ≠ [] then stable
      else allowed
    let current :=
      allowed.find? fun proxy =>
        Decidable.decide (group.selected? = some proxy.name)
    (decision = .missingCandidates (group.members.map Proxy.name) ↔
        allowed = []) ∧
      (allowed = [] ∨ ∃ desired, IsFirstLeast eligible desired ∧
        Answers policy group sinceSwitch minImprovement desired current
          decision) := by
  intro decision allowed stable eligible current
  refine ⟨decide_eq_missing_iff, ?_⟩
  by_cases none : allowed = []
  · exact .inl none
  · obtain ⟨desired, isBest, answers⟩ := exists_answers none
    rw [current?_eq_find?] at answers
    exact .inr ⟨desired, isFirstLeast_eligible policy.preferStableOnly isBest,
      answers⟩

/-- A decision with other names for the members, where it lists them. -/
def listing (names : List String) : Decision → Decision
  | .missingCandidates _ => .missingCandidates names
  | decision => decision

theorem listing_conclude (names : List String) (group : Group)
    (weighing : Weighing) (paysOff : Bool) :
    (conclude group weighing paysOff).listing names =
      conclude group weighing paysOff := by
  unfold conclude
  split <;> rfl

theorem paysOff_preference (weighing : Weighing) (preference : Bool) :
    Weighing.paysOff { weighing with preferStableOnly := preference } =
      weighing.paysOff := by
  rw [Bool.eq_iff_iff, Weighing.paysOff_iff, Weighing.paysOff_iff]

/-- Whether two policies find the same best candidate and the same selected one,
and let it rest for the same time. They may differ in what they prefer, and the
groups in the order of their members. -/
structure FindsAlike (policy other : Policy) (group listed : Group) : Prop where
  best : best? (candidates policy group) = best? (candidates other listed)
  current : current? (candidates policy group) group =
    current? (candidates other listed) listed
  selected : group.selected? = listed.selected?
  shown : group.selectedDisplay? = listed.selectedDisplay?
  cooldown : policy.cooldown = other.cooldown

section Alike

variable {policy other : Policy} {group listed : Group}
  {sinceSwitch : Option Nat} {minImprovement : Nat}

theorem FindsAlike.refl (policy : Policy) (group : Group) :
    FindsAlike policy policy group group :=
  ⟨rfl, rfl, rfl, rfl, rfl⟩

theorem FindsAlike.isEmpty_eq (alike : FindsAlike policy other group listed) :
    (candidates policy group).isEmpty = (candidates other listed).isEmpty := by
  rw [Bool.eq_iff_iff, List.isEmpty_iff, List.isEmpty_iff,
    ← best?_eq_none_iff, alike.best, best?_eq_none_iff]

theorem FindsAlike.examine_eq (alike : FindsAlike policy other group listed) :
    examine policy group sinceSwitch minImprovement =
      (examine other listed sinceSwitch minImprovement).map
        (listing group.memberNames) fun weighing =>
          { weighing with preferStableOnly := policy.preferStableOnly } := by
  have sameRest : restRemaining? policy sinceSwitch =
      restRemaining? other sinceSwitch := by
    simp only [restRemaining?, alike.cooldown]
  simp only [examine, best?_pool, alike.isEmpty_eq, alike.best, alike.current,
    alike.selected, alike.shown, sameRest]
  by_cases none : (candidates other listed).isEmpty = true
  · simp only [if_pos none]
    rfl
  · simp only [if_neg none]
    cases best? (candidates other listed) with
    | none => rfl
    | some desired =>
      by_cases selected : listed.selected? = some desired.name
      · simp only [if_pos selected]
        rfl
      · simp only [if_neg selected]
        cases (if (current? (candidates other listed) listed).isSome = true then
          restRemaining? other sinceSwitch else Option.none) <;> rfl

/-- Where two policies find the same in two groups they decide the same, but
that each decision lists the members as its group does. -/
theorem FindsAlike.decide_eq (alike : FindsAlike policy other group listed) :
    decide policy group sinceSwitch minImprovement =
      (decide other listed sinceSwitch minImprovement).listing
        group.memberNames := by
  unfold decide decideBy
  rw [alike.examine_eq]
  cases examine other listed sinceSwitch minImprovement with
  | inl decision => rfl
  | inr weighing =>
    simp only [Sum.map_inr, Weighing.paysOffBy_all, paysOff_preference,
      listing_conclude]
    simp only [conclude, alike.shown]

end Alike

section Influence

variable {policy : Policy} {group : Group} {sinceSwitch : Option Nat}
  {minImprovement : Nat}

/-- The best candidate has a latency if the selected one has, for it is among
the candidates. -/
theorem wellChosen_of_examine {weighing : Weighing}
    (found : examine policy group sinceSwitch minImprovement = .inr weighing) :
    weighing.IsWellChosen := by
  have grounds := examined policy group sinceSwitch minImprovement
  rw [found] at grounds
  cases grounds with
  | weighed best unselected rested =>
    intro current held stable
    rw [current?_eq_find?] at held
    exact (best?_pool_eq_some_iff.1 best).isStable
      ⟨current, List.mem_of_find?_eq_some held, stable⟩

theorem decideBy_allWith {between : List Rule}
    (about : between ⊆ Rule.cautions) :
    decideBy (Rule.allWith between) policy group sinceSwitch minImprovement =
      decide policy group sinceSwitch minImprovement := by
  unfold decide decideBy
  simp only [Weighing.paysOffBy_allWith about, Weighing.paysOffBy_all]

theorem decide_ne_noPreferredCandidate :
    decide policy group sinceSwitch minImprovement ≠
      .hold .noPreferredCandidate := by
  have grounds := examined policy group sinceSwitch minImprovement
  unfold decide decideBy
  generalize examine policy group sinceSwitch minImprovement = examination
    at grounds ⊢
  cases grounds with
  | missing none => exact nofun
  | optimal best selected => exact nofun
  | resting best unselected found rests => exact nofun
  | weighed best unselected rested =>
    dsimp only [conclude]
    split <;> exact nofun

end Influence

/-- Whether stable proxies are preferred makes no difference to any decision. -/
theorem preference_without_effect (policy : Policy) (group : Group)
    (sinceSwitch : Option Nat) (minImprovement : Nat) :
    decide { policy with preferStableOnly := true } group sinceSwitch
      minImprovement = decide { policy with preferStableOnly := false } group
      sinceSwitch minImprovement := by
  have alike : FindsAlike { policy with preferStableOnly := true }
      { policy with preferStableOnly := false } group group :=
    ⟨rfl, rfl, rfl, rfl, rfl⟩
  rw [alike.decide_eq, ← (FindsAlike.refl _ group).decide_eq]

/-- The rules about a desired proxy without a latency have no influence. They
never settle a weighing that a decision asks for, and every decision is the same
without them; the pool is never found empty, and a move is made only where the
verdict is for it. -/
theorem cautions_never_settle (policy : Policy) (group : Group)
    (sinceSwitch : Option Nat) (minImprovement : Nat) :
    (∀ weighing, examine policy group sinceSwitch minImprovement =
      .inr weighing →
      weighing.settle.2 ∈ ["no-current", "current-unstable", "improvement",
        "otherwise"]) ∧
    decideBy (Rule.without ["desired-unstable-preferred", "desired-unstable"])
        policy group sinceSwitch minImprovement =
      decide policy group sinceSwitch minImprovement ∧
    decide policy group sinceSwitch minImprovement ≠
      .hold .noPreferredCandidate ∧
    (∀ plan, decide policy group sinceSwitch minImprovement = .move plan →
      ∃ weighing, examine policy group sinceSwitch minImprovement =
        .inr weighing ∧
        weighing.desired = plan.target ∧ weighing.settle.1 = true) ∧
    ∀ weighing : Weighing,
      (weighing.settleAmong (Rule.without ["desired-unstable"])).1 =
        weighing.settle.1 := by
  refine ⟨fun weighing found => (wellChosen_of_examine found).settle_name, ?_,
    decide_ne_noPreferredCandidate, fun plan decided => ?_, fun weighing => ?_⟩
  · rw [Rule.without_cautions]
    exact decideBy_allWith (List.nil_subset _)
  · obtain ⟨weighing, found, concluded⟩ := exists_weighing_of_move decided
    obtain ⟨paysOff, rfl⟩ := conclude_eq_move_iff.1 concluded
    refine ⟨weighing, found, rfl, ?_⟩
    cases held : weighing.current with
    | none => exact Weighing.paysOff_iff.2 (.inl held)
    | some current => exact paysOff (by rw [held]; rfl)
  · rw [Rule.without_desiredUnstable]
    apply Weighing.paysOffBy_allWith
    intro rule member
    rw [List.mem_singleton.1 member]
    exact List.mem_cons_self

end Switchyard.Decision
