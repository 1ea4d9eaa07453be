import Switchyard.Proofs.Choice

/-!
# The first proxy of least score

The best of some proxies is the first one whose score is the least among them. A
proxy without a latency has the worst score, so as long as some proxy has a
latency, the others may as well be left out: what is best does not depend on
whether the policy prefers stable proxies.
-/

namespace Switchyard

theorem Delay.isStable_iff_score_lt {delay : Delay} :
    delay.isStable = true ↔ delay.score < worstScore := by
  cases delay with
  | stable millis =>
    refine iff_of_true rfl (Nat.lt_trans millis.isLt ?_)
    decide
  | timeout => simp [isStable, latency?, score]
  | unknown => simp [isStable, latency?, score]

namespace Decision

/-- Whether a proxy is the first of those that have the least score among some
proxies. -/
structure IsFirstLeast (proxies : List Proxy) (best : Proxy) : Prop where
  least : ∀ proxy ∈ proxies, best.delay.score ≤ proxy.delay.score
  first : proxies.find? (fun proxy => proxy.delay.score == best.delay.score) =
    some best

section FirstLeast

variable {proxies : List Proxy} {first next best other : Proxy}
  {rest : List Proxy}

theorem IsFirstLeast.mem (isBest : IsFirstLeast proxies best) :
    best ∈ proxies :=
  List.mem_of_find?_eq_some isBest.first

theorem IsFirstLeast.unique (isBest : IsFirstLeast proxies best)
    (isOther : IsFirstLeast proxies other) : best = other := by
  have same : best.delay.score = other.delay.score :=
    Nat.le_antisymm (isBest.least other isOther.mem)
      (isOther.least best isBest.mem)
  have found := isBest.first
  rw [same, isOther.first] at found
  exact (Option.some.inj found).symm

theorem isFirstLeast_singleton (proxy : Proxy) :
    IsFirstLeast [proxy] proxy where
  least := by simp
  first := by simp

/-- What is best after two proxies were compared is best among both and the
rest: of equal scores the earlier one is kept. -/
theorem IsFirstLeast.cons_cons
    (isBest : IsFirstLeast (better first next :: rest) best) :
    IsFirstLeast (first :: next :: rest) best := by
  obtain ⟨leastHere, leastBehind⟩ := List.forall_mem_cons.1 isBest.least
  have found := isBest.first
  by_cases faster : next.delay.score < first.delay.score
  · have chosen : better first next = next := if_pos faster
    rw [chosen] at leastHere found
    have behind : best.delay.score < first.delay.score :=
      Nat.lt_of_le_of_lt leastHere faster
    constructor
    · exact List.forall_mem_cons.2
        ⟨Nat.le_of_lt behind, List.forall_mem_cons.2 ⟨leastHere, leastBehind⟩⟩
    · rwa [List.find?_cons_of_neg (by simpa using Nat.ne_of_gt behind)]
  · have chosen : better first next = first := if_neg faster
    rw [chosen] at leastHere found
    have notFaster : first.delay.score ≤ next.delay.score :=
      Nat.le_of_not_lt faster
    constructor
    · exact List.forall_mem_cons.2 ⟨leastHere,
        List.forall_mem_cons.2 ⟨Nat.le_trans leastHere notFaster, leastBehind⟩⟩
    · by_cases same : first.delay.score = best.delay.score
      · rw [List.find?_cons_of_pos (by simpa using same)] at found ⊢
        exact found
      · have ahead : best.delay.score < next.delay.score := by omega
        rw [List.find?_cons_of_neg (by simpa using same)] at found ⊢
        rwa [List.find?_cons_of_neg (by simpa using Nat.ne_of_gt ahead)]

theorem isFirstLeast_foldl (first : Proxy) (rest : List Proxy) :
    IsFirstLeast (first :: rest) (rest.foldl better first) := by
  induction rest generalizing first with
  | nil => exact isFirstLeast_singleton first
  | cons next rest restFact => exact (restFact (better first next)).cons_cons

theorem best?_eq_some_iff :
    best? proxies = some best ↔ IsFirstLeast proxies best := by
  cases proxies with
  | nil =>
    constructor
    · intro found
      cases found
    · intro isBest
      cases isBest.mem
  | cons first rest =>
    have isBest := isFirstLeast_foldl first rest
    constructor
    · intro found
      obtain rfl := Option.some.inj found
      exact isBest
    · intro isOther
      rw [best?, isBest.unique isOther]

end FirstLeast

section Stable

variable {proxies : List Proxy} {best : Proxy}

theorem IsFirstLeast.isStable (isBest : IsFirstLeast proxies best)
    (someStable : ∃ proxy ∈ proxies, proxy.delay.isStable = true) :
    best.delay.isStable = true := by
  obtain ⟨proxy, member, stable⟩ := someStable
  rw [Delay.isStable_iff_score_lt] at stable ⊢
  exact Nat.lt_of_le_of_lt (isBest.least proxy member) stable

/-- To look for a latency's score among the proxies with a latency is to look
among all. -/
theorem find?_filter_isStable (stable : best.delay.isStable = true) :
    (proxies.filter fun proxy => proxy.delay.isStable).find?
        (fun proxy => proxy.delay.score == best.delay.score) =
      proxies.find? fun proxy => proxy.delay.score == best.delay.score := by
  rw [List.find?_filter]
  congr 1
  funext proxy
  by_cases same : proxy.delay.score = best.delay.score
  · have stableToo : proxy.delay.isStable = true := by
      rw [Delay.isStable_iff_score_lt] at stable ⊢
      rwa [same]
    simp [same, stableToo]
  · simp [same]

theorem isFirstLeast_filter_isStable
    (someStable : ∃ proxy ∈ proxies, proxy.delay.isStable = true) :
    IsFirstLeast (proxies.filter fun proxy => proxy.delay.isStable) best ↔
      IsFirstLeast proxies best := by
  constructor
  · intro isBest
    have stable : best.delay.isStable = true := (List.mem_filter.1 isBest.mem).2
    constructor
    · intro proxy member
      by_cases stableToo : proxy.delay.isStable = true
      · exact isBest.least proxy (List.mem_filter.2 ⟨member, stableToo⟩)
      · rw [Delay.isStable_iff_score_lt] at stable stableToo
        omega
    · rw [← find?_filter_isStable stable]
      exact isBest.first
  · intro isBest
    constructor
    · intro proxy member
      exact isBest.least proxy (List.mem_filter.1 member).1
    · rw [find?_filter_isStable (isBest.isStable someStable)]
      exact isBest.first

/-- The best of the pool is the best of all candidates, whether stable ones are
preferred or not. -/
theorem best?_pool (preferStableOnly : Bool) (candidates : List Proxy) :
    best? (pool preferStableOnly candidates) = best? candidates := by
  unfold pool
  dsimp only
  split
  · next preferred =>
    have someStable : ∃ proxy ∈ candidates, proxy.delay.isStable = true := by
      simpa using (Bool.and_eq_true_iff.1 preferred).2
    apply Option.ext
    intro best
    rw [best?_eq_some_iff, best?_eq_some_iff,
      isFirstLeast_filter_isStable someStable]
  · rfl

theorem best?_pool_eq_some_iff {preferStableOnly : Bool} :
    best? (pool preferStableOnly proxies) = some best ↔
      IsFirstLeast proxies best := by
  rw [best?_pool, best?_eq_some_iff]

end Stable

end Decision

end Switchyard
