import Mathlib.Data.List.Chain
import Mathlib.Data.Real.Basic
import Mathlib.Tactic.Linarith
import Switchyard.Proofs.Choice
import Switchyard.Proofs.Weighings

/-!
# Hysteresis

Looks at a group follow one another, and a move that a look decides on shows up
in the next one. Let every candidate have a usual latency of its own, from which
no measurement differs by more than a tolerance. When the least improvement is
at least twice the tolerance, every move leads to a candidate whose usual
latency is lower, whatever the noise in the measurements. So no candidate that
was left is ever selected again, however far the looks are apart and however
long the policy rests after a switch.
-/

namespace Switchyard.Decision

/-- What a look finds, apart from the selection. -/
structure Look where
  policy : Policy
  group : String
  members : List Proxy
  sinceSwitch : Option Nat

/-- Where the look decides to move, if it does. -/
def Look.target? (minImprovement : Nat) (selected : String) (look : Look) :
    Option String :=
  match decide look.policy ⟨look.group, selected, look.members⟩ look.sinceSwitch
    minImprovement with
  | .move plan => some plan.target.name
  | _ => none

/-- The selections that some looks find one after the other, and the one that
they leave behind. A move takes effect before the next look, and nothing else
changes the selection. -/
def selections (minImprovement : Nat) (selected : String) :
    List Look → List String
  | [] => [selected]
  | look :: later =>
    selected ::
      selections minImprovement
        ((look.target? minImprovement selected).getD selected) later

/-- The targets of the moves that some looks decide on. -/
def targets (minImprovement : Nat) (selected : String) : List Look → List String
  | [] => []
  | look :: later =>
    match look.target? minImprovement selected with
    | none => targets minImprovement selected later
    | some target => target :: targets minImprovement target later

/-- Whether a look finds all that it may choose from among the members, each
with a latency that is within a tolerance of its usual one. -/
structure Look.Steady (allowed : NameSet) (usual : String → ℝ) (tolerance : ℝ)
    (look : Look) :
    Prop where
  policy : look.policy.candidates = allowed
  present : ∀ name ∈ allowed, ∃ proxy ∈ look.members, proxy.name = name
  measured : ∀ proxy ∈ look.members, proxy.name ∈ allowed →
    ∃ millis, proxy.delay = .stable millis ∧
      |(millis.val : ℝ) - usual proxy.name| ≤ tolerance

/-- Between two latencies a move pays off exactly if it gains more than the
least improvement. -/
theorem paysOff_stable {current desired : Proxy} {slower faster : Fin 32768}
    (currentStable : current.delay = .stable slower)
    (desiredStable : desired.delay = .stable faster)
    (preferStableOnly : Bool) (minImprovement : Nat) :
    (Weighing.mk (some current) desired preferStableOnly
        minImprovement).paysOff =
      Decidable.decide (faster.val + minImprovement < slower.val) := by
  rw [Bool.eq_iff_iff, Weighing.paysOff_iff, decide_eq_true_eq]
  simp [outdoes_iff desiredStable currentStable]

theorem selected?_of_not_isBlank {group : Group}
    (notBlank : Text.isBlank group.selected = false) :
    group.selected? = some group.selected := by
  simp [Group.selected?, notBlank]

theorem plan_of_target? {look : Look} {minImprovement : Nat}
    {selected target : String}
    (found : look.target? minImprovement selected = some target) :
    ∃ plan, plan.target.name = target ∧
      decide look.policy ⟨look.group, selected, look.members⟩ look.sinceSwitch
        minImprovement = .move plan := by
  unfold Look.target? at found
  split at found
  · next plan decided => exact ⟨plan, Option.some.inj found, decided⟩
  · cases found

section Steady

variable {allowed : NameSet} {usual : String → ℝ} {tolerance : ℝ}
  {minImprovement : Nat} {look : Look} {looks : List Look}
  {selected target : String}

/-- A selection that the policy allows is found among the candidates of a steady
look. -/
theorem Look.Steady.exists_current
    (steady : look.Steady allowed usual tolerance)
    (notBlank : Text.isBlank selected = false)
    (isAllowed : selected ∈ allowed) :
    ∃ current, current.name = selected ∧ current ∈ look.members ∧
      current? (candidates look.policy ⟨look.group, selected, look.members⟩)
        ⟨look.group, selected, look.members⟩ = some current := by
  obtain ⟨proxy, isMember, isSelected⟩ := steady.present selected isAllowed
  have isCandidate :
      proxy ∈ candidates look.policy ⟨look.group, selected, look.members⟩ :=
    mem_candidates.2 ⟨isMember, by rwa [steady.policy, isSelected]⟩
  have found :
      ((candidates look.policy ⟨look.group, selected, look.members⟩).find?
      fun proxy => proxy.name == selected).isSome = true :=
    List.find?_isSome.2 ⟨proxy, isCandidate, by simpa using isSelected⟩
  obtain ⟨current, currentFact⟩ := Option.isSome_iff_exists.1 found
  refine ⟨current, by simpa using List.find?_some currentFact,
    (mem_candidates.1 (List.mem_of_find?_eq_some currentFact)).1, ?_⟩
  rw [current?, selected?_of_not_isBlank notBlank]
  exact currentFact

/-- A move of a steady look leads to a proxy that is allowed and whose usual
latency is lower. -/
theorem Look.Steady.descends (steady : look.Steady allowed usual tolerance)
    (notBlank : ∀ name ∈ allowed, Text.isBlank name = false)
    (wide : 2 * tolerance ≤ (minImprovement : ℝ))
    (isAllowed : selected ∈ allowed)
    (moves : look.target? minImprovement selected = some target) :
    target ∈ allowed ∧ usual target < usual selected := by
  obtain ⟨plan, rfl, decided⟩ := plan_of_target? moves
  have justified := justified_of_decide decided
  obtain ⟨targetMember, targetAllowed⟩ :=
    mem_candidates.1 (mem_of_mem_pool (best?_mem justified.best))
  rw [steady.policy] at targetAllowed
  obtain ⟨current, rfl, currentMember, currentFact⟩ :=
    steady.exists_current (notBlank selected isAllowed) isAllowed
  obtain ⟨slower, currentStable, currentNear⟩ :=
    steady.measured current currentMember isAllowed
  obtain ⟨faster, targetStable, targetNear⟩ :=
    steady.measured plan.target targetMember targetAllowed
  have paysOff := justified.paysOff currentFact
  rw [paysOff_stable currentStable targetStable, decide_eq_true_eq] at paysOff
  -- The gain that is measured is the usual one up to twice the tolerance.
  have measuredGain : (faster.val : ℝ) + minImprovement < slower.val := by
    exact_mod_cast paysOff
  obtain ⟨-, currentAbove⟩ := abs_le.1 currentNear
  obtain ⟨targetBelow, -⟩ := abs_le.1 targetNear
  exact ⟨targetAllowed, by linarith⟩

/-- A move leads down in usual latency. -/
def Lowers (usual : String → ℝ) (before after : String) : Prop :=
  usual after < usual before

/-- From one look to the next the selection stays, or its usual latency goes
down. -/
def Settles (usual : String → ℝ) (before after : String) : Prop :=
  after = before ∨ Lowers usual before after

theorem Lowers.trans {first second third : String}
    (former : Lowers usual first second) (latter : Lowers usual second third) :
    Lowers usual first third :=
  lt_trans latter former

theorem Lowers.ne {before after : String} (lowers : Lowers usual before after) :
    before ≠ after :=
  fun same => lt_irrefl (usual after) (same ▸ lowers)

theorem Settles.trans {first second third : String}
    (former : Settles usual first second)
    (latter : Settles usual second third) : Settles usual first third := by
  rcases former with rfl | lowers
  · exact latter
  · rcases latter with rfl | lowersMore
    · exact .inr lowers
    · exact .inr (lowers.trans lowersMore)

instance : Trans (Lowers usual) (Lowers usual) (Lowers usual) := ⟨Lowers.trans⟩

instance : Trans (Settles usual) (Settles usual) (Settles usual) :=
  ⟨Settles.trans⟩

theorem chain_targets
    (steady : ∀ look ∈ looks, look.Steady allowed usual tolerance)
    (notBlank : ∀ name ∈ allowed, Text.isBlank name = false)
    (wide : 2 * tolerance ≤ (minImprovement : ℝ))
    (isAllowed : selected ∈ allowed) :
    (selected :: targets minImprovement selected looks).IsChain (Lowers usual) ∧
      ∀ name ∈ selected :: targets minImprovement selected looks,
        name ∈ allowed := by
  induction looks generalizing selected with
  | nil => exact ⟨List.isChain_singleton _, by simpa [targets] using isAllowed⟩
  | cons look later laterFact =>
    obtain ⟨lookSteady, laterSteady⟩ := List.forall_mem_cons.1 steady
    rw [targets]
    cases moves : look.target? minImprovement selected with
    | none => exact laterFact laterSteady isAllowed
    | some target =>
      obtain ⟨targetAllowed, lower⟩ :=
        lookSteady.descends notBlank wide isAllowed moves
      obtain ⟨chain, all⟩ := laterFact laterSteady targetAllowed
      exact ⟨List.isChain_cons_cons.2 ⟨lower, chain⟩,
        List.forall_mem_cons.2 ⟨isAllowed, all⟩⟩

theorem selections_eq_cons (minImprovement : Nat) (selected : String)
    (looks : List Look) :
    ∃ later, selections minImprovement selected looks = selected :: later := by
  cases looks <;> exact ⟨_, rfl⟩

theorem chain_selections
    (steady : ∀ look ∈ looks, look.Steady allowed usual tolerance)
    (notBlank : ∀ name ∈ allowed, Text.isBlank name = false)
    (wide : 2 * tolerance ≤ (minImprovement : ℝ))
    (isAllowed : selected ∈ allowed) :
    (selections minImprovement selected looks).IsChain (Settles usual) := by
  induction looks generalizing selected with
  | nil => exact List.isChain_singleton _
  | cons look later laterFact =>
    obtain ⟨lookSteady, laterSteady⟩ := List.forall_mem_cons.1 steady
    rw [selections]
    cases moves : look.target? minImprovement selected with
    | none =>
      obtain ⟨rest, restFact⟩ :=
        selections_eq_cons minImprovement selected later
      have chain := laterFact laterSteady isAllowed
      rw [Option.getD_none]
      rw [restFact] at chain ⊢
      exact List.isChain_cons_cons.2 ⟨.inl rfl, chain⟩
    | some target =>
      obtain ⟨targetAllowed, lower⟩ :=
        lookSteady.descends notBlank wide isAllowed moves
      obtain ⟨rest, restFact⟩ := selections_eq_cons minImprovement target later
      have chain := laterFact laterSteady targetAllowed
      rw [Option.getD_some]
      rw [restFact] at chain ⊢
      exact List.isChain_cons_cons.2 ⟨.inr lower, chain⟩

/-- When every candidate that the policy allows is found each time with a
latency within a tolerance of its usual one, and the least improvement is at
least twice the tolerance, a selection that was left never comes back, and there
are fewer moves than candidates. -/
theorem selection_never_returns
    (wide : 2 * tolerance ≤ (minImprovement : ℝ))
    (notBlank : ∀ name ∈ allowed, Text.isBlank name = false)
    (steady : ∀ look ∈ looks, look.Steady allowed usual tolerance)
    (isAllowed : selected ∈ allowed) :
    (∀ {earlier between later : List String} {left next : String},
      selections minImprovement selected looks =
          earlier ++ left :: (between ++ next :: later) →
        next ≠ left → left ∉ later) ∧
    (targets minImprovement selected looks).length ≤ allowed.size - 1 := by
  constructor
  · intro earlier between later left next split leaves returns
    have settles := (chain_selections steady notBlank wide isAllowed).pairwise
    rw [split] at settles
    obtain ⟨fromLeft, onward⟩ :=
      List.pairwise_cons.1 (List.pairwise_append.1 settles).2.1
    have fromNext :=
      (List.pairwise_cons.1 (List.pairwise_append.1 onward).2.1).1
    have lowers : Lowers usual left next :=
      (fromLeft next (by simp)).resolve_left leaves
    rcases fromNext left returns with same | raises
    · exact leaves same.symm
    · exact (lowers.trans raises).ne rfl
  · obtain ⟨chain, all⟩ := chain_targets steady notBlank wide isAllowed
    have distinct : (selected :: targets minImprovement selected looks).Nodup :=
      chain.pairwise.imp Lowers.ne
    have atMost : (selected :: targets minImprovement selected looks).length ≤
        allowed.size :=
      distinct.length_le_of_subset fun name member =>
        NameSet.mem_toList.2 (all name member)
    exact Nat.le_sub_one_of_lt atMost

theorem abs_sub_le_of_bounds {millis middle reach : Nat}
    (below : middle ≤ millis + reach) (above : millis ≤ middle + reach) :
    |(millis : ℝ) - middle| ≤ reach := by
  have belowReal : (middle : ℝ) ≤ millis + reach := by exact_mod_cast below
  have aboveReal : (millis : ℝ) ≤ middle + reach := by exact_mod_cast above
  exact abs_le.2 ⟨by linarith, by linarith⟩

/-- Three candidates whose measurements are off by up to 25 milliseconds, so
that two of them trade places from look to look: the selection rests, moves from
`A` to `B` and on to `C`, and stays. -/
theorem selection_never_returns_through_noise :
    let policy : Policy :=
      { Policy.initial with candidates := NameSet.ofList ["A", "B", "C"] }
    let look : Option Nat → Fin 32768 → Fin 32768 → Look :=
      fun sinceSwitch second third =>
        ⟨policy, "GLOBAL", [⟨"A", "", .stable 310⟩, ⟨"B", "", .stable second⟩,
          ⟨"C", "", .stable third⟩], sinceSwitch⟩
    let looks :=
      [look (some 0) 140 170, look none 140 170, look none 185 125,
        look none 135 175]
    selections 50 "A" looks = ["A"] ++ "A" :: ([] ++ "B" :: ["C", "C"]) ∧
      "A" ∉ ["C", "C"] ∧
      (targets 50 "A" looks).length ≤ policy.candidates.size - 1 := by
  intro policy look looks
  let usual : String → Nat := fun name =>
    if name = "A" then 300 else if name = "B" then 160 else 150
  have lookSteady : ∀ sinceSwitch (second third : Fin 32768),
      (160 ≤ second.val + 25 ∧ second.val ≤ 160 + 25) →
      (150 ≤ third.val + 25 ∧ third.val ≤ 150 + 25) →
        (look sinceSwitch second third).Steady policy.candidates
          (fun name => usual name) (25 : Nat) := by
    rintro sinceSwitch second third ⟨secondBelow, secondAbove⟩ ⟨thirdBelow,
      thirdAbove⟩
    refine ⟨rfl, fun name member => ?_, fun proxy member _ => ?_⟩
    · simp only [policy, NameSet.mem_ofList, List.mem_cons, List.not_mem_nil,
        or_false] at member
      rcases member with rfl | rfl | rfl <;> simp [look]
    · simp only [look, List.mem_cons, List.not_mem_nil, or_false] at member
      rcases member with rfl | rfl | rfl
      · exact ⟨_, rfl, abs_sub_le_of_bounds (by decide) (by decide)⟩
      · exact ⟨_, rfl, abs_sub_le_of_bounds secondBelow secondAbove⟩
      · exact ⟨_, rfl, abs_sub_le_of_bounds thirdBelow thirdAbove⟩
  have steady : ∀ found ∈ looks,
      found.Steady policy.candidates (fun name => usual name) (25 : Nat) := by
    simp only [looks, List.forall_mem_cons]
    refine ⟨?_, ?_, ?_, ?_, List.forall_mem_nil _⟩ <;>
      exact lookSteady _ _ _ (by decide) (by decide)
  have found : selections 50 "A" looks =
      ["A"] ++ "A" :: ([] ++ "B" :: ["C", "C"]) := by
    decide +kernel
  have wide : 2 * ((25 : Nat) : ℝ) ≤ ((50 : Nat) : ℝ) := by norm_num
  have isAllowed : "A" ∈ policy.candidates := by decide
  obtain ⟨never, few⟩ :=
    selection_never_returns wide (by decide) steady isAllowed
  exact ⟨found, never found (by decide), few⟩

end Steady

end Switchyard.Decision
