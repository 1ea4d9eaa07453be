import Switchyard.Decision

/-!
# Weighing a move

The rules are asked in their order, and the first one that has a verdict settles
the matter. By all rules a move pays off exactly if there is no current proxy,
or it has no latency, or it has one that is undercut by more than the least
improvement.

Two of the rules are about a desired proxy without a latency. Where they are
asked and the current proxy has a latency, no rule says yes; so the verdict on a
move is the same without them. Where the desired proxy has a latency whenever
the current one has, they never settle anything.
-/

namespace Switchyard

namespace Delay

theorem exists_latency {delay : Delay} (stable : delay.isStable = true) :
    ∃ latency, delay = .stable latency := by
  cases delay with
  | stable latency => exact ⟨latency, rfl⟩
  | timeout => cases stable
  | unknown => cases stable

theorem latency?_eq_none {delay : Delay} (unstable : delay.isStable = false) :
    delay.latency? = none := by
  simpa [isStable] using unstable

end Delay

/-- Whether one proxy gains more than the least improvement over another, if
that one has a latency to compare with. -/
def Outdoes (minImprovement : Nat) (desired current : Proxy) : Prop :=
  current.delay.isStable = false ∨
    ∃ faster slower, desired.delay = .stable faster ∧
      current.delay = .stable slower ∧ faster.val + minImprovement < slower.val

theorem outdoes_iff {minImprovement : Nat} {desired current : Proxy}
    {faster slower : Fin 32768} (desiredStable : desired.delay = .stable faster)
    (currentStable : current.delay = .stable slower) :
    Outdoes minImprovement desired current ↔
      faster.val + minImprovement < slower.val := by
  simp [Outdoes, desiredStable, currentStable, Delay.isStable, Delay.latency?]

/-- A proxy without a latency outdoes none with a latency. -/
theorem not_outdoes {minImprovement : Nat} {desired current : Proxy}
    (stable : current.delay.isStable = true)
    (unstable : desired.delay.isStable = false) :
    ¬ Outdoes minImprovement desired current := by
  rintro (missing | ⟨faster, slower, desiredStable, -⟩)
  · rw [stable] at missing
    cases missing
  · rw [desiredStable] at unstable
    cases unstable

/-- Latencies are so small that a sum which does not fit in a word is beyond all
of them. -/
theorem needed_lt_iff {desired minImprovement : Nat} {current : Fin 32768} :
    min (desired + minImprovement) (UInt32.size - 1) < current.val ↔
      desired + minImprovement < current.val := by
  have bounded : current.val < UInt32.size - 1 :=
    Nat.lt_trans current.isLt (by decide)
  omega

namespace Weighing

theorem paysOffBy_all (weighing : Weighing) :
    weighing.paysOffBy Rule.all = weighing.paysOff := rfl

section Rules

variable {weighing : Weighing} {rules : List Rule}

theorem settleBy_cons_of_verdict {rule : Rule} {verdict : Bool}
    (speaks : rule.verdict weighing = some verdict) :
    weighing.settleBy (rule :: rules) = some (verdict, rule.name) := by
  simp [settleBy, speaks]

theorem settleBy_append_of_silent {silent : List Rule}
    (nothing : ∀ rule ∈ silent, rule.verdict weighing = none) :
    weighing.settleBy (silent ++ rules) = weighing.settleBy rules := by
  have unsettled : weighing.settleBy silent = none := by
    rw [settleBy, List.findSome?_eq_none_iff]
    intro rule member
    rw [nothing rule member, Option.map_none]
  unfold settleBy at unsettled ⊢
  rw [List.findSome?_append, unsettled, Option.none_or]

theorem settleBy_cons_of_silent {rule : Rule}
    (nothing : rule.verdict weighing = none) :
    weighing.settleBy (rule :: rules) = weighing.settleBy rules :=
  settleBy_append_of_silent (List.forall_mem_singleton.2 nothing)

theorem paysOffBy_cons_of_verdict {rule : Rule} {verdict : Bool}
    (speaks : rule.verdict weighing = some verdict) :
    weighing.paysOffBy (rule :: rules) = verdict := by
  rw [paysOffBy, settleAmong, settleBy_cons_of_verdict speaks, Option.getD_some]

theorem paysOffBy_cons_of_silent {rule : Rule}
    (nothing : rule.verdict weighing = none) :
    weighing.paysOffBy (rule :: rules) = weighing.paysOffBy rules := by
  rw [paysOffBy, settleAmong, settleBy_cons_of_silent nothing,
    paysOffBy, settleAmong]

theorem exists_rule_of_settleBy {verdict : Bool} {name : String}
    (settled : weighing.settleBy rules = some (verdict, name)) :
    ∃ rule ∈ rules, rule.name = name ∧
      rule.verdict weighing = some verdict := by
  obtain ⟨rule, member, found⟩ := List.exists_of_findSome?_eq_some settled
  obtain ⟨said, saidFact, same⟩ := Option.map_eq_some_iff.1 found
  obtain ⟨rfl, rfl⟩ := Prod.mk.inj same
  exact ⟨rule, member, rfl, saidFact⟩

theorem paysOffBy_eq_false
    (never : ∀ rule ∈ rules, rule.verdict weighing ≠ some true) :
    weighing.paysOffBy rules = false := by
  unfold paysOffBy settleAmong
  cases settled : weighing.settleBy rules with
  | none => rfl
  | some settling =>
    obtain ⟨rule, member, -, said⟩ := exists_rule_of_settleBy settled
    have refused := never rule member
    rw [said] at refused
    simpa using refused

end Rules

end Weighing

namespace Rule

section First

variable {weighing : Weighing} {current : Proxy}

theorem noCurrent_speaks (found : weighing.current = none) :
    noCurrent.verdict weighing = some true := by
  simp [noCurrent, found]

theorem noCurrent_silent (found : weighing.current = some current) :
    noCurrent.verdict weighing = none := by
  simp [noCurrent, found]

theorem currentUnstable_speaks (found : weighing.current = some current)
    (unstable : current.delay.isStable = false) :
    currentUnstable.verdict weighing = some true := by
  simp [currentUnstable, found, unstable]

theorem currentUnstable_silent (found : weighing.current = some current)
    (stable : current.delay.isStable = true) :
    currentUnstable.verdict weighing = none := by
  simp [currentUnstable, found, stable]

end First

def cautions : List Rule := [.desiredUnstablePreferred, .desiredUnstable]

def plain : List Rule :=
  [.noCurrent, .currentUnstable, .improvement, .otherwise]

/-- All rules, but of the cautions only some. -/
def allWith (between : List Rule) : List Rule :=
  .noCurrent :: .currentUnstable :: (between ++ [.improvement, .otherwise])

theorem allWith_cautions : allWith cautions = all := rfl

/-- All rules but those of some names. -/
def without (names : List String) : List Rule :=
  all.filter fun rule => decide (rule.name ∉ names)

theorem without_cautions :
    without ["desired-unstable-preferred", "desired-unstable"] = allWith [] :=
  rfl

theorem without_desiredUnstable :
    without ["desired-unstable"] = allWith [.desiredUnstablePreferred] := rfl

end Rule

namespace Weighing

open Rule (cautions plain allWith)

/-- Whether the desired proxy has a latency if the current one has. -/
def IsWellChosen (weighing : Weighing) : Prop :=
  ∀ current ∈ weighing.current, current.delay.isStable = true →
    weighing.desired.delay.isStable = true

section Cautions

variable {weighing : Weighing} {between : List Rule}

theorem verdict_of_cautions (stable : weighing.desired.delay.isStable = true) :
    ∀ rule ∈ cautions, rule.verdict weighing = none := by
  rw [cautions, List.forall_mem_cons, List.forall_mem_singleton]
  constructor
  · simp [Rule.desiredUnstablePreferred, stable]
  · simp [Rule.desiredUnstable, stable]

/-- Where the desired proxy is well chosen, it has a latency by the time that
the cautions are asked, and they have nothing to say. -/
theorem IsWellChosen.settleBy_eq (wellChosen : weighing.IsWellChosen)
    (about : between ⊆ cautions) :
    weighing.settleBy (allWith between) = weighing.settleBy plain := by
  unfold allWith plain
  cases found : weighing.current with
  | none =>
    have speaks := Rule.noCurrent_speaks found
    rw [settleBy_cons_of_verdict speaks, settleBy_cons_of_verdict speaks]
  | some current =>
    have silent := Rule.noCurrent_silent found
    rw [settleBy_cons_of_silent silent, settleBy_cons_of_silent silent]
    cases stable : current.delay.isStable with
    | false =>
      have speaks := Rule.currentUnstable_speaks found stable
      rw [settleBy_cons_of_verdict speaks, settleBy_cons_of_verdict speaks]
    | true =>
      have silentToo := Rule.currentUnstable_silent found stable
      rw [settleBy_cons_of_silent silentToo, settleBy_cons_of_silent silentToo]
      apply settleBy_append_of_silent
      intro rule member
      exact verdict_of_cautions (wellChosen current found stable) rule
        (about member)

theorem IsWellChosen.paysOffBy_eq (wellChosen : weighing.IsWellChosen)
    (about : between ⊆ cautions) :
    weighing.paysOffBy (allWith between) = weighing.paysOffBy plain := by
  rw [paysOffBy, settleAmong, wellChosen.settleBy_eq about,
    paysOffBy, settleAmong]

theorem IsWellChosen.settle_name (wellChosen : weighing.IsWellChosen) :
    weighing.settle.2 ∈ plain.map Rule.name := by
  rw [settle, settleAmong, ← Rule.allWith_cautions,
    wellChosen.settleBy_eq (List.Subset.refl cautions)]
  cases settled : weighing.settleBy plain with
  | none => decide
  | some settling =>
    obtain ⟨rule, member, named, -⟩ := exists_rule_of_settleBy settled
    rw [Option.getD_some, ← named]
    exact List.mem_map_of_mem member

theorem exists_of_not_wellChosen (illChosen : ¬ weighing.IsWellChosen) :
    ∃ current, weighing.current = some current ∧ current.delay.isStable = true ∧
      weighing.desired.delay.isStable = false := by
  simpa [IsWellChosen] using illChosen

/-- Where the desired proxy is not well chosen, no rule says yes. -/
theorem verdict_ne_true (illChosen : ¬ weighing.IsWellChosen) :
    ∀ rule ∈ Rule.all, rule.verdict weighing ≠ some true := by
  obtain ⟨current, found, stable, unstable⟩ :=
    exists_of_not_wellChosen illChosen
  have missing := Delay.latency?_eq_none unstable
  simp only [Rule.all, List.forall_mem_cons]
  refine ⟨?_, ?_, ?_, ?_, ?_, ?_, List.forall_mem_nil _⟩
  · simp [Rule.noCurrent_silent found]
  · simp [Rule.currentUnstable_silent found stable]
  · simp [Rule.desiredUnstablePreferred]
  · simp [Rule.desiredUnstable, found, stable, unstable]
  · simp [Rule.improvement, missing]
  · simp [Rule.otherwise]

/-- The verdict on a move does not depend on the cautions. -/
theorem paysOffBy_allWith (about : between ⊆ cautions) (weighing : Weighing) :
    weighing.paysOffBy (allWith between) = weighing.paysOff := by
  rw [← paysOffBy_all, ← Rule.allWith_cautions]
  by_cases wellChosen : weighing.IsWellChosen
  · rw [wellChosen.paysOffBy_eq about,
      wellChosen.paysOffBy_eq (List.Subset.refl cautions)]
  · have never := verdict_ne_true wellChosen
    have among : allWith between ⊆ Rule.all := by
      rw [← Rule.allWith_cautions]
      intro rule member
      simp only [allWith, List.mem_cons, List.mem_append] at member ⊢
      exact member.imp_right (Or.imp_right (Or.imp_left (@about rule)))
    rw [paysOffBy_eq_false fun rule member => never rule (among member),
      Rule.allWith_cautions, paysOffBy_eq_false never]

end Cautions

section Verdict

variable {weighing : Weighing} {current : Proxy} {faster slower : Fin 32768}

theorem paysOffBy_plain_of_none (found : weighing.current = none) :
    weighing.paysOffBy plain = true :=
  paysOffBy_cons_of_verdict (Rule.noCurrent_speaks found)

theorem paysOffBy_plain_of_unstable (found : weighing.current = some current)
    (unstable : current.delay.isStable = false) :
    weighing.paysOffBy plain = true := by
  rw [plain, paysOffBy_cons_of_silent (Rule.noCurrent_silent found)]
  exact paysOffBy_cons_of_verdict (Rule.currentUnstable_speaks found unstable)

theorem paysOffBy_plain_of_stable (found : weighing.current = some current)
    (desiredStable : weighing.desired.delay = .stable faster)
    (currentStable : current.delay = .stable slower) :
    weighing.paysOffBy plain =
      decide (faster.val + weighing.minImprovement < slower.val) := by
  have stable : current.delay.isStable = true := by rw [currentStable]; rfl
  have weighed : Rule.improvement.verdict weighing =
      if faster.val + weighing.minImprovement < slower.val then some true
      else none := by
    simp only [Rule.improvement, found, currentStable, desiredStable,
      Delay.latency?, Option.bind_eq_bind, Option.bind_some, needed_lt_iff]
  rw [plain, paysOffBy_cons_of_silent (Rule.noCurrent_silent found),
    paysOffBy_cons_of_silent (Rule.currentUnstable_silent found stable)]
  by_cases gains : faster.val + weighing.minImprovement < slower.val
  · rw [if_pos gains] at weighed
    rw [paysOffBy_cons_of_verdict weighed, decide_eq_true gains]
  · rw [if_neg gains] at weighed
    rw [paysOffBy_cons_of_silent weighed, decide_eq_false gains]
    exact paysOffBy_cons_of_verdict rfl

/-- A move pays off exactly if there is no current proxy or the desired one
outdoes it. -/
theorem paysOff_iff :
    weighing.paysOff = true ↔ weighing.current = none ∨ ∃ current,
      weighing.current = some current ∧
        Outdoes weighing.minImprovement weighing.desired current := by
  by_cases wellChosen : weighing.IsWellChosen
  · rw [← paysOffBy_all, ← Rule.allWith_cautions,
      wellChosen.paysOffBy_eq (List.Subset.refl cautions)]
    cases found : weighing.current with
    | none => exact iff_of_true (paysOffBy_plain_of_none found) (.inl rfl)
    | some current =>
      simp only [reduceCtorEq, false_or, Option.some.injEq, exists_eq_left']
      cases stable : current.delay.isStable with
      | false =>
        exact iff_of_true (paysOffBy_plain_of_unstable found stable)
          (.inl stable)
      | true =>
        obtain ⟨slower, currentStable⟩ := Delay.exists_latency stable
        obtain ⟨faster, desiredStable⟩ :=
          Delay.exists_latency (wellChosen current found stable)
        rw [paysOffBy_plain_of_stable found desiredStable currentStable,
          decide_eq_true_eq, outdoes_iff desiredStable currentStable]
  · obtain ⟨current, found, stable, unstable⟩ :=
      exists_of_not_wellChosen wellChosen
    rw [← paysOffBy_all, paysOffBy_eq_false (verdict_ne_true wellChosen)]
    apply iff_of_false Bool.false_ne_true
    simp only [found, reduceCtorEq, false_or, Option.some.injEq,
      exists_eq_left']
    exact not_outdoes stable unstable

end Verdict

end Weighing

end Switchyard
