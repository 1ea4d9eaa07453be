import Switchyard.Proofs.Account

/-!
# The rest after a switch

A confirmed switch counts from the beginning of the evaluation that made it, and
a move away from a candidate is made only in an evaluation that begins when the
rest of the policy is over since then. So two such beginnings are apart by the
rest. The time from the confirmation of a switch to the next move away from a
candidate can be less: it lacks what the confirmation took longer in its
evaluation than the move in the later one.
-/

namespace Switchyard.Control

variable {Outside : Type}

section Latest

variable {log stretch earlier later : List Entry}
  {newer between older : List (List Entry)}

theorem latestSwitch?_append (former latter : List (List Entry)) :
    latestSwitch? (former ++ latter) =
      (latestSwitch? former).or (latestSwitch? latter) :=
  List.findSome?_append

/-- The latest switch before a stretch counts from no later than the stretch's
own evaluation. -/
theorem latestSwitch?_le (chronological : Chronological log)
    (split : stretchesOf log = newer ++ stretch :: older) {last began : Nat}
    {policy : Policy} (latest : latestSwitch? older = some last)
    (beginning : beginning? stretch = some (began, policy)) : last ≤ began := by
  obtain ⟨earlier, among, switched⟩ := List.exists_of_findSome?_eq_some latest
  obtain ⟨former, formerMember, rfl⟩ := exists_of_switchedAt? switched
  obtain ⟨latter, latterMember, rfl⟩ := exists_of_beginning? beginning
  exact (chronological.stretch split).2 earlier among former formerMember
    latter latterMember

/-- Whatever came between, the latest switch counts from no earlier than an
earlier one. -/
theorem le_latestSwitch? (chronological : Chronological log)
    (split : stretchesOf log = newer ++ later :: (between ++ earlier :: older))
    {began : Nat} (switched : switchedAt? earlier = some began) :
    ∃ last, latestSwitch? (between ++ earlier :: older) = some last ∧
      began ≤ last := by
  rw [latestSwitch?_append, latestSwitch?_cons, switched]
  cases latest : latestSwitch? between with
  | none => exact ⟨began, rfl, Nat.le_refl _⟩
  | some last =>
    obtain ⟨among, member, switchedAmong⟩ :=
      List.exists_of_findSome?_eq_some latest
    obtain ⟨first, second, rfl⟩ := List.append_of_mem member
    have cut : stretchesOf log =
        (newer ++ later :: first) ++ among :: (second ++ earlier :: older) := by
      simp [split]
    obtain ⟨former, formerMember, rfl⟩ := exists_of_switchedAt? switched
    obtain ⟨latter, latterMember, rfl⟩ := exists_of_switchedAt? switchedAmong
    exact ⟨_, rfl, (chronological.stretch cut).2 earlier (by simp) former
      formerMember latter latterMember⟩

end Latest

theorem cooldown_le_of_rested {policy : Policy} {elapsed : Nat}
    (rested : Decision.restRemaining? policy (some elapsed) = none) :
    policy.cooldown ≤ elapsed := by
  refine Nat.le_of_not_lt fun early => ?_
  rw [Decision.restRemaining?, Option.bind_some, if_pos early] at rested
  cases rested

/-- A stretch in which a move is made tells when its evaluation began, on which
policy, and which group was found; and away from a candidate the move is made
when the rest since the latest switch is over. -/
theorem Account.rested {timing : Timing} {last : Option Nat}
    {stretch : List Entry} (account : Account timing last stretch)
    {moment : Nat} {proxy : String}
    (moved : (moment, proxy) ∈ movesOf stretch) :
    ∃ began policy answer,
      Begins stretch began policy ∧ queried? stretch = some answer ∧
      (Decision.HoldsCandidate policy answer →
        ∀ latest, last = some latest → policy.cooldown ≤ began - latest) := by
  obtain ⟨began, policy, answer, plan, begins, found, decided, -⟩ :=
    account.of_move moved
  refine ⟨began, policy, answer, begins, found, fun holds latest lastFact => ?_⟩
  have rested := (Decision.justified_of_decide decided).rested holds
  rw [lastFact] at rested
  exact cooldown_le_of_rested rested

/-- Parties that answer as well as they can, except that the group is measured
at some moments only. The controller takes every move and shows it from then
on. -/
def compliant (policy : Policy) (measures : Nat → Bool) :
    Parties Group := fun request now group =>
  (match request with
    | .readPolicy => some (.ok policy)
    | .readStored => some (.ok policy)
    | .writePolicy _ => some (.ok ())
    | .recordStatus _ => some (.ok ())
    | .publish _ => some ()
    | .activeProfile => some none
    | .remember _ => some (.ok ())
    | .probe _ _ => if measures now then some (.finished (.ok ())) else none
    | .query _ _ => some (.ok group)
    | .apply _ _ => some (.ok true)
    | .pause _ => some (),
  match request with
    | .apply _ proxy => { group with selected := proxy }
    | _ => group)

def pairPolicy : Policy :=
  { Policy.initial with
    enabled := true, candidates := NameSet.ofList ["A", "B"] }

def pair (selected : String) (millis : Int) : Group :=
  ⟨"GLOBAL", selected, [⟨"A", "", .ofMillis millis⟩, ⟨"B", "", .ofMillis 100⟩]⟩

def Surroundings.ofPair : Surroundings Group :=
  ⟨pair "A" 300, 0, false, .withCapacity Bus.usualCapacity⟩

theorem sound_ofPair : Surroundings.ofPair.bus.Sound := Bus.sound_withCapacity _

/-- A run of two evaluations that begin thirty seconds apart, each of which
makes a move: the latencies change between them. The group is measured at some
moments only. -/
def twoMoves (measures : Nat → Bool) : Course Group :=
  (Course.start .usual .en .ofPair).play (compliant pairPolicy measures)
    (List.replicate 3 .step ++ [.pass (Duration.ofSeconds 10), .step, .step,
      .outside (pair "B" 10), .notice .policyChanged,
      .pass (Duration.ofSeconds 20)] ++ List.replicate 4 .step)

/-- What the last two stretches of such a run show, the second move among it. -/
theorem exists_last_two {measures : Nat → Bool} {confirmed : Nat}
    (shown : (stretchesOf (twoMoves measures).log).tail.head?.bind
      confirmedAt? = some confirmed ∧ (Duration.ofSeconds 30, "A") ∈
        movesOf ((stretchesOf (twoMoves measures).log).headD []) ∧
      beginning? ((stretchesOf (twoMoves measures).log).headD []) =
        some (Duration.ofSeconds 30, pairPolicy) ∧
      queried? ((stretchesOf (twoMoves measures).log).headD []) =
        some (pair "B" 10)) :
    ∃ later earlier older,
      stretchesOf (twoMoves measures).log = later :: earlier :: older ∧
      confirmedAt? earlier = some confirmed ∧
      (Duration.ofSeconds 30, "A") ∈ movesOf later ∧
      beginning? later = some (Duration.ofSeconds 30, pairPolicy) ∧
      queried? later = some (pair "B" 10) := by
  obtain ⟨later, rest, split⟩ := exists_stretchesOf (twoMoves measures).log
  rw [split] at shown
  obtain ⟨confirmedFact, laterFact⟩ := shown
  cases rest with
  | nil => cases confirmedFact
  | cons earlier older =>
    exact ⟨later, earlier, older, split, confirmedFact, laterFact⟩

section Runs

variable (parties : Parties Outside) (timing : Timing) (locale : Locale)
  {around : Surroundings Outside}

/-- In every run the loop remembers when the latest evaluation began in which a
poll showed a move that was taken. Where a move is made, its stretch tells when
the evaluation began, on which policy, and which group was found; and if the
selection was a candidate, the rest since the latest switch before was over when
the evaluation began. -/
theorem rest_over_before_moves (sound : around.bus.Sound)
    (moves : List (Course.Move Outside)) :
    let course := (Course.start timing locale around).play parties moves
    course.loop.lastSwitch = latestSwitch? (stretchesOf course.log) ∧
      ∀ newer stretch older,
        stretchesOf course.log = newer ++ stretch :: older →
        ∀ moment proxy, (moment, proxy) ∈ movesOf stretch →
          ∃ began policy answer, beginning? stretch = some (began, policy) ∧
            queried? stretch = some answer ∧
            (Decision.HoldsCandidate policy answer →
              ∀ last, latestSwitch? older = some last →
              last + policy.cooldown ≤ began) := by
  intro course
  have accounted := Course.accounted_play parties timing locale sound moves
  refine ⟨accounted.lastSwitch,
    fun newer stretch older split moment proxy moved => ?_⟩
  obtain ⟨began, policy, answer, begins, found, rested⟩ :=
    (accounted.account split).rested moved
  refine ⟨began, policy, answer, begins.beginning?_eq, found,
    fun holds last latest => ?_⟩
  have inOrder : last ≤ began :=
    latestSwitch?_le (Course.chronological_play parties timing locale sound
        moves) split latest
      begins.beginning?_eq
  have enough : policy.cooldown ≤ began - last := rested holds last latest
  omega

/-- The second move is made when the rest since the first one is over. -/
theorem rest_over_before_second_move :
    let course := twoMoves fun _ => true
    ∃ later older, stretchesOf course.log = later :: older ∧
      (Duration.ofSeconds 30, "A") ∈ movesOf later ∧
      beginning? later = some (Duration.ofSeconds 30, pairPolicy) ∧
      queried? later = some (pair "B" 10) ∧ latestSwitch? older = some 0 ∧
      0 + pairPolicy.cooldown ≤ Duration.ofSeconds 30 ∧
      course.loop.lastSwitch = latestSwitch? (later :: older) := by
  intro course
  obtain ⟨later, earlier, older, split, -, moved, beginning, found⟩ :=
    @exists_last_two (fun _ => true) 0 (by decide +kernel)
  have latest : latestSwitch? (stretchesOf course.log).tail = some 0 := by
    decide +kernel
  rw [split] at latest
  obtain ⟨remembered, moves⟩ :=
    rest_over_before_moves (compliant pairPolicy fun _ => true) .usual .en
      sound_ofPair _
  obtain ⟨began, policy, answer, beginningFact, foundFact, rested⟩ :=
    moves [] later (earlier :: older) split _ _ moved
  cases beginning.symm.trans beginningFact
  cases found.symm.trans foundFact
  exact ⟨later, earlier :: older, split, moved, beginning, found, latest,
    rested (by decide) 0 latest, split ▸ remembered⟩

/-- In every run, let a switch be confirmed and let a later evaluation move away
from a candidate. Then the rest passes between the beginnings of the two
evaluations. If the confirmation took no longer in its evaluation than the move
in the later one, the rest also passes between them. -/
theorem rest_passes_between_beginnings (sound : around.bus.Sound)
    (moves : List (Course.Move Outside)) :
    ∀ newer later between earlier older,
      stretchesOf ((Course.start timing locale around).play parties moves).log =
        newer ++ later :: (between ++ earlier :: older) →
      ∀ confirmed moment proxy, confirmedAt? earlier = some confirmed →
        (moment, proxy) ∈ movesOf later →
        ∃ began resumed policy answer, switchedAt? earlier = some began ∧
          beginning? later = some (resumed, policy) ∧
          queried? later = some answer ∧
          began ≤ confirmed ∧ confirmed ≤ resumed ∧ resumed ≤ moment ∧
          (Decision.HoldsCandidate policy answer →
            began + policy.cooldown ≤ resumed ∧
              (confirmed - began ≤ moment - resumed →
                confirmed + policy.cooldown ≤ moment)) := by
  intro newer later between earlier older split confirmed moment proxy
    confirmedFact moved
  have accounted := Course.accounted_play parties timing locale sound moves
  have chronological :=
    Course.chronological_play parties timing locale sound moves
  have cut :
      stretchesOf ((Course.start timing locale around).play parties moves).log =
      (newer ++ later :: between) ++ earlier :: older := by
    simp [split]
  obtain ⟨began, switched, toConfirmed⟩ :=
    (accounted.account cut).of_confirmed confirmedFact
      (chronological.stretch cut).1
  obtain ⟨resumed, policy, answer, begins, found, rested⟩ :=
    (accounted.account split).rested moved
  have toResumed : confirmed ≤ resumed := by
    obtain ⟨poll, pollMember, rfl, -⟩ := exists_of_confirmedAt? confirmedFact
    obtain ⟨reading, readingMember, rfl⟩ :=
      exists_of_beginning? begins.beginning?_eq
    exact (chronological.stretch split).2 earlier (by simp) poll pollMember
      reading readingMember
  have toMove : resumed ≤ moment := by
    obtain ⟨entry, member, rfl, group, asked⟩ := mem_movesOf.1 moved
    exact begins.le_moment (chronological.stretch split).1 member
      (by rw [asked]; rfl)
  refine ⟨began, resumed, policy, answer, switched, begins.beginning?_eq,
    found, toConfirmed, toResumed, toMove, fun holds => ?_⟩
  obtain ⟨last, latest, fromBegan⟩ :=
    le_latestSwitch? chronological split switched
  have enough : policy.cooldown ≤ resumed - last := rested holds last latest
  omega

/-- Where each evaluation makes its move at once, the moves are apart by the
rest. -/
theorem rest_passes_between_two_beginnings :
    let course := twoMoves fun _ => true
    ∃ later earlier older, stretchesOf course.log = later :: earlier :: older ∧
      confirmedAt? earlier = some 0 ∧
      (Duration.ofSeconds 30, "A") ∈ movesOf later ∧
      beginning? later = some (Duration.ofSeconds 30, pairPolicy) ∧
      queried? later = some (pair "B" 10) ∧
      ∃ began, switchedAt? earlier = some began ∧
        began + pairPolicy.cooldown ≤ Duration.ofSeconds 30 ∧
        0 + pairPolicy.cooldown ≤ Duration.ofSeconds 30 := by
  intro course
  obtain ⟨later, earlier, older, split, confirmed, moved, beginning, found⟩ :=
    @exists_last_two (fun _ => true) 0 (by decide +kernel)
  obtain ⟨began, resumed, policy, answer, switched, beginningFact, foundFact, -,
      -, -, rested⟩ :=
    rest_passes_between_beginnings (compliant pairPolicy fun _ => true) .usual
      .en sound_ofPair _ [] later [] earlier older split _ _ _ confirmed moved
  cases beginning.symm.trans beginningFact
  cases found.symm.trans foundFact
  obtain ⟨apart, dwelled⟩ := rested (by decide)
  have atOnce : 0 - began ≤ Duration.ofSeconds 30 - Duration.ofSeconds 30 :=
    by omega
  exact ⟨later, earlier, older, split, confirmed, moved, beginning, found,
    began, switched, apart, dwelled atOnce⟩

/-- The group is measured for ten seconds before the first move. The second move
comes twenty seconds after the first one was confirmed, although the rest is
thirty seconds long. -/
theorem move_before_rest_since_confirmation :
    let course := twoMoves fun now => Duration.ofSeconds 10 ≤ now
    ∃ later earlier older, stretchesOf course.log = later :: earlier :: older ∧
      confirmedAt? earlier = some (Duration.ofSeconds 10) ∧
      (Duration.ofSeconds 30, "A") ∈ movesOf later ∧
      beginning? later = some (Duration.ofSeconds 30, pairPolicy) ∧
      queried? later = some (pair "B" 10) ∧
      Decision.HoldsCandidate pairPolicy (pair "B" 10) ∧
      ¬ Duration.ofSeconds 10 + pairPolicy.cooldown ≤
        Duration.ofSeconds 30 := by
  intro course
  obtain ⟨later, earlier, older, split, confirmed, moved, beginning, found⟩ :=
    @exists_last_two (fun now => Duration.ofSeconds 10 ≤ now)
      (Duration.ofSeconds 10) (by decide +kernel)
  exact ⟨later, earlier, older, split, confirmed, moved, beginning, found,
    by decide, by decide⟩

end Runs

end Switchyard.Control
