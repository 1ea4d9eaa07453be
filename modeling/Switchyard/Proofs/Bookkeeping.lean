import Switchyard.Proofs.Chronicle

/-!
# The loop's bookkeeping

The tally of a run balances at the end of every cycle: the cycles are those that
wakes led to and the first one; the evaluations are those that came to a verdict
and those that failed; and every cycle was an evaluation, or had nothing to do,
or could not read the policy. An evaluation that a cancellation cuts off counts
as a cycle and as an evaluation, and leaves no outcome.
-/

namespace Switchyard.Control

variable {Outside : Type}

def wakeupsOf (tally : Tally) : Nat :=
  tally.wakeupsByEvent + tally.wakeupsByTimeout

/-- The cycles and the wakes of a tally. -/
def paceOf (tally : Tally) : Nat × Nat := (tally.cycles, wakeupsOf tally)

theorem wakeupsOf_countWakeup (tally : Tally) (byEvent : Bool) :
    wakeupsOf (tally.countWakeup byEvent) = wakeupsOf tally + 1 := by
  cases byEvent with
  | true => exact Nat.succ_add _ _
  | false => rfl

namespace Loop

theorem paceOf_afterReading (loop : Loop) (now : Nat)
    (read : Except StoreError Policy) :
    paceOf (loop.afterReading now read).tally = paceOf loop.tally := by
  cases read with
  | error error => rfl
  | ok policy =>
    cases idle : idleReport? policy with
    | some report => rw [afterReading_idle idle]; rfl
    | none => rw [afterReading_busy idle]; rfl

theorem paceOf_afterEvaluation (loop : Loop) (policy : Policy) (began : Nat)
    (result : Except ControllerError Evaluation) :
    paceOf (loop.afterEvaluation policy began result).tally =
      paceOf loop.tally := by
  rcases result with error | ⟨_ | _ | _, report⟩
  all_goals rfl

theorem tally_afterReport (loop : Loop) (now : Nat) (interval : Option Nat) :
    (loop.afterReport now interval).tally = loop.tally := by
  cases interval <;> rfl

/-- Whether the loop has begun as many cycles as it has been woken to, and the
first one. Before a cycle begins there is one less. -/
def InStep (loop : Loop) : Prop :=
  match loop.stage with
  | .opening => loop.tally.cycles = wakeupsOf loop.tally
  | .ended .cancelled =>
    loop.tally.cycles = wakeupsOf loop.tally ∨
      loop.tally.cycles = wakeupsOf loop.tally + 1
  | _ => loop.tally.cycles = wakeupsOf loop.tally + 1

theorem InStep.of_pace {loop after : Loop}
    (inStep : loop.tally.cycles = wakeupsOf loop.tally + 1)
    (pace : paceOf after.tally = paceOf loop.tally) :
    after.tally.cycles = wakeupsOf after.tally + 1 := by
  have cycles : after.tally.cycles = loop.tally.cycles := congrArg Prod.fst pace
  have wakeups : wakeupsOf after.tally = wakeupsOf loop.tally :=
    congrArg Prod.snd pace
  rw [cycles, wakeups, inStep]

/-- A wake leads to the next cycle, which has not begun. -/
theorem InStep.wakes {loop : Loop}
    (inStep : loop.tally.cycles = wakeupsOf loop.tally + 1) (byEvent : Bool) :
    InStep { loop with
      tally := loop.tally.countWakeup byEvent, stage := .opening } := by
  have cycles : (loop.tally.countWakeup byEvent).cycles =
      loop.tally.cycles := by
    cases byEvent <;> rfl
  change (loop.tally.countWakeup byEvent).cycles =
    wakeupsOf (loop.tally.countWakeup byEvent)
  rw [cycles, wakeupsOf_countWakeup, inStep]

end Loop

section Turns

variable {parties : Parties Outside} {loop after : Loop}
  {around next : Surroundings Outside} {goesOn : Bool} {shown : List Occurrence}

theorem Turn.inStep (turn : Turn parties loop around after next goesOn shown)
    (inStep : loop.InStep) : after.InStep := by
  cases turn with
  | stays stage => exact inStep
  | refused stage cancelled =>
    rw [Loop.InStep, stage] at inStep
    exact .inl inStep
  | begins stage goingOn =>
    rw [Loop.InStep, stage] at inStep
    exact congrArg (· + 1) inStep
  | asksPolicy stage withheld outside => exact inStep
  | reads stage read outside =>
    rw [Loop.InStep, stage] at inStep
    have further :=
      Loop.InStep.of_pace inStep (loop.paceOf_afterReading around.now read)
    rcases loop.stage_afterReading around.now read with
      ⟨_, _, _, stageAfter⟩ | ⟨_, _, stageAfter⟩
    · rw [Loop.InStep, stageAfter]
      exact further
    · rw [Loop.InStep, stageAfter]
      exact further
  | breaksOff stage cancelled =>
    rw [Loop.InStep, stage] at inStep
    exact .inr inStep
  | evaluates stage goingOn withheld reaches outside =>
    rw [Loop.InStep, stage] at inStep
    exact inStep
  | @concludes policy began rest stage goingOn exchanges result
      reaches outside =>
    rw [Loop.InStep, stage] at inStep
    obtain ⟨_, _, stageAfter⟩ := loop.stage_afterEvaluation policy began result
    rw [Loop.InStep, stageAfter]
    exact Loop.InStep.of_pace inStep
      (loop.paceOf_afterEvaluation policy began result)
  | records stage withheld outside =>
    rw [Loop.InStep, stage] at inStep
    exact inStep
  | @announces interval report stage kept outside =>
    rw [Loop.InStep, stage] at inStep
    obtain ⟨_, stageAfter⟩ := loop.stage_afterReport around.now interval
    rw [Loop.InStep, stageAfter, loop.tally_afterReport]
    exact inStep
  | leaves stage cancelled =>
    rw [Loop.InStep, stage] at inStep
    exact .inr inStep
  | lags stage goingOn behind =>
    rw [Loop.InStep, stage] at inStep
    exact Loop.InStep.wakes inStep true
  | @hears deadline stage goingOn keepsUp skipped later notice unread
      statuses relevant =>
    rw [Loop.InStep, stage] at inStep
    cases notice with
    | engineStopped => exact inStep
    | _ => exact Loop.InStep.wakes inStep true
  | rests stage goingOn keepsUp statuses early => exact inStep
  | timesOut stage goingOn keepsUp statuses due =>
    rw [Loop.InStep, stage] at inStep
    exact Loop.InStep.wakes inStep false

end Turns

theorem Course.Change.inStep {parties : Parties Outside}
    {course after : Course Outside} (change : Change parties course after)
    (inStep : course.loop.InStep) : after.loop.InStep := by
  cases change with
  | turned turn => exact turn.inStep inStep
  | _ => exact inStep

namespace Counted

variable {tally : Tally} {endings : List Ending} {begun evaluating : Nat}

/-- Cycles are evaluations, or had nothing to do, or could not read the
policy. -/
theorem cycles_eq (counted : Counted tally endings begun evaluating) :
    tally.cycles + evaluating =
      tally.evaluations + endings.countP Ending.isIdle + endings.countP
        Ending.isUnread + begun := by
  have cycles := counted.cycles
  have evaluations := counted.evaluations
  have kinds := Ending.length_eq_countP endings
  omega

/-- Evaluations came to a verdict, or failed, or are not over. -/
theorem evaluations_eq (counted : Counted tally endings begun evaluating) :
    tally.evaluations + endings.countP Ending.isUnread =
      tally.switches + tally.skips + tally.transientFailures +
        tally.unexpectedErrors + evaluating := by
  have outcomes := Ending.countP_isEvaluated endings
  rw [← counted.switches, ← counted.skips, ← counted.transientFailures,
    ← counted.unexpectedErrors] at outcomes
  have evaluations := counted.evaluations
  omega

theorem countP_isUnread_le (counted : Counted tally endings begun evaluating) :
    endings.countP Ending.isUnread ≤ tally.unexpectedErrors := by
  rw [counted.unexpectedErrors]
  refine List.countP_mono_left fun ending _ isUnread => ?_
  cases ending with
  | unread error => rfl
  | _ => cases isUnread

/-- When every cycle is over, the evaluations are those that came to a verdict
and those among the errors that were not met while the policy was read. -/
theorem outcomes_eq (counted : Counted tally endings 0 0) :
    tally.evaluations = tally.switches + tally.skips + tally.transientFailures +
      (tally.unexpectedErrors - endings.countP Ending.isUnread) := by
  have evaluations := counted.evaluations_eq
  have unread := counted.countP_isUnread_le
  omega

theorem switches_le (counted : Counted tally endings begun evaluating) :
    tally.switches ≤ tally.evaluations := by
  have switched : endings.countP (·.verdict? == some .switched) ≤
      endings.countP Ending.isEvaluated := by
    refine List.countP_mono_left fun ending _ isSwitched => ?_
    cases ending with
    | evaluated policy result => rfl
    | _ => cases isSwitched
  rw [counted.switches, counted.evaluations]
  exact Nat.le_add_right_of_le switched

theorem evaluations_le (counted : Counted tally endings begun evaluating)
    (within : evaluating ≤ begun) : tally.evaluations ≤ tally.cycles := by
  have evaluated : endings.countP Ending.isEvaluated ≤ endings.length :=
    List.countP_le_length
  rw [counted.evaluations, counted.cycles]
  exact Nat.add_le_add evaluated within

end Counted

theorem Stands.counted {loop : Loop} {isPending : Bool} {announced : Option Nat}
    {cycles : List (List Occurrence)} {endings : List Ending}
    (stands : Stands loop isPending announced cycles endings) :
    ∃ begun evaluating,
      evaluating ≤ begun ∧ Counted loop.tally endings begun evaluating := by
  unfold Stands at stands
  split at stands
  · exact ⟨0, 0, Nat.le_refl _, stands.counted⟩
  · exact ⟨1, 0, Nat.zero_le _, stands.counted⟩
  · exact ⟨1, 1, Nat.le_refl _, stands.counted⟩
  · obtain ⟨-, -, -, -, -, -, -, -, counted⟩ := stands
    exact ⟨0, 0, Nat.le_refl _, counted⟩
  · exact ⟨0, 0, Nat.le_refl _, stands.1.counted⟩
  · exact ⟨0, 0, Nat.le_refl _, stands.counted⟩
  · rcases stands with settled | midway
    · exact ⟨0, 0, Nat.le_refl _, settled.counted⟩
    · exact ⟨1, 1, Nat.le_refl _, midway.counted⟩

namespace Course

variable (parties : Parties Outside) {course : Course Outside}
  {policy : Policy} {began : Nat}
  {rest : Work (Except ControllerError Evaluation)}

/-- A cancellation cuts an evaluation off without a word. -/
theorem step_of_cut_off
    (stage : course.loop.stage = .evaluating policy began rest)
    (cancelled : course.around.isCancelled = true) :
    course.step parties =
      course.turned { course.loop with stage := .ended .cancelled }
        course.around true [] := by
  simp only [step, Loop.step, Loop.occurrences, stage, cancelled, if_true]

theorem log_step_of_cut_off
    (stage : course.loop.stage = .evaluating policy began rest)
    (cancelled : course.around.isCancelled = true) :
    (course.step parties).log = course.log := by
  rw [step_of_cut_off parties stage cancelled]
  simp only [turned, note, news_nil, List.map_nil, List.append_nil]

end Course

section Runs

variable (parties : Parties Outside) (timing : Timing) (locale : Locale)
  {around : Surroundings Outside}

theorem inStep_play (sound : around.bus.Sound)
    (moves : List (Course.Move Outside)) :
    ((Course.start timing locale around).play parties moves).loop.InStep := by
  have startSound := Course.sound_start timing locale sound
  have start : (Course.start timing locale around).loop.InStep := rfl
  exact startSound.play_keeps (·.loop.InStep)
    (fun _ change kept => change.inStep kept) start moves

/-- In every run, the switches are among the evaluations and these among the
cycles. Whenever a cycle has just been reported, and when a stop notice has
ended the run, every cycle has its ending, and the tally balances. A cancelled
evaluation ends the run at the next step with the tally that it has then: that
of the cycles before it, with one more cycle and one more evaluation. -/
theorem tally_balances (sound : around.bus.Sound)
    (moves : List (Course.Move Outside)) :
    let course := (Course.start timing locale around).play parties moves
    let tally := course.loop.tally
    (tally.switches ≤ tally.evaluations ∧ tally.evaluations ≤ tally.cycles) ∧
    ((∃ deadline, course.loop.stage = .waiting deadline) ∨
      course.loop.stage = .ended .stopped →
      ∃ endings,
        (cyclesOf course.log).Forall₂ (Complete timing locale) endings ∧
        Counted tally endings 0 0 ∧
        tally.cycles = 1 + tally.wakeupsByEvent + tally.wakeupsByTimeout ∧
        endings.countP Ending.isUnread ≤ tally.unexpectedErrors ∧
        tally.evaluations = tally.switches + tally.skips +
          tally.transientFailures +
          (tally.unexpectedErrors - endings.countP Ending.isUnread) ∧
        tally.cycles =
          tally.evaluations + endings.countP Ending.isIdle + endings.countP
            Ending.isUnread) ∧
    ∀ policy began rest, course.loop.stage = .evaluating policy began rest →
      course.around.isCancelled = true →
      (course.step parties).loop.stage = .ended .cancelled ∧
        (course.step parties).loop.tally = tally ∧
        cyclesOf (course.step parties).log = cyclesOf course.log ∧
        tally.cycles = 1 + tally.wakeupsByEvent + tally.wakeupsByTimeout ∧
        ∃ current earlier endings, cyclesOf course.log = current :: earlier ∧
          earlier.Forall₂ (Complete timing locale) endings ∧
          Counted tally endings 1 1 := by
  intro course tally
  obtain ⟨chronicled, timingFact, localeFact⟩ :=
    chronicled_play parties timing locale sound moves
  obtain ⟨endings, stands⟩ := chronicled.stands
  have inStep : course.loop.InStep :=
    inStep_play parties timing locale sound moves
  refine ⟨?_, fun between => ?_, fun policy began rest stage cancelled => ?_⟩
  · obtain ⟨begun, evaluating, within, counted⟩ := stands.counted
    exact ⟨counted.switches_le, counted.evaluations_le within⟩
  · have settled : Settled course.loop (cyclesOf course.log) endings ∧
        tally.cycles = tally.wakeupsByEvent + tally.wakeupsByTimeout + 1 := by
      rcases between with ⟨deadline, stage⟩ | stage
      · rw [Stands, stage] at stands
        rw [Loop.InStep, stage] at inStep
        exact ⟨stands.1, inStep⟩
      · rw [Stands, stage] at stands
        rw [Loop.InStep, stage] at inStep
        exact ⟨stands, inStep⟩
    obtain ⟨⟨-, complete, counted : Counted tally endings 0 0⟩, paced⟩ :=
      settled
    rw [timingFact, localeFact] at complete
    have pacing : tally.cycles = 1 + tally.wakeupsByEvent +
      tally.wakeupsByTimeout := by omega
    exact ⟨endings, complete, counted, pacing, counted.countP_isUnread_le,
      counted.outcomes_eq, counted.cycles_eq⟩
  · have stepped := Course.step_of_cut_off parties stage cancelled
    have sameLog := Course.log_step_of_cut_off parties stage cancelled
    rw [Stands, stage] at stands
    rw [Loop.InStep, stage] at inStep
    have paced : tally.cycles =
      tally.wakeupsByEvent + tally.wakeupsByTimeout + 1 := inStep
    obtain ⟨-, ⟨current, earlier, cycles, -, complete⟩, counted⟩ := stands
    rw [timingFact, localeFact] at complete
    rw [sameLog, stepped]
    exact ⟨rfl, rfl,
      rfl, by omega, current, earlier, endings, cycles, complete, counted⟩

/-- After a cycle in which a move was asked for that never showed up, the next
evaluation is cut off. -/
theorem tally_balances_when_cut_off :
    let policy : Policy :=
      { Policy.initial with
        enabled := true, candidates := NameSet.ofList ["A"] }
    let group : Group :=
      ⟨"GLOBAL", "B", [⟨"A", "", .stable 50⟩, ⟨"B", "", .stable 500⟩]⟩
    let waiting := (Course.start .usual .en (.fresh Bus.usualCapacity)).play
      (obliging policy group) [.step, .step, .step, .step]
    let cut := (Course.start .usual .en (.fresh Bus.usualCapacity)).play
      (obliging policy group) [.step, .step, .step, .step,
        .notice .policyChanged, .step, .step, .step, .cancel]
    waiting.loop.tally = ⟨1, 1, 0, 0, 1, 0, 0, 0⟩ ∧
      (∃ endings, (cyclesOf waiting.log).Forall₂ (Complete .usual .en) endings ∧
        Counted waiting.loop.tally endings 0 0) ∧
      cut.loop.tally = ⟨2, 2, 0, 0, 1, 0, 1, 0⟩ ∧
      (cut.step (obliging policy group)).loop.tally = cut.loop.tally ∧
      (cut.step (obliging policy group)).loop.stage = .ended .cancelled ∧
      ∃ current earlier endings, cyclesOf cut.log = current :: earlier ∧
        earlier.Forall₂ (Complete .usual .en) endings ∧
        Counted cut.loop.tally endings 1 1 := by
  intro policy group waiting cut
  obtain ⟨-, balanced, -⟩ := tally_balances (obliging policy group) .usual .en
    (sound_fresh Bus.usualCapacity) [.step, .step, .step, .step]
  obtain ⟨-, -, cutOff⟩ := tally_balances (obliging policy group) .usual .en
    (sound_fresh Bus.usualCapacity)
    [.step, .step, .step, .step, .notice .policyChanged, .step, .step,
      .step, .cancel]
  have waits : waiting.loop.stage = .waiting (some (Duration.ofMillis 1000)) :=
    Stage.eq_of_deadline? (by decide +kernel)
  obtain ⟨endings, complete, counted, -⟩ := balanced (.inl ⟨_, waits⟩)
  obtain ⟨_, _, _, evaluating⟩ : ∃ policy began rest,
      cut.loop.stage = .evaluating policy began rest :=
    Stage.exists_of_isEvaluating (by decide +kernel)
  obtain ⟨ended, tally, -, -, last⟩ :=
    cutOff _ _ _ evaluating (by decide +kernel)
  exact ⟨by decide +kernel, ⟨endings, complete, counted⟩,
    by decide +kernel, tally, ended, last⟩

end Runs

end Switchyard.Control
