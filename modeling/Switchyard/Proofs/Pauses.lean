import Switchyard.Proofs.Chronicle

/-!
# The pause after a cycle

A wish for a retry lives from the end of a cycle to its report and no longer, so
it never gets into another cycle. How long the loop waits after a report is
settled by what was said in the cycle that was reported: the loop waits for a
notice only where the policy leaves nothing to do, looks again soon where the
cycle failed or left something open, and otherwise takes the interval of the
policy within the bounds of the timing.
-/

namespace Switchyard.Control

variable {Outside : Type}

section Standing

variable {loop : Loop} {isPending : Bool} {announced : Option Nat}
  {cycles : List (List Occurrence)} {endings : List Ending}

/-- There is no wish for a retry but in a report. -/
theorem Stands.retry_eq_none
    (stands : Stands loop isPending announced cycles endings)
    (elsewhere : ∀ rest interval, loop.stage ≠ .reporting rest interval) :
    loop.retry = none := by
  unfold Stands at stands
  split at stands
  · exact stands.retry
  · exact stands.retry
  · exact stands.retry
  · next rest interval stage => exact absurd stage (elsewhere rest interval)
  · exact stands.1.retry
  · exact stands.retry
  · exact stands.elim Settled.retry Midway.retry

/-- A loop that waits has reported its last cycle, and its deadline is that of
the cycle's ending. -/
theorem Stands.of_waiting
    (stands : Stands loop isPending announced cycles endings)
    {deadline : Option Nat} (stage : loop.stage = .waiting deadline) :
    ∃ current earlier ending older reported, cycles = current :: earlier ∧
      endings = ending :: older ∧ announced = some reported ∧
      Complete loop.timing loop.locale current ending ∧
      deadline = (ending.rest loop.timing).map (reported + ·) := by
  rw [Stands, stage] at stands
  obtain ⟨⟨-, complete, -⟩, ending, older, reported, rfl, announcedFact,
    deadlineFact⟩ := stands
  cases complete with
  | @cons current _ earlier _ last _ =>
    exact ⟨current, earlier, ending, older, reported, rfl, rfl, announcedFact,
      last, deadlineFact⟩

end Standing

section Runs

variable (parties : Parties Outside) (timing : Timing) (locale : Locale)
  {around : Surroundings Outside}

/-- In every run, the loop holds no wish for a retry while it does not report,
so neither at the beginning of a cycle nor in a wait. Whenever it waits, it has
announced the ending of its last cycle, and it waits until the rest of that
ending has passed since the announcement. What was said in that cycle settles
the rest, whatever was said in the cycles before. -/
theorem pause_settled_by_last_cycle (sound : around.bus.Sound)
    (moves : List (Course.Move Outside)) :
    let course := (Course.start timing locale around).play parties moves
    ((∀ rest interval, course.loop.stage ≠ .reporting rest interval) →
      course.loop.retry = none) ∧
    ∀ deadline, course.loop.stage = .waiting deadline →
      ∃ current earlier ending reported,
        cyclesOf course.log = current :: earlier ∧
        ComesTo timing (conversation current) ending ∧
        announcedAt? course.log = some reported ∧
        deadline = (ending.rest timing).map (reported + ·) ∧
        ending.rest timing = restAfter timing (conversation current) := by
  intro course
  obtain ⟨chronicled, timingFact, -⟩ :=
    chronicled_play parties timing locale sound moves
  obtain ⟨endings, stands⟩ := chronicled.stands
  refine ⟨stands.retry_eq_none, fun deadline stage => ?_⟩
  obtain ⟨current, earlier, ending, older, reported, cycles, -,
    announced, complete, deadlineFact⟩ := stands.of_waiting stage
  rw [timingFact] at complete deadlineFact
  exact ⟨current, earlier, ending, reported, cycles, complete.comesTo,
    announced, deadlineFact, complete.comesTo.rest_eq⟩

/-- Parties whose store can be read as long as what is outside says so;
everything else they do is obliging. -/
def readable (policy : Policy) : Parties Bool := fun request now isReadable =>
  match request with
  | .readPolicy =>
    (some (if isReadable then .ok policy else .error (.other "unread")),
      isReadable)
  | request => ((obliging policy default request now ()).1, isReadable)

def Surroundings.unreadable : Surroundings Bool :=
  ⟨false, 0, false, .withCapacity Bus.usualCapacity⟩

theorem sound_unreadable : Surroundings.unreadable.bus.Sound :=
  Bus.sound_withCapacity _

/-- A cycle fails, and its wait is cut short by a notice. The next cycle finds
the policy, which leaves nothing to do: the loop waits for a notice only. -/
theorem pause_settled_after_cut_short :
    let course := (Course.start .usual .en .unreadable).play (readable .initial)
      [.step, .step, .step, .notice .policyChanged, .outside true, .step,
        .step, .step, .step]
    (cyclesOf course.log).map (restAfter .usual ∘ conversation) =
        [none, some (Duration.ofMillis 1000)] ∧
      course.loop.retry = none ∧ course.loop.stage = .waiting none ∧
      ∃ current earlier ending reported,
        cyclesOf course.log = current :: earlier ∧
        ComesTo .usual (conversation current) ending ∧
        announcedAt? course.log = some reported ∧
        none = (ending.rest .usual).map (reported + ·) ∧
        ending.rest .usual = restAfter .usual (conversation current) := by
  intro course
  have stage : course.loop.stage = .waiting none :=
    Stage.eq_of_deadline? (by decide +kernel)
  obtain ⟨unwished, settled⟩ :=
    pause_settled_by_last_cycle (readable .initial) .usual .en sound_unreadable
    [.step, .step, .step, .notice .policyChanged, .outside true, .step,
      .step, .step, .step]
  have elsewhere : ∀ rest interval,
    course.loop.stage ≠ .reporting rest interval := by simp [stage]
  exact ⟨by decide +kernel, unwished elsewhere, stage, settled none stage⟩

end Runs

end Switchyard.Control
