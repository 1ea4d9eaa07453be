import Switchyard.Proofs.Chronicle
import Switchyard.Proofs.Stopping

/-!
# What ends a run, and what does not

Whatever the parties answer, a run ends for two reasons only: it was cancelled,
or somebody put a stop notice on the bus after the loop had subscribed. No error
ends it. An error that ends a cycle is reported once, by its message, and the
loop gets on to its next wait as long as its requests are answered, with results
or with errors.
-/

namespace Switchyard.Control

variable {Outside : Type}

section Turns

variable {parties : Parties Outside} {loop after : Loop}
  {around next : Surroundings Outside} {shown : List Occurrence}

/-- No turn adds a stop notice to what is unread. -/
theorem Outline.stop_of_unread
    (outline : Outline parties loop around after next shown)
    (serves : around.bus.Serves loop.receiver)
    (unread : .engineStopped ∈ next.bus.unread after.receiver) :
    .engineStopped ∈ around.bus.unread loop.receiver := by
  cases outline with
  | aside facts =>
    rw [facts.bus, facts.receiver] at unread
    exact unread
  | begins stage => exact unread
  | announces stage waiting receiver wakeups spoken =>
    rw [receiver] at unread
    have further :=
      (Bus.unread_publish_suffix serves .statusChanged).subset unread
    rcases List.mem_append.1 further with before | new
    · exact before
    · cases List.mem_singleton.1 new
  | leaves stage cancelled => exact unread
  | lags stage behind =>
    have same := serves.unread_moved_oldest behind
    rw [← same]
    exact unread
  | @hears deadline stage keepsUp skipped later notice split
      statuses relevant =>
    rw [Loop.receiver_afterWait, serves.unread_moved_past keepsUp split]
      at unread
    rw [split]
    exact List.mem_append_right _ (List.mem_cons_of_mem _ unread)
  | finds stage keepsUp statuses found receiver wakeups resting =>
    rw [receiver, serves.unread_moved_sent] at unread
    cases unread

/-- The loop stops at a stop notice that it finds unread. -/
theorem Outline.stop_of_ended
    (outline : Outline parties loop around after next shown)
    (ended : after.stage = .ended .stopped) :
    loop.stage = .ended .stopped ∨
      .engineStopped ∈ around.bus.unread loop.receiver := by
  cases outline with
  | aside facts =>
    rcases facts.ends ended with before | ⟨cancelled, -⟩
    · exact .inl before
    · cases cancelled
  | begins stage => cases ended
  | announces stage waiting receiver wakeups spoken =>
    cases waiting.symm.trans ended
  | leaves stage cancelled => cases ended
  | lags stage behind => cases ended
  | @hears deadline stage keepsUp skipped later notice split
      statuses relevant =>
    cases notice with
    | engineStopped =>
      rw [split]
      exact .inr (List.mem_append_right _ List.mem_cons_self)
    | _ => cases ended
  | finds stage keepsUp statuses found receiver wakeups resting =>
    rcases resting with rfl | opening
    · exact .inl ended
    · cases opening.symm.trans ended

end Turns

namespace Course

/-- Whether somebody has put a stop notice on the bus since the loop
subscribed. -/
def StopNoticed (course : Course Outside) : Prop :=
  ∃ entry ∈ course.log, entry.what = .noticed .engineStopped

/-- Whether the stop notices that the loop has read or can still read are in the
log. -/
structure StopsNoticed (course : Course Outside) : Prop where
  unread : .engineStopped ∈ course.around.bus.unread course.loop.receiver →
    course.StopNoticed
  ended : course.loop.stage = .ended .stopped → course.StopNoticed

theorem stopsNoticed_start (timing : Timing) (locale : Locale)
    {around : Surroundings Outside} (sound : around.bus.Sound) :
    (start timing locale around).StopsNoticed where
  unread unread := by
    have nothing := sound.unread_subscribe
    simp only [start, Loop.start] at unread
    rw [nothing] at unread
    cases unread
  ended ended := by cases ended

section Changes

variable {parties : Parties Outside} {course after : Course Outside}

theorem Change.stopNoticed (change : Change parties course after)
    (noticed : course.StopNoticed) : after.StopNoticed := by
  obtain ⟨later, log⟩ := change.log_grows
  obtain ⟨entry, member, what⟩ := noticed
  exact ⟨entry, log ▸ List.mem_append_left _ member, what⟩

theorem Change.stopsNoticed (change : Change parties course after)
    (sound : course.Sound) (stopsNoticed : course.StopsNoticed) :
    after.StopsNoticed := by
  have kept := change.stopNoticed
  cases change with
  | turned turn =>
    have outline := turn.outline
    refine ⟨fun unread => ?_, fun ended => ?_⟩
    · exact kept
        (stopsNoticed.unread (outline.stop_of_unread sound.serves unread))
    · rcases outline.stop_of_ended ended with before | unread
      · exact kept (stopsNoticed.ended before)
      · exact kept (stopsNoticed.unread unread)
  | passed stage keepsUp unread statusOnly =>
    refine ⟨fun stop => ?_, fun ended => kept (stopsNoticed.ended ended)⟩
    have left := sound.serves.unread_moved_next keepsUp unread
    simp only [withBus] at stop
    rw [left] at stop
    exact kept (stopsNoticed.unread (unread ▸ List.mem_cons_of_mem _ stop))
  | noticed notice =>
    refine ⟨fun unread => ?_, fun ended => kept (stopsNoticed.ended ended)⟩
    have further :=
      (Bus.unread_publish_suffix sound.serves notice).subset unread
    rcases List.mem_append.1 further with before | new
    · exact kept (stopsNoticed.unread before)
    · obtain rfl := List.mem_singleton.1 new
      exact ⟨⟨course.around.now, .noticed .engineStopped⟩,
        List.mem_append_right _ List.mem_cons_self, rfl⟩
  | cancelled =>
    exact ⟨fun unread => kept (stopsNoticed.unread unread),
      fun ended => kept (stopsNoticed.ended ended)⟩
  | quiet now outside own =>
    refine ⟨fun unread => ?_, fun ended => kept (stopsNoticed.ended ended)⟩
    simp only [Bus.unread_others own] at unread
    exact kept (stopsNoticed.unread unread)

/-- Where requests are answered, each step gets a running loop nearer to its
next wait. -/
theorem Sound.step_nearer (sound : course.Sound) (prompt : Prompt parties)
    (goingOn : course.around.isCancelled = false)
    (running : course.loop.stage.isOver = false)
    (busy : course.loop.stage.toWait ≠ 0) :
    (course.step parties).loop.stage.toWait < course.loop.stage.toWait ∧
      (course.step parties).loop.stage.isOver = false := by
  have outline := sound.outline_step parties
  generalize course.loop.occurrences parties course.around = shown at outline
  generalize (course.step parties).around = next at outline
  generalize (course.step parties).loop = after at outline ⊢
  cases outline with
  | aside facts =>
    refine ⟨facts.advances prompt goingOn running, ?_⟩
    cases stage : after.stage with
    | ended exit =>
      rcases facts.ends stage with before | ⟨-, cancelled⟩
      · rw [before] at running
        cases running
      · cases goingOn.symm.trans cancelled
    | _ => rfl
  | begins stage => exact ⟨by simp [stage, Stage.toWait], rfl⟩
  | announces stage waiting receiver wakeups spoken =>
    rw [waiting, stage]
    exact ⟨Nat.zero_lt_one, rfl⟩
  | leaves stage cancelled => simp [stage, Stage.toWait] at busy
  | lags stage behind => simp [stage, Stage.toWait] at busy
  | hears stage keepsUp split statuses relevant =>
    simp [stage, Stage.toWait] at busy
  | finds stage keepsUp statuses found receiver wakeups resting =>
    simp [stage, Stage.toWait] at busy

/-- Left to itself, a running loop whose requests are answered gets to a
wait. -/
theorem Sound.exists_wait (sound : course.Sound) (prompt : Prompt parties)
    (goingOn : course.around.isCancelled = false)
    (running : course.loop.stage.isOver = false) :
    ∃ count ≤ course.loop.stage.toWait, ∃ deadline,
      (course.own parties count).loop.stage = .waiting deadline := by
  induction far : course.loop.stage.toWait using
    Nat.strongRecOn generalizing course with
  | ind distance nearer =>
    by_cases waits : course.loop.stage.toWait = 0
    · obtain ⟨deadline, stage⟩ :
          ∃ deadline, course.loop.stage = .waiting deadline := by
        cases stage : course.loop.stage with
        | waiting deadline => exact ⟨deadline, rfl⟩
        | ended exit => simp [stage, Stage.isOver] at running
        | _ => simp [stage, Stage.toWait] at waits
      exact ⟨0, Nat.zero_le _, deadline, stage⟩
    · obtain ⟨approach, stillRunning⟩ :=
        sound.step_nearer prompt goingOn running waits
      have stepSound : (course.step parties).Sound := sound.play [.step]
      have stillGoingOn := (isCancelled_own parties sound 1).trans goingOn
      obtain ⟨count, atMost, deadline, stage⟩ :=
        nearer _ (far ▸ approach) stepSound stillGoingOn stillRunning rfl
      exact ⟨count + 1, by omega, deadline, stage⟩

end Changes

end Course

section Failures

variable {timing : Timing} {locale : Locale}

/-- Whether a cycle has announced one report, which tells of the error that the
cycle failed of and of no other. -/
def Reported (locale : Locale) (cycle : List Occurrence) : Prop :=
  ∃ report kept, reportOf cycle = announcement locale report kept ∧
    failuresOf cycle = report.failure?.toList

/-- Whether the loop has such a report of its last cycle still to announce. -/
def ToReport (loop : Loop) (isPending : Bool)
    (cycle : List Occurrence) : Prop :=
  ∃ report interval,
    loop.stage = .reporting (Loop.announce loop.locale report) interval ∧
    reportOf cycle =
      (if isPending then [.asked (.recordStatus (report.text loop.locale))]
        else []) ∧
    failuresOf cycle = report.failure?.toList

theorem failuresOf_of_comesTo {cycle : List Occurrence} {ending : Ending}
    (comesTo : ComesTo timing (conversation cycle) ending) :
    failuresOf cycle = ending.report.failure?.toList := by
  rw [← failuresOf_conversation, comesTo.failuresOf_eq, comesTo.failure?_report]

theorem Complete.reported_once {cycle : List Occurrence} {ending : Ending}
    (complete : Complete timing locale cycle ending) :
    Reported locale cycle := by
  obtain ⟨comesTo, kept, reported⟩ := complete
  exact ⟨ending.report, kept, reported, failuresOf_of_comesTo comesTo⟩

theorem forall_reported {cycles : List (List Occurrence)}
    {endings : List Ending}
    (complete : cycles.Forall₂ (Complete timing locale) endings) :
    ∀ cycle ∈ cycles, Reported locale cycle := by
  have both : cycles.Forall₂ (fun cycle ending =>
      Reported locale cycle ∧ Complete timing locale cycle ending) endings :=
    complete.imp fun _ _ finished => ⟨finished.reported_once, finished⟩
  exact ((List.forall₂_and_left _ _).1 both).1

/-- Whether all cycles but the last have reported what they failed of, and the
last one has too, or is to, or has not failed. -/
structure ReportedUpTo (loop : Loop) (isPending : Bool)
    (current : List Occurrence) (earlier : List (List Occurrence)) : Prop where
  last : Reported loop.locale current ∨ ToReport loop isPending current ∨
    Undecided current
  before : ∀ cycle ∈ earlier, Reported loop.locale cycle

variable {loop : Loop} {isPending : Bool} {announced : Option Nat}
  {current : List Occurrence} {earlier : List (List Occurrence)}
  {endings : List Ending}

theorem Settled.reportedUpTo
    (settled : Settled loop (current :: earlier) endings) :
    ReportedUpTo loop isPending current earlier := by
  have each := forall_reported settled.complete
  exact ⟨.inl (each current List.mem_cons_self),
    fun cycle member => each cycle (List.mem_cons_of_mem _ member)⟩

theorem Midway.reportedUpTo {evaluating : Nat}
    (midway : Midway loop evaluating (current :: earlier) endings) :
    ReportedUpTo loop isPending current earlier := by
  obtain ⟨last, others, same, undecided, complete⟩ := midway.last
  obtain ⟨rfl, rfl⟩ := List.cons.inj same
  exact ⟨.inr (.inr undecided), forall_reported complete⟩

theorem Stands.reportedUpTo
    (stands : Stands loop isPending announced (current :: earlier) endings) :
    ReportedUpTo loop isPending current earlier := by
  unfold Stands at stands
  split at stands
  · exact stands.reportedUpTo
  · exact stands.reportedUpTo
  · exact stands.reportedUpTo
  · next rest interval stage =>
    obtain ⟨last, others, ending, older, same, -, reporting, complete, -⟩ :=
      stands
    obtain ⟨rfl, rfl⟩ := List.cons.inj same
    rw [reporting.announces] at stage
    exact ⟨.inr (.inl ⟨ending.report, interval, stage, reporting.begun,
      failuresOf_of_comesTo reporting.comesTo⟩), forall_reported complete⟩
  · exact stands.1.reportedUpTo
  · exact stands.reportedUpTo
  · exact stands.elim Settled.reportedUpTo Midway.reportedUpTo

end Failures

section Runs

variable (parties : Parties Outside) (timing : Timing) (locale : Locale)
  {around : Surroundings Outside}

/-- Every run, whatever is answered in it, ends as cancelled only if it is
cancelled, and as stopped only if somebody has put a stop notice on the bus
since the loop subscribed. Otherwise it has not ended, and gets to its next wait
in a few steps as long as requests are answered. Each cycle that is over has
made one report, of the error that it failed of if it failed; the report of the
last cycle may still be under way. -/
theorem run_outlives_errors (sound : around.bus.Sound)
    (moves : List (Course.Move Outside)) :
    let course := (Course.start timing locale around).play parties moves
    (course.loop.exit? = some .cancelled → course.around.isCancelled = true) ∧
    (course.loop.exit? = some .stopped → course.StopNoticed) ∧
    (course.around.isCancelled = false → ¬ course.StopNoticed →
      course.loop.exit? = none ∧ (Prompt parties → ∃ count ≤ 4, ∃ deadline,
        (course.own parties count).loop.stage = .waiting deadline)) ∧
    ∀ current earlier, cyclesOf course.log = current :: earlier →
      (Reported locale current ∨ ToReport course.loop course.isPending current ∨
        Undecided current) ∧ ∀ cycle ∈ earlier, Reported locale cycle := by
  intro course
  have startSound := Course.sound_start timing locale sound
  have courseSound : course.Sound := startSound.play moves
  have stops : course.StopsNoticed := startSound.play_keeps Course.StopsNoticed
    (fun before change kept => change.stopsNoticed before kept)
    (Course.stopsNoticed_start timing locale sound) moves
  obtain ⟨chronicled, -, localeFact⟩ :=
    chronicled_play parties timing locale sound moves
  obtain ⟨endings, stands⟩ := chronicled.stands
  have ofCancelled : course.loop.exit? = some .cancelled →
      course.around.isCancelled = true :=
    fun ended =>
      Course.isCancelled_of_ended startSound rfl moves (Loop.exit?_eq.1 ended)
  have ofStopped : course.loop.exit? = some .stopped → course.StopNoticed :=
    fun ended => stops.ended (Loop.exit?_eq.1 ended)
  refine ⟨ofCancelled, ofStopped, fun goingOn unstopped => ?_,
    fun current earlier split => ?_⟩
  · have running : course.loop.exit? = none := by
      cases ended : course.loop.exit? with
      | none => rfl
      | some reason =>
        cases reason with
        | stopped => exact absurd (ofStopped ended) unstopped
        | cancelled => cases goingOn.symm.trans (ofCancelled ended)
    refine ⟨running, fun prompt => ?_⟩
    obtain ⟨count, atMost, deadline, waiting⟩ :=
      courseSound.exists_wait prompt goingOn (Loop.isOver_of_exit? running)
    exact ⟨count, Nat.le_trans atMost course.loop.stage.toWait_le,
      deadline, waiting⟩
  · rw [split] at stands
    rw [← localeFact]
    exact ⟨stands.reportedUpTo.last, stands.reportedUpTo.before⟩

/-- Parties that answer every request with an error where they can, but let the
policy be read. -/
def erring (policy : Policy) : Parties Unit := fun request _ _ =>
  (some (match request with
    | .readPolicy => .ok policy
    | .readStored => .error (.other "unread")
    | .writePolicy _ => .error (.other "unwritten")
    | .recordStatus _ => .error (.other "unkept")
    | .publish _ => ()
    | .activeProfile => none
    | .remember _ => .error (.other "unkept")
    | .probe _ _ => .finished (.error (.network "down"))
    | .query _ _ => .error (.network "down")
    | .apply _ _ => .error (.network "down")
    | .pause _ => ()), ())

theorem Course.othersNotices_ne_zero {course : Course Outside}
    (noticed : course.StopNoticed) :
    course.othersNotices ≠ 0 := by
  obtain ⟨entry, member, what⟩ := noticed
  have counted : 0 < course.othersNotices :=
    List.countP_pos_iff.2 ⟨entry, member, by rw [what]; rfl⟩
  exact Nat.ne_of_gt counted

/-- A second evaluation after one in which everything failed, down to keeping
the status. -/
theorem run_outlives_errors_everywhere :
    let policy : Policy :=
      { Policy.initial with
        enabled := true, candidates := NameSet.ofList ["A"] }
    let course :=
      (Course.start .usual .en (.fresh Bus.usualCapacity)).play (erring policy)
        [.step, .step, .step, .step, .pass (Duration.ofMillis 1000),
          .step, .step, .step]
    course.loop.exit? = none ∧
      (∃ count ≤ 4, ∃ deadline,
        (course.own (erring policy) count).loop.stage = .waiting deadline) ∧
      ∃ current earlier, cyclesOf course.log = [current, earlier] ∧
        failuresOf earlier = ["Network error: down"] ∧
        Reported .en earlier := by
  intro policy course
  obtain ⟨-, -, endures, reported⟩ :=
    run_outlives_errors (erring policy) .usual .en
      (sound_fresh Bus.usualCapacity)
      [.step, .step, .step, .step, .pass (Duration.ofMillis 1000),
        .step, .step, .step]
  have prompt : Prompt (erring policy) := fun _ _ _ => rfl
  have unstopped : ¬ course.StopNoticed := fun noticed =>
    Course.othersNotices_ne_zero noticed (by decide +kernel)
  obtain ⟨running, reaches⟩ := endures (by decide +kernel) unstopped
  have failures : (cyclesOf course.log).map failuresOf =
      [[], ["Network error: down"]] := by
    decide +kernel
  obtain ⟨current, cycles, split, -, cyclesFact⟩ :=
    List.map_eq_cons_iff.1 failures
  obtain ⟨earlier, rfl, failed⟩ := List.map_eq_singleton_iff.1 cyclesFact
  exact ⟨running, reaches prompt, current, earlier, split, failed,
    (reported current [earlier] split).2 earlier List.mem_cons_self⟩

end Runs

end Switchyard.Control
