import Switchyard.Proofs.Chronicle
import Switchyard.Proofs.Stopping

/-!
# After a cancellation

A cancellation is not heeded at once everywhere: a policy that is being read is
read, and a report that is due is made. But nothing else is begun. From wherever
it comes, the loop makes at most three more steps that are not held up by a
request to the store, announces at most one status, makes no call of the
controller and begins no cycle, and it ends as cancelled, whatever lies on the
bus.
-/

namespace Switchyard.Control

variable {Outside : Type}

namespace Stage

/-- How many statuses a cancelled loop may still announce. -/
def dueReports : Stage → Nat
  | .reading => 1
  | .reporting _ _ => 1
  | _ => 0

/-- How many stages a cancelled loop has at most before its end. -/
def toEnd : Stage → Nat
  | .reading => 3
  | .reporting _ _ => 2
  | .ended _ => 0
  | _ => 1

/-- Whether the loop is at a request that a cancellation does not cut off. -/
def isUnguarded : Stage → Bool
  | .reading => true
  | .reporting _ _ => true
  | _ => false

theorem dueReports_le (stage : Stage) : stage.dueReports ≤ 1 := by
  cases stage <;> simp [dueReports]

theorem toEnd_le (stage : Stage) : stage.toEnd ≤ 3 := by
  cases stage <;> simp [toEnd]

theorem ended_of_toEnd {stage : Stage} (atEnd : stage.toEnd = 0)
    (unstopped : stage ≠ .ended .stopped) : stage = .ended .cancelled := by
  cases stage with
  | ended exit =>
    cases exit with
    | stopped => exact absurd rfl unstopped
    | cancelled => rfl
  | _ => simp [toEnd] at atEnd

end Stage

theorem news_suffix (isPending : Bool) (shown : List Occurrence) :
    news isPending shown <:+ shown := by
  unfold news
  split
  · exact List.suffix_cons _ _
  · exact List.suffix_refl _

/-- Whether an occurrence begins nothing: no cycle and no call of the
controller. -/
def Occurrence.beginsNothing (occurrence : Occurrence) : Bool :=
  !occurrence.isBeginning && occurrence.call?.isNone

/-- How a turn of a cancelled loop leads to its end. -/
inductive Nears (parties : Parties Outside) (loop after : Loop)
    (goesOn : Bool) : Prop where
  | nearer (onward : goesOn = true)
    (less : after.stage.toEnd < loop.stage.toEnd)
  | ended (before : loop.stage.toEnd = 0) (atEnd : after.stage.toEnd = 0)
  /-- The loop waits for an answer, and the cancellation does not cut that
  off. -/
  | delayed (withheld : ¬ Prompt parties) (waits : goesOn = false)
    (unguarded : after.stage.isUnguarded = true)
    (same : after.stage.toEnd = loop.stage.toEnd)

/-- What holds of a turn of a cancelled loop. -/
structure Winding (parties : Parties Outside) (loop after : Loop)
    (goesOn : Bool) (shown : List Occurrence) : Prop where
  begins : ∀ occurrence ∈ shown, occurrence.beginsNothing = true
  announces : shown.countP Occurrence.isAnnouncement + after.stage.dueReports ≤
    loop.stage.dueReports
  unstopped : after.stage = .ended .stopped → loop.stage = .ended .stopped
  nears : Nears parties loop after goesOn

section Turns

variable {parties : Parties Outside} {loop after : Loop}
  {around next : Surroundings Outside} {goesOn : Bool} {shown : List Occurrence}

theorem Turn.winding (turn : Turn parties loop around after next goesOn shown)
    (cancelled : around.isCancelled = true) :
    Winding parties loop after goesOn shown := by
  cases turn with
  | stays stage =>
    have atEnd : loop.stage.toEnd = 0 := by rw [stage]; rfl
    exact ⟨List.forall_mem_nil _, Nat.le_of_eq (Nat.zero_add _), id,
      .ended atEnd atEnd⟩
  | refused stage _ =>
    refine ⟨List.forall_mem_nil _, Nat.zero_le _, by simp, .nearer rfl ?_⟩
    rw [stage]
    exact Nat.zero_lt_one
  | begins stage goingOn => cases cancelled.symm.trans goingOn
  | asksPolicy stage withheld outside =>
    exact ⟨List.forall_mem_singleton.2 rfl, Nat.le_of_eq (Nat.zero_add _), id,
      .delayed withheld rfl (by rw [stage]; rfl) rfl⟩
  | reads stage read outside =>
    have begins : ∀ occurrence ∈ [Occurrence.asked .readPolicy,
          .answered .readPolicy read],
        occurrence.beginsNothing = true := fun occurrence member => by
      rcases List.mem_pair.1 member with rfl | rfl <;> rfl
    rcases loop.stage_afterReading around.now read with
      ⟨_, _, _, stageAfter⟩ | ⟨_, _, stageAfter⟩
    · refine ⟨begins, ?_, fun ended => ?_, .nearer rfl ?_⟩
      · rw [stageAfter]
        exact Nat.zero_le _
      · cases stageAfter.symm.trans ended
      · rw [stageAfter, stage]
        simp [Stage.toEnd]
    · refine ⟨begins, ?_, fun ended => ?_, .nearer rfl ?_⟩
      · rw [stageAfter, stage]
        exact Nat.le_refl _
      · cases stageAfter.symm.trans ended
      · rw [stageAfter, stage]
        exact Nat.lt_succ_self 2
  | breaksOff stage _ =>
    refine ⟨List.forall_mem_nil _, Nat.zero_le _, by simp, .nearer rfl ?_⟩
    rw [stage]
    exact Nat.zero_lt_one
  | evaluates stage goingOn withheld reaches outside =>
    cases cancelled.symm.trans goingOn
  | concludes stage goingOn reaches outside =>
    cases cancelled.symm.trans goingOn
  | records stage withheld outside =>
    refine ⟨List.forall_mem_singleton.2 rfl,
      ?_, by simp, .delayed withheld rfl rfl ?_⟩
    · rw [stage]
      exact Nat.le_of_eq (Nat.zero_add _)
    · rw [stage]
  | @announces interval report stage kept outside =>
    obtain ⟨deadline, stageAfter⟩ := loop.stage_afterReport around.now interval
    refine ⟨?_, ?_, fun ended => ?_, .nearer rfl ?_⟩
    · simp [Occurrence.beginsNothing, Occurrence.isBeginning, Occurrence.call?,
        Request.isCall]
    · rw [stageAfter, stage]
      exact Nat.le_refl _
    · cases stageAfter.symm.trans ended
    · rw [stageAfter, stage]
      exact Nat.lt_succ_self 1
  | leaves stage _ =>
    refine ⟨List.forall_mem_singleton.2 rfl, Nat.zero_le _,
      by simp, .nearer rfl ?_⟩
    rw [stage]
    exact Nat.zero_lt_one
  | lags stage goingOn behind => cases cancelled.symm.trans goingOn
  | hears stage goingOn keepsUp unread statuses relevant =>
    cases cancelled.symm.trans goingOn
  | rests stage goingOn keepsUp statuses early =>
    cases cancelled.symm.trans goingOn
  | timesOut stage goingOn keepsUp statuses due =>
    cases cancelled.symm.trans goingOn

end Turns

namespace Course

def Move.isStep : Move Outside → Bool
  | .step => true
  | _ => false

def stepsOf (moves : List (Move Outside)) : Nat := moves.countP Move.isStep

/-- Whether the loop waits for an answer that a cancellation does not cut
off. -/
def isDelayed (course : Course Outside) : Bool :=
  course.isPending && course.loop.stage.isUnguarded

/-- How many of the steps among some moves leave the loop waiting for such an
answer. -/
def delays (parties : Parties Outside) :
    List (Move Outside) → Course Outside → Nat
  | [], _ => 0
  | move :: moves, course =>
    (if move.isStep && (course.move parties move).isDelayed then 1 else 0) +
      delays parties moves (course.move parties move)

/-- Whether a cancelled course began nothing since its log was as before, and
will not announce more than one status. -/
structure WindsDown (before : List Entry) (course : Course Outside) : Prop where
  cancelled : course.around.isCancelled = true
  unstopped : course.loop.stage ≠ .ended .stopped
  log : ∃ later, course.log = before ++ later ∧
    (∀ entry ∈ later, entry.what.beginsNothing = true) ∧
    countOf Occurrence.isAnnouncement later + course.loop.stage.dueReports ≤ 1

section Changes

variable {parties : Parties Outside} {course after : Course Outside}
  {before : List Entry}

/-- What is neither said nor begun leaves a cancelled course winding down. -/
theorem WindsDown.note (winds : course.WindsDown before)
    {shown : List Occurrence}
    (begins : ∀ occurrence ∈ shown, occurrence.beginsNothing = true)
    (announces : shown.countP Occurrence.isAnnouncement +
      after.loop.stage.dueReports ≤ course.loop.stage.dueReports)
    (cancelled : after.around.isCancelled = true)
    (unstopped : after.loop.stage ≠ .ended .stopped)
    (log : after.log = course.log ++ shown.map (Entry.mk course.around.now)) :
    after.WindsDown before := by
  obtain ⟨later, logBefore, beginsBefore, announcesBefore⟩ := winds.log
  refine ⟨cancelled, unstopped, later ++ shown.map (Entry.mk course.around.now),
    ?_, ?_, ?_⟩
  · rw [log, logBefore, List.append_assoc]
  · intro entry member
    rcases List.mem_append.1 member with inLater | inShown
    · exact beginsBefore entry inLater
    · obtain ⟨occurrence, shows, rfl⟩ := List.mem_map.1 inShown
      exact begins occurrence shows
  · rw [countOf_append, countOf_map]
    omega

theorem Change.windsDown (change : Change parties course after)
    (winds : course.WindsDown before) : after.WindsDown before := by
  cases change with
  | @turned loop around goesOn shown turn =>
    have winding := turn.winding winds.cancelled
    have fewer :
        (news course.isPending shown).countP Occurrence.isAnnouncement ≤
        shown.countP Occurrence.isAnnouncement :=
      (news_suffix course.isPending shown).sublist.countP_le
    refine winds.note (fun occurrence member =>
        winding.begins occurrence (mem_of_mem_news member))
      (Nat.le_trans (Nat.add_le_add_right fewer _) winding.announces)
      (turn.outline.isCancelled_eq.trans winds.cancelled)
      (fun ended => winds.unstopped (winding.unstopped ended)) rfl
  | passed stage keepsUp unread statusOnly =>
    exact ⟨winds.cancelled, winds.unstopped, winds.log⟩
  | noticed notice =>
    exact winds.note (List.forall_mem_singleton.2 rfl)
      (Nat.le_of_eq (Nat.zero_add _)) winds.cancelled winds.unstopped rfl
  | cancelled =>
    exact winds.note (List.forall_mem_singleton.2 rfl)
      (Nat.le_of_eq (Nat.zero_add _)) rfl winds.unstopped rfl
  | quiet now outside own => exact ⟨winds.cancelled, winds.unstopped, winds.log⟩

end Changes

section Ends

variable {parties : Parties Outside} {course : Course Outside}

theorem loop_move_of_other {move : Move Outside} (other : move.isStep = false) :
    (course.move parties move).loop = course.loop := by
  cases move with
  | step => cases other
  | passOver =>
    simp only [Course.move, passOver]
    split
    · split <;> rfl
    · rfl
  | receivers places =>
    simp only [Course.move]
    split <;> rfl
  | _ => rfl

theorem Change.isCancelled {after : Course Outside}
    (change : Change parties course after)
    (cancelled : course.around.isCancelled = true) :
    after.around.isCancelled = true := by
  cases change with
  | turned turn => exact turn.outline.isCancelled_eq.trans cancelled
  | cancelled => rfl
  | _ => exact cancelled

/-- A step of a cancelled loop. -/
theorem Sound.nears_step (sound : course.Sound) (parties : Parties Outside)
    (cancelled : course.around.isCancelled = true) :
    Nears parties course.loop (course.step parties).loop
      (course.loop.step parties course.around).goesOn :=
  ((turn_step sound.proper sound.serves).winding cancelled).nears

theorem Sound.move (sound : course.Sound) (move : Move Outside) :
    (course.move parties move).Sound :=
  (change_move parties sound move).sound sound

/-- A cancelled loop that has ended stays at its end. -/
theorem toEnd_play_of_atEnd (sound : course.Sound)
    (cancelled : course.around.isCancelled = true)
    (atEnd : course.loop.stage.toEnd = 0) (moves : List (Move Outside)) :
    (course.play parties moves).loop.stage.toEnd = 0 := by
  refine (sound.play_keeps (fun reached => reached.around.isCancelled = true ∧
    reached.loop.stage.toEnd = 0) ?_ ⟨cancelled, atEnd⟩ moves).2
  rintro before after soundBefore change ⟨cancelledBefore, atEndBefore⟩
  refine ⟨change.isCancelled cancelledBefore, ?_⟩
  cases change with
  | turned turn =>
    cases (turn.winding cancelledBefore).nears with
    | nearer onward less => omega
    | ended before atEnd => exact atEnd
    | delayed withheld waits unguarded same => exact same.trans atEndBefore
  | _ => exact atEndBefore

theorem isPending_step (parties : Parties Outside) (course : Course Outside) :
    (course.step parties).isPending =
      !(course.loop.step parties course.around).goesOn := rfl

/-- A step that is not left waiting gets a cancelled loop nearer to its end,
unless it is there. -/
theorem Sound.toEnd_step (sound : course.Sound) (parties : Parties Outside)
    (cancelled : course.around.isCancelled = true) :
    (course.step parties).loop.stage.toEnd = 0 ∨
      (course.step parties).loop.stage.toEnd + 1 ≤
        course.loop.stage.toEnd + if (course.step parties).isDelayed then 1
          else 0 := by
  cases sound.nears_step parties cancelled with
  | nearer onward less => exact .inr (Nat.le_add_right_of_le less)
  | ended before atEnd => exact .inl atEnd
  | delayed withheld waits unguarded same =>
    have delayed : (course.step parties).isDelayed = true := by
      rw [isDelayed, isPending_step, waits, unguarded]
      rfl
    rw [delayed, same]
    exact .inr (Nat.le_refl _)

theorem isDelayed_step_of_prompt (prompt : Prompt parties)
    (sound : course.Sound) (cancelled : course.around.isCancelled = true) :
    (course.step parties).isDelayed = false := by
  cases sound.nears_step parties cancelled with
  | nearer onward less => rw [isDelayed, isPending_step, onward]; rfl
  | ended before atEnd =>
    have guarded : (course.step parties).loop.stage.isUnguarded = false := by
      cases stage : (course.step parties).loop.stage with
      | reading => simp [stage, Stage.toEnd] at atEnd
      | reporting rest interval => simp [stage, Stage.toEnd] at atEnd
      | _ => rfl
    rw [isDelayed, guarded, Bool.and_false]
  | delayed withheld waits unguarded same => exact absurd prompt withheld

/-- Steps that are not left waiting lead a cancelled loop to its end. -/
theorem toEnd_play (sound : course.Sound)
    (cancelled : course.around.isCancelled = true)
    (moves : List (Move Outside)) :
    (course.play parties moves).loop.stage.toEnd = 0 ∨
      (course.play parties moves).loop.stage.toEnd + stepsOf moves ≤
        course.loop.stage.toEnd + delays parties moves course := by
  induction moves generalizing course with
  | nil => exact .inr (Nat.le_refl _)
  | cons move moves movesFact =>
    have moveSound : (course.move parties move).Sound := sound.move move
    have moveCancelled := (change_move parties sound move).isCancelled cancelled
    rcases movesFact moveSound moveCancelled with atEnd | within
    · exact .inl atEnd
    have played : course.play parties (move :: moves) =
        (course.move parties move).play parties moves := rfl
    have steps : stepsOf (move :: moves) = stepsOf moves + if move.isStep then 1
        else 0 :=
      List.countP_cons
    rw [played, steps, delays]
    cases move with
    | step =>
      rcases sound.toEnd_step parties cancelled with atEnd | nearer
      · exact .inl (toEnd_play_of_atEnd moveSound moveCancelled atEnd moves)
      · have stepped : course.move parties .step = course.step parties := rfl
        rw [stepped] at within ⊢
        simp only [Move.isStep, Bool.true_and, if_true]
        omega
    | _ =>
      rw [loop_move_of_other rfl] at within
      simp only [Move.isStep, Bool.false_and, Bool.false_eq_true, if_false]
      omega

/-- Where every request is answered at once, nothing is held up. -/
theorem delays_of_prompt (prompt : Prompt parties) (sound : course.Sound)
    (cancelled : course.around.isCancelled = true)
    (moves : List (Move Outside)) :
    delays parties moves course = 0 := by
  induction moves generalizing course with
  | nil => rfl
  | cons move moves movesFact =>
    have moveSound : (course.move parties move).Sound := sound.move move
    have moveCancelled := (change_move parties sound move).isCancelled cancelled
    rw [delays, movesFact moveSound moveCancelled]
    cases move with
    | step =>
      have stepped : course.move parties .step = course.step parties := rfl
      rw [stepped, isDelayed_step_of_prompt prompt sound cancelled]
      rfl
    | _ => rfl

end Ends

end Course

section Runs

variable (parties : Parties Outside) (timing : Timing) (locale : Locale)
  {around : Surroundings Outside}

/-- Wherever a run is cancelled before it has ended, and whatever others do
then: the loop begins no further cycle and makes no further call of the
controller, it announces one more status at most, and it never ends as stopped.
It has ended as cancelled once it has made three steps besides those that leave
it waiting for the policy or for a status to be kept; where requests are
answered at once, there are none of these. -/
theorem cancellation_ends_run (sound : around.bus.Sound)
    (former latter : List (Course.Move Outside)) :
    let course := (Course.start timing locale around).play parties former
    let cancelled := course.move parties .cancel
    let final := cancelled.play parties latter
    course.loop.exit? = none →
      (∃ later, final.log = cancelled.log ++ later ∧
        (∀ entry ∈ later, entry.what.isBeginning = false) ∧
        callsOf (later.map Entry.what) = [] ∧
        countOf Occurrence.isAnnouncement later ≤ 1) ∧
      final.loop.exit? ≠ some .stopped ∧
      (3 + Course.delays parties latter cancelled ≤ Course.stepsOf latter →
        final.loop.exit? = some .cancelled) ∧
      (Prompt parties → Course.delays parties latter cancelled = 0) := by
  intro course cancelled final running
  have startSound := Course.sound_start timing locale sound
  have courseSound : course.Sound := startSound.play former
  have cancelledSound : cancelled.Sound := courseSound.move .cancel
  have unstopped : cancelled.loop.stage ≠ .ended .stopped := fun stopped => by
    cases running.symm.trans (Loop.exit?_eq.2 stopped)
  have due := cancelled.loop.stage.dueReports_le
  have begun : cancelled.WindsDown cancelled.log :=
    ⟨rfl, unstopped, [], (List.append_nil _).symm, List.forall_mem_nil _,
      Nat.le_trans (Nat.le_of_eq (Nat.zero_add _)) due⟩
  have winds : final.WindsDown cancelled.log := cancelledSound.play_keeps
    (Course.WindsDown cancelled.log)
    (fun _ change kept => change.windsDown kept) begun latter
  obtain ⟨later, log, begins, announces⟩ := winds.log
  have split : ∀ entry ∈ later,
      entry.what.isBeginning = false ∧ entry.what.call? = none :=
    fun entry member => by
      simpa [Occurrence.beginsNothing] using begins entry member
  refine ⟨⟨later, log, fun entry member => (split entry member).1, ?_, ?_⟩,
    ?_, ?_, ?_⟩
  · exact List.filterMap_eq_nil_iff.2 (List.forall_mem_map.2 fun entry member =>
      (split entry member).2)
  · exact Nat.le_of_add_right_le announces
  · exact fun stopped => winds.unstopped (Loop.exit?_eq.1 stopped)
  · intro enough
    have near := cancelled.loop.stage.toEnd_le
    have nearing : final.loop.stage.toEnd = 0 ∨
        final.loop.stage.toEnd + Course.stepsOf latter ≤
          cancelled.loop.stage.toEnd + Course.delays parties latter cancelled :=
      Course.toEnd_play cancelledSound rfl latter
    have atEnd : final.loop.stage.toEnd = 0 := by omega
    exact Loop.exit?_eq.2 (Stage.ended_of_toEnd atEnd winds.unstopped)
  · exact fun prompt => Course.delays_of_prompt prompt cancelledSound rfl latter

/-- A run that is cancelled while the policy is read, with a stop notice before
it on the bus. -/
theorem cancellation_ends_run_before_stop :
    let course := (Course.start .usual .en (.fresh Bus.usualCapacity)).play
      (obliging .initial default) [.step, .notice .engineStopped]
    let final := (course.move (obliging .initial default) .cancel).play
      (obliging .initial default) [.step, .step, .step]
    course.loop.stage.isUnguarded = true ∧
      course.around.bus.unread course.loop.receiver = [.engineStopped] ∧
      final.loop.exit? = some .cancelled ∧
      ∃ later, final.log =
        (course.move (obliging .initial default) .cancel).log ++ later ∧
        callsOf (later.map Entry.what) = [] ∧
        countOf Occurrence.isAnnouncement later ≤ 1 := by
  intro course final
  obtain ⟨⟨later, log, -, calls, announces⟩, -, ends, unhindered⟩ :=
    cancellation_ends_run (obliging .initial default) .usual .en
      (sound_fresh Bus.usualCapacity) [.step, .notice .engineStopped]
      [.step, .step, .step] (by decide +kernel)
  have prompt := unhindered (prompt_obliging _ _)
  exact ⟨by decide +kernel, by decide +kernel,
    ends (by rw [prompt]; exact Nat.le_refl 3), later, log, calls, announces⟩

end Runs

end Switchyard.Control
