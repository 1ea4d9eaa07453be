import Switchyard.Proofs.Backlog
import Switchyard.Proofs.Overrun

/-!
# Stop notices on their way

A stop notice lies on the bus behind the notices that were put there before it,
and what is put there later does not delay it. So the loop reads it after as
many waits as there are relevant notices ahead of it, and ends, unless a lag
comes first: then the notice may have been pushed out.
-/

namespace Switchyard.Control

variable {Outside : Type}

/-- What becomes of a stop notice on the bus: the run is over, or the loop's
receiver is behind, or the notice lies among the unread ones. No more than a
number of cycles are left to begin. -/
inductive Loop.StopPending (left : Nat) (loop : Loop)
    (around : Surroundings Outside) : Prop where
  | ended {exit : Exit} (stage : loop.stage = .ended exit)
    (reason : exit = .cancelled → around.isCancelled = true)
  | lost (behind : around.bus.IsBehind loop.receiver)
    (room : loop.stage.isOpening.toNat ≤ left)
  | queued {ahead later : List Notice}
    (keepsUp : ¬ around.bus.IsBehind loop.receiver)
    (unread : around.bus.unread loop.receiver =
      ahead ++ .engineStopped :: later)
    (room : loop.stage.isOpening.toNat +
      (ahead.countP fun notice => !notice.isStatusOnly) ≤ left)

section Turns

variable {parties : Parties Outside} {loop after : Loop}
  {around next : Surroundings Outside} {shown : List Occurrence} {left : Nat}

theorem Loop.StopPending.room (pending : loop.StopPending left around)
    (running : loop.stage.isOver = false) :
    loop.stage.isOpening.toNat ≤ left := by
  cases pending with
  | ended ended reason => simp [ended, Stage.isOver] at running
  | lost behind room => exact room
  | queued keepsUp unread room => exact Nat.le_trans (Nat.le_add_right _ _) room

theorem Loop.StopPending.publish (pending : loop.StopPending left around)
    (serves : around.bus.Serves loop.receiver) {notice : Notice}
    (bus : next.bus = around.bus.publish notice)
    (receiver : after.receiver = loop.receiver)
    (stage : after.stage.isOpening = loop.stage.isOpening)
    (isOver : ∀ {exit}, loop.stage = .ended exit → after.stage = .ended exit ∧
      next.isCancelled = around.isCancelled) :
    after.StopPending left next := by
  cases pending with
  | ended ended reason =>
    obtain ⟨endedAfter, sameCancellation⟩ := isOver ended
    exact .ended endedAfter fun cancelled =>
      sameCancellation.trans (reason cancelled)
  | lost behind room =>
    refine .lost ?_ (by rw [stage]; exact room)
    rw [bus, receiver]
    exact behind.publish serves.sound notice
  | @queued ahead later keepsUp unread room =>
    by_cases behind : (around.bus.publish notice).IsBehind loop.receiver
    · refine .lost (by rw [bus, receiver]; exact behind) ?_
      rw [stage]
      exact Nat.le_trans (Nat.le_add_right _ _) room
    · have further : next.bus.unread after.receiver =
          ahead ++ .engineStopped :: (later ++ [notice]) := by
        rw [bus, receiver, Bus.unread_publish serves notice behind, unread,
          List.append_assoc]
        rfl
      exact .queued (by rw [bus, receiver]; exact behind) further
        (by rw [stage]; exact room)

theorem hears_of_stopQueued {skipped rest ahead later : List Notice}
    {notice : Notice}
    (split : skipped ++ notice :: rest = ahead ++ .engineStopped :: later)
    (statuses : ∀ passed ∈ skipped, passed.isStatusOnly = true)
    (relevant : notice.isStatusOnly = false) :
    notice = .engineStopped ∨
      ∃ nearer, rest = nearer ++ .engineStopped :: later ∧
      (ahead.countP fun notice => !notice.isStatusOnly) =
        (nearer.countP fun notice => !notice.isStatusOnly) + 1 := by
  rcases List.append_eq_append_iff.1 split with
    ⟨beyond, aheadFact, restFact⟩ | ⟨between, skippedFact, stopFact⟩
  · cases beyond with
    | nil => exact .inl (List.cons.inj restFact).1
    | cons first nearer =>
      obtain ⟨rfl, rfl⟩ := List.cons.inj restFact
      refine .inr ⟨nearer, rfl, ?_⟩
      have none : (skipped.countP fun notice => !notice.isStatusOnly) = 0 :=
        List.countP_eq_zero.2 fun passed member => by
          simp [statuses passed member]
      rw [aheadFact, List.countP_append, none, Nat.zero_add,
        List.countP_cons_of_pos]
      simp [relevant]
  · cases between with
    | nil => exact .inl (List.cons.inj stopFact).1.symm
    | cons first between =>
      obtain ⟨rfl, -⟩ := List.cons.inj stopFact
      cases statuses .engineStopped (by simp [skippedFact])

theorem Loop.StopPending.aside (pending : loop.StopPending left around)
    (facts : Aside parties loop around after next shown) :
    after.StopPending left next := by
  have closed := Stage.isOpening_eq_false facts.notOpening
  cases pending with
  | ended ended reason =>
    have endedAfter := (facts.stays (by rw [ended]; rfl)).trans ended
    exact .ended endedAfter fun cancelled =>
      facts.isCancelled.trans (reason cancelled)
  | lost behind room =>
    rw [← facts.bus, ← facts.receiver] at behind
    exact .lost behind (by simp [closed])
  | queued keepsUp unread room =>
    rw [← facts.bus, ← facts.receiver] at keepsUp unread
    refine .queued keepsUp unread ?_
    rw [closed]
    exact Nat.le_trans (Nat.add_le_add_right (Nat.zero_le _) _) room

/-- A cycle that begins is one of those that are left. -/
theorem Loop.StopPending.begins (pending : loop.StopPending left around)
    (stage : loop.stage = .opening) :
    ∃ further, left = 1 + further ∧
      Loop.StopPending further { loop with
          tally := loop.tally.countCycle, stage := .reading }
        around := by
  have room := pending.room (by rw [stage]; rfl)
  have atLeastOne : 1 ≤ left := by simpa [stage, Stage.isOpening] using room
  obtain ⟨further, rfl⟩ := Nat.exists_eq_add_of_le atLeastOne
  refine ⟨further, rfl, ?_⟩
  cases pending with
  | ended ended reason => cases stage.symm.trans ended
  | lost behind room => exact .lost behind (Nat.zero_le _)
  | queued keepsUp unread room =>
    refine .queued keepsUp unread ?_
    simp only [stage, Stage.isOpening, Bool.toNat_true, Bool.toNat_false]
      at room ⊢
    omega

/-- A notice that ends a wait is the stop notice, or makes room for the cycle
that it brings. -/
theorem Loop.StopPending.hears (pending : loop.StopPending left around)
    (serves : around.bus.Serves loop.receiver) {deadline : Option Nat}
    (stage : loop.stage = .waiting deadline)
    (placed : ¬ around.bus.IsBehind loop.receiver)
    {skipped rest : List Notice} {notice : Notice}
    (unread : around.bus.unread loop.receiver = skipped ++ notice :: rest)
    (statuses : ∀ passed ∈ skipped, passed.isStatusOnly = true)
    (relevant : notice.isStatusOnly = false) :
    (loop.afterWait (.event notice)).StopPending left
      { around with
        bus := around.bus.moved loop.receiver
          (around.bus.place loop.receiver + skipped.length + 1) } := by
  cases pending with
  | ended ended reason => cases stage.symm.trans ended
  | lost behind room => exact absurd behind placed
  | queued keepsUp queue room =>
    by_cases isStop : notice = .engineStopped
    · subst isStop
      exact .ended rfl (by simp)
    · have reached : around.bus.oldest ≤ around.bus.place loop.receiver :=
        Nat.le_of_not_lt placed
      have passed := serves.unread_moved_past placed unread
      obtain ⟨nearer, restFact, counted⟩ :=
        (hears_of_stopQueued (unread.symm.trans queue) statuses
          relevant).resolve_left isStop
      have goesOn : loop.afterWait (.event notice) =
          { loop with
            tally := loop.tally.countWakeup true, stage := .opening } := by
        cases notice <;> first | rfl | exact absurd rfl isStop
      rw [goesOn]
      refine .queued (serves.keepsUp_moved (by omega))
        (passed.trans restFact) ?_
      simp only [stage, Stage.isOpening, Bool.toNat_true, Bool.toNat_false]
        at room ⊢
      omega

/-- As long as no wait ends with a lag, a stop notice comes nearer with every
wait and is read in the end; and no look finds nothing. -/
theorem Outline.stopPending
    (outline : Outline parties loop around after next shown)
    (serves : around.bus.Serves loop.receiver)
    (pending : loop.StopPending left around)
    (keepsUp : shown.countP Occurrence.isLag = 0) :
    (∃ further, left = shown.countP Occurrence.isBeginning + further ∧
      after.StopPending further next) ∧
    ∀ occurrence ∈ shown, occurrence.foundNothing = false := by
  cases outline with
  | aside facts =>
    rw [countP_of_spoken ignoresRequests_isBeginning facts.spoken]
    exact ⟨⟨left, (Nat.zero_add _).symm, pending.aside facts⟩,
      fun occurrence member => foundNothing_of_isSpoken (facts.spoken _ member)⟩
  | begins stage =>
    exact ⟨pending.begins stage, by simp [Occurrence.foundNothing]⟩
  | announces stage waiting receiver wakeups spoken =>
    rw [countP_of_spoken ignoresRequests_isBeginning spoken]
    refine ⟨⟨left, (Nat.zero_add _).symm, ?_⟩,
      fun occurrence member => foundNothing_of_isSpoken (spoken _ member)⟩
    refine pending.publish serves rfl receiver (by rw [stage, waiting]; rfl)
      fun ended => ?_
    cases stage.symm.trans ended
  | leaves stage cancelled =>
    exact ⟨⟨left, (Nat.zero_add _).symm, .ended rfl fun _ => cancelled⟩,
      by simp [Occurrence.foundNothing]⟩
  | lags stage behind => cases keepsUp
  | hears stage placed unread statuses relevant =>
    have pendingAfter :=
      pending.hears serves stage placed unread statuses relevant
    exact ⟨⟨left, (Nat.zero_add _).symm, pendingAfter⟩,
      by simp [Occurrence.foundNothing]⟩
  | finds stage placed statuses found receiver wakeups resting =>
    -- The stop notice is unread and is no status, so there is something to
    -- find.
    cases pending with
    | ended ended reason => cases stage.symm.trans ended
    | lost behind room => exact absurd behind placed
    | queued keepsUp queue room =>
      cases statuses .engineStopped (by simp [queue])

end Turns

namespace Course

section Changes

variable {parties : Parties Outside}
  {course after : Course Outside} {left : Nat}

theorem Change.stopPending (change : Change parties course after)
    (sound : course.Sound)
    (pending : course.loop.StopPending left course.around)
    (keepsUp : after.lags = course.lags) :
    ∃ later further, after.log = course.log ++ later ∧
      left = countOf Occurrence.isBeginning later + further ∧
      after.loop.StopPending further after.around ∧
      ∀ entry ∈ later, entry.what.foundNothing = false := by
  cases change with
  | @turned loop around goesOn shown turn =>
    have noLag : shown.countP Occurrence.isLag = 0 := by
      rw [lags, countOf_turned ignoresRequests_isLag] at keepsUp
      exact Nat.add_left_cancel keepsUp
    obtain ⟨⟨further, leftFact, pendingAfter⟩, found⟩ :=
      turn.outline.stopPending sound.serves pending noLag
    refine ⟨_, further, rfl, ?_, pendingAfter, forall_news found _ _⟩
    rw [leftFact, countOf_map, countP_news ignoresRequests_isBeginning]
  | @passed deadline notice later stage placed unread statusOnly =>
    refine ⟨[], left, by simp [withBus], (Nat.zero_add _).symm, ?_, by simp⟩
    have passed := sound.serves.unread_moved_next placed unread
    have reached : course.around.bus.oldest ≤
        course.around.bus.place course.loop.receiver :=
      Nat.le_of_not_lt placed
    cases pending with
    | ended ended reason => cases stage.symm.trans ended
    | lost behind room => exact absurd behind placed
    | @queued ahead after keepsUp queue room =>
      cases ahead with
      | nil =>
        obtain ⟨rfl, -⟩ := List.cons.inj (unread.symm.trans queue)
        cases statusOnly
      | cons first nearer =>
        obtain ⟨rfl, rest⟩ := List.cons.inj (unread.symm.trans queue)
        refine .queued (sound.serves.keepsUp_moved (by omega))
          (passed.trans rest) ?_
        rw [List.countP_cons_of_neg (by simp [statusOnly])] at room
        exact room
  | noticed notice =>
    refine ⟨_, left, rfl, (Nat.zero_add _).symm,
      ?_, by simp [Occurrence.foundNothing]⟩
    exact pending.publish sound.serves rfl rfl rfl fun ended => ⟨ended, rfl⟩
  | cancelled =>
    refine ⟨_, left, rfl, (Nat.zero_add _).symm,
      ?_, by simp [Occurrence.foundNothing]⟩
    cases pending with
    | ended ended reason => exact .ended ended fun _ => rfl
    | lost behind room => exact .lost behind room
    | queued keepsUp queue room => exact .queued keepsUp queue room
  | quiet now outside own =>
    refine ⟨[], left, by simp, (Nat.zero_add _).symm, ?_, by simp⟩
    cases pending with
    | ended ended reason => exact .ended ended reason
    | lost behind room => exact .lost ((Bus.isBehind_others own).2 behind) room
    | queued keepsUp queue room =>
      exact .queued (fun behind => keepsUp ((Bus.isBehind_others own).1 behind))
        ((Bus.unread_others own).trans queue) room

/-- As long as no wait ends with a lag, a stop notice that is on its way is read
after the notices ahead of it. -/
theorem play_stopPending (sound : course.Sound)
    (pending : course.loop.StopPending left course.around)
    (moves : List (Move Outside))
    (keepsUp : (course.play parties moves).lags = course.lags) :
    ∃ later further, (course.play parties moves).log = course.log ++ later ∧
      left = countOf Occurrence.isBeginning later + further ∧
      (course.play parties moves).loop.StopPending further
        (course.play parties moves).around ∧
      ∀ entry ∈ later, entry.what.foundNothing = false := by
  refine (sound.play_keeps (fun reached => course.lags < reached.lags ∨
      (reached.lags = course.lags ∧
        ∃ later further, reached.log = course.log ++ later ∧
        left = countOf Occurrence.isBeginning later + further ∧
        reached.loop.StopPending further reached.around ∧
        ∀ entry ∈ later, entry.what.foundNothing = false))
    ?_ (.inr ⟨rfl, [], left, by simp, (Nat.zero_add _).symm, pending, by simp⟩)
    moves).elim (fun lagged => absurd keepsUp (Nat.ne_of_gt lagged)) And.right
  intro before after soundBefore change kept
  have grows : before.lags ≤ after.lags := change.countOf_le _
  rcases kept with lagged |
    ⟨same, former, left', formerLog, formerLeft, pendingBefore, formerFact⟩
  · exact .inl (Nat.lt_of_lt_of_le lagged grows)
  · rcases Nat.lt_or_eq_of_le grows with lagged | sameAfter
    · exact .inl (same ▸ lagged)
    · obtain ⟨latter, further, latterLog, latterLeft, pendingAfter,
          latterFact⟩ :=
        change.stopPending soundBefore pendingBefore sameAfter.symm
      refine .inr ⟨sameAfter.symm.trans same, former ++ latter, further, ?_, ?_,
        pendingAfter, ?_⟩
      · rw [latterLog, formerLog, List.append_assoc]
      · rw [formerLeft, latterLeft, countOf_append, Nat.add_assoc]
      · intro entry member
        exact (List.mem_append.1 member).elim (formerFact entry)
          (latterFact entry)

theorem isCancelled_of_ended (sound : course.Sound)
    (fresh : course.loop.stage = .opening) (moves : List (Move Outside))
    (ended : (course.play parties moves).loop.stage = .ended .cancelled) :
    (course.play parties moves).around.isCancelled = true := by
  refine sound.play_keeps
    (fun reached => reached.loop.stage = .ended .cancelled →
    reached.around.isCancelled = true) ?_ (fun ended => by
      cases fresh.symm.trans ended) moves ended
  intro before after soundBefore change kept ended
  cases change with
  | @turned loop around goesOn shown turn =>
    cases turn.outline with
    | aside facts =>
      rw [Course.turned, facts.isCancelled]
      exact (facts.ends ended).elim kept And.right
    | begins stage => cases ended
    | announces stage waiting receiver wakeups spoken =>
      cases waiting.symm.trans ended
    | leaves stage cancelled => exact cancelled
    | lags stage behind => cases ended
    | @hears deadline stage placed skipped rest notice unread
        statuses relevant =>
      cases notice <;> cases ended
    | finds stage placed statuses found receiver wakeups resting =>
      rcases resting with rfl | opening
      · exact kept ended
      · cases opening.symm.trans ended
  | cancelled => rfl
  | _ => exact kept ended

theorem stopPending_publish (sound : course.Sound)
    (reason : course.loop.stage = .ended .cancelled →
      course.around.isCancelled = true) :
    course.loop.StopPending
      (course.around.bus.unreadRelevant course.loop.receiver +
        course.loop.stage.isOpening.toNat)
      (course.move parties (.notice .engineStopped)).around := by
  by_cases isOver : course.loop.stage.isOver = true
  · obtain ⟨exit, ended⟩ := Stage.exists_exit isOver
    refine .ended ended fun cancelled => ?_
    rw [cancelled] at ended
    exact reason ended
  · by_cases behind : (course.around.bus.publish .engineStopped).IsBehind
      course.loop.receiver
    · exact .lost behind (Nat.le_add_left _ _)
    · refine .queued behind
        (Bus.unread_publish sound.serves .engineStopped behind) ?_
      exact Nat.le_of_eq (Nat.add_comm _ _)

end Changes

section Own

variable {parties : Parties Outside} {course : Course Outside} {left : Nat}

/-- A step of a loop whose requests are answered at once ends the run, or gets
the loop nearer to its stop notice, unless it is a lag. -/
theorem step_stopPending (sound : course.Sound)
    (pending : course.loop.StopPending left course.around)
    (prompt : Prompt parties) (goingOn : course.around.isCancelled = false)
    (running : course.loop.stage.isOver = false)
    (keepsUp : (course.step parties).lags = course.lags) :
    (course.step parties).loop.stage.isOver = true ∨
      ∃ further, (course.step parties).loop.StopPending further
        (course.step parties).around ∧
          5 * (further - (course.step parties).loop.stage.isOpening.toNat) +
            (course.step parties).loop.stage.toWait <
          5 * (left - course.loop.stage.isOpening.toNat) +
            course.loop.stage.toWait := by
  have outline := sound.outline_step parties
  have noLag : (course.loop.occurrences parties course.around).countP
      Occurrence.isLag = 0 := by
    rw [step, lags, countOf_turned ignoresRequests_isLag] at keepsUp
    exact Nat.add_left_cancel keepsUp
  obtain ⟨⟨further, leftFact, pendingAfter⟩, found⟩ :=
    outline.stopPending sound.serves pending noLag
  refine (Decidable.em _).imp_right fun runningAfter =>
    ⟨further, pendingAfter, ?_⟩
  have room := pending.room running
  have roomAfter := pendingAfter.room (Bool.eq_false_iff.2 runningAfter)
  generalize course.loop.occurrences parties course.around = shown
    at outline noLag leftFact found
  generalize (course.step parties).loop = after
    at outline pendingAfter runningAfter roomAfter ⊢
  generalize (course.step parties).around = next at outline pendingAfter
  cases outline with
  | aside facts =>
    have nearer := facts.advances prompt goingOn running
    have closed : course.loop.stage.isOpening = false :=
      Stage.isOpening_eq_false fun opening => by
        simp [facts.refused opening] at goingOn
    rw [countP_of_spoken ignoresRequests_isBeginning facts.spoken] at leftFact
    rw [Stage.isOpening_eq_false facts.notOpening, closed]
    omega
  | begins stage =>
    have begun : [Occurrence.began].countP Occurrence.isBeginning = 1 := rfl
    simp only [stage, Stage.isOpening, Stage.toWait, Bool.toNat_true,
      Bool.toNat_false]
    omega
  | announces stage waiting receiver wakeups spoken =>
    rw [countP_of_spoken ignoresRequests_isBeginning spoken] at leftFact
    simp only [stage, waiting, Stage.isOpening, Stage.toWait, Bool.toNat_false]
    omega
  | leaves stage cancelled => simp [cancelled] at goingOn
  | lags stage behind => cases noLag
  | @hears deadline stage placed skipped rest notice unread statuses relevant =>
    have woken : [Occurrence.woke (.event notice)].countP
      Occurrence.isBeginning = 0 := rfl
    have opening : (course.loop.afterWait (.event notice)).stage =
        .opening := by
      cases notice <;> first | rfl | exact absurd rfl runningAfter
    simp only [stage, opening, Stage.isOpening, Stage.toWait, Bool.toNat_true,
        Bool.toNat_false]
      at roomAfter ⊢
    omega
  | finds stage placed statuses finding receiver wakeups resting =>
    simp [finding] at found

/-- Left to itself and answered at once, a loop with a stop notice on its way
comes to the end of its run, if no wait ends with a lag. -/
theorem exists_isOver (sound : course.Sound)
    (pending : course.loop.StopPending left course.around)
    (prompt : Prompt parties) (goingOn : course.around.isCancelled = false)
    (keepsUp : ∀ count, (course.own parties count).lags = course.lags) :
    ∃ count, (course.own parties count).loop.stage.isOver = true := by
  -- A cycle that may still begin outweighs the stages that its beginning puts
  -- before the next wait.
  induction far : 5 * (left - course.loop.stage.isOpening.toNat) +
    course.loop.stage.toWait using Nat.strongRecOn generalizing course left with
  | ind distance nearer =>
    by_cases isOver : course.loop.stage.isOver = true
    · exact ⟨0, isOver⟩
    · have running : course.loop.stage.isOver = false :=
        Bool.eq_false_iff.2 isOver
      have stepSound : (course.step parties).Sound := sound.play [.step]
      have stepLags : (course.step parties).lags = course.lags := keepsUp 1
      have stepGoingOn := (isCancelled_own parties sound 1).trans goingOn
      have stepKeepsUp :
          ∀ count, ((course.step parties).own parties count).lags =
          (course.step parties).lags := by
        intro count
        rw [← own_succ, keepsUp (count + 1), stepLags]
      rcases step_stopPending sound pending prompt goingOn running stepLags with
        overNext | ⟨further, pendingNext, approach⟩
      · exact ⟨1, overNext⟩
      · obtain ⟨count, overLater⟩ :=
          nearer _ (far ▸ approach) stepSound pendingNext stepGoingOn
            stepKeepsUp rfl
        exact ⟨count + 1, overLater⟩

end Own

end Course

variable (parties : Parties Outside) (timing : Timing) (locale : Locale)
  {around : Surroundings Outside}

/-- In every run, a stop notice that is put on the bus ends the run as long as
no later wait ends with a lag: no more cycles begin than there are unread
relevant notices ahead of it, apart from one that was about to begin, and no
look finds nothing. Left to itself and answered at once, the loop then does
stop. No wait ends with a lag as long as the bus has room for all that the loop
has before it with the stop notice on the bus, and for all that others put there
later. -/
theorem stop_heeded_without_lag (sound : around.bus.Sound)
    (former latter : List (Course.Move Outside)) :
    let course := (Course.start timing locale around).play parties former
    let stopping := course.move parties (.notice .engineStopped)
    let final := stopping.play parties latter
    (final.lags = course.lags → ∃ later, final.log = stopping.log ++ later ∧
      countOf Occurrence.isBeginning later ≤
        course.around.bus.unreadRelevant course.loop.receiver +
          course.loop.stage.isOpening.toNat ∧
      ∀ entry ∈ later, entry.what.foundNothing = false) ∧
    (Prompt parties → final.around.isCancelled = false →
      (∀ count, (final.own parties count).lags = course.lags) →
        ∃ count, (final.own parties count).loop.stage = .ended .stopped) ∧
    (stopping.workload + final.othersNotices ≤
        stopping.around.bus.capacity + stopping.othersNotices →
      ∀ count, (final.own parties count).lags = course.lags) := by
  intro course stopping final
  have startSound := Course.sound_start timing locale sound
  have courseSound : course.Sound := startSound.play former
  have stopSound : stopping.Sound :=
    (Course.change_move parties courseSound _).sound courseSound
  have finalSound : final.Sound := stopSound.play latter
  have pending : stopping.loop.StopPending
      (course.around.bus.unreadRelevant course.loop.receiver +
        course.loop.stage.isOpening.toNat)
      stopping.around :=
    Course.stopPending_publish courseSound
      (Course.isCancelled_of_ended startSound rfl former)
  have sameLags : stopping.lags = course.lags := Course.countOf_note _ _ _
  refine ⟨?_, ?_, ?_⟩
  · intro keepsUp
    obtain ⟨later, further, log, leftFact, -, found⟩ :=
      Course.play_stopPending stopSound pending latter
        (keepsUp.trans sameLags.symm)
    exact ⟨later, log, leftFact ▸ Nat.le_add_right _ _, found⟩
  · intro prompt goingOn keepsUp
    obtain ⟨later, further, -, -, pendingFinal, -⟩ :=
      Course.play_stopPending stopSound pending latter
        ((keepsUp 0).trans sameLags.symm)
    obtain ⟨count, isOver⟩ :=
      Course.exists_isOver finalSound pendingFinal prompt goingOn
        (fun count => (keepsUp count).trans (keepsUp 0).symm)
    obtain ⟨exit, ended⟩ := Stage.exists_exit isOver
    refine ⟨count, ?_⟩
    cases exit with
    | stopped => exact ended
    | cancelled =>
      have whole : final.own parties count =
          (Course.start timing locale around).play parties
            (former ++ .notice .engineStopped :: latter ++ List.replicate
              count .step) := by
        rw [Course.play_append, Course.play_append]
        rfl
      have cancelled := Course.isCancelled_own parties finalSound count
      rw [goingOn, whole,
        Course.isCancelled_of_ended startSound rfl _ (whole ▸ ended)]
          at cancelled
      cases cancelled
  · intro room count
    have whole : stopping.play parties (latter ++ List.replicate count .step) =
        final.own parties count := Course.play_append _ _ _ _
    have sameNotices :
        (final.own parties count).othersNotices = final.othersNotices :=
      Course.othersNotices_own finalSound count
    have fits : stopping.workload +
        (stopping.play parties
            (latter ++ List.replicate count .step)).othersNotices ≤
          stopping.around.bus.capacity + stopping.othersNotices := by
      rw [whole, sameNotices]
      exact room
    rw [← whole, Course.lags_eq_of_room stopSound _ fits, sameLags]

/-- A stop notice that comes while the policy is read ends the run at the next
wait. -/
theorem stop_heeded_while_reading :
    let course := (Course.start .usual .en (.fresh Bus.usualCapacity)).play
      (obliging .initial default) [.step, .notice .engineStopped]
    ∃ count, (course.own (obliging .initial default) count).loop.stage =
      .ended .stopped := by
  obtain ⟨-, stops, fits⟩ :=
    stop_heeded_without_lag (obliging .initial default) .usual .en
      (sound_fresh Bus.usualCapacity) [.step] []
  exact stops (prompt_obliging _ _) rfl (fits (by decide +kernel))

/-- A stop notice that as many notices follow as the bus keeps is pushed out,
and the loop goes on with one cycle after another. -/
theorem stop_pushed_out :
    let course := (Course.start .usual .en (.fresh Bus.usualCapacity)).play
      (obliging .initial default) [.step]
    let final :=
      (course.move (obliging .initial default) (.notice .engineStopped)).play
        (obliging .initial default)
        (List.replicate 64 (.notice .policyChanged) ++ List.replicate 40 .step)
    course.around.bus.unreadRelevant course.loop.receiver = 0 ∧
      course.loop.stage.isOpening = false ∧
      countOf Occurrence.isBeginning course.log = 1 ∧
      countOf Occurrence.isBeginning final.log = 11 ∧ final.lags = 10 ∧
      final.loop.exit? = none := by
  decide +kernel

end Switchyard.Control
