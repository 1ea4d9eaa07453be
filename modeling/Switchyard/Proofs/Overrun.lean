import Switchyard.Proofs.Outline

/-!
# Falling behind for good

A wait whose receiver is behind ends with a lag, and the receiver then stands at
the oldest notice that is kept. The bus is full at that moment, so the status
that the loop announces at the end of the next cycle pushes that very notice
out, and the next wait finds the receiver behind again. A loop on which this has
begun is overrun, and it stays overrun whatever anybody does.
-/

namespace Switchyard.Control

variable {Outside : Type}

/-- Whether the loop has fallen behind for good: notices are pushed out, its
receiver stands at most at the oldest kept one, and while it waits it is behind.
Nothing but a cancellation has ended it. -/
structure Loop.Overrun (loop : Loop) (around : Surroundings Outside) :
    Prop where
  full : 0 < around.bus.oldest
  late : around.bus.place loop.receiver ≤ around.bus.oldest
  waits : ∀ {deadline}, loop.stage = .waiting deadline →
    around.bus.IsBehind loop.receiver
  ends : ∀ {exit}, loop.stage = .ended exit → exit = .cancelled ∧
    around.isCancelled = true

section Turns

variable {parties : Parties Outside} {loop after : Loop}
  {around next : Surroundings Outside} {shown : List Occurrence}

/-- Another notice keeps an overrun loop late, and leaves it behind at once. -/
theorem Loop.Overrun.publish (overrun : loop.Overrun around)
    (sound : around.bus.Sound) (notice : Notice) :
    0 < (around.bus.publish notice).oldest ∧
      (around.bus.publish notice).IsBehind loop.receiver := by
  have further := sound.oldest_lt_oldest_publish overrun.full notice
  have late := overrun.late
  unfold Bus.IsBehind
  rw [Bus.place_publish]
  omega

theorem overrun_of_lag (serves : around.bus.Serves loop.receiver)
    (behind : around.bus.IsBehind loop.receiver) :
    Loop.Overrun { loop with
        tally := loop.tally.countWakeup true, stage := .opening }
      { around with
        bus := around.bus.moved loop.receiver around.bus.oldest } where
  full := Nat.zero_lt_of_lt behind
  late := Nat.le_of_eq (serves.place_moved _)
  waits := by simp
  ends := by simp

theorem Outline.overrun (outline : Outline parties loop around after next shown)
    (serves : around.bus.Serves loop.receiver) (overrun : loop.Overrun around) :
    after.Overrun next := by
  cases outline with
  | aside facts =>
    refine ⟨?_, ?_, fun waiting => absurd waiting facts.notWaiting,
      fun ended => ?_⟩
    · rw [facts.bus]
      exact overrun.full
    · rw [facts.bus, facts.receiver]
      exact overrun.late
    · rw [facts.isCancelled]
      rcases facts.ends ended with before | cancelled
      · exact overrun.ends before
      · exact cancelled
  | begins stage => exact ⟨overrun.full, overrun.late, by simp, by simp⟩
  | announces stage waiting receiver wakeups spoken =>
    obtain ⟨full, behind⟩ := overrun.publish serves.sound .statusChanged
    rw [← receiver] at behind
    refine ⟨full, Nat.le_of_lt behind, fun _ => behind, fun ended => ?_⟩
    cases waiting.symm.trans ended
  | leaves stage cancelled =>
    refine ⟨overrun.full, overrun.late, by simp, fun ended => ?_⟩
    cases ended
    exact ⟨rfl, cancelled⟩
  | lags stage behind => exact overrun_of_lag serves behind
  | hears stage keepsUp unread statuses relevant =>
    exact absurd (overrun.waits stage) keepsUp
  | finds stage keepsUp statuses found receiver wakeups resting =>
    exact absurd (overrun.waits stage) keepsUp

theorem Outline.foundPlace_of_overrun
    (outline : Outline parties loop around after next shown)
    (overrun : loop.Overrun around) :
    ∀ occurrence ∈ shown, occurrence.foundPlace = false := by
  cases outline with
  | aside facts =>
    exact fun occurrence member =>
      foundPlace_of_isSpoken (facts.spoken _ member)
  | announces stage waiting receiver wakeups spoken =>
    exact fun occurrence member => foundPlace_of_isSpoken (spoken _ member)
  | begins stage => simp [Occurrence.foundPlace, Occurrence.foundNothing]
  | leaves stage cancelled =>
    simp [Occurrence.foundPlace, Occurrence.foundNothing]
  | lags stage behind => simp [Occurrence.foundPlace, Occurrence.foundNothing]
  | hears stage keepsUp unread statuses relevant =>
    exact absurd (overrun.waits stage) keepsUp
  | finds stage keepsUp statuses found receiver wakeups resting =>
    exact absurd (overrun.waits stage) keepsUp

end Turns

namespace Course

def Overrun (course : Course Outside) : Prop :=
  course.loop.Overrun course.around

section Changes

variable {parties : Parties Outside} {course after : Course Outside}

theorem Change.overrun (change : Change parties course after)
    (sound : course.Sound) (overrun : course.Overrun) :
    after.Overrun ∧ ∃ later, after.log = course.log ++ later ∧
      ∀ entry ∈ later, entry.what.foundPlace = false := by
  cases change with
  | turned turn =>
    exact ⟨turn.outline.overrun sound.serves overrun, _, rfl,
      forall_news (turn.outline.foundPlace_of_overrun overrun) _ _⟩
  | passed stage keepsUp unread statusOnly =>
    exact absurd (overrun.waits stage) keepsUp
  | noticed notice =>
    obtain ⟨full, behind⟩ := overrun.publish sound.serves.sound notice
    refine ⟨⟨full, Nat.le_of_lt behind, fun _ => behind, overrun.ends⟩, _,
      rfl, ?_⟩
    simp [Occurrence.foundPlace, Occurrence.foundNothing]
  | cancelled =>
    refine ⟨⟨overrun.full, overrun.late, overrun.waits,
        fun ended => ⟨(overrun.ends ended).1, rfl⟩⟩,
      _, rfl, ?_⟩
    simp [Occurrence.foundPlace, Occurrence.foundNothing]
  | quiet now outside own =>
    refine ⟨⟨overrun.full, ?_, ?_, overrun.ends⟩, [], by simp, by simp⟩
    · simp only [Bus.place_others own]
      exact overrun.late
    · intro deadline stage
      exact (Bus.isBehind_others own).2 (overrun.waits stage)

theorem Overrun.play (overrun : course.Overrun) (sound : course.Sound)
    (moves : List (Move Outside)) :
    (course.play parties moves).Overrun ∧ ∃ later,
      (course.play parties moves).log = course.log ++ later ∧
        ∀ entry ∈ later, entry.what.foundPlace = false := by
  refine sound.play_keeps (fun reached => reached.Overrun ∧ ∃ later,
    reached.log = course.log ++ later ∧
      ∀ entry ∈ later, entry.what.foundPlace = false)
    ?_ ⟨overrun, [], by simp, by simp⟩ moves
  rintro before after soundBefore change ⟨overrunBefore, former,
    formerLog, formerFact⟩
  obtain ⟨overrunAfter, latter, latterLog, latterFact⟩ :=
    change.overrun soundBefore overrunBefore
  refine ⟨overrunAfter,
    former ++ latter, by rw [latterLog, formerLog, List.append_assoc], ?_⟩
  intro entry member
  exact (List.mem_append.1 member).elim (formerFact entry) (latterFact entry)

theorem Change.lags_eq_or_overrun (change : Change parties course after)
    (sound : course.Sound) :
    after.lags = course.lags ∨ after.Overrun := by
  cases change with
  | turned turn =>
    rw [lags, countOf_turned ignoresRequests_isLag]
    rcases turn.outline.lagless_or_behind with noLag | ⟨behind, rfl, rfl⟩
    · rw [noLag]
      exact .inl rfl
    · exact .inr (overrun_of_lag sound.serves behind)
  | noticed notice => exact .inl (countOf_note _ _ _)
  | cancelled => exact .inl (countOf_note _ _ _)
  | _ => exact .inl rfl

/-- In every run, the loop is overrun as soon as one of its waits has ended with
a lag. -/
theorem overrun_of_lags (sound : course.Sound) (fresh : course.lags = 0)
    (moves : List (Move Outside))
    (lagged : (course.play parties moves).lags ≠ 0) :
    (course.play parties moves).Overrun := by
  refine (sound.play_keeps (fun reached => reached.lags = 0 ∨ reached.Overrun)
    ?_ (.inl fresh) moves).resolve_left lagged
  rintro before after soundBefore change (none | overrun)
  · rcases change.lags_eq_or_overrun soundBefore with same | overrunAfter
    · exact .inl (same.trans none)
    · exact .inr overrunAfter
  · exact .inr (change.overrun soundBefore overrun).1

end Changes

section Own

variable {parties : Parties Outside} {course : Course Outside}

theorem Sound.own (sound : course.Sound) (count : Nat) :
    (course.own parties count).Sound :=
  sound.play _

theorem Sound.outline_step (sound : course.Sound) (parties : Parties Outside) :
    Outline parties course.loop course.around (course.step parties).loop
      (course.step parties).around
      (course.loop.occurrences parties course.around) :=
  (turn_step sound.proper sound.serves).outline

theorem isCancelled_own (parties : Parties Outside) (sound : course.Sound)
    (count : Nat) :
    (course.own parties count).around.isCancelled =
      course.around.isCancelled := by
  induction count generalizing course with
  | zero => rfl
  | succ count countFact =>
    have stepSound : (course.step parties).Sound := sound.play [.step]
    rw [own_succ, countFact stepSound]
    exact (sound.outline_step parties).isCancelled_eq

theorem othersNotices_own (sound : course.Sound) (count : Nat) :
    (course.own parties count).othersNotices = course.othersNotices := by
  induction count generalizing course with
  | zero => rfl
  | succ count countFact =>
    have stepSound : (course.step parties).Sound := sound.play [.step]
    rw [own_succ, countFact stepSound, othersNotices, step,
      countOf_turned ignoresRequests_isNotice,
      (sound.outline_step parties).countP_isNotice]
    rfl

/-- A step of an overrun loop whose requests are answered at once ends a wait
with a lag, or gets the loop nearer to such an end. -/
theorem Overrun.step (overrun : course.Overrun) (sound : course.Sound)
    (prompt : Prompt parties) (goingOn : course.around.isCancelled = false) :
    course.lags < (course.step parties).lags ∨
      (course.lags = (course.step parties).lags ∧
        (course.step parties).loop.stage.toWait <
          course.loop.stage.toWait) := by
  have running : course.loop.stage.isOver = false := by
    cases stage : course.loop.stage with
    | ended exit => simp [(overrun.ends stage).2] at goingOn
    | _ => rfl
  have counted : (course.step parties).lags =
      course.lags + (course.loop.occurrences parties course.around).countP
        Occurrence.isLag :=
    countOf_turned ignoresRequests_isLag _ _ _ _ _
  have outline := sound.outline_step parties
  rw [counted]
  generalize course.loop.occurrences parties course.around = shown at outline
  generalize (course.step parties).loop = after at outline
  generalize (course.step parties).around = next at outline
  cases outline with
  | aside facts =>
    rw [countP_of_spoken ignoresRequests_isLag facts.spoken]
    exact .inr ⟨rfl, facts.advances prompt goingOn running⟩
  | begins stage => exact .inr ⟨rfl, by simp [stage, Stage.toWait]⟩
  | announces stage waiting receiver wakeups spoken =>
    rw [countP_of_spoken ignoresRequests_isLag spoken]
    exact .inr ⟨rfl, by simp [stage, waiting, Stage.toWait]⟩
  | leaves stage cancelled => simp [cancelled] at goingOn
  | lags stage behind => exact .inl (Nat.lt_succ_self _)
  | hears stage keepsUp unread statuses relevant =>
    exact absurd (overrun.waits stage) keepsUp
  | finds stage keepsUp statuses found receiver wakeups resting =>
    exact absurd (overrun.waits stage) keepsUp

theorem Overrun.exists_lag (overrun : course.Overrun) (sound : course.Sound)
    (prompt : Prompt parties) (goingOn : course.around.isCancelled = false) :
    ∃ count, course.lags < (course.own parties count).lags := by
  induction far : course.loop.stage.toWait using
    Nat.strongRecOn generalizing course with
  | ind distance nearer =>
    -- Each step shows a lag or leads nearer to the next wait, which then is
    -- one.
    have stepSound : (course.step parties).Sound := sound.play [.step]
    rcases overrun.step sound prompt goingOn with lag | ⟨same, approach⟩
    · exact ⟨1, lag⟩
    · have stepOverrun : (course.step parties).Overrun :=
        (overrun.play sound [.step]).1
      have stepGoingOn := (isCancelled_own parties sound 1).trans goingOn
      obtain ⟨count, lag⟩ :=
        nearer _ (far ▸ approach) stepOverrun stepSound stepGoingOn rfl
      exact ⟨count + 1, by rw [own_succ, same]; exact lag⟩

/-- Left to itself, an overrun loop whose requests are answered at once ends as
many waits with a lag as one likes. -/
theorem Overrun.exists_lags (overrun : course.Overrun) (sound : course.Sound)
    (prompt : Prompt parties) (goingOn : course.around.isCancelled = false)
    (bound : Nat) :
    ∃ count, bound ≤ (course.own parties count).lags := by
  induction bound with
  | zero => exact ⟨0, Nat.zero_le _⟩
  | succ bound boundFact =>
    obtain ⟨former, reached⟩ := boundFact
    have overrunFormer : (course.own parties former).Overrun :=
      (overrun.play sound _).1
    obtain ⟨latter, further⟩ :=
      overrunFormer.exists_lag (sound.own former) prompt
        ((isCancelled_own parties sound former).trans goingOn)
    exact ⟨former + latter, by rw [own_add]; omega⟩

end Own

end Course

end Switchyard.Control
