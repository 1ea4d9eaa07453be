import Switchyard.Proofs.Backlog
import Switchyard.Proofs.Overrun

/-!
# Who wakes the loop

Every wait that a notice ends takes one notice of somebody else off the bus,
since the loop's own statuses end no wait. A wait that ends with a lag takes
none. So the loop is woken by others alone as long as it never lags; from its
first lag on it wakes itself.
-/

namespace Switchyard.Control

variable {Outside : Type}

section Turns

variable {parties : Parties Outside} {loop after : Loop}
  {around next : Surroundings Outside} {shown : List Occurrence}

/-- The counter of the loop grows with every wait that something on the bus
ended, except where a stop notice did. -/
theorem Outline.wakeupsByEvent
    (outline : Outline parties loop around after next shown) :
    after.tally.wakeupsByEvent + shown.countP Occurrence.isStopWake =
      loop.tally.wakeupsByEvent + shown.countP Occurrence.isTrafficWake := by
  cases outline with
  | aside facts =>
    rw [facts.wakeups, countP_of_spoken ignoresRequests_isStopWake facts.spoken,
      countP_of_spoken ignoresRequests_isTrafficWake facts.spoken]
  | announces stage waiting receiver wakeups spoken =>
    rw [wakeups, countP_of_spoken ignoresRequests_isStopWake spoken,
      countP_of_spoken ignoresRequests_isTrafficWake spoken]
  | @hears deadline stage keepsUp skipped later notice unread
      statuses relevant =>
    cases notice <;> rfl
  | finds stage keepsUp statuses found receiver wakeups resting =>
    obtain ⟨noTraffic, noStop, -⟩ := isTrafficWake_of_foundNothing found
    simp [wakeups, noTraffic, noStop]
  | _ => rfl

/-- A turn that ends a wait takes a relevant notice from the unread ones, or it
is a lag; and no turn adds one. -/
theorem Outline.unreadRelevant
    (outline : Outline parties loop around after next shown)
    (serves : around.bus.Serves loop.receiver) :
    shown.countP Occurrence.isTrafficWake + next.bus.unreadRelevant
      after.receiver ≤ around.bus.unreadRelevant loop.receiver + shown.countP
      Occurrence.isLag := by
  cases outline with
  | aside facts =>
    rw [facts.bus, facts.receiver,
      countP_of_spoken ignoresRequests_isLag facts.spoken,
      countP_of_spoken ignoresRequests_isTrafficWake facts.spoken, Nat.zero_add]
    exact Nat.le_refl _
  | announces stage waiting receiver wakeups spoken =>
    rw [receiver, countP_of_spoken ignoresRequests_isLag spoken,
      countP_of_spoken ignoresRequests_isTrafficWake spoken, Nat.zero_add]
    exact Bus.unreadRelevant_publish_le serves .statusChanged
  | begins stage => exact Nat.le_of_eq (Nat.zero_add _)
  | leaves stage cancelled => exact Nat.le_of_eq (Nat.zero_add _)
  | lags stage behind =>
    have same :
        (around.bus.moved loop.receiver around.bus.oldest).unreadRelevant
          loop.receiver =
        around.bus.unreadRelevant loop.receiver := by
      rw [Bus.unreadRelevant, serves.unread_moved_oldest behind]
      rfl
    have counted : [Occurrence.woke
        (.lagged (around.bus.oldest - around.bus.place loop.receiver))].countP
          Occurrence.isTrafficWake = 1 := rfl
    rw [counted, same, Nat.add_comm]
    exact Nat.le_refl _
  | @hears deadline stage keepsUp skipped later notice unread
      statuses relevant =>
    have passed := serves.unread_moved_past keepsUp unread
    rw [Loop.receiver_afterWait, Bus.unreadRelevant, Bus.unreadRelevant,
      passed, unread]
    have counted : [Occurrence.woke (.event notice)].countP
      Occurrence.isTrafficWake = 1 := rfl
    simp only [counted, List.countP_append, List.countP_cons, relevant]
    simp
    omega
  | finds stage keepsUp statuses found receiver wakeups resting =>
    obtain ⟨noTraffic, -, -⟩ := isTrafficWake_of_foundNothing found
    rw [receiver, Bus.unreadRelevant, serves.unread_moved_sent]
    simp [noTraffic]

end Turns

namespace Course

section Changes

variable {parties : Parties Outside} {course after : Course Outside}

structure WakesAccounted (course : Course Outside) : Prop where
  counted : course.loop.tally.wakeupsByEvent + course.stopWakes =
    course.trafficWakes
  owed : course.trafficWakes + course.around.bus.unreadRelevant
    course.loop.receiver ≤ course.othersNotices + course.lags

theorem wakesAccounted_start (timing : Timing) (locale : Locale)
    {around : Surroundings Outside} (sound : around.bus.Sound) :
    (start timing locale around).WakesAccounted where
  counted := rfl
  owed := by
    have nothing := sound.unread_subscribe
    simp [start, Loop.start, Bus.unreadRelevant, nothing, trafficWakes,
      othersNotices, lags]

theorem Change.wakesAccounted (change : Change parties course after)
    (sound : course.Sound) (accounted : course.WakesAccounted) :
    after.WakesAccounted := by
  have counted := accounted.counted
  have owed := accounted.owed
  cases change with
  | turned turn =>
    have outline := turn.outline
    have wakeups := outline.wakeupsByEvent
    have unread := outline.unreadRelevant sound.serves
    constructor
    · rw [stopWakes, trafficWakes, countOf_turned ignoresRequests_isStopWake,
        countOf_turned ignoresRequests_isTrafficWake]
      simp only [Course.turned, trafficWakes, stopWakes] at *
      omega
    · rw [trafficWakes, othersNotices, lags,
        countOf_turned ignoresRequests_isTrafficWake,
        countOf_turned ignoresRequests_isNotice,
        countOf_turned ignoresRequests_isLag, outline.countP_isNotice]
      simp only [Course.turned, trafficWakes, othersNotices, lags] at *
      omega
  | @passed deadline notice later stage keepsUp unread statusOnly =>
    refine ⟨counted, Nat.le_trans (Nat.add_le_add_left ?_ _) owed⟩
    have passed := sound.serves.unread_moved_next keepsUp unread
    simp only [withBus, Bus.unreadRelevant]
    rw [passed, unread]
    exact (List.sublist_cons_self _ _).countP_le
  | noticed notice =>
    have further := Bus.unreadRelevant_publish_le sound.serves notice
    have atMostOne : (if notice.isStatusOnly then 0 else 1) ≤ 1 := by
      split <;> omega
    constructor
    · simpa [withBus, trafficWakes, stopWakes, note, Occurrence.isTrafficWake,
        Occurrence.isStopWake] using counted
    · simp only [trafficWakes, othersNotices, lags] at owed
      simp only [withBus, trafficWakes, othersNotices, lags, countOf_note]
      simp only [note, List.countP_singleton, Occurrence.isTrafficWake,
        Occurrence.isNotice, Occurrence.isLag, Bool.false_eq_true, reduceIte]
      omega
  | cancelled =>
    constructor
    · simpa [trafficWakes, stopWakes, note, Occurrence.isTrafficWake,
          Occurrence.isStopWake]
        using counted
    · simpa [trafficWakes, othersNotices, lags, note, Occurrence.isTrafficWake,
        Occurrence.isNotice, Occurrence.isLag] using owed
  | quiet now outside own =>
    refine ⟨counted, ?_⟩
    simp only [Bus.unreadRelevant_others own]
    exact owed

theorem wakesAccounted_play (sound : course.Sound)
    (accounted : course.WakesAccounted) (moves : List (Move Outside)) :
    (course.play parties moves).WakesAccounted :=
  sound.play_keeps WakesAccounted (fun before change kept =>
      change.wakesAccounted before kept)
    accounted moves

theorem lags_le_trafficWakes (course : Course Outside) :
    course.lags ≤ course.trafficWakes := by
  refine List.countP_mono_left fun entry _ lag => ?_
  cases what : entry.what with
  | woke wake => cases wake <;> simp [what, Occurrence.isLag] at lag ⊢; rfl
  | _ => simp [what, Occurrence.isLag] at lag

end Changes

end Course

variable (parties : Parties Outside) (timing : Timing) (locale : Locale)
  {around : Surroundings Outside}

/-- In every run, the waits that something on the bus ended are those that the
loop counts and those that a stop notice ended, and there are no more of them
than notices of others and lags. There is no lag before others have put as many
notices on the bus as it keeps. After a lag no look finds its place any more, so
that every further wait ends with a lag or a cancellation. Where requests are
answered at once and nobody interferes, the loop is therefore never woken more
often than others have put notices on the bus exactly if no wait ends with a
lag. -/
theorem trafficWakes_owed_to_others (sound : around.bus.Sound)
    (moves : List (Course.Move Outside)) :
    let course := (Course.start timing locale around).play parties moves
    course.loop.tally.wakeupsByEvent + course.stopWakes = course.trafficWakes ∧
    course.trafficWakes ≤ course.othersNotices + course.lags ∧
    (course.othersNotices < around.bus.capacity →
      course.trafficWakes ≤ course.othersNotices) ∧
    (course.lags ≠ 0 → ∀ more, ∃ later,
      (course.play parties more).log = course.log ++ later ∧
        ∀ entry ∈ later, entry.what.foundPlace = false) ∧
    (Prompt parties → course.around.isCancelled = false →
      ((∀ count, (course.own parties count).trafficWakes ≤
          (course.own parties count).othersNotices) ↔
        ∀ count, (course.own parties count).lags = 0)) := by
  intro course
  have startSound := Course.sound_start timing locale sound
  have courseSound : course.Sound := startSound.play moves
  have accounted : ∀ more, (course.play parties more).WakesAccounted :=
    fun more => by
    rw [← Course.play_append]
    exact Course.wakesAccounted_play startSound
      (Course.wakesAccounted_start timing locale sound) _
  have owed : ∀ more, (course.play parties more).trafficWakes ≤
      (course.play parties more).othersNotices +
        (course.play parties more).lags :=
    fun more => Nat.le_of_add_right_le (accounted more).owed
  have overrun : ∀ more, (course.play parties more).lags ≠ 0 →
      (course.play parties more).Overrun := fun more lagged => by
    rw [← Course.play_append] at lagged ⊢
    exact Course.overrun_of_lags startSound rfl _ lagged
  refine ⟨(accounted []).counted, owed [], ?_, ?_, ?_⟩
  · intro few
    have fits : (Course.start timing locale around).workload +
        course.othersNotices ≤ around.bus.capacity + 0 := by
      rw [Course.workload_start, Nat.add_comm]
      exact few
    have lagless : course.lags = 0 :=
      Course.lags_eq_of_room startSound moves fits
    exact Nat.le_trans (owed [])
      (Nat.le_of_eq (congrArg (course.othersNotices + ·) lagless))
  · intro lagged more
    exact ((overrun [] lagged).play courseSound more).2
  · intro prompt goingOn
    constructor
    · intro bounded count
      refine Decidable.byContradiction fun lagged => ?_
      have reachedSound : (course.own parties count).Sound :=
        courseSound.own count
      have overrunThere : (course.own parties count).Overrun := overrun _ lagged
      -- The lags alone come to outnumber the notices of others, which are no
      -- longer put on the bus.
      obtain ⟨more, many⟩ := overrunThere.exists_lags reachedSound prompt
        ((Course.isCancelled_own parties courseSound count).trans goingOn)
        ((course.own parties count).othersNotices + 1)
      have few := bounded (count + more)
      rw [Course.own_add, Course.othersNotices_own reachedSound] at few
      have lagsCounted :=
        Course.lags_le_trafficWakes
          ((course.own parties count).own parties more)
      omega
    · intro lagless count
      have owedThere := owed (List.replicate count .step)
      have none : (course.play parties (List.replicate count .step)).lags = 0 :=
        lagless count
      rw [none] at owedThere
      exact owedThere

/-- A loop that was woken by one notice is woken no more than once as long as it
does not lag. -/
theorem trafficWakes_owed_after_notice :
    let parties := obliging .initial default
    let course :=
      (Course.start .usual .en (.fresh Bus.usualCapacity)).play parties
        [.notice .policyChanged, .step, .step, .step, .step]
    course.trafficWakes ≤ course.othersNotices ∧
      ((∀ count, (course.own parties count).trafficWakes ≤
          (course.own parties count).othersNotices) ↔
        ∀ count, (course.own parties count).lags = 0) := by
  obtain ⟨-, -, bounded, -, exactly⟩ :=
    trafficWakes_owed_to_others (obliging .initial default)
      .usual .en (sound_fresh Bus.usualCapacity) [.notice .policyChanged, .step,
        .step, .step, .step]
  exact ⟨bounded (by decide +kernel),
    exactly (prompt_obliging _ _) (by decide +kernel)⟩

/-- As many notices as the bus keeps, put on it while a cycle goes on, wake the
loop once more than there are notices; and that is only the beginning. -/
theorem trafficWakes_exceed_burst :
    let course := (Course.start .usual .en (.fresh Bus.usualCapacity)).play
      (obliging .initial default)
      (.step :: List.replicate 64 (.notice .policyChanged) ++
        List.replicate 260 .step)
    course.othersNotices = 64 ∧ course.loop.tally.wakeupsByEvent = 65 ∧
      course.trafficWakes = 65 := by
  decide +kernel

end Switchyard.Control
