import Switchyard.Proofs.Outline

/-!
# How far behind a receiver can come

Between two waits the loop puts one status on the bus, and every wait takes
something off it or finds nothing there. So what the loop has before it grows
only by what others put on the bus. As long as all of it fits on the bus, no
wait ends with a lag.
-/

namespace Switchyard.Control

variable {Outside : Type}

/-- How many notices the loop can have before it at its next wait if nobody else
acts: those that it has not passed yet and the status that it owes. It is one at
least, since after a wait that found nothing there is a status again. -/
def Loop.workload (loop : Loop) (bus : Bus) : Nat :=
  max 1 (bus.backlog loop.receiver + loop.stage.owesStatus.toNat)

theorem Loop.backlog_le_workload (loop : Loop) (bus : Bus) :
    bus.backlog loop.receiver ≤ loop.workload bus := by
  unfold workload
  omega

section Turns

variable {parties : Parties Outside} {loop after : Loop}
  {around next : Surroundings Outside} {shown : List Occurrence}

theorem Outline.workload_le
    (outline : Outline parties loop around after next shown)
    (serves : around.bus.Serves loop.receiver) :
    after.workload next.bus ≤ loop.workload around.bus := by
  have owed : after.stage.owesStatus.toNat ≤ 1 := Bool.toNat_le _
  unfold Loop.workload
  cases outline with
  | aside facts =>
    have owes : after.stage.owesStatus.toNat ≤ loop.stage.owesStatus.toNat := by
      cases ownStatus : after.stage.owesStatus with
      | false => exact Nat.zero_le _
      | true =>
        exact Nat.le_of_eq (congrArg Bool.toNat (facts.owes ownStatus)).symm
    rw [facts.bus, facts.receiver]
    omega
  | begins stage =>
    rw [stage]
    exact Nat.le_refl _
  | announces stage waiting receiver wakeups spoken =>
    rw [receiver, serves.backlog_publish, stage, waiting]
    exact Nat.le_refl _
  | leaves stage cancelled =>
    rw [stage]
    exact Nat.le_refl _
  | lags stage behind =>
    -- The receiver is past what it has lost, one notice at least: that makes up
    -- for the status of the cycle that begins.
    have lost : around.bus.place loop.receiver < around.bus.oldest := behind
    have within : around.bus.oldest ≤ around.bus.sent := Nat.sub_le _ _
    rw [serves.backlog_moved]
    unfold Bus.backlog
    omega
  | @hears deadline stage keepsUp skipped later notice unread
      statuses relevant =>
    have within := serves.past_le keepsUp unread
    rw [Loop.receiver_afterWait, serves.backlog_moved]
    unfold Bus.backlog
    omega
  | finds stage keepsUp statuses found receiver wakeups resting =>
    rw [receiver, serves.backlog_moved]
    omega

theorem Outline.lagless_of_room
    (outline : Outline parties loop around after next shown)
    (serves : around.bus.Serves loop.receiver)
    (room : loop.workload around.bus ≤ around.bus.capacity) :
    shown.countP Occurrence.isLag = 0 := by
  refine outline.lagless_or_behind.resolve_right ?_
  rintro ⟨behind, -, -⟩
  have many := serves.isBehind_iff.1 behind
  have backlog := loop.backlog_le_workload around.bus
  omega

theorem Outline.capacity_eq
    (outline : Outline parties loop around after next shown) :
    next.bus.capacity = around.bus.capacity := by
  cases outline with
  | aside facts => rw [facts.bus]
  | announces stage waiting receiver wakeups spoken =>
    exact Bus.publish_capacity _ _
  | _ => rfl

end Turns

namespace Course

section Changes

variable {parties : Parties Outside} {course after : Course Outside}

def workload (course : Course Outside) : Nat :=
  course.loop.workload course.around.bus

theorem workload_start (timing : Timing) (locale : Locale)
    (around : Surroundings Outside) :
    (start timing locale around).workload = 1 := by
  have nothing : around.bus.subscribe.2.backlog around.bus.subscribe.1 = 0 := by
    simp [Bus.backlog, Bus.subscribe, Bus.place]
  exact congrArg (fun backlog => max 1 (backlog + 1)) nothing

theorem Change.capacity_eq (change : Change parties course after) :
    after.around.bus.capacity = course.around.bus.capacity := by
  cases change with
  | turned turn => exact turn.outline.capacity_eq
  | noticed notice => exact Bus.publish_capacity _ _
  | _ => rfl

theorem Change.workload_le (change : Change parties course after)
    (sound : course.Sound) :
    after.workload + course.othersNotices ≤
      course.workload + after.othersNotices := by
  cases change with
  | turned turn =>
    rw [othersNotices, othersNotices, countOf_turned ignoresRequests_isNotice,
      turn.outline.countP_isNotice]
    exact Nat.add_le_add_right (turn.outline.workload_le sound.serves) _
  | passed stage keepsUp unread statusOnly =>
    have nearer :=
      sound.serves.backlog_moved
        (course.around.bus.place course.loop.receiver + 1)
    refine Nat.add_le_add_right ?_ _
    simp only [workload, Loop.workload, withBus, nearer]
    unfold Bus.backlog
    omega
  | noticed notice =>
    have further := sound.serves.backlog_publish notice
    have counted : othersNotices ((course.note [.noticed notice]).withBus
        (course.around.bus.publish notice)) = course.othersNotices + 1 :=
      countOf_note _ _ _
    rw [counted]
    simp only [workload, Loop.workload, withBus, note, further]
    omega
  | cancelled =>
    have counted : countOf Occurrence.isNotice (course.note [.cancelled]).log =
        course.othersNotices := countOf_note _ _ _
    exact Nat.add_le_add (Nat.le_refl _) (Nat.le_of_eq counted.symm)
  | quiet now outside own =>
    simp only [workload, Loop.workload, Bus.backlog, Bus.place_others own]
    exact Nat.le_refl _

/-- In every run, no wait ends with a lag as long as the workload and all that
others put on the bus from then on fit on it together. -/
theorem lags_eq_of_room (sound : course.Sound) (moves : List (Move Outside))
    (room : course.workload + (course.play parties moves).othersNotices ≤
      course.around.bus.capacity + course.othersNotices) :
    (course.play parties moves).lags = course.lags := by
  -- What has to fit only grows, so that it has fitted all along if it fits in
  -- the end.
  refine (sound.play_keeps (fun reached =>
      reached.around.bus.capacity = course.around.bus.capacity ∧
      reached.workload + course.othersNotices ≤
        course.workload + reached.othersNotices ∧
      (course.workload + reached.othersNotices ≤
          course.around.bus.capacity + course.othersNotices →
        reached.lags = course.lags)) ?_ ⟨rfl, Nat.le_refl _,
          fun _ => rfl⟩ moves).2.2 room
  rintro before after soundBefore change ⟨capacity, workload, kept⟩
  have grows : before.othersNotices ≤ after.othersNotices := change.countOf_le _
  have further := change.workload_le soundBefore
  refine ⟨change.capacity_eq.trans capacity, by omega, fun roomAfter => ?_⟩
  rw [← kept (by omega)]
  cases change with
  | turned turn =>
    have fits : before.workload ≤ before.around.bus.capacity := by omega
    rw [lags, countOf_turned ignoresRequests_isLag,
      turn.outline.lagless_of_room soundBefore.serves fits]
    rfl
  | noticed notice => exact countOf_note _ _ _
  | cancelled => exact countOf_note _ _ _
  | _ => rfl

end Changes

end Course

end Switchyard.Control
