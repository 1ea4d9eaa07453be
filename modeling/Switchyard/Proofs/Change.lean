import Switchyard.Proofs.Turn

/-!
# What a move changes

A course is sound when its loop is proper and has its place on a sound bus.
Every course of a run is sound, and every move from a sound course is one of
five changes, of which the turns of the loop are one. To prove that a whole run
keeps something it is enough to go through the changes: `Sound.play_keeps`.
-/

namespace Switchyard.Control

open Routine (Exchange Reaches)

variable {Outside : Type}

namespace Loop

def settings (loop : Loop) : Timing × Locale × Nat :=
  (loop.timing, loop.locale, loop.receiver)

theorem afterReading_idle {policy : Policy} {report : Report}
    (idle : idleReport? policy = some report) (loop : Loop) (now : Nat) :
    loop.afterReading now (.ok policy) = { loop with retry := none }.beginReport
      report none := by
  simp [afterReading, idle]

theorem afterReading_busy {policy : Policy} (busy : idleReport? policy = none)
    (loop : Loop) (now : Nat) :
    loop.afterReading now (.ok policy) =
      { loop with
        tally := loop.tally.countEvaluation
        stage := .evaluating policy now
          (evaluate loop.timing policy (loop.lastSwitch.map fun last =>
            now - last)) } := by
  simp [afterReading, busy]

@[simp]
theorem settings_afterReading (loop : Loop) (now : Nat)
    (read : Except StoreError Policy) :
    (loop.afterReading now read).settings = loop.settings := by
  cases read with
  | error error => rfl
  | ok policy =>
    cases idle : idleReport? policy with
    | some report => rw [afterReading_idle idle]; rfl
    | none => rw [afterReading_busy idle]; rfl

@[simp]
theorem settings_noteVerdict (loop : Loop) (began : Nat) (verdict : Verdict) :
    (loop.noteVerdict began verdict).settings = loop.settings := by
  cases verdict <;> rfl

@[simp]
theorem settings_beginReport (loop : Loop) (report : Report)
    (interval : Option Nat) :
    (loop.beginReport report interval).settings = loop.settings := rfl

@[simp]
theorem settings_afterEvaluation (loop : Loop) (policy : Policy) (began : Nat)
    (result : Except ControllerError Evaluation) :
    (loop.afterEvaluation policy began result).settings = loop.settings := by
  cases result with
  | error error => rfl
  | ok evaluation => simp [afterEvaluation]

@[simp]
theorem settings_afterReport (loop : Loop) (now : Nat) (interval : Option Nat) :
    (loop.afterReport now interval).settings = loop.settings := by
  cases interval <;> rfl

@[simp]
theorem settings_afterWait (loop : Loop) (wake : Wake) :
    (loop.afterWait wake).settings = loop.settings := by
  cases wake with
  | event notice => simp only [afterWait]; split <;> rfl
  | _ => rfl

theorem proper_beginReport (loop : Loop) (report : Report)
    (interval : Option Nat) :
    (loop.beginReport report interval).Proper := ⟨report, rfl⟩

theorem proper_afterReading (loop : Loop) (now : Nat)
    (read : Except StoreError Policy) :
    (loop.afterReading now read).Proper := by
  cases read with
  | error error => exact proper_beginReport _ _ _
  | ok policy =>
    cases idle : idleReport? policy with
    | some report => rw [afterReading_idle idle]; exact proper_beginReport _ _ _
    | none => rw [afterReading_busy idle]; exact ⟨[], .here _⟩

theorem proper_afterEvaluation (loop : Loop) (policy : Policy) (began : Nat)
    (result : Except ControllerError Evaluation) :
    (loop.afterEvaluation policy began result).Proper := by
  cases result <;> exact proper_beginReport _ _ _

theorem stage_afterReport (loop : Loop) (now : Nat) (interval : Option Nat) :
    ∃ deadline, (loop.afterReport now interval).stage = .waiting deadline := by
  cases interval <;> exact ⟨_, rfl⟩

theorem proper_afterReport (loop : Loop) (now : Nat) (interval : Option Nat) :
    (loop.afterReport now interval).Proper := by
  cases interval <;> trivial

theorem proper_afterWait (loop : Loop) (wake : Wake) :
    (loop.afterWait wake).Proper := by
  cases wake with
  | event notice => simp only [afterWait]; split <;> trivial
  | _ => trivial

end Loop

section Turns

variable {parties : Parties Outside} {loop after : Loop}
  {around next : Surroundings Outside} {goesOn : Bool} {shown : List Occurrence}

theorem Turn.settings_eq
    (turn : Turn parties loop around after next goesOn shown) :
    after.settings = loop.settings := by
  cases turn <;> first | rfl | simp

theorem Turn.receiver_eq
    (turn : Turn parties loop around after next goesOn shown) :
    after.receiver = loop.receiver :=
  congrArg (·.2.2) turn.settings_eq

theorem Turn.proper (turn : Turn parties loop around after next goesOn shown)
    (proper : loop.Proper) : after.Proper := by
  cases turn with
  | stays stage => exact proper
  | refused stage cancelled => trivial
  | begins stage goingOn => trivial
  | asksPolicy stage withheld outside => exact proper
  | reads stage read outside => exact Loop.proper_afterReading _ _ _
  | breaksOff stage cancelled => trivial
  | evaluates stage goingOn withheld reaches outside =>
    rw [Loop.Proper, stage] at proper
    obtain ⟨before, reached⟩ := proper
    exact ⟨_, reached.trans reaches⟩
  | concludes stage goingOn reaches outside =>
    exact Loop.proper_afterEvaluation _ _ _ _
  | records stage withheld outside => exact ⟨_, rfl⟩
  | announces stage kept outside => exact Loop.proper_afterReport _ _ _
  | leaves stage cancelled => trivial
  | lags stage goingOn behind => trivial
  | hears stage goingOn keepsUp unread statuses relevant =>
    exact Loop.proper_afterWait _ _
  | rests stage goingOn keepsUp statuses early => exact proper
  | timesOut stage goingOn keepsUp statuses due => trivial

theorem Turn.serves (turn : Turn parties loop around after next goesOn shown)
    (serves : around.bus.Serves loop.receiver) :
    next.bus.Serves loop.receiver := by
  cases turn with
  | announces stage kept outside => exact serves.publish _
  | lags stage goingOn behind => exact serves.moved (Nat.sub_le _ _)
  | hears stage goingOn keepsUp unread statuses relevant =>
    exact serves.moved (serves.past_le keepsUp unread)
  | rests stage goingOn keepsUp statuses early =>
    exact serves.moved (Nat.le_refl _)
  | timesOut stage goingOn keepsUp statuses due =>
    exact serves.moved (Nat.le_refl _)
  | _ => exact serves

end Turns

namespace Course

/-- What holds of every course of a run. -/
structure Sound (course : Course Outside) : Prop where
  proper : course.loop.Proper
  serves : course.around.bus.Serves course.loop.receiver

theorem sound_start (timing : Timing) (locale : Locale)
    {around : Surroundings Outside} (sound : around.bus.Sound) :
    (start timing locale around).Sound :=
  ⟨trivial, sound.serves_subscribe⟩

/-- All that a move can do to a course. -/
inductive Change (parties : Parties Outside) (course : Course Outside) :
    Course Outside → Prop where
  | turned {loop : Loop} {around : Surroundings Outside} {goesOn : Bool}
    {shown : List Occurrence}
    (turn : Turn parties course.loop course.around loop around goesOn shown) :
    Change parties course (course.turned loop around goesOn shown)
  | passed {deadline : Option Nat} {notice : Notice} {later : List Notice}
    (stage : course.loop.stage = .waiting deadline)
    (keepsUp : ¬ course.around.bus.IsBehind course.loop.receiver)
    (unread : course.around.bus.unread course.loop.receiver = notice :: later)
    (statusOnly : notice.isStatusOnly = true) :
    Change parties course
      (course.withBus (course.around.bus.moved course.loop.receiver
        (course.around.bus.place course.loop.receiver + 1)))
  | noticed (notice : Notice) :
    Change parties course
      ((course.note [.noticed notice]).withBus
        (course.around.bus.publish notice))
  | cancelled :
    Change parties course
      { course.note [.cancelled] with
        around := { course.around with isCancelled := true } }
  /-- Nothing happens that the loop's receiver or its cancellation would
  show. -/
  | quiet (now : Nat) (outside : Outside) {places : List (Option Nat)}
    (own : places[course.loop.receiver]? =
      course.around.bus.places[course.loop.receiver]?) :
    Change parties course
      { course with
        around := ⟨outside, now, course.around.isCancelled,
          { course.around.bus with places := places }⟩ }

section Changes

variable {parties : Parties Outside} {course after : Course Outside}

theorem change_passOver (sound : course.Sound) :
    Change parties course course.passOver := by
  have same : Change parties course course :=
    .quiet course.around.now course.around.outside rfl
  unfold passOver
  cases stage : course.loop.stage with
  | waiting deadline =>
    rcases sound.serves.receive_cases with
      ⟨-, received⟩ | ⟨notice, later, keepsUp, unread, received⟩ |
        ⟨-, -, received⟩
    · rw [received]
      exact same
    · rw [received]
      cases statusOnly : notice.isStatusOnly with
      | true =>
        simp only [statusOnly, if_true]
        exact .passed stage keepsUp unread statusOnly
      | false =>
        simp only [statusOnly, Bool.false_eq_true, if_false]
        exact same
    · rw [received]
      exact same
  | _ => exact same

theorem change_move (parties : Parties Outside) (sound : course.Sound)
    (move : Move Outside) :
    Change parties course (course.move parties move) := by
  cases move with
  | step => exact .turned (turn_step sound.proper sound.serves)
  | passOver => exact change_passOver sound
  | notice notice => exact .noticed notice
  | cancel => exact .cancelled
  | pass length =>
    exact .quiet (course.around.now + length) course.around.outside rfl
  | outside next => exact .quiet course.around.now next rfl
  | receivers places =>
    simp only [Course.move]
    split
    · next own => exact .quiet course.around.now course.around.outside own
    · exact .quiet course.around.now course.around.outside rfl

theorem Change.sound (change : Change parties course after)
    (sound : course.Sound) :
    after.Sound := by
  cases change with
  | turned turn =>
    refine ⟨turn.proper sound.proper, ?_⟩
    simp only [Course.turned, turn.receiver_eq]
    exact turn.serves sound.serves
  | @passed deadline notice later stage keepsUp unread statusOnly =>
    have first : course.around.bus.unread course.loop.receiver =
      [] ++ notice :: later := unread
    exact ⟨sound.proper,
      sound.serves.moved (sound.serves.past_le keepsUp first)⟩
  | noticed notice => exact ⟨sound.proper, sound.serves.publish notice⟩
  | cancelled => exact ⟨sound.proper, sound.serves⟩
  | quiet now outside own => exact ⟨sound.proper, sound.serves.others own⟩

theorem Change.timing_eq (change : Change parties course after) :
    after.loop.timing = course.loop.timing := by
  cases change with
  | turned turn => exact congrArg (·.1) turn.settings_eq
  | _ => rfl

theorem Change.log_grows (change : Change parties course after) :
    ∃ later, after.log = course.log ++ later := by
  cases change with
  | turned turn => exact ⟨_, rfl⟩
  | noticed notice => exact ⟨_, rfl⟩
  | cancelled => exact ⟨_, rfl⟩
  | passed stage keepsUp unread statusOnly =>
    exact ⟨[], (List.append_nil _).symm⟩
  | quiet now outside own => exact ⟨[], (List.append_nil _).symm⟩

theorem Change.countOf_le (change : Change parties course after)
    (kind : Occurrence → Bool) :
    countOf kind course.log ≤ countOf kind after.log := by
  obtain ⟨later, log⟩ := change.log_grows
  rw [log, countOf_append]
  exact Nat.le_add_right _ _

/-- What holds of a sound course and is kept by every change holds after all
moves. -/
theorem Sound.play_keeps (Kept : Course Outside → Prop) (sound : course.Sound)
    (keeps : ∀ {before after : Course Outside}, before.Sound →
      Change parties before after → Kept before → Kept after)
    (kept : Kept course) (moves : List (Move Outside)) :
    Kept (course.play parties moves) := by
  induction moves generalizing course with
  | nil => exact kept
  | cons move moves movesFact =>
    have change := change_move parties sound move
    exact movesFact (change.sound sound) (keeps sound change kept)

theorem Sound.play (sound : course.Sound) (moves : List (Move Outside)) :
    (course.play parties moves).Sound :=
  sound.play_keeps Sound (fun before change _ => change.sound before)
    sound moves

end Changes

end Course

end Switchyard.Control
