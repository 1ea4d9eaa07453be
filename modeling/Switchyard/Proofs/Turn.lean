import Switchyard.Proofs.Course
import Switchyard.Proofs.Evaluation
import Switchyard.Proofs.Receiver

/-!
# Turns of the loop

A turn is one step of the loop as seen from outside: what it asked and was told,
which stage it got to, and what it did to the bus. `turn_step` says that every
step of a proper loop is one of a dozen turns, and is the only place where a
step is opened; everything else on runs is a case analysis over turns. A loop is
proper when the work it has in hand is what is left of an evaluation or of an
announcement, and every move keeps it so.
-/

namespace Switchyard.Control

open Routine (Exchange Reaches Uses)

variable {Outside : Type}

def Prompt (parties : Parties Outside) : Prop :=
  ∀ request now outside, (parties request now outside).1.isSome

/-- Parties that answer every request at once and in the same way each time: the
store has a policy, the controller has a group and takes every move, and there
is no active profile. -/
def obliging (policy : Policy) (group : Group) :
    Parties Unit := fun request _ _ =>
  (some (match request with
    | .readPolicy => .ok policy
    | .readStored => .ok policy
    | .writePolicy _ => .ok ()
    | .recordStatus _ => .ok ()
    | .publish _ => ()
    | .activeProfile => none
    | .remember _ => .ok ()
    | .probe _ _ => .finished (.ok ())
    | .query _ _ => .ok group
    | .apply _ _ => .ok true
    | .pause _ => ()), ())

theorem prompt_obliging (policy : Policy) (group : Group) :
    Prompt (obliging policy group) :=
  fun _ _ _ => rfl

def Surroundings.fresh (capacity : Nat) : Surroundings Unit :=
  ⟨(), 0, false, .withCapacity capacity⟩

theorem sound_fresh (capacity : Nat) :
    (Surroundings.fresh capacity).bus.Sound :=
  Bus.sound_withCapacity capacity

theorem answer_isSome_of_prompt {parties : Parties Outside}
    (prompt : Prompt parties) (request : Request)
    (around : Surroundings Outside) :
    (Surroundings.answer parties request around).1.isSome := by
  cases request <;> first | rfl | exact prompt _ _ _

theorem answer_of_isForEvaluation {parties : Parties Outside}
    {request : Request} (around : Surroundings Outside)
    (allowed : request.isForEvaluation = true) :
    Surroundings.answer parties request around =
      ((parties request around.now around.outside).1,
        { around with
          outside := (parties request around.now around.outside).2 }) := by
  cases request <;> first | rfl | cases allowed

theorem answer_of_policy (parties : Parties Outside)
    (around : Surroundings Outside) :
    Surroundings.answer parties .readPolicy around =
      ((parties .readPolicy around.now around.outside).1,
        { around with
          outside := (parties .readPolicy around.now around.outside).2 }) := rfl

theorem answer_of_status (parties : Parties Outside) (message : String)
    (around : Surroundings Outside) :
    Surroundings.answer parties (.recordStatus message) around =
      ((parties (.recordStatus message) around.now around.outside).1,
        { around with
          outside :=
            (parties (.recordStatus message) around.now around.outside).2 }) :=
  rfl

/-- What is said in an evaluation changes nothing but what is outside. -/
theorem run_evaluation {Result : Type} (parties : Parties Outside)
    {rest : Work Result} (uses : rest.Uses (·.isForEvaluation = true))
    (around : Surroundings Outside) :
    ∃ outside, (rest.run (Surroundings.answer parties) around).2 =
      { around with outside := outside } := by
  refine Routine.run_relates (Surroundings.answer parties)
    (fun before after => ∃ outside, after = { before with outside := outside })
    (fun state => ⟨state.outside, rfl⟩) ?_ ?_ uses around
  · rintro first second third ⟨outside, rfl⟩ ⟨next, rfl⟩
    exact ⟨next, rfl⟩
  · intro request state allowed
    rw [answer_of_isForEvaluation state allowed]
    exact ⟨_, rfl⟩

/-- Whether the work that the loop has in hand is what is left of an evaluation
of its policy, or the announcement of a report from its beginning. -/
def Loop.Proper (loop : Loop) : Prop :=
  match loop.stage with
  | .evaluating policy began rest =>
    ∃ exchanges,
      Reaches (evaluate loop.timing policy (loop.lastSwitch.map fun last =>
          began - last))
        exchanges rest
  | .reporting rest _ => ∃ report, rest = Loop.announce loop.locale report
  | _ => True

/-- All that one step of a loop can do: the loop and its surroundings
afterwards, whether the loop can go on at once, and what the step shows. -/
inductive Turn (parties : Parties Outside) (loop : Loop)
    (around : Surroundings Outside) :
    Loop → Surroundings Outside → Bool → List Occurrence → Prop where
  | stays {exit : Exit} (stage : loop.stage = .ended exit) :
    Turn parties loop around loop around false []
  | refused (stage : loop.stage = .opening)
    (cancelled : around.isCancelled = true) :
    Turn parties loop around { loop with stage := .ended .cancelled }
      around true []
  | begins (stage : loop.stage = .opening)
    (goingOn : around.isCancelled = false) :
    Turn parties loop around
      { loop with tally := loop.tally.countCycle, stage := .reading } around
      true [.began]
  /-- The policy is asked for, and the answer takes time. -/
  | asksPolicy (stage : loop.stage = .reading) (withheld : ¬ Prompt parties)
    (outside : Outside) :
      Turn parties loop around loop { around with outside := outside } false
        [.asked .readPolicy]
  | reads (stage : loop.stage = .reading) (read : Except StoreError Policy)
    (outside : Outside) :
      Turn parties loop around (loop.afterReading around.now read)
        { around with outside := outside } true [.asked .readPolicy,
          .answered .readPolicy read]
  | breaksOff {policy : Policy} {began : Nat}
    {rest : Work (Except ControllerError Evaluation)}
    (stage : loop.stage = .evaluating policy began rest)
    (cancelled : around.isCancelled = true) :
    Turn parties loop around { loop with stage := .ended .cancelled }
      around true []
  /-- The evaluation goes on up to a request whose answer takes time. -/
  | evaluates {policy : Policy} {began : Nat}
    {rest : Work (Except ControllerError Evaluation)}
    (stage : loop.stage = .evaluating policy began rest)
    (goingOn : around.isCancelled = false) (withheld : ¬ Prompt parties)
    {exchanges : List (Exchange Request.Answer)} {request : Request}
    {resume : request.Answer → Work (Except ControllerError Evaluation)}
    (reaches : Reaches rest exchanges (.ask request resume))
    (outside : Outside) :
      Turn parties loop around { loop with
          stage := .evaluating policy began (.ask request resume) }
        { around with outside := outside } false
        (told exchanges ++ [.asked request])
  | concludes {policy : Policy} {began : Nat}
    {rest : Work (Except ControllerError Evaluation)}
    (stage : loop.stage = .evaluating policy began rest)
    (goingOn : around.isCancelled = false)
    {exchanges : List (Exchange Request.Answer)}
    {result : Except ControllerError Evaluation}
    (reaches : Reaches rest exchanges (.done result)) (outside : Outside) :
    Turn parties loop around (loop.afterEvaluation policy began result)
      { around with outside := outside } true (told exchanges)
  /-- The status is to be kept, and the answer takes time. -/
  | records {interval : Option Nat} {report : Report}
    (stage : loop.stage =
      .reporting (Loop.announce loop.locale report) interval)
    (withheld : ¬ Prompt parties) (outside : Outside) :
    Turn parties loop around
      { loop with
        stage := .reporting (Loop.announce loop.locale report) interval }
      { around with outside := outside } false
      [.asked (.recordStatus (report.text loop.locale))]
  | announces {interval : Option Nat} {report : Report}
    (stage : loop.stage =
      .reporting (Loop.announce loop.locale report) interval)
    (kept : Except StoreError Unit) (outside : Outside) :
    Turn parties loop around (loop.afterReport around.now interval)
      { around with
        outside := outside, bus := around.bus.publish .statusChanged } true
      [.asked (.recordStatus (report.text loop.locale)),
        .answered (.recordStatus (report.text loop.locale)) kept,
        .asked (.publish .statusChanged),
        .answered (.publish .statusChanged) ()]
  | leaves {deadline : Option Nat} (stage : loop.stage = .waiting deadline)
    (cancelled : around.isCancelled = true) :
    Turn parties loop around { loop with stage := .ended .cancelled } around
      true [.woke .cancelled]
  | lags {deadline : Option Nat} (stage : loop.stage = .waiting deadline)
    (goingOn : around.isCancelled = false)
    (behind : around.bus.IsBehind loop.receiver) : Turn parties loop around
      { loop with tally := loop.tally.countWakeup true, stage := .opening }
      { around with bus := around.bus.moved loop.receiver around.bus.oldest }
      true
      [.woke (.lagged (around.bus.oldest - around.bus.place loop.receiver))]
  | hears {deadline : Option Nat} (stage : loop.stage = .waiting deadline)
    (goingOn : around.isCancelled = false)
    (keepsUp : ¬ around.bus.IsBehind loop.receiver)
    {skipped later : List Notice} {notice : Notice}
    (unread : around.bus.unread loop.receiver = skipped ++ notice :: later)
    (statuses : ∀ passed ∈ skipped, passed.isStatusOnly = true)
    (relevant : notice.isStatusOnly = false) :
    Turn parties loop around (loop.afterWait (.event notice))
      { around with
        bus := around.bus.moved loop.receiver
          (around.bus.place loop.receiver + skipped.length + 1) } true
      [.woke (.event notice)]
  | rests {deadline : Option Nat} (stage : loop.stage = .waiting deadline)
    (goingOn : around.isCancelled = false)
    (keepsUp : ¬ around.bus.IsBehind loop.receiver)
    (statuses : ∀ passed ∈ around.bus.unread loop.receiver,
      passed.isStatusOnly = true)
    (early : Wake.isDue around.now deadline = false) :
    Turn parties loop around loop
      { around with bus := around.bus.moved loop.receiver around.bus.sent }
      false [.rested]
  | timesOut {deadline : Option Nat} (stage : loop.stage = .waiting deadline)
    (goingOn : around.isCancelled = false)
    (keepsUp : ¬ around.bus.IsBehind loop.receiver)
    (statuses : ∀ passed ∈ around.bus.unread loop.receiver,
      passed.isStatusOnly = true)
    (due : Wake.isDue around.now deadline = true) :
    Turn parties loop around
      { loop with tally := loop.tally.countWakeup false, stage := .opening }
      { around with bus := around.bus.moved loop.receiver around.bus.sent } true
      [.woke .timeout]

section Steps

variable {parties : Parties Outside} {loop : Loop}
  {around : Surroundings Outside}

theorem turn_opening (stage : loop.stage = .opening) :
    Turn parties loop around (loop.step parties around).loop
      (loop.step parties around).around (loop.step parties around).goesOn
      (loop.occurrences parties around) := by
  cases cancelled : around.isCancelled with
  | true =>
    simp only [Loop.step, Loop.occurrences, stage, cancelled, if_true]
    exact .refused stage cancelled
  | false =>
    simp only [Loop.step, Loop.occurrences, stage, cancelled,
      Bool.false_eq_true, if_false]
    exact .begins stage cancelled

theorem turn_reading (stage : loop.stage = .reading) :
    Turn parties loop around (loop.step parties around).loop
      (loop.step parties around).around (loop.step parties around).goesOn
      (loop.occurrences parties around) := by
  have answer := answer_of_policy parties around
  rcases given : parties .readPolicy around.now around.outside with
    ⟨read, outside⟩
  cases read with
  | some read =>
    rw [given] at answer
    simp only [Loop.step, Loop.occurrences, stage, dialogue, ask, Routine.call,
      Routine.exchanges, Routine.run, answer]
    exact .reads stage read outside
  | none =>
    rw [given] at answer
    have withheld : ¬ Prompt parties := by
      intro prompt
      simpa [given] using prompt .readPolicy around.now around.outside
    simp only [Loop.step, Loop.occurrences, stage, dialogue, ask, Routine.call,
      Routine.exchanges, Routine.run, answer]
    exact .asksPolicy stage withheld outside

theorem turn_evaluating {policy : Policy} {began : Nat}
    {rest : Work (Except ControllerError Evaluation)}
    (stage : loop.stage = .evaluating policy began rest)
    (uses : rest.Uses (·.isForEvaluation = true)) :
    Turn parties loop around (loop.step parties around).loop
      (loop.step parties around).around (loop.step parties around).goesOn
      (loop.occurrences parties around) := by
  cases cancelled : around.isCancelled with
  | true =>
    simp only [Loop.step, Loop.occurrences, stage, cancelled, if_true]
    exact .breaksOff stage cancelled
  | false =>
    have reaches :=
      Routine.reaches_run (Surroundings.answer parties) rest around
    have done := fun prompt : Prompt parties => Routine.run_done_of_prompt
      (Surroundings.answer parties) (answer_isSome_of_prompt prompt) rest around
    obtain ⟨outside, aroundFact⟩ := run_evaluation parties uses around
    simp only [Loop.step, Loop.occurrences, stage, cancelled,
      Bool.false_eq_true, if_false, dialogue]
    rcases carried : rest.run (Surroundings.answer parties) around with
      ⟨left, later⟩
    cases left with
    | done result =>
      simp only [carried] at reaches aroundFact ⊢
      subst aroundFact
      rw [awaited, List.append_nil]
      exact .concludes stage cancelled reaches outside
    | ask request resume =>
      -- Somebody has withheld an answer, or the evaluation would be done.
      simp only [carried] at reaches aroundFact done ⊢
      subst aroundFact
      have withheld : ¬ Prompt parties := by
        intro prompt
        obtain ⟨result, finished⟩ := done prompt
        cases finished
      exact .evaluates stage cancelled withheld reaches outside

theorem turn_reporting {report : Report} {interval : Option Nat}
    (stage : loop.stage =
      .reporting (Loop.announce loop.locale report) interval) :
    Turn parties loop around (loop.step parties around).loop
      (loop.step parties around).around (loop.step parties around).goesOn
      (loop.occurrences parties around) := by
  have answer := answer_of_status parties (report.text loop.locale) around
  have announce : Loop.announce loop.locale report =
      .ask (.recordStatus (report.text loop.locale)) fun _ =>
        .ask (.publish .statusChanged) .done := rfl
  rcases given : parties (.recordStatus (report.text loop.locale)) around.now
      around.outside with
    ⟨kept, outside⟩
  cases kept with
  | some kept =>
    rw [given] at answer
    simp only [Loop.step, Loop.occurrences, stage, announce, dialogue,
      Routine.exchanges, Routine.run, answer]
    exact .announces stage kept outside
  | none =>
    rw [given] at answer
    have withheld : ¬ Prompt parties := by
      intro prompt
      simpa [given] using
        prompt (.recordStatus (report.text loop.locale)) around.now
          around.outside
    simp only [Loop.step, Loop.occurrences, stage, announce, dialogue,
      Routine.exchanges, Routine.run, answer]
    exact .records stage withheld outside

theorem turn_waiting {deadline : Option Nat}
    (stage : loop.stage = .waiting deadline)
    (serves : around.bus.Serves loop.receiver) :
    Turn parties loop around (loop.step parties around).loop
      (loop.step parties around).around (loop.step parties around).goesOn
      (loop.occurrences parties around) := by
  simp only [Loop.step, Loop.occurrences, stage]
  by_cases cancelled : around.isCancelled = true
  · have look : Wake.look loop.receiver deadline around.now
        around.isCancelled around.bus = (some .cancelled, around.bus) := by
      simp [Wake.look, cancelled]
    simp only [look]
    exact .leaves stage cancelled
  · have goingOn : around.isCancelled = false := Bool.eq_false_iff.2 cancelled
    have finding := serves.receiveRelevant_finding
    have look :=
      Wake.look.eq_def loop.receiver deadline around.now
        around.isCancelled around.bus
    rw [if_neg cancelled] at look
    generalize around.bus.receiveRelevant loop.receiver = found at finding look
    obtain ⟨reception, bus⟩ := found
    cases finding with
    | missed behind =>
      simp only [look]
      exact .lags stage goingOn behind
    | notice keepsUp unread statuses relevant =>
      simp only [look]
      exact .hears stage goingOn keepsUp unread statuses relevant
    | nothing keepsUp statuses =>
      cases due : Wake.isDue around.now deadline with
      | true =>
        simp only [look, due, if_true]
        exact .timesOut stage goingOn keepsUp statuses due
      | false =>
        simp only [look, due, Bool.false_eq_true, if_false]
        exact .rests stage goingOn keepsUp statuses due

/-- Every step of a proper loop is one of its turns. -/
theorem turn_step (proper : loop.Proper)
    (serves : around.bus.Serves loop.receiver) :
    Turn parties loop around (loop.step parties around).loop
      (loop.step parties around).around (loop.step parties around).goesOn
      (loop.occurrences parties around) := by
  cases stage : loop.stage with
  | opening => exact turn_opening stage
  | reading => exact turn_reading stage
  | evaluating policy began rest =>
    rw [Loop.Proper, stage] at proper
    obtain ⟨exchanges, reaches⟩ := proper
    exact turn_evaluating stage ((uses_evaluate _ _ _).reached reaches)
  | reporting rest interval =>
    rw [Loop.Proper, stage] at proper
    obtain ⟨report, rfl⟩ := proper
    exact turn_reporting stage
  | waiting deadline => exact turn_waiting stage serves
  | ended exit =>
    simp only [Loop.step, Loop.occurrences, stage]
    exact .stays stage

end Steps

end Switchyard.Control
