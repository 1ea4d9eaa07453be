import Switchyard.Proofs.Change

/-!
# Turns in outline

Most turns have nothing to do with the bus: they make requests, and get the loop
nearer to its next wait. The outline of a turn tells these apart from the few
that begin a cycle, announce a status, or look for notices. What is proved about
the traffic on the bus needs no more than the outline.
-/

namespace Switchyard.Control

open Routine (Exchange)

variable {Outside : Type}

namespace Stage

/-- How many stages there are at most up to the next wait. -/
def toWait : Stage → Nat
  | .opening => 4
  | .reading => 3
  | .evaluating _ _ _ => 2
  | .reporting _ _ => 1
  | .waiting _ => 0
  | .ended _ => 0

/-- Whether a status will be announced before the next wait, as long as nobody
cancels the run. -/
def owesStatus (stage : Stage) : Bool := stage.toWait != 0

def isOver : Stage → Bool
  | .ended _ => true
  | _ => false

def isOpening : Stage → Bool
  | .opening => true
  | _ => false

def isEvaluating : Stage → Bool
  | .evaluating _ _ _ => true
  | _ => false

/-- The deadline of a wait. -/
def deadline? : Stage → Option (Option Nat)
  | .waiting deadline => some deadline
  | _ => none

theorem exists_of_isEvaluating {stage : Stage}
    (isEvaluating : stage.isEvaluating = true) :
    ∃ policy began rest, stage = .evaluating policy began rest := by
  cases stage with
  | evaluating policy began rest => exact ⟨policy, began, rest, rfl⟩
  | _ => cases isEvaluating

theorem eq_of_deadline? {stage : Stage} {deadline : Option Nat}
    (waits : stage.deadline? = some deadline) : stage = .waiting deadline := by
  cases stage with
  | waiting other => exact congrArg Stage.waiting (Option.some.inj waits)
  | _ => cases waits

theorem isOpening_eq_false {stage : Stage} (notOpening : stage ≠ .opening) :
    stage.isOpening = false := by
  cases stage <;> first | rfl | exact absurd rfl notOpening

theorem exists_exit {stage : Stage} (isOver : stage.isOver = true) :
    ∃ exit, stage = .ended exit := by
  cases stage with
  | ended exit => exact ⟨exit, rfl⟩
  | _ => cases isOver

theorem toWait_le (stage : Stage) : stage.toWait ≤ 4 := by
  cases stage <;> simp [toWait]

end Stage

namespace Loop

theorem exit?_eq {loop : Loop} {exit : Exit} :
    loop.exit? = some exit ↔ loop.stage = .ended exit := by
  unfold exit?
  cases stage : loop.stage <;> simp

theorem isOver_of_exit? {loop : Loop} (running : loop.exit? = none) :
    loop.stage.isOver = false := by
  cases stage : loop.stage with
  | ended exit => simp [exit?, stage] at running
  | _ => rfl

end Loop

def Occurrence.isSpoken : Occurrence → Bool
  | .asked _ => true
  | .answered _ _ => true
  | _ => false

theorem news_of_not_isSpoken {occurrence : Occurrence}
    (unspoken : occurrence.isSpoken = false)
    (isPending : Bool) (rest : List Occurrence) :
    news isPending (occurrence :: rest) = occurrence :: rest := by
  cases isPending with
  | false => rfl
  | true => cases occurrence <;> first | rfl | cases unspoken

theorem isSpoken_of_told {exchanges : List (Exchange Request.Answer)} :
    ∀ occurrence ∈ told exchanges, occurrence.isSpoken = true := by
  intro occurrence member
  obtain ⟨exchange, _, shows⟩ := List.mem_flatMap.1 member
  rw [List.mem_cons, List.mem_singleton] at shows
  rcases shows with rfl | rfl <;> rfl

theorem foundPlace_of_isSpoken {occurrence : Occurrence}
    (spoken : occurrence.isSpoken = true) :
    occurrence.foundPlace = false := by
  cases occurrence <;> first | rfl | cases spoken

theorem foundNothing_of_isSpoken {occurrence : Occurrence}
    (spoken : occurrence.isSpoken = true) :
    occurrence.foundNothing = false := by
  cases occurrence <;> first | rfl | cases spoken

/-- A look that finds nothing is no wake by something on the bus. -/
theorem isTrafficWake_of_foundNothing {occurrence : Occurrence}
    (found : occurrence.foundNothing = true) :
    occurrence.isTrafficWake = false ∧ occurrence.isStopWake = false ∧
      occurrence.isLag = false := by
  cases occurrence with
  | woke wake => cases wake <;> first | exact ⟨rfl, rfl, rfl⟩ | cases found
  | _ => exact ⟨rfl, rfl, rfl⟩

theorem countP_of_spoken {kind : Occurrence → Bool}
    (ignores : IgnoresRequests kind) {shown : List Occurrence}
    (spoken : ∀ occurrence ∈ shown, occurrence.isSpoken = true) :
    shown.countP kind = 0 := by
  refine List.countP_eq_zero.2 fun occurrence member => ?_
  have request := spoken occurrence member
  cases occurrence with
  | asked request => simp [ignores.1]
  | answered request answer => simp [ignores.2]
  | _ => cases request

/-- What holds of a turn that does not touch the bus and neither begins a cycle
nor looks for notices. -/
structure Aside (parties : Parties Outside) (loop : Loop)
    (around : Surroundings Outside) (after : Loop) (next : Surroundings Outside)
    (shown : List Occurrence) : Prop where
  bus : next.bus = around.bus
  isCancelled : next.isCancelled = around.isCancelled
  receiver : after.receiver = loop.receiver
  wakeups : after.tally.wakeupsByEvent = loop.tally.wakeupsByEvent
  spoken : ∀ occurrence ∈ shown, occurrence.isSpoken = true
  notWaiting : ∀ {deadline}, after.stage ≠ .waiting deadline
  notOpening : after.stage ≠ .opening
  refused : loop.stage = .opening → around.isCancelled = true
  stays : loop.stage.isOver = true → after.stage = loop.stage
  owes : after.stage.owesStatus = true → loop.stage.owesStatus = true
  ends : ∀ {exit}, after.stage = .ended exit →
    loop.stage = .ended exit ∨ exit = .cancelled ∧ around.isCancelled = true
  advances : Prompt parties → around.isCancelled = false →
    loop.stage.isOver = false → after.stage.toWait < loop.stage.toWait

/-- What a turn means for the bus and for the loop's receiver. -/
inductive Outline (parties : Parties Outside) (loop : Loop)
    (around : Surroundings Outside) :
    Loop → Surroundings Outside → List Occurrence → Prop where
  | aside {after : Loop} {next : Surroundings Outside} {shown : List Occurrence}
    (facts : Aside parties loop around after next shown) :
    Outline parties loop around after next shown
  | begins (stage : loop.stage = .opening) :
    Outline parties loop around { loop with
        tally := loop.tally.countCycle, stage := .reading }
      around [.began]
  | announces {interval : Option Nat} {rest : Work Unit} {deadline : Option Nat}
    {after : Loop} {outside : Outside} {shown : List Occurrence}
    (stage : loop.stage = .reporting rest interval)
    (waiting : after.stage = .waiting deadline)
    (receiver : after.receiver = loop.receiver)
    (wakeups : after.tally.wakeupsByEvent = loop.tally.wakeupsByEvent)
    (spoken : ∀ occurrence ∈ shown, occurrence.isSpoken = true) :
    Outline parties loop around after
      { around with
        outside := outside, bus := around.bus.publish .statusChanged } shown
  | leaves {deadline : Option Nat} (stage : loop.stage = .waiting deadline)
    (cancelled : around.isCancelled = true) :
    Outline parties loop around { loop with stage := .ended .cancelled } around
      [.woke .cancelled]
  | lags {deadline : Option Nat} (stage : loop.stage = .waiting deadline)
    (behind : around.bus.IsBehind loop.receiver) :
    Outline parties loop around
      { loop with tally := loop.tally.countWakeup true, stage := .opening }
      { around with bus := around.bus.moved loop.receiver around.bus.oldest }
      [.woke (.lagged (around.bus.oldest - around.bus.place loop.receiver))]
  | hears {deadline : Option Nat} (stage : loop.stage = .waiting deadline)
    (keepsUp : ¬ around.bus.IsBehind loop.receiver)
    {skipped later : List Notice} {notice : Notice}
    (unread : around.bus.unread loop.receiver = skipped ++ notice :: later)
    (statuses : ∀ passed ∈ skipped, passed.isStatusOnly = true)
    (relevant : notice.isStatusOnly = false) :
    Outline parties loop around (loop.afterWait (.event notice))
      { around with
        bus := around.bus.moved loop.receiver
          (around.bus.place loop.receiver + skipped.length + 1) }
      [.woke (.event notice)]
  | finds {deadline : Option Nat} (stage : loop.stage = .waiting deadline)
    (keepsUp : ¬ around.bus.IsBehind loop.receiver)
    (statuses : ∀ passed ∈ around.bus.unread loop.receiver,
      passed.isStatusOnly = true)
    {after : Loop} {occurrence : Occurrence}
    (found : occurrence.foundNothing = true)
    (receiver : after.receiver = loop.receiver)
    (wakeups : after.tally.wakeupsByEvent = loop.tally.wakeupsByEvent)
    (resting : after = loop ∨ after.stage = .opening) :
    Outline parties loop around after
      { around with bus := around.bus.moved loop.receiver around.bus.sent }
      [occurrence]

namespace Loop

theorem receiver_afterReading (loop : Loop) (now : Nat)
    (read : Except StoreError Policy) :
    (loop.afterReading now read).receiver = loop.receiver :=
  congrArg (·.2.2) (settings_afterReading loop now read)

theorem receiver_afterEvaluation (loop : Loop) (policy : Policy) (began : Nat)
    (result : Except ControllerError Evaluation) :
    (loop.afterEvaluation policy began result).receiver = loop.receiver :=
  congrArg (·.2.2) (settings_afterEvaluation loop policy began result)

theorem receiver_afterWait (loop : Loop) (wake : Wake) :
    (loop.afterWait wake).receiver = loop.receiver :=
  congrArg (·.2.2) (settings_afterWait loop wake)

theorem stage_afterReading (loop : Loop) (now : Nat)
    (read : Except StoreError Policy) :
    (∃ policy began rest,
        (loop.afterReading now read).stage = .evaluating policy began rest) ∨
      ∃ rest interval, (loop.afterReading now read).stage =
        .reporting rest interval := by
  cases read with
  | error error => exact .inr ⟨_, _, rfl⟩
  | ok policy =>
    cases idle : idleReport? policy with
    | some report => rw [afterReading_idle idle]; exact .inr ⟨_, _, rfl⟩
    | none => rw [afterReading_busy idle]; exact .inl ⟨_, _, _, rfl⟩

theorem wakeups_afterReading (loop : Loop) (now : Nat)
    (read : Except StoreError Policy) :
    (loop.afterReading now read).tally.wakeupsByEvent =
      loop.tally.wakeupsByEvent := by
  cases read with
  | error error => rfl
  | ok policy =>
    cases idle : idleReport? policy with
    | some report => rw [afterReading_idle idle]; rfl
    | none => rw [afterReading_busy idle]; rfl

theorem stage_afterEvaluation (loop : Loop) (policy : Policy) (began : Nat)
    (result : Except ControllerError Evaluation) :
    ∃ rest interval,
      (loop.afterEvaluation policy began result).stage =
        .reporting rest interval := by
  cases result <;> exact ⟨_, _, rfl⟩

theorem wakeups_afterEvaluation (loop : Loop) (policy : Policy) (began : Nat)
    (result : Except ControllerError Evaluation) :
    (loop.afterEvaluation policy began result).tally.wakeupsByEvent =
      loop.tally.wakeupsByEvent := by
  cases result with
  | error error => rfl
  | ok evaluation =>
    cases verdict :
      evaluation.verdict <;> simp [afterEvaluation, verdict] <;> rfl

theorem wakeups_afterReport (loop : Loop) (now : Nat) (interval : Option Nat) :
    (loop.afterReport now interval).tally.wakeupsByEvent =
      loop.tally.wakeupsByEvent := by
  cases interval <;> rfl

end Loop

section Turns

variable {parties : Parties Outside} {loop after : Loop}
  {around next : Surroundings Outside} {goesOn : Bool} {shown : List Occurrence}

theorem Turn.outline (turn : Turn parties loop around after next goesOn shown) :
    Outline parties loop around after next shown := by
  cases turn with
  | stays stage =>
    refine .aside ⟨rfl, rfl, rfl,
      rfl, by simp, ?_, ?_, ?_, fun _ => rfl, id, .inl, ?_⟩
    all_goals simp [stage, Stage.isOver, Stage.toWait]
  | refused stage cancelled =>
    refine .aside ⟨rfl, rfl, rfl,
      rfl, by simp, by simp, by simp, fun _ => cancelled, ?_, ?_, ?_, ?_⟩
    · simp [stage, Stage.isOver]
    · simp [Stage.owesStatus, Stage.toWait]
    · rintro exit ⟨⟩
      exact .inr ⟨rfl, cancelled⟩
    · simp [cancelled]
  | begins stage goingOn => exact .begins stage
  | asksPolicy stage withheld outside =>
    refine .aside ⟨rfl, rfl, rfl, rfl, ?_, ?_, ?_, ?_, fun _ => rfl, id, .inl,
      fun prompt => absurd prompt withheld⟩
    all_goals simp [stage, Occurrence.isSpoken]
  | reads stage read outside =>
    refine .aside ⟨rfl, rfl, loop.receiver_afterReading _ _,
      loop.wakeups_afterReading _ _, ?_, ?_, ?_, ?_, ?_, ?_, ?_, ?_⟩
    · simp [Occurrence.isSpoken]
    all_goals
      rcases loop.stage_afterReading around.now read with
        ⟨_, _, _, stageFact⟩ | ⟨_, _, stageFact⟩
    all_goals simp [stageFact, stage, Stage.isOver,
      Stage.owesStatus, Stage.toWait]
  | breaksOff stage cancelled =>
    refine .aside ⟨rfl, rfl, rfl,
      rfl, by simp, by simp, by simp, fun _ => cancelled, ?_, ?_, ?_, ?_⟩
    · simp [stage, Stage.isOver]
    · simp [Stage.owesStatus, Stage.toWait]
    · rintro exit ⟨⟩
      exact .inr ⟨rfl, cancelled⟩
    · simp [cancelled]
  | evaluates stage goingOn withheld reaches outside =>
    refine .aside ⟨rfl, rfl, rfl, rfl,
      ?_, by simp, by simp, ?_, ?_, ?_, by simp,
      fun prompt => absurd prompt withheld⟩
    · intro occurrence member
      rcases List.mem_append.1 member with inTold | last
      · exact isSpoken_of_told occurrence inTold
      · rw [List.mem_singleton.1 last]
        rfl
    all_goals simp [stage, Stage.isOver, Stage.owesStatus, Stage.toWait]
  | @concludes policy began rest stage goingOn exchanges result
      reaches outside =>
    obtain ⟨_, _, stageFact⟩ := loop.stage_afterEvaluation policy began result
    refine .aside ⟨rfl, rfl, loop.receiver_afterEvaluation _ _ _,
      loop.wakeups_afterEvaluation _ _ _, isSpoken_of_told, ?_, ?_, ?_,
      ?_, ?_, ?_, ?_⟩
    all_goals simp [stageFact, stage, Stage.isOver,
      Stage.owesStatus, Stage.toWait]
  | records stage withheld outside =>
    refine .aside ⟨rfl, rfl, rfl, rfl,
      ?_, by simp, by simp, ?_, ?_, ?_, by simp,
      fun prompt => absurd prompt withheld⟩
    all_goals simp [stage, Stage.isOver, Stage.owesStatus, Stage.toWait,
      Occurrence.isSpoken]
  | announces stage kept outside =>
    obtain ⟨deadline, waiting⟩ := loop.stage_afterReport around.now _
    refine .announces stage waiting
      (congrArg (·.2.2) (loop.settings_afterReport _ _))
      (loop.wakeups_afterReport _ _) ?_
    simp [Occurrence.isSpoken]
  | leaves stage cancelled => exact .leaves stage cancelled
  | lags stage goingOn behind => exact .lags stage behind
  | hears stage goingOn keepsUp unread statuses relevant =>
    exact .hears stage keepsUp unread statuses relevant
  | rests stage goingOn keepsUp statuses early =>
    exact .finds stage keepsUp statuses rfl rfl rfl (.inl rfl)
  | timesOut stage goingOn keepsUp statuses due =>
    exact .finds stage keepsUp statuses rfl rfl rfl (.inr rfl)

theorem Outline.isCancelled_eq
    (outline : Outline parties loop around after next shown) :
    next.isCancelled = around.isCancelled := by
  cases outline with
  | aside facts => exact facts.isCancelled
  | _ => rfl

/-- A turn shows a look that finds nothing only if the loop waits, is not
behind, and has nothing but statuses before it. -/
theorem Outline.foundNothing
    (outline : Outline parties loop around after next shown) :
    (∀ occurrence ∈ shown, occurrence.foundNothing = false) ∨
      ∃ occurrence deadline,
        shown = [occurrence] ∧ occurrence.isSpoken = false ∧
        loop.stage = .waiting deadline ∧ ¬ around.bus.IsBehind loop.receiver ∧
        ∀ passed ∈ around.bus.unread loop.receiver,
          passed.isStatusOnly = true := by
  cases outline with
  | aside facts =>
    exact .inl fun occurrence member =>
      foundNothing_of_isSpoken (facts.spoken occurrence member)
  | announces stage waiting receiver wakeups spoken =>
    exact .inl fun occurrence member =>
      foundNothing_of_isSpoken (spoken occurrence member)
  | @finds deadline stage keepsUp statuses after occurrence found receiver
      wakeups resting =>
    refine .inr ⟨occurrence, deadline, rfl, ?_, stage, keepsUp, statuses⟩
    cases occurrence <;> first | rfl | cases found
  | _ => exact .inl (by simp [Occurrence.foundNothing])

/-- A turn that shows a lag found the receiver behind, and the loop opens its
next cycle. -/
theorem Outline.lagless_or_behind
    (outline : Outline parties loop around after next shown) :
    shown.countP Occurrence.isLag = 0 ∨
      around.bus.IsBehind loop.receiver ∧
        after = { loop with
          tally := loop.tally.countWakeup true, stage := .opening } ∧
        next = { around with
          bus := around.bus.moved loop.receiver around.bus.oldest } := by
  cases outline with
  | aside facts =>
    exact .inl (countP_of_spoken ignoresRequests_isLag facts.spoken)
  | announces stage waiting receiver wakeups spoken =>
    exact .inl (countP_of_spoken ignoresRequests_isLag spoken)
  | lags stage behind => exact .inr ⟨behind, rfl, rfl⟩
  | finds stage keepsUp statuses found receiver wakeups resting =>
    obtain ⟨-, -, noLag⟩ := isTrafficWake_of_foundNothing found
    exact .inl (by simp [noLag])
  | _ => exact .inl rfl

theorem Outline.countP_isNotice
    (outline : Outline parties loop around after next shown) :
    shown.countP Occurrence.isNotice = 0 := by
  cases outline with
  | aside facts => exact countP_of_spoken ignoresRequests_isNotice facts.spoken
  | announces stage waiting receiver wakeups spoken =>
    exact countP_of_spoken ignoresRequests_isNotice spoken
  | @finds deadline stage keepsUp statuses after occurrence found receiver
      wakeups resting =>
    cases occurrence <;> first | rfl | cases found
  | _ => rfl

end Turns

end Switchyard.Control
