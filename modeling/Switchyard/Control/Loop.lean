import Switchyard.Control.Evaluation
import Switchyard.Control.Wake
import Switchyard.Tally

/-!
# The control loop

The loop goes through cycles: it reads the policy, evaluates the target group,
reports, and waits for a notice or for its time. While the policy leaves nothing
to do it waits for a notice only. After a failure it reports the failure and
looks again soon. Nothing but a stop notice or a cancellation ends it.

The loop is a machine that takes one step at a time. A step either gets it to
its next stage, or finds that somebody else has to act or time has to pass
first. A cancellation is seen where a cycle begins, during an evaluation and
during a wait; reading the policy and reporting are not cut short.
-/

namespace Switchyard.Control

/-- Whoever answers the loop's requests. An answer may depend on the time, may
change the state of affairs outside, and may be withheld, in which case the same
request comes again. -/
abbrev Parties (Outside : Type) :=
  (request : Request) → (now : Nat) → Outside → Option request.Answer × Outside

/-- All that the loop shares with others. -/
structure Surroundings (Outside : Type) where
  outside : Outside
  now : Nat
  isCancelled : Bool
  bus : Bus

/-- Answers a request. Notices go on the bus; everything else goes to the
parties. -/
def Surroundings.answer {Outside : Type} (parties : Parties Outside)
    (request : Request) (around : Surroundings Outside) :
    Option request.Answer × Surroundings Outside :=
  match request with
  | .publish notice =>
    (some (), { around with bus := around.bus.publish notice })
  | request =>
    let (given, outside) := parties request around.now around.outside
    (given, { around with outside := outside })

/-- Why a run ended. -/
inductive Exit where
  | stopped
  | cancelled
deriving DecidableEq, Repr

def Exit.name : Exit → String
  | .stopped => "Stopped"
  | .cancelled => "Cancelled"

/-- What the loop is doing. While it reports, the usual interval that will lead
to the next wait is known; there is none when only a notice is to end that
wait. -/
inductive Stage where
  | opening
  | reading
  | evaluating (policy : Policy) (began : Nat)
    (rest : Work (Except ControllerError Evaluation))
  | reporting (rest : Work Unit) (interval : Option Nat)
  | waiting (deadline : Option Nat)
  | ended (exit : Exit)

/-- The loop: what is set for its whole run, what it remembers from cycle to
cycle, and what it is doing. -/
structure Loop where
  timing : Timing
  locale : Locale
  receiver : Nat
  tally : Tally
  lastSwitch : Option Nat
  retry : Option Nat
  stage : Stage

/-- Where the loop stands after a step, and whether it can go on at once. -/
structure Stepped (Outside : Type) where
  loop : Loop
  around : Surroundings Outside
  goesOn : Bool

namespace Loop

variable {Outside : Type}

/-- A loop at the beginning of its run. It subscribes before anything else, so
it misses no notice that is sent during its first cycle. -/
def start (timing : Timing) (locale : Locale) (around : Surroundings Outside) :
    Loop × Surroundings Outside :=
  let (receiver, bus) := around.bus.subscribe
  (⟨timing, locale, receiver, Tally.zero, none, none, .opening⟩,
    { around with bus := bus })

def exit? (loop : Loop) : Option Exit :=
  match loop.stage with
  | .ended exit => some exit
  | _ => none

def idleReport? (policy : Policy) : Option Report :=
  if !policy.enabled then some .disabled
  else if !policy.hasTargetGroup then some .waitingForGroup
  else if policy.candidates.isEmpty then
    some (.waitingForCandidates policy.targetGroup)
  else none

/-- Keeps a report as the last status and announces it; a failure to keep it
changes nothing. -/
def announce (locale : Locale) (report : Report) : Work Unit := do
  let _ ← ask (.recordStatus (report.text locale))
  ask (.publish .statusChanged)

def beginReport (loop : Loop) (report : Report)
    (interval : Option Nat) : Loop :=
  { loop with stage := .reporting (announce loop.locale report) interval }

def afterFailure (loop : Loop) (message : String) (interval : Nat) : Loop :=
  { loop with
    tally := loop.tally.countUnexpectedError
    retry := some (Duration.ofMillis loop.timing.fastRetry.toNat) }.beginReport
      (.failure message) (some interval)

def afterReading (loop : Loop) (now : Nat) : Except StoreError Policy → Loop
  | .error error => loop.afterFailure error.message Policy.initial.probeInterval
  | .ok policy =>
    match idleReport? policy with
    | some report => { loop with retry := none }.beginReport report none
    | none =>
      { loop with
        tally := loop.tally.countEvaluation
        stage := .evaluating policy now
          (evaluate loop.timing policy (loop.lastSwitch.map fun last =>
            now - last)) }

/-- What an evaluation leaves behind. A confirmed switch counts from the moment
at which its evaluation began. -/
def noteVerdict (loop : Loop) (began : Nat) : Verdict → Loop
  | .kept => { loop with tally := loop.tally.countSkip }
  | .switched =>
    { loop with tally := loop.tally.countSwitch, lastSwitch := some began }
  | .transient =>
    { loop with
      tally := loop.tally.countTransientFailure
      retry := some (Duration.ofMillis loop.timing.fastRetry.toNat) }

def afterEvaluation (loop : Loop) (policy : Policy) (began : Nat) :
    Except ControllerError Evaluation → Loop
  | .error error => loop.afterFailure error.message policy.probeInterval
  | .ok evaluation =>
    (loop.noteVerdict began evaluation.verdict).beginReport evaluation.report
      (some policy.probeInterval)

/-- The loop when it has reported. A wish for a retry counts for one wait
only. -/
def afterReport (loop : Loop) (now : Nat) : Option Nat → Loop
  | none => { loop with stage := .waiting none }
  | some interval =>
    { loop with
      retry := none
      stage :=
        .waiting (some (now + loop.timing.waitLength loop.retry interval)) }

def afterWait (loop : Loop) (wake : Wake) : Loop :=
  match wake with
  | .cancelled => { loop with stage := .ended .cancelled }
  | .closed => { loop with stage := .ended .stopped }
  | .event notice =>
    if notice.isStop then { loop with stage := .ended .stopped }
    else { loop with tally := loop.tally.countWakeup true, stage := .opening }
  | wake =>
    { loop with
      tally := loop.tally.countWakeup wake.isEvent, stage := .opening }

def step (parties : Parties Outside) (loop : Loop)
    (around : Surroundings Outside) : Stepped Outside :=
  match loop.stage with
  | .ended _ => ⟨loop, around, false⟩
  | .opening =>
    if around.isCancelled then
      ⟨{ loop with stage := .ended .cancelled }, around, true⟩
    else
      ⟨{ loop with tally := loop.tally.countCycle, stage := .reading },
        around, true⟩
  | .reading =>
    match around.answer parties .readPolicy with
    | (none, around) => ⟨loop, around, false⟩
    | (some read, around) => ⟨loop.afterReading around.now read, around, true⟩
  | .evaluating policy began rest =>
    if around.isCancelled then
      ⟨{ loop with stage := .ended .cancelled }, around, true⟩
    else
      match rest.run (Surroundings.answer parties) around with
      | (.done result, around) =>
        ⟨loop.afterEvaluation policy began result, around, true⟩
      | (rest, around) =>
        ⟨{ loop with stage := .evaluating policy began rest }, around, false⟩
  | .reporting rest interval =>
    match rest.run (Surroundings.answer parties) around with
    | (.done (), around) => ⟨loop.afterReport around.now interval, around, true⟩
    | (rest, around) =>
      ⟨{ loop with stage := .reporting rest interval }, around, false⟩
  | .waiting deadline =>
    let (ending, bus) :=
      Wake.look loop.receiver deadline around.now around.isCancelled around.bus
    match ending with
    | none => ⟨loop, { around with bus := bus }, false⟩
    | some wake => ⟨loop.afterWait wake, { around with bus := bus }, true⟩

/-- Takes steps as long as the loop can go on at once, up to a number of
them. -/
def steps (parties : Parties Outside) :
    Nat → Loop → Surroundings Outside → Stepped Outside
  | 0, loop, around => ⟨loop, around, true⟩
  | more + 1, loop, around =>
    let next := loop.step parties around
    if next.goesOn then steps parties more next.loop next.around else next

/-- A number of steps that is enough for the loop to go on until it waits, as
long as no wait of the loop has length zero: a cycle takes five steps, and a
further cycle at the same moment needs a notice on the bus that somebody else
put there. -/
def enoughSteps (around : Surroundings Outside) : Nat :=
  5 * (around.bus.kept.length + 3)

/-- Lets the loop go on until it waits. A loop that has ended leaves the bus. -/
def poll (parties : Parties Outside) (loop : Loop)
    (around : Surroundings Outside) : Loop × Surroundings Outside :=
  let next := loop.steps parties (enoughSteps around) around
  match next.loop.exit? with
  | none => (next.loop, next.around)
  | some _ =>
    (next.loop, { next.around with
      bus := next.around.bus.unsubscribe loop.receiver })

end Loop

end Switchyard.Control
