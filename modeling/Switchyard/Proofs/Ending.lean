import Switchyard.Proofs.Cycles
import Switchyard.Proofs.Failures

/-!
# How a cycle ends

A cycle comes to an ending before it is reported: its policy could not be read,
or left nothing to do, or was evaluated with some result. The ending settles the
report, and the rest that the loop takes until its next cycle. What was said in
a cycle tells that rest by itself, whatever was said in earlier cycles:
`ComesTo.rest_eq`.
-/

namespace Switchyard.Control

open Routine (Exchange Reaches)

inductive Ending where
  | unread (error : StoreError)
  | idle (policy : Policy) (report : Report)
  | evaluated (policy : Policy) (result : Except ControllerError Evaluation)

namespace Timing

def retryRest (timing : Timing) : Nat :=
  min (Duration.ofMillis timing.fastRetry.toNat)
    (Duration.ofMillis timing.maxInterval.toNat)

/-- The usual rest: the interval of the policy, raised to the least and then
lowered to the greatest interval. -/
def usualRest (timing : Timing) (policy : Policy) : Nat :=
  min (max policy.probeInterval (Duration.ofMillis timing.minInterval.toNat))
    (Duration.ofMillis timing.maxInterval.toNat)

end Timing

namespace Ending

def report : Ending → Report
  | .unread error => .failure error.message
  | .idle _ report => report
  | .evaluated _ (.error error) => .failure error.message
  | .evaluated _ (.ok evaluation) => evaluation.report

/-- The message of the error that the cycle failed of. -/
def failure? : Ending → Option String
  | .unread error => some error.message
  | .idle _ _ => none
  | .evaluated _ result => failureOf? result

def verdict? : Ending → Option Verdict
  | .evaluated _ (.ok evaluation) => some evaluation.verdict
  | _ => none

def isUnread : Ending → Bool
  | .unread _ => true
  | _ => false

def isIdle : Ending → Bool
  | .idle _ _ => true
  | _ => false

def isEvaluated : Ending → Bool
  | .evaluated _ _ => true
  | _ => false

/-- The rest after a cycle, or none where only a notice is to end it. -/
def rest (timing : Timing) : Ending → Option Nat
  | .unread _ => some (Timing.retryRest timing)
  | .idle _ _ => none
  | .evaluated policy result =>
    some (if callsForRetry result then Timing.retryRest timing
      else Timing.usualRest timing policy)

/-- The wish for a retry that the loop holds while it reports. -/
def wish? (timing : Timing) : Ending → Option Nat
  | .unread _ => some (Duration.ofMillis timing.fastRetry.toNat)
  | .idle _ _ => none
  | .evaluated _ result =>
    if callsForRetry result then some (Duration.ofMillis timing.fastRetry.toNat)
    else none

/-- The usual interval that the loop knows while it reports. -/
def interval? : Ending → Option Nat
  | .unread _ => some Policy.initial.probeInterval
  | .idle _ _ => none
  | .evaluated policy _ => some policy.probeInterval

theorem waitLength_retry (timing : Timing) (interval : Nat) :
    timing.waitLength (some (Duration.ofMillis timing.fastRetry.toNat))
      interval = Timing.retryRest timing := by
  have atLeast : max (Duration.ofMillis timing.fastRetry.toNat)
      (Duration.ofMillis timing.fastRetry.toNat) =
        Duration.ofMillis timing.fastRetry.toNat :=
    Nat.max_self _
  simp only [Timing.waitLength, Timing.retryRest, atLeast]

/-- The wish for a retry and the usual interval give the rest. -/
theorem map_waitLength (timing : Timing) (ending : Ending) :
    ending.interval?.map (timing.waitLength (ending.wish? timing)) =
      ending.rest timing := by
  cases ending with
  | unread error =>
    simp only [interval?, wish?, rest, Option.map_some, waitLength_retry]
  | idle policy report => rfl
  | evaluated policy result =>
    simp only [interval?, wish?, rest, Option.map_some]
    cases callsForRetry result with
    | true => simp only [if_true, waitLength_retry]
    | false =>
      simp only [Bool.false_eq_true, if_false, Timing.waitLength,
        Timing.usualRest]

theorem length_eq_countP (endings : List Ending) :
    endings.length =
      endings.countP isEvaluated + endings.countP isIdle + endings.countP
        isUnread := by
  induction endings with
  | nil => rfl
  | cons ending endings endingsFact =>
    have oneOfThem : 1 = (if ending.isEvaluated then 1 else 0) +
        (if ending.isIdle then 1 else 0) + (if ending.isUnread then 1
          else 0) := by
      cases ending <;> rfl
    simp only [List.length_cons, List.countP_cons]
    omega

/-- Every evaluation failed or came to one of three verdicts, and nothing else
fails but reading. -/
theorem countP_isEvaluated (endings : List Ending) :
    endings.countP isEvaluated + endings.countP isUnread =
      endings.countP (·.verdict? == some .switched) + endings.countP
        (·.verdict? == some .kept) + endings.countP
        (·.verdict? == some .transient) + endings.countP
        (·.failure?.isSome) := by
  induction endings with
  | nil => rfl
  | cons ending endings endingsFact =>
    have oneOfThem : (if ending.isEvaluated then 1 else 0) +
        (if ending.isUnread then 1 else 0) =
        (if ending.verdict? == some .switched then 1 else 0) +
          (if ending.verdict? == some .kept then 1 else 0) +
          (if ending.verdict? == some .transient then 1 else 0) +
          (if ending.failure?.isSome then 1 else 0) := by
      rcases ending with
        error | ⟨policy, report⟩ | ⟨policy, error | ⟨verdict, report⟩⟩
      · rfl
      · rfl
      · rfl
      · cases verdict <;> rfl
    simp only [List.countP_cons]
    omega

end Ending

/-- What is said in a cycle up to its report comes to an ending. -/
inductive ComesTo (timing : Timing) : List Occurrence → Ending → Prop where
  | unread (error : StoreError) :
    ComesTo timing [.asked .readPolicy, .answered .readPolicy (.error error)]
      (.unread error)
  | idle {policy : Policy} {report : Report}
    (idle : Loop.idleReport? policy = some report) :
    ComesTo timing [.asked .readPolicy, .answered .readPolicy (.ok policy)]
      (.idle policy report)
  | evaluated {policy : Policy} (busy : Loop.idleReport? policy = none)
    {sinceSwitch : Option Nat} {exchanges : List (Exchange Request.Answer)}
    {result : Except ControllerError Evaluation}
    (reaches : Reaches (evaluate timing policy sinceSwitch) exchanges
      (.done result)) :
    ComesTo timing (.asked .readPolicy :: .answered .readPolicy (.ok policy) ::
        told exchanges)
      (.evaluated policy result)

/-- The rest after a cycle, as what is said in it tells. -/
def restAfter (timing : Timing) : List Occurrence → Option Nat
  | .asked .readPolicy :: .answered .readPolicy (.error _) :: _ =>
    some (Timing.retryRest timing)
  | .asked .readPolicy :: .answered .readPolicy (.ok policy) :: evaluation =>
    if !policy.enabled || !policy.hasTargetGroup ||
      policy.candidates.isEmpty then none
    else if !(failuresOf evaluation).isEmpty ||
      leavesOpen policy evaluation then
      some (Timing.retryRest timing)
    else some (Timing.usualRest timing policy)
  | _ => none

theorem isSome_idleReport? (policy : Policy) :
    (Loop.idleReport? policy).isSome =
      (!policy.enabled || !policy.hasTargetGroup ||
        policy.candidates.isEmpty) := by
  unfold Loop.idleReport?
  cases policy.enabled <;> cases policy.hasTargetGroup <;>
    cases policy.candidates.isEmpty <;> rfl

theorem failure?_of_idleReport? {policy : Policy} {report : Report}
    (idle : Loop.idleReport? policy = some report) :
    report.failure? = none := by
  unfold Loop.idleReport? at idle
  split at idle
  · cases idle
    rfl
  · split at idle
    · cases idle
      rfl
    · split at idle
      · cases idle
        rfl
      · cases idle

section Endings

variable {timing : Timing} {shown : List Occurrence} {ending : Ending}

theorem ComesTo.rest_eq (comesTo : ComesTo timing shown ending) :
    ending.rest timing = restAfter timing shown := by
  cases comesTo with
  | unread error => rfl
  | @idle policy report idle =>
    have isIdle := isSome_idleReport? policy
    rw [idle, Option.isSome_some] at isIdle
    simp only [Ending.rest, restAfter, ← isIdle, if_true]
  | @evaluated policy busy sinceSwitch exchanges result reaches =>
    have isIdle := isSome_idleReport? policy
    rw [busy, Option.isSome_none] at isIdle
    simp only [Ending.rest, restAfter, ← isIdle, callsForRetry_evaluate reaches,
      Bool.false_eq_true, if_false]
    split <;> rfl

/-- What is said in a cycle shows no failure but that of its ending. -/
theorem ComesTo.failuresOf_eq (comesTo : ComesTo timing shown ending) :
    failuresOf shown = ending.failure?.toList := by
  cases comesTo with
  | unread error => rfl
  | idle idle => rfl
  | evaluated busy reaches =>
    have failures := failuresOf_evaluate reaches
    rw [said_done] at failures
    rw [failuresOf_asked, failuresOf_answered, failures]
    rfl

/-- The report of a cycle tells of an error exactly where the cycle failed of
it. -/
theorem ComesTo.failure?_report (comesTo : ComesTo timing shown ending) :
    ending.report.failure? = ending.failure? := by
  cases comesTo with
  | unread error => rfl
  | idle idle => exact failure?_of_idleReport? idle
  | @evaluated policy busy sinceSwitch exchanges result reaches =>
    cases result with
    | error error => rfl
    | ok evaluation => exact failure?_evaluate reaches

end Endings

end Switchyard.Control
