import Switchyard.Control.Switching
import Switchyard.Report

/-!
# Evaluating a group

An evaluation has the group measured, queries it, takes candidates that are no
longer members out of the stored policy, decides, and makes the move if there is
one. A probe that takes too long is no failure. Taking candidates out is done
where it is safe and never changes the decision.
-/

namespace Switchyard.Control

/-- What an evaluation means for the loop. -/
inductive Verdict where
  | kept
  | switched
  | transient
deriving DecidableEq, Repr

/-- The result of an evaluation. -/
structure Evaluation where
  verdict : Verdict
  report : Report
deriving DecidableEq, Repr

def probe (timing : Timing) (group : String) :
    Work (Except ControllerError Unit) := do
  match ← ask
    (.probe group (Duration.ofMillis timing.healthCheckTimeout.toNat)) with
  | .outlasted => pure (.ok ())
  | .finished (.error (.timeout _)) => pure (.ok ())
  | .finished result => pure result

/-- The policy with only those candidates that are members, when that leaves
some and takes some away. -/
def narrowed? (stored : Policy) (memberNames : List String) : Option Policy :=
  let kept := stored.candidates.filter memberNames.contains
  let dropped := stored.candidates.filter fun name => !memberNames.contains name
  if kept.isEmpty || dropped.isEmpty then none
  else some { stored with candidates := kept }

/-- Takes candidates that are no members out of the stored policy. The policy is
read once more, as the user may have changed it since the evaluation began. -/
def narrowCandidates (policy : Policy) (group : Group) : Work Unit := do
  let resolved := (Decision.candidates policy group).length
  if resolved == 0 || policy.candidates.size ≤ resolved then pure ()
  else
    match ← ask .readStored with
    | .error _ => pure ()
    | .ok stored =>
      if stored.targetGroup != policy.targetGroup then pure ()
      else
        match narrowed? stored group.memberNames with
        | none => pure ()
        | some narrower =>
          let _ ← ask (.writePolicy narrower)
          pure ()

def holdReport (group : String) : Hold → Report
  | .noPreferredCandidate => .noPreferredCandidate group
  | .alreadyOptimal desired => .alreadyOptimal group desired.displayName
  | .cooldown current remaining => .cooldown group current remaining
  | .noImprovement current _ => .noImprovement group current

def moveEvaluation (group : String) (plan : Move) : SwitchResult → Evaluation
  | .confirmed =>
    let target := plan.target.displayName
    ⟨.switched,
      if plan.forced then .forced group target plan.target.delay plan.previous
      else .applied group target plan.target.delay⟩
  | .applyFailed => ⟨.transient, .applyFailed group plan.target.displayName⟩
  | .confirmFailed observed =>
    ⟨.transient, .confirmFailed group plan.target.displayName observed⟩

def carryOut (timing : Timing) (group : String) :
    Decision → Work (Except ControllerError Evaluation)
  | .missingCandidates available =>
    pure (.ok ⟨.transient, .missingCandidates group available⟩)
  | .hold reason => pure (.ok ⟨.kept, holdReport group reason⟩)
  | .move plan => do
    match ← makeMove timing group plan with
    | .error error => pure (.error error)
    | .ok result => pure (.ok (moveEvaluation group plan result))

/-- Evaluates the target group of a policy, given the time since the last
confirmed switch. -/
def evaluate (timing : Timing) (policy : Policy) (sinceSwitch : Option Nat) :
    Work (Except ControllerError Evaluation) := do
  match ← probe timing policy.targetGroup with
  | .error error => pure (.error error)
  | .ok () =>
    match ← ask (.query policy.targetGroup .byDelay) with
    | .error error => pure (.error error)
    | .ok group =>
      narrowCandidates policy group
      carryOut timing policy.targetGroup
        (Decision.decide policy group sinceSwitch timing.minImprovement.toNat)

end Switchyard.Control
