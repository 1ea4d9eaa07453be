import Switchyard.Control.Evaluation
import Switchyard.Proofs.Dialogue

/-!
# Evaluations request by request

Each part of an evaluation is written out as the requests that it makes, one
after the other, with what it does for each answer. An evaluation asks neither
for the policy to work on nor for its own report, and it puts nothing on the
bus.
-/

namespace Switchyard.Control

open Routine (Uses)

/-- What the end of a probe means for the evaluation: a probe that took too long
is no failure. -/
def ProbeEnd.verdict : ProbeEnd → Except ControllerError Unit
  | .outlasted => .ok ()
  | .finished (.error (.timeout _)) => .ok ()
  | .finished result => result

theorem probe_eq (timing : Timing) (group : String) :
    probe timing group =
      .ask (.probe group (Duration.ofMillis timing.healthCheckTimeout.toNat))
        fun ended => .done ended.verdict := by
  unfold probe
  simp only [ask, Routine.call_bind]
  congr 1
  funext ended
  rcases ended with (error | _) | _
  · cases error <;> rfl
  · rfl
  · rfl

theorem rememberSelection_eq (group proxy : String) :
    rememberSelection group proxy =
      .ask .activeProfile fun profile =>
        match profile with
        | none => .done ()
        | some profile => .ask (.remember ⟨profile, group, proxy⟩) fun _ =>
          .done () := rfl

theorem confirm_succ (timing : Timing) (group target : String) (attempts : Nat)
    (observed : Option String) :
    confirm timing group target (attempts + 1) observed =
      .ask (.pause (Duration.ofMillis timing.confirmInterval.toNat)) fun _ =>
        .ask (.query group .byDelay) fun seen =>
          match seen with
          | .error error => .done (.error error)
          | .ok seen =>
            if seen.selected? = some target then .done (.ok .confirmed)
            else
              confirm timing group target attempts seen.selectedDisplay? := rfl

theorem makeMove_eq (timing : Timing) (group : String) (plan : Move) :
    makeMove timing group plan =
      .ask (.apply group plan.target.name) fun applied =>
        match applied with
        | .error error => .done (.error error)
        | .ok false => .done (.ok .applyFailed)
        | .ok true =>
          rememberSelection group plan.target.name >>= fun _ =>
            confirm timing group plan.target.name
              timing.confirmAttempts.toNat none := rfl

theorem narrowCandidates_eq (policy : Policy) (group : Group) :
    narrowCandidates policy group =
      if (Decision.candidates policy group).length = 0 ∨
          policy.candidates.size ≤
            (Decision.candidates policy group).length then .done ()
      else
        .ask .readStored fun read =>
          match read with
          | .error _ => .done ()
          | .ok stored =>
            if stored.targetGroup ≠ policy.targetGroup then .done ()
            else
              match narrowed? stored group.memberNames with
              | none => .done ()
              | some narrower =>
                .ask (.writePolicy narrower) fun _ => .done () := by
  unfold narrowCandidates
  simp only [Bool.or_eq_true, beq_iff_eq, decide_eq_true_eq, bne_iff_ne]
  rfl

theorem evaluate_eq (timing : Timing) (policy : Policy)
    (sinceSwitch : Option Nat) :
    evaluate timing policy sinceSwitch =
      .ask (.probe policy.targetGroup
          (Duration.ofMillis timing.healthCheckTimeout.toNat))
        fun ended =>
          match ended.verdict with
          | .error error => .done (.error error)
          | .ok () =>
            .ask (.query policy.targetGroup .byDelay) fun queried =>
              match queried with
              | .error error => .done (.error error)
              | .ok group =>
                narrowCandidates policy group >>= fun _ =>
                  carryOut timing policy.targetGroup
                    (Decision.decide policy group sinceSwitch
                      timing.minImprovement.toNat) := by
  unfold evaluate
  rw [probe_eq]
  rfl

/-- Whether a request may be made in the course of an evaluation. -/
def Request.isForEvaluation : Request → Bool
  | .readPolicy => false
  | .recordStatus _ => false
  | .publish _ => false
  | _ => true

/-- Whether a request may be made while a move is waited for. -/
def Request.isPoll : Request → Bool
  | .pause _ => true
  | .query _ _ => true
  | _ => false

/-- Whether a request may be made in the course of a move. -/
def Request.isForMove : Request → Bool
  | .apply _ _ => true
  | .activeProfile => true
  | .remember _ => true
  | request => request.isPoll

theorem isForMove_of_isPoll (request : Request)
    (isPoll : request.isPoll = true) :
    request.isForMove = true := by
  cases request <;> first | rfl | cases isPoll

theorem isForEvaluation_of_isForMove (request : Request)
    (isForMove : request.isForMove = true) :
    request.isForEvaluation = true := by
  cases request <;> first | rfl | cases isForMove

def Request.isCall : Request → Bool
  | .probe _ _ => true
  | .query _ _ => true
  | .apply _ _ => true
  | _ => false

theorem uses_narrowCandidates (policy : Policy) (group : Group) :
    (narrowCandidates policy group).Uses
      fun request => request.isForEvaluation = true ∧
        request.isCall = false := by
  rw [narrowCandidates_eq]
  split
  · trivial
  · refine ⟨⟨rfl, rfl⟩, fun read => ?_⟩
    cases read with
    | error error => trivial
    | ok stored =>
      dsimp only
      split
      · trivial
      · cases narrowed? stored group.memberNames with
        | none => trivial
        | some narrower => exact ⟨⟨rfl, rfl⟩, fun _ => trivial⟩

theorem uses_rememberSelection (group proxy : String) :
    (rememberSelection group proxy).Uses
      fun request => request.isForMove = true ∧ request.isCall = false := by
  rw [rememberSelection_eq]
  refine ⟨⟨rfl, rfl⟩, fun profile => ?_⟩
  cases profile with
  | none => trivial
  | some profile => exact ⟨⟨rfl, rfl⟩, fun _ => trivial⟩

theorem uses_confirm (timing : Timing) (group target : String) (attempts : Nat)
    (observed : Option String) :
    (confirm timing group target attempts observed).Uses (·.isPoll = true) := by
  induction attempts generalizing observed with
  | zero => trivial
  | succ attempts attemptsFact =>
    rw [confirm_succ]
    refine ⟨rfl, fun _ => ⟨rfl, fun seen => ?_⟩⟩
    cases seen with
    | error error => trivial
    | ok seen =>
      dsimp only
      split
      · trivial
      · exact attemptsFact _

theorem uses_makeMove (timing : Timing) (group : String) (plan : Move) :
    (makeMove timing group plan).Uses (·.isForMove = true) := by
  rw [makeMove_eq]
  refine ⟨rfl, fun applied => ?_⟩
  rcases applied with error | accepted
  · trivial
  · cases accepted with
    | false => trivial
    | true =>
      exact ((uses_rememberSelection _ _).mono fun _ allowed => allowed.1).bind
        fun _ => (uses_confirm _ _ _ _ _).mono isForMove_of_isPoll

theorem uses_carryOut (timing : Timing) (group : String) (decision : Decision) :
    (carryOut timing group decision).Uses (·.isForMove = true) := by
  cases decision with
  | missingCandidates available => trivial
  | hold reason => trivial
  | move plan =>
    refine (uses_makeMove _ _ _).bind fun result => ?_
    cases result <;> trivial

theorem uses_evaluate (timing : Timing) (policy : Policy)
    (sinceSwitch : Option Nat) :
    (evaluate timing policy sinceSwitch).Uses (·.isForEvaluation = true) := by
  rw [evaluate_eq]
  refine ⟨rfl, fun ended => ?_⟩
  dsimp only
  cases ended.verdict with
  | error error => trivial
  | ok _ =>
    refine ⟨rfl, fun queried => ?_⟩
    cases queried with
    | error error => trivial
    | ok group =>
      exact ((uses_narrowCandidates _ _).mono fun _ allowed => allowed.1).bind
        fun _ => (uses_carryOut _ _ _).mono isForEvaluation_of_isForMove

end Switchyard.Control
