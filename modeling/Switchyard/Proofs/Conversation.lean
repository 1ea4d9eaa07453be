import Switchyard.Proofs.Choice
import Switchyard.Proofs.Course
import Switchyard.Proofs.Evaluation

/-!
# What an evaluation says to the controller

Every dialogue of an evaluation is followed from its first request on: the group
is probed, queried, and moved at most once, and after a move it is queried until
the move shows up. `Orderly` collects what holds of all that is said in a cycle,
and `orderly_of_conversation` proves it for every conversation that a cycle can
have.
-/

namespace Switchyard.Control

open Routine (Exchange Reaches Uses reaches_bind)

def Occurrence.call? : Occurrence → Option Request
  | .asked request => if request.isCall then some request else none
  | _ => none

def callsOf (shown : List Occurrence) : List Request :=
  shown.filterMap Occurrence.call?

/-- Whether something is a request, or an answer to a request, that may be made
in the course of an evaluation. -/
def Occurrence.isOfEvaluation : Occurrence → Bool
  | .asked request => request.isForEvaluation
  | .answered request _ => request.isForEvaluation
  | _ => false

theorem isReading_of_isOfEvaluation {occurrence : Occurrence}
    (ofEvaluation : occurrence.isOfEvaluation = true) :
    occurrence.isReading = false := by
  cases occurrence with
  | asked request => cases request <;> first | rfl | cases ofEvaluation
  | _ => rfl

@[simp]
theorem callsOf_nil : callsOf [] = [] := rfl

@[simp]
theorem callsOf_append (former latter : List Occurrence) :
    callsOf (former ++ latter) = callsOf former ++ callsOf latter :=
  List.filterMap_append

@[simp]
theorem callsOf_asked (request : Request) (rest : List Occurrence) :
    callsOf (.asked request :: rest) =
      if request.isCall then request :: callsOf rest else callsOf rest := by
  cases isCall : request.isCall <;> simp [callsOf, Occurrence.call?, isCall]

@[simp]
theorem callsOf_answered (request : Request) (answer : request.Answer)
    (rest : List Occurrence) :
    callsOf (.answered request answer :: rest) = callsOf rest := rfl

theorem mem_callsOf {request : Request} (isCall : request.isCall = true)
    {shown : List Occurrence} :
    request ∈ callsOf shown ↔ .asked request ∈ shown := by
  unfold callsOf
  rw [List.mem_filterMap]
  constructor
  · rintro ⟨occurrence, member, call⟩
    cases occurrence with
    | asked asked =>
      simp only [Occurrence.call?] at call
      split at call
      · obtain rfl := Option.some.inj call
        exact member
      · cases call
    | _ => cases call
  · intro member
    exact ⟨.asked request, member, by simp [Occurrence.call?, isCall]⟩

/-- All that is said in a dialogue, with the request that is still to be
answered. -/
def said {Result : Type} (exchanges : List (Exchange Request.Answer))
    (rest : Work Result) : List Occurrence :=
  told exchanges ++ awaited rest

section Said

variable {Result Next : Type}

@[simp]
theorem said_nil_ask (request : Request)
    (resume : request.Answer → Work Result) :
    said [] (.ask request resume) = [.asked request] := rfl

@[simp]
theorem said_nil_done (result : Result) :
    said [] (.done result : Work Result) = [] := rfl

@[simp]
theorem said_cons (request : Request) (answer : request.Answer)
    (exchanges : List (Exchange Request.Answer)) (rest : Work Result) :
    said (⟨request, answer⟩ :: exchanges) rest =
      .asked request :: .answered request answer :: said exchanges rest := rfl

theorem said_done (exchanges : List (Exchange Request.Answer))
    (result : Result) :
    said exchanges (.done result : Work Result) = told exchanges :=
  List.append_nil _

theorem said_append (before after : List (Exchange Request.Answer))
    (rest : Work Result) :
    said (before ++ after) rest = told before ++ said after rest := by
  simp [said, told]

theorem callsOf_said_of_uses {routine rest : Work Result}
    {exchanges : List (Exchange Request.Answer)}
    (uses : routine.Uses (·.isCall = false))
    (reaches : Reaches routine exchanges rest) :
    callsOf (said exchanges rest) = [] := by
  induction reaches with
  | here routine =>
    cases routine with
    | done result => rfl
    | ask request resume => simp [uses.1]
  | next answer _ laterFact => simp [uses.1, laterFact (uses.2 answer)]

/-- What one piece of work and then another says is what the first one says,
followed by what the second one says when the first one has come to its end. -/
theorem said_bind {routine : Work Result} {next : Result → Work Next}
    {exchanges : List (Exchange Request.Answer)} {rest : Work Next}
    (reaches : Reaches (routine >>= next) exchanges rest) :
    (∃ request resume, Reaches routine exchanges (.ask request resume) ∧
      rest = (Routine.ask request resume >>= next) ∧
      said exchanges rest = said exchanges (.ask request resume :
        Work Result)) ∨
      ∃ before after result, Reaches routine before (.done result) ∧
        Reaches (next result) after rest ∧
        said exchanges rest = said before (.done result : Work Result) ++
          said after rest := by
  rcases reaches_bind reaches with
    ⟨request, resume, within, rfl⟩ |
      ⟨before, after, result, rfl, finished, onward⟩
  · exact .inl ⟨request, resume, within, rfl, rfl⟩
  · refine .inr ⟨before, after, result, finished, onward, ?_⟩
    rw [said_append, said_done]

/-- What holds of every request that a routine may make, and of every answer to
one, holds of all that is said. -/
theorem forall_said_of_uses {allowed : Request → Prop}
    {Holds : Occurrence → Prop}
    (asked : ∀ request, allowed request → Holds (.asked request))
    (answered : ∀ request answer, allowed request →
      Holds (.answered request answer))
    {routine rest : Work Result} {exchanges : List (Exchange Request.Answer)}
    (uses : routine.Uses allowed) (reaches : Reaches routine exchanges rest) :
    ∀ occurrence ∈ said exchanges rest, Holds occurrence := by
  induction reaches with
  | here routine =>
    cases routine with
    | done result => simp
    | ask request resume =>
      intro occurrence member
      rw [List.mem_singleton.1 member]
      exact asked request uses.1
  | next answer _ laterFact =>
    intro occurrence member
    rcases List.mem_cons.1 member with rfl | member
    · exact asked _ uses.1
    rcases List.mem_cons.1 member with rfl | member
    · exact answered _ answer uses.1
    · exact laterFact (uses.2 answer) occurrence member

theorem isOfEvaluation_of_said {routine rest : Work Result}
    {exchanges : List (Exchange Request.Answer)}
    (uses : routine.Uses (·.isForEvaluation = true))
    (reaches : Reaches routine exchanges rest) :
    ∀ occurrence ∈ said exchanges rest, occurrence.isOfEvaluation = true :=
  forall_said_of_uses (fun _ allowed => allowed)
    (fun _ _ allowed => allowed) uses reaches

end Said

section Parts

variable {timing : Timing} {group : String}
  {exchanges : List (Exchange Request.Answer)}

theorem callsOf_confirm {target : String} {attempts : Nat}
    {observed : Option String}
    {rest : Work (Except ControllerError SwitchResult)}
    (reaches : Reaches (confirm timing group target attempts observed)
      exchanges rest) :
    ∃ count ≤ attempts, callsOf (said exchanges rest) =
      List.replicate count (.query group .byDelay) := by
  induction attempts generalizing observed exchanges with
  | zero =>
    obtain ⟨rfl, rfl⟩ := Reaches.of_done reaches
    exact ⟨0, Nat.le_refl _, rfl⟩
  | succ attempts attemptsFact =>
    rw [confirm_succ] at reaches
    rcases Reaches.of_ask reaches with
      ⟨rfl, rfl⟩ | ⟨paused, afterPause, rfl, asking⟩
    · exact ⟨0, Nat.zero_le _, rfl⟩
    rcases Reaches.of_ask asking with ⟨rfl, rfl⟩ | ⟨seen, later, rfl, onward⟩
    · exact ⟨1, Nat.succ_le_succ (Nat.zero_le _), rfl⟩
    cases seen with
    | error error =>
      obtain ⟨rfl, rfl⟩ := Reaches.of_done onward
      exact ⟨1, Nat.succ_le_succ (Nat.zero_le _), rfl⟩
    | ok seen =>
      dsimp only at onward
      split at onward
      · obtain ⟨rfl, rfl⟩ := Reaches.of_done onward
        exact ⟨1, Nat.succ_le_succ (Nat.zero_le _), rfl⟩
      · obtain ⟨count, within, calls⟩ := attemptsFact onward
        exact ⟨count + 1, Nat.succ_le_succ within, by
          simp [calls, List.replicate_succ, Request.isCall]⟩

theorem callsOf_makeMove {plan : Switchyard.Move}
    {rest : Work (Except ControllerError SwitchResult)}
    (reaches : Reaches (makeMove timing group plan) exchanges rest) :
    ∃ count ≤ timing.confirmAttempts.toNat, callsOf (said exchanges rest) =
      .apply group plan.target.name :: List.replicate count
        (.query group .byDelay) := by
  rw [makeMove_eq] at reaches
  rcases Reaches.of_ask reaches with ⟨rfl, rfl⟩ | ⟨applied, later, rfl, onward⟩
  · exact ⟨0, Nat.zero_le _, rfl⟩
  rcases applied with error | accepted
  · obtain ⟨rfl, rfl⟩ := Reaches.of_done onward
    exact ⟨0, Nat.zero_le _, rfl⟩
  cases accepted with
  | false =>
    obtain ⟨rfl, rfl⟩ := Reaches.of_done onward
    exact ⟨0, Nat.zero_le _, rfl⟩
  | true =>
    have silent :=
      (uses_rememberSelection group plan.target.name).mono fun _ allowed =>
        allowed.2
    rcases said_bind onward with
      ⟨request, resume, within, -, saidFact⟩ |
      ⟨before, after, result, finished, confirming, saidFact⟩
    · exact ⟨0, Nat.zero_le _, by
        simp [saidFact, callsOf_said_of_uses silent within, Request.isCall]⟩
    · obtain ⟨count, atMost, calls⟩ := callsOf_confirm confirming
      exact ⟨count, atMost, by
        simp [saidFact, callsOf_said_of_uses silent finished, calls,
          Request.isCall]⟩

theorem callsOf_carryOut {decision : Decision}
    {rest : Work (Except ControllerError Evaluation)}
    (reaches : Reaches (carryOut timing group decision) exchanges rest) :
    callsOf (said exchanges rest) = [] ∨
      ∃ plan, decision = .move plan ∧ ∃ count ≤ timing.confirmAttempts.toNat,
        callsOf (said exchanges rest) =
          .apply group plan.target.name :: List.replicate count
            (.query group .byDelay) := by
  cases decision with
  | missingCandidates available =>
    obtain ⟨rfl, rfl⟩ := Reaches.of_done reaches
    exact .inl rfl
  | hold reason =>
    obtain ⟨rfl, rfl⟩ := Reaches.of_done reaches
    exact .inl rfl
  | move plan =>
    refine .inr ⟨plan, rfl, ?_⟩
    rcases said_bind reaches with
      ⟨request, resume, within, -, saidFact⟩ |
      ⟨before, after, result, finished, concluding, saidFact⟩
    · rw [saidFact]
      exact callsOf_makeMove within
    · have nothing : said after rest = [] := by
        cases result with
        | error error => obtain ⟨rfl, rfl⟩ := Reaches.of_done concluding; rfl
        | ok result => obtain ⟨rfl, rfl⟩ := Reaches.of_done concluding; rfl
      rw [saidFact, nothing, List.append_nil]
      exact callsOf_makeMove finished

end Parts

/-! ## The whole evaluation -/

/-- Whether a probe lets the evaluation go on: it succeeded, took too long, or
the controller's own limit was reached. -/
def ProbeEnd.IsTolerated (ended : ProbeEnd) : Prop :=
  ended = .finished (.ok ()) ∨ ended = .outlasted ∨
    ∃ milliseconds, ended = .finished (.error (.timeout milliseconds))

theorem ProbeEnd.verdict_eq_ok {ended : ProbeEnd} :
    ended.verdict = .ok () ↔ ended.IsTolerated := by
  unfold IsTolerated
  rcases ended with (error | _) | _
  · cases error <;> simp [verdict]
  · simp [verdict]
  · simp [verdict]

def probeRequest (timing : Timing) (policy : Policy) : Request :=
  .probe policy.targetGroup (Duration.ofMillis timing.healthCheckTimeout.toNat)

def queryRequest (policy : Policy) : Request :=
  .query policy.targetGroup .byDelay

theorem target_of_mem_calls {group other proxy target : String}
    {policy : Policy} {count : Nat} (member : .apply group proxy ∈
      Request.apply other target :: List.replicate count
        (queryRequest policy)) :
    proxy = target := by
  rcases List.mem_cons.1 member with same | among
  · exact (Request.apply.inj same).2
  · cases (List.mem_replicate.1 among).2

/-- Whether what is said after the query is what is said in making a move: it is
decided on for the group that was the answer, applied once, and queried for. -/
def MoveSaid (timing : Timing) (policy : Policy)
    (queried : (queryRequest policy).Answer) (later : List Occurrence) : Prop :=
  ∃ group, queried = .ok group ∧ ∃ sinceSwitch plan,
    Decision.decide policy group sinceSwitch timing.minImprovement.toNat =
      .move plan ∧ ∃ count ≤ timing.confirmAttempts.toNat,
        callsOf later =
          .apply policy.targetGroup plan.target.name :: List.replicate count
            (queryRequest policy)

inductive EvaluationSaid (timing : Timing) (policy : Policy) :
    List Occurrence → Prop where
  | probes : EvaluationSaid timing policy [.asked (probeRequest timing policy)]
  | fails (ended : (probeRequest timing policy).Answer)
    (failed : ¬ ProbeEnd.IsTolerated ended) : EvaluationSaid timing policy
      [.asked (probeRequest timing policy),
        .answered (probeRequest timing policy) ended]
  | queries (ended : (probeRequest timing policy).Answer)
    (tolerated : ProbeEnd.IsTolerated ended) :
    EvaluationSaid timing policy
      [.asked (probeRequest timing policy),
        .answered (probeRequest timing policy) ended,
        .asked (queryRequest policy)]
  | decides (ended : (probeRequest timing policy).Answer)
    (tolerated : ProbeEnd.IsTolerated ended)
    (queried : (queryRequest policy).Answer)
    {later : List Occurrence}
    (moves : callsOf later = [] ∨ MoveSaid timing policy queried later) :
    EvaluationSaid timing policy
      (.asked (probeRequest timing policy) :: .answered
        (probeRequest timing policy) ended :: .asked (queryRequest policy) ::
          .answered (queryRequest policy) queried :: later)

/-- Where a dialogue of an evaluation can have got to: its probe or its query is
not answered yet, one of them ended it, or the rest follows from the group that
the query found. -/
inductive EvaluationCourse (timing : Timing) (policy : Policy)
    (sinceSwitch : Option Nat) :
    List (Exchange Request.Answer) → Work (Except ControllerError Evaluation) →
      Prop where
  | probes (resume : ProbeEnd → Work (Except ControllerError Evaluation)) :
    EvaluationCourse timing policy sinceSwitch []
      (.ask (probeRequest timing policy) resume)
  | fails (ended : (probeRequest timing policy).Answer)
    (failed : ¬ ProbeEnd.IsTolerated ended) (error : ControllerError) :
    EvaluationCourse timing policy sinceSwitch
      [⟨probeRequest timing policy, ended⟩] (.done (.error error))
  | queries (ended : (probeRequest timing policy).Answer)
    (tolerated : ProbeEnd.IsTolerated ended)
    (resume : Except ControllerError Group →
      Work (Except ControllerError Evaluation)) :
    EvaluationCourse timing policy sinceSwitch
      [⟨probeRequest timing policy, ended⟩] (.ask (queryRequest policy) resume)
  | unanswered (ended : (probeRequest timing policy).Answer)
    (tolerated : ProbeEnd.IsTolerated ended) (error : ControllerError) :
    EvaluationCourse timing policy sinceSwitch
      [⟨probeRequest timing policy, ended⟩, ⟨queryRequest policy, .error error⟩]
      (.done (.error error))
  | decides (ended : (probeRequest timing policy).Answer)
    (tolerated : ProbeEnd.IsTolerated ended)
    (group : Group) {later : List (Exchange Request.Answer)}
    {rest : Work (Except ControllerError Evaluation)}
    (onward : Reaches (narrowCandidates policy group >>= fun _ =>
      carryOut timing policy.targetGroup
        (Decision.decide policy group sinceSwitch timing.minImprovement.toNat))
          later rest) :
    EvaluationCourse timing policy sinceSwitch
      (⟨probeRequest timing policy, ended⟩ :: ⟨queryRequest policy,
        .ok group⟩ :: later) rest

section Evaluations

variable {timing : Timing} {policy : Policy} {sinceSwitch : Option Nat}
  {exchanges : List (Exchange Request.Answer)}
  {rest : Work (Except ControllerError Evaluation)}

theorem evaluationCourse_of_reaches
    (reaches : Reaches (evaluate timing policy sinceSwitch) exchanges rest) :
    EvaluationCourse timing policy sinceSwitch exchanges rest := by
  rw [evaluate_eq] at reaches
  rcases Reaches.of_ask reaches with
    ⟨rfl, rfl⟩ | ⟨ended, afterProbe, rfl, onward⟩
  · exact .probes _
  cases verdict : ProbeEnd.verdict ended with
  | error error =>
    simp only [verdict] at onward
    obtain ⟨rfl, rfl⟩ := Reaches.of_done onward
    refine .fails ended (fun tolerated => ?_) error
    rw [ProbeEnd.verdict_eq_ok.2 tolerated] at verdict
    cases verdict
  | ok =>
    have tolerated : ProbeEnd.IsTolerated ended :=
      ProbeEnd.verdict_eq_ok.1 verdict
    simp only [verdict] at onward
    rcases Reaches.of_ask onward with
      ⟨rfl, rfl⟩ | ⟨queried, afterQuery, rfl, deciding⟩
    · exact .queries ended tolerated _
    cases queried with
    | error error =>
      obtain ⟨rfl, rfl⟩ := Reaches.of_done deciding
      exact .unanswered ended tolerated error
    | ok group => exact .decides ended tolerated group deciding

/-- After the query the only calls are those of a move that was decided on. -/
theorem callsOf_decided {group : Group}
    (onward : Reaches (narrowCandidates policy group >>= fun _ =>
      carryOut timing policy.targetGroup
        (Decision.decide policy group sinceSwitch timing.minImprovement.toNat))
          exchanges rest) :
    callsOf (said exchanges rest) = [] ∨
      ∃ plan, Decision.decide policy group sinceSwitch
        timing.minImprovement.toNat = .move plan ∧
        ∃ count ≤ timing.confirmAttempts.toNat, callsOf (said exchanges rest) =
          .apply policy.targetGroup plan.target.name ::
            List.replicate count (queryRequest policy) := by
  have silent :=
    (uses_narrowCandidates policy group).mono fun _ allowed => allowed.2
  rcases said_bind onward with
    ⟨request, resume, within, -, saidFact⟩ |
      ⟨before, after, result, finished, carrying, saidFact⟩
  · rw [saidFact]
    exact .inl (callsOf_said_of_uses silent within)
  · rw [saidFact, callsOf_append, callsOf_said_of_uses silent finished,
      List.nil_append]
    exact callsOf_carryOut carrying

theorem evaluationSaid_of_reaches
    (reaches : Reaches (evaluate timing policy sinceSwitch) exchanges rest) :
    EvaluationSaid timing policy (said exchanges rest) := by
  cases evaluationCourse_of_reaches reaches with
  | probes resume => exact .probes
  | fails ended failed error => exact .fails ended failed
  | queries ended tolerated resume => exact .queries ended tolerated
  | unanswered ended tolerated error =>
    exact .decides ended tolerated (.error error) (.inl rfl)
  | @decides ended tolerated group later _ onward =>
    refine .decides ended tolerated (.ok group) ?_
    rcases callsOf_decided onward with
      none | ⟨plan, decided, count, atMost, calls⟩
    · exact .inl none
    · exact .inr ⟨group, rfl, sinceSwitch, plan, decided, count, atMost, calls⟩

end Evaluations

/-- What can be said in a cycle before its report. -/
inductive Conversation (timing : Timing) : List Occurrence → Prop where
  | silent : Conversation timing []
  | asks : Conversation timing [.asked .readPolicy]
  | reads (read : Except StoreError Policy) :
    Conversation timing [.asked .readPolicy, .answered .readPolicy read]
  | evaluates {policy : Policy} {evaluation : List Occurrence}
    (busy : Loop.idleReport? policy = none)
    (ofEvaluation : ∀ occurrence ∈ evaluation, occurrence.isOfEvaluation = true)
    (evaluationFact : EvaluationSaid timing policy evaluation) :
    Conversation timing
      (.asked .readPolicy :: .answered .readPolicy (.ok policy) :: evaluation)

/-- What holds of all that is said in a cycle before its report. -/
structure Orderly (timing : Timing) (shown : List Occurrence) : Prop where
  /-- The policy is asked for once at most. -/
  read : shown.countP Occurrence.isReading ≤ 1
  /-- Calls are made only where the policy was read and leaves something to do.
  They are about its group: a probe, a query, a move, and queries for the move,
  or a beginning of these. -/
  calls : callsOf shown ≠ [] → ∃ policy later,
    shown = .asked .readPolicy :: .answered .readPolicy (.ok policy) :: later ∧
      policy.enabled = true ∧ policy.hasTargetGroup = true ∧
      policy.candidates.isEmpty = false ∧
      ∃ proxy, ∃ count ≤ timing.confirmAttempts.toNat,
        callsOf shown <+: probeRequest timing policy :: queryRequest policy ::
          .apply policy.targetGroup proxy :: List.replicate count
            (queryRequest policy)
  /-- The group is queried exactly where its probe is tolerated. -/
  queried : (∃ group order, .asked (.query group order) ∈ shown) ↔
    ∃ group limit, ∃ ended : ProbeEnd,
      .answered (.probe group limit) ended ∈ shown ∧ ended.IsTolerated
  /-- A move leads to a candidate of the policy that is a member of the group
  and is not selected, as the first query showed it. -/
  moved : ∀ group proxy, .asked (.apply group proxy) ∈ shown →
    ∃ policy, ∃ ended : ProbeEnd, ∃ answer : Group, ∃ later,
      shown = .asked .readPolicy :: .answered .readPolicy (.ok policy) ::
        .asked (probeRequest timing policy) :: .answered
          (probeRequest timing policy) ended ::
        .asked (queryRequest policy) :: .answered (queryRequest policy)
          (.ok answer) :: later ∧
      proxy ∈ policy.candidates ∧
      (∃ member ∈ answer.members, member.name = proxy) ∧
      answer.selected? ≠ some proxy

theorem busy_of_idleReport? {policy : Policy}
    (busy : Loop.idleReport? policy = none) :
    policy.enabled = true ∧ policy.hasTargetGroup = true ∧
      policy.candidates.isEmpty = false := by
  unfold Loop.idleReport? at busy
  split at busy
  · cases busy
  · split at busy
    · cases busy
    · split at busy
      · cases busy
      · simp_all

section Orderliness

variable {timing : Timing} {policy : Policy} {evaluation : List Occurrence}

theorem EvaluationSaid.calls_prefix
    (evaluationFact : EvaluationSaid timing policy evaluation) :
    ∃ proxy, ∃ count ≤ timing.confirmAttempts.toNat,
      callsOf evaluation <+: probeRequest timing policy ::
        queryRequest policy ::
        .apply policy.targetGroup proxy :: List.replicate count
          (queryRequest policy) := by
  cases evaluationFact with
  | probes => exact ⟨"", 0, Nat.zero_le _, _, rfl⟩
  | fails ended failed => exact ⟨"", 0, Nat.zero_le _, _, rfl⟩
  | queries ended tolerated => exact ⟨"", 0, Nat.zero_le _, _, rfl⟩
  | @decides ended tolerated queried later moves =>
    have calls : callsOf (.asked (probeRequest timing policy) ::
        .answered (probeRequest timing policy) ended ::
        .asked (queryRequest policy) ::
        .answered (queryRequest policy) queried :: later) =
          probeRequest timing policy :: queryRequest policy :: callsOf later :=
            rfl
    rw [calls]
    rcases moves with none |
      ⟨group, -, sinceSwitch, plan, -, count, atMost, laterCalls⟩
    · exact ⟨"", 0, Nat.zero_le _, _, by rw [none]; rfl⟩
    · exact ⟨plan.target.name, count, atMost,
        [], by rw [laterCalls, List.append_nil]⟩

theorem EvaluationSaid.queried_iff
    (evaluationFact : EvaluationSaid timing policy evaluation) :
    (∃ group order, .asked (.query group order) ∈ evaluation) ↔
      ∃ group limit, ∃ ended : ProbeEnd,
        .answered (.probe group limit) ended ∈ evaluation ∧
          ended.IsTolerated := by
  cases evaluationFact with
  | probes => simp [probeRequest]
  | fails ended failed =>
    constructor
    · rintro ⟨group, order, member⟩
      simp [probeRequest] at member
    · rintro ⟨group, limit, other, member, tolerated⟩
      have same : Occurrence.answered (.probe group limit) other =
          .answered (probeRequest timing policy) ended := by simpa using member
      cases same
      exact absurd tolerated failed
  | queries ended tolerated =>
    exact ⟨fun _ => ⟨_, _, ended, List.mem_cons_of_mem _ List.mem_cons_self,
        tolerated⟩,
      fun _ => ⟨policy.targetGroup, .byDelay, by simp [queryRequest]⟩⟩
  | decides ended tolerated queried moves =>
    exact ⟨fun _ => ⟨_, _, ended, List.mem_cons_of_mem _ List.mem_cons_self,
        tolerated⟩,
      fun _ => ⟨policy.targetGroup, .byDelay, by simp [queryRequest]⟩⟩

theorem EvaluationSaid.moved {group proxy : String}
    (evaluationFact : EvaluationSaid timing policy evaluation)
    (applies : .asked (.apply group proxy) ∈ evaluation) :
    ∃ ended : ProbeEnd, ∃ answer : Group, ∃ later,
      evaluation = .asked (probeRequest timing policy) ::
        .answered (probeRequest timing policy) ended ::
        .asked (queryRequest policy) ::
        .answered (queryRequest policy) (.ok answer) :: later ∧
      proxy ∈ policy.candidates ∧
      (∃ member ∈ answer.members, member.name = proxy) ∧
      answer.selected? ≠ some proxy := by
  cases evaluationFact with
  | probes => simp [probeRequest] at applies
  | fails ended failed => simp [probeRequest] at applies
  | queries ended tolerated => simp [probeRequest, queryRequest] at applies
  | @decides ended tolerated queried later moves =>
    have inLater : .apply group proxy ∈ callsOf later := by
      rw [mem_callsOf rfl]
      simpa [probeRequest, queryRequest] using applies
    rcases moves with none | ⟨answer, rfl, sinceSwitch, plan, decided, count,
      -, laterCalls⟩
    · rw [none] at inLater
      cases inLater
    · obtain ⟨chosen, notSelected⟩ := Decision.target_of_decide decided
      obtain ⟨isMember, isCandidate⟩ := Decision.mem_candidates.1 chosen
      rw [laterCalls] at inLater
      obtain rfl := target_of_mem_calls inLater
      exact ⟨ended, answer, later, rfl, isCandidate,
        ⟨plan.target, isMember, rfl⟩, notSelected⟩

theorem orderly_of_evaluation (busy : Loop.idleReport? policy = none)
    (ofEvaluation : ∀ occurrence ∈ evaluation, occurrence.isOfEvaluation = true)
    (evaluationFact : EvaluationSaid timing policy evaluation) :
    Orderly timing (.asked .readPolicy :: .answered .readPolicy (.ok policy) ::
      evaluation) where
  read := by
    have none : evaluation.countP Occurrence.isReading = 0 :=
      List.countP_eq_zero.2 fun occurrence member => by
        simp [isReading_of_isOfEvaluation (ofEvaluation occurrence member)]
    exact Nat.le_of_eq (by
      rw [List.countP_cons_of_pos rfl,
        List.countP_cons_of_neg Bool.false_ne_true, none])
  calls _ := by
    obtain ⟨enabled, hasGroup, hasCandidates⟩ := busy_of_idleReport? busy
    exact ⟨policy, evaluation, rfl, enabled, hasGroup, hasCandidates,
      evaluationFact.calls_prefix⟩
  queried := by simpa using evaluationFact.queried_iff
  moved group proxy applies := by
    obtain ⟨ended, answer, later, rfl, chosen⟩ :=
      evaluationFact.moved (by simpa using applies)
    exact ⟨policy, ended, answer, later, rfl, chosen⟩

end Orderliness

theorem orderly_of_conversation {timing : Timing} {shown : List Occurrence}
    (conversation : Conversation timing shown) : Orderly timing shown := by
  cases conversation with
  | silent =>
    exact ⟨Nat.zero_le _, fun some => absurd rfl some, by simp, by simp⟩
  | asks => exact ⟨Nat.le_refl _, fun some => absurd rfl some, by simp, by simp⟩
  | reads read =>
    exact ⟨Nat.le_refl _, fun some => absurd rfl some, by simp, by simp⟩
  | evaluates busy ofEvaluation evaluationFact =>
    exact orderly_of_evaluation busy ofEvaluation evaluationFact

end Switchyard.Control
