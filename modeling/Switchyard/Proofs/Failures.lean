import Switchyard.Proofs.Outcome

/-!
# What an evaluation fails of

An evaluation fails exactly where one of its requests is answered with an error
that it does not tolerate, and nothing more is said in it then. So what is said
shows whether it failed, and of what. It also shows whether an evaluation that
did not fail calls for another look soon: no candidate was a member of the
group, or a move was asked for that no poll showed.
-/

namespace Switchyard

/-- The message of the error that a report tells of. -/
def Report.failure? : Report → Option String
  | .failure message => some message
  | _ => none

end Switchyard

namespace Switchyard.Control

open Routine (Exchange Reaches Uses)

def failureOf? {Result : Type} : Except ControllerError Result → Option String
  | .error error => some error.message
  | .ok _ => none

/-- The message of an error that ends the cycle in which it is answered. Errors
in narrowing the candidates, in remembering a selection and in keeping a status
do not. -/
def Occurrence.failure? : Occurrence → Option String
  | .answered .readPolicy (.error error) => some error.message
  | .answered (.probe _ _) ended => failureOf? (ProbeEnd.verdict ended)
  | .answered (.query _ _) queried => failureOf? queried
  | .answered (.apply _ _) applied => failureOf? applied
  | _ => none

def failuresOf (shown : List Occurrence) : List String :=
  shown.filterMap Occurrence.failure?

/-- The message of the error that a piece of work has ended with. -/
def failureIn? {Result : Type} :
    Work (Except ControllerError Result) → Option String
  | .done result => failureOf? result
  | .ask _ _ => none

@[simp]
theorem failuresOf_nil : failuresOf [] = [] := rfl

@[simp]
theorem failuresOf_append (former latter : List Occurrence) :
    failuresOf (former ++ latter) = failuresOf former ++ failuresOf latter :=
  List.filterMap_append

@[simp]
theorem failuresOf_asked (request : Request) (rest : List Occurrence) :
    failuresOf (.asked request :: rest) = failuresOf rest := rfl

@[simp]
theorem failuresOf_answered (request : Request) (answer : request.Answer)
    (rest : List Occurrence) :
    failuresOf (.answered request answer :: rest) =
      (Occurrence.failure? (.answered request answer)).toList ++
        failuresOf rest := by
  unfold failuresOf
  rw [List.filterMap_cons]
  cases Occurrence.failure? (.answered request answer) <;> simp

section Parts

variable {timing : Timing} {group : String}
  {exchanges : List (Exchange Request.Answer)}

/-- Work that makes no calls does not fail. -/
theorem failuresOf_said_of_uses {Result : Type} {routine rest : Work Result}
    (uses : routine.Uses fun request =>
      request.isForEvaluation = true ∧ request.isCall = false)
    (reaches : Reaches routine exchanges rest) :
    failuresOf (said exchanges rest) = [] := by
  have none : ∀ occurrence ∈ said exchanges rest,
      occurrence.failure? = none := by
    refine forall_said_of_uses (fun _ _ => rfl)
      (fun request answer allowed => ?_) uses reaches
    cases request <;> first | rfl |
      simp [Request.isForEvaluation, Request.isCall] at allowed
  exact List.filterMap_eq_nil_iff.2 none

theorem failuresOf_confirm {target : String} {attempts : Nat}
    {observed : Option String}
    {rest : Work (Except ControllerError SwitchResult)}
    (reaches : Reaches (confirm timing group target attempts observed)
      exchanges rest) :
    failuresOf (said exchanges rest) = (failureIn? rest).toList := by
  induction attempts generalizing observed exchanges with
  | zero =>
    obtain ⟨rfl, rfl⟩ := Reaches.of_done reaches
    rfl
  | succ attempts attemptsFact =>
    rw [confirm_succ] at reaches
    rcases Reaches.of_ask reaches with
      ⟨rfl, rfl⟩ | ⟨paused, afterPause, rfl, asking⟩
    · rfl
    rcases Reaches.of_ask asking with ⟨rfl, rfl⟩ | ⟨seen, later, rfl, onward⟩
    · rfl
    cases seen with
    | error error =>
      obtain ⟨rfl, rfl⟩ := Reaches.of_done onward
      rfl
    | ok seen =>
      dsimp only at onward
      split at onward
      · obtain ⟨rfl, rfl⟩ := Reaches.of_done onward
        rfl
      · have laterFact := attemptsFact onward
        simpa [Occurrence.failure?, failureOf?] using laterFact

theorem failuresOf_makeMove {plan : Switchyard.Move}
    {rest : Work (Except ControllerError SwitchResult)}
    (reaches : Reaches (makeMove timing group plan) exchanges rest) :
    failuresOf (said exchanges rest) = (failureIn? rest).toList := by
  rw [makeMove_eq] at reaches
  rcases Reaches.of_ask reaches with ⟨rfl, rfl⟩ | ⟨applied, later, rfl, onward⟩
  · rfl
  rcases applied with error | accepted
  · obtain ⟨rfl, rfl⟩ := Reaches.of_done onward
    rfl
  cases accepted with
  | false =>
    obtain ⟨rfl, rfl⟩ := Reaches.of_done onward
    rfl
  | true =>
    have uses :=
      (uses_rememberSelection group plan.target.name).mono
        fun request allowed =>
          And.intro (isForEvaluation_of_isForMove request allowed.1) allowed.2
    have whole :
        failuresOf
          (said (⟨.apply group plan.target.name, .ok true⟩ :: later) rest) =
        failuresOf (said later rest) := by
      simp [Occurrence.failure?, failureOf?]
    rw [whole]
    rcases said_bind onward with
      ⟨request, resume, within, rfl, saidFact⟩ |
      ⟨before, after, result, finished, confirming, saidFact⟩
    · rw [saidFact, failuresOf_said_of_uses uses within]
      rfl
    · rw [saidFact, failuresOf_append, failuresOf_said_of_uses uses finished,
        List.nil_append]
      exact failuresOf_confirm confirming

theorem failuresOf_carryOut {decision : Decision}
    {rest : Work (Except ControllerError Evaluation)}
    (reaches : Reaches (carryOut timing group decision) exchanges rest) :
    failuresOf (said exchanges rest) = (failureIn? rest).toList := by
  cases decision with
  | missingCandidates available =>
    obtain ⟨rfl, rfl⟩ := Reaches.of_done reaches
    rfl
  | hold reason =>
    obtain ⟨rfl, rfl⟩ := Reaches.of_done reaches
    rfl
  | move plan =>
    rcases said_bind reaches with
      ⟨request, resume, within, rfl, saidFact⟩ |
      ⟨before, after, result, finished, concluding, saidFact⟩
    · rw [saidFact, failuresOf_makeMove within]
      rfl
    · cases result with
      | error error =>
        obtain ⟨rfl, rfl⟩ := Reaches.of_done concluding
        rw [saidFact, said_nil_done, List.append_nil,
          failuresOf_makeMove finished]
        rfl
      | ok result =>
        obtain ⟨rfl, rfl⟩ := Reaches.of_done concluding
        rw [saidFact, said_nil_done, List.append_nil,
          failuresOf_makeMove finished]
        rfl

end Parts

section Whole

variable {timing : Timing} {policy : Policy} {sinceSwitch : Option Nat}
  {exchanges : List (Exchange Request.Answer)}

/-- What is said in an evaluation shows no failure but the one that it ends
with. -/
theorem failuresOf_evaluate {rest : Work (Except ControllerError Evaluation)}
    (reaches : Reaches (evaluate timing policy sinceSwitch) exchanges rest) :
    failuresOf (said exchanges rest) = (failureIn? rest).toList := by
  rw [evaluate_eq] at reaches
  rcases Reaches.of_ask reaches with
    ⟨rfl, rfl⟩ | ⟨ended, afterProbe, rfl, onward⟩
  · rfl
  cases verdict : ProbeEnd.verdict ended with
  | error error =>
    simp only [verdict] at onward
    obtain ⟨rfl, rfl⟩ := Reaches.of_done onward
    simp [Occurrence.failure?, failureIn?, failureOf?, verdict]
  | ok =>
    simp only [verdict] at onward
    have tolerated :
        failuresOf
          (said (⟨probeRequest timing policy, ended⟩ :: afterProbe) rest) =
        failuresOf (said afterProbe rest) := by
      simp [probeRequest, Occurrence.failure?, failureOf?, verdict]
    refine tolerated.trans ?_
    rcases Reaches.of_ask onward with
      ⟨rfl, rfl⟩ | ⟨queried, afterQuery, rfl, deciding⟩
    · rfl
    cases queried with
    | error error =>
      obtain ⟨rfl, rfl⟩ := Reaches.of_done deciding
      rfl
    | ok found =>
      have answered :
          failuresOf
            (said (⟨queryRequest policy, .ok found⟩ :: afterQuery) rest) =
          failuresOf (said afterQuery rest) := by
        simp [queryRequest, Occurrence.failure?, failureOf?]
      refine answered.trans ?_
      have uses := uses_narrowCandidates policy found
      rcases said_bind deciding with
        ⟨request, resume, within, rfl, saidFact⟩ |
        ⟨before, after, result, finished, carrying, saidFact⟩
      · rw [saidFact, failuresOf_said_of_uses uses within]
        rfl
      · rw [saidFact, failuresOf_append, failuresOf_said_of_uses uses finished,
          List.nil_append]
        exact failuresOf_carryOut carrying

/-- The report of an evaluation that did not fail tells of no error. -/
theorem failure?_carryOut {group : String} {decision : Decision}
    {evaluation : Evaluation}
    (reaches : Reaches (carryOut timing group decision) exchanges
      (.done (.ok evaluation))) :
    evaluation.report.failure? = none := by
  cases decision with
  | missingCandidates available =>
    obtain ⟨-, done⟩ := Reaches.of_done reaches
    cases done
    rfl
  | hold reason =>
    obtain ⟨-, done⟩ := Reaches.of_done reaches
    cases done
    cases reason <;> rfl
  | move plan =>
    rcases said_bind reaches with
      ⟨request, resume, within, unfinished, -⟩ |
        ⟨before, after, moved, finished, concluding, -⟩
    · cases unfinished
    cases moved with
    | error error =>
      obtain ⟨-, done⟩ := Reaches.of_done concluding
      cases done
    | ok result =>
      obtain ⟨-, done⟩ := Reaches.of_done concluding
      cases done
      cases result with
      | confirmed =>
        cases forced : plan.forced <;> simp [moveEvaluation, forced,
          Report.failure?]
      | applyFailed => rfl
      | confirmFailed observed => rfl

theorem failure?_evaluate {evaluation : Evaluation}
    (reaches : Reaches (evaluate timing policy sinceSwitch) exchanges
      (.done (.ok evaluation))) :
    evaluation.report.failure? = none := by
  cases evaluationCourse_of_reaches reaches with
  | decides ended tolerated group onward =>
    rcases said_bind onward with
      ⟨request, resume, within, unfinished, -⟩ |
        ⟨before, after, result, finished, carrying, -⟩
    · cases unfinished
    · exact failure?_carryOut carrying

end Whole

/-- Whether an evaluation that came out so is to be made again soon. -/
def callsForRetry : Except ControllerError Evaluation → Bool
  | .error _ => true
  | .ok evaluation => evaluation.verdict == .transient

/-- Whether what is said shows a group of which no candidate is a member, or a
move that was asked for and that no poll showed. -/
def leavesOpen (policy : Policy) (shown : List Occurrence) : Bool :=
  (shown.findSome? Occurrence.group?).any (fun group =>
      (Decision.candidates policy group).isEmpty) ||
    (shown.any (·.applied?.isSome) && !confirms shown)

section CarryingOut

variable {timing : Timing} {group : String}
  {exchanges : List (Exchange Request.Answer)}

theorem applied?_of_uses {Result : Type} {routine rest : Work Result}
    (uses : routine.Uses (·.isCall = false))
    (reaches : Reaches routine exchanges rest) :
    (said exchanges rest).any (·.applied?.isSome) = false := by
  refine List.any_eq_false.2 (forall_said_of_uses (fun request allowed => ?_)
    (fun _ _ _ => Bool.false_ne_true) uses reaches)
  cases request <;> first | exact Bool.false_ne_true | cases allowed

/-- A decision that was carried out calls for another look unless it was to
hold, or was a move that a poll showed. -/
theorem callsForRetry_carryOut {decision : Decision}
    {result : Except ControllerError Evaluation}
    (reaches : Reaches (carryOut timing group decision) exchanges
      (.done result)) :
    callsForRetry result =
      (decision.isMissing ||
        ((told exchanges).any (·.applied?.isSome) &&
          !confirms (told exchanges))) := by
  cases decision with
  | missingCandidates available =>
    obtain ⟨rfl, done⟩ := Reaches.of_done reaches
    cases done
    rfl
  | hold reason =>
    obtain ⟨rfl, done⟩ := Reaches.of_done reaches
    cases done
    rfl
  | move plan =>
    rcases said_bind reaches with
      ⟨request, resume, within, unfinished, -⟩ |
      ⟨before, after, moved, finished, concluding, saidFact⟩
    · cases unfinished
    have nothing : said after
        (.done result : Work (Except ControllerError Evaluation)) = [] := by
      cases moved <;> (obtain ⟨rfl, done⟩ := Reaches.of_done concluding; rfl)
    rw [said_done, nothing, List.append_nil, said_done] at saidFact
    have confirmed := confirms_makeMove finished
    obtain ⟨count, -, calls⟩ := callsOf_makeMove finished
    rw [said_done] at confirmed calls
    have asked : Occurrence.asked (.apply group plan.target.name) ∈
        told before := by
      rw [← mem_callsOf rfl, calls]
      exact List.mem_cons_self
    have applies : (told before).any (·.applied?.isSome) = true :=
      List.any_eq_true.2 ⟨_, asked, rfl⟩
    rw [saidFact, applies]
    cases moved with
    | error error =>
      obtain ⟨-, done⟩ := Reaches.of_done concluding
      cases done
      simp [callsForRetry, Decision.isMissing, Bool.eq_false_iff, confirmed]
    | ok outcome =>
      obtain ⟨-, done⟩ := Reaches.of_done concluding
      cases done
      cases outcome with
      | confirmed =>
        rw [confirmed.2 rfl]
        rfl
      | applyFailed =>
        have unshown : confirms (told before) = false :=
          Bool.eq_false_iff.2 fun shown => by cases confirmed.1 shown
        rw [unshown]
        rfl
      | confirmFailed observed =>
        have unshown : confirms (told before) = false :=
          Bool.eq_false_iff.2 fun shown => by cases confirmed.1 shown
        rw [unshown]
        rfl

end CarryingOut

section Whole

variable {timing : Timing} {policy : Policy} {sinceSwitch : Option Nat}
  {exchanges : List (Exchange Request.Answer)}

/-- What is said in an evaluation shows whether it calls for another look: it
failed, or left something open. -/
theorem callsForRetry_evaluate {result : Except ControllerError Evaluation}
    (reaches : Reaches (evaluate timing policy sinceSwitch) exchanges
      (.done result)) :
    callsForRetry result =
      (!(failuresOf (told exchanges)).isEmpty ||
        leavesOpen policy (told exchanges)) := by
  have failures := failuresOf_evaluate reaches
  rw [said_done] at failures
  cases result with
  | error error => simp [failures, failureIn?, failureOf?, callsForRetry]
  | ok evaluation =>
    have unfailing : (failuresOf (told exchanges)).isEmpty = true := by
      simp [failures, failureIn?, failureOf?]
    rw [unfailing, Bool.not_true, Bool.false_or]
    cases evaluationCourse_of_reaches reaches with
    | @decides ended tolerated group later _ onward =>
      have silent :=
        (uses_narrowCandidates policy group).mono fun _ allowed => allowed.2
      rcases said_bind onward with
        ⟨request, resume, within, unfinished, -⟩ |
        ⟨before, after, result, finished, carrying, saidFact⟩
      · cases unfinished
      · have quiet := silent_of_uses silent finished
        have unasked := applied?_of_uses silent finished
        rw [said_done, said_done, said_done] at saidFact
        rw [said_done] at quiet unasked
        have whole :
            leavesOpen policy (told (⟨probeRequest timing policy, ended⟩ ::
            ⟨queryRequest policy, .ok group⟩ :: later)) =
              ((Decision.candidates policy group).isEmpty ||
                ((told later).any (·.applied?.isSome) &&
                  !confirms (told later))) := rfl
        rw [whole, saidFact, List.any_append, unasked, Bool.false_or,
          confirms_append_of_none fun occurrence member =>
            (quiet occurrence member).1,
          ← Decision.isMissing_decide policy group sinceSwitch
            timing.minImprovement.toNat]
        exact callsForRetry_carryOut carrying

end Whole

end Switchyard.Control
