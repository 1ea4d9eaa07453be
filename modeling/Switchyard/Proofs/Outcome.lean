import Switchyard.Proofs.Stretches

/-!
# How an evaluation comes out

What is said in an evaluation tells how it comes out. A switch is confirmed
exactly where a poll showed a move that the controller took; a move was decided
on for the group that the query found; and what is written is what is left of
the stored policy that was read just before.
-/

namespace Switchyard.Control

open Routine (Exchange Reaches Uses reaches_bind)

section Said

variable {Result : Type}

/-- Work without calls finds no group, and no move of it is taken. -/
theorem silent_of_uses {routine rest : Work Result}
    {exchanges : List (Exchange Request.Answer)}
    (uses : routine.Uses (·.isCall = false))
    (reaches : Reaches routine exchanges rest) :
    ∀ occurrence ∈ said exchanges rest,
      occurrence.accepted? = none ∧ occurrence.group? = none := by
  refine forall_said_of_uses (fun _ _ => ⟨rfl, rfl⟩)
    (fun request answer allowed => ?_) uses reaches
  cases request <;> first | exact ⟨rfl, rfl⟩ | cases allowed

theorem any_shows_of_silent {shown : List Occurrence}
    (silent : ∀ occurrence ∈ shown, occurrence.accepted? = none ∧
      occurrence.group? = none)
    (proxy : String) : shown.any (·.shows proxy) = false := by
  refine List.any_eq_false.2 fun occurrence member => ?_
  rw [Occurrence.shows, (silent occurrence member).2]
  exact Bool.false_ne_true

/-- A request that is made is the next one after some part of the dialogue. -/
theorem exists_reaches_of_asked {routine rest : Work Result}
    {exchanges : List (Exchange Request.Answer)}
    (reaches : Reaches routine exchanges rest)
    {former latter : List Occurrence} {request : Request}
    (split : said exchanges rest = former ++ .asked request :: latter) :
    ∃ before resume, Reaches routine before (.ask request resume) ∧
      told before = former := by
  induction reaches generalizing former with
  | here routine =>
    cases routine with
    | done result => simp at split
    | ask other resume =>
      rcases List.singleton_eq_append_iff.1 split with ⟨rfl, same⟩ | ⟨-, none⟩
      · cases same
        exact ⟨[], resume, .here _, rfl⟩
      · cases none
  | @next other resume exchanges rest answer reaches laterFact =>
    rw [said_cons] at split
    rcases List.cons_eq_append_iff.1 split with
      ⟨rfl, same⟩ | ⟨since, rfl, answered⟩
    · cases same
      exact ⟨[], resume, .here _, rfl⟩
    · rcases List.cons_eq_append_iff.1 answered with
        ⟨rfl, same⟩ | ⟨since, rfl, onward⟩
      · cases same
      · obtain ⟨before, goingOn, reached, rfl⟩ := laterFact onward
        exact ⟨_, goingOn, .next answer reached, rfl⟩

/-- An answer that is given is the one to the request that was made just
before. -/
theorem exists_reaches_of_answered {routine rest : Work Result}
    {exchanges : List (Exchange Request.Answer)}
    (reaches : Reaches routine exchanges rest)
    {former latter : List Occurrence} {request : Request}
    {answer : request.Answer}
    (split : said exchanges rest =
      former ++ .answered request answer :: latter) :
    ∃ before resume, Reaches routine before (.ask request resume) ∧
      told before ++ [.asked request] = former := by
  induction reaches generalizing former with
  | here routine =>
    cases routine with
    | done result => simp at split
    | ask other resume =>
      rcases List.singleton_eq_append_iff.1 split with ⟨-, same⟩ | ⟨-, none⟩
      · cases same
      · cases none
  | @next other resume exchanges rest given reaches laterFact =>
    rw [said_cons] at split
    rcases List.cons_eq_append_iff.1 split with
      ⟨-, same⟩ | ⟨since, rfl, answered⟩
    · cases same
    · rcases List.cons_eq_append_iff.1 answered with
        ⟨rfl, same⟩ | ⟨since, rfl, onward⟩
      · cases same
        exact ⟨[], resume, .here _, rfl⟩
      · obtain ⟨before, goingOn, reached, rfl⟩ := laterFact onward
        exact ⟨_, goingOn, .next given reached, rfl⟩

end Said

section Confirming

variable {timing : Timing} {group : String}
  {exchanges : List (Exchange Request.Answer)}

/-- A poll shows the target exactly where waiting for it ends with success. -/
theorem any_shows_confirm {target : String} {attempts : Nat}
    {observed : Option String}
    {rest : Work (Except ControllerError SwitchResult)}
    (reaches : Reaches (confirm timing group target attempts observed)
      exchanges rest) :
    (said exchanges rest).any (·.shows target) = true ↔
      rest = .done (.ok .confirmed) := by
  induction attempts generalizing observed exchanges with
  | zero =>
    obtain ⟨rfl, rfl⟩ := Reaches.of_done reaches
    simp
  | succ attempts attemptsFact =>
    rw [confirm_succ] at reaches
    rcases Reaches.of_ask reaches with
      ⟨rfl, rfl⟩ | ⟨paused, afterPause, rfl, asking⟩
    · simp [Occurrence.shows, Occurrence.group?]
    rcases Reaches.of_ask asking with ⟨rfl, rfl⟩ | ⟨seen, later, rfl, onward⟩
    · simp [Occurrence.shows, Occurrence.group?]
    cases seen with
    | error error =>
      obtain ⟨rfl, rfl⟩ := Reaches.of_done onward
      simp [Occurrence.shows, Occurrence.group?]
    | ok seen =>
      dsimp only at onward
      split at onward
      · next selected =>
        obtain ⟨rfl, rfl⟩ := Reaches.of_done onward
        simp [Occurrence.shows, Occurrence.group?, selected]
      · next other =>
        rw [← attemptsFact onward]
        simp [Occurrence.shows, Occurrence.group?, other]

/-- Waiting for a move to show up makes no other move. -/
theorem accepted?_of_confirm {target : String} {attempts : Nat}
    {observed : Option String}
    {rest : Work (Except ControllerError SwitchResult)}
    (reaches : Reaches (confirm timing group target attempts observed)
      exchanges rest) :
    ∀ occurrence ∈ said exchanges rest, occurrence.accepted? = none := by
  refine forall_said_of_uses (fun _ _ => rfl) (fun request answer isPoll => ?_)
    (uses_confirm timing group target attempts observed) reaches
  cases request <;> first | rfl | cases isPoll

theorem confirms_makeMove {plan : Switchyard.Move}
    {rest : Work (Except ControllerError SwitchResult)}
    (reaches : Reaches (makeMove timing group plan) exchanges rest) :
    confirms (said exchanges rest) = true ↔ rest = .done (.ok .confirmed) := by
  rw [makeMove_eq] at reaches
  rcases Reaches.of_ask reaches with ⟨rfl, rfl⟩ | ⟨applied, later, rfl, onward⟩
  · simp [confirms, Occurrence.accepted?]
  rcases applied with error | accepted
  · obtain ⟨rfl, rfl⟩ := Reaches.of_done onward
    simp [confirms, Occurrence.accepted?]
  cases accepted with
  | false =>
    obtain ⟨rfl, rfl⟩ := Reaches.of_done onward
    simp [confirms, Occurrence.accepted?]
  | true =>
    have quiet :=
      (uses_rememberSelection group plan.target.name).mono fun _ allowed =>
        allowed.2
    have whole :
        confirms
          (said (⟨.apply group plan.target.name, .ok true⟩ :: later) rest) =
        ((said later rest).any (·.shows plan.target.name) ||
          confirms (said later rest)) := by
      simp [confirms, Occurrence.accepted?]
    rw [whole]
    rcases said_bind onward with
      ⟨request, resume, within, rfl, saidFact⟩ |
      ⟨before, after, result, finished, confirming, saidFact⟩
    · have silent := silent_of_uses quiet within
      rw [saidFact, any_shows_of_silent silent,
        confirms_of_none fun occurrence member => (silent occurrence member).1]
      simp
    · have silent := silent_of_uses quiet finished
      rw [saidFact, List.any_append, any_shows_of_silent silent,
        confirms_append_of_none fun occurrence member =>
          (silent occurrence member).1,
        confirms_of_none (accepted?_of_confirm confirming), Bool.false_or,
        Bool.or_false, any_shows_confirm confirming]

theorem confirms_carryOut {decision : Decision}
    {rest : Work (Except ControllerError Evaluation)}
    (reaches : Reaches (carryOut timing group decision) exchanges rest) :
    confirms (said exchanges rest) = true ↔
      ∃ report, rest = .done (.ok ⟨.switched, report⟩) := by
  cases decision with
  | missingCandidates available =>
    obtain ⟨rfl, rfl⟩ := Reaches.of_done reaches
    simp [confirms]
  | hold reason =>
    obtain ⟨rfl, rfl⟩ := Reaches.of_done reaches
    simp [confirms]
  | move plan =>
    rcases said_bind reaches with
      ⟨request, resume, within, rfl, saidFact⟩ |
      ⟨before, after, result, finished, concluding, saidFact⟩
    · rw [saidFact, confirms_makeMove within]
      simp
    · cases result with
      | error error =>
        obtain ⟨rfl, rfl⟩ := Reaches.of_done concluding
        rw [saidFact, said_nil_done, List.append_nil,
          confirms_makeMove finished]
        simp
      | ok result =>
        obtain ⟨rfl, rfl⟩ := Reaches.of_done concluding
        rw [saidFact, said_nil_done, List.append_nil,
          confirms_makeMove finished]
        cases result <;> simp [moveEvaluation]

end Confirming

section Writing

variable {timing : Timing} {policy narrower : Policy} {group : Group}
  {exchanges : List (Exchange Request.Answer)}

/-- What is written is left of a stored policy that was read just before. -/
theorem stored_of_narrowCandidates {resume : Except StoreError Unit → Work Unit}
    (reaches : Reaches (narrowCandidates policy group) exchanges
      (.ask (.writePolicy narrower) resume)) :
    ∃ stored, exchanges = [⟨.readStored, .ok stored⟩] ∧
      narrowed? stored group.memberNames = some narrower := by
  rw [narrowCandidates_eq] at reaches
  split at reaches
  · cases (Reaches.of_done reaches).2
  rcases Reaches.of_ask reaches with ⟨-, other⟩ | ⟨read, later, rfl, onward⟩
  · cases other
  rcases read with error | stored
  · cases (Reaches.of_done onward).2
  dsimp only at onward
  split at onward
  · cases (Reaches.of_done onward).2
  cases left : narrowed? stored group.memberNames with
  | none =>
    rw [left] at onward
    cases (Reaches.of_done onward).2
  | some policy =>
    rw [left] at onward
    rcases Reaches.of_ask onward with
      ⟨rfl, same⟩ | ⟨written, after, rfl, finished⟩
    · cases same
      exact ⟨stored, rfl, left⟩
    · cases (Reaches.of_done finished).2

end Writing

section Whole

variable {timing : Timing} {policy : Policy} {sinceSwitch : Option Nat}
  {exchanges : List (Exchange Request.Answer)}
  {rest : Work (Except ControllerError Evaluation)}

/-- An evaluation ends with a confirmed switch exactly where a poll showed a
move that was taken. -/
theorem confirms_evaluate
    (reaches : Reaches (evaluate timing policy sinceSwitch) exchanges rest) :
    confirms (said exchanges rest) = true ↔
      ∃ report, rest = .done (.ok ⟨.switched, report⟩) := by
  cases evaluationCourse_of_reaches reaches with
  | probes resume => exact iff_of_false Bool.false_ne_true (by simp)
  | fails ended failed error => exact iff_of_false Bool.false_ne_true (by simp)
  | queries ended tolerated resume =>
    exact iff_of_false Bool.false_ne_true (by simp)
  | unanswered ended tolerated error =>
    exact iff_of_false Bool.false_ne_true (by simp)
  | @decides ended tolerated group later _ onward =>
    have silent :=
      (uses_narrowCandidates policy group).mono fun _ allowed => allowed.2
    suffices confirmed : confirms (said later rest) = true ↔
        ∃ report, rest = .done (.ok ⟨.switched, report⟩) from confirmed
    rcases said_bind onward with
      ⟨request, resume, within, rfl, saidFact⟩ |
      ⟨before, after, result, finished, carrying, saidFact⟩
    · rw [saidFact, confirms_of_none fun occurrence member =>
        (silent_of_uses silent within occurrence member).1]
      simp
    · rw [saidFact, confirms_append_of_none fun occurrence member =>
        (silent_of_uses silent finished occurrence member).1]
      exact confirms_carryOut carrying

/-- A move is made as it was decided on for the group that the query found. -/
theorem decided_of_apply
    (reaches : Reaches (evaluate timing policy sinceSwitch) exchanges rest)
    {group proxy : String}
    (applies : .asked (.apply group proxy) ∈ said exchanges rest) :
    ∃ answer plan,
      (said exchanges rest).findSome? Occurrence.group? = some answer ∧
      Decision.decide policy answer sinceSwitch timing.minImprovement.toNat =
        .move plan ∧
      proxy = plan.target.name := by
  have called := (mem_callsOf rfl).2 applies
  have unmoved : .apply group proxy ∉ [probeRequest timing policy,
      queryRequest policy] := by
    simp [probeRequest, queryRequest]
  cases evaluationCourse_of_reaches reaches with
  | probes resume => cases List.mem_singleton.1 called
  | fails ended failed error => cases List.mem_singleton.1 called
  | queries ended tolerated resume => exact absurd called unmoved
  | unanswered ended tolerated error => exact absurd called unmoved
  | @decides ended tolerated answer later _ onward =>
    have inLater : .apply group proxy ∈ callsOf (said later rest) := by
      rcases List.mem_cons.1 called with same | other
      · cases same
      · exact (List.mem_cons.1 other).resolve_left Request.noConfusion
    rcases callsOf_decided onward with none | ⟨plan, decided, count, -, calls⟩
    · rw [none] at inLater
      cases inLater
    · rw [calls] at inLater
      exact ⟨answer, plan, rfl, decided, target_of_mem_calls inLater⟩

/-- Before a policy is written the group is probed and queried, and the stored
policy is read. What is written is left of that, for the group that the query
found. -/
theorem exchanges_of_write {narrower : Policy}
    {resume : Except StoreError Unit → Work (Except ControllerError Evaluation)}
    (reaches : Reaches (evaluate timing policy sinceSwitch) exchanges
      (.ask (.writePolicy narrower) resume)) :
    ∃ ended group stored, exchanges = [⟨probeRequest timing policy, ended⟩,
        ⟨queryRequest policy, .ok group⟩, ⟨.readStored, .ok stored⟩] ∧
      narrowed? stored group.memberNames = some narrower := by
  cases evaluationCourse_of_reaches reaches with
  | @decides ended tolerated group later _ onward =>
    rcases reaches_bind onward with
      ⟨request, goingOn, within, same⟩ |
        ⟨before, after, result, -, finished, carrying⟩
    · cases same
      obtain ⟨stored, rfl, left⟩ := stored_of_narrowCandidates within
      exact ⟨ended, group, stored, rfl, left⟩
    · have uses := (uses_carryOut _ _ _).reached carrying
      cases uses.1

/-- What is written is left of a stored policy, for the group that the query
found. -/
theorem stored_of_write {narrower : Policy}
    {resume : Except StoreError Unit → Work (Except ControllerError Evaluation)}
    (reaches : Reaches (evaluate timing policy sinceSwitch) exchanges
      (.ask (.writePolicy narrower) resume)) :
    ∃ group stored, .answered (queryRequest policy) (.ok group) ∈
      told exchanges ∧ .answered .readStored (.ok stored) ∈ told exchanges ∧
      narrowed? stored group.memberNames = some narrower := by
  obtain ⟨ended, group, stored, rfl, left⟩ := exchanges_of_write reaches
  exact ⟨group, stored, by simp [told], by simp [told], left⟩

end Whole

end Switchyard.Control
