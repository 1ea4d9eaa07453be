import Mathlib.Data.List.Induction
import Switchyard.Proofs.Bookkeeping
import Switchyard.Proofs.Holding

/-!
# The selections that are remembered

Once the controller has taken a move, a selection is owed to the memory. It is
paid before anything else comes of the move, so it does not matter whether the
move shows up, and nothing is owed where no evaluation is under way. What the
memory will hold when all is paid follows from the log, and every exchange keeps
it so.
-/

namespace Switchyard

open Store (SelectionMap)

namespace Control

variable {Outside : Type}

namespace Occurrence

/-- The proxy that a group was moved to, as the controller took the move. -/
def taken? (group : String) : Occurrence → Option String
  | .answered (.apply moved proxy) (.ok true) =>
    if moved = group then some proxy else none
  | _ => none

/-- Whether nothing but a profile is active, and nothing that is to be
remembered is refused. -/
def isServed (profile : String) : Occurrence → Bool
  | .answered .activeProfile active => active == some profile
  | .answered (.remember _) (.error _) => false
  | _ => true

/-- The selection that is owed after something happened, given the one that was
owed before. -/
def owes? (profile : String) (owed : Option Selection) :
    Occurrence → Option Selection
  | .answered (.apply group proxy) (.ok true) => some ⟨profile, group, proxy⟩
  | .answered (.remember _) _ => none
  | _ => owed

/-- The selections that are remembered after something happened. -/
def remembered (entries : SelectionMap) : Occurrence → SelectionMap
  | .answered (.remember selection) (.ok _) => entries.save selection
  | _ => entries

end Occurrence

/-- Whether a request fits what is owed: just that is remembered, and no other
move comes before. -/
def Request.Fits (owed : Option Selection) : Request → Prop
  | .apply _ _ => owed = none
  | .remember selection => owed = some selection
  | _ => True

section Paying

variable {Result Next : Type} {profile : String} {owed : Option Selection}

/-- Whether some work pays what is owed, and whatever it comes to owe, as long
as it is served. -/
def Pays (profile : String) : Option Selection → Work Result → Prop
  | owed, .done _ => owed = none
  | owed, .ask request resume =>
    request.Fits owed ∧
      ∀ answer, (Occurrence.answered request answer).isServed profile = true →
      Pays profile ((Occurrence.answered request answer).owes? profile owed)
        (resume answer)

theorem Pays.bind {routine : Work Result} {next : Result → Work Next}
    (first : Pays profile owed routine)
    (second : ∀ result, Pays profile none (next result)) :
    Pays profile owed (routine >>= next) := by
  induction routine generalizing owed with
  | done result =>
    rw [first]
    exact second result
  | ask request resume resumeFact =>
    exact ⟨first.1, fun answer served =>
      resumeFact answer (first.2 answer served)⟩

/-- Where a move is only waited for, nothing comes to be owed. -/
theorem pays_of_isPoll {routine : Work Result}
    (uses : routine.Uses (·.isPoll = true)) :
    Pays profile none routine := by
  induction routine with
  | done result => rfl
  | ask request resume resumeFact =>
    obtain ⟨isPoll, onward⟩ := uses
    cases request with
    | pause length =>
      exact ⟨trivial, fun answer _ => resumeFact answer (onward answer)⟩
    | query group order =>
      exact ⟨trivial, fun answer _ => resumeFact answer (onward answer)⟩
    | _ => cases isPoll

/-- Where only a report is made, nothing is paid, so nothing is owed. -/
theorem Pays.eq_none {routine : Work Result} (pays : Pays profile owed routine)
    (uses : routine.Uses (·.isForReport = true)) : owed = none := by
  induction routine with
  | done result => exact pays
  | ask request resume resumeFact =>
    obtain ⟨isForReport, onward⟩ := uses
    cases request with
    | recordStatus message =>
      exact resumeFact (.ok ()) (pays.2 _ rfl) (onward _)
    | publish notice => exact resumeFact () (pays.2 _ rfl) (onward _)
    | _ => cases isForReport

theorem pays_rememberSelection (group proxy : String) :
    Pays profile (some ⟨profile, group, proxy⟩)
      (rememberSelection group proxy) := by
  rw [rememberSelection_eq]
  refine ⟨trivial, fun active served => ?_⟩
  obtain rfl : active = some profile := eq_of_beq served
  exact ⟨rfl, fun _ _ => rfl⟩

theorem pays_makeMove (timing : Timing) (group : String)
    (plan : Switchyard.Move) :
    Pays profile none (makeMove timing group plan) := by
  rw [makeMove_eq]
  refine ⟨rfl, fun applied _ => ?_⟩
  rcases applied with error | accepted
  · rfl
  · cases accepted with
    | false => rfl
    | true =>
      exact (pays_rememberSelection group plan.target.name).bind
        fun _ => pays_of_isPoll (uses_confirm _ _ _ _ _)

theorem pays_carryOut (timing : Timing) (group : String) (decision : Decision) :
    Pays profile none (carryOut timing group decision) := by
  cases decision with
  | missingCandidates available => rfl
  | hold reason => rfl
  | move plan =>
    refine (pays_makeMove timing group plan).bind fun result => ?_
    cases result <;> rfl

theorem pays_narrowCandidates (policy : Policy) (group : Group) :
    Pays profile none (narrowCandidates policy group) := by
  rw [narrowCandidates_eq]
  split
  · rfl
  · refine ⟨trivial, fun read _ => ?_⟩
    cases read with
    | error error => rfl
    | ok stored =>
      dsimp only
      split
      · rfl
      · cases narrowed? stored group.memberNames with
        | none => rfl
        | some narrower => exact ⟨trivial, fun _ _ => rfl⟩

theorem pays_evaluate (timing : Timing) (policy : Policy)
    (sinceSwitch : Option Nat) :
    Pays profile none (evaluate timing policy sinceSwitch) := by
  rw [evaluate_eq]
  refine ⟨trivial, fun ended _ => ?_⟩
  dsimp only
  cases ended.verdict with
  | error error => rfl
  | ok _ =>
    refine ⟨trivial, fun queried _ => ?_⟩
    cases queried with
    | error error => rfl
    | ok group =>
      exact (pays_narrowCandidates policy group).bind fun _ =>
        pays_carryOut _ _ _

end Paying

/-- The selections that are remembered when what is owed is paid. -/
def settled (owed : Option Selection) (entries : SelectionMap) : SelectionMap :=
  owed.elim entries entries.save

/-- Whether selections become others under a profile as the controller took
moves: in each group the latest move counts, and a group that was not moved
keeps its selection. -/
def Accords (profile : String) (before : SelectionMap) (shown : List Occurrence)
    (after : SelectionMap) : Prop :=
  ∀ group, after.selected? profile group =
    (latest? (Occurrence.taken? group) shown).or
      (before.selected? profile group)

section Accords

variable {profile : String} {before after last : SelectionMap}
  {shown former latter : List Occurrence}

theorem accords_nil (profile : String) (entries : SelectionMap) :
    Accords profile entries [] entries := fun _ => rfl

theorem Accords.append (first : Accords profile before former after)
    (second : Accords profile after latter last) :
    Accords profile before (former ++ latter) last := fun group => by
  rw [second group, first group, latest?_append, Option.or_assoc]

theorem accords_of_silent {occurrence : Occurrence}
    (silent : ∀ group, occurrence.taken? group = none)
    (profile : String) (entries : SelectionMap) :
    Accords profile entries [occurrence] entries :=
  fun group => by
    rw [latest?, latest?, silent group, Option.none_or, Option.none_or]

/-- A request alone takes no move, so it does not matter whether it is new. -/
theorem Accords.news (accords : Accords profile before shown after)
    (isPending : Bool) :
    Accords profile before (news isPending shown) after := by
  unfold Control.news
  split
  · next request rest =>
    intro group
    rw [accords group, latest?]
    exact congrArg (Option.or · _) (Option.or_none)
  · exact accords

/-- An answer changes what the memory will hold only if it takes a move. -/
theorem accords_answered {owed : Option Selection} {request : Request}
    {answer : request.Answer} (fits : request.Fits owed)
    (served : (Occurrence.answered request answer).isServed profile = true)
    (entries : SelectionMap) :
    Accords profile (settled owed entries) [.answered request answer]
      (settled ((Occurrence.answered request answer).owes? profile owed)
        ((Occurrence.answered request answer).remembered entries)) := by
  cases request with
  | apply moved proxy =>
    obtain rfl : owed = none := fits
    rcases answer with error | accepted
    · exact accords_of_silent (fun _ => rfl) _ _
    · cases accepted with
      | false => exact accords_of_silent (fun _ => rfl) _ _
      | true =>
        intro group
        have owed : (settled (some ⟨profile, moved, proxy⟩) entries).selected?
            profile group = if profile = profile ∧ group = moved then some proxy
            else
              entries.selected? profile group :=
                Store.SelectionMap.selected?_save
        refine owed.trans ?_
        by_cases same : moved = group
        · simp [latest?, Occurrence.taken?, same]
        · simp [latest?, Occurrence.taken?, same, settled, Ne.symm same]
  | remember selection =>
    obtain rfl : owed = some selection := fits
    rcases answer with error | done
    · cases served
    · exact accords_of_silent (fun _ => rfl) _ _
  | _ => exact accords_of_silent (fun _ => rfl) _ _

theorem isServed_of_news {isPending : Bool}
    (served : ∀ occurrence ∈ news isPending shown,
      occurrence.isServed profile = true) :
    ∀ occurrence ∈ shown, occurrence.isServed profile = true := by
  unfold Control.news at served
  split at served
  · exact List.forall_mem_cons.2 ⟨rfl, served⟩
  · exact served

end Accords

/-! ## A memory -/

/-- Whether parties hold selections: those that they say are remembered are, and
nothing else that is asked changes them. -/
structure HoldsSelections (parties : Parties Outside)
    (entries : Outside → SelectionMap) : Prop where
  answered : ∀ {request now outside answer},
    (parties request now outside).1 = some answer →
    entries (parties request now outside).2 =
      (Occurrence.answered request answer).remembered (entries outside)
  withheld : ∀ {request now outside}, (parties request now outside).1 = none →
    entries (parties request now outside).2 = entries outside

/-- Whether a loop has work in hand that pays what is owed, or nothing is
owed. -/
def Loop.Owes (profile : String) (owed : Option Selection)
    (loop : Loop) : Prop :=
  match loop.stage with
  | .evaluating _ _ rest => Pays profile owed rest
  | .reporting rest _ =>
    Pays profile owed rest ∧ rest.Uses (·.isForReport = true)
  | _ => owed = none

section Loops

variable {profile : String} {owed : Option Selection}

theorem owes_beginReport (loop : Loop) (report : Report)
    (interval : Option Nat) :
    (loop.beginReport report interval).Owes profile none :=
  ⟨⟨trivial, fun _ _ => ⟨trivial, fun _ _ => rfl⟩⟩, rfl,
    fun _ => ⟨rfl, fun _ => trivial⟩⟩

theorem owes_afterReading (loop : Loop) (now : Nat)
    (read : Except StoreError Policy) :
    (loop.afterReading now read).Owes profile none := by
  cases read with
  | error error => exact owes_beginReport _ _ _
  | ok policy =>
    cases idle : Loop.idleReport? policy with
    | some report =>
      rw [Loop.afterReading_idle idle]
      exact owes_beginReport _ _ _
    | none =>
      rw [Loop.afterReading_busy idle]
      exact pays_evaluate _ _ _

theorem owes_afterEvaluation (loop : Loop) (policy : Policy) (began : Nat)
    (result : Except ControllerError Evaluation) :
    (loop.afterEvaluation policy began result).Owes profile none := by
  cases result <;> exact owes_beginReport _ _ _

theorem owes_afterReport (loop : Loop) (now : Nat) (interval : Option Nat) :
    (loop.afterReport now interval).Owes profile none := by
  cases interval <;> rfl

theorem owes_afterWait (loop : Loop) (wake : Wake) :
    (loop.afterWait wake).Owes profile none := by
  cases wake with
  | event notice => simp only [Loop.afterWait]; split <;> rfl
  | _ => rfl

/-- Nothing is owed where no evaluation is under way. -/
theorem Loop.Owes.eq_none {loop : Loop} (owes : loop.Owes profile owed)
    (still : loop.stage.isEvaluating = false) : owed = none := by
  unfold Owes at owes
  split at owes
  · next stage =>
    rw [stage] at still
    cases still
  · exact owes.1.eq_none owes.2
  · exact owes

end Loops

namespace HoldsSelections

variable {parties : Parties Outside} {entries : Outside → SelectionMap}
  {profile : String} {owed : Option Selection}

section Answers

variable {request : Request} {around : Surroundings Outside}

theorem entries_answer (holds : HoldsSelections parties entries)
    {answer : request.Answer}
    (given : (Surroundings.answer parties request around).1 = some answer) :
    entries (Surroundings.answer parties request around).2.outside =
      (Occurrence.answered request answer).remembered
        (entries around.outside) := by
  cases request with
  | publish notice => rfl
  | _ => exact holds.answered given

theorem entries_withheld (holds : HoldsSelections parties entries)
    (none : (Surroundings.answer parties request around).1 = none) :
    entries (Surroundings.answer parties request around).2.outside =
      entries around.outside := by
  cases request with
  | publish notice => rfl
  | _ => exact holds.withheld none

end Answers

/-- What becomes of the selections when work is carried on that pays what is
owed. -/
theorem accords_dialogue {Result : Type}
    (holds : HoldsSelections parties entries)
    {rest : Work Result} (pays : Pays profile owed rest)
    (around : Surroundings Outside)
    (served : ∀ occurrence ∈ dialogue parties rest around,
      occurrence.isServed profile = true) :
    ∃ owedAfter,
      Pays profile owedAfter (rest.run (Surroundings.answer parties) around).1 ∧
      Accords profile (settled owed (entries around.outside))
        (dialogue parties rest around) (settled owedAfter
          (entries
            (rest.run (Surroundings.answer parties) around).2.outside)) := by
  induction rest generalizing owed around with
  | done result => exact ⟨owed, pays, accords_nil _ _⟩
  | ask request resume resumeFact =>
    have asked : Accords profile (settled owed (entries around.outside))
        [.asked request] (settled owed (entries around.outside)) :=
      accords_of_silent (fun _ => rfl) _ _
    have answered := @holds.entries_answer _ _ _ request around
    have withheld := @holds.entries_withheld _ _ _ request around
    rcases given : Surroundings.answer parties request around with
      ⟨reply, later⟩
    rw [given] at answered withheld
    cases reply with
    | none =>
      simp only [dialogue, Routine.exchanges, Routine.run, given]
      refine ⟨owed, pays, ?_⟩
      rw [withheld rfl]
      exact asked
    | some reply =>
      -- What is owed after the answer is what the rest of the work has to pay.
      have shown : dialogue parties (.ask request resume) around =
          [.asked request] ++
            ([.answered request reply] ++ dialogue parties
              (resume reply) later) := by
        simp only [dialogue, Routine.exchanges, Routine.run, given]
        rfl
      rw [shown] at served ⊢
      simp only [List.mem_append] at served
      obtain ⟨fits, onward⟩ := pays
      have servedHere := served _ (.inr (.inl (List.mem_singleton_self _)))
      obtain ⟨owedAfter, paysAfter, accords⟩ :=
        resumeFact reply (onward reply servedHere) later
          fun occurrence member => served occurrence (.inr (.inr member))
      have here := accords_answered fits servedHere (entries around.outside)
      rw [← answered rfl] at here
      simp only [Routine.run, given]
      exact ⟨owedAfter, paysAfter, asked.append (here.append accords)⟩

/-- What becomes of the selections in a step of the loop that does not cut off
an evaluation. -/
theorem accords_step (holds : HoldsSelections parties entries) {loop : Loop}
    {around : Surroundings Outside} (owes : loop.Owes profile owed)
    (served : ∀ occurrence ∈ loop.occurrences parties around,
      occurrence.isServed profile = true)
    (unbroken : loop.stage.isEvaluating = true → around.isCancelled = false) :
    ∃ owedAfter, (loop.step parties around).loop.Owes profile owedAfter ∧
      Accords profile (settled owed (entries around.outside))
        (loop.occurrences parties around)
        (settled owedAfter
          (entries (loop.step parties around).around.outside)) := by
  cases stage : loop.stage with
  | ended exit =>
    rw [Loop.Owes, stage] at owes
    simp only [Loop.step, Loop.occurrences, stage]
    exact ⟨owed, by rw [Loop.Owes, stage]; exact owes, accords_nil _ _⟩
  | opening =>
    rw [Loop.Owes, stage] at owes
    simp only [Loop.step, Loop.occurrences, stage]
    split
    · exact ⟨owed, owes, accords_nil _ _⟩
    · exact ⟨owed, owes, accords_of_silent (fun _ => rfl) _ _⟩
  | reading =>
    rw [Loop.Owes, stage] at owes
    subst owes
    have asks : Pays profile none (ask .readPolicy) := ⟨trivial, fun _ _ => rfl⟩
    simp only [Loop.step, Loop.occurrences, stage] at served ⊢
    obtain ⟨owedAfter, paysAfter, accords⟩ :=
      holds.accords_dialogue asks around served
    simp only [ask, Routine.call, Routine.run] at paysAfter accords ⊢
    rcases given : Surroundings.answer parties .readPolicy around with
      ⟨read | read, later⟩
    · rw [given] at paysAfter accords
      -- The request that is to come again pays nothing, whatever its answer.
      obtain rfl : owedAfter = none := paysAfter.2 (.ok default) rfl
      exact ⟨none, by simp only [Loop.Owes, stage], accords⟩
    · rw [given] at paysAfter accords
      obtain rfl : owedAfter = none := paysAfter
      exact ⟨none, owes_afterReading _ _ _, accords⟩
  | evaluating policy began rest =>
    rw [Loop.Owes, stage] at owes
    have goingOn : around.isCancelled = false := unbroken (by rw [stage]; rfl)
    simp only [Loop.step, Loop.occurrences, stage, goingOn,
        Bool.false_eq_true, if_false]
      at served ⊢
    obtain ⟨owedAfter, paysAfter, accords⟩ :=
      holds.accords_dialogue owes around served
    rcases carried : rest.run (Surroundings.answer parties) around with
      ⟨result | left, later⟩
    · rw [carried] at paysAfter accords
      obtain rfl : owedAfter = none := paysAfter
      exact ⟨none, owes_afterEvaluation _ _ _ _, accords⟩
    · rw [carried] at paysAfter accords
      exact ⟨owedAfter, paysAfter, accords⟩
  | reporting rest interval =>
    rw [Loop.Owes, stage] at owes
    obtain ⟨pays, uses⟩ := owes
    have usesAfter :=
      uses.reached
        (Routine.reaches_run (Surroundings.answer parties) rest around)
    simp only [Loop.step, Loop.occurrences, stage] at served ⊢
    obtain ⟨owedAfter, paysAfter, accords⟩ :=
      holds.accords_dialogue pays around served
    rcases carried : rest.run (Surroundings.answer parties) around with
      ⟨result | left, later⟩
    · rw [carried] at paysAfter accords
      obtain rfl : owedAfter = none := paysAfter
      exact ⟨none, owes_afterReport _ _ _, accords⟩
    · rw [carried] at paysAfter accords usesAfter
      exact ⟨owedAfter, ⟨paysAfter, usesAfter⟩, accords⟩
  | waiting deadline =>
    rw [Loop.Owes, stage] at owes
    subst owes
    simp only [Loop.step, Loop.occurrences, stage]
    rcases Wake.look loop.receiver deadline around.now around.isCancelled
        around.bus with
      ⟨ending | wake, bus⟩
    · exact ⟨none,
        by simp only [Loop.Owes, stage], accords_of_silent (fun _ => rfl) _ _⟩
    · exact ⟨none, owes_afterWait _ _, accords_of_silent (fun _ => rfl) _ _⟩

end HoldsSelections

end Control

namespace Rehearsal.Scene

open Control (HoldsSelections Occurrence Request)

theorem entries_conclude (request : Request) (now : Nat) (scene : Scene) :
    (scene.conclude request now).2.selections.entries =
      (Occurrence.answered request (scene.conclude request now).1).remembered
        scene.selections.entries := by
  cases request with
  | writePolicy policy =>
    simp only [conclude, serve]
    cases guarded scene.storeFaults.update () <;> rfl
  | recordStatus message =>
    simp only [conclude, serve]
    cases guarded scene.storeFaults.record () <;> rfl
  | remember selection =>
    simp only [conclude, serve]
    cases guarded scene.selectionFault () <;> rfl
  | _ => rfl

/-- A rehearsed loop works with a memory of selections, which holds them. -/
theorem holdsSelections :
    HoldsSelections Scene.answer fun scene => scene.selections.entries where
  answered := by
    intro request now scene answer given
    obtain ⟨begun, ⟨-, selections⟩, withheld | served⟩ :=
      answer_cases request now scene
    · simp [withheld] at given
    · rw [served] at given ⊢
      rw [entries_conclude, selections, Option.some.inj given]
  withheld := by
    intro request now scene none
    obtain ⟨begun, ⟨-, selections⟩, withheld | served⟩ :=
      answer_cases request now scene
    · rw [withheld, selections]
    · simp [served] at none

/-- A move is taken that does not show up, and the controller fails when it is
asked again. Another group has a selection already. -/
def unheeding : Scene :=
  { opening
      { Controller.plain with
        members := [⟨"A", "", .stable 50⟩]
        selected := "B"
        followAfter := none
        queryError := some (.network "gone")
        queriesLeft := 2 }
      { Policy.initial with
        enabled := true, candidates := NameSet.ofList ["A"] } none with
    selections :=
      ⟨some "home", SelectionMap.save ⟨"home", "Video", "C"⟩ NameMap.empty⟩ }

end Rehearsal.Scene

namespace Control

open Rehearsal (Scene)

variable {Outside : Type}

/-! ## Runs -/

namespace Course

/-- Whether a cancellation ended the run before its last cycle was reported. -/
def IsCutOff (course : Course Outside) : Prop :=
  course.loop.stage = .ended .cancelled ∧
    ∃ current earlier,
      cyclesOf course.log = current :: earlier ∧ reportOf current = []

/-- Whether nobody but the loop changes the selections that are remembered, in
some moves from a course. -/
def Unforgotten (parties : Parties Outside) (entries : Outside → SelectionMap)
    (course : Course Outside) (moves : List (Move Outside)) : Prop :=
  ∀ former next, former ++ [.outside next] <+: moves →
    entries next = entries (course.play parties former).around.outside

/-- Whether an evaluation was cut off, or the memory accords with the moves that
the controller took once it is paid what is owed. -/
def InAccord (profile : String) (initial : SelectionMap)
    (entries : Outside → SelectionMap) (course : Course Outside) : Prop :=
  course.IsCutOff ∨ ∃ owed, course.loop.Owes profile owed ∧
    Accords profile initial (course.log.map Entry.what)
      (settled owed (entries course.around.outside))

section Moves

variable {parties : Parties Outside} {course : Course Outside}

theorem Chronicled.isCutOff_step (chronicled : course.Chronicled)
    (evaluating : course.loop.stage.isEvaluating = true)
    (cancelled : course.around.isCancelled = true) :
    (course.step parties).IsCutOff := by
  obtain ⟨policy, began, rest, stage⟩ := Stage.exists_of_isEvaluating evaluating
  obtain ⟨endings, stands⟩ := chronicled.stands
  rw [Stands, stage] at stands
  obtain ⟨-, ⟨current, earlier, cycles, undecided, -⟩, -⟩ := stands
  refine ⟨?_, current, earlier, ?_, undecided.unreported⟩
  · rw [step_of_cut_off parties stage cancelled]
    rfl
  · rw [log_step_of_cut_off parties stage cancelled]
    exact cycles

/-- A run that was cut off stays so. -/
theorem IsCutOff.move (cutOff : course.IsCutOff) (move : Move Outside) :
    (course.move parties move).IsCutOff := by
  obtain ⟨stage, current, earlier, cycles, unreported⟩ := cutOff
  have noted : ∀ occurrence : Occurrence, occurrence.isApart = true →
      ∃ current earlier,
        cyclesOf (course.note [occurrence]).log = current :: earlier ∧
        reportOf current = [] := by
    intro occurrence isApart
    have apart :=
      List.forall_mem_singleton (p := (Occurrence.isApart · = true)).2 isApart
    refine ⟨current ++ [occurrence], earlier, ?_, ?_⟩
    · rw [note, cyclesOf_append_map, cycles,
        foldl_continueCycles (isBeginning_of_isApart apart)]
    · rw [reportOf_append_apart apart, unreported]
  have idle : ∃ current earlier, cyclesOf course.log = current :: earlier ∧
      reportOf current = [] := ⟨current, earlier, cycles, unreported⟩
  cases move with
  | step =>
    have stays : course.step parties = course.turned course.loop course.around
        false [] := by
      simp only [step, Loop.step, Loop.occurrences, stage]
    refine ⟨?_, ?_⟩
    · simp only [Course.move, stays, turned, stage]
    · simp only [Course.move, stays, turned, note, news_nil, List.map_nil,
        List.append_nil]
      exact idle
  | passOver =>
    simp only [Course.move, passOver, stage]
    exact ⟨stage, idle⟩
  | notice notice => exact ⟨stage, noted _ rfl⟩
  | cancel => exact ⟨stage, noted _ rfl⟩
  | pass length => exact ⟨stage, idle⟩
  | outside next => exact ⟨stage, idle⟩
  | receivers places =>
    simp only [Course.move]
    split <;> exact ⟨stage, idle⟩

variable {entries : Outside → SelectionMap} {profile : String}
  {owed : Option Selection}

/-- What becomes of the selections in a move that does not cut off an
evaluation. -/
theorem accords_move (holds : HoldsSelections parties entries)
    (owes : course.loop.Owes profile owed) {move : Move Outside}
    (spared : ∀ next, move = .outside next →
      entries next = entries course.around.outside)
    (served : ∀ entry ∈ (course.move parties move).log,
      entry.what.isServed profile = true)
    (unbroken : move = .step → course.loop.stage.isEvaluating = true →
      course.around.isCancelled = false) :
    ∃ owedAfter added, (course.move parties move).loop.Owes profile owedAfter ∧
      (course.move parties move).log = course.log ++ added ∧
      Accords profile (settled owed (entries course.around.outside))
        (added.map Entry.what)
        (settled owedAfter
          (entries (course.move parties move).around.outside)) := by
  have idle : ∃ owedAfter added, course.loop.Owes profile owedAfter ∧
      course.log = course.log ++ added ∧
      Accords profile (settled owed (entries course.around.outside))
        (added.map Entry.what)
        (settled owedAfter (entries course.around.outside)) :=
    ⟨owed, [], owes, (List.append_nil _).symm, accords_nil _ _⟩
  cases move with
  | step =>
    have servedNow :
        ∀ occurrence ∈ course.loop.occurrences parties course.around,
          occurrence.isServed profile = true :=
      isServed_of_news fun occurrence isNew =>
        served ⟨course.around.now, occurrence⟩
          (List.mem_append_right _ (List.mem_map_of_mem isNew))
    obtain ⟨owedAfter, owesAfter, accords⟩ :=
      holds.accords_step owes servedNow (unbroken rfl)
    refine ⟨owedAfter, _, owesAfter, rfl, ?_⟩
    rw [List.map_map]
    exact (List.map_id _).symm ▸ accords.news course.isPending
  | passOver =>
    simp only [Course.move, passOver]
    split
    · split <;> exact idle
    · exact idle
  | notice notice =>
    exact ⟨owed, _, owes, rfl, accords_of_silent (fun _ => rfl) _ _⟩
  | cancel => exact ⟨owed, _, owes, rfl, accords_of_silent (fun _ => rfl) _ _⟩
  | pass length => exact idle
  | outside next =>
    obtain ⟨owedAfter, added, owesAfter, log, accords⟩ := idle
    exact ⟨owedAfter, added, owesAfter, log, (spared next rfl).symm ▸ accords⟩
  | receivers places =>
    simp only [Course.move]
    split <;> exact idle

theorem InAccord.move {initial : SelectionMap}
    (inAccord : course.InAccord profile initial entries)
    (chronicled : course.Chronicled) (holds : HoldsSelections parties entries)
    {move : Move Outside}
    (spared : ∀ next, move = .outside next →
      entries next = entries course.around.outside)
    (served : ∀ entry ∈ (course.move parties move).log,
      entry.what.isServed profile = true) :
    (course.move parties move).InAccord profile initial entries := by
  rcases inAccord with cutOff | ⟨owed, owes, accords⟩
  · exact .inl (cutOff.move move)
  by_cases broken : move = .step ∧ course.loop.stage.isEvaluating = true ∧
      course.around.isCancelled = true
  · obtain ⟨rfl, evaluating, cancelled⟩ := broken
    exact .inl (chronicled.isCutOff_step evaluating cancelled)
  · have unbroken : move = .step → course.loop.stage.isEvaluating = true →
        course.around.isCancelled = false := fun step evaluating =>
      Bool.eq_false_iff.2 fun cancelled => broken ⟨step, evaluating, cancelled⟩
    obtain ⟨owedAfter, added, owesAfter, log, onward⟩ :=
      accords_move holds owes spared served unbroken
    refine .inr ⟨owedAfter, owesAfter, ?_⟩
    rw [log, List.map_append]
    exact accords.append onward

end Moves

end Course

section Runs

variable (parties : Parties Outside) (timing : Timing) (locale : Locale)
  {around : Surroundings Outside} {entries : Outside → SelectionMap}

theorem inAccord_play (sound : around.bus.Sound)
    (holds : HoldsSelections parties entries)
    (profile : String) (moves : List (Course.Move Outside))
    (unforgotten : (Course.start timing locale around).Unforgotten parties
      entries moves)
    (served :
      ∀ entry ∈ ((Course.start timing locale around).play parties moves).log,
      entry.what.isServed profile = true) :
    ((Course.start timing locale around).play parties moves).InAccord profile
      (entries around.outside) entries := by
  induction moves using List.reverseRecOn with
  | nil => exact .inr ⟨none, rfl, accords_nil _ _⟩
  | append_singleton former move formerFact =>
    have formerSound :
        ((Course.start timing locale around).play parties former).Sound :=
      (Course.sound_start timing locale sound).play former
    rw [Course.play_append] at served ⊢
    obtain ⟨later, log⟩ :=
      (Course.change_move parties formerSound move).log_grows
    have inAccord := formerFact
      (fun earlier next isPrefix =>
        unforgotten earlier next (isPrefix.trans (List.prefix_append _ _)))
      (fun entry member =>
        served entry (log.symm ▸ List.mem_append_left _ member))
    refine inAccord.move (chronicled_play parties timing locale sound former).1
      holds ?_ served
    rintro next rfl
    exact unforgotten former next List.prefix_rfl

/-- Let nothing but the loop change the selections that are remembered, let one
profile be active whenever the loop asks, and let every selection be remembered
that it asks for. Then in every run, while no evaluation is under way and none
was cut off, each group has the selection under that profile to which the
controller last took a move, or the one that it had at first. Whether the move
showed up, and how its cycle ended, does not matter. -/
theorem selections_follow_moves (sound : around.bus.Sound)
    (holds : HoldsSelections parties entries) (profile : String)
    (moves : List (Course.Move Outside))
    (unforgotten : (Course.start timing locale around).Unforgotten parties
      entries moves)
    (served :
      ∀ entry ∈ ((Course.start timing locale around).play parties moves).log,
      entry.what.isServed profile = true) :
    let course := (Course.start timing locale around).play parties moves
    course.loop.stage.isEvaluating = false → ¬ course.IsCutOff →
      ∀ group, (entries course.around.outside).selected? profile group =
        (latest? (Occurrence.taken? group) (course.log.map Entry.what)).or
          ((entries around.outside).selected? profile group) := by
  intro course still whole group
  rcases inAccord_play parties timing locale sound holds profile moves
      unforgotten served with
    cutOff | ⟨owed, owes, accords⟩
  · exact absurd cutOff whole
  · obtain rfl := owes.eq_none still
    exact accords group

end Runs

/-- A cycle with two pauses, after which the controller is asked whether the
move shows up. -/
def pausingCycle : List (Course.Move Scene) :=
  [.step, .step, .step, .pass (Duration.ofMillis 500), .step,
    .pass (Duration.ofMillis 500), .step, .step]

/-- The selection is remembered though the cycle fails. -/
theorem selection_remembered_of_failed_cycle :
    let around : Surroundings Scene :=
      ⟨Scene.unheeding, 0, false, .withCapacity Bus.usualCapacity⟩
    let course :=
      (Course.start .usual .en around).play Scene.answer pausingCycle
    course.loop.tally.unexpectedErrors = 1 ∧
      latest? (Occurrence.taken? "GLOBAL") (course.log.map Entry.what) =
        some "A" ∧
      course.around.outside.selections.entries.selected? "home" "GLOBAL" =
        some "A" ∧
      course.around.outside.selections.entries.selected? "home" "Video" =
        some "C" := by
  intro around course
  have unforgotten : (Course.start .usual .en around).Unforgotten Scene.answer
      (fun scene => scene.selections.entries) pausingCycle := by
    intro former next isPrefix
    have among : .outside next ∈ pausingCycle := isPrefix.subset (by simp)
    simp [pausingCycle] at among
  have waits : course.loop.stage = .waiting (some (Duration.ofMillis 2000)) :=
    Stage.eq_of_deadline? (by decide +kernel)
  have follows := selections_follow_moves Scene.answer .usual .en
    (Bus.sound_withCapacity Bus.usualCapacity) Scene.holdsSelections "home"
    pausingCycle unforgotten (by decide +kernel) (by rw [waits]; rfl)
    (fun cutOff => by cases waits.symm.trans cutOff.1)
  have taken : latest? (Occurrence.taken? "GLOBAL")
      (course.log.map Entry.what) = some "A" := by
    decide +kernel
  have untaken : latest? (Occurrence.taken? "Video")
      (course.log.map Entry.what) = none := by
    decide +kernel
  refine ⟨by decide +kernel, taken, ?_, ?_⟩
  · rw [follows "GLOBAL", taken]
    rfl
  · rw [follows "Video", untaken]
    rfl

end Control

end Switchyard
