import Switchyard.Proofs.Favourite
import Switchyard.Rehearsal.Script

/-!
# The policy that is stored

Parties hold a policy when they treat it as one store would: what is read as it
is stored is the policy that is held, a write that succeeds replaces it, and
nothing else that is asked changes it. Others edit it by changing what is
outside. Between two edits the log tells all that becomes of the policy: it is
the latest one that was read as it is stored or that was written.
-/

namespace Switchyard

namespace Control

variable {Outside : Type}

section Latest

variable {Fact : Type}

/-- The latest thing that some occurrences tell. -/
def latest? (tells : Occurrence → Option Fact) : List Occurrence → Option Fact
  | [] => none
  | occurrence :: later => (latest? tells later).or (tells occurrence)

variable {tells : Occurrence → Option Fact} {shown : List Occurrence}

theorem latest?_append (former latter : List Occurrence) :
    latest? tells (former ++ latter) =
      (latest? tells latter).or (latest? tells former) := by
  induction former with
  | nil => rw [List.nil_append, latest?, Option.or_none]
  | cons first rest restFact =>
    rw [List.cons_append, latest?, restFact, Option.or_assoc, latest?]

theorem latest?_eq_none :
    latest? tells shown = none ↔
      ∀ occurrence ∈ shown, tells occurrence = none := by
  induction shown with
  | nil => simp [latest?]
  | cons first rest restFact =>
    rw [latest?, Option.or_eq_none_iff, restFact,
      List.forall_mem_cons, and_comm]

theorem exists_of_latest? {fact : Fact}
    (last : latest? tells shown = some fact) :
    ∃ occurrence ∈ shown, tells occurrence = some fact := by
  induction shown with
  | nil => cases last
  | cons first rest restFact =>
    rw [latest?, Option.or_eq_some_iff] at last
    rcases last with onward | ⟨-, here⟩
    · obtain ⟨occurrence, member, told⟩ := restFact onward
      exact ⟨occurrence, List.mem_cons_of_mem _ member, told⟩
    · exact ⟨first, List.mem_cons_self, here⟩

/-- What tells nothing may be left out. -/
theorem latest?_filter {counts : Occurrence → Bool}
    (silent : ∀ occurrence, counts occurrence = false →
      tells occurrence = none) :
    latest? tells (shown.filter counts) = latest? tells shown := by
  induction shown with
  | nil => rfl
  | cons first rest restFact =>
    cases counted : counts first with
    | true => rw [List.filter_cons_of_pos counted, latest?, latest?, restFact]
    | false =>
      rw [List.filter_cons_of_neg (by simp [counted]), restFact, latest?,
        silent first counted, Option.or_none]

end Latest

namespace Occurrence

/-- The policy that was written. -/
def kept? : Occurrence → Option Policy
  | .answered (.writePolicy policy) (.ok _) => some policy
  | _ => none

def isKept (occurrence : Occurrence) : Bool := occurrence.kept?.isSome

/-- The policy that is known to be stored, as it was just read or written. -/
def held? (occurrence : Occurrence) : Option Policy :=
  occurrence.stored?.or occurrence.kept?

/-- The policy that is to be written, or was to be. -/
def writes? : Occurrence → Option Policy
  | .asked (.writePolicy policy) => some policy
  | .answered (.writePolicy policy) _ => some policy
  | _ => none

variable {occurrence : Occurrence} {policy : Policy}

theorem kept?_of_stored? (read : occurrence.stored? = some policy) :
    occurrence.kept? = none := by
  unfold stored? at read
  split at read
  · rfl
  · cases read

theorem writes?_of_kept? (kept : occurrence.kept? = some policy) :
    occurrence.writes? = some policy := by
  unfold kept? at kept
  split at kept
  · cases kept
    rfl
  · cases kept

theorem kept?_of_writes? (unwritten : occurrence.writes? = none) :
    occurrence.kept? = none := by
  cases kept : occurrence.kept? with
  | none => rfl
  | some policy =>
    rw [writes?_of_kept? kept] at unwritten
    cases unwritten

theorem cases_of_writes? (written : occurrence.writes? = some policy) :
    occurrence = .asked (.writePolicy policy) ∨
      ∃ answer, occurrence = .answered (.writePolicy policy) answer := by
  unfold writes? at written
  split at written
  · cases written
    exact .inl rfl
  · cases written
    exact .inr ⟨_, rfl⟩
  · cases written

theorem isOfEvaluation_of_writes? (written : occurrence.writes? = some policy) :
    occurrence.isOfEvaluation = true := by
  rcases cases_of_writes? written with asked | ⟨answer, answered⟩
  · rw [asked]
    rfl
  · rw [answered]
    rfl

theorem isBeginning_of_isOfEvaluation
    (ofEvaluation : occurrence.isOfEvaluation = true) :
    occurrence.isBeginning = false := by
  cases occurrence with
  | began => cases ofEvaluation
  | _ => rfl

theorem held?_of_not_isOfEvaluation
    (other : occurrence.isOfEvaluation = false) :
    occurrence.held? = none := by
  cases occurrence with
  | answered request answer => cases request <;> first | rfl | cases other
  | _ => rfl

end Occurrence

theorem countOf_isKept_eq_zero {entries : List Entry}
    (unwritten : ∀ entry ∈ entries, entry.what.kept? = none) :
    countOf Occurrence.isKept entries = 0 := by
  refine List.countP_eq_zero.2 fun entry member => ?_
  rw [Occurrence.isKept, unwritten entry member]
  exact Bool.false_ne_true

/-- The policy that is stored after some occurrences. -/
def heldAfter (held : Policy) (shown : List Occurrence) : Policy :=
  (latest? Occurrence.kept? shown).getD held

/-- Whether each policy that is read as it is stored is the one that is stored
by then. -/
def Truthful : Policy → List Occurrence → Prop
  | _, [] => True
  | held, occurrence :: later =>
    (∀ policy ∈ occurrence.stored?, policy = held) ∧
      Truthful (occurrence.kept?.getD held) later

theorem heldAfter_cons (held : Policy) (occurrence : Occurrence)
    (later : List Occurrence) :
    heldAfter held (occurrence :: later) =
      heldAfter (occurrence.kept?.getD held) later := by
  rw [heldAfter, latest?, Option.getD_or, heldAfter]

theorem heldAfter_append (held : Policy) (former latter : List Occurrence) :
    heldAfter held (former ++ latter) =
      heldAfter (heldAfter held former) latter := by
  rw [heldAfter, latest?_append, Option.getD_or, heldAfter, heldAfter]

theorem truthful_append {held : Policy} {former latter : List Occurrence} :
    Truthful held (former ++ latter) ↔
      Truthful held former ∧ Truthful (heldAfter held former) latter := by
  induction former generalizing held with
  | nil => simp [Truthful, heldAfter, latest?]
  | cons first rest restFact =>
    rw [List.cons_append, Truthful, Truthful, restFact,
      heldAfter_cons, and_assoc]

/-- What was read or written last is what is stored. -/
theorem Truthful.heldAfter_eq {held policy : Policy} {shown : List Occurrence}
    (truthful : Truthful held shown)
    (last : latest? Occurrence.held? shown = some policy) :
    heldAfter held shown = policy := by
  induction shown generalizing held with
  | nil => cases last
  | cons first rest restFact =>
    obtain ⟨here, onward⟩ := truthful
    rw [heldAfter_cons]
    rw [latest?, Option.or_eq_some_iff] at last
    rcases last with later | ⟨untold, told⟩
    · exact restFact onward later
    · have unwritten : latest? Occurrence.kept? rest = none :=
        latest?_eq_none.2 fun occurrence member =>
          (Option.or_eq_none_iff.1
            (latest?_eq_none.1 untold occurrence member)).2
      rw [heldAfter, unwritten, Option.getD_none]
      rcases Option.or_eq_some_iff.1 told with read | ⟨-, kept⟩
      · rw [Occurrence.kept?_of_stored? read, Option.getD_none]
        exact (here policy read).symm
      · rw [kept, Option.getD_some]

/-! ## What becomes of the policy -/

/-- Some occurrences tell, truthfully, how one policy that is stored becomes
another. -/
structure Follows (held : Policy) (shown : List Occurrence) (after : Policy) :
    Prop where
  truthful : Truthful held shown
  after : after = heldAfter held shown

section Follows

variable {held after last : Policy} {shown former latter : List Occurrence}

theorem Follows.append (first : Follows held former after)
    (second : Follows after latter last) :
    Follows held (former ++ latter) last := by
  obtain ⟨truthful, rfl⟩ := first
  exact ⟨truthful_append.2 ⟨truthful, second.truthful⟩,
    second.after.trans (heldAfter_append _ _ _).symm⟩

theorem follows_nil (held : Policy) : Follows held [] held := ⟨trivial, rfl⟩

theorem follows_of_silent {occurrence : Occurrence}
    (silent : occurrence.held? = none) (held : Policy) :
    Follows held [occurrence] held := by
  obtain ⟨unread, unwritten⟩ := Option.or_eq_none_iff.1 silent
  refine ⟨⟨?_, trivial⟩, ?_⟩
  · rw [unread]
    nofun
  · rw [heldAfter_cons, unwritten]
    rfl

/-- A request alone tells nothing, so it does not matter whether it is new. -/
theorem Follows.news (follows : Follows held shown after) (isPending : Bool) :
    Follows held (news isPending shown) after := by
  unfold Control.news
  split
  · next request rest =>
    have told := follows.after
    rw [heldAfter_cons] at told
    exact ⟨follows.truthful.2, told⟩
  · exact follows

end Follows

/-- Whether parties hold a policy, as one store does that nobody else writes to
while it answers. -/
structure HoldsPolicy (parties : Parties Outside) (stored : Outside → Policy) :
    Prop where
  reads : ∀ {now outside policy},
    (parties .readStored now outside).1 = some (.ok policy) →
      policy = stored outside
  writes : ∀ {now outside policy},
    (parties (.writePolicy policy) now outside).1 = some (.ok ()) →
      stored (parties (.writePolicy policy) now outside).2 = policy
  fails : ∀ {now outside policy},
    (parties (.writePolicy policy) now outside).1 ≠ some (.ok ()) →
      stored (parties (.writePolicy policy) now outside).2 = stored outside
  others : ∀ {request now outside}, (∀ policy, request ≠ .writePolicy policy) →
    stored (parties request now outside).2 = stored outside

namespace HoldsPolicy

variable {parties : Parties Outside} {stored : Outside → Policy}

theorem withheld (holds : HoldsPolicy parties stored)
    {request : Request} {now : Nat} {outside : Outside}
    (none : (parties request now outside).1 = none) :
    stored (parties request now outside).2 = stored outside := by
  cases request with
  | writePolicy policy => exact holds.fails (by simp [none])
  | _ => exact holds.others fun _ => Request.noConfusion

theorem follows_answered (holds : HoldsPolicy parties stored)
    {request : Request} {now : Nat} {outside : Outside}
    {answer : request.Answer}
    (given : (parties request now outside).1 = some answer) :
    Follows (stored outside) [.answered request answer]
      (stored (parties request now outside).2) := by
  cases request with
  | readStored =>
    rw [holds.others fun _ => Request.noConfusion]
    cases answer with
    | error error => exact follows_of_silent rfl _
    | ok policy =>
      exact ⟨⟨fun _ same => Option.some.inj same ▸ holds.reads given, trivial⟩,
        rfl⟩
  | writePolicy policy =>
    cases answer with
    | error error =>
      rw [holds.fails (by simp [given])]
      exact follows_of_silent rfl _
    | ok done =>
      rw [holds.writes given]
      exact ⟨⟨fun _ read => (by cases read), trivial⟩, rfl⟩
  | _ =>
    rw [holds.others fun _ => Request.noConfusion]
    exact follows_of_silent rfl _

section Answers

variable {request : Request} {around : Surroundings Outside}

theorem follows_answer (holds : HoldsPolicy parties stored)
    {answer : request.Answer}
    (given : (Surroundings.answer parties request around).1 = some answer) :
    Follows (stored around.outside) [.answered request answer]
      (stored (Surroundings.answer parties request around).2.outside) := by
  cases request with
  | publish notice => exact follows_of_silent rfl _
  | _ => exact holds.follows_answered given

theorem withheld_answer (holds : HoldsPolicy parties stored)
    (none : (Surroundings.answer parties request around).1 = none) :
    stored (Surroundings.answer parties request around).2.outside =
      stored around.outside := by
  cases request with
  | publish notice => rfl
  | _ => exact holds.withheld none

end Answers

/-- What parties that hold a policy are asked and answer when work is carried
on. -/
theorem follows_dialogue {Result : Type} (holds : HoldsPolicy parties stored)
    (rest : Work Result) (around : Surroundings Outside) :
    Follows (stored around.outside) (dialogue parties rest around)
      (stored (rest.run (Surroundings.answer parties) around).2.outside) := by
  induction rest generalizing around with
  | done result => exact follows_nil _
  | ask request resume resumeFact =>
    have asked : Follows (stored around.outside) [.asked request]
        (stored around.outside) :=
      follows_of_silent rfl _
    have answered := @holds.follows_answer _ _ _ request around
    have withheld := @holds.withheld_answer _ _ _ request around
    rcases given : Surroundings.answer parties request around with
      ⟨reply, later⟩
    rw [given] at answered withheld
    cases reply with
    | none =>
      simp only [dialogue, Routine.exchanges, Routine.run, given]
      rw [withheld rfl]
      exact asked
    | some reply =>
      simp only [dialogue, Routine.exchanges, Routine.run, given]
      exact asked.append ((answered rfl).append (resumeFact reply later))

/-- What parties that hold a policy are asked and answer in one step of the
loop. -/
theorem follows_step (holds : HoldsPolicy parties stored) (loop : Loop)
    (around : Surroundings Outside) :
    Follows (stored around.outside) (loop.occurrences parties around)
      (stored (loop.step parties around).around.outside) := by
  cases stage : loop.stage with
  | ended exit =>
    simp only [Loop.step, Loop.occurrences, stage]
    exact follows_nil _
  | opening =>
    simp only [Loop.step, Loop.occurrences, stage]
    split
    · exact follows_nil _
    · exact follows_of_silent rfl _
  | reading =>
    have follows := holds.follows_dialogue (ask .readPolicy) around
    simp only [Loop.step, Loop.occurrences, stage]
    simp only [ask, Routine.call, Routine.run] at follows ⊢
    rcases given : Surroundings.answer parties .readPolicy around with
      ⟨read | read, later⟩
    all_goals
      rw [given] at follows
      exact follows
  | evaluating policy began rest =>
    have follows := holds.follows_dialogue rest around
    simp only [Loop.step, Loop.occurrences, stage]
    split
    · exact follows_nil _
    · rcases carried : rest.run (Surroundings.answer parties) around with
        ⟨left | left, later⟩
      all_goals
        rw [carried] at follows
        exact follows
  | reporting rest interval =>
    have follows := holds.follows_dialogue rest around
    simp only [Loop.step, Loop.occurrences, stage]
    rcases carried : rest.run (Surroundings.answer parties) around with
      ⟨left | left, later⟩
    all_goals
      rw [carried] at follows
      exact follows
  | waiting deadline =>
    simp only [Loop.step, Loop.occurrences, stage]
    rcases Wake.look loop.receiver deadline around.now around.isCancelled
        around.bus with
      ⟨ending | wake, bus⟩
    all_goals exact follows_of_silent rfl _

end HoldsPolicy

namespace Course

/-- Whether a move of somebody else leaves the policy that is stored as it
is. -/
def Move.Spares (stored : Outside → Policy) (outside : Outside) :
    Move Outside → Prop
  | .outside next => stored next = stored outside
  | _ => True

/-- Whether nobody but the loop changes the policy that is stored in some moves
from a course. -/
def Unedited (parties : Parties Outside) (stored : Outside → Policy) :
    List (Move Outside) → Course Outside → Prop
  | [], _ => True
  | move :: later, course =>
    move.Spares stored course.around.outside ∧
      Unedited parties stored later (course.move parties move)

instance decidableSpares (stored : Outside → Policy) (outside : Outside) :
    (move : Move Outside) → Decidable (move.Spares stored outside)
  | .outside next => inferInstanceAs (Decidable (stored next = stored outside))
  | .step | .passOver | .notice _ | .cancel | .pass _ | .receivers _ =>
    isTrue trivial

section Moves

variable {parties : Parties Outside} {stored : Outside → Policy}

instance decidableUnedited :
    (moves : List (Move Outside)) → (course : Course Outside) →
      Decidable (Unedited parties stored moves course)
  | [], _ => isTrue trivial
  | move :: later, course =>
    have := decidableUnedited later (course.move parties move)
    inferInstanceAs (Decidable (_ ∧ _))

theorem follows_move (holds : HoldsPolicy parties stored)
    (course : Course Outside) {move : Move Outside}
    (spares : move.Spares stored course.around.outside) :
    ∃ added, (course.move parties move).log = course.log ++ added ∧
      Follows (stored course.around.outside) (added.map Entry.what)
        (stored (course.move parties move).around.outside) := by
  have idle : ∃ added, course.log = course.log ++ added ∧
      Follows (stored course.around.outside) (added.map Entry.what)
        (stored course.around.outside) :=
    ⟨[], (List.append_nil _).symm, follows_nil _⟩
  cases move with
  | step =>
    have follows :=
      (holds.follows_step course.loop course.around).news course.isPending
    refine ⟨_, rfl, ?_⟩
    rw [List.map_map]
    exact (List.map_id _).symm ▸ follows
  | passOver =>
    simp only [Course.move, passOver]
    split
    · split <;> exact idle
    · exact idle
  | notice notice => exact ⟨_, rfl, follows_of_silent rfl _⟩
  | cancel => exact ⟨_, rfl, follows_of_silent rfl _⟩
  | pass length => exact idle
  | outside next =>
    obtain ⟨added, log, follows⟩ := idle
    exact ⟨added, log, spares.symm ▸ follows⟩
  | receivers places =>
    simp only [Course.move]
    split <;> exact idle

theorem follows_play (holds : HoldsPolicy parties stored)
    {moves : List (Move Outside)} {course : Course Outside}
    (unedited : Unedited parties stored moves course) :
    ∃ added, (course.play parties moves).log = course.log ++ added ∧
      Follows (stored course.around.outside) (added.map Entry.what)
        (stored (course.play parties moves).around.outside) := by
  induction moves generalizing course with
  | nil => exact ⟨[], (List.append_nil _).symm, follows_nil _⟩
  | cons move moves movesFact =>
    obtain ⟨added, log, follows⟩ := follows_move holds course unedited.1
    obtain ⟨later, laterLog, onward⟩ := movesFact unedited.2
    refine ⟨added ++ later, ?_, ?_⟩
    · rw [← List.append_assoc, ← log]
      exact laterLog
    · rw [List.map_append]
      exact follows.append onward

end Moves

end Course

end Control

namespace Rehearsal.Scene

open Control (HoldsPolicy Request)

theorem kept_begin (request : Request) (now : Nat) (scene : Scene) :
    (scene.begin request now).store = scene.store ∧
      (scene.begin request now).selections = scene.selections := by
  cases request <;> exact ⟨rfl, rfl⟩

/-- A rehearsed request is not answered yet, or it is served in a scene with the
same stores. -/
theorem answer_cases (request : Request) (now : Nat) (scene : Scene) :
    ∃ begun : Scene,
      (begun.store = scene.store ∧ begun.selections = scene.selections) ∧
      (scene.answer request now = (none, begun) ∨
        scene.answer request now =
          (some (begun.conclude request now).1,
            (begun.conclude request now).2)) := by
  refine ⟨if scene.underway.isNone then scene.begin request now
    else scene, ?_, ?_⟩
  · split
    · exact kept_begin request now scene
    · exact ⟨rfl, rfl⟩
  · unfold answer
    dsimp only
    generalize (if scene.underway.isNone then scene.begin request now
      else scene) = begun
    by_cases early : now < begun.deadline?.getD now
    · exact .inl (if_pos early)
    · exact .inr (if_neg early)

theorem eq_of_guarded {Value : Type} {fault : Option String}
    {value given : Value} (passed : guarded fault value = .ok given) :
    given = value := by
  cases fault with
  | none => exact (Except.ok.inj passed).symm
  | some reason => cases passed

/-- Only a write that succeeds changes the policy in the store. -/
theorem stored_conclude (request : Request) (now : Nat) (scene : Scene) :
    (scene.conclude request now).2.store.stored =
      ((Control.Occurrence.answered request
          (scene.conclude request now).1).kept?).getD
        scene.store.stored := by
  cases request with
  | writePolicy policy =>
    simp only [conclude, serve]
    cases guarded scene.storeFaults.update () <;> rfl
  | recordStatus message =>
    simp only [conclude, serve]
    cases guarded scene.storeFaults.record () <;> rfl
  | remember selection =>
    simp only [conclude, serve]
    cases guarded scene.selectionFault () <;> rfl
  | _ => rfl

/-- A rehearsed loop works with a store in memory, which holds its policy. -/
theorem holdsPolicy :
    HoldsPolicy Scene.answer fun scene => scene.store.stored where
  reads := by
    intro now scene policy given
    obtain ⟨begun, ⟨store, -⟩, withheld | served⟩ :=
      answer_cases .readStored now scene
    · simp [withheld] at given
    · rw [served] at given
      rw [← store]
      exact eq_of_guarded (Option.some.inj given)
  writes := by
    intro now scene policy given
    obtain ⟨begun, ⟨store, -⟩, withheld | served⟩ :=
      answer_cases (.writePolicy policy) now scene
    · simp [withheld] at given
    · rw [served] at given ⊢
      rw [stored_conclude, Option.some.inj given]
      rfl
  fails := by
    intro now scene policy failed
    obtain ⟨begun, ⟨store, -⟩, withheld | served⟩ :=
      answer_cases (.writePolicy policy) now scene
    · rw [withheld, store]
    · rw [served] at failed ⊢
      rw [stored_conclude, store]
      cases result : (begun.conclude (.writePolicy policy) now).1 with
      | error error => rfl
      | ok done => exact absurd (congrArg some result) failed
  others := by
    intro request now scene other
    obtain ⟨begun, ⟨store, -⟩, withheld | served⟩ :=
      answer_cases request now scene
    · rw [withheld, store]
    · rw [served, stored_conclude, store]
      cases request with
      | writePolicy policy => exact absurd rfl (other policy)
      | _ => rfl

end Rehearsal.Scene

end Switchyard
