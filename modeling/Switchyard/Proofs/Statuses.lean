import Switchyard.Proofs.Endurance
import Switchyard.Proofs.StoreCalls
import Switchyard.Report

/-!
# The status of each cycle

A cycle that is not cut off keeps one status and announces it, whether or not it
could be kept. The message is the text of what the cycle came to. No such text
is blank, so that a status that was kept is the one that is shown until another
one is kept.
-/

namespace Switchyard

namespace Text

theorem isBlank_append (front back : String) :
    isBlank (front ++ back) = (isBlank front && isBlank back) := by
  rw [isBlank, String.toList_append, List.all_append]
  rfl

theorem isBlank_append_left {front : String} (shown : isBlank front = false)
    (back : String) :
    isBlank (front ++ back) = false := by
  rw [isBlank_append, shown, Bool.false_and]

theorem isBlank_append_right (front : String) {back : String}
    (shown : isBlank back = false) :
    isBlank (front ++ back) = false := by
  rw [isBlank_append, shown, Bool.and_false]

end Text

namespace Report

open Text (isBlank_append_left isBlank_append_right)

theorem isBlank_english (report : Report) :
    Text.isBlank report.english = false := by
  cases report with
  | disabled | waitingForGroup => rfl
  | waitingForCandidates | missingCandidates | noPreferredCandidate |
    cooldown | noImprovement
  | applied | forced => exact isBlank_append_right _ rfl
  | alreadyOptimal | applyFailed | confirmFailed =>
    exact isBlank_append_left (isBlank_append_right _ rfl) _
  | failure => exact isBlank_append_left rfl _

theorem isBlank_chinese (report : Report) :
    Text.isBlank report.chinese = false := by
  cases report with
  | disabled | waitingForGroup => rfl
  | waitingForCandidates | missingCandidates | noPreferredCandidate |
    cooldown | noImprovement
  | applied | forced | applyFailed => exact isBlank_append_right _ rfl
  | alreadyOptimal | confirmFailed =>
    exact isBlank_append_left (isBlank_append_right _ rfl) _
  | failure => exact isBlank_append_left rfl _

/-- Every report has a visible text, whatever names and messages it holds. -/
theorem isBlank_text (locale : Locale) (report : Report) :
    Text.isBlank (report.text locale) = false := by
  cases locale with
  | en => exact report.isBlank_english
  | zh => exact report.isBlank_chinese

end Report

theorem StatusRecord.visible?_eq_some {record : StatusRecord}
    (shown : Text.isBlank record.message = false) :
    record.visible? = some record := by
  rw [visible?, shown]
  rfl

namespace Store

open Files (Disk placeOf join)

/-- Whether a status that a store could keep is the one that it shows until
another one is recorded. -/
def KeepsShowing {State : Type} (serve : Call → State → Reply × State)
    (store : State) (status : StatusRecord) : Prop :=
  (serve (.record status) store).1 = .done (.ok ()) →
    ∀ calls : List Call, calls.filterMap Call.record? = [] →
      (serve .status
          (serveAll serve calls (serve (.record status) store).2).2).1 =
        .status (.ok (some status))

theorem Memory.keepsShowing (store : Memory) {status : StatusRecord}
    (shown : Text.isBlank status.message = false) :
    KeepsShowing Memory.serve store status := by
  intro _ calls others
  have history := Memory.history_serveAll (store.record status) calls
  rw [others, List.append_nil] at history
  have last : (store.record status).history.getLast? = some status :=
    List.getLast?_concat
  have found : ((serveAll Memory.serve calls (store.record status)).2).status? =
      some status := by
    rw [Memory.status?, history, last, Option.bind_some,
      StatusRecord.visible?_eq_some shown]
  exact congrArg (fun status => Reply.status (.ok status)) found

namespace Folder

/-- Whether the status file in a folder says some status. -/
structure Shows (folder : Folder) (disk : Disk) (status : StatusRecord) :
    Prop where
  sound : disk.Sound
  opened : disk.IsOpen (folder.home disk)
  written : disk.sight? (folder.home disk ++ ["autoswitch-status.json"]) =
    some (.file (Bytes.ofText status.toJson.pretty))

variable {folder : Folder} {disk : Disk} {status : StatusRecord}

theorem shows_of_record (sound : disk.Sound)
    (kept : (folder.serve (.record status) disk).1 = .done (.ok ())) :
    folder.Shows (folder.serve (.record status) disk).2 status := by
  have writing :=
    writing_writeDocument sound isPlain_statusName folder.path status.toJson
  rw [serve_record, statusPath] at kept ⊢
  obtain ⟨opened, written, -⟩ := writing.done (Reply.done.inj kept)
  refine ⟨writing.sound, ?_, ?_⟩
  all_goals rw [home_eq writing.working]
  · exact opened
  · exact written

/-- Every call but a record leaves the status file as it is, also a call that
fails. -/
theorem Shows.serve (shows : folder.Shows disk status) {call : Call}
    (other : call.record? = none) :
    folder.Shows (folder.serve call disk).2 status := by
  cases call with
  | policy => exact shows
  | stored => exact shows
  | status => exact shows
  | record recorded => cases other
  | update policy =>
    have writing :=
      writing_writeDocument shows.sound isPlain_policyName
        folder.path policy.toJson
    rw [serve_update, policyPath]
    refine ⟨writing.sound, ?_, ?_⟩
    all_goals rw [home_eq writing.working]
    · exact writing.opened shows.opened
    · exact (writing.sibling (by decide) (by decide)).trans shows.written

theorem Shows.serveAll {calls : List Call}
    (others : calls.filterMap Call.record? = [])
    (shows : folder.Shows disk status) :
    folder.Shows (serveAll folder.serve calls disk).2 status := by
  induction calls generalizing disk with
  | nil => exact shows
  | cons call calls callsFact =>
    obtain ⟨other, others⟩ :
        call.record? = none ∧ calls.filterMap Call.record? = [] := by
      cases recorded : call.record? with
      | none =>
        rw [List.filterMap_cons_none recorded] at others
        exact ⟨rfl, others⟩
      | some record =>
        rw [List.filterMap_cons_some recorded] at others
        cases others
    exact callsFact others (shows.serve other)

theorem keepsShowing (folder : Folder) (sound : disk.Sound)
    (shown : Text.isBlank status.message = false) :
    KeepsShowing folder.serve disk status := by
  intro kept calls others
  have written := (shows_of_record sound kept).serveAll others
  rw [serve_status, interpret_written_status written.opened written.written]
  have visible := StatusRecord.visible?_eq_some shown
  exact congrArg (fun status => Reply.status (.ok status)) visible

end Folder

end Store

namespace Control

variable {Outside : Type}

/-- Whether a cycle has come to an ending, and has made one report of it: the
status with the text of the report was recorded, with whatever result, and then
a change of the status was announced. -/
def IsComplete (timing : Timing) (locale : Locale)
    (cycle : List Occurrence) : Prop :=
  ∃ ending, Complete timing locale cycle ending

section Standing

variable {timing : Timing} {locale : Locale} {loop : Loop} {isPending : Bool}
  {announced : Option Nat} {current : List Occurrence}
  {earlier cycles : List (List Occurrence)} {endings : List Ending}

theorem forall_isComplete
    (complete : cycles.Forall₂ (Complete timing locale) endings) :
    ∀ cycle ∈ cycles, IsComplete timing locale cycle := by
  induction complete with
  | nil => nofun
  | cons finished _ laterFact =>
    intro cycle member
    rcases List.mem_cons.1 member with rfl | among
    · exact ⟨_, finished⟩
    · exact laterFact cycle among

/-- Whether all cycles but the last are complete, and the last one is complete,
or is being reported, or is still under way, or was cut off. -/
structure CompleteUpTo (loop : Loop) (isPending : Bool)
    (current : List Occurrence) (earlier : List (List Occurrence)) : Prop where
  before : ∀ cycle ∈ earlier, IsComplete loop.timing loop.locale cycle
  last : IsComplete loop.timing loop.locale current ∨
    (∃ rest interval ending, loop.stage = .reporting rest interval ∧
      Reporting loop isPending rest interval current ending) ∨
    Undecided current ∧
      (loop.stage = .reading ∨ loop.stage.isEvaluating = true ∨
      loop.stage = .ended .cancelled)

theorem Settled.completeUpTo
    (settled : Settled loop (current :: earlier) endings) :
    CompleteUpTo loop isPending current earlier := by
  have each := forall_isComplete settled.complete
  exact ⟨fun cycle member => each cycle (List.mem_cons_of_mem _ member),
    .inl (each current List.mem_cons_self)⟩

theorem Midway.completeUpTo {evaluating : Nat}
    (midway : Midway loop evaluating (current :: earlier) endings)
    (busy : loop.stage = .reading ∨ loop.stage.isEvaluating = true ∨
      loop.stage = .ended .cancelled) : CompleteUpTo loop isPending
        current earlier := by
  obtain ⟨last, others, same, undecided, complete⟩ := midway.last
  obtain ⟨rfl, rfl⟩ := List.cons.inj same
  exact ⟨forall_isComplete complete, .inr (.inr ⟨undecided, busy⟩)⟩

theorem Stands.completeUpTo
    (stands : Stands loop isPending announced (current :: earlier) endings) :
    CompleteUpTo loop isPending current earlier := by
  unfold Stands at stands
  split at stands
  · exact stands.completeUpTo
  · next stage => exact stands.completeUpTo (.inl stage)
  · next stage =>
      exact stands.completeUpTo
        (.inr (.inl (congrArg Stage.isEvaluating stage)))
  · next rest interval stage =>
    obtain ⟨last, others, ending, older, same, -, reporting, complete, -⟩ :=
      stands
    obtain ⟨rfl, rfl⟩ := List.cons.inj same
    exact ⟨forall_isComplete complete,
      .inr (.inl ⟨rest, interval, ending, stage, reporting⟩)⟩
  · exact stands.1.completeUpTo
  · exact stands.completeUpTo
  · next stage =>
    exact stands.elim Settled.completeUpTo
      (Midway.completeUpTo · (.inr (.inr stage)))

end Standing

section Runs

variable (parties : Parties Outside) (timing : Timing) (locale : Locale)
  {around : Surroundings Outside}

/-- In every run, each cycle that is over and was not cut off has recorded one
status and then announced one change of the status, whatever became of the
record; a run that is not cancelled, and whose requests are answered, gets to
the end of its last cycle in a few steps. The message is the text of what the
cycle came to, and a status with such a message is shown by either store from
the moment at which it was kept until the next record. -/
theorem each_cycle_shows_its_status (sound : around.bus.Sound)
    (moves : List (Course.Move Outside)) :
    let course := (Course.start timing locale around).play parties moves
    (∀ current earlier, cyclesOf course.log = current :: earlier →
      CompleteUpTo course.loop course.isPending current earlier) ∧
    (course.loop.timing = timing ∧ course.loop.locale = locale) ∧
    (course.around.isCancelled = false → course.loop.exit? = none →
      Prompt parties →
      ∃ count ≤ 4, ∀ cycle ∈ cyclesOf (course.own parties count).log,
        IsComplete timing locale cycle) ∧
    ∀ (locale : Locale) (report : Report) (moment : Int64),
      Text.isBlank (report.text locale) = false ∧
      (∀ store, Store.KeepsShowing Store.Memory.serve store
        ⟨moment, report.text locale⟩) ∧
      ∀ (folder : Store.Folder) (disk : Files.Disk), disk.Sound →
        Store.KeepsShowing folder.serve disk ⟨moment, report.text locale⟩ := by
  intro course
  have courseSound : course.Sound :=
    (Course.sound_start timing locale sound).play moves
  obtain ⟨chronicled, timingFact, localeFact⟩ :=
    chronicled_play parties timing locale sound moves
  obtain ⟨endings, stands⟩ := chronicled.stands
  refine ⟨fun current earlier split => ?_, ⟨timingFact, localeFact⟩,
    fun goingOn running prompt => ?_, fun locale report moment => ?_⟩
  · rw [split] at stands
    exact stands.completeUpTo
  · obtain ⟨count, atMost, deadline, waiting⟩ :=
      courseSound.exists_wait prompt goingOn (Loop.isOver_of_exit? running)
    refine ⟨count, Nat.le_trans atMost course.loop.stage.toWait_le, ?_⟩
    have whole : course.own parties count =
        (Course.start timing locale around).play parties
          (moves ++ List.replicate count .step) :=
      (Course.play_append _ _ _ _).symm
    obtain ⟨chronicled, timingFact, localeFact⟩ :=
      chronicled_play parties timing locale sound
        (moves ++ List.replicate count .step)
    rw [← whole] at chronicled timingFact localeFact
    obtain ⟨endings, stands⟩ := chronicled.stands
    rw [Stands, waiting] at stands
    have complete := forall_isComplete stands.1.complete
    rwa [timingFact, localeFact] at complete
  · have shown := report.isBlank_text locale
    exact ⟨shown, fun store => store.keepsShowing shown,
      fun folder disk sound => folder.keepsShowing sound shown⟩

/-- A cycle that failed with an error that could not be kept either, and what
the same cycle would have kept in a folder. -/
theorem failed_cycle_shows_its_status :
    let policy : Policy :=
      { Policy.initial with
        enabled := true, candidates := NameSet.ofList ["A"] }
    let course :=
      (Course.start .usual .en (.fresh Bus.usualCapacity)).play (erring policy)
        [.step, .step, .step, .step, .pass (Duration.ofMillis 1000),
          .step, .step, .step]
    let folder : Store.Folder := ⟨""⟩
    let disk := Files.Disk.blank ["srv"]
    let status : StatusRecord := ⟨5, "Auto-switch error: Network error: down"⟩
    (∃ current earlier, cyclesOf course.log = [current, earlier] ∧
      failuresOf earlier = ["Network error: down"] ∧
      IsComplete .usual .en earlier) ∧
    (∃ count ≤ 4, ∀ cycle ∈ cyclesOf (course.own (erring policy) count).log,
      IsComplete .usual .en cycle) ∧
    (Report.failure "Network error: down").text .en = status.message ∧
    disk.Sound ∧ (folder.serve (.record status) disk).1 = .done (.ok ()) ∧
    Store.KeepsShowing folder.serve disk status := by
  intro policy course folder disk status
  obtain ⟨upTo, ⟨timingFact, localeFact⟩, concludes, shows⟩ :=
    each_cycle_shows_its_status (erring policy) .usual .en
      (sound_fresh Bus.usualCapacity) [.step, .step, .step, .step,
        .pass (Duration.ofMillis 1000), .step, .step, .step]
  have failures : (cyclesOf course.log).map failuresOf =
      [[], ["Network error: down"]] := by
    decide +kernel
  obtain ⟨current, cycles, split, -, cyclesFact⟩ :=
    List.map_eq_cons_iff.1 failures
  obtain ⟨earlier, rfl, failed⟩ := List.map_eq_singleton_iff.1 cyclesFact
  have complete :=
    (upTo current [earlier] split).before earlier List.mem_cons_self
  rw [timingFact, localeFact] at complete
  have message : (Report.failure "Network error: down").text .en =
      status.message := by
    decide +kernel
  have sound : disk.Sound := Files.Disk.sound_blank _
  have kept := (Store.Folder.isEmpty_blank.mirrors sound).record status
  have showing :=
    (shows .en (.failure "Network error: down") 5).2.2 folder disk sound
  rw [message] at showing
  exact ⟨⟨current, earlier, split, failed, complete⟩,
    concludes (by decide +kernel) (by decide +kernel) (fun _ _ _ => rfl),
    message, sound, kept.1, showing⟩

end Runs

end Control

end Switchyard
