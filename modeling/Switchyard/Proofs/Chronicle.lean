import Mathlib.Data.List.Forall2
import Switchyard.Proofs.Ending

/-!
# The chronicle of a run

A chronicle gives an ending to every cycle that is over, the latest first.
Everything that the loop counts, holds and waits for can be read off the
chronicle and the stage that the loop has got to, and every change of a run
continues the chronicle: `Change.chronicled`.
-/

namespace Switchyard.Control

open Routine (Exchange Reaches)

variable {Outside : Type}

def Request.isForReport : Request → Bool
  | .recordStatus _ => true
  | .publish _ => true
  | _ => false

def Occurrence.isOfReport : Occurrence → Bool
  | .asked request => request.isForReport
  | .answered request _ => request.isForReport
  | _ => false

/-- Whether something happens without a word: no request, no answer and no
beginning of a cycle. -/
def Occurrence.isApart : Occurrence → Bool
  | .began => false
  | .asked _ => false
  | .answered _ _ => false
  | _ => true

def reportOf (cycle : List Occurrence) : List Occurrence :=
  cycle.filter Occurrence.isOfReport

/-- All that is said when a report is kept and announced. -/
def announcement (locale : Locale) (report : Report)
    (kept : Except StoreError Unit) : List Occurrence :=
  [.asked (.recordStatus (report.text locale)),
    .answered (.recordStatus (report.text locale)) kept,
    .asked (.publish .statusChanged), .answered (.publish .statusChanged) ()]

@[simp]
theorem conversation_append (former latter : List Occurrence) :
    conversation (former ++ latter) = conversation former ++
      conversation latter :=
  List.filter_append _ _

@[simp]
theorem reportOf_append (former latter : List Occurrence) :
    reportOf (former ++ latter) = reportOf former ++ reportOf latter :=
  List.filter_append _ _

theorem failuresOf_conversation (cycle : List Occurrence) :
    failuresOf (conversation cycle) = failuresOf cycle := by
  have same : ∀ occurrence : Occurrence,
      (if occurrence.isConversation then occurrence.failure? else none) =
        occurrence.failure? := by
    intro occurrence
    cases occurrence with
    | asked request => exact ite_self _
    | answered request answer => cases request <;> rfl
    | _ => exact ite_self _
  unfold failuresOf conversation
  rw [List.filterMap_filter]
  exact congrArg (cycle.filterMap ·) (funext same)

section Apart

variable {shown : List Occurrence}

theorem isBeginning_of_isApart
    (apart : ∀ occurrence ∈ shown, occurrence.isApart = true) :
    ∀ occurrence ∈ shown, occurrence.isBeginning = false := by
  intro occurrence member
  have isApart := apart occurrence member
  cases occurrence <;> first | rfl | cases isApart

theorem conversation_append_apart
    (apart : ∀ occurrence ∈ shown, occurrence.isApart = true)
    (cycle : List Occurrence) :
    conversation (cycle ++ shown) = conversation cycle := by
  have nothing : conversation shown = [] := by
    refine List.filter_eq_nil_iff.2 fun occurrence member => ?_
    have isApart := apart occurrence member
    cases occurrence <;> first | exact Bool.false_ne_true | cases isApart
  rw [conversation_append, nothing, List.append_nil]

theorem reportOf_append_apart
    (apart : ∀ occurrence ∈ shown, occurrence.isApart = true)
    (cycle : List Occurrence) : reportOf (cycle ++ shown) = reportOf cycle := by
  have nothing : reportOf shown = [] := by
    refine List.filter_eq_nil_iff.2 fun occurrence member => ?_
    have isApart := apart occurrence member
    cases occurrence <;> first | exact Bool.false_ne_true | cases isApart
  rw [reportOf_append, nothing, List.append_nil]

end Apart

/-- Nothing of a report is said where only the policy is read and evaluated. -/
theorem reportOf_eq_nil_of_isConversation {shown : List Occurrence}
    (conversing : ∀ occurrence ∈ shown, occurrence.isConversation = true) :
    reportOf shown = [] := by
  refine List.filter_eq_nil_iff.2 fun occurrence member => ?_
  have isConversation := conversing occurrence member
  cases occurrence with
  | asked request =>
    cases request <;> first | exact Bool.false_ne_true | cases isConversation
  | answered request answer =>
    cases request <;> first | exact Bool.false_ne_true | cases isConversation
  | _ => exact Bool.false_ne_true

/-- What is said of a report by a loop that may already have made its first
request. -/
theorem reportOf_of_resumed (isPending : Bool) {request : Request}
    {answers : List Occurrence}
    (ofReport : ∀ occurrence ∈ .asked request :: answers,
      occurrence.isOfReport = true) :
    (if isPending then [.asked request] else []) ++
        reportOf (news isPending (.asked request :: answers)) =
          .asked request :: answers := by
  have whole : reportOf (.asked request :: answers) =
      .asked request :: answers :=
    List.filter_eq_self.2 ofReport
  have rest : reportOf answers = answers :=
    List.filter_eq_self.2 (List.forall_mem_cons.1 ofReport).2
  cases isPending with
  | true => exact congrArg (Occurrence.asked request :: ·) rest
  | false => exact whole

def Occurrence.isAnnouncement : Occurrence → Bool
  | .asked (.publish _) => true
  | _ => false

/-- The moment at which the loop last announced a status. -/
def announcedAt? (log : List Entry) : Option Nat :=
  ((log.filter fun entry => entry.what.isAnnouncement).getLast?).map
    Entry.moment

theorem announcedAt?_append (log : List Entry) (now : Nat)
    (shown : List Occurrence) :
    announcedAt? (log ++ shown.map (Entry.mk now)) =
      if shown.any Occurrence.isAnnouncement then some now
      else announcedAt? log := by
  have noted : ((shown.map (Entry.mk now)).filter fun entry =>
        entry.what.isAnnouncement) =
      (shown.filter Occurrence.isAnnouncement).map (Entry.mk now) :=
    List.filter_map
  unfold announcedAt?
  rw [List.filter_append, noted, List.getLast?_append, List.getLast?_map]
  cases last : (shown.filter Occurrence.isAnnouncement).getLast? with
  | none =>
    have none : shown.any Occurrence.isAnnouncement = false := by
      rw [List.getLast?_eq_none_iff, List.filter_eq_nil_iff] at last
      exact List.any_eq_false.2 last
    rw [none]
    rfl
  | some occurrence =>
    have member := List.mem_filter.1 (List.mem_of_getLast? last)
    rw [List.any_eq_true.2 ⟨occurrence, member⟩]
    rfl

theorem cyclesOf_append_map (log : List Entry) (now : Nat)
    (shown : List Occurrence) :
    cyclesOf (log ++ shown.map (Entry.mk now)) =
      shown.foldl continueCycles (cyclesOf log) := by
  have what : (shown.map (Entry.mk now)).map Entry.what = shown := by
    rw [List.map_map]
    exact List.map_id _
  rw [cyclesOf, List.map_append, List.foldl_append, what]
  rfl

/-- Whether a tally is that of cycles with some endings, and of a last cycle
that has none yet. The latter counts as begun, and as an evaluation once it has
got that far. -/
structure Counted (tally : Tally) (endings : List Ending)
    (begun evaluating : Nat) : Prop where
  cycles : tally.cycles = endings.length + begun
  evaluations : tally.evaluations =
    endings.countP Ending.isEvaluated + evaluating
  switches : tally.switches = endings.countP (·.verdict? == some .switched)
  skips : tally.skips = endings.countP (·.verdict? == some .kept)
  transientFailures :
    tally.transientFailures = endings.countP (·.verdict? == some .transient)
  unexpectedErrors : tally.unexpectedErrors = endings.countP (·.failure?.isSome)

theorem counted_zero : Counted Tally.zero [] 0 0 :=
  ⟨rfl, rfl, rfl, rfl, rfl, rfl⟩

namespace Counted

variable {tally : Tally} {endings : List Ending} {begun evaluating : Nat}

theorem countWakeup (counted : Counted tally endings begun evaluating)
    (byEvent : Bool) :
    Counted (tally.countWakeup byEvent) endings begun evaluating := by
  obtain ⟨cycles, evaluations, switches, skips, transientFailures,
    unexpectedErrors⟩ := counted
  cases byEvent <;>
    exact ⟨cycles, evaluations, switches, skips, transientFailures,
      unexpectedErrors⟩

theorem begin (counted : Counted tally endings 0 0) :
    Counted tally.countCycle endings 1 0 :=
  { counted with cycles := congrArg (· + 1) counted.cycles }

theorem evaluate (counted : Counted tally endings 1 0) :
    Counted tally.countEvaluation endings 1 1 :=
  { counted with evaluations := congrArg (· + 1) counted.evaluations }

theorem unread (counted : Counted tally endings 1 0) (error : StoreError) :
    Counted tally.countUnexpectedError (.unread error :: endings) 0 0 :=
  have oneMore : (Ending.unread error :: endings).countP (·.failure?.isSome) =
      endings.countP (·.failure?.isSome) + 1 := List.countP_cons_of_pos rfl
  { counted with
    unexpectedErrors :=
      (congrArg (· + 1) counted.unexpectedErrors).trans oneMore.symm }

theorem idle (counted : Counted tally endings 1 0) (policy : Policy)
    (report : Report) :
    Counted tally (.idle policy report :: endings) 0 0 :=
  { counted with }

/-- What the loop counts after an evaluation is what its result adds. -/
theorem conclude {loop : Loop} (counted : Counted loop.tally endings 1 1)
    (policy : Policy) (began : Nat)
    (result : Except ControllerError Evaluation) :
    Counted (loop.afterEvaluation policy began result).tally
      (.evaluated policy result :: endings) 0 0 := by
  obtain ⟨cycles, evaluations, switches, skips, transientFailures,
    unexpectedErrors⟩ := counted
  have isEvaluated : (Ending.evaluated policy result).isEvaluated = true := rfl
  have counting : (loop.afterEvaluation policy began result).tally.cycles =
      loop.tally.cycles ∧
      (loop.afterEvaluation policy began result).tally.evaluations =
        loop.tally.evaluations ∧
      (loop.afterEvaluation policy began result).tally.switches =
        loop.tally.switches +
        (if (Ending.evaluated policy result).verdict? == some .switched then 1
          else 0) ∧
      (loop.afterEvaluation policy began result).tally.skips =
        loop.tally.skips +
        (if (Ending.evaluated policy result).verdict? == some .kept then 1
          else 0) ∧
      (loop.afterEvaluation policy began result).tally.transientFailures =
        loop.tally.transientFailures +
          (if (Ending.evaluated policy result).verdict? ==
            some .transient then 1 else 0) ∧
      (loop.afterEvaluation policy began result).tally.unexpectedErrors =
        loop.tally.unexpectedErrors +
          (if (Ending.evaluated policy result).failure?.isSome then 1
            else 0) := by
    rcases result with error | ⟨_ | _ | _, report⟩
    all_goals exact ⟨rfl, rfl, rfl, rfl, rfl, rfl⟩
  obtain ⟨sameCycles, sameEvaluations, moreSwitches, moreSkips, moreTransient,
      moreErrors⟩ :=
    counting
  refine ⟨?_, ?_, ?_, ?_, ?_, ?_⟩
  · rw [sameCycles, cycles, List.length_cons]
  · rw [sameEvaluations, evaluations, List.countP_cons_of_pos isEvaluated]
  · rw [moreSwitches, switches, List.countP_cons]
  · rw [moreSkips, skips, List.countP_cons]
  · rw [moreTransient, transientFailures, List.countP_cons]
  · rw [moreErrors, unexpectedErrors, List.countP_cons]

end Counted

/-! ## Cycles and their endings -/

/-- Whether a cycle is over with its ending: what was said in it came to that
ending, which was reported once. -/
structure Complete (timing : Timing) (locale : Locale) (cycle : List Occurrence)
    (ending : Ending) :
    Prop where
  comesTo : ComesTo timing (conversation cycle) ending
  reported : ∃ kept, reportOf cycle = announcement locale ending.report kept

/-- Whether a cycle has not come to its ending. -/
structure Undecided (cycle : List Occurrence) : Prop where
  unreported : reportOf cycle = []
  unfailing : failuresOf cycle = []

/-- Whether a cycle has come to its ending, which is still to be announced. -/
structure Reporting (loop : Loop) (isPending : Bool) (rest : Work Unit)
    (interval : Option Nat) (cycle : List Occurrence) (ending : Ending) :
    Prop where
  comesTo : ComesTo loop.timing (conversation cycle) ending
  begun : reportOf cycle =
    if isPending then [.asked (.recordStatus (ending.report.text loop.locale))]
    else []
  announces : rest = Loop.announce loop.locale ending.report
  interval : interval = ending.interval?
  retry : loop.retry = ending.wish? loop.timing

/-- Whether all cycles are over with their endings. -/
structure Settled (loop : Loop) (cycles : List (List Occurrence))
    (endings : List Ending) :
    Prop where
  retry : loop.retry = none
  complete : cycles.Forall₂ (Complete loop.timing loop.locale) endings
  counted : Counted loop.tally endings 0 0

/-- Whether all cycles but the last are over with their endings. -/
structure Midway (loop : Loop) (evaluating : Nat)
    (cycles : List (List Occurrence)) (endings : List Ending) : Prop where
  retry : loop.retry = none
  last : ∃ current earlier, cycles = current :: earlier ∧ Undecided current ∧
    earlier.Forall₂ (Complete loop.timing loop.locale) endings
  counted : Counted loop.tally endings 1 evaluating

/-- What the endings of a run mean for a loop at its stage, given whether it
waits for an answer, when it last announced a status, and the cycles of its
log. -/
def Stands (loop : Loop) (isPending : Bool) (announced : Option Nat)
    (cycles : List (List Occurrence)) (endings : List Ending) : Prop :=
  match loop.stage with
  | .opening => Settled loop cycles endings
  | .reading => Midway loop 0 cycles endings
  | .evaluating _ _ _ => Midway loop 1 cycles endings
  | .reporting rest interval =>
    ∃ current earlier ending older,
      cycles = current :: earlier ∧ endings = ending :: older ∧
      Reporting loop isPending rest interval current ending ∧
      earlier.Forall₂ (Complete loop.timing loop.locale) older ∧
      Counted loop.tally endings 0 0
  | .waiting deadline =>
    Settled loop cycles endings ∧
      ∃ ending older reported, endings = ending :: older ∧
      announced = some reported ∧
      deadline = (ending.rest loop.timing).map (reported + ·)
  | .ended .stopped => Settled loop cycles endings
  | .ended .cancelled =>
    Settled loop cycles endings ∨ Midway loop 1 cycles endings

section Standing

variable {loop : Loop} {isPending : Bool} {announced : Option Nat}
  {shown : List Occurrence} {cycles : List (List Occurrence)}
  {endings : List Ending}

section Apart

variable (apart : ∀ occurrence ∈ shown, occurrence.isApart = true)

include apart

theorem Complete.extend {timing : Timing} {locale : Locale}
    {cycle : List Occurrence} {ending : Ending}
    (complete : Complete timing locale cycle ending) :
    Complete timing locale (cycle ++ shown) ending := by
  obtain ⟨comesTo, reported⟩ := complete
  refine ⟨?_, ?_⟩
  · rw [conversation_append_apart apart]
    exact comesTo
  · rw [reportOf_append_apart apart]
    exact reported

theorem failuresOf_append_apart (cycle : List Occurrence) :
    failuresOf (cycle ++ shown) = failuresOf cycle := by
  rw [← failuresOf_conversation, conversation_append_apart apart,
    failuresOf_conversation]

theorem Settled.extend (settled : Settled loop cycles endings) :
    Settled loop (shown.foldl continueCycles cycles) endings := by
  obtain ⟨retry, complete, counted⟩ := settled
  have within := isBeginning_of_isApart apart
  refine ⟨retry, ?_, counted⟩
  cases complete with
  | nil =>
    rw [foldl_continueCycles_nil within]
    exact .nil
  | cons last earlier =>
    rw [foldl_continueCycles within]
    exact .cons (last.extend apart) earlier

theorem Midway.extend {evaluating : Nat}
    (midway : Midway loop evaluating cycles endings) :
    Midway loop evaluating (shown.foldl continueCycles cycles) endings := by
  obtain ⟨retry, ⟨current, earlier, rfl, ⟨unreported, unfailing⟩, complete⟩,
    counted⟩ := midway
  have within := isBeginning_of_isApart apart
  refine ⟨retry, ⟨current ++ shown, earlier, foldl_continueCycles within,
      ⟨?_, ?_⟩, complete⟩,
    counted⟩
  · rw [reportOf_append_apart apart, unreported]
  · rw [failuresOf_append_apart apart, unfailing]

theorem Reporting.extend {rest : Work Unit} {interval : Option Nat}
    {cycle : List Occurrence} {ending : Ending}
    (reporting : Reporting loop isPending rest interval cycle ending) :
    Reporting loop isPending rest interval (cycle ++ shown) ending :=
  { reporting with
    comesTo := by rw [conversation_append_apart apart]; exact reporting.comesTo
    begun := by rw [reportOf_append_apart apart]; exact reporting.begun }

/-- What happens without a word changes nothing that the endings mean. -/
theorem Stands.extend
    (stands : Stands loop isPending announced cycles endings) :
    Stands loop isPending announced (shown.foldl continueCycles cycles)
      endings := by
  unfold Stands at stands ⊢
  split at stands
  · exact stands.extend apart
  · exact stands.extend apart
  · exact stands.extend apart
  · obtain ⟨current, earlier, ending, older, rfl, same, reporting, complete,
      counted⟩ := stands
    exact ⟨_, earlier, ending, older,
      foldl_continueCycles (isBeginning_of_isApart apart), same,
      reporting.extend apart, complete, counted⟩
  · exact ⟨stands.1.extend apart, stands.2⟩
  · exact stands.extend apart
  · exact stands.imp (.extend apart) (.extend apart)

end Apart

theorem Settled.begins (settled : Settled loop cycles endings) :
    Midway { loop with tally := loop.tally.countCycle, stage := .reading } 0
      ([] :: cycles) endings := by
  obtain ⟨retry, complete, counted⟩ := settled
  exact ⟨retry, ⟨[], cycles, rfl, ⟨rfl, rfl⟩, complete⟩, counted.begin⟩

theorem isBeginning_of_isConversation
    (conversing : ∀ occurrence ∈ shown, occurrence.isConversation = true) :
    ∀ occurrence ∈ shown, occurrence.isBeginning = false := by
  intro occurrence member
  have isConversation := conversing occurrence member
  cases occurrence <;> first | rfl | cases isConversation

/-- A cycle that goes on, and in which nothing fails, has not come to its
ending. -/
theorem Midway.goesOn {evaluating : Nat}
    (midway : Midway loop evaluating cycles endings)
    (conversing : ∀ occurrence ∈ shown, occurrence.isConversation = true)
    (unfailing : failuresOf shown = []) :
    Midway loop evaluating (shown.foldl continueCycles cycles) endings := by
  obtain ⟨retry, ⟨current, earlier, rfl, undecided, complete⟩, counted⟩ :=
    midway
  have within := isBeginning_of_isConversation conversing
  refine ⟨retry, ⟨current ++ shown, earlier, foldl_continueCycles within,
      ⟨?_, ?_⟩, complete⟩,
    counted⟩
  · rw [reportOf_append, undecided.unreported,
      reportOf_eq_nil_of_isConversation conversing]
    rfl
  · rw [failuresOf_append, undecided.unfailing, unfailing]
    rfl

/-- A cycle that comes to an ending is to be reported. -/
theorem Midway.report {evaluating : Nat}
    (midway : Midway loop evaluating cycles endings)
    (conversing : ∀ occurrence ∈ shown, occurrence.isConversation = true)
    {ending : Ending}
    (comesTo : ∀ {current earlier}, cycles = current :: earlier →
      ComesTo loop.timing (conversation (current ++ shown)) ending)
    {after : Loop} (settings : after.settings = loop.settings)
    (stage : after.stage =
      .reporting (Loop.announce loop.locale ending.report) ending.interval?)
    (retry : after.retry = ending.wish? loop.timing)
    (counted : Counted after.tally (ending :: endings) 0 0) :
    Stands after false announced (shown.foldl continueCycles cycles)
      (ending :: endings) := by
  obtain ⟨-, ⟨current, earlier, rfl, undecided, complete⟩, -⟩ := midway
  have timing : after.timing = loop.timing := congrArg (·.1) settings
  have locale : after.locale = loop.locale := congrArg (·.2.1) settings
  have within := isBeginning_of_isConversation conversing
  have unreported : reportOf (current ++ shown) = [] := by
    rw [reportOf_append, undecided.unreported,
      reportOf_eq_nil_of_isConversation conversing]
    rfl
  rw [Stands, stage, timing, locale]
  refine ⟨current ++ shown, earlier, ending, endings,
    foldl_continueCycles within, rfl, ?_, complete, counted⟩
  exact ⟨timing ▸ comesTo rfl, unreported, locale ▸ rfl, rfl, timing ▸ retry⟩

/-- A cycle whose report is announced is over. -/
theorem Reporting.complete {rest : Work Unit} {interval : Option Nat}
    {cycle : List Occurrence} {ending : Ending}
    (reporting : Reporting loop isPending rest interval cycle ending)
    (kept : Except StoreError Unit) :
    Complete loop.timing loop.locale
      (cycle ++ news isPending (announcement loop.locale ending.report kept))
      ending where
  comesTo := by
    have silent : ∀ occurrence ∈ announcement loop.locale ending.report kept,
        occurrence.isConversation = false := by
      simp [announcement, Occurrence.isConversation, Occurrence.isOfEvaluation,
        Request.isForEvaluation]
    rw [conversation_append, append_of_silent silent]
    exact reporting.comesTo
  reported := by
    refine ⟨kept, ?_⟩
    rw [reportOf_append, reporting.begun]
    exact reportOf_of_resumed isPending
      (by simp [Occurrence.isOfReport, Request.isForReport])

end Standing

namespace Loop

/-- The loop after the report of a cycle: it takes the rest that the cycle's
ending settles, and holds no wish for a retry. -/
theorem afterReport_ending {loop : Loop} {ending : Ending} (now : Nat)
    (retry : loop.retry = ending.wish? loop.timing) :
    loop.afterReport now ending.interval? =
      { loop with
        retry := none
        stage := .waiting ((ending.rest loop.timing).map (now + ·)) } := by
  rw [← Ending.map_waitLength, ← retry]
  cases ending with
  | idle policy report =>
    have unwished : loop.retry = none := retry
    have same : { loop with retry := none } = loop := by rw [← unwished]
    exact congrArg (fun loop : Loop => { loop with stage := .waiting none })
      same.symm
  | unread error => rfl
  | evaluated policy result => rfl

theorem stage_afterEvaluation_ending (loop : Loop)
    (policy : Policy) (began : Nat)
    (result : Except ControllerError Evaluation) :
    (loop.afterEvaluation policy began result).stage =
      .reporting (announce loop.locale (Ending.evaluated policy result).report)
        (Ending.evaluated policy result).interval? := by
  rcases result with error | ⟨_ | _ | _, report⟩
  all_goals rfl

theorem retry_afterEvaluation {loop : Loop} (none : loop.retry = none)
    (policy : Policy) (began : Nat)
    (result : Except ControllerError Evaluation) :
    (loop.afterEvaluation policy began result).retry =
      (Ending.evaluated policy result).wish? loop.timing := by
  rcases result with error | ⟨_ | _ | _, report⟩
  · rfl
  · exact none
  · exact none
  · rfl

end Loop

section Turns

variable {parties : Parties Outside} {loop after : Loop}
  {around next : Surroundings Outside} {goesOn isPending : Bool}
  {announced : Option Nat} {shown : List Occurrence}
  {cycles : List (List Occurrence)} {endings : List Ending}

theorem text_of_announce {locale : Locale} {former latter : Report}
    (same : Loop.announce locale former = Loop.announce locale latter) :
    former.text locale = latter.text locale :=
  Request.recordStatus.inj (Routine.ask.inj same).1

theorem Underway.conversing {spoken : List Occurrence}
    {policy : Policy} {began : Nat}
    {rest later : Work (Except ControllerError Evaluation)}
    {exchanges : List (Exchange Request.Answer)}
    (underway : Underway loop isPending spoken)
    (stage : loop.stage = .evaluating policy began rest)
    (reaches : Reaches rest exchanges later) (isPending : Bool) :
    ∀ occurrence ∈ news isPending (said exchanges later),
      occurrence.isConversation = true := by
  rw [Underway, stage] at underway
  obtain ⟨-, sinceSwitch, before, reached, -, -⟩ := underway
  have uses : rest.Uses (·.isForEvaluation = true) :=
    (uses_evaluate _ _ _).reached reached
  intro occurrence member
  exact isConversation_of_isOfEvaluation
    (isOfEvaluation_of_said uses reaches occurrence (mem_of_mem_news member))

theorem Settled.past (settled : Settled loop cycles endings)
    (occurrence : Occurrence) (apart : occurrence.isApart = true) :
    Settled loop ([occurrence].foldl continueCycles cycles) endings :=
  settled.extend (List.forall_mem_singleton.2 apart)

theorem Settled.wakes (settled : Settled loop cycles endings) (byEvent : Bool) :
    Settled { loop with
        tally := loop.tally.countWakeup byEvent, stage := .opening } cycles
      endings := by
  obtain ⟨retry, complete, counted⟩ := settled
  exact ⟨retry, complete, counted.countWakeup byEvent⟩

theorem Settled.ends (settled : Settled loop cycles endings) (exit : Exit) :
    Settled { loop with stage := .ended exit } cycles endings := by
  obtain ⟨retry, complete, counted⟩ := settled
  exact ⟨retry, complete, counted⟩

/-- A policy that was read, or could not be, leads to an ending or to an
evaluation. -/
theorem Midway.read (midway : Midway loop 0 cycles endings)
    (stage : loop.stage = .reading)
    (underway : ∀ {current earlier}, cycles = current :: earlier →
      Underway loop isPending (conversation current)) (now : Nat)
    (read : Except StoreError Policy) :
    ∃ endingsAfter, Stands (loop.afterReading now read) false announced
      ((news isPending [.asked .readPolicy, .answered .readPolicy read]).foldl
        continueCycles cycles) endingsAfter := by
  have conversing : ∀ occurrence ∈ news isPending [.asked .readPolicy,
        .answered .readPolicy read],
      occurrence.isConversation = true := fun occurrence member => by
    rcases List.mem_pair.1 (mem_of_mem_news member) with rfl | rfl <;> rfl
  have saidFact : ∀ {current earlier}, cycles = current :: earlier →
      conversation (current ++ news isPending [.asked .readPolicy,
          .answered .readPolicy read]) =
        [.asked .readPolicy, .answered .readPolicy read] := fun cyclesFact => by
    rw [conversation_append]
    exact underway_of_reading isPending stage (underway cyclesFact) [_]
      (List.forall_mem_singleton.2 rfl)
  cases read with
  | error error =>
    exact ⟨.unread error :: endings, midway.report conversing
      (fun cyclesFact => by rw [saidFact cyclesFact]; exact .unread error)
      rfl rfl rfl (midway.counted.unread error)⟩
  | ok policy =>
    cases idle : Loop.idleReport? policy with
    | some report =>
      rw [Loop.afterReading_idle idle]
      exact ⟨.idle policy report :: endings, midway.report conversing
        (fun cyclesFact => by rw [saidFact cyclesFact]; exact .idle idle)
        rfl rfl rfl (midway.counted.idle policy report)⟩
    | none =>
      rw [Loop.afterReading_busy idle]
      have unfailing : failuresOf (news isPending
          [.asked .readPolicy, .answered .readPolicy (.ok policy)]) = [] := by
        cases isPending <;> rfl
      obtain ⟨retry, last, counted⟩ := midway.goesOn conversing unfailing
      exact ⟨endings, retry, last, counted.evaluate⟩

section Evaluations

variable {policy : Policy} {began : Nat}
  {rest : Work (Except ControllerError Evaluation)}
  {exchanges : List (Exchange Request.Answer)}

/-- An evaluation that waits for an answer has not failed, and leaves its cycle
undecided. -/
theorem Midway.suspend (midway : Midway loop 1 cycles endings)
    (stage : loop.stage = .evaluating policy began rest)
    (underway : ∀ {current earlier}, cycles = current :: earlier →
      Underway loop isPending (conversation current)) {request : Request}
    {resume : request.Answer → Work (Except ControllerError Evaluation)}
    (reaches : Reaches rest exchanges (.ask request resume)) :
    Midway { loop with
        stage := .evaluating policy began (.ask request resume) } 1
      ((news isPending (said exchanges (.ask request resume))).foldl
        continueCycles cycles)
      endings := by
  obtain ⟨current, earlier, cyclesFact, -, -⟩ := midway.last
  obtain ⟨-, sinceSwitch, whole, reached, saidFact⟩ :=
    underway_of_evaluating isPending stage (underway cyclesFact) reaches
  have failures : failuresOf (said whole (.ask request resume)) = [] :=
    failuresOf_evaluate reached
  have none :
      failuresOf
        (current ++ news isPending (said exchanges (.ask request resume))) =
      [] := by
    rw [← failuresOf_conversation, conversation_append, saidFact,
      failuresOf_asked, failuresOf_answered, failures]
    rfl
  have unfailing :
      failuresOf (news isPending (said exchanges (.ask request resume))) = [] :=
    (List.append_eq_nil_iff.1 ((failuresOf_append _ _).symm.trans none)).2
  obtain ⟨retry, last, counted⟩ :=
    midway.goesOn ((underway cyclesFact).conversing stage reaches isPending)
      unfailing
  exact ⟨retry, last, counted⟩

/-- An evaluation that is over decides how its cycle ends. -/
theorem Midway.conclude (midway : Midway loop 1 cycles endings)
    (stage : loop.stage = .evaluating policy began rest)
    (underway : ∀ {current earlier}, cycles = current :: earlier →
      Underway loop isPending (conversation current))
    {result : Except ControllerError Evaluation}
    (reaches : Reaches rest exchanges (.done result)) :
    Stands (loop.afterEvaluation policy began result) false announced
      ((news isPending (said exchanges (.done result))).foldl
        continueCycles cycles)
      (.evaluated policy result :: endings) := by
  obtain ⟨current, earlier, cyclesFact, -, -⟩ := midway.last
  refine midway.report
    ((underway cyclesFact).conversing stage reaches isPending)
    (fun cyclesFact => ?_) (loop.settings_afterEvaluation policy began result)
    (loop.stage_afterEvaluation_ending policy began result)
    (Loop.retry_afterEvaluation midway.retry policy began result)
    (midway.counted.conclude policy began result)
  obtain ⟨busy, sinceSwitch, whole, reached, saidFact⟩ :=
    underway_of_evaluating isPending stage (underway cyclesFact) reaches
  rw [conversation_append, saidFact, said_done]
  exact .evaluated busy reached

end Evaluations

section Reports

variable {interval : Option Nat} {report : Report}

/-- A status that is still to be kept leaves its cycle with the ending that it
has come to. -/
theorem Stands.record (stands : Stands loop isPending announced cycles endings)
    (stage : loop.stage =
      .reporting (Loop.announce loop.locale report) interval) :
    Stands { loop with
        stage := .reporting (Loop.announce loop.locale report) interval } true
      announced
      ((news isPending [.asked (.recordStatus (report.text loop.locale))]).foldl
        continueCycles cycles) endings := by
  rw [Stands, stage] at stands
  obtain ⟨current, earlier, ending, older, rfl, rfl, reporting, complete,
    counted⟩ := stands
  have silent : ∀ occurrence ∈
      [Occurrence.asked (.recordStatus (report.text loop.locale))],
      occurrence.isConversation = false := List.forall_mem_singleton.2 rfl
  refine ⟨_, earlier, ending, older, foldl_continueCycles ?_, rfl,
    ⟨?_, ?_, reporting.announces, reporting.interval, reporting.retry⟩,
    complete, counted⟩
  · intro occurrence member
    rw [List.mem_singleton.1 (mem_of_mem_news member)]
    rfl
  · rw [conversation_append, append_of_silent silent]
    exact reporting.comesTo
  · rw [reportOf_append, reporting.begun,
      ← text_of_announce reporting.announces]
    exact reportOf_of_resumed isPending (List.forall_mem_singleton.2 rfl)

/-- An announced cycle is over, and the rest that its ending settles begins. -/
theorem Stands.announce
    (stands : Stands loop isPending announced cycles endings)
    (stage : loop.stage = .reporting (Loop.announce loop.locale report)
      interval) (now : Nat)
    (kept : Except StoreError Unit) :
    Stands (loop.afterReport now interval) false (some now)
      ((news isPending (announcement loop.locale report kept)).foldl
        continueCycles cycles)
      endings := by
  rw [Stands, stage] at stands
  obtain ⟨current, earlier, ending, older, rfl, rfl, reporting, complete,
    counted⟩ := stands
  have within :
      ∀ occurrence ∈ news isPending (announcement loop.locale report kept),
      occurrence.isBeginning = false := fun occurrence member => by
    have isBeginning : ∀ occurrence ∈ announcement loop.locale report kept,
        occurrence.isBeginning = false := by
      simp [announcement, Occurrence.isBeginning]
    exact isBeginning occurrence (mem_of_mem_news member)
  have finished := reporting.complete kept
  have sameText : announcement loop.locale ending.report kept =
      announcement loop.locale report kept := by
    unfold announcement
    rw [text_of_announce reporting.announces]
  rw [sameText] at finished
  rw [reporting.interval, Loop.afterReport_ending now reporting.retry,
    foldl_continueCycles within]
  exact ⟨⟨rfl, .cons finished complete, counted⟩, ending, older, now,
    rfl, rfl, rfl⟩

end Reports

theorem Turn.stands (turn : Turn parties loop around after next goesOn shown)
    (underway : ∀ {current earlier}, cycles = current :: earlier →
      Underway loop isPending (conversation current))
    (stands : Stands loop isPending announced cycles endings) :
    ∃ endingsAfter, Stands after (!goesOn)
      (if (news isPending shown).any Occurrence.isAnnouncement then some
        around.now else announced)
      ((news isPending shown).foldl continueCycles cycles) endingsAfter := by
  cases turn with
  | @stays exit stage =>
    rw [news_nil]
    refine ⟨endings, ?_⟩
    rw [Stands, stage] at stands ⊢
    cases exit <;> exact stands
  | refused stage cancelled =>
    rw [Stands, stage] at stands
    rw [news_nil]
    exact ⟨endings, .inl (stands.ends .cancelled)⟩
  | begins stage goingOn =>
    rw [Stands, stage] at stands
    rw [news_of_not_isSpoken rfl]
    exact ⟨endings, stands.begins⟩
  | asksPolicy stage withheld outside =>
    have conversing : ∀ occurrence ∈ news isPending [.asked .readPolicy],
        occurrence.isConversation = true := fun occurrence member => by
      rw [List.mem_singleton.1 (mem_of_mem_news member)]
      rfl
    have unfailing : failuresOf (news isPending [.asked .readPolicy]) = [] := by
      cases isPending <;> rfl
    refine ⟨endings, ?_⟩
    rw [Stands, stage] at stands ⊢
    exact stands.goesOn conversing unfailing
  | reads stage read outside =>
    rw [Stands, stage] at stands
    exact stands.read stage underway around.now read
  | breaksOff stage cancelled =>
    rw [Stands, stage] at stands
    rw [news_nil]
    obtain ⟨retry, last, counted⟩ := stands
    exact ⟨endings, .inr ⟨retry, last, counted⟩⟩
  | evaluates stage goingOn withheld reaches outside =>
    rw [Stands, stage] at stands
    exact ⟨endings, stands.suspend stage underway reaches⟩
  | concludes stage goingOn reaches outside =>
    rw [Stands, stage] at stands
    rw [← said_done _ _]
    exact ⟨_, stands.conclude stage underway reaches⟩
  | records stage withheld outside => exact ⟨endings, stands.record stage⟩
  | @announces interval report stage kept outside =>
    have announces : (news isPending (announcement loop.locale report kept)).any
        Occurrence.isAnnouncement = true := by
      cases isPending <;> rfl
    rw [← announcement, if_pos announces]
    exact ⟨endings, stands.announce stage around.now kept⟩
  | leaves stage cancelled =>
    rw [Stands, stage] at stands
    rw [news_of_not_isSpoken rfl]
    exact ⟨endings,
      .inl ((stands.1.past (.woke .cancelled) rfl).ends .cancelled)⟩
  | lags stage goingOn behind =>
    rw [Stands, stage] at stands
    rw [news_of_not_isSpoken rfl]
    exact ⟨endings, (stands.1.past (.woke (.lagged _)) rfl).wakes true⟩
  | @hears deadline stage goingOn keepsUp skipped later notice unread
      statuses relevant =>
    rw [Stands, stage] at stands
    rw [news_of_not_isSpoken rfl]
    have settled := stands.1.past (.woke (.event notice)) rfl
    refine ⟨endings, ?_⟩
    cases notice with
    | engineStopped => exact settled.ends .stopped
    | _ => exact settled.wakes true
  | rests stage goingOn keepsUp statuses early =>
    rw [news_of_not_isSpoken rfl]
    refine ⟨endings, ?_⟩
    rw [Stands, stage] at stands ⊢
    exact ⟨stands.1.past .rested rfl, stands.2⟩
  | timesOut stage goingOn keepsUp statuses due =>
    rw [Stands, stage] at stands
    rw [news_of_not_isSpoken rfl]
    exact ⟨endings, (stands.1.past (.woke .timeout) rfl).wakes false⟩

end Turns

/-! ## Courses with a chronicle -/

namespace Course

theorem InCycles.underway {course : Course Outside} (inCycles : course.InCycles)
    {current : List Occurrence} {earlier : List (List Occurrence)}
    (cycles : cyclesOf course.log = current :: earlier) :
    Underway course.loop course.isPending (conversation current) := by
  rcases inCycles with ⟨none, -⟩ | ⟨other, others, otherCycles, underway, -⟩
  · rw [none] at cycles
    cases cycles
  · obtain ⟨rfl, rfl⟩ := List.cons.inj (otherCycles.symm.trans cycles)
    exact underway

/-- Whether the cycles of a course have endings with which its loop stands. -/
structure Chronicled (course : Course Outside) : Prop where
  inCycles : course.InCycles
  stands : ∃ endings,
    Stands course.loop course.isPending (announcedAt? course.log)
    (cyclesOf course.log) endings

theorem chronicled_start (timing : Timing) (locale : Locale)
    (around : Surroundings Outside) :
    (start timing locale around).Chronicled where
  inCycles := .inl ⟨rfl, .inl rfl⟩
  stands := ⟨[], rfl, .nil, counted_zero⟩

section Changes

variable {parties : Parties Outside} {course after : Course Outside}

/-- What happens without a word, while the loop does nothing, leaves the
chronicle as it is. -/
theorem Chronicled.stands_note (chronicled : course.Chronicled)
    {shown : List Occurrence}
    (apart : ∀ occurrence ∈ shown, occurrence.isApart = true)
    (unannounced : shown.any Occurrence.isAnnouncement = false) :
    ∃ endings, Stands course.loop course.isPending
      (announcedAt? (course.note shown).log) (cyclesOf (course.note shown).log)
      endings := by
  obtain ⟨endings, stands⟩ := chronicled.stands
  refine ⟨endings, ?_⟩
  rw [note, announcedAt?_append, cyclesOf_append_map, unannounced]
  exact stands.extend apart

theorem Change.chronicled (change : Change parties course after)
    (chronicled : course.Chronicled) : after.Chronicled := by
  refine ⟨change.inCycles chronicled.inCycles, ?_⟩
  cases change with
  | @turned loop around goesOn shown turn =>
    obtain ⟨endings, stands⟩ := chronicled.stands
    obtain ⟨endingsAfter, standsAfter⟩ :=
      turn.stands chronicled.inCycles.underway stands
    refine ⟨endingsAfter, ?_⟩
    simp only [Course.turned, note]
    rw [announcedAt?_append, cyclesOf_append_map]
    exact standsAfter
  | noticed notice =>
    exact chronicled.stands_note (List.forall_mem_singleton.2 rfl) rfl
  | cancelled =>
    exact chronicled.stands_note (List.forall_mem_singleton.2 rfl) rfl
  | passed stage keepsUp unread statusOnly => exact chronicled.stands
  | quiet now outside own => exact chronicled.stands

theorem Change.settings_eq (change : Change parties course after) :
    after.loop.settings = course.loop.settings := by
  cases change with
  | turned turn => exact turn.settings_eq
  | _ => rfl

end Changes

end Course

section Runs

variable (parties : Parties Outside) (timing : Timing) (locale : Locale)
  {around : Surroundings Outside}

/-- Every run has a chronicle. -/
theorem chronicled_play (sound : around.bus.Sound)
    (moves : List (Course.Move Outside)) :
    let course := (Course.start timing locale around).play parties moves
    course.Chronicled ∧ course.loop.timing = timing ∧
      course.loop.locale = locale := by
  have start := Course.chronicled_start timing locale around
  have startSound := Course.sound_start timing locale sound
  obtain ⟨chronicled, settings⟩ := startSound.play_keeps
    (fun reached => reached.Chronicled ∧
      reached.loop.settings = (Course.start timing locale around).loop.settings)
    (fun _ change kept =>
      ⟨change.chronicled kept.1, change.settings_eq.trans kept.2⟩)
    ⟨start, rfl⟩ moves
  exact ⟨chronicled, congrArg (·.1) settings, congrArg (·.2.1) settings⟩

end Runs

end Switchyard.Control
