import Switchyard.Proofs.Conversation
import Switchyard.Proofs.Outline

/-!
# Looks that find nothing

A look of the waiting loop that finds nothing means that the loop has acted on
everything: the policy was asked for after the last relevant notice of anybody
else. For the relevant notices that came after the policy was asked for last are
all still unread, as long as no wait has ended since.
-/

namespace Switchyard.Control

open Routine (Exchange Reaches Uses)

variable {Outside : Type}

/-- Whether the policy was asked for, and no more than a number of relevant
notices came after the last time. -/
def ReadWithin (limit : Nat) (log : List Entry) : Prop :=
  ∃ before moment since, log = before ++ ⟨moment, .asked .readPolicy⟩ :: since ∧
    countOf Occurrence.isReading since = 0 ∧
    countOf Occurrence.isRelevantNotice since ≤ limit

theorem ReadWithin.append {limit further : Nat} {log later : List Entry}
    (read : ReadWithin limit log)
    (noReading : countOf Occurrence.isReading later = 0)
    (within : limit + countOf Occurrence.isRelevantNotice later ≤ further) :
    ReadWithin further (log ++ later) := by
  obtain ⟨before, moment, since, rfl, sinceFact, count⟩ := read
  refine ⟨before, moment, since ++ later, by simp, ?_, ?_⟩
  · rw [countOf_append, sinceFact, noReading]
  · rw [countOf_append]
    exact Nat.le_trans (Nat.add_le_add_right count _) within

theorem readWithin_of_news {log : List Entry} {now limit : Nat}
    (answers : List Occurrence)
    (noReading : answers.countP Occurrence.isReading = 0)
    (noNotice : answers.countP Occurrence.isRelevantNotice = 0) :
    ReadWithin limit
      (log ++ (news false (.asked .readPolicy :: answers)).map
        (Entry.mk now)) := by
  refine ⟨log, now, answers.map (Entry.mk now), rfl, ?_, ?_⟩
  · rw [countOf_map, noReading]
  · rw [countOf_map, noNotice]
    exact Nat.zero_le _

theorem isReading_of_evaluating {policy : Policy} {began : Nat} {loop : Loop}
    {rest later : Work (Except ControllerError Evaluation)}
    {exchanges : List (Exchange Request.Answer)} (proper : loop.Proper)
    (stage : loop.stage = .evaluating policy began rest)
    (reaches : Reaches rest exchanges later) :
    ∀ occurrence ∈ said exchanges later, occurrence.isReading = false := by
  rw [Loop.Proper, stage] at proper
  obtain ⟨before, reached⟩ := proper
  have uses : rest.Uses (·.isForEvaluation = true) :=
    (uses_evaluate _ _ _).reached reached
  intro occurrence member
  have ofEvaluation := isOfEvaluation_of_said uses reaches occurrence member
  exact isReading_of_isOfEvaluation ofEvaluation

def Stage.isPastReading : Stage → Bool
  | .evaluating _ _ _ => true
  | .reporting _ _ => true
  | .waiting _ => true
  | _ => false

namespace Course

/-- Whether the relevant notices that came after the policy was asked for last
are all unread, or the loop is behind. -/
def Current (course : Course Outside) : Prop :=
  course.around.bus.IsBehind course.loop.receiver ∨
    ReadWithin (course.around.bus.unreadRelevant course.loop.receiver)
      course.log

/-- Whether the loop is current, or will ask for the policy before it looks for
notices again, or has ended. -/
inductive Fresh (course : Course Outside) : Prop where
  | opens (stage : course.loop.stage = .opening)
  | asks (stage : course.loop.stage = .reading)
    (isNew : course.isPending = false)
  | ended (ended : course.loop.stage.isOver = true)
  | current (current : course.Current)

section Changes

variable {parties : Parties Outside} {course after : Course Outside}

theorem Current.grows (current : course.Current)
    (receiver : after.loop.receiver = course.loop.receiver)
    (bus : after.around.bus = course.around.bus)
    {fresh : List Occurrence} {now : Nat}
    (log : after.log = course.log ++ fresh.map (Entry.mk now))
    (noReading : fresh.countP Occurrence.isReading = 0)
    (noNotice : fresh.countP Occurrence.isRelevantNotice = 0) :
    after.Current := by
  rcases current with behind | read
  · refine .inl ?_
    rw [receiver, bus]
    exact behind
  · refine .inr ?_
    rw [receiver, bus, log]
    refine read.append (by rw [countOf_map, noReading]) ?_
    rw [countOf_map, noNotice]
    exact Nat.le_refl _

theorem Current.spoken (current : course.Current) {loop : Loop}
    {around : Surroundings Outside} {goesOn : Bool} {shown : List Occurrence}
    (receiver : loop.receiver = course.loop.receiver)
    (bus : around.bus = course.around.bus)
    (spoken : ∀ occurrence ∈ shown, occurrence.isSpoken = true)
    (noReading : ∀ occurrence ∈ shown, occurrence.isReading = false) :
    (course.turned loop around goesOn shown).Current := by
  refine current.grows receiver bus rfl (countP_news_of_none noReading _) ?_
  rw [countP_news ignoresRequests_isRelevantNotice,
    countP_of_spoken ignoresRequests_isRelevantNotice spoken]

/-- One more notice leaves a loop current: a relevant one is unread. -/
theorem Current.publish (current : course.Current) (sound : course.Sound)
    {notice : Notice} (receiver : after.loop.receiver = course.loop.receiver)
    (bus : after.around.bus = course.around.bus.publish notice)
    {fresh : List Occurrence} {now : Nat}
    (log : after.log = course.log ++ fresh.map (Entry.mk now))
    (noReading : fresh.countP Occurrence.isReading = 0)
    (noNotice : fresh.countP Occurrence.isRelevantNotice =
      if notice.isStatusOnly then 0 else 1) :
    after.Current := by
  unfold Current
  rw [receiver, bus]
  by_cases behind :
    (course.around.bus.publish notice).IsBehind course.loop.receiver
  · exact .inl behind
  · rcases current with wasBehind | read
    · exact absurd (wasBehind.publish sound.serves.sound notice) behind
    · refine .inr ?_
      rw [log]
      refine read.append (by rw [countOf_map, noReading]) ?_
      rw [countOf_map, noNotice, Bus.unreadRelevant, Bus.unreadRelevant,
        Bus.unread_publish sound.serves notice behind, List.countP_append,
        List.countP_singleton]
      cases notice.isStatusOnly <;> exact Nat.le_refl _

theorem Fresh.current_of_isPastReading (fresh : course.Fresh)
    (past : course.loop.stage.isPastReading = true) : course.Current := by
  cases fresh with
  | opens stage =>
    rw [stage] at past
    cases past
  | asks stage isNew =>
    rw [stage] at past
    cases past
  | ended ended =>
    obtain ⟨exit, stage⟩ := Stage.exists_exit ended
    rw [stage] at past
    cases past
  | current current => exact current

theorem Fresh.asking (fresh : course.Fresh)
    (stage : course.loop.stage = .reading) {loop : Loop}
    {around : Surroundings Outside} {goesOn : Bool}
    (receiver : loop.receiver = course.loop.receiver)
    (bus : around.bus = course.around.bus) (answers : List Occurrence)
    (noReading : answers.countP Occurrence.isReading = 0)
    (noNotice : answers.countP Occurrence.isRelevantNotice = 0) :
    (course.turned loop around goesOn
      (.asked .readPolicy :: answers)).Current := by
  cases pending : course.isPending with
  | false =>
    refine .inr ?_
    simp only [Course.turned, note, pending]
    exact readWithin_of_news answers noReading noNotice
  | true =>
    -- The request was made before, so that only its answer is new.
    have current : course.Current := by
      cases fresh with
      | opens opening => cases stage.symm.trans opening
      | asks reading isNew => cases pending.symm.trans isNew
      | ended ended =>
        rw [stage] at ended
        cases ended
      | current current => exact current
    have log :
        (course.turned loop around goesOn (.asked .readPolicy :: answers)).log =
        course.log ++ answers.map (Entry.mk course.around.now) := by
      simp only [Course.turned, note, pending]
      rfl
    exact current.grows receiver bus log noReading noNotice

theorem Fresh.turn (fresh : course.Fresh) (sound : course.Sound) {loop : Loop}
    {around : Surroundings Outside} {goesOn : Bool} {shown : List Occurrence}
    (turn : Turn parties course.loop course.around loop around goesOn shown) :
    (course.turned loop around goesOn shown).Fresh := by
  cases turn with
  | stays stage => exact .ended (by simp [Course.turned, stage, Stage.isOver])
  | refused stage cancelled => exact .ended rfl
  | begins stage goingOn => exact .asks rfl rfl
  | asksPolicy stage withheld outside =>
    exact .current (fresh.asking stage (by rfl) (by rfl) [] rfl rfl)
  | reads stage read outside =>
    exact .current (fresh.asking stage (Loop.receiver_afterReading _ _ _)
      (by rfl) [_] rfl rfl)
  | breaksOff stage cancelled => exact .ended rfl
  | evaluates stage goingOn withheld reaches outside =>
    have was := fresh.current_of_isPastReading (by rw [stage]; rfl)
    have noReading := isReading_of_evaluating sound.proper stage reaches
    refine .current
      (was.spoken (by rfl) (by rfl) (fun occurrence member => ?_) noReading)
    rcases List.mem_append.1 member with inTold | last
    · exact isSpoken_of_told occurrence inTold
    · rw [List.mem_singleton.1 last]
      rfl
  | concludes stage goingOn reaches outside =>
    have was := fresh.current_of_isPastReading (by rw [stage]; rfl)
    have noReading := isReading_of_evaluating sound.proper stage reaches
    rw [said_done] at noReading
    exact .current (was.spoken (Loop.receiver_afterEvaluation _ _ _ _) (by rfl)
      isSpoken_of_told noReading)
  | records stage withheld outside =>
    have was := fresh.current_of_isPastReading (by rw [stage]; rfl)
    exact .current (was.spoken (by rfl) (by rfl) (by simp [Occurrence.isSpoken])
      (by simp [Occurrence.isReading]))
  | announces stage kept outside =>
    have was := fresh.current_of_isPastReading (by rw [stage]; rfl)
    refine .current (was.publish sound
      (congrArg (·.2.2) (Loop.settings_afterReport _ _ _)) (by rfl)
      (by rfl) (countP_news_of_none (by simp [Occurrence.isReading]) _) ?_)
    rw [countP_news ignoresRequests_isRelevantNotice]
    rfl
  | leaves stage cancelled => exact .ended rfl
  | lags stage goingOn behind => exact .opens rfl
  | @hears deadline stage goingOn keepsUp skipped later notice unread
      statuses relevant =>
    cases notice with
    | engineStopped => exact .ended rfl
    | _ => exact .opens rfl
  | rests stage goingOn keepsUp statuses early =>
    have was := fresh.current_of_isPastReading (by rw [stage]; rfl)
    have nothing := Bus.unreadRelevant_of_statuses statuses
    refine .current (.inr ((was.resolve_left keepsUp).append ?_ ?_))
    · rw [countOf_map, countP_news_of_none (by simp [Occurrence.isReading])]
    · rw [nothing, countOf_map, countP_news ignoresRequests_isRelevantNotice]
      exact Nat.zero_le _
  | timesOut stage goingOn keepsUp statuses due => exact .opens rfl

theorem Change.fresh (change : Change parties course after)
    (sound : course.Sound) (fresh : course.Fresh) : after.Fresh := by
  cases change with
  | turned turn => exact fresh.turn sound turn
  | @passed deadline notice later stage keepsUp unread statusOnly =>
    have current := fresh.current_of_isPastReading (by rw [stage]; rfl)
    have same : (course.around.bus.moved course.loop.receiver
        (course.around.bus.place course.loop.receiver + 1)).unreadRelevant
          course.loop.receiver =
            course.around.bus.unreadRelevant course.loop.receiver := by
      rw [Bus.unreadRelevant, sound.serves.unread_moved_next keepsUp unread,
        Bus.unreadRelevant, unread,
        List.countP_cons_of_neg (by simp [statusOnly])]
    refine .current (.inr ?_)
    simp only [withBus, same]
    exact current.resolve_left keepsUp
  | noticed notice =>
    cases fresh with
    | opens stage => exact .opens stage
    | asks stage isNew => exact .asks stage isNew
    | ended ended => exact .ended ended
    | current current =>
      refine .current (current.publish sound (by rfl) (by rfl)
        (by rfl) (by rfl) ?_)
      cases notice <;> rfl
  | cancelled =>
    cases fresh with
    | opens stage => exact .opens stage
    | asks stage isNew => exact .asks stage isNew
    | ended ended => exact .ended ended
    | current current =>
      exact .current (current.grows (by rfl) (by rfl) (by rfl)
        (by rfl) (by rfl))
  | quiet now outside own =>
    cases fresh with
    | opens stage => exact .opens stage
    | asks stage isNew => exact .asks stage isNew
    | ended ended => exact .ended ended
    | current current =>
      refine .current ?_
      simp only [Current, Bus.isBehind_others own,
        Bus.unreadRelevant_others own]
      exact current

/-- A look finds nothing only if the policy was asked for after the last
relevant notice. -/
theorem Change.foundNothing (change : Change parties course after)
    (fresh : course.Fresh) : ∃ later, after.log = course.log ++ later ∧
      ((∀ entry ∈ later, entry.what.foundNothing = false) ∨
        (∃ entry, later = [entry]) ∧ ReadWithin 0 course.log) := by
  cases change with
  | @turned loop around goesOn shown turn =>
    refine ⟨_, rfl, ?_⟩
    rcases turn.outline.foundNothing with
      none | ⟨occurrence, deadline, rfl, unspoken, stage, keepsUp, statuses⟩
    · exact .inl (forall_news none _ _)
    · have current := fresh.current_of_isPastReading (by rw [stage]; rfl)
      have read := current.resolve_left keepsUp
      rw [Bus.unreadRelevant_of_statuses statuses] at read
      rw [news_of_not_isSpoken unspoken]
      exact .inr ⟨⟨⟨course.around.now, occurrence⟩, rfl⟩, read⟩
  | noticed notice => exact ⟨_, rfl, .inl (by simp [Occurrence.foundNothing])⟩
  | cancelled => exact ⟨_, rfl, .inl (by simp [Occurrence.foundNothing])⟩
  | passed stage keepsUp unread statusOnly =>
    exact ⟨[], (List.append_nil _).symm, .inl (by simp)⟩
  | quiet now outside own =>
    exact ⟨[], (List.append_nil _).symm, .inl (by simp)⟩

end Changes

end Course

def AllRead (log : List Entry) : Prop :=
  ∀ {earlier later : List Entry} {entry : Entry},
    log = earlier ++ entry :: later →
    entry.what.foundNothing = true → ReadWithin 0 earlier

theorem AllRead.append {log later : List Entry} (allRead : AllRead log)
    (laterFact : (∀ entry ∈ later, entry.what.foundNothing = false) ∨
      (∃ entry, later = [entry]) ∧ ReadWithin 0 log) : AllRead
        (log ++ later) := by
  have inLater : ∀ {beyond rest : List Entry} {entry : Entry},
      later = beyond ++ entry :: rest →
      entry.what.foundNothing = true → ReadWithin 0 (log ++ beyond) := by
    intro beyond rest entry split found
    rcases laterFact with none | ⟨⟨only, rfl⟩, read⟩
    · have nothing := none entry (by simp [split])
      rw [found] at nothing
      cases nothing
    · cases beyond with
      | nil => simpa using read
      | cons first beyond => simp at split
  intro earlier rest entry split found
  rcases List.append_eq_append_iff.1 split with
    ⟨beyond, rfl, laterSplit⟩ | ⟨between, logSplit, restSplit⟩
  · exact inLater laterSplit found
  · cases between with
    | nil =>
      have read : ReadWithin 0 (log ++ []) := inLater restSplit.symm found
      simpa [logSplit] using read
    | cons first between =>
      obtain ⟨rfl, -⟩ := List.cons.inj restSplit
      exact allRead logSplit found

variable (parties : Parties Outside) (timing : Timing) (locale : Locale)
  {around : Surroundings Outside}

/-- In every run, whenever a wait ends by its time, or goes on with nothing left
to read, the loop had asked for the policy after the last relevant notice that
anybody put on the bus. -/
theorem policy_read_when_nothing_found (sound : around.bus.Sound)
    (moves : List (Course.Move Outside)) {earlier later : List Entry}
    {entry : Entry}
    (log : ((Course.start timing locale around).play parties moves).log =
      earlier ++ entry :: later)
    (found : entry.what.foundNothing = true) :
    ∃ before moment since,
      earlier = before ++ ⟨moment, .asked .readPolicy⟩ :: since ∧
      ∀ passed ∈ since, passed.what.isReading = false ∧
      passed.what.isRelevantNotice = false := by
  have startSound := Course.sound_start timing locale sound
  have start : (Course.start timing locale around).Fresh ∧
      AllRead (Course.start timing locale around).log :=
    ⟨.opens rfl, fun split => by simp [Course.start] at split⟩
  have keeps : ∀ {before after : Course Outside}, before.Sound →
      Course.Change parties before after → before.Fresh ∧ AllRead before.log →
        after.Fresh ∧ AllRead after.log := by
    rintro before after soundBefore change ⟨fresh, allRead⟩
    obtain ⟨more, grows, moreFact⟩ := change.foundNothing fresh
    exact ⟨change.fresh soundBefore fresh, grows ▸ allRead.append moreFact⟩
  obtain ⟨-, allRead⟩ :=
    startSound.play_keeps (fun reached => reached.Fresh ∧ AllRead reached.log)
      keeps start moves
  obtain ⟨before, moment, since, split, noReading, noNotice⟩ :=
    allRead log found
  have noneOf : ∀ {kind : Occurrence → Bool}, countOf kind since = 0 →
      ∀ passed ∈ since, kind passed.what = false :=
    fun count passed member =>
      Bool.eq_false_iff.2 (List.countP_eq_zero.1 count passed member)
  exact ⟨before, moment, since, split, fun passed member =>
    ⟨noneOf noReading passed member,
      noneOf (Nat.le_zero.1 noNotice) passed member⟩⟩

/-- A loop that was told of a change before its first cycle rests after it has
read the policy again. -/
theorem policy_read_before_rest :
    let course := (Course.start .usual .en (.fresh Bus.usualCapacity)).play
      (obliging .initial default)
      (.notice .policyChanged :: List.replicate 8 .step)
    ∃ earlier entry, course.log = earlier ++ [entry] ∧
      entry.what.foundNothing = true ∧
      ∃ before moment since,
        earlier = before ++ ⟨moment, .asked .readPolicy⟩ :: since ∧
        ∀ passed ∈ since,
          passed.what.isReading = false ∧
            passed.what.isRelevantNotice = false := by
  intro course
  have shown : (course.log.getLast?.any fun entry => entry.what.foundNothing) =
      true := by
    decide +kernel
  cases last : course.log.getLast? with
  | none => simp [last] at shown
  | some entry =>
    have found : entry.what.foundNothing = true := by simpa [last] using shown
    obtain ⟨earlier, split⟩ := List.getLast?_eq_some_iff.1 last
    exact ⟨earlier, entry, split, found,
      policy_read_when_nothing_found (obliging .initial default) .usual .en
        (sound_fresh Bus.usualCapacity) _ split found⟩

end Switchyard.Control
