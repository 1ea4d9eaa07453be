import Switchyard.Proofs.Outline
import Switchyard.Proofs.Conversation

/-!
# The cycles of a run

The log of a run falls into cycles at the beginnings of them. What is said in a
cycle before its report is known from the stage that the loop has got to, and a
cycle that is over stays as it is. So every cycle of every run is orderly.
-/

namespace Switchyard.Control

open Routine (Exchange Reaches Uses)

variable {Outside : Type}

/-- The cycles of a log with one more occurrence, the last cycle first. What
comes before the first cycle is in none. -/
def continueCycles (cycles : List (List Occurrence)) :
    Occurrence → List (List Occurrence)
  | .began => [] :: cycles
  | occurrence =>
    match cycles with
    | [] => []
    | current :: earlier => (current ++ [occurrence]) :: earlier

def cyclesOf (log : List Entry) : List (List Occurrence) :=
  (log.map Entry.what).foldl continueCycles []

/-- Whether something is said in a cycle before its report: a request or an
answer that is not about the status. -/
def Occurrence.isConversation : Occurrence → Bool
  | .asked .readPolicy => true
  | .answered .readPolicy _ => true
  | occurrence => occurrence.isOfEvaluation

def conversation (cycle : List Occurrence) : List Occurrence :=
  cycle.filter Occurrence.isConversation

theorem callsOf_conversation (cycle : List Occurrence) :
    callsOf (conversation cycle) = callsOf cycle := by
  have same : ∀ occurrence : Occurrence,
      (if occurrence.isConversation then occurrence.call? else none) =
        occurrence.call? := by
    intro occurrence
    cases occurrence with
    | asked request => cases request <;> rfl
    | answered request answer => exact ite_self _
    | _ => rfl
  unfold callsOf conversation
  rw [List.filterMap_filter]
  exact congrArg (cycle.filterMap ·) (funext same)

theorem cyclesOf_append_began (log : List Entry) (moment : Nat) :
    cyclesOf (log ++ [⟨moment, .began⟩]) = [] :: cyclesOf log := by
  simp [cyclesOf, continueCycles]

theorem foldl_continueCycles {current : List Occurrence}
    {earlier : List (List Occurrence)} {shown : List Occurrence}
    (within : ∀ occurrence ∈ shown, occurrence.isBeginning = false) :
    shown.foldl continueCycles (current :: earlier) =
      (current ++ shown) :: earlier := by
  induction shown generalizing current with
  | nil => simp
  | cons first rest restFact =>
    have inside : first.isBeginning = false := within first List.mem_cons_self
    have step : continueCycles (current :: earlier) first =
        (current ++ [first]) :: earlier := by
      cases first <;> first | rfl | cases inside
    rw [List.foldl_cons, step, restFact fun occurrence member =>
      within occurrence (List.mem_cons_of_mem _ member)]
    simp

theorem cyclesOf_append {log later : List Entry} {current : List Occurrence}
    {earlier : List (List Occurrence)}
    (cycles : cyclesOf log = current :: earlier)
    (within : ∀ entry ∈ later, entry.what.isBeginning = false) :
    cyclesOf (log ++ later) = (current ++ later.map Entry.what) :: earlier := by
  unfold cyclesOf at cycles ⊢
  rw [List.map_append, List.foldl_append, cycles]
  refine foldl_continueCycles fun occurrence member => ?_
  obtain ⟨entry, inLater, rfl⟩ := List.mem_map.1 member
  exact within entry inLater

theorem foldl_continueCycles_nil {shown : List Occurrence}
    (before : ∀ occurrence ∈ shown, occurrence.isBeginning = false) :
    shown.foldl continueCycles [] = [] := by
  induction shown with
  | nil => rfl
  | cons first rest restFact =>
    have outside : first.isBeginning = false := before first List.mem_cons_self
    have step : continueCycles [] first = [] := by
      cases first <;> first | rfl | cases outside
    rw [List.foldl_cons, step]
    exact restFact fun occurrence member =>
      before occurrence (List.mem_cons_of_mem _ member)

theorem cyclesOf_append_of_nil {log later : List Entry}
    (cycles : cyclesOf log = [])
    (before : ∀ entry ∈ later, entry.what.isBeginning = false) :
    cyclesOf (log ++ later) = [] := by
  unfold cyclesOf at cycles ⊢
  rw [List.map_append, List.foldl_append, cycles]
  exact foldl_continueCycles_nil (List.forall_mem_map.2 before)

theorem isConversation_of_isOfEvaluation {occurrence : Occurrence}
    (ofEvaluation : occurrence.isOfEvaluation = true) :
    occurrence.isConversation = true := by
  cases occurrence with
  | asked request => cases request <;> first | rfl | cases ofEvaluation
  | answered request answer =>
    cases request <;> first | rfl | cases ofEvaluation
  | _ => cases ofEvaluation

/-- What is said when some work that may already have made its request is
carried on. -/
theorem said_of_resumed {Result : Type} {rest later : Work Result}
    {exchanges : List (Exchange Request.Answer)}
    (reaches : Reaches rest exchanges later) (isPending : Bool) :
    (if isPending then awaited rest else []) ++ news isPending
      (said exchanges later) = said exchanges later := by
  cases isPending with
  | false => rfl
  | true =>
    cases reaches with
    | here => cases rest <;> rfl
    | next answer onward => rfl

theorem conversation_of_resumed {Result : Type} {rest later : Work Result}
    {exchanges : List (Exchange Request.Answer)}
    (uses : rest.Uses (·.isForEvaluation = true))
    (reaches : Reaches rest exchanges later) (isPending : Bool) :
    (if isPending then awaited rest else []) ++
        conversation (news isPending (said exchanges later)) =
      said exchanges later := by
  have whole : conversation (news isPending (said exchanges later)) =
      news isPending (said exchanges later) :=
    List.filter_eq_self.2 fun occurrence member =>
      isConversation_of_isOfEvaluation
        (isOfEvaluation_of_said uses reaches occurrence
          (mem_of_mem_news member))
  rw [whole, said_of_resumed reaches]

/-- Whether the loop reads the policy or evaluates it. -/
def Stage.isConversing : Stage → Bool
  | .reading => true
  | .evaluating _ _ _ => true
  | _ => false

/-- Whether something is what is said in the last cycle of a loop that has got
to its stage, given whether the loop waits for an answer. -/
def Underway (loop : Loop) (isPending : Bool)
    (shown : List Occurrence) : Prop :=
  match loop.stage with
  | .reading => shown = if isPending then [.asked .readPolicy] else []
  | .evaluating policy _ rest =>
    Loop.idleReport? policy = none ∧ ∃ sinceSwitch exchanges,
      Reaches (evaluate loop.timing policy sinceSwitch) exchanges rest ∧
        shown = .asked .readPolicy :: .answered .readPolicy (.ok policy) ::
          (told exchanges ++ if isPending then awaited rest else []) ∧
        (isPending = false → exchanges = [])
  | _ => Conversation loop.timing shown

section Underway

variable {timing : Timing} {policy : Policy} {sinceSwitch : Option Nat}
  {exchanges : List (Exchange Request.Answer)}
  {rest : Work (Except ControllerError Evaluation)}

theorem conversation_of_reaches (busy : Loop.idleReport? policy = none)
    (reaches : Reaches (evaluate timing policy sinceSwitch) exchanges rest) :
    Conversation timing
      (.asked .readPolicy :: .answered .readPolicy (.ok policy) ::
        said exchanges rest) :=
  .evaluates busy (isOfEvaluation_of_said (uses_evaluate _ _ _) reaches)
    (evaluationSaid_of_reaches reaches)

theorem Underway.conversation {loop : Loop} {isPending : Bool}
    {shown : List Occurrence} (underway : Underway loop isPending shown) :
    Conversation loop.timing shown := by
  cases stage : loop.stage with
  | reading =>
    rw [Underway, stage] at underway
    cases isPending with
    | true => exact underway ▸ .asks
    | false => exact underway ▸ .silent
  | evaluating policy began rest =>
    rw [Underway, stage] at underway
    obtain ⟨busy, sinceSwitch, exchanges, reaches, rfl, unasked⟩ := underway
    cases isPending with
    | true => exact conversation_of_reaches busy reaches
    | false =>
      rw [unasked rfl]
      exact .reads (.ok policy)
  | _ => rw [Underway, stage] at underway; exact underway

end Underway

section Turns

variable {parties : Parties Outside} {loop after : Loop}
  {around next : Surroundings Outside} {goesOn isPending : Bool}
  {shown spoken : List Occurrence}

/-- What says nothing of a conversation leaves it as it was. -/
theorem append_of_silent
    (silent : ∀ occurrence ∈ shown, occurrence.isConversation = false)
    (isPending : Bool) :
    spoken ++ conversation (news isPending shown) = spoken := by
  have nothing : conversation (news isPending shown) = [] := by
    refine List.filter_eq_nil_iff.2 fun occurrence member => ?_
    rw [silent occurrence (mem_of_mem_news member)]
    exact Bool.false_ne_true
  rw [nothing, List.append_nil]

theorem underway_of_conversation (sofar : Conversation loop.timing spoken)
    (neither : loop.stage.isConversing = false) :
    Underway loop isPending spoken := by
  cases stage : loop.stage with
  | reading =>
    rw [stage] at neither
    cases neither
  | evaluating policy began rest =>
    rw [stage] at neither
    cases neither
  | _ => rw [Underway, stage]; exact sofar

theorem underway_of_reading (isPending : Bool) (stage : loop.stage = .reading)
    (underway : Underway loop isPending spoken) (answers : List Occurrence)
    (answersFact : ∀ occurrence ∈ answers, occurrence.isConversation = true) :
    spoken ++ conversation (news isPending (.asked .readPolicy :: answers)) =
      .asked .readPolicy :: answers := by
  rw [Underway, stage] at underway
  have whole : conversation answers = answers :=
    List.filter_eq_self.2 answersFact
  cases isPending with
  | true =>
    rw [underway]
    exact congrArg (Occurrence.asked .readPolicy :: ·) whole
  | false =>
    rw [underway]
    exact congrArg (Occurrence.asked .readPolicy :: ·) whole

/-- An evaluation that is carried on says what its longer dialogue says. -/
theorem underway_of_evaluating {policy : Policy} {began : Nat}
    {rest later : Work (Except ControllerError Evaluation)}
    {exchanges : List (Exchange Request.Answer)} (isPending : Bool)
    (stage : loop.stage = .evaluating policy began rest)
    (underway : Underway loop isPending spoken)
    (reaches : Reaches rest exchanges later) :
    Loop.idleReport? policy = none ∧ ∃ sinceSwitch whole,
      Reaches (evaluate loop.timing policy sinceSwitch) whole later ∧
        spoken ++ conversation (news isPending (said exchanges later)) =
          .asked .readPolicy :: .answered .readPolicy (.ok policy) ::
            said whole later := by
  rw [Underway, stage] at underway
  obtain ⟨busy, sinceSwitch, before, reached, rfl, -⟩ := underway
  have uses : rest.Uses (·.isForEvaluation = true) :=
    (uses_evaluate _ _ _).reached reached
  refine ⟨busy, sinceSwitch, before ++ exchanges, reached.trans reaches, ?_⟩
  rw [said_append, List.cons_append, List.cons_append, List.append_assoc,
    conversation_of_resumed uses reaches]

theorem isBeginning_of_isSpoken {occurrence : Occurrence}
    (isSpoken : occurrence.isSpoken = true) :
    occurrence.isBeginning = false := by
  cases occurrence <;> first | rfl | cases isSpoken

theorem Turn.begins_or_within
    (turn : Turn parties loop around after next goesOn shown) :
    (shown = [.began] ∧ goesOn = true ∧ loop.stage = .opening ∧
        after.stage = .reading) ∨
      ∀ occurrence ∈ shown, occurrence.isBeginning = false := by
  cases turn with
  | begins stage goingOn => exact .inl ⟨rfl, rfl, stage, rfl⟩
  | evaluates stage goingOn withheld reaches outside =>
    refine .inr fun occurrence member => ?_
    rcases List.mem_append.1 member with inTold | last
    · exact isBeginning_of_isSpoken (isSpoken_of_told occurrence inTold)
    · rw [List.mem_singleton.1 last]
      rfl
  | concludes stage goingOn reaches outside =>
    exact .inr fun occurrence member =>
      isBeginning_of_isSpoken (isSpoken_of_told occurrence member)
  | _ => exact .inr (by simp [Occurrence.isBeginning])

/-- Before the first cycle a loop can only end or begin it. -/
theorem Turn.isOver_of_within
    (turn : Turn parties loop around after next goesOn shown)
    (before : loop.stage = .opening ∨ loop.stage.isOver = true)
    (within : ∀ occurrence ∈ shown, occurrence.isBeginning = false) :
    after.stage.isOver = true := by
  cases turn <;> simp_all [Stage.isOver, Occurrence.isBeginning]

theorem Turn.underway (turn : Turn parties loop around after next goesOn shown)
    (underway : Underway loop isPending spoken)
    (within : ∀ occurrence ∈ shown, occurrence.isBeginning = false) :
    Underway after (!goesOn)
      (spoken ++ conversation (news isPending shown)) := by
  have sofar := underway.conversation
  cases turn with
  | stays stage =>
    rw [append_of_silent (List.forall_mem_nil _)]
    exact underway_of_conversation sofar (by rw [stage]; rfl)
  | refused stage cancelled =>
    rw [append_of_silent (List.forall_mem_nil _)]
    exact sofar
  | begins stage goingOn => simp [Occurrence.isBeginning] at within
  | asksPolicy stage withheld outside =>
    rw [underway_of_reading isPending stage underway [] (by simp),
      Underway, stage]
    rfl
  | reads stage read outside =>
    rw [underway_of_reading isPending stage underway [_]
      (List.forall_mem_singleton.2 rfl)]
    cases read with
    | error error => exact Conversation.reads (.error error)
    | ok policy =>
      cases idle : Loop.idleReport? policy with
      | some report =>
        rw [Loop.afterReading_idle idle]
        exact Conversation.reads (.ok policy)
      | none =>
        rw [Loop.afterReading_busy idle]
        exact ⟨idle, _, [], .here _, rfl, fun _ => rfl⟩
  | breaksOff stage cancelled =>
    rw [append_of_silent (List.forall_mem_nil _)]
    exact sofar
  | evaluates stage goingOn withheld reaches outside =>
    obtain ⟨busy, sinceSwitch, whole, reached, saidFact⟩ :=
      underway_of_evaluating isPending stage underway reaches
    exact ⟨busy, sinceSwitch, whole, reached, saidFact, by simp⟩
  | @concludes policy began rest stage goingOn exchanges result
      reaches outside =>
    -- What was said is the whole dialogue now, and the stage no longer tells
    -- which one it was.
    obtain ⟨busy, sinceSwitch, whole, reached, saidFact⟩ :=
      underway_of_evaluating isPending stage underway reaches
    obtain ⟨_, _, stageFact⟩ := loop.stage_afterEvaluation policy began result
    have timing : (loop.afterEvaluation policy began result).timing =
        loop.timing :=
      congrArg (·.1) (loop.settings_afterEvaluation policy began result)
    rw [← said_done exchanges result, saidFact]
    refine underway_of_conversation ?_ (by rw [stageFact]; rfl)
    rw [timing]
    exact conversation_of_reaches busy reached
  | records stage withheld outside =>
    rw [append_of_silent (List.forall_mem_singleton.2 rfl)]
    exact sofar
  | @announces interval report stage kept outside =>
    obtain ⟨_, stageFact⟩ := loop.stage_afterReport around.now interval
    have timing : (loop.afterReport around.now interval).timing = loop.timing :=
      congrArg (·.1) (loop.settings_afterReport around.now interval)
    rw [append_of_silent
      (by simp [Occurrence.isConversation, Occurrence.isOfEvaluation,
      Request.isForEvaluation])]
    exact underway_of_conversation (timing.symm ▸ sofar)
      (by rw [stageFact]; rfl)
  | leaves stage cancelled =>
    rw [append_of_silent (List.forall_mem_singleton.2 rfl)]
    exact sofar
  | lags stage goingOn behind =>
    rw [append_of_silent (List.forall_mem_singleton.2 rfl)]
    exact sofar
  | @hears deadline stage goingOn keepsUp skipped later notice unread
      statuses relevant =>
    rw [append_of_silent (List.forall_mem_singleton.2 rfl)]
    cases notice <;> exact sofar
  | rests stage goingOn keepsUp statuses early =>
    rw [append_of_silent (List.forall_mem_singleton.2 rfl)]
    exact underway_of_conversation sofar (by rw [stage]; rfl)
  | timesOut stage goingOn keepsUp statuses due =>
    rw [append_of_silent (List.forall_mem_singleton.2 rfl)]
    exact sofar

end Turns

namespace Course

/-- Whether every cycle that is over was a conversation, and the last one is
what the loop's stage says. -/
def InCycles (course : Course Outside) : Prop :=
  (cyclesOf course.log = [] ∧
      (course.loop.stage = .opening ∨ course.loop.stage.isOver = true)) ∨
    ∃ current earlier, cyclesOf course.log = current :: earlier ∧
      Underway course.loop course.isPending (conversation current) ∧
      ∀ cycle ∈ earlier, Conversation course.loop.timing (conversation cycle)

section Changes

variable {parties : Parties Outside} {course after : Course Outside}

theorem InCycles.conversations (inCycles : course.InCycles) :
    ∀ cycle ∈ cyclesOf course.log,
      Conversation course.loop.timing (conversation cycle) := by
  rcases inCycles with
    ⟨none, -⟩ | ⟨current, earlier, cycles, underway, earlierFact⟩
  · simp [none]
  · rw [cycles]
    intro cycle member
    rcases List.mem_cons.1 member with rfl | member
    · exact underway.conversation
    · exact earlierFact cycle member

/-- What is no beginning and says nothing, while the loop does nothing, changes
no conversation. -/
theorem InCycles.grows (inCycles : course.InCycles) {later : List Entry}
    (loop : after.loop = course.loop)
    (isPending : after.isPending = course.isPending)
    (log : after.log = course.log ++ later)
    (within : ∀ entry ∈ later, entry.what.isBeginning = false)
    (silent : conversation (later.map Entry.what) = []) : after.InCycles := by
  unfold InCycles
  rw [loop, isPending, log]
  rcases inCycles with
    ⟨none, stage⟩ | ⟨current, earlier, cycles, underway, earlierFact⟩
  · exact .inl ⟨cyclesOf_append_of_nil none within, stage⟩
  · refine .inr ⟨_, earlier, cyclesOf_append cycles within, ?_, earlierFact⟩
    have same : conversation (current ++ later.map Entry.what) =
        conversation current := by
      rw [conversation, List.filter_append]
      exact (congrArg (conversation current ++ ·) silent).trans
        (List.append_nil _)
    rw [same]
    exact underway

theorem InCycles.turn (inCycles : course.InCycles) {loop : Loop}
    {around : Surroundings Outside} {goesOn : Bool} {shown : List Occurrence}
    (turn : Turn parties course.loop course.around loop around goesOn shown) :
    (course.turned loop around goesOn shown).InCycles := by
  have timing : loop.timing = course.loop.timing :=
    congrArg (·.1) turn.settings_eq
  rcases turn.begins_or_within with ⟨rfl, rfl, stage, stageAfter⟩ | within
  · refine .inr ⟨[], cyclesOf course.log, ?_, ?_, ?_⟩
    · have begun : news course.isPending [.began] = [.began] := by
        cases course.isPending <;> rfl
      simp only [Course.turned, note, begun]
      exact cyclesOf_append_began _ _
    · simp only [Course.turned, Underway, stageAfter]
      rfl
    · simp only [Course.turned, timing]
      exact inCycles.conversations
  · have within' := forall_news within course.isPending course.around.now
    have what :
        ((news course.isPending shown).map (Entry.mk course.around.now)).map
          Entry.what =
        news course.isPending shown := by
      rw [List.map_map]
      exact List.map_id _
    rcases inCycles with
      ⟨none, stage⟩ | ⟨current, earlier, cycles, underway, earlierFact⟩
    · exact .inl ⟨cyclesOf_append_of_nil none within',
        .inr (turn.isOver_of_within stage within)⟩
    · refine .inr ⟨_, earlier, cyclesOf_append cycles within', ?_, ?_⟩
      · rw [what, conversation, List.filter_append]
        exact turn.underway underway within
      · simp only [Course.turned, timing]
        exact earlierFact

theorem Change.inCycles (change : Change parties course after)
    (inCycles : course.InCycles) :
    after.InCycles := by
  cases change with
  | turned turn => exact inCycles.turn turn
  | noticed notice =>
    exact inCycles.grows rfl rfl rfl (List.forall_mem_singleton.2 rfl) rfl
  | cancelled =>
    exact inCycles.grows rfl rfl rfl (List.forall_mem_singleton.2 rfl) rfl
  | passed stage keepsUp unread statusOnly =>
    exact inCycles.grows rfl rfl (List.append_nil _).symm (by simp) rfl
  | quiet now outside own =>
    exact inCycles.grows rfl rfl (List.append_nil _).symm (by simp) rfl

end Changes

end Course

variable (parties : Parties Outside) (timing : Timing) (locale : Locale)
  {around : Surroundings Outside}

/-- In every run, all the calls of a cycle are made before its report, and what
is said up to it is orderly. -/
theorem cycles_orderly (sound : around.bus.Sound)
    (moves : List (Course.Move Outside)) :
    ∀ cycle ∈ cyclesOf
      ((Course.start timing locale around).play parties moves).log,
      callsOf cycle = callsOf (conversation cycle) ∧
        Orderly timing (conversation cycle) := by
  have startSound := Course.sound_start timing locale sound
  have start : (Course.start timing locale around).InCycles ∧
      (Course.start timing locale around).loop.timing = timing :=
    ⟨.inl ⟨rfl, .inl rfl⟩, rfl⟩
  obtain ⟨inCycles, timingFact⟩ := startSound.play_keeps
    (fun reached => reached.InCycles ∧ reached.loop.timing = timing)
    (fun _ change kept =>
      ⟨change.inCycles kept.1, change.timing_eq.trans kept.2⟩) start moves
  intro cycle member
  have conversationFact : Conversation timing (conversation cycle) :=
    timingFact ▸ inCycles.conversations cycle member
  exact ⟨(callsOf_conversation cycle).symm,
    orderly_of_conversation conversationFact⟩

/-- A cycle in which a move is made and never shows up. -/
theorem cycles_orderly_of_unconfirmed_move :
    let policy : Policy :=
      { Policy.initial with
        enabled := true, candidates := NameSet.ofList ["A"] }
    let group : Group :=
      ⟨"GLOBAL", "B", [⟨"A", "", .stable 50⟩, ⟨"B", "", .stable 500⟩]⟩
    let course := (Course.start .usual .en (.fresh Bus.usualCapacity)).play
      (obliging policy group) (List.replicate 5 .step)
    (cyclesOf course.log).map callsOf =
        [[probeRequest .usual policy, queryRequest policy, .apply "GLOBAL" "A",
          queryRequest policy, queryRequest policy, queryRequest policy]] ∧
      ∀ cycle ∈ cyclesOf course.log,
        callsOf cycle = callsOf (conversation cycle) ∧
          Orderly .usual (conversation cycle) :=
  ⟨by decide +kernel, cycles_orderly (obliging _ _) .usual .en
    (sound_fresh Bus.usualCapacity) _⟩

end Switchyard.Control
