import Switchyard.Proofs.Change
import Switchyard.Proofs.Cycles
import Switchyard.Proofs.Outcome

/-!
# What the stretches of a run tell

A stretch of a run in which anything of an evaluation is said tells the whole
evaluation: which policy was read for it and when, and how far its dialogue has
got. Since a confirmed switch shows in its stretch, the earlier stretches also
tell the time since the last switch that the evaluation was given, and the last
switch that the loop remembers is always the latest one that its log shows.
-/

namespace Switchyard.Control

open Routine (Exchange Reaches)

variable {Outside : Type}

/-- Nothing of an evaluation was said, and no policy was read. -/
def Quiet (entries : List Entry) : Prop :=
  ∀ entry ∈ entries,
    entry.what.isOfEvaluation = false ∧ entry.what.policy? = none

/-- A policy was read at some moment, and nothing of an evaluation was said
before. -/
def Begins (stretch : List Entry) (began : Nat) (policy : Policy) : Prop :=
  ∃ former later,
    stretch = former ++ ⟨began, .answered .readPolicy (.ok policy)⟩ :: later ∧
    Quiet former

theorem Quiet.append {former latter : List Entry} (formerQuiet : Quiet former)
    (latterQuiet : Quiet latter) : Quiet (former ++ latter) :=
  List.forall_mem_append.2 ⟨formerQuiet, latterQuiet⟩

theorem quiet_news {shown : List Occurrence}
    (silent : ∀ occurrence ∈ shown, occurrence.isOfEvaluation = false ∧
      occurrence.policy? = none)
    (isPending : Bool) (now : Nat) :
    Quiet ((news isPending shown).map (Entry.mk now)) :=
  forall_news silent isPending now

theorem Quiet.dialogueOf_eq {entries : List Entry} (quiet : Quiet entries) :
    dialogueOf entries = [] :=
  dialogueOf_eq_nil.2 fun entry member => (quiet entry member).1

theorem Quiet.dialogueOf_append (stretch : List Entry) {later : List Entry}
    (quiet : Quiet later) :
    dialogueOf (stretch ++ later) = dialogueOf stretch := by
  rw [Control.dialogueOf_append, quiet.dialogueOf_eq, List.append_nil]

theorem Quiet.beginning?_eq {entries : List Entry} (quiet : Quiet entries) :
    beginning? entries = none :=
  List.findSome?_eq_none_iff.2 fun entry member => by
    rw [(quiet entry member).2]; rfl

section Beginnings

variable {stretch : List Entry} {began : Nat} {policy : Policy}

theorem Begins.append (begins : Begins stretch began policy)
    (later : List Entry) :
    Begins (stretch ++ later) began policy := by
  obtain ⟨former, after, rfl, quiet⟩ := begins
  exact ⟨former, after ++ later, by simp, quiet⟩

theorem Quiet.begins (quiet : Quiet stretch) (isPending : Bool) (now : Nat)
    (policy : Policy) :
    Begins (stretch ++ (news isPending
      [.asked .readPolicy, .answered .readPolicy (.ok policy)]).map
        (Entry.mk now)) now policy := by
  cases isPending with
  | true => exact ⟨stretch, [], rfl, quiet⟩
  | false =>
    exact ⟨stretch ++ [⟨now, .asked .readPolicy⟩], [], by simp [news],
      quiet.append (List.forall_mem_singleton.2 ⟨rfl, rfl⟩)⟩

theorem Begins.beginning?_eq (begins : Begins stretch began policy) :
    beginning? stretch = some (began, policy) := by
  obtain ⟨former, later, rfl, quiet⟩ := begins
  rw [beginning?, List.findSome?_append]
  exact congrArg (Option.or · _) quiet.beginning?_eq

/-- All that is said in an evaluation is said at or after its beginning. -/
theorem Begins.le_moment (begins : Begins stretch began policy)
    (chronological : Chronological stretch) {entry : Entry}
    (member : entry ∈ stretch)
    (ofEvaluation : entry.what.isOfEvaluation = true) :
    began ≤ entry.moment := by
  obtain ⟨former, later, rfl, quiet⟩ := begins
  rcases List.mem_append.1 member with before | onward
  · rw [(quiet entry before).1] at ofEvaluation
    cases ofEvaluation
  rcases List.mem_cons.1 onward with rfl | after
  · exact Nat.le_refl _
  · exact (List.pairwise_cons.1 (List.pairwise_append.1 chronological).2.1).1
      entry after

theorem switchedAt?_eq (stretch : List Entry) :
    switchedAt? stretch =
      if confirms (dialogueOf stretch) then (beginning? stretch).map Prod.fst
      else none := by
  rw [switchedAt?, isSome_confirmedAt?, confirms_dialogueOf]

theorem switchedAt?_of_silent (silent : dialogueOf stretch = []) :
    switchedAt? stretch = none := by
  rw [switchedAt?_eq, silent]
  rfl

theorem switchedAt?_append (stretch : List Entry) {later : List Entry}
    (quiet : Quiet later) :
    switchedAt? (stretch ++ later) = switchedAt? stretch := by
  have same : beginning? (stretch ++ later) = beginning? stretch := by
    rw [beginning?, List.findSome?_append, ← beginning?, ← beginning?,
      quiet.beginning?_eq, Option.or_none]
  rw [switchedAt?_eq, switchedAt?_eq, same, quiet.dialogueOf_append]

theorem latestSwitch?_cons (stretch : List Entry) (older : List (List Entry)) :
    latestSwitch? (stretch :: older) =
      (switchedAt? stretch).or (latestSwitch? older) := by
  unfold latestSwitch?
  rw [List.findSome?_cons]
  cases switchedAt? stretch <;> rfl

end Beginnings

/-- What a stretch tells, where the latest switch before it is known: nothing of
an evaluation, or a dialogue of the evaluation of the policy that was read in
it. -/
inductive Account (timing : Timing) (last : Option Nat) (stretch : List Entry) :
    Prop where
  | silent (silent : dialogueOf stretch = [])
  | evaluates {began : Nat} {policy : Policy}
    {exchanges : List (Exchange Request.Answer)}
    {rest : Work (Except ControllerError Evaluation)}
    (begins : Begins stretch began policy)
    (reaches : Reaches
      (evaluate timing policy (last.map fun last => began - last))
      exchanges rest)
    (dialogue : dialogueOf stretch = said exchanges rest)

section Accounts

variable {timing : Timing} {last : Option Nat} {stretch : List Entry}

/-- A move in a stretch was decided on for the group that was found, with the
policy that was read and the time that the evaluation was given. -/
theorem Account.of_move (account : Account timing last stretch) {moment : Nat}
    {proxy : String} (moved : (moment, proxy) ∈ movesOf stretch) :
    ∃ began policy answer plan,
      Begins stretch began policy ∧ queried? stretch = some answer ∧
      Decision.decide policy answer (last.map fun last => began - last)
        timing.minImprovement.toNat = .move plan ∧
      proxy = plan.target.name := by
  obtain ⟨entry, member, -, group, asked⟩ := mem_movesOf.1 moved
  have spoken : .asked (.apply group proxy) ∈ dialogueOf stretch :=
    mem_dialogueOf.2 ⟨rfl, entry, member, asked⟩
  cases account with
  | silent silent =>
    rw [silent] at spoken
    cases spoken
  | @evaluates began policy exchanges rest begins reaches dialogue =>
    rw [dialogue] at spoken
    obtain ⟨answer, plan, found, decided, target⟩ :=
      decided_of_apply reaches spoken
    refine ⟨began, policy, answer, plan, begins, ?_, decided, target⟩
    rw [queried?_eq, dialogue, found]

/-- What is written in a stretch is left of a stored policy that was read
before, for a group that was found before. -/
theorem Account.of_write {former latter : List Entry} {entry : Entry}
    {narrower : Policy}
    (account : Account timing last (former ++ entry :: latter))
    (written : entry.what = .asked (.writePolicy narrower)) :
    ∃ group stored, (∃ found ∈ former, found.what.group? = some group) ∧
      (∃ read ∈ former, read.what = .answered .readStored (.ok stored)) ∧
      narrowed? stored group.memberNames = some narrower := by
  have spoken : dialogueOf (former ++ entry :: latter) =
      dialogueOf former ++ .asked (.writePolicy narrower) ::
        dialogueOf latter := by
    rw [dialogueOf_append, ← written]
    exact congrArg _ (List.filter_cons_of_pos (by rw [written]; rfl))
  cases account with
  | silent silent => simp [spoken] at silent
  | evaluates begins reaches dialogue =>
    obtain ⟨before, resume, reached, toldFact⟩ :=
      exists_reaches_of_asked reaches (dialogue.symm.trans spoken)
    obtain ⟨group, stored, found, read, left⟩ := stored_of_write reached
    rw [toldFact] at found read
    obtain ⟨-, query, queryMember, queryFact⟩ := mem_dialogueOf.1 found
    obtain ⟨-, reading, readingMember, readingFact⟩ := mem_dialogueOf.1 read
    exact ⟨group, stored, ⟨query, queryMember, by rw [queryFact]; rfl⟩,
      ⟨reading, readingMember, readingFact⟩, left⟩

/-- A stretch with a confirmed switch has a beginning, which the poll does not
precede. -/
theorem Account.of_confirmed (account : Account timing last stretch)
    {confirmed : Nat} (confirmedFact : confirmedAt? stretch = some confirmed)
    (chronological : Chronological stretch) :
    ∃ began, switchedAt? stretch = some began ∧ began ≤ confirmed := by
  obtain ⟨poll, member, rfl, proxy, shown⟩ :=
    exists_of_confirmedAt? confirmedFact
  have ofEvaluation := isOfEvaluation_of_shows shown
  cases account with
  | silent silent =>
    exact absurd ofEvaluation (by simp [dialogueOf_eq_nil.1 silent poll member])
  | @evaluates began policy exchanges rest begins reaches dialogue =>
    refine ⟨began, ?_, begins.le_moment chronological member ofEvaluation⟩
    rw [switchedAt?, confirmedFact, begins.beginning?_eq]
    rfl

end Accounts

/-- What the stretch in progress tells at the stage that the loop has got to. -/
def Telling (loop : Loop) (isPending : Bool) (last : Option Nat)
    (stretch : List Entry) : Prop :=
  match loop.stage with
  | .reading => Quiet stretch
  | .evaluating policy began rest =>
    Begins stretch began policy ∧ ∃ exchanges,
      Reaches (evaluate loop.timing policy (last.map fun last => began - last))
        exchanges rest ∧ dialogueOf stretch =
          told exchanges ++ (if isPending then awaited rest else []) ∧
        (isPending = false → exchanges = []) ∧ switchedAt? stretch = none
  | _ => Account loop.timing last stretch

/-- What the stretch in progress tells, and that the loop remembers the switch
that it shows, or else the latest one before. -/
structure Followed (loop : Loop) (isPending : Bool) (last : Option Nat)
    (stretch : List Entry) :
    Prop where
  telling : Telling loop isPending last stretch
  lastSwitch : loop.lastSwitch = (switchedAt? stretch).or last

section Tellings

variable {loop after : Loop} {isPending : Bool} {last : Option Nat}
  {stretch : List Entry}

theorem Account.append {timing : Timing} (account : Account timing last stretch)
    {later : List Entry} (quiet : Quiet later) :
    Account timing last (stretch ++ later) := by
  have same := quiet.dialogueOf_append stretch
  cases account with
  | silent silent => exact .silent (same.trans silent)
  | evaluates begins reaches dialogue =>
    exact .evaluates (begins.append later) reaches (same.trans dialogue)

theorem Telling.account (telling : Telling loop isPending last stretch) :
    Account loop.timing last stretch := by
  cases stage : loop.stage with
  | reading =>
    rw [Telling, stage] at telling
    exact .silent telling.dialogueOf_eq
  | evaluating policy began rest =>
    rw [Telling, stage] at telling
    obtain ⟨begins, exchanges, reaches, dialogue, unasked, -⟩ := telling
    cases isPending with
    | true => exact .evaluates begins reaches dialogue
    | false =>
      rw [unasked rfl] at dialogue
      exact .silent dialogue
  | _ => rw [Telling, stage] at telling; exact telling

theorem telling_of_account (account : Account loop.timing last stretch)
    (neither : loop.stage.isConversing = false) :
    Telling loop isPending last stretch := by
  cases stage : loop.stage with
  | reading =>
    rw [stage] at neither
    cases neither
  | evaluating policy began rest =>
    rw [stage] at neither
    cases neither
  | _ => rw [Telling, stage]; exact account

theorem Telling.append (telling : Telling loop isPending last stretch)
    {later : List Entry} (quiet : Quiet later) :
    Telling loop isPending last (stretch ++ later) := by
  have same := quiet.dialogueOf_append stretch
  cases stage : loop.stage with
  | reading =>
    rw [Telling, stage] at telling ⊢
    exact telling.append quiet
  | evaluating policy began rest =>
    rw [Telling, stage] at telling ⊢
    obtain ⟨begins, exchanges, reaches, dialogue, unasked, unswitched⟩ :=
      telling
    exact ⟨begins.append later, exchanges, reaches,
      same.trans dialogue, unasked,
      (switchedAt?_append stretch quiet).trans unswitched⟩
  | _ => rw [Telling, stage] at telling ⊢; exact telling.append quiet

theorem Followed.append (followed : Followed loop isPending last stretch)
    {later : List Entry} (quiet : Quiet later) :
    Followed loop isPending last (stretch ++ later) :=
  ⟨followed.telling.append quiet,
    followed.lastSwitch.trans
      (congrArg (Option.or · last) (switchedAt?_append stretch quiet).symm)⟩

end Tellings

/-! ## What a turn adds -/

namespace Loop

theorem lastSwitch_afterReading (loop : Loop) (now : Nat)
    (read : Except StoreError Policy) :
    (loop.afterReading now read).lastSwitch = loop.lastSwitch := by
  cases read with
  | error error => rfl
  | ok policy =>
    cases idle : idleReport? policy with
    | some report => rw [afterReading_idle idle]; rfl
    | none => rw [afterReading_busy idle]

theorem lastSwitch_afterEvaluation (loop : Loop) (policy : Policy) (began : Nat)
    {result : Except ControllerError Evaluation} {isSwitch : Bool}
    (verdict : isSwitch = true ↔ ∃ report, result = .ok ⟨.switched, report⟩) :
    (loop.afterEvaluation policy began result).lastSwitch =
      (if isSwitch then some began else none).or loop.lastSwitch := by
  cases isSwitch with
  | true =>
    obtain ⟨report, rfl⟩ := verdict.1 rfl
    rfl
  | false =>
    have unswitched :=
      fun report same => Bool.false_ne_true (verdict.2 ⟨report, same⟩)
    rcases result with error | ⟨_ | _ | _, report⟩
    · rfl
    · rfl
    · exact absurd rfl (unswitched report)
    · rfl

theorem lastSwitch_afterReport (loop : Loop) (now : Nat)
    (interval : Option Nat) :
    (loop.afterReport now interval).lastSwitch = loop.lastSwitch := by
  cases interval <;> rfl

theorem lastSwitch_afterWait (loop : Loop) (wake : Wake) :
    (loop.afterWait wake).lastSwitch = loop.lastSwitch := by
  cases wake with
  | event notice => simp only [afterWait]; split <;> rfl
  | _ => rfl

end Loop

section Turns

variable {parties : Parties Outside} {loop after : Loop}
  {around next : Surroundings Outside} {goesOn isPending : Bool}
  {shown : List Occurrence} {last : Option Nat} {stretch : List Entry}

/-- Where nothing of an evaluation is said and no policy is read, a loop that
neither reads nor evaluates has the account that it had. -/
theorem Followed.settle (followed : Followed loop isPending last stretch)
    (silent : ∀ occurrence ∈ shown, occurrence.isOfEvaluation = false ∧
      occurrence.policy? = none)
    (timing : after.timing = loop.timing)
    (unchanged : after.lastSwitch = loop.lastSwitch)
    (neither : after.stage.isConversing = false)
    {isPendingAfter : Bool} {now : Nat} :
    Followed after isPendingAfter last
      (stretch ++ (news isPending shown).map (Entry.mk now)) := by
  have longer := followed.append (quiet_news silent isPending now)
  refine ⟨telling_of_account ?_ neither, unchanged.trans longer.lastSwitch⟩
  rw [timing]
  exact longer.telling.account

/-- Only the end of an evaluation changes the last switch. -/
theorem Turn.lastSwitch_eq
    (turn : Turn parties loop around after next goesOn shown)
    (stage : loop.stage.isConversing = false) :
    after.lastSwitch = loop.lastSwitch := by
  cases turn with
  | reads stage read outside => exact loop.lastSwitch_afterReading _ _
  | concludes evaluating goingOn reaches outside =>
    rw [evaluating] at stage
    cases stage
  | announces stage kept outside => exact loop.lastSwitch_afterReport _ _
  | hears stage goingOn keepsUp unread statuses relevant =>
    exact loop.lastSwitch_afterWait _
  | _ => rfl

/-- An evaluation that is carried on tells its longer dialogue. -/
theorem Telling.resume {policy : Policy} {began : Nat}
    {rest later : Work (Except ControllerError Evaluation)}
    {exchanges : List (Exchange Request.Answer)}
    (telling : Telling loop isPending last stretch)
    (stage : loop.stage = .evaluating policy began rest)
    (reaches : Reaches rest exchanges later) (now : Nat) :
    let longer :=
      stretch ++ (news isPending (said exchanges later)).map (Entry.mk now)
    Begins longer began policy ∧ switchedAt? stretch = none ∧ ∃ whole,
      Reaches (evaluate loop.timing policy (last.map fun last => began - last))
        whole later ∧ dialogueOf longer = said whole later := by
  rw [Telling, stage] at telling
  obtain ⟨begins, before, reached, dialogue, -, unswitched⟩ := telling
  have uses : rest.Uses (·.isForEvaluation = true) :=
    (uses_evaluate _ _ _).reached reached
  refine ⟨begins.append _, unswitched, before ++ exchanges,
    reached.trans reaches, ?_⟩
  have whole :
      (news isPending (said exchanges later)).filter Occurrence.isOfEvaluation =
      news isPending (said exchanges later) :=
    List.filter_eq_self.2 fun occurrence member =>
      isOfEvaluation_of_said uses reaches occurrence (mem_of_mem_news member)
  rw [dialogueOf_append, dialogue, dialogueOf_map, whole, List.append_assoc,
    said_of_resumed reaches, said_append]

theorem switchedAt?_of_said {policy : Policy} {began : Nat}
    {exchanges : List (Exchange Request.Answer)}
    {rest : Work (Except ControllerError Evaluation)}
    (begins : Begins stretch began policy)
    (dialogue : dialogueOf stretch = said exchanges rest) :
    switchedAt? stretch = if confirms (said exchanges rest) then some began
      else none := by
  rw [switchedAt?_eq, dialogue, begins.beginning?_eq]
  rfl

/-- The policy that was read is the one that is evaluated, if any is. -/
theorem Followed.read (followed : Followed loop isPending last stretch)
    (stage : loop.stage = .reading) (read : Except StoreError Policy)
    (now : Nat) :
    Followed (loop.afterReading now read) false last (stretch ++
      (news isPending [.asked .readPolicy, .answered .readPolicy read]).map
        (Entry.mk now)) := by
  obtain ⟨telling, lastSwitch⟩ := followed
  rw [Telling, stage] at telling
  rw [switchedAt?_of_silent telling.dialogueOf_eq] at lastSwitch
  have silent : dialogueOf (stretch ++ (news isPending
      [.asked .readPolicy, .answered .readPolicy read]).map (Entry.mk now)) =
        [] := by
    rw [dialogueOf_append, telling.dialogueOf_eq, dialogueOf_map]
    cases isPending <;> rfl
  refine ⟨?_,
    by
      rw [switchedAt?_of_silent silent,
        loop.lastSwitch_afterReading, lastSwitch]⟩
  cases read with
  | error error => exact Account.silent silent
  | ok policy =>
    cases idle : Loop.idleReport? policy with
    | some report =>
      rw [Loop.afterReading_idle idle]
      exact Account.silent silent
    | none =>
      rw [Loop.afterReading_busy idle]
      refine ⟨telling.begins _ _ _, [], ?_, silent, fun _ => rfl,
        switchedAt?_of_silent silent⟩
      rw [lastSwitch]
      exact .here _

section Evaluating

variable {policy : Policy} {began : Nat}
  {work : Work (Except ControllerError Evaluation)}
  {exchanges : List (Exchange Request.Answer)}

/-- No switch shows as long as an answer is waited for. -/
theorem Followed.suspend (followed : Followed loop isPending last stretch)
    (stage : loop.stage = .evaluating policy began work) {request : Request}
    {resume : request.Answer → Work (Except ControllerError Evaluation)}
    (reaches : Reaches work exchanges (.ask request resume)) (now : Nat) :
    Followed { loop with
        stage := .evaluating policy began (.ask request resume) } true last
      (stretch ++
        (news isPending (said exchanges (.ask request resume : Work _))).map
          (Entry.mk now)) := by
  obtain ⟨begins, unswitched, whole, reached, dialogue⟩ :=
    followed.telling.resume stage reaches now
  have unconfirmed :
      ¬ confirms (said whole (.ask request resume : Work _)) = true := by
    simp [confirms_evaluate reached]
  have still := switchedAt?_of_said begins dialogue
  rw [if_neg unconfirmed] at still
  refine ⟨⟨begins, whole, reached, dialogue, by simp, still⟩, ?_⟩
  rw [still, ← unswitched]
  exact followed.lastSwitch

/-- At the end of an evaluation its verdict and its polls say the same about
whether there was a switch. -/
theorem Followed.conclude (followed : Followed loop isPending last stretch)
    (stage : loop.stage = .evaluating policy began work)
    {result : Except ControllerError Evaluation}
    (reaches : Reaches work exchanges (.done result)) (now : Nat) :
    Followed (loop.afterEvaluation policy began result) false last
      (stretch ++ (news isPending (told exchanges)).map (Entry.mk now)) := by
  obtain ⟨begins, unswitched, whole, reached, dialogue⟩ :=
    followed.telling.resume stage reaches now
  have lastSwitch := followed.lastSwitch
  rw [unswitched] at lastSwitch
  have verdict : confirms (said whole (.done result : Work _)) = true ↔
      ∃ report, result = .ok ⟨.switched, report⟩ :=
    (confirms_evaluate reached).trans (by simp)
  have timing : (loop.afterEvaluation policy began result).timing =
      loop.timing :=
    congrArg (·.1) (loop.settings_afterEvaluation policy began result)
  obtain ⟨_, _, stageFact⟩ := loop.stage_afterEvaluation policy began result
  rw [← said_done exchanges result]
  refine ⟨telling_of_account ?_ (by rw [stageFact]; rfl), ?_⟩
  · rw [timing]
    exact .evaluates begins reached dialogue
  · rw [switchedAt?_of_said begins dialogue,
      loop.lastSwitch_afterEvaluation _ _ verdict, lastSwitch, Option.none_or]

end Evaluating

theorem Turn.followed (turn : Turn parties loop around after next goesOn shown)
    (followed : Followed loop isPending last stretch)
    (within : ∀ occurrence ∈ shown, occurrence.isBeginning = false) :
    Followed after (!goesOn) last
      (stretch ++ (news isPending shown).map (Entry.mk around.now)) := by
  cases turn with
  | stays stage =>
    exact followed.settle (List.forall_mem_nil _) rfl rfl (by rw [stage]; rfl)
  | refused stage cancelled =>
    refine followed.settle (List.forall_mem_nil _) ?_ ?_ ?_ <;> rfl
  | begins stage goingOn => simp [Occurrence.isBeginning] at within
  | asksPolicy stage withheld outside =>
    have quiet :
        Quiet ((news isPending [.asked .readPolicy]).map
          (Entry.mk around.now)) :=
      quiet_news (List.forall_mem_singleton.2 ⟨rfl, rfl⟩) _ _
    obtain ⟨telling, lastSwitch⟩ := followed.append quiet
    refine ⟨?_, lastSwitch⟩
    rw [Telling, stage] at telling ⊢
    exact telling
  | reads stage read outside => exact followed.read stage read around.now
  | breaksOff stage cancelled =>
    refine followed.settle (List.forall_mem_nil _) ?_ ?_ ?_ <;> rfl
  | evaluates stage goingOn withheld reaches outside =>
    exact followed.suspend stage reaches around.now
  | concludes stage goingOn reaches outside =>
    exact followed.conclude stage reaches around.now
  | records stage withheld outside =>
    refine followed.settle (List.forall_mem_singleton.2 ⟨rfl, rfl⟩)
      ?_ ?_ ?_ <;> rfl
  | @announces interval report stage kept outside =>
    obtain ⟨_, stageFact⟩ := loop.stage_afterReport around.now interval
    have timing :=
      congrArg (·.1) (loop.settings_afterReport around.now interval)
    refine followed.settle ?_ timing (loop.lastSwitch_afterReport _ _)
      (by rw [stageFact]; rfl)
    simp [Occurrence.isOfEvaluation, Occurrence.policy?,
      Request.isForEvaluation]
  | leaves stage cancelled =>
    refine followed.settle (List.forall_mem_singleton.2 ⟨rfl, rfl⟩)
      ?_ ?_ ?_ <;> rfl
  | lags stage goingOn behind =>
    refine followed.settle (List.forall_mem_singleton.2 ⟨rfl, rfl⟩)
      ?_ ?_ ?_ <;> rfl
  | @hears deadline stage goingOn keepsUp skipped later notice unread
      statuses relevant =>
    refine followed.settle (List.forall_mem_singleton.2 ⟨rfl, rfl⟩)
      (congrArg (·.1) (loop.settings_afterWait (.event notice)))
      (loop.lastSwitch_afterWait _) ?_
    cases notice <;> rfl
  | rests stage goingOn keepsUp statuses early =>
    exact followed.settle (List.forall_mem_singleton.2 ⟨rfl, rfl⟩) rfl rfl
      (by rw [stage]; rfl)
  | timesOut stage goingOn keepsUp statuses due =>
    refine followed.settle (List.forall_mem_singleton.2 ⟨rfl, rfl⟩)
      ?_ ?_ ?_ <;> rfl

end Turns

namespace Course

/-- Whether every stretch that is over has its account, and the stretch in
progress is followed. -/
def Accounted (course : Course Outside) : Prop :=
  ∃ current earlier, stretchesOf course.log = current :: earlier ∧
    Followed course.loop course.isPending (latestSwitch? earlier) current ∧
    ∀ newer stretch older, earlier = newer ++ stretch :: older →
      Account course.loop.timing (latestSwitch? older) stretch

section Changes

variable {parties : Parties Outside} {course after : Course Outside}

theorem Accounted.lastSwitch (accounted : course.Accounted) :
    course.loop.lastSwitch = latestSwitch? (stretchesOf course.log) := by
  obtain ⟨current, earlier, stretches, followed, -⟩ := accounted
  rw [stretches, latestSwitch?_cons, followed.lastSwitch]

theorem Accounted.account (accounted : course.Accounted)
    {newer older : List (List Entry)} {stretch : List Entry}
    (split : stretchesOf course.log = newer ++ stretch :: older) :
    Account course.loop.timing (latestSwitch? older) stretch := by
  obtain ⟨current, earlier, stretches, followed, earlierFact⟩ := accounted
  rw [stretches] at split
  rcases List.cons_eq_append_iff.1 split with ⟨rfl, same⟩ | ⟨newer, rfl, among⟩
  · obtain ⟨rfl, rfl⟩ := List.cons.inj same
    exact followed.telling.account
  · exact earlierFact newer stretch older among

/-- What begins no cycle and says nothing, while the loop does nothing, changes
no account. -/
theorem Accounted.grows (accounted : course.Accounted) {later : List Entry}
    (loop : after.loop = course.loop)
    (isPending : after.isPending = course.isPending)
    (log : after.log = course.log ++ later)
    (within : ∀ entry ∈ later, entry.what.isBeginning = false)
    (quiet : Quiet later) :
    after.Accounted := by
  unfold Accounted
  rw [loop, isPending, log]
  obtain ⟨current, earlier, stretches, followed, earlierFact⟩ := accounted
  exact ⟨_, earlier, stretchesOf_append stretches within,
    followed.append quiet, earlierFact⟩

theorem Accounted.turn (accounted : course.Accounted) {loop : Loop}
    {around : Surroundings Outside} {goesOn : Bool} {shown : List Occurrence}
    (turn : Turn parties course.loop course.around loop around goesOn shown) :
    (course.turned loop around goesOn shown).Accounted := by
  have timing : loop.timing = course.loop.timing :=
    congrArg (·.1) turn.settings_eq
  rcases turn.begins_or_within with ⟨rfl, rfl, stage, stageAfter⟩ | within
  · have unchanged := turn.lastSwitch_eq (by rw [stage]; rfl)
    have begun : news course.isPending [.began] = [.began] := by
      cases course.isPending <;> rfl
    refine ⟨[], stretchesOf course.log, ?_,
      ⟨?_, unchanged.trans accounted.lastSwitch⟩, ?_⟩
    · simp only [Course.turned, note, begun]
      exact stretchesOf_append_began _ _
    · simp only [Course.turned, Telling, stageAfter]
      exact List.forall_mem_nil _
    · simp only [Course.turned, timing]
      exact fun newer stretch older split => accounted.account split
  · obtain ⟨current, earlier, stretches, followed, earlierFact⟩ := accounted
    refine ⟨_, earlier,
      stretchesOf_append stretches
        (forall_news within course.isPending course.around.now),
      turn.followed followed within, ?_⟩
    simp only [Course.turned, timing]
    exact earlierFact

theorem Change.accounted (change : Change parties course after)
    (accounted : course.Accounted) :
    after.Accounted := by
  cases change with
  | turned turn => exact accounted.turn turn
  | noticed notice =>
    exact accounted.grows rfl rfl rfl (List.forall_mem_singleton.2 rfl)
      (List.forall_mem_singleton.2 ⟨rfl, rfl⟩)
  | cancelled =>
    exact accounted.grows rfl rfl rfl (List.forall_mem_singleton.2 rfl)
      (List.forall_mem_singleton.2 ⟨rfl, rfl⟩)
  | passed stage keepsUp unread statusOnly =>
    exact accounted.grows rfl rfl (List.append_nil _).symm
      (List.forall_mem_nil _) (List.forall_mem_nil _)
  | quiet now outside own =>
    exact accounted.grows rfl rfl (List.append_nil _).symm
      (List.forall_mem_nil _) (List.forall_mem_nil _)

end Changes

theorem accounted_start (timing : Timing) (locale : Locale)
    (around : Surroundings Outside) :
    (start timing locale around).Accounted :=
  ⟨[], [], rfl, ⟨.silent rfl, rfl⟩, by simp⟩

/-- In every run, the log accounts for all evaluations. -/
theorem accounted_play (parties : Parties Outside) (timing : Timing)
    (locale : Locale) {around : Surroundings Outside} (sound : around.bus.Sound)
    (moves : List (Move Outside)) :
    ((start timing locale around).play parties moves).Accounted :=
  (sound_start timing locale sound).play_keeps Accounted
    (fun _ change accounted => change.accounted accounted)
    (accounted_start timing locale around) moves

end Course

end Switchyard.Control
