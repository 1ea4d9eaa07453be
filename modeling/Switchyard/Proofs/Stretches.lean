import Switchyard.Proofs.Change
import Switchyard.Proofs.Conversation

/-!
# Stretches of a run

The beginnings of cycles cut the log of a run into stretches: what came before
the first cycle, and each cycle with its moments. From a stretch alone one can
read when its evaluation began and on which policy, how its group was found, and
at which moment a poll confirmed its switch. The moments of a log never go back,
so every moment of a stretch is at or after every moment of an earlier one.
-/

namespace Switchyard.Control

variable {Outside : Type}

/-- The stretches of a log with one more entry, the last stretch first. -/
def continueStretches (stretches : List (List Entry)) (entry : Entry) :
    List (List Entry) :=
  if entry.what.isBeginning then [] :: stretches
  else
    match stretches with
    | [] => []
    | current :: earlier => (current ++ [entry]) :: earlier

def stretchesOf (log : List Entry) : List (List Entry) :=
  log.foldl continueStretches [[]]

theorem stretchesOf_append_began (log : List Entry) (moment : Nat) :
    stretchesOf (log ++ [⟨moment, .began⟩]) = [] :: stretchesOf log := by
  rw [stretchesOf, List.foldl_append]
  rfl

theorem foldl_continueStretches {current later : List Entry}
    {earlier : List (List Entry)}
    (within : ∀ entry ∈ later, entry.what.isBeginning = false) :
    later.foldl continueStretches (current :: earlier) =
      (current ++ later) :: earlier := by
  induction later generalizing current with
  | nil => simp
  | cons first rest restFact =>
    obtain ⟨inside, restInside⟩ := List.forall_mem_cons.1 within
    have step : continueStretches (current :: earlier) first =
        (current ++ [first]) :: earlier := by
      simp [continueStretches, inside]
    rw [List.foldl_cons, step, restFact restInside, List.append_assoc,
      List.singleton_append]

theorem stretchesOf_append {log current later : List Entry}
    {earlier : List (List Entry)}
    (stretches : stretchesOf log = current :: earlier)
    (within : ∀ entry ∈ later, entry.what.isBeginning = false) :
    stretchesOf (log ++ later) = (current ++ later) :: earlier := by
  have before : log.foldl continueStretches [[]] = current :: earlier :=
    stretches
  rw [stretchesOf, List.foldl_append, before]
  exact foldl_continueStretches within

/-- Whatever comes later, the stretch in progress is continued and the earlier
ones stay. -/
theorem exists_foldl_continueStretches (current later : List Entry)
    (earlier : List (List Entry)) :
    ∃ newer latter, later.foldl continueStretches (current :: earlier) =
      newer ++ (current ++ latter) :: earlier := by
  induction later generalizing current earlier with
  | nil => exact ⟨[], [], by simp⟩
  | cons first rest restFact =>
    rw [List.foldl_cons, continueStretches]
    split
    · obtain ⟨newer, latter, split⟩ := restFact [] (current :: earlier)
      exact ⟨newer ++ [[] ++ latter], [], by rw [split]; simp⟩
    · obtain ⟨newer, latter, split⟩ := restFact (current ++ [first]) earlier
      exact ⟨newer, first :: latter, by rw [split]; simp⟩

theorem exists_stretchesOf (log : List Entry) :
    ∃ current earlier, stretchesOf log = current :: earlier := by
  obtain ⟨newer, latter, split⟩ := exists_foldl_continueStretches [] log []
  rw [stretchesOf, split]
  cases newer with
  | nil => exact ⟨_, _, rfl⟩
  | cons last newer => exact ⟨_, _, rfl⟩

theorem flatten_foldl_sublist (stretches : List (List Entry))
    (log : List Entry) :
    (log.foldl continueStretches stretches).reverse.flatten.Sublist
      (stretches.reverse.flatten ++ log) := by
  induction log generalizing stretches with
  | nil => simp
  | cons first rest restFact =>
    refine (restFact _).trans ?_
    unfold continueStretches
    split
    · simp
    · cases stretches with
      | nil => simp
      | cons current earlier => simp

/-- Where the beginnings are left out, the stretches put together are what is
left of the log. -/
theorem flatten_stretchesOf_sublist (log : List Entry) :
    (stretchesOf log).reverse.flatten.Sublist log :=
  flatten_foldl_sublist [[]] log

theorem suffix_foldl_continueStretches {before current later last : List Entry}
    {earlier older : List (List Entry)} (suffix : current <:+ before)
    (split : later.foldl continueStretches (current :: earlier) =
      last :: older) :
    last <:+ before ++ later := by
  induction later generalizing before current earlier with
  | nil =>
    cases split
    rwa [List.append_nil]
  | cons first rest restFact =>
    rw [List.append_cons]
    rw [List.foldl_cons, continueStretches] at split
    split at split
    · exact restFact List.nil_suffix split
    · exact restFact (List.suffix_append_self_iff.2 suffix) split

/-- The stretch in progress is the end of the log. -/
theorem suffix_of_stretchesOf {log current : List Entry}
    {earlier : List (List Entry)}
    (split : stretchesOf log = current :: earlier) : current <:+ log :=
  @suffix_foldl_continueStretches [] [] log current [] earlier
    List.nil_suffix split

/-- An entry of a log that begins no cycle is in a stretch, and what precedes it
there precedes it in the log without a gap. -/
theorem exists_stretch_of_split {log earlier later : List Entry} {entry : Entry}
    (split : log = earlier ++ entry :: later)
    (inside : entry.what.isBeginning = false) :
    ∃ newer former latter older,
      stretchesOf log = newer ++ (former ++ entry :: latter) :: older ∧
      former <:+ earlier := by
  obtain ⟨former, older, formerFact⟩ := exists_stretchesOf earlier
  have upTo : stretchesOf (earlier ++ [entry]) = (former ++ [entry]) :: older :=
    stretchesOf_append formerFact (List.forall_mem_singleton.2 inside)
  obtain ⟨newer, latter, whole⟩ :=
    exists_foldl_continueStretches (former ++ [entry]) later older
  refine ⟨newer, former, latter, older, ?_, suffix_of_stretchesOf formerFact⟩
  have cut : log = (earlier ++ [entry]) ++ later := by simp [split]
  have before : (earlier ++ [entry]).foldl continueStretches [[]] =
      (former ++ [entry]) :: older :=
    upTo
  rw [cut, stretchesOf, List.foldl_append, before, whole]
  simp

/-- An entry of a log that begins no cycle is in a stretch, and what precedes it
there precedes it in the log. -/
theorem exists_stretch_of_entry {log earlier later : List Entry} {entry : Entry}
    (split : log = earlier ++ entry :: later)
    (inside : entry.what.isBeginning = false) :
    ∃ newer former latter older,
      stretchesOf log = newer ++ (former ++ entry :: latter) :: older ∧
      former ⊆ earlier := by
  obtain ⟨newer, former, latter, older, stretches, before⟩ :=
    exists_stretch_of_split split inside
  exact ⟨newer, former, latter, older, stretches, before.subset⟩

theorem subset_of_stretchesOf {log stretch : List Entry}
    {newer older : List (List Entry)}
    (split : stretchesOf log = newer ++ stretch :: older) : stretch ⊆ log := by
  intro entry member
  refine (flatten_stretchesOf_sublist log).subset ?_
  simp [split, member]

namespace Occurrence

/-- The policy that was read. -/
def policy? : Occurrence → Option Policy
  | .answered .readPolicy (.ok policy) => some policy
  | _ => none

/-- The group that a query found. -/
def group? : Occurrence → Option Group
  | .answered (.query _ _) (.ok group) => some group
  | _ => none

/-- The proxy of a move that was asked for. -/
def applied? : Occurrence → Option String
  | .asked (.apply _ proxy) => some proxy
  | _ => none

/-- The proxy of a move that the controller took. -/
def accepted? : Occurrence → Option String
  | .answered (.apply _ proxy) (.ok true) => some proxy
  | _ => none

/-- Whether a query found that a proxy is selected. -/
def shows (proxy : String) (occurrence : Occurrence) : Bool :=
  occurrence.group?.any fun group => group.selected? == some proxy

end Occurrence

/-- When the policy of a stretch was read, and which one it was. That is when
its evaluation begins, if there is one. -/
def beginning? (stretch : List Entry) : Option (Nat × Policy) :=
  stretch.findSome? fun entry => entry.what.policy?.map (entry.moment, ·)

/-- The group that the first query of a stretch found. -/
def queried? (stretch : List Entry) : Option Group :=
  stretch.findSome? fun entry => entry.what.group?

/-- The moves that were asked for, and when. -/
def movesOf (entries : List Entry) : List (Nat × String) :=
  entries.filterMap fun entry => entry.what.applied?.map (entry.moment, ·)

/-- Whether a later poll shows a move that the controller took. -/
def confirms : List Occurrence → Bool
  | [] => false
  | occurrence :: later =>
    (occurrence.accepted?.any fun proxy => later.any (·.shows proxy)) ||
      confirms later

/-- The moment of the first poll that shows a move that the controller took. -/
def confirmedAt? : List Entry → Option Nat
  | [] => none
  | entry :: later =>
    ((entry.what.accepted?.bind fun proxy =>
        later.find? (·.what.shows proxy)).map
      Entry.moment).or (confirmedAt? later)

/-- When the evaluation of a stretch began, if it ended with a confirmed
switch. -/
def switchedAt? (stretch : List Entry) : Option Nat :=
  if (confirmedAt? stretch).isSome then (beginning? stretch).map Prod.fst
  else none

/-- When the latest evaluation that ended with a confirmed switch began. -/
def latestSwitch? (stretches : List (List Entry)) : Option Nat :=
  stretches.findSome? switchedAt?

theorem isSome_confirmedAt? (stretch : List Entry) :
    (confirmedAt? stretch).isSome = confirms (stretch.map Entry.what) := by
  induction stretch with
  | nil => rfl
  | cons entry later laterFact =>
    rw [confirmedAt?, Option.isSome_or, laterFact, List.map_cons, confirms,
      Option.isSome_map]
    congr 1
    cases entry.what.accepted? with
    | none => rfl
    | some proxy =>
      simp only [Option.bind_some, Option.any_some, List.any_map]
      rw [Bool.eq_iff_iff, List.find?_isSome, List.any_eq_true]
      rfl

theorem exists_of_beginning? {stretch : List Entry} {began : Nat}
    {policy : Policy} (beginning : beginning? stretch = some (began, policy)) :
    ∃ entry ∈ stretch, entry.moment = began := by
  obtain ⟨entry, member, read⟩ := List.exists_of_findSome?_eq_some beginning
  obtain ⟨_, -, same⟩ := Option.map_eq_some_iff.1 read
  exact ⟨entry, member, congrArg Prod.fst same⟩

theorem exists_of_switchedAt? {stretch : List Entry} {began : Nat}
    (switched : switchedAt? stretch = some began) :
    ∃ entry ∈ stretch, entry.moment = began := by
  unfold switchedAt? at switched
  split at switched
  · obtain ⟨_, beginning, rfl⟩ := Option.map_eq_some_iff.1 switched
    exact exists_of_beginning? beginning
  · cases switched

theorem mem_movesOf {entries : List Entry} {moment : Nat} {proxy : String} :
    (moment, proxy) ∈ movesOf entries ↔
      ∃ entry ∈ entries, entry.moment = moment ∧
        ∃ group, entry.what = .asked (.apply group proxy) := by
  unfold movesOf
  rw [List.mem_filterMap]
  refine exists_congr fun entry => and_congr_right fun _ => ?_
  rcases entry with ⟨made, what⟩
  constructor
  · intro found
    obtain ⟨name, applied, same⟩ := Option.map_eq_some_iff.1 found
    cases same
    unfold Occurrence.applied? at applied
    split at applied
    · next group named asked =>
      cases applied
      exact ⟨rfl, group, asked⟩
    · cases applied
  · rintro ⟨rfl, group, rfl⟩
    rfl

theorem exists_stretch_of_move {log : List Entry} {move : Nat × String}
    (moved : move ∈ movesOf log) :
    ∃ stretch ∈ stretchesOf log, move ∈ movesOf stretch := by
  obtain ⟨entry, member, momentFact, group, asked⟩ := mem_movesOf.1 moved
  obtain ⟨earlier, later, split⟩ := List.append_of_mem member
  obtain ⟨newer, former, latter, older, stretches, -⟩ :=
    exists_stretch_of_entry split (by rw [asked]; rfl)
  exact ⟨_, stretches ▸ List.mem_append_right _ List.mem_cons_self,
    mem_movesOf.2 ⟨entry, by simp, momentFact, group, asked⟩⟩

theorem exists_of_confirmedAt? {stretch : List Entry} {moment : Nat}
    (confirmed : confirmedAt? stretch = some moment) :
    ∃ poll ∈ stretch, poll.moment = moment ∧
      ∃ proxy, poll.what.shows proxy = true := by
  induction stretch with
  | nil => cases confirmed
  | cons entry later laterFact =>
    rw [confirmedAt?, Option.or_eq_some_iff] at confirmed
    rcases confirmed with here | ⟨-, onward⟩
    · obtain ⟨poll, found, rfl⟩ := Option.map_eq_some_iff.1 here
      obtain ⟨proxy, -, pollFact⟩ := Option.bind_eq_some_iff.1 found
      have shown := List.find?_some pollFact
      exact ⟨poll, List.mem_cons_of_mem _ (List.mem_of_find?_eq_some pollFact),
        rfl, proxy, shown⟩
    · obtain ⟨poll, member, pollFact⟩ := laterFact onward
      exact ⟨poll, List.mem_cons_of_mem _ member, pollFact⟩

theorem confirms_append_of_none {former latter : List Occurrence}
    (none : ∀ occurrence ∈ former, occurrence.accepted? = none) :
    confirms (former ++ latter) = confirms latter := by
  induction former with
  | nil => rfl
  | cons first rest restFact =>
    obtain ⟨firstNone, restNone⟩ := List.forall_mem_cons.1 none
    rw [List.cons_append, confirms, firstNone, Option.any_none, Bool.false_or,
      restFact restNone]

theorem confirms_of_none {shown : List Occurrence}
    (none : ∀ occurrence ∈ shown, occurrence.accepted? = none) :
    confirms shown = false := by
  rw [← List.append_nil shown, confirms_append_of_none none]
  rfl

/-! ## What is said in the evaluation of a stretch -/

/-- What some entries say in the course of an evaluation. -/
def dialogueOf (entries : List Entry) : List Occurrence :=
  (entries.map Entry.what).filter Occurrence.isOfEvaluation

@[simp]
theorem dialogueOf_nil : dialogueOf [] = [] := rfl

@[simp]
theorem dialogueOf_append (former latter : List Entry) :
    dialogueOf (former ++ latter) = dialogueOf former ++ dialogueOf latter := by
  simp [dialogueOf]

@[simp]
theorem dialogueOf_map (shown : List Occurrence) (now : Nat) :
    dialogueOf (shown.map (Entry.mk now)) =
      shown.filter Occurrence.isOfEvaluation := by
  rw [dialogueOf, List.map_map]
  exact congrArg (List.filter _) (List.map_id shown)

theorem mem_dialogueOf {entries : List Entry} {occurrence : Occurrence} :
    occurrence ∈ dialogueOf entries ↔
      occurrence.isOfEvaluation = true ∧
        ∃ entry ∈ entries, entry.what = occurrence := by
  rw [dialogueOf, List.mem_filter, List.mem_map, and_comm]

theorem dialogueOf_eq_nil {entries : List Entry} :
    dialogueOf entries = [] ↔
      ∀ entry ∈ entries, entry.what.isOfEvaluation = false := by
  simp [dialogueOf, List.filter_eq_nil_iff]

section Dialogues

variable {occurrence : Occurrence}

theorem accepted?_of_not_isOfEvaluation
    (other : occurrence.isOfEvaluation = false) :
    occurrence.accepted? = none := by
  cases occurrence with
  | answered request answer => cases request <;> first | rfl | cases other
  | _ => rfl

theorem group?_of_not_isOfEvaluation
    (other : occurrence.isOfEvaluation = false) :
    occurrence.group? = none := by
  cases occurrence with
  | answered request answer => cases request <;> first | rfl | cases other
  | _ => rfl

theorem shows_of_not_isOfEvaluation (other : occurrence.isOfEvaluation = false)
    (proxy : String) :
    occurrence.shows proxy = false := by
  rw [Occurrence.shows, group?_of_not_isOfEvaluation other, Option.any_none]

theorem isOfEvaluation_of_shows {proxy : String}
    (shown : occurrence.shows proxy = true) :
    occurrence.isOfEvaluation = true := by
  cases isOf : occurrence.isOfEvaluation with
  | true => rfl
  | false =>
    rw [shows_of_not_isOfEvaluation isOf] at shown
    cases shown

theorem any_shows_filter (proxy : String) (shown : List Occurrence) :
    (shown.filter Occurrence.isOfEvaluation).any (·.shows proxy) =
      shown.any (·.shows proxy) := by
  rw [List.any_filter]
  refine congrArg shown.any (funext fun occurrence => ?_)
  cases isOf : occurrence.isOfEvaluation with
  | true => rfl
  | false => exact (shows_of_not_isOfEvaluation isOf proxy).symm

/-- Whether a switch is confirmed shows in what is said in the evaluation. -/
theorem confirms_dialogueOf (entries : List Entry) :
    confirms (dialogueOf entries) = confirms (entries.map Entry.what) := by
  unfold dialogueOf
  induction entries.map Entry.what with
  | nil => rfl
  | cons first rest restFact =>
    cases isOf : first.isOfEvaluation with
    | true =>
      rw [List.filter_cons_of_pos isOf, confirms, confirms, restFact]
      simp only [any_shows_filter]
    | false =>
      rw [List.filter_cons_of_neg (by simp [isOf]), confirms, restFact,
        accepted?_of_not_isOfEvaluation isOf, Option.any_none, Bool.false_or]

theorem queried?_eq (entries : List Entry) :
    queried? entries = (dialogueOf entries).findSome? Occurrence.group? := by
  unfold queried? dialogueOf
  induction entries with
  | nil => rfl
  | cons first rest restFact =>
    cases isOf : first.what.isOfEvaluation with
    | true => simp [isOf, List.findSome?_cons, restFact]
    | false =>
      simp [isOf, restFact, group?_of_not_isOfEvaluation isOf]

end Dialogues

theorem Turn.now_eq {parties : Parties Outside} {loop after : Loop}
    {around next : Surroundings Outside} {goesOn : Bool}
    {shown : List Occurrence}
    (turn : Turn parties loop around after next goesOn shown) :
    next.now = around.now := by
  cases turn <;> rfl

def Chronological (entries : List Entry) : Prop :=
  entries.Pairwise fun former latter => former.moment ≤ latter.moment

namespace Course

structure InTime (course : Course Outside) : Prop where
  chronological : Chronological course.log
  past : ∀ entry ∈ course.log, entry.moment ≤ course.around.now

section Moves

variable {parties : Parties Outside} {course : Course Outside}

theorem InTime.note (inTime : course.InTime) (occurrences : List Occurrence) :
    (course.note occurrences).InTime := by
  have present : ∀ entry ∈ occurrences.map (Entry.mk course.around.now),
      entry.moment = course.around.now := by simp
  refine ⟨List.pairwise_append.2 ⟨inTime.chronological, ?_, ?_⟩,
    fun entry member => ?_⟩
  · exact List.pairwise_map.2 (List.pairwise_of_forall fun _ _ => Nat.le_refl _)
  · intro former formerMember latter latterMember
    rw [present latter latterMember]
    exact inTime.past former formerMember
  · rcases List.mem_append.1 member with before | added
    · exact inTime.past entry before
    · exact Nat.le_of_eq (present entry added)

theorem InTime.later (inTime : course.InTime) {after : Course Outside}
    (log : after.log = course.log)
    (now : course.around.now ≤ after.around.now) :
    after.InTime :=
  ⟨log ▸ inTime.chronological, fun entry member =>
    Nat.le_trans (inTime.past entry (log ▸ member)) now⟩

theorem InTime.move (inTime : course.InTime) (sound : course.Sound)
    (move : Move Outside) :
    (course.move parties move).InTime := by
  cases move with
  | step =>
    refine (inTime.note _).later rfl (Nat.le_of_eq ?_)
    exact (turn_step sound.proper sound.serves).now_eq.symm
  | passOver =>
    simp only [Course.move, passOver]
    split
    · split
      · exact inTime.later rfl (Nat.le_refl _)
      · exact inTime
    · exact inTime
  | notice notice => exact (inTime.note _).later rfl (Nat.le_refl _)
  | cancel => exact (inTime.note _).later rfl (Nat.le_refl _)
  | pass length => exact inTime.later rfl (Nat.le_add_right _ _)
  | outside next => exact inTime.later rfl (Nat.le_refl _)
  | receivers places =>
    simp only [Course.move]
    split
    · exact inTime.later rfl (Nat.le_refl _)
    · exact inTime

theorem InTime.play (inTime : course.InTime) (sound : course.Sound)
    (moves : List (Move Outside)) :
    (course.play parties moves).InTime := by
  induction moves generalizing course with
  | nil => exact inTime
  | cons move moves movesFact =>
    exact movesFact (inTime.move sound move)
      ((change_move parties sound move).sound sound)

end Moves

theorem chronological_play (parties : Parties Outside) (timing : Timing)
    (locale : Locale) {around : Surroundings Outside} (sound : around.bus.Sound)
    (moves : List (Move Outside)) :
    Chronological ((start timing locale around).play parties moves).log := by
  have inTime : (start timing locale around).InTime :=
    ⟨List.Pairwise.nil, List.forall_mem_nil _⟩
  exact (inTime.play (sound_start timing locale sound) moves).chronological

end Course

theorem Chronological.stretch {log stretch : List Entry}
    {newer older : List (List Entry)} (chronological : Chronological log)
    (split : stretchesOf log = newer ++ stretch :: older) :
    Chronological stretch ∧
      ∀ earlier ∈ older, ∀ former ∈ earlier,
        ∀ latter ∈ stretch, former.moment ≤ latter.moment := by
  have together := chronological.sublist (flatten_stretchesOf_sublist log)
  have order : (stretchesOf log).reverse.flatten =
      older.reverse.flatten ++ (stretch ++ newer.reverse.flatten) := by
    simp [split]
  rw [order] at together
  obtain ⟨-, onward, across⟩ := List.pairwise_append.1 together
  refine ⟨(List.pairwise_append.1 onward).1, ?_⟩
  intro earlier among former formerMember latter latterMember
  refine across former ?_ latter (List.mem_append_left _ latterMember)
  exact List.mem_flatten.2 ⟨earlier, List.mem_reverse.2 among, formerMember⟩

end Switchyard.Control
