import Mathlib.Data.List.Induction
import Switchyard.Proofs.Paths
import Switchyard.Watcher

/-!
# Bursts of events

What a watcher is told is known with its moments. In a course of events the
deadlines of its bursts stand among what it is told, in any order that keeps to
the clock: a deadline comes when it is due, and nothing comes to a burst after
its deadline. In every course each event that touches the file is announced,
after it came and no later than the debounce after the event that opened its
burst.
-/

namespace Switchyard.Watcher

variable {path : String} {debounce : Nat} {watcher next : Watcher}
  {occasion : Occasion} {occasions before after : List (Nat × Occasion)}
  {now : Nat}

def announcements (occasions : List (Nat × Occasion)) (watcher : Watcher) :
    List Nat :=
  (watcher.follow occasions).1

/-- The watcher after some occasions. -/
def last (occasions : List (Nat × Occasion)) (watcher : Watcher) : Watcher :=
  (watcher.follow occasions).2

theorem announcements_cons (now : Nat) (occasion : Occasion)
    (later : List (Nat × Occasion)) (watcher : Watcher) :
    watcher.announcements ((now, occasion) :: later) =
      if (watcher.step now occasion).2 then
        now :: (watcher.step now occasion).1.announcements later
      else (watcher.step now occasion).1.announcements later := rfl

theorem last_cons (now : Nat) (occasion : Occasion)
    (later : List (Nat × Occasion)) (watcher : Watcher) :
    watcher.last ((now, occasion) :: later) =
      (watcher.step now occasion).1.last later := rfl

theorem announcements_append (before after : List (Nat × Occasion))
    (watcher : Watcher) :
    watcher.announcements (before ++ after) =
      watcher.announcements before ++
        (watcher.last before).announcements after :=
  congrArg Prod.fst (follow_append watcher before after)

theorem last_append (before after : List (Nat × Occasion)) (watcher : Watcher) :
    watcher.last (before ++ after) = (watcher.last before).last after := by
  unfold last
  rw [follow_append]

/-- Whether an occasion is an event that touches a file. -/
def Occasion.touches (path : String) : Occasion → Bool
  | .news told => told.touches path
  | _ => false

/-- All that an occasion other than a cancellation makes of a watcher, and
whether the watcher announces a change then. -/
inductive Stepped (watcher : Watcher) (now : Nat) (occasion : Occasion) :
    Watcher → Bool → Prop where
  | stays (unopened : occasion.touches watcher.path = true →
      watcher.stage ≠ .idle) :
    Stepped watcher now occasion watcher false
  | opens (idle : watcher.stage = .idle)
    (touches : occasion.touches watcher.path = true) :
    Stepped watcher now occasion
      { watcher with stage := .gathering (now + watcher.debounce) } false
  | closes (idle : watcher.stage = .idle) (isLast : occasion = .noMoreNews) :
    Stepped watcher now occasion { watcher with stage := .ended } false
  | announces {deadline : Nat} (gathering : watcher.stage = .gathering deadline)
    (isDeadline : occasion = .deadline) (due : deadline ≤ now) :
    Stepped watcher now occasion { watcher with stage := .idle } true
  | announcesLast {deadline : Nat}
    (gathering : watcher.stage = .gathering deadline)
    (isLast : occasion = .noMoreNews) :
    Stepped watcher now occasion { watcher with stage := .ended } true

theorem stepped (uncancelled : occasion ≠ .cancellation) (now : Nat)
    (watcher : Watcher) :
    Stepped watcher now occasion (watcher.step now occasion).1
      (watcher.step now occasion).2 := by
  obtain ⟨path, debounce, stage⟩ := watcher
  cases occasion with
  | cancellation => contradiction
  | noMoreNews =>
    cases stage with
    | idle => exact .closes rfl rfl
    | gathering deadline => exact .announcesLast rfl rfl
    | ended => exact .stays nofun
  | deadline =>
    cases stage with
    | gathering deadline =>
      unfold step
      dsimp only
      split
      · next due => exact .announces rfl rfl due
      · exact .stays nofun
    | _ => exact .stays nofun
  | news told =>
    cases stage with
    | idle =>
      unfold step
      dsimp only
      split
      · next touches => exact .opens rfl touches
      · next untouched => exact .stays fun touches => absurd touches untouched
    | _ => exact .stays nofun

/-- What the first of some occasions makes of a watcher. -/
theorem exists_stepped (uncancelled : ∀ other ∈ (now, occasion) :: occasions,
      other.2 ≠ .cancellation) (watcher : Watcher) :
    ∃ next announces, watcher.step now occasion = (next, announces) ∧
      Stepped watcher now occasion next announces ∧
      ∀ other ∈ occasions, other.2 ≠ .cancellation := by
  obtain ⟨first, later⟩ := List.forall_mem_cons.1 uncancelled
  exact ⟨_, _, rfl, stepped first now watcher, later⟩

theorem Stepped.settings_eq {announces : Bool}
    (stepped : Stepped watcher now occasion next announces) :
    next.path = watcher.path ∧ next.debounce = watcher.debounce := by
  cases stepped <;> exact ⟨rfl, rfl⟩

theorem last_settings
    (uncancelled : ∀ occasion ∈ occasions, occasion.2 ≠ .cancellation)
    (watcher : Watcher) :
    (watcher.last occasions).path = watcher.path ∧
      (watcher.last occasions).debounce = watcher.debounce := by
  induction occasions generalizing watcher with
  | nil => exact ⟨rfl, rfl⟩
  | cons first later laterFact =>
    obtain ⟨moment, occasion⟩ := first
    obtain ⟨next, announces, step, stepped, uncancelled⟩ :=
      exists_stepped uncancelled watcher
    obtain ⟨path, debounce⟩ := stepped.settings_eq
    obtain ⟨pathLater, debounceLater⟩ := laterFact uncancelled next
    rw [last_cons, step]
    exact ⟨pathLater.trans path, debounceLater.trans debounce⟩

/-- Whether an occasion is one that a watcher is told of. -/
def Occasion.isTold : Occasion → Bool
  | .deadline => false
  | _ => true

/-- Whether occasions come in time to a watcher: nothing comes to a burst after
its deadline, a deadline comes when it is due, and in the end no burst is left
open. -/
def InTime : Watcher → List (Nat × Occasion) → Prop
  | watcher, [] => watcher.deadline? = none
  | watcher, (now, occasion) :: later =>
    (∀ deadline ∈ watcher.deadline?, now ≤ deadline) ∧
    (occasion = .deadline → ∃ deadline ∈ watcher.deadline?, deadline ≤ now) ∧
    InTime (watcher.step now occasion).1 later

/-- What a watcher is told when some news comes and, it may be, no more can come
after that. -/
def toldOf (news : List (Nat × News)) (closing : Option Nat) :
    List (Nat × Occasion) :=
  news.map (fun told => (told.1, .news told.2)) ++
    closing.toList.map fun moment => (moment, .noMoreNews)

/-- A course of events for a watcher that is told something. -/
structure CourseOf (told : List (Nat × Occasion)) (watcher : Watcher)
    (occasions : List (Nat × Occasion)) : Prop where
  told : occasions.filter (fun occasion => occasion.2.isTold) = told
  ordered : occasions.Pairwise fun earlier later => earlier.1 ≤ later.1
  inTime : InTime watcher occasions

theorem InTime.last (inTime : InTime watcher (before ++ after)) :
    InTime (watcher.last before) after := by
  induction before generalizing watcher with
  | nil => exact inTime
  | cons first later laterFact => exact laterFact inTime.2.2

theorem deadline?_eq_some_iff {deadline : Nat} :
    watcher.deadline? = some deadline ↔
      watcher.stage = .gathering deadline := by
  unfold deadline?
  cases watcher.stage <;> simp

/-- A burst is announced at its deadline, or before if no more news can come. -/
theorem announced_in_time {deadline : Nat}
    (gathering : watcher.stage = .gathering deadline)
    (inTime : InTime watcher occasions)
    (since : ∀ occasion ∈ occasions, now ≤ occasion.1)
    (uncancelled : ∀ occasion ∈ occasions, occasion.2 ≠ .cancellation) :
    ∃ announced ∈ (watcher.announcements occasions).head?,
      now ≤ announced ∧ announced ≤ deadline := by
  induction occasions with
  | nil =>
    have none : watcher.deadline? = none := inTime
    rw [deadline?_eq_some_iff.2 gathering] at none
    cases none
  | cons first later laterFact =>
    obtain ⟨moment, occasion⟩ := first
    obtain ⟨timely, -, inTime⟩ := inTime
    obtain ⟨momentFact, since⟩ := List.forall_mem_cons.1 since
    obtain ⟨next, announces, step, stepped, uncancelled⟩ :=
      exists_stepped uncancelled watcher
    have within : moment ≤ deadline :=
      timely deadline (deadline?_eq_some_iff.2 gathering)
    rw [announcements_cons, step]
    rw [step] at inTime
    cases stepped with
    | stays unopened =>
      rw [if_neg Bool.false_ne_true]
      exact laterFact inTime since uncancelled
    | opens idle touches => rw [gathering] at idle; cases idle
    | closes idle isLast => rw [gathering] at idle; cases idle
    | announces gathering isDeadline due =>
      exact ⟨moment, rfl, momentFact, within⟩
    | announcesLast gathering isLast => exact ⟨moment, rfl, momentFact, within⟩

/-! ## Opening a burst -/

/-- Whether an occasion opens a burst that is not announced yet after some more
occasions. -/
structure Opens (start : Watcher) (earlier : List (Nat × Occasion))
    (opened : Nat × Occasion) (between : List (Nat × Occasion)) : Prop where
  touches : opened.2.touches start.path = true
  idle : (start.last earlier).stage = .idle
  unannounced : (start.last earlier).announcements (opened :: between) = []

theorem exists_opens {start : Watcher} (idle : start.stage = .idle)
    (uncancelled : ∀ occasion ∈ before, occasion.2 ≠ .cancellation)
    {deadline : Nat}
    (gathering : (start.last before).stage = .gathering deadline) :
    ∃ earlier opened between, before = earlier ++ opened :: between ∧
      start.Opens earlier opened between ∧
      deadline = opened.1 + start.debounce := by
  induction before using List.reverseRecOn with
  | nil =>
    have same : Stage.idle = .gathering deadline := idle.symm.trans gathering
    cases same
  | append_singleton before final beforeFact =>
    obtain ⟨moment, occasion⟩ := final
    obtain ⟨uncancelled, finalFact⟩ := List.forall_mem_append.1 uncancelled
    have settings := last_settings uncancelled start
    obtain ⟨next, announces, step, stepped, -⟩ :=
      exists_stepped finalFact (start.last before)
    have announced := announcements_cons moment occasion [] (start.last before)
    rw [step] at announced
    rw [last_append, last_cons, step] at gathering
    cases stepped with
    | stays unopened =>
      obtain ⟨earlier, opened, between, rfl, opens, same⟩ :=
        beforeFact uncancelled gathering
      refine ⟨earlier, opened, between ++ [(moment, occasion)], by simp,
        ⟨opens.touches, opens.idle, ?_⟩, same⟩
      rw [last_append] at announced
      rw [← List.cons_append, announcements_append,
        opens.unannounced, announced]
      rfl
    | opens idle touches =>
      rw [settings.1] at touches
      refine ⟨before, (moment, occasion), [], rfl,
        ⟨touches, idle, announced⟩, ?_⟩
      rw [← settings.2]
      exact (Stage.gathering.inj gathering).symm
    | _ => cases gathering

theorem stage_last_ne_ended (unended : watcher.stage ≠ .ended)
    (uncancelled : ∀ occasion ∈ before, occasion.2 ≠ .cancellation)
    (goesOn : ∀ occasion ∈ before, occasion.2 ≠ .noMoreNews) :
    (watcher.last before).stage ≠ .ended := by
  induction before generalizing watcher with
  | nil => exact unended
  | cons first later laterFact =>
    obtain ⟨moment, occasion⟩ := first
    obtain ⟨next, announces, step, stepped, uncancelled⟩ :=
      exists_stepped uncancelled watcher
    obtain ⟨firstOpen, goesOn⟩ := List.forall_mem_cons.1 goesOn
    rw [last_cons, step]
    refine laterFact ?_ uncancelled goesOn
    cases stepped with
    | stays unopened => exact unended
    | opens idle touches => exact Stage.noConfusion
    | announces gathering isDeadline due => exact Stage.noConfusion
    | closes idle isLast => exact absurd isLast firstOpen
    | announcesLast gathering isLast => exact absurd isLast firstOpen

/-- Where a watcher has not ended, an event that touches its file belongs to a
burst. -/
theorem gathering_of_touches (unended : watcher.stage ≠ .ended) {news : News}
    (touches : news.touches watcher.path = true) (now : Nat) :
    ∃ deadline, (watcher.step now (.news news)).1.stage =
      .gathering deadline := by
  unfold step
  cases stage : watcher.stage with
  | idle =>
    dsimp only
    rw [if_pos touches]
    exact ⟨_, rfl⟩
  | gathering deadline => exact ⟨deadline, stage⟩
  | ended => exact absurd stage unended

/-- The number of bursts that are still to be announced. -/
def pending (watcher : Watcher) : Nat :=
  if watcher.deadline?.isSome then 1 else 0

theorem pending_of_gathering {deadline : Nat}
    (gathering : watcher.stage = .gathering deadline) :
    watcher.pending = 1 := by
  rw [pending, deadline?_eq_some_iff.2 gathering]
  rfl

/-- A burst takes an event that touches the file to open, and is open no more
once announced. -/
theorem Stepped.pending_le {announces : Bool}
    (stepped : Stepped watcher now occasion next announces) :
    announces.toNat + next.pending ≤
      watcher.pending + if occasion.touches watcher.path then 1 else 0 := by
  cases stepped with
  | stays unopened =>
    rw [Bool.toNat_false]
    omega
  | opens idle touches =>
    rw [if_pos touches]
    exact Nat.le_add_left 1 _
  | closes idle isLast => exact Nat.zero_le _
  | announces gathering isDeadline due =>
    rw [pending_of_gathering gathering]
    exact Nat.le_add_right 1 _
  | announcesLast gathering isLast =>
    rw [pending_of_gathering gathering]
    exact Nat.le_add_right 1 _

/-- Every announcement has an event of its own that touches the file. -/
theorem length_announcements_le
    (uncancelled : ∀ occasion ∈ occasions, occasion.2 ≠ .cancellation) :
    (watcher.announcements occasions).length +
      (watcher.last occasions).pending ≤
      watcher.pending + occasions.countP fun occasion =>
        occasion.2.touches watcher.path := by
  induction occasions generalizing watcher with
  | nil => exact Nat.le_of_eq (Nat.zero_add _)
  | cons first later laterFact =>
    obtain ⟨moment, occasion⟩ := first
    obtain ⟨next, announces, step, stepped, uncancelled⟩ :=
      exists_stepped uncancelled watcher
    have here := stepped.pending_le
    have onward := @laterFact next uncancelled
    rw [stepped.settings_eq.1] at onward
    rw [announcements_cons, last_cons, step, List.countP_cons]
    dsimp only
    cases announces with
    | false =>
      rw [Bool.toNat_false] at here
      rw [if_neg Bool.false_ne_true]
      omega
    | true =>
      rw [Bool.toNat_true] at here
      rw [if_pos rfl, List.length_cons]
      omega

/-- Whether one moment is a debounce before another one, or it is known at the
later one that no more news can come. -/
def IsApart (debounce : Nat) (occasions : List (Nat × Occasion))
    (earlier later : Nat) : Prop :=
  earlier + debounce ≤ later ∨ earlier ≤ later ∧
    (later, .noMoreNews) ∈ occasions

theorem IsApart.cons {earlier later : Nat}
    (apart : IsApart debounce occasions earlier later)
    (first : Nat × Occasion) :
    IsApart debounce (first :: occasions) earlier later :=
  apart.imp_right fun near => ⟨near.1, List.mem_cons_of_mem first near.2⟩

/-- If no burst is due before one that would begin now, nothing is announced
before that. -/
theorem isApart_of_mem_announcements
    (uncancelled : ∀ occasion ∈ occasions, occasion.2 ≠ .cancellation)
    (since : ∀ occasion ∈ occasions, now ≤ occasion.1)
    (opened : ∀ deadline ∈ watcher.deadline?,
      now + watcher.debounce ≤ deadline) :
    ∀ announced ∈ watcher.announcements occasions,
      IsApart watcher.debounce occasions now announced := by
  induction occasions generalizing watcher with
  | nil => exact List.forall_mem_nil _
  | cons first later laterFact =>
    obtain ⟨moment, occasion⟩ := first
    obtain ⟨next, announces, step, stepped, uncancelled⟩ :=
      exists_stepped uncancelled watcher
    obtain ⟨reached, since⟩ := List.forall_mem_cons.1 since
    have onward (openedLater : ∀ deadline ∈ next.deadline?,
          now + watcher.debounce ≤ deadline) :
        ∀ announced ∈ next.announcements later,
          IsApart watcher.debounce ((moment, occasion) :: later) now
            announced := by
      rw [← stepped.settings_eq.2] at openedLater ⊢
      intro announced member
      exact (laterFact uncancelled since openedLater announced member).cons _
    rw [announcements_cons, step]
    cases stepped with
    | stays unopened => exact onward opened
    | opens idle touches =>
      apply onward
      rintro _ ⟨⟩
      exact Nat.add_le_add_right reached _
    | closes idle isLast => exact onward nofun
    | announces gathering isDeadline due =>
      have far := opened _ (deadline?_eq_some_iff.2 gathering)
      exact List.forall_mem_cons.2 ⟨.inl (Nat.le_trans far due), onward nofun⟩
    | announcesLast gathering isLast =>
      subst isLast
      exact List.forall_mem_cons.2 ⟨.inr ⟨reached, List.mem_cons_self⟩,
        onward nofun⟩

theorem pairwise_announcements
    (uncancelled : ∀ occasion ∈ occasions, occasion.2 ≠ .cancellation)
    (ordered : occasions.Pairwise fun earlier later => earlier.1 ≤ later.1) :
    (watcher.announcements occasions).Pairwise
      (IsApart watcher.debounce occasions) := by
  induction occasions generalizing watcher with
  | nil => exact .nil
  | cons first later laterFact =>
    obtain ⟨moment, occasion⟩ := first
    obtain ⟨next, announces, step, stepped, uncancelled⟩ :=
      exists_stepped uncancelled watcher
    obtain ⟨since, ordered⟩ := List.pairwise_cons.1 ordered
    have onward : (next.announcements later).Pairwise
        (IsApart watcher.debounce ((moment, occasion) :: later)) := by
      rw [← stepped.settings_eq.2]
      exact (laterFact uncancelled ordered).imp fun apart => apart.cons _
    have fromHere (announced : next.deadline? = none) :
        ∀ following ∈ next.announcements later,
        IsApart watcher.debounce ((moment, occasion) :: later) moment
          following := by
      have quiet : ∀ deadline ∈ next.deadline?,
          moment + next.debounce ≤ deadline := by
        rw [announced]
        exact nofun
      rw [← stepped.settings_eq.2]
      intro following member
      exact (isApart_of_mem_announcements uncancelled since quiet following
        member).cons _
    rw [announcements_cons, step]
    cases stepped with
    | stays | opens | closes => exact onward
    | announces | announcesLast =>
      exact List.pairwise_cons.2 ⟨fromHere rfl, onward⟩

/-! ## Courses for what is told -/

/-- A burst may be announced first, if nothing comes before its deadline. -/
theorem CourseOf.cons_deadline {told : List (Nat × Occasion)} {deadline : Nat}
    (gathering : watcher.stage = .gathering deadline)
    (course : CourseOf told { watcher with stage := .idle } occasions)
    (since : ∀ occasion ∈ occasions, deadline ≤ occasion.1) :
    CourseOf told watcher ((deadline, .deadline) :: occasions) := by
  have burst : watcher.deadline? = some deadline :=
    deadline?_eq_some_iff.2 gathering
  have announced : watcher.step deadline .deadline =
      ({ watcher with stage := .idle }, true) := by
    unfold step
    rw [gathering]
    exact if_pos (Nat.le_refl _)
  refine ⟨course.told, List.pairwise_cons.2 ⟨since, course.ordered⟩, ?_, ?_, ?_⟩
  · intro other isOpen
    exact Nat.le_of_eq (Option.some.inj (burst.symm.trans isOpen))
  · exact fun _ => ⟨deadline, burst, Nat.le_refl _⟩
  · rw [announced]
    exact course.inTime

/-- What is told comes next, if no burst is due before. -/
theorem CourseOf.cons_told {told : List (Nat × Occasion)}
    (course : CourseOf told (watcher.step now occasion).1 occasions)
    (isTold : occasion.isTold = true)
    (since : ∀ other ∈ occasions, now ≤ other.1)
    (opened : ∀ deadline ∈ watcher.deadline?, now ≤ deadline) :
    CourseOf ((now, occasion) :: told) watcher
      ((now, occasion) :: occasions) := by
  refine ⟨?_, List.pairwise_cons.2 ⟨since, course.ordered⟩, opened, ?_,
    course.inTime⟩
  · rw [← course.told]
    exact List.filter_cons_of_pos isTold
  · rintro rfl
    cases isTold

/-- Whatever a watcher is told in the order of its moments, it has a course. -/
theorem exists_courseOf {told : List (Nat × Occasion)}
    (ordered : told.Pairwise fun earlier later => earlier.1 ≤ later.1)
    (since : ∀ occasion ∈ told, now ≤ occasion.1)
    (isTold : ∀ occasion ∈ told, occasion.2.isTold = true)
    (uncancelled : ∀ occasion ∈ told, occasion.2 ≠ .cancellation)
    (opened : ∀ deadline ∈ watcher.deadline?, now ≤ deadline) :
    ∃ occasions, CourseOf told watcher occasions ∧
      ∀ occasion ∈ occasions, now ≤ occasion.1 := by
  induction told generalizing watcher now with
  | nil =>
    cases stage : watcher.stage with
    | gathering deadline =>
      have rest : CourseOf [] { watcher with stage := .idle } [] :=
        ⟨rfl, .nil, rfl⟩
      exact ⟨[(deadline, .deadline)],
        rest.cons_deadline stage (List.forall_mem_nil _),
        List.forall_mem_singleton.2
          (opened deadline (deadline?_eq_some_iff.2 stage))⟩
    | _ =>
      have quiet : watcher.deadline? = none := by
        rw [deadline?, stage]
      exact ⟨[], ⟨rfl, .nil, quiet⟩, List.forall_mem_nil _⟩
  | cons first later laterFact =>
    obtain ⟨moment, occasion⟩ := first
    obtain ⟨firstTold, isTold⟩ := List.forall_mem_cons.1 isTold
    obtain ⟨(reached : now ≤ moment), -⟩ := List.forall_mem_cons.1 since
    obtain ⟨since, ordered⟩ := List.pairwise_cons.1 ordered
    -- What is told first comes to a watcher whose burst, if there is one, is
    -- not due before.
    have comes (watcher : Watcher)
        (opened : ∀ deadline ∈ watcher.deadline?, moment ≤ deadline) :
        ∃ occasions, CourseOf ((moment, occasion) :: later) watcher occasions ∧
          ∀ occasion ∈ occasions, moment ≤ occasion.1 := by
      obtain ⟨next, announces, step, stepped, uncancelled⟩ :=
        exists_stepped uncancelled watcher
      have openedLater : ∀ deadline ∈ next.deadline?, moment ≤ deadline := by
        cases stepped with
        | stays unopened => exact opened
        | opens idle touches =>
          rintro _ ⟨⟩
          exact Nat.le_add_right _ _
        | _ => exact nofun
      obtain ⟨occasions, course, following⟩ :=
        laterFact ordered since isTold uncancelled openedLater
      rw [show next = (watcher.step moment occasion).1 by rw [step]] at course
      exact ⟨_, course.cons_told firstTold following opened,
        List.forall_mem_cons.2 ⟨Nat.le_refl _, following⟩⟩
    by_cases dueBefore :
      ∃ deadline, watcher.stage = .gathering deadline ∧ deadline < moment
    · obtain ⟨deadline, gathering, due⟩ := dueBefore
      obtain ⟨occasions, course, following⟩ :=
        comes { watcher with stage := .idle } nofun
      have began := opened deadline (deadline?_eq_some_iff.2 gathering)
      have since : ∀ occasion ∈ occasions, deadline ≤ occasion.1 :=
        fun occasion member =>
          Nat.le_trans (Nat.le_of_lt due) (following occasion member)
      exact ⟨_, course.cons_deadline gathering since,
        List.forall_mem_cons.2 ⟨began,
          fun occasion member => Nat.le_trans began (since occasion member)⟩⟩
    · have notBefore : ∀ deadline ∈ watcher.deadline?, moment ≤ deadline := by
        intro deadline isOpen
        by_contra early
        exact dueBefore ⟨deadline, deadline?_eq_some_iff.1 isOpen,
          Nat.lt_of_not_le early⟩
      obtain ⟨occasions, course, following⟩ := comes watcher notBefore
      exact ⟨occasions, course,
        fun occasion member => Nat.le_trans reached (following occasion member)⟩

section Told

variable {news : List (Nat × News)} {closing : Option Nat}

theorem mem_toldOf {told : Nat × Occasion}
    (member : told ∈ toldOf news closing) :
    (∃ moment event, (moment, event) ∈ news ∧ told = (moment, .news event)) ∨
      ∃ moment ∈ closing, told = (moment, .noMoreNews) := by
  rcases List.mem_append.1 member with isNews | isClosing
  · obtain ⟨⟨moment, event⟩, isOne, rfl⟩ := List.mem_map.1 isNews
    exact .inl ⟨moment, event, isOne, rfl⟩
  · obtain ⟨moment, isOne, rfl⟩ := List.mem_map.1 isClosing
    exact .inr ⟨moment, Option.mem_toList.1 isOne, rfl⟩

theorem CourseOf.mem_told
    (course : CourseOf (toldOf news closing) watcher occasions)
    {told : Nat × Occasion} (member : told ∈ occasions)
    (isTold : told.2.isTold = true) :
    told ∈ toldOf news closing := by
  rw [← course.told]
  exact List.mem_filter.2 ⟨member, isTold⟩

theorem CourseOf.uncancelled
    (course : CourseOf (toldOf news closing) watcher occasions) :
    ∀ occasion ∈ occasions, occasion.2 ≠ .cancellation := by
  intro occasion member cancelled
  have told := course.mem_told member (by rw [cancelled]; rfl)
  rcases mem_toldOf told with
    ⟨moment, event, -, rfl⟩ | ⟨moment, -, rfl⟩ <;> cases cancelled

/-- Nothing is told after there are no more news. -/
theorem CourseOf.not_closed_before
    (course : CourseOf (toldOf news closing) watcher
    (before ++ (now, occasion) :: after)) (isTold : occasion.isTold = true) :
    ∀ earlier ∈ before, earlier.2 ≠ .noMoreNews := by
  have closed : (toldOf news closing).Pairwise fun earlier _ =>
      earlier.2 ≠ .noMoreNews := by
    rw [toldOf, List.pairwise_append]
    refine ⟨?_, ?_, ?_⟩
    · exact List.pairwise_map.2 (List.pairwise_of_forall fun _ _ =>
        Occasion.noConfusion)
    · cases closing with
      | none => exact .nil
      | some moment => exact List.pairwise_singleton _ _
    · intro told member _ _ isLast
      obtain ⟨event, -, rfl⟩ := List.mem_map.1 member
      cases isLast
  rw [← course.told, List.pairwise_filter, List.pairwise_append] at closed
  intro earlier member isLast
  have apart := closed.2.2 earlier member (now, occasion) List.mem_cons_self
  exact apart (by rw [isLast]; rfl) isTold isLast

theorem exists_courseOf_toldOf
    (ordered : (toldOf news closing).Pairwise fun earlier later =>
      earlier.1 ≤ later.1)
    (watcher : Watcher) :
    ∃ occasions, CourseOf (toldOf news closing) watcher occasions := by
  have kinds : ∀ told ∈ toldOf news closing,
      told.2.isTold = true ∧ told.2 ≠ .cancellation := by
    intro told member
    rcases mem_toldOf member with ⟨moment, event, -, rfl⟩ | ⟨moment, -, rfl⟩
    · exact ⟨rfl, Occasion.noConfusion⟩
    · exact ⟨rfl, Occasion.noConfusion⟩
  have quiet : ∀ deadline ∈ watcher.deadline?, 0 ≤ deadline :=
    fun _ _ => Nat.zero_le _
  obtain ⟨occasions, course, -⟩ :=
    exists_courseOf ordered (fun _ _ => Nat.zero_le _)
      (fun told member => (kinds told member).1)
      (fun told member => (kinds told member).2) quiet
  exact ⟨occasions, course⟩

/-- An event that touches the file belongs to a burst, and the next announcement
is in time for that burst. -/
theorem CourseOf.announced {event : News}
    (course : CourseOf (toldOf news closing) watcher
      (before ++ (now, .news event) :: after))
    (idle : watcher.stage = .idle)
    (touches : event.touches watcher.path = true) :
    ∃ earlier opened between,
      before ++ [(now, .news event)] = earlier ++ opened :: between ∧
      watcher.Opens earlier opened between ∧
      ∃ announced ∈
        ((watcher.last (before ++ [(now, .news event)])).announcements
          after).head?,
        now ≤ announced ∧ announced ≤ opened.1 + watcher.debounce := by
  have closed := course.not_closed_before rfl
  have inTime := course.inTime
  have uncancelled := course.uncancelled
  have ordered := course.ordered
  rw [List.append_cons] at inTime uncancelled ordered
  obtain ⟨uncancelled, uncancelledAfter⟩ := List.forall_mem_append.1 uncancelled
  have since : ∀ occasion ∈ after, now ≤ occasion.1 := by
    intro occasion member
    exact (List.pairwise_append.1 ordered).2.2 (now, .news event) (by simp)
      occasion member
  have uncancelledBefore := (List.forall_mem_append.1 uncancelled).1
  have unended : (watcher.last before).stage ≠ .ended :=
    stage_last_ne_ended (by rw [idle]; exact Stage.noConfusion)
      uncancelledBefore closed
  rw [← (last_settings uncancelledBefore watcher).1] at touches
  obtain ⟨deadline, gathering⟩ : ∃ deadline,
      (watcher.last (before ++ [(now, .news event)])).stage =
        .gathering deadline := by
    rw [last_append]
    exact gathering_of_touches unended touches now
  obtain ⟨earlier, opened, between, split, opens, rfl⟩ :=
    exists_opens idle uncancelled gathering
  exact ⟨earlier, opened, between, split, opens,
    announced_in_time gathering inTime.last since uncancelledAfter⟩

theorem CourseOf.length_announcements_le
    (course : CourseOf (toldOf news closing) watcher (before ++ after))
    (idle : watcher.stage = .idle) :
    (watcher.announcements before).length ≤
      before.countP fun occasion => occasion.2.touches watcher.path := by
  have uncancelled := (List.forall_mem_append.1 course.uncancelled).1
  have counted :
      (watcher.announcements before).length + (watcher.last before).pending ≤
      watcher.pending + before.countP fun occasion =>
        occasion.2.touches watcher.path :=
    Watcher.length_announcements_le uncancelled
  have none : watcher.pending = 0 := by
    rw [pending, deadline?, idle]
    rfl
  omega

theorem CourseOf.announcements_eq_nil
    (course : CourseOf (toldOf news closing) watcher occasions)
    (idle : watcher.stage = .idle)
    (untouched : ∀ told ∈ news, told.2.touches watcher.path = false) :
    watcher.announcements occasions = [] := by
  have none :
      (occasions.countP fun occasion => occasion.2.touches watcher.path) =
        0 := by
    rw [List.countP_eq_zero]
    intro occasion member touches
    have isTold : occasion.2.isTold = true := by
      cases kind : occasion.2 with
      | deadline =>
        rw [kind] at touches
        cases touches
      | _ => rfl
    rcases mem_toldOf (course.mem_told member isTold) with
      ⟨moment, event, isNews, rfl⟩ | ⟨moment, -, rfl⟩
    · exact Bool.false_ne_true ((untouched _ isNews).symm.trans touches)
    · cases touches
  rw [← List.append_nil occasions] at course
  have counted := course.length_announcements_le idle
  exact List.length_eq_zero_iff.1 (by omega)

theorem CourseOf.announcements_apart
    (course : CourseOf (toldOf news closing) watcher occasions) :
    (watcher.announcements occasions).Pairwise fun earlier later =>
      earlier + watcher.debounce ≤ later ∨
        ∃ closed ∈ closing, earlier ≤ closed ∧ closed ≤ later := by
  refine (pairwise_announcements course.uncancelled course.ordered).imp
    fun apart => ?_
  rcases apart with far | ⟨near, isLast⟩
  · exact .inl far
  · rcases mem_toldOf (course.mem_told isLast rfl) with
      ⟨_, _, -, ⟨⟩⟩ | ⟨_, closed, ⟨⟩⟩
    exact .inr ⟨_, closed, near, Nat.le_refl _⟩

end Told

/-- Whatever a watcher is told in the order of its moments, there is a course of
events for it. In every one an event that touches the file is announced, not
before it came and at the latest a debounce after the event that opened its
burst; there are no more announcements than events that touch the file, and they
are a debounce apart, unless no more news could come in between. -/
theorem edits_announced_in_time (path : String) (debounce : Nat)
    (news : List (Nat × News)) (closing : Option Nat)
    (ordered : (toldOf news closing).Pairwise fun earlier later =>
      earlier.1 ≤ later.1) :
    let watcher := start path debounce
    (∃ occasions, CourseOf (toldOf news closing) watcher occasions) ∧
    ∀ occasions, CourseOf (toldOf news closing) watcher occasions →
      (∀ before now event after,
        occasions = before ++ (now, .news event) :: after →
        event.touches path = true →
        ∃ earlier opened between,
          before ++ [(now, .news event)] = earlier ++ opened :: between ∧
          watcher.Opens earlier opened between ∧
          ∃ announced ∈
              ((watcher.last (before ++ [(now, .news event)])).announcements
                after).head?,
            now ≤ announced ∧ announced ≤ opened.1 + debounce) ∧
      (∀ before after, occasions = before ++ after →
        (watcher.announcements before).length ≤
          before.countP fun occasion => occasion.2.touches path) ∧
      ((∀ told ∈ news, told.2.touches path = false) →
        watcher.announcements occasions = []) ∧
      (watcher.announcements occasions).Pairwise fun earlier later =>
        earlier + debounce ≤ later ∨
          ∃ closed ∈ closing, earlier ≤ closed ∧ closed ≤ later := by
  intro watcher
  refine ⟨exists_courseOf_toldOf ordered watcher,
    fun occasions course => ⟨?_, ?_, ?_, ?_⟩⟩
  · rintro before now event after rfl touches
    exact course.announced rfl touches
  · rintro before after rfl
    exact course.length_announcements_le rfl
  · exact course.announcements_eq_nil rfl
  · exact course.announcements_apart

/-- An event of a file in the working folder. -/
def edit : News := .event ⟨.modification, ["policy.json"]⟩

theorem edit_touches : edit.touches "policy.json" = true := by
  have plain : Files.IsPlain "policy.json" := ⟨by decide, by decide, by decide⟩
  have named : Files.lastName? "policy.json" = some "policy.json" := by
    rw [Files.lastName?, plain.pathParts_eq]
    rfl
  simp [edit, News.touches, Files.Event.touches, named, Files.Change.isAccess]

/-- A second edit comes when the burst of the first one has just been announced,
and there is no time left for its own burst. -/
theorem edit_announced_after_deadline :
    let told := toldOf [(0, edit), (3, .failure "overflow"), (5, edit)] (some 7)
    let watcher := start "policy.json" 5
    let before : List (Nat × Occasion) :=
      [(0, .news edit), (3, .news (.failure "overflow")), (5, .deadline)]
    let occasions := before ++ [(5, .news edit), (7, .noMoreNews)]
    CourseOf told watcher occasions ∧ watcher.announcements occasions = [5, 7] ∧
      (∃ earlier opened between,
        before ++ [(5, .news edit)] = earlier ++ opened :: between ∧
        watcher.Opens earlier opened between ∧
        ∃ announced ∈
          ((watcher.last (before ++ [(5, .news edit)])).announcements
            [(7, .noMoreNews)]).head?,
              5 ≤ announced ∧ announced ≤ opened.1 + 5) ∧
      (watcher.announcements occasions).Pairwise fun earlier later =>
        earlier + 5 ≤ later ∨
          ∃ closed ∈ some 7, earlier ≤ closed ∧ closed ≤ later := by
  intro told watcher before occasions
  have ordered : told.Pairwise fun earlier later =>
    earlier.1 ≤ later.1 := by decide
  have course : CourseOf told watcher occasions := by
    refine ⟨by decide, by decide, ?_⟩
    simp [occasions, before, watcher, start, InTime, step,
      deadline?, edit_touches]
  have announced : watcher.announcements occasions = [5, 7] := by
    simp [occasions, before, watcher, start, announcements, follow,
      step, edit_touches]
  have inTime :=
    (edits_announced_in_time "policy.json" 5 _ (some 7) ordered).2 _ course
  exact ⟨course, announced,
    inTime.1 before 5 edit [(7, .noMoreNews)] rfl edit_touches, inTime.2.2.2⟩

end Switchyard.Watcher
