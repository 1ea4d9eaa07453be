import Switchyard.Proofs.Account
import Switchyard.Proofs.Pruning

/-!
# The favourite of a policy

Where a move leads does not depend on the current selection: it is the favourite
of the policy among the members of the group. All that the loop ever writes is a
policy with fewer candidates, none of which is a member, and so has the same
favourite. As long as nobody else edits the policy and the members do not
change, every move of a run leads to one and the same proxy.
-/

namespace Switchyard

namespace Decision

/-- What a policy chooses from some members, whichever is selected. -/
def favourite? (policy : Policy) (members : List Proxy) : Option Proxy :=
  best? (pool policy.preferStableOnly (candidates policy ⟨"", "", members⟩))

theorem Justified.favourite?_eq {policy : Policy} {group : Group}
    {sinceSwitch : Option Nat} {minImprovement : Nat} {target : Proxy}
    (justified : Justified policy group sinceSwitch minImprovement target) :
    favourite? policy group.members = some target :=
  justified.best

/-- Whether two policies choose in the same way from some members. -/
structure Akin (members : List Proxy) (policy other : Policy) : Prop where
  preference : policy.preferStableOnly = other.preferStableOnly
  choice : ∀ member ∈ members, member.name ∈ policy.candidates ↔
    member.name ∈ other.candidates

section Akin

variable {members : List Proxy} {policy other third : Policy}

theorem Akin.refl (members : List Proxy) (policy : Policy) :
    Akin members policy policy :=
  ⟨rfl, fun _ _ => Iff.rfl⟩

theorem Akin.trans (former : Akin members policy other)
    (latter : Akin members other third) :
    Akin members policy third :=
  ⟨former.preference.trans latter.preference,
    fun member among =>
      (former.choice member among).trans (latter.choice member among)⟩

theorem Akin.favourite?_eq (akin : Akin members policy other) :
    favourite? policy members = favourite? other members := by
  have same : candidates policy ⟨"", "", members⟩ = candidates other ⟨"",
      "", members⟩ :=
    List.filter_congr fun member among =>
      decide_eq_decide.2 (akin.choice member among)
  rw [favourite?, favourite?, akin.preference, same]

theorem Akin.clamped (members : List Proxy) (policy : Policy) :
    Akin members policy policy.clamped :=
  ⟨rfl, fun _ _ => Iff.rfl⟩

end Akin

end Decision

namespace Control

open Decision (Akin favourite?)

variable {Outside : Type}

theorem akin_narrowed? {group : Group} {stored narrower : Policy}
    (left : narrowed? stored group.memberNames = some narrower) :
    Akin group.members stored narrower := by
  obtain ⟨-, rfl⟩ := narrowed?_eq_some_iff.1 left
  refine ⟨rfl, fun member among => ?_⟩
  have named : member.name ∈ group.memberNames := List.mem_map_of_mem among
  rw [Policy.mem_candidates_keeping]
  exact (and_iff_left named).symm

namespace Occurrence

/-- The policy that was to be written. -/
def written? : Occurrence → Option Policy
  | .asked (.writePolicy policy) => some policy
  | _ => none

/-- The stored policy that was read. -/
def stored? : Occurrence → Option Policy
  | .answered .readStored (.ok policy) => some policy
  | _ => none

theorem eq_of_written? {occurrence : Occurrence} {policy : Policy}
    (written : occurrence.written? = some policy) :
    occurrence = .asked (.writePolicy policy) := by
  unfold written? at written
  split at written
  · cases written
    rfl
  · cases written

end Occurrence

/-- The policies that were to be written. -/
def writtenIn (entries : List Entry) : List Policy :=
  entries.flatMap fun entry => entry.what.written?.toList

/-- Whether all that is read is one of some policies or was to be written
before. What is read to work on has its periods raised. -/
def ReadsAmong : List Policy → List Entry → Prop
  | _, [] => True
  | policies, entry :: later =>
    ((∀ policy ∈ entry.what.stored?, policy ∈ policies) ∧
      ∀ policy ∈ entry.what.policy?, policy ∈ policies.map Policy.clamped) ∧
    ReadsAmong (policies ++ entry.what.written?.toList) later

instance decidableReadsAmong :
    (policies : List Policy) → (log : List Entry) →
      Decidable (ReadsAmong policies log)
  | _, [] => isTrue trivial
  | policies, entry :: later =>
    have := decidableReadsAmong (policies ++ entry.what.written?.toList) later
    inferInstanceAs (Decidable (_ ∧ _))

theorem ReadsAmong.of_append {policies : List Policy}
    {before after : List Entry} (reads : ReadsAmong policies (before ++ after))
    {entry : Entry} (member : entry ∈ before) :
    (∀ policy ∈ entry.what.stored?, policy ∈ policies ++ writtenIn before) ∧
      ∀ policy ∈ entry.what.policy?,
        policy ∈ (policies ++ writtenIn before).map Policy.clamped := by
  induction before generalizing policies with
  | nil => cases member
  | cons first rest restFact =>
    obtain ⟨here, onward⟩ := reads
    rcases List.mem_cons.1 member with rfl | among
    · refine ⟨fun policy read => List.mem_append_left _ (here.1 policy read),
        fun policy read => ?_⟩
      rw [List.map_append]
      exact List.mem_append_left _ (here.2 policy read)
    · rw [writtenIn, List.flatMap_cons, ← List.append_assoc]
      exact restFact onward among

section Runs

variable {course : Course Outside} {initial : Policy} {members : List Proxy}

/-- What is written after policies that choose in the same way chooses in that
way, too. -/
theorem akin_of_write (accounted : course.Accounted)
    (reads : ReadsAmong [initial] course.log)
    (constant : ∀ entry ∈ course.log,
      ∀ group ∈ entry.what.group?, group.members = members)
    {before later : List Entry} {entry : Entry}
    (split : course.log = before ++ entry :: later)
    (akin : ∀ policy ∈ initial :: writtenIn before, Akin members initial policy)
    {narrower : Policy}
    (written : entry.what = .asked (.writePolicy narrower)) :
    Akin members initial narrower := by
  obtain ⟨newer, former, latter, older, stretches, formerBefore⟩ :=
    exists_stretch_of_entry split (by rw [written]; rfl)
  obtain ⟨group, stored, ⟨query, queryMember, found⟩,
      ⟨reading, readingMember, read⟩, left⟩ :=
    (accounted.account stretches).of_write written
  have inLog : query ∈ course.log := by
    rw [split]
    exact List.mem_append_left _ (formerBefore queryMember)
  obtain rfl := constant query inLog group found
  rw [split] at reads
  have known : stored ∈ initial :: writtenIn before :=
    (reads.of_append (formerBefore readingMember)).1 stored (by rw [read]; rfl)
  exact (akin stored known).trans (akin_narrowed? left)

theorem akin_of_written (accounted : course.Accounted)
    (reads : ReadsAmong [initial] course.log)
    (constant : ∀ entry ∈ course.log,
      ∀ group ∈ entry.what.group?, group.members = members) :
    ∀ policy ∈ initial :: writtenIn course.log,
      Akin members initial policy := by
  -- The log is followed from its beginning; what was written up to some entry
  -- is akin.
  suffices upTo : ∀ later before, course.log = before ++ later →
      (∀ policy ∈ initial :: writtenIn before, Akin members initial policy) →
      ∀ policy ∈ initial :: writtenIn course.log,
        Akin members initial policy from
    upTo course.log [] rfl (List.forall_mem_singleton.2 (.refl members initial))
  intro later
  induction later with
  | nil =>
    intro before split akin
    rw [split, List.append_nil]
    exact akin
  | cons entry later laterFact =>
    intro before split akin
    refine laterFact (before ++ [entry]) (by simp [split])
      fun policy member => ?_
    rw [writtenIn, List.flatMap_append, List.flatMap_singleton,
      ← List.cons_append] at member
    rcases List.mem_append.1 member with known | added
    · exact akin policy known
    · have written := Occurrence.eq_of_written? (Option.mem_toList.1 added)
      exact akin_of_write accounted reads constant split akin written

/-- Where a move is made in a stretch, it leads to the favourite, which was not
selected. -/
theorem moved_to_favourite (accounted : course.Accounted)
    (reads : ReadsAmong [initial] course.log)
    (constant : ∀ entry ∈ course.log,
      ∀ group ∈ entry.what.group?, group.members = members)
    {newer older : List (List Entry)} {stretch : List Entry}
    (split : stretchesOf course.log = newer ++ stretch :: older)
    {move : Nat × String} (moved : move ∈ movesOf stretch) :
    (favourite? initial members).map Proxy.name = some move.2 ∧
      ∃ answer, queried? stretch = some answer ∧
      answer.selected? ≠ some move.2 := by
  obtain ⟨began, policy, answer, plan, begins, found, decided, target⟩ :=
    (accounted.account split).of_move moved
  have justified := Decision.justified_of_decide decided
  have inLog : stretch ⊆ course.log := subset_of_stretchesOf split
  have sameMembers : answer.members = members := by
    obtain ⟨query, member, group⟩ := List.exists_of_findSome?_eq_some found
    exact constant query (inLog member) answer group
  have akin : Akin members initial policy := by
    obtain ⟨former, later, rfl, -⟩ := begins
    rw [← List.append_nil course.log] at reads
    have read :=
      (reads.of_append (inLog (List.mem_append_right _ List.mem_cons_self))).2
        policy rfl
    obtain ⟨stored, known, rfl⟩ := List.mem_map.1 read
    rw [List.append_nil] at reads
    exact (akin_of_written accounted reads constant stored known).trans
      (.clamped members stored)
  refine ⟨?_, answer, found, target ▸ justified.unselected⟩
  rw [akin.favourite?_eq, ← sameMembers, justified.favourite?_eq, target]
  rfl

end Runs

/-- Let every query of a run find the same members, and let nobody but the loop
edit the policy. Then all moves lead to one and the same proxy, the favourite of
the initial policy, and no move is made in a cycle whose query finds that it is
selected. -/
theorem moves_lead_to_favourite (parties : Parties Outside) (timing : Timing)
    (locale : Locale) {around : Surroundings Outside} (sound : around.bus.Sound)
    (moves : List (Course.Move Outside)) (initial : Policy)
    (members : List Proxy)
    (reads : ReadsAmong [initial]
      ((Course.start timing locale around).play parties moves).log)
    (constant :
      ∀ entry ∈ ((Course.start timing locale around).play parties moves).log,
      ∀ group ∈ entry.what.group?, group.members = members) :
    let log := ((Course.start timing locale around).play parties moves).log
    (∀ move ∈ movesOf log, (favourite? initial members).map Proxy.name =
        some move.2) ∧
      ∀ stretch ∈ stretchesOf log, ∀ answer, queried? stretch = some answer →
        answer.selected? = (favourite? initial members).map Proxy.name →
        movesOf stretch = [] := by
  intro log
  have accounted := Course.accounted_play parties timing locale sound moves
  refine ⟨fun move moved => ?_, fun stretch member answer found selected => ?_⟩
  · obtain ⟨stretch, among, movedThere⟩ := exists_stretch_of_move moved
    obtain ⟨newer, older, split⟩ := List.append_of_mem among
    exact (moved_to_favourite accounted reads constant split movedThere).1
  · obtain ⟨newer, older, split⟩ := List.append_of_mem member
    refine List.eq_nil_iff_forall_not_mem.2 fun move moved => ?_
    obtain ⟨favourite, other, otherFound, unselected⟩ :=
      moved_to_favourite accounted reads constant split moved
    cases found.symm.trans otherFound
    exact unselected (selected.trans favourite)

/-- Parties that answer as well as they can: a store that keeps what is written,
and a controller that takes every move and shows it from then on. -/
def keeping : Parties (Policy × Group) := fun request _ (stored, group) =>
  (some (match request with
    | .readPolicy => .ok stored.clamped
    | .readStored => .ok stored
    | .writePolicy _ => .ok ()
    | .recordStatus _ => .ok ()
    | .publish _ => ()
    | .activeProfile => none
    | .remember _ => .ok ()
    | .probe _ _ => .finished (.ok ())
    | .query _ _ => .ok group
    | .apply _ _ => .ok true
    | .pause _ => ()),
  match request with
    | .writePolicy policy => (policy, group)
    | .apply _ proxy => (stored, { group with selected := proxy })
    | _ => (stored, group))

/-- A policy with one candidate that is no member, and what is left of it. -/
def widePolicy : Policy :=
  { Policy.initial with
    enabled := true, candidates := NameSet.ofList ["A", "B", "C"] }

def narrowPolicy : Policy :=
  { widePolicy with candidates := NameSet.ofList ["A", "B"] }

def listing (selected : String) : Group :=
  ⟨"GLOBAL", selected, [⟨"A", "", .ofMillis 50⟩, ⟨"B", "", .ofMillis 500⟩]⟩

def Surroundings.ofListing : Surroundings (Policy × Group) :=
  ⟨(widePolicy, listing "B"), 0, false, .withCapacity Bus.usualCapacity⟩

/-- Two moves that are made and a cycle without a move: somebody else changes
the selection after the first move, and the last cycle finds it as the second
one left it. -/
def tripleLook : Course (Policy × Group) :=
  (Course.start .usual .en .ofListing).play keeping
    (List.replicate 5 .step ++
      [.outside (narrowPolicy, listing "B"), .pass (Duration.ofSeconds 60)] ++
      List.replicate 6 .step ++ [.notice .policyChanged] ++
      List.replicate 4 .step)

/-- The policy is written once, and both moves lead to the same proxy. -/
theorem moves_lead_to_favourite_again :
    writtenIn tripleLook.log = [narrowPolicy] ∧
      (movesOf tripleLook.log).length = 2 ∧
      (∀ move ∈ movesOf tripleLook.log, some "A" = some move.2) ∧
      ∃ last earlier, stretchesOf tripleLook.log = last :: earlier ∧
        queried? last = some (listing "A") ∧ movesOf last = [] := by
  have shown : writtenIn tripleLook.log = [narrowPolicy] ∧
      (movesOf tripleLook.log).length = 2 ∧
      ReadsAmong [widePolicy] tripleLook.log ∧
      (∀ entry ∈ tripleLook.log, ∀ group ∈ entry.what.group?,
        group.members = (listing "B").members) ∧
      queried? ((stretchesOf tripleLook.log).headD []) =
        some (listing "A") := by
    decide +kernel
  obtain ⟨written, twice, reads, constant, found⟩ := shown
  have favourite : (favourite? widePolicy (listing "B").members).map
      Proxy.name = some "A" := by
    decide +kernel
  obtain ⟨same, unmoved⟩ :=
    @moves_lead_to_favourite _ keeping .usual .en .ofListing
      (Bus.sound_withCapacity _) _ widePolicy (listing "B").members
      reads constant
  rw [favourite] at same unmoved
  obtain ⟨last, earlier, split⟩ := exists_stretchesOf tripleLook.log
  rw [split] at found
  refine ⟨written, twice, same, last, earlier, split, found, ?_⟩
  exact unmoved last (split ▸ List.mem_cons_self) _ found (by decide)

end Control

end Switchyard
