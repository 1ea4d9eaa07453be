import Switchyard.Proofs.Narrowing

/-!
# Edits by others

The loop reads what is stored once more before it writes, so an edit that
somebody made during the evaluation is what is narrowed. All that the loop takes
from the latest edit are candidates, and a candidate stays as long as it is a
member each time the policy is narrowed. An edit between that reading and the
write is out of the loop's sight, and a candidate that was once taken out does
not come back with its member.
-/

namespace Switchyard

/-- The policy with only those candidates that are members of all of some
groups. -/
def Policy.narrowedTo (groups : List Group) (policy : Policy) : Policy :=
  { policy with
    candidates := policy.candidates.filter fun name =>
      groups.all fun group => group.memberNames.contains name }

namespace Control

variable {Outside : Type}

section Narrowed

variable {policy narrower : Policy} {groups : List Group}

theorem narrowedTo_nil (policy : Policy) : policy.narrowedTo [] = policy := by
  have all : policy.candidates.filter (fun _ => true) = policy.candidates :=
    NameSet.ext (List.filter_eq_self.2 fun _ _ => rfl)
  rw [Policy.narrowedTo]
  simp only [List.all_nil, all]

/-- Narrowing once more is narrowing for one more group. -/
theorem narrowedTo_concat {group : Group}
    (left : narrowed? (policy.narrowedTo groups) group.memberNames =
      some narrower) :
    narrower = policy.narrowedTo (groups ++ [group]) := by
  obtain ⟨-, rfl⟩ := narrowed?_eq_some_iff.1 left
  have candidates :
      ((policy.narrowedTo groups).candidates.filter
        group.memberNames.contains) =
      (policy.narrowedTo (groups ++ [group])).candidates := by
    refine NameSet.ext ?_
    simp only [Policy.narrowedTo, NameSet.toList_filter, List.filter_filter,
      List.all_append, List.all_cons, List.all_nil, Bool.and_true]
    exact List.filter_congr fun name _ => Bool.and_comm _ _
  rw [Policy.keeping, candidates]
  rfl

end Narrowed

/-- The groups for which the policy was narrowed: for each write that succeeded,
the group that was found last before it. -/
def narrowedFor : Option Group → List Occurrence → List Group
  | _, [] => []
  | found?, occurrence :: later =>
    (if occurrence.isKept then found?.toList else []) ++
      narrowedFor (occurrence.group?.or found?) later

/-- Whether what is stored is read once more before the first write that
succeeds. -/
def RereadsFirst : List Occurrence → Prop
  | [] => True
  | occurrence :: later =>
    occurrence.stored?.isSome ∨ occurrence.kept? = none ∧ RereadsFirst later

instance decidableRereadsFirst :
    (shown : List Occurrence) → Decidable (RereadsFirst shown)
  | [] => isTrue trivial
  | _ :: later =>
    have := decidableRereadsFirst later
    inferInstanceAs (Decidable (_ ∨ _ ∧ _))

section Edits

variable {found? : Option Group} {former latter : List Occurrence}
  {occurrence : Occurrence} {narrower : Policy}

theorem narrowedFor_concat :
    narrowedFor found? (former ++ [occurrence]) =
      narrowedFor found? former ++
        if occurrence.isKept
          then ((latest? Occurrence.group? former).or found?).toList
            else [] := by
  induction former generalizing found? with
  | nil => simp [narrowedFor, latest?]
  | cons first rest restFact =>
    rw [List.cons_append, narrowedFor, restFact, narrowedFor, latest?,
      Option.or_assoc, List.append_assoc]

/-- Before a write that succeeds, what is stored was read. -/
theorem RereadsFirst.isSome_held?
    (rereads : RereadsFirst (former ++ occurrence :: latter))
    (kept : occurrence.kept? = some narrower) :
    (latest? Occurrence.held? former).isSome := by
  induction former with
  | nil =>
    rcases rereads with read | ⟨unwritten, -⟩
    · obtain ⟨policy, stored⟩ := Option.isSome_iff_exists.1 read
      rw [Occurrence.kept?_of_stored? stored] at kept
      cases kept
    · rw [unwritten] at kept
      cases kept
  | cons first rest restFact =>
    rw [latest?, Option.isSome_or, Bool.or_eq_true]
    rcases rereads with read | ⟨-, onward⟩
    · exact .inr (by rw [Occurrence.held?, Option.isSome_or, read]; rfl)
    · exact .inl (restFact onward)

/-- What is left of an edit after some entries: it is narrowed for the groups of
the writes among them. -/
def leftOf (latest : Policy) (settled added : List Entry) : Policy :=
  latest.narrowedTo
    (narrowedFor (latest? Occurrence.group? (settled.map Entry.what))
      (added.map Entry.what))

/-- One more entry after an edit narrows the policy for one more group, or
leaves it as it is. -/
theorem heldAfter_concat {course : Course Outside}
    (accounted : course.Accounted) {settled before after : List Entry}
    {entry : Entry} {latest : Policy}
    (split : course.log = settled ++ before ++ entry :: after)
    (truthful : Truthful latest (before.map Entry.what))
    (rereads : RereadsFirst ((before ++ entry :: after).map Entry.what))
    (upTo : heldAfter latest (before.map Entry.what) =
      leftOf latest settled before) :
    heldAfter latest ((before ++ [entry]).map Entry.what) =
      leftOf latest settled (before ++ [entry]) := by
  rw [leftOf] at upTo ⊢
  rw [List.map_append, heldAfter_append, List.map_singleton, narrowedFor_concat,
    heldAfter_cons]
  cases kept : entry.what.kept? with
  | none =>
    rw [Occurrence.isKept, kept, upTo]
    simp [heldAfter, latest?]
  | some narrower =>
    obtain ⟨group, stored, origin⟩ :=
      accounted.exists_origin split (Occurrence.writes?_of_kept? kept)
    have found := origin.found
    rw [List.map_append, latest?_append] at found
    -- What the write is made from was read after the edit, not before it.
    have held : latest? Occurrence.held? (before.map Entry.what) =
        some stored := by
      have last := origin.held
      rw [List.map_append, latest?_append] at last
      rw [List.map_append, List.map_cons] at rereads
      rwa [Option.or_of_isSome (rereads.isSome_held? kept)] at last
    have left := origin.left
    rw [← truthful.heldAfter_eq held, upTo] at left
    rw [Occurrence.isKept, kept, found]
    exact narrowedTo_concat left

/-- What is stored at the end is the latest edit, narrowed for the groups of the
writes since. -/
theorem heldAfter_eq_leftOf {course : Course Outside}
    (accounted : course.Accounted) {settled added : List Entry}
    {latest : Policy} (split : course.log = settled ++ added)
    (truthful : Truthful latest (added.map Entry.what))
    (rereads : RereadsFirst (added.map Entry.what)) :
    heldAfter latest (added.map Entry.what) = leftOf latest settled added := by
  -- What was added is followed from its beginning.
  suffices upTo : ∀ later before, added = before ++ later →
      heldAfter latest (before.map Entry.what) = leftOf latest settled before →
      heldAfter latest (added.map Entry.what) = leftOf latest settled added from
    upTo added [] rfl (narrowedTo_nil latest).symm
  intro later
  induction later with
  | nil =>
    intro before whole narrowed
    rw [whole, List.append_nil]
    exact narrowed
  | cons entry later laterFact =>
    intro before whole narrowed
    refine laterFact (before ++ [entry]) (by simp [whole]) ?_
    rw [whole] at rereads truthful
    rw [whole, ← List.append_assoc] at split
    rw [List.map_append] at truthful
    exact heldAfter_concat accounted split (truthful_append.1 truthful).1
      rereads narrowed

end Edits

/-- At some moment of a run the policy that is stored is the latest edit, and
nobody but the loop changes it from then on. Unless the loop had read what is
stored before that moment and writes it after, all fields but the candidates
stay as in that edit, and the candidates are those of the edit that are members
of every group for which the policy was narrowed since. -/
theorem edit_kept_by_narrowing (parties : Parties Outside) (timing : Timing)
    (locale : Locale) {around : Surroundings Outside} (sound : around.bus.Sound)
    {stored : Outside → Policy} (holds : HoldsPolicy parties stored)
    (early late : List (Course.Move Outside)) :
    let settled := (Course.start timing locale around).play parties early
    let final := settled.play parties late
    let since := (final.log.drop settled.log.length).map Entry.what
    Course.Unedited parties stored late settled → RereadsFirst since →
    let latest := stored settled.around.outside
    let current := stored final.around.outside
    { current with candidates := latest.candidates } = latest ∧
      ∀ name, name ∈ current.candidates ↔ name ∈ latest.candidates ∧
        ∀ group ∈ narrowedFor
          (latest? Occurrence.group? (settled.log.map Entry.what)) since,
          name ∈ group.memberNames := by
  intro settled final since unedited rereads latest current
  have accounted : final.Accounted := by
    have whole : final = (Course.start timing locale around).play parties
        (early ++ late) :=
      (Course.play_append _ _ _ _).symm
    rw [whole]
    exact Course.accounted_play parties timing locale sound (early ++ late)
  obtain ⟨added, log, follows⟩ := Course.follows_play holds unedited
  have sinceFact : since = added.map Entry.what := by
    have same : final.log = settled.log ++ added := log
    rw [show since = (final.log.drop settled.log.length).map Entry.what
      from rfl, same, List.drop_left]
  rw [sinceFact] at rereads ⊢
  have currentFact : current = latest.narrowedTo _ :=
    follows.after.trans
      (heldAfter_eq_leftOf accounted log follows.truthful rereads)
  rw [currentFact]
  refine ⟨rfl, fun name => ?_⟩
  rw [Policy.narrowedTo, NameSet.mem_filter]
  simp

def choosing (names : List String) : Policy :=
  { Policy.initial with enabled := true, candidates := NameSet.ofList names }

/-- A group whose members are all as fast, with the first one selected. -/
def equallyFast (names : List String) : Group :=
  ⟨"GLOBAL", names.headD "", names.map fun name => ⟨name, "", .ofMillis 50⟩⟩

/-- A policy with more candidates, which somebody has disabled at the same
time. -/
def editedPolicy : Policy :=
  { choosing ["A", "B", "C"] with enabled := false, cooldownSeconds := 7 }

/-- A loop at the beginning of its run, with a store that keeps what is
written. -/
def keptFrom (policy : Policy) (group : Group) : Course (Policy × Group) :=
  .start .usual .en ⟨(policy, group), 0, false, .withCapacity Bus.usualCapacity⟩

/-- What is around a rehearsed loop whose controller takes half a second for a
probe. -/
def slowProbe : Surroundings Rehearsal.Scene :=
  let controller : Rehearsal.Controller :=
    { Rehearsal.Controller.plain with
      members := [⟨"B", "", .ofMillis 50⟩]
      selected := "A"
      probeDelay := 500 }
  ⟨.opening controller (choosing ["B", "C"]) none, 0, false,
    .withCapacity Bus.usualCapacity⟩

/-- A loop that waits for the probe. -/
def probing : Course Rehearsal.Scene :=
  (Course.start .usual .en slowProbe).play Rehearsal.Scene.answer
    [.step, .step, .step]

def editedScene : Rehearsal.Scene :=
  { probing.around.outside with
    store := probing.around.outside.store.update editedPolicy }

/-- The run when somebody edits the policy before the probe is over. -/
def editedMeanwhile : Course Rehearsal.Scene :=
  probing.play Rehearsal.Scene.answer [.outside editedScene]

/-- The run when the probe is over. -/
def narrowedMeanwhile : Course Rehearsal.Scene :=
  editedMeanwhile.play Rehearsal.Scene.answer
    [.pass (Duration.ofMillis 500), .step]

/-- Somebody edits the policy after it was read for an evaluation; the
evaluation narrows the edit. So it does in a rehearsed run, where the controller
is busy with a probe meanwhile. -/
theorem edit_kept_during_evaluation :
    (let settled :=
      (keptFrom (choosing ["A", "C"]) (equallyFast ["A", "B"])).play keeping
        [.step, .step, .outside (editedPolicy, equallyFast ["A", "B"])]
    let final := settled.play keeping [.step]
    let current := final.around.outside.1
    latest? Occurrence.kept? (final.log.map Entry.what) = some current ∧
      { current with candidates := editedPolicy.candidates } = editedPolicy ∧
      "B" ∈ current.candidates) ∧
    let current := narrowedMeanwhile.around.outside.store.stored
    editedMeanwhile.isPending = true ∧
      latest? Occurrence.kept? (narrowedMeanwhile.log.map Entry.what) =
        some current ∧
      { current with candidates := editedPolicy.candidates } = editedPolicy ∧
      "B" ∈ current.candidates ∧ "C" ∉ current.candidates := by
  constructor
  · intro settled final current
    have shown : latest? Occurrence.kept? (final.log.map Entry.what) =
        some current ∧ Course.Unedited keeping Prod.fst [.step] settled ∧
        RereadsFirst ((final.log.drop settled.log.length).map Entry.what) ∧
        ∀ group ∈ narrowedFor
          (latest? Occurrence.group? (settled.log.map Entry.what))
          ((final.log.drop settled.log.length).map Entry.what),
            "B" ∈ group.memberNames := by
      decide +kernel
    obtain ⟨written, unedited, rereads, member⟩ := shown
    obtain ⟨fields, candidates⟩ := edit_kept_by_narrowing keeping .usual .en
      (Bus.sound_withCapacity _) holdsPolicy_keeping
      [.step, .step, .outside (editedPolicy, equallyFast ["A", "B"])] [.step]
      unedited rereads
    exact ⟨written, fields, (candidates "B").2 ⟨by decide, member⟩⟩
  · have shown : editedMeanwhile.isPending = true ∧
        latest? Occurrence.kept? (narrowedMeanwhile.log.map Entry.what) =
          some narrowedMeanwhile.around.outside.store.stored ∧
        editedMeanwhile.around.outside.store.stored = editedPolicy ∧
        Course.Unedited Rehearsal.Scene.answer (fun scene => scene.store.stored)
          [.pass (Duration.ofMillis 500), .step] editedMeanwhile ∧
        let since :=
          (narrowedMeanwhile.log.drop editedMeanwhile.log.length).map Entry.what
        let groups :=
          narrowedFor
            (latest? Occurrence.group? (editedMeanwhile.log.map Entry.what))
            since
        RereadsFirst since ∧ (∀ group ∈ groups, "B" ∈ group.memberNames) ∧
          ∃ group ∈ groups, "C" ∉ group.memberNames := by
      decide +kernel
    obtain ⟨pending, written, edited, unedited, rereads, member, stranger,
        narrowed, foreign⟩ :=
      shown
    have narrowing := edit_kept_by_narrowing Rehearsal.Scene.answer .usual .en
      (show slowProbe.bus.Sound from Bus.sound_withCapacity _)
      Rehearsal.Scene.holdsPolicy
      ([.step, .step, .step] ++ [.outside editedScene])
      [.pass (Duration.ofMillis 500), .step]
    rw [Course.play_append, ← probing, ← editedMeanwhile] at narrowing
    dsimp only at narrowing
    rw [← narrowedMeanwhile, edited] at narrowing
    obtain ⟨fields, candidates⟩ := narrowing unedited rereads
    exact ⟨pending, written, fields, (candidates "B").2 ⟨by decide, member⟩,
      fun kept => foreign (((candidates "C").1 kept).2 stranger narrowed)⟩

def Request.isWrite : Request → Bool
  | .writePolicy _ => true
  | _ => false

/-- Parties that answer no write until they are ready to. -/
def hesitant (parties : Parties Outside) : Parties (Outside × Bool) :=
  fun request now (outside, ready) =>
    if request.isWrite && !ready then (none, (outside, ready))
    else
      ((parties request now outside).1,
        ((parties request now outside).2, ready))

theorem HoldsPolicy.hesitant {parties : Parties Outside}
    {stored : Outside → Policy} (holds : HoldsPolicy parties stored) :
    HoldsPolicy (hesitant parties) fun outside => stored outside.1 where
  reads := fun given => holds.reads given
  writes := by
    intro now (outside, ready) policy given
    cases ready with
    | false => cases given
    | true => exact holds.writes given
  fails := by
    intro now (outside, ready) policy failed
    cases ready with
    | false => rfl
    | true => exact holds.fails failed
  others := by
    intro request now outside other
    cases request with
    | writePolicy policy => exact absurd rfl (other policy)
    | _ => exact holds.others other

/-- Three steps into a run the loop has read what is stored and waits to write
it. -/
def aboutToWrite : Course ((Policy × Group) × Bool) :=
  (Course.start .usual .en
    ⟨((choosing ["A", "C"], equallyFast ["A", "B"]), false), 0, false,
      .withCapacity Bus.usualCapacity⟩).play (hesitant keeping)
        [.step, .step, .step]

/-- The run when somebody has edited the policy just then, and it is written
after that. -/
def writtenOver : Course ((Policy × Group) × Bool) :=
  aboutToWrite.play (hesitant keeping)
    [.outside ((editedPolicy, equallyFast ["A", "B"]), true), .step]

/-- A run in which the policy was edited at first, with a cycle for it. -/
def narrowedOnce : Course (Policy × Group) :=
  (keptFrom .initial (equallyFast ["A", "B"])).play keeping
    (.outside (choosing ["A", "B", "C"], equallyFast ["A", "B"]) ::
      List.replicate 4 .step)

/-- The run when the group has another member after that, with a cycle for
it. -/
def narrowedTwice : Course (Policy × Group) :=
  narrowedOnce.play keeping
    ([.outside (narrowedOnce.around.outside.1, equallyFast ["A", "C"]),
      .pass (Duration.ofSeconds 60)] ++ List.replicate 4 .step)

/-- The edit that came between reading and writing is written over, and the
candidate that was no member once is not there when it is a member for the
second write. -/
theorem edits_lost_by_narrowing :
    (HoldsPolicy (hesitant keeping) (fun outside => outside.1.1) ∧
      let current := writtenOver.around.outside.1.1
      latest? Occurrence.kept? (writtenOver.log.map Entry.what) = some current ∧
        current.enabled ≠ editedPolicy.enabled ∧
        current.cooldownSeconds ≠ editedPolicy.cooldownSeconds ∧
        "B" ∈ editedPolicy.candidates ∧
        "B" ∈ (equallyFast ["A", "B"]).memberNames ∧ "B" ∉ current.candidates) ∧
    HoldsPolicy keeping Prod.fst ∧
      let current := narrowedTwice.around.outside.1
      latest? Occurrence.kept? (narrowedTwice.log.map Entry.what) =
        some current ∧
        latest? Occurrence.group? (narrowedTwice.log.map Entry.what) =
          some (equallyFast ["A", "C"]) ∧
        "C" ∈ (choosing ["A", "B", "C"]).candidates ∧
        "C" ∈ (equallyFast ["A", "C"]).memberNames ∧ "C" ∉ current.candidates :=
  ⟨⟨holdsPolicy_keeping.hesitant, by decide +kernel⟩, holdsPolicy_keeping,
    by decide +kernel⟩

end Control

end Switchyard
