import Switchyard.Proofs.Holding

/-!
# Narrowing

What the loop writes is what was stored just before without the candidates that
are no members of the group that was found just before. Where the members keep
their names and nobody else edits the policy, one such write leaves nothing to
take away, so it is the last one, and it changes no decision.
-/

namespace Switchyard

namespace Decision

/-- A decision depends on the candidates only as far as they are members. -/
theorem decide_congr {group : Group} {names others : NameSet}
    (same : ∀ member ∈ group.members, member.name ∈ names ↔
      member.name ∈ others)
    (policy : Policy) (sinceSwitch : Option Nat) (minImprovement : Nat) :
    decide { policy with candidates := names } group sinceSwitch
      minImprovement = decide { policy with candidates := others } group
      sinceSwitch minImprovement := by
  have choice : candidates { policy with candidates := names } group =
      candidates { policy with candidates := others } group :=
    List.filter_congr fun member among => decide_eq_decide.2 (same member among)
  unfold decide decideBy examine
  rw [choice]
  rfl

end Decision

namespace Control

open Routine (Reaches)

variable {Outside : Type}

/-- A policy is what is left of the latest policy that was read or written, for
the latest group that was found. -/
structure Origin (narrower : Policy) (before : List Occurrence) (group : Group)
    (stored : Policy) : Prop where
  found : latest? Occurrence.group? before = some group
  held : latest? Occurrence.held? before = some stored
  left : narrowed? stored group.memberNames = some narrower

/-- What is told in the course of an evaluation is the latest there is, if it
tells anything. -/
theorem latest?_of_dialogue {Fact : Type} {tells : Occurrence → Option Fact}
    (silent : ∀ occurrence, occurrence.isOfEvaluation = false →
      tells occurrence = none)
    {closed former : List Entry} {fact : Fact}
    (told : latest? tells (dialogueOf former) = some fact) :
    latest? tells ((closed ++ former).map Entry.what) = some fact := by
  rw [List.map_append, latest?_append, ← latest?_filter silent,
    ← dialogueOf, told]
  rfl

section Origins

variable {timing : Timing} {last : Option Nat}
  {closed former latter : List Entry} {entry : Entry} {narrower : Policy}

/-- Up to a write, all that is said in its stretch is the way to that write. -/
theorem Account.reaches_of_writes?
    (account : Account timing last (former ++ entry :: latter))
    (written : entry.what.writes? = some narrower) :
    ∃ policy sinceSwitch exchanges resume,
      Reaches (evaluate timing policy sinceSwitch) exchanges
        (.ask (.writePolicy narrower) resume) ∧
      (dialogueOf former = told exchanges ∨
        dialogueOf former =
          told exchanges ++ [.asked (.writePolicy narrower)]) := by
  have spoken : dialogueOf (former ++ entry :: latter) =
      dialogueOf former ++ entry.what :: dialogueOf latter := by
    rw [dialogueOf_append]
    exact congrArg _
      (List.filter_cons_of_pos (Occurrence.isOfEvaluation_of_writes? written))
  cases account with
  | silent silent => simp [spoken] at silent
  | evaluates begins reaches dialogue =>
    have split := dialogue.symm.trans spoken
    rcases Occurrence.cases_of_writes? written with asked | ⟨answer, answered⟩
    · rw [asked] at split
      obtain ⟨before, resume, reached, toldFact⟩ :=
        exists_reaches_of_asked reaches split
      exact ⟨_, _, before, resume, reached, .inl toldFact.symm⟩
    · rw [answered] at split
      obtain ⟨before, resume, reached, toldFact⟩ :=
        exists_reaches_of_answered reaches split
      exact ⟨_, _, before, resume, reached, .inr toldFact.symm⟩

theorem Account.exists_origin
    (account : Account timing last (former ++ entry :: latter))
    (written : entry.what.writes? = some narrower) :
    ∃ group stored,
      Origin narrower ((closed ++ former).map Entry.what) group stored := by
  obtain ⟨policy, sinceSwitch, exchanges, resume, reached, way⟩ :=
    account.reaches_of_writes? written
  obtain ⟨ended, group, stored, rfl, left⟩ := exchanges_of_write reached
  -- The request to write tells nothing, so both ways end with the same facts.
  refine ⟨group, stored,
    latest?_of_dialogue (fun _ => group?_of_not_isOfEvaluation) ?_,
    latest?_of_dialogue (fun _ => Occurrence.held?_of_not_isOfEvaluation) ?_,
    left⟩
  · rcases way with way | way <;> rw [way] <;> rfl
  · rcases way with way | way <;> rw [way] <;> rfl

/-- Whatever the loop writes in a run is narrowed from what it read last. -/
theorem Course.Accounted.exists_origin {course : Course Outside}
    (accounted : course.Accounted) {before after : List Entry}
    (split : course.log = before ++ entry :: after)
    (written : entry.what.writes? = some narrower) :
    ∃ group stored, Origin narrower (before.map Entry.what) group stored := by
  have inside : entry.what.isBeginning = false :=
    Occurrence.isBeginning_of_isOfEvaluation
      (Occurrence.isOfEvaluation_of_writes? written)
  obtain ⟨newer, former, latter, older, stretches, closed, rfl⟩ :=
    exists_stretch_of_split split inside
  exact (accounted.account stretches).exists_origin written

end Origins

/-- The log of a course tells truthfully what became of an initial policy, and
all groups that were found have the same set of member names. -/
structure Steady (names : NameSet) (initial : Policy)
    (course : Course Outside) : Prop where
  accounted : course.Accounted
  truthful : Truthful initial (course.log.map Entry.what)
  named : ∀ entry ∈ course.log, ∀ group ∈ entry.what.group?,
    NameSet.ofList group.memberNames = names

namespace Steady

variable {names : NameSet} {initial narrower : Policy} {course : Course Outside}
  {before after : List Entry} {entry : Entry}

/-- What is written has the candidates among what is stored by then that are
members, and not all of them are. -/
theorem narrowed (steady : Steady names initial course)
    (split : course.log = before ++ entry :: after)
    (written : entry.what.writes? = some narrower) :
    (∀ name, name ∈ narrower.candidates ↔
      name ∈ (heldAfter initial (before.map Entry.what)).candidates ∧
        name ∈ names) ∧
    ∃ name ∈ (heldAfter initial (before.map Entry.what)).candidates,
      name ∉ names := by
  obtain ⟨group, stored, origin⟩ := steady.accounted.exists_origin split written
  have truthful := steady.truthful
  rw [split, List.map_append] at truthful
  rw [(truthful_append.1 truthful).1.heldAfter_eq origin.held]
  have member : ∀ name, name ∈ group.memberNames ↔ name ∈ names := by
    obtain ⟨occurrence, told, found⟩ := exists_of_latest? origin.found
    obtain ⟨query, among, rfl⟩ := List.mem_map.1 told
    have inLog : query ∈ course.log := split ▸ List.mem_append_left _ among
    intro name
    rw [← steady.named query inLog group found, NameSet.mem_ofList]
  obtain ⟨⟨-, name, candidate, stranger⟩, rfl⟩ :=
    narrowed?_eq_some_iff.1 origin.left
  refine ⟨fun name => ?_, ?_⟩
  · rw [← member, Policy.mem_candidates_keeping]
  · exact ⟨name, candidate, fun named => stranger ((member name).2 named)⟩

/-- No write comes after one that succeeded: that one has left members only. -/
theorem unwritten_before (steady : Steady names initial course)
    (split : course.log = before ++ entry :: after)
    (written : entry.what.writes? = some narrower) :
    latest? Occurrence.kept? (before.map Entry.what) = none := by
  obtain ⟨-, name, candidate, stranger⟩ := steady.narrowed split written
  cases last : latest? Occurrence.kept? (before.map Entry.what) with
  | none => rfl
  | some kept =>
    -- The latest write before has left members only, but something else is
    -- stored by now.
    obtain ⟨occurrence, told, keptFact⟩ := exists_of_latest? last
    obtain ⟨write, among, rfl⟩ := List.mem_map.1 told
    obtain ⟨earlier, later, rfl⟩ := List.append_of_mem among
    rw [List.append_assoc] at split
    obtain ⟨members, -⟩ :=
      steady.narrowed split (Occurrence.writes?_of_kept? keptFact)
    rw [heldAfter, last, Option.getD_some] at candidate
    exact absurd ((members name).1 candidate).2 stranger

theorem writes?_after (steady : Steady names initial course)
    (split : course.log = before ++ entry :: after)
    (kept : entry.what.kept? = some narrower) :
    ∀ later ∈ after, later.what.writes? = none := by
  intro later member
  cases written : later.what.writes? with
  | none => rfl
  | some policy =>
    obtain ⟨between, rest, rfl⟩ := List.append_of_mem member
    rw [← List.cons_append, ← List.append_assoc] at split
    have unwritten :=
      latest?_eq_none.1 (steady.unwritten_before split written) entry.what
        (List.mem_map_of_mem (by simp))
    rw [unwritten] at kept
    cases kept

theorem countOf_isKept_le (steady : Steady names initial course) :
    countOf Occurrence.isKept course.log ≤ 1 := by
  cases last : latest? Occurrence.kept? (course.log.map Entry.what) with
  | none =>
    have unwritten := latest?_eq_none.1 last
    rw [countOf_isKept_eq_zero fun entry member =>
      unwritten _ (List.mem_map_of_mem member)]
    exact Nat.zero_le 1
  | some narrower =>
    obtain ⟨occurrence, told, kept⟩ := exists_of_latest? last
    obtain ⟨entry, member, rfl⟩ := List.mem_map.1 told
    obtain ⟨before, after, split⟩ := List.append_of_mem member
    have early : countOf Occurrence.isKept before = 0 := by
      have none :=
        steady.unwritten_before split (Occurrence.writes?_of_kept? kept)
      exact countOf_isKept_eq_zero fun former among =>
        latest?_eq_none.1 none former.what (List.mem_map_of_mem among)
    have late : countOf Occurrence.isKept after = 0 :=
      countOf_isKept_eq_zero fun later among =>
        Occurrence.kept?_of_writes?
          (steady.writes?_after split kept later among)
    rw [split, countOf_append, countOf_cons, early, late]
    split <;> omega

/-- The write takes away only what no member is called, so a decision is as it
was. -/
theorem decide_eq (steady : Steady names initial course)
    (split : course.log = before ++ entry :: after)
    (kept : entry.what.kept? = some narrower) {found : Entry}
    (member : found ∈ course.log) {group : Group}
    (queried : found.what.group? = some group) (policy : Policy)
    (sinceSwitch : Option Nat) (minImprovement : Nat) :
    Decision.decide { policy with candidates := initial.candidates }
        group sinceSwitch minImprovement =
      Decision.decide { policy with candidates := narrower.candidates }
        group sinceSwitch minImprovement := by
  have written := Occurrence.writes?_of_kept? kept
  have first : heldAfter initial (before.map Entry.what) = initial := by
    rw [heldAfter, steady.unwritten_before split written, Option.getD_none]
  obtain ⟨members, -⟩ := steady.narrowed split written
  rw [first] at members
  refine Decision.decide_congr (fun proxy among => ?_) policy sinceSwitch
    minImprovement
  have named : proxy.name ∈ names := by
    rw [← steady.named found member group queried, NameSet.mem_ofList]
    exact List.mem_map_of_mem among
  rw [members, and_iff_left named]

end Steady

/-- Let every group that is found in a run have the same set of member names,
and let nobody but the loop change the policy that is stored. Then at most one
write of the loop succeeds, and after it the loop does not try to write again.
In whatever cycle, the decision is the same with the candidates before that
write as with those after it. -/
theorem narrowing_settles (parties : Parties Outside) (timing : Timing)
    (locale : Locale) {around : Surroundings Outside} (sound : around.bus.Sound)
    {stored : Outside → Policy} (holds : HoldsPolicy parties stored)
    (moves : List (Course.Move Outside))
    (unedited : Course.Unedited parties stored moves
      (Course.start timing locale around))
    (names : NameSet)
    (named :
      ∀ entry ∈ ((Course.start timing locale around).play parties moves).log,
      ∀ group ∈ entry.what.group?, NameSet.ofList group.memberNames = names) :
    let log := ((Course.start timing locale around).play parties moves).log
    countOf Occurrence.isKept log ≤ 1 ∧
    ∀ before entry after narrower, log = before ++ entry :: after →
      entry.what.kept? = some narrower →
      (∀ later ∈ after, later.what.writes? = none) ∧
      ∀ found ∈ log, ∀ group ∈ found.what.group?,
        ∀ (policy : Policy) (sinceSwitch : Option Nat) (minImprovement : Nat),
        Decision.decide
            { policy with candidates := (stored around.outside).candidates }
            group sinceSwitch minImprovement =
          Decision.decide { policy with candidates := narrower.candidates }
            group sinceSwitch minImprovement := by
  intro log
  obtain ⟨added, same, follows⟩ := Course.follows_play holds unedited
  have whole : log = added := same
  have steady : Steady names (stored around.outside)
      ((Course.start timing locale around).play parties moves) :=
    ⟨Course.accounted_play parties timing locale sound moves,
      same ▸ follows.truthful, named⟩
  refine ⟨steady.countOf_isKept_le,
    fun before entry after narrower split kept => ?_⟩
  exact ⟨steady.writes?_after split kept, fun found member group queried =>
    steady.decide_eq split kept member queried⟩

theorem holdsPolicy_keeping : HoldsPolicy keeping Prod.fst where
  reads := fun same => (Except.ok.inj (Option.some.inj same)).symm
  writes := fun _ => rfl
  fails := fun failed => absurd rfl failed
  others := by
    intro request now outside other
    cases request with
    | writePolicy policy => exact absurd rfl (other policy)
    | _ => rfl

/-- Two cycles, between which somebody changes the delays and the selection. -/
def twoCycles : List (Course.Move (Policy × Group)) :=
  List.replicate 4 .step ++
    [.outside (narrowPolicy,
        ⟨"GLOBAL", "C", [⟨"B", "", .ofMillis 50⟩, ⟨"A", "", .ofMillis 500⟩]⟩),
      .pass (Duration.ofSeconds 60)] ++
    List.replicate 4 .step

/-- The candidate that is no member is taken out in the first cycle; the second
one writes nothing. -/
theorem narrowing_settles_in_first_cycle :
    let log := ((Course.start .usual .en .ofListing).play keeping twoCycles).log
    countOf Occurrence.isReading log = 2 ∧ countOf Occurrence.isKept log ≤ 1 ∧
    ∃ before entry after, log = before ++ entry :: after ∧
      entry.what.kept? = some narrowPolicy ∧
      (∀ later ∈ after, later.what.writes? = none) ∧
      ∀ found ∈ log, ∀ group ∈ found.what.group?,
        ∀ (policy : Policy) (sinceSwitch : Option Nat) (minImprovement : Nat),
        Decision.decide { policy with candidates := widePolicy.candidates }
            group sinceSwitch minImprovement =
          Decision.decide { policy with candidates := narrowPolicy.candidates }
            group sinceSwitch minImprovement := by
  intro log
  have shown : countOf Occurrence.isReading log = 2 ∧
      latest? Occurrence.kept? (log.map Entry.what) = some narrowPolicy ∧
      Course.Unedited keeping Prod.fst twoCycles
        (Course.start .usual .en .ofListing) ∧
      ∀ entry ∈ log, ∀ group ∈ entry.what.group?,
        NameSet.ofList group.memberNames = NameSet.ofList ["A", "B"] := by
    decide +kernel
  obtain ⟨twice, last, unedited, named⟩ := shown
  obtain ⟨once, settled⟩ :=
    narrowing_settles keeping .usual .en (Bus.sound_withCapacity _)
      holdsPolicy_keeping twoCycles unedited _ named
  obtain ⟨occurrence, told, kept⟩ := exists_of_latest? last
  obtain ⟨entry, member, rfl⟩ := List.mem_map.1 told
  obtain ⟨before, after, split⟩ := List.append_of_mem member
  exact ⟨twice, once, before, entry, after, split, kept,
    settled before entry after _ split kept⟩

end Control

end Switchyard
