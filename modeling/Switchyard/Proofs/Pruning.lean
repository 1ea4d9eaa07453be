import Mathlib.Data.List.Nodup
import Switchyard.Proofs.Conversation

/-!
# Taking strangers out of the candidates

A candidate that is no member of the group is a stranger to it. Two policies
have a say in whether strangers are taken out: the one that is evaluated, and
the one that is stored by the time of the write. Each must have a member among
its candidates, and a stranger. What is written is the stored one as it was
read, without its strangers. However that goes, the evaluation goes on in the
same way.
-/

namespace Switchyard

namespace NameSet

variable {names : NameSet} {keeps : String → Bool}

theorem nodup (names : NameSet) : names.toList.Nodup :=
  names.increasing.imp String.ne_of_lt

theorem isEmpty_eq_false_iff :
    names.isEmpty = false ↔ ∃ name, name ∈ names := by
  rw [isEmpty, List.isEmpty_eq_false_iff_exists_mem]
  rfl

theorem size_filter_lt_iff :
    (names.filter keeps).size < names.size ↔
      ∃ name ∈ names, keeps name = false := by
  rw [size, size, toList_filter, List.length_filter_lt_length_iff_exists]
  simp only [Bool.not_eq_true]
  rfl

theorem size_filter_eq_zero_iff :
    (names.filter keeps).size = 0 ↔ ¬ ∃ name ∈ names, keeps name = true := by
  rw [size, toList_filter, List.length_eq_zero_iff, List.filter_eq_nil_iff]
  simp only [not_exists, not_and]
  rfl

end NameSet

/-- Whether some candidates are among some names, and some are not. -/
def PartlyIn (names : List String) (candidates : NameSet) : Prop :=
  (∃ name ∈ candidates, name ∈ names) ∧ ∃ name ∈ candidates, name ∉ names

namespace Policy

/-- A policy with only those of its candidates that are among some names. -/
def keeping (names : List String) (policy : Policy) : Policy :=
  { policy with candidates := policy.candidates.filter names.contains }

variable {names : List String} {policy : Policy}

theorem mem_candidates_keeping {name : String} :
    name ∈ (policy.keeping names).candidates ↔
      name ∈ policy.candidates ∧ name ∈ names := by
  rw [keeping, NameSet.mem_filter, List.contains_iff_mem]

theorem isEmpty_keeping (partly : PartlyIn names policy.candidates) :
    (policy.keeping names).candidates.isEmpty = false := by
  obtain ⟨name, candidate, member⟩ := partly.1
  exact NameSet.isEmpty_eq_false_iff.2 ⟨name,
    mem_candidates_keeping.2 ⟨candidate, member⟩⟩

theorem size_keeping_lt (partly : PartlyIn names policy.candidates) :
    (policy.keeping names).candidates.size < policy.candidates.size := by
  obtain ⟨name, candidate, stranger⟩ := partly.2
  exact NameSet.size_filter_lt_iff.2 ⟨name, candidate, by simpa using stranger⟩

end Policy

/-- Where no two members have the same name, there are as many candidates in the
group as candidate names among those of its members. -/
theorem Decision.length_candidates {policy : Policy} {group : Group}
    (distinct : group.memberNames.Nodup) :
    (candidates policy group).length =
      (policy.candidates.filter group.memberNames.contains).size := by
  have found : ((candidates policy group).map Proxy.name).Nodup :=
    distinct.sublist (List.filter_sublist.map _)
  have chosen := (policy.candidates.filter group.memberNames.contains).nodup
  have same := (List.perm_ext_iff_of_nodup found chosen).2 fun name => by
    rw [NameSet.mem_toList, NameSet.mem_filter, List.contains_iff_mem,
      Group.memberNames]
    simp only [List.mem_map, mem_candidates]
    grind
  rw [← List.length_map Proxy.name, same.length_eq]
  rfl

namespace Control

open Routine (Exchange Reaches reaches_done_iff reaches_ask_done_iff
  reaches_ask_cons_iff)

section Left

variable {policy stored narrower : Policy} {group : Group} {names : List String}

theorem narrowed?_eq_some_iff :
    narrowed? stored names = some narrower ↔
      PartlyIn names stored.candidates ∧ narrower = stored.keeping names := by
  have kept : (stored.candidates.filter names.contains).isEmpty = false ↔
      ∃ name ∈ stored.candidates, name ∈ names := by
    rw [NameSet.isEmpty_eq_false_iff]
    simp
  have dropped :
      (stored.candidates.filter fun name => !names.contains name).isEmpty =
        false ↔
      ∃ name ∈ stored.candidates, name ∉ names := by
    rw [NameSet.isEmpty_eq_false_iff]
    simp
  unfold narrowed? PartlyIn
  rw [← kept, ← dropped]
  dsimp only
  split
  · next none =>
    rw [Bool.or_eq_true] at none
    refine iff_of_false nofun fun left => ?_
    rcases none with none | none
    · exact Bool.false_ne_true (left.1.1.symm.trans none)
    · exact Bool.false_ne_true (left.1.2.symm.trans none)
  · next some =>
    rw [Bool.not_eq_true, Bool.or_eq_false_iff] at some
    rw [and_iff_right some, Option.some_inj]
    exact eq_comm

theorem narrowed?_eq_none_iff :
    narrowed? stored names = none ↔ ¬ PartlyIn names stored.candidates := by
  rw [Option.eq_none_iff_forall_ne_some]
  simp only [ne_eq, narrowed?_eq_some_iff, not_and]
  exact ⟨fun unequal partly => unequal _ partly rfl,
    fun wholly _ partly => absurd partly wholly⟩

/-- Where no two members have the same name, counting them tells whether the
candidates are partly in the group. -/
theorem needless_iff (distinct : group.memberNames.Nodup) :
    ((Decision.candidates policy group).length = 0 ∨
      policy.candidates.size ≤ (Decision.candidates policy group).length) ↔
      ¬ PartlyIn group.memberNames policy.candidates := by
  rw [Decision.length_candidates distinct,
    NameSet.size_filter_eq_zero_iff, ← Nat.not_lt,
    NameSet.size_filter_lt_iff, PartlyIn, not_and_or]
  simp

end Left

/-- All that is said to take strangers out of the candidates, from its beginning
to its end. -/
inductive Pruning (policy : Policy) (group : Group) :
    List (Exchange Request.Answer) → Prop where
  | needless (wholly : ¬ PartlyIn group.memberNames policy.candidates) :
    Pruning policy group []
  | unread (partly : PartlyIn group.memberNames policy.candidates)
    (error : StoreError) : Pruning policy group [⟨.readStored, .error error⟩]
  | elsewhere (partly : PartlyIn group.memberNames policy.candidates)
    (stored : Policy) (other : stored.targetGroup ≠ policy.targetGroup) :
    Pruning policy group [⟨.readStored, .ok stored⟩]
  | settled (partly : PartlyIn group.memberNames policy.candidates)
    (stored : Policy)
    (wholly : ¬ PartlyIn group.memberNames stored.candidates) :
    Pruning policy group [⟨.readStored, .ok stored⟩]
  | writes (partly : PartlyIn group.memberNames policy.candidates)
    (stored : Policy) (same : stored.targetGroup = policy.targetGroup)
    (partlyStill : PartlyIn group.memberNames stored.candidates)
    (kept : Except StoreError Unit) : Pruning policy group
      [⟨.readStored, .ok stored⟩,
        ⟨.writePolicy (stored.keeping group.memberNames), kept⟩]

section Dialogues

variable {policy : Policy} {group : Group}
  {exchanges : List (Exchange Request.Answer)}

theorem reaches_narrowCandidates_iff (distinct : group.memberNames.Nodup) :
    Reaches (narrowCandidates policy group) exchanges (.done ()) ↔
      Pruning policy group exchanges := by
  rw [narrowCandidates_eq]
  by_cases partly : PartlyIn group.memberNames policy.candidates
  · rw [if_neg ((not_congr (needless_iff distinct)).2 (not_not_intro partly)),
      reaches_ask_done_iff]
    constructor
    · rintro ⟨read, later, rfl, onward⟩
      cases read with
      | error error =>
        obtain ⟨rfl, -⟩ := reaches_done_iff.1 onward
        exact .unread partly error
      | ok stored =>
        dsimp only at onward
        split at onward
        · next other =>
          obtain ⟨rfl, -⟩ := reaches_done_iff.1 onward
          exact .elsewhere partly stored other
        · next same =>
          cases left : narrowed? stored group.memberNames with
          | none =>
            rw [left] at onward
            obtain ⟨rfl, -⟩ := reaches_done_iff.1 onward
            exact .settled partly stored (narrowed?_eq_none_iff.1 left)
          | some narrower =>
            rw [left] at onward
            obtain ⟨kept, after, rfl, finished⟩ := reaches_ask_done_iff.1 onward
            obtain ⟨rfl, -⟩ := reaches_done_iff.1 finished
            obtain ⟨partlyStill, rfl⟩ := narrowed?_eq_some_iff.1 left
            exact .writes partly stored (not_not.1 same) partlyStill kept
    · intro pruning
      cases pruning with
      | needless wholly => exact absurd partly wholly
      | unread _ error => exact ⟨.error error, [], rfl, .here _⟩
      | elsewhere _ stored other =>
        refine ⟨.ok stored, [], rfl, ?_⟩
        dsimp only
        rw [if_pos other]
        exact .here _
      | settled _ stored wholly =>
        refine ⟨.ok stored, [], rfl, ?_⟩
        dsimp only
        rw [narrowed?_eq_none_iff.2 wholly]
        split <;> exact .here _
      | writes _ stored same partlyStill kept =>
        refine ⟨.ok stored, _, rfl, ?_⟩
        dsimp only
        rw [if_neg (not_not_intro same),
          narrowed?_eq_some_iff.2 ⟨partlyStill, rfl⟩]
        exact reaches_ask_done_iff.2 ⟨kept, [], rfl, .here _⟩
  · rw [if_pos ((needless_iff distinct).2 partly), reaches_done_iff]
    constructor
    · rintro ⟨rfl, -⟩
      exact .needless partly
    · intro pruning
      cases pruning with
      | needless => exact ⟨rfl, rfl⟩
      | _ => contradiction

def Request.written? : Request → Option Policy
  | .writePolicy policy => some policy
  | _ => none

/-- The policies that were to be written, in their order. -/
def writesIn (said : List (Exchange Request.Answer)) : List Policy :=
  said.filterMap fun exchange => exchange.request.written?

/-- A policy is written at most once: where the evaluated one is partly in the
group, and so is the one that was read again, for the same group. -/
theorem Pruning.writesIn_cases (pruning : Pruning policy group exchanges) :
    (∃ stored later, exchanges = ⟨.readStored, .ok stored⟩ :: later ∧
      PartlyIn group.memberNames policy.candidates ∧
      stored.targetGroup = policy.targetGroup ∧
      PartlyIn group.memberNames stored.candidates ∧
      writesIn exchanges = [stored.keeping group.memberNames]) ∨
    writesIn exchanges = [] ∧ (PartlyIn group.memberNames policy.candidates →
      ∃ read later, exchanges = ⟨.readStored, read⟩ :: later ∧
        ∀ stored, read = .ok stored →
          ¬ (stored.targetGroup = policy.targetGroup ∧
          PartlyIn group.memberNames stored.candidates)) := by
  cases pruning with
  | needless wholly => exact .inr ⟨rfl, fun partly => absurd partly wholly⟩
  | unread partly error => exact .inr ⟨rfl, fun _ => ⟨_, [], rfl, nofun⟩⟩
  | elsewhere partly stored other =>
    refine .inr ⟨rfl, fun _ => ⟨_, [], rfl, ?_⟩⟩
    rintro _ ⟨⟩ ⟨same, -⟩
    exact other same
  | settled partly stored wholly =>
    refine .inr ⟨rfl, fun _ => ⟨_, [], rfl, ?_⟩⟩
    rintro _ ⟨⟩ ⟨-, partlyStill⟩
    exact wholly partlyStill
  | writes partly stored same partlyStill kept =>
    exact .inl ⟨stored, _, rfl, partly, same, partlyStill, rfl⟩

/-- Nothing is done besides reading and writing. -/
theorem Pruning.request_of_mem (pruning : Pruning policy group exchanges)
    {exchange : Exchange Request.Answer} (member : exchange ∈ exchanges) :
    exchange.request = .readStored ∨
      ∃ written, exchange.request = .writePolicy written := by
  cases pruning with
  | needless wholly => cases member
  | unread | elsewhere | settled =>
    cases List.mem_singleton.1 member
    exact .inl rfl
  | writes partly stored same partlyStill kept =>
    rcases List.mem_cons.1 member with rfl | last
    · exact .inl rfl
    · cases List.mem_singleton.1 last
      exact .inr ⟨_, rfl⟩

/-- What is written and when, where the answers to all requests are known. -/
theorem Pruning.writesIn_eq {State : Type}
    {answer : (request : Request) → State → request.Answer × State}
    {state : State} (pruning : Pruning policy group
      (((narrowCandidates policy group).transcript answer state).map
        Prod.snd)) :
    let written :=
      writesIn (((narrowCandidates policy group).transcript answer state).map
        Prod.snd)
    (∃ stored, (answer .readStored state).1 = .ok stored ∧
      PartlyIn group.memberNames policy.candidates ∧
      stored.targetGroup = policy.targetGroup ∧
      PartlyIn group.memberNames stored.candidates ∧
      written = [stored.keeping group.memberNames]) ∨
    written = [] ∧ (PartlyIn group.memberNames policy.candidates →
      ∀ stored, (answer .readStored state).1 = .ok stored →
        ¬ (stored.targetGroup = policy.targetGroup ∧
          PartlyIn group.memberNames stored.candidates)) := by
  intro written
  rcases pruning.writesIn_cases with
    ⟨stored, later, said, partly, same, partlyStill, one⟩ | ⟨none, unlessPartly⟩
  · have read := Routine.answer_of_transcript_cons answer said
    exact .inl ⟨stored, read.symm, partly, same, partlyStill, one⟩
  · refine .inr ⟨none, fun partly => ?_⟩
    obtain ⟨read, later, said, excluded⟩ := unlessPartly partly
    rw [← Routine.answer_of_transcript_cons answer said]
    exact excluded

end Dialogues

section Evaluations

variable {timing : Timing} {policy : Policy} {group : Group}
  {sinceSwitch : Option Nat}

/-- After strangers were taken out or not, what is left of the evaluation is to
carry out what was decided for the evaluated policy. -/
theorem reaches_evaluate_narrowed {ended : ProbeEnd}
    (tolerated : ended.IsTolerated) {narrowing : List (Exchange Request.Answer)}
    (narrowed : Reaches (narrowCandidates policy group) narrowing (.done ())) :
    Reaches (evaluate timing policy sinceSwitch)
      (⟨probeRequest timing policy, ended⟩ ::
        ⟨queryRequest policy, .ok group⟩ :: narrowing)
      (carryOut timing policy.targetGroup
        (Decision.decide policy group sinceSwitch
          timing.minImprovement.toNat)) := by
  have onward : Reaches (narrowCandidates policy group >>= fun _ =>
      carryOut timing policy.targetGroup
        (Decision.decide policy group sinceSwitch timing.minImprovement.toNat))
      (narrowing ++ []) _ := narrowed.bind (.here _)
  rw [List.append_nil] at onward
  unfold probeRequest queryRequest
  rw [evaluate_eq, reaches_ask_cons_iff, ProbeEnd.verdict_eq_ok.2 tolerated]
  exact reaches_ask_cons_iff.2 onward

end Evaluations

/-- Strangers are taken out of the candidates in at most one write. It is made
just where the evaluated policy has a member and a stranger among its
candidates, and so has the one that was read again, for the same group; it
writes the one that was read again with fewer candidates, and not none. And
whatever was said to take strangers out, the evaluation goes on as it was
decided for the evaluated policy. -/
theorem narrowing_takes_out_strangers (policy : Policy) (group : Group)
    (distinct : group.memberNames.Nodup) :
    (∀ {State : Type} (answer : (request : Request) → State →
        request.Answer × State)
      (state : State),
      let read := (answer .readStored state).1
      let said :=
        ((narrowCandidates policy group).transcript answer state).map Prod.snd
      (∀ exchange ∈ said, exchange.request = .readStored ∨
        ∃ written, exchange.request = .writePolicy written) ∧
      (writesIn said).length ≤ 1 ∧
      (writesIn said ≠ [] ↔ PartlyIn group.memberNames policy.candidates ∧
        ∃ stored, read = .ok stored ∧ stored.targetGroup = policy.targetGroup ∧
          PartlyIn group.memberNames stored.candidates) ∧
      ∀ written ∈ writesIn said, ∃ stored, read = .ok stored ∧
        written = { stored with candidates := written.candidates } ∧
        (∀ name, name ∈ written.candidates ↔
          name ∈ stored.candidates ∧ name ∈ group.memberNames) ∧
        written.candidates.isEmpty = false ∧
        written.candidates.size < stored.candidates.size) ∧
    ∀ timing sinceSwitch ended narrowing, ProbeEnd.IsTolerated ended →
      Reaches (narrowCandidates policy group) narrowing (.done ()) →
        ∀ later result, (Reaches (evaluate timing policy sinceSwitch)
            (⟨probeRequest timing policy, ended⟩ ::
              ⟨queryRequest policy, .ok group⟩ ::
              narrowing ++ later) (.done result) ↔
          Reaches (carryOut timing policy.targetGroup
              (Decision.decide policy group sinceSwitch
                timing.minImprovement.toNat))
            later (.done result)) := by
  constructor
  · intro State answer state read said
    have pruning : Pruning policy group said :=
      (reaches_narrowCandidates_iff distinct).1
        (Routine.reaches_transcript answer _ state)
    refine ⟨fun exchange member => pruning.request_of_mem member, ?_⟩
    rcases pruning.writesIn_eq with
      ⟨stored, readFact, partly, same, partlyStill, one⟩ | ⟨none, unlessPartly⟩
    · have one : writesIn said = [stored.keeping group.memberNames] := one
      rw [one]
      refine ⟨Nat.le_refl 1,
        iff_of_true (List.cons_ne_nil _ _) ⟨partly, stored, readFact, same,
          partlyStill⟩, ?_⟩
      intro written member
      obtain rfl := List.mem_singleton.1 member
      exact ⟨stored, readFact, rfl, fun name => Policy.mem_candidates_keeping,
        Policy.isEmpty_keeping partlyStill, Policy.size_keeping_lt partlyStill⟩
    · have none : writesIn said = [] := none
      rw [none]
      refine ⟨Nat.zero_le 1, iff_of_false (not_not_intro rfl) ?_,
        List.forall_mem_nil _⟩
      rintro ⟨partly, stored, readFact, same, partlyStill⟩
      exact unlessPartly partly stored readFact ⟨same, partlyStill⟩
  · intro timing sinceSwitch ended narrowing tolerated narrowed later result
    exact (reaches_evaluate_narrowed tolerated narrowed).append_iff

/-- A policy with a stranger to the usual group among its candidates, and with a
probe interval that is too short to be used as it is. -/
def hastyPolicy : Policy :=
  { Policy.initial with
    candidates := NameSet.ofList ["A", "C"], probeIntervalSeconds := 1 }

def pairOfMembers : Group :=
  ⟨"GLOBAL", "A", [⟨"A", "", .ofMillis 50⟩, ⟨"B", "", .ofMillis 60⟩]⟩

/-- Somebody who has a policy stored and refuses every write. -/
def readOnlyStore (stored : Policy) (request : Request) :
    request.Answer × Unit :=
  (match request with
    | .readPolicy => .ok stored.clamped
    | .readStored => .ok stored
    | .writePolicy _ => .error (.other "read-only")
    | .recordStatus _ => .error (.other "read-only")
    | .publish _ => ()
    | .activeProfile => none
    | .remember _ => .error (.other "read-only")
    | .probe _ _ => .outlasted
    | .query _ _ => .ok pairOfMembers
    | .apply _ _ => .ok false
    | .pause _ => (), ())

/-- The stranger is taken out of the policy as it is stored, with its period;
the write fails, and the evaluation ends as if there had been none. -/
theorem narrowing_takes_out_stranger_unclamped :
    let said := ((narrowCandidates hastyPolicy.clamped pairOfMembers).transcript
      (fun request _ => readOnlyStore hastyPolicy request) ()).map Prod.snd
    writesIn said = [{ hastyPolicy with candidates := NameSet.ofList ["A"] }] ∧
      (∀ written ∈ writesIn said,
        written.candidates.size < hastyPolicy.candidates.size) ∧
      Reaches (evaluate .usual hastyPolicy.clamped none)
        (⟨probeRequest .usual hastyPolicy.clamped, .outlasted⟩ ::
          ⟨queryRequest hastyPolicy.clamped, .ok pairOfMembers⟩ :: said)
        (.done (.ok ⟨.kept, .alreadyOptimal "GLOBAL" "A"⟩)) := by
  have narrowing :=
    narrowing_takes_out_strangers hastyPolicy.clamped pairOfMembers (by decide)
  have written :=
    (narrowing.1 (fun request _ => readOnlyStore hastyPolicy request) ()).2.2.2
  have onward := narrowing.2 .usual none .outlasted _ (.inr (.inl rfl))
    (Routine.reaches_transcript
      (fun request _ => readOnlyStore hastyPolicy request) _ ()) []
    (.ok ⟨.kept, .alreadyOptimal "GLOBAL" "A"⟩)
  rw [List.append_nil] at onward
  refine ⟨by decide +kernel, fun one member => ?_, onward.2 ?_⟩
  · obtain ⟨stored, ⟨⟩, -, -, -, smaller⟩ := written one member
    exact smaller
  · exact .here _

end Control

end Switchyard
