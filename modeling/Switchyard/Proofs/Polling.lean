import Switchyard.Proofs.Evaluation

/-!
# A move poll by poll

A move is applied once. If the controller fails or refuses it, that is the end
of it. If the controller takes it, it is remembered at most once, whatever comes
of that, and then polls follow, each after a pause: the first one that fails or
shows the target is the last, and there are as many as attempts where none does.
`reaches_makeMove_iff` says that a move comes to its end in just these ways, and
with a clock for which a pause takes its time, no poll comes early.
-/

namespace Switchyard

/-- Whether something is selected in a group, and it is the target. -/
def Group.Shows (target : String) (group : Group) : Prop :=
  Text.isBlank group.selected = false ∧ group.selected = target

theorem Group.shows_iff {target : String} {group : Group} :
    group.Shows target ↔ group.selected? = some target := by
  unfold Group.Shows Group.selected?
  cases Text.isBlank group.selected <;> simp

namespace Control

open Routine (Exchange Reaches reaches_done_iff reaches_ask_done_iff
  reaches_bind_done_iff)

section Polls

variable {target : String} {attempts : Nat} {observed : Option String}
  {polls : List (Except ControllerError Group)}
  {result : Except ControllerError SwitchResult}

/-- Whether a poll leaves it open what becomes of a move: it found the group,
and the target is not what is selected. -/
def LeavesOpen (target : String) : Except ControllerError Group → Prop
  | .error _ => False
  | .ok seen => ¬ seen.Shows target

/-- What a poll settles: it failed, or it showed the target. -/
inductive Settles (target : String) :
    Except ControllerError Group → Except ControllerError SwitchResult →
      Prop where
  | fails (error : ControllerError) :
    Settles target (.error error) (.error error)
  | shows {seen : Group} (shown : seen.Shows target) :
    Settles target (.ok seen) (.ok .confirmed)

/-- What the last of some polls showed as the selection. Without polls, it is
what was observed before. -/
def lastShown (observed : Option String)
    (polls : List (Except ControllerError Group)) : Option String :=
  polls.getLast?.elim observed fun poll =>
    poll.toOption.bind Group.selectedDisplay?

/-- How polls for a target come to an end, where there are a number of attempts:
the last of them settles it, or none does and there are as many as attempts. -/
inductive PollsEnd (target : String) (attempts : Nat)
    (observed : Option String) :
    List (Except ControllerError Group) → Except ControllerError SwitchResult →
      Prop where
  | settles {earlier : List (Except ControllerError Group)}
    (unsettled : ∀ poll ∈ earlier, LeavesOpen target poll)
    (within : earlier.length < attempts) {poll : Except ControllerError Group}
    {result : Except ControllerError SwitchResult}
    (settled : Settles target poll result) :
    PollsEnd target attempts observed (earlier ++ [poll]) result
  | runsOut {polls : List (Except ControllerError Group)}
    (unsettled : ∀ poll ∈ polls, LeavesOpen target poll)
    (all : polls.length = attempts) :
      PollsEnd target attempts observed polls
        (.ok (.confirmFailed (lastShown observed polls)))

theorem lastShown_cons (observed : Option String) (seen : Group)
    (later : List (Except ControllerError Group)) :
    lastShown observed (.ok seen :: later) =
      lastShown seen.selectedDisplay? later := by
  cases later with
  | nil => rfl
  | cons poll later =>
    unfold lastShown
    rw [List.getLast?_cons_cons, List.getLast?_cons]
    rfl

theorem pollsEnd_zero_iff :
    PollsEnd target 0 observed polls result ↔
      polls = [] ∧ result = .ok (.confirmFailed observed) := by
  constructor
  · intro ends
    cases ends with
    | settles unsettled within settled =>
      exact absurd within (Nat.not_lt_zero _)
    | runsOut unsettled all =>
      obtain rfl := List.length_eq_zero_iff.1 all
      exact ⟨rfl, rfl⟩
  · rintro ⟨rfl, rfl⟩
    exact .runsOut (by simp) rfl

/-- A poll that leaves it open is followed by polls with one attempt less. -/
theorem PollsEnd.cons {seen : Group} (unshown : ¬ seen.Shows target)
    (ends : PollsEnd target attempts seen.selectedDisplay? polls result) :
    PollsEnd target (attempts + 1) observed (.ok seen :: polls) result := by
  have first : LeavesOpen target (.ok seen) := unshown
  cases ends with
  | settles laterFact within settled =>
    exact .settles (List.forall_mem_cons.2 ⟨first, laterFact⟩)
      (Nat.succ_lt_succ within) settled
  | runsOut laterFact all =>
    rw [← lastShown_cons observed]
    exact .runsOut (List.forall_mem_cons.2 ⟨first, laterFact⟩)
      (congrArg Nat.succ all)

/-- The first poll settles it, or it leaves it to the polls after it. -/
theorem pollsEnd_succ_iff :
    PollsEnd target (attempts + 1) observed polls result ↔
      (∃ poll, polls = [poll] ∧ Settles target poll result) ∨
      ∃ seen later, polls = .ok seen :: later ∧ ¬ seen.Shows target ∧
        PollsEnd target attempts seen.selectedDisplay? later result := by
  constructor
  · intro ends
    cases ends with
    | @settles earlier unsettled within poll result settled =>
      cases earlier with
      | nil => exact .inl ⟨poll, rfl, settled⟩
      | cons first earlier =>
        obtain ⟨firstFact, restFact⟩ := List.forall_mem_cons.1 unsettled
        cases first with
        | error other => exact firstFact.elim
        | ok seen =>
          exact .inr ⟨seen, _, rfl, firstFact,
            .settles restFact (Nat.lt_of_succ_lt_succ within) settled⟩
    | runsOut unsettled all =>
      cases polls with
      | nil => cases all
      | cons first later =>
        obtain ⟨firstFact, restFact⟩ := List.forall_mem_cons.1 unsettled
        cases first with
        | error other => exact firstFact.elim
        | ok seen =>
          rw [lastShown_cons]
          exact .inr ⟨seen, later, rfl, firstFact,
            .runsOut restFact (Nat.succ.inj all)⟩
  · rintro (⟨poll, rfl, settled⟩ | ⟨seen, later, rfl, unshown, ends⟩)
    · exact @PollsEnd.settles _ _ _ [] (List.forall_mem_nil _)
        (Nat.succ_pos _) _ _ settled
    · exact ends.cons unshown

end Polls

/-- The requests of a poll with their answers: a pause, and then the query. -/
def pollExchanges (timing : Timing) (group : String)
    (poll : Except ControllerError Group) : List (Exchange Request.Answer) :=
  [⟨.pause (Duration.ofMillis timing.confirmInterval.toNat), ()⟩,
    ⟨.query group .byDelay, poll⟩]

/-- What is said when a selection is to be remembered: there is nobody to
remember it for, or it is saved once, with whatever success. -/
inductive Remembering (group proxy : String) :
    List (Exchange Request.Answer) → Prop where
  | forNobody : Remembering group proxy [⟨.activeProfile, none⟩]
  | saves (profile : String) (kept : Except StoreError Unit) :
    Remembering group proxy
      [⟨.activeProfile, some profile⟩,
        ⟨.remember ⟨profile, group, proxy⟩, kept⟩]

/-- All that is said in a move to a target from its beginning to its end, and
what it comes to. -/
inductive MoveMade (timing : Timing) (group target : String) :
    List (Exchange Request.Answer) → Except ControllerError SwitchResult →
      Prop where
  | fails (error : ControllerError) :
    MoveMade timing group target [⟨.apply group target, .error error⟩]
      (.error error)
  | refused : MoveMade timing group target [⟨.apply group target, .ok false⟩]
    (.ok .applyFailed)
  | polls {remembering : List (Exchange Request.Answer)}
    (remembered : Remembering group target remembering)
    {polls : List (Except ControllerError Group)}
    {result : Except ControllerError SwitchResult}
    (ends : PollsEnd target timing.confirmAttempts.toNat none polls result) :
    MoveMade timing group target
      (⟨.apply group target, .ok true⟩ :: remembering ++
        polls.flatMap (pollExchanges timing group))
      result

section Dialogues

variable {timing : Timing} {group target : String}
  {exchanges : List (Exchange Request.Answer)}
  {result : Except ControllerError SwitchResult}

theorem reaches_rememberSelection_iff :
    Reaches (rememberSelection group target) exchanges (.done ()) ↔
      Remembering group target exchanges := by
  rw [rememberSelection_eq, reaches_ask_done_iff]
  constructor
  · rintro ⟨profile, later, rfl, onward⟩
    cases profile with
    | none =>
      obtain ⟨rfl, -⟩ := reaches_done_iff.1 onward
      exact .forNobody
    | some profile =>
      obtain ⟨kept, after, rfl, finished⟩ := reaches_ask_done_iff.1 onward
      obtain ⟨rfl, -⟩ := reaches_done_iff.1 finished
      exact .saves profile kept
  · intro remembering
    cases remembering with
    | forNobody => exact ⟨none, [], rfl, .here _⟩
    | saves profile kept =>
      exact ⟨some profile, _, rfl,
        reaches_ask_done_iff.2 ⟨kept, [], rfl, .here _⟩⟩

/-- Waiting for a move to show up is polling for it, and comes to what the polls
come to. -/
theorem reaches_confirm_iff {attempts : Nat} {observed : Option String} :
    Reaches (confirm timing group target attempts observed) exchanges
      (.done result) ↔
        ∃ polls, exchanges = polls.flatMap (pollExchanges timing group) ∧
        PollsEnd target attempts observed polls result := by
  induction attempts generalizing observed exchanges with
  | zero =>
    simp only [pollsEnd_zero_iff]
    refine reaches_done_iff.trans ⟨?_, ?_⟩
    · rintro ⟨rfl, same⟩
      exact ⟨[], rfl, rfl, same⟩
    · rintro ⟨polls, rfl, rfl, same⟩
      exact ⟨rfl, same⟩
  | succ attempts attemptsFact =>
    rw [confirm_succ]
    simp only [reaches_ask_done_iff, pollsEnd_succ_iff]
    constructor
    · rintro ⟨paused, afterPause, rfl, poll, later, rfl, onward⟩
      cases poll with
      | error error =>
        obtain ⟨rfl, rfl⟩ := reaches_done_iff.1 onward
        exact ⟨[.error error], rfl, .inl ⟨_, rfl, .fails error⟩⟩
      | ok seen =>
        dsimp only at onward
        split at onward
        · next selected =>
          obtain ⟨rfl, rfl⟩ := reaches_done_iff.1 onward
          exact ⟨[.ok seen], rfl,
            .inl ⟨_, rfl, .shows (Group.shows_iff.2 selected)⟩⟩
        · next other =>
          obtain ⟨polls, rfl, ends⟩ := attemptsFact.1 onward
          exact ⟨.ok seen :: polls, rfl, .inr ⟨seen, polls, rfl,
            fun shown => other (Group.shows_iff.1 shown), ends⟩⟩
    · rintro ⟨polls, rfl,
        ⟨poll, rfl, settled⟩ | ⟨seen, later, rfl, unshown, ends⟩⟩
      · refine ⟨(), _, rfl, poll, [], rfl, ?_⟩
        cases settled with
        | fails error => exact .here _
        | shows shown =>
          dsimp only
          rw [if_pos (Group.shows_iff.1 shown)]
          exact .here _
      · refine ⟨(), _, rfl, .ok seen,
          later.flatMap (pollExchanges timing group), rfl, ?_⟩
        dsimp only
        rw [if_neg fun selected => unshown (Group.shows_iff.2 selected)]
        exact attemptsFact.2 ⟨later, rfl, ends⟩

theorem reaches_makeMove_iff {plan : Switchyard.Move} :
    Reaches (makeMove timing group plan) exchanges (.done result) ↔
      MoveMade timing group plan.target.name exchanges result := by
  rw [makeMove_eq, reaches_ask_done_iff]
  constructor
  · rintro ⟨applied, later, rfl, onward⟩
    rcases applied with error | accepted
    · obtain ⟨rfl, rfl⟩ := reaches_done_iff.1 onward
      exact .fails error
    cases accepted with
    | false =>
      obtain ⟨rfl, rfl⟩ := reaches_done_iff.1 onward
      exact .refused
    | true =>
      obtain ⟨before, after, ⟨⟩, rfl, remembered, polled⟩ :=
        reaches_bind_done_iff.1 onward
      obtain ⟨polls, rfl, ends⟩ := reaches_confirm_iff.1 polled
      exact .polls (reaches_rememberSelection_iff.1 remembered) ends
  · intro made
    cases made with
    | fails error => exact ⟨.error error, [], rfl, .here _⟩
    | refused => exact ⟨.ok false, [], rfl, .here _⟩
    | polls remembered ends =>
      exact ⟨.ok true, _, rfl, (reaches_rememberSelection_iff.2 remembered).bind
        (reaches_confirm_iff.2 ⟨_, rfl, ends⟩)⟩

/-- Whether an exchange comes right after a pause of some length, if it is a
query. -/
def IsPacedBy (length : Nat) (previous next : Exchange Request.Answer) : Prop :=
  ∀ asked order, next.request = .query asked order →
    previous.request = .pause length

theorem isPacedBy_of_not_query {length : Nat}
    {previous next : Exchange Request.Answer}
    (other : ∀ asked order, next.request ≠ .query asked order) :
    IsPacedBy length previous next :=
  fun asked order same => absurd same (other asked order)

/-- What polls begin with is a pause. -/
theorem not_query_of_head? {polls : List (Except ControllerError Group)}
    {first : Exchange Request.Answer}
    (head : first ∈ (polls.flatMap (pollExchanges timing group)).head?)
    (asked : String) (order : MemberOrder) :
    first.request ≠ .query asked order := by
  cases polls with
  | nil => cases head
  | cons poll later =>
    cases head
    exact Request.noConfusion

theorem isChain_polls (polls : List (Except ControllerError Group)) :
    (polls.flatMap (pollExchanges timing group)).IsChain
      (IsPacedBy (Duration.ofMillis timing.confirmInterval.toNat)) := by
  induction polls with
  | nil => exact .nil
  | cons poll later laterFact =>
    have one : (pollExchanges timing group poll).IsChain
        (IsPacedBy (Duration.ofMillis timing.confirmInterval.toNat)) :=
      .cons_cons (fun _ _ _ => rfl) (.singleton _)
    exact one.append laterFact fun _ _ _ head =>
      isPacedBy_of_not_query (not_query_of_head? head)

theorem MoveMade.isChain
    (made : MoveMade timing group target exchanges result) :
    exchanges.IsChain
      (IsPacedBy (Duration.ofMillis timing.confirmInterval.toNat)) := by
  cases made with
  | fails error => exact .singleton _
  | refused => exact .singleton _
  | @polls remembering remembered polls result ends =>
    refine List.IsChain.append ?_ (isChain_polls polls)
      fun _ _ _ head => isPacedBy_of_not_query (not_query_of_head? head)
    -- Neither the move nor what is said to remember it is a query.
    cases remembered with
    | forNobody =>
      exact .cons_cons (isPacedBy_of_not_query fun _ _ => Request.noConfusion)
        (.singleton _)
    | saves profile kept =>
      exact .cons_cons (isPacedBy_of_not_query fun _ _ => Request.noConfusion)
        (.cons_cons (isPacedBy_of_not_query fun _ _ => Request.noConfusion)
          (.singleton _))

end Dialogues

/-- A move comes to its end in just the ways of `MoveMade`. So however requests
are answered, it is applied once, and what follows is as the answers have it;
nothing after the attempt to remember it depends on how that went. By a clock
for which no pause is too short, each poll is made at least the interval after
what came before its pause. -/
theorem move_made_in_order (timing : Timing) (group : String)
    (plan : Switchyard.Move) :
    (∀ exchanges result,
      Reaches (makeMove timing group plan) exchanges (.done result) ↔
      MoveMade timing group plan.target.name exchanges result) ∧
    ∀ {State : Type} (answer : (request : Request) → State →
        request.Answer × State)
      (clock : State → Nat),
      (∀ length state, clock state + length ≤
        clock (answer (.pause length) state).2) →
      ∀ state : State,
        let work := makeMove timing group plan
        let interval := Duration.ofMillis timing.confirmInterval.toNat
        MoveMade timing group plan.target.name
          ((work.transcript answer state).map Prod.snd)
          (work.complete answer state).1 ∧
        (work.transcript answer state).IsChain fun previous next =>
          ∀ asked order, next.2.request = .query asked order →
            previous.2.request = .pause interval ∧
              clock previous.1 + interval ≤ clock next.1 := by
  refine ⟨fun exchanges result => reaches_makeMove_iff, ?_⟩
  intro State answer clock takesTime state work interval
  have made : MoveMade timing group plan.target.name
      ((work.transcript answer state).map Prod.snd)
      (work.complete answer state).1 :=
    reaches_makeMove_iff.1 (Routine.reaches_transcript answer work state)
  have paced := made.isChain
  have stepwise := Routine.isChain_transcript answer work state
  rw [List.isChain_map, List.isChain_iff_forall_rel_of_append_cons_cons]
    at paced
  rw [List.isChain_iff_forall_rel_of_append_cons_cons] at stepwise
  refine ⟨made, List.isChain_iff_forall_rel_of_append_cons_cons.2 ?_⟩
  rintro ⟨before, request, given⟩ ⟨after, next⟩ former latter split
    asked order isQuery
  obtain rfl : request = .pause interval := paced split asked order isQuery
  obtain rfl : after = (answer (.pause interval) before).2 := stepwise split
  exact ⟨rfl, takesTime interval before⟩

/-- Somebody whose clock goes on in pauses only, who takes every move and shows
it from the second query on, and to whom nothing can be saved. The state is the
time and the number of queries. -/
def lateShower : (request : Request) → Nat × Nat → request.Answer × (Nat × Nat)
  | .readPolicy, state => (.ok .initial, state)
  | .readStored, state => (.ok .initial, state)
  | .writePolicy _, state => (.ok (), state)
  | .recordStatus _, state => (.ok (), state)
  | .publish _, state => ((), state)
  | .activeProfile, state => (some "work", state)
  | .remember _, state => (.error (.other "read-only"), state)
  | .probe _ _, state => (.outlasted, state)
  | .query group _, (now, queries) =>
    (.ok ⟨group, if queries = 0 then "A" else "B", []⟩, (now, queries + 1))
  | .apply _ _, state => (.ok true, state)
  | .pause length, (now, queries) => ((), (now + length, queries))

/-- The move shows up in the second poll, although it could not be saved. -/
theorem move_made_despite_failed_save :
    let work := makeMove .usual "GLOBAL" ⟨⟨"B", "", .ofMillis 45⟩,
      false, some "A"⟩
    let said := work.transcript lateShower (0, 0)
    (work.complete lateShower (0, 0)).1 = .ok .confirmed ∧
      said.map (fun exchange => exchange.1.1) =
        [0, 0, 0, 0, 500000000, 500000000, 1000000000] ∧
      MoveMade .usual "GLOBAL" "B" (said.map Prod.snd) (.ok .confirmed) ∧
      said.IsChain fun previous next =>
        ∀ asked order, next.2.request = .query asked order →
        previous.2.request = .pause (Duration.ofMillis 500) ∧
          previous.1.1 + Duration.ofMillis 500 ≤ next.1.1 := by
  have carriedOut := (move_made_in_order .usual "GLOBAL"
    ⟨⟨"B", "", .ofMillis 45⟩, false, some "A"⟩).2 lateShower Prod.fst
    (fun length state => Nat.le_refl _) (0, 0)
  exact ⟨by decide +kernel, by decide +kernel, carriedOut.1, carriedOut.2⟩

end Control

end Switchyard
