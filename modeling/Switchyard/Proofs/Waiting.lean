import Mathlib.Data.List.Basic
import Mathlib.Data.List.Induction
import Switchyard.Control.Loop
import Switchyard.Proofs.Receiver

/-!
# Waits poll by poll

A wait goes on until a poll finds a reason to end it. Reasons have an order: a
cancellation, missed notices, the first unread notice that says more than a new
status, a deadline that has passed. Between polls others may do what they like.
Of the notices that arrive for its receiver, a wait reads those about a new
status on its way, and the one that ends it; it leaves the others where they
are.
-/

namespace Switchyard

namespace Bus

/-- The number of notices that were lost to a receiver since it looked last. -/
def missed (receiver : Nat) (bus : Bus) : Nat := bus.oldest - bus.place receiver

section Missed

variable {receiver : Nat} {bus : Bus}

theorem isBehind_iff_missed : bus.IsBehind receiver ↔ 0 < bus.missed receiver :=
  Nat.sub_pos_iff_lt.symm

theorem missed_eq_zero (keepsUp : ¬ bus.IsBehind receiver) :
    bus.missed receiver = 0 :=
  Nat.sub_eq_zero_of_le (Nat.le_of_not_lt keepsUp)

theorem Serves.missed_add_unread (serves : bus.Serves receiver) :
    bus.missed receiver + (bus.unread receiver).length =
      bus.backlog receiver := by
  have latest := serves.sound.latest
  have reached := serves.reached
  have oldestFact := serves.sound.oldest_eq
  unfold missed unread backlog
  rw [List.length_drop]
  omega

/-- What a new notice pushes out unread adds to what is missed. -/
theorem Serves.missed_publish (serves : bus.Serves receiver) (notice : Notice) :
    ∃ lost, bus.unread receiver ++ [notice] =
      lost ++ (bus.publish notice).unread receiver ∧
      (bus.publish notice).missed receiver =
        bus.missed receiver + lost.length := by
  obtain ⟨lost, split⟩ := unread_publish_suffix serves notice
  have before := serves.missed_add_unread
  have after := (serves.publish notice).missed_add_unread
  have backlog := serves.backlog_publish notice
  have lengths := congrArg List.length split
  rw [List.length_append, List.length_append, List.length_singleton] at lengths
  refine ⟨lost, split.symm, ?_⟩
  omega

theorem Serves.missed_moved (serves : bus.Serves receiver) {next : Nat}
    (within : bus.oldest ≤ next) :
    (bus.moved receiver next).missed receiver = 0 :=
  missed_eq_zero (serves.keepsUp_moved within)

end Missed

end Bus

namespace Control

/-- A wait, with what is around it and what has ended it. -/
structure Wait where
  receiver : Nat
  deadline : Option Nat
  now : Nat
  isCancelled : Bool
  bus : Bus
  ending : Option Wake

namespace Wait

/-- A wait of some length from now on, or one without end. -/
def begin (receiver : Nat) (length : Option Nat) (now : Nat)
    (isCancelled : Bool) (bus : Bus) : Wait :=
  ⟨receiver, length.map fun length => now + length, now, isCancelled, bus, none⟩

/-- What may come next in a wait. -/
inductive Move where
  | poll
  /-- A poll passes over one status, and somebody else acts before it looks
  on. -/
  | passOver
  | notice (notice : Notice)
  | cancel
  | pass (length : Nat)
  /-- Other receivers come, look and leave. -/
  | receivers (places : List (Option Nat))

def poll (wait : Wait) : Wait :=
  match wait.ending with
  | some _ => wait
  | none =>
    let (ending, bus) :=
      Wake.look wait.receiver wait.deadline wait.now wait.isCancelled wait.bus
    { wait with ending := ending, bus := bus }

def passOver (wait : Wait) : Wait :=
  match wait.ending, wait.bus.receive wait.receiver with
  | none, (.notice notice, bus) =>
    if notice.isStatusOnly then { wait with bus := bus } else wait
  | _, _ => wait

def others (places : List (Option Nat)) (wait : Wait) : Wait :=
  if places[wait.receiver]? = wait.bus.places[wait.receiver]? then
    { wait with bus := { wait.bus with places := places } }
  else wait

def move (wait : Wait) : Move → Wait
  | .poll => wait.poll
  | .passOver => wait.passOver
  | .notice notice => { wait with bus := wait.bus.publish notice }
  | .cancel => { wait with isCancelled := true }
  | .pass length => { wait with now := wait.now + length }
  | .receivers places => wait.others places

def play (moves : List Move) (wait : Wait) : Wait := moves.foldl move wait

theorem play_concat (moves : List Move) (last : Move) (wait : Wait) :
    wait.play (moves ++ [last]) = (wait.play moves).move last :=
  List.foldl_append

/-- The step of a waiting loop is a poll of its wait. -/
theorem step_of_waiting {Outside : Type}
    (parties : Parties Outside) {loop : Loop}
    {around : Surroundings Outside} {deadline : Option Nat}
    (stage : loop.stage = .waiting deadline) :
    let wait : Wait :=
      ⟨loop.receiver, deadline, around.now, around.isCancelled,
        around.bus, none⟩
    loop.step parties around =
      ⟨wait.poll.ending.elim loop loop.afterWait,
        { around with bus := wait.poll.bus }, wait.poll.ending.isSome⟩ := by
  intro wait
  unfold Loop.step
  rw [stage]
  simp only [wait, poll]
  cases (Wake.look loop.receiver deadline around.now around.isCancelled
    around.bus).1 <;> rfl

def Move.published? : Move → Option Notice
  | .notice published => some published
  | _ => none

def Move.length : Move → Nat
  | .pass length => length
  | _ => 0

/-- The notices that others put on the bus in the course of some moves. -/
def published (moves : List Move) : List Notice :=
  moves.filterMap Move.published?

def elapsed : List Move → Nat
  | [] => 0
  | move :: later => move.length + elapsed later

theorem published_concat (moves : List Move) (last : Move) :
    published (moves ++ [last]) = published moves ++
      last.published?.toList := by
  rw [published, List.filterMap_append]
  cases last <;> rfl

theorem append_published_of_none {move : Move}
    (unpublished : move.published? = none) (arrived : List Notice) :
    arrived ++ move.published?.toList = arrived := by
  rw [unpublished, Option.toList_none, List.append_nil]

/-- Why a poll ends the wait, if it does. Where there are several reasons, the
first one counts. -/
def reason? (wait : Wait) : Option Wake :=
  if wait.isCancelled then some .cancelled
  else if wait.bus.IsBehind wait.receiver then
    some (.lagged (wait.bus.missed wait.receiver))
  else
    match (wait.bus.unread wait.receiver).find? fun notice =>
      !notice.isStatusOnly with
    | some notice => some (.event notice)
    | none => if Wake.isDue wait.now wait.deadline then some .timeout else none

theorem isDue_of_reason? {wait : Wait} (reason : wait.reason? = some .timeout) :
    Wake.isDue wait.now wait.deadline = true := by
  unfold reason? at reason
  split at reason
  · cases reason
  split at reason
  · cases reason
  split at reason
  · cases reason
  split at reason
  · assumption
  · cases reason

/-! ## A poll -/

section Polls

variable {wait : Wait} {ending : Option Wake} {bus : Bus}

/-- All that a poll can come to, with the bus after it. -/
inductive Polled (wait : Wait) : Option Wake → Bus → Prop where
  | cancelled (isCancelled : wait.isCancelled = true) :
    Polled wait (some .cancelled) wait.bus
  | lagged (goingOn : wait.isCancelled = false)
    (behind : wait.bus.IsBehind wait.receiver) :
    Polled wait (some (.lagged (wait.bus.missed wait.receiver)))
      (wait.bus.moved wait.receiver wait.bus.oldest)
  | event (goingOn : wait.isCancelled = false)
    (keepsUp : ¬ wait.bus.IsBehind wait.receiver)
    {skipped later : List Notice} {notice : Notice}
    (unread : wait.bus.unread wait.receiver = skipped ++ notice :: later)
    (statuses : ∀ passed ∈ skipped, passed.isStatusOnly = true)
    (relevant : notice.isStatusOnly = false) :
    Polled wait (some (.event notice))
      (wait.bus.moved wait.receiver
        (wait.bus.place wait.receiver + skipped.length + 1))
  | quiet (goingOn : wait.isCancelled = false)
    (keepsUp : ¬ wait.bus.IsBehind wait.receiver)
    (statuses : ∀ passed ∈ wait.bus.unread wait.receiver,
      passed.isStatusOnly = true) :
    Polled wait (if Wake.isDue wait.now wait.deadline then some .timeout
        else none)
      (wait.bus.moved wait.receiver wait.bus.sent)

theorem polled (on : wait.ending = none)
    (serves : wait.bus.Serves wait.receiver) :
    Polled wait wait.poll.ending wait.poll.bus := by
  have look :=
    Wake.look.eq_def wait.receiver wait.deadline wait.now
      wait.isCancelled wait.bus
  simp only [poll, on]
  cases cancelled : wait.isCancelled with
  | true =>
    rw [cancelled, if_pos rfl] at look
    rw [look]
    exact .cancelled cancelled
  | false =>
    rw [cancelled, if_neg Bool.false_ne_true] at look
    rw [look]
    have finding := serves.receiveRelevant_finding
    generalize wait.bus.receiveRelevant wait.receiver = found at finding ⊢
    obtain ⟨reception, bus⟩ := found
    cases finding with
    | missed behind => exact .lagged cancelled behind
    | notice keepsUp unread statuses relevant =>
      exact .event cancelled keepsUp unread statuses relevant
    | nothing keepsUp statuses => exact .quiet cancelled keepsUp statuses

theorem Polled.reason?_eq (polled : Polled wait ending bus) :
    wait.reason? = ending := by
  unfold reason?
  cases polled with
  | cancelled isCancelled => rw [if_pos isCancelled]
  | lagged goingOn behind =>
    rw [goingOn, if_neg Bool.false_ne_true, if_pos behind]
  | @event goingOn keepsUp skipped later notice unread statuses relevant =>
    have first : (wait.bus.unread wait.receiver).find?
        (fun notice => !notice.isStatusOnly) = some notice := by
      rw [List.find?_eq_some_iff_append]
      exact ⟨by rw [relevant]; rfl, skipped, later, unread,
        by simpa using statuses⟩
    rw [goingOn, if_neg Bool.false_ne_true, if_neg keepsUp, first]
  | quiet goingOn keepsUp statuses =>
    have none : (wait.bus.unread wait.receiver).find?
        (fun notice => !notice.isStatusOnly) = none := by
      rw [List.find?_eq_none]
      simpa using statuses
    rw [goingOn, if_neg Bool.false_ne_true, if_neg keepsUp, none]

theorem Polled.serves (polled : Polled wait ending bus)
    (serves : wait.bus.Serves wait.receiver) : bus.Serves wait.receiver := by
  cases polled with
  | cancelled isCancelled => exact serves
  | lagged goingOn behind => exact serves.moved (Nat.sub_le _ _)
  | event goingOn keepsUp unread statuses relevant =>
    exact serves.moved (serves.past_le keepsUp unread)
  | quiet goingOn keepsUp statuses => exact serves.moved (Nat.le_refl _)

/-- A poll ends a wait just where it has a reason to. -/
theorem ending_poll (on : wait.ending = none)
    (serves : wait.bus.Serves wait.receiver) :
    wait.poll.ending = wait.reason? :=
  (polled on serves).reason?_eq.symm

theorem poll_of_ended {wake : Wake} (ended : wait.ending = some wake) :
    wait.poll = wait := by
  unfold poll
  rw [ended]

/-- What passing over a status can come to. -/
theorem passOver_cases (serves : wait.bus.Serves wait.receiver) :
    wait.passOver = wait ∨
      ∃ passed later, wait.ending = none ∧ ¬ wait.bus.IsBehind wait.receiver ∧
        wait.bus.unread wait.receiver = passed :: later ∧
        passed.isStatusOnly = true ∧ wait.passOver =
          { wait with
            bus := wait.bus.moved wait.receiver
              (wait.bus.place wait.receiver + 1) } := by
  unfold passOver
  cases on : wait.ending with
  | some wake => exact .inl rfl
  | none =>
    rcases serves.receive_cases with
      ⟨-, received⟩ | ⟨passed, later, keepsUp, unread, received⟩ |
        ⟨-, -, received⟩
    · rw [received]
      exact .inl rfl
    · rw [received]
      dsimp only
      split
      · next statusOnly =>
          exact .inr ⟨passed, later, rfl, keepsUp, unread, statusOnly, rfl⟩
      · exact .inl rfl
    · rw [received]
      exact .inl rfl

end Polls

section Kept

variable {wait : Wait}

theorem poll_eq (wait : Wait) :
    wait.poll = { wait with
      ending := wait.poll.ending, bus := wait.poll.bus } := by
  unfold poll
  split <;> rfl

theorem passOver_eq
    (wait : Wait) : wait.passOver = { wait with bus := wait.passOver.bus } := by
  unfold passOver
  split
  · split <;> rfl
  · rfl

theorem others_eq (places : List (Option Nat)) (wait : Wait) :
    wait.others places = { wait with bus := (wait.others places).bus } := by
  unfold others
  split <;> rfl

/-- Neither the receiver nor the deadline of a wait ever changes. -/
theorem frame_move (wait : Wait) (move : Move) :
    (wait.move move).receiver = wait.receiver ∧
      (wait.move move).deadline = wait.deadline ∧
      (wait.move move).now = wait.now + move.length ∧
      ((wait.move move).isCancelled = true ↔ wait.isCancelled = true ∨
        .cancel = move) := by
  cases move with
  | poll =>
    rw [Wait.move, poll_eq]
    simp [Move.length]
  | passOver =>
    rw [Wait.move, passOver_eq]
    simp [Move.length]
  | receivers places =>
    rw [Wait.move, others_eq]
    simp [Move.length]
  | _ => simp [Wait.move, Move.length]

theorem frame_play (moves : List Move) (wait : Wait) :
    (wait.play moves).receiver = wait.receiver ∧
      (wait.play moves).deadline = wait.deadline ∧
      (wait.play moves).now = wait.now + elapsed moves ∧
      ((wait.play moves).isCancelled = true ↔ wait.isCancelled = true ∨
        .cancel ∈ moves) := by
  induction moves generalizing wait with
  | nil => simp [play, elapsed]
  | cons first later laterFact =>
    obtain ⟨receiver, deadline, now, cancelled⟩ := frame_move wait first
    obtain ⟨receiverLater, deadlineLater, nowLater, cancelledLater⟩ :=
      laterFact (wait.move first)
    refine ⟨receiverLater.trans receiver, deadlineLater.trans deadline, ?_, ?_⟩
    · rw [elapsed, ← Nat.add_assoc, ← now]
      exact nowLater
    · rw [List.mem_cons, ← or_assoc, ← cancelled]
      exact cancelledLater

theorem serves_move (serves : wait.bus.Serves wait.receiver) (move : Move) :
    (wait.move move).bus.Serves (wait.move move).receiver := by
  rw [(frame_move wait move).1]
  cases move with
  | poll =>
    cases on : wait.ending with
    | some wake =>
      rw [Wait.move, poll_of_ended on]
      exact serves
    | none => exact (polled on serves).serves serves
  | passOver =>
    rcases passOver_cases serves with
      same | ⟨passed, later, -, keepsUp, unread, -, passedOver⟩
    · rw [Wait.move, same]
      exact serves
    · rw [Wait.move, passedOver]
      have first : wait.bus.unread wait.receiver = [] ++ passed :: later :=
        unread
      exact serves.moved (serves.past_le keepsUp first)
  | notice notice => exact serves.publish notice
  | cancel => exact serves
  | pass length => exact serves
  | receivers places =>
    rw [Wait.move]
    unfold others
    split
    · next own => exact serves.others own
    · exact serves

theorem serves_play (serves : wait.bus.Serves wait.receiver)
    (moves : List Move) :
    (wait.play moves).bus.Serves (wait.play moves).receiver := by
  induction moves generalizing wait with
  | nil => exact serves
  | cons first later laterFact => exact laterFact (serves_move serves first)

end Kept

/-! ## When a wait ends -/

/-- Whether no poll among some moves has a reason to end the wait. -/
def Quiet (wait : Wait) (moves : List Move) : Prop :=
  ∀ former later, moves = former ++ .poll :: later →
    (wait.play former).reason? = none

section Endings

variable {wait : Wait} {moves : List Move}

/-- Only a poll ends a wait, and it does so where it has a reason. -/
theorem ending_move (serves : wait.bus.Serves wait.receiver) (move : Move) :
    (move = .poll ∧ (wait.move move).ending = wait.ending.or wait.reason?) ∨
      (move ≠ .poll ∧ (wait.move move).ending = wait.ending) := by
  cases move with
  | poll =>
    refine .inl ⟨rfl, ?_⟩
    cases on : wait.ending with
    | some wake => exact (congrArg ending (poll_of_ended on)).trans on
    | none => exact ending_poll on serves
  | passOver => exact .inr ⟨Move.noConfusion, by rw [Wait.move, passOver_eq]⟩
  | receivers places =>
    exact .inr ⟨Move.noConfusion, by rw [Wait.move, others_eq]⟩
  | _ => exact .inr ⟨Move.noConfusion, rfl⟩

theorem on_of_on_move (serves : wait.bus.Serves wait.receiver) {move : Move}
    (on : (wait.move move).ending = none) : wait.ending = none := by
  rcases ending_move serves move with ⟨-, ending⟩ | ⟨-, ending⟩
  · exact (Option.or_eq_none_iff.1 (ending.symm.trans on)).1
  · exact ending.symm.trans on

theorem concat_eq_split_iff {last move : Move} {former later : List Move} :
    moves ++ [last] = former ++ move :: later ↔
      (later = [] ∧ moves = former ∧ last = move) ∨
        ∃ between, later = between ++ [last] ∧
          moves = former ++ move :: between := by
  rcases List.eq_nil_or_concat' later with rfl | ⟨between, other, rfl⟩
  · simp
  · rw [← List.cons_append, ← List.append_assoc, List.append_singleton_inj]
    constructor
    · rintro ⟨rfl, rfl⟩
      exact .inr ⟨between, rfl, rfl⟩
    · rintro (⟨none, -, -⟩ | ⟨left, same, rfl⟩)
      · simp at none
      · obtain ⟨rfl, rfl⟩ := List.append_singleton_inj.1 same
        exact ⟨rfl, rfl⟩

theorem quiet_concat_iff {last : Move} :
    wait.Quiet (moves ++ [last]) ↔
      wait.Quiet moves ∧ (last = .poll → (wait.play moves).reason? = none) := by
  unfold Quiet
  simp only [concat_eq_split_iff]
  constructor
  · intro quiet
    exact ⟨fun former between split =>
      quiet former _ (.inr ⟨between, rfl, split⟩),
      fun isPoll => quiet moves [] (.inl ⟨rfl, rfl, isPoll⟩)⟩
  · rintro ⟨quiet, lastQuiet⟩ former later
      (⟨-, rfl, isPoll⟩ | ⟨between, -, split⟩)
    · exact lastQuiet isPoll
    · exact quiet former between split

/-- A wait goes on as long as no poll has a reason to end it. -/
theorem ending_play_eq_none_iff (on : wait.ending = none)
    (startServes : wait.bus.Serves wait.receiver) :
    (wait.play moves).ending = none ↔ wait.Quiet moves := by
  induction moves using List.reverseRecOn with
  | nil => exact iff_of_true on fun former later split => by simp at split
  | append_singleton moves last movesFact =>
    have serves := serves_play startServes moves
    rw [play_concat, quiet_concat_iff, ← movesFact]
    rcases ending_move serves last with ⟨rfl, ending⟩ | ⟨other, ending⟩
    · rw [ending, Option.or_eq_none_iff]
      simp
    · rw [ending]
      simp [other]

/-- A wait ends at the first poll that has a reason to end it. -/
theorem ending_play_eq_some_iff (on : wait.ending = none)
    (startServes : wait.bus.Serves wait.receiver) {wake : Wake} :
    (wait.play moves).ending = some wake ↔
      ∃ former later, moves = former ++ .poll :: later ∧ wait.Quiet former ∧
        (wait.play former).reason? = some wake := by
  induction moves using List.reverseRecOn with
  | nil => simp [play, on]
  | append_singleton moves last movesFact =>
    have serves := serves_play startServes moves
    rw [play_concat]
    simp only [concat_eq_split_iff]
    constructor
    · intro ended
      rcases ending_move serves last with ⟨isPoll, ending⟩ | ⟨other, ending⟩
      · rw [ending, Option.or_eq_some_iff] at ended
        rcases ended with before | ⟨onStill, reason⟩
        · obtain ⟨former, later, split, first⟩ := movesFact.1 before
          exact ⟨former, _, .inr ⟨later, rfl, split⟩, first⟩
        · exact ⟨moves, [], .inl ⟨rfl, rfl, isPoll⟩,
            (ending_play_eq_none_iff on startServes).1 onStill, reason⟩
      · rw [ending] at ended
        obtain ⟨former, later, split, first⟩ := movesFact.1 ended
        exact ⟨former, _, .inr ⟨later, rfl, split⟩, first⟩
    · rintro ⟨former, later, ⟨-, rfl, rfl⟩ | ⟨between, -, split⟩, quiet, reason⟩
      · rcases ending_move serves .poll with ⟨-, ending⟩ | ⟨other, -⟩
        · rw [ending, (ending_play_eq_none_iff on startServes).2 quiet,
            Option.none_or, reason]
        · contradiction
      · have before := movesFact.2 ⟨former, between, split, quiet, reason⟩
        rcases ending_move serves last with ⟨-, ending⟩ | ⟨-, ending⟩
        · rw [ending, before, Option.some_or]
        · exact ending.trans before

end Endings

/-- How a receiver stands to the notices that have arrived for it, as long as
its wait goes on: some about a new status were read, the ones after them were
missed, and the others are unread. -/
def Accounts (arrived : List Notice) (missedBefore : Nat) (receiver : Nat)
    (bus : Bus) : Prop :=
  ∃ passed lost, arrived = passed ++ lost ++ bus.unread receiver ∧
    (∀ notice ∈ passed, notice.isStatusOnly = true) ∧
    bus.missed receiver = missedBefore + lost.length

/-- What has become of the notices that arrived for a receiver, once a poll came
to something: which ones are left unread, and how many are missed and not told
yet. -/
inductive Consumed (arrived : List Notice) (missedBefore : Nat) :
    Option Wake → List Notice → Nat → Prop where
  | cancelled {passed lost left : List Notice}
    (account : arrived = passed ++ lost ++ left)
    (statuses : ∀ notice ∈ passed, notice.isStatusOnly = true) :
    Consumed arrived missedBefore (some .cancelled) left
      (missedBefore + lost.length)
  | lagged {passed lost left : List Notice}
    (account : arrived = passed ++ lost ++ left)
    (statuses : ∀ notice ∈ passed, notice.isStatusOnly = true)
    (isBehind : 0 < missedBefore + lost.length) :
    Consumed arrived missedBefore
      (some (.lagged (missedBefore + lost.length))) left 0
  | event {passed left : List Notice} {notice : Notice}
    (account : arrived = passed ++ notice :: left)
    (statuses : ∀ notice ∈ passed, notice.isStatusOnly = true)
    (relevant : notice.isStatusOnly = false) (keptUp : missedBefore = 0) :
    Consumed arrived missedBefore (some (.event notice)) left 0
  | timeout (statuses : ∀ notice ∈ arrived, notice.isStatusOnly = true)
    (keptUp : missedBefore = 0) :
      Consumed arrived missedBefore (some .timeout) [] 0
  | nothing (statuses : ∀ notice ∈ arrived, notice.isStatusOnly = true)
    (keptUp : missedBefore = 0) : Consumed arrived missedBefore none [] 0

section Readings

variable {receiver missedBefore : Nat} {arrived : List Notice}
  {bus : Bus} {wait : Wait}

theorem Accounts.publish (accounts : Accounts arrived missedBefore receiver bus)
    (serves : bus.Serves receiver) (notice : Notice) :
    Accounts (arrived ++ [notice]) missedBefore receiver
      (bus.publish notice) := by
  obtain ⟨passed, lost, account, statuses, missed⟩ := accounts
  obtain ⟨pushed, split, more⟩ := serves.missed_publish notice
  refine ⟨passed, lost ++ pushed, ?_, statuses, ?_⟩
  · rw [account, List.append_assoc, split]
    simp only [List.append_assoc]
  · rw [more, missed, List.length_append, Nat.add_assoc]

/-- A receiver that keeps up has missed nothing. -/
theorem Accounts.of_keepsUp
    (accounts : Accounts arrived missedBefore receiver bus)
    (keepsUp : ¬ bus.IsBehind receiver) :
    missedBefore = 0 ∧ ∃ passed, arrived = passed ++ bus.unread receiver ∧
      ∀ notice ∈ passed, notice.isStatusOnly = true := by
  obtain ⟨passed, lost, account, statuses, missed⟩ := accounts
  rw [Bus.missed_eq_zero keepsUp] at missed
  have none : lost = [] := List.length_eq_zero_iff.1 (by omega)
  subst none
  rw [List.append_nil] at account
  exact ⟨by omega, passed, account, statuses⟩

theorem Accounts.passed_next
    (accounts : Accounts arrived missedBefore receiver bus)
    (serves : bus.Serves receiver) (keepsUp : ¬ bus.IsBehind receiver)
    {status : Notice} {later : List Notice}
    (unread : bus.unread receiver = status :: later)
    (statusOnly : status.isStatusOnly = true) :
    Accounts arrived missedBefore receiver
      (bus.moved receiver (bus.place receiver + 1)) := by
  obtain ⟨rfl, passed, account, statuses⟩ := accounts.of_keepsUp keepsUp
  have within : bus.oldest ≤ bus.place receiver + 1 :=
    Nat.le_succ_of_le (Nat.le_of_not_lt keepsUp)
  refine ⟨passed ++ [status], [], ?_, ?_, serves.missed_moved within⟩
  · rw [serves.unread_moved_next keepsUp unread, account, unread]
    simp
  · exact List.forall_mem_append.2 ⟨statuses,
      List.forall_mem_singleton.2 statusOnly⟩

/-- What a poll reads. -/
theorem Polled.consumed
    (accounts : Accounts arrived missedBefore wait.receiver wait.bus)
    (serves : wait.bus.Serves wait.receiver) {ending : Option Wake}
    (polled : Polled wait ending bus) :
    Consumed arrived missedBefore ending (bus.unread wait.receiver)
      (bus.missed wait.receiver) := by
  cases polled with
  | cancelled isCancelled =>
    obtain ⟨passed, lost, account, statuses, missed⟩ := accounts
    rw [missed]
    exact .cancelled account statuses
  | lagged goingOn behind =>
    obtain ⟨passed, lost, account, statuses, missed⟩ := accounts
    have isBehind : 0 < missedBefore + lost.length :=
      missed ▸ Bus.isBehind_iff_missed.1 behind
    rw [missed, serves.unread_moved_oldest behind,
      serves.missed_moved (Nat.le_refl _)]
    exact .lagged account statuses isBehind
  | @event goingOn keepsUp skipped later notice unread skippedFact relevant =>
    obtain ⟨keptUp, passed, account, statuses⟩ := accounts.of_keepsUp keepsUp
    have within : wait.bus.oldest ≤ wait.bus.place wait.receiver +
        skipped.length + 1 := by
      have kept := Nat.le_of_not_lt keepsUp
      omega
    rw [serves.unread_moved_past keepsUp unread, serves.missed_moved within]
    rw [unread, ← List.append_assoc] at account
    exact .event account (List.forall_mem_append.2 ⟨statuses, skippedFact⟩)
      relevant keptUp
  | quiet goingOn keepsUp unreadFact =>
    obtain ⟨keptUp, passed, rfl, statuses⟩ := accounts.of_keepsUp keepsUp
    have all := List.forall_mem_append.2 ⟨statuses, unreadFact⟩
    rw [serves.unread_moved_sent, serves.missed_moved (Nat.sub_le _ _)]
    split
    · exact .timeout all keptUp
    · exact .nothing all keptUp

theorem Consumed.accounts
    (consumed : Consumed arrived missedBefore none (bus.unread receiver)
      (bus.missed receiver)) :
    Accounts arrived missedBefore receiver bus := by
  generalize unread : bus.unread receiver = left at consumed
  generalize missed : bus.missed receiver = untold at consumed
  cases consumed with
  | nothing statuses keptUp =>
    exact ⟨arrived, [],
      by rw [unread, List.append_nil, List.append_nil], statuses,
      by rw [missed, keptUp, List.length_nil]⟩

theorem accounts_others {places : List (Option Nat)}
    (own : places[receiver]? = bus.places[receiver]?)
    (accounts : Accounts arrived missedBefore receiver bus) :
    Accounts arrived missedBefore receiver { bus with places := places } := by
  unfold Accounts Bus.missed
  rw [Bus.unread_others own, Bus.place_others own]
  exact accounts

/-- Every move keeps the account of a wait that goes on. -/
theorem accounts_move
    (accounts : Accounts arrived missedBefore wait.receiver wait.bus)
    (serves : wait.bus.Serves wait.receiver) {move : Move}
    (on : (wait.move move).ending = none) :
    Accounts (arrived ++ move.published?.toList) missedBefore wait.receiver
      (wait.move move).bus := by
  cases move with
  | notice notice => exact accounts.publish serves notice
  | poll =>
    have consumed :=
      (polled (on_of_on_move serves on) serves).consumed accounts serves
    rw [show wait.poll.ending = none from on] at consumed
    rw [append_published_of_none rfl]
    exact consumed.accounts
  | passOver =>
    rw [append_published_of_none rfl, Wait.move]
    rcases passOver_cases serves with
      same | ⟨status, later, -, keepsUp, unread, statusOnly, next⟩
    · rw [same]
      exact accounts
    · rw [next]
      exact accounts.passed_next serves keepsUp unread statusOnly
  | receivers places =>
    rw [append_published_of_none rfl, Wait.move]
    unfold others
    split
    · next own => exact accounts_others own accounts
    · exact accounts
  | cancel | pass =>
    rw [append_published_of_none rfl]
    exact accounts

theorem accounts_play
    (accounts : Accounts arrived missedBefore wait.receiver wait.bus)
    (startServes : wait.bus.Serves wait.receiver) {moves : List Move}
    (on : (wait.play moves).ending = none) :
    Accounts (arrived ++ published moves) missedBefore
      (wait.play moves).receiver (wait.play moves).bus := by
  induction moves using List.reverseRecOn with
  | nil =>
    rw [published, List.filterMap_nil, List.append_nil]
    exact accounts
  | append_singleton moves last movesFact =>
    have serves := serves_play startServes moves
    rw [play_concat] at on ⊢
    have soFar := movesFact (on_of_on_move serves on)
    rw [published_concat, ← List.append_assoc, (frame_move _ last).1]
    exact accounts_move soFar serves on

end Readings

/-- A wait ends at the first poll that has a reason to end it, by the first
reason in their order; without a length it never times out. Time passes for it
as it passes elsewhere, its deadline stays where it was put, and each poll reads
what `Consumed` says. -/
theorem ends_at_first_reason {receiver : Nat} {bus : Bus}
    (serves : bus.Serves receiver) (length : Option Nat) (now : Nat)
    (isCancelled : Bool) :
    let start := begin receiver length now isCancelled bus
    (∀ moves, (start.play moves).deadline = length.map (fun length =>
        now + length) ∧
      (start.play moves).now = now + elapsed moves ∧
      ((start.play moves).isCancelled = true ↔
        isCancelled = true ∨ .cancel ∈ moves)) ∧
    (∀ moves wake, (start.play moves).ending = some wake ↔
      ∃ former later, moves = former ++ .poll :: later ∧ start.Quiet former ∧
        (start.play former).reason? = some wake) ∧
    (length = none → ∀ moves, (start.play moves).ending ≠ some .timeout) ∧
    ∀ moves, start.Quiet moves →
      let polled := (start.play moves).poll
      polled.ending = (start.play moves).reason? ∧
      Consumed (bus.unread receiver ++ published moves)
        (bus.missed receiver) polled.ending (polled.bus.unread receiver)
        (polled.bus.missed receiver) := by
  intro start
  have startServes : start.bus.Serves start.receiver := serves
  have frame := fun moves => frame_play moves start
  refine ⟨fun moves => (frame moves).2,
    fun moves wake => ending_play_eq_some_iff rfl startServes, ?_, ?_⟩
  · rintro rfl moves timedOut
    obtain ⟨former, later, -, -, reason⟩ :=
      (ending_play_eq_some_iff rfl startServes).1 timedOut
    have due := isDue_of_reason? reason
    rw [(frame former).2.1] at due
    cases due
  · intro moves quiet polled
    have on := (ending_play_eq_none_iff rfl startServes).2 quiet
    have nothingYet : Accounts (bus.unread receiver) (bus.missed receiver)
        receiver bus :=
      ⟨[], [], rfl, List.forall_mem_nil _, rfl⟩
    have accounts := accounts_play nothingYet startServes on
    have playServes := serves_play startServes moves
    have consumed := (Wait.polled on playServes).consumed accounts playServes
    rw [(frame moves).1] at consumed
    exact ⟨ending_poll on playServes, consumed⟩

/-- At the moment of its deadline a wait finds a notice that arrived at that
moment, and leaves the one after it. Of the statuses before it, one was there
from the beginning. -/
theorem ends_by_event_at_deadline :
    let bus := (Bus.withCapacity 4).subscribe.2.publish .statusChanged
    let former : List Move :=
      [.poll, .pass 4, .notice .statusChanged, .pass 6, .notice .policyChanged,
        .notice .engineStopped]
    let start := begin 0 (some 10) 5 false bus
    let before := start.play former
    start.Quiet former ∧ before.now = 15 ∧ before.deadline = some 15 ∧
      before.poll.ending = some (.event .policyChanged) ∧
      Consumed [.statusChanged, .statusChanged, .policyChanged,
          .engineStopped] 0
        before.poll.ending [.engineStopped] 0 := by
  intro bus former start before
  have serves : bus.Serves 0 :=
    ((Bus.sound_withCapacity 4).serves_subscribe).publish .statusChanged
  obtain ⟨frame, -, -, reads⟩ := ends_at_first_reason serves (some 10) 5 false
  have quiet : start.Quiet former := by
    rw [← ending_play_eq_none_iff rfl serves]
    decide +kernel
  have arrived : bus.unread 0 ++ published former =
      [.statusChanged, .statusChanged, .policyChanged, .engineStopped] := by
    decide +kernel
  have left : before.poll.bus.unread 0 = [.engineStopped] := by decide +kernel
  have keptUp : bus.missed 0 = 0 := by decide +kernel
  have untold : before.poll.bus.missed 0 = 0 := by decide +kernel
  have consumed := (reads former quiet).2
  rw [arrived, left, keptUp, untold] at consumed
  exact ⟨quiet, (frame former).2.1, (frame former).1,
    by decide +kernel, consumed⟩

end Wait

end Control

end Switchyard
