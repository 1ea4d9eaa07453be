import Switchyard.Bus

/-!
# What a receiver has before it

A receiver that has kept up finds every notice from its place on, in their
order. One that is behind has lost some: all it is told at its next look is how
many, and from then on it stands at the oldest notice that is kept.
`receiveRelevant_finding` says all that a look for more than a new status can
come to.
-/

namespace Switchyard.Bus

/-- What holds of every bus on which notices can be put: it keeps as many of the
latest notices as its capacity allows. -/
structure Sound (bus : Bus) : Prop where
  roomy : 0 < bus.capacity
  latest : bus.kept.length = min bus.sent bus.capacity
  unclosed : bus.closed = false

theorem Sound.oldest_eq {bus : Bus} (sound : bus.Sound) :
    bus.oldest = bus.sent - bus.capacity := by
  have latest := sound.latest
  unfold oldest
  omega

theorem sound_withCapacity (wish : Nat) : (withCapacity wish).Sound where
  roomy := Nat.pos_of_isPowerOfTwo (Nat.isPowerOfTwo_nextPowerOfTwo _)
  latest := by simp [withCapacity]
  unclosed := rfl

theorem Sound.subscribe {bus : Bus} (sound : bus.Sound) :
    bus.subscribe.2.Sound :=
  ⟨sound.roomy, sound.latest, sound.unclosed⟩

@[simp]
theorem publish_places (notice : Notice) (bus : Bus) :
    (bus.publish notice).places = bus.places := by
  unfold publish
  split <;> rfl

@[simp]
theorem publish_capacity (notice : Notice) (bus : Bus) :
    (bus.publish notice).capacity = bus.capacity := by
  unfold publish
  split <;> rfl

theorem Sound.publish_eq {bus : Bus} (sound : bus.Sound) (notice : Notice) :
    bus.publish notice =
      { bus with
        sent := bus.sent + 1
        kept := (bus.kept ++ [notice]).drop
          (bus.kept.length + 1 - bus.capacity) } := by
  simp [publish, sound.unclosed]

theorem Sound.publish {bus : Bus} (sound : bus.Sound) (notice : Notice) :
    (bus.publish notice).Sound := by
  have roomy := sound.roomy
  have latest := sound.latest
  rw [sound.publish_eq]
  refine ⟨roomy, ?_, sound.unclosed⟩
  simp only [List.length_drop, List.length_append, List.length_singleton]
  omega

def place (receiver : Nat) (bus : Bus) : Nat :=
  bus.places[receiver]?.join.getD 0

/-- Whether a receiver has lost notices since it looked last. -/
def IsBehind (receiver : Nat) (bus : Bus) : Prop :=
  bus.place receiver < bus.oldest

instance (receiver : Nat) (bus : Bus) : Decidable (bus.IsBehind receiver) :=
  inferInstanceAs (Decidable (_ < _))

/-- The notices that are kept and that a receiver has not passed yet. -/
def unread (receiver : Nat) (bus : Bus) : List Notice :=
  bus.kept.drop (bus.place receiver - bus.oldest)

def unreadRelevant (receiver : Nat) (bus : Bus) : Nat :=
  (bus.unread receiver).countP fun notice => !notice.isStatusOnly

/-- The number of notices that a receiver has not passed yet, the lost ones
among them. -/
def backlog (receiver : Nat) (bus : Bus) : Nat := bus.sent - bus.place receiver

theorem unreadRelevant_of_statuses {receiver : Nat} {bus : Bus}
    (statuses : ∀ passed ∈ bus.unread receiver, passed.isStatusOnly = true) :
    bus.unreadRelevant receiver = 0 :=
  List.countP_eq_zero.2 fun passed member => by simp [statuses passed member]

structure Serves (receiver : Nat) (bus : Bus) : Prop where
  sound : bus.Sound
  present : bus.places[receiver]? = some (some (bus.place receiver))
  reached : bus.place receiver ≤ bus.sent

def moved (receiver next : Nat) (bus : Bus) : Bus :=
  { bus with places := bus.places.set receiver (some next) }

section Serving

variable {receiver : Nat} {bus : Bus}

theorem place_of_present {reached : Nat}
    (present : bus.places[receiver]? = some (some reached)) :
    bus.place receiver = reached := by
  simp [place, present]

theorem Sound.serves_subscribe (sound : bus.Sound) :
    bus.subscribe.2.Serves bus.subscribe.1 := by
  have present : bus.subscribe.2.places[bus.subscribe.1]? =
      some (some bus.sent) := by
    simp [Bus.subscribe]
  have reached := place_of_present present
  exact ⟨sound.subscribe,
    by rw [reached, present], by rw [reached]; exact Nat.le_refl _⟩

theorem Sound.unread_subscribe (sound : bus.Sound) :
    bus.subscribe.2.unread bus.subscribe.1 = [] := by
  have present : bus.subscribe.2.places[bus.subscribe.1]? =
      some (some bus.sent) := by
    simp [Bus.subscribe]
  have latest := sound.latest
  unfold unread
  rw [place_of_present present]
  apply List.drop_of_length_le
  simp only [Bus.subscribe, oldest]
  omega

/-- A receiver falls behind when more notices are on their way to it than the
bus keeps. -/
theorem Serves.isBehind_iff (serves : bus.Serves receiver) :
    bus.IsBehind receiver ↔ bus.capacity < bus.backlog receiver := by
  have oldestFact := serves.sound.oldest_eq
  unfold IsBehind backlog
  omega

@[simp]
theorem place_publish (notice : Notice) :
    (bus.publish notice).place receiver = bus.place receiver := by
  simp [place]

theorem Serves.publish (serves : bus.Serves receiver) (notice : Notice) :
    (bus.publish notice).Serves receiver := by
  refine ⟨serves.sound.publish notice, ?_, ?_⟩
  · rw [publish_places, place_publish]
    exact serves.present
  · rw [place_publish, serves.sound.publish_eq]
    exact Nat.le_succ_of_le serves.reached

theorem Serves.backlog_publish (serves : bus.Serves receiver)
    (notice : Notice) :
    (bus.publish notice).backlog receiver = bus.backlog receiver + 1 := by
  unfold backlog
  rw [place_publish, serves.sound.publish_eq]
  exact Nat.succ_sub serves.reached

theorem Sound.oldest_publish (sound : bus.Sound) (notice : Notice) :
    (bus.publish notice).oldest = bus.sent + 1 - bus.capacity := by
  rw [(sound.publish notice).oldest_eq, sound.publish_eq]

theorem Sound.oldest_le_oldest_publish (sound : bus.Sound) (notice : Notice) :
    bus.oldest ≤ (bus.publish notice).oldest := by
  rw [sound.oldest_publish, sound.oldest_eq]
  omega

/-- A bus that has dropped notices drops one more for every new one. -/
theorem Sound.oldest_lt_oldest_publish (sound : bus.Sound)
    (full : 0 < bus.oldest) (notice : Notice) :
    bus.oldest < (bus.publish notice).oldest := by
  rw [sound.oldest_eq] at full
  rw [sound.oldest_publish, sound.oldest_eq]
  omega

theorem IsBehind.publish (behind : bus.IsBehind receiver) (sound : bus.Sound)
    (notice : Notice) :
    (bus.publish notice).IsBehind receiver := by
  have later := sound.oldest_le_oldest_publish notice
  unfold IsBehind at behind ⊢
  rw [place_publish]
  omega

/-- A new notice comes last among the unread ones, as long as it pushes none of
them out. -/
theorem unread_publish (serves : bus.Serves receiver) (notice : Notice)
    (keepsUp : ¬ (bus.publish notice).IsBehind receiver) :
    (bus.publish notice).unread receiver = bus.unread receiver ++ [notice] := by
  have latest := serves.sound.latest
  have reached := serves.reached
  have oldestFact := serves.sound.oldest_eq
  have laterFact := serves.sound.oldest_publish notice
  unfold IsBehind at keepsUp
  rw [place_publish] at keepsUp
  unfold unread
  rw [place_publish, laterFact, serves.sound.publish_eq, List.drop_drop]
  have offset : bus.kept.length + 1 - bus.capacity +
      (bus.place receiver - (bus.sent + 1 - bus.capacity)) =
        bus.place receiver - bus.oldest := by omega
  rw [offset, List.drop_append_of_le_length (by omega)]

/-- Whatever a new notice pushes out, it comes last among what is left of the
unread ones. -/
theorem unread_publish_suffix (serves : bus.Serves receiver) (notice : Notice) :
    (bus.publish notice).unread receiver <:+ bus.unread receiver ++
      [notice] := by
  have latest := serves.sound.latest
  have reached := serves.reached
  have oldestFact := serves.sound.oldest_eq
  unfold unread
  rw [place_publish, serves.sound.oldest_publish, serves.sound.publish_eq,
    List.drop_drop, ← List.drop_append_of_le_length (by omega)]
  exact List.drop_suffix_drop_left _ (by omega)

/-- Whatever a new notice pushes out, it adds no unread notice but itself. -/
theorem unreadRelevant_publish_le (serves : bus.Serves receiver)
    (notice : Notice) :
    (bus.publish notice).unreadRelevant receiver ≤
      bus.unreadRelevant receiver + if notice.isStatusOnly then 0 else 1 := by
  have suffix := unread_publish_suffix serves notice
  have counted :=
    suffix.sublist.countP_le (p := fun notice => !notice.isStatusOnly)
  unfold unreadRelevant
  rw [List.countP_append, List.countP_singleton] at counted
  cases statusOnly : notice.isStatusOnly <;> simpa [statusOnly] using counted

@[simp]
theorem oldest_moved (next : Nat) :
    (bus.moved receiver next).oldest = bus.oldest := rfl

theorem Serves.place_moved (serves : bus.Serves receiver) (next : Nat) :
    (bus.moved receiver next).place receiver = next := by
  have inside : receiver < bus.places.length :=
    (List.getElem?_eq_some_iff.1 serves.present).1
  exact place_of_present (by simp [Bus.moved, inside])

theorem Serves.moved (serves : bus.Serves receiver) {next : Nat}
    (within : next ≤ bus.sent) :
    (bus.moved receiver next).Serves receiver := by
  have inside : receiver < bus.places.length :=
    (List.getElem?_eq_some_iff.1 serves.present).1
  refine ⟨⟨serves.sound.roomy, serves.sound.latest, serves.sound.unclosed⟩, ?_,
    ?_⟩
  · rw [serves.place_moved]
    simp [Bus.moved, inside]
  · rw [serves.place_moved]
    exact within

theorem Serves.backlog_moved (serves : bus.Serves receiver) (next : Nat) :
    (bus.moved receiver next).backlog receiver = bus.sent - next := by
  unfold backlog
  rw [serves.place_moved]
  rfl

theorem Serves.unread_moved (serves : bus.Serves receiver) (next : Nat) :
    (bus.moved receiver next).unread receiver =
      bus.kept.drop (next - bus.oldest) := by
  unfold unread
  rw [serves.place_moved, oldest_moved]
  rfl

theorem Serves.keepsUp_moved (serves : bus.Serves receiver) {next : Nat}
    (within : bus.oldest ≤ next) :
    ¬ (bus.moved receiver next).IsBehind receiver := by
  unfold IsBehind
  rw [serves.place_moved, oldest_moved]
  exact Nat.not_lt.2 within

theorem Serves.past_le (serves : bus.Serves receiver)
    (keepsUp : ¬ bus.IsBehind receiver) {skipped later : List Notice}
    {notice : Notice}
    (unread : bus.unread receiver = skipped ++ notice :: later) :
    bus.place receiver + skipped.length + 1 ≤ bus.sent := by
  have latest := serves.sound.latest
  have oldestFact := serves.sound.oldest_eq
  have length := congrArg List.length unread
  simp only [Bus.unread, List.length_drop, List.length_append, List.length_cons]
    at length
  unfold IsBehind at keepsUp
  omega

theorem Serves.unread_moved_past (serves : bus.Serves receiver)
    (keepsUp : ¬ bus.IsBehind receiver) {skipped later : List Notice}
    {notice : Notice}
    (unread : bus.unread receiver = skipped ++ notice :: later) :
    (bus.moved receiver (bus.place receiver + skipped.length + 1)).unread
      receiver = later := by
  have within : bus.oldest ≤ bus.place receiver := Nat.le_of_not_lt keepsUp
  have offset : bus.place receiver + skipped.length + 1 - bus.oldest =
      bus.place receiver - bus.oldest + (skipped.length + 1) := by omega
  unfold Bus.unread at unread
  rw [serves.unread_moved, offset, ← List.drop_drop, unread]
  simp

theorem Serves.unread_moved_next (serves : bus.Serves receiver)
    (keepsUp : ¬ bus.IsBehind receiver) {later : List Notice} {notice : Notice}
    (unread : bus.unread receiver = notice :: later) :
    (bus.moved receiver (bus.place receiver + 1)).unread receiver = later :=
  serves.unread_moved_past keepsUp
    (show bus.unread receiver = [] ++ notice :: later from unread)

/-- A receiver that is told that it is behind loses nothing more by it. -/
theorem Serves.unread_moved_oldest (serves : bus.Serves receiver)
    (behind : bus.IsBehind receiver) :
    (bus.moved receiver bus.oldest).unread receiver = bus.unread receiver := by
  rw [serves.unread_moved, Nat.sub_self, Bus.unread,
    Nat.sub_eq_zero_of_le (Nat.le_of_lt behind)]

theorem Serves.unread_moved_sent (serves : bus.Serves receiver) :
    (bus.moved receiver bus.sent).unread receiver = [] := by
  have latest := serves.sound.latest
  have oldestFact := serves.sound.oldest_eq
  rw [serves.unread_moved]
  exact List.drop_of_length_le (by omega)

section Others

variable {places : List (Option Nat)}

theorem place_others (own : places[receiver]? = bus.places[receiver]?) :
    ({ bus with places := places } : Bus).place receiver =
      bus.place receiver := by
  simp only [place, own]

theorem isBehind_others (own : places[receiver]? = bus.places[receiver]?) :
    ({ bus with places := places } : Bus).IsBehind receiver ↔
      bus.IsBehind receiver := by
  simp only [IsBehind, place_others own, oldest]

theorem unread_others (own : places[receiver]? = bus.places[receiver]?) :
    ({ bus with places := places } : Bus).unread receiver =
      bus.unread receiver := by
  simp only [unread, place_others own, oldest]

theorem unreadRelevant_others
    (own : places[receiver]? = bus.places[receiver]?) :
    ({ bus with places := places } : Bus).unreadRelevant receiver =
      bus.unreadRelevant receiver := by
  simp only [unreadRelevant, unread_others own]

theorem Serves.others (serves : bus.Serves receiver)
    (own : places[receiver]? = bus.places[receiver]?) :
    ({ bus with places := places } : Bus).Serves receiver := by
  refine ⟨⟨serves.sound.roomy, serves.sound.latest, serves.sound.unclosed⟩, ?_,
    ?_⟩
  · rw [place_others own]
    exact own.trans serves.present
  · rw [place_others own]
    exact serves.reached

end Others

/-! ## Looking for what is relevant -/

theorem look_of_behind (place : Nat) (behind : place < bus.oldest) :
    bus.look place = (.missed (bus.oldest - place), bus.oldest) := by
  simp [look, behind]

theorem look_of_ahead {place : Nat} {notice : Notice} {rest : List Notice}
    (keepsUp : bus.oldest ≤ place)
    (ahead : bus.kept.drop (place - bus.oldest) = notice :: rest) :
    bus.look place = (.notice notice, place + 1) := by
  have found : bus.kept[place - bus.oldest]? = some notice := by
    rw [← List.head?_drop, ahead, List.head?_cons]
  simp [look, Nat.not_lt.2 keepsUp, found]

theorem look_at_end {place : Nat} (unclosed : bus.closed = false)
    (keepsUp : bus.oldest ≤ place)
    (ahead : bus.kept.drop (place - bus.oldest) = []) :
    bus.look place = (.nothing, place) := by
  have found : bus.kept[place - bus.oldest]? = none := by
    rw [← List.head?_drop, ahead, List.head?_nil]
  simp [look, Nat.not_lt.2 keepsUp, found, unclosed]

theorem drop_succ_of_ahead {place : Nat} {notice : Notice} {rest : List Notice}
    (keepsUp : bus.oldest ≤ place)
    (ahead : bus.kept.drop (place - bus.oldest) = notice :: rest) :
    bus.kept.drop (place + 1 - bus.oldest) = rest := by
  rw [Nat.sub_add_comm keepsUp, ← List.drop_drop, ahead, List.drop_one,
    List.tail_cons]

theorem lookRelevant_of_status {place more : Nat} {passed : Notice}
    {rest : List Notice} (keepsUp : bus.oldest ≤ place)
    (ahead : bus.kept.drop (place - bus.oldest) = passed :: rest)
    (status : passed.isStatusOnly = true) :
    bus.lookRelevant place (more + 1) = bus.lookRelevant (place + 1) more := by
  simp [lookRelevant, look_of_ahead keepsUp ahead, status]

theorem lookRelevant_of_ahead {skipped rest : List Notice} {notice : Notice}
    (statuses : ∀ passed ∈ skipped, passed.isStatusOnly = true)
    (relevant : notice.isStatusOnly = false) :
    ∀ {place more : Nat}, bus.oldest ≤ place →
      bus.kept.drop (place - bus.oldest) = skipped ++ notice :: rest →
      skipped.length ≤ more →
      bus.lookRelevant place more =
        (.notice notice, place + skipped.length + 1) := by
  induction skipped with
  | nil =>
    intro place more keepsUp ahead _
    cases more with
    | zero => exact look_of_ahead keepsUp ahead
    | succ more => simp [lookRelevant, look_of_ahead keepsUp ahead, relevant]
  | cons passed skipped skippedFact =>
    intro place more keepsUp ahead enough
    obtain ⟨more, rfl⟩ :=
      Nat.exists_eq_add_one_of_ne_zero (Nat.ne_zero_of_lt enough)
    rw [lookRelevant_of_status keepsUp ahead
      (statuses passed List.mem_cons_self),
        skippedFact (fun other member =>
          statuses other (List.mem_cons_of_mem _ member))
        (Nat.le_succ_of_le keepsUp) (drop_succ_of_ahead keepsUp ahead)
        (Nat.le_of_succ_le_succ enough),
      List.length_cons, Nat.add_right_comm place 1]
    rfl

theorem lookRelevant_of_statuses (unclosed : bus.closed = false)
    {ahead : List Notice}
    (statuses : ∀ passed ∈ ahead, passed.isStatusOnly = true) :
    ∀ {place more : Nat}, bus.oldest ≤ place →
      bus.kept.drop (place - bus.oldest) = ahead →
      ahead.length ≤ more →
      bus.lookRelevant place more = (.nothing, place + ahead.length) := by
  induction ahead with
  | nil =>
    intro place more keepsUp aheadFact _
    cases more with
    | zero => exact look_at_end unclosed keepsUp aheadFact
    | succ more => simp [lookRelevant, look_at_end unclosed keepsUp aheadFact]
  | cons passed ahead restFact =>
    intro place more keepsUp aheadFact enough
    obtain ⟨more, rfl⟩ :=
      Nat.exists_eq_add_one_of_ne_zero (Nat.ne_zero_of_lt enough)
    rw [lookRelevant_of_status keepsUp aheadFact
      (statuses passed List.mem_cons_self),
        restFact (fun other member =>
          statuses other (List.mem_cons_of_mem _ member))
        (Nat.le_succ_of_le keepsUp) (drop_succ_of_ahead keepsUp aheadFact)
        (Nat.le_of_succ_le_succ enough),
      List.length_cons, Nat.add_right_comm place 1]
    rfl

/-- All that a look for more than a new status can come to, with the bus after
it. -/
inductive Finding (receiver : Nat) (bus : Bus) : Reception → Bus → Prop where
  | missed (behind : bus.IsBehind receiver) :
    Finding receiver bus (.missed (bus.oldest - bus.place receiver))
      (bus.moved receiver bus.oldest)
  | notice {skipped rest : List Notice} {notice : Notice}
    (keepsUp : ¬ bus.IsBehind receiver)
    (unread : bus.unread receiver = skipped ++ notice :: rest)
    (statuses : ∀ passed ∈ skipped, passed.isStatusOnly = true)
    (relevant : notice.isStatusOnly = false) :
    Finding receiver bus (.notice notice)
      (bus.moved receiver (bus.place receiver + skipped.length + 1))
  | nothing (keepsUp : ¬ bus.IsBehind receiver)
    (statuses : ∀ passed ∈ bus.unread receiver, passed.isStatusOnly = true) :
    Finding receiver bus .nothing (bus.moved receiver bus.sent)

/-- All that a look for the next notice can come to. -/
theorem Serves.receive_cases (serves : bus.Serves receiver) :
    (bus.IsBehind receiver ∧
      bus.receive receiver =
        (.missed (bus.oldest - bus.place receiver),
          bus.moved receiver bus.oldest)) ∨
    (∃ notice later, ¬ bus.IsBehind receiver ∧
      bus.unread receiver = notice :: later ∧ bus.receive receiver =
        (.notice notice, bus.moved receiver (bus.place receiver + 1))) ∨
    ¬ bus.IsBehind receiver ∧ bus.unread receiver = [] ∧
      bus.receive receiver =
        (.nothing, bus.moved receiver (bus.place receiver)) := by
  have received : bus.receive receiver =
      ((bus.look (bus.place receiver)).1,
        bus.moved receiver (bus.look (bus.place receiver)).2) := by
    unfold receive
    rw [serves.present]
    rfl
  rw [received]
  by_cases behind : bus.IsBehind receiver
  · rw [look_of_behind _ behind]
    exact .inl ⟨behind, rfl⟩
  · have keepsUp : bus.oldest ≤ bus.place receiver := Nat.le_of_not_lt behind
    cases unread : bus.unread receiver with
    | nil =>
      rw [look_at_end serves.sound.unclosed keepsUp unread]
      exact .inr (.inr ⟨behind, rfl, rfl⟩)
    | cons notice later =>
      rw [look_of_ahead keepsUp unread]
      exact .inr (.inl ⟨notice, later, behind, rfl, rfl⟩)

theorem Serves.receiveRelevant_eq (serves : bus.Serves receiver) :
    bus.receiveRelevant receiver =
      ((bus.lookRelevant (bus.place receiver) bus.kept.length).1,
        bus.moved receiver
          (bus.lookRelevant (bus.place receiver) bus.kept.length).2) := by
  unfold receiveRelevant
  rw [serves.present]
  rfl

theorem Serves.receiveRelevant_finding (serves : bus.Serves receiver) :
    Finding receiver bus (bus.receiveRelevant receiver).1
      (bus.receiveRelevant receiver).2 := by
  rw [serves.receiveRelevant_eq]
  by_cases behind : bus.IsBehind receiver
  · have found : bus.lookRelevant (bus.place receiver) bus.kept.length =
        (.missed (bus.oldest - bus.place receiver), bus.oldest) := by
      cases bus.kept.length with
      | zero => exact look_of_behind _ behind
      | succ more => simp [lookRelevant, look_of_behind _ behind]
    rw [found]
    exact .missed behind
  · have keepsUp : bus.oldest ≤ bus.place receiver := Nat.le_of_not_lt behind
    have enough : (bus.unread receiver).length ≤ bus.kept.length := by
      simp [unread]
    by_cases statuses :
      ∀ passed ∈ bus.unread receiver, passed.isStatusOnly = true
    · have latest := serves.sound.latest
      have reached := serves.reached
      have oldestFact := serves.sound.oldest_eq
      have stop : bus.place receiver + (bus.unread receiver).length =
          bus.sent := by
        simp only [unread, List.length_drop]
        omega
      rw [lookRelevant_of_statuses serves.sound.unclosed statuses keepsUp
        rfl enough, stop]
      exact .nothing behind statuses
    · obtain ⟨skipped, notice, rest, unreadFact, skippedFact, relevant⟩ :
          ∃ skipped notice rest,
            bus.unread receiver = skipped ++ notice :: rest ∧
            (∀ passed ∈ skipped, passed.isStatusOnly = true) ∧
            notice.isStatusOnly = false := by
        cases first : (bus.unread receiver).find? fun notice =>
          !notice.isStatusOnly with
        | none =>
          simp [List.find?_eq_none] at first; exact absurd first statuses
        | some notice =>
          obtain ⟨relevant, skipped, rest, unreadFact, skippedFact⟩ :=
            List.find?_eq_some_iff_append.1 first
          exact ⟨skipped, notice, rest, unreadFact, by simpa using skippedFact,
            by simpa using relevant⟩
      have within : skipped.length ≤ bus.kept.length := by
        rw [unreadFact] at enough
        simp at enough
        omega
      rw [lookRelevant_of_ahead skippedFact relevant keepsUp unreadFact within]
      exact .notice behind unreadFact skippedFact relevant

end Serving

end Switchyard.Bus
