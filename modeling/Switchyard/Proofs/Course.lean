import Switchyard.Control.Loop
import Switchyard.Proofs.Dialogue

/-!
# Courses of a run

A run of the loop is made of moves: the loop takes a step, or somebody else
acts. Between any two moves others may put notices on the bus, cancel the run,
let time pass, change what is outside, or come and go as receivers. A waiting
loop that looks at its receiver may be interrupted after each status that it
passes over. A course is what a sequence of moves led to, with a log of all that
happened on the way. Every statement on all runs is a statement on all sequences
of moves.
-/

namespace Switchyard.Control

open Routine (Exchange)

/-- What may happen in a run. -/
inductive Occurrence where
  /-- Somebody other than the loop put a notice on the bus. -/
  | noticed (notice : Notice)
  | cancelled
  | began
  | asked (request : Request)
  | answered (request : Request) (answer : request.Answer)
  /-- The loop looked, and its wait goes on with nothing left to read. -/
  | rested
  | woke (wake : Wake)

structure Entry where
  moment : Nat
  what : Occurrence

namespace Occurrence

def isTrafficWake : Occurrence → Bool
  | .woke wake => wake.isEvent
  | _ => false

def isLag : Occurrence → Bool
  | .woke (.lagged _) => true
  | _ => false

def isStopWake : Occurrence → Bool
  | .woke (.event notice) => notice.isStop
  | _ => false

/-- Whether a look of the waiting loop found nothing to read. -/
def foundNothing : Occurrence → Bool
  | .rested => true
  | .woke .timeout => true
  | .woke .closed => true
  | _ => false

/-- Whether a look of the waiting loop found that its receiver was not
behind. -/
def foundPlace : Occurrence → Bool
  | .woke (.event _) => true
  | occurrence => occurrence.foundNothing

def isNotice : Occurrence → Bool
  | .noticed _ => true
  | _ => false

/-- Whether somebody else put a notice on the bus that says more than that a new
status was written. -/
def isRelevantNotice : Occurrence → Bool
  | .noticed notice => !notice.isStatusOnly
  | _ => false

def isBeginning : Occurrence → Bool
  | .began => true
  | _ => false

def isReading : Occurrence → Bool
  | .asked .readPolicy => true
  | _ => false

end Occurrence

def countOf (kind : Occurrence → Bool) (log : List Entry) : Nat :=
  log.countP fun entry => kind entry.what

@[simp]
theorem countOf_nil (kind : Occurrence → Bool) : countOf kind [] = 0 := rfl

@[simp]
theorem countOf_append (kind : Occurrence → Bool) (before after : List Entry) :
    countOf kind (before ++ after) = countOf kind before + countOf kind after :=
  List.countP_append

@[simp]
theorem countOf_cons (kind : Occurrence → Bool) (entry : Entry)
    (log : List Entry) :
    countOf kind (entry :: log) = countOf kind log + if kind entry.what then 1
      else 0 :=
  List.countP_cons

@[simp]
theorem countOf_map (kind : Occurrence → Bool) (now : Nat)
    (occurrences : List Occurrence) :
    countOf kind (occurrences.map (Entry.mk now)) = occurrences.countP kind :=
  List.countP_map

def told (exchanges : List (Exchange Request.Answer)) : List Occurrence :=
  exchanges.flatMap fun exchange =>
    [.asked exchange.request, .answered exchange.request exchange.answer]

/-- What a piece of work shows that has not got its answer yet. -/
def awaited {Result : Type} : Work Result → List Occurrence
  | .done _ => []
  | .ask request _ => [.asked request]

variable {Outside : Type}

def dialogue {Result : Type} (parties : Parties Outside) (rest : Work Result)
    (around : Surroundings Outside) : List Occurrence :=
  told (rest.exchanges (Surroundings.answer parties) around) ++
    awaited (rest.run (Surroundings.answer parties) around).1

/-- What the loop's next step shows. A request that is made once more shows
again. -/
def Loop.occurrences (parties : Parties Outside) (loop : Loop)
    (around : Surroundings Outside) : List Occurrence :=
  match loop.stage with
  | .ended _ => []
  | .opening => if around.isCancelled then [] else [.began]
  | .reading => dialogue parties (ask .readPolicy) around
  | .evaluating _ _ rest =>
    if around.isCancelled then [] else dialogue parties rest around
  | .reporting rest _ => dialogue parties rest around
  | .waiting deadline =>
    match (Wake.look loop.receiver deadline around.now around.isCancelled
      around.bus).1 with
    | none => [.rested]
    | some wake => [.woke wake]

/-- What is new about a step. The first request is not, if it was made before
and comes again. -/
def news : Bool → List Occurrence → List Occurrence
  | true, .asked _ :: rest => rest
  | _, occurrences => occurrences

@[simp]
theorem news_nil (isPending : Bool) : news isPending [] = [] := by
  cases isPending <;> rfl

theorem mem_of_mem_news {isPending : Bool} {shown : List Occurrence}
    {occurrence : Occurrence} (member : occurrence ∈ news isPending shown) :
    occurrence ∈ shown := by
  unfold news at member
  split at member
  · exact List.mem_cons_of_mem _ member
  · exact member

theorem forall_news {Holds : Occurrence → Prop} {shown : List Occurrence}
    (each : ∀ occurrence ∈ shown, Holds occurrence)
    (isPending : Bool) (now : Nat) :
    ∀ entry ∈ (news isPending shown).map (Entry.mk now), Holds entry.what := by
  intro entry member
  obtain ⟨occurrence, isNew, rfl⟩ := List.mem_map.1 member
  exact each occurrence (mem_of_mem_news isNew)

theorem countP_news_of_none {kind : Occurrence → Bool} {shown : List Occurrence}
    (none : ∀ occurrence ∈ shown, kind occurrence = false) (isPending : Bool) :
    (news isPending shown).countP kind = 0 := by
  refine List.countP_eq_zero.2 fun occurrence member => ?_
  rw [none occurrence (mem_of_mem_news member)]
  exact Bool.false_ne_true

/-- A kind of occurrence that no request and no answer is of. -/
def IgnoresRequests (kind : Occurrence → Bool) : Prop :=
  (∀ request, kind (.asked request) = false) ∧
    ∀ request answer, kind (.answered request answer) = false

theorem ignoresRequests_isTrafficWake :
    IgnoresRequests Occurrence.isTrafficWake :=
  ⟨fun _ => rfl, fun _ _ => rfl⟩

theorem ignoresRequests_isStopWake : IgnoresRequests Occurrence.isStopWake :=
  ⟨fun _ => rfl, fun _ _ => rfl⟩

theorem ignoresRequests_isLag : IgnoresRequests Occurrence.isLag :=
  ⟨fun _ => rfl, fun _ _ => rfl⟩

theorem ignoresRequests_isNotice : IgnoresRequests Occurrence.isNotice :=
  ⟨fun _ => rfl, fun _ _ => rfl⟩

theorem ignoresRequests_isRelevantNotice :
    IgnoresRequests Occurrence.isRelevantNotice :=
  ⟨fun _ => rfl, fun _ _ => rfl⟩

theorem ignoresRequests_isBeginning : IgnoresRequests Occurrence.isBeginning :=
  ⟨fun _ => rfl, fun _ _ => rfl⟩

section Kinds

variable {kind : Occurrence → Bool}

theorem countP_news (ignores : IgnoresRequests kind) (isPending : Bool)
    (shown : List Occurrence) :
    (news isPending shown).countP kind = shown.countP kind := by
  unfold news
  split
  · rw [List.countP_cons_of_neg (by simp [ignores.1])]
  · rfl

end Kinds

/-- Where a run has got to: the loop, its surroundings, whether the loop waits
for an answer to a request that it has made, and all that happened so far with
the oldest first. -/
structure Course (Outside : Type) where
  loop : Loop
  around : Surroundings Outside
  isPending : Bool
  log : List Entry

namespace Course

/-- What may come next in a run. -/
inductive Move (Outside : Type) where
  | step
  /-- The loop looks and passes over one status, and somebody else acts before
  it looks on. -/
  | passOver
  | notice (notice : Notice)
  | cancel
  | pass (length : Nat)
  /-- What is outside changes. -/
  | outside (next : Outside)
  /-- Other receivers come, look and leave. -/
  | receivers (places : List (Option Nat))

def start (timing : Timing) (locale : Locale) (around : Surroundings Outside) :
    Course Outside :=
  let (loop, around) := Loop.start timing locale around
  ⟨loop, around, false, []⟩

def note (occurrences : List Occurrence) (course : Course Outside) :
    Course Outside :=
  { course with
    log := course.log ++ occurrences.map (Entry.mk course.around.now) }

/-- The course after a step of the loop that led to another loop and other
surroundings and showed some occurrences. -/
def turned (loop : Loop) (around : Surroundings Outside) (goesOn : Bool)
    (shown : List Occurrence) (course : Course Outside) : Course Outside :=
  { course.note (news course.isPending shown) with
    loop := loop
    around := around
    isPending := !goesOn }

def step (parties : Parties Outside) (course : Course Outside) :
    Course Outside :=
  let next := course.loop.step parties course.around
  course.turned next.loop next.around next.goesOn
    (course.loop.occurrences parties course.around)

def withBus (bus : Bus) (course : Course Outside) : Course Outside :=
  { course with around := { course.around with bus := bus } }

def passOver (course : Course Outside) : Course Outside :=
  match course.loop.stage, course.around.bus.receive course.loop.receiver with
  | .waiting _, (.notice notice, bus) =>
    if notice.isStatusOnly then course.withBus bus else course
  | _, _ => course

def move (parties : Parties Outside) (course : Course Outside) :
    Move Outside → Course Outside
  | .step => course.step parties
  | .passOver => course.passOver
  | .notice notice =>
    (course.note [.noticed notice]).withBus (course.around.bus.publish notice)
  | .cancel =>
    { course.note [.cancelled] with
      around := { course.around with isCancelled := true } }
  | .pass length =>
    { course with
      around := { course.around with now := course.around.now + length } }
  | .outside next =>
    { course with around := { course.around with outside := next } }
  | .receivers places =>
    if places[course.loop.receiver]? =
      course.around.bus.places[course.loop.receiver]? then
      course.withBus { course.around.bus with places := places }
    else course

def play (parties : Parties Outside) (moves : List (Move Outside))
    (course : Course Outside) : Course Outside :=
  moves.foldl (move parties) course

/-- The course after a number of steps of the loop during which nobody else does
anything. -/
def own (parties : Parties Outside) (count : Nat) (course : Course Outside) :
    Course Outside :=
  course.play parties (List.replicate count .step)

def trafficWakes (course : Course Outside) : Nat :=
  countOf Occurrence.isTrafficWake course.log

def lags (course : Course Outside) : Nat := countOf Occurrence.isLag course.log

def stopWakes (course : Course Outside) : Nat :=
  countOf Occurrence.isStopWake course.log

/-- The number of notices that others put on the bus since the loop
subscribed. -/
def othersNotices (course : Course Outside) : Nat :=
  countOf Occurrence.isNotice course.log

@[simp]
theorem countOf_note (kind : Occurrence → Bool) (occurrences : List Occurrence)
    (course : Course Outside) :
    countOf kind (course.note occurrences).log =
      countOf kind course.log + occurrences.countP kind := by
  rw [note, countOf_append, countOf_map]

theorem countOf_turned {kind : Occurrence → Bool}
    (ignores : IgnoresRequests kind) (loop : Loop)
    (around : Surroundings Outside) (goesOn : Bool) (shown : List Occurrence)
    (course : Course Outside) :
    countOf kind (course.turned loop around goesOn shown).log =
      countOf kind course.log + shown.countP kind := by
  rw [← countP_news ignores course.isPending, ← countOf_note]
  rfl

theorem play_append (parties : Parties Outside)
    (former latter : List (Move Outside)) (course : Course Outside) :
    course.play parties (former ++ latter) = (course.play parties former).play
      parties latter :=
  List.foldl_append

theorem own_succ (parties : Parties Outside) (count : Nat)
    (course : Course Outside) :
    course.own parties (count + 1) = (course.step parties).own parties count :=
  rfl

theorem own_add (parties : Parties Outside) (former latter : Nat)
    (course : Course Outside) :
    course.own parties (former + latter) =
      (course.own parties former).own parties latter := by
  rw [own, ← List.replicate_append_replicate, play_append]
  rfl

end Course

end Switchyard.Control
