import Switchyard.Group
import Switchyard.Policy

/-!
# The switching decision

From the policy, the group as it was queried and the time since the last
confirmed switch follows what to do: nothing, because no candidate is in the
group or because there is a reason to hold the selection, or a move to the best
candidate. The decision asks nobody and keeps no state.

Among the candidates in the group the best is the first one of least score;
candidates without a latency are passed over when the policy prefers stable ones
and there are some.
-/

namespace Switchyard

/-- The two proxies between which a move is weighed, and what the policy says
about it. -/
structure Weighing where
  current : Option Proxy
  desired : Proxy
  preferStableOnly : Bool
  minImprovement : Nat

/-- A rule for weighing a move: its name, and its verdict where it has one. -/
structure Rule where
  name : String
  verdict : Weighing → Option Bool

namespace Rule

def noCurrent : Rule where
  name := "no-current"
  verdict weighing := if weighing.current.isNone then some true else none

def currentUnstable : Rule where
  name := "current-unstable"
  verdict weighing := match weighing.current with
    | some current => if current.delay.isStable then none else some true
    | none => none

/-- A desired proxy without a latency is not taken when stable ones are
preferred. -/
def desiredUnstablePreferred : Rule where
  name := "desired-unstable-preferred"
  verdict weighing :=
    if !weighing.desired.delay.isStable &&
      weighing.preferStableOnly then some false else none

/-- A desired proxy without a latency is taken only from a current one without a
latency. -/
def desiredUnstable : Rule where
  name := "desired-unstable"
  verdict weighing :=
    if weighing.desired.delay.isStable then none
    else match weighing.current with
      | some current => some (!current.delay.isStable)
      | none => some false

/-- A move between two latencies is made when it gains more than the least
improvement. The sum is held in a word of 32 bits: where it does not fit, the
greatest word stands for it. -/
def improvement : Rule where
  name := "improvement"
  verdict weighing := do
    let desired ← weighing.desired.delay.latency?
    let current ← (← weighing.current).delay.latency?
    let needed := min (desired + weighing.minImprovement) (UInt32.size - 1)
    if needed < current then some true else none

def otherwise : Rule where
  name := "otherwise"
  verdict _ := some false

def all : List Rule :=
  [noCurrent, currentUnstable, desiredUnstablePreferred, desiredUnstable,
    improvement, otherwise]

end Rule

namespace Weighing

/-- The verdict of the first of some rules that has one, and that rule's
name. -/
def settleBy (rules : List Rule) (weighing : Weighing) :
    Option (Bool × String) :=
  rules.findSome? fun rule => (rule.verdict weighing).map (·, rule.name)

/-- The verdict of the first of some rules that has one, and that rule's name.
Where none has one, the verdict is that of the last rule of all. -/
def settleAmong (rules : List Rule) (weighing : Weighing) : Bool × String :=
  (weighing.settleBy rules).getD (false, Rule.otherwise.name)

def paysOffBy (rules : List Rule) (weighing : Weighing) : Bool :=
  (weighing.settleAmong rules).1

/-- The verdict of the first rule that has one, and that rule's name. -/
def settle (weighing : Weighing) : Bool × String :=
  weighing.settleAmong Rule.all

def paysOff (weighing : Weighing) : Bool := weighing.settle.1

end Weighing

/-- Why the selection is held. -/
inductive Hold where
  | noPreferredCandidate
  | alreadyOptimal (desired : Proxy)
  | cooldown (current : Option String) (remainingSeconds : Nat)
  | noImprovement (current : Option String) (desired : Proxy)
deriving DecidableEq, Repr

/-- A move to another proxy. It is forced when the current selection is no
candidate. -/
structure Move where
  target : Proxy
  forced : Bool
  previous : Option String
deriving DecidableEq, Repr

/-- What to do about a group. -/
inductive Decision where
  | missingCandidates (available : List String)
  | hold (reason : Hold)
  | move (plan : Move)
deriving DecidableEq, Repr

namespace Decision

/-- The candidates of the policy that are members of the group, in the group's
order. -/
def candidates (policy : Policy) (group : Group) : List Proxy :=
  group.members.filter fun proxy => decide (proxy.name ∈ policy.candidates)

def pool (preferStableOnly : Bool) (candidates : List Proxy) : List Proxy :=
  let stable := candidates.filter fun proxy => proxy.delay.isStable
  if preferStableOnly && !stable.isEmpty then stable else candidates

def better (left right : Proxy) : Proxy :=
  if right.delay.score < left.delay.score then right else left

def best? : List Proxy → Option Proxy
  | [] => none
  | first :: rest => some (rest.foldl better first)

def current? (candidates : List Proxy) (group : Group) : Option Proxy :=
  group.selected?.bind fun name =>
    candidates.find? fun proxy => proxy.name == name

/-- The whole seconds of rest that remain, where the rest is not over; at least
one. -/
def restRemaining? (policy : Policy) (sinceSwitch : Option Nat) : Option Nat :=
  sinceSwitch.bind fun elapsed =>
    if elapsed < policy.cooldown then
      some (max (Duration.wholeSeconds (policy.cooldown - elapsed)) 1)
    else none

/-- What is settled about a group before a move is weighed, or else the move
that is to be weighed. -/
def examine (policy : Policy) (group : Group) (sinceSwitch : Option Nat)
    (minImprovement : Nat) : Decision ⊕ Weighing :=
  let candidates := candidates policy group
  if candidates.isEmpty then .inl (.missingCandidates group.memberNames)
  else match best? (pool policy.preferStableOnly candidates) with
    | none => .inl (.hold .noPreferredCandidate)
    | some desired =>
      if group.selected? =
        some desired.name then .inl (.hold (.alreadyOptimal desired))
      else
        let current := current? candidates group
        let resting := if current.isSome then restRemaining? policy sinceSwitch
          else none
        match resting with
        | some remaining =>
          .inl (.hold (.cooldown group.selectedDisplay? remaining))
        | none => .inr ⟨current, desired, policy.preferStableOnly,
          minImprovement⟩

/-- What follows from a weighing. A move away from a proxy that is no candidate
is always made. -/
def conclude (group : Group) (weighing : Weighing) (paysOff : Bool) :
    Decision :=
  if !paysOff && weighing.current.isSome then
    .hold (.noImprovement group.selectedDisplay? weighing.desired)
  else .move ⟨weighing.desired, weighing.current.isNone, group.selectedDisplay?⟩

/-- What to do about a group when moves are weighed by some rules. -/
def decideBy (rules : List Rule) (policy : Policy) (group : Group)
    (sinceSwitch : Option Nat) (minImprovement : Nat) : Decision :=
  match examine policy group sinceSwitch minImprovement with
  | .inl decision => decision
  | .inr weighing => conclude group weighing (weighing.paysOffBy rules)

/-- What to do about a group, given the time since the last confirmed switch, if
there was one, and the least improvement in milliseconds for which a move is
made. -/
def decide (policy : Policy) (group : Group) (sinceSwitch : Option Nat)
    (minImprovement : Nat) : Decision :=
  decideBy Rule.all policy group sinceSwitch minImprovement

def toJson : Decision → Json
  | .missingCandidates available =>
    .object [("decision", .text "missing-candidates"),
      ("available", .array (available.map Json.text))]
  | .hold .noPreferredCandidate =>
    .object [("decision", .text "no-preferred-candidate")]
  | .hold (.alreadyOptimal desired) =>
    .object [("decision", .text "already-optimal"), ("desired", desired.toJson)]
  | .hold (.cooldown current remaining) =>
    .object [("decision", .text "cooldown"), ("current", Json.ofText? current),
      ("remaining_secs", .ofNat remaining)]
  | .hold (.noImprovement current desired) =>
    .object [("decision", .text "no-improvement"),
      ("current", Json.ofText? current), ("desired", desired.toJson)]
  | .move plan =>
    .object [("decision", .text "switch"), ("target", plan.target.toJson),
      ("forced", .bool plan.forced), ("previous", Json.ofText? plan.previous)]

end Decision

end Switchyard
