/-!
# The notice bus

Parts of the program tell each other that something has changed by putting
notices on a bus. The bus keeps the latest notices, as many as its capacity, and
every receiver reads them in order from the place it has reached. A receiver
that falls too far behind is told how many notices it missed, and goes on with
the oldest one that is kept; being told takes no notice from it.
-/

namespace Switchyard

/-- What may be announced on the bus. -/
inductive Notice where
  | policyChanged
  | statusChanged
  | profileReloaded
  | engineStopped
deriving DecidableEq, Repr

namespace Notice

def name : Notice → String
  | .policyChanged => "config_changed"
  | .statusChanged => "status_changed"
  | .profileReloaded => "profile_reloaded"
  | .engineStopped => "engine_stopped"

def ofName? : String → Option Notice
  | "config_changed" => some .policyChanged
  | "status_changed" => some .statusChanged
  | "profile_reloaded" => some .profileReloaded
  | "engine_stopped" => some .engineStopped
  | _ => none

def isStatusOnly (notice : Notice) : Bool := notice == .statusChanged

def isStop (notice : Notice) : Bool := notice == .engineStopped

end Notice

/-- A bus: how many notices were ever put on it, the latest of them with the
oldest first, the place that each receiver has reached, and whether its sending
side is gone. A receiver's place is the number of notices it is past; a receiver
that has left has none. -/
structure Bus where
  capacity : Nat
  sent : Nat
  kept : List Notice
  places : List (Option Nat)
  closed : Bool
deriving Repr

namespace Bus

def usualCapacity : Nat := 64

/-- A bus without receivers. Its capacity is the least power of two that reaches
the wish, and at least one. -/
def withCapacity (wish : Nat) : Bus :=
  ⟨Nat.nextPowerOfTwo (max wish 1), 0, [], [], false⟩

def oldest (bus : Bus) : Nat := bus.sent - bus.kept.length

/-- Puts a notice on the bus; the oldest kept notice goes when there are more
than the capacity. On a closed bus nothing can be put. -/
def publish (notice : Notice) (bus : Bus) : Bus :=
  if bus.closed then bus
  else
    let longer := bus.kept ++ [notice]
    { bus with
      sent := bus.sent + 1, kept := longer.drop (longer.length - bus.capacity) }

def publishTimes (notice : Notice) : Nat → Bus → Bus
  | 0, bus => bus
  | times + 1, bus => publishTimes notice times (bus.publish notice)

/-- Lets a new receiver in, which will read what is sent from now on. Receivers
are numbered in the order in which they came. -/
def subscribe (bus : Bus) : Nat × Bus :=
  (bus.places.length, { bus with places := bus.places ++ [some bus.sent] })

def unsubscribe (receiver : Nat) (bus : Bus) : Bus :=
  { bus with places := bus.places.set receiver none }

def receiverCount (bus : Bus) : Nat := (bus.places.filter Option.isSome).length

def close (bus : Bus) : Bus := { bus with closed := true }

/-- What a receiver finds when it looks. -/
inductive Reception where
  | notice (notice : Notice)
  | missed (count : Nat)
  | nothing
  | closed
deriving DecidableEq, Repr

def look (bus : Bus) (place : Nat) : Reception × Nat :=
  if place < bus.oldest then (.missed (bus.oldest - place), bus.oldest)
  else
    match bus.kept[place - bus.oldest]? with
    | some notice => (.notice notice, place + 1)
    | none => (if bus.closed then .closed else .nothing, place)

/-- The next notice for a receiver. A receiver that has left finds nothing any
more. -/
def receive (receiver : Nat) (bus : Bus) : Reception × Bus :=
  match bus.places[receiver]?.join with
  | none => (.closed, bus)
  | some place =>
    let (found, next) := bus.look place
    (found, { bus with places := bus.places.set receiver (some next) })

/-- What is found at a place when notices about a new status are passed over.
The last argument bounds how many are passed over. -/
def lookRelevant (bus : Bus) (place : Nat) : Nat → Reception × Nat
  | 0 => bus.look place
  | more + 1 =>
    match bus.look place with
    | (.notice notice, next) =>
      if notice.isStatusOnly then lookRelevant bus next more
      else (.notice notice, next)
    | found => found

/-- The next notice for a receiver that says more than that a new status was
written. -/
def receiveRelevant (receiver : Nat) (bus : Bus) : Reception × Bus :=
  match bus.places[receiver]?.join with
  | none => (.closed, bus)
  | some place =>
    let (found, next) := bus.lookRelevant place bus.kept.length
    (found, { bus with places := bus.places.set receiver (some next) })

end Bus

end Switchyard
