import Switchyard.Control.Wake

/-!
# Rehearsed waits

One receiver waits several times in a row, on a virtual clock, while an agenda
says what happens at which millisecond. What happens at the moment at which a
wait would run out happens before.
-/

namespace Switchyard.Rehearsal

open Control (Wake)

/-- What an agenda may let happen. -/
inductive Happening where
  | notice (notice : Notice)
  | cancel
  | close
deriving DecidableEq, Repr

/-- A receiver that waits, with what is around it. The time is in milliseconds,
and what is left of the agenda is in the order in which it happens. -/
structure Waiter where
  now : Nat
  isCancelled : Bool
  bus : Bus
  receiver : Nat
  agenda : List (Nat × Happening)

namespace Waiter

def experience (happening : Happening) (waiter : Waiter) : Waiter :=
  match happening with
  | .notice notice => { waiter with bus := waiter.bus.publish notice }
  | .cancel => { waiter with isCancelled := true }
  | .close => { waiter with bus := waiter.bus.close }

def look (deadline : Option Nat) (waiter : Waiter) : Option Wake × Waiter :=
  let (ending, bus) :=
    Wake.look waiter.receiver deadline waiter.now waiter.isCancelled waiter.bus
  (ending, { waiter with bus := bus })

def waitQuietly (deadline : Option Nat) (waiter : Waiter) :
    Option Wake × Waiter :=
  match waiter.look deadline, deadline with
  | (some wake, waiter), _ => (some wake, waiter)
  | (none, waiter), none => (none, waiter)
  | (none, waiter), some moment =>
    { waiter with now := max waiter.now moment }.look deadline

/-- Waits until a deadline while an agenda is carried out. The result is empty
if nothing can end the wait. -/
def waitAmid (deadline : Option Nat) :
    List (Nat × Happening) → Waiter → Option Wake × Waiter
  | [], waiter => { waiter with agenda := [] }.waitQuietly deadline
  | (moment, happening) :: rest, waiter =>
    if moment ≤ waiter.now then waitAmid deadline rest
      (waiter.experience happening)
    else
      match waiter.look deadline with
      | (some wake, waiter) =>
        (some wake, { waiter with agenda := (moment, happening) :: rest })
      | (none, waiter) =>
        if Wake.isDue (moment - 1) deadline then
          ({ waiter with
            now := deadline.getD waiter.now
            agenda := (moment, happening) :: rest }).look deadline
        else
          waitAmid deadline rest
            ({ waiter with now := moment }.experience happening)

def wait (length : Option Nat) (waiter : Waiter) : Option Wake × Waiter :=
  waiter.waitAmid (length.map fun length => waiter.now + length) waiter.agenda

/-- Waits several times. Each item has the moment at which the wait ended; a
wait that nothing can end is the last. -/
def waits : List (Option Nat) → Waiter → List (Option (Wake × Nat))
  | [], _ => []
  | length :: lengths, waiter =>
    match waiter.wait length with
    | (none, _) => [none]
    | (some wake, waiter) => some (wake, waiter.now) :: waiter.waits lengths

end Waiter

/-- Rehearses waits on a fresh bus of a capacity, on which some notices are put
first. -/
def rehearseWaits (capacity : Nat) (queued : List Notice)
    (agenda : List (Nat × Happening)) (lengths : List (Option Nat)) :
    List (Option (Wake × Nat)) :=
  let (receiver, bus) := (Bus.withCapacity capacity).subscribe
  let filled := queued.foldl (fun bus notice => bus.publish notice) bus
  Waiter.waits lengths ⟨0, false, filled, receiver, agenda⟩

end Switchyard.Rehearsal
