import Switchyard.Files.Event

/-!
# Watching a file

A watcher turns events of a file into announcements that the file has changed.
The first event that touches the file opens a burst; everything that comes until
the burst's deadline belongs to it; then there is one announcement for all of
it. If no more events can come, an open burst is announced at once. A watcher
that is cancelled announces nothing any more.

Nothing is said here of what comes first when an event and a deadline come at
the same moment: the occasions reach the watcher in one order or in the other.
-/

namespace Switchyard

namespace Watcher

/-- What a watcher is told of files. -/
inductive News where
  | event (event : Files.Event)
  | failure (reason : String)
deriving DecidableEq, Repr

/-- What may happen to a watcher. -/
inductive Occasion where
  | news (news : News)
  | deadline
  | noMoreNews
  | cancellation
deriving DecidableEq, Repr

/-- What a watcher is doing. -/
inductive Stage where
  | idle
  | gathering (deadline : Nat)
  | ended
deriving DecidableEq, Repr

end Watcher

/-- A watcher of the file at a path. Times are in any one unit. -/
structure Watcher where
  path : String
  debounce : Nat
  stage : Watcher.Stage
deriving DecidableEq, Repr

namespace Watcher

def start (path : String) (debounce : Nat) : Watcher := ⟨path, debounce, .idle⟩

def News.touches (path : String) : News → Bool
  | .event told => told.touches path
  | .failure _ => false

/-- The moment at which a burst will be announced, if there is one. -/
def deadline? (watcher : Watcher) : Option Nat :=
  match watcher.stage with
  | .gathering deadline => some deadline
  | _ => none

/-- What happens to a watcher at a moment makes of it, and whether it announces
a change then. -/
def step (now : Nat) (occasion : Occasion) (watcher : Watcher) :
    Watcher × Bool :=
  match watcher.stage, occasion with
  | .ended, _ => (watcher, false)
  | .idle, .news news =>
    if news.touches watcher.path then
      ({ watcher with stage := .gathering (now + watcher.debounce) }, false)
    else (watcher, false)
  | .idle, .deadline => (watcher, false)
  | .idle, .noMoreNews => ({ watcher with stage := .ended }, false)
  | .gathering _, .news _ => (watcher, false)
  | .gathering deadline, .deadline =>
    if deadline ≤ now then ({ watcher with stage := .idle }, true)
    else (watcher, false)
  | .gathering _, .noMoreNews => ({ watcher with stage := .ended }, true)
  | _, .cancellation => ({ watcher with stage := .ended }, false)

/-- The moments at which a watcher announces a change while occasions come at
their moments, and the watcher after that. -/
def follow : List (Nat × Occasion) → Watcher → List Nat × Watcher
  | [], watcher => ([], watcher)
  | (now, occasion) :: occasions, watcher =>
    let (next, announces) := watcher.step now occasion
    let (later, last) := next.follow occasions
    (if announces then now :: later else later, last)

/-- What a watcher announces while some occasions come and then others is what
it announces while the first come, and after that what it announces while the
others come. -/
theorem follow_append (watcher : Watcher)
    (first second : List (Nat × Occasion)) :
    watcher.follow (first ++ second) =
      ((watcher.follow first).1 ++ ((watcher.follow first).2.follow second).1,
        ((watcher.follow first).2.follow second).2) := by
  induction first generalizing watcher with
  | nil => rfl
  | cons occasion rest restFact =>
    simp only [List.cons_append, follow, restFact]
    split <;> rfl

end Watcher

end Switchyard
