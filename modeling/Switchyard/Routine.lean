/-!
# Routines

A piece of work that depends on others makes requests and goes on with the
answers. A routine is such a piece of work: it is done, or it makes a request
and says how it goes on for each possible answer. So everything that can happen
in a routine is in the routine itself, an answer may take as long as it likes,
and others may act between any two requests.
-/

namespace Switchyard

/-- A piece of work that makes requests and comes to a result. What answers a
request may get depends on the request. -/
inductive Routine {Request : Type} (Answer : Request → Type)
    (Result : Type) where
  | done (result : Result)
  | ask (request : Request) (resume : Answer request → Routine Answer Result)

namespace Routine

variable {Request : Type} {Answer : Request → Type} {Result Next State : Type}

def bind : Routine Answer Result → (Result → Routine Answer Next) →
    Routine Answer Next
  | .done result, next => next result
  | .ask request resume,
    next => .ask request fun answer => (resume answer).bind next

instance : Monad (Routine Answer) where
  pure := .done
  bind := bind

def call (request : Request) : Routine Answer (Answer request) :=
  .ask request .done

/-- Carries a routine on as far as its requests are answered at once. Whoever
answers may need more time for a request and then gives no answer yet; the same
request comes back to it later. -/
def run
    (answer : (request : Request) → State → Option (Answer request) × State) :
    Routine Answer Result → State → Routine Answer Result × State
  | .done result, state => (.done result, state)
  | .ask request resume, state =>
    match answer request state with
    | (some given, state) => (resume given).run answer state
    | (none, state) => (.ask request resume, state)

def complete (answer : (request : Request) → State → Answer request × State) :
    Routine Answer Result → State → Result × State
  | .done result, state => (result, state)
  | .ask request resume, state =>
    let (given, state) := answer request state
    (resume given).complete answer state

/-- The same routine where every request is passed on as another one, whose
answers are answers to the first. -/
def relay {Passed : Type} {Reply : Passed → Type} (pass : Request → Passed)
    (give : (request : Request) → Reply (pass request) → Answer request) :
    Routine Answer Result → Routine Reply Result
  | .done result => .done result
  | .ask request resume =>
    .ask (pass request) fun reply =>
      (resume (give request reply)).relay pass give

@[simp]
theorem pure_eq_done (result : Result) :
    (pure result : Routine Answer Result) = .done result := rfl

@[simp]
theorem done_bind (result : Result) (next : Result → Routine Answer Next) :
    (Routine.done result >>= next) = next result := rfl

@[simp]
theorem ask_bind (request : Request)
    (resume : Answer request → Routine Answer Result)
    (next : Result → Routine Answer Next) :
    (Routine.ask request resume >>= next) =
      .ask request fun answer => resume answer >>= next := rfl

@[simp]
theorem bind_eq (routine : Routine Answer Result)
    (next : Result → Routine Answer Next) :
    routine.bind next = (routine >>= next) := rfl

@[simp]
theorem call_bind (request : Request)
    (next : Answer request → Routine Answer Next) :
    (call request >>= next) = .ask request next := rfl

/-- Carrying out one routine after another is carrying out the second one where
the first one left off. -/
theorem complete_bind
    (answer : (request : Request) → State → Answer request × State)
    (routine : Routine Answer Result) (next : Result → Routine Answer Next)
    (state : State) :
    (routine >>= next).complete answer state =
      (next (routine.complete answer state).1).complete answer
        (routine.complete answer state).2 := by
  induction routine generalizing state with
  | done result => rfl
  | ask request resume resumeFact => exact resumeFact _ _

end Routine

end Switchyard
