import Mathlib.Data.List.Chain
import Switchyard.Routine

/-!
# Dialogues

While a routine is carried on, requests are made and answered. A dialogue is
what was said so far; it leads from the routine to what is left of it. Facts
about all that a routine may say are proved along its dialogues, and
`reaches_bind` splits a dialogue where one routine follows another.
-/

namespace Switchyard.Routine

variable {Request : Type} {Answer : Request → Type} {Result Next State : Type}

structure Exchange (Answer : Request → Type) where
  request : Request
  answer : Answer request

/-- Some exchanges lead from a routine to what is left of it. -/
inductive Reaches :
    Routine Answer Result → List (Exchange Answer) →
      Routine Answer Result → Prop where
  | here (routine : Routine Answer Result) : Reaches routine [] routine
  | next {request : Request} {resume : Answer request → Routine Answer Result}
    {exchanges : List (Exchange Answer)} {rest : Routine Answer Result}
    (answer : Answer request) : Reaches (resume answer) exchanges rest →
    Reaches (.ask request resume) (⟨request, answer⟩ :: exchanges) rest

theorem Reaches.trans {first middle last : Routine Answer Result}
    {before after : List (Exchange Answer)}
    (former : Reaches first before middle)
    (latter : Reaches middle after last) :
    Reaches first (before ++ after) last := by
  induction former with
  | here routine => exact latter
  | next answer _ laterFact => exact .next answer (laterFact latter)

/-- What was said leads to one place only, so what is said after it starts
there. -/
theorem Reaches.append_iff {first middle last : Routine Answer Result}
    {before after : List (Exchange Answer)}
    (former : Reaches first before middle) :
    Reaches first (before ++ after) last ↔ Reaches middle after last := by
  refine ⟨fun whole => ?_, former.trans⟩
  induction former with
  | here routine => exact whole
  | next answer _ laterFact =>
    cases whole with
    | next _ onward => exact laterFact onward

theorem Reaches.of_done {result : Result} {exchanges : List (Exchange Answer)}
    {rest : Routine Answer Result}
    (reaches : Reaches (.done result) exchanges rest) :
    exchanges = [] ∧ rest = .done result := by
  cases reaches
  exact ⟨rfl, rfl⟩

theorem Reaches.of_ask {request : Request}
    {resume : Answer request → Routine Answer Result}
    {exchanges : List (Exchange Answer)} {rest : Routine Answer Result}
    (reaches : Reaches (.ask request resume) exchanges rest) :
    (exchanges = [] ∧ rest = .ask request resume) ∨
      ∃ answer later, exchanges = ⟨request, answer⟩ :: later ∧
        Reaches (resume answer) later rest := by
  cases reaches with
  | here => exact .inl ⟨rfl, rfl⟩
  | next answer later => exact .inr ⟨answer, _, rfl, later⟩

theorem reaches_ask_cons_iff {request : Request}
    {resume : Answer request → Routine Answer Result}
    {answer : Answer request} {later : List (Exchange Answer)}
    {rest : Routine Answer Result} :
    Reaches (.ask request resume) (⟨request, answer⟩ :: later) rest ↔
      Reaches (resume answer) later rest := by
  constructor
  · intro reaches
    cases reaches with
    | next _ onward => exact onward
  · exact .next answer

/-- A dialogue of two routines one after the other stays within the first one,
or it finishes the first one and goes on with the second. -/
theorem reaches_bind {routine : Routine Answer Result}
    {next : Result → Routine Answer Next} {exchanges : List (Exchange Answer)}
    {rest : Routine Answer Next}
    (reaches : Reaches (routine >>= next) exchanges rest) :
    (∃ request resume, Reaches routine exchanges (.ask request resume) ∧
      rest = (Routine.ask request resume >>= next)) ∨
    ∃ before after result, exchanges = before ++ after ∧
      Reaches routine before (.done result) ∧
      Reaches (next result) after rest := by
  induction routine generalizing exchanges with
  | done result => exact .inr ⟨[], exchanges, result, rfl, .here _, reaches⟩
  | ask request resume resumeFact =>
    rcases Reaches.of_ask reaches with
      ⟨rfl, rfl⟩ | ⟨answer, later, rfl, laterReaches⟩
    · exact .inl ⟨request, resume, .here _, rfl⟩
    · rcases resumeFact answer laterReaches with
        ⟨asked, goingOn, within, restFact⟩ |
          ⟨before, after, result, split, finished, onward⟩
      · exact .inl ⟨asked, goingOn, .next answer within, restFact⟩
      · exact .inr ⟨⟨request, answer⟩ :: before, after, result,
          by rw [split]; rfl, .next answer finished, onward⟩

theorem reaches_done_iff {own result : Result}
    {exchanges : List (Exchange Answer)} :
    Reaches (.done own) exchanges (.done result) ↔
      exchanges = [] ∧ result = own := by
  constructor
  · intro reaches
    obtain ⟨rfl, same⟩ := Reaches.of_done reaches
    exact ⟨rfl, Routine.done.inj same⟩
  · rintro ⟨rfl, rfl⟩
    exact .here _

theorem reaches_ask_done_iff {request : Request}
    {resume : Answer request → Routine Answer Result}
    {exchanges : List (Exchange Answer)} {result : Result} :
    Reaches (.ask request resume) exchanges (.done result) ↔
      ∃ answer later, exchanges = ⟨request, answer⟩ :: later ∧
        Reaches (resume answer) later (.done result) := by
  constructor
  · intro reaches
    rcases Reaches.of_ask reaches with ⟨-, unfinished⟩ | onward
    · cases unfinished
    · exact onward
  · rintro ⟨answer, later, rfl, onward⟩
    exact .next answer onward

/-- What is said in a routine and then in another one is said in the two, one
after the other. -/
theorem Reaches.bind {routine : Routine Answer Result}
    {next : Result → Routine Answer Next}
    {before after : List (Exchange Answer)} {result : Result}
    {rest : Routine Answer Next}
    (finished : Reaches routine before (.done result))
    (onward : Reaches (next result) after rest) :
    Reaches (routine >>= next) (before ++ after) rest := by
  induction routine generalizing before with
  | done own =>
    obtain ⟨rfl, rfl⟩ := reaches_done_iff.1 finished
    exact onward
  | ask request resume resumeFact =>
    obtain ⟨answer, later, rfl, goingOn⟩ := reaches_ask_done_iff.1 finished
    exact .next answer (resumeFact answer goingOn)

theorem reaches_bind_done_iff {routine : Routine Answer Result}
    {next : Result → Routine Answer Next} {exchanges : List (Exchange Answer)}
    {last : Next} :
    Reaches (routine >>= next) exchanges (.done last) ↔
      ∃ before after result, exchanges = before ++ after ∧
        Reaches routine before (.done result) ∧
        Reaches (next result) after (.done last) := by
  constructor
  · intro reaches
    rcases reaches_bind reaches with ⟨request, resume, -, unfinished⟩ | finished
    · cases unfinished
    · exact finished
  · rintro ⟨before, after, result, rfl, finished, onward⟩
    exact finished.bind onward

/-- Every request that the routine may ever make is allowed. -/
def Uses (allowed : Request → Prop) : Routine Answer Result → Prop
  | .done _ => True
  | .ask request resume =>
    allowed request ∧ ∀ answer, (resume answer).Uses allowed

section Uses

variable {allowed : Request → Prop}

@[simp]
theorem uses_done (result : Result) :
    (Routine.done result : Routine Answer Result).Uses allowed :=
  trivial

@[simp]
theorem uses_ask {request : Request}
    {resume : Answer request → Routine Answer Result} :
    (Routine.ask request resume).Uses allowed ↔
      allowed request ∧ ∀ answer, (resume answer).Uses allowed := Iff.rfl

theorem Uses.bind {routine : Routine Answer Result}
    {next : Result → Routine Answer Next} (first : routine.Uses allowed)
    (second : ∀ result, (next result).Uses allowed) :
    (routine >>= next).Uses allowed := by
  induction routine with
  | done result => exact second result
  | ask request resume resumeFact =>
    exact ⟨first.1, fun answer => resumeFact answer (first.2 answer)⟩

theorem Uses.mono {weaker : Request → Prop} {routine : Routine Answer Result}
    (uses : routine.Uses allowed)
    (weakens : ∀ request, allowed request → weaker request) :
    routine.Uses weaker := by
  induction routine with
  | done result => trivial
  | ask request resume resumeFact =>
    exact ⟨weakens request uses.1,
      fun answer => resumeFact answer (uses.2 answer)⟩

theorem Uses.reached {routine rest : Routine Answer Result}
    {exchanges : List (Exchange Answer)} (uses : routine.Uses allowed)
    (reaches : Reaches routine exchanges rest) :
    rest.Uses allowed := by
  induction reaches with
  | here routine => exact uses
  | next answer _ laterFact => exact laterFact (uses.2 answer)

end Uses

section Carrying

variable
  (answer : (request : Request) → State → Option (Answer request) × State)

def exchanges : Routine Answer Result → State → List (Exchange Answer)
  | .done _, _ => []
  | .ask request resume, state =>
    match answer request state with
    | (some given, state) => ⟨request, given⟩ :: (resume given).exchanges state
    | (none, _) => []

theorem reaches_run (routine : Routine Answer Result) (state : State) :
    Reaches routine (routine.exchanges answer state)
      (routine.run answer state).1 := by
  induction routine generalizing state with
  | done result => exact .here _
  | ask request resume resumeFact =>
    rcases given : answer request state with ⟨reply, later⟩
    cases reply with
    | some reply =>
      simp only [exchanges, run, given]
      exact .next reply (resumeFact reply later)
    | none =>
      simp only [exchanges, run, given]
      exact .here _

/-- Whatever relates a state to the one after each allowed request relates it to
the one after the whole. -/
theorem run_relates {allowed : Request → Prop} (Related : State → State → Prop)
    (reflexive : ∀ state, Related state state)
    (transitive : ∀ {first second third}, Related first second →
      Related second third → Related first third)
    (each : ∀ request state, allowed request →
      Related state (answer request state).2)
    {routine : Routine Answer Result} (uses : routine.Uses allowed)
    (state : State) :
    Related state (routine.run answer state).2 := by
  induction routine generalizing state with
  | done result => exact reflexive state
  | ask request resume resumeFact =>
    have asked := each request state uses.1
    rcases given : answer request state with ⟨reply, later⟩
    cases reply with
    | some reply =>
      simp only [run, given] at asked ⊢
      exact transitive asked (resumeFact reply (uses.2 reply) later)
    | none =>
      simp only [run, given] at asked ⊢
      exact asked

theorem run_done_of_prompt
    (prompt : ∀ request state, (answer request state).1.isSome)
    (routine : Routine Answer Result) (state : State) :
    ∃ result, (routine.run answer state).1 = .done result := by
  induction routine generalizing state with
  | done result => exact ⟨result, rfl⟩
  | ask request resume resumeFact =>
    have answered := prompt request state
    rcases given : answer request state with ⟨reply, later⟩
    cases reply with
    | some reply =>
      simp only [run, given]
      exact resumeFact reply later
    | none => simp [given] at answered

end Carrying

section CarryingOut

variable (answer : (request : Request) → State → Answer request × State)

/-- All that is said while a routine is carried out, each exchange with the
state in which its request is made. -/
def transcript : Routine Answer Result → State → List (State × Exchange Answer)
  | .done _, _ => []
  | .ask request resume, state =>
    (state, ⟨request, (answer request state).1⟩) ::
      (resume (answer request state).1).transcript (answer request state).2

theorem reaches_transcript (routine : Routine Answer Result) (state : State) :
    Reaches routine ((routine.transcript answer state).map Prod.snd)
      (.done (routine.complete answer state).1) := by
  induction routine generalizing state with
  | done result => exact .here _
  | ask request resume resumeFact => exact .next _ (resumeFact _ _)

theorem answer_of_transcript_cons {routine : Routine Answer Result}
    {state : State} {request : Request} {given : Answer request}
    {later : List (Exchange Answer)}
    (said : (routine.transcript answer state).map Prod.snd =
      ⟨request, given⟩ :: later) :
    given = (answer request state).1 := by
  cases routine with
  | done result => cases said
  | ask asked resume =>
    rw [transcript, List.map_cons, List.cons.injEq] at said
    cases said.1
    rfl

/-- Each request is made in the state to which the answer to the one before it
has led. -/
theorem isChain_transcript (routine : Routine Answer Result) (state : State) :
    (routine.transcript answer state).IsChain fun previous next =>
      next.1 = (answer previous.2.request previous.1).2 := by
  induction routine generalizing state with
  | done result => exact .nil
  | ask request resume resumeFact =>
    rw [transcript]
    cases upcoming : resume (answer request state).1 with
    | done result => exact .singleton _
    | ask other goingOn =>
      have onward :=
        resumeFact (answer request state).1 (answer request state).2
      rw [upcoming] at onward
      exact .cons_cons rfl onward

end CarryingOut

end Switchyard.Routine
