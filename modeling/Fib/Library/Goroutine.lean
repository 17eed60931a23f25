import Fib.Library.Transition
import Mathlib.Logic.Function.Basic

/-!
# Goroutines that interleave atomic sections

A goroutine is the stack of the atomic sections it still has to run, together
with its local variables.  Running a section reads and writes the shared state
in one step, consults one answer of the environment, and pushes the sections
that follow it; the sections below it on the stack are what its callers do
once it returns.  A section that unwinds drops everything below it, as a panic
does.

A move of the pool runs the next section of any goroutine, starts an idle
goroutine, or lets the environment change the shared state, so that the runs
of a pool are all interleavings of its sections.
-/

namespace Fib
namespace Goroutines

/-- What a goroutine still has to run, and its local variables. -/
structure Goroutine (Section Locals : Type) where
  stack : List Section
  locals : Locals

/-- The result of one section. -/
structure Outcome (Shared Locals Section : Type) where
  shared : Shared
  locals : Locals
  /-- The sections to run before the callers continue. -/
  next : List Section
  /-- The callers do not continue. -/
  unwind : Bool := false

/-- The code all goroutines run. -/
structure Program (Shared Locals Section Answer Event : Type) where
  exec : Section -> Answer -> Shared -> Locals ->
    Option (Outcome Shared Locals Section)
  /-- What an idle goroutine may begin with. -/
  entry : Nat -> Section -> Shared ->
    Option (Outcome Shared Locals Section)
  /-- What the environment may do on its own. -/
  env : Event -> Shared -> Option Shared

/-- The shared state and the goroutines, all but finitely many of them idle
in any run. -/
structure Pool (Shared Locals Section : Type) where
  shared : Shared
  goroutine : Nat -> Goroutine Section Locals

/-- One step of a pool. -/
inductive Move (Section Answer Event : Type)
  | run (index : Nat) (answer : Answer)
  | start (index : Nat) (first : Section)
  | env (event : Event)

variable {Shared Locals Section Answer Event : Type}

/-- The stack a section leaves behind. -/
def Outcome.stackOver
    (outcome : Outcome Shared Locals Section)
    (rest : List Section) : List Section :=
  if outcome.unwind then outcome.next else outcome.next ++ rest

/-- A section that does not unwind continues its callers. -/
theorem Outcome.stackOver_eq
    {outcome : Outcome Shared Locals Section}
    (resumes : outcome.unwind = false)
    (rest : List Section) :
    outcome.stackOver rest = outcome.next ++ rest := by
  simp [stackOver, resumes]

section

variable (pool : Pool Shared Locals Section) (index : Nat)
  (outcome : Outcome Shared Locals Section) (rest : List Section)

/-- Put the outcome of a section into the pool. -/
def Pool.commit : Pool Shared Locals Section where
  shared := outcome.shared
  goroutine := Function.update pool.goroutine index
    { stack := outcome.stackOver rest, locals := outcome.locals }

@[simp] theorem Pool.commit_shared :
    (pool.commit index outcome rest).shared = outcome.shared := rfl

@[simp] theorem Pool.commit_self :
    (pool.commit index outcome rest).goroutine index =
      { stack := outcome.stackOver rest, locals := outcome.locals } := by
  simp [Pool.commit]

variable {index}

theorem Pool.commit_other (different : other ≠ index) :
    (pool.commit index outcome rest).goroutine other = pool.goroutine other := by
  simp [Pool.commit, different]

end

/-- One move of the pool, refused when it is not possible. -/
def step
    (program : Program Shared Locals Section Answer Event)
    (pool : Pool Shared Locals Section) :
    Move Section Answer Event -> Option (Pool Shared Locals Section)
  | .run index answer =>
    match (pool.goroutine index).stack with
    | [] => none
    | first :: rest =>
      (program.exec first answer pool.shared
        (pool.goroutine index).locals).map
          fun outcome => pool.commit index outcome rest
  | .start index first =>
    match (pool.goroutine index).stack with
    | [] =>
      (program.entry index first pool.shared).map
        fun outcome => pool.commit index outcome []
    | _ :: _ => none
  | .env event =>
    (program.env event pool.shared).map
      fun shared => { pool with shared := shared }

/-- Everything a move can be. -/
inductive StepCases
    (program : Program Shared Locals Section Answer Event)
    (pool : Pool Shared Locals Section) :
    Move Section Answer Event -> Pool Shared Locals Section -> Prop
  | ran (index : Nat) (answer : Answer) (first : Section)
      (rest : List Section) (outcome : Outcome Shared Locals Section) :
      (pool.goroutine index).stack = first :: rest ->
      program.exec first answer pool.shared
        (pool.goroutine index).locals = some outcome ->
      StepCases program pool (.run index answer)
        (pool.commit index outcome rest)
  | started (index : Nat) (first : Section)
      (outcome : Outcome Shared Locals Section) :
      (pool.goroutine index).stack = [] ->
      program.entry index first pool.shared = some outcome ->
      StepCases program pool (.start index first)
        (pool.commit index outcome [])
  | acted (event : Event) (shared : Shared) :
      program.env event pool.shared = some shared ->
      StepCases program pool (.env event) { pool with shared := shared }

/-- Inversion of a move. -/
theorem step_cases (taken : step program pool move = some next) :
    StepCases program pool move next := by
  cases move with
  | run index answer =>
    simp only [step] at taken
    split at taken
    · simp at taken
    · next first rest stack =>
      obtain ⟨outcome, executed, rfl⟩ := Option.map_eq_some_iff.mp taken
      exact .ran index answer first rest outcome stack executed
  | start index first =>
    simp only [step] at taken
    split at taken
    · next stack =>
      obtain ⟨outcome, entered, rfl⟩ := Option.map_eq_some_iff.mp taken
      exact .started index first outcome stack entered
    · simp at taken
  | env event =>
    obtain ⟨shared, acted, rfl⟩ := Option.map_eq_some_iff.mp taken
    exact .acted event shared acted

end Goroutines
end Fib
