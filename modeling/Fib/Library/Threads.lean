import Fib.Library.Tally

/-!
# Threads as stacks of sections

A system of threads is a shared state and, for each thread, the stack of the
atomic sections it still has to run.  Running the first section of a stack
changes the shared state and puts the sections that follow it on the stack.  A
thread carries the tag it was started with.
-/

namespace Fib
namespace Threads

variable {Shared Tag Code Answer : Type}

/-- A thread and what it still has to run. -/
structure Thread (Tag Code : Type) where
  tag : Tag
  stack : List Code
deriving DecidableEq

/-- A shared state with its threads. -/
structure System (Shared Tag Code : Type) where
  shared : Shared
  threads : List (Thread Tag Code) := []

namespace System

/-- Start a thread. -/
def spawn
    (system : System Shared Tag Code)
    (tag : Tag)
    (stack : List Code) :
    System Shared Tag Code :=
  { system with threads := system.threads ++ [⟨tag, stack⟩] }

/-- The system once a thread has run its first section. -/
def moved
    (system : System Shared Tag Code)
    (index : Nat)
    (tag : Tag)
    (rest : List Code)
    (outcome : Shared × List Code) :
    System Shared Tag Code where
  shared := outcome.1
  threads := system.threads.set index ⟨tag, outcome.2 ++ rest⟩

/-- Run the next section of a thread. -/
def advance
    (exec : Code -> Answer -> Shared -> Shared × List Code)
    (system : System Shared Tag Code)
    (index : Nat)
    (answer : Answer) :
    Option (System Shared Tag Code) :=
  match system.threads[index]? with
  | some ⟨tag, code :: rest⟩ =>
    some (system.moved index tag rest (exec code answer system.shared))
  | _ => none

/-- No thread has anything left to do. -/
def Quiet (system : System Shared Tag Code) : Prop :=
  ∀ thread ∈ system.threads, thread.stack = []

instance [DecidableEq Code] (system : System Shared Tag Code) :
    Decidable system.Quiet :=
  inferInstanceAs (Decidable (∀ thread ∈ system.threads, thread.stack = []))

/-- A section some thread still has to run. -/
def Pending
    (system : System Shared Tag Code)
    (code : Code) : Prop :=
  ∃ thread ∈ system.threads, code ∈ thread.stack

/-- Inversion of a step of a thread. -/
theorem advance_eq_some
    {system after : System Shared Tag Code}
    (taken : system.advance exec index answer = some after) :
    ∃ tag code rest, system.threads[index]? = some ⟨tag, code :: rest⟩ ∧
      after = system.moved index tag rest (exec code answer system.shared) := by
  unfold advance at taken
  split at taken
  · next tag code rest here =>
    exact ⟨tag, code, rest, here, (Option.some.inj taken).symm⟩
  · cases taken

section Moved

variable {system : System Shared Tag Code} {index : Nat} {tag : Tag}
  {code other : Code} {rest : List Code} {outcome : Shared × List Code}

section

variable (here : system.threads[index]? = some ⟨tag, code :: rest⟩)
include here

theorem pending_head : system.Pending code :=
  ⟨_, List.mem_of_getElem? here, List.mem_cons_self⟩

/-- What is pending after a step was pending before or follows the section that
ran. -/
theorem Pending.of_moved
    (pending : (system.moved index tag rest outcome).Pending other) :
    other ∈ outcome.2 ∨ system.Pending other := by
  obtain ⟨thread, member, present⟩ := pending
  rcases List.mem_or_eq_of_mem_set member with old | rfl
  · exact .inr ⟨thread, old, present⟩
  · rcases List.mem_append.mp present with new | left
    · exact .inl new
    · exact .inr ⟨_, List.mem_of_getElem? here, List.mem_cons_of_mem _ left⟩

/-- Another section stays pending. -/
theorem Pending.moved
    (pending : system.Pending other)
    (different : other ≠ code) :
    (system.moved index tag rest outcome).Pending other := by
  obtain ⟨thread, member, present⟩ := pending
  have bound := (List.getElem?_eq_some_iff.mp here).1
  obtain ⟨place, found⟩ := List.mem_iff_getElem?.mp member
  by_cases same : place = index
  · subst same
    obtain rfl := Option.some.inj (here.symm.trans found)
    rcases List.mem_cons.mp present with first | later
    · exact absurd first different
    · exact ⟨⟨tag, outcome.2 ++ rest⟩, List.mem_set bound _, List.mem_append_right _ later⟩
  · refine ⟨thread, List.mem_of_getElem? (?_ : _[place]? = _), present⟩
    exact (List.getElem?_set_ne (Ne.symm same)).trans found

theorem pending_next (member : other ∈ outcome.2) :
    (system.moved index tag rest outcome).Pending other :=
  ⟨⟨tag, outcome.2 ++ rest⟩, List.mem_set (List.getElem?_eq_some_iff.mp here).1 _,
    List.mem_append_left rest member⟩

end

end Moved

theorem not_pending_of_quiet
    {system : System Shared Tag Code}
    (quiet : system.Quiet)
    (code : Code) :
    ¬system.Pending code := by
  rintro ⟨thread, member, present⟩
  rw [quiet thread member] at present
  cases present

theorem pending_spawn {system : System Shared Tag Code} :
    (system.spawn tag stack).Pending code ↔ code ∈ stack ∨ system.Pending code := by
  simp only [Pending, spawn, List.mem_append, List.mem_singleton]
  constructor
  · rintro ⟨thread, old | rfl, present⟩
    · exact .inr ⟨thread, old, present⟩
    · exact .inl present
  · rintro (new | ⟨thread, member, present⟩)
    · exact ⟨_, .inr rfl, new⟩
    · exact ⟨thread, .inl member, present⟩

end System

end Threads
end Fib
