import Mathlib.Algebra.Order.BigOperators.Group.List
import Mathlib.Algebra.Order.Ring.Nat
import Mathlib.Tactic.Common

/-!
# Quantities summed over threads

A system of threads is a list of their states.  What all of them hold of some
quantity is the sum over the list; when one thread moves, or another is
started, the sum changes by what that thread holds before and after.
-/

namespace Fib

variable {Thread : Type}

/-- The sum of a quantity over all threads. -/
def tally
    (weight : Thread -> Nat)
    (threads : List Thread) : Nat :=
  (threads.map weight).sum

section Tally

variable (weight : Thread -> Nat)

@[simp] theorem tally_nil : tally weight [] = 0 := rfl

@[simp] theorem tally_cons
    (thread : Thread)
    (threads : List Thread) :
    tally weight (thread :: threads) = weight thread + tally weight threads :=
  rfl

@[simp] theorem tally_append (first second : List Thread) :
    tally weight (first ++ second) = tally weight first + tally weight second := by
  simp [tally]

@[simp] theorem tally_replicate
    (count : Nat)
    (thread : Thread) :
    tally weight (List.replicate count thread) = count * weight thread := by
  simp [tally]

variable {threads : List Thread}

/-- One thread moves. -/
theorem tally_set
    (here : threads[index]? = some before)
    (after : Thread) :
    tally weight (threads.set index after) + weight before =
      tally weight threads + weight after := by
  induction threads generalizing index with
  | nil => cases here
  | cons thread rest ih =>
    cases index with
    | zero =>
      obtain rfl : thread = before := Option.some.inj here
      rw [List.set_cons_zero, tally_cons, tally_cons]
      omega
    | succ index =>
      have shorter : rest[index]? = some before := here
      have moved := ih shorter
      rw [List.set_cons_succ, tally_cons, tally_cons]
      omega

/-- No thread holds more than all of them. -/
theorem weight_le_tally
    {index : Nat}
    {thread : Thread}
    (here : threads[index]? = some thread) :
    weight thread ≤ tally weight threads := by
  have present := List.mem_of_getElem? here
  exact List.single_le_sum (fun _ _ => Nat.zero_le _) _ (List.mem_map_of_mem present)

end Tally

end Fib
