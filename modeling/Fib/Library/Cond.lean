import Mathlib.Tactic.Common

/-!
# Condition variables

A condition variable knows how many goroutines wait on it: those that are
still asleep, and those that have been woken and have yet to take the lock
again.  Which of the sleepers a signal wakes is not said.
-/

namespace Fib

/-- `sync.Cond`. -/
structure Cond where
  asleep : Nat := 0
  notified : Nat := 0
deriving DecidableEq, Repr

namespace Cond

/-- `Wait`, up to where it blocks. -/
def wait (cond : Cond) : Cond :=
  { cond with asleep := cond.asleep + 1 }

/-- `Signal`. -/
def signal (cond : Cond) : Cond :=
  if cond.asleep = 0 then cond
  else ⟨cond.asleep - 1, cond.notified + 1⟩

/-- `Signal`, several times. -/
def signals (cond : Cond) : Nat -> Cond
  | 0 => cond
  | count + 1 => cond.signal.signals count

/-- `Broadcast`. -/
def broadcast (cond : Cond) : Cond :=
  ⟨0, cond.asleep + cond.notified⟩

/-- `Wait` returns, once it has been woken. -/
def resume (cond : Cond) : Option Cond :=
  if cond.notified = 0 then none
  else some { cond with notified := cond.notified - 1 }

variable (cond : Cond)

@[simp] theorem asleep_wait : cond.wait.asleep = cond.asleep + 1 := rfl

@[simp] theorem notified_wait : cond.wait.notified = cond.notified := rfl

theorem waiting_signal :
    cond.signal.asleep + cond.signal.notified = cond.asleep + cond.notified := by
  unfold signal
  split
  · rfl
  · dsimp only
    omega

theorem waiting_signals (count : Nat) :
    (cond.signals count).asleep + (cond.signals count).notified = cond.asleep + cond.notified := by
  induction count generalizing cond with
  | zero => rfl
  | succ count ih =>
    rw [signals, ih, waiting_signal]

@[simp] theorem asleep_broadcast : cond.broadcast.asleep = 0 := rfl

@[simp] theorem notified_broadcast :
    cond.broadcast.notified = cond.asleep + cond.notified := rfl

theorem resume_eq_some
    {cond next : Cond}
    (resumed : cond.resume = some next) :
    next.asleep = cond.asleep ∧ cond.notified = next.notified + 1 := by
  unfold resume at resumed
  split at resumed
  · cases resumed
  · cases resumed
    exact ⟨rfl, by dsimp only; omega⟩

end Cond
end Fib
