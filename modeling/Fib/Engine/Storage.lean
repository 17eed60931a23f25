import Fib.Engine.SendQueue
import Fib.Library.Transition

/-!
# The storage of the queues

A connection keeps what it has queued in a slice with a head index: the
datagrams for its handler, or the items for its socket.  Both slices start over
only at moments when nothing is queued, so under a load that never lets the
queue run empty they grow for as long as the connection lives.
-/

namespace Fib
namespace Engine

/-! ## Datagrams for the handler -/

/-- The most datagrams held for the handler. -/
def maxQueuedDatagrams : Nat := 1024

/-- `udpState.queue` with its head.  An entry handed over is `none`. -/
structure DatagramQueue where
  queue : List (Option Bytes) := []
  head : Nat := 0
  closing : Bool := false

namespace DatagramQueue

/-- Queue a datagram, unless there are too many or the connection closes. -/
def deliverDatagram
    (u : DatagramQueue)
    (data : Bytes) : DatagramQueue :=
  if u.closing || maxQueuedDatagrams ≤ u.queue.length - u.head then u
  else if u.head = u.queue.length then { u with queue := [some data], head := 0 }
  else { u with queue := u.queue ++ [some data] }

inductive Label where
  | deliver (data : Bytes)
  /-- A turn of the loop of `drainDatagrams`. -/
  | drain
  | close

def step (u : DatagramQueue) : Label -> Option DatagramQueue
  | .deliver data => some (u.deliverDatagram data)
  | .drain =>
    if u.head = u.queue.length ∨ u.closing then none
    else some { u with queue := u.queue.set u.head none, head := u.head + 1 }
  | .close => some { u with closing := true }

/-- A datagram arrives that is not refused. -/
def queues (u : DatagramQueue) : Label -> Bool
  | .deliver _ => !u.closing && u.queue.length - u.head < maxQueuedDatagrams
  | _ => false

/-- Nothing is left for the handler. -/
def idle (u : DatagramQueue) : Bool :=
  u.head == u.queue.length

variable {u next : DatagramQueue}

theorem length_step_le
    (taken : u.step label = some next) :
    next.queue.length ≤
      Transition.sinceIdle queues idle u.queue.length u label := by
  cases label with
  | deliver data =>
    cases taken
    unfold deliverDatagram Transition.sinceIdle queues idle
    grind
  | drain =>
    obtain ⟨-, same⟩ := Option.ite_none_left_eq_some.mp taken
    cases same
    simp [Transition.sinceIdle, queues]
  | close =>
    cases taken
    exact Nat.le_refl _

/-- A datagram that arrives before each one that is handed over. -/
theorem exists_run_longer
    (n : Nat)
    (length : u.queue.length = u.head + 1)
    (isOpen : u.closing = false) :
    ∃ labels next, Transition.run step u labels = some next ∧
      next.queue.length = u.queue.length + n := by
  induction n generalizing u with
  | zero => exact ⟨[], u, rfl, rfl⟩
  | succ n ih =>
    have delivered : u.deliverDatagram [] = { u with queue := u.queue ++ [some []] } := by
      simp [deliverDatagram, length, isOpen, maxQueuedDatagrams]
    obtain ⟨labels, next, reached, longer⟩ :=
      @ih { u with queue := (u.queue ++ [some []]).set u.head none, head := u.head + 1 }
        (by simp [length]) isOpen
    refine ⟨.deliver [] :: .drain :: labels, next, ?_, ?_⟩
    · have ahead : u.head ≠ u.head + 1 + 1 := by omega
      simpa [Transition.run, step, delivered, length, isOpen, ahead] using reached
    · simp only [List.length_set, List.length_append, List.length_singleton] at longer
      omega

end DatagramQueue

/-! ## Items for the socket -/

namespace SendQueue

/-- What the sends and the flushes do to the queue. -/
inductive Label where
  | queue (first second : Bytes) (capacity : Nat)
  | queueOwned (data : Bytes)
  | queueFile (segment : FileSegment)
  /-- The socket has taken bytes. -/
  | consume (n : Nat)
  /-- A flush finds nothing queued. -/
  | reset

def apply (queue : SendQueue) : Label -> Option SendQueue
  | .queue first second capacity => some (queue.queueLocked first second capacity)
  | .queueOwned data => some (queue.queueOwnedLocked data)
  | .queueFile segment => some (queue.queueFile segment)
  | .consume n => if n ≤ reach queue.items then some (queue.consumeLocked n) else none
  | .reset => some queue.rewindIfEmpty

/-- The steps after which at most `most` items are queued. -/
def step
    (most : Nat)
    (queue : SendQueue)
    (label : Label) : Option SendQueue :=
  (queue.apply label).filter (·.items.length ≤ most)

/-- Something is sent that needs an item of its own. -/
def queues (queue : SendQueue) : Label -> Bool
  | .queue first second _ =>
    (queue.mergeTarget (first.length + second.length)).isNone
  | .queueOwned _ | .queueFile _ => true
  | _ => false

variable {queue next : SendQueue}

theorem length_rewind_push
    {item : SendItem}
    (wellFormed : item.WellFormed) :
    (queue.rewindIfEmpty.push item wellFormed).sends.length =
      if queue.isEmpty then 1 else queue.sends.length + 1 := by
  unfold rewindIfEmpty
  split
  · rfl
  · exact List.length_append

theorem length_consumeLocked
    (n : Nat) :
    (queue.consumeLocked n).sends.length = queue.sends.length := by
  have bounded := queue.head_le
  simp only [consumeLocked, List.length_append, length_consumeItems, items,
    List.length_take, List.length_drop]
  omega

theorem length_step_le
    (taken : queue.step most label = some next) :
    next.sends.length ≤
      Transition.sinceIdle queues isEmpty queue.sends.length queue label := by
  have taken := (Option.filter_eq_some_iff.mp taken).1
  cases label with
  | queue first second capacity =>
    cases taken
    unfold queueLocked
    split
    · next tail target =>
      have same := congrArg List.length (mergeTarget_eq_some target).1.symm
      simpa [mergeInto, Transition.sinceIdle, queues, target]
        using Nat.le_of_eq same
    · next own =>
      rw [length_rewind_push]
      simp [Transition.sinceIdle, queues, own]
  | queueOwned data =>
    cases taken
    exact Nat.le_of_eq (length_rewind_push _)
  | queueFile segment =>
    cases taken
    exact Nat.le_of_eq (length_rewind_push _)
  | consume n =>
    obtain ⟨-, same⟩ := Option.ite_none_right_eq_some.mp taken
    cases same
    exact Nat.le_of_eq (length_consumeLocked n)
  | reset =>
    cases taken
    unfold rewindIfEmpty
    split
    · exact Nat.zero_le _
    · exact Nat.le_refl _

/-- One byte that is sent before each one that the socket takes. -/
theorem exists_run_longer
    (n : Nat)
    (single : queue.items = [{ data := [0] }]) :
    ∃ labels next, Transition.run (step 2) queue labels = some next ∧
      next.sends.length = queue.sends.length + n := by
  induction n generalizing queue with
  | zero => exact ⟨[], queue, rfl, rfl⟩
  | succ n ih =>
    have queued : ¬queue.isEmpty := by
      rw [isEmpty_iff, single]
      exact List.cons_ne_nil _ _
    have sent : (queue.queueOwnedLocked [0]).items =
        [{ data := [0] }, { data := [0] }] := by
      rw [queueOwnedLocked, rewindIfEmpty, if_neg queued, items_push, single]
      rfl
    have longer : (queue.queueOwnedLocked [0]).sends.length =
        queue.sends.length + 1 := by
      rw [queueOwnedLocked, length_rewind_push, if_neg queued]
    have taken : ((queue.queueOwnedLocked [0]).consumeLocked 1).items =
        [{ data := [0] }] := by
      rw [items_consumeLocked, sent]
      rfl
    obtain ⟨labels, next, reached, length⟩ := ih taken
    refine ⟨.queueOwned [0] :: .consume 1 :: labels, next, ?_, ?_⟩
    · simpa [Transition.run, step, apply, Option.filter, sent, taken, reach] using reached
    · rw [length, length_consumeLocked, longer, Nat.add_assoc, Nat.add_comm 1]

end SendQueue

/-! ## Both queues -/

/-- The slices stay within a bound, as long as no more entries than that are
made from one moment with nothing queued to the next. -/
theorem queue_slices_stay_short
    (multiple : Nat) :
    (∀ labels u,
        Transition.Spaced DatagramQueue.queues DatagramQueue.idle
          DatagramQueue.step (multiple * maxQueuedDatagrams) 0 {} labels ->
        Transition.run DatagramQueue.step {} labels = some u ->
        u.queue.length ≤ multiple * maxQueuedDatagrams) ∧
      ∀ most labels queue,
        Transition.Spaced SendQueue.queues SendQueue.isEmpty
          (SendQueue.step most) (multiple * most) 0 .empty labels ->
        Transition.run (SendQueue.step most) .empty labels = some queue ->
        queue.sends.length ≤ multiple * most := by
  refine ⟨fun labels u spaced reached => ?_, fun most labels queue spaced reached => ?_⟩
  · exact Transition.run_size_le_of_spaced (·.queue.length)
      (fun _ _ _ => DatagramQueue.length_step_le) (Nat.le_refl 0) (Nat.zero_le _) spaced reached
  · exact Transition.run_size_le_of_spaced (·.sends.length)
      (fun _ _ _ => SendQueue.length_step_le) (Nat.le_refl 0) (Nat.zero_le _) spaced reached

/-- Queues that are emptied before the second entry, each within the bound that
one item queued at a time allows. -/
theorem queue_slices_stay_short_emptied :
    (∃ u, Transition.run DatagramQueue.step {}
          [.deliver [], .drain, .deliver []] = some u ∧
        u.queue.length ≤ 1 * maxQueuedDatagrams) ∧
      ∃ queue, Transition.run (SendQueue.step 1) .empty
          [.queueOwned [0], .consume 1, .queue [1] [] 8, .queue [2] [] 8] = some queue ∧
        queue.sends.length ≤ 1 * 1 := by
  refine ⟨⟨_, rfl, (queue_slices_stay_short 1).1
      [.deliver [], .drain, .deliver []] _ ?_ rfl⟩,
    ⟨_, rfl, (queue_slices_stay_short 1).2 1
      [.queueOwned [0], .consume 1, .queue [1] [] 8, .queue [2] [] 8] _ ?_ rfl⟩⟩
  · simp [Transition.Spaced, Transition.sinceIdle, DatagramQueue.queues, DatagramQueue.idle,
      DatagramQueue.step, DatagramQueue.deliverDatagram, maxQueuedDatagrams]
  · refine ⟨by decide, fun _ taken => ?_⟩
    cases taken
    refine ⟨by decide, fun _ taken => ?_⟩
    cases taken
    refine ⟨by decide, fun _ taken => ?_⟩
    cases taken
    refine ⟨by decide, fun _ taken => ?_⟩
    trivial

/-- No bound holds for either slice, though there are never more than two
entries to hand over. -/
theorem queue_slices_have_no_bound :
    (¬∃ bound, ∀ labels u,
        Transition.run DatagramQueue.step {} labels = some u -> u.queue.length ≤ bound) ∧
      ¬∃ bound, ∀ labels queue,
        Transition.run (SendQueue.step 2) .empty labels = some queue ->
        queue.sends.length ≤ bound := by
  refine ⟨fun ⟨bound, holds⟩ => ?_, fun ⟨bound, holds⟩ => ?_⟩
  · obtain ⟨labels, u, reached, length⟩ :=
      @DatagramQueue.exists_run_longer { queue := [some []] } bound rfl rfl
    have within := holds (.deliver [] :: labels) u reached
    rw [length, List.length_singleton] at within
    omega
  · obtain ⟨labels, queue, reached, length⟩ :=
      @SendQueue.exists_run_longer (SendQueue.empty.queueOwnedLocked [0]) bound rfl
    have within := holds (.queueOwned [0] :: labels) queue reached
    have one : (SendQueue.empty.queueOwnedLocked [0]).sends.length = 1 := rfl
    omega

end Engine
end Fib
