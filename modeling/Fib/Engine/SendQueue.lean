import Fib.Library.Bytes
import Mathlib.Data.List.TakeDrop
import Mathlib.Tactic.Common

/-!
# The send queue of a connection

`Connection.sends` holds the chunks accepted by the send calls and not yet
taken by the socket, from index `sendHead` on; the items before it have been
released.  A chunk is a pooled buffer that later chunks may merge into, an
array the caller handed over, or a stretch of a file.  On the readiness
backends a file goes to the socket from the file itself, so a file item never
stages data in memory.

The bytes a queue still represents are the concatenation of what is left of
its items.  Each operation comes with the lemma that says what it does to
them.
-/

namespace Fib
namespace Engine

/-- The part of a file `SendFile` has yet to send.  `content` is the file as
the connection's own descriptor sees it, which may hold less than the range. -/
structure FileSegment where
  content : Bytes
  offset : Nat
  remaining : Nat
  deriving DecidableEq, Repr

namespace FileSegment

section

variable (segment : FileSegment)

/-- Move past bytes that were sent. -/
def advance (n : Nat) : FileSegment :=
  { segment with
    offset := segment.offset + n
    remaining := segment.remaining - n }

/-- The bytes of the range that the file holds. -/
def bytes : Bytes :=
  (segment.content.drop segment.offset).take segment.remaining

theorem bytes_advance (n : Nat) :
    (segment.advance n).bytes = segment.bytes.drop n := by
  simp [bytes, advance, List.drop_take]

theorem length_bytes_le : segment.bytes.length ≤ segment.remaining := by
  simp only [bytes, List.length_take]
  exact Nat.min_le_left _ _

end

end FileSegment

/-- One queued chunk.  `buf` is the capacity of the pooled buffer backing
`data`, or `none` when the caller handed over an array. -/
structure SendItem where
  data : Bytes := []
  offset : Nat := 0
  buf : Option Nat := none
  file : Option FileSegment := none
  deriving DecidableEq, Repr

namespace SendItem

/-- A file item stages nothing in memory. -/
def WellFormed (item : SendItem) : Prop :=
  item.file.isSome ->
    item.data = [] ∧ item.offset = 0 ∧ item.buf = none

/-- What is left of an item. -/
def bytes (item : SendItem) : Bytes :=
  item.data.drop item.offset ++
    match item.file with
    | none => []
    | some segment => segment.bytes

@[simp] theorem bytes_released : ({} : SendItem).bytes = [] := rfl

theorem bytes_of_file_eq_none
    {item : SendItem}
    (memory : item.file = none) :
    item.bytes = item.data.drop item.offset := by
  simp [bytes, memory]

theorem WellFormed.bytes_of_file
    {item : SendItem}
    {segment : FileSegment}
    (wellFormed : item.WellFormed)
    (file : item.file = some segment) :
    item.bytes = segment.bytes := by
  simp [bytes, file, (wellFormed (by simp [file])).1]

theorem wellFormed_of_file_eq_none
    {item : SendItem}
    (memory : item.file = none) :
    item.WellFormed := by
  intro present
  simp [memory] at present

/-- The item `SendFile` queues. -/
theorem wellFormed_file (segment : FileSegment) :
    ({ file := some segment } : SendItem).WellFormed :=
  fun _ => ⟨rfl, rfl, rfl⟩

/-- The item a drained one is overwritten with is well formed. -/
theorem wellFormed_released : ({} : SendItem).WellFormed :=
  wellFormed_of_file_eq_none rfl

end SendItem

section

variable (items : List SendItem)

/-- The bytes a list of items represents. -/
def itemsBytes : Bytes :=
  items.flatMap SendItem.bytes

@[simp] theorem itemsBytes_nil : itemsBytes [] = [] := rfl

@[simp] theorem itemsBytes_cons
    (item : SendItem)
    (rest : List SendItem) :
    itemsBytes (item :: rest) = item.bytes ++ itemsBytes rest := by
  simp [itemsBytes]

@[simp] theorem itemsBytes_append (first second : List SendItem) :
    itemsBytes (first ++ second) = itemsBytes first ++ itemsBytes second := by
  simp [itemsBytes]

/-! ## Consuming what the socket took -/

section

variable (consumed : List SendItem × Nat)

/-- Release the head item and go on with what follows it. -/
def releaseHead : List SendItem × Nat :=
  ({} :: consumed.1, consumed.2 + 1)

@[simp] theorem releaseHead_fst :
    (releaseHead consumed).1 = {} :: consumed.1 := rfl

@[simp] theorem releaseHead_snd :
    (releaseHead consumed).2 = consumed.2 + 1 := rfl

end

/-- `consumeLocked` on the items from the head of the queue on.  It returns
the items, with the drained ones released, and how many were drained. -/
def consumeItems : List SendItem -> Nat -> List SendItem × Nat
  | [], _ => ([], 0)
  | item :: rest, left =>
    match item.file with
    | some segment =>
      if item.data = [] then
        if left < segment.remaining then
          ({ item with file := some (segment.advance left) } :: rest, 0)
        else
          releaseHead (consumeItems rest (left - segment.remaining))
      else
        if left < item.data.length - item.offset then
          ({ item with offset := item.offset + left } :: rest, 0)
        else if 0 < segment.remaining then
          ({ item with data := [], offset := 0 } :: rest, 0)
        else
          releaseHead
            (consumeItems rest (left - (item.data.length - item.offset)))
    | none =>
      if left < item.data.length - item.offset then
        ({ item with offset := item.offset + left } :: rest, 0)
      else
        releaseHead
          (consumeItems rest (left - (item.data.length - item.offset)))

/-- How many bytes one write can take: the items before the first file, and
that file. -/
def reach : List SendItem -> Nat
  | [] => 0
  | item :: rest =>
    match item.file with
    | some segment => segment.bytes.length
    | none => (item.data.length - item.offset) + reach rest

theorem length_consumeItems (n : Nat) :
    (consumeItems items n).1.length = items.length := by
  fun_induction consumeItems items n <;> simp_all

theorem drained_consumeItems_le (n : Nat) :
    (consumeItems items n).2 ≤ items.length := by
  fun_induction consumeItems items n <;> simp_all

theorem released_consumeItems (n : Nat) :
    ∀ item ∈ (consumeItems items n).1.take (consumeItems items n).2,
      item = {} := by
  fun_induction consumeItems items n <;> simp_all <;> assumption

theorem wellFormed_consumeItems
    (n : Nat)
    (wellFormed : ∀ item ∈ items, item.WellFormed) :
    ∀ item ∈ (consumeItems items n).1, item.WellFormed := by
  fun_induction consumeItems items n with
  | case1 => simp
  | case2 | case7 => simp_all [SendItem.WellFormed]
  | case3 | case6 | case8 => simp_all [SendItem.wellFormed_released]
  | case4 item rest left segment file staged | case5 item rest left segment file staged =>
    have := (wellFormed item (by simp)) (by simp [file])
    exact absurd this.1 staged

/-- Consuming what a write took drops exactly those bytes from the front. -/
theorem itemsBytes_consumeItems
    (n : Nat)
    (wellFormed : ∀ item ∈ items, item.WellFormed)
    (within : n ≤ reach items) :
    itemsBytes (consumeItems items n).1 = (itemsBytes items).drop n := by
  induction items generalizing n with
  | nil => simp [consumeItems]
  | cons item rest ih =>
    have restWellFormed : ∀ other ∈ rest, other.WellFormed :=
      fun other present => wellFormed other (by simp [present])
    have itemWellFormed := wellFormed item (by simp)
    cases file : item.file with
    | none =>
      have itemBytes := SendItem.bytes_of_file_eq_none file
      simp only [reach, file] at within
      by_cases short : n < item.data.length - item.offset
      · have partly : n ≤ item.bytes.length := by
          rw [itemBytes, List.length_drop]
          omega
        simp only [consumeItems, file, short, if_true, itemsBytes_cons]
        rw [List.drop_append_of_le_length partly]
        simp [SendItem.bytes, file, List.drop_drop]
      have whole : item.bytes.length ≤ n := by
        rw [itemBytes, List.length_drop]
        omega
      have length : item.bytes.length = item.data.length - item.offset := by
        rw [itemBytes, List.length_drop]
      simp only [consumeItems, file, short, if_false, releaseHead_fst,
        itemsBytes_cons, SendItem.bytes_released, List.nil_append]
      rw [ih _ restWellFormed (by omega), List.drop_append, List.drop_eq_nil_of_le whole,
        List.nil_append, length]
    | some segment =>
      have unstaged := (itemWellFormed (by simp [file])).1
      have itemBytes := itemWellFormed.bytes_of_file file
      have bounded := segment.length_bytes_le
      simp only [reach, file] at within
      by_cases short : n < segment.remaining
      · have partly : n ≤ item.bytes.length := by
          rw [itemBytes]
          exact within
        simp only [consumeItems, file, unstaged, short, if_true, itemsBytes_cons]
        rw [List.drop_append_of_le_length partly, itemBytes, ← FileSegment.bytes_advance]
        simp [SendItem.bytes]
      have whole : n = segment.remaining := by omega
      have length : segment.bytes.length = n := by omega
      simp only [consumeItems, file, unstaged, short, if_true, if_false,
        releaseHead_fst, itemsBytes_cons, SendItem.bytes_released, List.nil_append]
      rw [whole, Nat.sub_self, ih 0 restWellFormed (Nat.zero_le _), itemBytes,
        List.drop_append]
      simp [← whole, length]

end

/-! ## The queue -/

/-- `Connection.sends` with `sendHead`.  The items before the head have been
released, and no file item stages data. -/
structure SendQueue where
  sends : List SendItem
  sendHead : Nat
  head_le : sendHead ≤ sends.length
  released : ∀ item ∈ sends.take sendHead, item = {}
  wellFormed : ∀ item ∈ sends, item.WellFormed

namespace SendQueue

/-- The queue of a new connection, and of one whose queue was abandoned. -/
def empty : SendQueue where
  sends := []
  sendHead := 0
  head_le := Nat.le_refl 0
  released := by simp
  wellFormed := by simp

section

variable (queue : SendQueue)

/-- The items from the head on. -/
def items : List SendItem :=
  queue.sends.drop queue.sendHead

/-- The bytes still represented in the queue. -/
def bytes : Bytes :=
  itemsBytes queue.items

/-- Nothing is queued: `sendHead == len(sends)`. -/
def isEmpty : Bool :=
  queue.sendHead == queue.sends.length

theorem wellFormed_items :
    ∀ item ∈ queue.items, item.WellFormed :=
  fun item present => queue.wellFormed item (List.mem_of_mem_drop present)

theorem isEmpty_iff : queue.isEmpty = true ↔ queue.items = [] := by
  have bounded := queue.head_le
  simp only [isEmpty, items, beq_iff_eq, List.drop_eq_nil_iff]
  omega

end

variable {queue : SendQueue}

theorem bytes_eq_nil_of_isEmpty
    (nothing : queue.isEmpty = true) :
    queue.bytes = [] := by
  rw [bytes, (isEmpty_iff queue).mp nothing, itemsBytes_nil]

@[simp] theorem bytes_empty : empty.bytes = [] := rfl

@[simp] theorem isEmpty_empty : empty.isEmpty = true := rfl

/-- `rewindQueueLocked`, which callers apply to an emptied queue only. -/
def rewindQueueLocked (_queue : SendQueue) : SendQueue := empty

section

variable (queue : SendQueue)

/-- Start the item slice over once nothing is queued any more. -/
def rewindIfEmpty : SendQueue :=
  if queue.isEmpty then queue.rewindQueueLocked else queue

theorem bytes_rewindIfEmpty : queue.rewindIfEmpty.bytes = queue.bytes := by
  unfold rewindIfEmpty
  split
  · next nothing =>
    rw [bytes_eq_nil_of_isEmpty nothing]
    rfl
  · rfl

/-- Append an item. -/
def push
    (item : SendItem)
    (wellFormed : item.WellFormed) : SendQueue where
  sends := queue.sends ++ [item]
  sendHead := queue.sendHead
  head_le := by
    have bounded := queue.head_le
    simp only [List.length_append]
    omega
  released := by
    rw [List.take_append_of_le_length queue.head_le]
    exact queue.released
  wellFormed := by
    intro other present
    rw [List.mem_append, List.mem_singleton] at present
    exact present.elim (queue.wellFormed other) fun same => same ▸ wellFormed

theorem items_push
    (item : SendItem)
    (wellFormed : item.WellFormed) :
    (queue.push item wellFormed).items = queue.items ++ [item] :=
  List.drop_append_of_le_length queue.head_le

theorem bytes_push
    (item : SendItem)
    (wellFormed : item.WellFormed) :
    (queue.push item wellFormed).bytes = queue.bytes ++ item.bytes := by
  simp [bytes, items_push]

/-- The trailing item, when `total` more bytes may merge into it: it has a
pooled buffer, the socket has taken nothing from it, and they fit. -/
def mergeTarget (total : Nat) : Option SendItem :=
  queue.sends.getLast?.filter fun tail =>
    tail.offset == 0 &&
      match tail.buf with
      | none => false
      | some capacity => tail.data.length + total ≤ capacity

end

/-- An item bytes may merge into is the last one, and has not been released. -/
theorem mergeTarget_eq_some
    {tail : SendItem}
    (target : queue.mergeTarget total = some tail) :
    queue.sends = queue.sends.dropLast ++ [tail] ∧ tail.offset = 0 ∧
      tail.file = none ∧ queue.sendHead ≤ queue.sends.dropLast.length := by
  obtain ⟨last, mergeable⟩ := Option.filter_eq_some_iff.mp target
  simp only [Bool.and_eq_true, beq_iff_eq] at mergeable
  obtain ⟨untouched, fits⟩ := mergeable
  have pooled : tail.buf ≠ none := by
    intro absent
    simp [absent] at fits
  have split : queue.sends = queue.sends.dropLast ++ [tail] :=
    (List.dropLast_append_getLast? tail last).symm
  have present : tail ∈ queue.sends := by
    rw [split]
    simp
  refine ⟨split, untouched, ?_, ?_⟩
  · by_contra file
    exact pooled (queue.wellFormed tail present (Option.isSome_iff_ne_none.mpr file)).2.2
  by_contra past
  have whole : queue.sends.take queue.sendHead = queue.sends := by
    apply List.take_of_length_le
    have length := congrArg List.length split
    simp only [List.length_append, List.length_singleton] at length
    omega
  have drained := queue.released tail (by rw [whole]; exact present)
  exact pooled (by rw [drained])

section

variable (queue : SendQueue)

/-- Append bytes to the buffer of the trailing item. -/
def mergeInto
    (tail : SendItem)
    (added : Bytes)
    (split : queue.sends = queue.sends.dropLast ++ [tail])
    (memory : tail.file = none)
    (unreleased : queue.sendHead ≤ queue.sends.dropLast.length) :
    SendQueue where
  sends := queue.sends.dropLast ++ [{ tail with data := tail.data ++ added }]
  sendHead := queue.sendHead
  head_le := by
    simp only [List.length_append]
    omega
  released := by
    rw [List.take_append_of_le_length unreleased]
    intro item present
    apply queue.released item
    rw [split, List.take_append_of_le_length unreleased]
    exact present
  wellFormed := by
    intro item present
    rw [List.mem_append, List.mem_singleton] at present
    refine present.elim (fun earlier => queue.wellFormed item
      ((List.dropLast_subset _) earlier)) fun same => ?_
    subst same
    exact SendItem.wellFormed_of_file_eq_none memory

theorem bytes_mergeInto
    (tail : SendItem)
    (added : Bytes)
    (split : queue.sends = queue.sends.dropLast ++ [tail])
    (memory : tail.file = none)
    (unreleased : queue.sendHead ≤ queue.sends.dropLast.length)
    (untouched : tail.offset = 0) :
    (queue.mergeInto tail added split memory unreleased).bytes = queue.bytes ++ added := by
  have before : queue.items = queue.sends.dropLast.drop queue.sendHead ++ [tail] := by
    rw [items, split, List.drop_append_of_le_length unreleased, ← split]
  have after : (queue.mergeInto tail added split memory unreleased).items =
      queue.sends.dropLast.drop queue.sendHead ++ [{ tail with data := tail.data ++ added }] :=
    List.drop_append_of_le_length unreleased
  simp [bytes, before, after, SendItem.bytes, memory, untouched]

/-- `queueLocked` copies two parts into the queue, merging into the trailing
item where that is safe.  `capacity` is what the runtime grows the pooled
buffer of a new item to. -/
def queueLocked
    (first second : Bytes)
    (capacity : Nat) : SendQueue :=
  match target : queue.mergeTarget (first.length + second.length) with
  | some tail =>
    queue.mergeInto tail (first ++ second)
      (mergeTarget_eq_some target).1
      (mergeTarget_eq_some target).2.2.1
      (mergeTarget_eq_some target).2.2.2
  | none =>
    queue.rewindIfEmpty.push
      { data := first ++ second
        buf := some (max capacity (first.length + second.length)) }
      (SendItem.wellFormed_of_file_eq_none rfl)

theorem bytes_queueLocked
    (first second : Bytes)
    (capacity : Nat) :
    (queue.queueLocked first second capacity).bytes = queue.bytes ++ (first ++ second) := by
  unfold queueLocked
  split
  · next tail target =>
    exact bytes_mergeInto _ _ _ _ _ _ (mergeTarget_eq_some target).2.1
  · rw [bytes_push, bytes_rewindIfEmpty]
    simp [SendItem.bytes]

/-- `queueOwnedLocked` queues an array the caller handed over. -/
def queueOwnedLocked (data : Bytes) : SendQueue :=
  queue.rewindIfEmpty.push { data := data }
    (SendItem.wellFormed_of_file_eq_none rfl)

theorem bytes_queueOwnedLocked (data : Bytes) :
    (queue.queueOwnedLocked data).bytes = queue.bytes ++ data := by
  rw [queueOwnedLocked, bytes_push, bytes_rewindIfEmpty]
  simp [SendItem.bytes]

/-- The part of `SendFile` that queues a stretch of a file. -/
def queueFile (segment : FileSegment) : SendQueue :=
  queue.rewindIfEmpty.push { file := some segment }
    (SendItem.wellFormed_file segment)

theorem bytes_queueFile (segment : FileSegment) :
    (queue.queueFile segment).bytes = queue.bytes ++ segment.bytes := by
  rw [queueFile, bytes_push, bytes_rewindIfEmpty]
  simp [SendItem.bytes]

/-- `consumeLocked` takes bytes the socket accepted off the head. -/
def consumeLocked (n : Nat) : SendQueue where
  sends := queue.sends.take queue.sendHead ++ (consumeItems queue.items n).1
  sendHead := queue.sendHead + (consumeItems queue.items n).2
  head_le := by
    have bounded := queue.head_le
    have drained := drained_consumeItems_le queue.items n
    rw [List.length_append, length_consumeItems, List.length_take]
    omega
  released := by
    have length : (queue.sends.take queue.sendHead).length =
        queue.sendHead := by
      rw [List.length_take]
      exact Nat.min_eq_left queue.head_le
    intro item present
    rw [List.take_append, List.mem_append, length,
      Nat.add_sub_cancel_left] at present
    exact present.elim
      (fun earlier => queue.released item (List.mem_of_mem_take earlier))
      (released_consumeItems queue.items n item)
  wellFormed := by
    intro item present
    rw [List.mem_append] at present
    exact present.elim
      (fun earlier => queue.wellFormed item (List.mem_of_mem_take earlier))
      (wellFormed_consumeItems queue.items n queue.wellFormed_items item)

/-- Dropping the items a list reports as released loses no bytes. -/
theorem itemsBytes_drop_of_released
    {items : List SendItem}
    (released : ∀ item ∈ items.take count, item = {}) :
    itemsBytes (items.drop count) = itemsBytes items := by
  have nothing : itemsBytes (items.take count) = [] := by
    rw [itemsBytes, List.flatMap_eq_nil_iff]
    intro item present
    rw [released item present, SendItem.bytes_released]
  conv_rhs => rw [← List.take_append_drop count items, itemsBytes_append, nothing, List.nil_append]

theorem items_consumeLocked (n : Nat) :
    (queue.consumeLocked n).items =
      (consumeItems queue.items n).1.drop (consumeItems queue.items n).2 := by
  have length : (queue.sends.take queue.sendHead).length = queue.sendHead := by
    rw [List.length_take]
    exact Nat.min_eq_left queue.head_le
  simp only [items, consumeLocked]
  rw [List.drop_append, length, List.drop_eq_nil_of_le (by omega),
    List.nil_append, Nat.add_sub_cancel_left]

theorem bytes_consumeLocked
    (n : Nat)
    (within : n ≤ reach queue.items) :
    (queue.consumeLocked n).bytes = queue.bytes.drop n := by
  rw [bytes, items_consumeLocked,
    itemsBytes_drop_of_released (released_consumeItems queue.items n),
    itemsBytes_consumeItems queue.items n queue.wellFormed_items within,
    bytes]

end

/-! ## What one write offers to the socket -/

/-- The most items one writev gathers. -/
def maxWritevItems : Nat := 64

/-- The bytes one write offers when the head of the queue is in memory: the
items up to the next file, at most `maxWritevItems` of them, or the head item
alone. -/
def writeBatch
    (useWritev : Bool)
    (queue : SendQueue) : Bytes :=
  match queue.items with
  | [] => []
  | head :: rest =>
    if useWritev && !rest.isEmpty then
      ((head :: rest).take maxWritevItems).takeWhile (·.file.isNone)
        |>.flatMap fun item => item.data.drop item.offset
    else
      head.data.drop head.offset

/-- The items before the first file are counted by anything that adds them up. -/
theorem length_memory_le
    {total : List SendItem -> Nat}
    (adds : ∀ item rest, item.file = none ->
      (item.data.length - item.offset) + total rest ≤ total (item :: rest))
    (items : List SendItem)
    (count : Nat) :
    (((items.take count).takeWhile (·.file.isNone)).flatMap
      fun item => item.data.drop item.offset).length ≤ total items := by
  induction items generalizing count with
  | nil => simp
  | cons item rest ih =>
    cases count with
    | zero => simp
    | succ count =>
      cases file : item.file with
      | none =>
        have bound := ih count
        have added := adds item rest file
        simp only [List.take_succ_cons, file, Option.isNone_none,
          List.takeWhile_cons_of_pos, List.flatMap_cons,
          List.length_append, List.length_drop]
        omega
      | some segment => simp [file]

theorem memory_prefix
    (items : List SendItem)
    (count : Nat) :
    ((items.take count).takeWhile (·.file.isNone)).flatMap
      (fun item => item.data.drop item.offset) <+: itemsBytes items := by
  induction items generalizing count with
  | nil => simp
  | cons item rest ih =>
    cases count with
    | zero => simp
    | succ count =>
      cases file : item.file with
      | none =>
        simp only [List.take_succ_cons, file, Option.isNone_none,
          List.takeWhile_cons_of_pos, List.flatMap_cons,
          itemsBytes_cons, SendItem.bytes_of_file_eq_none file]
        exact (List.prefix_append_right_inj _).mpr (ih count)
      | some segment => simp [file]

/-- A queue whose head is not a file. -/
def HeadInMemory (queue : SendQueue) : Prop :=
  ∀ head ∈ queue.items.head?, head.file = none

theorem length_writeBatch_le (memory : queue.HeadInMemory) :
    (writeBatch useWritev queue).length ≤ reach queue.items := by
  unfold writeBatch
  split
  · simp
  next head rest items =>
  have headMemory : head.file = none := memory head (by simp [items])
  rw [items]
  split
  · exact length_memory_le (fun item rest file => by simp [reach, file]) (head :: rest)
      maxWritevItems
  · simp only [reach, headMemory, List.length_drop]
    omega

theorem writeBatch_prefix
    (useWritev : Bool)
    (memory : queue.HeadInMemory) :
    writeBatch useWritev queue <+: queue.bytes := by
  unfold writeBatch bytes
  split
  · simp
  next head rest items =>
  have headMemory : head.file = none := memory head (by simp [items])
  rw [items]
  split
  · exact memory_prefix (head :: rest) maxWritevItems
  · rw [itemsBytes_cons, SendItem.bytes_of_file_eq_none headMemory]
    exact List.prefix_append _ _

end SendQueue

end Engine
end Fib
