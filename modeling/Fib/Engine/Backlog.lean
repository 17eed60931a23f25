import Fib.Engine.Connection
import Fib.Library.Tally
import Fib.Library.Transition

/-!
# What the engine counts as pending

Each connection counts the bytes of its send queue that stand in memory, and
the engine counts those of all its connections.  Bytes enter a queue through
the send calls and, on the completion backend, when a chunk of a file is
staged; they leave it through flushes, completed writes and the close.  Each
section under a connection's lock is one step here, on the readiness and on
the completion backend, for any number of connections.

A queue is the list of its items from `sendHead` on.  The items before it have
been released and hold no buffer, so none of them is ever merged into.
-/

namespace Fib
namespace Engine

/-- How an engine waits for a socket to take more. -/
inductive Backend where
  /-- epoll and kqueue: the next write edge. -/
  | readiness
  /-- Completion ports: an overlapped send. -/
  | completion
deriving DecidableEq, Repr

/-! ## Bytes in memory -/

/-- The bytes of an item that stand in memory, what was sent of them apart. -/
def SendItem.memory (item : SendItem) : Nat :=
  item.data.length - item.offset

section

variable (items : List SendItem)

/-- The bytes of a queue that stand in memory. -/
def memory : Nat :=
  (items.map SendItem.memory).sum

@[simp] theorem memory_nil : memory [] = 0 := rfl

@[simp] theorem memory_cons
    (item : SendItem)
    (rest : List SendItem) :
    memory (item :: rest) = item.memory + memory rest := rfl

@[simp] theorem memory_append (first second : List SendItem) :
    memory (first ++ second) = memory first + memory second := by
  simp [memory]

@[simp] theorem memory_released : ({} : SendItem).memory = 0 := rfl

/-- The bytes at the head of a queue that a write from memory can take: it
ends at a file with chunks still to be read. -/
def span : List SendItem -> Nat
  | [] => 0
  | item :: rest =>
    match item.file with
    | none => item.memory + span rest
    | some segment =>
      if segment.remaining = 0 then item.memory + span rest
      else item.memory

theorem memory_le_span_cons
    (item : SendItem)
    (rest : List SendItem) :
    item.memory ≤ span (item :: rest) := by
  unfold span
  split
  · exact Nat.le_add_right _ _
  · split
    · exact Nat.le_add_right _ _
    · exact Nat.le_refl _

theorem span_cons_le
    (le : span rest ≤ span longer)
    (item : SendItem) :
    span (item :: rest) ≤ span (item :: longer) := by
  simp only [span]
  cases item.file with
  | none => exact Nat.add_le_add_left le _
  | some segment =>
    dsimp only
    split
    · exact Nat.add_le_add_left le _
    · exact Nat.le_refl _

/-- What is queued behind does not shorten what can be written. -/
theorem span_append_le
    (first second : List SendItem) :
    span first ≤ span (first ++ second) := by
  induction first with
  | nil => exact Nat.zero_le _
  | cons item rest ih => exact span_cons_le ih item

/-- Bytes that merge into an item in memory do not shorten it either. -/
theorem span_append_singleton_le
    (first : List SendItem)
    (inMemory : tail.file = none)
    (same : longer.file = none)
    (grown : tail.memory ≤ longer.memory) :
    span (first ++ [tail]) ≤ span (first ++ [longer]) := by
  induction first with
  | nil =>
    simp only [List.nil_append, span, inMemory, same]
    exact Nat.add_le_add_right grown _
  | cons item rest ih => exact span_cons_le ih item

/-- Taking bytes off the head of a queue takes as many out of memory. -/
theorem memory_consumeItems
    (n : Nat)
    (within : n ≤ span items) :
    memory (consumeItems items n).1 + n = memory items := by
  fun_induction consumeItems items n with
  | case1 n =>
    rw [Nat.le_zero.mp within]
    rfl
  | case2 item rest left segment file unstaged short =>
    have nonzero : segment.remaining ≠ 0 := by omega
    have none : item.memory = 0 := by
      simp [SendItem.memory, unstaged]
    simp only [span, file, if_neg nonzero, none, Nat.le_zero] at within
    have same : SendItem.memory
        { item with file := some (segment.advance left) } = item.memory := rfl
    rw [memory_cons, memory_cons, same, within, Nat.add_zero]
  | case3 item rest left segment file unstaged whole ih =>
    have none : item.memory = 0 := by
      simp [SendItem.memory, unstaged]
    simp only [span, file, none, Nat.zero_add] at within
    rw [releaseHead_fst, memory_cons, memory_cons, memory_released, none,
      Nat.zero_add, Nat.zero_add]
    by_cases spent : segment.remaining = 0
    · rw [if_pos spent] at within
      rw [spent] at ih ⊢
      exact ih within
    · rw [if_neg spent] at within
      omega
  | case5 item rest left segment file staged whole more =>
    have nonzero : segment.remaining ≠ 0 := by omega
    simp only [span, file, if_neg nonzero] at within
    have all : left = item.memory := by
      unfold SendItem.memory at within ⊢
      omega
    have none : SendItem.memory { item with data := [], offset := 0 } = 0 :=
      rfl
    rw [memory_cons, memory_cons]
    omega
  | case6 item rest left segment file staged whole last ih =>
    have spent : segment.remaining = 0 := by omega
    simp only [span, file, if_pos spent] at within
    rw [releaseHead_fst, memory_cons, memory_cons, memory_released]
    unfold SendItem.memory at within ⊢
    omega
  | case4 item rest left segment file staged short | case7 item rest left inMemory short =>
    have shorter : SendItem.memory
        { item with offset := item.offset + left } + left = item.memory := by
      unfold SendItem.memory
      dsimp only
      omega
    rw [memory_cons, memory_cons]
    omega
  | case8 item rest left inMemory whole ih =>
    simp only [span, inMemory] at within
    rw [releaseHead_fst, memory_cons, memory_cons, memory_released]
    unfold SendItem.memory at within ⊢
    omega

/-- The items left once the drained ones are dropped. -/
def consume (n : Nat) : List SendItem :=
  (consumeItems items n).1.drop (consumeItems items n).2

theorem memory_consume_eq (n : Nat) :
    memory (consume items n) = memory (consumeItems items n).1 := by
  have released := released_consumeItems items n
  have nothing : memory ((consumeItems items n).1.take (consumeItems items n).2) = 0 := by
    unfold memory
    rw [List.sum_eq_zero_iff]
    intro bytes member
    obtain ⟨item, present, rfl⟩ := List.mem_map.mp member
    rw [released item present]
    rfl
  conv_rhs => rw [← List.take_append_drop (consumeItems items n).2
    (consumeItems items n).1, memory_append, nothing, Nat.zero_add]
  rfl

end

theorem memory_consume
    {items : List SendItem}
    {n : Nat}
    (within : n ≤ span items) :
    memory (consume items n) + n = memory items := by
  rw [memory_consume_eq]
  exact memory_consumeItems items n within

/-- What sendfile takes from the file at the head of a queue takes nothing out
of memory. -/
theorem memory_consume_file
    {segment : FileSegment}
    (file : head.file = some segment)
    (unstaged : head.data = [])
    (within : n ≤ segment.remaining) :
    memory (consume (head :: rest) n) = memory (head :: rest) := by
  rw [memory_consume_eq]
  have none : head.memory = 0 := by
    simp [SendItem.memory, unstaged]
  unfold consumeItems
  rw [file]
  dsimp only
  rw [if_pos unstaged]
  split
  · rfl
  · have all : n - segment.remaining = 0 := by omega
    rw [all, releaseHead_fst, memory_cons, memory_cons, none]
    exact congrArg _ (memory_consumeItems rest 0 (Nat.zero_le _))

/-! ## Queueing -/

/-- `queueLocked` on the items from the head on. -/
def enqueueCopy
    (items : List SendItem)
    (first second : Bytes)
    (capacity : Nat) : List SendItem :=
  match items.getLast?.filter fun tail =>
      tail.offset == 0 && tail.buf.any fun room =>
        decide (tail.data.length + first.length + second.length ≤ room) with
  | some tail =>
    items.dropLast ++ [{ tail with data := tail.data ++ first ++ second }]
  | none =>
    items ++
      [{ data := first ++ second
         buf := some (max capacity (first.length + second.length)) }]

/-- `queueOwnedLocked` on the items from the head on. -/
def enqueueOwned
    (items : List SendItem)
    (data : Bytes) : List SendItem :=
  items ++ [{ data := data }]

/-- No file has a pooled buffer, so nothing merges into one; no item that has
been sent whole is left; where files go out by sendfile, none is staged. -/
structure Sound
    (backend : Backend)
    (items : List SendItem) : Prop where
  unpooled : ∀ item ∈ items, item.file.isSome -> item.buf = none
  unsent : ∀ item ∈ items, item.data ≠ [] -> item.offset < item.data.length
  unstaged : backend = .readiness -> ∀ item ∈ items, item.WellFormed

section Sound

variable {backend : Backend} {items : List SendItem}

theorem Sound.nil : Sound backend [] where
  unpooled := nofun
  unsent := nofun
  unstaged := nofun

theorem Sound.append
    (first : Sound backend items)
    (second : Sound backend later) :
    Sound backend (items ++ later) :=
  ⟨List.forall_mem_append.mpr ⟨first.unpooled, second.unpooled⟩,
    List.forall_mem_append.mpr ⟨first.unsent, second.unsent⟩, fun readiness =>
      List.forall_mem_append.mpr ⟨first.unstaged readiness, second.unstaged readiness⟩⟩

theorem Sound.subset
    (sound : Sound backend items)
    (part : later ⊆ items) :
    Sound backend later :=
  ⟨fun item present => sound.unpooled item (part present),
    fun item present => sound.unsent item (part present),
    fun readiness item present => sound.unstaged readiness item (part present)⟩

theorem Sound.append_inMemory
    (sound : Sound backend items)
    (inMemory : item.file = none)
    (untouched : item.offset = 0) :
    Sound backend (items ++ [item]) := by
  refine sound.append ⟨by simp [inMemory], ?_, fun _ => ?_⟩
  · simp [untouched, List.length_pos_iff]
  · rw [List.forall_mem_singleton]
    exact SendItem.wellFormed_of_file_eq_none inMemory

theorem Sound.append_file
    (sound : Sound backend items)
    (segment : FileSegment) :
    Sound backend (items ++ [{ file := some segment }]) := by
  refine sound.append ⟨by simp, by simp, fun _ => ?_⟩
  rw [List.forall_mem_singleton]
  exact SendItem.wellFormed_file segment

theorem unpooled_consumeItems
    (items : List SendItem)
    (n : Nat)
    (unpooled : ∀ item ∈ items, item.file.isSome -> item.buf = none) :
    ∀ item ∈ (consumeItems items n).1, item.file.isSome -> item.buf = none := by
  fun_induction consumeItems items n <;> simp_all

theorem unsent_consumeItems
    (items : List SendItem)
    (n : Nat)
    (unsent : ∀ item ∈ items,
      item.data ≠ [] -> item.offset < item.data.length) :
    ∀ item ∈ (consumeItems items n).1,
      item.data ≠ [] -> item.offset < item.data.length := by
  fun_induction consumeItems items n with
  | case4 item rest left segment file staged short | case7 item rest left inMemory short =>
    rw [List.forall_mem_cons] at unsent ⊢
    refine ⟨fun _ => ?_, unsent.2⟩
    dsimp only
    omega
  | _ => simp_all

section

variable (sound : Sound backend items)
include sound

theorem Sound.consume (n : Nat) :
    Sound backend (consume items n) where
  unpooled := fun item present =>
    unpooled_consumeItems items n sound.unpooled item (List.mem_of_mem_drop present)
  unsent := fun item present =>
    unsent_consumeItems items n sound.unsent item (List.mem_of_mem_drop present)
  unstaged := fun readiness item present =>
    wellFormed_consumeItems items n (sound.unstaged readiness) item (List.mem_of_mem_drop present)

/-- What is copied into the queue stands in memory, and shortens nothing. -/
theorem enqueueCopy_spec
    (first second : Bytes)
    (capacity : Nat) :
    let after := enqueueCopy items first second capacity
    memory after = memory items + (first.length + second.length) ∧
      span items ≤ span after ∧ Sound backend after := by
  intro after
  unfold after enqueueCopy
  split
  · next tail target =>
    obtain ⟨last, mergeable⟩ := Option.filter_eq_some_iff.mp target
    simp only [Bool.and_eq_true, beq_iff_eq, Option.any_eq_true] at mergeable
    obtain ⟨untouched, room, pooled, _⟩ := mergeable
    have split : items.dropLast ++ [tail] = items :=
      List.dropLast_append_getLast? tail last
    have inMemory : tail.file = none := by
      by_contra file
      have unpooled := sound.unpooled tail (List.mem_of_getLast? last)
        (Option.isSome_iff_ne_none.mpr file)
      rw [unpooled] at pooled
      cases pooled
    have grown : SendItem.memory
        { tail with data := tail.data ++ first ++ second } =
          tail.memory + (first.length + second.length) := by
      unfold SendItem.memory
      simp only [untouched, List.length_append]
      omega
    refine ⟨?_, ?_, (sound.subset (List.dropLast_subset _)).append_inMemory inMemory untouched⟩
    · conv_rhs => rw [← split]
      rw [memory_append, memory_append, memory_cons, memory_cons]
      omega
    · conv_lhs => rw [← split]
      exact span_append_singleton_le _ inMemory inMemory (by omega)
  · refine ⟨?_, span_append_le _ _, sound.append_inMemory rfl rfl⟩
    simp [SendItem.memory]

theorem enqueueOwned_spec (data : Bytes) :
    memory (enqueueOwned items data) = memory items + data.length ∧
      span items ≤ span (enqueueOwned items data) ∧
      Sound backend (enqueueOwned items data) := by
  refine ⟨?_, span_append_le _ _, sound.append_inMemory rfl rfl⟩
  simp [enqueueOwned, SendItem.memory]

end

end Sound

/-! ## Staging -/

/-- `stageLocked`, given how much one read of the file returns; no result when
the read fails or returns nothing.  The second result is what it adds to what
is pending. -/
def stageLocked
    (item : SendItem)
    (read : Nat) : Option (SendItem × Nat) :=
  if item.data ≠ [] then some (item, 0)
  else
    match item.file with
    | none => some (item, 0)
    | some segment =>
      let chunk := segment.bytes.take (min read sendFileChunk)
      if chunk = [] then none
      else
        some ({ item with
          data := chunk
          offset := 0
          file := some (segment.advance chunk.length) }, chunk.length)

theorem stageLocked_spec
    {item staged : SendItem}
    {read added : Nat}
    (found : stageLocked item read = some (staged, added)) :
    staged.memory = item.memory + added ∧ staged.buf = item.buf ∧
      staged.file.isSome = item.file.isSome ∧
      (staged.file.isSome -> staged.data ≠ []) ∧
      ((item.data ≠ [] -> item.offset < item.data.length) ->
        staged.data ≠ [] -> staged.offset < staged.data.length) := by
  unfold stageLocked at found
  split at found
  · next nonempty =>
    cases found
    exact ⟨rfl, rfl, rfl, fun _ => nonempty, id⟩
  next unstaged =>
  rw [not_not] at unstaged
  split at found
  · next inMemory =>
    cases found
    refine ⟨rfl, rfl, rfl, fun file => ?_, id⟩
    rw [inMemory] at file
    cases file
  next segment file =>
  dsimp only at found
  split at found
  · cases found
  next nonempty =>
  cases found
  refine ⟨?_, rfl, by rw [file]; rfl, fun _ => nonempty,
    fun _ _ => List.length_pos_iff.mpr nonempty⟩
  simp [SendItem.memory, unstaged]

theorem Sound.stage
    {read : Nat}
    (sound : Sound .completion (item :: rest))
    (found : stageLocked item read = some (staged, added)) :
    Sound .completion [staged] := by
  obtain ⟨-, buf, file, -, unsent⟩ := stageLocked_spec found
  refine ⟨List.forall_mem_singleton.mpr ?_, List.forall_mem_singleton.mpr ?_, nofun⟩
  · rw [file, buf]
    exact (List.forall_mem_cons.mp sound.unpooled).1
  · exact unsent (List.forall_mem_cons.mp sound.unsent).1

/-- What `awaitWritableLocked` makes of a queue. -/
structure Gathered where
  items : List SendItem
  /-- The bytes handed to the overlapped send. -/
  total : Nat
  /-- The bytes staged on the way. -/
  added : Nat
  /-- A file could not be read. -/
  failed : Bool

/-- `maxWSABufLen`. -/
def maxWSABufLen : Nat := 2 ^ 30

/-- The loop of `awaitWritableLocked`, for so many more buffers and with what
reading the files yields. -/
def gather : List SendItem -> Nat -> List Nat -> Gathered
  | [], _, _ => ⟨[], 0, 0, false⟩
  | item :: rest, 0, _ => ⟨item :: rest, 0, 0, false⟩
  | item :: rest, count + 1, reads =>
    match stageLocked item (reads.headD 0) with
    | none => ⟨item :: rest, 0, 0, true⟩
    | some (staged, added) =>
      let reads := if added = 0 then reads else reads.tail
      let length := min staged.memory maxWSABufLen
      if staged.memory = 0 then
        let later := gather rest (count + 1) reads
        ⟨staged :: later.items, later.total, added + later.added,
          later.failed⟩
      else if length < staged.memory ∨
          (staged.file.any fun segment => 0 < segment.remaining) then
        ⟨staged :: rest, length, added, false⟩
      else
        let later := gather rest count reads
        ⟨staged :: later.items, length + later.total, added + later.added,
          later.failed⟩

/-- What is gathered can be written: what was staged is accounted for, and the
bytes handed over stand at the head of the queue. -/
theorem gather_spec
    (items : List SendItem)
    (count : Nat)
    (reads : List Nat)
    (sound : Sound .completion items) :
    memory (gather items count reads).items = memory items + (gather items count reads).added ∧
      (gather items count reads).total ≤ span (gather items count reads).items ∧
      Sound .completion (gather items count reads).items := by
  induction items generalizing count reads with
  | nil => exact ⟨by simp [gather], by simp [gather], by simpa [gather]⟩
  | cons item rest ih =>
    cases count with
    | zero => exact ⟨by simp [gather], by simp [gather], by simpa [gather]⟩
    | succ count =>
      have others := sound.subset (List.subset_cons_self item rest)
      unfold gather
      cases found : stageLocked item (reads.headD 0) with
      | none => exact ⟨by simp, by simp, sound⟩
      | some result =>
        obtain ⟨staged, added⟩ := result
        obtain ⟨grown, -, -, nonempty, unsent⟩ := stageLocked_spec found
        have sounds (later : List SendItem) (laterSound : Sound .completion later) :
            Sound .completion (staged :: later) :=
          (sound.stage found).append laterSound
        dsimp only
        split
        · next spent =>
          obtain ⟨accounted, within, laterSound⟩ := ih
            (count + 1) (if added = 0 then reads else reads.tail) others
          refine ⟨?_, ?_, sounds _ laterSound⟩
          · dsimp only
            rw [memory_cons, memory_cons]
            omega
          -- A file that is staged has bytes to send.
          have inMemory : staged.file = none := by
            by_contra present
            have chunk := nonempty (Option.isSome_iff_ne_none.mpr present)
            have left := unsent (List.forall_mem_cons.mp sound.unsent).1 chunk
            unfold SendItem.memory at spent
            omega
          simp only [span, inMemory]
          omega
        split
        · refine ⟨?_, ?_, sounds rest others⟩
          · dsimp only
            rw [memory_cons, memory_cons]
            omega
          · exact Nat.le_trans (Nat.min_le_left _ _) (memory_le_span_cons staged rest)
        next whole =>
        obtain ⟨accounted, within, laterSound⟩ :=
          ih count
            (if added = 0 then reads else reads.tail) others
        refine ⟨?_, ?_, sounds _ laterSound⟩
        · dsimp only
          rw [memory_cons, memory_cons]
          omega
        rw [not_or] at whole
        simp only [span]
        cases present : staged.file with
        | none =>
          dsimp only
          omega
        | some segment =>
          have last : segment.remaining = 0 := by
            simpa [present] using whole.2
          dsimp only
          rw [if_pos last]
          omega

/-! ## The counters -/

/-- The output half of a connection. -/
structure Line where
  items : List SendItem := []
  closing : Bool := false
  closed : Bool := false
  flushing : Bool := false
  corked : Bool := false
  closeAfterSend : Bool := false
  /-- The bytes an overlapped send has been handed: `writeInFlight`. -/
  inFlight : Option Nat := none
  pendingBytes : Int := 0

/-- What a section under a connection's lock works on; `clamped` says that
`subPending` once found less than it was to take away. -/
structure Account where
  line : Line
  pendingTotal : Int
  clamped : Bool := false

/-- What the environment decides in one section: besides an answer of the
readiness backend, what reading files yields and whether an overlapped send is
accepted. -/
structure Reply extends Answer where
  reads : List Nat := []
  posted : Bool := true

namespace Account

section

variable (account : Account)

/-- `addPending`. -/
def addPending (n : Nat) : Account :=
  { account with
    line := { account.line with
      pendingBytes := account.line.pendingBytes + n }
    pendingTotal := account.pendingTotal + n }

/-- `subPending`. -/
def subPending (n : Nat) : Account :=
  let pending := account.line.pendingBytes - n
  if pending < 0 then
    { line := { account.line with pendingBytes := 0 }
      pendingTotal :=
        if 0 < n + pending then account.pendingTotal - (n + pending)
        else account.pendingTotal
      clamped := true }
  else
    { account with
      line := { account.line with pendingBytes := pending }
      pendingTotal := account.pendingTotal - n }

/-- Replace the queue. -/
def setItems (items : List SendItem) : Account :=
  { account with line := { account.line with items := items } }

/-- The bytes are taken out of the counters and off the queue. -/
def consumeLocked (n : Nat) : Account :=
  let counted := account.subPending n
  counted.setItems (consume account.line.items n)

/-- The flush is over. -/
def stopFlushing : Account :=
  { account with line := { account.line with flushing := false } }

end

section

variable (backend : Backend)

/-- `awaitWritableLocked`. -/
def awaitWritableLocked
    (reply : Reply)
    (account : Account) : Account :=
  match backend with
  | .readiness => account
  | .completion =>
    let line := account.line
    if line.inFlight.isSome || line.closing || line.closed ||
        line.items.isEmpty then account
    else
      let gathered := gather line.items SendQueue.maxWritevItems reply.reads
      let staged := (account.addPending gathered.added).setItems
        gathered.items
      if gathered.total = 0 || !reply.posted then staged
      else
        { staged with
          line := { staged.line with inFlight := some gathered.total } }

/-! ## The sections -/

/-- `canWriteDirectlyLocked`. -/
def direct (account : Account) : Bool :=
  account.line.items.isEmpty && !account.line.flushing && !account.line.corked

/-- The connection has stopped accepting sends. -/
def sendClosed (account : Account) : Bool :=
  account.line.closing || account.line.closed || account.line.closeAfterSend

/-- Queue what a direct write did not take. -/
def queueRest
    (reply : Reply)
    (account : Account)
    (items : List SendItem)
    (length : Nat) : Account :=
  let queued := (account.setItems items).addPending length
  if account.direct then queued.awaitWritableLocked backend reply else queued

/-- The section the send calls share.  `enqueue` queues what is left of the
offered bytes once so many have been sent. -/
def sendWith
    (offered : Bytes)
    (enqueue : Nat -> List SendItem -> List SendItem)
    (reply : Reply)
    (account : Account) : Option Account :=
  let queueAfter (sent : Nat) : Account :=
    account.queueRest backend reply (enqueue sent account.line.items)
      (offered.length - sent)
  if offered = [] ∨ account.sendClosed = true then some account
  else if account.direct then
    match reply.sys with
    | .took n =>
      if n < offered.length then some (queueAfter n)
      else if n = offered.length then some account
      else none
    | .again => some (queueAfter 0)
    -- The section ends, and `closeWithError` follows.
    | .failed _ => some account
    | .interrupted | .eof => none
  else some (queueAfter 0)

/-- `send`. -/
def send
    (data : Bytes)
    (copyData : Bool)
    (reply : Reply) :
    Account -> Option Account :=
  sendWith backend data (fun sent items =>
    if copyData then enqueueCopy items (data.drop sent) [] reply.capacity
    else enqueueOwned items (data.drop sent)) reply

/-- `SendParts`. -/
def sendParts
    (first second : Bytes)
    (reply : Reply) :
    Account -> Option Account :=
  sendWith backend (first ++ second) (fun sent items =>
    if sent < first.length then
      enqueueCopy items (first.drop sent) second reply.capacity
    else
      enqueueCopy items (second.drop (sent - first.length)) []
        reply.capacity) reply

/-- The section of `SendFile` that queues the range. -/
def sendFile
    (segment : FileSegment)
    (account : Account) : Account :=
  if segment.remaining = 0 ∨ account.sendClosed = true then account
  else account.setItems (account.line.items ++ [{ file := some segment }])

/-- `closeAfterSendRaw`. -/
def closeAfterSendRaw (account : Account) : Account :=
  if account.sendClosed then account
  else { account with line := { account.line with closeAfterSend := true } }

/-- The bytes one write offers when the head of the queue is in memory. -/
def batch
    (useWritev : Bool)
    (items : List SendItem) : Bytes :=
  match items with
  | [] => []
  | head :: rest =>
    if useWritev && !rest.isEmpty then
      ((head :: rest).take SendQueue.maxWritevItems).takeWhile
          (·.file.isNone) |>.flatMap fun item => item.data.drop item.offset
    else head.data.drop head.offset

/-- What follows a system call of a flush that took bytes from memory or from
a file, or none. -/
def afterWrite
    (reply : Reply)
    (account : Account)
    (fromFile : Bool) : Written -> Account
  | .took n attempted =>
    let taken :=
      if fromFile then account.setItems (consume account.line.items n)
      else account.consumeLocked n
    if n < attempted then
      taken.stopFlushing.awaitWritableLocked backend reply
    else taken
  | .again => account.stopFlushing.awaitWritableLocked backend reply
  | .interrupted => account
  | .failed _ => account.stopFlushing

/-- One iteration of the loop of `flushOutput`. -/
def flushStep
    (useWritev : Bool)
    (reply : Reply)
    (account : Account) : Option Account :=
  if account.line.flushing = false then none
  else
    match account.line.items with
    | [] => some account.stopFlushing
    | head :: rest =>
      match head.file, backend with
      | none, _ =>
        (sysWriteLocked (batch useWritev (head :: rest))
          reply.toAnswer).map (account.afterWrite backend reply false)
      | some segment, .readiness =>
        (sysSendFileLocked segment reply.toAnswer).map
          (account.afterWrite backend reply true)
      | some _, .completion =>
        match stageLocked head (reply.reads.headD 0) with
        | none => some account.stopFlushing
        | some (staged, added) =>
          (sysWriteLocked (staged.data.drop staged.offset)
            reply.toAnswer).map
              (((account.addPending added).setItems
                (staged :: rest)).afterWrite backend reply false)

end

/-- The section of `flushOutput` that claims the flush. -/
def flushOutput (account : Account) : Account :=
  let line := account.line
  if line.closing || line.closed || line.flushing || line.inFlight.isSome then
    account
  else { account with line := { line with flushing := true } }

/-- `completeWrite`, with how much of what it was handed an overlapped send has
delivered. -/
def completeWrite
    (n : Nat)
    (failed : Bool)
    (account : Account) :
    Option Account :=
  match account.line.inFlight with
  | none => none
  | some total =>
    if total < n then none
    else
      let landed := { account with
        line := { account.line with inFlight := none } }
      if account.line.closed || failed || n == 0 then some landed
      else some (landed.consumeLocked n)

/-- `closeConnection`. -/
def closeConnection (account : Account) : Account :=
  let line := account.line
  if line.closed then account
  else
    { account with
      line := { line with
        closed := true
        closing := true
        items := []
        pendingBytes := 0 }
      pendingTotal :=
        if 0 < line.pendingBytes then account.pendingTotal - line.pendingBytes
        else account.pendingTotal }

end Account

/-- A section under the lock of one connection. -/
inductive LineLabel where
  | send (data : Bytes) (copyData : Bool) (reply : Reply)
  | sendParts (first second : Bytes) (reply : Reply)
  | sendFile (segment : FileSegment)
  | closeAfterSend
  | closeWithError
  | cork
  | uncork
  | flushOutput
  | flushStep (reply : Reply)
  | completeWrite (n : Nat) (failed : Bool)
  | closeConnection

/-- An engine with its connections, open and closed. -/
structure Ledger where
  lines : List Line := []
  pendingTotal : Int := 0
  clamped : Bool := false

inductive LedgerLabel where
  /-- A connection is accepted or dialed. -/
  | connect
  | line (index : Nat) (label : LineLabel)

/-- The section a label stands for. -/
def Account.step
    (backend : Backend)
    (useWritev : Bool)
    (account : Account) :
    LineLabel -> Option Account
  | .send data copyData reply => account.send backend data copyData reply
  | .sendParts first second reply =>
    account.sendParts backend first second reply
  | .sendFile segment => some (account.sendFile segment)
  | .closeAfterSend => some account.closeAfterSendRaw
  | .closeWithError =>
    some { account with line := { account.line with closing := true } }
  | .cork => some { account with line := { account.line with corked := true } }
  | .uncork =>
    some { account with line := { account.line with corked := false } }
  | .flushOutput => some account.flushOutput
  | .flushStep reply => account.flushStep backend useWritev reply
  | .completeWrite n failed => account.completeWrite n failed
  | .closeConnection => some account.closeConnection

namespace Ledger

def step
    (backend : Backend)
    (useWritev : Bool)
    (ledger : Ledger) :
    LedgerLabel -> Option Ledger
  | .connect => some { ledger with lines := ledger.lines ++ [{}] }
  | .line index label =>
    match ledger.lines[index]? with
    | none => none
    | some line =>
      (Account.step backend useWritev
        ⟨line, ledger.pendingTotal, ledger.clamped⟩ label).map
          fun account =>
            { lines := ledger.lines.set index account.line
              pendingTotal := account.pendingTotal
              clamped := account.clamped }

end Ledger

/-! ## The counters are exact -/

/-- The counter agrees with the queue.  What an overlapped send was handed
stands at the head of the queue until it completes, and nothing is flushed
meanwhile. -/
structure Line.Exact
    (backend : Backend)
    (line : Line) : Prop where
  sound : Sound backend line.items
  counted : line.pendingBytes = memory line.items
  abandoned : line.closed = true -> line.items = []
  posted : ∀ total ∈ line.inFlight, line.closed = false -> total ≤ span line.items
  excluded : line.inFlight.isSome -> line.flushing = false

/-- The engine's counter exceeds the connection's by what the other connections
hold. -/
structure Exact
    (backend : Backend)
    (others : Nat)
    (account : Account) : Prop
    extends account.line.Exact backend where
  total : account.pendingTotal = memory account.line.items + others
  unclamped : account.clamped = false

section Exact

variable {backend : Backend} {others : Nat} {account : Account}

variable {after : Account}

variable {n : Nat}

theorem running_of_accepts
    {nothing : Prop}
    (accepted : ¬(nothing ∨ account.sendClosed = true)) :
    account.line.closed = false := by
  simp only [Account.sendClosed, not_or, Bool.or_eq_true, Bool.not_eq_true] at accepted
  exact accepted.2.1.2

/-- On an open connection the queue and both counters change together; what an overlapped send
was handed stays at the head of the queue. -/
theorem Exact.requeue
    (exact_ : Exact backend others account)
    {items : List SendItem}
    {pendingBytes pendingTotal : Int}
    (running : account.line.closed = false)
    (sound : Sound backend items)
    (counted : pendingBytes = memory items)
    (total : pendingTotal = memory items + others)
    (posted : ∀ total ∈ account.line.inFlight, total ≤ span items) :
    Exact backend others
      { account with
        line := { account.line with items := items, pendingBytes := pendingBytes }
        pendingTotal := pendingTotal } := by
  refine ⟨⟨sound, counted, fun closed => ?_, fun total inFlight _ => posted total inFlight,
    exact_.excluded⟩, total, exact_.unclamped⟩
  cases running.symm.trans closed

/-- Bytes enter the queue, and both counters with them. -/
theorem Exact.grow
    (exact_ : Exact backend others account)
    (running : account.line.closed = false)
    {items : List SendItem}
    (grown : memory items = memory account.line.items + n)
    (longer : span account.line.items ≤ span items)
    (sound : Sound backend items) :
    Exact backend others ((account.setItems items).addPending n) := by
  have counted := exact_.counted
  have total := exact_.total
  refine exact_.requeue running sound ?_ ?_ fun handed inFlight =>
    Nat.le_trans (exact_.posted handed inFlight running) longer
  all_goals
    dsimp only [Account.setItems]
    omega

theorem subPending_of_le (enough : (n : Int) ≤ account.line.pendingBytes) :
    account.subPending n =
      { account with
        line := { account.line with
          pendingBytes := account.line.pendingBytes - n }
        pendingTotal := account.pendingTotal - n } := by
  unfold Account.subPending
  rw [if_neg (by omega)]

section

variable (exact_ : Exact backend others account)
include exact_

/-- Bytes leave the queue, and both counters with them; the counters hold
enough. -/
theorem Exact.consumeLocked
    (landed : account.line.inFlight = none)
    (running : account.line.closed = false)
    (within : n ≤ span account.line.items) :
    Exact backend others (account.consumeLocked n) := by
  have counted := exact_.counted
  have total := exact_.total
  have taken := memory_consume within
  unfold Account.consumeLocked
  rw [subPending_of_le (by omega)]
  refine exact_.requeue running (exact_.sound.consume n) ?_ ?_ (by simp [landed])
  all_goals
    dsimp only [Account.setItems]
    omega

/-- What sendfile took was never counted. -/
theorem Exact.consumeFile
    {head : SendItem}
    {segment : FileSegment}
    (items : account.line.items = head :: rest)
    (readiness : backend = .readiness)
    (landed : account.line.inFlight = none)
    (running : account.line.closed = false)
    (file : head.file = some segment)
    (within : n ≤ segment.remaining) :
    Exact backend others (account.setItems (consume account.line.items n)) := by
  have wellFormed := exact_.sound.unstaged readiness head
    (by rw [items]; exact List.mem_cons_self)
  have unstaged := (wellFormed (by rw [file]; rfl)).1
  have same : memory (consume account.line.items n) = memory account.line.items := by
    rw [items]
    exact memory_consume_file file unstaged within
  exact exact_.requeue running (exact_.sound.consume n) (same ▸ exact_.counted)
    (same ▸ exact_.total) (by simp [landed])

theorem Exact.stopFlushing :
    Exact backend others account.stopFlushing :=
  { exact_ with excluded := fun _ => rfl }

/-- Chunks staged for an overlapped send are counted, and what it is handed
stands at the head of the queue. -/
theorem Exact.awaitWritableLocked
    (reply : Reply)
    (stopped : account.line.flushing = false) :
    Exact backend others (account.awaitWritableLocked backend reply) := by
  unfold Account.awaitWritableLocked
  cases backend with
  | readiness => exact exact_
  | completion =>
    dsimp only
    split
    · exact exact_
    next free =>
    simp only [Bool.or_eq_true, not_or, Bool.not_eq_true] at free
    obtain ⟨⟨⟨landed, _⟩, running⟩, _⟩ := free
    obtain ⟨grown, within, sound⟩ := gather_spec account.line.items
      SendQueue.maxWritevItems reply.reads exact_.sound
    have counted := exact_.counted
    have total := exact_.total
    have staged : Exact .completion others ((account.addPending (gather account.line.items
          SendQueue.maxWritevItems reply.reads).added).setItems
            (gather account.line.items SendQueue.maxWritevItems reply.reads).items) := by
      rw [Option.isSome_eq_false_iff, Option.isNone_iff_eq_none] at landed
      refine exact_.requeue running sound ?_ ?_ (by simp [landed])
      all_goals
        dsimp only [Account.addPending]
        omega
    split
    · exact staged
    refine { staged with posted := ?_, excluded := fun _ => stopped }
    intro handed posted _
    obtain rfl := Option.some.inj posted
    exact within

theorem Exact.queueRest
    (running : account.line.closed = false)
    (reply : Reply)
    {items : List SendItem}
    (grown : memory items = memory account.line.items + n)
    (longer : span account.line.items ≤ span items)
    (sound : Sound backend items) :
    Exact backend others (account.queueRest backend reply items n) := by
  have queued := exact_.grow running grown longer sound
  unfold Account.queueRest
  split
  · next direct =>
    refine queued.awaitWritableLocked reply ?_
    simp only [Account.direct, Bool.and_eq_true, Bool.not_eq_true'] at direct
    exact direct.1.2
  · exact queued

end

variable {reply : Reply}

section

variable (exact_ : Exact backend others account)
include exact_

/-- The send calls, for every way of queueing that adds what was not sent. -/
theorem Exact.sendWith
    {offered : Bytes}
    (queues : ∀ sent, sent ≤ offered.length -> memory (enqueue sent account.line.items) =
          memory account.line.items + (offered.length - sent) ∧
        span account.line.items ≤ span (enqueue sent account.line.items) ∧
        Sound backend (enqueue sent account.line.items))
    (taken : account.sendWith backend offered enqueue reply = some after) :
    Exact backend others after := by
  unfold Account.sendWith at taken
  split at taken
  · cases taken
    exact exact_
  next accepted =>
  have running := running_of_accepts accepted
  have queueAfter (sent : Nat) (within : sent ≤ offered.length) :
      Exact backend others (account.queueRest backend reply (enqueue sent account.line.items)
          (offered.length - sent)) := by
    obtain ⟨grown, longer, sound⟩ := queues sent within
    exact exact_.queueRest running reply grown longer sound
  split at taken
  · split at taken
    · split at taken
      · next short =>
        cases taken
        exact queueAfter _ (Nat.le_of_lt short)
      · split at taken
        · cases taken
          exact exact_
        · cases taken
    · cases taken
      exact queueAfter 0 (Nat.zero_le _)
    · cases taken
      exact exact_
    · cases taken
    · cases taken
  · cases taken
    exact queueAfter 0 (Nat.zero_le _)

theorem Exact.send
    (taken : account.send backend data copyData reply = some after) :
    Exact backend others after := by
  refine exact_.sendWith (fun sent _ => ?_) taken
  cases copyData with
  | true =>
    have spec := enqueueCopy_spec exact_.sound (data.drop sent) [] reply.capacity
    simpa using spec
  | false =>
    have spec := enqueueOwned_spec exact_.sound (data.drop sent)
    simpa using spec

theorem Exact.sendParts
    (taken : account.sendParts backend first second reply = some after) :
    Exact backend others after := by
  refine exact_.sendWith (fun sent within => ?_) taken
  rw [List.length_append] at within ⊢
  split
  · have spec := enqueueCopy_spec exact_.sound (first.drop sent) second reply.capacity
    rw [List.length_drop] at spec
    refine ⟨spec.1.trans ?_, spec.2⟩
    omega
  have spec := enqueueCopy_spec exact_.sound (second.drop (sent - first.length)) [] reply.capacity
  rw [List.length_drop, List.length_nil] at spec
  refine ⟨spec.1.trans ?_, spec.2⟩
  omega

theorem Exact.sendFile (segment : FileSegment) :
    Exact backend others (account.sendFile segment) := by
  unfold Account.sendFile
  split
  · exact exact_
  next accepted =>
  have running := running_of_accepts accepted
  have same : memory (account.line.items ++ [{ file := some segment }]) =
        memory account.line.items := by
    simp [SendItem.memory]
  exact exact_.requeue running (exact_.sound.append_file segment) (same ▸ exact_.counted)
    (same ▸ exact_.total) fun handed inFlight =>
      Nat.le_trans (exact_.posted handed inFlight running) (span_append_le _ _)

end

theorem length_batch_le_span
    (useWritev : Bool)
    (items : List SendItem) :
    (Account.batch useWritev items).length ≤ span items := by
  unfold Account.batch
  split
  · exact Nat.zero_le _
  next head rest =>
  split
  · exact SendQueue.length_memory_le (fun item rest file => by simp [span, file, SendItem.memory])
      (head :: rest) SendQueue.maxWritevItems
  · rw [List.length_drop]
    exact memory_le_span_cons head rest

section

variable (exact_ : Exact backend others account)
include exact_

theorem Exact.afterWrite
    (reply : Reply)
    (fromFile : Bool)
    (written : Written)
    (consumed : ∀ n attempted, written = .took n attempted -> Exact backend others
        (if fromFile then account.setItems (consume account.line.items n)
          else account.consumeLocked n)) :
    Exact backend others (account.afterWrite backend reply fromFile written) := by
  cases written with
  | took n attempted =>
    have taken := consumed n attempted rfl
    unfold Account.afterWrite
    dsimp only
    split
    · exact taken.stopFlushing.awaitWritableLocked reply rfl
    · exact taken
  | again => exact exact_.stopFlushing.awaitWritableLocked reply rfl
  | interrupted => exact exact_
  | failed err => exact exact_.stopFlushing

/-- The chunk a flush stages is counted before it is written. -/
theorem Exact.stageHead
    {read added : Nat}
    (items : account.line.items = head :: rest)
    (landed : account.line.inFlight = none)
    (running : account.line.closed = false)
    (completion : backend = .completion)
    (found : stageLocked head read = some (staged, added)) :
    Exact backend others ((account.addPending added).setItems (staged :: rest)) := by
  have grown := (stageLocked_spec found).1
  have counted := exact_.counted
  have total := exact_.total
  rw [items, memory_cons] at counted total
  have sound := exact_.sound
  rw [items] at sound
  have after := memory_cons staged rest
  refine exact_.requeue running ?_ (by dsimp only [Account.addPending]; omega)
    (by dsimp only [Account.addPending]; omega) (by simp [landed])
  subst completion
  exact (sound.stage found).append (sound.subset (List.subset_cons_self head rest))

theorem Exact.flushStep
    (taken : account.flushStep backend useWritev reply = some after) :
    Exact backend others after := by
  unfold Account.flushStep at taken
  split at taken
  · cases taken
  next flushing =>
  have landed : account.line.inFlight = none := by
    by_contra posted
    exact flushing (exact_.excluded (Option.isSome_iff_ne_none.mpr posted))
  split at taken
  · cases taken
    exact exact_.stopFlushing
  next head rest items =>
  have running : account.line.closed = false := by
    rw [← Bool.not_eq_true]
    intro closed
    rw [exact_.abandoned closed] at items
    cases items
  split at taken
  · obtain ⟨written, wrote, rfl⟩ := Option.map_eq_some_iff.mp taken
    refine exact_.afterWrite reply false written ?_
    rintro n attempted rfl
    have within := sysWriteLocked_took wrote
    have bounded := length_batch_le_span useWritev (head :: rest)
    rw [← items] at bounded
    exact exact_.consumeLocked landed running (Nat.le_trans (items ▸ within) bounded)
  · next segment file =>
    obtain ⟨written, wrote, rfl⟩ := Option.map_eq_some_iff.mp taken
    refine exact_.afterWrite reply true written ?_
    rintro n attempted rfl
    exact exact_.consumeFile items rfl landed running file
      ((sysSendFileLocked_took wrote).trans segment.length_bytes_le)
  next file =>
  split at taken
  · cases taken
    exact exact_.stopFlushing
  next staged added found =>
  obtain ⟨written, wrote, rfl⟩ :=
    Option.map_eq_some_iff.mp taken
  have chunk := exact_.stageHead items landed running rfl found
  refine chunk.afterWrite reply false written ?_
  rintro n attempted rfl
  have within := sysWriteLocked_took wrote
  rw [List.length_drop] at within
  exact chunk.consumeLocked landed running (Nat.le_trans within (memory_le_span_cons staged rest))

theorem Exact.completeWrite
    (taken : account.completeWrite n failed = some after) :
    Exact backend others after := by
  unfold Account.completeWrite at taken
  split at taken
  · cases taken
  next total inFlight =>
  split at taken
  · cases taken
  next within =>
  have landed : Exact backend others
      { account with line := { account.line with
        inFlight := none } } :=
    { exact_ with posted := nofun, excluded := nofun }
  split at taken
  · cases taken
    exact landed
  next running =>
  cases taken
  simp only [Bool.or_eq_true, not_or, Bool.not_eq_true] at running
  have open_ := running.1.1
  have bounded := exact_.posted total inFlight open_
  exact landed.consumeLocked rfl open_ (by
    change n ≤ span account.line.items
    omega)

theorem Exact.closeConnection :
    Exact backend others account.closeConnection := by
  unfold Account.closeConnection
  dsimp only
  split
  · exact exact_
  have counted := exact_.counted
  have total := exact_.total
  refine ⟨⟨.nil, rfl, fun _ => rfl, nofun, exact_.excluded⟩, ?_, exact_.unclamped⟩
  dsimp only
  rw [memory_nil]
  split <;> omega

theorem Exact.step (taken : account.step backend useWritev label = some after) :
    Exact backend others after := by
  cases label with
  | send data copyData reply => exact exact_.send taken
  | sendParts first second reply => exact exact_.sendParts taken
  | sendFile segment =>
    cases taken
    exact exact_.sendFile segment
  | closeAfterSend =>
    cases taken
    unfold Account.closeAfterSendRaw
    split
    · exact exact_
    · exact { exact_ with }
  | closeWithError | cork | uncork =>
    cases taken
    exact { exact_ with }
  | flushOutput =>
    cases taken
    unfold Account.flushOutput
    dsimp only
    split
    · exact exact_
    · next free =>
      refine { exact_ with excluded := fun posted => ?_ }
      simp only [Bool.or_eq_true, not_or] at free
      exact absurd posted free.2
  | flushStep reply => exact exact_.flushStep taken
  | completeWrite n failed => exact exact_.completeWrite taken
  | closeConnection =>
    cases taken
    exact exact_.closeConnection

end

end Exact

namespace Ledger

/-- The bytes in memory in the queues of all connections. -/
def held (ledger : Ledger) : Nat :=
  tally (fun line => memory line.items) ledger.lines

/-- Every connection's account is exact. -/
structure Balanced
    (backend : Backend)
    (ledger : Ledger) : Prop where
  total : ledger.pendingTotal = ledger.held
  unclamped : ledger.clamped = false
  lines : ∀ line ∈ ledger.lines, line.Exact backend

theorem Balanced.step
    {backend : Backend}
    {ledger after : Ledger}
    (balanced : ledger.Balanced backend)
    (taken : ledger.step backend useWritev label = some after) :
    after.Balanced backend := by
  cases label with
  | connect =>
    cases taken
    refine ⟨by simpa [held] using balanced.total, balanced.unclamped, ?_⟩
    exact List.forall_mem_append.mpr ⟨balanced.lines, List.forall_mem_singleton.mpr
      ⟨.nil, rfl, nofun, nofun, nofun⟩⟩
  | line index label =>
    simp only [Ledger.step] at taken
    split at taken
    · cases taken
    next line here =>
    obtain ⟨account, stepped, rfl⟩ := Option.map_eq_some_iff.mp taken
    obtain ⟨others, split⟩ :=
      Nat.exists_eq_add_of_le (weight_le_tally (fun line => memory line.items) here)
    have total := balanced.total
    rw [held, split] at total
    have exact_ := Exact.step
      ⟨balanced.lines line (List.mem_of_getElem? here), total, balanced.unclamped⟩ stepped
    have moved := tally_set (fun line => memory line.items) here account.line
    have after := exact_.total
    refine ⟨?_, exact_.unclamped, fun other member => ?_⟩
    · change account.pendingTotal = tally _ (ledger.lines.set index account.line)
      omega
    · rcases List.mem_or_eq_of_mem_set member with old | rfl
      · exact balanced.lines other old
      · exact exact_.toExact

/-- The closed connections hold nothing of the sum. -/
theorem sum_pendingBytes
    {backend : Backend}
    (lines : List Line)
    (exact_ : ∀ line ∈ lines, line.Exact backend) :
    (tally (fun line => memory line.items) lines : Int) =
      ((lines.filter fun line => !line.closed).map Line.pendingBytes).sum := by
  induction lines with
  | nil => rfl
  | cons line rest ih =>
    rw [List.forall_mem_cons] at exact_
    have counted := exact_.1.counted
    have sum := ih exact_.2
    rw [tally_cons, List.filter_cons]
    cases closed : line.closed with
    | true =>
      rw [exact_.1.abandoned closed]
      simpa using sum
    | false =>
      simp only [Bool.not_false, if_true, List.map_cons, List.sum_cons]
      omega

/-- In every state the engine reaches, each connection's counter is the number
of bytes of its queue in memory, the engine's counter is their sum over the
open connections, closed connections hold nothing, no counter is negative, and
no subtraction has had to be trimmed. -/
theorem backlog_is_exact
    (backend : Backend)
    (useWritev : Bool)
    (labels : List LedgerLabel)
    (ledger : Ledger)
    (reached : Transition.run (step backend useWritev) {} labels = some ledger) :
    (∀ line ∈ ledger.lines,
      line.pendingBytes = memory line.items ∧ 0 ≤ line.pendingBytes ∧
        (line.closed = true -> line.pendingBytes = 0 ∧ line.items = [])) ∧
      ledger.pendingTotal = ((ledger.lines.filter fun line => !line.closed).map
          Line.pendingBytes).sum ∧
      0 ≤ ledger.pendingTotal ∧ ledger.clamped = false := by
  have balanced : ledger.Balanced backend :=
    Transition.run_invariant (fun _ _ _ => Balanced.step)
      ⟨rfl, rfl, fun _ none => absurd none List.not_mem_nil⟩ reached
  have total := balanced.total
  refine ⟨fun line member => ?_, ?_, by omega, balanced.unclamped⟩
  · have exact_ := balanced.lines line member
    have counted := exact_.counted
    refine ⟨counted, by omega, fun closed => ?_⟩
    have items := exact_.abandoned closed
    rw [items] at counted
    exact ⟨counted, items⟩
  · rw [total]
    exact sum_pendingBytes ledger.lines balanced.lines

/-- On the completion backend: a send of which two bytes go out at once and the
rest in an overlapped send, and a file behind it of which a chunk is staged and
partly sent. -/
def staging : List LedgerLabel :=
  [.connect, .connect,
    .line 0 (.send (ascii "hello") true { sys := .took 2 }),
    .line 0 (.sendFile ⟨ascii "contents", 0, 8⟩),
    .line 0 (.completeWrite 3 false),
    .line 0 .flushOutput,
    .line 0 (.flushStep { sys := .took 1, reads := [4] }),
    .line 1 (.send (ascii "bye") false { sys := .again }),
    .line 1 .closeConnection]

def stagedLedger : Ledger :=
  (Transition.run (step .completion true) {} staging).getD {}

theorem backlog_is_exact_staged :
    stagedLedger.lines.map Line.pendingBytes = [3, 0] ∧
      stagedLedger.pendingTotal = 3 ∧ stagedLedger.clamped = false :=
  ⟨by decide, by decide, (backlog_is_exact .completion true staging stagedLedger rfl).2.2.2⟩

end Ledger

end Engine
end Fib
