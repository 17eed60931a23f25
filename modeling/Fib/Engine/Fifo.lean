import Fib.Engine.Discipline

/-!
# Output is first in, first out, and lossless

Whatever route the data of a send call takes (a direct write, the buffer of
the trailing item, an item of its own, or a stretch of a file) and wherever a
write stops, the bytes the socket has accepted together with the bytes still
represented in the queue are the data of the accepted calls in lock order.
Every section either moves bytes along this line or abandons the queue of a
connection that is closed; that is proved once, section by section, and
carried over all interleavings.
-/

namespace Fib
namespace Engine

open Goroutines

/-- What a section does to the output of the connection as long as it does
not close it: new data is accepted behind everything accepted before it. -/
structure Transfer (before after : World) : Prop where
  extends_line : ∃ data,
    after.wire ++ after.conn.queue.bytes =
        before.wire ++ before.conn.queue.bytes ++ data ∧
      after.accepted.flatten = before.accepted.flatten ++ data
  same_closed : after.conn.closed = before.conn.closed
  keeps_closeAfterSend : before.conn.closeAfterSend = true ->
    after.conn.closeAfterSend = true
  /-- A connection that refuses sends and has drained stays drained. -/
  stays_drained : before.conn.sendClosed = true ->
    before.conn.queue.isEmpty = true ->
      after.conn.queue.isEmpty = true ∧ after.wire = before.wire

/-- What closing does: the queue is abandoned. -/
structure Abandon (before after : World) : Prop where
  same_wire : after.wire = before.wire
  same_accepted : after.accepted = before.accepted
  drained : after.conn.queue.isEmpty = true
  closed : after.conn.closed = true
  same_closeAfterSend :
    after.conn.closeAfterSend = before.conn.closeAfterSend

/-- A section that leaves the queue and the socket alone. -/
theorem Transfer.of_frame
    {before after : World}
    (sameWire : after.wire = before.wire)
    (sameAccepted : after.accepted = before.accepted)
    (sameQueue : after.conn.queue = before.conn.queue)
    (sameClosed : after.conn.closed = before.conn.closed)
    (keeps : before.conn.closeAfterSend = true -> after.conn.closeAfterSend = true) :
    Transfer before after where
  extends_line := ⟨[], by simp [sameWire, sameQueue], by simp [sameAccepted]⟩
  same_closed := sameClosed
  keeps_closeAfterSend := keeps
  stays_drained := fun _ drained => ⟨sameQueue ▸ drained, sameWire⟩

/-! ## Send calls -/

/-- What a send call needs of the way it queues the rest of its data. -/
def EnqueuesRest
    (offered : Bytes)
    (enqueue : Nat -> Nat -> SendQueue -> SendQueue) : Prop :=
  ∀ sent capacity queue, sent ≤ offered.length ->
    (enqueue sent capacity queue).bytes =
      queue.bytes ++ offered.drop sent

variable {config : Config} {answer : Answer} {world : World} {locals : Locals}
variable {outcome : Result}

theorem sendWith_transfer
    (enqueues : EnqueuesRest offered enqueue)
    (executed : sendWith config offered enqueue answer world locals = some outcome) :
    Transfer world outcome.shared := by
  cases sendWith_outcome executed with
  | idle => exact .of_frame rfl rfl rfl rfl id
  | whole opened empty =>
    refine ⟨⟨offered, ?_, by simp⟩, rfl, id, fun refused => ?_⟩
    · simp [SendQueue.bytes_eq_nil_of_isEmpty empty]
    · exact absurd (opened.symm.trans refused) nofun
  | queued sent blocked next opened bounded =>
    refine ⟨⟨offered, ?_, by simp⟩, rfl, id, fun refused => ?_⟩
    · simp only [Connection.addPending, enqueues sent answer.capacity world.conn.queue bounded.1]
      rcases bounded.2 with empty | rfl
      · simp [SendQueue.bytes_eq_nil_of_isEmpty empty]
      · simp
    · exact absurd (opened.symm.trans refused) nofun

theorem send_transfer
    (executed : send config data copyData answer world locals = some outcome) :
    Transfer world outcome.shared := by
  apply sendWith_transfer _ executed
  intro sent capacity queue _
  cases copyData with
  | true => simp [SendQueue.bytes_queueLocked]
  | false => simp [SendQueue.bytes_queueOwnedLocked]

theorem sendParts_transfer
    (executed : sendParts config first second answer world locals = some outcome) :
    Transfer world outcome.shared := by
  apply sendWith_transfer _ executed
  intro sent capacity queue _
  by_cases inFirst : sent < first.length
  · simp only [inFirst, if_true, SendQueue.bytes_queueLocked]
    rw [List.drop_append_of_le_length (by omega)]
  · simp only [inFirst, if_false, SendQueue.bytes_queueLocked]
    have past : first.length ≤ sent := by omega
    rw [List.drop_append, List.drop_eq_nil_of_le past]
    simp

theorem sendFile_transfer
    {segment : FileSegment}
    (executed : sendFile segment world locals = some outcome) :
    Transfer world outcome.shared := by
  unfold sendFile at executed
  simp only at executed
  split at executed
  · cases executed
    exact .of_frame rfl rfl rfl rfl id
  split at executed
  · cases executed
    exact .of_frame rfl rfl rfl rfl id
  next opened =>
  cases executed
  refine ⟨⟨segment.bytes, ?_, by simp⟩, rfl, id, fun refused => ?_⟩
  · simp [SendQueue.bytes_queueFile]
  · exact absurd refused (by simpa using opened)

/-! ## Flushing -/

/-- What one system call of a flush offers is the front of the queue, and
what the socket takes of it is what `consumeLocked` removes. -/
theorem flushCall_took
    (called : flushCall config queue answer = some (offered, fromFile, .took n attempted)) :
    offered.take n = queue.bytes.take n ∧ n ≤ reach queue.items := by
  unfold flushCall at called
  split at called
  · next segment head =>
    obtain ⟨written, sent, equal⟩ := Option.map_eq_some_iff.mp called
    obtain ⟨rfl, -, rfl⟩ := equal
    have bounded := sysSendFileLocked_took sent
    obtain ⟨item, first, file⟩ := Option.bind_eq_some_iff.mp head
    obtain ⟨rest, items⟩ : ∃ rest, queue.items = item :: rest := by
      cases list : queue.items with
      | nil => simp [list] at first
      | cons other rest =>
        simp only [list, List.head?_cons, Option.some.injEq] at first
        exact ⟨rest, by rw [first]⟩
    have itemBytes : item.bytes = segment.bytes :=
      (queue.wellFormed_items item (by simp [items])).bytes_of_file file
    constructor
    · rw [SendQueue.bytes, items, itemsBytes_cons, itemBytes, List.take_append_of_le_length bounded]
    · simp only [items, reach, file]
      exact bounded
  next head =>
  obtain ⟨written, sent, equal⟩ := Option.map_eq_some_iff.mp called
  obtain ⟨rfl, -, rfl⟩ := equal
  have memory : queue.HeadInMemory := by
    intro item first
    rw [Option.mem_def] at first
    simpa [first] using head
  have bounded := sysWriteLocked_took sent
  obtain ⟨suffix, whole⟩ :=
    SendQueue.writeBatch_prefix config.useWritev memory
  constructor
  · rw [← whole, List.take_append_of_le_length bounded]
  · exact Nat.le_trans bounded (SendQueue.length_writeBatch_le memory)

theorem flushStep_transfer
    (executed : flushStep config answer world locals = some outcome) :
    Transfer world outcome.shared := by
  unfold flushStep at executed
  simp only at executed
  split at executed
  · next drained =>
    cases executed
    have nothing := SendQueue.bytes_eq_nil_of_isEmpty drained
    exact ⟨⟨[], by simp [nothing, SendQueue.rewindQueueLocked], by simp⟩,
      rfl, id, fun _ _ => ⟨rfl, rfl⟩⟩
  next nonempty =>
  split at executed
  · simp at executed
  · next offered fromFile n attempted called =>
    obtain ⟨front, within⟩ := flushCall_took called
    have line : world.wire ++ offered.take n ++ (world.conn.queue.consumeLocked n).bytes =
          world.wire ++ world.conn.queue.bytes := by
      rw [SendQueue.bytes_consumeLocked _ _ within, front, List.append_assoc, List.take_append_drop]
    have drains : world.conn.queue.isEmpty = true -> False :=
      fun drained => nonempty drained
    split at executed <;> simp only [continueWith, Option.some.injEq] at executed <;>
      subst executed <;>
      (refine ⟨⟨[], by simpa using line, by simp⟩, ?_, ?_,
        fun _ drained => (drains drained).elim⟩) <;>
      cases fromFile <;> simp [Connection.subPending]
  all_goals
    cases executed
    exact .of_frame rfl rfl rfl rfl id

/-! ## Every section -/

/-- Noting an event leaves the output alone. -/
theorem noteEvent_frame
    (c : Connection)
    (events : Events) :
    (c.noteEvent events).1.queue = c.queue ∧ (c.noteEvent events).1.closed = c.closed ∧
      (c.noteEvent events).1.closing = c.closing ∧
      (c.noteEvent events).1.closeAfterSend = c.closeAfterSend := by
  unfold Connection.noteEvent
  split
  · simp
  split
  · simp
  split <;> simp

theorem closeConnection_effect
    (executed : closeConnection world locals = some outcome) :
    Transfer world outcome.shared ∨ Abandon world outcome.shared := by
  unfold closeConnection at executed
  simp only at executed
  split at executed <;> simp only [continueWith, Option.some.injEq] at executed <;> subst executed
  · exact .inl (.of_frame rfl rfl rfl rfl id)
  · exact .inr ⟨rfl, rfl, rfl, rfl, rfl⟩

/-- Every section moves bytes along the line of accepted data or abandons the
queue of a connection it closes. -/
theorem exec_effect
    (executed : exec config first answer world locals = some outcome) :
    Transfer world outcome.shared ∨ Abandon world outcome.shared := by
  cases first with
  | send data copyData => exact .inl (send_transfer executed)
  | sendParts first second => exact .inl (sendParts_transfer executed)
  | sendFile segment => exact .inl (sendFile_transfer executed)
  | flushStep => exact .inl (flushStep_transfer executed)
  | closeConnection err => exact closeConnection_effect executed
  | noteEvent events | redeliverRead =>
    have frame := noteEvent_frame world.conn
    cases executed
    exact .inl (.of_frame rfl rfl (frame _).1 (frame _).2.1 (Eq.trans (frame _).2.2.2))
  | closeAfterSendRaw =>
    simp only [exec, closeAfterSendRaw] at executed
    split at executed <;> simp only [continueWith, Option.some.injEq] at executed <;> subst executed
    · exact .inl (.of_frame rfl rfl rfl rfl id)
    · exact .inl (.of_frame rfl rfl rfl rfl fun _ => rfl)
  | _ =>
    left
    simp only [exec, closeWithError, uncork, flushOutput, process, roundOut,
      roundPri, roundIn, roundEnd, recvOOB, callback, cork, read,
      watermark, watermarkAgain, stall, recork, unschedule, drainCommands,
      refreshConnection, setReadPaused, resumeBudgetPaused, resumeOne,
      submitReady, continueWith] at executed
    repeat' split at executed
    all_goals
      first
        | (cases executed
           exact .of_frame rfl rfl rfl rfl id)
        | simp at executed

/-- The close that `CloseAfterSend` asks for is scheduled only once the queue
has drained. -/
theorem exec_schedules_closeAfterSent
    (executed : exec config first answer world locals = some outcome)
    (scheduled : Section.closeAfterSent ∈ outcome.next) :
    outcome.shared.conn.closeAfterSend = true ∧ outcome.shared.conn.queue.isEmpty = true := by
  rcases (exec_conduct executed).closing scheduled with rfl | rfl
  · simp only [exec, closeAfterSendRaw] at executed
    split at executed <;> simp only [continueWith, Option.some.injEq] at executed <;> subst executed
    · simp at scheduled
    · by_cases drained : world.conn.queue.isEmpty && !world.conn.flushing
      · simp only [Bool.and_eq_true] at drained
        exact ⟨rfl, drained.1⟩
      · simp [drained] at scheduled
  · simp only [exec, flushStep] at executed
    split at executed
    · cases executed
      by_cases asked : world.conn.closeAfterSend = true
      · exact ⟨asked, rfl⟩
      · simp only [asked, Bool.false_eq_true, if_false, refreshIfChanged] at scheduled
        split at scheduled <;> simp at scheduled
    repeat' split at executed
    all_goals
      first
        | (cases executed
           simp only [refreshIfChanged] at scheduled
           first
             | (split at scheduled <;> simp at scheduled)
             | simp at scheduled)
        | simp at executed

/-! ## Every interleaving -/

/-- The invariant of the output. -/
structure FifoInvariant (system : System) : Prop where
  lossless : system.shared.conn.closed = false ->
    system.shared.wire ++ system.shared.conn.queue.bytes =
      system.shared.accepted.flatten
  in_order : system.shared.wire <+: system.shared.accepted.flatten
  closed_drained : system.shared.conn.closed = true ->
    system.shared.conn.queue.isEmpty = true
  asked_drained : ∀ index,
    Section.closeAfterSent ∈ (system.goroutine index).stack ->
      system.shared.conn.closeAfterSend = true ∧
        system.shared.conn.queue.isEmpty = true

theorem fifoInvariant_initial : FifoInvariant initial where
  lossless := fun _ => rfl
  in_order := List.prefix_rfl
  closed_drained := fun _ => rfl
  asked_drained := by
    intro index scheduled
    simp [initial] at scheduled

/-- A drained connection that was asked to close stays so. -/
theorem Transfer.keeps_asked
    {before after : World}
    (transfer : Transfer before after)
    (asked : before.conn.closeAfterSend = true ∧ before.conn.queue.isEmpty = true) :
    after.conn.closeAfterSend = true ∧ after.conn.queue.isEmpty = true :=
  ⟨transfer.keeps_closeAfterSend asked.1,
    (transfer.stays_drained (by simp [Connection.sendClosed, asked.1]) asked.2).1⟩

/-- The parts of the invariant that concern the shared state follow a
section's effect. -/
theorem FifoInvariant.of_effect
    {before after : System}
    (invariant : FifoInvariant before)
    (effect : Transfer before.shared after.shared ∨ Abandon before.shared after.shared)
    (asked : ∀ index,
      Section.closeAfterSent ∈ (after.goroutine index).stack ->
        after.shared.conn.closeAfterSend = true ∧ after.shared.conn.queue.isEmpty = true) :
    FifoInvariant after := by
  rcases effect with transfer | abandon
  · obtain ⟨data, line, grown⟩ := transfer.extends_line
    have lossless : after.shared.conn.closed = false ->
        after.shared.wire ++ after.shared.conn.queue.bytes = after.shared.accepted.flatten := by
      intro opened
      rw [line, grown, invariant.lossless (transfer.same_closed ▸ opened)]
    refine ⟨lossless, ?_, ?_, asked⟩
    · cases closed : after.shared.conn.closed with
      | false => exact ⟨_, lossless closed⟩
      | true =>
        have wasClosed := transfer.same_closed ▸ closed
        have unchanged := (transfer.stays_drained
          (by simp [Connection.sendClosed, wasClosed])
          (invariant.closed_drained wasClosed)).2
        rw [unchanged, grown]
        exact invariant.in_order.trans (List.prefix_append _ _)
    intro closed
    have wasClosed := transfer.same_closed ▸ closed
    exact (transfer.stays_drained
      (by simp [Connection.sendClosed, wasClosed])
      (invariant.closed_drained wasClosed)).1
  refine ⟨fun opened => ?_, ?_, fun _ => abandon.drained, asked⟩
  · rw [abandon.closed] at opened
    exact absurd opened (by simp)
  · rw [abandon.same_wire, abandon.same_accepted]
    exact invariant.in_order

/-- Sections still on a stack after a section ran were there before, or the
section pushed them. -/
theorem mem_stackOver
    {Shared Locals Section : Type}
    {outcome : Outcome Shared Locals Section}
    {rest : List Section}
    {pending : Section}
    (present : pending ∈ outcome.stackOver rest) :
    pending ∈ outcome.next ∨ pending ∈ rest := by
  unfold Outcome.stackOver at present
  split at present
  · exact .inl present
  · exact List.mem_append.mp present

theorem fifoInvariant_step
    {system next : System}
    {move : SystemMove}
    (invariant : FifoInvariant system)
    (taken : step config system move = some next) :
    FifoInvariant next := by
  have kept : ∀ {index : Nat} {outcome : Result} {rest : List Section},
      Transfer system.shared outcome.shared ∨ Abandon system.shared outcome.shared ->
      (Section.closeAfterSent ∈ outcome.next -> outcome.shared.conn.closeAfterSend = true ∧
          outcome.shared.conn.queue.isEmpty = true) ->
      (∀ pending ∈ rest, pending ∈ (system.goroutine index).stack) ->
      FifoInvariant (system.commit index outcome rest) := by
    intro index outcome rest effect pushes below
    have survives (other : Nat) (before : Section.closeAfterSent ∈ (system.goroutine other).stack) :
        outcome.shared.conn.closeAfterSend = true ∧ outcome.shared.conn.queue.isEmpty = true := by
      have asked := invariant.asked_drained other before
      rcases effect with transfer | abandon
      · exact transfer.keeps_asked asked
      · exact ⟨abandon.same_closeAfterSend ▸ asked.1, abandon.drained⟩
    refine invariant.of_effect effect fun other scheduled => ?_
    by_cases same : other = index
    · subst same
      rw [Pool.commit_self] at scheduled
      exact (mem_stackOver scheduled).elim pushes fun earlier => survives other (below _ earlier)
    · rw [Pool.commit_other _ _ _ same] at scheduled
      exact survives other scheduled
  cases step_cases taken with
  | ran index answer first rest outcome stack executed =>
    exact kept (exec_effect executed) (exec_schedules_closeAfterSent executed)
      fun pending present => by simp [stack, present]
  | started index first outcome idle entered =>
    have frame : outcome.shared.wire = system.shared.wire ∧
        outcome.shared.accepted = system.shared.accepted ∧
        outcome.shared.conn = system.shared.conn ∧
        Section.closeAfterSent ∉ outcome.next := by
      simp only [program, entry, continueWith] at entered
      repeat' split at entered
      all_goals
        first
          | (cases entered
             simp)
          | simp at entered
    obtain ⟨sameWire, sameAccepted, sameConn, notPushed⟩ := frame
    exact kept
      (.inl (.of_frame sameWire sameAccepted (by rw [sameConn])
        (by rw [sameConn]) (by rw [sameConn]; exact id)))
      (fun scheduled => absurd scheduled notPushed) (by simp)
  | acted event shared acted =>
    have frame : shared.wire = system.shared.wire ∧ shared.accepted = system.shared.accepted ∧
        shared.conn = system.shared.conn := by
      cases event with
      | arrive n =>
        cases acted
        simp
      | room =>
        simp only [program, socketEvent] at acted
        split at acted
        · cases acted
          simp
        · simp at acted
    obtain ⟨sameWire, sameAccepted, sameConn⟩ := frame
    refine invariant.of_effect
      (.inl (.of_frame sameWire sameAccepted (by rw [sameConn])
        (by rw [sameConn]) (by rw [sameConn]; exact id))) ?_
    intro index scheduled
    rw [sameConn]
    exact invariant.asked_drained index scheduled

/-- In every interleaving of the send calls, the rounds of workers and the
flushes, the socket has accepted a prefix of the data of the accepted calls in
lock order; while the connection is open the rest of that data is what the
queue still represents; and the close `CloseAfterSend` asks for is made only
when the queue is empty. -/
theorem output_is_fifo_and_lossless
    (config : Config)
    (moves : List SystemMove)
    {system : System}
    (reached : Transition.run (step config) initial moves = some system) :
    system.shared.wire <+: system.shared.accepted.flatten ∧ (system.shared.conn.closed = false ->
        system.shared.wire ++ system.shared.conn.queue.bytes = system.shared.accepted.flatten) ∧
      ∀ index rest,
        (system.goroutine index).stack = .closeAfterSent :: rest ->
          system.shared.conn.queue.isEmpty = true := by
  have invariant : FifoInvariant system :=
    Transition.run_invariant (fun _ _ _ holds taken => fifoInvariant_step holds taken)
      fifoInvariant_initial reached
  refine ⟨invariant.in_order, invariant.lossless, ?_⟩
  intro index rest stack
  exact (invariant.asked_drained index (by simp [stack])).2

/-- Two sends and a file, the first cut short by the socket and the rest
flushed in two writes, followed by the close that was asked for. -/
def sampleMoves : List SystemMove :=
  [.start 1 (.send [1, 2, 3] true), .run 1 { sys := .took 1 },
    .start 2 (.sendParts [4] [5]), .run 2 { capacity := 64 },
    .start 3 (.sendFile { content := [6, 7, 8], offset := 1, remaining := 2 }),
    .run 3 {},
    .start 1 .closeAfterSendRaw, .run 1 {},
    .env .room, .start 0 (.noteEvent { evOut := true }), .run 0 {},
    .start 0 .resumeBudgetPaused, .run 0 {}, .run 0 {},
    .start 4 (.process {}), .run 4 {}, .run 4 {}, .run 4 {},
    .run 4 { sys := .took 4 }, .run 4 { sys := .took 2 }, .run 4 {}]

theorem output_is_fifo_and_lossless_sample :
    ∃ system, Transition.run (step defaultConfig) initial sampleMoves = some system ∧
      (system.goroutine 4).stack = [.closeAfterSent, .roundPri { evOut := true }] ∧
      system.shared.wire = [1, 2, 3, 4, 5, 7, 8] ∧
      system.shared.wire <+: system.shared.accepted.flatten ∧
      system.shared.conn.queue.isEmpty = true := by
  refine ⟨_, rfl, rfl, rfl, ?_, ?_⟩
  · exact (output_is_fifo_and_lossless defaultConfig sampleMoves rfl).1
  · exact (output_is_fifo_and_lossless defaultConfig sampleMoves rfl).2.2 4 _ rfl

end Engine
end Fib
