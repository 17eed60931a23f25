import Fib.Engine.SendQueue
import Fib.Library.Goroutine

/-!
# A stream connection and the goroutines that share it

The state of one connection of a readiness backend, as its mutex guards it,
with the socket below it and the part of the event loop that concerns it.
Every section of code that runs under the connection's mutex, every request
to the loop's command queue and every system call made outside the mutex is
one atomic section; a call of the interface or a round of a worker is the
stack of its sections.

The connection is a stream without a layer, so `Send`, `SendOwned` and
`SendParts` reach the socket directly.  The budget counter `pendingTotal` is
shared with all other connections of the engine; the value a section loads
from it is an answer of the environment.
-/

namespace Fib
namespace Engine

/-- The readiness bits a connection accumulates between rounds. -/
structure Events where
  evIn : Bool := false
  evPri : Bool := false
  evOut : Bool := false
  evErr : Bool := false
  evHup : Bool := false
  evRdHup : Bool := false
  deriving DecidableEq, Repr

namespace Events

/-- Bitwise or. -/
def union (first second : Events) : Events where
  evIn := first.evIn || second.evIn
  evPri := first.evPri || second.evPri
  evOut := first.evOut || second.evOut
  evErr := first.evErr || second.evErr
  evHup := first.evHup || second.evHup
  evRdHup := first.evRdHup || second.evRdHup

@[simp] theorem union_evIn (first second : Events) :
    (first.union second).evIn = (first.evIn || second.evIn) := rfl

@[simp] theorem union_evOut (first second : Events) :
    (first.union second).evOut = (first.evOut || second.evOut) := rfl

end Events

/-- Why a connection is closed or a call fails. -/
inductive Err
  | eof
  | epipe
  | unexpectedEOF
  | errno (code : Nat)
  | handlerPanic
  deriving DecidableEq, Repr

/-- What a goroutine asks of the event loop for this connection. -/
inductive Command
  | refresh
  | close (err : Option Err)
  deriving DecidableEq, Repr

/-- The engine's configuration, as `newEngine` leaves it. -/
structure Config where
  useWritev : Bool
  writeHighWatermark : Int
  writeLowWatermark : Int
  maxPendingBytes : Int
  budgetResumeBytes : Int
  readBufferSize : Nat
  readBufferSize_pos : 0 < readBufferSize

/-- `pauseDecision`: whether reads should be paused, and whether the
server-wide budget is what forces it. -/
def pauseDecision
    (config : Config)
    (pendingTotal pendingBytes : Int)
    (readPaused : Bool) : Bool × Bool :=
  if 0 < config.maxPendingBytes ∧ config.maxPendingBytes ≤ pendingTotal then
    (true, true)
  else if config.writeHighWatermark ≤ 0 then
    (false, false)
  else if config.writeHighWatermark ≤ pendingBytes then
    (true, false)
  else
    (readPaused && decide (config.writeLowWatermark < pendingBytes), false)

/-- The fields of `Connection` that its mutex guards, and `pendingBytes`. -/
structure Connection where
  pendingEvents : Events := {}
  queue : SendQueue := .empty
  scheduled : Bool := false
  closing : Bool := false
  closed : Bool := false
  readPaused : Bool := false
  budgetPaused : Bool := false
  readStalled : Bool := false
  flushing : Bool := false
  corked : Bool := false
  closeAfterSend : Bool := false
  pendingBytes : Int := 0

namespace Connection

section

variable (c : Connection)

/-- `canWriteDirectlyLocked`. -/
def canWriteDirectlyLocked : Bool :=
  c.queue.isEmpty && !c.flushing && !c.corked

/-- The connection has stopped accepting sends. -/
def sendClosed : Bool :=
  c.closing || c.closed || c.closeAfterSend

/-- The connection is neither closed nor about to be. -/
def isOpen : Bool :=
  !c.closing && !c.closed

/-- `pauseStateChangedLocked`. -/
def pauseStateChangedLocked
    (config : Config)
    (pendingTotal : Int) : Bool :=
  (pauseDecision config pendingTotal c.pendingBytes c.readPaused).1
    != c.readPaused

/-- `addPending` on the connection's own counter. -/
def addPending (n : Nat) : Connection :=
  { c with pendingBytes := c.pendingBytes + n }

/-- `subPending` on the connection's own counter, which it clamps at zero. -/
def subPending (n : Nat) : Connection :=
  { c with pendingBytes := max 0 (c.pendingBytes - n) }

end

end Connection

/-- The connection with its socket, what the event loop holds for it, and the
history of what was accepted. -/
structure World where
  conn : Connection := {}
  /-- Bytes in the socket that no read has taken. -/
  unread : Nat := 0
  /-- A read edge not yet delivered. -/
  readEdge : Bool := false
  /-- Read interest is registered. -/
  readArmed : Bool := true
  /-- A write stopped short or met EAGAIN, and the socket has no room yet. -/
  full : Bool := false
  /-- A write edge not yet delivered. -/
  writeEdge : Bool := false
  /-- The bytes the socket has accepted. -/
  wire : Bytes := []
  /-- The data of the accepted calls, in lock order. -/
  accepted : List Bytes := []
  commands : List Command := []
  /-- Entries of this connection in the loop's ready and redeliver lists. -/
  ready : Nat := 0
  redeliver : Nat := 0
  /-- Tasks of this connection in the pool that no worker has begun. -/
  tasks : Nat := 0
  /-- Entries of this connection in the loop's list of budget pauses. -/
  budgetEntries : Nat := 0
  /-- A write error was returned to a caller of `Flush`, which does not close
  the connection. -/
  flushFailed : Bool := false

/-- The local variables `alive` and `closeErr` of a round, or the error a
call is about to return. -/
structure Locals where
  alive : Bool := true
  err : Option Err := none
  deriving DecidableEq, Repr

/-- The round has met no reason to stop. -/
def Locals.usable (locals : Locals) : Bool :=
  locals.alive && locals.err.isNone

/-- Keep the first error. -/
def Locals.fail
    (locals : Locals)
    (err : Err) : Locals :=
  { locals with err := some (locals.err.getD err) }

/-- The atomic sections. -/
inductive Section
  | send (data : Bytes) (copyData : Bool)
  | sendParts (first second : Bytes)
  | sendFile (segment : FileSegment)
  | closeAfterSendRaw
  | closeWithError (err : Option Err)
  /-- The close that `CloseAfterSend` asked for. -/
  | closeAfterSent
  | request (command : Command)
  | uncork
  | flushOutput
  | flushStep
  /-- `SendFile` after its flush. -/
  | closeOnError
  /-- `Flush` after its flush. -/
  | returnFlush
  /-- The head of the loop of `process`. -/
  | process (deferred : Events)
  | roundOut (events : Events)
  | roundPri (events : Events)
  | roundIn (events : Events)
  | roundEnd (events deferred : Events)
  | recvOOB
  | onPriorityData
  | cork
  | read
  | onData
  | watermark (n : Nat)
  | watermarkAgain (n : Nat)
  | stall
  | recork (n : Nat)
  /-- The recovery of `process` from a handler panic. -/
  | recovered
  | noteEvent (events : Events)
  | drainCommands
  | refreshConnection
  | redeliverRead
  | setReadPaused (paused : Bool)
  | closeConnection (err : Option Err)
  | resumeBudgetPaused
  | resumeOne
  | submitReady
  /-- `submitReady` on a task the pool refused. -/
  | refused
  deriving DecidableEq

/-- What a system call on the socket returns. -/
inductive SysAnswer
  | took (n : Nat)
  | again
  | interrupted
  | failed (code : Nat)
  | eof
  deriving DecidableEq, Repr

/-- Everything the environment decides in one section. -/
structure Answer where
  sys : SysAnswer := .again
  /-- The value of the budget counter. -/
  pendingTotal : Int := 0
  /-- The capacity a new pooled buffer grows to. -/
  capacity : Nat := 0
  /-- Sendfile has refused the file, so it is copied; `staged` is what one
  read of it returns. -/
  copied : Bool := false
  staged : Nat := 0
  /-- Sendfile was interrupted after sending a part. -/
  interruptedAfter : Bool := false
  /-- The handler panics. -/
  panics : Bool := false
  /-- The pool refuses the task. -/
  refuses : Bool := false
  deriving DecidableEq, Repr

/-- The result of a section of this model. -/
abbrev Result := Goroutines.Outcome World Locals Section

/-- A section that continues its caller after a change of the world. -/
def continueWith
    (world : World)
    (locals : Locals)
    (next : List Section) : Option Result :=
  some { shared := world, locals := locals, next := next }

/-! ## Send calls -/

section

variable (config : Config)

/-- Ask for a refresh when queued output has crossed a watermark. -/
def refreshIfChanged
    (answer : Answer)
    (c : Connection) : List Section :=
  if c.pauseStateChangedLocked config answer.pendingTotal then
    [.request .refresh]
  else
    []

/-- The section the send calls share.  `offered` is the data of the call and
`enqueue` queues what is left of it after a direct write took some. -/
def sendWith
    (offered : Bytes)
    (enqueue : Nat -> Nat -> SendQueue -> SendQueue)
    (answer : Answer)
    (world : World)
    (locals : Locals) : Option Result :=
  let c := world.conn
  let queueAfter (sent : Nat) (blocked : Bool) : Option Result :=
    let queued := { c with queue := enqueue sent answer.capacity c.queue }
      |>.addPending (offered.length - sent)
    continueWith
      { world with
        conn := queued
        full := world.full || blocked
        wire := world.wire ++ offered.take sent
        accepted := world.accepted ++ [offered] }
      locals
      (if queued.corked then []
        else refreshIfChanged config answer queued)
  if offered = [] then
    continueWith world locals []
  else if c.sendClosed then
    continueWith world (locals.fail .epipe) []
  else if c.canWriteDirectlyLocked then
    match answer.sys with
    | .took n =>
      if 0 < n ∧ n < offered.length then queueAfter n true
      else if n = offered.length then
        continueWith
          { world with
            wire := world.wire ++ offered
            accepted := world.accepted ++ [offered] }
          locals []
      else none
    | .again => queueAfter 0 true
    | .failed code =>
      continueWith world (locals.fail (.errno code))
        [.closeWithError (some (.errno code))]
    -- An interrupted write is repeated in the same section.
    | .interrupted | .eof => none
  else
    queueAfter 0 false

/-- `send` on a stream. -/
def send
    (data : Bytes)
    (copyData : Bool) :
    Answer -> World -> Locals -> Option Result :=
  sendWith config data fun sent capacity queue =>
    if copyData then queue.queueLocked (data.drop sent) [] capacity
    else queue.queueOwnedLocked (data.drop sent)

/-- `SendParts` on a stream. -/
def sendParts (first second : Bytes) :
    Answer -> World -> Locals -> Option Result :=
  sendWith config (first ++ second) fun sent capacity queue =>
    if sent < first.length then
      queue.queueLocked (first.drop sent) second capacity
    else
      queue.queueLocked (second.drop (sent - first.length)) [] capacity

/-- The section of `SendFile` that queues the range. -/
def sendFile
    (segment : FileSegment)
    (world : World)
    (locals : Locals) : Option Result :=
  let c := world.conn
  if segment.remaining = 0 then
    continueWith world locals []
  else if c.sendClosed then
    continueWith world (locals.fail .epipe) []
  else
    continueWith
      { world with
        conn := { c with queue := c.queue.queueFile segment }
        accepted := world.accepted ++ [segment.bytes] }
      locals
      (if c.canWriteDirectlyLocked then [.flushOutput, .closeOnError] else [])

/-- `closeAfterSendRaw`. -/
def closeAfterSendRaw
    (world : World)
    (locals : Locals) : Option Result :=
  let c := world.conn
  if c.sendClosed then
    continueWith world locals []
  else
    continueWith { world with conn := { c with closeAfterSend := true } }
      locals
      (if c.queue.isEmpty && !c.flushing then [.closeAfterSent] else [])

/-- `closeWithError`. -/
def closeWithError
    (err : Option Err)
    (world : World)
    (locals : Locals) : Option Result :=
  let c := world.conn
  continueWith { world with conn := { c with closing := true } } locals
    (if c.closing || c.closed then [] else [.request (.close err)])

/-! ## Flushing -/

/-- `uncork`. -/
def uncork
    (world : World)
    (locals : Locals) : Option Result :=
  let c := world.conn
  continueWith { world with conn := { c with corked := false } } locals
    (if c.corked && !c.queue.isEmpty then [.flushOutput] else [])

/-- The section of `flushOutput` that claims the flush. -/
def flushOutput
    (world : World)
    (locals : Locals) : Option Result :=
  let c := world.conn
  if c.closing || c.closed then
    continueWith world (locals.fail .epipe) []
  else if c.flushing then
    continueWith world locals []
  else
    continueWith { world with conn := { c with flushing := true } } locals
      [.flushStep]

/-- What one system call of a flush did: how much the socket took of the
`offered` bytes, how much was `attempted`, or why it took nothing. -/
inductive Written
  | took (n attempted : Nat)
  | again
  | interrupted
  | failed (err : Err)
  deriving DecidableEq, Repr

/-- The largest range one sendfile call is given. -/
def maxSendFileCall : Nat := 1 <<< 30

/-- How much of a file one read stages when it has to be copied. -/
def sendFileChunk : Nat := 64 <<< 10

/-- `sysSendFileLocked` on the file at the head of the queue. -/
def sysSendFileLocked
    (segment : FileSegment)
    (answer : Answer) : Option Written :=
  let available := segment.bytes.length
  if answer.copied then
    if available = 0 then some (.failed .unexpectedEOF)
    else if 0 < answer.staged ∧ answer.staged ≤ min available sendFileChunk then
      match answer.sys with
      | .took n =>
        if 0 < n ∧ n ≤ answer.staged then some (.took n answer.staged)
        else none
      | .again => some .again
      | .interrupted => some .interrupted
      | .failed code => some (.failed (.errno code))
      | .eof => none
    else
      match answer.sys with
      | .failed code => some (.failed (.errno code))
      | _ => none
  else
    let attempted := min segment.remaining maxSendFileCall
    match answer.sys with
    | .took n =>
      if 0 < n ∧ n ≤ min available attempted then
        some (.took n (if answer.interruptedAfter then n else attempted))
      else none
    | .again => some .again
    | .failed code => some (.failed (.errno code))
    | .eof => if available = 0 then some (.failed .unexpectedEOF) else none
    -- An interrupted call that sent nothing is repeated in the same section.
    | .interrupted => none

/-- A write or writev of memory. -/
def sysWriteLocked
    (offered : Bytes)
    (answer : Answer) : Option Written :=
  match answer.sys with
  | .took n =>
    if 0 < n ∧ n ≤ offered.length then some (.took n offered.length)
    else none
  | .again => some .again
  | .interrupted => some .interrupted
  | .failed code => some (.failed (.errno code))
  | .eof => none

/-- Sendfile takes no more than the file holds. -/
theorem sysSendFileLocked_took
    {segment : FileSegment}
    (sent : sysSendFileLocked segment answer = some (.took n attempted)) :
    n ≤ segment.bytes.length := by
  unfold sysSendFileLocked at sent
  grind

theorem sysWriteLocked_took
    (sent : sysWriteLocked offered answer = some (.took n attempted)) :
    n ≤ offered.length := by
  unfold sysWriteLocked at sent
  grind

/-- The system call of one iteration of a flush, with what it offers to the
socket and whether that comes straight from a file. -/
def flushCall
    (queue : SendQueue)
    (answer : Answer) : Option (Bytes × Bool × Written) :=
  match queue.items.head?.bind (·.file) with
  | some segment =>
    (sysSendFileLocked segment answer).map
      fun written => (segment.bytes, true, written)
  | none =>
    let offered := queue.writeBatch config.useWritev
    (sysWriteLocked offered answer).map
      fun written => (offered, false, written)

/-- One iteration of the loop of `flushOutput`. -/
def flushStep
    (answer : Answer)
    (world : World)
    (locals : Locals) : Option Result :=
  let c := world.conn
  if c.queue.isEmpty then
    let drained :=
      { c with queue := c.queue.rewindQueueLocked, flushing := false }
    continueWith { world with conn := drained } locals
      (if c.closeAfterSend then [.closeAfterSent]
        else refreshIfChanged config answer drained)
  else
    match flushCall config c.queue answer with
    | none => none
    | some (offered, fromFile, .took n attempted) =>
      let counted := if fromFile then c else c.subPending n
      let consumed := { counted with queue := c.queue.consumeLocked n }
      let taken :=
        { world with conn := consumed, wire := world.wire ++ offered.take n }
      if n < attempted then
        let stopped := { consumed with flushing := false }
        continueWith { taken with conn := stopped, full := true } locals
          (refreshIfChanged config answer stopped)
      else
        continueWith taken locals [.flushStep]
    | some (_, _, .interrupted) => continueWith world locals [.flushStep]
    | some (_, _, .again) =>
      let stopped := { c with flushing := false }
      continueWith { world with conn := stopped, full := true } locals
        (refreshIfChanged config answer stopped)
    | some (_, _, .failed err) =>
      continueWith { world with conn := { c with flushing := false } }
        (locals.fail err) []

end

end Engine
end Fib
