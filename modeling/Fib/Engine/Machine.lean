import Fib.Engine.Connection

/-!
# Rounds of a worker, the event loop, and all interleavings

`process` runs rounds: it takes the accumulated readiness, flushes before it
reads, defers a read while output is queued, and gives the connection up once
nothing but deferred readiness is left.  The event loop notes readiness,
carries out commands and hands runnable connections to the pool.

Goroutine `0` is the event loop.  Every other goroutine may begin a call of
the interface or a task of the pool.  A call that a handler makes from
`OnData` is a call of another goroutine that ends before `OnData` returns.
-/

namespace Fib
namespace Engine

open Goroutines

/-! ## The rounds of a worker -/

/-- The head of the loop of `process`. -/
def process
    (deferred : Events)
    (world : World)
    (locals : Locals) : Option Result :=
  let c := world.conn
  let events := c.pendingEvents.union deferred
  if events = deferred then
    continueWith
      { world with
        conn := { c with pendingEvents := events, scheduled := false } }
      locals []
  else
    continueWith { world with conn := { c with pendingEvents := {} } }
      { alive := !(c.closed || c.closing), err := none } [.roundOut events]

/-- Flush before reading. -/
def roundOut
    (events : Events)
    (world : World)
    (locals : Locals) : Option Result :=
  continueWith world locals
    (if locals.usable && events.evOut && !world.conn.queue.isEmpty then
      [.flushOutput, .roundPri events]
    else
      [.roundPri events])

/-- Urgent data comes before ordinary data. -/
def roundPri
    (events : Events)
    (world : World)
    (locals : Locals) : Option Result :=
  continueWith world locals
    (if locals.usable && events.evPri then
      [.recvOOB, .roundIn events]
    else
      [.roundIn events])

/-- `drainPriorityInput`. -/
def recvOOB
    (answer : Answer)
    (world : World)
    (locals : Locals) : Option Result :=
  match answer.sys with
  | .took _ => continueWith world locals [.onPriorityData, .recvOOB]
  | .interrupted => continueWith world locals [.recvOOB]
  | .again => continueWith world locals []
  | .eof => continueWith world (locals.fail .eof) []
  | .failed code => continueWith world (locals.fail (.errno code)) []

/-- The deferred part of the readiness of a round that finds output queued:
the read, and the half-close that arrived with it. -/
def deferredRead (events : Events) : Events :=
  { evIn := true, evRdHup := events.evRdHup }

/-- Read unless output is queued, in which case the read is deferred. -/
def roundIn
    (events : Events)
    (world : World)
    (locals : Locals) : Option Result :=
  continueWith world locals
    (if locals.usable && events.evIn then
      if !world.conn.queue.isEmpty then
        [.roundEnd events (deferredRead events)]
      else
        [.cork, .read, .uncork, .roundEnd events {}]
    else
      [.roundEnd events {}])

/-- The half-close or hang-up that the round acts on. -/
def hangsUp (events deferred : Events) : Bool :=
  events.evHup || (events.evRdHup && !deferred.evRdHup)

/-- A socket error or a hang-up ends a round that is still usable. -/
def roundError
    (events deferred : Events)
    (answer : Answer)
    (locals : Locals) : Locals :=
  if locals.usable && events.evErr then
    locals.fail (match answer.sys with
      | .failed code => .errno code
      | _ => .errno 104)
  else if locals.usable && hangsUp events deferred then
    locals.fail .eof
  else
    locals

/-- The end of a round, which closes the connection if it is not alive. -/
def roundEnd
    (events deferred : Events)
    (answer : Answer)
    (world : World)
    (locals : Locals) : Option Result :=
  let ended := roundError events deferred answer locals
  continueWith world ended
    (if ended.usable then [.process deferred]
    else [.closeWithError ended.err, .process deferred])

/-- The section of `drainInput` before the read loop. -/
def cork
    (world : World)
    (locals : Locals) : Option Result :=
  continueWith
    { world with
      conn := { world.conn with corked := true, readStalled := false } }
    locals []

section

variable (config : Config)

/-- One read of `readLoop`.  A read takes what the socket holds, up to the
size of the buffer. -/
def read
    (answer : Answer)
    (world : World)
    (locals : Locals) : Option Result :=
  match answer.sys with
  | .took n =>
    if 0 < n ∧ n = min world.unread config.readBufferSize then
      continueWith { world with unread := world.unread - n } locals
        [.onData, .watermark n]
    else none
  | .interrupted => continueWith world locals [.read]
  | .again => if world.unread = 0 then continueWith world locals [] else none
  | .eof =>
    if world.unread = 0 then continueWith world (locals.fail .eof) []
    else none
  | .failed code => continueWith world (locals.fail (.errno code)) []

/-- A callback of the handler. -/
def callback
    (answer : Answer)
    (world : World)
    (locals : Locals) : Option Result :=
  if answer.panics then
    some { shared := world, locals := locals, next := [.recovered],
           unwind := true }
  else
    continueWith world locals []

/-- `overWriteWatermark`. -/
def overWriteWatermark
    (answer : Answer)
    (c : Connection) : Bool :=
  (pauseDecision config answer.pendingTotal c.pendingBytes false).1

/-- A short read has emptied the socket; a full one is followed by another. -/
def readOn (n : Nat) : List Section :=
  if n < config.readBufferSize then [] else [.read]

/-- After `OnData`: flush once the replies fill the write budget. -/
def watermark
    (n : Nat)
    (answer : Answer)
    (world : World)
    (locals : Locals) : Option Result :=
  continueWith world locals
    (if overWriteWatermark config answer world.conn then
      [.uncork, .watermarkAgain n]
    else
      readOn config n)

/-- After that flush: stop reading if the peer is behind. -/
def watermarkAgain
    (n : Nat)
    (answer : Answer)
    (world : World)
    (locals : Locals) : Option Result :=
  continueWith world locals
    (if locals.err.isSome then
      []
    else if overWriteWatermark config answer world.conn then
      [.stall, .request .refresh]
    else
      [.recork n])

/-- Record that a read round stopped early. -/
def stall
    (world : World)
    (locals : Locals) : Option Result :=
  continueWith
    { world with conn := { world.conn with readStalled := true } } locals []

/-- Cork again and read on. -/
def recork
    (n : Nat)
    (world : World)
    (locals : Locals) : Option Result :=
  continueWith { world with conn := { world.conn with corked := true } }
    locals (readOn config n)

/-- Give up ownership before closing. -/
def unschedule
    (err : Option Err)
    (world : World)
    (locals : Locals) : Option Result :=
  continueWith
    { world with conn := { world.conn with scheduled := false } } locals
    [.closeWithError err]

/-! ## The event loop -/

/-- `noteEvent` on the connection: the new state, and whether it has to be
submitted. -/
def Connection.noteEvent
    (c : Connection)
    (events : Events) : Connection × Bool :=
  if c.closing || c.closed then (c, false)
  else if events = {} then (c, false)
  else if events = { evOut := true } ∧ c.queue.isEmpty = true ∧
      c.pendingEvents = {} then (c, false)
  else
    ({ c with
        pendingEvents := c.pendingEvents.union events
        scheduled := true },
      !c.scheduled)

/-- The loop notes an event, which delivers its edges. -/
def noteEvent
    (events : Events)
    (world : World)
    (locals : Locals) : Option Result :=
  let noted := world.conn.noteEvent events
  continueWith
    { world with
      conn := noted.1
      readEdge := world.readEdge && !events.evIn
      writeEdge := world.writeEdge && !events.evOut
      ready := world.ready + noted.2.toNat }
    locals []

/-- The section a command is carried out by. -/
def commandSection : Command -> Section
  | .refresh => .refreshConnection
  | .close err => .closeConnection err

/-- `drainCommands` takes the batch and carries it out in order. -/
def drainCommands
    (world : World)
    (locals : Locals) : Option Result :=
  continueWith { world with commands := [] } locals
    (world.commands.map commandSection)

/-- `refreshConnection`. -/
def refreshConnection
    (answer : Answer)
    (world : World)
    (locals : Locals) : Option Result :=
  let c := world.conn
  let usable := !c.closing && !c.closed
  let decision :=
    pauseDecision config answer.pendingTotal c.pendingBytes c.readPaused
  let pauseReads := decision.1
  let changed := c.readPaused != pauseReads
  let track := usable && pauseReads && decision.2 && !c.budgetPaused
  let settled := c.readStalled && !pauseReads
  continueWith
    { world with
      conn :=
        { c with
          readPaused := pauseReads
          budgetPaused := pauseReads && (c.budgetPaused || track)
          readStalled := c.readStalled && !settled }
      budgetEntries := world.budgetEntries + track.toNat }
    locals
    ((if settled && usable && !changed then [.redeliverRead] else []) ++
      (if usable && changed then [.setReadPaused pauseReads] else []))

/-- `refreshConnection` hands a stalled read back. -/
def redeliverRead
    (world : World)
    (locals : Locals) : Option Result :=
  let noted := world.conn.noteEvent { evIn := true }
  continueWith
    { world with
      conn := noted.1
      redeliver := world.redeliver + noted.2.toNat }
    locals []

/-- `setReadPaused`.  Arming read interest reports bytes already waiting. -/
def setReadPaused
    (paused : Bool)
    (answer : Answer)
    (world : World)
    (locals : Locals) : Option Result :=
  match answer.sys with
  | .failed code => closeWithError (some (.errno code)) world locals
  | _ =>
    continueWith
      { world with
        readArmed := !paused
        readEdge := world.readEdge || !paused }
      locals []

/-- `closeConnection`, which abandons the queue. -/
def closeConnection
    (world : World)
    (locals : Locals) : Option Result :=
  let c := world.conn
  if c.closed then
    continueWith world locals []
  else
    continueWith
      { world with
        conn :=
          { c with
            closed := true
            closing := true
            queue := .empty
            budgetPaused := false
            pendingBytes := 0 } }
      locals []

/-- `resumeBudgetPaused` walks the list once the budget has recovered. -/
def resumeBudgetPaused
    (answer : Answer)
    (world : World)
    (locals : Locals) : Option Result :=
  if config.budgetResumeBytes < answer.pendingTotal then
    continueWith world locals []
  else
    continueWith { world with budgetEntries := 0 } locals
      (List.replicate world.budgetEntries .resumeOne)

/-- One connection of that list. -/
def resumeOne
    (world : World)
    (locals : Locals) : Option Result :=
  continueWith
    { world with conn := { world.conn with budgetPaused := false } } locals
    [.refreshConnection]

/-- `runReady` hands the runnable connections to the pool. -/
def submitReady
    (answer : Answer)
    (world : World)
    (locals : Locals) : Option Result :=
  let runnable := world.ready + world.redeliver
  let emptied := { world with ready := 0, redeliver := 0 }
  if answer.refuses then
    continueWith emptied locals (List.replicate runnable .refused)
  else
    continueWith { emptied with tasks := world.tasks + runnable } locals []

/-! ## All interleavings -/

/-- The code of every section. -/
def exec :
    Section -> Answer -> World -> Locals -> Option Result
  | .send data copyData, answer, world, locals =>
    send config data copyData answer world locals
  | .sendParts first second, answer, world, locals =>
    sendParts config first second answer world locals
  | .sendFile segment, _, world, locals => sendFile segment world locals
  | .closeAfterSendRaw, _, world, locals => closeAfterSendRaw world locals
  | .closeWithError err, _, world, locals => closeWithError err world locals
  | .closeAfterSent, _, world, locals => closeWithError none world locals
  | .request command, _, world, locals =>
    continueWith { world with commands := world.commands ++ [command] }
      locals []
  | .uncork, _, world, locals => uncork world locals
  | .flushOutput, _, world, locals => flushOutput world locals
  | .flushStep, answer, world, locals => flushStep config answer world locals
  | .closeOnError, _, world, locals =>
    if locals.err.isSome then closeWithError locals.err world locals
    else continueWith world locals []
  | .returnFlush, _, world, locals =>
    continueWith
      { world with
        flushFailed := world.flushFailed || locals.err.isSome }
      locals []
  | .process deferred, _, world, locals => process deferred world locals
  | .roundOut events, _, world, locals => roundOut events world locals
  | .roundPri events, _, world, locals => roundPri events world locals
  | .roundIn events, _, world, locals => roundIn events world locals
  | .roundEnd events deferred, answer, world, locals =>
    roundEnd events deferred answer world locals
  | .recvOOB, answer, world, locals => recvOOB answer world locals
  | .onPriorityData, answer, world, locals => callback answer world locals
  | .cork, _, world, locals => cork world locals
  | .read, answer, world, locals => read config answer world locals
  | .onData, answer, world, locals => callback answer world locals
  | .watermark n, answer, world, locals =>
    watermark config n answer world locals
  | .watermarkAgain n, answer, world, locals =>
    watermarkAgain config n answer world locals
  | .stall, _, world, locals => stall world locals
  | .recork n, _, world, locals => recork config n world locals
  | .recovered, _, world, locals =>
    unschedule (some .handlerPanic) world locals
  | .noteEvent events, _, world, locals => noteEvent events world locals
  | .drainCommands, _, world, locals => drainCommands world locals
  | .refreshConnection, answer, world, locals =>
    refreshConnection config answer world locals
  | .redeliverRead, _, world, locals => redeliverRead world locals
  | .setReadPaused paused, answer, world, locals =>
    setReadPaused paused answer world locals
  | .closeConnection _, _, world, locals => closeConnection world locals
  | .resumeBudgetPaused, answer, world, locals =>
    resumeBudgetPaused config answer world locals
  | .resumeOne, _, world, locals => resumeOne world locals
  | .submitReady, answer, world, locals => submitReady answer world locals
  | .refused, _, world, locals => unschedule none world locals

/-- What an idle goroutine may begin: the event loop a part of its round, any
other goroutine a call of the interface or a task of the pool. -/
def entry
    (index : Nat)
    (first : Section)
    (world : World) : Option Result :=
  if index = 0 then
    match first with
    | .noteEvent events => continueWith world {} [.noteEvent events]
    | .drainCommands => continueWith world {} [.drainCommands]
    | .resumeBudgetPaused =>
      continueWith world {} [.resumeBudgetPaused, .submitReady]
    | _ => none
  else
    match first with
    | .send data copyData => continueWith world {} [.send data copyData]
    | .sendParts first second => continueWith world {} [.sendParts first second]
    | .sendFile segment => continueWith world {} [.sendFile segment]
    | .uncork => continueWith world {} [.uncork, .returnFlush]
    | .closeAfterSendRaw => continueWith world {} [.closeAfterSendRaw]
    | .closeWithError err => continueWith world {} [.closeWithError err]
    | .process deferred =>
      if 0 < world.tasks ∧ deferred = {} then
        continueWith { world with tasks := world.tasks - 1 } {} [.process {}]
      else none
    | _ => none

/-- What happens to the socket on its own. -/
inductive SocketEvent
  /-- Bytes arrive from the peer. -/
  | arrive (n : Nat)
  /-- A full socket has room again. -/
  | room
  deriving DecidableEq, Repr

/-- The environment: bytes that arrive raise a read edge while read interest
is armed, and a socket that was full raises one write edge. -/
def socketEvent : SocketEvent -> World -> Option World
  | .arrive n, world =>
    some { world with
      unread := world.unread + n
      readEdge := world.readEdge || (world.readArmed && decide (0 < n)) }
  | .room, world =>
    if world.full then
      some { world with full := false, writeEdge := true }
    else none

/-- The engine's code for one connection. -/
def program :
    Program World Locals Section Answer SocketEvent where
  exec := exec config
  entry := entry
  env := socketEvent

/-- One step of any goroutine or of the socket. -/
def step :=
  Goroutines.step (program config)

end

/-- The goroutines and the connection they share. -/
abbrev System := Pool World Locals Section

/-- A move of the system. -/
abbrev SystemMove := Move Section Answer SocketEvent

/-- A connection right after it was registered, with every goroutine idle. -/
def initial : System where
  shared := {}
  goroutine := fun _ => { stack := [], locals := {} }

/-- What `newEngine` makes of the default configuration. -/
def defaultConfig : Config where
  useWritev := true
  writeHighWatermark := 65536
  writeLowWatermark := 16384
  maxPendingBytes := 1073741824
  budgetResumeBytes := 268435456
  readBufferSize := 16384
  readBufferSize_pos := by decide

end Engine
end Fib
