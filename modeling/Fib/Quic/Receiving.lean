import Fib.Library.Bytes
import Fib.Library.Transition
import Mathlib.Logic.Function.Basic

/-!
# The receiving half of a connection

A stream is put together from data that arrives in any order.  What the peer
has sent is charged to the connection, and what has been read, or thrown away,
is credited; a stream is forgotten once both of its sides are done.  Of the
sending half there is only whether the sending side of a stream is done, which
it may become at any time.  A frame that is an error ends the run.
-/

namespace Fib
namespace Quic

/-! ## The receive buffer -/

/-- Received data that waits for what comes before it. -/
structure Segment where
  off : Nat
  data : Bytes

/-- A stream as it arrives, delivered up to `offset`. -/
structure RecvBuffer where
  offset : Nat := 0
  segments : List Segment := []
  buffered : Nat := 0

namespace RecvBuffer

/-- Put a segment behind those that do not start after it. -/
def place (segment : Segment) : List Segment -> List Segment
  | [] => [segment]
  | first :: rest =>
    if segment.off < first.off then segment :: first :: rest
    else first :: place segment rest

/-- Store a frame's data, less what has been delivered. -/
def push
    (buffer : RecvBuffer)
    (off : Nat)
    (data : Bytes) : RecvBuffer :=
  if off + data.length ≤ buffer.offset ∨ data = [] then buffer
  else
    let kept := data.drop (buffer.offset - off)
    { buffer with
      segments := place ⟨max off buffer.offset, kept⟩ buffer.segments
      buffered := buffer.buffered + kept.length }

/-- Call `pop` until there is a gap: what is delivered, and what stays. -/
def popAll (offset buffered : Nat) : List Segment -> List Bytes × RecvBuffer
  | [] => ([], ⟨offset, [], buffered⟩)
  | first :: rest =>
    let stop := first.off + first.data.length
    if offset < first.off then ([], ⟨offset, first :: rest, buffered⟩)
    else if stop ≤ offset then
      popAll offset (buffered - first.data.length) rest
    else
      let later := popAll stop (buffered - first.data.length) rest
      (first.data.drop (offset - first.off) :: later.1, later.2)

/-- Take in a frame's data and pop what is then in order. -/
def receive
    (buffer : RecvBuffer)
    (off : Nat)
    (data : Bytes) :
    List Bytes × RecvBuffer :=
  let pushed := buffer.push off data
  popAll pushed.offset pushed.buffered pushed.segments

end RecvBuffer

/-! ## Streams -/

inductive Kind where
  | bidi
  | uni
  deriving DecidableEq

/-- The receiving side of a stream. -/
structure RecvSide where
  hasRecv : Bool := false
  recv : RecvBuffer := {}
  recvMax : Nat := 0
  recvHigh : Nat := 0
  recvFin : Option Nat := none
  recvDone : Bool := false
  peerReset : Bool := false
  maxDataPending : Bool := false
  stopPending : Bool := false
  stopSent : Bool := false
  stopCode : Nat := 0
  recvRead : Nat := 0

structure Stream where
  receiving : RecvSide := {}
  sendDone : Bool := false
  done : Bool := false

structure Config where
  maxIncoming : Kind -> Nat := fun
    | .bidi => 100
    | .uni => 16
  streamReceiveWindow : Nat := 2 ^ 20
  connReceiveWindow : Nat := 2 ^ 24

/-- The flow control of the connection. -/
structure Flow where
  recvMaxData : Nat
  recvData : Nat := 0
  recvConsumed : Nat := 0
  maxDataPending : Bool := false

/-- The streams of one kind: how many either side has opened, and how many the
peer may open. -/
structure Counts where
  opened : Nat := 0
  peerOpened : Nat := 0
  peerDone : Nat := 0
  limit : Nat
  maxStreamsPending : Bool := false

/-- Why a frame is an error. -/
structure TransportError where
  code : Nat
  reason : String

def transportErr
    {Result : Type}
    (code : Nat)
    (reason : String) :
    Except TransportError Result :=
  .error ⟨code, reason⟩

/-- The calls of the handler. -/
inductive Event where
  | onStreamData (id : Nat) (data : Bytes) (fin : Bool)
  | onStreamReset (id code : Nat)

structure Conn where
  config : Config
  isClient : Bool
  flow : Flow
  streams : Nat -> Stream := fun _ => {}
  /-- The keys of the map of open streams. -/
  known : List Nat := []
  counts : Kind -> Counts
  events : List Event := []

/-- Bit 1 of a stream ID. -/
def kindOf (id : Nat) : Kind :=
  if id / 2 % 2 = 0 then .bidi else .uni

def isClientStream (id : Nat) : Bool :=
  id % 2 = 0

/-- The receiving side needs nothing more. -/
def RecvSide.recvFinished (side : RecvSide) : Bool :=
  !side.hasRecv || side.recvDone || side.peerReset

namespace Conn

variable (conn : Conn)

/-- Change one stream. -/
def onStream
    (id : Nat)
    (change : Stream -> Stream) : Conn :=
  { conn with
    streams := Function.update conn.streams id (change (conn.streams id)) }

/-- Change the counts of one kind of streams. -/
def onCounts
    (kind : Kind)
    (change : Counts -> Counts) : Conn :=
  { conn with
    counts := Function.update conn.counts kind (change (conn.counts kind)) }

/-- The stream was opened by this side. -/
def isLocal (id : Nat) : Bool :=
  isClientStream id == conn.isClient

/-- Give the peer another stream in place of one of its own. -/
def countDone (kind : Kind) : Conn :=
  conn.onCounts kind fun counts =>
    let peerDone := counts.peerDone + 1
    let incoming := conn.config.maxIncoming kind
    if counts.limit - peerDone < incoming / 2 + 1 then
      { counts with
        peerDone
        limit := peerDone + incoming
        maxStreamsPending := true }
    else { counts with peerDone }

/-- Forget a stream once both of its sides are done. -/
def maybeFinish (id : Nat) : Conn :=
  let stream := conn.streams id
  if stream.done || !stream.sendDone || !stream.receiving.recvFinished then conn
  else
    let conn :=
      { conn with known := conn.known.erase id }.onStream id fun stream =>
        { stream with done := true }
    if conn.isLocal id then conn else conn.countDone (kindOf id)

/-- Set up a stream. -/
def newStream (id : Nat) : Conn :=
  let hasRecv := kindOf id == .bidi || !conn.isLocal id
  { conn with known := conn.known ++ [id] }.onStream id fun _ =>
    { sendDone := !(kindOf id == Kind.bidi || conn.isLocal id)
      receiving :=
        { hasRecv
          recvMax := if hasRecv then conn.config.streamReceiveWindow else 0 } }

/-- Open a stream, as the peer allows one more. -/
def openStream (kind : Kind) : Conn :=
  let opened := (conn.counts kind).opened
  let id := 4 * opened + (if kind = .bidi then 0 else 2) +
    (if conn.isClient then 0 else 1)
  (conn.onCounts kind fun counts => { counts with opened := opened + 1 }).newStream id

/-- Find the stream a frame refers to, opening the peer's streams up to it;
nothing is found of a stream already finished. -/
def peerStream
    (id : Nat)
    (recvSide : Bool) : Except TransportError (Option Conn) :=
  let counts := conn.counts (kindOf id)
  let seq := id / 4
  if kindOf id = .uni ∧ conn.isLocal id = recvSide then
    transportErr 0x05 "frame for the wrong direction of a unidirectional stream"
  else if id ∈ conn.known then .ok (some conn)
  else if conn.isLocal id then
    if counts.opened ≤ seq then
      transportErr 0x05 "frame for a stream not yet opened"
    else .ok none
  else if seq < counts.peerOpened then .ok none
  else if counts.limit ≤ seq then transportErr 0x04 "too many streams"
  else
    let opening := conn.onCounts (kindOf id) fun counts =>
      { counts with peerOpened := seq + 1 }
    .ok (some ((List.range' counts.peerOpened (seq + 1 - counts.peerOpened)).foldl
      (fun conn number => conn.newStream (4 * number + id % 4)) opening))

/-- Ask the peer to stop sending, and discard what arrives from then on. -/
def stopSendingLocked (id code : Nat) : Conn :=
  let side := (conn.streams id).receiving
  if !side.hasRecv || side.recvDone || side.stopSent then conn
  else
    conn.onStream id fun stream =>
      { stream with receiving := { side with
          stopSent := true
          stopPending := true
          stopCode := code
          recv := { offset := side.recv.offset } } }

end Conn

/-! ## Frames -/

/-- A receiving side with the flow control of its connection. -/
structure Reading where
  flow : Flow
  side : RecvSide

/-- Record that the stream has been read up to `offset`, and give the peer more
room when half of a window has been used. -/
def Reading.consumed
    (config : Config)
    (reading : Reading)
    (offset : Nat) : Reading :=
  let side := reading.side
  let consumed := reading.flow.recvConsumed + (offset - side.recvRead)
  let raises := side.recvFin.isNone && !side.recvDone &&
    side.recvMax - offset < config.streamReceiveWindow / 2
  let opens :=
    reading.flow.recvMaxData - consumed < config.connReceiveWindow / 2
  { flow := { reading.flow with
      recvConsumed := consumed
      recvMaxData :=
        if opens then consumed + config.connReceiveWindow
        else reading.flow.recvMaxData
      maxDataPending := reading.flow.maxDataPending || opens }
    side := { side with
      recvRead := max side.recvRead offset
      recvMax :=
        if raises then offset + config.streamReceiveWindow else side.recvMax
      maxDataPending := side.maxDataPending || raises } }

/-- Deliver chunks in order. -/
def Reading.deliver (config : Config) :
    List Bytes -> Nat -> Reading -> Reading
  | [], _, reading => reading
  | chunk :: rest, offset, reading =>
    deliver config rest (offset + chunk.length)
      (reading.consumed config (offset + chunk.length))

/-- What a frame does to a receiving side: the chunks handed over, each with its
`fin`, and whether the side may be finished. -/
structure Receipt where
  reading : Reading
  chunks : List (Bytes × Bool) := []
  ends : Bool := false

namespace RecvSide

variable (config : Config) (flow : Flow) (side : RecvSide)

/-- Charge what the peer has sent up to `stop`. -/
def charge (stop : Nat) : Except TransportError Flow :=
  let data := flow.recvData + (stop - side.recvHigh)
  if side.recvMax < stop then
    transportErr 0x03 "stream flow control exceeded"
  else if side.recvHigh < stop ∧ flow.recvMaxData < data then
    transportErr 0x03 "connection flow control exceeded"
  else .ok { flow with recvData := data }

/-- Take in a frame's data, in order. -/
def readData
    (off : Nat)
    (data : Bytes) : Receipt :=
  let received := side.recv.receive off data
  let recv := received.2
  let reading :=
    Reading.deliver config received.1 side.recv.offset { flow, side }
  let read := { reading with side := { reading.side with recv } }
  let delivered := received.1.map fun chunk => (chunk, false)
  if side.recvFin = some recv.offset then
    { reading :=
        { read with side := { read.side with recvDone := true } }.consumed
          config recv.offset
      chunks := delivered ++ [([], true)]
      ends := true }
  else { reading := read, chunks := delivered }

/-- The side once it has seen data up to `stop`. -/
def grow
    (stop : Nat)
    (fin : Bool) : RecvSide :=
  { side with
    recvFin := if fin then some stop else side.recvFin
    recvHigh := max side.recvHigh stop }

/-- Nobody reads a frame's data, so it counts as read at once. -/
def discardData (stop : Nat) : Receipt :=
  let reading := Reading.consumed config { flow, side } stop
  let ends := side.stopSent && side.recvFin.isSome && !side.recvDone
  { reading := { reading with
      side := { reading.side with recvDone := side.recvDone || ends } }
    ends }

/-- Take in a STREAM frame. -/
def onStreamFrame
    (off : Nat)
    (data : Bytes)
    (fin : Bool) :
    Except TransportError Receipt :=
  let stop := off + data.length
  if 2 ^ 62 - 1 < stop then transportErr 0x07 "stream offset too large"
  else if side.recvFin.any fun size => size < stop || fin && stop != size then
    transportErr 0x06 "data beyond the final size"
  else if fin ∧ stop < side.recvHigh then
    transportErr 0x06 "final size below data received"
  else
    match side.charge flow stop with
    | .error error => .error error
    | .ok flow =>
      if side.recvDone || side.peerReset || side.stopSent then
        .ok ((side.grow stop fin).discardData config flow stop)
      else .ok ((side.grow stop fin).readData config flow off data)

/-- The peer abandons the stream at `finalSize`. -/
def abandon (finalSize : Nat) : Receipt :=
  let reading := Reading.consumed config { flow, side } finalSize
  if side.recvDone || side.peerReset then { reading }
  else
    { reading := { reading with
        side := { reading.side with
          peerReset := true
          maxDataPending := false
          recv := { offset := side.recv.offset } } }
      ends := true }

/-- Take in a RESET_STREAM frame. -/
def onResetStream (finalSize : Nat) : Except TransportError Receipt :=
  if side.recvFin.any (· != finalSize) || finalSize < side.recvHigh then
    transportErr 0x06 "reset with a different final size"
  else
    match side.charge flow finalSize with
    | .error error => .error error
    | .ok flow => .ok ((side.grow finalSize true).abandon config flow finalSize)

end RecvSide

namespace Conn

/-- Store what a frame did to a receiving side, and hand over what it
brought. -/
def receipt
    (conn : Conn)
    (id : Nat)
    (receipt : Receipt)
    (calls : List Event) : Conn :=
  let conn :=
    { conn with
      flow := receipt.reading.flow
      events := conn.events ++ calls }.onStream id fun stream =>
        { stream with receiving := receipt.reading.side }
  if receipt.ends then conn.maybeFinish id else conn

/-- A STREAM frame for a stream. -/
def onStreamFrame
    (id off : Nat)
    (data : Bytes)
    (fin : Bool)
    (conn : Conn) :
    Option Conn :=
  let side := (conn.streams id).receiving
  match side.onStreamFrame conn.config conn.flow off data fin with
  | .error _ => none
  | .ok receipt =>
    some (conn.receipt id receipt
      (receipt.chunks.map fun chunk => .onStreamData id chunk.1 chunk.2))

/-- A RESET_STREAM frame for a stream. -/
def onResetStream
    (id code finalSize : Nat)
    (conn : Conn) : Option Conn :=
  let side := (conn.streams id).receiving
  match side.onResetStream conn.config conn.flow finalSize with
  | .error _ => none
  | .ok receipt =>
    some (conn.receipt id receipt
      (if receipt.ends && !side.stopSent then [.onStreamReset id code] else []))

end Conn

/-! ## Runs -/

/-- The calls and frames of a run. -/
inductive Label where
  | openStream (kind : Kind)
  | stopSending (id code : Nat)
  /-- The sending side of a stream is done. -/
  | sendDone (id : Nat)
  | stream (id off : Nat) (data : Bytes) (fin : Bool)
  | resetStream (id code finalSize : Nat)

/-- One step, unless a frame is an error. -/
def step
    (conn : Conn)
    (label : Label) : Option Conn :=
  let withStream (id : Nat) (use : Conn -> Option Conn) : Option Conn :=
    match conn.peerStream id true with
    | .error _ => none
    | .ok none => some conn
    | .ok (some opened) => use opened
  match label with
  | .openStream kind => some (conn.openStream kind)
  | .stopSending id code => some (conn.stopSendingLocked id code)
  | .sendDone id =>
    if id ∈ conn.known then
      some ((conn.onStream id fun stream =>
        { stream with sendDone := true }).maybeFinish id)
    else none
  | .stream id off data fin => withStream id (Conn.onStreamFrame id off data fin)
  | .resetStream id code finalSize =>
    withStream id (Conn.onResetStream id code finalSize)

def newConn
    (config : Config)
    (isClient : Bool) : Conn :=
  { config, isClient
    flow := { recvMaxData := config.connReceiveWindow }
    counts := fun kind => { limit := config.maxIncoming kind } }

end Quic
end Fib
