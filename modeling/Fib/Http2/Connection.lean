import Fib.Http2.Request
import Mathlib.Logic.Function.Basic

/-!
# HTTP/2 connections and their responses

`h2ServerConn` with its streams, and the operations by which it answers,
resets and forgets them.  A stream stays in the table under its identifier
after the connection has dropped it from the map of streams, as the handler may
still hold it.

Next to its own fields the connection records what the environment sees: the
frames handed to the transport, the frames received, the calls of the handler,
the streams answered by `reject`, and whether the connection was closed because
it was done, by `closeFinishedLocked`.
-/

namespace Fib
namespace Http2

open Frames
open Http (Header Response)

/-! ## State -/

/-- A response the server has accepted: its fields, its body and its
trailer. -/
structure Answer where
  fields : List OutField
  body : Bytes
  trailer : Option Header

/-- `h2ServerStream`.  No declared length stands for a negative one.  The
last two fields record the response accepted and that the handler has the
stream. -/
structure ServerStream where
  req : Option Request := none
  pushed : Bool := false
  body : Bytes := []
  declared : Option Nat := none
  recvWindow : Int := 0
  recvUnacked : Int := 0
  remoteDone : Bool := false
  responded : Bool := false
  trailer : Option Header := none
  localDone : Bool := false
  reset : Bool := false
  sendWindow : Int := 0
  pending : Bytes := []
  answer : Option Answer := none
  served : Bool := false

/-- A call of the handler for a client's request, with the frames received
and sent before it and whether `reject` had answered the stream. -/
structure Call where
  stream : Nat
  request : Request
  body : Bytes
  received : List Frame
  sent : List Sent
  rejected : Bool

/-- The identifier of a stream that a client may open. -/
abbrev ClientID := { id : Nat // id % 2 = 1 }

theorem odd_of_valid
    {id : Nat}
    (valid : ¬(id = 0 ∨ id % 2 = 0)) :
    id % 2 = 1 := by
  omega

/-- `h2ServerConn`. -/
structure ServerConn (Encoder Decoder : Type) where
  gotSettings : Bool := false
  dec : Decoder
  contStream : Option ClientID := none
  contEndStream : Bool := false
  contBlock : Bytes := []
  maxClientID : Nat := 0
  recvWindow : Int := 2 ^ 24
  recvUnacked : Int := 0
  streams : List Nat := []
  table : Nat -> Option ServerStream := fun _ => none
  enc : Encoder
  peerMaxFrame : FrameSize := ⟨defaultMaxFrameSize, le_rfl⟩
  peerWindow : Int := defaultWindow
  sendWindow : Int := defaultWindow
  goAway : Bool := false
  peerGoingAway : Bool := false
  closed : Bool := false
  lastStreamID : Nat := 0
  pushEnabled : Bool := true
  nextPushID : Nat := 2
  peerMaxPush : Nat := 2 ^ 32 - 1
  pushedStreams : Nat := 0
  wire : List Sent := []
  received : List Frame := []
  calls : List Call := []
  rejected : List Nat := []
  drained : Bool := false

/-- `H2StreamError` and `H2ConnError`. -/
inductive FrameError where
  | stream (id : Nat) (code : ErrorCode)
  | connection (code : ErrorCode) (reason : String)
deriving DecidableEq, Repr

/-- Why a call on a stream is refused. -/
inductive Refusal where
  | invalidStatusCode (status : Nat)
  | invalidHeader
  | streamClosed
  | responseWritten
  | invalidInterimStatus (status : Nat)
  | interimAfterFinal
  | notSupported
  | pushMethod
  | pushTarget
  | pushHeader
  | pushAfterResponse
  | pushLimit
deriving DecidableEq, Repr

namespace ServerConn

variable {Encoder Decoder : Type}

def streamWindow : Int := 2 ^ 20
def connWindow : Int := 2 ^ 24

section

variable (conn : ServerConn Encoder Decoder)

/-- `sc.streams[id]`. -/
def find (id : Nat) :
    Option ServerStream :=
  if id ∈ conn.streams then conn.table id else none

/-- Change the stream with the given identifier. -/
def update
    (id : Nat)
    (st : ServerStream) : ServerConn Encoder Decoder :=
  { conn with table := Function.update conn.table id (some st) }

/-- The connection takes no new stream. -/
def goingAway : Bool :=
  conn.goAway || conn.peerGoingAway

/-! ## Sending -/

/-- `sendLocked`. -/
def sendLocked (out : List Sent) :
    ServerConn Encoder Decoder :=
  if conn.closed then conn else { conn with wire := conn.wire ++ out }

/-- `closeFinishedLocked`, which `closeIfDone` calls under the lock. -/
def closeFinishedLocked :
    ServerConn Encoder Decoder :=
  if conn.closed || !conn.goingAway || !conn.streams.isEmpty then conn
  else { conn with closed := true, drained := true }

/-- `forgetLocked`. -/
def forgetLocked (id : Nat) :
    ServerConn Encoder Decoder :=
  match conn.table id with
  | none => conn
  | some st =>
    let conn :=
      if id ∈ conn.streams then
        { conn with
          streams := conn.streams.erase id
          pushedStreams :=
            conn.pushedStreams - (if st.pushed then 1 else 0) }
      else conn
    conn.update id
      { st with reset := st.reset || !st.localDone, pending := [] }

/-- `finishStreamLocked`. -/
def finishStreamLocked (id : Nat) :
    ServerConn Encoder Decoder :=
  match conn.table id with
  | none => conn
  | some st =>
    if !st.localDone || st.reset then conn
    else
      let conn :=
        if st.remoteDone then conn
        else (conn.update id { st with reset := true }).sendLocked
          [.rstStream id .noError]
      (conn.forgetLocked id).closeFinishedLocked

end

/-- `endStreamLocked`: the frames it appends, and the connection. -/
def endStreamLocked
    (server : Server Encoder Decoder)
    (conn : ServerConn Encoder Decoder)
    (id : Nat)
    (st : ServerStream) :
    List Sent × ServerConn Encoder Decoder :=
  match st.trailer with
  | none => ([], conn.update id { st with localDone := true })
  | some trailer =>
    let block := server.encode conn.enc (outFields trailer)
    (appendHeaderBlock id .trailer block.1 true conn.peerMaxFrame,
      { conn.update id { st with localDone := true, trailer := none } with
        enc := block.2 })

/-- How many of the pending bytes the windows and the frame size allow in the
next DATA frame. -/
def nextChunk
    (conn : ServerConn Encoder Decoder)
    (st : ServerStream) : Int :=
  min (min (min (st.pending.length : Int) conn.sendWindow) st.sendWindow)
    conn.peerMaxFrame.bytes

/-- The loop of `flushStreamLocked`; every turn but the last takes at least
one byte, so as many turns as there are bytes are enough. -/
def flushLoop (server : Server Encoder Decoder) :
    Nat -> ServerConn Encoder Decoder -> Nat -> ServerStream ->
      List Sent × ServerConn Encoder Decoder
  | 0, conn, id, st => ([], conn.update id st)
  | fuel + 1, conn, id, st =>
    let n := conn.nextChunk st
    if st.pending = [] ∨ n ≤ 0 then ([], conn.update id st)
    else
      let chunk := st.pending.take n.toNat
      let rest := st.pending.drop n.toNat
      let last := rest.isEmpty
      let frame : Sent := .data id chunk (last && st.trailer.isNone)
      let conn := { conn with sendWindow := conn.sendWindow - n }
      let st :=
        { st with pending := rest, sendWindow := st.sendWindow - n }
      let later :=
        if last then conn.endStreamLocked server id st
        else flushLoop server fuel conn id st
      (frame :: later.1, later.2)

/-- `flushStreamLocked`: the frames it appends, and the connection. -/
def flushStreamLocked
    (server : Server Encoder Decoder)
    (conn : ServerConn Encoder Decoder)
    (id : Nat)
    (st : ServerStream) :
    List Sent × ServerConn Encoder Decoder :=
  flushLoop server st.pending.length conn id st

/-- `flushLocked`, over the streams in the given order. -/
def flushLocked (server : Server Encoder Decoder) :
    List Nat -> ServerConn Encoder Decoder ->
      List Sent × ServerConn Encoder Decoder
  | [], conn => ([], conn)
  | id :: rest, conn =>
    if conn.sendWindow ≤ 0 then ([], conn)
    else
      match conn.find id with
      | none => flushLocked server rest conn
      | some st =>
        if st.pending = [] then flushLocked server rest conn
        else
          let flushed := conn.flushStreamLocked server id st
          let later :=
            flushLocked server rest (flushed.2.finishStreamLocked id)
          (flushed.1 ++ later.1, later.2)

/-! ## Responding -/

/-- The status allows a body. -/
def bodyAllowed (status : Nat) : Bool :=
  status != 204 && status != 304

/-- What `respond` accepts of a response to a request with the given
method. -/
def answerTo
    (method : Bytes)
    (response : Response) : Answer :=
  let allowed := bodyAllowed response.statusCode
  let isHead := method == ascii "HEAD"
  { fields :=
      (ascii ":status", Numeral.digits 10 response.statusCode, false) ::
        (if allowed then
          [(ascii "content-length",
            Numeral.digits 10 response.body.length, false)]
        else []) ++ outFields response.header
    body := if allowed && !isHead then response.body else []
    trailer :=
      if allowed && !isHead then sendableTrailer response.trailer else none }

/-- The part of `respond` that queues the head and the body of the answer:
the frames, and the connection. -/
def beginAnswer
    (server : Server Encoder Decoder)
    (conn : ServerConn Encoder Decoder)
    (id : Nat)
    (st : ServerStream)
    (answer : Answer) : List Sent × ServerConn Encoder Decoder :=
  let st :=
    { st with
      responded := true
      trailer := answer.trailer
      answer := some answer
      pending := answer.body }
  let block := server.encode conn.enc answer.fields
  let head := appendHeaderBlock id .final block.1
    (answer.body.isEmpty && answer.trailer.isNone) conn.peerMaxFrame
  let conn := { conn with enc := block.2 }
  let later :=
    if answer.body = [] then conn.endStreamLocked server id st
    else conn.flushStreamLocked server id st
  (head ++ later.1, later.2)

/-- The GOAWAY by which `Response.Close` retires the connection. -/
def retire
    (conn : ServerConn Encoder Decoder)
    (close : Bool) :
    List Sent × ServerConn Encoder Decoder :=
  if close && !conn.goAway then
    ([.goAway conn.lastStreamID .noError ""], { conn with goAway := true })
  else ([], conn)

/-- `respond`. -/
def respond
    (server : Server Encoder Decoder)
    (conn : ServerConn Encoder Decoder)
    (id : Nat)
    (method : Bytes)
    (response : Response) : Except Refusal (ServerConn Encoder Decoder) :=
  match conn.table id with
  | none => .error .streamClosed
  | some st =>
    if response.statusCode < 200 ∨ 999 < response.statusCode then
      .error (.invalidStatusCode response.statusCode)
    else if !checkHeader response.header then .error .invalidHeader
    else if conn.closed || st.reset then .error .streamClosed
    else if st.responded then .error .responseWritten
    else
      let begun :=
        conn.beginAnswer server id st (answerTo method response)
      let retired := begun.2.retire response.close
      .ok (((retired.2.sendLocked
        (begun.1 ++ retired.1)).finishStreamLocked id).closeFinishedLocked)

/-- `writeInterim`. -/
def writeInterim
    (server : Server Encoder Decoder)
    (conn : ServerConn Encoder Decoder)
    (id status : Nat)
    (header : Header) : Except Refusal (ServerConn Encoder Decoder) :=
  match conn.table id with
  | none => .error .streamClosed
  | some st =>
    if !checkHeader header then .error .invalidHeader
    else if conn.closed || st.reset then .error .streamClosed
    else if st.responded then .error .interimAfterFinal
    else
      let block := server.encode conn.enc
        ((ascii ":status", Numeral.digits 10 status, false) ::
          outFields header)
      .ok ({ conn with enc := block.2 }.sendLocked
        (appendHeaderBlock id .interim block.1 false conn.peerMaxFrame))

/-- The error page of `reject`. -/
def errorBody (status : Nat) : Bytes :=
  Http.statusText status ++ [10]

def errorResponse (status : Nat) : Response :=
  { statusCode := status
    header := AList.insert (ascii "Content-Type")
      [ascii "text/plain; charset=utf-8"] ∅
    body := errorBody status
    trailer := ∅
    close := false }

/-- `reject`. -/
def reject
    (server : Server Encoder Decoder)
    (conn : ServerConn Encoder Decoder)
    (id : Nat)
    (st : ServerStream)
    (status : Nat) : ServerConn Encoder Decoder :=
  let conn :=
    { conn.update id { st with body := [] } with
      rejected := id :: conn.rejected }
  let method := (st.req.map Request.method).getD (ascii "GET")
  match conn.respond server id method (errorResponse status) with
  | .ok conn => conn
  | .error _ => conn

section

variable (conn : ServerConn Encoder Decoder)

/-- `resetStream`. -/
def resetStream
    (id : Nat)
    (code : ErrorCode) : ServerConn Encoder Decoder :=
  let conn := if id ∈ conn.streams then conn.forgetLocked id else conn
  (conn.sendLocked [.rstStream id code]).closeFinishedLocked

/-- `fail`. -/
def fail
    (code : ErrorCode)
    (reason : String) : ServerConn Encoder Decoder :=
  if conn.closed then conn
  else
    { conn.sendLocked [.goAway conn.lastStreamID code reason] with
      closed := true, goAway := true, streams := [] }

/-- `shutdown`. -/
def shutdown :
    ServerConn Encoder Decoder :=
  { conn with closed := true, streams := [] }

/-- `handleError`. -/
def handleError :
    Option FrameError -> ServerConn Encoder Decoder
  | none => conn
  | some (.stream id code) => conn.resetStream id code
  | some (.connection code reason) => conn.fail code reason

end

end ServerConn
end Http2
end Fib
