import Fib.Http2.Connection
import Fib.Library.Transition
import Mathlib.Data.List.Perm.Basic

/-!
# The server side of an HTTP/2 connection

How the server handles the frames of a client and the calls of its handlers.
Every frame that is handled, and every call a handler makes on a stream, is one
step; the identifiers of the streams in the order a loop over the map visits
them are part of the step.
-/

namespace Fib
namespace Http2

open Frames
open Http (Header Response equalFold)

namespace ServerConn

variable {Encoder Decoder : Type}

/-- What handling a frame comes to: an error, if any, and the
connection. -/
abbrev Handled (Encoder Decoder : Type) :=
  Option FrameError × ServerConn Encoder Decoder

/-! ## Requests -/

/-- `finishRequest`. -/
def finishRequest
    (conn : ServerConn Encoder Decoder)
    (id : Nat)
    (st : ServerStream) : Handled Encoder Decoder :=
  if st.declared.any (· != st.body.length) then
    (some (.stream id .protocolError), conn.update id st)
  else if st.localDone then
    (none, (conn.update id { st with remoteDone := true }).forgetLocked id)
  else
    match st.req with
    | none => (none, conn.update id { st with remoteDone := true })
    | some request =>
      (none,
        { conn.update id
            { st with remoteDone := true, body := [], served := true } with
          calls := conn.calls ++
            [{ stream := id
               request := request
               body := st.body
               received := conn.received
               sent := conn.wire
               rejected := conn.rejected.contains id }] })

/-- `handleTrailers`. -/
def handleTrailers
    (server : Server Encoder Decoder)
    (conn : ServerConn Encoder Decoder)
    (id : Nat)
    (st : ServerStream)
    (fields : List HeaderField)
    (endStream tooLarge : Bool) :
    Handled Encoder Decoder :=
  if st.remoteDone then (some (.stream id .streamClosed), conn)
  else
    match st.req with
    | none => (some (.stream id .protocolError), conn)
    | some request =>
      if !endStream then (some (.stream id .protocolError), conn)
      else if tooLarge then (none, conn.reject server id st 431)
      else
        match newTrailer fields with
        | none => (some (.stream id .protocolError), conn)
        | some trailer =>
          conn.finishRequest id
            { st with req := some { request with trailer := trailer } }

/-- The part of `handleHeaderBlock` for the header of a new stream, which is
in the map already. -/
def beginRequest
    (server : Server Encoder Decoder)
    (conn : ServerConn Encoder Decoder)
    (id : Nat)
    (st : ServerStream)
    (fields : List HeaderField)
    (endStream tooLarge : Bool) :
    Handled Encoder Decoder :=
  if tooLarge then (none, conn.reject server id st 431)
  else
    match newRequest server fields with
    | none => (some (.stream id .protocolError), conn)
    | some request =>
      let st := { st with req := some request }
      let declared := declaredLength request.header
      if malformedLength request.header then
        (some (.stream id .protocolError), conn.update id st)
      else if declared.any ((server.maxBodyBytes : Int) < ·) then
        (none, conn.reject server id st 413)
      else
        let st := { st with declared := declared.map Int.toNat }
        if endStream then conn.finishRequest id st
        else if equalFold (get request.header (ascii "Expect"))
            (ascii "100-continue") then
          match (conn.update id st).writeInterim server id 100 ∅ with
          | .ok conn => (none, conn)
          | .error _ => (none, conn.update id st)
        else (none, conn.update id st)

/-- A stream the client opens. -/
def newStream (conn : ServerConn Encoder Decoder) : ServerStream :=
  { recvWindow := streamWindow, sendWindow := conn.peerWindow }

/-- `handleHeaderBlock`. -/
def handleHeaderBlock
    (server : Server Encoder Decoder)
    (conn : ServerConn Encoder Decoder)
    (id : Nat)
    (block : Bytes)
    (endStream : Bool) : Handled Encoder Decoder :=
  let decoded := server.decode conn.dec block
  let conn := { conn with dec := decoded.2 }
  match decoded.1 with
  | .error text => (some (.connection .compressionError text), conn)
  | .ok fields =>
    let collected := collect server.maxHeaderBytes 0 fields
    match conn.find id with
    | some st =>
      conn.handleTrailers server id st collected.1 endStream collected.2
    | none =>
      if id ≤ conn.maxClientID then (none, conn)
      else
        let conn := { conn with maxClientID := id }
        if conn.closed || conn.goingAway then (none, conn)
        else if server.maxStreams ≤
            conn.streams.length - conn.pushedStreams then
          (some (.stream id .refusedStream), conn)
        else
          let st := conn.newStream
          let conn :=
            { conn.update id st with
              streams := id :: conn.streams, lastStreamID := id }
          conn.beginRequest server id st collected.1 endStream
            collected.2

/-! ## Frames -/

def protocolError (reason : String) : FrameError :=
  .connection .protocolError reason

/-- The texts in which an identifier or a length stands. -/
def numbered
    (text : String)
    (number : Nat) : String :=
  text ++ toString number

/-- `idleLocked`. -/
def idleLocked
    (conn : ServerConn Encoder Decoder)
    (id : Nat) : Bool :=
  if id % 2 = 0 then conn.nextPushID ≤ id else conn.maxClientID < id

/-- `handleData` from where the stream has been found: the frame has been
counted against the connection's window. -/
def takeData
    (server : Server Encoder Decoder)
    (conn : ServerConn Encoder Decoder)
    (frame : Frame)
    (st : ServerStream) : Handled Encoder Decoder :=
  let id := frame.streamID
  if st.remoteDone then (some (.stream id .streamClosed), conn)
  else if st.recvWindow < frame.length then
    (some (.stream id .flowControlError), conn)
  else
    let st :=
      { st with
        recvWindow := st.recvWindow - frame.length
        recvUnacked := st.recvUnacked + frame.length }
    if server.maxBodyBytes < st.body.length + frame.payload.length then
      (none, conn.reject server id st 413)
    else
      let st := { st with body := st.body ++ frame.payload }
      if frame.has flagEndStream then conn.finishRequest id st
      else if streamWindow / 2 ≤ st.recvUnacked then
        (none,
          (conn.update id
            { st with
              recvWindow := st.recvWindow + st.recvUnacked
              recvUnacked := 0 }).sendLocked
            [.windowUpdate id st.recvUnacked.toNat])
      else (none, conn.update id st)

/-- `handleData`. -/
def handleData
    (server : Server Encoder Decoder)
    (conn : ServerConn Encoder Decoder)
    (frame : Frame) :
    Handled Encoder Decoder :=
  let id := frame.streamID
  if id = 0 then (some (protocolError "DATA on stream 0"), conn)
  else if conn.recvWindow < frame.length then
    (some (.connection .flowControlError "DATA exceeds connection window"),
      conn)
  else
    let conn :=
      { conn with
        recvWindow := conn.recvWindow - frame.length
        recvUnacked := conn.recvUnacked + frame.length }
    if id % 2 = 0 then
      (some (protocolError (numbered "DATA on server stream " id)), conn)
    else if conn.maxClientID < id then
      (some (protocolError (numbered "DATA on idle stream " id)), conn)
    else
      let conn :=
        if connWindow / 2 ≤ conn.recvUnacked then
          { conn with
            recvWindow := conn.recvWindow + conn.recvUnacked
            recvUnacked := 0 }.sendLocked
              [.windowUpdate 0 conn.recvUnacked.toNat]
        else conn
      match conn.find id with
      | none => (none, conn)
      | some st => conn.takeData server frame st

/-- The block of a HEADERS frame without its priority; nothing stands for a
truncated one. -/
def headerFragment (frame : Frame) : Option Bytes :=
  if frame.has flagPriority then
    if frame.payload.length < 5 then none else some (frame.payload.drop 5)
  else some frame.payload

/-- The stream of a HEADERS frame depends on itself. -/
def selfDependent (frame : Frame) : Bool :=
  frame.has flagPriority && uint31 frame.payload == frame.streamID

/-- `handleHeaders`. -/
def handleHeaders
    (server : Server Encoder Decoder)
    (conn : ServerConn Encoder Decoder)
    (frame : Frame) :
    Handled Encoder Decoder :=
  let id := frame.streamID
  if invalid : id = 0 ∨ id % 2 = 0 then
    (some (protocolError (numbered "HEADERS on stream " id)), conn)
  else
    match headerFragment frame with
    | none =>
      (some (.connection .frameSizeError "HEADERS priority truncated"),
        conn)
    | some block =>
      if selfDependent frame then
        (some (.stream id .protocolError), conn)
      else if !frame.has flagEndHeaders then
        if server.maxHeaderBytes < block.length then
          (some (.connection .enhanceYourCalm "header block too large"),
            conn)
        else
          (none,
            { conn with
              contStream := some ⟨id, odd_of_valid invalid⟩
              contEndStream := frame.has flagEndStream
              contBlock := block })
      else
        conn.handleHeaderBlock server id block (frame.has flagEndStream)

/-- `handleContinuation`. -/
def handleContinuation
    (server : Server Encoder Decoder)
    (conn : ServerConn Encoder Decoder)
    (frame : Frame) :
    Handled Encoder Decoder :=
  match conn.contStream with
  | none => (some (protocolError "unexpected CONTINUATION"), conn)
  | some id =>
    let conn := { conn with contBlock := conn.contBlock ++ frame.payload }
    if server.maxHeaderBytes < conn.contBlock.length then
      (some (.connection .enhanceYourCalm "header block too large"), conn)
    else if !frame.has flagEndHeaders then (none, conn)
    else
      { conn with contStream := none }.handleHeaderBlock server id
        conn.contBlock conn.contEndStream

/-- `handleRSTStream`. -/
def handleRSTStream
    (conn : ServerConn Encoder Decoder)
    (frame : Frame) :
    Handled Encoder Decoder :=
  let id := frame.streamID
  if id = 0 then (some (protocolError "RST_STREAM on stream 0"), conn)
  else if frame.payload.length ≠ 4 then
    (some (.connection .frameSizeError
      (numbered "RST_STREAM length " frame.payload.length)), conn)
  else if conn.idleLocked id then
    (some (protocolError (numbered "RST_STREAM on idle stream " id)), conn)
  else
    let conn := if id ∈ conn.streams then conn.forgetLocked id else conn
    (none, conn.closeFinishedLocked)

/-- Change the windows of the streams in the map by an amount. -/
def shiftWindows
    (conn : ServerConn Encoder Decoder)
    (delta : Int) :
    ServerConn Encoder Decoder :=
  { conn with
    table := fun id =>
      if id ∈ conn.streams then
        (conn.table id).map fun st =>
          { st with sendWindow := st.sendWindow + delta }
      else conn.table id }

/-- One setting of `applySettingsLocked`. -/
def applySetting
    (server : Server Encoder Decoder)
    (conn : ServerConn Encoder Decoder)
    (setting : Nat × Nat) :
    Handled Encoder Decoder :=
  let value := setting.2
  match setting.1 with
  | 1 =>
    (none,
      { conn with enc := server.setMaxTableSize conn.enc (min value 4096) })
  | 2 =>
    if 1 < value then
      (some (protocolError (numbered "ENABLE_PUSH " value)), conn)
    else (none, { conn with pushEnabled := value == 1 })
  | 3 => (none, { conn with peerMaxPush := value })
  | 4 =>
    if maxWindow < value then
      (some (.connection .flowControlError
        (numbered "INITIAL_WINDOW_SIZE " value)), conn)
    else
      let conn :=
        { conn.shiftWindows (value - conn.peerWindow) with
          peerWindow := value }
      if conn.streams.any fun id =>
          (conn.table id).any (maxWindow < ·.sendWindow) then
        (some (.connection .flowControlError "stream window overflow"),
          conn)
      else (none, conn)
  | 5 =>
    if atLeast : defaultMaxFrameSize ≤ value ∧ value ≤ maxFrameSizeLimit then
      (none, { conn with peerMaxFrame := ⟨value, atLeast.1⟩ })
    else (some (protocolError (numbered "MAX_FRAME_SIZE " value)), conn)
  | _ => (none, conn)

/-- The settings in turn, up to the first error. -/
def applySettings (server : Server Encoder Decoder) :
    List (Nat × Nat) -> ServerConn Encoder Decoder ->
      Handled Encoder Decoder
  | [], conn => (none, conn)
  | setting :: rest, conn =>
    let applied := conn.applySetting server setting
    match applied.1 with
    | some error => (some error, applied.2)
    | none => applySettings server rest applied.2

/-- `applySettingsLocked`. -/
def applySettingsLocked
    (server : Server Encoder Decoder)
    (conn : ServerConn Encoder Decoder)
    (payload : Bytes) :
    Handled Encoder Decoder :=
  if payload.length % 6 ≠ 0 then
    (some (.connection .frameSizeError
      (numbered "SETTINGS length " payload.length)), conn)
  else applySettings server (settingsOf payload) conn

/-- The end of `handleSettings` and `handleWindowUpdate`: send `out` and what
the windows now allow, and close a connection that is done. -/
def flushAndClose
    (server : Server Encoder Decoder)
    (conn : ServerConn Encoder Decoder)
    (order : List Nat)
    (out : List Sent) : ServerConn Encoder Decoder :=
  let flushed := flushLocked server order conn
  (flushed.2.sendLocked (out ++ flushed.1)).closeFinishedLocked

/-- `handleSettings`. -/
def handleSettings
    (server : Server Encoder Decoder)
    (conn : ServerConn Encoder Decoder)
    (frame : Frame)
    (order : List Nat) : Handled Encoder Decoder :=
  if frame.streamID ≠ 0 then
    (some (protocolError (numbered "SETTINGS on stream " frame.streamID)),
      conn)
  else if frame.has flagAck then
    if frame.payload ≠ [] then
      (some (.connection .frameSizeError "SETTINGS ack with payload"), conn)
    else (none, conn)
  else
    let applied := conn.applySettingsLocked server frame.payload
    match applied.1 with
    | some error => (some error, applied.2)
    | none =>
      (none, applied.2.flushAndClose server order [.settings true])

/-- The part of `handleWindowUpdate` before the flush: the windows grow.  The
flag tells whether there is anything to flush for. -/
def credit
    (conn : ServerConn Encoder Decoder)
    (frame : Frame) :
    Option FrameError × Bool × ServerConn Encoder Decoder :=
  let id := frame.streamID
  let increment := uint31 frame.payload
  if frame.payload.length ≠ 4 then
    (some (.connection .frameSizeError
      (numbered "WINDOW_UPDATE length " frame.payload.length)), false, conn)
  else if id = 0 then
    let grown := { conn with sendWindow := conn.sendWindow + increment }
    if increment = 0 then
      (some (protocolError "WINDOW_UPDATE of 0"), false, conn)
    else if maxWindow < grown.sendWindow then
      (some (.connection .flowControlError "connection window overflow"),
        false, grown)
    else (none, true, grown)
  else if conn.idleLocked id then
    (some (protocolError (numbered "WINDOW_UPDATE on idle stream " id)),
      false, conn)
  else
    match conn.find id with
    | none => (none, false, conn)
    | some st =>
      let grown := { st with sendWindow := st.sendWindow + increment }
      if increment = 0 then
        (some (.stream id .protocolError), false, conn)
      else if maxWindow < grown.sendWindow then
        (some (.stream id .flowControlError), false, conn.update id grown)
      else (none, true, conn.update id grown)

/-- `handleWindowUpdate`. -/
def handleWindowUpdate
    (server : Server Encoder Decoder)
    (conn : ServerConn Encoder Decoder)
    (frame : Frame)
    (order : List Nat) : Handled Encoder Decoder :=
  let credited := conn.credit frame
  if credited.2.1 then
    (credited.1, credited.2.2.flushAndClose server order [])
  else (credited.1, credited.2.2)

/-- `handlePing`: the PING case of `handleFrame`. -/
def handlePing
    (conn : ServerConn Encoder Decoder)
    (frame : Frame) :
    Handled Encoder Decoder :=
  if frame.streamID ≠ 0 then
    (some (protocolError (numbered "PING on stream " frame.streamID)), conn)
  else if frame.payload.length ≠ 8 then
    (some (.connection .frameSizeError
      (numbered "PING length " frame.payload.length)), conn)
  else if frame.has flagAck then (none, conn)
  else (none, conn.sendLocked [.ping frame.payload])

/-- The GOAWAY case of `handleFrame`. -/
def handleGoAway
    (conn : ServerConn Encoder Decoder)
    (frame : Frame) :
    Handled Encoder Decoder :=
  if frame.streamID ≠ 0 then
    (some (protocolError (numbered "GOAWAY on stream " frame.streamID)),
      conn)
  else if frame.payload.length < 8 then
    (some (.connection .frameSizeError
      (numbered "GOAWAY length " frame.payload.length)), conn)
  else (none, { conn with peerGoingAway := true }.closeFinishedLocked)

/-- The PRIORITY case of `handleFrame`. -/
def handlePriority
    (conn : ServerConn Encoder Decoder)
    (frame : Frame) :
    Handled Encoder Decoder :=
  if frame.streamID = 0 then
    (some (protocolError "PRIORITY on stream 0"), conn)
  else if frame.payload.length ≠ 5 then
    (some (.stream frame.streamID .frameSizeError), conn)
  else (none, conn)

/-- `handleFrame` for a frame that may stand here. -/
def dispatch
    (server : Server Encoder Decoder)
    (conn : ServerConn Encoder Decoder)
    (frame : Frame)
    (order : List Nat) : Handled Encoder Decoder :=
  if !conn.gotSettings &&
      (frame.typ != .settings || frame.has flagAck) then
    (some (protocolError
      "connection preface must be followed by SETTINGS"), conn)
  else
    let conn := { conn with gotSettings := true }
    match frame.typ with
    | .data => conn.handleData server frame
    | .headers => conn.handleHeaders server frame
    | .continuation => conn.handleContinuation server frame
    | .priority => conn.handlePriority frame
    | .rstStream => conn.handleRSTStream frame
    | .settings => conn.handleSettings server frame order
    | .pushPromise =>
      (some (protocolError "client sent PUSH_PROMISE"), conn)
    | .ping => conn.handlePing frame
    | .goAway => conn.handleGoAway frame
    | .windowUpdate => conn.handleWindowUpdate server frame order
    | .unknown => (none, conn)

/-- The stream whose header block a frame interrupts, if it does. -/
def interrupted
    (conn : ServerConn Encoder Decoder)
    (frame : Frame) :
    Option ClientID :=
  conn.contStream.filter fun id =>
    frame.typ != .continuation || frame.streamID != id

/-- `handleFrame`, for the streams in the given order. -/
def handleFrame
    (server : Server Encoder Decoder)
    (conn : ServerConn Encoder Decoder)
    (frame : Frame)
    (order : List Nat) : Handled Encoder Decoder :=
  match conn.interrupted frame with
  | some id =>
    (some (protocolError
      (numbered "expected CONTINUATION for stream " id)), conn)
  | none => conn.dispatch server frame order

/-- `feed` for one frame: handle it, and then its error. -/
def feed
    (server : Server Encoder Decoder)
    (conn : ServerConn Encoder Decoder)
    (frame : Frame)
    (order : List Nat) : ServerConn Encoder Decoder :=
  let handled :=
    { conn with received := conn.received ++ [frame] }.handleFrame server
      frame order
  handled.2.handleError handled.1

/-! ## Server push -/

/-- The method of a push, which is GET by default. -/
def pushMethod (method : Bytes) : Bytes :=
  if method = [] then ascii "GET" else method

/-- The authority and the path of a push; nothing stands for a target that is
refused. -/
def pushTarget
    (server : Server Encoder Decoder)
    (host target : Bytes) :
    Option (Bytes × Bytes) :=
  let scheme := if server.tls then ascii "https" else ascii "http"
  let parts :=
    if target.head? = some 47 then some (host, target)
    else
      match server.parse target with
      | none => none
      | some (found, authority, path) =>
        if found ≠ scheme ∨ authority = [] then none
        else some (authority, path)
  parts.filter fun part => server.parseRequestURI part.2

/-- The promised request. -/
def promisedRequest
    (method authority path : Bytes)
    (header : Header) :
    Request :=
  { method := method
    requestURI := path
    host := authority
    header := header.entries.foldl
      (fun collected entry =>
        let key := Http.canonicalHeaderKey entry.1
        collected.insert key (collected.values key ++ entry.2))
      ∅
    trailer := ∅ }

/-- The stream of a promised request, which carries a response only. -/
def promisedStream
    (conn : ServerConn Encoder Decoder)
    (request : Request) : ServerStream :=
  { req := some request
    pushed := true
    declared := some 0
    remoteDone := true
    sendWindow := conn.peerWindow
    served := true }

/-- The part of `push` under the lock. -/
def promise
    (server : Server Encoder Decoder)
    (conn : ServerConn Encoder Decoder)
    (id : Nat)
    (request : Request)
    (header : Header) : ServerConn Encoder Decoder :=
  let promised := conn.nextPushID
  let block := server.encode conn.enc
    ((ascii ":method", request.method, false) ::
      (ascii ":scheme", if server.tls then ascii "https" else ascii "http",
        false) ::
      (ascii ":authority", request.host, false) ::
      (ascii ":path", request.requestURI, false) :: outFields header)
  { conn.update promised (conn.promisedStream request) with
    nextPushID := promised + 2
    streams := promised :: conn.streams
    pushedStreams := conn.pushedStreams + 1
    enc := block.2 }.sendLocked
      (appendPushPromise id promised block.1 conn.peerMaxFrame)

/-- `push`. -/
def push
    (server : Server Encoder Decoder)
    (conn : ServerConn Encoder Decoder)
    (id : Nat)
    (method target : Bytes)
    (header : Header) :
    Except Refusal (ServerConn Encoder Decoder) :=
  match conn.table id with
  | none => .error .streamClosed
  | some st =>
    let method := pushMethod method
    let host := (st.req.map Request.host).getD []
    if st.pushed then .error .notSupported
    else if method ≠ ascii "GET" ∧ method ≠ ascii "HEAD" then
      .error .pushMethod
    else
      match pushTarget server host target with
      | none => .error .pushTarget
      | some (authority, path) =>
        if header.keys.any fun key =>
            pushForbiddenHeaders.contains (toLower key) then
          .error .pushHeader
        else if !checkHeader header then .error .invalidHeader
        else if !conn.pushEnabled then .error .notSupported
        else if conn.closed || conn.goingAway || st.reset then
          .error .streamClosed
        else if st.localDone then .error .pushAfterResponse
        else if conn.peerMaxPush ≤ conn.pushedStreams ∨
            maxStreamID < conn.nextPushID then
          .error .pushLimit
        else
          .ok (conn.promise server id
            (promisedRequest method authority path header) header)

/-! ## Steps -/

/-- A stream the handler was given. -/
def isServed
    (conn : ServerConn Encoder Decoder)
    (id : Nat) : Bool :=
  (conn.table id).any ServerStream.served

end ServerConn

/-- What can happen to a connection: a frame arrives, and the loops over the
map visit the streams in some order; bytes arrive that are no frame or no
preface; a handler responds, sends an interim response, or pushes; the
transport closes. -/
inductive Event where
  | frame (frame : Frame) (order : List Nat)
  | malformed (code : ErrorCode) (reason : String)
  | respond (id : Nat) (method : Bytes) (response : Response)
  | interim (id status : Nat) (header : Header)
  | push (id : Nat) (method target : Bytes) (header : Header)
  | shutdown

namespace ServerConn

variable {Encoder Decoder : Type}

/-- The connection after a call, which a refusal leaves as it was. -/
def after (conn : ServerConn Encoder Decoder) :
    Except Refusal (ServerConn Encoder Decoder) -> ServerConn Encoder Decoder
  | .ok next => next
  | .error _ => conn

section

variable (server : Server Encoder Decoder)

section

variable (conn : ServerConn Encoder Decoder)

/-- `Context.writeResponse` on a stream. -/
def writeResponse
    (id : Nat)
    (method : Bytes)
    (response : Response) : ServerConn Encoder Decoder :=
  conn.after (conn.respond server id method
    { response with
      statusCode :=
        if response.statusCode = 0 then 200 else response.statusCode })

/-- `Context.WriteInterim` on a stream. -/
def writeInterimResponse
    (id status : Nat)
    (header : Header) : ServerConn Encoder Decoder :=
  if status < 100 ∨ 199 < status ∨ status = 101 then conn
  else conn.after (conn.writeInterim server id status header)

/-- One step of a connection, if it is possible. -/
def step (event : Event) :
    Option (ServerConn Encoder Decoder) :=
  match event with
  | .frame frame order =>
    if order.isPerm conn.streams then some (conn.feed server frame order)
    else none
  | .malformed code reason => some (conn.fail code reason)
  | .respond id method response =>
    if conn.isServed id then
      some (conn.writeResponse server id method response)
    else none
  | .interim id status header =>
    if conn.isServed id then
      some (conn.writeInterimResponse server id status header)
    else none
  | .push id method target header =>
    if conn.isServed id then
      some (conn.after (conn.push server id method target header))
    else none
  | .shutdown => some conn.shutdown

/-- `newH2ServerConn` and `start`: the server's preface is sent. -/
def start : ServerConn Encoder Decoder :=
  { dec := server.newDecoder
    enc := server.newEncoder
    wire := [.settings false,
      .windowUpdate 0 (connWindow - defaultWindow).toNat] }

/-- The stream of the request that asked for the upgrade, whose client is
done. -/
def upgradedStream (request : Request) : ServerStream :=
  { req := some request
    recvWindow := streamWindow
    remoteDone := true
    sendWindow := conn.peerWindow
    served := true }

/-- `upgradeH2C`: the settings came in a header field, and the request that
asked for the upgrade is stream 1.  Settings that are refused leave the
connection with HTTP/1. -/
def upgrade
    (settings : Bytes)
    (request : Request) : Option (ServerConn Encoder Decoder) :=
  let applied := (start server).applySettingsLocked server settings
  match applied.1 with
  | some _ => none
  | none =>
    some
      { applied.2.update 1 (applied.2.upgradedStream request) with
        maxClientID := 1
        streams := [1]
        lastStreamID := 1 }

/-- A connection that has just been set up. -/
def IsStart : Prop :=
  conn = start server ∨
    ∃ settings request, upgrade server settings request = some conn

end

end

end ServerConn

/-! ## A small server and the frames of its clients -/

/-- A server of small bodies whose clients write literal fields. -/
def smallServer : Server Unit Unit where
  toCodec := literals
  maxBodyBytes := 100
  maxHeaderBytes := 1000
  maxStreams := 10
  tls := false
  parseRequestURI target := target.head? == some 47
  parse _ := none

/-- A frame without padding. -/
def frameOf
    (typ : FrameType)
    (flags : UInt8)
    (stream : Nat)
    (payload : Bytes) : Frame where
  typ := typ
  flags := flags
  streamID := stream
  payload := payload
  length := payload.length

/-- A small number in four bytes. -/
def fourBytes (number : UInt8) : Bytes :=
  [0, 0, 0, number]

/-- SETTINGS with an initial window of the given size. -/
def windowSetting (size : UInt8) : Frame :=
  frameOf .settings 0 0 ([0, 4] ++ fourBytes size)

/-- WINDOW_UPDATE. -/
def windowUpdate
    (stream : Nat)
    (increment : UInt8) : Frame :=
  frameOf .windowUpdate 0 stream (fourBytes increment)

/-- The HEADERS of a request in one frame. -/
def requestFrame
    (stream : Nat)
    (endStream : Bool)
    (method : String)
    (more : List (String × String)) : Frame :=
  frameOf .headers (if endStream then 0x5 else 0x4) stream
    (literalBlock ([(":method", method), (":scheme", "http"),
      (":authority", "host"), (":path", "/")] ++ more))

/-- A response with the given body. -/
def textResponse
    (body : String)
    (close : Bool) : Response where
  statusCode := 200
  header := ∅
  body := ascii body
  trailer := ∅
  close := close

end Http2
end Fib
