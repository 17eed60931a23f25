import Fib.Http3.Frames

/-!
# A request stream of the server

The server reads a request off its stream: one HEADERS frame, DATA frames, and
perhaps a trailer.  The request goes to the handler when the stream ends; on
the way to that it may be rejected with a response, the stream may be reset,
or the connection may be closed.
-/

namespace Fib
namespace Http3

open Http2 (Request get declaredLength malformedLength)

/-- The limits of the server, and whether `url.ParseRequestURI` succeeds. -/
structure Server where
  maxHeaderBytes : Nat
  maxBodyBytes : Nat
  header_pos : 0 < maxHeaderBytes
  body_pos : 0 < maxBodyBytes
  parseRequestURI : Bytes -> Bool

/-- What a request stream can come to: the handler runs, an error is answered,
the stream is reset, or the connection is closed. -/
inductive Outcome where
  | handled (request : Request) (body : Bytes)
  | responded (status : Nat)
  | reset (code : ErrorCode)
  | closed (code : ErrorCode) (reason : Bytes)

/-- The part of `requestStream` that reading changes.  What the request came
to is kept with the flag that it is done; `continued` is the interim response
that was sent. -/
structure Reading where
  req : Option Request := none
  body : Bytes := []
  declared : Option Nat := none
  trailers : Bool := false
  done : Option Outcome := none
  continued : Bool := false

namespace Reading

/-- `requestStream.abort`. -/
def abort
    (reading : Reading)
    (code : ErrorCode) : Reading :=
  { reading with done := some (.reset code), body := [] }

/-- `requestStream.reject`. -/
def reject
    (reading : Reading)
    (status : Nat) : Reading :=
  { reading with done := some (.responded status), body := [] }

/-- `requestStream.onData`. -/
def onData
    (server : Server)
    (reading : Reading)
    (chunk : Bytes) :
    Reading × Option Failure :=
  if reading.done.isSome then (reading, none)
  else if reading.req.isNone || reading.trailers then
    (reading, some (.connection .frameUnexpected
      "DATA before HEADERS or after trailers"))
  else if server.maxBodyBytes < reading.body.length + chunk.length then
    (reading.reject 413, none)
  else ({ reading with body := reading.body ++ chunk }, none)

/-- `requestStream.onFrame` once it has built a request. -/
def begin
    (server : Server)
    (reading : Reading)
    (request : Request) :
    Reading :=
  let reading := { reading with req := some request }
  if malformedLength request.header then reading.abort .messageError
  else if (declaredLength request.header).any
      ((server.maxBodyBytes : Int) < ·) then
    reading.reject 413
  else
    { reading with
      declared := (declaredLength request.header).map Int.toNat
      continued := Http.equalFold (get request.header (ascii "Expect"))
        (ascii "100-continue") }

/-- `requestStream.onFrame` for a HEADERS frame whose fields are decoded. -/
def onFields
    (server : Server)
    (reading : Reading)
    (fields : List HeaderField) : Reading :=
  match reading.req with
  | some request =>
    match trailerFrom fields with
    | none => reading.abort .messageError
    | some trailer =>
      { reading with
        req := some { request with trailer := trailer }
        trailers := true }
  | none =>
    match newRequest server.parseRequestURI fields with
    | none => reading.abort .messageError
    | some request => reading.begin server request

/-- `requestStream.onFrame`. -/
def onFrame
    (server : Server)
    (reading : Reading)
    (typ : Nat)
    (payload : Bytes) : Reading × Option Failure :=
  if reading.done.isSome then (reading, none)
  else if typ = frameHeaders then
    if reading.trailers then
      (reading,
        some (.connection .frameUnexpected "HEADERS after trailers"))
    else
      match decodeFields payload server.maxHeaderBytes with
      | .error .tooLarge => (reading.reject 431, none)
      | .error error => (reading, some (.qpack error))
      | .ok fields => (reading.onFields server fields, none)
  else if controlFrame typ then
    (reading, some (.connection .frameUnexpected
      "control frame on a request stream"))
  else if reservedFrame typ then
    (reading, some (.connection .frameUnexpected "HTTP/2 frame type"))
  else (reading, none)

/-- `requestStream.finish`. -/
def finish
    (reading : Reading)
    (request : Request) : Reading :=
  if reading.declared.any (· ≠ reading.body.length) then
    reading.abort .messageError
  else
    { reading with done := some (.handled request reading.body), body := [] }

end Reading

/-- `requestStream`. -/
structure RequestStream where
  parser : FrameParser
  reading : Reading := {}
  remoteDone : Bool := false

/-- The callbacks of a request stream. -/
def callbacks (server : Server) : Callbacks Reading where
  onData := Reading.onData server
  onFrame := Reading.onFrame server

namespace RequestStream

/-- `newRequestStream`, for a stream that is not refused. -/
def new (server : Server) : RequestStream where
  parser := { maxFrame := server.maxHeaderBytes }

/-- The end of `requestStream.feed`, when the whole request has arrived. -/
def conclude (stream : RequestStream) : RequestStream × Option Failure :=
  let stream := { stream with remoteDone := true }
  if stream.parser.midFrame then
    (stream, some (.connection .frameError
      "request stream ended inside a frame"))
  else
    match stream.reading.req with
    | none =>
      ({ stream with reading := stream.reading.abort .requestIncomplete },
        none)
    | some request =>
      ({ stream with reading := stream.reading.finish request }, none)

/-- `requestStream.feed`; an error ends the connection. -/
def feed
    (server : Server)
    (stream : RequestStream)
    (data : Bytes)
    (fin : Bool) : RequestStream × Option Failure :=
  if stream.reading.done.isSome then (stream, none)
  else
    match stream.parser.feed (callbacks server) stream.reading data with
    | (parser, reading, some failure) =>
      ({ stream with parser := parser, reading := reading }, some failure)
    | (parser, reading, none) =>
      let stream := { stream with parser := parser, reading := reading }
      if !fin || reading.done.isSome then (stream, none)
      else stream.conclude

end RequestStream

/-! ## Calls -/

/-- The outcome that a closed connection is. -/
def closed (failure : Failure) : Outcome :=
  .closed (closeWith failure).1 (closeWith failure).2

/-- A stream and what it has come to, in order. -/
structure Served where
  stream : RequestStream
  outcomes : List Outcome := []

/-- One call of `feed`.  The connection may have been closed before: calls
that were queued by then are made all the same. -/
def Served.call
    (server : Server)
    (served : Served)
    (given : Bytes × Bool) :
    Served :=
  let (stream, failure) := served.stream.feed server given.1 given.2
  { stream := stream
    outcomes := served.outcomes ++
      (if served.stream.reading.done.isSome then []
        else stream.reading.done.toList) ++
      (failure.map closed).toList }

/-- What a request stream comes to. -/
def serve
    (server : Server)
    (calls : List (Bytes × Bool)) : Served :=
  calls.foldl (Served.call server) { stream := .new server }

/-- The calls for one STREAM frame that arrives in order: the data, and then
the end of the stream on its own. -/
def deliver
    (data : Bytes)
    (fin : Bool) : List (Bytes × Bool) :=
  (if data = [] then [] else [(data, false)]) ++
    if fin then [([], true)] else []

end Http3
end Fib
