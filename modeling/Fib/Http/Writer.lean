import Fib.Http.Response

/-!
# The response writer of an HTTP/1 request

A handler answers through its `Context`, either with a whole response or piece
by piece.  Each function below takes the context and returns it as the call
leaves it, with the error the call returns.  The connection is seen from
above: the bytes it has accepted, whether it still accepts any, and how the
calls still to come will fare.
-/

namespace Fib
namespace Http

open Lines Numeral Chunks

/-- How the connection answers a call of `SendFile`. -/
inductive FileOutcome where
  | accepted
  /-- The descriptor cannot be duplicated, before anything is queued. -/
  | refused
  /-- The socket fails. -/
  | broken
deriving DecidableEq, Repr

/-- A connection as its sender sees it, with the outcomes of the calls still
to come; calls beyond them succeed. -/
structure Conn where
  wire : Bytes := []
  isOpen : Bool := true
  sends : List Bool := []
  files : List FileOutcome := []
  flushes : List Bool := []
deriving DecidableEq, Repr

namespace Conn

section

variable (conn : Conn)

/-- `Connection.Send` and `SendOwned`: whatever makes a send fail also ends
the connection. -/
def send (data : Bytes) : Conn × Option Failure :=
  if data = [] then
    (conn, none)
  else if !conn.isOpen then
    (conn, some .connection)
  else if conn.sends.headD true then
    ({ conn with wire := conn.wire ++ data, sends := conn.sends.tail }, none)
  else
    ({ conn with isOpen := false, sends := conn.sends.tail },
      some .connection)

/-- `Connection.SendFile`: a descriptor that cannot be duplicated fails the
call and leaves the connection as it was. -/
def sendFile (content : Bytes) : Conn × Option Failure :=
  let later := { conn with files := conn.files.tail }
  if content = [] then
    (conn, none)
  else
    match conn.files.headD .accepted with
    | .refused => (later, some .connection)
    | .accepted =>
      if conn.isOpen then
        ({ later with wire := conn.wire ++ content }, none)
      else
        (later, some .connection)
    | .broken => ({ later with isOpen := false }, some .connection)

/-- `Connection.Flush`: a flush that fails leaves the connection to the round
that reads it. -/
def flush : Conn × Option Failure :=
  ({ conn with flushes := conn.flushes.tail },
    if conn.flushes.headD true then none else some .connection)

/-- `Connection.CloseAfterSend`. -/
def closeAfterSend : Conn :=
  { conn with isOpen := false }

/-- A send puts all of its data on the wire, or none of it. -/
theorem send_wire (data : Bytes) :
    (conn.send data).1.wire = conn.wire ++ data ∨ (conn.send data).1.wire = conn.wire := by
  unfold send
  grind

end

/-- A send that leaves the connection open succeeds. -/
theorem send_of_isOpen
    {conn after : Conn}
    {data : Bytes}
    (sent : conn.send data = (after, failed))
    (stillOpen : after.isOpen = true) :
    conn.isOpen = true ∧ failed = none ∧ after.wire = conn.wire ++ data := by
  unfold send at sent
  grind

@[simp] theorem send_files
    (conn : Conn)
    (data : Bytes) :
    (conn.send data).1.files = conn.files := by
  unfold send
  grind

@[simp] theorem send_flushes
    (conn : Conn)
    (data : Bytes) :
    (conn.send data).1.flushes = conn.flushes := by
  unfold send
  grind

/-- A file that leaves the connection open goes out whole, or is refused. -/
theorem sendFile_of_isOpen
    {conn after : Conn}
    {content : Bytes}
    (sent : conn.sendFile content = (after, failed))
    (stillOpen : after.isOpen = true) :
    conn.isOpen = true ∧ ((failed = none ∧ after.wire = conn.wire ++ content) ∨
      (failed ≠ none ∧ conn.files.headD .accepted = .refused ∧ after.wire = conn.wire)) := by
  unfold sendFile at sent
  grind

end Conn

/-- `responseWriter`; no declared length stands for a negative one. -/
structure Writer where
  header : Header := ∅
  sent : Header := ∅
  status : Nat := 0
  declared : Option Nat := none
  written : Nat := 0
  buf : Bytes := []
  committed : Bool := false
  chunked : Bool := false
  closeAfter : Bool := false
  trailers : List Bytes := []
  finished : Bool := false

/-- `Context` of an HTTP/1 request; a writer that was never asked for is an
unused one. -/
structure Context where
  conn : Conn
  request : Request
  wrote : Bool := false
  closing : Bool := false
  w : Writer := {}

/-- `writerBufferSize`. -/
def writerBufferSize : Nat := 4 * 2 ^ 10

/-- `minSendFileSize`. -/
def minSendFileSize : Nat := 16 * 2 ^ 10

/-- `announcedTrailers`. -/
def announcedTrailers (header : Header) : List Bytes :=
  (header.values (ascii "Trailer")).flatMap fun value =>
    ((splitComma value).map trimSpace |>.filter fun name =>
      name != [] && !forbiddenTrailer name).map canonicalHeaderKey

/-- `hasPrefixedTrailers`. -/
def hasPrefixedTrailers (header : Header) : Bool :=
  header.keys.any trailerPrefix.isPrefixOf

namespace Writer

/-- `responseWriter.sniff`. -/
def sniff
    (platform : Platform)
    (w : Writer) : Writer :=
  if !w.sent.has (ascii "Content-Type") && w.buf != [] &&
      statusHasBody w.status then
    { w with
      sent := w.sent.insert (ascii "Content-Type")
        [(platform.detectContentType (w.buf.take 512)).val] }
  else
    w

/-- Note the announced trailers and the media type before the head goes. -/
def prepare
    (platform : Platform)
    (w : Writer) : Writer :=
  { w with trailers := announcedTrailers w.sent }.sniff platform

/-- What the handler contributes to the trailers: values for the announced
names, and keys with the trailer prefix. -/
def trailerParts (w : Writer) : List (Bytes × List Bytes) :=
  let names := if w.committed then w.trailers else announcedTrailers w.sent
  (names.filter fun name => w.header.values name != []).map (fun name =>
    (name, w.header.values name)) ++
  (w.header.entries.filter fun entry =>
    trailerPrefix.isPrefixOf entry.1 &&
      !forbiddenTrailer (entry.1.drop trailerPrefix.length)).map fun entry =>
    (canonicalHeaderKey (entry.1.drop trailerPrefix.length), entry.2)

/-- `responseWriter.trailer`. -/
def trailer (w : Writer) : Header :=
  w.trailerParts.foldl
    (fun collected part =>
      collected.insert part.1 (collected.values part.1 ++ part.2))
    ∅

/-- How the head that is sent now frames the response. -/
def head
    (w : Writer)
    (request : Request)
    (final : Bool) : ResponseHead :=
  let head : ResponseHead := {
    status := w.status
    header := w.sent
    contentLength := none
    chunked := false
    trailers := []
    close := request.close ||
      headerHasToken w.sent (ascii "Connection") (ascii "close") }
  if !statusHasBody w.status then
    if w.status = 304 then { head with contentLength := w.declared } else head
  else if w.declared.isSome then
    { head with contentLength := w.declared }
  else if final && ((w.trailers == [] && !hasPrefixedTrailers w.header) ||
      !request.protoAtLeast 1 1) then
    if !request.isHead || 0 < w.written then
      { head with contentLength := some w.written }
    else
      head
  else if request.isHead then
    head
  else if request.protoAtLeast 1 1 then
    { head with chunked := true, trailers := w.trailers }
  else
    { head with close := true }

/-- The body held back, as the head sent with it frames it. -/
def heldBack
    (w : Writer)
    (chunked : Bool) : Bytes :=
  if w.buf = [] then [] else if chunked then chunk w.buf else w.buf

/-- The bytes that end a chunked body.  A trailer that cannot be written is
left out. -/
def ending (w : Writer) : Bytes :=
  match appendHeaderLines w.trailer fun _ => false with
  | .ok lines => lastChunk ++ lines ++ crlf
  | .error _ => lastChunk ++ crlf

end Writer

/-- The status line of an interim response. -/
def interimLine (status : Nat) : Bytes :=
  ascii "HTTP/1.1 " ++ digits 10 status ++ ascii " " ++ statusText status

namespace Context

section

variable (context : Context)

/-- `Context.WriteInterim`. -/
def writeInterim
    (status : Nat)
    (header : Header) :
    Context × Option Failure :=
  if status < 100 ∨ 199 < status ∨ status = 101 then
    (context, some (.invalidInterimStatus status))
  else if context.wrote ∨ context.w.status ≠ 0 then
    (context, some .interimAfterFinal)
  else if !context.request.protoAtLeast 1 1 then
    (context, some .notSupported)
  else
    match appendHeaderLines header fun _ => false with
    | .error failure => (context, some failure)
    | .ok lines =>
      let (conn, failed) := context.conn.send
        (interimLine status ++ crlf ++ lines ++ crlf)
      ({ context with conn := conn }, failed)

/-- Set the final status and take the copy of the header that goes out. -/
def setStatus (status : Nat) : Context :=
  let declared := declaredLength context.w.header
  { context with
    w := { context.w with
      status := status
      declared := declared
      sent :=
        if declared.isSome then context.w.header
        else context.w.header.erase (ascii "Content-Length") } }

/-- `Context.WriteHeader`, which panics on a status of other than three
digits. -/
def writeHeader (status : Nat) : Option Context :=
  if status < 100 ∨ 999 < status then
    none
  else if context.wrote ∨ context.w.status ≠ 0 then
    some context
  else if status < 200 ∧ status ≠ 101 then
    some (context.writeInterim status context.w.header).1
  else
    some (context.setStatus status)

/-- The header is sent with status 200 unless another was set. -/
def ensureStatus : Context :=
  if context.w.status = 0 then context.setStatus 200 else context

end

section

variable (platform : Platform)

/-- `Context.commit`. -/
def commit
    (final : Bool)
    (context : Context) :
    Context × Option Failure :=
  let w := context.w.prepare platform
  let head := w.head context.request final
  match appendResponseHead platform context.request head with
  | .error failure => ({ context with w := w }, some failure)
  | .ok out =>
    let context := { context with
      closing := head.close
      w := { w with
        committed := true
        chunked := head.chunked
        closeAfter := head.close
        buf := [] } }
    match context.conn.send (out ++ w.heldBack head.chunked) with
    | (conn, some failure) => ({ context with conn := conn }, some failure)
    | (conn, none) =>
      if final then
        ({ context with conn := conn }, none)
      else
        let (conn, failed) := conn.flush
        ({ context with conn := conn }, failed)

/-- `Context.sendBody`. -/
def sendBody
    (context : Context)
    (data : Bytes) : Context × Option Failure :=
  let (conn, failed) := context.conn.send
    (if context.w.chunked then chunk data else data)
  ({ context with conn := conn }, failed)

/-- Send the head unless it has gone already. -/
def ensureCommitted
    (final : Bool)
    (context : Context) :
    Context × Option Failure :=
  if !context.w.committed then context.commit platform final
  else (context, none)

/-- Add to the body of a response whose status is set. -/
def writeBody
    (context : Context)
    (data : Bytes) :
    Context × Nat × Option Failure :=
  if context.w.finished then
    (context, 0, some .responseWritten)
  else if !statusHasBody context.w.status then
    (context, 0, some .bodyNotAllowed)
  else if context.w.declared.any (· < context.w.written + data.length) then
    (context, 0, some .contentLength)
  else
    let context := { context with
      w := { context.w with written := context.w.written + data.length } }
    if context.request.isHead ∨ data = [] then
      (context, data.length, none)
    else if context.w.committed = false ∧
        context.w.buf.length + data.length ≤ writerBufferSize then
      ({ context with w := { context.w with buf := context.w.buf ++ data } },
        data.length, none)
    else
      match context.ensureCommitted platform false with
      | (context, some failure) => (context, 0, some failure)
      | (context, none) =>
        match context.sendBody data with
        | (context, some failure) => (context, 0, some failure)
        | (context, none) => (context, data.length, none)

/-- `Context.Write`, with the number of bytes it reports. -/
def write
    (context : Context)
    (data : Bytes) :
    Context × Nat × Option Failure :=
  if context.wrote then
    (context, 0, some .responseWritten)
  else
    context.ensureStatus.writeBody platform data

/-- `Context.FlushError`. -/
def flushError (context : Context) :
    Context × Option Failure :=
  if context.wrote then
    (context, some .responseWritten)
  else
    let context := context.ensureStatus
    if context.w.finished then
      (context, none)
    else if !context.w.committed then
      context.commit platform false
    else
      let (conn, failed) := context.conn.flush
      ({ context with conn := conn }, failed)

end

end Context

/-- What `ReadFrom` reads: the pieces that reading it yields, and the stretch
of a regular file it stands for when it is one. -/
structure Source where
  pieces : List Bytes
  file : Option Bytes

namespace Context

/-- `io.Copy` into the response, which stops at the first failed write. -/
def copy
    (platform : Platform)
    (context : Context) :
    List Bytes -> Context × Nat × Option Failure
  | [] => (context, 0, none)
  | piece :: rest =>
    if piece = [] then
      context.copy platform rest
    else
      match context.write platform piece with
      | (context, _, some failure) => (context, 0, some failure)
      | (context, count, none) =>
        let (context, more, failed) := context.copy platform rest
        (context, count + more, failed)

/-- A file that `ReadFrom` cannot or need not hand to `SendFile`. -/
def copiesFile
    (context : Context)
    (content : Bytes) : Bool :=
  context.request.isHead || context.w.finished ||
    (context.w.status != 0 && !statusHasBody context.w.status) ||
    content.length < minSendFileSize ||
    context.w.declared.any (· < context.w.written + content.length)

/-- Begin a response with the media type of the file that is its body. -/
def beginFile
    (platform : Platform)
    (context : Context)
    (content : Bytes) :
    Context :=
  if context.w.status = 0 then
    let header :=
      if !context.w.header.has (ascii "Content-Type") &&
          context.w.written == 0 then
        context.w.header.insert (ascii "Content-Type")
          [(platform.detectContentType (content.take 512)).val]
      else
        context.w.header
    { context with w := { context.w with header := header } }.setStatus 200
  else
    context

/-- Send a stretch of a file as part of a committed body. -/
def sendContent
    (context : Context)
    (content : Bytes) :
    Context × Nat × Option Failure :=
  let size :=
    if context.w.chunked then digits 16 content.length ++ crlf else []
  let ending := if context.w.chunked then crlf else []
  match context.conn.send size with
  | (conn, some failure) => ({ context with conn := conn }, 0, some failure)
  | (conn, none) =>
    match conn.sendFile content with
    | (conn, some failure) => ({ context with conn := conn }, 0, some failure)
    | (conn, none) =>
      match conn.send ending with
      | (conn, some failure) =>
        ({ context with conn := conn }, 0, some failure)
      | (conn, none) =>
        ({ context with
          conn := conn
          w := { context.w with
            written := context.w.written + content.length } },
          content.length, none)

/-- `Context.ReadFrom`. -/
def readFrom
    (platform : Platform)
    (context : Context)
    (source : Source) :
    Context × Nat × Option Failure :=
  if context.wrote then
    (context, 0, some .responseWritten)
  else
    match source.file with
    | none => context.copy platform source.pieces
    | some content =>
      if context.copiesFile content then
        context.copy platform source.pieces
      else
        match (context.beginFile platform content).ensureCommitted
            platform false with
        | (context, some failure) => (context, 0, some failure)
        | (context, none) => context.sendContent content

/-- A body that stays short of its declared length. -/
def leftShort (context : Context) : Bool :=
  context.w.declared.any (context.w.written < ·) &&
    !context.request.isHead && statusHasBody context.w.status

/-- End the body of a committed response. -/
def endBody (context : Context) : Context × Option Failure :=
  match context.conn.send
      (if context.w.chunked then context.w.ending else []) with
  | (conn, some failure) => ({ context with conn := conn }, some failure)
  | (conn, none) =>
    if context.w.closeAfter ∨ context.leftShort then
      ({ context with
        conn := conn.closeAfterSend
        wrote := true
        closing := true }, none)
    else
      ({ context with conn := conn, wrote := true }, none)

/-- `Context.Finish`. -/
def finish
    (platform : Platform)
    (context : Context) :
    Context × Option Failure :=
  if context.w.status = 0 ∨ context.w.finished ∨ context.wrote then
    (context, none)
  else
    let context := { context with w := { context.w with finished := true } }
    match context.ensureCommitted platform true with
    | (context, some failure) => (context, some failure)
    | (context, none) => context.endBody

/-- `Context.WriteResponse`. -/
def writeResponse
    (platform : Platform)
    (context : Context)
    (response : Response) : Context × Option Failure :=
  if context.w.status ≠ 0 ∨ context.wrote then
    (context, some .responseWritten)
  else
    let response := { response with
      statusCode :=
        if response.statusCode = 0 then 200 else response.statusCode }
    let closeConnection := response.close || context.request.close ||
      headerHasToken response.header (ascii "Connection") (ascii "close")
    match marshalResponse platform context.request response
        closeConnection with
    | .error failure => (context, some failure)
    | .ok data =>
      match context.conn.send data with
      | (conn, some failure) => ({ context with conn := conn }, some failure)
      | (conn, none) =>
        let context := { context with conn := conn, wrote := true }
        if closeConnection then
          ({ context with
            closing := true
            conn := context.conn.closeAfterSend }, none)
        else
          (context, none)

/-- `Context.Respond`. -/
def respond
    (platform : Platform)
    (context : Context)
    (status : Nat)
    (contentType body : Bytes) : Context × Option Failure :=
  context.writeResponse platform {
    statusCode := status
    header :=
      if contentType = [] then ∅
      else (∅ : Header).insert (ascii "Content-Type") [contentType]
    body := body
    trailer := ∅
    close := false }

end Context
end Http
end Fib
