import Fib.Http.Response
import Fib.Library.Search

/-!
# The incremental request parser

`Parser` buffers what a connection receives until a whole request is there.
It finds the end of the header, has `net/http` read the header, and determines
from it where the request ends: with the header, after Content-Length bytes, or
where `chunkedEnd` finds the end of a chunked body.  What `net/http` makes of
the bytes of one request is a parameter.
-/

namespace Fib
namespace Http

open Lines Numeral Search

/-- What ends a call of the parser without a request. -/
inductive ParseError where
  | headerTooLarge
  | bodyTooLarge
  | malformed (detail : Bytes)
  | unsupportedTransferEncoding
deriving DecidableEq

/-- `err.Error()`. -/
def ParseError.message : ParseError -> Bytes
  | headerTooLarge => ascii "http: request header too large"
  | bodyTooLarge => ascii "http: request body too large"
  | malformed detail => ascii "http: malformed request: " ++ detail
  | unsupportedTransferEncoding =>
    ascii "http: malformed request: unsupported transfer encoding"

/-- A call returns an error, or panics on a slice out of range. -/
inductive Fault where
  | error (error : ParseError)
  | panic
deriving DecidableEq

/-- `http.Request` with its body as `io.ReadAll` reads it: the bytes, and the
error that ends them. -/
structure Incoming extends Request where
  requestURI : Bytes
  host : Bytes
  header : Header
  transferEncoding : List Bytes
  contentLength : Int
  body : Bytes
  bodyError : Option Bytes
  trailer : Header
deriving DecidableEq

/-- What `http.ReadRequest` makes of the bytes of one request: the request, or
the text of the error. -/
structure Reader where
  readRequest : Bytes -> Except Bytes Incoming

/-- The limits of `Config`. -/
structure Config where
  maxHeaderBytes : Int
  maxBodyBytes : Int
  header_lt : maxHeaderBytes < 2 ^ 63
  body_lt : maxBodyBytes < 2 ^ 63

/-- The limits a parser works with. -/
structure Limits where
  maxHeaderBytes : Nat
  maxBodyBytes : Nat
  header_pos : 0 < maxHeaderBytes
  body_pos : 0 < maxBodyBytes
  header_lt : maxHeaderBytes < 2 ^ 63
  body_lt : maxBodyBytes < 2 ^ 63

/-- `DefaultConfig`. -/
def defaultConfig : Config where
  maxHeaderBytes := 2 ^ 20
  maxBodyBytes := 16 * 2 ^ 20
  header_lt := by decide
  body_lt := by decide

/-- The limits `NewParser` settles on: a limit that is not positive is replaced
by the default. -/
def Config.limits (config : Config) : Limits where
  maxHeaderBytes :=
    if config.maxHeaderBytes ≤ 0 then defaultConfig.maxHeaderBytes.toNat
    else config.maxHeaderBytes.toNat
  maxBodyBytes :=
    if config.maxBodyBytes ≤ 0 then defaultConfig.maxBodyBytes.toNat
    else config.maxBodyBytes.toNat
  header_pos := by
    split
    · decide
    · omega
  body_pos := by
    split
    · decide
    · omega
  header_lt := by
    have bound := config.header_lt
    split
    · decide
    · omega
  body_lt := by
    have bound := config.body_lt
    split
    · decide
    · omega

/-- The value an `int64` holds after an operation whose exact result is
given. -/
def int64 (exact : Int) : Int :=
  exact.bmod (2 ^ 64)

theorem int64_of_fits
    (nonneg : 0 ≤ exact)
    (fits : exact < 2 ^ 63) :
    int64 exact = exact :=
  Int.bmod_eq_of_le (by omega) (by omega)

/-! ## Chunked bodies -/

/-- The empty line behind a header or a trailer, with the end of the line
before it. -/
def headerTerminator : Bytes := crlf ++ crlf

/-- `strconv.ParseUint(text, 16, 63)`. -/
def parseUint63 (text : Bytes) : Option Nat :=
  (parseDigits 16 text).bind fun number =>
    if number < 2 ^ 63 then some number else none

/-- The size a chunk's line gives, whose extensions begin at a semicolon. -/
def chunkSize (line : Bytes) : Option Nat :=
  parseUint63 (trimSpace (line.takeWhile (· != 59)))

/-- The end of the trailer that begins at the offset, behind the line of the
last chunk. -/
def trailerEnd
    (limits : Limits)
    (rest : Bytes)
    (offset : Nat) :
    Except ParseError (Option Nat) :=
  if 2 ≤ rest.length ∧ rest.take 2 = crlf then .ok (some (offset + 2))
  else
    match find headerTerminator rest with
    | some found =>
      if limits.maxHeaderBytes < found + 4 then .error .headerTooLarge
      else .ok (some (offset + found + 4))
    | none =>
      if limits.maxHeaderBytes < rest.length then .error .headerTooLarge
      else .ok none

/-- What one turn of the loop of `chunkedEnd` comes to: the loop ends, or a
chunk of the given size takes up the given number of bytes. -/
inductive ChunkTurn where
  | ended (result : Except ParseError (Option Nat))
  | chunk (size taken : Nat)

/-- One turn of the loop of `chunkedEnd`, on the bytes behind the offset. -/
def chunkTurn
    (limits : Limits)
    (rest : Bytes)
    (offset decoded : Nat) :
    ChunkTurn :=
  match find crlf rest with
  | none => .ended (.ok none)
  | some lineEnd =>
    match chunkSize (rest.take lineEnd) with
    | none => .ended (.error (.malformed (ascii "invalid chunk size")))
    | some size =>
      let content := rest.drop (lineEnd + 2)
      if size = 0 then
        .ended (trailerEnd limits content (offset + lineEnd + 2))
      else if limits.maxBodyBytes - decoded < size then
        .ended (.error .bodyTooLarge)
      else if content.length < size then .ended (.ok none)
      else if content.length < size + 2 then .ended (.ok none)
      else if (content.drop size).take 2 ≠ crlf then
        .ended (.error (.malformed (ascii "invalid chunk terminator")))
      else .chunk size (lineEnd + 2 + size + 2)

/-- The loop of `chunkedEnd`: the bytes behind the offset are handed on.  Every
turn takes some of them, so as much fuel as there are bytes is enough. -/
def chunkedEnd (limits : Limits) :
    Nat -> Bytes -> Nat -> Nat -> Except ParseError (Option Nat)
  | 0, _, _, _ => .ok none
  | fuel + 1, rest, offset, decoded =>
    match chunkTurn limits rest offset decoded with
    | .ended result => result
    | .chunk size taken =>
      chunkedEnd limits fuel (rest.drop taken) (offset + taken)
        (decoded + size)

/-! ## Frames -/

/-- `hasHeaderField`. -/
def hasHeaderField (header name : Bytes) : Bool :=
  (header.splitOn 10).any fun text =>
    decide (name.length < text.length) &&
      text[name.length]? == some colon &&
      equalFold (text.take name.length) name

/-- `frameInfo`. -/
structure FrameInfo where
  frameEnd : Int
  headerEnd : Nat
  chunked : Bool
  request : Incoming

/-- How far the request at the start of the buffer has arrived: a request whose
header is there may wait for its body. -/
inductive Frame where
  | incomplete (waiting : Option Incoming)
  | complete (frame : FrameInfo)

/-- The frame of a chunked request. -/
def chunkedFrame
    (limits : Limits)
    (buffer : Bytes)
    (headerEnd : Nat)
    (request : Incoming) : Except Fault Frame :=
  let rest := buffer.drop headerEnd
  match chunkedEnd limits rest.length rest headerEnd 0 with
  | .error error => .error (.error error)
  | .ok none => .ok (.incomplete (some request))
  | .ok (some frameEnd) =>
    if int64 (limits.maxBodyBytes + limits.maxHeaderBytes) <
        (frameEnd : Int) - headerEnd then
      .error (.error .bodyTooLarge)
    else .ok (.complete ⟨frameEnd, headerEnd, true, request⟩)

/-- The frame of a request whose header gives the length of its body. -/
def lengthFrame
    (limits : Limits)
    (buffer : Bytes)
    (headerEnd : Nat)
    (request : Incoming) : Except Fault Frame :=
  if request.contentLength < 0 then
    .ok (.complete ⟨headerEnd, headerEnd, false, request⟩)
  else if (limits.maxBodyBytes : Int) < request.contentLength then
    .error (.error .bodyTooLarge)
  else
    let frameEnd := int64 (headerEnd + request.contentLength)
    if (buffer.length : Int) < frameEnd then
      .ok (.incomplete (some request))
    else .ok (.complete ⟨frameEnd, headerEnd, false, request⟩)

/-- The frame of a request whose header ends at the given position. -/
def headerFrame
    (limits : Limits)
    (reader : Reader)
    (buffer : Bytes)
    (headerEnd : Nat) : Except Fault Frame :=
  let header := buffer.take headerEnd
  if limits.maxHeaderBytes < headerEnd then .error (.error .headerTooLarge)
  else
    match reader.readRequest header with
    | .error text =>
      if (find (ascii "unsupported transfer encoding") text).isSome then
        .error (.error .unsupportedTransferEncoding)
      else .error (.error (.malformed text))
    | .ok request =>
      -- The pooled reader is detached: the body comes with the frame.
      let request := { request with body := [], bodyError := none }
      if !request.protoAtLeast 1 1 &&
          hasHeaderField header (ascii "transfer-encoding") then
        .error (.error (.malformed
          (ascii "Transfer-Encoding in an HTTP/1.0 request")))
      else
        match request.transferEncoding with
        | [] => lengthFrame limits buffer headerEnd request
        | [coding] =>
          if !equalFold coding (ascii "chunked") then
            .error (.error .unsupportedTransferEncoding)
          else
            -- A request framed two ways ends the connection.
            chunkedFrame limits buffer headerEnd
              { request with
                close := request.close ||
                  hasHeaderField header (ascii "content-length") }
        | _ => .error (.error .unsupportedTransferEncoding)

/-- The frame of the request at the start of the buffer, given where its
header ends. -/
def frameAt
    (limits : Limits)
    (reader : Reader)
    (buffer : Bytes) :
    Option Nat -> Except Fault Frame
  | none =>
    if limits.maxHeaderBytes < buffer.length then
      .error (.error .headerTooLarge)
    else .ok (.incomplete none)
  | some headerEnd => headerFrame limits reader buffer headerEnd

/-- The request of a complete frame, with its body.  A chunked request is read
again, body and all. -/
def takeRequest
    (limits : Limits)
    (reader : Reader)
    (buffer : Bytes)
    (frame : FrameInfo) : Except Fault Incoming :=
  if frame.chunked then
    match reader.readRequest (buffer.take frame.frameEnd.toNat) with
    | .error text => .error (.error (.malformed text))
    | .ok request =>
      let limit := int64 (limits.maxBodyBytes + 1)
      let body := request.body.take limit.toNat
      -- A body that reaches the limit is not read to the error behind it.
      let readError :=
        if (request.body.length : Int) < limit then request.bodyError
        else none
      if limits.maxBodyBytes < body.length then
        .error (.error .bodyTooLarge)
      else
        match readError with
        | some text => .error (.error (.malformed text))
        | none =>
          .ok { request with
            close := request.close || frame.request.close
            body := body
            bodyError := none }
  else if 0 < frame.request.contentLength then
    if frame.frameEnd < frame.headerEnd then .error .panic
    else
      .ok { frame.request with
        body := (buffer.take frame.frameEnd.toNat).drop frame.headerEnd }
  else .ok frame.request

/-! ## The parser -/

/-- `Parser`. -/
structure Parser where
  buffer : Bytes := []
  headerScan : Nat := 0
  wantContinue : Bool := false
  continued : Bool := false
deriving DecidableEq

namespace Parser

/-- `expectContinue`, for a request that waits for its body. -/
def expectContinue (parser : Parser) : Option Incoming -> Parser
  | none => parser
  | some request =>
    if !parser.continued && request.protoAtLeast 1 1 &&
        equalFold ((request.header.values (ascii "Expect")).headD [])
          (ascii "100-continue") then
      { parser with continued := true, wantContinue := true }
    else parser

/-- `consume`. -/
def consume
    (parser : Parser)
    (count : Nat) : Parser :=
  { parser with
    buffer := parser.buffer.drop count
    headerScan := 0
    continued := false }

/-- `TakeBuffered`. -/
def takeBuffered (parser : Parser) : Parser × Bytes :=
  ({ parser with
      buffer := []
      headerScan := 0
      continued := false
      wantContinue := false }, parser.buffer)

/-- `frameLength`. -/
def frameLength
    (limits : Limits)
    (reader : Reader)
    (parser : Parser) :
    Parser × Except Fault Frame :=
  if parser.buffer.length < parser.headerScan then (parser, .error .panic)
  else
    let headerEnd :=
      (find headerTerminator (parser.buffer.drop parser.headerScan)).map
        (· + parser.headerScan + 4)
    match frameAt limits reader parser.buffer headerEnd with
    | .ok (.incomplete waiting) =>
      -- Without an end of the header the next search begins where one
      -- could still begin.
      let scan :=
        if headerEnd.isNone then parser.buffer.length - 3
        else parser.headerScan
      ({ parser with headerScan := scan }.expectContinue waiting,
        .ok (.incomplete waiting))
    | framed => (parser, framed)

/-- `FeedOne`: no request while the one at the start of the buffer is
incomplete. -/
def feedOne
    (limits : Limits)
    (reader : Reader)
    (parser : Parser)
    (data : Bytes) : Parser × Except Fault (Option Incoming) :=
  match frameLength limits reader
      { parser with buffer := parser.buffer ++ data } with
  | (parser, .error .panic) => (parser, .error .panic)
  | (parser, .error fault) =>
    ({ parser with buffer := [], headerScan := 0 }, .error fault)
  | (parser, .ok (.incomplete _)) => (parser, .ok none)
  | (parser, .ok (.complete frame)) =>
    match takeRequest limits reader parser.buffer frame with
    | .error .panic => (parser, .error .panic)
    | .error fault => ({ parser with buffer := [] }, .error fault)
    | .ok request =>
      (parser.consume frame.frameEnd.toNat, .ok (some request))

/-- The loop of `Feed`.  Every request takes at least one byte of the buffer,
so more fuel than there are bytes is enough; a panic leaves no value to
return. -/
def feedLoop
    (limits : Limits)
    (reader : Reader) :
    Nat -> Parser -> Bytes -> Parser × List Incoming × Option Fault
  | 0, parser, _ => (parser, [], none)
  | fuel + 1, parser, data =>
    match feedOne limits reader parser data with
    | (parser, .error fault) => (parser, [], some fault)
    | (parser, .ok none) => (parser, [], none)
    | (parser, .ok (some request)) =>
      if parser.buffer = [] then (parser, [request], none)
      else
        match feedLoop limits reader fuel parser [] with
        | (parser, _, some .panic) => (parser, [], some .panic)
        | (parser, requests, fault) =>
          (parser, request :: requests, fault)

/-- `Feed`. -/
def feed
    (limits : Limits)
    (reader : Reader)
    (parser : Parser)
    (data : Bytes) : Parser × List Incoming × Option Fault :=
  feedLoop limits reader (parser.buffer.length + data.length + 1) parser data

/-- Feed segments one after another, up to the first error. -/
def feedAll
    (limits : Limits)
    (reader : Reader) :
    Parser -> List Bytes -> Parser × List Incoming × Option Fault
  | parser, [] => (parser, [], none)
  | parser, segment :: segments =>
    match feed limits reader parser segment with
    | (parser, requests, some fault) => (parser, requests, some fault)
    | (parser, requests, none) =>
      let (parser, more, fault) :=
        feedAll limits reader parser segments
      (parser, requests ++ more, fault)

end Parser

end Http
end Fib
