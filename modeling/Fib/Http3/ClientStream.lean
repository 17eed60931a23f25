import Fib.Http2.Carriage
import Fib.Http3.Frames
import Mathlib.Data.List.Induction

/-!
# A request stream of the client

The client writes a request on its stream, in one HEADERS frame and at most
one DATA frame, and reads the response off it: interim responses, a HEADERS
frame, DATA frames, and perhaps a trailer.  The request is finished when the
stream ends, with the response or with an error.
-/

namespace Fib
namespace Http3

open Http2 (Outgoing FieldError)

/-! ## Requests -/

/-- `validMethod`. -/
def validMethod (method : Bytes) : Bool :=
  (method.all fun byte => 32 < byte && byte < 0x7f &&
    !(ascii "()<>@,;:\\\"/[]?=\x7b\x7d").contains byte) && method != []

/-- `requestFields`. -/
def requestFields (request : Outgoing) :
    Except FieldError (List HeaderField) :=
  if !validMethod request.methodOf then
    .error (.invalidMethod request.methodOf)
  else
    (request.fields (ascii "https") (ascii "Go-http-client/3")).map
      (List.map fun field => ⟨field.1, field.2⟩)

/-- The bytes that `clientStream.send` writes. -/
def send
    (fields : List HeaderField)
    (body : Bytes) : Bytes :=
  appendHeadersFrame
      (fieldSection (fields.map fun field => (field, sensitive field.name))) ++
    if body = [] then []
    else appendFrameHeader frameData body.length ++ body

/-! ## Responses -/

/-- The limits of the client. -/
structure Limits where
  maxResponseHeaderBytes : Nat
  maxResponseBodyBytes : Nat
  header_pos : 0 < maxResponseHeaderBytes
  body_pos : 0 < maxResponseBodyBytes

/-- The errors a request is finished with because of what its stream
carries. -/
inductive ClientError where
  | bodyTooLarge
  | headerTooLarge
  | malformedTrailers
  | malformedResponse (error : ResponseError)
  | noHeader
  | lengthMismatch
  | fields (error : Qpack.Error)
deriving DecidableEq

/-- What a stream can come to: the request is finished with a response and
its body or with an error, or the connection is closed. -/
inductive Ending where
  | finished (response : IncomingResponse) (body : Bytes)
  | failed (error : ClientError)
  | closed (code : ErrorCode) (reason : Bytes)

/-- The part of `clientStream` that reading changes.  What the request was
finished with is kept with the flag that it is done. -/
structure Awaiting where
  resp : Option IncomingResponse := none
  body : Bytes := []
  trailers : Bool := false
  done : Option Ending := none

namespace Awaiting

/-- `clientStream.fail`. -/
def fail
    (awaiting : Awaiting)
    (error : ClientError) : Awaiting :=
  { awaiting with done := some (.failed error), body := [] }

/-- `clientStream.onData`. -/
def onData
    (limits : Limits)
    (awaiting : Awaiting)
    (chunk : Bytes) :
    Awaiting × Option Failure :=
  if awaiting.done.isSome then (awaiting, none)
  else if awaiting.resp.isNone || awaiting.trailers then
    (awaiting, some (.connection .frameUnexpected
      "DATA before HEADERS or after trailers"))
  else if limits.maxResponseBodyBytes <
      awaiting.body.length + chunk.length then
    (awaiting.fail .bodyTooLarge, none)
  else ({ awaiting with body := awaiting.body ++ chunk }, none)

/-- `clientStream.onFrame` for a HEADERS frame whose fields are decoded. -/
def onFields
    (awaiting : Awaiting)
    (fields : List HeaderField) : Awaiting :=
  match awaiting.resp with
  | some resp =>
    match trailerFrom fields with
    | none => awaiting.fail .malformedTrailers
    | some trailer =>
      { awaiting with
        resp := some { resp with trailer := trailer }
        trailers := true }
  | none =>
    match newResponse fields with
    | .error error => awaiting.fail (.malformedResponse error)
    | .ok resp => { awaiting with resp := resp }

/-- `clientStream.onFrame`. -/
def onFrame
    (limits : Limits)
    (awaiting : Awaiting)
    (typ : Nat)
    (payload : Bytes) : Awaiting × Option Failure :=
  if awaiting.done.isSome then (awaiting, none)
  else if typ = frameHeaders then
    if awaiting.trailers then
      (awaiting,
        some (.connection .frameUnexpected "HEADERS after trailers"))
    else
      match decodeFields payload limits.maxResponseHeaderBytes with
      | .error .tooLarge => (awaiting.fail .headerTooLarge, none)
      | .error error => (awaiting, some (.qpack error))
      | .ok fields => (awaiting.onFields fields, none)
  else if typ = framePushPromise then
    (awaiting,
      some (.connection .idError "PUSH_PROMISE without MAX_PUSH_ID"))
  else if controlFrame typ then
    (awaiting, some (.connection .frameUnexpected
      "control frame on a request stream"))
  else if reservedFrame typ then
    (awaiting, some (.connection .frameUnexpected "HTTP/2 frame type"))
  else (awaiting, none)

/-- What `clientStream.complete` finishes the request with, for a request
with the given method. -/
def conclusion
    (method : Bytes)
    (awaiting : Awaiting) : Ending :=
  match awaiting.resp with
  | none => .failed .noHeader
  | some resp =>
    if bodyAllowed method resp.statusCode then
      if resp.contentLength.any (· ≠ awaiting.body.length) then
        .failed .lengthMismatch
      else
        .finished { resp with contentLength := some awaiting.body.length }
          awaiting.body
    else .finished resp awaiting.body

/-- `clientStream.complete`. -/
def complete
    (method : Bytes)
    (awaiting : Awaiting) : Awaiting :=
  { awaiting with done := some (awaiting.conclusion method), body := [] }

end Awaiting

/-- `clientStream`. -/
structure ClientStream where
  parser : FrameParser
  awaiting : Awaiting := {}

/-- The callbacks of a client's stream. -/
def clientCallbacks (limits : Limits) : Callbacks Awaiting where
  onData := Awaiting.onData limits
  onFrame := Awaiting.onFrame limits

/-- What an error of the parser or a callback means for the request: an error
of the connection closes it, any other finishes the request. -/
def Failure.ending : Failure -> Ending
  | .connection code reason => .closed code (ascii reason)
  | .qpack error => .failed (.fields error)

namespace ClientStream

/-- The stream of a new request. -/
def new (limits : Limits) : ClientStream where
  parser := { maxFrame := limits.maxResponseHeaderBytes }

/-- `clientStream.feed`, for a request with the given method.  The second part
of the result is what the connection is closed with, if it is. -/
def feed
    (limits : Limits)
    (method : Bytes)
    (stream : ClientStream)
    (data : Bytes)
    (fin : Bool) : ClientStream × Option (ErrorCode × Bytes) :=
  if stream.awaiting.done.isSome then (stream, none)
  else
    match stream.parser.feed (clientCallbacks limits) stream.awaiting data with
    | (parser, awaiting, some (.connection code reason)) =>
      ({ stream with parser := parser, awaiting := awaiting },
        some (code, ascii reason))
    | (parser, awaiting, some (.qpack error)) =>
      ({ stream with
        parser := parser, awaiting := awaiting.fail (.fields error) }, none)
    | (parser, awaiting, none) =>
      let stream := { stream with parser := parser, awaiting := awaiting }
      if !fin || awaiting.done.isSome then (stream, none)
      else if parser.midFrame then
        (stream,
          some (.frameError, ascii "response stream ended inside a frame"))
      else ({ stream with awaiting := awaiting.complete method }, none)

end ClientStream

/-- A stream, and what its connection was closed with, in order. -/
structure Received where
  stream : ClientStream
  closes : List (ErrorCode × Bytes) := []

/-- One call of `feed`. -/
def Received.call
    (limits : Limits)
    (method : Bytes)
    (received : Received)
    (given : Bytes × Bool) : Received :=
  let (stream, close) :=
    received.stream.feed limits method given.1 given.2
  { stream := stream, closes := received.closes ++ close.toList }

/-- What the stream of a request with the given method comes to. -/
def receive
    (limits : Limits)
    (method : Bytes)
    (calls : List (Bytes × Bool)) : Received :=
  calls.foldl (Received.call limits method) { stream := .new limits }

/-! ## The reader of client streams -/

/-- What a response has come to. -/
def endings : Verdicts Awaiting Ending where
  verdict := Awaiting.done
  failed := Failure.ending

/-- The reader that stops at the first ending. -/
def responseReader (limits : Limits) :
    FrameStream.Reader Awaiting Ending :=
  reader (clientCallbacks limits) endings

section Steady

variable {limits : Limits}
variable {awaiting : Awaiting}

theorem Awaiting.onFrame_of_done
    (done : awaiting.done.isSome = true)
    (typ : Nat)
    (payload : Bytes) :
    awaiting.onFrame limits typ payload = (awaiting, none) := by
  rw [Awaiting.onFrame, if_pos done]

theorem Awaiting.done_of_onFrame_failed
    {next : Awaiting}
    {typ : Nat}
    {payload : Bytes}
    {failure : Failure}
    (failed : awaiting.onFrame limits typ payload = (next, some failure)) :
    next.done = none := by
  unfold Awaiting.onFrame at failed
  split at failed
  · cases failed
  next undecided =>
  have undecided : awaiting.done = none := by simpa using undecided
  repeat' split at failed
  all_goals first
    | cases failed; exact undecided
    | cases failed

/-- The client puts the body of a response together. -/
theorem clientAccumulates (limits : Limits) :
    Accumulates (clientCallbacks limits) endings
      (fun awaiting => awaiting.resp.isNone || awaiting.trailers)
      (.connection .frameUnexpected "DATA before HEADERS or after trailers") Awaiting.body
      (fun awaiting piece => { awaiting with body := awaiting.body ++ piece })
      limits.maxResponseBodyBytes (·.fail .bodyTooLarge) (.failed .bodyTooLarge) where
  onData := fun _ _ => rfl
  verdict_stop := fun _ => rfl
  verdict_grow := fun _ _ => rfl
  misplaced_grow := fun _ _ => rfl
  body_grow := fun _ _ => rfl
  grow_grow := fun _ _ _ => by simp only [List.append_assoc]

theorem clientSteady (limits : Limits) :
    Steady (clientCallbacks limits) endings where
  data_keeps piece decided := (clientAccumulates limits).data_keeps decided piece
  frame_keeps typ payload decided :=
    Awaiting.onFrame_of_done (Option.isSome_iff_exists.mpr ⟨_, decided⟩) typ payload
  data_fails _ failed := (clientAccumulates limits).data_fails failed
  frame_fails _ _ failed := Awaiting.done_of_onFrame_failed failed

/-- A body may arrive in any pieces. -/
theorem clientAdditive (limits : Limits) : (responseReader limits).Additive :=
  (clientAccumulates limits).additive

end Steady

/-! ## Streams that are read to their end -/

/-- The stream stands where the reader does, and nothing has been decided. -/
structure StandsAt
    (limits : Limits)
    (received : Received)
    (position : FrameStream.Position Awaiting) : Prop where
  parser : received.stream.parser =
    ⟨position.rest, position.owed, limits.maxResponseHeaderBytes⟩
  awaiting : received.stream.awaiting = position.state
  undecided : position.state.done = none
  closes : received.closes = []

/-- A call that the reader goes on through. -/
theorem StandsAt.feed
    (stands : StandsAt limits received position)
    (isRead : FrameStream.read (responseReader limits)
      limits.maxResponseHeaderBytes position.state position.owed
      (position.rest ++ data) = .ok next) :
    StandsAt limits (received.call limits method (data, false)) next ∧
      (next.owed = 0 -> next.rest = [] -> (received.call limits method (data, true)).closes = [] ∧
          (received.call limits method (data, true)).stream.awaiting.done =
            some (next.state.conclusion method)) := by
  have fed : Fed endings limits.maxResponseHeaderBytes (FrameParser.feed (clientCallbacks limits)
        ⟨position.rest, position.owed, limits.maxResponseHeaderBytes⟩
        position.state data)
      (FrameStream.read (responseReader limits)
        limits.maxResponseHeaderBytes position.state position.owed
        (position.rest ++ data)) :=
    (clientSteady limits).feed stands.undecided
      ⟨position.rest, position.owed, limits.maxResponseHeaderBytes⟩ data
  rw [isRead] at fed
  obtain ⟨fed, still⟩ := fed
  have still : next.state.done = none := still
  unfold Received.call ClientStream.feed
  rw [stands.awaiting, stands.parser, stands.closes,
    if_neg (by simp [stands.undecided]), if_neg (by simp [stands.undecided]),
    fed]
  refine ⟨⟨rfl, rfl, still, rfl⟩, ?_⟩
  intro owed rest
  simp [still, FrameParser.midFrame, owed, rest, Awaiting.complete]

/-- A stream that is read to a frame boundary is concluded there, however it
is cut. -/
theorem receive_of_read
    {limits : Limits}
    (method : Bytes)
    {pieces : List Bytes}
    (isRead : FrameStream.read (responseReader limits)
      limits.maxResponseHeaderBytes {} 0 (pieces.flatten ++ last) = .ok ⟨state, 0, []⟩) :
    (receive limits method (pieces.map (fun piece => (piece, false)) ++ [(last, true)])).closes =
        [] ∧
      (receive limits method (pieces.map (fun piece => (piece, false)) ++
            [(last, true)])).stream.awaiting.done =
        some (state.conclusion method) := by
  -- what is read is cut into what the pieces give and what is left
  have reaches (given : List Bytes) (left : Bytes)
      (whole : given.flatten ++ left = pieces.flatten ++ last) :
      ∃ position, StandsAt limits (receive limits method (given.map fun piece => (piece, false)))
          position ∧
        FrameStream.read (responseReader limits)
            limits.maxResponseHeaderBytes position.state position.owed
            (position.rest ++ left) = .ok ⟨state, 0, []⟩ := by
    induction given using List.reverseRecOn generalizing left with
    | nil =>
      refine ⟨⟨{}, 0, []⟩, ⟨rfl, rfl, rfl, rfl⟩, ?_⟩
      rw [← isRead, ← whole]
      rfl
    | append_singleton given piece ih =>
      rw [List.flatten_append, List.flatten_singleton, List.append_assoc] at whole
      obtain ⟨position, stands, further⟩ :=
        ih (piece ++ left) whole
      rw [← List.append_assoc, FrameStream.read_append (clientAdditive limits)] at further
      cases stepped : FrameStream.read (responseReader limits)
          limits.maxResponseHeaderBytes position.state position.owed
          (position.rest ++ piece) with
      | error ending =>
        rw [stepped] at further
        cases further
      | ok next =>
        rw [stepped] at further
        refine ⟨next, ?_, further⟩
        rw [receive, List.map_append, List.foldl_append]
        exact (stands.feed stepped).1
  obtain ⟨position, stands, further⟩ := reaches pieces last rfl
  rw [receive, List.foldl_append]
  exact (stands.feed further).2 rfl rfl

/-- A stream on which the reader finds a message that is wrong fails the
request. -/
theorem receive_of_failed
    {limits : Limits}
    (method : Bytes)
    (isRead : FrameStream.read (responseReader limits) limits.maxResponseHeaderBytes {} 0 data =
      .error (.failed error)) :
    ∃ error, (receive limits method [(data, true)]).stream.awaiting.done =
      some (.failed error) := by
  have fed : Fed endings limits.maxResponseHeaderBytes
      (FrameParser.feed (clientCallbacks limits) (ClientStream.new limits).parser
        (ClientStream.new limits).awaiting data)
      (FrameStream.read (responseReader limits) limits.maxResponseHeaderBytes {} 0 data) :=
    (clientSteady limits).feed rfl (ClientStream.new limits).parser data
  rw [isRead] at fed
  change ∃ error, (ClientStream.feed limits method (.new limits) data true).1.awaiting.done = _
  unfold ClientStream.feed
  rw [if_neg (by simp [ClientStream.new])]
  generalize FrameParser.feed (clientCallbacks limits) (ClientStream.new limits).parser
    (ClientStream.new limits).awaiting data = result at fed ⊢
  obtain ⟨parser, awaiting, failure⟩ := result
  rcases fed with decided | ⟨-, given, isFailure, ends⟩
  · have isDone : awaiting.done = some (.failed error) := decided
    rcases failure with _ | ⟨code, reason⟩ | qpack
    · exact ⟨error, by simp [isDone]⟩
    · exact ⟨error, isDone⟩
    · exact ⟨_, rfl⟩
  · have isFailure : failure = some given := isFailure
    cases given with
    | connection code reason => cases ends
    | qpack qpack =>
      rw [isFailure]
      exact ⟨_, rfl⟩

end Http3
end Fib
