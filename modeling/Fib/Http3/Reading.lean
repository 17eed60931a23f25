import Fib.Http3.RequestStream
import Mathlib.Data.List.Induction

/-!
# Requests are read whole and once

What a request stream comes to first depends on its bytes and its end only,
not on how they are cut.  The handler runs at most once; as long as no call
follows one that closed the connection, it runs only for a stream that is a
request.
-/

namespace Fib
namespace Http3

open FrameStream (Frame Wire)
open Http2 (Request get declaredLength malformedLength)

/-! ## The reader of request streams -/

/-- What a request has come to. -/
def verdicts : Verdicts Reading Outcome where
  verdict := Reading.done
  failed := closed

/-- The reader that stops at the first outcome. -/
def requestReader (server : Server) : FrameStream.Reader Reading Outcome :=
  reader (callbacks server) verdicts

variable {server : Server} {reading : Reading}

theorem onFrame_of_done
    (done : reading.done.isSome = true)
    (typ : Nat)
    (payload : Bytes) :
    reading.onFrame server typ payload = (reading, none) := by
  rw [Reading.onFrame, if_pos done]

theorem done_of_onFrame_failed
    {reading next : Reading}
    {typ : Nat}
    {payload : Bytes}
    {failure : Failure}
    (failed : reading.onFrame server typ payload = (next, some failure)) :
    next.done = none := by
  unfold Reading.onFrame at failed
  split at failed
  · cases failed
  next undecided =>
  have undecided : reading.done = none := by simpa using undecided
  repeat' split at failed
  all_goals first
    | cases failed; exact undecided
    | cases failed

section

variable (server : Server)

/-- The server puts the body of a request together. -/
theorem accumulates :
    Accumulates (callbacks server) verdicts
      (fun reading => reading.req.isNone || reading.trailers)
      (.connection .frameUnexpected "DATA before HEADERS or after trailers") Reading.body
      (fun reading piece => { reading with body := reading.body ++ piece })
      server.maxBodyBytes (·.reject 413) (.responded 413) where
  onData := fun _ _ => rfl
  verdict_stop := fun _ => rfl
  verdict_grow := fun _ _ => rfl
  misplaced_grow := fun _ _ => rfl
  body_grow := fun _ _ => rfl
  grow_grow := fun _ _ _ => by simp only [List.append_assoc]

theorem steady : Steady (callbacks server) verdicts where
  data_keeps piece decided := (accumulates server).data_keeps decided piece
  frame_keeps typ payload decided :=
    onFrame_of_done (Option.isSome_iff_exists.mpr ⟨_, decided⟩) typ payload
  data_fails _ failed := (accumulates server).data_fails failed
  frame_fails _ _ failed := done_of_onFrame_failed failed

/-- A body may arrive in any pieces. -/
theorem additive : (requestReader server).Additive :=
  (accumulates server).additive

/-! ## The first outcome -/

/-- What a stream comes to when it ends where the reader stands. -/
def conclusion (position : FrameStream.Position Reading) : Outcome :=
  if 0 < position.owed ∨ position.rest ≠ [] then
    closed (.connection .frameError "request stream ended inside a frame")
  else
    match position.state.req with
    | none => .reset .requestIncomplete
    | some request =>
      if position.state.declared.any (· ≠ position.state.body.length) then
        .reset .messageError
      else .handled request position.state.body

/-- What a stream comes to first, as its bytes and its end tell. -/
def outcome
    (bytes : Bytes)
    (ended : Bool) :
    Option Outcome :=
  match FrameStream.read (requestReader server) server.maxHeaderBytes {} 0
      bytes with
  | .error outcome => some outcome
  | .ok position => if ended then some (conclusion position) else none

/-- The stream stands where the reader does and nothing has been decided, or
the first outcome is the reader's. -/
def Follows (served : Served) :
    Except Outcome (FrameStream.Position Reading) -> Prop
  | .ok position =>
    served.stream.parser =
        ⟨position.rest, position.owed, server.maxHeaderBytes⟩ ∧
      served.stream.reading = position.state ∧
      position.state.done = none ∧ served.outcomes = []
  | .error outcome => served.outcomes.head? = some outcome

end

variable {served : Served}

theorem head?_call
    (reached : served.outcomes.head? = some first)
    (given : Bytes × Bool) :
    (served.call server given).outcomes.head? = some first := by
  unfold Served.call
  cases outcomes : served.outcomes with
  | nil =>
    rw [outcomes] at reached
    cases reached
  | cons outcome rest =>
    rw [outcomes] at reached
    exact reached

theorem follows_new (server : Server) :
    Follows server { stream := .new server }
      (FrameStream.read (requestReader server) server.maxHeaderBytes {} 0 []) :=
  ⟨rfl, rfl, rfl, rfl⟩

section Feed

variable {server : Server}
variable {stream : RequestStream}

/-- The reader from where a stream stands. -/
def readOn
    (server : Server)
    (stream : RequestStream)
    (data : Bytes) :
    Except Outcome (FrameStream.Position Reading) :=
  FrameStream.read (requestReader server) stream.parser.maxFrame
    stream.reading stream.parser.dataLeft (stream.parser.buf ++ data)

variable {data : Bytes}

/-- A call that the reader goes on through. -/
theorem feed_of_ok
    (undecided : stream.reading.done = none)
    (isRead : readOn server stream data = .ok position)
    (fin : Bool) :
    position.state.done = none ∧ stream.feed server data fin =
        let next : RequestStream :=
          { stream with
            parser := ⟨position.rest, position.owed, stream.parser.maxFrame⟩
            reading := position.state }
        if fin then next.conclude else (next, none) := by
  have fed : Fed verdicts stream.parser.maxFrame
      (stream.parser.feed (callbacks server) stream.reading data)
      (readOn server stream data) :=
    (steady server).feed undecided stream.parser data
  rw [isRead] at fed
  obtain ⟨fed, still⟩ := fed
  have still : position.state.done = none := still
  rw [RequestStream.feed, if_neg (by simp [undecided]), fed]
  cases fin <;> simp [still]

/-- A call in which the reader comes to an outcome. -/
theorem feed_of_error
    (undecided : stream.reading.done = none)
    {outcome : Outcome}
    (isRead : readOn server stream data = .error outcome)
    (fin : Bool) :
    (stream.feed server data fin).1.reading.done = some outcome ∨
      ((stream.feed server data fin).1.reading.done = none ∧
        ((stream.feed server data fin).2.map closed) = some outcome) := by
  have fed : Fed verdicts stream.parser.maxFrame
      (stream.parser.feed (callbacks server) stream.reading data)
      (readOn server stream data) :=
    (steady server).feed undecided stream.parser data
  rw [isRead] at fed
  rw [RequestStream.feed, if_neg (by simp [undecided])]
  generalize stream.parser.feed (callbacks server) stream.reading data = result at fed
  obtain ⟨parser, reading, failure⟩ := result
  rcases fed with reached | ⟨still, failure, rfl, same⟩
  · have decided : reading.done = some outcome := reached
    cases failure with
    | none =>
      refine .inl ?_
      dsimp only
      rw [if_pos (by simp [decided])]
      exact decided
    | some failure => exact .inl decided
  · exact .inr ⟨still, congrArg some same⟩

/-- What a call adds in which the reader comes to an outcome. -/
theorem head?_call_of_error
    {served : Served}
    (undecided : served.stream.reading.done = none)
    (first : served.outcomes = [])
    {outcome : Outcome}
    (isRead : readOn server served.stream data = .error outcome)
    (fin : Bool) :
    (served.call server (data, fin)).outcomes.head? = some outcome := by
  have fed := feed_of_error undecided isRead fin
  unfold Served.call
  rw [first, undecided]
  generalize served.stream.feed server data fin = result at fed
  obtain ⟨stream, failure⟩ := result
  rcases fed with decided | ⟨still, same⟩
  · have decided : stream.reading.done = some outcome := decided
    simp [decided]
  · have still : stream.reading.done = none := still
    simp [still, same]

/-- Ending a stream decides it as its conclusion says. -/
theorem conclude_spec
    (undecided : position.state.done = none)
    (isParser : stream.parser = ⟨position.rest, position.owed, stream.parser.maxFrame⟩)
    (isReading : stream.reading = position.state) :
    stream.conclude.1.reading.done.toList ++ (stream.conclude.2.map closed).toList =
      [conclusion position] := by
  have boundary : stream.parser.midFrame = true ↔ 0 < position.owed ∨ position.rest ≠ [] := by
    rw [isParser]
    simp [FrameParser.midFrame, List.length_pos_iff]
  unfold RequestStream.conclude conclusion
  by_cases inside : 0 < position.owed ∨ position.rest ≠ []
  · rw [if_pos (boundary.mpr inside), if_pos inside]
    simp [isReading, undecided]
  rw [if_neg (fun mid => inside (boundary.mp mid)), if_neg inside, isReading]
  cases position.state.req with
  | none => rfl
  | some request =>
    dsimp only [Reading.finish]
    split
    · rfl
    · rfl

/-- What the last call adds when the reader goes through to the end. -/
theorem head?_call_of_ok
    (undecided : served.stream.reading.done = none)
    (first : served.outcomes = [])
    (isRead : readOn server served.stream data = .ok position) :
    (served.call server (data, true)).outcomes.head? = some (conclusion position) := by
  obtain ⟨still, fed⟩ := feed_of_ok undecided isRead true
  unfold Served.call
  rw [first, undecided, fed]
  rw [if_pos rfl]
  have concluded := @conclude_spec
    { served.stream with
      parser :=
        ⟨position.rest, position.owed, served.stream.parser.maxFrame⟩
      reading := position.state } position still rfl rfl
  simp only [Option.isSome_none, Bool.false_eq_true, if_false, List.nil_append]
  rw [concluded]
  rfl

end Feed

/-- Reading on from where the stream stands reads the bytes that follow. -/
theorem Follows.read_append
    (follows : Follows server served (.ok position))
    (before : FrameStream.read (requestReader server) server.maxHeaderBytes {} 0 bytes =
      .ok position)
    (piece : Bytes) :
    FrameStream.read (requestReader server) server.maxHeaderBytes {} 0 (bytes ++ piece) =
      readOn server served.stream piece := by
  rw [FrameStream.read_append (additive server), before, readOn, follows.1, follows.2.1]
  rfl

/-- A piece of the stream that does not end it. -/
theorem Follows.call
    (follows : Follows server served
      (FrameStream.read (requestReader server) server.maxHeaderBytes {} 0 bytes))
    (piece : Bytes) :
    Follows server (served.call server (piece, false))
      (FrameStream.read (requestReader server) server.maxHeaderBytes {} 0 (bytes ++ piece)) := by
  cases before : FrameStream.read (requestReader server) server.maxHeaderBytes {} 0 bytes with
  | error outcome =>
    rw [before] at follows
    rw [FrameStream.read_append (additive server), before]
    exact head?_call follows _
  | ok position =>
    rw [before] at follows
    rw [follows.read_append before]
    obtain ⟨parser, reading, undecided, none⟩ := follows
    rw [← reading] at undecided
    cases further : readOn server served.stream piece with
    | error outcome => exact head?_call_of_error undecided none further _
    | ok next =>
      obtain ⟨still, fed⟩ := feed_of_ok undecided further false
      refine ⟨?_, ?_, still, ?_⟩
      · simp only [Served.call, fed, parser]
        rfl
      · simp only [Served.call, fed]
        rfl
      · simp [Served.call, fed, none, undecided, still]

/-- The last call, which may end the stream. -/
theorem Follows.head?_call
    (follows : Follows server served
      (FrameStream.read (requestReader server) server.maxHeaderBytes {} 0
        bytes))
    (last : Bytes)
    (ended : Bool) :
    (served.call server (last, ended)).outcomes.head? = outcome server (bytes ++ last) ended := by
  cases ended with
  | false =>
    have next := follows.call last
    unfold outcome
    cases isRead : FrameStream.read (requestReader server)
        server.maxHeaderBytes {} 0 (bytes ++ last) with
    | error outcome =>
      rw [isRead] at next
      exact next
    | ok position =>
      rw [isRead] at next
      rw [next.2.2.2]
      rfl
  | true =>
    unfold outcome
    cases before : FrameStream.read (requestReader server) server.maxHeaderBytes {} 0 bytes with
    | error outcome =>
      rw [before] at follows
      rw [FrameStream.read_append (additive server), before]
      exact Http3.head?_call follows _
    | ok position =>
      rw [before] at follows
      rw [follows.read_append before]
      obtain ⟨-, reading, undecided, none⟩ := follows
      rw [← reading] at undecided
      cases further : readOn server served.stream last with
      | error outcome =>
        exact head?_call_of_error undecided none further _
      | ok next => exact head?_call_of_ok undecided none further

theorem serve_concat
    (server : Server)
    (calls : List (Bytes × Bool))
    (given : Bytes × Bool) :
    serve server (calls ++ [given]) = (serve server calls).call server given :=
  List.foldl_concat ..

theorem follows_serve
    (server : Server)
    (pieces : List Bytes) :
    Follows server (serve server (pieces.map fun piece => (piece, false)))
      (FrameStream.read (requestReader server) server.maxHeaderBytes {} 0 pieces.flatten) := by
  induction pieces using List.reverseRecOn with
  | nil => exact follows_new server
  | append_singleton pieces piece ih =>
    rw [List.map_append, List.map_singleton, serve_concat,
      List.flatten_append, List.flatten_singleton]
    exact ih.call piece

/-- The calls for a stream in pieces, of which the last may end it. -/
def cut
    (pieces : List Bytes)
    (last : Bytes)
    (ended : Bool) :
    List (Bytes × Bool) :=
  pieces.map (fun piece => (piece, false)) ++ [(last, ended)]

/-- A stream that is handed over in any pieces comes to what its bytes and its
end tell first. -/
theorem head?_serve
    (server : Server)
    (pieces : List Bytes)
    (last : Bytes)
    (ended : Bool) :
    (serve server (cut pieces last ended)).outcomes.head? =
      outcome server (pieces.flatten ++ last) ended := by
  rw [cut, serve_concat]
  exact (follows_serve server pieces).head?_call last ended

/-! ## Once -/

/-- The handler ran. -/
def Outcome.isHandled : Outcome -> Bool
  | .handled _ _ => true
  | _ => false

theorem feed_of_done
    {stream : RequestStream}
    (done : stream.reading.done.isSome = true)
    (data : Bytes)
    (fin : Bool) :
    stream.feed server data fin = (stream, none) := by
  rw [RequestStream.feed, if_pos done]

/-- Once a request is done, calls change nothing. -/
theorem call_of_done
    (done : served.stream.reading.done.isSome = true)
    (given : Bytes × Bool) :
    served.call server given = served := by
  unfold Served.call
  rw [feed_of_done done]
  simp [done]

/-- The handler ran at most once, and the request is done if it did. -/
structure Once (served : Served) : Prop where
  once : served.outcomes.countP Outcome.isHandled ≤ 1
  done : served.outcomes.any Outcome.isHandled = true ->
    served.stream.reading.done.isSome = true

theorem Once.call
    (once : Once served)
    (given : Bytes × Bool) :
    Once (served.call server given) := by
  cases done : served.stream.reading.done with
  | some outcome =>
    rw [call_of_done (by simp [done])]
    exact once
  | none =>
    have fresh : served.outcomes.any Outcome.isHandled = false := by
      cases ran : served.outcomes.any Outcome.isHandled with
      | false => rfl
      | true => simpa [done] using once.done ran
    have never : served.outcomes.countP Outcome.isHandled = 0 := by
      simpa using fresh
    have noClose (failure : Option Failure) :
        (failure.map closed).toList.countP Outcome.isHandled = 0 ∧
          (failure.map closed).toList.any Outcome.isHandled = false := by
      cases failure <;> exact ⟨rfl, rfl⟩
    unfold Served.call
    generalize served.stream.feed server given.1 given.2 = result
    obtain ⟨stream, failure⟩ := result
    rw [done]
    constructor
    · simp only [List.countP_append, never, (noClose failure).1]
      cases stream.reading.done with
      | none => exact Nat.zero_le 1
      | some outcome => cases outcome <;> simp [Outcome.isHandled]
    · simp only [List.any_append, fresh, (noClose failure).2]
      cases stream.reading.done with
      | none => exact nofun
      | some outcome => exact fun _ => rfl

theorem once_serve
    (server : Server)
    (calls : List (Bytes × Bool)) :
    Once (serve server calls) := by
  induction calls using List.reverseRecOn with
  | nil => exact ⟨Nat.zero_le 1, nofun⟩
  | append_singleton calls given ih =>
    rw [serve_concat]
    exact ih.call given

/-! ## Whole -/

/-- A frame that is part of a message. -/
def isMessage (frame : Frame) : Bool :=
  frame.typ == frameData || frame.typ == frameHeaders

/-- A frame of a type that is neither known nor reserved. -/
def isUnknown (frame : Frame) : Bool :=
  !isMessage frame && !controlFrame frame.typ && !reservedFrame frame.typ

/-- The request that header and trailer blocks stand for. -/
def Builds
    (server : Server)
    (header : Bytes)
    (trailer : Option Bytes)
    (start request : Request) : Prop :=
  (∃ fields, decodeFields header server.maxHeaderBytes = .ok fields ∧
    newRequest server.parseRequestURI fields = some start) ∧
  match trailer with
  | none => request = start
  | some block =>
    ∃ fields added, decodeFields block server.maxHeaderBytes = .ok fields ∧
      trailerFrom fields = some added ∧
      request = { start with trailer := added }

/-- Frames that are one request: HEADERS, then DATA, then perhaps a trailer,
with frames of unknown types anywhere.  The body is what the DATA frames hold,
is no longer than allowed, and is as long as the Content-Length says. -/
def IsRequest
    (server : Server)
    (frames : List Frame)
    (request : Request)
    (body : Bytes) : Prop :=
  ∃ (header : Bytes) (pieces : List Bytes) (trailer : Option Bytes)
      (start : Request),
    frames.filter isMessage =
        ⟨frameHeaders, header⟩ :: pieces.map (Frame.mk frameData) ++
          (trailer.map (Frame.mk frameHeaders)).toList ∧
      (∀ frame ∈ frames, isMessage frame = true ∨ isUnknown frame = true) ∧
      Builds server header trailer start request ∧
      body = pieces.flatten ∧ body.length ≤ server.maxBodyBytes ∧
      (get start.header (ascii "Content-Length") ≠ [] ->
        declaredLength start.header = some (body.length : Int))

/-- Where reading stands behind the frames of a message. -/
def Stands
    (server : Server)
    (message : List Frame)
    (reading : Reading) :
    Prop :=
  match reading.req with
  | none =>
    message = [] ∧ reading.body = [] ∧ reading.trailers = false
  | some request =>
    ∃ (header : Bytes) (pieces : List Bytes) (trailer : Option Bytes)
        (start : Request),
      message =
          ⟨frameHeaders, header⟩ :: pieces.map (Frame.mk frameData) ++
            (trailer.map (Frame.mk frameHeaders)).toList ∧
        Builds server header trailer start request ∧
        reading.trailers = trailer.isSome ∧
        reading.body = pieces.flatten ∧
        reading.body.length ≤ server.maxBodyBytes ∧
        malformedLength start.header = false ∧
        reading.declared = (declaredLength start.header).map Int.toNat

theorem judge_eq_ok (judged : verdicts.judge result = .ok next) :
    result = (next, none) ∧ next.done = none := by
  obtain ⟨reading, failure⟩ := result
  cases failure with
  | some failure => cases judged
  | none =>
    cases decided : reading.done with
    | some outcome =>
      simp only [Verdicts.judge, verdicts, decided] at judged
      cases judged
    | none =>
      simp only [Verdicts.judge, verdicts, decided] at judged
      cases judged
      exact ⟨rfl, decided⟩

section Steps

variable {server : Server}
variable {message : List Frame}
variable {reading next : Reading}

theorem Stands.onData
    (stands : Stands server message reading)
    (undecided : reading.done = none)
    (fed : reading.onData server chunk = (next, none))
    (still : next.done = none) :
    Stands server (message ++ [⟨frameData, chunk⟩]) next := by
  unfold Reading.onData at fed
  rw [if_neg (by simp [undecided])] at fed
  split at fed
  · cases fed
  next placed =>
  split at fed
  · cases fed
    cases still
  next fits =>
  cases fed
  unfold Stands at stands ⊢
  cases isReq : reading.req with
  | none => simp [isReq] at placed
  | some request =>
    rw [isReq] at stands
    obtain ⟨header, pieces, trailer, start, isMessage, builds,
      isTrailer, isBody, -, wellFormed, isDeclared⟩ := stands
    have noTrailer : trailer = none := by
      cases trailer with
      | none => rfl
      | some block => simp [isTrailer] at placed
    subst noTrailer
    refine ⟨header, pieces ++ [chunk], none, start, ?_, builds,
      isTrailer, ?_, ?_, wellFormed, isDeclared⟩
    · rw [isMessage]
      simp
    · rw [isBody]
      simp
    · rw [List.length_append]
      exact Nat.not_lt.mp fits

theorem Stands.begin
    (decoded : decodeFields header server.maxHeaderBytes = .ok fields)
    (built : newRequest server.parseRequestURI fields = some request)
    (empty : reading.body = [])
    (noTrailer : reading.trailers = false)
    (still : (reading.begin server request).done = none) :
    Stands server [⟨frameHeaders, header⟩] (reading.begin server request) := by
  unfold Reading.begin at still ⊢
  split at still
  · cases still
  next wellFormed =>
  split at still
  · cases still
  next fits =>
  rw [if_neg wellFormed, if_neg fits]
  refine ⟨header, [], none, request, rfl, ⟨⟨fields, decoded, built⟩,
    rfl⟩, noTrailer, empty, ?_, by simpa using wellFormed, rfl⟩
  rw [empty]
  exact Nat.zero_le _

theorem Stands.onFields
    (stands : Stands server message reading)
    (inTime : reading.trailers = false)
    (decoded : decodeFields block server.maxHeaderBytes = .ok fields)
    (still : (reading.onFields server fields).done = none) :
    Stands server (message ++ [⟨frameHeaders, block⟩]) (reading.onFields server fields) := by
  unfold Stands at stands
  unfold Reading.onFields at still ⊢
  cases isReq : reading.req with
  | none =>
    rw [isReq] at stands still
    obtain ⟨rfl, empty, noTrailer⟩ := stands
    cases built : newRequest server.parseRequestURI fields with
    | none =>
      rw [built] at still
      cases still
    | some request =>
      rw [built] at still
      exact Stands.begin decoded built empty noTrailer still
  | some request =>
    rw [isReq] at stands still
    obtain ⟨header, pieces, trailer, start, isMessage, builds, isTrailer,
      isBody, fits, wellFormed, isDeclared⟩ := stands
    have noTrailer : trailer = none := by
      cases trailer with
      | none => rfl
      | some block =>
        rw [isTrailer] at inTime
        cases inTime
    subst noTrailer
    cases added : trailerFrom fields with
    | none =>
      rw [added] at still
      cases still
    | some trailer =>
      refine ⟨header, pieces, some block, start, ?_, ⟨builds.1, fields,
        trailer, decoded, added, ?_⟩, rfl, isBody, fits, wellFormed,
        isDeclared⟩
      · rw [isMessage]
        simp
      · have same : request = start := builds.2
        rw [same]

/-- One frame: a part of the message, or a frame of an unknown type. -/
theorem Stands.step
    (stands : Stands server message reading)
    (undecided : reading.done = none)
    (stepped : (requestReader server).step reading frame = .ok next) :
    next.done = none ∧ ((isMessage frame = true ∧ Stands server (message ++ [frame]) next) ∨
        (isMessage frame = false ∧ isUnknown frame = true ∧ Stands server message next)) := by
  obtain ⟨typ, payload⟩ := frame
  unfold FrameStream.Reader.step at stepped
  by_cases isData : typ = 0
  · subst isData
    obtain ⟨fed, still⟩ := judge_eq_ok stepped
    exact ⟨still, .inl ⟨rfl, stands.onData undecided fed still⟩⟩
  rw [if_neg isData] at stepped
  obtain ⟨fed, still⟩ := judge_eq_ok stepped
  change reading.onFrame server typ payload = _ at fed
  refine ⟨still, ?_⟩
  unfold Reading.onFrame at fed
  rw [if_neg (by simp [undecided])] at fed
  by_cases isHeaders : typ = frameHeaders
  · subst isHeaders
    rw [if_pos rfl] at fed
    split at fed
    · cases fed
    next inTime =>
    cases decoded : decodeFields payload server.maxHeaderBytes with
    | error error =>
      rw [decoded] at fed
      cases error with
      | tooLarge =>
        cases fed
        cases still
      | decompression => cases fed
    | ok fields =>
      rw [decoded] at fed
      cases fed
      exact .inl ⟨rfl, stands.onFields (by simpa using inTime) decoded still⟩
  rw [if_neg isHeaders] at fed
  split at fed
  · cases fed
  next noControl =>
  split at fed
  · cases fed
  next noReserved =>
  cases fed
  have other : isMessage ⟨typ, payload⟩ = false := by
    simp [isMessage, frameData, isData, isHeaders]
  refine .inr ⟨other, ?_, stands⟩
  simp [isUnknown, other, noControl, noReserved]

end Steps

/-- Frame after frame. -/
theorem Stands.foldlM
    {server : Server}
    {message frames : List Frame}
    {reading next : Reading}
    (stands : Stands server message reading)
    (undecided : reading.done = none)
    (folded : frames.foldlM (requestReader server).step reading = .ok next) :
    Stands server (message ++ frames.filter isMessage) next ∧
      ∀ frame ∈ frames, isMessage frame = true ∨ isUnknown frame = true := by
  induction frames generalizing message reading with
  | nil =>
    cases folded
    rw [List.filter_nil, List.append_nil]
    exact ⟨stands, nofun⟩
  | cons frame frames ih =>
    rw [List.foldlM_cons] at folded
    cases stepped : (requestReader server).step reading frame with
    | error outcome =>
      rw [stepped] at folded
      cases folded
    | ok middle =>
      rw [stepped] at folded
      obtain ⟨still, ⟨part, further⟩ | ⟨other, unknown, further⟩⟩ :=
        stands.step undecided stepped
      · obtain ⟨last, rest⟩ := ih further still folded
        rw [List.append_assoc] at last
        rw [List.filter_cons_of_pos part]
        exact ⟨last, List.forall_mem_cons.mpr ⟨.inl part, rest⟩⟩
      · obtain ⟨last, rest⟩ := ih further still folded
        rw [List.filter_cons_of_neg (by simp [other])]
        exact ⟨last, List.forall_mem_cons.mpr ⟨.inr unknown, rest⟩⟩

theorem onData_done
    (undecided : reading.done = none)
    (chunk : Bytes) :
    ((reading.onData server chunk).1.done.all fun outcome => !outcome.isHandled) = true := by
  unfold Reading.onData
  rw [if_neg (by simp [undecided])]
  split
  · simp [undecided]
  · split
    · rfl
    · simp [undecided]

theorem onFields_done
    (undecided : reading.done = none)
    (fields : List HeaderField) :
    ((reading.onFields server fields).done.all fun outcome => !outcome.isHandled) = true := by
  unfold Reading.onFields
  split
  · split
    · rfl
    · simp [undecided]
  split
  · rfl
  unfold Reading.begin
  split
  · rfl
  · split
    · rfl
    · simp [undecided]

theorem onFrame_done
    (undecided : reading.done = none)
    (typ : Nat)
    (payload : Bytes) :
    ((reading.onFrame server typ payload).1.done.all fun outcome => !outcome.isHandled) = true := by
  unfold Reading.onFrame
  rw [if_neg (by simp [undecided])]
  split
  · split
    · simp [undecided]
    · split
      · rfl
      · simp [undecided]
      · exact onFields_done undecided _
  split
  · simp [undecided]
  · split
    · simp [undecided]
    · simp [undecided]

/-- A callback leaves the request undecided, or comes to an outcome other than
the handler. -/
theorem keeps_judge
    (noHandler : (result.1.done.all fun outcome => !outcome.isHandled) = true) :
    FrameStream.Keeps (fun reading => reading.done = none)
      (fun outcome => outcome.isHandled = false) (verdicts.judge result) := by
  obtain ⟨reading, failure⟩ := result
  cases failure with
  | some failure => rfl
  | none =>
    cases decided : reading.done with
    | none =>
      simp only [Verdicts.judge, verdicts, decided]
      exact decided
    | some outcome =>
      have other : outcome.isHandled = false := by
        simpa [decided] using noHandler
      simp only [Verdicts.judge, verdicts, decided]
      exact other

/-- The reader itself never comes to the handler: only the end of a stream
does. -/
theorem not_handled_of_read
    {outcome : Outcome}
    (reached : FrameStream.read (requestReader server) server.maxHeaderBytes
      {} 0 bytes = .error outcome) :
    outcome.isHandled = false :=
  @FrameStream.outcome_of_readLoop Reading Outcome (requestReader server) _
    (fun reading => reading.done = none) (fun outcome => outcome.isHandled = false)
    (fun _ piece undecided => keeps_judge (onData_done undecided piece))
    (fun _ typ payload undecided =>
      keeps_judge (onFrame_done undecided typ payload))
    rfl _ _ rfl _ _ _ reached

/-- What is declared is the length of the body. -/
theorem declaredLength_of_any_ne
    (wellFormed : malformedLength header = false)
    (same : ¬((declaredLength header).map Int.toNat).any (· ≠ length) = true)
    (present : get header (ascii "Content-Length") ≠ []) :
    declaredLength header = some (length : Int) := by
  unfold malformedLength at wellFormed
  cases declared : declaredLength header with
  | none => simp [declared, present] at wellFormed
  | some number =>
    rw [declared] at same wellFormed
    have positive : 0 ≤ number := by simpa [present] using wellFormed
    have equal : number.toNat = length := by simpa using same
    congr 1
    omega

/-- A stream that the handler runs for first is a request. -/
theorem isRequest_of_outcome
    (handled : outcome server bytes ended = some (.handled request body)) :
    ended = true ∧
      ∃ frames, Wire bytes frames ∧ IsRequest server frames request body := by
  unfold outcome at handled
  cases isRead : FrameStream.read (requestReader server) server.maxHeaderBytes {} 0 bytes with
  | error outcome =>
    rw [isRead] at handled
    cases handled
    cases not_handled_of_read isRead
  | ok position =>
    rw [isRead] at handled
    cases ended with
    | false => cases handled
    | true =>
      refine ⟨rfl, ?_⟩
      have concluded : conclusion position = .handled request body := by
        simpa using handled
      obtain ⟨reading, owed, rest⟩ := position
      unfold conclusion at concluded
      split at concluded
      · cases concluded
      next boundary =>
      obtain ⟨rfl, rfl⟩ : owed = 0 ∧ rest = [] := by
        simpa [not_or] using boundary
      obtain ⟨payload, bytes, frames, rfl, isNil, wire, folded⟩ :=
        FrameStream.wire_of_read (additive server) isRead
      obtain rfl := List.eq_nil_of_length_eq_zero isNil
      obtain ⟨stands, kinds⟩ :=
        @Stands.foldlM server [] frames {} reading ⟨rfl, rfl, rfl⟩ rfl folded
      refine ⟨frames, wire, ?_⟩
      unfold Stands at stands
      cases isReq : reading.req with
      | none =>
        rw [isReq] at concluded
        cases concluded
      | some found =>
        rw [isReq] at concluded stands
        dsimp only at concluded
        split at concluded
        · cases concluded
        next same =>
        cases concluded
        obtain ⟨header, pieces, trailer, start, isMessage,
          builds, -, isBody, fits, wellFormed, isDeclared⟩ :=
          stands
        refine ⟨header, pieces, trailer, start, isMessage, kinds, builds, isBody, fits, ?_⟩
        rw [isDeclared] at same
        exact declaredLength_of_any_ne wellFormed same

/-! ## Calls behind a closed connection -/

/-- The connection was closed. -/
def Outcome.isClosed : Outcome -> Bool
  | .closed _ _ => true
  | _ => false

/-- No call follows one that closed the connection. -/
def Quiet
    (server : Server)
    (calls : List (Bytes × Bool)) : Prop :=
  ∀ before given after, calls = before ++ given :: after ->
    (serve server before).outcomes.any Outcome.isClosed = false

/-- The handler ran first if it ran, and nothing but a closed connection
leaves the request undone. -/
structure Orderly (served : Served) : Prop where
  first : ∀ outcome ∈ served.outcomes, outcome.isHandled = true ->
    served.outcomes.head? = some outcome
  undone : served.stream.reading.done = none ->
    ∀ outcome ∈ served.outcomes, outcome.isClosed = true

theorem Orderly.call
    (orderly : Orderly served)
    (quiet : served.outcomes.any Outcome.isClosed = false)
    (given : Bytes × Bool) :
    Orderly (served.call server given) := by
  cases done : served.stream.reading.done with
  | some outcome =>
    rw [call_of_done (by simp [done])]
    exact orderly
  | none =>
    have nothing : served.outcomes = [] := by
      rw [List.eq_nil_iff_forall_not_mem]
      intro outcome present
      have isClosed := orderly.undone done outcome present
      rw [List.any_eq_false] at quiet
      exact quiet outcome present isClosed
    unfold Served.call
    dsimp only
    generalize served.stream.feed server given.1 given.2 = result
    obtain ⟨stream, failure⟩ := result
    rw [done, nothing]
    cases isDone : stream.reading.done with
    | none =>
      cases failure with
      | none => exact ⟨by simp, by simp [isDone]⟩
      | some failure =>
        refine ⟨?_, ?_⟩
        · simp [closed, Outcome.isHandled]
        · simp [isDone, closed, Outcome.isClosed]
    | some outcome =>
      refine ⟨?_, fun undone => by simp [isDone] at undone⟩
      intro other present handled
      cases failure with
      | none => simpa [eq_comm] using present
      | some failure =>
        have either : other = outcome ∨ other = closed failure := by
          simpa [isDone] using present
        rcases either with rfl | rfl
        · simp
        · cases handled

theorem orderly_serve
    (quiet : Quiet server calls) :
    Orderly (serve server calls) := by
  induction calls using List.reverseRecOn with
  | nil => exact ⟨nofun, nofun⟩
  | append_singleton calls given ih =>
    rw [serve_concat]
    refine (ih ?_).call (quiet calls given [] rfl) given
    rintro before other after rfl
    exact quiet before other (after ++ [given]) (by simp)

/-- What a request stream comes to first depends on its bytes and its end, not
on how they are cut; the handler runs at most once; and it runs only for a
stream that ends behind one whole request, as long as no call follows one that
closed the connection. -/
theorem request_streams_are_read (server : Server) :
    (∀ pieces last ended,
      (serve server (cut pieces last ended)).outcomes.head? =
        outcome server (pieces.flatten ++ last) ended) ∧
    (∀ calls,
      (serve server calls).outcomes.countP Outcome.isHandled ≤ 1) ∧
    ∀ pieces last ended request body,
      Quiet server (cut pieces last ended) ->
      Outcome.handled request body ∈ (serve server (cut pieces last ended)).outcomes ->
      ended = true ∧
        ∃ frames, Wire (pieces.flatten ++ last) frames ∧ IsRequest server frames request body := by
  refine ⟨head?_serve server, fun calls => (once_serve server calls).once, ?_⟩
  intro pieces last ended request body quiet handled
  have first := (orderly_serve quiet).first _ handled rfl
  rw [head?_serve] at first
  exact isRequest_of_outcome first

/-- A server for tests, which takes every request target. -/
def plainServer : Server where
  maxHeaderBytes := 1 <<< 20
  maxBodyBytes := 16 <<< 20
  header_pos := by decide
  body_pos := by decide
  parseRequestURI _ := true

/-- A HEADERS frame of a GET request for `/`. -/
def getRequest : Bytes := [0x01, 0x05, 0x00, 0x00, 0xd1, 0xd7, 0xc1]

/-- An empty SETTINGS frame, which has no place on a request stream. -/
def settingsFrame : Bytes := [0x04, 0x00]

theorem quiet_of_take
    (stays : ∀ count < calls.length,
      (serve server (calls.take count)).outcomes.any Outcome.isClosed = false) :
    Quiet server calls := by
  rintro before given after rfl
  simpa using stays before.length (by simp)

/-- A POST request for `/` with the body `abc`, cut inside its HEADERS frame,
behind the head of its DATA frame and inside its body. -/
def postPieces : List Bytes :=
  [[0x01, 0x05, 0x00], [0x00, 0xd4, 0xd7, 0xc1, 0x00, 0x03], [0x61, 0x62]]

theorem request_streams_are_read_post :
    ∃ request,
      Quiet plainServer (cut postPieces [0x63] true) ∧
      Outcome.handled request (ascii "abc") ∈
        (serve plainServer (cut postPieces [0x63] true)).outcomes ∧
      ∃ frames, Wire (postPieces.flatten ++ [0x63]) frames ∧
        IsRequest plainServer frames request (ascii "abc") := by
  have quiet : Quiet plainServer (cut postPieces [0x63] true) :=
    quiet_of_take (by decide)
  have runs : (serve plainServer (cut postPieces [0x63] true)).outcomes.any (fun
      | .handled _ body => body == ascii "abc"
      | _ => false) = true := by
    decide
  obtain ⟨ran, present, isHandled⟩ := List.any_eq_true.mp runs
  cases ran with
  | handled request body =>
    obtain rfl : body = ascii "abc" := by simpa using isHandled
    exact ⟨request, quiet, present, ((request_streams_are_read plainServer).2.2 postPieces [0x63]
      true request _ quiet present).2⟩
  | _ => cases isHandled

/-- The request and a SETTINGS frame in one STREAM frame that ends the stream:
the connection is closed for the second frame, and then the handler runs. -/
theorem handler_runs_behind_settings :
    (serve plainServer (deliver (getRequest ++ settingsFrame) true)).outcomes.map
          (fun outcome => (outcome.isClosed, outcome.isHandled)) =
      [(true, false), (false, true)] := by
  decide

end Http3
end Fib
