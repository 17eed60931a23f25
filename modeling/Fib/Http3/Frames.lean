import Fib.Http3.Fields
import Fib.Library.FrameStream

/-!
# Frames and their parser

The parser keeps what it could not use yet and how much of a DATA frame is
still to come.  It calls back for every piece of a DATA frame and for every
other frame, and a callback may return an error.
-/

namespace Fib
namespace Http3

open FrameStream (Frame Turn turn)

/-! ## Frame types -/

def frameData : Nat := 0x00
def frameHeaders : Nat := 0x01
def frameCancelPush : Nat := 0x03
def frameSettings : Nat := 0x04
def framePushPromise : Nat := 0x05
def frameGoAway : Nat := 0x07
def frameMaxPushID : Nat := 0x0d

/-- `reservedFrame`. -/
def reservedFrame (typ : Nat) : Bool :=
  typ == 0x02 || typ == 0x06 || typ == 0x08 || typ == 0x09

/-- The frames that only a control stream carries. -/
def controlFrame (typ : Nat) : Bool :=
  typ == frameCancelPush || typ == frameSettings || typ == framePushPromise ||
    typ == frameGoAway || typ == frameMaxPushID

/-- `appendFrameHeader`, the part it appends. -/
def appendFrameHeader (typ length : Nat) : Bytes :=
  Varint.append typ ++ Varint.append length

/-- `appendHeadersFrame`, the part it appends. -/
def appendHeadersFrame (block : Bytes) : Bytes :=
  appendFrameHeader frameHeaders block.length ++ block

/-! ## Errors of a connection -/

/-- An error that a callback returns: a `connError`, or an error of the field
section. -/
inductive Failure where
  | connection (code : ErrorCode) (reason : String)
  | qpack (error : Qpack.Error)
deriving DecidableEq

/-- The code and the reason `closeWith` ends a connection with. -/
def closeWith : Failure -> ErrorCode × Bytes
  | .connection code reason => (code, ascii reason)
  | .qpack .decompression =>
    (.qpackDecompressionFailed, Qpack.Error.decompression.message)
  | .qpack error => (.internalError, error.message)

/-! ## The parser -/

/-- `frameParser`. -/
structure FrameParser where
  buf : Bytes := []
  dataLeft : Nat := 0
  maxFrame : Nat
deriving DecidableEq

/-- `frameParser.midFrame`. -/
def FrameParser.midFrame (parser : FrameParser) : Bool :=
  0 < parser.dataLeft || 0 < parser.buf.length

/-- The callbacks `onData` and `onFrame`. -/
structure Callbacks (State : Type) where
  onData : State -> Bytes -> State × Option Failure
  onFrame : State -> Nat -> Bytes -> State × Option Failure

/-- Why the loop of `frameParser.feed` ends: there is no more to use, a
callback returned an error, or a frame is too large. -/
inductive Halt where
  | drained
  | failed (failure : Failure)
  | tooLarge
deriving DecidableEq

/-- The state of the loop of `frameParser.feed` when it ends. -/
structure Loop (State : Type) where
  state : State
  dataLeft : Nat
  buf : Bytes
  halt : Halt

section Parser

variable {State : Type}

/-- The loop of `frameParser.feed`, which an error of a callback ends after
the turn.  The fuel bounds the turns. -/
def feedLoop
    (callbacks : Callbacks State)
    (maxFrame : Nat) :
    Nat -> State -> Nat -> Bytes -> Loop State
  | 0, state, dataLeft, buf => ⟨state, dataLeft, buf, .drained⟩
  | fuel + 1, state, dataLeft, buf =>
    match turn maxFrame dataLeft buf with
    | .wait => ⟨state, dataLeft, buf, .drained⟩
    | .piece bytes rest =>
      match callbacks.onData state bytes with
      | (state, some failure) =>
        ⟨state, dataLeft - bytes.length, rest, .failed failure⟩
      | (state, none) =>
        feedLoop callbacks maxFrame fuel state
          (dataLeft - bytes.length) rest
    | .opened length rest =>
      match callbacks.onData state [] with
      | (state, some failure) => ⟨state, length, rest, .failed failure⟩
      | (state, none) => feedLoop callbacks maxFrame fuel state length rest
    | .frame typ payload rest =>
      match callbacks.onFrame state typ payload with
      | (state, some failure) => ⟨state, 0, rest, .failed failure⟩
      | (state, none) => feedLoop callbacks maxFrame fuel state 0 rest
    | .tooLarge => ⟨state, dataLeft, buf, .tooLarge⟩

/-- `frameParser.feed`.  A frame that is too large leaves the buffer as it
was, with the frames before it still in front. -/
def FrameParser.feed
    (callbacks : Callbacks State)
    (parser : FrameParser)
    (state : State)
    (data : Bytes) : FrameParser × State × Option Failure :=
  let whole := parser.buf ++ data
  let loop := feedLoop callbacks parser.maxFrame whole.length state
    parser.dataLeft whole
  match loop.halt with
  | .drained =>
    ({ parser with buf := loop.buf, dataLeft := loop.dataLeft },
      loop.state, none)
  | .failed failure =>
    ({ parser with buf := loop.buf, dataLeft := loop.dataLeft },
      loop.state, some failure)
  | .tooLarge =>
    ({ parser with buf := whole, dataLeft := loop.dataLeft }, loop.state,
      some (.connection .excessiveLoad "frame too large"))

end Parser

/-! ## Up to the first outcome -/

section Verdicts

variable {State Outcome : Type}

/-- What a stream has come to so far, and what an error of the connection
means for it. -/
structure Verdicts (State Outcome : Type) where
  verdict : State -> Option Outcome
  failed : Failure -> Outcome

/-- The outcome of a callback, if it has one. -/
def Verdicts.judge (verdicts : Verdicts State Outcome) :
    State × Option Failure -> Except Outcome State
  | (_, some failure) => .error (verdicts.failed failure)
  | (state, none) =>
    match verdicts.verdict state with
    | some outcome => .error outcome
    | none => .ok state

/-- The reader that stops at the first outcome. -/
def reader
    (callbacks : Callbacks State)
    (verdicts : Verdicts State Outcome) :
    FrameStream.Reader State Outcome where
  data state piece := verdicts.judge (callbacks.onData state piece)
  frame state typ payload :=
    verdicts.judge (callbacks.onFrame state typ payload)
  tooLarge :=
    verdicts.failed (.connection .excessiveLoad "frame too large")

/-- A callback changes no verdict, and gives none along with an error. -/
structure Steady
    (callbacks : Callbacks State)
    (verdicts : Verdicts State Outcome) : Prop where
  data_keeps : ∀ {state outcome} (piece : Bytes),
    verdicts.verdict state = some outcome ->
      callbacks.onData state piece = (state, none)
  frame_keeps : ∀ {state outcome} (typ : Nat) (payload : Bytes),
    verdicts.verdict state = some outcome ->
      callbacks.onFrame state typ payload = (state, none)
  data_fails : ∀ {state next failure} (piece : Bytes),
    callbacks.onData state piece = (next, some failure) ->
      verdicts.verdict next = none
  frame_fails : ∀ {state next failure} (typ : Nat) (payload : Bytes),
    callbacks.onFrame state typ payload = (next, some failure) ->
      verdicts.verdict next = none

/-- The loop has come to the same as the reader: the same position, or the
same outcome, which is a verdict or the error the loop ended with. -/
def Agrees
    (callbacks : Callbacks State)
    (verdicts : Verdicts State Outcome)
    (loop : Loop State) :
    Except Outcome (FrameStream.Position State) -> Prop
  | .ok position =>
    loop = ⟨position.state, position.owed, position.rest, .drained⟩ ∧
      verdicts.verdict loop.state = none
  | .error outcome =>
    verdicts.verdict loop.state = some outcome ∨
      (verdicts.verdict loop.state = none ∧
        (loop.halt = .tooLarge ∧
            (reader callbacks verdicts).tooLarge = outcome ∨
          ∃ failure, loop.halt = .failed failure ∧
            verdicts.failed failure = outcome))

/-- Pieces of a body are put together by `grow` up to a limit, where the
stream is stopped.  A misplaced piece is an error. -/
structure Accumulates
    (callbacks : Callbacks State)
    (verdicts : Verdicts State Outcome)
    (misplaced : State -> Bool)
    (failure : Failure)
    (body : State -> Bytes)
    (grow : State -> Bytes -> State)
    (limit : Nat)
    (stop : State -> State)
    (full : Outcome) : Prop where
  onData : ∀ state piece, callbacks.onData state piece =
    if (verdicts.verdict state).isSome then (state, none)
    else if misplaced state then (state, some failure)
    else if limit < (body state).length + piece.length then (stop state, none)
    else (grow state piece, none)
  verdict_stop : ∀ state, verdicts.verdict (stop state) = some full
  verdict_grow : ∀ state piece,
    verdicts.verdict (grow state piece) = verdicts.verdict state
  misplaced_grow : ∀ state piece, misplaced (grow state piece) = misplaced state
  body_grow : ∀ state piece, body (grow state piece) = body state ++ piece
  grow_grow : ∀ state first second,
    grow (grow state first) second = grow state (first ++ second)

variable {callbacks : Callbacks State}
variable {verdicts : Verdicts State Outcome}

namespace Accumulates

variable {misplaced : State -> Bool} {failure : Failure}
variable {body : State -> Bytes} {grow : State -> Bytes -> State}
variable {limit : Nat} {stop : State -> State} {full : Outcome}
variable (accumulates : Accumulates callbacks verdicts misplaced failure body grow limit stop full)
include accumulates

theorem data_keeps
    (reached : verdicts.verdict state = some outcome)
    (piece : Bytes) :
    callbacks.onData state piece = (state, none) := by
  rw [accumulates.onData, if_pos (by simp [reached])]

theorem data_fails
    (failed : callbacks.onData state piece = (next, some error)) :
    verdicts.verdict next = none := by
  rw [accumulates.onData] at failed
  split at failed
  · cases failed
  next undecided =>
  split at failed
  · cases failed
    simpa using undecided
  · split at failed <;> cases failed

theorem takes
    (undecided : verdicts.verdict state = none)
    (placed : misplaced state = false)
    (piece : Bytes) :
    verdicts.judge (callbacks.onData state piece) =
      if limit < (body state).length + piece.length then .error full
      else .ok (grow state piece) := by
  rw [accumulates.onData, if_neg (by simp [undecided]), if_neg (by simp [placed])]
  split
  · simp only [Verdicts.judge, accumulates.verdict_stop]
  · simp only [Verdicts.judge, accumulates.verdict_grow, undecided]

/-- A body that is put together may arrive in any pieces. -/
theorem additive : (reader callbacks verdicts).Additive := by
  intro state first second
  change verdicts.judge (callbacks.onData state (first ++ second)) =
    (verdicts.judge (callbacks.onData state first)).bind fun next =>
      verdicts.judge (callbacks.onData next second)
  cases decided : verdicts.verdict state with
  | some outcome =>
    rw [accumulates.data_keeps decided, accumulates.data_keeps decided]
    simp only [Verdicts.judge, decided]
    rfl
  | none =>
  cases placed : misplaced state with
  | true =>
    simp only [accumulates.onData state, decided, placed]
    rfl
  | false =>
    rw [accumulates.takes decided placed, accumulates.takes decided placed, List.length_append]
    by_cases large : limit < (body state).length + first.length
    · rw [if_pos large, if_pos (by omega)]
      rfl
    rw [if_neg large]
    simp only [Except.bind]
    rw [accumulates.takes ((accumulates.verdict_grow state first).trans decided)
        ((accumulates.misplaced_grow state first).trans placed),
      accumulates.body_grow, accumulates.grow_grow, List.length_append, Nat.add_assoc]

end Accumulates

/-- Behind a verdict the callbacks do nothing. -/
theorem Steady.feedLoop_keeps
    (steady : Steady callbacks verdicts)
    (reached : verdicts.verdict state = some outcome)
    (maxFrame fuel dataLeft : Nat)
    (buf : Bytes) :
    (feedLoop callbacks maxFrame fuel state dataLeft buf).state = state := by
  induction fuel generalizing dataLeft buf with
  | zero => rfl
  | succ fuel ih =>
    unfold feedLoop
    cases turn maxFrame dataLeft buf with
    | wait => rfl
    | piece bytes rest =>
      simp only [steady.data_keeps bytes reached]
      exact ih ..
    | opened length rest =>
      simp only [steady.data_keeps [] reached]
      exact ih ..
    | frame typ payload rest =>
      simp only [steady.frame_keeps typ payload reached]
      exact ih ..
    | tooLarge => rfl

/-- The loop after a callback: an error ends it. -/
def afterCallback
    (goOn : State -> Loop State)
    (dataLeft : Nat)
    (buf : Bytes) : State × Option Failure -> Loop State
  | (state, some failure) => ⟨state, dataLeft, buf, .failed failure⟩
  | (state, none) => goOn state

/-- A callback and what follows agree with the reader. -/
theorem agrees_afterCallback
    (fails : ∀ {next failure}, result = (next, some failure) ->
      verdicts.verdict next = none)
    {goOn : State -> Loop State}
    {read : State -> Except Outcome (FrameStream.Position State)}
    (further : ∀ next, verdicts.verdict next = none ->
      Agrees callbacks verdicts (goOn next) (read next))
    (kept : ∀ next outcome, verdicts.verdict next = some outcome ->
      (goOn next).state = next)
    (dataLeft : Nat)
    (buf : Bytes) :
    Agrees callbacks verdicts (afterCallback goOn dataLeft buf result)
      ((verdicts.judge result).bind read) := by
  obtain ⟨next, failure⟩ := result
  cases failure with
  | some failure => exact .inr ⟨fails rfl, .inr ⟨failure, rfl, rfl⟩⟩
  | none =>
    cases reached : verdicts.verdict next with
    | none =>
      simp only [Verdicts.judge, reached]
      exact further next reached
    | some outcome =>
      simp only [Verdicts.judge, reached]
      refine .inl ?_
      rw [afterCallback, kept next outcome reached, reached]

/-- The parser's loop comes to what the reader comes to. -/
theorem Steady.agrees
    (steady : Steady callbacks verdicts)
    (undecided : verdicts.verdict state = none)
    (maxFrame fuel dataLeft : Nat)
    (buf : Bytes) :
    Agrees callbacks verdicts (feedLoop callbacks maxFrame fuel state dataLeft buf)
      (FrameStream.readLoop (reader callbacks verdicts) maxFrame fuel state dataLeft buf) := by
  induction fuel generalizing state dataLeft buf with
  | zero => exact ⟨rfl, undecided⟩
  | succ fuel ih =>
    have kept (dataLeft : Nat) (buf : Bytes) (next : State) (outcome : Outcome)
        (reached : verdicts.verdict next = some outcome) :=
      steady.feedLoop_keeps reached maxFrame fuel dataLeft buf
    unfold feedLoop FrameStream.readLoop
    cases turn maxFrame dataLeft buf with
    | wait => exact ⟨rfl, undecided⟩
    | piece bytes rest =>
      exact agrees_afterCallback (steady.data_fails bytes)
        (fun _ still => ih still _ _) (kept _ _) _ _
    | opened length rest =>
      exact agrees_afterCallback (steady.data_fails []) (fun _ still => ih still _ _) (kept _ _) _ _
    | frame typ payload rest =>
      exact agrees_afterCallback (steady.frame_fails typ payload)
        (fun _ still => ih still _ _) (kept _ _) _ _
    | tooLarge => exact .inr ⟨undecided, .inl ⟨rfl, rfl⟩⟩

/-- A call of `frameParser.feed` has come to the same as the reader: the same
position without a verdict, or the same outcome, which is a verdict or the
error that is returned. -/
def Fed
    (verdicts : Verdicts State Outcome)
    (maxFrame : Nat)
    (result : FrameParser × State × Option Failure) :
    Except Outcome (FrameStream.Position State) -> Prop
  | .ok position =>
    result =
        (⟨position.rest, position.owed, maxFrame⟩, position.state, none) ∧
      verdicts.verdict position.state = none
  | .error outcome =>
    verdicts.verdict result.2.1 = some outcome ∨
      (verdicts.verdict result.2.1 = none ∧
        ∃ failure, result.2.2 = some failure ∧
          verdicts.failed failure = outcome)

/-- What `frameParser.feed` comes to is what the reader comes to. -/
theorem Steady.feed
    (steady : Steady callbacks verdicts)
    (undecided : verdicts.verdict state = none)
    (parser : FrameParser)
    (data : Bytes) :
    Fed verdicts parser.maxFrame (parser.feed callbacks state data)
      (FrameStream.read (reader callbacks verdicts) parser.maxFrame state
        parser.dataLeft (parser.buf ++ data)) := by
  have agrees := steady.agrees undecided parser.maxFrame
    (parser.buf ++ data).length parser.dataLeft (parser.buf ++ data)
  unfold FrameStream.read FrameParser.feed
  dsimp only
  generalize feedLoop callbacks parser.maxFrame (parser.buf ++ data).length
    state parser.dataLeft (parser.buf ++ data) = loop at agrees ⊢
  cases read : FrameStream.readLoop (reader callbacks verdicts)
      parser.maxFrame (parser.buf ++ data).length state parser.dataLeft
      (parser.buf ++ data) with
  | ok position =>
    rw [read] at agrees
    obtain ⟨rfl, still⟩ := agrees
    exact ⟨rfl, still⟩
  | error outcome =>
    rw [read] at agrees
    obtain ⟨next, dataLeft, buf, halt⟩ := loop
    rcases agrees with reached | ⟨still, large | ⟨failure, fails, same⟩⟩
    · refine .inl ?_
      cases halt <;> exact reached
    · obtain ⟨rfl, same⟩ := large
      exact .inr ⟨still, _, rfl, same⟩
    · obtain rfl := fails
      exact .inr ⟨still, failure, rfl, same⟩

end Verdicts

end Http3
end Fib
