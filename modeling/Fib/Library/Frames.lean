import Fib.Library.Bytes
import Mathlib.Data.List.Infix

/-!
# Frames of a multiplexed connection

One side of an HTTP/2 connection writes a list of frames, each on a stream.
This module defines the frames, what the frames of one stream carry, and the
two rules a stream's frames keep: a header block is one HEADERS or
PUSH_PROMISE frame with its CONTINUATION frames right behind it, and a response
is interim heads, one final head, the body, and at most one trailer, of which
the last frame ends the stream.
-/

namespace Fib
namespace Frames

/-- The error codes of RST_STREAM and GOAWAY. -/
inductive ErrorCode where
  | noError
  | protocolError
  | internalError
  | flowControlError
  | settingsTimeout
  | streamClosed
  | frameSizeError
  | refusedStream
  | cancel
  | compressionError
  | connectError
  | enhanceYourCalm
  | inadequateSecurity
  | http11Required
deriving DecidableEq, Repr

/-- What a header block is: the head of an interim or of the final response,
a trailer, or a promised request. -/
inductive Part where
  | interim
  | final
  | trailer
  | promise
deriving DecidableEq, Repr

/-- A frame as it is written. -/
inductive Sent where
  | settings (ack : Bool)
  | ping (payload : Bytes)
  | goAway (lastStream : Nat) (code : ErrorCode) (debug : String)
  | windowUpdate (stream increment : Nat)
  | rstStream (stream : Nat) (code : ErrorCode)
  | headers (stream : Nat) (part : Part) (fragment : Bytes)
      (endStream endHeaders : Bool)
  | continuation (stream : Nat) (part : Part) (fragment : Bytes)
      (endHeaders : Bool)
  | data (stream : Nat) (payload : Bytes) (endStream : Bool)
  | pushPromise (stream promised : Nat) (fragment : Bytes)
      (endHeaders : Bool)
deriving DecidableEq, Repr

namespace Sent

/-- The stream a frame is on; zero is the connection itself. -/
def stream : Sent -> Nat
  | settings _ => 0
  | ping _ => 0
  | goAway _ _ _ => 0
  | windowUpdate stream _ => stream
  | rstStream stream _ => stream
  | headers stream _ _ _ _ => stream
  | continuation stream _ _ _ => stream
  | data stream _ _ => stream
  | pushPromise stream _ _ _ => stream

/-- The frame has the END_STREAM flag. -/
def endStream : Sent -> Bool
  | headers _ _ _ endStream _ => endStream
  | data _ _ endStream => endStream
  | _ => false

/-- The frame is an RST_STREAM. -/
def isReset : Sent -> Bool
  | rstStream _ _ => true
  | _ => false

/-- The part of a header block of the given kind that a frame carries. -/
def fragment (part : Part) : Sent -> Bytes
  | headers _ kind fragment _ _ => if kind = part then fragment else []
  | continuation _ kind fragment _ => if kind = part then fragment else []
  | pushPromise _ _ fragment _ => if part = .promise then fragment else []
  | _ => []

/-- The part of a body that a frame carries. -/
def payload : Sent -> Bytes
  | data _ payload _ => payload
  | _ => []

end Sent

/-! ## What the frames of a stream carry -/

section

variable (stream : Nat)

/-- The frames of one stream. -/
def onStream (frames : List Sent) : List Sent :=
  frames.filter fun frame => frame.stream == stream

/-- The header blocks of the given kind on a stream. -/
def blockOf
    (part : Part)
    (frames : List Sent) : Bytes :=
  (onStream stream frames).flatMap (Sent.fragment part)

/-- The body sent on a stream. -/
def dataOf (frames : List Sent) : Bytes :=
  (onStream stream frames).flatMap Sent.payload

/-- A frame that ends the stream is among the frames. -/
def endsStream (frames : List Sent) : Bool :=
  (onStream stream frames).any Sent.endStream

/-- An RST_STREAM of the stream is among the frames. -/
def resets (frames : List Sent) : Bool :=
  (onStream stream frames).any Sent.isReset

end

section Carried

variable {stream : Nat}
variable {part : Part}
variable {frames later : List Sent}

@[simp] theorem onStream_nil : onStream stream [] = [] := rfl

@[simp] theorem onStream_append :
    onStream stream (frames ++ later) = onStream stream frames ++ onStream stream later :=
  List.filter_append ..

theorem onStream_eq_nil (elsewhere : ∀ frame ∈ frames, frame.stream ≠ stream) :
    onStream stream frames = [] := by
  simpa [onStream] using elsewhere

theorem onStream_eq_self (here : ∀ frame ∈ frames, frame.stream = stream) :
    onStream stream frames = frames := by
  simpa [onStream] using here

@[simp] theorem blockOf_append :
    blockOf stream part (frames ++ later) =
      blockOf stream part frames ++ blockOf stream part later := by
  simp [blockOf]

@[simp] theorem dataOf_append :
    dataOf stream (frames ++ later) = dataOf stream frames ++ dataOf stream later := by
  simp [dataOf]

@[simp] theorem endsStream_append :
    endsStream stream (frames ++ later) =
      (endsStream stream frames || endsStream stream later) := by
  simp [endsStream]

@[simp] theorem resets_append :
    resets stream (frames ++ later) = (resets stream frames || resets stream later) := by
  simp [resets]

@[simp] theorem blockOf_nil : blockOf stream part [] = [] := rfl

@[simp] theorem dataOf_nil : dataOf stream [] = [] := rfl

@[simp] theorem endsStream_nil : endsStream stream [] = false := rfl

@[simp] theorem resets_nil : resets stream [] = false := rfl

variable {endStream : Bool}

@[simp] theorem dataOf_data_cons :
    dataOf stream (.data stream payload endStream :: frames) = payload ++ dataOf stream frames := by
  simp [dataOf, onStream, Sent.stream, Sent.payload]

@[simp] theorem blockOf_data_cons :
    blockOf stream part (.data onto payload endStream :: frames) = blockOf stream part frames := by
  unfold blockOf onStream
  rw [List.filter_cons]
  split <;> simp [Sent.fragment]

@[simp] theorem endsStream_data_cons :
    endsStream stream (.data stream payload endStream :: frames) =
      (endStream || endsStream stream frames) := by
  simp [endsStream, onStream, Sent.stream, Sent.endStream]

end Carried

/-! ## Header blocks are contiguous -/

/-- The stream whose header block is unfinished after one more frame, or
nothing if the frame may not stand here. -/
def follow : Option Nat -> Sent -> Option (Option Nat)
  | some stream, .continuation onto _ _ endHeaders =>
    if onto = stream then some (if endHeaders then none else some stream)
    else none
  | some _, _ => none
  | none, .headers stream _ _ _ endHeaders =>
    some (if endHeaders then none else some stream)
  | none, .pushPromise stream _ _ endHeaders =>
    some (if endHeaders then none else some stream)
  | none, .continuation _ _ _ _ => none
  | none, _ => some none

/-- Every header block is finished by the CONTINUATION frames right behind
it, and no CONTINUATION stands elsewhere. -/
def Contiguous (frames : List Sent) : Prop :=
  frames.foldlM follow none = some none

instance (frames : List Sent) : Decidable (Contiguous frames) :=
  inferInstanceAs (Decidable (_ = _))

theorem contiguous_nil : Contiguous [] := rfl

variable {frames later : List Sent}

theorem Contiguous.append
    (first : Contiguous frames)
    (second : Contiguous later) :
    Contiguous (frames ++ later) := by
  unfold Contiguous at *
  rw [List.foldlM_append, first]
  exact second

variable {frames : List Sent}

/-- A frame that is no part of a header block stands between blocks. -/
theorem Contiguous.cons
    (between : follow none frame = some none)
    (rest : Contiguous frames) :
    Contiguous (frame :: frames) := by
  unfold Contiguous at *
  rw [List.foldlM_cons, between]
  exact rest

/-! ## The phases of a stream -/

/-- How far the response on a stream has come. -/
inductive Phase where
  | idle
  | body
  | ended
  | reset
deriving DecidableEq, Repr

/-- The phase after one more frame of the stream, or nothing if the frame may
not stand here.  A CONTINUATION belongs to the block before it. -/
def Phase.next : Phase -> Sent -> Option Phase
  | .reset, _ => none
  | .ended, .rstStream _ _ => some .reset
  | .ended, .continuation _ _ _ _ => some .ended
  | .ended, _ => none
  | _, .rstStream _ _ => some .reset
  | phase, .continuation _ _ _ _ => some phase
  | phase, .windowUpdate _ _ => some phase
  | phase, .pushPromise _ _ _ _ => some phase
  | .idle, .headers _ .interim _ false _ => some .idle
  | .idle, .headers _ .final _ endStream _ =>
    some (if endStream then .ended else .body)
  | .body, .data _ _ endStream => some (if endStream then .ended else .body)
  | .body, .headers _ .trailer _ true _ => some .ended
  | _, _ => none

/-- The phase a stream is in after the frames, if they keep the order. -/
def phaseOf
    (stream : Nat)
    (frames : List Sent) : Option Phase :=
  (onStream stream frames).foldlM Phase.next .idle

theorem phaseOf_append (before : phaseOf stream frames = some phase) :
    phaseOf stream (frames ++ later) = (onStream stream later).foldlM Phase.next phase := by
  unfold phaseOf at *
  rw [onStream_append, List.foldlM_append, before]
  rfl

/-- Only an RST_STREAM resets a stream. -/
theorem Phase.next_ne_reset
    {before after : Phase}
    (other : frame.isReset = false)
    (reached : before.next frame = some after) :
    after ≠ .reset := by
  rintro rfl
  unfold Phase.next at reached
  repeat' split at reached
  all_goals simp_all [Sent.isReset]

/-- A stream is reset exactly when an RST_STREAM is among its frames. -/
theorem any_isReset_iff_of_foldlM
    (notReset : before ≠ .reset)
    (reached : frames.foldlM Phase.next before = some after) :
    frames.any Sent.isReset = true ↔ after = .reset := by
  induction frames generalizing before with
  | nil =>
    cases reached
    simpa using notReset
  | cons frame rest ih =>
    obtain ⟨middle, first, later⟩ := Option.bind_eq_some_iff.mp reached
    cases isReset : frame.isReset with
    | true =>
      have gone : middle = .reset := by
        cases frame <;> cases before <;> simp_all [Sent.isReset, Phase.next]
      subst gone
      cases rest with
      | nil =>
        cases later
        simp [isReset]
      | cons next rest => simp [List.foldlM_cons, Phase.next] at later
    | false =>
      simpa [isReset] using
        ih (Phase.next_ne_reset isReset first) later

theorem resets_eq_true_iff (reached : phaseOf stream frames = some phase) :
    resets stream frames = true ↔ phase = .reset :=
  any_isReset_iff_of_foldlM (by decide) reached

/-- Frames of other streams do not change the phase. -/
theorem phaseOf_append_elsewhere
    (elsewhere : ∀ frame ∈ later, frame.stream ≠ stream) :
    phaseOf stream (frames ++ later) = phaseOf stream frames := by
  simp [phaseOf, onStream_eq_nil elsewhere]

end Frames
end Fib
