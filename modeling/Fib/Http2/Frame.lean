import Fib.Library.Frames
import Mathlib.Tactic.Common
import Mathlib.Data.Nat.Basic

/-!
# Frames of the HTTP/2 server

The frames the server reads, with the flags and numbers it takes from them,
and the frames it writes a header block as.
-/

namespace Fib
namespace Http2

open Frames

/-! ## Frames read -/

/-- `h2FrameType`. -/
inductive FrameType where
  | data
  | headers
  | priority
  | rstStream
  | settings
  | pushPromise
  | ping
  | goAway
  | windowUpdate
  | continuation
  | unknown
deriving DecidableEq, Repr

def flagEndStream : UInt8 := 0x1
def flagAck : UInt8 := 0x1
def flagEndHeaders : UInt8 := 0x4
def flagPriority : UInt8 := 0x20

/-- `h2Frame`: a frame as it was read, its padding removed.  The length is the
one before, which is what flow control counts. -/
structure Frame where
  typ : FrameType
  flags : UInt8
  streamID : Nat
  payload : Bytes
  length : Nat
deriving DecidableEq, Repr

/-- `h2Frame.has`. -/
def Frame.has
    (frame : Frame)
    (flag : UInt8) : Bool :=
  frame.flags &&& flag != 0

/-- `binary.BigEndian.Uint32` of the first four bytes. -/
def uint32 : Bytes -> Nat
  | first :: second :: third :: fourth :: _ =>
    first.toNat * 2 ^ 24 + second.toNat * 2 ^ 16 + third.toNat * 2 ^ 8 +
      fourth.toNat
  | _ => 0

/-- `uint32` without its first bit, which is reserved. -/
def uint31 (payload : Bytes) : Nat :=
  uint32 payload % 2 ^ 31

/-- The settings of a SETTINGS payload, as `h2ParseSettings` goes through
them. -/
def settingsOf : Bytes -> List (Nat × Nat)
  | high :: low :: first :: second :: third :: fourth :: rest =>
    (high.toNat * 2 ^ 8 + low.toNat,
      uint32 [first, second, third, fourth]) :: settingsOf rest
  | _ => []

/-! ## Header blocks -/

def defaultMaxFrameSize : Nat := 16384
def maxFrameSizeLimit : Nat := 2 ^ 24 - 1
def defaultWindow : Int := 65535
def maxWindow : Int := 2 ^ 31 - 1
def maxStreamID : Nat := 2 ^ 31 - 1

/-- A frame size SETTINGS may ask for. -/
structure FrameSize where
  bytes : Nat
  atLeast : defaultMaxFrameSize ≤ bytes

theorem FrameSize.pos (size : FrameSize) : 0 < size.bytes :=
  lt_of_lt_of_le (by decide) size.atLeast

/-- The CONTINUATION frames for the rest of a block, at most as many as the
fuel. -/
def continuations
    (stream : Nat)
    (part : Part)
    (size : FrameSize) :
    Nat -> Bytes -> List Sent
  | 0, _ => []
  | fuel + 1, block =>
    if block = [] then []
    else
      .continuation stream part (block.take size.bytes)
          (block.length ≤ size.bytes) ::
        continuations stream part size fuel (block.drop size.bytes)

/-- `h2AppendHeaderBlock`, the part it appends. -/
def appendHeaderBlock
    (stream : Nat)
    (part : Part)
    (block : Bytes)
    (endStream : Bool)
    (size : FrameSize) : List Sent :=
  .headers stream part (block.take size.bytes) endStream
      (block.length ≤ size.bytes) ::
    continuations stream part size block.length (block.drop size.bytes)

/-- `h2AppendPushPromise`, the part it appends. -/
def appendPushPromise
    (stream promised : Nat)
    (block : Bytes)
    (size : FrameSize) : List Sent :=
  .pushPromise stream promised (block.take (size.bytes - 4))
      (block.length ≤ size.bytes - 4) ::
    continuations stream .promise size block.length
      (block.drop (size.bytes - 4))

section Continuations

variable {stream : Nat}
variable {part : Part}
variable {size : FrameSize}

/-- Every frame of the rest of a block is a CONTINUATION of its stream. -/
theorem mem_continuations
    (present : frame ∈ continuations stream part size fuel block) :
    ∃ fragment endHeaders,
      frame = .continuation stream part fragment endHeaders := by
  induction fuel generalizing block with
  | zero => simp [continuations] at present
  | succ fuel ih =>
    unfold continuations at present
    split at present
    · simp at present
    · rcases List.mem_cons.mp present with equal | later
      · exact ⟨_, _, equal⟩
      · exact ih later

theorem fragment_continuations
    (fuel : Nat)
    (block : Bytes)
    (enough : block.length ≤ fuel) :
    (continuations stream part size fuel block).flatMap (Sent.fragment part) = block := by
  induction fuel generalizing block with
  | zero =>
    rw [List.length_eq_zero_iff.mp (Nat.le_zero.mp enough)]
    rfl
  | succ fuel ih =>
    unfold continuations
    split
    · simp_all
    have shorter : (block.drop size.bytes).length ≤ fuel := by
      have := size.pos
      rw [List.length_drop]
      omega
    simp [Sent.fragment, ih _ shorter]

/-- The CONTINUATION frames finish a block that is unfinished. -/
theorem follow_continuations
    (fuel : Nat)
    (block : Bytes)
    (enough : block.length ≤ fuel)
    (nonempty : block ≠ []) :
    (continuations stream part size fuel block).foldlM follow (some stream) = some none := by
  induction fuel generalizing block with
  | zero => simp_all
  | succ fuel ih =>
    unfold continuations
    rw [if_neg nonempty]
    have positive := size.pos
    by_cases fits : block.length ≤ size.bytes
    · have finished : block.drop size.bytes = [] :=
        List.drop_eq_nil_of_le fits
      cases fuel <;> simp [follow, fits, finished, continuations]
    have shorter : (block.drop size.bytes).length ≤ fuel := by
      rw [List.length_drop]
      omega
    have more : block.drop size.bytes ≠ [] := by
      rw [Ne, List.drop_eq_nil_iff]
      omega
    simpa [follow, fits] using ih _ shorter more

/-- CONTINUATION frames leave the phase of a stream as it is. -/
theorem phase_continuations
    (fuel : Nat)
    (block : Bytes)
    (notReset : phase ≠ .reset) :
    (continuations stream part size fuel block).foldlM Phase.next phase = some phase := by
  induction fuel generalizing block with
  | zero => rfl
  | succ fuel ih =>
    unfold continuations
    split
    · rfl
    · cases phase <;> simp_all [Phase.next]

end Continuations

section HeaderBlock

variable {stream : Nat}
variable {part : Part}
variable {block : Bytes}
variable {endStream : Bool}
variable {size : FrameSize}

theorem stream_of_mem_appendHeaderBlock
    (present : frame ∈ appendHeaderBlock stream part block endStream size) :
    frame.stream = stream := by
  rcases List.mem_cons.mp present with rfl | later
  · rfl
  · obtain ⟨fragment, endHeaders, rfl⟩ := mem_continuations later
    rfl

@[simp] theorem onStream_appendHeaderBlock :
    onStream stream (appendHeaderBlock stream part block endStream size) =
      appendHeaderBlock stream part block endStream size :=
  onStream_eq_self fun _ => stream_of_mem_appendHeaderBlock

/-- The frames of a header block carry the block. -/
theorem blockOf_appendHeaderBlock :
    blockOf stream part (appendHeaderBlock stream part block endStream size) = block := by
  rw [blockOf, onStream_appendHeaderBlock, appendHeaderBlock,
    List.flatMap_cons, fragment_continuations _ _ (by simp)]
  simp [Sent.fragment]

theorem blockOf_appendHeaderBlock_of_ne (different : part ≠ other) :
    blockOf stream other (appendHeaderBlock stream part block endStream size) = [] := by
  rw [blockOf, onStream_appendHeaderBlock, List.flatMap_eq_nil_iff]
  intro frame present
  rcases List.mem_cons.mp present with rfl | later
  · simp [Sent.fragment, different]
  · obtain ⟨fragment, endHeaders, rfl⟩ := mem_continuations later
    simp [Sent.fragment, different]

@[simp] theorem dataOf_appendHeaderBlock :
    dataOf stream (appendHeaderBlock stream part block endStream size) = [] := by
  rw [dataOf, onStream_appendHeaderBlock, List.flatMap_eq_nil_iff]
  intro frame present
  rcases List.mem_cons.mp present with rfl | later
  · rfl
  · obtain ⟨fragment, endHeaders, rfl⟩ := mem_continuations later
    rfl

@[simp] theorem endsStream_appendHeaderBlock :
    endsStream stream
      (appendHeaderBlock stream part block endStream size) = endStream := by
  have noneLater : ∀ fuel rest,
      (continuations stream part size fuel rest).any Sent.endStream = false := by
    intro fuel rest
    rw [List.any_eq_false]
    intro frame present
    obtain ⟨fragment, endHeaders, rfl⟩ := mem_continuations present
    simp [Sent.endStream]
  rw [endsStream, onStream_appendHeaderBlock, appendHeaderBlock, List.any_cons, noneLater]
  simp [Sent.endStream]

/-- What follows the first frame of a block finishes it. -/
theorem follow_rest
    (stream : Nat)
    (part : Part)
    (block : Bytes)
    (size : FrameSize)
    (first : Nat) :
    (continuations stream part size block.length (block.drop first)).foldlM follow
      (if block.length ≤ first then none else some stream) = some none := by
  by_cases fits : block.length ≤ first
  · rw [List.drop_eq_nil_of_le fits, if_pos fits]
    cases block.length <;> simp [continuations]
  rw [if_neg fits]
  apply follow_continuations
  · simp
  · rw [Ne, List.drop_eq_nil_iff]
    omega

theorem contiguous_appendHeaderBlock :
    Contiguous (appendHeaderBlock stream part block endStream size) := by
  unfold Contiguous appendHeaderBlock
  simpa [follow] using follow_rest stream part block size size.bytes

theorem contiguous_appendPushPromise :
    Contiguous (appendPushPromise stream promised block size) := by
  unfold Contiguous appendPushPromise
  simpa [follow] using
    follow_rest stream .promise block size (size.bytes - 4)

/-- A header block changes the phase as its first frame does. -/
theorem phase_appendHeaderBlock
    (first : ∀ fragment endHeaders,
      phase.next (.headers stream part fragment endStream endHeaders) =
        some after)
    (notReset : after ≠ .reset) :
    (appendHeaderBlock stream part block endStream size).foldlM Phase.next phase = some after := by
  unfold appendHeaderBlock
  rw [List.foldlM_cons, first]
  exact phase_continuations _ _ notReset

end HeaderBlock

end Http2
end Fib
