import Fib.Http2.Requests
import Fib.Hpack.InStep

/-!
# The server's decoder stays in step

A header block is complete when a HEADERS or CONTINUATION frame ends it.  As
long as the server has not ended the connection, every complete block that was
received has been given to the decoder once and in order, unless a HEADERS
frame that ends its block makes its stream depend on itself: that block is
never decoded, and the connection goes on.
-/

namespace Fib
namespace Http2

open Frames
open Http (Header Response)

/-! ## Blocks that are received -/

/-- The header blocks of some frames: those that are complete, and the one
that is not, if there is one. -/
structure HeaderBlocks where
  complete : List Bytes := []
  begun : Option Bytes := none
deriving DecidableEq

namespace HeaderBlocks

/-- More of a block. -/
def extend
    (blocks : HeaderBlocks)
    (block : Bytes)
    (ends : Bool) :
    HeaderBlocks :=
  if ends then ⟨blocks.complete ++ [block], none⟩
  else ⟨blocks.complete, some block⟩

/-- One more frame. -/
def add
    (blocks : HeaderBlocks)
    (frame : Frame) : HeaderBlocks :=
  match frame.typ with
  | .headers =>
    match ServerConn.headerFragment frame with
    | none => blocks
    | some fragment => blocks.extend fragment (frame.has flagEndHeaders)
  | .continuation =>
    match blocks.begun with
    | none => blocks
    | some block =>
      blocks.extend (block ++ frame.payload) (frame.has flagEndHeaders)
  | _ => blocks

end HeaderBlocks

/-- The header blocks of frames in order. -/
def headerBlocks (frames : List Frame) : HeaderBlocks :=
  frames.foldl HeaderBlocks.add {}

theorem headerBlocks_concat
    (frames : List Frame)
    (frame : Frame) :
    headerBlocks (frames ++ [frame]) = (headerBlocks frames).add frame :=
  List.foldl_concat ..

/-- The decoder after it has been given a block, if it has found nothing wrong
with it. -/
def decodeNext
    {Encoder Decoder : Type}
    (codec : Codec Encoder Decoder)
    (decoder : Decoder)
    (block : Bytes) :
    Option Decoder :=
  match (codec.decode decoder block).1 with
  | .ok _ => some (codec.decode decoder block).2
  | .error _ => none

/-- The decoder after it has been given blocks in order. -/
def decodeAll
    {Encoder Decoder : Type}
    (codec : Codec Encoder Decoder)
    (decoder : Decoder)
    (blocks : List Bytes) :
    Option Decoder :=
  blocks.foldlM (decodeNext codec) decoder

namespace ServerConn

variable {Encoder Decoder : Type}
variable {server : Server Encoder Decoder}
variable {conn next : ServerConn Encoder Decoder}

/-! ## The reading side -/

/-- Everything is allowed but reading. -/
def Terms.writing : Terms Encoder Decoder :=
  ⟨fun _ _ => True, fun _ => True, False⟩

theorem readSide_sendLocked
    (conn : ServerConn Encoder Decoder)
    (out : List Sent) :
    (conn.sendLocked out).readSide = conn.readSide := by
  unfold sendLocked
  split
  · rfl
  · rfl

theorem readSide_resetStream
    (conn : ServerConn Encoder Decoder)
    (id : Nat)
    (code : ErrorCode) :
    (conn.resetStream id code).readSide = conn.readSide := by
  unfold resetStream
  rw [quiet_closeFinishedLocked.readSide, readSide_sendLocked]
  split
  · exact quiet_forgetLocked.readSide
  · rfl

/-- What is written leaves the reading side alone. -/
theorem readSide_of_action
    (base : Base server conn.wire conn)
    (action : Action server .writing conn next) :
    next.readSide = conn.readSide := by
  cases action with
  | agree _ kept => exact kept.resolve_right nofun
  | control | grant | promise => exact readSide_sendLocked ..
  | opens _ _ _ _ _ _ _ equal =>
    subst equal
    rfl
  | respond accepted =>
    obtain ⟨st, found, isOpen, notReset, notResponded, _⟩ := respond_eq_ok accepted
    obtain ⟨going, _⟩ := base.unanswered found isOpen notReset notResponded
    obtain ⟨_, _, _, _, _, _, _, _, equal⟩ := respond_eq_settle found going accepted
    rw [equal]
    exact (quiet_settle.trans quiet_closeFinishedLocked).readSide
  | interim accepted => exact (quiet_writeInterim accepted).readSide
  | reset => exact readSide_resetStream ..
  | drop => exact quiet_forgetLocked.readSide
  | close => exact quiet_closeFinishedLocked.readSide
  | flush _ control => exact (quiet_flushAndClose base _ control).readSide
  | fail => exact (quiet_fail ..).readSide
  | shutdown => rfl

theorem readSide_of_actions
    (base : Base server conn.wire conn)
    (actions : Actions server .writing conn next) :
    next.readSide = conn.readSide :=
  (@Base.actions _ _ server conn _ _ (fun next => next.readSide = conn.readSide) base
    (fun _ _ base same action => (readSide_of_action base action).trans same) rfl actions).2

/-! ## Reading a header block -/

/-- The reading side once it has given a block to the decoder. -/
def ReadSide.decoded
    (side : ReadSide Decoder)
    (server : Server Encoder Decoder)
    (block : Bytes) : ReadSide Decoder :=
  { side with dec := (server.decode side.dec block).2 }

theorem readSide_handleHeaderBlock
    (base : Base server conn.wire conn)
    (id : ClientID)
    (block : Bytes)
    (endStream : Bool) :
    (conn.handleHeaderBlock server id block endStream).2.readSide =
        conn.readSide.decoded server block ∧
      ((∃ fields, (server.decode conn.dec block).1 = .ok fields) ∨
        ∃ code reason,
          (conn.handleHeaderBlock server id block endStream).1 =
            some (.connection code reason)) := by
  have decoded : Base server conn.wire { conn with dec := (server.decode conn.dec block).2 } :=
    base.agree { Agrees.refl conn with }
  have written : Actions server .writing { conn with dec := (server.decode conn.dec block).2 }
      (conn.handleHeaderBlock server id block endStream).2 :=
    (handles_handleHeaderBlock id.property (fun _ => trivial) block endStream).1
  refine ⟨(readSide_of_actions decoded written).trans rfl, ?_⟩
  unfold handleHeaderBlock
  dsimp only
  split
  · exact .inr ⟨_, _, rfl⟩
  · next fields decoded => exact .inl ⟨fields, decoded⟩

/-- An error that ends the connection. -/
def Ends (error : Option FrameError) : Prop :=
  ∃ code reason, error = some (.connection code reason)

/-- The connection is in step with header blocks: each complete one was
decoded without an error, and a block that the connection goes on with is the
one that is begun. -/
structure InStep
    (server : Server Encoder Decoder)
    (conn : ServerConn Encoder Decoder)
    (blocks : HeaderBlocks) : Prop where
  decoded : decodeAll server.toCodec server.newDecoder blocks.complete =
    some conn.dec
  begun : conn.contStream.isSome = true -> blocks.begun = some conn.contBlock

/-- What handling a frame comes to: the connection ends, or it is in step and
has received no more. -/
def StaysInStep
    (server : Server Encoder Decoder)
    (conn : ServerConn Encoder Decoder)
    (handled : Handled Encoder Decoder)
    (blocks : HeaderBlocks) : Prop :=
  Ends handled.1 ∨
    (InStep server handled.2 blocks ∧ handled.2.received = conn.received)

variable {blocks : HeaderBlocks}

theorem InStep.of_readSide
    (inStep : InStep server conn blocks)
    (same : next.readSide = conn.readSide) :
    InStep server next blocks where
  decoded := by
    rw [show next.dec = conn.dec from congrArg ReadSide.dec same]
    exact inStep.decoded
  begun := by
    rw [show next.contStream = conn.contStream from
        congrArg ReadSide.contStream same,
      show next.contBlock = conn.contBlock from
        congrArg ReadSide.contBlock same]
    exact inStep.begun

theorem InStep.stays
    (inStep : InStep server conn blocks)
    (same : handled.2.readSide = conn.readSide) :
    StaysInStep server conn handled blocks :=
  .inr ⟨inStep.of_readSide same, congrArg ReadSide.received same⟩

/-- A block that is complete is given to the decoder. -/
theorem InStep.handleHeaderBlock
    (base : Base server conn.wire conn)
    (decoded : decodeAll server.toCodec server.newDecoder blocks.complete =
      some conn.dec)
    (settled : conn.contStream = none)
    (id : ClientID)
    (block : Bytes)
    (endStream : Bool) :
    StaysInStep server conn (conn.handleHeaderBlock server id block endStream)
      (blocks.extend block true) := by
  obtain ⟨side, taken | ended⟩ :=
    readSide_handleHeaderBlock base id block endStream
  · obtain ⟨fields, isOk⟩ := taken
    refine .inr ⟨⟨?_, ?_⟩, congrArg ReadSide.received side⟩
    · have next : decodeNext server.toCodec conn.dec block =
          some (server.decode conn.dec block).2 := by
        rw [decodeNext, isOk]
      change (blocks.complete ++ [block]).foldlM _ _ = _
      rw [List.foldlM_append, show blocks.complete.foldlM _ _ = _ from decoded,
        Option.bind_eq_bind, Option.bind_some, List.foldlM_cons, next]
      exact congrArg some (congrArg ReadSide.dec side).symm
    have still : (conn.handleHeaderBlock server id block endStream).2.contStream = none :=
      (congrArg ReadSide.contStream side).trans settled
    rw [still]
    nofun
  · exact .inl ended

variable {frame : Frame}

/-- A HEADERS frame keeps the connection in step, unless it ends its block and
makes its stream depend on itself. -/
theorem InStep.handleHeaders
    (inStep : InStep server conn blocks)
    (base : Base server conn.wire conn)
    (settled : conn.contStream = none)
    (isHeaders : frame.typ = .headers)
    (independent : selfDependent frame = true -> frame.has flagEndHeaders = false) :
    StaysInStep server conn (conn.handleHeaders server frame) (blocks.add frame) := by
  unfold ServerConn.handleHeaders
  dsimp only
  split
  · exact .inl ⟨_, _, rfl⟩
  have isOdd : frame.streamID % 2 = 1 := by omega
  rw [HeaderBlocks.add, isHeaders]
  cases headerFragment frame with
  | none => exact .inl ⟨_, _, rfl⟩
  | some fragment =>
    dsimp only
    split
    · next dependent =>
      rw [independent dependent]
      refine .inr ⟨⟨inStep.decoded, ?_⟩, rfl⟩
      simp [settled]
    split
    · next unfinished =>
      have unfinished : frame.has flagEndHeaders = false := by
        simpa using unfinished
      rw [unfinished]
      split
      · exact .inl ⟨_, _, rfl⟩
      · exact .inr ⟨⟨inStep.decoded, fun _ => rfl⟩, rfl⟩
    next finished =>
    have finished : frame.has flagEndHeaders = true := by
      simpa using finished
    rw [finished]
    exact InStep.handleHeaderBlock base inStep.decoded settled ⟨_, isOdd⟩ ..

/-- A CONTINUATION frame keeps the connection in step. -/
theorem InStep.handleContinuation
    (inStep : InStep server conn blocks)
    (base : Base server conn.wire conn)
    (isContinuation : frame.typ = .continuation) :
    StaysInStep server conn (conn.handleContinuation server frame) (blocks.add frame) := by
  unfold ServerConn.handleContinuation
  split
  · exact .inl ⟨_, _, rfl⟩
  next id expected =>
  have begun := inStep.begun (by rw [expected]; rfl)
  rw [HeaderBlocks.add, isContinuation]
  rw [begun]
  dsimp only
  split
  · exact .inl ⟨_, _, rfl⟩
  split
  · next unfinished =>
    have unfinished : frame.has flagEndHeaders = false := by
      simpa using unfinished
    rw [unfinished]
    exact .inr ⟨⟨inStep.decoded, fun _ => rfl⟩, rfl⟩
  next finished =>
  have finished : frame.has flagEndHeaders = true := by
    simpa using finished
  rw [finished]
  exact @InStep.handleHeaderBlock _ _ server
    { conn with
      contBlock := conn.contBlock ++ frame.payload
      contStream := none } blocks (base.agree { Agrees.refl conn with }) inStep.decoded rfl id _ _

/-- A frame of another kind brings nothing of a header block. -/
theorem HeaderBlocks.add_of_other
    (blocks : HeaderBlocks)
    (notHeaders : frame.typ ≠ .headers)
    (notContinuation : frame.typ ≠ .continuation) :
    blocks.add frame = blocks := by
  unfold HeaderBlocks.add
  split
  · next isHeaders => exact absurd isHeaders notHeaders
  · next isContinuation => exact absurd isContinuation notContinuation
  · rfl

/-- Handling a frame keeps the connection in step. -/
theorem InStep.handleFrame
    (inStep : InStep server conn blocks)
    (base : Base server conn.wire conn)
    (independent : frame.typ = .headers -> selfDependent frame = true ->
      frame.has flagEndHeaders = false)
    (order : List Nat) :
    StaysInStep server conn (conn.handleFrame server frame order) (blocks.add frame) := by
  unfold ServerConn.handleFrame
  split
  · exact .inl ⟨_, _, rfl⟩
  next uninterrupted =>
  unfold dispatch
  split
  · exact .inl ⟨_, _, rfl⟩
  have noted : InStep server { conn with gotSettings := true } blocks :=
    ⟨inStep.decoded, inStep.begun⟩
  have base : Base server conn.wire { conn with gotSettings := true } :=
    base.agree { Agrees.refl conn with }
  have other (notHeaders : frame.typ ≠ .headers) (notContinuation : frame.typ ≠ .continuation)
      {handled : Handled Encoder Decoder}
      (handles : Handles server .writing { conn with gotSettings := true } handled) :
      StaysInStep server conn handled (blocks.add frame) := by
    rw [HeaderBlocks.add_of_other blocks notHeaders notContinuation]
    exact inStep.stays ((readSide_of_actions base handles.1).trans rfl)
  split
  · next isData =>
    exact other (by simp [isData]) (by simp [isData]) (handles_handleData frame)
  · next isHeaders =>
    refine noted.handleHeaders base ?_ isHeaders (independent isHeaders)
    cases expected : conn.contStream with
    | none => rfl
    | some id =>
      rw [interrupted, isHeaders, expected] at uninterrupted
      cases uninterrupted
  · next isContinuation => exact noted.handleContinuation base isContinuation
  · next isPriority =>
    exact other (by simp [isPriority]) (by simp [isPriority])
      (handles_handlePriority frame fun _ => trivial)
  · next isReset =>
    exact other (by simp [isReset]) (by simp [isReset]) (handles_handleRSTStream frame)
  · next isSettings =>
    exact other (by simp [isSettings]) (by simp [isSettings])
      (handles_handleSettings isSettings (fun _ _ => trivial) order)
  · exact .inl ⟨_, _, rfl⟩
  · next isPing =>
    exact other (by simp [isPing]) (by simp [isPing]) (handles_handlePing frame)
  · next isGoAway =>
    exact other (by simp [isGoAway]) (by simp [isGoAway]) (handles_handleGoAway frame)
  · next isUpdate =>
    exact other (by simp [isUpdate]) (by simp [isUpdate])
      (handles_handleWindowUpdate isUpdate (fun _ _ => trivial) order)
  · next isUnknown =>
    exact other (by simp [isUnknown]) (by simp [isUnknown]) (.none .refl)

/-! ## Runs -/

theorem fail_closed
    (conn : ServerConn Encoder Decoder)
    (code : ErrorCode)
    (reason : String) :
    (conn.fail code reason).closed = true := by
  unfold fail
  split
  · assumption
  · rfl

/-- As long as the connection is open, it is in step with the blocks that it
received. -/
def Synchronous
    (server : Server Encoder Decoder)
    (conn : ServerConn Encoder Decoder) : Prop :=
  conn.closed = false ->
    InStep server conn (headerBlocks conn.received)

theorem Synchronous.feed
    (synchronous : Synchronous server conn)
    (base : Base server conn.wire conn)
    (independent : frame.typ = .headers -> selfDependent frame = true ->
      frame.has flagEndHeaders = false)
    (order : List Nat)
    (stays : (conn.feed server frame order).closed = false -> conn.closed = false) :
    Synchronous server (conn.feed server frame order) := by
  intro isOpen
  have inStep := synchronous (stays isOpen)
  have noted : InStep server
      { conn with received := conn.received ++ [frame] }
      (headerBlocks conn.received) := ⟨inStep.decoded, inStep.begun⟩
  have keeps := noted.handleFrame (base.agree { Agrees.refl conn with }) independent order
  revert isOpen
  unfold ServerConn.feed
  generalize ({ conn with
    received := conn.received ++ [frame] } :
      ServerConn Encoder Decoder).handleFrame server frame order = handled at keeps
  obtain ⟨error, result⟩ := handled
  intro isOpen
  rcases keeps with ⟨code, reason, isError⟩ | ⟨further, received⟩
  · obtain rfl : error = some (.connection code reason) := isError
    rw [handleError, fail_closed] at isOpen
    cases isOpen
  have same : (result.handleError error).readSide = result.readSide := by
    cases error with
    | none => rfl
    | some error =>
      cases error with
      | stream id code => exact readSide_resetStream ..
      | connection code reason =>
        rw [handleError, fail_closed] at isOpen
        cases isOpen
  have sameFrames : (result.handleError error).received = conn.received ++ [frame] :=
    (congrArg ReadSide.received same).trans received
  rw [sameFrames, headerBlocks_concat]
  exact InStep.of_readSide further same

/-- A connection that has ended does not open again. -/
theorem closed_of_step
    (base : Base server conn.wire conn)
    (taken : conn.step server event = some next)
    (isClosed : conn.closed = true) :
    next.closed = true :=
  @Base.step_of_action _ _ server conn next event _ _ (fun conn => conn.closed = true) base
    (fun _ _ base wasClosed action =>
      (agrees_of_closed base wasClosed action).closed.trans wasClosed)
    isClosed (admits_all event) taken

/-- A HEADERS frame that ends its block does not make its stream depend on
itself. -/
def Independent (event : Event) : Prop :=
  match event with
  | .frame frame _ =>
    frame.typ = .headers -> selfDependent frame = true ->
      frame.has flagEndHeaders = false
  | _ => True

/-- What does not come from the client leaves the reading side alone. -/
theorem Synchronous.of_readSide
    (synchronous : Synchronous server conn)
    (same : next.readSide = conn.readSide)
    (stays : next.closed = false -> conn.closed = false) :
    Synchronous server next := by
  intro isOpen
  rw [show next.received = conn.received from congrArg ReadSide.received same]
  exact (synchronous (stays isOpen)).of_readSide same

theorem Synchronous.step
    (synchronous : Synchronous server conn)
    (base : Base server conn.wire conn)
    (independent : Independent event)
    (taken : conn.step server event = some next) :
    Synchronous server next := by
  have stays : next.closed = false -> conn.closed = false := by
    intro isOpen
    by_contra isClosed
    rw [closed_of_step base taken (Bool.eq_true_of_not_eq_false isClosed)] at isOpen
    cases isOpen
  cases step_cases taken with
  | frame frame order => exact synchronous.feed base independent order stays
  | malformed code reason =>
    intro isOpen
    rw [fail_closed] at isOpen
    cases isOpen
  | refused => exact synchronous
  | respond _ answered =>
    exact synchronous.of_readSide (readSide_of_action base (.respond answered)) stays
  | interim answered =>
    exact synchronous.of_readSide (readSide_of_action base (.interim answered)) stays
  | push pushed =>
    exact synchronous.of_readSide (readSide_of_actions base (actions_push trivial pushed)) stays
  | shutdown => nofun

theorem synchronous_of_isStart
    (isStart : IsStart server conn) :
    Synchronous server conn := by
  have fresh (start : ServerConn Encoder Decoder)
      (same : start.readSide = (ServerConn.start server).readSide) :
      Synchronous server start := by
    intro _
    have begun : InStep server (ServerConn.start server) (headerBlocks []) := ⟨rfl, nofun⟩
    rw [show start.received = [] from congrArg ReadSide.received same]
    exact begun.of_readSide same
  rcases isStart_cases isStart with rfl | ⟨_, applied, retuned, rfl⟩
  · exact fresh _ rfl
  · exact fresh _ retuned.readSide

end ServerConn

/-! ## The decoder's table -/

/-- A message of bytes as a text. -/
def textOf (message : Bytes) : String :=
  String.ofList (message.map fun byte => Char.ofNat byte.toNat)

/-- The codec of package `hpack` as the server sets it up: the strings it
decodes are limited. -/
def hpack (maxStringLength : Nat) : Codec Hpack.Encoder Hpack.Decoder where
  newEncoder := Hpack.newEncoder
  newDecoder :=
    { Hpack.newDecoder Hpack.defaultTableSize with
      maxStringLength := maxStringLength }
  startBlock encoder := encoder.begin
  appendField encoder field :=
    encoder.appendField ⟨field.1, field.2.1⟩ field.2.2
  setMaxTableSize encoder size := encoder.setMaxTableSize size
  decode decoder block :=
    let decoding := decoder.decode Hpack.collect [] block
    ⟨match decoding.failure with
      | none =>
        .ok (decoding.state.map fun field => ⟨field.name, field.value⟩)
      | some (.codec error) => .error (textOf error.message)
      | some (.refused refusal) => refusal.elim,
      decoding.decoder⟩

theorem decodeNext_hpack
    (maxStringLength : Nat)
    (decoder : Hpack.Decoder)
    (block : Bytes) :
    decodeNext (hpack maxStringLength) decoder block = decoder.read block := by
  unfold decodeNext hpack Hpack.Decoder.read
  dsimp only
  cases (decoder.decode Hpack.collect [] block).failure with
  | none => rfl
  | some failure =>
    cases failure with
    | codec error => rfl
    | refused refusal => exact nomatch refusal

/-- A decoder of the server that has read all the blocks of an encoder has the
encoder's table, up to the changes of its size that are not announced yet. -/
theorem announced_of_decodeAll
    (decoded : decodeAll (hpack maxStringLength) (hpack maxStringLength).newDecoder
      (Hpack.newEncoder.written operations).1 = some decoder) :
    (Hpack.newEncoder.written operations).2.announced decoder.table =
      (Hpack.newEncoder.written operations).2.table := by
  have reads : decodeNext (hpack maxStringLength) = Hpack.Decoder.read := by
    funext decoder block
    exact decodeNext_hpack maxStringLength decoder block
  rw [decodeAll, reads] at decoded
  exact (Hpack.Follows.written Hpack.follows_new operations decoded).table

/-- As long as the server has not ended the connection, the complete header
blocks it received have been decoded once each and in order, provided that no
HEADERS frame that ends its block makes its stream depend on itself.  When the
blocks are those of one encoder, the table is the encoder's, up to the changes
of its size that the encoder has yet to announce. -/
theorem decoder_keeps_in_step
    {server : Server Hpack.Encoder Hpack.Decoder}
    (codec : server.toCodec = hpack server.maxHeaderBytes)
    {start final : ServerConn Hpack.Encoder Hpack.Decoder}
    {events : List Event}
    (starts : ServerConn.IsStart server start)
    (independent : ∀ event ∈ events, ServerConn.Independent event)
    (reached : Transition.run (ServerConn.step server) start events =
      some final)
    (isOpen : final.closed = false) :
    decodeAll server.toCodec server.newDecoder
        (headerBlocks final.received).complete = some final.dec ∧
      ∀ operations,
        (Hpack.newEncoder.written operations).1 = (headerBlocks final.received).complete ->
          (Hpack.newEncoder.written operations).2.announced final.dec.table =
            (Hpack.newEncoder.written operations).2.table := by
  have synchronous : ServerConn.Synchronous server final :=
    ServerConn.run_of_step (fun _ _ _ base synchronous independent taken =>
        synchronous.step base independent taken)
      starts (ServerConn.synchronous_of_isStart starts)
      (Transition.meets_of_forall (ServerConn.step server) start independent) reached
  have decoded := (synchronous isOpen).decoded
  refine ⟨decoded, fun operations written => ?_⟩
  rw [codec, ← written] at decoded
  exact announced_of_decodeAll decoded

/-- A server with the codec of package `hpack`. -/
def hpackServer : Server Hpack.Encoder Hpack.Decoder where
  toCodec := hpack 1000
  maxBodyBytes := 100
  maxHeaderBytes := 1000
  maxStreams := 10
  tls := false
  parseRequestURI target := target.head? == some 47
  parse _ := none

/-- The fields of a request, the last of which an encoder adds to its
table. -/
def sampleFields : List Hpack.Given :=
  [⟨⟨ascii ":method", by decide⟩, ⟨ascii "GET", by decide⟩, false⟩,
    ⟨⟨ascii ":scheme", by decide⟩, ⟨ascii "http", by decide⟩, false⟩,
    ⟨⟨ascii ":path", by decide⟩, ⟨ascii "/", by decide⟩, false⟩,
    ⟨⟨ascii "x", by decide⟩, ⟨ascii "y", by decide⟩, false⟩]

/-- What the client's encoder writes for the request, and what it becomes. -/
def sampleWritten : List Bytes × Hpack.Encoder :=
  Hpack.newEncoder.written [.block sampleFields]

/-- SETTINGS, and HEADERS with the given flags and what stands before the
block. -/
def sampleEvents
    (flags : UInt8)
    (priority : Bytes) : List Event :=
  [.frame (frameOf .settings 0 0 []) [],
    .frame (frameOf .headers flags 1
      (priority ++ (Hpack.newEncoder.blockOf sampleFields).1)) []]

/-- The connection after the events. -/
def sampleReached
    (flags : UInt8)
    (priority : Bytes) :
    ServerConn Hpack.Encoder Hpack.Decoder :=
  (Transition.run (ServerConn.step hpackServer) (.start hpackServer)
    (sampleEvents flags priority)).getD (.start hpackServer)

theorem decoder_keeps_in_step_sample :
    sampleWritten.2.announced (sampleReached 0x5 []).dec.table = sampleWritten.2.table := by
  have facts : (sampleReached 0x5 []).closed = false ∧ sampleWritten.1 =
      (headerBlocks (sampleReached 0x5 []).received).complete := by
    decide
  refine (@decoder_keeps_in_step hpackServer rfl (.start hpackServer)
    (sampleReached 0x5 []) (sampleEvents 0x5 []) (.inl rfl) ?_ rfl
    facts.1).2 [.block sampleFields] facts.2
  intro event present
  rcases List.mem_cons.mp present with rfl | present
  · nofun
  · obtain rfl := List.mem_singleton.mp present
    intro _ dependent
    exact absurd dependent (by decide)

/-- A HEADERS frame that ends its block and makes its stream depend on itself:
the connection stays open, and the table is not the client's. -/
theorem self_dependent_block_is_not_decoded :
    (Transition.run (ServerConn.step hpackServer) (.start hpackServer)
        (sampleEvents 0x25 [0, 0, 0, 1, 16])).isSome = true ∧
      (sampleReached 0x25 [0, 0, 0, 1, 16]).closed = false ∧
      sampleWritten.1 = (headerBlocks (sampleReached 0x25 [0, 0, 0, 1, 16]).received).complete ∧
      sampleWritten.2.pendingSize = false ∧
      (sampleReached 0x25 [0, 0, 0, 1, 16]).dec.table.entries = [] ∧
      sampleWritten.2.table.entries = [⟨ascii "x", ascii "y"⟩] := by
  decide

end Http2
end Fib
