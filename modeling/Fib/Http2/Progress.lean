import Fib.Http2.Actions

/-!
# How far a response has come

The frames sent on a stream determine how far its response has come: nothing
of it is sent, its head and a first part of its body are, or all of it is.
This module relates the frames to the fields of the stream, for every stream
that has not been reset, and proves that every action keeps the relation while
the connection is open.
-/

namespace Fib
namespace Http2

open Frames
open Http (Header Response)

variable {Encoder Decoder : Type}
variable {server : Server Encoder Decoder}
variable {id : Nat}

/-! ## Nothing, a part, or all of a response -/

/-- The frames hold nothing of a response on the stream. -/
structure Blank
    (id : Nat)
    (frames : List Sent) : Prop where
  head : blockOf id .final frames = []
  body : dataOf id frames = []
  trailer : blockOf id .trailer frames = []
  notEnded : endsStream id frames = false

/-- The frames hold the trailer, in a header block. -/
def TrailerSent
    (server : Server Encoder Decoder)
    (id : Nat)
    (frames : List Sent) : Option Header -> Prop
  | none => blockOf id .trailer frames = []
  | some trailer => ∃ encoder,
      blockOf id .trailer frames =
        (server.encode encoder (outFields trailer)).1

/-- The frames hold the head of the answer, in a header block. -/
def HeadSent
    (server : Server Encoder Decoder)
    (id : Nat)
    (frames : List Sent)
    (answer : Answer) : Prop :=
  ∃ encoder,
    blockOf id .final frames = (server.encode encoder answer.fields).1

/-- The frames hold all of the answer. -/
structure Delivered
    (server : Server Encoder Decoder)
    (id : Nat)
    (frames : List Sent)
    (answer : Answer) : Prop where
  head : HeadSent server id frames answer
  body : dataOf id frames = answer.body
  trailer : TrailerSent server id frames answer.trailer
  ended : endsStream id frames = true

/-- The frames hold the answer up to what the stream still has to send. -/
structure Queued
    (server : Server Encoder Decoder)
    (id : Nat)
    (frames : List Sent)
    (answer : Answer)
    (side : Side) : Prop where
  head : HeadSent server id frames answer
  body : dataOf id frames ++ side.pending = answer.body
  more : side.pending ≠ []
  trailer : blockOf id .trailer frames = []
  left : side.trailer = answer.trailer
  notEnded : endsStream id frames = false

/-- The frames hold of the response what the stream says is sent. -/
def Progress
    (server : Server Encoder Decoder)
    (id : Nat)
    (frames : List Sent)
    (side : Side) : Prop :=
  match side.answer with
  | none => Blank id frames
  | some answer =>
    if side.localDone then Delivered server id frames answer
    else Queued server id frames answer side

variable {frames : List Sent} {side : Side}

theorem progress_of_answer_eq_none (unanswered : side.answer = none) :
    Progress server id frames side ↔ Blank id frames := by
  simp [Progress, unanswered]

theorem progress_of_localDone
    (answered : side.answer = some answer)
    (done : side.localDone = true) :
    Progress server id frames side ↔ Delivered server id frames answer := by
  simp [Progress, answered, done]

theorem progress_of_queued
    (answered : side.answer = some answer)
    (notDone : side.localDone = false) :
    Progress server id frames side ↔ Queued server id frames answer side := by
  simp [Progress, answered, notDone]

/-! ## Frames that add nothing -/

/-- The frame is no part of a response. -/
def isBare (frame : Sent) : Prop :=
  frame.fragment .final = [] ∧ frame.fragment .trailer = [] ∧
    frame.payload = [] ∧ frame.endStream = false

theorem blank_of_isBare
    (bare : ∀ frame ∈ frames, frame.stream = id -> isBare frame) :
    Blank id frames := by
  have here : ∀ frame ∈ onStream id frames, isBare frame := by
    intro frame present
    obtain ⟨member, same⟩ := List.mem_filter.mp present
    exact bare frame member (by simpa using same)
  exact
    { head := List.flatMap_eq_nil_iff.mpr fun frame present =>
        (here frame present).1
      body := List.flatMap_eq_nil_iff.mpr fun frame present =>
        (here frame present).2.2.1
      trailer := List.flatMap_eq_nil_iff.mpr fun frame present =>
        (here frame present).2.1
      notEnded := List.any_eq_false.mpr fun frame present => by
        simp [(here frame present).2.2.2] }

theorem blank_elsewhere
    (elsewhere : ∀ frame ∈ frames, frame.stream ≠ id) :
    Blank id frames :=
  blank_of_isBare fun _ present same => absurd same (elsewhere _ present)

theorem blank_nil : Blank id [] :=
  blank_elsewhere (by simp)

theorem isBare_continuation
    (notFinal : part ≠ .final)
    (notTrailer : part ≠ .trailer)
    (fragment : Bytes)
    (endHeaders : Bool) :
    isBare (.continuation stream part fragment endHeaders) := by
  simp [isBare, Sent.fragment, Sent.payload, Sent.endStream, notFinal, notTrailer]

theorem blank_interim
    (stream : Nat)
    (block : Bytes)
    (size : FrameSize) :
    Blank id (appendHeaderBlock stream .interim block false size) := by
  apply blank_of_isBare
  intro frame present _
  rcases List.mem_cons.mp present with rfl | later
  · simp [isBare, Sent.fragment, Sent.payload, Sent.endStream]
  · obtain ⟨fragment, endHeaders, rfl⟩ := mem_continuations later
    exact isBare_continuation (by decide) (by decide) _ _

theorem blank_pushPromise
    (stream promised : Nat)
    (block : Bytes)
    (size : FrameSize) :
    Blank id (appendPushPromise stream promised block size) := by
  apply blank_of_isBare
  intro frame present _
  rcases List.mem_cons.mp present with rfl | later
  · simp [isBare, Sent.fragment, Sent.payload, Sent.endStream]
  · obtain ⟨fragment, endHeaders, rfl⟩ := mem_continuations later
    exact isBare_continuation (by decide) (by decide) _ _

theorem isBare_of_isControl
    (control : ServerConn.isControl frame = true) :
    isBare frame := by
  cases frame <;> simp_all [ServerConn.isControl, isBare, Sent.fragment, Sent.payload,
      Sent.endStream]

theorem Blank.append
    (first : Blank id frames)
    (second : Blank id later) :
    Blank id (frames ++ later) := by
  constructor <;> simp [first.head, first.body, first.trailer, first.notEnded,
      second.head, second.body, second.trailer, second.notEnded]

/-- The frames hold the same of a response on the stream. -/
structure Alike
    (id : Nat)
    (frames others : List Sent) : Prop where
  head : blockOf id .final others = blockOf id .final frames
  body : dataOf id others = dataOf id frames
  trailer : blockOf id .trailer others = blockOf id .trailer frames
  ended : endsStream id others = endsStream id frames

/-- Frames that are no part of a response, wherever they are sent. -/
theorem Blank.alike (blank : Blank id between) :
    Alike id (frames ++ later) (frames ++ between ++ later) := by
  constructor <;> simp [blank.head, blank.body, blank.trailer, blank.notEnded]

theorem Blank.alike_append (blank : Blank id later) :
    Alike id frames (frames ++ later) := by
  constructor <;> simp [blank.head, blank.body, blank.trailer, blank.notEnded]

theorem Blank.of_alike
    (blank : Blank id frames)
    (alike : Alike id frames others) :
    Blank id others where
  head := alike.head.trans blank.head
  body := alike.body.trans blank.body
  trailer := alike.trailer.trans blank.trailer
  notEnded := alike.ended.trans blank.notEnded

theorem Progress.of_alike
    (progress : Progress server id frames side)
    (alike : Alike id frames others) :
    Progress server id others side := by
  have head : ∀ answer, HeadSent server id frames answer -> HeadSent server id others answer := by
    simp [HeadSent, alike.head]
  cases answered : side.answer with
  | none =>
    rw [progress_of_answer_eq_none answered] at *
    exact progress.of_alike alike
  | some answer =>
    cases done : side.localDone with
    | true =>
      rw [progress_of_localDone answered done] at *
      refine ⟨head _ progress.head, ?_, ?_, ?_⟩
      · rw [alike.body, progress.body]
      · have sent := progress.trailer
        unfold TrailerSent at *
        simpa [alike.trailer] using sent
      · rw [alike.ended, progress.ended]
    | false =>
      rw [progress_of_queued answered done] at *
      refine ⟨head _ progress.head, ?_, progress.more, ?_, progress.left, ?_⟩
      · rw [alike.body, progress.body]
      · rw [alike.trailer, progress.trailer]
      · rw [alike.ended, progress.notEnded]

/-! ## What flushing sends -/

namespace ServerConn

variable {conn : ServerConn Encoder Decoder}
variable {st : ServerStream}

/-- What is sent at the end of a body. -/
structure Ending
    (server : Server Encoder Decoder)
    (id : Nat)
    (trailer : Option Header)
    (frames : List Sent) : Prop where
  onStream : ∀ frame ∈ frames, frame.stream = id
  contiguous : Contiguous frames
  head : blockOf id .final frames = []
  body : dataOf id frames = []
  sent : TrailerSent server id frames trailer
  ended : endsStream id frames = trailer.isSome
  phase : frames.foldlM Phase.next
    (if trailer.isSome then .body else .ended) = some .ended

theorem endStreamLocked_spec :
    ∃ encoder,
      (conn.endStreamLocked server id st).2 =
        { conn.update id { st with localDone := true, trailer := none } with
          enc := encoder } ∧
      Ending server id st.trailer (conn.endStreamLocked server id st).1 := by
  unfold endStreamLocked
  split
  · next absent =>
    refine ⟨conn.enc, ?_, by simp, rfl, rfl, rfl, ?_, ?_, ?_⟩
    · simp_all [update]
    · simp [absent, TrailerSent]
    · simp [absent]
    · simp [absent]
  next trailer present =>
  refine ⟨_, rfl, ?_, ?_, ?_, ?_, ?_, ?_, ?_⟩
  · exact fun _ => stream_of_mem_appendHeaderBlock
  · exact contiguous_appendHeaderBlock
  · exact blockOf_appendHeaderBlock_of_ne (by decide)
  · exact dataOf_appendHeaderBlock
  · rw [present]
    exact ⟨conn.enc, blockOf_appendHeaderBlock⟩
  · simp [present]
  · simp only [present, Option.isSome_some, if_true]
    exact phase_appendHeaderBlock (fun _ _ => rfl) (by decide)

/-- The windows allow all that a stream has to send. -/
def fits
    (conn : ServerConn Encoder Decoder)
    (st : ServerStream) : Bool :=
  (st.pending.length : Int) ≤ conn.sendWindow &&
    (st.pending.length : Int) ≤ st.sendWindow

/-- What one flush of a stream with a body to send comes to; the last number
is what it leaves of the connection's window. -/
structure Flushed
    (server : Server Encoder Decoder)
    (conn : ServerConn Encoder Decoder)
    (id : Nat)
    (st after : ServerStream)
    (frames : List Sent)
    (window : Int) :
    Prop where
  shrinks : window ≤ conn.sendWindow
  stuck : after.localDone = false ->
    fits { conn with sendWindow := window } after = false
  onStream : ∀ frame ∈ frames, frame.stream = id
  contiguous : Contiguous frames
  reset : after.reset = st.reset
  responded : after.responded = st.responded
  answer : after.answer = st.answer
  remoteDone : after.remoteDone = st.remoteDone
  pushed : after.pushed = st.pushed
  localDone : after.localDone = conn.fits st
  head : blockOf id .final frames = []
  body : dataOf id frames ++ after.pending = st.pending
  trailer : TrailerSent server id frames
    (if after.localDone then st.trailer else none)
  left : after.localDone = false -> after.trailer = st.trailer
  done : after.localDone = true -> after.pending = []
  more : after.localDone = false -> after.pending ≠ []
  ended : endsStream id frames = after.localDone
  phase : frames.foldlM Phase.next .body =
    some (if after.localDone then .ended else .body)

/-- No turn is possible: the windows are used up. -/
theorem flushed_of_nextChunk_le
    (pending : st.pending ≠ [])
    (notDone : st.localDone = false)
    (empty : conn.nextChunk st ≤ 0) :
    Flushed server conn id st st [] conn.sendWindow := by
  have positive : 0 < (st.pending.length : Int) := by
    have := List.length_pos_iff.mpr pending
    omega
  have blocked : conn.fits st = false := by
    have := conn.peerMaxFrame.pos
    unfold nextChunk at empty
    simp only [fits, Bool.and_eq_false_iff, decide_eq_false_iff_not]
    omega
  constructor <;> simp_all [contiguous_nil, TrailerSent]

variable {frames : List Sent}

/-- The last turn, which sends all that is left. -/
theorem flushed_of_last
    (whole : (st.pending.length : Int) ≤ conn.nextChunk st)
    (ending : Ending server id st.trailer frames) :
    Flushed server conn id st
      { st with
        pending := []
        sendWindow := st.sendWindow - conn.nextChunk st
        localDone := true
        trailer := none }
      (.data id st.pending st.trailer.isNone :: frames)
      (conn.sendWindow - conn.nextChunk st) := by
  have fitting : conn.fits st = true := by
    unfold nextChunk at whole
    simp only [fits, Bool.and_eq_true, decide_eq_true_eq]
    omega
  constructor
  case shrinks => omega
  case onStream =>
    intro frame present
    rcases List.mem_cons.mp present with rfl | later
    · rfl
    · exact ending.onStream frame later
  case contiguous => exact .cons rfl ending.contiguous
  case head => simp [ending.head]
  case body => simp [ending.body]
  case trailer =>
    have sent := ending.sent
    cases present : st.trailer <;> simp_all [TrailerSent]
  case ended =>
    rw [endsStream_data_cons, ending.ended]
    cases present : st.trailer <;> simp
  case phase =>
    have later := ending.phase
    cases present : st.trailer <;> simp_all [Phase.next]
  all_goals simp [fitting]

variable {after : ServerStream}

/-- A turn that leaves a part of the body, followed by the other turns. -/
theorem flushed_of_more
    {n : Int}
    (positive : 0 < n)
    (part : n < st.pending.length)
    (later : Flushed server
      { conn with sendWindow := conn.sendWindow - n } id
      { st with
        pending := st.pending.drop n.toNat
        sendWindow := st.sendWindow - n } after frames window) :
    Flushed server conn id st after
      (.data id (st.pending.take n.toNat) false :: frames) window := by
  have sameFit : conn.fits st = fits { conn with sendWindow := conn.sendWindow - n }
        { st with
          pending := st.pending.drop n.toNat
          sendWindow := st.sendWindow - n } := by
    simp only [fits, List.length_drop]
    rw [Bool.eq_iff_iff]
    simp only [Bool.and_eq_true, decide_eq_true_eq]
    omega
  exact
    { later with
      shrinks := by
        have rest := later.shrinks
        simp only at rest
        omega
      onStream := fun frame present => by
        rcases List.mem_cons.mp present with rfl | rest
        · rfl
        · exact later.onStream frame rest
      contiguous := .cons rfl later.contiguous
      localDone := by rw [sameFit, later.localDone]
      head := by simpa using later.head
      body := by
        have rest := later.body
        rw [dataOf_data_cons, List.append_assoc, rest]
        exact List.take_append_drop ..
      trailer := by
        have sent := later.trailer
        unfold TrailerSent at *
        simpa using sent
      ended := by simpa using later.ended
      phase := by simpa [Phase.next] using later.phase }

theorem flushLoop_spec
    (fuel : Nat)
    (enough : st.pending.length ≤ fuel)
    (pending : st.pending ≠ [])
    (notDone : st.localDone = false) :
    ∃ after encoder window,
      (flushLoop server fuel conn id st).2 =
        { conn.update id after with
          enc := encoder, sendWindow := window } ∧
      Flushed server conn id st after (flushLoop server fuel conn id st).1 window := by
  induction fuel generalizing conn st with
  | zero => simp_all
  | succ fuel ih =>
    unfold flushLoop
    dsimp only
    split
    · next blocked =>
      have empty : conn.nextChunk st ≤ 0 := by simpa [pending] using blocked
      exact ⟨st, conn.enc, conn.sendWindow, rfl, flushed_of_nextChunk_le pending notDone empty⟩
    next possible =>
    have positive : 0 < conn.nextChunk st := by
      omega
    split
    · next last =>
      have whole : (st.pending.length : Int) ≤ conn.nextChunk st := by
        rw [List.isEmpty_iff, List.drop_eq_nil_iff] at last
        omega
      obtain ⟨encoder, stored, ending⟩ :=
        @endStreamLocked_spec _ _ server id
          { conn with
            sendWindow := conn.sendWindow - conn.nextChunk st }
          { st with
            pending := []
            sendWindow := st.sendWindow - conn.nextChunk st }
      have rest : st.pending.drop (conn.nextChunk st).toNat = [] := by
        simpa using last
      have all : st.pending.take (conn.nextChunk st).toNat = st.pending := by
        apply List.take_of_length_le
        omega
      rw [rest, all]
      exact ⟨_, encoder, _, stored, flushed_of_last whole ending⟩
    next more =>
    have part : conn.nextChunk st < st.pending.length := by
      rw [List.isEmpty_iff, List.drop_eq_nil_iff] at more
      omega
    obtain ⟨after, encoder, window, stored, flushed⟩ :=
      @ih
        { conn with
          sendWindow := conn.sendWindow - conn.nextChunk st }
        { st with
          pending := st.pending.drop (conn.nextChunk st).toNat
          sendWindow := st.sendWindow - conn.nextChunk st }
        (by
          simp only [List.length_drop]
          omega)
        (by simpa using more)
        notDone
    refine ⟨after, encoder, window, stored, ?_⟩
    simpa [more] using flushed_of_more positive part flushed

theorem flushStreamLocked_spec
    (pending : st.pending ≠ [])
    (notDone : st.localDone = false) :
    ∃ after encoder window,
      (conn.flushStreamLocked server id st).2 =
        { conn.update id after with
          enc := encoder, sendWindow := window } ∧
      Flushed server conn id st after (conn.flushStreamLocked server id st).1 window :=
  flushLoop_spec _ le_rfl pending notDone

/-- A flush takes a queued answer on. -/
theorem Flushed.progress
    {wire frames : List Sent}
    {answer : Answer}
    (flushed : Flushed server conn id st after frames window)
    (answered : st.answer = some answer)
    (queued : Queued server id wire answer st.side) :
    Progress server id (wire ++ frames) after.side := by
  have sameAnswer : after.side.answer = some answer :=
    flushed.answer.trans answered
  have head : HeadSent server id (wire ++ frames) answer := by
    simpa [HeadSent, flushed.head] using queued.head
  have body : dataOf id (wire ++ frames) ++ after.pending = answer.body := by
    rw [dataOf_append, List.append_assoc, flushed.body]
    exact queued.body
  cases done : after.localDone with
  | true =>
    rw [progress_of_localDone sameAnswer done]
    refine ⟨head, ?_, ?_, ?_⟩
    · simpa [flushed.done done] using body
    · have sent := flushed.trailer
      have left : st.trailer = answer.trailer := queued.left
      rw [done, left] at sent
      unfold TrailerSent at *
      simpa [queued.trailer] using sent
    · simp [flushed.ended, done]
  | false =>
    rw [progress_of_queued sameAnswer done]
    refine ⟨head, body, flushed.more done, ?_, ?_, ?_⟩
    · have sent := flushed.trailer
      rw [done] at sent
      simpa [TrailerSent, queued.trailer] using sent
    · exact (flushed.left done).trans queued.left
    · simp [queued.notEnded, flushed.ended, done]

/-! ## What a response sends -/

/-- What accepting an answer comes to. -/
structure Begun
    (server : Server Encoder Decoder)
    (conn : ServerConn Encoder Decoder)
    (id : Nat)
    (st after : ServerStream)
    (answer : Answer)
    (frames : List Sent) :
    Prop where
  onStream : ∀ frame ∈ frames, frame.stream = id
  contiguous : Contiguous frames
  reset : after.reset = st.reset
  remoteDone : after.remoteDone = st.remoteDone
  pushed : after.pushed = st.pushed
  responded : after.responded = true
  answered : after.answer = some answer
  progress : Progress server id frames after.side
  localDone : answer.body.length ≤ conn.sendWindow ->
    answer.body.length ≤ st.sendWindow -> after.localDone = true
  phase : frames.foldlM Phase.next .idle =
    some (if after.localDone then .ended else .body)

/-- The stream as `respond` leaves it before anything is flushed. -/
def accepting
    (st : ServerStream)
    (answer : Answer) : ServerStream :=
  { st with
    responded := true
    trailer := answer.trailer
    answer := some answer
    pending := answer.body }

/-- An answer without a body. -/
theorem begun_of_empty
    (empty : answer.body = [])
    (encoder : Encoder)
    (ending : Ending server id answer.trailer frames) :
    Begun server conn id st
      { accepting st answer with localDone := true, trailer := none } answer
      (appendHeaderBlock id .final (server.encode encoder answer.fields).1
        answer.trailer.isNone conn.peerMaxFrame ++ frames) := by
  constructor
  case onStream =>
    intro frame present
    rcases List.mem_append.mp present with first | later
    · exact stream_of_mem_appendHeaderBlock first
    · exact ending.onStream frame later
  case contiguous =>
    exact contiguous_appendHeaderBlock.append ending.contiguous
  case progress =>
    have noTrailer : ∀ block endStream, blockOf id .trailer
        (appendHeaderBlock id .final block endStream conn.peerMaxFrame) = [] :=
      fun _ _ => blockOf_appendHeaderBlock_of_ne (by decide)
    refine (progress_of_localDone (show _ = some answer from rfl) rfl).mpr
      ⟨⟨encoder, ?_⟩, ?_, ?_, ?_⟩
    · simp [blockOf_appendHeaderBlock, ending.head]
    · simp [ending.body, empty]
    · have sent := ending.sent
      unfold TrailerSent at *
      simpa [noTrailer] using sent
    · rw [endsStream_append, endsStream_appendHeaderBlock, ending.ended]
      cases answer.trailer <;> rfl
  case phase =>
    have later := ending.phase
    rw [List.foldlM_append, phase_appendHeaderBlock (fun _ _ => rfl)]
    · cases present : answer.trailer <;> simpa [present] using later
    · cases answer.trailer <;> simp
  all_goals simp [accepting]

/-- An answer with a body. -/
theorem begun_of_flushed
    {answer : Answer}
    (nonempty : answer.body ≠ [])
    (encoder : Encoder)
    {enc : Encoder}
    (flushed : Flushed server { conn with enc := enc } id
      (accepting st answer) after frames window) :
    Begun server conn id st after answer
      (appendHeaderBlock id .final (server.encode encoder answer.fields).1
        false conn.peerMaxFrame ++ frames) := by
  constructor
  case onStream =>
    intro frame present
    rcases List.mem_append.mp present with first | later
    · exact stream_of_mem_appendHeaderBlock first
    · exact flushed.onStream frame later
  case contiguous =>
    exact contiguous_appendHeaderBlock.append flushed.contiguous
  case reset => exact flushed.reset
  case remoteDone => exact flushed.remoteDone
  case pushed => exact flushed.pushed
  case responded => exact flushed.responded
  case answered => exact flushed.answer
  case progress =>
    apply flushed.progress rfl
    refine ⟨⟨encoder, blockOf_appendHeaderBlock⟩, ?_, nonempty, ?_, rfl, ?_⟩
    · simp [accepting, ServerStream.side]
    · exact blockOf_appendHeaderBlock_of_ne (by decide)
    · simp
  case localDone =>
    intro connFits streamFits
    rw [flushed.localDone]
    simp [fits, accepting, connFits, streamFits]
  case phase =>
    rw [List.foldlM_append, phase_appendHeaderBlock (fun _ _ => rfl)]
    · exact flushed.phase
    · decide

theorem beginAnswer_spec
    (answer : Answer)
    (notDone : st.localDone = false) :
    ∃ after encoder window,
      (conn.beginAnswer server id st answer).2 =
        { conn.update id after with
          enc := encoder, sendWindow := window } ∧
      Begun server conn id st after answer (conn.beginAnswer server id st answer).1 := by
  unfold beginAnswer
  split
  · next empty =>
    obtain ⟨encoder, stored, ending⟩ :=
      @endStreamLocked_spec _ _ server id
        { conn with enc := (server.encode conn.enc answer.fields).2 }
        (accepting st answer)
    refine ⟨_, encoder, conn.sendWindow, stored, ?_⟩
    rw [show answer.body.isEmpty = true by simp [empty]]
    exact begun_of_empty empty conn.enc ending
  next nonempty =>
  obtain ⟨after, encoder, window, stored, flushed⟩ :=
    @flushStreamLocked_spec _ _ server id
      { conn with enc := (server.encode conn.enc answer.fields).2 }
      (accepting st answer) nonempty notDone
  refine ⟨after, encoder, window, stored, ?_⟩
  rw [show answer.body.isEmpty = false by simpa using nonempty]
  exact begun_of_flushed nonempty conn.enc flushed

end ServerConn

end Http2
end Fib
