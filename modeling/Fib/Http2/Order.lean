import Fib.Http2.Shutdown

/-!
# Order of the frames of a stream

The frames handed to the transport for one stream are interim heads, one final
head, the body in order, and at most one trailer, and END_STREAM is on the last
of them.  Two things break this.  A flush that completes the response to a
request that has not fully arrived sends RST_STREAM at once, and the frames it
has collected after it.  And a stream that is not open can be reset again and
again, or be opened after it was reset.
-/

namespace Fib
namespace Http2

open Frames
open Http (Header Response)

variable {Encoder Decoder : Type}
variable {server : Server Encoder Decoder}

/-- The phase of a stream that has not been reset and is not done. -/
def Side.phase (side : Side) : Phase :=
  if side.responded then .body else .idle

/-- The frames hold a first part of the answer, and they end the stream if and
only if they hold all of it. -/
def Faithful
    (server : Server Encoder Decoder)
    (id : Nat)
    (frames : List Sent) : Option Answer -> Prop
  | none => dataOf id frames = [] ∧ endsStream id frames = false
  | some answer =>
    dataOf id frames <+: answer.body ∧
      (endsStream id frames = true ↔
        HeadSent server id frames answer ∧ dataOf id frames = answer.body ∧
          TrailerSent server id frames answer.trailer)

theorem Faithful.of_alike
    {id : Nat}
    (faithful : Faithful server id frames answer)
    (alike : Alike id frames others) :
    Faithful server id others answer := by
  cases answer with
  | none =>
    exact ⟨alike.body.trans faithful.1, alike.ended.trans faithful.2⟩
  | some answer =>
    have trailer : TrailerSent server id others answer.trailer ↔
        TrailerSent server id frames answer.trailer := by
      cases answer.trailer <;> simp [TrailerSent, alike.trailer]
    simpa only [Faithful, HeadSent, alike.body, alike.ended, alike.head, trailer] using faithful

theorem Progress.faithful
    {id : Nat}
    {side : Side}
    (progress : Progress server id frames side) :
    Faithful server id frames side.answer := by
  cases answered : side.answer with
  | none =>
    rw [progress_of_answer_eq_none answered] at progress
    exact ⟨progress.body, progress.notEnded⟩
  | some answer =>
    cases done : side.localDone with
    | true =>
      rw [progress_of_localDone answered done] at progress
      exact ⟨progress.body ▸ List.prefix_refl _, fun _ =>
        ⟨progress.head, progress.body, progress.trailer⟩, fun _ => progress.ended⟩
    | false =>
      rw [progress_of_queued answered done] at progress
      refine ⟨⟨_, progress.body⟩, fun ended => ?_, fun whole => ?_⟩
      · simp [progress.notEnded] at ended
      · -- What is still queued is missing from the frames.
        have left := progress.body
        rw [whole.2.1, List.append_right_eq_self] at left
        exact absurd left progress.more

namespace ServerConn

variable {conn next : ServerConn Encoder Decoder}
variable {frames : List Sent}
variable {id : Nat}
variable {st : ServerStream}

/-- The frames of every stream keep the order. -/
structure InOrder
    (server : Server Encoder Decoder)
    (conn : ServerConn Encoder Decoder) : Prop where
  contiguous : Contiguous conn.wire
  phase : ∀ id, id ≠ 0 -> (phaseOf id conn.wire).isSome = true
  body : ∀ id st, conn.table id = some st ->
    Faithful server id conn.wire st.answer
  unopened : ∀ id, conn.table id = none ->
    Faithful server id conn.wire none

/-- The frames of one stream keep the order and stand where the stream is. -/
structure InLine
    (server : Server Encoder Decoder)
    (frames : List Sent)
    (closed : Bool)
    (id : Nat)
    (found : Option Side) : Prop where
  valid : id ≠ 0 -> ∃ phase, phaseOf id frames = some phase
  phase : closed = false -> id ≠ 0 -> ∀ side, found = some side -> side.reset = false ->
    side.localDone = false -> phaseOf id frames = some side.phase
  idle : closed = false -> id ≠ 0 -> found = none -> resets id frames = false ->
    phaseOf id frames = some .idle
  body : Faithful server id frames (found.bind Side.answer)

/-- The frames keep the order and stand where the streams are. -/
structure Lined
    (server : Server Encoder Decoder)
    (frames : List Sent)
    (conn : ServerConn Encoder Decoder) : Prop where
  contiguous : Contiguous frames
  streams : ∀ id, InLine server frames conn.closed id ((conn.table id).map ServerStream.side)

theorem bind_answer (found : Option ServerStream) :
    (found.map ServerStream.side).bind Side.answer = (found.map ServerStream.answer).join := by
  cases found <;> rfl

/-! ## One stream at a time -/

variable {out : List Sent}

section

variable (lined : Lined server frames conn)
include lined

/-- Frames of one stream are added, and the stream changes. -/
theorem Lined.step
    (id : Nat)
    (closed : next.closed = false -> conn.closed = false)
    (others : ∀ other, other ≠ id -> next.table other = conn.table other)
    (onStream : ∀ frame ∈ out, frame.stream = id ∨ isControl frame = true)
    (contiguous : Contiguous out)
    (here : InLine server (frames ++ out) next.closed id
      ((next.table id).map ServerStream.side)) :
    Lined server (frames ++ out) next := by
  refine ⟨lined.contiguous.append contiguous, fun other => ?_⟩
  by_cases same : other = id
  · exact same ▸ here
  rw [others other same]
  obtain ⟨valid, phase, idle, body⟩ := lined.streams other
  have alike : Alike other frames (frames ++ out) := by
    apply Blank.alike_append
    apply blank_of_isBare
    intro frame present onOther
    rcases onStream frame present with here | control
    · exact absurd (onOther.symm.trans here) same
    · exact isBare_of_isControl control
  have stays (nonzero : other ≠ 0) : phaseOf other (frames ++ out) = phaseOf other frames := by
    refine phaseOf_append_elsewhere fun frame present onOther => ?_
    rcases onStream frame present with here | control
    · exact same (onOther.symm.trans here)
    · have zero : frame.stream = 0 := by
        cases frame <;> simp_all [isControl, Sent.stream]
      exact nonzero (onOther.symm.trans zero)
  refine ⟨fun nonzero => ?_, fun isOpen nonzero => ?_, fun isOpen nonzero absent unreset => ?_,
    body.of_alike alike⟩
  all_goals rw [stays nonzero]
  · exact valid nonzero
  · exact phase (closed isOpen) nonzero
  · apply idle (closed isOpen) nonzero absent
    simpa using (by simpa using unreset : _ ∧ _).1

theorem Lined.phase
    (isOpen : conn.closed = false)
    (nonzero : id ≠ 0)
    (found : conn.table id = some st)
    (notReset : st.reset = false)
    (going : st.localDone = false) :
    phaseOf id frames = some st.side.phase :=
  (lined.streams id).phase isOpen nonzero st.side (by rw [found]; rfl) notReset going

/-- Frames of the connection itself. -/
theorem Lined.control (control : ∀ frame ∈ out, isControl frame = true) :
    Lined server (frames ++ out) conn := by
  have contiguous : Contiguous out := by
    induction out with
    | nil => exact contiguous_nil
    | cons frame rest ih =>
      refine .cons ?_ (ih fun other present =>
        control other (List.mem_cons_of_mem _ present))
      cases frame <;> simp_all [ServerConn.isControl, follow]
  -- No stream changes; stream zero is not one of those in order.
  exact lined.step 0 (fun isOpen => isOpen) (fun _ _ => rfl)
    (fun frame present => .inr (control frame present)) contiguous
    ⟨by simp, by simp, by simp,
      (lined.streams 0).body.of_alike (blank_of_isControl control).alike_append⟩

theorem Lined.agree (agrees : Agrees conn next) : Lined server frames next := by
  refine ⟨lined.contiguous, fun id => ?_⟩
  rw [agrees.closed, agrees.sides]
  exact lined.streams id

/-- A connection that closes sends nothing more. -/
theorem Lined.closing
    (table : next.table = conn.table)
    (closed : next.closed = false -> conn.closed = false) :
    Lined server frames next where
  contiguous := lined.contiguous
  streams id := by
    rw [table]
    exact
      { lined.streams id with
        phase := fun isOpen => (lined.streams id).phase (closed isOpen)
        idle := fun isOpen => (lined.streams id).idle (closed isOpen) }

theorem Lined.closeFinishedLocked :
    Lined server frames conn.closeFinishedLocked := by
  rcases closeFinishedLocked_cases conn with same | ⟨isOpen, _, _, equal⟩
  · rwa [same]
  · exact lined.closing closeFinishedLocked_table fun _ => isOpen

end

/-- Sending on an open connection what is about to be sent. -/
theorem Lined.sendLocked
    (isOpen : conn.closed = false)
    (lined : Lined server (conn.wire ++ out) conn) :
    Lined server (conn.sendLocked out).wire (conn.sendLocked out) := by
  rw [sendLocked_of_isOpen isOpen]
  exact { lined with }

section

variable (base : Base server conn.wire conn)
include base

/-- Frames on an open stream that are no part of its response and keep its
phase. -/
theorem Lined.bare
    (lined : Lined server frames conn)
    (found : conn.table id = some st)
    (isOpen : conn.closed = false)
    (notReset : st.reset = false)
    (going : st.localDone = false)
    (onStream : ∀ frame ∈ out, frame.stream = id)
    (contiguous : Contiguous out)
    (blank : Blank id out)
    (keeps : out.foldlM Phase.next st.side.phase = some st.side.phase) :
    Lined server (frames ++ out) conn := by
  obtain ⟨nonzero, _⟩ := (base.stored found).known
  have phase : phaseOf id (frames ++ out) = some st.side.phase := by
    rw [phaseOf_append (lined.phase isOpen nonzero found notReset going),
      onStream_eq_self onStream, keeps]
  refine lined.step id (fun stillOpen => stillOpen) (fun _ _ => rfl)
    (fun frame present => .inl (onStream frame present)) contiguous
    ⟨fun _ => ⟨_, phase⟩, fun _ _ side stored _ _ => ?_, by simp [found],
      (lined.streams id).body.of_alike blank.alike_append⟩
  rw [found, Option.map_some, Option.some.injEq] at stored
  rw [← stored, phase]

theorem Lined.grant
    (lined : Lined server conn.wire conn)
    (present : id ∈ conn.streams)
    (increment : Nat) :
    Lined server (conn.sendLocked [.windowUpdate id increment]).wire
      (conn.sendLocked [.windowUpdate id increment]) := by
  obtain ⟨st, found, notReset, going⟩ := base.isOpen id present
  have isOpen := base.isOpen_of_mem present
  apply Lined.sendLocked isOpen
  refine lined.bare base found isOpen notReset going (by simp [Sent.stream])
    rfl (blank_of_isBare ?_) ?_
  · simp [isBare, Sent.fragment, Sent.payload, Sent.endStream]
  · cases responded : st.responded <;> simp [Side.phase, ServerStream.side, responded, Phase.next]

theorem Lined.writeInterim
    (lined : Lined server conn.wire conn)
    (accepted : conn.writeInterim server id status header = .ok next) :
    Lined server next.wire next := by
  unfold ServerConn.writeInterim at accepted
  split at accepted
  · cases accepted
  next st found =>
  repeat' split at accepted
  all_goals cases accepted
  next _ isOpen notResponded =>
    simp only [Bool.or_eq_true, not_or, Bool.not_eq_true] at *
    obtain ⟨going, _, _⟩ :=
      base.unanswered found isOpen.1 isOpen.2 notResponded
    have idle : st.side.phase = .idle := by
      simp [Side.phase, ServerStream.side, notResponded]
    apply Lined.sendLocked (by exact isOpen.1)
    refine (lined.bare base found isOpen.1 isOpen.2 going (fun _ => stream_of_mem_appendHeaderBlock)
      contiguous_appendHeaderBlock (blank_interim ..) ?_).closing
        (by rfl) (fun stillOpen => stillOpen)
    rw [idle]
    exact phase_appendHeaderBlock (fun _ _ => rfl) (by decide)

end

/-- A stream is opened on which no RST_STREAM was sent. -/
theorem Lined.extend
    (lined : Lined server frames conn)
    (isOpen : conn.closed = false)
    (absent : conn.table id = none)
    (unreset : resets id frames = false)
    (fresh : st.side = .fresh)
    (table : next.table = Function.update conn.table id (some st)) :
    Lined server frames next := by
  obtain ⟨valid, _, idle, body⟩ := lined.streams id
  rw [absent] at idle body
  rw [← List.append_nil frames]
  refine lined.step id (fun _ => isOpen) (fun other different => ?_) (by simp) contiguous_nil ?_
  · rw [table, Function.update_of_ne different]
  rw [table, Function.update_self, List.append_nil, Option.map_some, fresh]
  refine ⟨valid, fun _ nonzero side stored _ _ => ?_, nofun, body⟩
  cases stored
  exact idle isOpen nonzero rfl unreset

theorem Lined.promise
    (base : Base server conn.wire conn)
    (lined : Lined server conn.wire conn)
    (found : conn.table id = some st)
    (isOpen : conn.closed = false)
    (notReset : st.reset = false)
    (going : st.localDone = false)
    (unreset : resets conn.nextPushID conn.wire = false)
    (request : Request)
    (header : Header) :
    Lined server (conn.promise server id request header).wire
      (conn.promise server id request header) := by
  obtain ⟨positive, isEven⟩ := base.even
  have idle : conn.idleLocked conn.nextPushID = true := by
    simp [idleLocked, isEven]
  have absent := base.absent_of_idle idle
  have different : conn.nextPushID ≠ id := by
    intro same
    rw [same, found] at absent
    cases absent
  apply Lined.sendLocked (by exact isOpen)
  generalize (server.encode conn.enc _).1 = block
  have onParent : ∀ frame ∈ appendPushPromise id conn.nextPushID block
      conn.peerMaxFrame, frame.stream = id := by
    intro frame present
    rcases List.mem_cons.mp present with rfl | later
    · rfl
    · obtain ⟨fragment, endHeaders, rfl⟩ := mem_continuations later
      rfl
  have parent := lined.bare base found isOpen notReset going onParent
    contiguous_appendPushPromise (blank_pushPromise ..) (by
      have kept : st.side.phase.next (.pushPromise id conn.nextPushID
          (block.take (conn.peerMaxFrame.bytes - 4))
          (block.length ≤ conn.peerMaxFrame.bytes - 4)) = some st.side.phase := by
        cases responded : st.responded <;>
          simp [Side.phase, ServerStream.side, responded, Phase.next]
      unfold appendPushPromise
      rw [List.foldlM_cons, kept]
      refine phase_continuations _ _ ?_
      cases responded : st.responded <;> simp [Side.phase, ServerStream.side, responded])
  refine parent.extend isOpen absent ?_ (by rfl)
    (by rfl : _ = Function.update conn.table conn.nextPushID (some (conn.promisedStream request)))
  rw [resets_append, unreset, resets, onStream_eq_nil fun frame present =>
      onParent frame present ▸ different.symm]
  rfl

/-! ## Resetting and dropping -/

/-- The phase of a stream that may still be reset. -/
theorem Lined.next_rstStream
    (base : Base server conn.wire conn)
    (lined : Lined server conn.wire conn)
    (allowed : id ∈ conn.streams ∨ resets id conn.wire = false)
    (nonzero : id ≠ 0)
    (code : ErrorCode) :
    phaseOf id (conn.wire ++ [.rstStream id code]) = some .reset := by
  obtain ⟨phase, reached⟩ := (lined.streams id).valid nonzero
  have notReset : phase ≠ .reset := by
    rcases allowed with present | unreset
    · obtain ⟨st, found, streamOpen, going⟩ := base.isOpen id present
      have known := lined.phase (base.isOpen_of_mem present) nonzero found streamOpen going
      rw [reached, Option.some.injEq] at known
      rw [known]
      unfold Side.phase
      split <;> simp
    · intro isReset
      have sent := (resets_eq_true_iff reached).mpr isReset
      simp [unreset] at sent
  rw [phaseOf_append reached]
  cases phase <;> simp_all [onStream, Sent.stream, Phase.next]

/-- A stream that is then reset or done is sent an RST_STREAM. -/
theorem Lined.rstStream
    (lined : Lined server conn.wire conn)
    (isOpen : conn.closed = false)
    (phase : id ≠ 0 -> phaseOf id (conn.wire ++ [.rstStream id code]) = some .reset)
    (closed : next.closed = conn.closed)
    (wire : next.wire = conn.wire)
    (others : ∀ other, other ≠ id -> next.table other = conn.table other)
    (answers : (next.table id).map ServerStream.answer = (conn.table id).map ServerStream.answer)
    (gone : ∀ st, next.table id = some st -> st.reset = true ∨ st.localDone = true) :
    Lined server (next.sendLocked [.rstStream id code]).wire
      (next.sendLocked [.rstStream id code]) := by
  have blank : Blank id [.rstStream id code] := blank_rstStream id code
  apply Lined.sendLocked (closed.trans isOpen)
  rw [wire]
  refine lined.step id (fun _ => isOpen) others (by simp [Sent.stream]) rfl
    ⟨fun nonzero => ⟨_, phase nonzero⟩, fun _ _ side stored notReset going => ?_,
      fun _ _ _ unreset => ?_, ?_⟩
  · obtain ⟨st, found, rfl⟩ := Option.map_eq_some_iff.mp stored
    rcases gone st found with isReset | done
    · cases isReset.symm.trans notReset
    · cases done.symm.trans going
  · simp [resets, onStream, Sent.stream, Sent.isReset] at unreset
  · rw [bind_answer, answers, ← bind_answer]
    exact (lined.streams id).body.of_alike blank.alike_append

/-- Forgetting a stream, which is then reset or done. -/
theorem Lined.forgetLocked
    (lined : Lined server frames conn)
    (found : conn.table id = some st) :
    Lined server frames (conn.forgetLocked id) := by
  obtain ⟨pushed, equal⟩ := forgetLocked_eq found
  obtain ⟨valid, _, _, body⟩ := lined.streams id
  rw [found] at body
  rw [equal, ← List.append_nil frames]
  refine lined.step id (fun stillOpen => stillOpen) (fun other different => ?_) (by simp)
    contiguous_nil ?_
  · simp [update, Function.update_of_ne different]
  simp only [update, Function.update_self, List.append_nil, Option.map_some]
  refine ⟨valid, fun _ _ side stored streamOpen going => ?_, by simp, body⟩
  cases stored
  simp_all [forgotten, ServerStream.side]

theorem Lined.resetStream
    (base : Base server conn.wire conn)
    (lined : Lined server conn.wire conn)
    (isOpen : conn.closed = false)
    (allowed : id ∈ conn.streams ∨ resets id conn.wire = false)
    (code : ErrorCode) :
    Lined server (conn.resetStream id code).wire (conn.resetStream id code) := by
  unfold ServerConn.resetStream
  rw [closeFinishedLocked_wire]
  apply Lined.closeFinishedLocked
  have phase := fun nonzero =>
    lined.next_rstStream base allowed nonzero code
  split
  · next present =>
    obtain ⟨st, found, notReset, going⟩ := base.isOpen id present
    obtain ⟨pushed, equal⟩ := forgetLocked_eq found
    refine lined.rstStream isOpen phase (by simp) (by simp) ?_ ?_ ?_
    · intro other different
      rw [equal]
      simp [update, Function.update_of_ne different]
    · rw [equal]
      simp [update, found, forgotten]
    · intro stream stored
      rw [equal] at stored
      simp only [update, Function.update_self, Option.some.injEq] at stored
      simp [← stored, forgotten, going]
  next outside =>
  refine lined.rstStream isOpen phase rfl rfl (fun _ _ => rfl) rfl ?_
  intro stream stored
  by_contra unfinished
  simp only [not_or, Bool.not_eq_true] at unfinished
  exact outside ((base.stored stored).kept isOpen unfinished.1 unfinished.2)

/-! ## Responses -/

/-- What settling a stream comes to. -/
theorem settle_eq
    (found : conn.table id = some st)
    (notReset : st.reset = false) :
    conn.settle id =
      if st.localDone then
        if st.remoteDone then conn.forgetLocked id
        else ((conn.update id { st with reset := true }).sendLocked
          [.rstStream id .noError]).forgetLocked id
      else conn := by
  unfold settle
  rw [found]
  cases done : st.localDone <;> simp [notReset, done]

/-- Settling a stream whose response has been sent. -/
theorem Lined.settle
    (lined : Lined server conn.wire conn)
    (isOpen : conn.closed = false)
    (found : conn.table id = some st)
    (notReset : st.reset = false)
    (phase : st.localDone = true -> phaseOf id conn.wire = some .ended) :
    Lined server (conn.settle id).wire (conn.settle id) := by
  rw [settle_eq found notReset]
  split
  · next done =>
    split
    · rw [forgetLocked_wire]
      exact lined.forgetLocked found
    have stored : (conn.update id { st with reset := true }).table id =
        some { st with reset := true } := by
      simp [update]
    rw [forgetLocked_wire]
    refine Lined.forgetLocked ?_ ((congrFun sendLocked_table id).trans stored)
    refine lined.rstStream isOpen ?_ rfl rfl ?_ ?_ ?_
    · rw [phaseOf_append (phase done)]
      simp [onStream, Sent.stream, Phase.next]
    · intro other different
      simp [update, Function.update_of_ne different]
    · simp [stored, found]
    · intro stream present
      rw [stored, Option.some.injEq] at present
      simp [← present]
  · exact lined

/-- A response of which a part is sent, on a stream of the map. -/
theorem Lined.changed
    (lined : Lined server frames conn)
    {after : ServerStream}
    (changed : Changed conn next id after)
    (onStream : ∀ frame ∈ out, frame.stream = id ∨ isControl frame = true)
    (contiguous : Contiguous out)
    (responded : after.responded = true)
    (phase : id ≠ 0 -> phaseOf id (frames ++ out) =
      some (if after.localDone then .ended else .body))
    (progress : Progress server id (frames ++ out) after.side) :
    Lined server (frames ++ out) next := by
  have stored : next.table id = some after := by
    rw [changed.table, Function.update_self]
  refine lined.step id (fun isOpen => changed.closed ▸ isOpen) (fun other different => ?_)
    onStream contiguous ?_
  · rw [changed.table, Function.update_of_ne different]
  rw [stored]
  refine ⟨fun nonzero => ⟨_, phase nonzero⟩, fun _ nonzero side present _ going => ?_, nofun,
    progress.faithful⟩
  cases present
  rw [phase nonzero, show after.localDone = false from going]
  simp [Side.phase, ServerStream.side, responded]

theorem Lined.respond
    (base : Base server conn.wire conn)
    (lined : Lined server conn.wire conn)
    (accepted : conn.respond server id method response = .ok next) :
    Lined server next.wire next := by
  obtain ⟨st, found, isOpen, notReset, notResponded, _⟩ :=
    respond_eq_ok accepted
  obtain ⟨going, _, blank⟩ :=
    base.unanswered found isOpen notReset notResponded
  obtain ⟨nonzero, _⟩ := (base.stored found).known
  obtain ⟨after, encoder, window, goAway, answered, leaving, begun, control,
    equal⟩ := respond_eq_settle found going accepted
  have idle : phaseOf id conn.wire = some .idle := by
    have reached := lined.phase isOpen nonzero found notReset going
    simpa [Side.phase, ServerStream.side, notResponded] using reached
  have phase : phaseOf id (conn.wire ++ answered) =
      some (if after.localDone then .ended else .body) := by
    rw [phaseOf_append idle, onStream_eq_self begun.onStream, begun.phase]
  have begins : Lined server (conn.wire ++ answered)
      (conn.answering id after encoder window goAway (answered ++ leaving)) :=
    lined.changed ⟨rfl, rfl, rfl, rfl, rfl⟩ (fun frame member => .inl (begun.onStream frame member))
      begun.contiguous begun.responded (fun _ => phase)
      (Progress.of_blank blank begun.progress)
  have sent := begins.control control
  rw [List.append_assoc] at sent
  rw [equal, closeFinishedLocked_wire]
  apply Lined.closeFinishedLocked
  refine sent.settle isOpen (Function.update_self ..) (begun.reset.trans notReset) fun done => ?_
  have elsewhere : ∀ frame ∈ leaving, frame.stream ≠ id := by
    intro frame member same
    have isControl := control frame member
    cases frame <;> simp_all [ServerConn.isControl, Sent.stream]
  show phaseOf id (conn.wire ++ (answered ++ leaving)) = _
  rw [← List.append_assoc, phaseOf_append_elsewhere elsewhere, phase, if_pos done]

/-! ## Flushes -/

/-- No stream that a flush may complete has a request that is still
arriving. -/
def Calm (conn : ServerConn Encoder Decoder) : Prop :=
  ∀ id ∈ conn.streams, ∀ st, conn.table id = some st ->
    st.pending ≠ [] -> conn.fits st = true -> st.remoteDone = true

instance (conn : ServerConn Encoder Decoder) : Decidable (Calm conn) :=
  decidable_of_iff
    (conn.streams.all fun id => (conn.table id).all fun st =>
      st.pending.isEmpty || !conn.fits st || st.remoteDone) (by
    simp only [List.all_eq_true, Option.all_eq_true, Bool.or_eq_true,
      List.isEmpty_iff, Bool.not_eq_true', or_assoc]
    refine forall_congr' fun id => imp_congr_right fun _ =>
      forall_congr' fun st => imp_congr_right fun _ => ?_
    cases conn.fits st <;> simp [or_iff_not_imp_left])

/-- What a flush in a calm state keeps: it sends nothing by itself, and the
answers stay. -/
structure Keeps
    (server : Server Encoder Decoder)
    (conn next : ServerConn Encoder Decoder) : Prop where
  wire : next.wire = conn.wire
  closed : next.closed = false -> conn.closed = false
  answers : ∀ other, (next.table other).map ServerStream.answer =
    (conn.table other).map ServerStream.answer

theorem Keeps.trans
    (first : Keeps server conn next)
    (second : Keeps server next last) :
    Keeps server conn last where
  wire := second.wire.trans first.wire
  closed isOpen := first.closed (second.closed isOpen)
  answers other := (second.answers other).trans (first.answers other)

theorem keeps_refl
    (conn : ServerConn Encoder Decoder) :
    Keeps server conn conn :=
  ⟨rfl, fun isOpen => isOpen, fun _ => rfl⟩

/-- What was sent before the answers were kept is still in order when the
connection is closed. -/
theorem Lined.of_keeps
    (lined : Lined server frames conn)
    (keeps : Keeps server conn next)
    (isClosed : next.closed = true) :
    Lined server frames next where
  contiguous := lined.contiguous
  streams id := by
    refine ⟨(lined.streams id).valid, by simp [isClosed], by simp [isClosed], ?_⟩
    rw [bind_answer, keeps.answers, ← bind_answer]
    exact (lined.streams id).body

/-- Settling a stream whose request has arrived sends nothing. -/
theorem settle_of_remoteDone
    (found : conn.table id = some st)
    (notReset : st.reset = false)
    (arrived : st.localDone = true -> st.remoteDone = true) :
    conn.settle id = if st.localDone then conn.forgetLocked id else conn := by
  rw [settle_eq found notReset]
  cases done : st.localDone with
  | false => rfl
  | true => simp [arrived done]

theorem keeps_forgetLocked
    (id : Nat) :
    Keeps server conn (conn.forgetLocked id) := by
  refine ⟨forgetLocked_wire, by simp, fun other => ?_⟩
  cases found : conn.table id with
  | none => simp [ServerConn.forgetLocked, found]
  | some st =>
    obtain ⟨pushed, equal⟩ := forgetLocked_eq found
    rw [equal]
    by_cases same : other = id
    · subst other
      simp [update, found, forgotten]
    · simp [update, Function.update_of_ne same]

theorem keeps_closeFinishedLocked : Keeps server conn conn.closeFinishedLocked := by
  rcases closeFinishedLocked_cases conn with same | ⟨isOpen, _, _, equal⟩
  · rw [same]
    exact keeps_refl conn
  · exact ⟨closeFinishedLocked_wire, fun _ => isOpen, by simp⟩

/-- A stream that is calm stays so when nothing is added to it and the window
of the connection shrinks. -/
theorem Calm.of_le
    (calm : Calm conn)
    (window : next.sendWindow ≤ conn.sendWindow)
    (kept : ∀ other ∈ next.streams, ∀ st, next.table other = some st -> next.fits st = true ->
        other ∈ conn.streams ∧ conn.table other = some st) :
    Calm next := by
  intro other present st found pending fitting
  obtain ⟨inMap, stored⟩ := kept other present st found fitting
  apply calm other inMap st stored pending
  unfold fits at *
  simp only [Bool.and_eq_true, decide_eq_true_eq] at *
  omega

section FlushOne

variable {buffer : List Sent} {after : ServerStream}
variable (calm : Calm conn) (flushing : Flushing server conn buffer id st after frames window)
include calm flushing

/-- A stream is settled after a flush in a calm state. -/
theorem Calm.settle (encoder : Encoder) :
    let next := conn.flushed id after encoder window
    next.settle id = (if after.localDone then next.forgetLocked id else next) ∧
      Calm (next.settle id) := by
  intro next
  have stored : next.table id = some after := Function.update_self ..
  have settled : next.settle id = if after.localDone then next.forgetLocked id else next := by
    refine settle_of_remoteDone stored (flushing.reset.trans flushing.notReset) fun done => ?_
    rw [flushing.remoteDone]
    exact calm id flushing.present st flushing.stored flushing.pending
      (flushing.localDone.symm.trans done)
  refine ⟨settled, calm.of_le ?_ ?_⟩
  · rw [(settle_frame id).1]
    exact flushing.shrinks
  intro other present stream found fitting
  by_cases same : other = id
  · -- The stream has left the map, or the windows do not allow the rest.
    subst other
    exfalso
    rw [settled] at present found fitting
    split at present
    · obtain ⟨pushed, gone⟩ := forgetLocked_eq stored
      rw [gone] at present
      exact flushing.base.nodup.not_mem_erase present
    next going =>
    rw [if_neg going, stored, Option.some.injEq] at found
    have stuck : next.fits after = false := flushing.stuck (by simpa using going)
    rw [if_neg going, ← found, stuck] at fitting
    cases fitting
  · rw [((settle_frame id).2.2 _ same).2] at present
    rw [((settle_frame id).2.2 _ same).1] at found
    simp only [next, flushed, update, Function.update_of_ne same] at found
    exact ⟨present, found⟩

omit flushing in
theorem Calm.closeFinishedLocked : Calm conn.closeFinishedLocked := by
  rcases closeFinishedLocked_cases conn with same | ⟨_, _, empty, equal⟩
  · rwa [same]
  · rw [equal]
    intro other present
    simp [empty] at present

/-- One stream is flushed in a calm state. -/
theorem Calm.flushOne
    (lined : Lined server (conn.wire ++ buffer) conn)
    (encoder : Encoder) :
    Keeps server conn ((conn.flushed id after encoder window).finishStreamLocked id) ∧
      Calm ((conn.flushed id after encoder window).finishStreamLocked id) ∧
      Lined server (conn.wire ++ (buffer ++ frames))
        ((conn.flushed id after encoder window).finishStreamLocked id) := by
  obtain ⟨answer, answered, queued⟩ := flushing.queued
  obtain ⟨nonzero, _⟩ := (flushing.base.stored flushing.stored).known
  have isOpen := flushing.base.isOpen_of_mem flushing.present
  have phase : phaseOf id (conn.wire ++ buffer ++ frames) =
      some (if after.localDone then .ended else .body) := by
    have reached := lined.phase isOpen nonzero flushing.stored flushing.notReset
      flushing.notDone
    have isBody : st.side.phase = .body := by
      simp [Side.phase, ServerStream.side, flushing.hasResponded]
    rw [isBody] at reached
    rw [phaseOf_append reached, onStream_eq_self flushing.onStream, flushing.phase]
  have changed : Lined server (conn.wire ++ buffer ++ frames)
      (conn.flushed id after encoder window) :=
    lined.changed ⟨rfl, rfl, rfl, rfl, rfl⟩
      (fun frame member => .inl (flushing.onStream frame member))
      flushing.contiguous (flushing.responded.trans flushing.hasResponded)
      (fun _ => phase) (flushing.progress answered queued)
  have kept : Keeps server conn (conn.flushed id after encoder window) := by
    refine ⟨rfl, fun stillOpen => stillOpen, fun other => ?_⟩
    by_cases same : other = id
    · subst other
      simp [flushed, update, flushing.stored, flushing.answer]
    · simp [flushed, update, Function.update_of_ne same]
  obtain ⟨settled, calmly⟩ := calm.settle flushing encoder
  have keepsSettled : Keeps server conn ((conn.flushed id after encoder window).settle id) := by
    rw [settled]
    split
    · exact kept.trans (keeps_forgetLocked id)
    · exact kept
  have linedSettled : Lined server (conn.wire ++ (buffer ++ frames))
      ((conn.flushed id after encoder window).settle id) := by
    rw [settled, ← List.append_assoc]
    split
    · exact changed.forgetLocked (Function.update_self ..)
    · exact changed
  rcases finishStreamLocked_cases (conn.flushed id after encoder window) id with same | same
  · rw [same]
    exact ⟨keepsSettled, calmly, linedSettled⟩
  · rw [same]
    exact ⟨keepsSettled.trans keeps_closeFinishedLocked,
      calmly.closeFinishedLocked, linedSettled.closeFinishedLocked⟩

end FlushOne

theorem Lined.flushAndClose
    (base : Base server conn.wire conn)
    (lined : Lined server conn.wire conn)
    (calm : Calm conn)
    (order : List Nat)
    (control : ∀ frame ∈ out, isControl frame = true) :
    Lined server (conn.flushAndClose server order out).wire
      (conn.flushAndClose server order out) := by
  obtain ⟨last, sent, equal, _, keeps, _, flushed⟩ := base.flushes control
    (fun buffer next => Keeps server conn next ∧ Calm next ∧
      Lined server (next.wire ++ buffer) next)
    (fun _ _ _ _ _ _ _ encoder flushing held => by
      obtain ⟨keeps, calm, lined⟩ := held
      obtain ⟨further, calmly, goesOn⟩ := calm.flushOne flushing lined encoder
      rw [← further.wire] at goesOn
      exact ⟨keeps.trans further, calmly, goesOn⟩)
    ⟨keeps_refl conn, calm, lined.control control⟩ order
  rw [equal, closeFinishedLocked_wire]
  apply Lined.closeFinishedLocked
  cases closed : last.closed with
  | true =>
    -- The flush has closed the connection, and what it collected is lost.
    rw [sendLocked_of_closed closed, keeps.wire]
    exact lined.of_keeps keeps closed
  | false => exact Lined.sendLocked closed flushed

/-! ## Every run -/

/-- Every action keeps the order, if it flushes only where that is calm and
opens or resets no stream that was reset before. -/
theorem Lined.action
    (base : Base server conn.wire conn)
    (lined : Lined server conn.wire conn)
    (action : Action server ⟨fun wire id => resets id wire = false, Calm, reading⟩ conn next) :
    Lined server next.wire next := by
  cases closed : conn.closed with
  | true =>
    have agrees := agrees_of_closed base closed action
    rw [agrees.wire]
    exact lined.agree agrees
  | false =>
    cases action with
    | agree agrees =>
      rw [agrees.wire]
      exact lined.agree agrees
    | control isControl =>
      exact Lined.sendLocked closed (lined.control (by simpa))
    | grant present => exact lined.grant base present _
    | opens isOdd new unreset isOpen fresh _ _ equal =>
      subst equal
      refine lined.extend isOpen (base.absent_of_idle ?_) unreset fresh
        (by rfl)
      simp [idleLocked, isOdd, new]
    | respond accepted => exact lined.respond base accepted
    | interim accepted => exact lined.writeInterim base accepted
    | promise found isOpen notReset going unreset =>
      exact lined.promise base found isOpen notReset going unreset _ _
    | reset allowed => exact lined.resetStream base closed allowed _
    | drop present =>
      obtain ⟨st, found, _⟩ := base.isOpen _ present
      rw [forgetLocked_wire]
      exact lined.forgetLocked found
    | close =>
      rw [closeFinishedLocked_wire]
      exact lined.closeFinishedLocked
    | flush calm control => exact lined.flushAndClose base calm _ control
    | fail =>
      unfold ServerConn.fail
      rw [if_neg (by simp [closed]), sendLocked_of_isOpen closed]
      exact (lined.control (by simp [isControl])).closing (by rfl) (fun _ => closed)
    | shutdown => exact lined.closing (by rfl) (fun _ => closed)

/-- A step opens no stream and resets no stream that is not open, if it was
reset before, and completes in a flush no response to a request that is still
arriving. -/
def Orderly
    (server : Server Encoder Decoder)
    (conn : ServerConn Encoder Decoder)
    (event : Event) : Prop :=
  Admits server (fun wire id => resets id wire = false) Calm conn event

instance (server : Server Encoder Decoder)
    (conn : ServerConn Encoder Decoder) (event : Event) :
    Decidable (Orderly server conn event) :=
  match event with
  | .frame frame _ =>
    decidable_of_iff
      ((conn.touched frame).all (fun id => !resets id conn.wire) = true ∧
        (readied server (conn.noted frame) frame).all
          (fun ready => decide (Calm ready)) = true) (by
      simp only [Option.all_eq_true, Bool.not_eq_true', decide_eq_true_eq]
      rfl)
  | .malformed _ _ => .isTrue trivial
  | .respond _ _ _ => .isTrue trivial
  | .interim _ _ _ => .isTrue trivial
  | .push _ _ _ _ => inferInstanceAs (Decidable (_ = _))
  | .shutdown => .isTrue trivial

theorem lined_of_isStart
    (starts : IsStart server conn) :
    Lined server conn.wire conn := by
  have nothing : Lined server [] (start server) := by
    refine ⟨rfl, fun id => ?_⟩
    constructor <;> simp [start, phaseOf, Faithful]
  have first : Lined server (start server).wire (start server) :=
    nothing.control (by simp [isControl])
  rcases isStart_cases starts with rfl | ⟨request, applied, retuned, rfl⟩
  · exact first
  have agrees := retuned.agrees
  have lined := first.agree agrees
  rw [← agrees.wire] at lined
  refine lined.extend agrees.closed
    ((agrees.table_eq_none_iff 1).mpr rfl) ?_ (by rfl)
    (by rfl : _ = Function.update applied.table 1 (some (applied.upgradedStream request)))
  rw [agrees.wire]
  rfl

/-- In every run of orderly steps, the frames of every stream keep the
order. -/
theorem frames_in_order
    (server : Server Encoder Decoder)
    {start final : ServerConn Encoder Decoder}
    {events : List Event}
    (starts : IsStart server start)
    (orderly : Transition.Meets (step server) (Orderly server) start events)
    (reached : Transition.run (step server) start events = some final) :
    InOrder server final := by
  have kept (conn : ServerConn Encoder Decoder) (event : Event)
      (next : ServerConn Encoder Decoder) (base : Base server conn.wire conn)
      (lined : Lined server conn.wire conn) (admitted : Orderly server conn event)
      (taken : conn.step server event = some next) : Lined server next.wire next :=
    @Base.step_of_action _ _ server conn next event _ _ (fun conn => Lined server conn.wire conn)
      base (fun _ _ base lined action => lined.action base action) lined admitted taken
  have lined := run_of_step kept starts (lined_of_isStart starts) orderly reached
  exact
    { contiguous := lined.contiguous
      phase := fun id nonzero =>
        Option.isSome_iff_exists.mpr ((lined.streams id).valid nonzero)
      body := fun id st found => by
        simpa [found, ServerStream.side] using (lined.streams id).body
      unopened := fun id absent => by simpa [absent] using (lined.streams id).body }

theorem frames_in_order_staggered :
    phaseOf 1 (reach staggered).wire = some .ended ∧ InOrder smallServer (reach staggered) :=
  ⟨by decide, @frames_in_order _ _ smallServer _ _ staggered (.inl rfl)
      (by decide) rfl⟩

/-- A request whose body is announced to be too long, sent without a window;
the error page is flushed when the window grows. -/
def lateFlush : List Event :=
  [.frame (windowSetting 0) [],
    .frame (requestFrame 1 false "POST" [("content-length", "200")]) [],
    .frame (windowUpdate 1 50) [1]]

/-- A stream that was reset while idle is opened and answered. -/
def openedAgain : List Event :=
  [.frame (windowSetting 0) [],
    .frame (frameOf .priority 0 1 []) [],
    .frame (requestFrame 1 true "GET" []) [],
    .respond 1 (ascii "GET") (textResponse "" false)]

/-- The flush sends RST_STREAM before the body it has collected, and a
response follows the RST_STREAM of an idle stream. -/
theorem frames_after_reset :
    (Transition.run (step smallServer) (start smallServer) lateFlush).isSome = true ∧
      (Transition.run (step smallServer) (start smallServer) openedAgain).isSome = true ∧
      ¬InOrder smallServer (reach lateFlush) ∧
      ¬InOrder smallServer (reach openedAgain) := by
  refine ⟨by decide, by decide, fun inOrder => ?_, fun inOrder => ?_⟩
  · have valid := inOrder.phase 1 one_ne_zero
    exact absurd valid (by decide)
  · have valid := inOrder.phase 1 one_ne_zero
    exact absurd valid (by decide)

end ServerConn
end Http2
end Fib
