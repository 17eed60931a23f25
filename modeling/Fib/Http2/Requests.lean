import Fib.Http2.Order

/-!
# Requests given to the handler

The handler is called once for a stream of the client, when the stream has
ended, with all of the body that was received on it.  A stream that `reject`
answers is not given to the handler, if the error page can be sent at once: the
stream is then reset and leaves the map.  An error page that has to wait for a
window leaves the stream open, and what is received on it afterwards can still
complete a request.
-/

namespace Fib
namespace Http2

open Frames
open Http (Header Response)

/-! ## What was received on a stream -/

/-- The body received on a stream. -/
def dataReceived
    (id : Nat)
    (frames : List Frame) : Bytes :=
  frames.flatMap fun frame =>
    if frame.typ = .data ∧ frame.streamID = id then frame.payload else []

/-- A frame that ends the stream was received. -/
def endReceived
    (id : Nat)
    (frames : List Frame) : Bool :=
  frames.any fun frame =>
    (frame.typ == .data || frame.typ == .headers) &&
      frame.streamID == id && frame.has flagEndStream

/-- An RST_STREAM of the stream was received. -/
def resetReceived
    (id : Nat)
    (frames : List Frame) : Bool :=
  frames.any fun frame => frame.typ == .rstStream && frame.streamID == id

/-- The handler was called on a complete request. -/
structure Complete
    {Encoder Decoder : Type}
    (server : Server Encoder Decoder)
    (call : Call) : Prop where
  isClient : call.stream % 2 = 1
  ended : endReceived call.stream call.received = true
  body : call.body = dataReceived call.stream call.received
  bounded : call.body.length ≤ server.maxBodyBytes
  declared : get call.request.header (ascii "Content-Length") ≠ [] ->
    declaredLength call.request.header = some call.body.length
  notRejected : call.rejected = false
  notReset : resets call.stream call.sent = false
  notCancelled : resetReceived call.stream call.received = false

section Received

variable {id : Nat}
variable {frames : List Frame}
variable {frame : Frame}

theorem dataReceived_append :
    dataReceived id (frames ++ [frame]) = dataReceived id frames ++
        (if frame.typ = .data ∧ frame.streamID = id then frame.payload
        else []) := by
  simp [dataReceived]

theorem resetReceived_append :
    resetReceived id (frames ++ [frame]) = (resetReceived id frames ||
        (frame.typ == .rstStream && frame.streamID == id)) := by
  simp [resetReceived]

theorem endReceived_append :
    endReceived id (frames ++ [frame]) =
      (endReceived id frames || ((frame.typ == .data || frame.typ == .headers) &&
          frame.streamID == id && frame.has flagEndStream)) := by
  simp [endReceived]

end Received

/-- The fields of a stream that its request is about. -/
structure Intake where
  req : Option Request
  body : Bytes
  declared : Option Nat
  remoteDone : Bool
  responded : Bool
  served : Bool

def ServerStream.intake (st : ServerStream) : Intake where
  req := st.req
  body := st.body
  declared := st.declared
  remoteDone := st.remoteDone
  responded := st.responded
  served := st.served

namespace ServerConn

variable {Encoder Decoder : Type}
variable {server : Server Encoder Decoder}
variable {conn next : ServerConn Encoder Decoder}
variable {id : Nat}
variable {st : ServerStream}

/-! ## Steps that are not about requests -/

/-- Nothing happens to the requests: streams may leave the map, and responses
may go on. -/
structure Quiet (conn next : ServerConn Encoder Decoder) : Prop where
  readSide : next.readSide = conn.readSide
  calls : next.calls = conn.calls
  rejected : next.rejected = conn.rejected
  maxClientID : next.maxClientID = conn.maxClientID
  contEndStream : next.contEndStream = conn.contEndStream
  closed : next.closed = false -> conn.closed = false
  closes : next.closed = true -> conn.closed = true ∨ next.streams = []
  streams : next.streams.Sublist conn.streams
  stored : ∀ id ∈ next.streams, conn.table id ≠ none ->
    next.table id ≠ none
  intakes : ∀ id ∈ next.streams, ∀ st, next.table id = some st ->
    ∃ before, conn.table id = some before ∧
      (st.intake = before.intake ∨
        st.remoteDone = before.remoteDone ∧
          (before.responded = true ∨ before.remoteDone = true))
  unreset : conn.streams.Nodup -> ∀ id ∈ next.streams,
    resets id next.wire = resets id conn.wire

namespace Quiet

theorem trans
    (first : Quiet conn next)
    (second : Quiet next last) :
    Quiet conn last where
  readSide := second.readSide.trans first.readSide
  calls := second.calls.trans first.calls
  rejected := second.rejected.trans first.rejected
  maxClientID := second.maxClientID.trans first.maxClientID
  contEndStream := second.contEndStream.trans first.contEndStream
  closed isOpen := first.closed (second.closed isOpen)
  closes isClosed := by
    rcases second.closes isClosed with before | empty
    · refine (first.closes before).imp_right fun empty => ?_
      exact List.sublist_nil.mp (empty ▸ second.streams)
    · exact .inr empty
  streams := second.streams.trans first.streams
  stored id present known := second.stored id present
    (first.stored id (second.streams.subset present) known)
  intakes id present st found := by
    obtain ⟨middle, stored, later⟩ := second.intakes id present st found
    obtain ⟨before, known, earlier⟩ :=
      first.intakes id (second.streams.subset present) middle stored
    refine ⟨before, known, ?_⟩
    rcases later with same | ⟨arrived, busy⟩
    · rcases earlier with also | ⟨alsoArrived, wasBusy⟩
      · exact .inl (same.trans also)
      · exact .inr ⟨(congrArg Intake.remoteDone same).trans alsoArrived, wasBusy⟩
    rcases earlier with also | ⟨alsoArrived, wasBusy⟩
    · have remote : middle.remoteDone = before.remoteDone :=
        congrArg Intake.remoteDone also
      have responded : middle.responded = before.responded :=
        congrArg Intake.responded also
      exact .inr ⟨arrived.trans remote, responded ▸ remote ▸ busy⟩
    · exact .inr ⟨arrived.trans alsoArrived, wasBusy⟩
  unreset nodup id present :=
    (second.unreset (nodup.sublist first.streams) id present).trans
      (first.unreset nodup id (second.streams.subset present))

theorem refl (conn : ServerConn Encoder Decoder) : Quiet conn conn where
  readSide := rfl
  calls := rfl
  rejected := rfl
  maxClientID := rfl
  contEndStream := rfl
  closed := id
  closes := .inl
  streams := .refl _
  stored _ _ := id
  intakes _ _ st found := ⟨st, found, .inl rfl⟩
  unreset _ _ _ := rfl

end Quiet

theorem quiet_sendLocked
    (unreset : ∀ id ∈ conn.streams, resets id out = false) :
    Quiet conn (conn.sendLocked out) := by
  unfold sendLocked
  split
  · exact .refl conn
  · exact
      { Quiet.refl conn with
        unreset := fun _ id present => by
          simp [unreset id present] }

theorem quiet_closeFinishedLocked : Quiet conn conn.closeFinishedLocked := by
  rcases closeFinishedLocked_cases conn with same | ⟨isOpen, _, empty, equal⟩
  · rw [same]
    exact .refl conn
  rw [equal]
  exact
    { Quiet.refl conn with
      closed := fun _ => isOpen
      closes := fun _ => .inr empty }

/-- One stream changes in a way that is not about its request. -/
theorem quiet_update
    (found : conn.table id = some st)
    (after : ServerStream)
    (same : after.intake = st.intake ∨ after.remoteDone = st.remoteDone ∧
        (st.responded = true ∨ st.remoteDone = true)) :
    Quiet conn (conn.update id after) :=
  { Quiet.refl conn with
    stored := fun other _ known => by
      by_cases equal : other = id
      · simp [equal, update]
      · simpa [update, Function.update_of_ne equal] using known
    intakes := fun other present stream stored => by
      by_cases equal : other = id
      · subst other
        simp only [update, Function.update_self, Option.some.injEq] at stored
        exact ⟨st, found, stored ▸ same⟩
      · simp only [update, Function.update_of_ne equal] at stored
        exact ⟨stream, stored, .inl rfl⟩ }

theorem quiet_forgetLocked : Quiet conn (conn.forgetLocked id) := by
  cases found : conn.table id with
  | none =>
    simp only [forgetLocked, found]
    exact .refl conn
  | some st =>
    obtain ⟨pushed, equal⟩ := forgetLocked_eq found
    rw [equal]
    refine (quiet_update found (forgotten st) (.inl rfl)).trans ?_
    exact
      { Quiet.refl (conn.update id (forgotten st)) with
        streams := List.erase_sublist
        stored := fun _ _ known => known
        closes := fun isClosed => .inl isClosed
        intakes := fun other present stream stored =>
          ⟨stream, stored, .inl rfl⟩
        unreset := fun _ _ _ => rfl }

theorem resets_rstStream_of_ne
    (different : other ≠ id)
    (code : ErrorCode) :
    resets other [.rstStream id code] = false := by
  simp [resets, onStream, Sent.stream, different.symm]

/-- A stream that leaves the map may be reset on the wire. -/
theorem quiet_forget_reset
    (found : conn.table id = some st)
    (code : ErrorCode) :
    Quiet conn ((conn.sendLocked [.rstStream id code]).forgetLocked id) := by
  cases closed : conn.closed with
  | true =>
    rw [sendLocked_of_closed closed]
    exact quiet_forgetLocked
  | false =>
    have forgets : Quiet conn (conn.forgetLocked id) := quiet_forgetLocked
    obtain ⟨pushed, plain⟩ := forgetLocked_eq found
    rw [plain] at forgets
    rw [sendLocked_of_isOpen closed]
    obtain ⟨others, equal⟩ := @forgetLocked_eq _ _
      { conn with wire := conn.wire ++ [.rstStream id code] } id st found
    rw [equal]
    exact
      { forgets with
        unreset := fun nodup other present => by
          have different : other ≠ id := by
            rintro rfl
            exact nodup.not_mem_erase present
          simp [update, resets_rstStream_of_ne different] }

/-- A reset stream leaves the map. -/
theorem quiet_settle : Quiet conn (conn.settle id) := by
  unfold settle
  split
  · exact .refl conn
  next st found =>
  split
  · exact .refl conn
  split
  · exact quiet_forgetLocked
  have marked : Quiet conn (conn.update id { st with reset := true }) :=
    quiet_update found _ (.inl rfl)
  refine marked.trans ?_
  have stored : (conn.update id { st with reset := true }).table id =
      some { st with reset := true } := by
    simp [update]
  exact quiet_forget_reset stored .noError

theorem quiet_finishStreamLocked : Quiet conn (conn.finishStreamLocked id) := by
  rcases finishStreamLocked_cases conn id with equal | equal
  · rw [equal]
    exact quiet_settle
  · rw [equal]
    exact quiet_settle.trans quiet_closeFinishedLocked

theorem not_mem_forgetLocked
    (nodup : conn.streams.Nodup)
    (known : id ∈ conn.streams -> conn.table id ≠ none) :
    id ∉ (conn.forgetLocked id).streams := by
  cases found : conn.table id with
  | none =>
    simp only [forgetLocked, found]
    exact fun present => known present found
  | some st =>
    obtain ⟨pushed, equal⟩ := forgetLocked_eq found
    rw [equal]
    exact nodup.not_mem_erase

theorem quiet_resetStream
    (nodup : conn.streams.Nodup)
    (known : id ∈ conn.streams -> conn.table id ≠ none)
    (code : ErrorCode) :
    Quiet conn (conn.resetStream id code) ∧ id ∉ (conn.resetStream id code).streams := by
  have outside : ∀ mid : ServerConn Encoder Decoder, id ∉ mid.streams ->
      Quiet mid (mid.sendLocked [.rstStream id code]).closeFinishedLocked ∧ id ∉ (mid.sendLocked
          [.rstStream id code]).closeFinishedLocked.streams := by
    intro mid absent
    have sent : Quiet mid (mid.sendLocked [.rstStream id code]) :=
      quiet_sendLocked fun other present =>
        resets_rstStream_of_ne (fun same : other = id => absent (same ▸ present)) code
    have quiet := sent.trans quiet_closeFinishedLocked
    exact ⟨quiet, fun present => absent (quiet.streams.subset present)⟩
  unfold resetStream
  split
  · have gone := not_mem_forgetLocked nodup known
    obtain ⟨quiet, absent⟩ := outside (conn.forgetLocked id) gone
    exact ⟨quiet_forgetLocked.trans quiet, absent⟩
  · next absent => exact outside conn absent

theorem quiet_shutdown : Quiet conn conn.shutdown :=
  { Quiet.refl conn with
    closed := fun isOpen => by simp [shutdown] at isOpen
    closes := fun _ => .inr rfl
    streams := List.nil_sublist _
    stored := fun _ _ known => known
    intakes := fun _ present => by simp [shutdown] at present
    unreset := fun _ _ present => by simp [shutdown] at present }

theorem quiet_fail
    (code : ErrorCode)
    (reason : String) :
    Quiet conn (conn.fail code reason) := by
  unfold fail
  split
  · exact .refl conn
  next isOpen =>
  rw [sendLocked_of_isOpen (by simpa using isOpen)]
  exact
    { Quiet.refl conn with
      closed := fun stillOpen => by simp at stillOpen
      closes := fun _ => .inr rfl
      streams := List.nil_sublist _
      stored := fun _ _ known => known
      intakes := fun _ present => by simp at present
      unreset := fun _ _ present => by simp at present }

/-! ## Responses -/

/-- Frames of a stream that keep the order hold no RST_STREAM. -/
theorem resets_eq_false_of_phase
    {frames : List Sent}
    {before after : Phase}
    (onStream : ∀ frame ∈ frames, frame.stream = id)
    (start : before ≠ .reset)
    (reached : frames.foldlM Phase.next before = some after)
    (going : after ≠ .reset)
    (other : Nat) :
    resets other frames = false := by
  by_cases same : other = id
  · subst other
    unfold resets
    rw [onStream_eq_self onStream, Bool.eq_false_iff]
    exact fun isReset => going ((any_isReset_iff_of_foldlM start reached).mp isReset)
  · unfold resets
    rw [onStream_eq_nil fun frame present =>
      onStream frame present ▸ Ne.symm same]
    rfl

theorem resets_of_isControl
    (control : ∀ frame ∈ out, isControl frame = true)
    (other : Nat) :
    resets other out = false := by
  refine List.any_eq_false.mpr fun frame present => ?_
  have isControl := control frame (List.mem_of_mem_filter present)
  cases frame <;> simp_all [ServerConn.isControl, Sent.isReset]

theorem resets_windowUpdate (other increment : Nat) :
    resets other [.windowUpdate id increment] = false := by
  refine List.any_eq_false.mpr fun frame present => ?_
  have member := List.mem_singleton.mp (List.mem_of_mem_filter present)
  simp [member, Sent.isReset]

theorem quiet_flushOne
    {after : ServerStream}
    (flushing : Flushing server conn buffer id st after frames window)
    (encoder : Encoder) :
    Quiet conn ((conn.flushed id after encoder window).finishStreamLocked id) ∧
      ∀ other, resets other frames = false := by
  have changed : Quiet conn (conn.flushed id after encoder window) :=
    (quiet_update flushing.stored after
      (.inr ⟨flushing.remoteDone, .inl flushing.hasResponded⟩)).trans { Quiet.refl _ with }
  refine ⟨changed.trans quiet_finishStreamLocked, ?_⟩
  apply resets_eq_false_of_phase flushing.onStream (by decide) flushing.phase
  split <;> decide

theorem quiet_flushAndClose
    (base : Base server conn.wire conn)
    (order : List Nat)
    (control : ∀ frame ∈ out, isControl frame = true) :
    Quiet conn (conn.flushAndClose server order out) := by
  obtain ⟨last, sent, equal, _, quiet, unreset⟩ := base.flushes control
    (fun buffer next => Quiet conn next ∧ ∀ other, resets other buffer = false)
    (fun _ _ _ _ _ _ _ encoder flushing held => by
      obtain ⟨flushed, unreset⟩ := quiet_flushOne flushing encoder
      refine ⟨held.1.trans flushed, fun other => ?_⟩
      rw [resets_append, held.2, unreset, Bool.or_self])
    ⟨.refl conn, resets_of_isControl control⟩ order
  rw [equal]
  exact (quiet.trans (quiet_sendLocked fun other _ => unreset other)).trans
    quiet_closeFinishedLocked

/-- A response is not about requests, if its request has arrived or its stream
leaves the map. -/
theorem quiet_respond
    (found : conn.table id = some st)
    (going : st.localDone = false)
    (accepted : conn.respond server id method response = .ok next)
    (allowed : st.remoteDone = true ∨ id ∉ next.streams) :
    Quiet conn next := by
  obtain ⟨after, encoder, window, goAway, answered, leaving, begun, control,
    equal⟩ := respond_eq_settle found going accepted
  have later : Quiet (conn.answering id after encoder window goAway
      (answered ++ leaving)) next := by
    rw [equal]
    exact quiet_settle.trans quiet_closeFinishedLocked
  have unreset : ∀ other, resets other (conn.answering id after encoder window
      goAway (answered ++ leaving)).wire = resets other conn.wire := by
    intro other
    have own : resets other answered = false := by
      apply resets_eq_false_of_phase begun.onStream (by decide) begun.phase
      split <;> decide
    simp [answering, own, resets_of_isControl control]
  exact
    { later with
      stored := fun other present known => by
        refine later.stored other present ?_
        by_cases same : other = id
        · simp [same, answering, update]
        · simpa [answering, update, Function.update_of_ne same] using known
      intakes := fun other present stream stored => by
        obtain ⟨middle, inMiddle, goesOn⟩ :=
          later.intakes other present stream stored
        by_cases same : other = id
        · subst other
          simp only [answering, update, Function.update_self, Option.some.injEq] at inMiddle
          have arrived := allowed.resolve_right fun absent => absent present
          have kept : stream.remoteDone = middle.remoteDone := by
            rcases goesOn with equal | ⟨remote, _⟩
            · exact congrArg Intake.remoteDone equal
            · exact remote
          refine ⟨st, found, .inr ⟨?_, .inr arrived⟩⟩
          rw [kept, ← inMiddle, begun.remoteDone]
        · simp only [answering, update, Function.update_of_ne same] at inMiddle
          exact ⟨middle, inMiddle, goesOn⟩
      unreset := fun nodup other present =>
        (later.unreset nodup other present).trans (unreset other) }

theorem quiet_writeInterim
    (accepted : conn.writeInterim server id status header = .ok next) :
    Quiet conn next := by
  unfold writeInterim at accepted
  repeat' split at accepted
  all_goals cases accepted
  have encoded : ∀ encoder : Encoder,
      Quiet conn { conn with enc := encoder } :=
    fun _ => { Quiet.refl _ with }
  refine (encoded _).trans (quiet_sendLocked fun other _ => ?_)
  have kept : ∀ block size,
      (appendHeaderBlock id .interim block false size).foldlM Phase.next .idle = some .idle :=
    fun _ _ => phase_appendHeaderBlock (fun _ _ => rfl) (by decide)
  exact resets_eq_false_of_phase
    (fun _ => stream_of_mem_appendHeaderBlock) (by decide) (kept _ _) (by decide) other

/-! ## The requests that are arriving -/

/-- The length a stream expects is the one its request declares. -/
def Declares
    (header : Header)
    (declared : Option Nat) : Prop :=
  get header (ascii "Content-Length") ≠ [] ->
    ∃ length : Nat, declaredLength header = some (length : Int) ∧
      declared = some length

/-- A request of the client that has not arrived in full, after the frames
received.  `given` are the streams whose request came in another way. -/
structure Arriving
    (server : Server Encoder Decoder)
    (given : List Nat)
    (received : List Frame)
    (conn : ServerConn Encoder Decoder)
    (id : Nat)
    (st : ServerStream) : Prop where
  isClient : id % 2 = 1
  known : id ≤ conn.maxClientID
  notGiven : id ∉ given
  uncalled : ∀ call ∈ conn.calls, call.stream ≠ id
  unrejected : id ∉ conn.rejected
  unresponded : st.responded = false
  unserved : st.served = false
  body : st.body = dataReceived id received
  bounded : st.body.length ≤ server.maxBodyBytes
  request : ∃ request, st.req = some request ∧
    Declares request.header st.declared
  unreset : resets id conn.wire = false
  uncancelled : resetReceived id received = false

/-- The calls made were on complete requests, and the requests that are still
arriving are as the frames received say; of the stream `hole` this is not said.
The history may have a frame that is still to be counted. -/
structure Ledger
    (server : Server Encoder Decoder)
    (given : List Nat)
    (history received : List Frame)
    (hole : Option Nat)
    (conn : ServerConn Encoder Decoder) : Prop where
  sofar : conn.received = history
  called : ∀ call ∈ conn.calls,
    Complete server call ∧ call.stream ∉ given ∧ call.stream ≤ conn.maxClientID
  once : (conn.calls.map Call.stream).Nodup
  givenKnown : ∀ id ∈ given, id ≤ conn.maxClientID
  rejectedKnown : ∀ id ∈ conn.rejected, id ≤ conn.maxClientID
  emptied : conn.closed = true -> conn.streams = []
  nodup : conn.streams.Nodup
  stored : ∀ id ∈ conn.streams, conn.table id ≠ none
  arriving : ∀ id ∈ conn.streams, hole ≠ some id -> ∀ st,
    conn.table id = some st -> st.remoteDone = false ->
      Arriving server given received conn id st
  untouched : conn.closed = false -> ∀ id, id % 2 = 1 ->
    conn.maxClientID < id ->
      dataReceived id received = [] ∧ resetReceived id received = false
  block : ∀ id, conn.contStream = some id -> conn.contEndStream = true ->
    endReceived id received = true

section Ledgers

variable {given : List Nat}
variable {history received : List Frame}
variable {hole : Option Nat}

theorem Arriving.quiet
    (arriving : Arriving server given received conn id st)
    (quiet : Quiet conn next)
    {after : ServerStream}
    (same : after.intake = st.intake)
    (unreset : resets id next.wire = resets id conn.wire) :
    Arriving server given received next id after where
  isClient := arriving.isClient
  known := quiet.maxClientID ▸ arriving.known
  notGiven := arriving.notGiven
  uncalled := quiet.calls ▸ arriving.uncalled
  unrejected := quiet.rejected ▸ arriving.unrejected
  unresponded :=
    (congrArg Intake.responded same).trans arriving.unresponded
  unserved := (congrArg Intake.served same).trans arriving.unserved
  body := (congrArg Intake.body same).trans arriving.body
  bounded := by
    have equal : after.body = st.body := congrArg Intake.body same
    exact equal ▸ arriving.bounded
  request := by
    obtain ⟨request, stored, declares⟩ := arriving.request
    have declared : after.declared = st.declared :=
      congrArg Intake.declared same
    exact ⟨request, (congrArg Intake.req same).trans stored, declared ▸ declares⟩
  unreset := unreset.trans arriving.unreset
  uncancelled := arriving.uncancelled

theorem Ledger.quiet
    (ledger : Ledger server given history received hole conn)
    (quiet : Quiet conn next) :
    Ledger server given history received hole next where
  sofar := (congrArg ReadSide.received quiet.readSide).trans ledger.sofar
  called := quiet.calls ▸ quiet.maxClientID ▸ ledger.called
  once := quiet.calls ▸ ledger.once
  givenKnown := quiet.maxClientID ▸ ledger.givenKnown
  rejectedKnown := quiet.rejected ▸ quiet.maxClientID ▸ ledger.rejectedKnown
  emptied isClosed := by
    rcases quiet.closes isClosed with before | empty
    · have empty := ledger.emptied before
      exact List.sublist_nil.mp (empty ▸ quiet.streams)
    · exact empty
  nodup := ledger.nodup.sublist quiet.streams
  stored id present := quiet.stored id present (ledger.stored id (quiet.streams.subset present))
  arriving id present outside st found going := by
    obtain ⟨before, stored, goesOn⟩ := quiet.intakes id present st found
    have inMap := quiet.streams.subset present
    rcases goesOn with same | ⟨remote, busy⟩
    · have arriving := ledger.arriving id inMap outside before stored
        ((congrArg Intake.remoteDone same).symm.trans going)
      exact arriving.quiet quiet same (quiet.unreset ledger.nodup id present)
    · have wasGoing := remote.symm.trans going
      have arriving := ledger.arriving id inMap outside before stored wasGoing
      rw [arriving.unresponded, wasGoing] at busy
      simp at busy
  untouched isOpen := quiet.maxClientID ▸ ledger.untouched (quiet.closed isOpen)
  block := by
    rw [show next.contStream = conn.contStream from congrArg ReadSide.contStream quiet.readSide,
      quiet.contEndStream]
    exact ledger.block

/-- Leaving a stream out. -/
theorem Ledger.leave
    (ledger : Ledger server given history received none conn)
    (id : Nat) :
    Ledger server given history received (some id) conn :=
  { ledger with
    arriving := fun other present _ => ledger.arriving other present (by simp) }

section

variable (ledger : Ledger server given history received (some id) conn)
include ledger

/-- Taking a stream in again. -/
theorem Ledger.fill
    (arriving : id ∈ conn.streams -> ∀ st, conn.table id = some st ->
      st.remoteDone = false -> Arriving server given received conn id st) :
    Ledger server given history received none conn :=
  { ledger with
    arriving := fun other present _ => by
      by_cases same : other = id
      · subst other
        exact arriving present
      · exact ledger.arriving other present (by simpa using Ne.symm same) }

theorem Ledger.fill_of_not_mem (absent : id ∉ conn.streams) :
    Ledger server given history received none conn :=
  ledger.fill fun present => absurd present absent

/-- The stream left out changes. -/
theorem Ledger.update (after : ServerStream) :
    Ledger server given history received (some id) (conn.update id after) := by
  have elsewhere : ∀ other, some id ≠ some other ->
      (conn.update id after).table other = conn.table other := by
    intro other different
    exact Function.update_of_ne (by simpa using Ne.symm different) _ _
  exact
    { ledger with
      stored := fun other present => by
        by_cases same : other = id
        · simp [same, ServerConn.update]
        · rw [elsewhere other (by simpa using Ne.symm same)]
          exact ledger.stored other present
      arriving := fun other present outside st found => by
        rw [elsewhere other outside] at found
        intro going
        exact { ledger.arriving other present outside st found going with } }

end

/-- One more frame, that says nothing of streams that are not left out. -/
theorem Ledger.receive
    (ledger : Ledger server given history received hole conn)
    (frame : Frame)
    (wider : hole = none ∨ hole = left)
    (others : ∀ other, left ≠ some other ∨
        (conn.closed = false ∧ other % 2 = 1 ∧ conn.maxClientID < other) ->
      dataReceived other (received ++ [frame]) = dataReceived other received ∧
        resetReceived other (received ++ [frame]) = resetReceived other received) :
    Ledger server given history (received ++ [frame]) left conn := by
  have inside : ∀ other, left ≠ some other -> hole ≠ some other := by
    rcases wider with rfl | rfl <;> simp
  exact
    { ledger with
      arriving := fun other present outside st found going => by
        have arriving := ledger.arriving other present (inside other outside) st found going
        obtain ⟨data, reset⟩ := others other (.inl outside)
        exact
          { arriving with
            body := data ▸ arriving.body
            uncancelled := reset ▸ arriving.uncancelled }
      untouched := fun isOpen other isOdd new => by
        obtain ⟨data, reset⟩ := others other (.inr ⟨isOpen, isOdd, new⟩)
        rw [data, reset]
        exact ledger.untouched isOpen other isOdd new
      block := fun other expected ends => by
        rw [endReceived_append, ledger.block other expected ends, Bool.true_or] }

/-- One more frame, of the stream that is left out. -/
theorem Ledger.note
    (ledger : Ledger server given history received none conn)
    (frame : Frame)
    (known : conn.closed = false -> frame.streamID % 2 = 1 -> frame.streamID ≤ conn.maxClientID) :
    Ledger server given history (received ++ [frame]) (some frame.streamID) conn := by
  refine ledger.receive frame (.inl rfl) fun other about => ?_
  have different : frame.streamID ≠ other := by grind
  rw [dataReceived_append, resetReceived_append]
  simp [different]

variable {frame : Frame}

section

variable (ledger : Ledger server given history received hole conn)
include ledger

/-- One more frame that carries no body and cancels nothing. -/
theorem Ledger.note_other
    (notData : frame.typ ≠ .data)
    (notReset : frame.typ ≠ .rstStream) :
    Ledger server given history (received ++ [frame]) hole conn :=
  ledger.receive frame (.inr rfl) fun _ _ => by
    simp [dataReceived_append, resetReceived_append, notData, notReset]

/-- A connection that fails keeps its calls. -/
theorem Ledger.fail
    (later : List Frame)
    (code : ErrorCode)
    (reason : String) :
    Ledger server given history (received ++ later) none (conn.fail code reason) := by
  have quiet : Quiet conn (conn.fail code reason) := quiet_fail code reason
  have kept := ledger.quiet quiet
  have isClosed : (conn.fail code reason).closed = true := by
    unfold ServerConn.fail
    split
    · assumption
    · rfl
  have empty := kept.emptied isClosed
  exact
    { kept with
      arriving := fun other present => by simp [empty] at present
      untouched := fun isOpen => by simp [isClosed] at isOpen
      block := fun other expected ends => by
        have before := kept.block other expected ends
        unfold endReceived at *
        rw [List.any_append, before, Bool.true_or] }

omit ledger in
/-- What handling a frame leaves of the ledger. -/
def Booked
    (server : Server Encoder Decoder)
    (given : List Nat)
    (history received : List Frame)
    (handled : Handled Encoder Decoder) : Prop :=
  match handled.1 with
  | none => Ledger server given history received none handled.2
  | some (.stream id _) => Ledger server given history received (some id) handled.2
  | some (.connection _ _) =>
    ∃ before later hole, received = before ++ later ∧
      Ledger server given history before hole handled.2

theorem booked_connection
    (code : ErrorCode)
    (reason : String)
    (later : List Frame) :
    Booked server given history (received ++ later) (some (.connection code reason), conn) :=
  ⟨received, later, hole, rfl, ledger⟩

theorem booked_failure
    (code : ErrorCode)
    (reason : String) :
    Booked server given history received (some (.connection code reason), conn) :=
  ⟨received, [], hole, by simp, ledger⟩

end

theorem Booked.handleError
    (booked : Booked server given history received handled) :
    Ledger server given history received none (handled.2.handleError handled.1) := by
  obtain ⟨error, last⟩ := handled
  cases error with
  | none => exact booked
  | some error =>
    cases error with
    | stream id code =>
      have ledger : Ledger server given history received (some id) last := booked
      obtain ⟨quiet, absent⟩ :=
        quiet_resetStream ledger.nodup (ledger.stored id) code
      exact (ledger.quiet quiet).fill_of_not_mem absent
    | connection code reason =>
      obtain ⟨before, later, hole, rfl, ledger⟩ := booked
      exact ledger.fail later code reason

/-! ## Rejections -/

/-- A response that fits the windows is complete at once, and its stream leaves
the map. -/
theorem not_mem_of_respond
    (nodup : conn.streams.Nodup)
    (found : conn.table id = some st)
    (going : st.localDone = false)
    (connFits : (response.body.length : Int) ≤ conn.sendWindow)
    (streamFits : (response.body.length : Int) ≤ st.sendWindow)
    (accepted : conn.respond server id method response = .ok next) :
    id ∉ next.streams := by
  obtain ⟨known, stored, _, notReset, _⟩ := respond_eq_ok accepted
  rw [found, Option.some.injEq] at stored
  subst known
  obtain ⟨after, encoder, window, goAway, answered, leaving, begun, _,
    equal⟩ := respond_eq_settle found going accepted
  have short : (answerTo method response).body.length ≤ response.body.length := by
    simp only [answerTo]
    split <;> simp
  have done : after.localDone = true :=
    begun.localDone (by omega) (by omega)
  rw [equal]
  intro present
  have settled := quiet_closeFinishedLocked.streams.subset present
  have stored : (conn.answering id after encoder window goAway
      (answered ++ leaving)).table id = some after :=
    Function.update_self ..
  rw [settle_eq stored (begun.reset.trans notReset), if_pos done] at settled
  split at settled
  · refine not_mem_forgetLocked ?_ (by simp [stored]) settled
    exact nodup
  · refine not_mem_forgetLocked ?_ (by simp [update]) settled
    rw [sendLocked_streams]
    exact nodup

/-- The error page of `reject` fits the windows of the connection and of a
stream. -/
def HasRoom
    (conn : ServerConn Encoder Decoder)
    (window : Int)
    (status : Nat) : Prop :=
  ((errorBody status).length : Int) ≤ conn.sendWindow ∧
    ((errorBody status).length : Int) ≤ window

/-- The status with which trailers are rejected, if they are. -/
def trailersRejected
    (st : ServerStream)
    (endStream tooLarge : Bool) : Option Nat :=
  if st.remoteDone = false ∧ st.req.isSome ∧ endStream ∧ tooLarge then some 431 else none

/-- The status with which the header of a new stream is rejected. -/
def requestRejected
    (server : Server Encoder Decoder)
    (fields : List HeaderField)
    (tooLarge : Bool) : Option Nat :=
  if tooLarge then some 431
  else
    match newRequest server fields with
    | none => none
    | some request =>
      if malformedLength request.header = false ∧
          (declaredLength request.header).any ((server.maxBodyBytes : Int) < ·) then
        some 413
      else none

/-- The status with which the stream of a header block is rejected. -/
def blockRejected
    (server : Server Encoder Decoder)
    (conn : ServerConn Encoder Decoder)
    (id : Nat)
    (block : Bytes)
    (endStream : Bool) : Option Nat :=
  match (server.decode conn.dec block).1 with
  | .error _ => none
  | .ok fields =>
    let collected := collect server.maxHeaderBytes 0 fields
    match conn.find id with
    | some st => trailersRejected st endStream collected.2
    | none =>
      if id ≤ conn.maxClientID ∨ conn.closed ∨ conn.goingAway ∨
          server.maxStreams ≤ conn.streams.length - conn.pushedStreams then
        none
      else requestRejected server collected.1 collected.2

/-- The status with which the stream of a HEADERS frame is rejected. -/
def headersRejected
    (server : Server Encoder Decoder)
    (conn : ServerConn Encoder Decoder)
    (frame : Frame) : Option Nat :=
  if frame.streamID % 2 = 1 ∧ selfDependent frame = false ∧ frame.has flagEndHeaders then
    (headerFragment frame).bind fun block =>
      conn.blockRejected server frame.streamID block (frame.has flagEndStream)
  else none

/-- The status with which the stream of a CONTINUATION frame is rejected. -/
def continuationRejected
    (server : Server Encoder Decoder)
    (conn : ServerConn Encoder Decoder)
    (frame : Frame) : Option Nat :=
  let block := conn.contBlock ++ frame.payload
  if block.length ≤ server.maxHeaderBytes ∧ frame.has flagEndHeaders then
    conn.contStream.bind fun id => conn.blockRejected server id block conn.contEndStream
  else none

/-- The status with which the stream of a DATA frame is rejected. -/
def dataRejected
    (server : Server Encoder Decoder)
    (conn : ServerConn Encoder Decoder)
    (frame : Frame) : Option Nat :=
  if frame.length ≤ conn.recvWindow ∧ frame.streamID % 2 = 1 ∧
      frame.streamID ≤ conn.maxClientID then
    (conn.find frame.streamID).bind fun st =>
      if st.remoteDone = false ∧ frame.length ≤ st.recvWindow ∧
          server.maxBodyBytes < st.body.length + frame.payload.length then
        some 413
      else none
  else none

/-- The status with which the stream of a frame is rejected. -/
def rejection
    (server : Server Encoder Decoder)
    (conn : ServerConn Encoder Decoder)
    (frame : Frame) : Option Nat :=
  if conn.interrupted frame = none ∧ conn.gotSettings then
    match frame.typ with
    | .data => conn.dataRejected server frame
    | .headers => conn.headersRejected server frame
    | .continuation => conn.continuationRejected server frame
    | _ => none
  else none

/-- A stream of the map that can be rejected at once. -/
structure Rejectable
    (conn : ServerConn Encoder Decoder)
    (id : Nat)
    (st : ServerStream) : Prop where
  present : id ∈ conn.streams
  known : id ≤ conn.maxClientID
  isOpen : conn.closed = false
  notReset : st.reset = false
  going : st.localDone = false
  unresponded : st.responded = false

/-- The connection as `reject` responds on it. -/
def rejecting
    (conn : ServerConn Encoder Decoder)
    (id : Nat)
    (st : ServerStream) : ServerConn Encoder Decoder :=
  { conn.update id { st with body := [] } with
    rejected := id :: conn.rejected }

@[simp] theorem rejecting_table :
    (conn.rejecting id st).table id = some { st with body := [] } :=
  Function.update_self ..

/-- Rejecting a stream is accepting the error page. -/
theorem reject_eq
    (which : status = 413 ∨ status = 431)
    (rejectable : Rejectable conn id st) :
    ∃ method,
      (conn.rejecting id st).respond server id method
        (errorResponse status) = .ok (conn.reject server id st status) := by
  have valid : checkHeader (errorResponse status).header = true := by
    show checkHeader (errorResponse 413).header = true
    decide
  have allowed : ¬((errorResponse status).statusCode < 200 ∨
      999 < (errorResponse status).statusCode) := by
    rcases which with rfl | rfl <;> decide
  refine ⟨(st.req.map Request.method).getD (ascii "GET"), ?_⟩
  obtain ⟨last, equal⟩ : ∃ last,
      (conn.rejecting id st).respond server id
        ((st.req.map Request.method).getD (ascii "GET"))
        (errorResponse status) = .ok last := by
    unfold respond
    simp [rejecting, update, valid, rejectable.isOpen, rejectable.notReset,
      rejectable.unresponded, not_or.mp allowed]
  have rejects : conn.reject server id st status = last := by
    unfold reject
    dsimp only
    rw [show ({ conn.update id { st with body := [] } with
      rejected := id :: conn.rejected } : ServerConn Encoder Decoder) =
        conn.rejecting id st from rfl, equal]
  rw [equal, rejects]

section

variable (ledger : Ledger server given history received (some id) conn)
include ledger

/-- A stream that is rejected at once is gone. -/
theorem Ledger.reject
    (rejectable : Rejectable conn id st)
    (which : status = 413 ∨ status = 431)
    (room : HasRoom conn st.sendWindow status) :
    Ledger server given history received none (conn.reject server id st status) := by
  obtain ⟨method, accepted⟩ := @reject_eq _ _ server conn id st _ which rejectable
  have cleared := ledger.update { st with body := [] }
  have marked : Ledger server given history received (some id) (conn.rejecting id st) :=
    { cleared with
      rejectedKnown := by
        intro other present
        rcases List.mem_cons.mp present with rfl | earlier
        · exact rejectable.known
        · exact ledger.rejectedKnown other earlier
      arriving := fun other present outside stream found going => by
        have arriving :=
          cleared.arriving other present outside stream found going
        have different : other ≠ id := fun same => outside (by rw [same])
        exact
          { arriving with
            unrejected := by
              simp only [rejecting, List.mem_cons, not_or]
              exact ⟨different, arriving.unrejected⟩ } }
  have absent : id ∉ (conn.reject server id st status).streams :=
    not_mem_of_respond marked.nodup rejecting_table rejectable.going room.1 room.2 accepted
  have quiet := quiet_respond rejecting_table rejectable.going accepted (.inr absent)
  exact (marked.quiet quiet).fill_of_not_mem absent

/-! ## Handling a frame -/

/-- The handler is called on a stream whose request was arriving. -/
theorem Ledger.call
    (arriving : Arriving server given received conn id st)
    (call : Call)
    (onStream : call.stream = id)
    (complete : Complete server call)
    (after : ServerStream)
    (arrived : after.remoteDone = true) :
    Ledger server given history received none
      { conn.update id after with calls := conn.calls ++ [call] } := by
  subst onStream
  have changed := ledger.update after
  have stored : (conn.update call.stream after).table call.stream = some after :=
    Function.update_self ..
  have booked : Ledger server given history received (some call.stream)
      { conn.update call.stream after with calls := conn.calls ++ [call] } :=
    { changed with
      called := List.forall_mem_append.mpr ⟨ledger.called, List.forall_mem_singleton.mpr
        ⟨complete, arriving.notGiven, arriving.known⟩⟩
      once := by
        rw [List.map_append, List.nodup_append]
        refine ⟨ledger.once, by simp, ?_⟩
        intro first inFirst second inSecond
        obtain ⟨other, earlier, rfl⟩ := List.mem_map.mp inFirst
        simp only [List.map_cons, List.map_nil, List.mem_singleton] at inSecond
        rw [inSecond]
        exact arriving.uncalled other earlier
      arriving := fun other present outside stream found going => by
        have unaffected :=
          changed.arriving other present outside stream found going
        have different : call.stream ≠ other := fun same => outside (by rw [same])
        exact
          { unaffected with
            uncalled := List.forall_mem_append.mpr
              ⟨unaffected.uncalled, List.forall_mem_singleton.mpr different⟩ } }
  refine booked.fill fun _ stream found going => ?_
  rw [stored, Option.some.injEq] at found
  simp [← found, arrived] at going

end

/-- A request that has arrived in full is given to the handler. -/
theorem booked_finishRequest
    (ledger : Ledger server given received received (some id) conn)
    (arriving : Arriving server given received conn id st)
    (ended : endReceived id received = true) :
    Booked server given received received (conn.finishRequest id st) := by
  unfold finishRequest
  split
  · exact ledger.update st
  next asDeclared =>
  split
  · have kept := (ledger.update { st with remoteDone := true }).quiet
      (quiet_forgetLocked : Quiet _ (forgetLocked _ id))
    exact kept.fill_of_not_mem
      (not_mem_forgetLocked ledger.nodup (by simp [ServerConn.update]))
  obtain ⟨request, stored, declares⟩ := arriving.request
  rw [stored]
  refine ledger.call arriving _ rfl ?_ _ rfl
  exact
    { isClient := arriving.isClient
      ended := by
        rw [ledger.sofar]
        exact ended
      body := by
        rw [ledger.sofar]
        exact arriving.body
      bounded := arriving.bounded
      declared := fun present => by
        obtain ⟨length, said, expected⟩ := declares present
        have same : length = st.body.length := by
          simpa [expected] using asDeclared
        rw [← same]
        exact said
      notRejected := by simpa using arriving.unrejected
      notReset := arriving.unreset
      notCancelled := by
        rw [ledger.sofar]
        exact arriving.uncancelled }

theorem Arriving.update
    (arriving : Arriving server given received conn id st)
    (changed : ServerStream) :
    Arriving server given received (conn.update id changed) id st :=
  { arriving with }

/-- The stream left out is stored as it arrives. -/
theorem Ledger.store
    (ledger : Ledger server given history received (some id) conn)
    (arriving : Arriving server given received conn id st) :
    Ledger server given history received none (conn.update id st) := by
  have stored : (conn.update id st).table id = some st :=
    Function.update_self ..
  refine (ledger.update st).fill fun _ stream found _ => ?_
  rw [stored, Option.some.injEq] at found
  exact found ▸ arriving.update st

variable {endStream : Bool}

theorem booked_handleTrailers
    (ledger : Ledger server given received received none conn)
    (found : conn.find id = some st)
    (notReset : st.reset = false)
    (going : st.localDone = false)
    (fields : List HeaderField)
    (ended : endStream = true -> endReceived id received = true)
    (tooLarge : Bool)
    (room : ∀ status, trailersRejected st endStream tooLarge = some status ->
      HasRoom conn st.sendWindow status) :
    Booked server given received received
      (conn.handleTrailers server id st fields endStream tooLarge) := by
  obtain ⟨present, stored⟩ := find_eq_some.mp found
  have left := ledger.leave id
  have isOpen : conn.closed = false := by
    apply Bool.eq_false_iff.mpr
    intro closed
    simp [ledger.emptied closed] at present
  unfold handleTrailers
  split
  · exact left
  next arrivingStill =>
  have arriving := ledger.arriving id present (by simp) st stored
    (by simpa using arrivingStill)
  obtain ⟨request, asked, declares⟩ := arriving.request
  rw [asked]
  dsimp only
  split
  · exact left
  next ends =>
  split
  · next large =>
    have rejectable : Rejectable conn id st :=
      ⟨present, arriving.known, isOpen, notReset, going, arriving.unresponded⟩
    refine left.reject rejectable (.inr rfl) (room 431 (if_pos ⟨by simpa using arrivingStill,
      by simp [asked], by simpa using ends, large⟩))
  split
  · exact left
  refine booked_finishRequest left ?_ (ended ?_)
  · exact
      { arriving with
        request := ⟨_, rfl, declares⟩ }
  · simpa using ends

/-- The length a request declares, as `handleHeaderBlock` stores it. -/
theorem declares_of_not_malformed
    (wellFormed : malformedLength header = false) :
    Declares header ((declaredLength header).map Int.toNat) := by
  intro present
  unfold malformedLength at wellFormed
  have some : (declaredLength header).all (· < 0) = false := by
    simpa [present] using wellFormed
  cases said : declaredLength header with
  | none => simp [said] at some
  | some length =>
    have nonnegative : 0 ≤ length := by simpa [said] using some
    refine ⟨length.toNat, ?_, rfl⟩
    rw [Int.toNat_of_nonneg nonnegative]

theorem booked_beginRequest
    (ledger : Ledger server given received received (some id) conn)
    (rejectable : Rejectable conn id st)
    (arrives : ∀ request declared, Declares request.header declared ->
      Arriving server given received conn id
        { st with req := some request, declared := declared })
    (fields : List HeaderField)
    (ended : endStream = true -> endReceived id received = true)
    (tooLarge : Bool)
    (room : ∀ status, requestRejected server fields tooLarge = some status ->
      HasRoom conn st.sendWindow status) :
    Booked server given received received
      (conn.beginRequest server id st fields endStream tooLarge) := by
  unfold beginRequest
  split
  · next large => exact ledger.reject rejectable (.inr rfl) (room 431 (if_pos large))
  next small =>
  split
  · exact ledger
  next request made =>
  dsimp only
  split
  · exact ledger.update _
  next wellFormed =>
  have asked : Rejectable conn id
      { st with req := some request } := { rejectable with }
  have arriving := arrives request _
    (declares_of_not_malformed (by simpa using wellFormed))
  split
  · next long =>
    refine ledger.reject asked (.inl rfl) (room 413 ?_)
    rw [requestRejected, if_neg small, made]
    exact if_pos ⟨by simpa using wellFormed, long⟩
  split
  · next ends =>
    exact booked_finishRequest ledger arriving (ended ends)
  have stored := ledger.store arriving
  split
  · split
    · next answered =>
      exact stored.quiet (quiet_writeInterim answered)
    · exact stored
  · exact stored

/-- The window of a stream, or the one it would start with. -/
def windowOf
    (conn : ServerConn Encoder Decoder)
    (id : Nat) : Int :=
  match conn.find id with
  | some st => st.sendWindow
  | none => conn.peerWindow

/-- Identifiers of the client are used up. -/
theorem Ledger.advance
    (ledger : Ledger server given history received hole conn)
    (newer : conn.maxClientID ≤ id) :
    Ledger server given history received hole { conn with maxClientID := id } :=
  { ledger with
    called := fun call present =>
      (ledger.called call present).imp_right (And.imp_right newer.trans')
    givenKnown := fun other present =>
      (ledger.givenKnown other present).trans newer
    rejectedKnown := fun other present =>
      (ledger.rejectedKnown other present).trans newer
    arriving := fun other present outside st found going =>
      have arriving := ledger.arriving other present outside st found going
      { arriving with known := arriving.known.trans newer }
    untouched := fun isOpen other isOdd new =>
      ledger.untouched isOpen other isOdd (newer.trans_lt new) }

/-- A new stream, of which nothing is said yet. -/
theorem Ledger.opens
    (ledger : Ledger server given history received none conn)
    (isOpen : conn.closed = false)
    (absent : id ∉ conn.streams)
    (st : ServerStream) :
    Ledger server given history received (some id)
      { conn.update id st with
        streams := id :: conn.streams, lastStreamID := id } := by
  have changed := (ledger.leave id).update st
  have inMap : ∀ other, some id ≠ some other -> other ∈ id :: conn.streams ->
      other ∈ conn.streams := by
    intro other outside present
    rcases List.mem_cons.mp present with rfl | before
    · exact absurd rfl outside
    · exact before
  exact
    { changed with
      emptied := fun isClosed => by
        have closed : conn.closed = true := isClosed
        simp [isOpen] at closed
      nodup := List.nodup_cons.mpr ⟨absent, ledger.nodup⟩
      stored := fun other present => by
        rcases List.mem_cons.mp present with rfl | before
        · simp [ServerConn.update]
        · exact changed.stored other before
      arriving := fun other present outside stream found going =>
        { changed.arriving other (inMap other outside present) outside stream
            found going with } }

/-- A header block is awaited, or no more. -/
theorem Ledger.expect
    (ledger : Ledger server given history received hole conn)
    (decoder : Decoder)
    (stream : Option ClientID)
    (ends : Bool)
    (block : Bytes)
    (ended : ∀ id, stream = some id -> ends = true -> endReceived id received = true) :
    Ledger server given history received hole
      { conn with
        dec := decoder
        contStream := stream
        contEndStream := ends
        contBlock := block } :=
  { ledger with
    arriving := fun other present outside st found going =>
      { ledger.arriving other present outside st found going with }
    block := ended }

/-- A request on a stream above all those seen arrives with nothing of it
received. -/
theorem Ledger.arriving_new
    (ledger : Ledger server given received received none conn)
    (isOpen : conn.closed = false)
    (isOdd : id % 2 = 1)
    (new : conn.maxClientID < id)
    (unreset : resets id conn.wire = false)
    {request : Request}
    {declared : Option Nat}
    (declares : Declares request.header declared) :
    Arriving server given received { conn with maxClientID := id } id
      { conn.newStream with req := some request, declared := declared } := by
  obtain ⟨noData, noReset⟩ := ledger.untouched isOpen id isOdd new
  exact
    { isClient := isOdd
      known := le_rfl
      notGiven := fun present => by
        have := ledger.givenKnown id present
        omega
      uncalled := fun call present same => by
        have := (ledger.called call present).2.2
        omega
      unrejected := fun present => by
        have := ledger.rejectedKnown id present
        omega
      unresponded := rfl
      unserved := rfl
      body := noData.symm
      bounded := Nat.zero_le _
      request := ⟨request, rfl, declares⟩
      unreset := unreset
      uncancelled := noReset }

theorem booked_handleHeaderBlock
    (base : Base server conn.wire conn)
    (ledger : Ledger server given received received none conn)
    (isOdd : id % 2 = 1)
    (opening : conn.maxClientID < id -> resets id conn.wire = false)
    (block : Bytes)
    (ended : endStream = true -> endReceived id received = true)
    (room : ∀ status, conn.blockRejected server id block endStream = some status ->
      HasRoom conn (conn.windowOf id) status) :
    Booked server given received received (conn.handleHeaderBlock server id block endStream) := by
  have decoded : Ledger server given received received none
      { conn with dec := (server.decode conn.dec block).2 } :=
    ledger.expect _ _ _ _ ledger.block
  unfold blockRejected at room
  unfold handleHeaderBlock
  dsimp only at room ⊢
  split
  · exact booked_failure decoded _ _
  next fields decodes =>
  rw [decodes] at room
  split
  · next st found =>
    have asBefore : conn.find id = some st := found
    obtain ⟨present, stored⟩ := find_eq_some.mp asBefore
    obtain ⟨known, same, notReset, going⟩ := base.isOpen id present
    rw [stored, Option.some.injEq] at same
    subst known
    simp only [windowOf, asBefore] at room
    exact booked_handleTrailers decoded found notReset going _ ended _ room
  next absent =>
  have asBefore : conn.find id = none := absent
  have outside : id ∉ conn.streams := by
    intro present
    have stored := ledger.stored id present
    simp [find, present, stored] at asBefore
  simp only [windowOf, asBefore] at room
  split
  · exact decoded
  next newer =>
  have new : conn.maxClientID < id := Nat.lt_of_not_le newer
  have counted : Ledger server given received received none
      { conn with
        dec := (server.decode conn.dec block).2
        maxClientID := id } := decoded.advance new.le
  split
  · exact counted
  next taking =>
  simp only [Bool.or_eq_true, not_or] at taking
  have isOpen : conn.closed = false := by simpa using taking.1
  split
  · exact counted.leave id
  next few =>
  have accepted : ¬(id ≤ conn.maxClientID ∨ conn.closed ∨ conn.goingAway ∨
      server.maxStreams ≤ conn.streams.length - conn.pushedStreams) :=
    not_or.mpr ⟨newer, not_or.mpr ⟨taking.1, not_or.mpr ⟨taking.2, few⟩⟩⟩
  rw [if_neg accepted] at room
  refine booked_beginRequest (counted.opens isOpen outside _) ?_
    (fun request declared declares => ?_) _ ended _ room
  · exact ⟨List.mem_cons_self, le_rfl, isOpen, rfl, rfl, rfl⟩
  · exact { ledger.arriving_new isOpen isOdd new (opening new) declares with }

theorem endReceived_of_headers
    (isHeaders : frame.typ = .headers)
    (ends : frame.has flagEndStream = true) :
    endReceived frame.streamID (received ++ [frame]) = true := by
  rw [endReceived_append]
  simp [isHeaders, ends]

section

variable (base : Base server conn.wire conn)
include base

theorem booked_handleHeaders
    (ledger : Ledger server given (received ++ [frame]) (received ++ [frame]) none conn)
    (isHeaders : frame.typ = .headers)
    (opening : conn.maxClientID < frame.streamID ->
      selfDependent frame = false -> resets frame.streamID conn.wire = false)
    (room : ∀ status, conn.headersRejected server frame = some status ->
      HasRoom conn (conn.windowOf frame.streamID) status) :
    Booked server given (received ++ [frame]) (received ++ [frame])
      (conn.handleHeaders server frame) := by
  unfold handleHeaders
  dsimp only
  split
  · exact booked_failure ledger _ _
  have isOdd : frame.streamID % 2 = 1 := by omega
  split
  · exact booked_failure ledger _ _
  next block fragment =>
  split
  · exact ledger.leave _
  next independent =>
  split
  · split
    · exact booked_failure ledger _ _
    · refine ledger.expect _ _ _ _ fun id expected ends => ?_
      rw [Option.some.injEq] at expected
      rw [← expected]
      exact endReceived_of_headers isHeaders ends
  next whole =>
  refine booked_handleHeaderBlock base ledger isOdd
    (fun new => opening new (by simpa using independent)) _
    (endReceived_of_headers isHeaders) fun status rejected => room status ?_
  rw [headersRejected, if_pos ⟨isOdd, by simpa using independent, by simpa using whole⟩, fragment]
  exact rejected

theorem booked_handleContinuation
    (ledger : Ledger server given received received none conn)
    (expects : ∀ id, conn.contStream = some id -> id = frame.streamID)
    (opening : ∀ id, conn.contStream = some id -> conn.maxClientID < id ->
      resets id conn.wire = false)
    (room : ∀ status, conn.continuationRejected server frame = some status ->
      HasRoom conn (conn.windowOf frame.streamID) status) :
    Booked server given received received (conn.handleContinuation server frame) := by
  unfold handleContinuation
  split
  · exact booked_failure ledger _ _
  next id expected =>
  dsimp only
  have extended : ∀ block, Ledger server given received received none
      { conn with contBlock := block } := fun _ =>
    ledger.expect _ _ _ _ ledger.block
  split
  · exact booked_failure (extended _) _ _
  next short =>
  split
  · exact extended _
  next whole =>
  have finished : Ledger server given received received none
      { conn with
        contBlock := conn.contBlock ++ frame.payload
        contStream := none } :=
    ledger.expect _ none _ _ (by simp)
  refine booked_handleHeaderBlock ?_ finished id.property
    (opening id expected) _ (ledger.block id expected)
    fun status rejected => ?_
  · exact base.agree { Agrees.refl conn with }
  · rw [← expects id expected] at room
    refine room status ?_
    rw [continuationRejected, if_pos ⟨by simpa using short, by simpa using whole⟩, expected]
    exact rejected

/-- A stream of the map that the client opened was used. -/
theorem Base.known_of_odd
    (stored : conn.table id = some st)
    (isOdd : id % 2 = 1) :
    id ≤ conn.maxClientID := by
  obtain ⟨_, used⟩ := (base.stored stored).known
  simpa [idleLocked, isOdd] using used

theorem booked_takeData
    (ledger : Ledger server given (received ++ [frame]) received none conn)
    (isData : frame.typ = .data)
    (found : conn.find frame.streamID = some st)
    (room : st.remoteDone = false -> frame.length ≤ st.recvWindow ->
      server.maxBodyBytes < st.body.length + frame.payload.length ->
      HasRoom conn st.sendWindow 413) :
    Booked server given (received ++ [frame]) (received ++ [frame])
      (conn.takeData server frame st) := by
  obtain ⟨present, stored⟩ := find_eq_some.mp found
  obtain ⟨known, same, notReset, going⟩ := base.isOpen _ present
  rw [stored, Option.some.injEq] at same
  subst known
  have noted := ledger.note frame fun _ isOdd =>
    base.known_of_odd stored isOdd
  unfold takeData
  dsimp only
  split
  · exact noted
  next arrivingStill =>
  have before := ledger.arriving _ present (by simp) st stored
    (by simpa using arrivingStill)
  split
  · exact noted
  next allowed =>
  split
  · next long =>
    have rejectable : Rejectable conn frame.streamID
        { st with
          recvWindow := st.recvWindow - frame.length
          recvUnacked := st.recvUnacked + frame.length } :=
      ⟨present, before.known, base.isOpen_of_mem present, notReset, going, before.unresponded⟩
    exact noted.reject rejectable (.inl rfl)
      (room (by simpa using arrivingStill) (by simpa using allowed) long)
  next bounded =>
  have arriving : ∀ recvWindow recvUnacked : Int,
      Arriving server given (received ++ [frame]) conn frame.streamID
        { st with
          recvWindow := recvWindow
          recvUnacked := recvUnacked
          body := st.body ++ frame.payload } := fun _ _ =>
    { before with
      body := by
        rw [dataReceived_append]
        simp [before.body, isData]
      bounded := by simpa using bounded
      request := before.request
      uncancelled := by
        rw [resetReceived_append, before.uncancelled]
        simp [isData] }
  split
  · next ends =>
    refine booked_finishRequest noted (arriving _ _) ?_
    rw [endReceived_append]
    simp [isData, ends]
  split
  · refine (noted.store (arriving _ _)).quiet (quiet_sendLocked fun other _ => ?_)
    exact resets_windowUpdate ..
  · exact noted.store (arriving _ _)

end

/-- The connection's receive window was used, and may be granted again. -/
structure Grants
    (server : Server Encoder Decoder)
    (conn next : ServerConn Encoder Decoder) : Prop where
  quiet : Quiet conn next
  base : Base server next.wire next
  table : next.table = conn.table
  streams : next.streams = conn.streams
  sendWindow : next.sendWindow = conn.sendWindow

section

variable (base : Base server conn.wire conn)
include base

theorem grants_counted (window unacked : Int) :
    Grants server conn
      { conn with recvWindow := window, recvUnacked := unacked } where
  quiet := { Quiet.refl _ with }
  base := base.agree { Agrees.refl conn with }
  table := rfl
  streams := rfl
  sendWindow := rfl

theorem grants_sendLocked
    (window unacked : Int)
    (increment : Nat) :
    Grants server conn ({ conn with recvWindow := window, recvUnacked := unacked }.sendLocked
        [.windowUpdate 0 increment]) := by
  have counted := grants_counted base window unacked
  exact
    { quiet := counted.quiet.trans
        (quiet_sendLocked fun _ _ => resets_windowUpdate ..)
      base := counted.base.send fun _ =>
        blank_of_isControl (by simp [isControl])
      table := sendLocked_table
      streams := sendLocked_streams
      sendWindow := by
        unfold sendLocked
        split <;> rfl }

theorem booked_handleData
    (ledger : Ledger server given (received ++ [frame]) received none conn)
    (isData : frame.typ = .data)
    (room : ∀ status, conn.dataRejected server frame = some status ->
      HasRoom conn (conn.windowOf frame.streamID) status) :
    Booked server given (received ++ [frame]) (received ++ [frame])
      (conn.handleData server frame) := by
  unfold handleData
  dsimp only
  split
  · exact booked_connection ledger _ _ [frame]
  split
  · exact booked_connection ledger _ _ [frame]
  next allowed =>
  have counted := ledger.quiet (grants_counted base (conn.recvWindow - frame.length)
    (conn.recvUnacked + frame.length)).quiet
  split
  · exact booked_connection counted _ _ [frame]
  next isOdd =>
  split
  · exact booked_connection counted _ _ [frame]
  next used =>
  generalize granted :
    (if connWindow / 2 ≤ conn.recvUnacked + (frame.length : Int)
      then _ else _ : ServerConn Encoder Decoder) = later
  have grants : Grants server conn later := by
    rw [← granted]
    split
    · exact grants_sendLocked base _ _ _
    · exact grants_counted base _ _
  have goesOn := ledger.quiet grants.quiet
  split
  · next absent =>
    have outside : frame.streamID ∉ later.streams := by
      intro present
      have stored := goesOn.stored _ present
      simp [find, present, stored] at absent
    have noted := goesOn.note frame fun _ _ => by
      rw [grants.quiet.maxClientID]
      exact Nat.le_of_not_lt used
    exact noted.fill_of_not_mem outside
  next st found =>
  have asBefore : conn.find frame.streamID = some st := by
    rw [← found]
    unfold find
    rw [grants.table, grants.streams]
  refine booked_takeData grants.base goesOn isData found fun going takes long => ?_
  have fits := room 413 (by
    rw [dataRejected, if_pos ⟨by simpa using allowed, by omega, Nat.le_of_not_lt used⟩, asBefore]
    exact if_pos ⟨going, takes, long⟩)
  rw [windowOf, asBefore] at fits
  exact ⟨grants.sendWindow ▸ fits.1, fits.2⟩

end

theorem booked_handleRSTStream
    (ledger : Ledger server given history received none conn) :
    Booked server given history (received ++ [frame]) (conn.handleRSTStream frame) := by
  unfold handleRSTStream
  dsimp only
  split
  · exact booked_connection ledger _ _ [frame]
  split
  · exact booked_connection ledger _ _ [frame]
  split
  · exact booked_connection ledger _ _ [frame]
  next used =>
  have noted := ledger.note frame fun _ isOdd => by
    simpa [idleLocked, isOdd] using used
  split
  · next present =>
    have gone := not_mem_forgetLocked ledger.nodup (ledger.stored frame.streamID)
    exact ((noted.quiet quiet_forgetLocked).fill_of_not_mem gone).quiet quiet_closeFinishedLocked
  · next absent =>
    exact (noted.fill_of_not_mem absent).quiet quiet_closeFinishedLocked

theorem Retuned.quiet (retuned : Retuned conn next) : Quiet conn next := by
  have agrees := retuned.agrees
  obtain ⟨_, _, _, _, _, _, table, rfl, windows⟩ := retuned
  refine
    { Quiet.refl conn with
      stored := fun id _ known => (agrees.table_eq_none_iff id).not.mpr known
      intakes := fun id _ st found => ?_ }
  obtain ⟨_, same⟩ := windows id
  obtain ⟨before, stored, rfl⟩ := Option.map_eq_some_iff.mp (same.symm.trans found)
  exact ⟨before, stored, .inl rfl⟩

theorem booked_handleSettings
    (base : Base server conn.wire conn)
    (ledger : Ledger server given history received none conn)
    (frame : Frame)
    (order : List Nat) :
    Booked server given history received (conn.handleSettings server frame order) := by
  obtain ⟨retuned, noStream⟩ :=
    @retuned_applySettingsLocked _ _ server conn frame.payload
  have agrees := retuned.agrees
  unfold handleSettings
  dsimp only
  split
  · exact booked_failure ledger _ _
  split
  · split
    · exact booked_failure ledger _ _
    · exact ledger
  split
  · next error failed =>
    cases error with
    | stream id code => exact absurd failed (noStream id code)
    | connection code reason =>
      exact booked_failure (ledger.quiet retuned.quiet) _ _
  · have moved := base.agree agrees
    rw [← agrees.wire] at moved
    exact (ledger.quiet retuned.quiet).quiet
      (quiet_flushAndClose moved order (by simp [isControl]))

theorem booked_handleWindowUpdate
    (base : Base server conn.wire conn)
    (ledger : Ledger server given history received none conn)
    (frame : Frame)
    (order : List Nat) :
    Booked server given history received (conn.handleWindowUpdate server frame order) := by
  obtain ⟨retuned, _⟩ := @retuned_credit _ _ conn frame
  have credits := retuned.quiet
  have agrees := retuned.agrees
  have moved := base.agree agrees
  rw [← agrees.wire] at moved
  have booked : ∀ (error : Option FrameError) (next : ServerConn Encoder Decoder),
      Ledger server given history received none next ->
        Booked server given history received (error, next) := by
    intro error next kept
    cases error with
    | none => exact kept
    | some error =>
      cases error with
      | stream id code => exact kept.leave id
      | connection code reason => exact booked_failure kept _ _
  unfold handleWindowUpdate
  dsimp only
  split
  · exact booked _ _ ((ledger.quiet credits).quiet
      (quiet_flushAndClose moved order (by simp)))
  · exact booked _ _ (ledger.quiet credits)

section

variable (ledger : Ledger server given history received none conn)
include ledger

theorem booked_handlePing (frame : Frame) :
    Booked server given history received (conn.handlePing frame) := by
  unfold handlePing
  split
  · exact booked_failure ledger _ _
  split
  · exact booked_failure ledger _ _
  · split
    · exact ledger
    · exact ledger.quiet (quiet_sendLocked fun _ _ =>
        resets_of_isControl (by simp [isControl]) _)

theorem booked_handleGoAway (frame : Frame) :
    Booked server given history received (conn.handleGoAway frame) := by
  have leaves : Quiet conn { conn with peerGoingAway := true } :=
    { Quiet.refl _ with }
  unfold handleGoAway
  split
  · exact booked_failure ledger _ _
  · split
    · exact booked_failure ledger _ _
    · exact (ledger.quiet leaves).quiet quiet_closeFinishedLocked

theorem booked_handlePriority (frame : Frame) :
    Booked server given history received (conn.handlePriority frame) := by
  unfold handlePriority
  split
  · exact booked_failure ledger _ _
  · split
    · exact ledger.leave _
    · exact ledger

end

/-! ## Steps -/

/-- The stream that the header block of a frame opens, if it does. -/
def opening
    (conn : ServerConn Encoder Decoder)
    (frame : Frame) :
    Option Nat :=
  match frame.typ with
  | .headers =>
    if conn.maxClientID < frame.streamID ∧ selfDependent frame = false then
      some frame.streamID
    else none
  | .continuation =>
    (conn.contStream.map Subtype.val).filter (conn.maxClientID < ·)
  | _ => none

/-- A frame arrives that is still to be counted. -/
theorem Ledger.arrive
    (ledger : Ledger server given conn.received received none conn)
    (frame : Frame)
    (gotSettings : Bool) :
    Ledger server given (conn.received ++ [frame]) received none
      { conn with
        received := conn.received ++ [frame], gotSettings := gotSettings } :=
  { ledger with
    sofar := rfl
    arriving := fun other present outside st found going =>
      { ledger.arriving other present outside st found going with } }

/-- A frame is handled. -/
theorem Ledger.feed
    (base : Base server conn.wire conn)
    (ledger : Ledger server given conn.received conn.received none conn)
    (frame : Frame)
    (order : List Nat)
    (opens : ∀ id, conn.opening frame = some id -> resets id conn.wire = false)
    (room : ∀ status, conn.rejection server frame = some status ->
      HasRoom conn (conn.windowOf frame.streamID) status) :
    Ledger server given (conn.received ++ [frame])
      (conn.received ++ [frame]) none (conn.feed server frame order) := by
  apply Booked.handleError
  unfold handleFrame
  split
  · exact booked_connection (ledger.arrive frame conn.gotSettings) _ _ [frame]
  next expected =>
  unfold dispatch
  split
  · exact booked_connection (ledger.arrive frame conn.gotSettings) _ _ [frame]
  next settled =>
  have known (other : frame.typ ≠ .settings) : conn.gotSettings = true := by
    simpa [other] using settled
  have arrived := ledger.arrive frame true
  have arrivedBase : Base server conn.wire
      { conn with
        received := conn.received ++ [frame], gotSettings := true } :=
    base.agree { Agrees.refl conn with }
  have noted : frame.typ ≠ .data ∧ frame.typ ≠ .rstStream ->
      Ledger server given (conn.received ++ [frame]) (conn.received ++ [frame]) none
        { conn with
          received := conn.received ++ [frame]
          gotSettings := true } :=
    fun other => arrived.note_other other.1 other.2
  cases kind : frame.typ with
  | data =>
    rw [rejection, if_pos ⟨expected, known (by simp [kind])⟩, kind] at room
    exact booked_handleData arrivedBase arrived kind room
  | headers =>
    rw [rejection, if_pos ⟨expected, known (by simp [kind])⟩, kind] at room
    refine booked_handleHeaders arrivedBase
      (noted (by simp [kind])) kind
      (fun new independent => opens _ ?_) room
    rw [opening, kind]
    exact if_pos ⟨new, independent⟩
  | continuation =>
    rw [rejection, if_pos ⟨expected, known (by simp [kind])⟩, kind] at room
    refine booked_handleContinuation arrivedBase
      (noted (by simp [kind]))
      (fun id awaited => ?_) (fun id awaited new => opens id ?_) room
    · have same : conn.contStream = some id := awaited
      have unbroken : frame.streamID = id := by
        simpa [interrupted, same, kind] using expected
      exact unbroken.symm
    · have same : conn.contStream = some id := awaited
      have limit : conn.maxClientID < id := new
      simp [opening, kind, same, limit]
  | priority =>
    exact booked_handlePriority (noted (by simp [kind])) frame
  | rstStream => exact booked_handleRSTStream arrived
  | settings =>
    exact booked_handleSettings arrivedBase (noted (by simp [kind])) frame order
  | pushPromise =>
    exact booked_failure (noted (by simp [kind])) _ _
  | ping =>
    exact booked_handlePing (noted (by simp [kind])) frame
  | goAway =>
    exact booked_handleGoAway (noted (by simp [kind])) frame
  | windowUpdate =>
    exact booked_handleWindowUpdate arrivedBase (noted (by simp [kind])) frame order
  | unknown => exact noted (by simp [kind])

theorem resets_appendPushPromise
    (promised other : Nat)
    (block : Bytes)
    (size : FrameSize) :
    resets other (appendPushPromise id promised block size) = false := by
  refine List.any_eq_false.mpr fun frame present => ?_
  rcases List.mem_cons.mp (List.mem_of_mem_filter present) with rfl | later
  · simp [Sent.isReset]
  · obtain ⟨fragment, endHeaders, rfl⟩ := mem_continuations later
    simp [Sent.isReset]

/-- A promised stream carries no request of the client. -/
theorem Ledger.promise
    (ledger : Ledger server given history received none conn)
    (isOpen : conn.closed = false)
    (absent : conn.nextPushID ∉ conn.streams)
    (request : Request)
    (header : Header) :
    Ledger server given history received none (conn.promise server id request header) := by
  have opened := ledger.opens isOpen absent (conn.promisedStream request)
  have stored : (conn.update conn.nextPushID (conn.promisedStream request)).table conn.nextPushID =
        some (conn.promisedStream request) := Function.update_self ..
  have filled := opened.fill fun _ st found going => by
    rw [show _ = some st from found, Option.some.injEq] at stored
    simp [stored, promisedStream] at going
  refine (filled.quiet ?_).quiet (quiet_sendLocked fun other _ => resets_appendPushPromise ..)
  exact { Quiet.refl _ with }

/-- A response given to the handler's stream. -/
theorem Ledger.respond
    (base : Base server conn.wire conn)
    (ledger : Ledger server given history received none conn)
    (isServed : conn.isServed id = true)
    (accepted : conn.respond server id method response = .ok next) :
    Ledger server given history received none next := by
  obtain ⟨st, found, isOpen, notReset, notResponded, _⟩ :=
    respond_eq_ok accepted
  obtain ⟨going, present, _⟩ :=
    base.unanswered found isOpen notReset notResponded
  have arrived : st.remoteDone = true := by
    by_contra still
    have arriving := ledger.arriving id present (by simp) st found (by simpa using still)
    simp [ServerConn.isServed, found, arriving.unserved] at isServed
  exact ledger.quiet (quiet_respond found going accepted (.inl arrived))

theorem Ledger.push
    (base : Base server conn.wire conn)
    (ledger : Ledger server given history received none conn)
    (pushed : conn.push server id method target header = .ok next) :
    Ledger server given history received none next := by
  unfold ServerConn.push at pushed
  dsimp only at pushed
  repeat' split at pushed
  all_goals cases pushed
  next isOpen _ _ =>
    simp only [Bool.or_eq_true, not_or, Bool.not_eq_true] at isOpen
    refine ledger.promise isOpen.1.1 (fun present => ?_) _ _
    obtain ⟨st, found, _⟩ := base.isOpen _ present
    have idle : conn.idleLocked conn.nextPushID = true := by
      simp [idleLocked, base.even.2]
    simp [base.absent_of_idle idle] at found

end Ledgers

/-- No stream is opened that was reset before, and a stream that is rejected
has windows that allow the error page. -/
def Prompt
    (server : Server Encoder Decoder)
    (conn : ServerConn Encoder Decoder) : Event -> Prop
  | .frame frame _ =>
    (∀ id, conn.opening frame = some id -> resets id conn.wire = false) ∧
      ∀ status, conn.rejection server frame = some status ->
        HasRoom conn (conn.windowOf frame.streamID) status
  | _ => True

/-- The calls of the handler were on complete requests, one for a stream. -/
structure ServesComplete
    (server : Server Encoder Decoder)
    (given : List Nat)
    (conn : ServerConn Encoder Decoder) : Prop where
  complete : ∀ call ∈ conn.calls, Complete server call
  once : (conn.calls.map Call.stream).Nodup
  notGiven : ∀ call ∈ conn.calls, call.stream ∉ given

theorem Ledger.step
    (base : Base server conn.wire conn)
    (ledger : Ledger server given conn.received conn.received none conn)
    (prompt : Prompt server conn event)
    (taken : conn.step server event = some next) :
    Ledger server given next.received next.received none next := by
  have upToDate {history : List Frame} (kept : Ledger server given history history none next) :
      Ledger server given next.received next.received none next := by
    rw [kept.sofar]
    exact kept
  cases step_cases taken with
  | frame frame order => exact upToDate (ledger.feed base frame order prompt.1 prompt.2)
  | malformed code reason => exact upToDate (ledger.quiet (quiet_fail code reason))
  | refused => exact ledger
  | respond served answered => exact upToDate (ledger.respond base served answered)
  | interim answered => exact upToDate (ledger.quiet (quiet_writeInterim answered))
  | push pushed => exact upToDate (ledger.push base pushed)
  | shutdown => exact ledger.quiet quiet_shutdown

theorem ledger_of_isStart (starts : IsStart server conn) :
    Ledger server conn.streams conn.received conn.received none conn := by
  rcases isStart_cases starts with rfl | ⟨request, applied, retuned, rfl⟩
  · constructor <;> simp [start, dataReceived, resetReceived]
  obtain ⟨_, _, _, _, _, _, table, rfl, _⟩ := retuned
  constructor <;> simp [start, update, upgradedStream, dataReceived, resetReceived]

/-- In every run that opens no stream reset before and rejects streams only
where the error page can be sent at once, the handler is called once for a
stream and on complete requests. -/
theorem handler_runs_on_complete_requests
    (server : Server Encoder Decoder)
    {start final : ServerConn Encoder Decoder}
    {events : List Event}
    (starts : IsStart server start)
    (prompt : Transition.Meets (step server) (Prompt server) start events)
    (reached : Transition.run (step server) start events = some final) :
    ServesComplete server start.streams final := by
  have ledger : Ledger server start.streams final.received final.received none final :=
    @run_of_step _ _ server _ start final
      (fun conn => Ledger server start.streams conn.received conn.received none conn) _
      (fun _ _ _ base ledger allowed taken => ledger.step base allowed taken)
      starts (ledger_of_isStart starts) prompt reached
  exact ⟨fun call made => (ledger.called call made).1, ledger.once,
    fun call made => (ledger.called call made).2.1⟩

instance (server : Server Encoder Decoder)
    (conn : ServerConn Encoder Decoder) (event : Event) :
    Decidable (Prompt server conn event) :=
  match event with
  | .frame frame _ =>
    decidable_of_iff
      ((conn.opening frame).all (fun id => !resets id conn.wire) = true ∧
        (conn.rejection server frame).all (fun status =>
          decide (((errorBody status).length : Int) ≤ conn.sendWindow ∧
            ((errorBody status).length : Int) ≤ conn.windowOf frame.streamID)) = true) (by
      simp only [Option.all_eq_true, Bool.not_eq_true', decide_eq_true_eq]
      rfl)
  | .malformed _ _ => .isTrue trivial
  | .respond _ _ _ => .isTrue trivial
  | .interim _ _ _ => .isTrue trivial
  | .push _ _ _ _ => .isTrue trivial
  | .shutdown => .isTrue trivial

/-- A DATA frame. -/
def dataFrame
    (stream : Nat)
    (endStream : Bool)
    (body : String) : Frame :=
  frameOf .data (if endStream then 0x1 else 0x0) stream (ascii body)

/-- A request with a body in two frames, and one that is rejected at once
between them. -/
def interleaved : List Event :=
  [.frame (windowSetting 100) [],
    .frame (requestFrame 1 false "POST" [("content-length", "5")]) [],
    .frame (dataFrame 1 false "he") [1],
    .frame (requestFrame 3 false "POST" [("content-length", "200")]) [1],
    .frame (dataFrame 3 true "xy") [1],
    .frame (dataFrame 1 true "llo") [1]]

theorem handler_runs_on_complete_requests_interleaved :
    (reach interleaved).calls.map (fun call => (call.stream, call.body)) =
        [(1, ascii "hello")] ∧
      ServesComplete smallServer [] (reach interleaved) :=
  ⟨by decide, @handler_runs_on_complete_requests _ _ smallServer _ _ interleaved
      (.inl rfl) (by decide) rfl⟩

/-- A request whose body is announced to be too long, sent without a window;
the error page waits, and the body arrives. -/
def waitingPage : List Event :=
  [.frame (windowSetting 0) [],
    .frame (requestFrame 1 false "POST" [("content-length", "200")]) [],
    .frame (dataFrame 1 true "xy") [1]]

/-- The handler is called on a stream that was answered by `reject`, and on one
that was reset while it was idle. -/
theorem handler_runs_on_rejected_request :
    (Transition.run (step smallServer) (start smallServer) waitingPage).isSome = true ∧
      (Transition.run (step smallServer) (start smallServer) openedAgain).isSome = true ∧
      ¬ServesComplete smallServer [] (reach waitingPage) ∧
      ¬ServesComplete smallServer [] (reach openedAgain) := by
  refine ⟨by decide, by decide, fun serves => ?_, fun serves => ?_⟩
  · have called : (reach waitingPage).calls.any (·.rejected) = true := by
      decide
    obtain ⟨call, made, rejected⟩ := List.any_eq_true.mp called
    simp [(serves.complete call made).notRejected] at rejected
  have called : (reach openedAgain).calls.any (fun call =>
      resets call.stream call.sent) = true := by
    decide
  obtain ⟨call, made, wasReset⟩ := List.any_eq_true.mp called
  simp [(serves.complete call made).notReset] at wasReset

end ServerConn
end Http2
end Fib
