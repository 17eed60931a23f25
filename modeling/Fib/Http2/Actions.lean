import Fib.Http2.Server
import Mathlib.Logic.Relation

/-!
# What a step does to the responses

The response side of a connection is what it has sent, the map of streams, and
of each stream the fields that tell how far its response has come.  Every step
of the server is a sequence of a few actions on the response side: bookkeeping
that leaves it alone, control frames, opening, answering, resetting and
dropping a stream, flushing, and closing.  A fact about responses is proved
once for each action.
-/

namespace Fib
namespace Http2

open Frames
open Http (Header Response)

/-- The fields of a stream that its response is about. -/
structure Side where
  responded : Bool
  trailer : Option Header
  localDone : Bool
  reset : Bool
  pending : Bytes
  answer : Option Answer

def ServerStream.side (st : ServerStream) : Side where
  responded := st.responded
  trailer := st.trailer
  localDone := st.localDone
  reset := st.reset
  pending := st.pending
  answer := st.answer

/-- The response side of a stream that was just opened. -/
def Side.fresh : Side :=
  ServerStream.side {}

/-- A stream changes in fields that are not of its response side; what has
arrived of its request stays. -/
structure ServerStream.Steady (before after : ServerStream) : Prop where
  side : after.side = before.side
  pushed : after.pushed = before.pushed
  remoteDone : before.remoteDone = true -> after.remoteDone = true

namespace ServerConn

variable {Encoder Decoder : Type}
variable {server : Server Encoder Decoder}
variable {conn next : ServerConn Encoder Decoder}

/-- A stream of the table has the mark. -/
def marked
    (mark : ServerStream -> Bool)
    (conn : ServerConn Encoder Decoder)
    (id : Nat) : Bool :=
  (conn.table id).any mark

theorem marked_of_found
    {id : Nat}
    {mark : ServerStream -> Bool}
    (found : conn.table id = some st) :
    conn.marked mark id = mark st := by
  rw [marked, found, Option.any_some]

theorem marked_update
    (mark : ServerStream -> Bool)
    (id other : Nat)
    (st : ServerStream) :
    (conn.update id st).marked mark other =
      if other = id then mark st else conn.marked mark other := by
  simp only [marked, update, Function.update_apply]
  split <;> rfl

/-- The connections have the same response side; identifiers may have been
used up in between. -/
structure Agrees (conn next : ServerConn Encoder Decoder) : Prop where
  wire : next.wire = conn.wire
  closed : next.closed = conn.closed
  drained : next.drained = conn.drained
  streams : next.streams = conn.streams
  nextPushID : next.nextPushID = conn.nextPushID
  maxClientID : conn.maxClientID ≤ next.maxClientID
  sides : ∀ id, (next.table id).map ServerStream.side =
    (conn.table id).map ServerStream.side
  lastStreamID : next.lastStreamID = conn.lastStreamID
  pushedStreams : next.pushedStreams = conn.pushedStreams
  pushed : ∀ id, next.marked (·.pushed) id = conn.marked (·.pushed) id
  arrived : ∀ id, conn.marked (·.remoteDone) id = true ->
    next.marked (·.remoteDone) id = true

namespace Agrees

theorem refl (conn : ServerConn Encoder Decoder) : Agrees conn conn :=
  ⟨rfl, rfl, rfl, rfl, rfl, le_rfl, fun _ => rfl, rfl, rfl, fun _ => rfl, fun _ => id⟩

theorem of_update
    {id : Nat}
    {st : ServerStream}
    (found : conn.table id = some st)
    (changed : ServerStream)
    (steady : st.Steady changed) :
    Agrees conn (conn.update id changed) := by
  refine { refl conn with sides := fun other => ?_, pushed := fun other => ?_, arrived := ?_ }
  · by_cases equal : other = id
    · simp [equal, update, found, steady.side]
    · simp [update, Function.update_of_ne equal]
  · rw [marked_update]
    split
    · next equal => rw [equal, marked_of_found found, steady.pushed]
    · rfl
  · intro other before
    rw [marked_update]
    split
    · next equal =>
      rw [equal, marked_of_found found] at before
      exact steady.remoteDone before
    · exact before

theorem trans
    (first : Agrees conn next)
    (second : Agrees next last) :
    Agrees conn last where
  wire := second.wire.trans first.wire
  closed := second.closed.trans first.closed
  drained := second.drained.trans first.drained
  streams := second.streams.trans first.streams
  nextPushID := second.nextPushID.trans first.nextPushID
  maxClientID := first.maxClientID.trans second.maxClientID
  sides id := (second.sides id).trans (first.sides id)
  lastStreamID := second.lastStreamID.trans first.lastStreamID
  pushedStreams := second.pushedStreams.trans first.pushedStreams
  pushed id := (second.pushed id).trans (first.pushed id)
  arrived id before := second.arrived id (first.arrived id before)

/-- A stream of the changed connection, as it was before. -/
theorem lift
    (agrees : Agrees conn next)
    {id : Nat}
    {st : ServerStream}
    (found : next.table id = some st) :
    ∃ before, conn.table id = some before ∧ before.side = st.side := by
  have same := agrees.sides id
  rw [found] at same
  obtain ⟨before, present, equal⟩ := Option.map_eq_some_iff.mp same.symm
  exact ⟨before, present, equal⟩

theorem table_eq_none_iff
    (agrees : Agrees conn next)
    (id : Nat) :
    next.table id = none ↔ conn.table id = none := by
  have same := agrees.sides id
  rw [← Option.map_eq_none_iff, same, Option.map_eq_none_iff]

end Agrees

/-- What a connection reads header blocks with. -/
structure ReadSide (Decoder : Type) where
  dec : Decoder
  contStream : Option ClientID
  contBlock : Bytes
  received : List Frame

def readSide (conn : ServerConn Encoder Decoder) : ReadSide Decoder where
  dec := conn.dec
  contStream := conn.contStream
  contBlock := conn.contBlock
  received := conn.received

/-- What actions may do: which streams that are not open may be reset or opened
after the frames sent so far, when a flush may happen, and whether the reading
side may change. -/
structure Terms (Encoder Decoder : Type) where
  fine : List Sent -> Nat -> Prop
  calm : ServerConn Encoder Decoder -> Prop
  reading : Prop

/-- A frame on the connection itself that is no header block. -/
def isControl : Sent -> Bool
  | .settings _ => true
  | .ping _ => true
  | .goAway _ _ _ => true
  | .windowUpdate stream _ => stream == 0
  | _ => false

/-- One action on the response side. -/
inductive Action
    (server : Server Encoder Decoder)
    (terms : Terms Encoder Decoder) :
    ServerConn Encoder Decoder -> ServerConn Encoder Decoder -> Prop
  | agree {conn next : ServerConn Encoder Decoder} :
      Agrees conn next -> next.readSide = conn.readSide ∨ terms.reading ->
        Action server terms conn next
  | control {conn : ServerConn Encoder Decoder} {frame : Sent} :
      isControl frame = true ->
        Action server terms conn (conn.sendLocked [frame])
  | grant {conn : ServerConn Encoder Decoder} {id increment : Nat} :
      id ∈ conn.streams ->
        Action server terms conn
          (conn.sendLocked [.windowUpdate id increment])
  | opens {conn next : ServerConn Encoder Decoder} {id : Nat}
      {st : ServerStream} :
      id % 2 = 1 -> conn.maxClientID < id -> terms.fine conn.wire id ->
        conn.closed = false -> st.side = .fresh -> st.pushed = false ->
          conn.streams.length - conn.pushedStreams < server.maxStreams -> next =
            { conn.update id st with
              streams := id :: conn.streams
              maxClientID := id
              lastStreamID := id } ->
            Action server terms conn next
  | respond {conn next : ServerConn Encoder Decoder} {id : Nat}
      {method : Bytes} {response : Response} :
      conn.respond server id method response = .ok next ->
        Action server terms conn next
  | interim {conn next : ServerConn Encoder Decoder} {id status : Nat}
      {header : Header} :
      conn.writeInterim server id status header = .ok next ->
        Action server terms conn next
  | promise {conn : ServerConn Encoder Decoder} {id : Nat}
      {st : ServerStream} {request : Request} {header : Header} :
      conn.table id = some st -> conn.closed = false ->
        st.reset = false -> st.localDone = false ->
          terms.fine conn.wire conn.nextPushID ->
          Action server terms conn
            (conn.promise server id request header)
  | reset {conn : ServerConn Encoder Decoder} {id : Nat}
      {code : ErrorCode} :
      id ∈ conn.streams ∨ terms.fine conn.wire id ->
        Action server terms conn (conn.resetStream id code)
  | drop {conn : ServerConn Encoder Decoder} {id : Nat} :
      id ∈ conn.streams ->
        Action server terms conn (conn.forgetLocked id)
  | close {conn : ServerConn Encoder Decoder} :
      Action server terms conn conn.closeFinishedLocked
  | flush {conn : ServerConn Encoder Decoder} {order : List Nat}
      {out : List Sent} :
      terms.calm conn -> (∀ frame ∈ out, isControl frame = true) ->
        Action server terms conn (conn.flushAndClose server order out)
  | fail {conn : ServerConn Encoder Decoder} {code : ErrorCode}
      {reason : String} :
      Action server terms conn (conn.fail code reason)
  | shutdown {conn : ServerConn Encoder Decoder} :
      Action server terms conn conn.shutdown

/-- A sequence of actions. -/
def Actions
    (server : Server Encoder Decoder)
    (terms : Terms Encoder Decoder) :
    ServerConn Encoder Decoder -> ServerConn Encoder Decoder -> Prop :=
  Relation.ReflTransGen (Action server terms)

theorem find_eq_some {id : Nat} :
    conn.find id = some st ↔ id ∈ conn.streams ∧ conn.table id = some st := by
  unfold find
  split <;> simp_all

/-! ## Handling a frame -/

section Handling

variable {terms : Terms Encoder Decoder}

/-- Handling comes down to actions, and a stream it has to reset is open or may
be reset. -/
def Handles
    (server : Server Encoder Decoder)
    (terms : Terms Encoder Decoder)
    (conn : ServerConn Encoder Decoder)
    (handled : Handled Encoder Decoder) : Prop :=
  Actions server terms conn handled.2 ∧
    ∀ id code, handled.1 = some (.stream id code) ->
      id ∈ handled.2.streams ∨ terms.fine handled.2.wire id

theorem Handles.none (actions : Actions server terms conn next) :
    Handles server terms conn (none, next) :=
  ⟨actions, by simp⟩

theorem Handles.connection
    (actions : Actions server terms conn next)
    (code : ErrorCode)
    (reason : String) :
    Handles server terms conn (some (.connection code reason), next) :=
  ⟨actions, by simp⟩

variable {id : Nat}

theorem Handles.stream
    (actions : Actions server terms conn next)
    (allowed : id ∈ next.streams ∨ terms.fine next.wire id)
    (code : ErrorCode) :
    Handles server terms conn (some (.stream id code), next) := by
  refine ⟨actions, fun other otherCode equal => ?_⟩
  simp only [Option.some.injEq, FrameError.stream.injEq] at equal
  exact equal.1 ▸ allowed

theorem Handles.after
    (actions : Actions server terms conn next)
    (handles : Handles server terms next handled) :
    Handles server terms conn handled :=
  ⟨actions.trans handles.1, handles.2⟩

theorem Actions.agree
    (agrees : Agrees conn next)
    (same : next.readSide = conn.readSide) :
    Actions server terms conn next :=
  .single (.agree agrees (.inl same))

theorem Actions.read
    (reading : terms.reading)
    (agrees : Agrees conn next) :
    Actions server terms conn next :=
  .single (.agree agrees (.inr reading))

/-- Handling a frame and then its error is a sequence of actions. -/
theorem Handles.handleError (handles : Handles server terms conn handled) :
    Actions server terms conn (handled.2.handleError handled.1) := by
  obtain ⟨error, last⟩ := handled
  obtain ⟨actions, allowed⟩ := handles
  cases error with
  | none => exact actions
  | some error =>
    cases error with
    | stream id code =>
      exact actions.tail (.reset (allowed id code rfl))
    | connection code reason => exact actions.tail .fail

theorem actions_reject
    (found : conn.table id = some before)
    (steady : before.Steady st)
    (status : Nat) :
    Actions server terms conn (conn.reject server id st status) := by
  have cleared : Agrees conn
      { conn.update id { st with body := [] } with
        rejected := id :: conn.rejected } :=
    (Agrees.of_update found { st with body := [] } { steady with }).trans
      { Agrees.refl _ with }
  unfold reject
  dsimp only
  split
  · next answered =>
    exact (Actions.agree cleared rfl).tail (.respond answered)
  · exact Actions.agree cleared rfl

theorem handles_finishRequest
    (isOpen : id ∈ conn.streams)
    (found : conn.table id = some before)
    (steady : before.Steady st) :
    Handles server terms conn (conn.finishRequest id st) := by
  unfold finishRequest
  split
  · exact .stream (.agree (.of_update found _ steady) rfl) (.inl isOpen) _
  have ended : Agrees conn (conn.update id { st with remoteDone := true }) :=
    .of_update found _ { steady with remoteDone := fun _ => rfl }
  split
  · exact .none ((Actions.agree ended rfl).tail (.drop isOpen))
  split
  · exact .none (.agree ended rfl)
  · refine .none (.agree ((Agrees.of_update found
      { st with remoteDone := true, body := [], served := true }
      { steady with remoteDone := fun _ => rfl }).trans ?_) rfl)
    exact { Agrees.refl _ with }

variable {st : ServerStream}

theorem handles_handleTrailers
    (found : conn.find id = some st)
    (fields : List HeaderField)
    (endStream tooLarge : Bool) :
    Handles server terms conn (conn.handleTrailers server id st fields endStream tooLarge) := by
  obtain ⟨isOpen, present⟩ := find_eq_some.mp found
  unfold handleTrailers
  split
  · exact .stream .refl (.inl isOpen) _
  split
  · exact .stream .refl (.inl isOpen) _
  split
  · exact .stream .refl (.inl isOpen) _
  split
  · exact .none (actions_reject present ⟨rfl, rfl, (·)⟩ 431)
  · split
    · exact .stream .refl (.inl isOpen) _
    · exact handles_finishRequest isOpen present ⟨rfl, rfl, (·)⟩

theorem handles_beginRequest
    (isOpen : id ∈ conn.streams)
    (present : conn.table id = some st)
    (fields : List HeaderField)
    (endStream tooLarge : Bool) :
    Handles server terms conn (conn.beginRequest server id st fields endStream tooLarge) := by
  unfold beginRequest
  split
  · exact .none (actions_reject present ⟨rfl, rfl, (·)⟩ 431)
  split
  · exact .stream .refl (.inl isOpen) _
  next request made =>
  dsimp only
  split
  · exact .stream (.agree (.of_update present _ (by exact ⟨rfl, rfl, (·)⟩)) rfl) (.inl isOpen) _
  split
  · exact .none (actions_reject present (by exact ⟨rfl, rfl, (·)⟩) 413)
  split
  · exact handles_finishRequest isOpen present ⟨rfl, rfl, (·)⟩
  have stored : Actions server terms conn (conn.update id
      { st with req := some request, declared := (declaredLength request.header).map Int.toNat }) :=
    .agree (.of_update present _ ⟨rfl, rfl, (·)⟩) rfl
  split
  · split
    · next answered => exact .none (stored.tail (.interim answered))
    · exact .none stored
  · exact .none stored

/-- The actions of a header block begin where it has been decoded. -/
theorem handles_handleHeaderBlock
    (isOdd : id % 2 = 1)
    (allowed : conn.maxClientID < id -> terms.fine conn.wire id)
    (block : Bytes)
    (endStream : Bool) :
    Handles server terms { conn with dec := (server.decode conn.dec block).2 }
      (conn.handleHeaderBlock server id block endStream) := by
  unfold handleHeaderBlock
  dsimp only
  split
  · exact .connection .refl _ _
  split
  · next st found => exact handles_handleTrailers found _ _ _
  split
  · exact .none .refl
  next newer =>
  have new : conn.maxClientID < id := Nat.lt_of_not_le newer
  have counted : Actions server terms { conn with dec := (server.decode conn.dec block).2 }
      { conn with
        dec := (server.decode conn.dec block).2
        maxClientID := id } :=
    .agree { Agrees.refl _ with maxClientID := new.le } rfl
  split
  · exact .none counted
  next taking =>
  have isOpen : conn.closed = false := by
    simp only [Bool.or_eq_true, not_or, Bool.not_eq_true] at taking
    exact taking.1
  split
  · exact .stream counted (.inr (allowed new)) _
  · next below =>
    refine .after (.single ?_) (handles_beginRequest
      List.mem_cons_self (Function.update_self ..) _ _ _)
    exact .opens isOdd new (allowed new) isOpen (by rfl) rfl (Nat.lt_of_not_le below) rfl

theorem handles_handleHeaders
    (reading : terms.reading)
    (frame : Frame)
    (opening : conn.maxClientID < frame.streamID ->
      terms.fine conn.wire frame.streamID)
    (dependent : selfDependent frame = true -> terms.fine conn.wire frame.streamID) :
    Handles server terms conn (conn.handleHeaders server frame) := by
  unfold handleHeaders
  dsimp only
  split
  · exact .connection .refl _ _
  next valid =>
  have isOdd : frame.streamID % 2 = 1 := by omega
  split
  · exact .connection .refl _ _
  split
  · next depends =>
    exact .stream .refl (.inr (dependent depends)) _
  split
  · split
    · exact .connection .refl _ _
    · exact .none (.read reading { Agrees.refl _ with })
  · refine .after (.read reading ?_) (handles_handleHeaderBlock isOdd opening _ _)
    exact { Agrees.refl _ with }

theorem handles_handleContinuation
    (reading : terms.reading)
    (frame : Frame)
    (opening : ∀ id, conn.contStream = some id ->
      conn.maxClientID < id -> terms.fine conn.wire id) :
    Handles server terms conn (conn.handleContinuation server frame) := by
  unfold handleContinuation
  dsimp only
  split
  · exact .connection .refl _ _
  next id expected =>
  split
  · refine .connection (.read reading ?_) _ _
    exact { Agrees.refl _ with }
  split
  · refine .none (.read reading ?_)
    exact { Agrees.refl _ with }
  · refine .after (.read reading ?_) (handles_handleHeaderBlock id.property ?_ _ _)
    · exact { Agrees.refl _ with }
    · exact opening id expected

theorem handles_takeData (found : conn.find frame.streamID = some st) :
    Handles server terms conn (conn.takeData server frame st) := by
  obtain ⟨isOpen, present⟩ := find_eq_some.mp found
  unfold takeData
  dsimp only
  split
  · exact .stream .refl (.inl isOpen) _
  split
  · exact .stream .refl (.inl isOpen) _
  split
  · exact .none (actions_reject present (by exact ⟨rfl, rfl, (·)⟩) 413)
  split
  · exact handles_finishRequest isOpen present ⟨rfl, rfl, (·)⟩
  · split
    · refine .none ((Actions.agree
        (.of_update present _ (by exact ⟨rfl, rfl, (·)⟩)) rfl).tail (.grant isOpen))
    · exact .none (.agree (.of_update present _ (by exact ⟨rfl, rfl, (·)⟩)) rfl)

section

variable (frame : Frame)

theorem handles_handleData :
    Handles server terms conn (conn.handleData server frame) := by
  unfold handleData
  dsimp only
  split
  · exact .connection .refl _ _
  split
  · exact .connection .refl _ _
  have counted : Actions server terms conn
      { conn with
        recvWindow := conn.recvWindow - frame.length
        recvUnacked := conn.recvUnacked + frame.length } :=
    .agree { Agrees.refl _ with } rfl
  split
  · exact .connection counted _ _
  split
  · exact .connection counted _ _
  generalize granted :
    (if connWindow / 2 ≤ conn.recvUnacked + (frame.length : Int)
      then _ else _ : ServerConn Encoder Decoder) = later
  have actions : Actions server terms conn later := by
    rw [← granted]
    split
    · refine (Actions.agree ?_ ?_).tail (.control rfl)
      · exact { Agrees.refl _ with }
      · rfl
    · exact counted
  split
  · exact .none actions
  · next st found => exact .after actions (handles_takeData found)

theorem handles_handleRSTStream :
    Handles server terms conn (conn.handleRSTStream frame) := by
  unfold handleRSTStream
  dsimp only
  split
  · exact .connection .refl _ _
  split
  · exact .connection .refl _ _
  split
  · exact .connection .refl _ _
  · refine .none (.tail ?_ .close)
    split
    · next isOpen => exact .single (.drop isOpen)
    · exact .refl

theorem handles_handlePing :
    Handles server terms conn (conn.handlePing frame) := by
  unfold handlePing
  split
  · exact .connection .refl _ _
  split
  · exact .connection .refl _ _
  · split
    · exact .none .refl
    · exact .none (.single (.control rfl))

theorem handles_handleGoAway :
    Handles server terms conn (conn.handleGoAway frame) := by
  unfold handleGoAway
  split
  · exact .connection .refl _ _
  · split
    · exact .connection .refl _ _
    · refine .none ((Actions.agree ?_ ?_).tail .close)
      · exact { Agrees.refl _ with }
      · rfl

theorem handles_handlePriority
    (allowed : frame.payload.length ≠ 5 -> terms.fine conn.wire frame.streamID) :
    Handles server terms conn (conn.handlePriority frame) := by
  unfold handlePriority
  split
  · exact .connection .refl _ _
  · split
    · next malformed => exact .stream .refl (.inr (allowed malformed)) _
    · exact .none .refl

/-- Nothing but the encoder, the peer's settings and the windows differ. -/
def Retuned (conn next : ServerConn Encoder Decoder) : Prop :=
  ∃ enc frame window send push most table,
    next =
      { conn with
        enc := enc
        peerMaxFrame := frame
        peerWindow := window
        sendWindow := send
        pushEnabled := push
        peerMaxPush := most
        table := table } ∧
      ∀ id, ∃ shift : Int -> Int, table id =
        (conn.table id).map fun st => { st with sendWindow := shift st.sendWindow }

theorem retuned_of_table
    (enc : Encoder)
    (frame : FrameSize)
    (window send : Int)
    (push : Bool)
    (most : Nat) :
    Retuned conn
      { conn with
        enc := enc
        peerMaxFrame := frame
        peerWindow := window
        sendWindow := send
        pushEnabled := push
        peerMaxPush := most } :=
  ⟨_, _, _, _, _, _, _, rfl, fun _ => ⟨fun window => window, by simp⟩⟩

theorem Retuned.trans
    (first : Retuned conn next)
    (second : Retuned next last) :
    Retuned conn last := by
  obtain ⟨_, _, _, _, _, _, _, rfl, before⟩ := first
  obtain ⟨_, _, _, _, _, _, _, rfl, after⟩ := second
  refine ⟨_, _, _, _, _, _, _, rfl, fun id => ?_⟩
  obtain ⟨early, shifted⟩ := before id
  obtain ⟨late, again⟩ := after id
  exact ⟨late ∘ early, by simp [again, shifted, Function.comp_def]⟩

theorem Retuned.agrees (retuned : Retuned conn next) : Agrees conn next := by
  obtain ⟨_, _, _, _, _, _, table, rfl, windows⟩ := retuned
  refine ⟨rfl, rfl, rfl, rfl, rfl, le_rfl, fun id => ?_, rfl, rfl, fun id => ?_, fun id => ?_⟩
  all_goals obtain ⟨shift, same⟩ := windows id
  · exact (congrArg _ same).trans (Option.map_map ..)
  all_goals
    simp only [marked, same]
    cases conn.table id <;> simp

theorem Retuned.readSide
    (retuned : Retuned conn next) :
    next.readSide = conn.readSide := by
  obtain ⟨_, _, _, _, _, _, _, rfl, _⟩ := retuned
  rfl

theorem Retuned.actions
    (retuned : Retuned conn next) :
    Actions server terms conn next :=
  .agree retuned.agrees retuned.readSide

theorem retuned_applySetting (setting : Nat × Nat) :
    Retuned conn (conn.applySetting server setting).2 := by
  have shifted (delta peerWindow : Int) :
      Retuned conn { conn.shiftWindows delta with peerWindow := peerWindow } := by
    refine ⟨_, _, _, _, _, _, _, rfl, fun id => ?_⟩
    by_cases isOpen : id ∈ conn.streams
    · exact ⟨(· + delta), by simp [shiftWindows, isOpen]⟩
    · exact ⟨fun window => window, by simp [shiftWindows, isOpen]⟩
  unfold applySetting
  dsimp only
  split
  · exact retuned_of_table ..
  · split <;> exact retuned_of_table ..
  · exact retuned_of_table ..
  · split
    · exact retuned_of_table ..
    · split <;> exact shifted _ _
  · split <;> exact retuned_of_table ..
  · exact retuned_of_table ..

theorem applySetting_error : (conn.applySetting server setting).1 ≠ some (.stream id code) := by
  unfold applySetting
  dsimp only
  repeat' split
  all_goals simp [protocolError]

theorem retuned_applySettings
    (settings : List (Nat × Nat))
    (conn : ServerConn Encoder Decoder) :
    Retuned conn (applySettings server settings conn).2 ∧
      ∀ id code, (applySettings server settings conn).1 ≠ some (.stream id code) := by
  induction settings generalizing conn with
  | nil => exact ⟨retuned_of_table .., by simp [applySettings]⟩
  | cons setting rest ih =>
    have first : Retuned conn (conn.applySetting server setting).2 :=
      retuned_applySetting setting
    unfold applySettings
    dsimp only
    split
    · next error failed =>
      refine ⟨first, fun id code equal => ?_⟩
      exact applySetting_error (failed.trans equal)
    · obtain ⟨later, noStream⟩ :=
        ih (conn.applySetting server setting).2
      exact ⟨first.trans later, noStream⟩

theorem retuned_applySettingsLocked (payload : Bytes) :
    Retuned conn (conn.applySettingsLocked server payload).2 ∧
      ∀ id code, (conn.applySettingsLocked server payload).1 ≠ some (.stream id code) := by
  unfold applySettingsLocked
  split
  · exact ⟨retuned_of_table .., by simp⟩
  · exact retuned_applySettings _ conn

theorem retuned_credit :
    Retuned conn (conn.credit frame).2.2 ∧
      ∀ id code, (conn.credit frame).1 = some (.stream id code) -> id ∈ conn.streams := by
  unfold credit
  dsimp only
  split
  · exact ⟨retuned_of_table .., by simp⟩
  split
  · split
    · exact ⟨retuned_of_table .., by simp [protocolError]⟩
    · split <;> exact ⟨retuned_of_table .., by simp⟩
  split
  · exact ⟨retuned_of_table .., by simp [protocolError]⟩
  split
  · exact ⟨retuned_of_table .., by simp⟩
  next st found =>
  obtain ⟨isOpen, present⟩ := find_eq_some.mp found
  have grown (increment : Int) : Retuned conn
      (conn.update frame.streamID { st with sendWindow := st.sendWindow + increment }) := by
    refine ⟨_, _, _, _, _, _, _, rfl, fun id => ?_⟩
    by_cases same : id = frame.streamID
    · exact ⟨(· + increment), by simp [same, present]⟩
    · exact ⟨fun window => window, by simp [Function.update_of_ne same]⟩
  split
  · exact ⟨retuned_of_table .., by simp_all⟩
  · split
    · exact ⟨grown _, by simp_all⟩
    · exact ⟨grown _, by simp⟩

end

/-! ## Frames that flush, open or reset -/

/-- The connection with one more frame received. -/
def noted
    (conn : ServerConn Encoder Decoder)
    (frame : Frame) :
    ServerConn Encoder Decoder :=
  { conn with
    received := conn.received ++ [frame], gotSettings := true }

/-- The connection as the flush finds it that a SETTINGS or WINDOW_UPDATE
frame leads to, if it leads to one. -/
def readied
    (server : Server Encoder Decoder)
    (conn : ServerConn Encoder Decoder)
    (frame : Frame) :
    Option (ServerConn Encoder Decoder) :=
  match frame.typ with
  | .settings =>
    let applied := conn.applySettingsLocked server frame.payload
    if frame.streamID ≠ 0 ∨ frame.has flagAck ∨ applied.1.isSome then none
    else some applied.2
  | .windowUpdate =>
    let credited := conn.credit frame
    if credited.2.1 then some credited.2.2 else none
  | _ => none

/-- The stream a frame may open, or may make the server reset although it is
not open. -/
def touched
    (conn : ServerConn Encoder Decoder)
    (frame : Frame) :
    Option Nat :=
  match frame.typ with
  | .priority =>
    if frame.payload.length ≠ 5 then some frame.streamID else none
  | .headers =>
    if selfDependent frame ∨ conn.maxClientID < frame.streamID then
      some frame.streamID
    else none
  | .continuation =>
    (conn.contStream.map Subtype.val).filter (conn.maxClientID < ·)
  | _ => none

theorem handles_handleSettings
    (isSettings : frame.typ = .settings)
    (ready : ∀ ready, readied server conn frame = some ready -> terms.calm ready)
    (order : List Nat) :
    Handles server terms conn (conn.handleSettings server frame order) := by
  obtain ⟨retuned, noStream⟩ :=
    @retuned_applySettingsLocked _ _ server conn frame.payload
  unfold handleSettings
  dsimp only
  split
  · exact .connection .refl _ _
  next onConnection =>
  split
  · split
    · exact .connection .refl _ _
    · exact .none .refl
  next notAck =>
  split
  · next error failed =>
    refine ⟨retuned.actions, fun id code equal => ?_⟩
    exact absurd (failed.trans equal) (noStream id code)
  next applied =>
  refine .none (retuned.actions.tail (.flush ?_ ?_))
  · simp_all [readied]
  · simp [isControl]

theorem handles_handleWindowUpdate
    (isUpdate : frame.typ = .windowUpdate)
    (ready : ∀ ready, readied server conn frame = some ready -> terms.calm ready)
    (order : List Nat) :
    Handles server terms conn (conn.handleWindowUpdate server frame order) := by
  obtain ⟨retuned, isOpen⟩ := @retuned_credit _ _ conn frame
  have noError : (conn.credit frame).2.1 = true -> (conn.credit frame).1 = none := by
    unfold credit
    dsimp only
    repeat' split
    all_goals simp
  unfold handleWindowUpdate
  dsimp only
  split
  · next grown =>
    rw [noError grown]
    refine .none (retuned.actions.tail (.flush ?_ (by simp)))
    apply ready
    simp [readied, isUpdate, grown]
  · refine ⟨retuned.actions, fun id code equal => .inl ?_⟩
    rw [retuned.agrees.streams]
    exact isOpen id code equal

/-- A frame whose stream may be opened or reset, and whose flush is calm, is
handled by actions. -/
theorem feed_actions
    (reading : terms.reading)
    (frame : Frame)
    (order : List Nat)
    (allowed : ∀ id, conn.touched frame = some id -> terms.fine conn.wire id)
    (ready : ∀ ready, readied server (conn.noted frame) frame = some ready -> terms.calm ready) :
    Actions server terms conn (conn.feed server frame order) := by
  apply Handles.handleError
  have received : Agrees conn
      { conn with received := conn.received ++ [frame] } :=
    { Agrees.refl _ with }
  unfold handleFrame
  split
  · exact .connection (.read reading received) _ _
  unfold dispatch
  split
  · exact .connection (.read reading received) _ _
  have arrived : Agrees conn (conn.noted frame) :=
    { Agrees.refl _ with }
  apply Handles.after (.read reading arrived)
  · split
    · exact handles_handleData frame
    · next isHeaders =>
      apply handles_handleHeaders reading
      · intro opening
        exact allowed _ (by
          rw [touched, isHeaders]
          exact if_pos (.inr opening))
      · intro dependent
        exact allowed _ (by
          rw [touched, isHeaders]
          exact if_pos (.inl dependent))
    · next isContinuation =>
      apply handles_handleContinuation reading
      intro id expected opening
      apply allowed
      have sameStream : conn.contStream = some id := expected
      have sameLimit : conn.maxClientID < id := opening
      simp [touched, isContinuation, sameStream, sameLimit]
    · next isPriority =>
      apply handles_handlePriority
      intro malformed
      exact allowed _ (by
        rw [touched, isPriority]
        exact if_pos malformed)
    · exact handles_handleRSTStream frame
    · next isSettings => exact handles_handleSettings isSettings ready order
    · exact .connection .refl _ _
    · exact handles_handlePing frame
    · exact handles_handleGoAway frame
    · next isUpdate =>
      exact handles_handleWindowUpdate isUpdate ready order
    · exact .none .refl

/-- A connection that has just been set up is new, or settings were applied
to a new one and the request that asked for the upgrade is stream 1. -/
theorem isStart_cases (starts : IsStart server conn) :
    conn = start server ∨ ∃ request applied, Retuned (start server) applied ∧
      conn =
        { applied.update 1 (applied.upgradedStream request) with
          maxClientID := 1
          streams := [1]
          lastStreamID := 1 } := by
  rcases starts with fresh | ⟨settings, request, upgraded⟩
  · exact .inl fresh
  unfold upgrade at upgraded
  dsimp only at upgraded
  split at upgraded
  · cases upgraded
  · cases upgraded
    exact .inr ⟨request, _, (retuned_applySettingsLocked _).1, rfl⟩

/-! ## Steps -/

/-- What a condition on frames says of an event. -/
def Admits
    (server : Server Encoder Decoder)
    (fine : List Sent -> Nat -> Prop)
    (calm : ServerConn Encoder Decoder -> Prop)
    (conn : ServerConn Encoder Decoder) : Event -> Prop
  | .frame frame _ =>
    (∀ id, conn.touched frame = some id -> fine conn.wire id) ∧
      ∀ ready, readied server (conn.noted frame) frame = some ready ->
        calm ready
  | .push _ _ _ _ => fine conn.wire conn.nextPushID
  | _ => True

theorem actions_push
    (allowed : terms.fine conn.wire conn.nextPushID)
    (pushed : conn.push server id method target header = .ok next) :
    Actions server terms conn next := by
  unfold push at pushed
  dsimp only at pushed
  repeat' split at pushed
  all_goals cases pushed
  next st present _ _ _ _ _ _ _ _ _ isOpen notDone _ =>
    simp only [Bool.or_eq_true, not_or, Bool.not_eq_true] at isOpen notDone
    exact .single (.promise present isOpen.1.1 isOpen.2 notDone allowed)

theorem admits_all (event : Event) :
    Admits server (fun _ _ => True) (fun _ => True) conn event := by
  cases event with
  | frame frame order => exact ⟨fun _ _ => trivial, fun _ _ => trivial⟩
  | _ => trivial

/-- Everything a step can be. -/
inductive StepCases
    (server : Server Encoder Decoder)
    (conn : ServerConn Encoder Decoder) :
    Event -> ServerConn Encoder Decoder -> Prop
  | frame (frame : Frame) (order : List Nat) :
      StepCases server conn (.frame frame order) (conn.feed server frame order)
  | malformed (code : ErrorCode) (reason : String) :
      StepCases server conn (.malformed code reason) (conn.fail code reason)
  | refused : StepCases server conn event conn
  | respond {id : Nat} {next : ServerConn Encoder Decoder} : conn.isServed id = true ->
      conn.respond server id method response = .ok next ->
        StepCases server conn (.respond id method given) next
  | interim {id : Nat} {next : ServerConn Encoder Decoder} :
      conn.writeInterim server id status header = .ok next ->
        StepCases server conn (.interim id status header) next
  | push {id : Nat} {next : ServerConn Encoder Decoder} :
      conn.push server id method target header = .ok next ->
        StepCases server conn (.push id method target header) next
  | shutdown : StepCases server conn .shutdown conn.shutdown

/-- Inversion of a step. -/
theorem step_cases (taken : conn.step server event = some next) :
    StepCases server conn event next := by
  have called {result} (made : ∀ next, result = .ok next -> StepCases server conn event next) :
      StepCases server conn event (conn.after result) := by
    cases result with
    | ok next => exact made next rfl
    | error refusal => exact .refused
  cases event <;> simp only [step, Option.ite_none_right_eq_some, Option.some.injEq] at taken
  case malformed => exact taken ▸ .malformed ..
  case shutdown => exact taken ▸ .shutdown
  all_goals obtain ⟨served, rfl⟩ := taken
  case frame => exact .frame ..
  case respond => exact called fun _ => .respond served
  case push => exact called fun _ => .push
  case interim =>
    unfold writeInterimResponse
    split
    · exact .refused
    · exact called fun _ => .interim

/-- Every step the condition admits is a sequence of actions. -/
theorem step_actions
    (admitted : Admits server fine calm conn event)
    (taken : conn.step server event = some next) :
    Actions server ⟨fine, calm, True⟩ conn next := by
  cases step_cases taken with
  | frame frame order => exact feed_actions trivial frame order admitted.1 admitted.2
  | malformed => exact .single .fail
  | refused => exact .refl
  | respond _ answered => exact .single (.respond answered)
  | interim answered => exact .single (.interim answered)
  | push pushed => exact actions_push admitted pushed
  | shutdown => exact .single .shutdown

end Handling

end ServerConn
end Http2
end Fib
