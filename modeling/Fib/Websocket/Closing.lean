import Fib.Library.Tally
import Fib.Websocket.Serving

/-!
# Closing a connection while others write

Any goroutine may write frames, and any may send the close frame.  A writer
reads `closeSent` and then sends; whoever closes sets `closeSent`, sends the
close frame and then asks the connection to close.  These are separate atomic
steps of separate calls, and this module lets them interleave freely with one
another and with `serveFrames`.
-/

namespace Fib
namespace Websocket

/-! ## The frame of a call -/

/-- A frame the connection has accepted. -/
structure SentFrame where
  opcode : Opcode
  bytes : Bytes
deriving DecidableEq, Repr

def SentFrame.isClose (frame : SentFrame) : Bool :=
  frame.opcode == .close

/-- The bytes are those of a frame with this opcode. -/
def SentFrame.Genuine (frame : SentFrame) : Prop :=
  frame.bytes.head?.bind Opcode.decode = some frame.opcode

namespace Connection

/-- The bytes `sendFrame` hands to the connection. -/
def frameBytes
    (ws : Connection)
    (opcode : Opcode)
    (payload : Bytes)
    (compressed : Bool) : Option Bytes :=
  (frameHeader opcode payload.length).map fun header =>
    let header := if compressed then setBits header 0 0x40 else header
    let mask := ws.maskKeys.headD [0, 0, 0, 0]
    if ws.client then setBits header 1 0x80 ++ mask ++ applyMask mask payload
    else header ++ payload

/-- A header begins with the opcode, and a second byte follows. -/
theorem frameHeader_eq_cons
    (made : frameHeader opcode payloadLen = some header) :
    ∃ second rest, header = (0x80 ||| opcode.encode) :: second :: rest := by
  unfold frameHeader at made
  split at made
  · cases made
  · split at made
    · cases made
      exact ⟨_, _, rfl⟩
    · split at made <;> cases made <;> exact ⟨_, _, rfl⟩

theorem decode_first
    (opcode : Opcode)
    (compressed : Bool) :
    Opcode.decode
        (if compressed then 0x80 ||| opcode.encode ||| 0x40
          else 0x80 ||| opcode.encode) =
      some opcode := by
  cases opcode <;> cases compressed <;> rfl

theorem frameBytes_genuine
    {ws : Connection}
    (made : ws.frameBytes opcode payload compressed = some frame) :
    SentFrame.Genuine ⟨opcode, frame⟩ := by
  obtain ⟨header, framed, rfl⟩ := Option.map_eq_some_iff.mp made
  obtain ⟨second, rest, rfl⟩ := frameHeader_eq_cons framed
  have decoded := decode_first opcode compressed
  cases compressed <;> cases client : ws.client <;> simpa [SentFrame.Genuine, setBits] using decoded

/-- No frame is empty. -/
theorem frameBytes_ne_nil
    {ws : Connection}
    (made : ws.frameBytes opcode payload compressed = some frame) :
    frame ≠ [] := by
  rintro rfl
  cases frameBytes_genuine made

/-- A frame the connection accepts is appended to the wire whole; one it
refuses leaves the wire as it is. -/
theorem sendFrame_spec
    (ws : Connection)
    (opcode : Opcode)
    (payload : Bytes)
    (compressed : Bool) :
    let after := ws.sendFrame opcode payload compressed
    after.1.closeSent = ws.closeSent ∧ ((after.2 = none ∧
        ∃ frame, ws.frameBytes opcode payload compressed = some frame ∧
          after.1.conn.wire = ws.conn.wire ++ frame) ∨
      (after.2 ≠ none ∧ after.1.conn.wire = ws.conn.wire)) := by
  intro after
  unfold after sendFrame
  cases framed : frameHeader opcode payload.length with
  | none => exact ⟨rfl, .inr ⟨nofun, rfl⟩⟩
  | some header =>
    obtain ⟨frame, made⟩ : ∃ frame,
        ws.frameBytes opcode payload compressed = some frame := by
      rw [frameBytes, framed]
      exact ⟨_, rfl⟩
    have nonempty := frameBytes_ne_nil made
    have same := made
    rw [frameBytes, framed, Option.map_some, Option.some.injEq] at same
    refine ⟨rfl, ?_⟩
    simp only [made, same, Option.some.injEq, exists_eq_left']
    unfold Http.Conn.send
    rw [if_neg nonempty]
    split
    · exact .inr ⟨nofun, rfl⟩
    · split
      · exact .inl ⟨rfl, rfl⟩
      · exact .inr ⟨nofun, rfl⟩

end Connection

/-! ## Calls -/

/-- What a call of the connection returns instead of nil. -/
inductive CallError where
  /-- `WriteMessage` takes text and binary messages only. -/
  | notData
  | invalidPayload
  | reasonTooLong
  | write (failure : WriteFailure)
deriving DecidableEq, Repr

/-- Where a call stands, between one atomic operation and the next. -/
inductive Stage where
  /-- `writeFrame`, called by `replyPing` or not, is about to read
  `closeSent`. -/
  | checking (reply : Bool) (opcode : Opcode) (payload : Bytes)
  /-- `writeFrame` is about to send. -/
  | sending (reply : Bool) (opcode : Opcode) (payload : Bytes)
  /-- `replyPing` is about to close the connection. -/
  | dropping (error : CallError)
  /-- `sendClose` is about to compare and swap `closeSent`. -/
  | closing (payload : Bytes)
  /-- `sendClose` is about to clear `closeSent` again. -/
  | clearing
  /-- `sendClose` is about to store `closeState`. -/
  | storing (payload : Bytes)
  /-- `sendClose` is about to send. -/
  | sendingClose (payload : Bytes)
  /-- `sendClose` is about to call `CloseAfterSend`. -/
  | shutting
  | returned (error : Option CallError)
deriving DecidableEq

namespace Stage

/-- The call has set `closeSent` and may still send the close frame, or clear
`closeSent` again. -/
def holding : Stage -> Nat
  | clearing | storing _ | sendingClose _ => 1
  | _ => 0

/-- The call has found `closeSent` unset and is about to send. -/
def Passed : Stage -> Prop
  | sending _ _ _ => True
  | _ => False

instance : (stage : Stage) -> Decidable stage.Passed
  | sending _ _ _ => .isTrue trivial
  | checking _ _ _ | dropping _ | closing _ | clearing | storing _
  | sendingClose _ | shutting | returned _ => .isFalse nofun

/-- The call's next step sends the close frame. -/
def sendsClose : Stage -> Bool
  | sendingClose _ => true
  | _ => false

/-- A call of `writeFrame` writes no close frame. -/
def Plain : Stage -> Prop
  | checking _ opcode _ | sending _ opcode _ => opcode ≠ .close
  | _ => True

/-- A call that has sent nothing and can return only an error. -/
def Refused : Stage -> Prop
  | checking _ _ _ | dropping _ | returned (some _) => True
  | _ => False

/-- What follows the result of `writeFrame`: `replyPing` closes the connection
on an error. -/
def ofWrite (reply : Bool) : Option WriteFailure -> Stage
  | none => .returned none
  | some failure =>
    if reply then .dropping (.write failure)
    else .returned (some (.write failure))

/-- What follows the result of sending the close frame. -/
def ofClose : Option WriteFailure -> Stage
  | none => .shutting
  | some failure => .returned (some (.write failure))

end Stage

/-- A call that has begun; `late` says that the close frame had been sent by
then, and `writes` tells the calls of `WriteMessage`, `Ping`, `Pong` and
`replyPing` from those that close. -/
structure WriteCall where
  stage : Stage
  writes : Bool
  late : Bool
deriving DecidableEq

/-- `serveFrames`. -/
inductive Server where
  | idle
  | feeding (data : Bytes)
  /-- A callback of the handler is running. -/
  | calling
  /-- A call of `replyPing` is under way. -/
  | replying (index : Nat)
  /-- A call of `sendClose` is under way, the last thing `serveFrames`
  does. -/
  | closing (index : Nat)
deriving DecidableEq

/-- A connection with the calls made on it. -/
structure Traffic where
  ws : Connection
  parser : Parser := {}
  server : Server := .idle
  calls : List WriteCall := []
  /-- The frames the connection has accepted. -/
  sent : List SentFrame := []

/-- What can happen on the connection. -/
inductive TrafficLabel where
  | writeMessage (opcode : Opcode) (payload : Bytes)
  | ping (payload : Bytes)
  | pong (payload : Bytes)
  /-- `replyPing`, which `HandlerFuncs.OnPing` calls too. -/
  | replyPing (payload : Bytes)
  | close (code : Nat) (reason : Bytes)
  /-- A call makes its next atomic step. -/
  | call (index : Nat)
  | onData (data : Bytes)
  /-- `serveFrames` makes its next step. -/
  | serve
  | callbackReturns
  /-- The connection is closed. -/
  | connectionCloses

namespace Traffic

section

variable (traffic : Traffic)

/-- Begin a call. -/
def begin
    (stage : Stage)
    (writes : Bool) : Traffic :=
  { traffic with
    calls := traffic.calls ++
      [⟨stage, writes, traffic.sent.any SentFrame.isClose⟩] }

/-- `WriteMessage`, up to `writeFrame`. -/
def writeMessage
    (opcode : Opcode)
    (payload : Bytes) :
    Traffic :=
  if opcode ≠ .text ∧ opcode ≠ .binary then
    traffic.begin (.returned (some .notData)) true
  else if opcode = .text ∧ validUtf8 payload = false then
    traffic.begin (.returned (some .invalidPayload)) true
  else traffic.begin (.checking false opcode payload) true

/-- `Close`, up to `sendClose`. -/
def close
    (code : Nat)
    (reason : Bytes) : Traffic :=
  if validCloseCode code = false ∨ validUtf8 reason = false then
    traffic.begin (.returned (some .invalidPayload)) false
  else if 125 < 2 + reason.length then
    traffic.begin (.returned (some .reasonTooLong)) false
  else traffic.begin (.closing (toBigEndian 2 code ++ reason)) false

/-- Move a call on. -/
def setStage
    (index : Nat)
    (call : WriteCall)
    (stage : Stage) : Traffic :=
  { traffic with
    calls := traffic.calls.set index { call with stage := stage } }

/-- `sendFrame`, which logs the frame if the connection accepts it. -/
def sendFrame
    (opcode : Opcode)
    (payload : Bytes)
    (compressed : Bool) : Traffic × Option WriteFailure :=
  match traffic.ws.sendFrame opcode payload compressed with
  | (ws, some failure) => ({ traffic with ws := ws }, some failure)
  | (ws, none) =>
    ({ traffic with
      ws := ws
      sent := traffic.sent ++
        [⟨opcode, (traffic.ws.frameBytes opcode payload compressed).getD []⟩]
      }, none)

end

/-- `writeFrame` once it has read `closeSent`. -/
def writeChecked
    (deflate : Bytes -> Bytes)
    (traffic : Traffic)
    (opcode : Opcode)
    (payload : Bytes) : Traffic × Option WriteFailure :=
  if traffic.ws.compress && opcode.data then
    traffic.sendFrame opcode (deflate payload) true
  else traffic.sendFrame opcode payload false

/-- The next atomic step of a call. -/
def stepCall
    (deflate : Bytes -> Bytes)
    (traffic : Traffic)
    (index : Nat)
    (call : WriteCall) : Option Traffic :=
  match call.stage with
  | .checking reply opcode payload =>
    if traffic.ws.closeSent then
      some (traffic.setStage index call
        (Stage.ofWrite reply (some .closeSent)))
    else
      some (traffic.setStage index call (.sending reply opcode payload))
  | .sending reply opcode payload =>
    let (traffic, failure) := traffic.writeChecked deflate opcode payload
    some (traffic.setStage index call (Stage.ofWrite reply failure))
  | .dropping error =>
    some { traffic.setStage index call (.returned (some error)) with
      ws := { traffic.ws with
        conn := { traffic.ws.conn with isOpen := false } } }
  | .closing payload =>
    if traffic.ws.closeSent then
      some (traffic.setStage index call (.returned none))
    else
      some { traffic.setStage index call
          (if 125 < payload.length then .clearing else .storing payload) with
        ws := { traffic.ws with closeSent := true } }
  | .clearing =>
    some { traffic.setStage index call
        (.returned (some (.write .protocol))) with
      ws := { traffic.ws with closeSent := false } }
  | .storing payload =>
    some { traffic.setStage index call (.sendingClose payload) with
      ws := { traffic.ws with
        closeState := some (Connection.closePayload payload) } }
  | .sendingClose payload =>
    let (traffic, failure) := traffic.sendFrame .close payload false
    some (traffic.setStage index call (Stage.ofClose failure))
  | .shutting =>
    some { traffic.setStage index call (.returned none) with
      ws := { traffic.ws with conn := traffic.ws.conn.closeAfterSend } }
  | .returned _ => none

/-- `serveFrames` returns. -/
def returned (traffic : Traffic) : Traffic :=
  { traffic with
    server := .idle
    parser := traffic.parser.releaseBorrowed }

/-- `serveFrames` calls `sendClose`, its last call. -/
def closeServing
    (traffic : Traffic)
    (payload : Bytes) : Traffic :=
  { traffic.begin (.closing payload) false with
    server := .closing traffic.calls.length }

/-- The payload `closeParserError` sends. -/
def errorPayload (error : FrameError) : Bytes :=
  toBigEndian 2 <|
    match error with
    | .messageTooBig => 1009
    | .invalidPayload => 1007
    | .protocol => 1002

/-- Act on an event of the parser. -/
def dispatch
    (endpoint : Endpoint)
    (traffic : Traffic)
    (event : Event) :
    Traffic :=
  match event.opcode with
  | .text | .binary => { traffic with server := .calling }
  | .ping =>
    if endpoint.handlesPing then { traffic with server := .calling }
    else
      { traffic.begin (.checking true .pong event.payload) true with
        server := .replying traffic.calls.length }
  | .pong =>
    if endpoint.handlesPong then { traffic with server := .calling }
    else { traffic with server := .feeding [] }
  | .close => traffic.closeServing event.payload
  | .continuation => { traffic with server := .feeding [] }

/-- The next step of `serveFrames`. -/
def serve
    (endpoint : Endpoint)
    (traffic : Traffic) : Option Traffic :=
  match traffic.server with
  | .idle | .calling => none
  | .feeding data =>
    match traffic.parser.feedOne endpoint.parser endpoint.flate data true with
    | (parser, .error error) =>
      some ({ traffic with parser := parser }.closeServing
        (errorPayload error))
    | (parser, .ok none) => some { traffic with parser := parser }.returned
    | (parser, .ok (some event)) =>
      some ({ traffic with parser := parser }.dispatch endpoint event)
  | .replying index =>
    match (traffic.calls[index]?).map WriteCall.stage with
    | some (.returned none) => some { traffic with server := .feeding [] }
    | some (.returned (some _)) => some traffic.returned
    | _ => none
  | .closing index =>
    match (traffic.calls[index]?).map WriteCall.stage with
    | some (.returned _) => some traffic.returned
    | _ => none

def step
    (endpoint : Endpoint)
    (traffic : Traffic) :
    TrafficLabel -> Option Traffic
  | .writeMessage opcode payload => some (traffic.writeMessage opcode payload)
  | .ping payload => some (traffic.begin (.checking false .ping payload) true)
  | .pong payload => some (traffic.begin (.checking false .pong payload) true)
  | .replyPing payload =>
    some (traffic.begin (.checking true .pong payload) true)
  | .close code reason => some (traffic.close code reason)
  | .call index =>
    match traffic.calls[index]? with
    | none => none
    | some call => traffic.stepCall endpoint.deflate index call
  | .onData data =>
    if traffic.server = .idle then
      some { traffic with server := .feeding data }
    else none
  | .serve => traffic.serve endpoint
  | .callbackReturns =>
    if traffic.server = .calling then
      some { traffic with server := .feeding [] }
    else none
  | .connectionCloses =>
    some { traffic with ws := { traffic.ws with
      conn := { traffic.ws.conn with isOpen := false } } }

/-- An upgraded connection on which no call has been made. -/
def start (ws : Connection) : Traffic where
  ws := ws

/-! ## At most one close frame -/

/-- The number of close frames sent. -/
def closes (traffic : Traffic) : Nat :=
  traffic.sent.countP SentFrame.isClose

/-- The calls that hold `closeSent`. -/
def holders (traffic : Traffic) : Nat :=
  tally (fun call => call.stage.holding) traffic.calls

theorem any_isClose_iff (traffic : Traffic) :
    traffic.sent.any SentFrame.isClose = true ↔ 0 < traffic.closes := by
  rw [closes, List.countP_pos_iff, List.any_eq_true]

/-- What holds of every call, given the number of close frames sent. -/
structure Proper
    (closes : Nat)
    (call : WriteCall) : Prop where
  plain : call.stage.Plain
  passed : 0 < closes -> ¬call.stage.Passed
  late : call.late = true -> 0 < closes
  refused : call.late = true -> call.writes = true -> call.stage.Refused

/-- The frames sent from a connection whose wire held `before` end with the
only close frame, once it has been sent. -/
structure Orderly
    (before : Bytes)
    (traffic : Traffic) : Prop where
  wire : traffic.ws.conn.wire =
    before ++ (traffic.sent.map SentFrame.bytes).flatten
  genuine : ∀ frame ∈ traffic.sent, frame.Genuine
  alone : traffic.holders + traffic.closes ≤ 1
  marked : 0 < traffic.holders + traffic.closes ->
    traffic.ws.closeSent = true
  last : ∀ index frame, traffic.sent[index]? = some frame ->
    frame.isClose = true -> index + 1 = traffic.sent.length
  calls : ∀ call ∈ traffic.calls, Proper traffic.closes call

section Steps

variable {before : Bytes} {traffic : Traffic}

variable {after : Traffic}

/-- A call that begins holds nothing and has found nothing out; a late write
returns an error or has yet to read `closeSent`. -/
theorem Orderly.begin
    (orderly : traffic.Orderly before)
    (stage : Stage)
    (writes : Bool)
    (idle : stage.holding = 0)
    (plain : stage.Plain)
    (unchecked : ¬stage.Passed)
    (refused : writes = true -> stage.Refused) :
    (traffic.begin stage writes).Orderly before := by
  have holders : (traffic.begin stage writes).holders = traffic.holders := by
    simp [Traffic.holders, Traffic.begin, idle]
  refine ⟨orderly.wire, orderly.genuine, ?_, ?_, orderly.last, ?_⟩
  · rw [holders]
    exact orderly.alone
  · rw [holders]
    exact orderly.marked
  intro call member
  rcases List.mem_append.mp member with old | new
  · exact orderly.calls call old
  · obtain rfl := List.mem_singleton.mp new
    exact ⟨plain, fun _ => unchecked, traffic.any_isClose_iff.mp, fun _ => refused⟩

variable {call : WriteCall}

section

variable (orderly : traffic.Orderly before)
include orderly

/-- A call moves on, and nothing is sent. -/
theorem Orderly.move
    (here : traffic.calls[index]? = some call)
    {stage : Stage}
    (wire : after.ws.conn.wire = traffic.ws.conn.wire)
    (calls : after.calls = traffic.calls.set index { call with stage := stage })
    (sent : after.sent = traffic.sent)
    (balanced : ∀ others, traffic.holders = call.stage.holding + others ->
      others + stage.holding + traffic.closes ≤ 1 ∧ (0 < others + stage.holding + traffic.closes ->
          after.ws.closeSent = true))
    (proper : Proper traffic.closes { call with stage := stage }) :
    after.Orderly before := by
  have moved := tally_set (fun call : WriteCall => call.stage.holding) here
    { call with stage := stage }
  have share := weight_le_tally (fun call : WriteCall => call.stage.holding) here
  obtain ⟨others, split⟩ := Nat.exists_eq_add_of_le share
  have balance := balanced others split
  have closes : after.closes = traffic.closes := by
    rw [Traffic.closes, Traffic.closes, sent]
  have holders : after.holders = others + stage.holding := by
    rw [Traffic.holders, calls]
    dsimp only at moved
    omega
  refine ⟨?_, ?_, ?_, ?_, ?_, ?_⟩
  · rw [wire, sent]
    exact orderly.wire
  · rw [sent]
    exact orderly.genuine
  · rw [holders, closes]
    exact balance.1
  · rw [holders, closes]
    exact balance.2
  · rw [sent]
    exact orderly.last
  rw [calls, closes]
  intro other member
  rcases List.mem_or_eq_of_mem_set member with old | rfl
  · exact orderly.calls other old
  · exact proper

/-- A call moves on to a stage that holds no more. -/
theorem Orderly.release
    (here : traffic.calls[index]? = some call)
    {stage : Stage}
    (wire : after.ws.conn.wire = traffic.ws.conn.wire)
    (calls : after.calls = traffic.calls.set index { call with stage := stage })
    (sent : after.sent = traffic.sent)
    (closeSent : after.ws.closeSent = traffic.ws.closeSent)
    (less : stage.holding ≤ call.stage.holding)
    (proper : Proper traffic.closes { call with stage := stage }) :
    after.Orderly before := by
  have alone := orderly.alone
  refine orderly.move here wire calls sent
    (fun others split => ⟨by omega, fun positive => ?_⟩) proper
  exact closeSent.trans (orderly.marked (by omega))

/-- The connection accepts a frame, and no close frame has been sent. -/
theorem Orderly.log
    (wire : after.ws.conn.wire = traffic.ws.conn.wire ++ frame.bytes)
    (closeSent : after.ws.closeSent = traffic.ws.closeSent)
    (calls : after.calls = traffic.calls)
    (sent : after.sent = traffic.sent ++ [frame])
    (genuine : frame.Genuine)
    (first : traffic.closes = 0)
    (plain : frame.isClose = false) :
    after.Orderly before := by
  have none : after.closes = 0 := by
    rw [closes, sent, List.countP_append, List.countP_singleton, plain]
    exact first
  have holders : after.holders = traffic.holders := by
    rw [Traffic.holders, Traffic.holders, calls]
  refine ⟨?_, ?_, ?_, ?_, ?_, ?_⟩
  · rw [wire, orderly.wire, sent]
    simp
  · rw [sent, List.forall_mem_append, List.forall_mem_singleton]
    exact ⟨orderly.genuine, genuine⟩
  · rw [holders, none]
    exact Nat.le_trans (Nat.le_add_right _ _) orderly.alone
  · intro positive
    rw [holders, none] at positive
    exact closeSent.trans (orderly.marked (Nat.lt_of_lt_of_le positive (Nat.le_add_right _ _)))
  · intro index other found close
    have member := List.mem_of_getElem? found
    exact absurd close (List.countP_eq_zero.mp none other member)
  · rw [calls, none, ← first]
    exact orderly.calls

/-- The connection accepts the close frame: it is the first, its sender was
the only holder, and no call is about to send. -/
theorem Orderly.logClose
    (here : traffic.calls[index]? = some call)
    (holding : call.stage.holding = 1)
    (wire : after.ws.conn.wire = traffic.ws.conn.wire ++ bytes)
    (closeSent : after.ws.closeSent = traffic.ws.closeSent)
    (calls : after.calls = traffic.calls.set index { call with stage := .shutting })
    (sent : after.sent = traffic.sent ++ [⟨.close, bytes⟩])
    (genuine : SentFrame.Genuine ⟨.close, bytes⟩)
    (undisturbed : ∀ call ∈ traffic.calls, ¬call.stage.Passed) :
    after.Orderly before := by
  have moved := tally_set (fun call : WriteCall => call.stage.holding) here
    { call with stage := .shutting }
  have share := weight_le_tally (fun call : WriteCall => call.stage.holding) here
  have alone := orderly.alone
  have done : (Stage.shutting).holding = 0 := rfl
  have first : traffic.closes = 0 := by
    rw [holders] at alone
    omega
  have free : after.holders = 0 := by
    rw [holders] at alone ⊢
    rw [calls]
    dsimp only at moved
    omega
  have one : after.closes = 1 := by
    rw [closes, sent, List.countP_append]
    exact congrArg (· + 1) first
  refine ⟨?_, ?_, ?_, ?_, ?_, ?_⟩
  · rw [wire, orderly.wire, sent]
    simp
  · rw [sent, List.forall_mem_append, List.forall_mem_singleton]
    exact ⟨orderly.genuine, genuine⟩
  · rw [free, one]
  · intro _
    refine closeSent.trans (orderly.marked ?_)
    rw [holders]
    omega
  · intro position other found close
    rw [sent, List.getElem?_append] at found
    split at found
    · have member := List.mem_of_getElem? found
      exact absurd close (List.countP_eq_zero.mp first other member)
    · have bound := (List.getElem?_eq_some_iff.mp found).1
      rw [List.length_singleton] at bound
      rw [sent, List.length_append, List.length_singleton]
      omega
  rw [calls, one]
  intro other member
  rcases List.mem_or_eq_of_mem_set member with old | rfl
  · have proper := orderly.calls other old
    exact ⟨proper.plain, fun _ => undisturbed other old, fun _ => Nat.one_pos, proper.refused⟩
  have proper := orderly.calls call (List.mem_of_getElem? here)
  refine ⟨trivial, fun _ => not_false, fun _ => Nat.one_pos, ?_⟩
  intro late writes
  have positive := proper.late late
  omega

end

/-- A frame is accepted and logged, or refused. -/
theorem sendFrame_cases
    (traffic : Traffic)
    (opcode : Opcode)
    (payload : Bytes)
    (compressed : Bool) :
    (∃ ws failure,
      traffic.sendFrame opcode payload compressed = ({ traffic with ws := ws }, some failure) ∧
      ws.conn.wire = traffic.ws.conn.wire ∧
      ws.closeSent = traffic.ws.closeSent) ∨
    ∃ ws bytes,
      traffic.sendFrame opcode payload compressed =
        ({ traffic with ws := ws, sent := traffic.sent ++ [⟨opcode, bytes⟩] }, none) ∧
      ws.conn.wire = traffic.ws.conn.wire ++ bytes ∧
      ws.closeSent = traffic.ws.closeSent ∧
      SentFrame.Genuine ⟨opcode, bytes⟩ := by
  have spec := traffic.ws.sendFrame_spec opcode payload compressed
  unfold Traffic.sendFrame
  rcases sent : traffic.ws.sendFrame opcode payload compressed with
    ⟨ws, failure⟩
  rw [sent] at spec
  obtain ⟨closeSent, ⟨accepted, bytes, made, wire⟩ | ⟨failed, wire⟩⟩ := spec
  · obtain rfl : failure = none := accepted
    refine .inr ⟨ws, bytes, ?_, wire, closeSent, Connection.frameBytes_genuine made⟩
    rw [made]
    rfl
  · obtain ⟨failure, rfl⟩ := Option.ne_none_iff_exists'.mp failed
    exact .inl ⟨ws, failure, rfl, wire, closeSent⟩

theorem exists_writeChecked_eq
    (traffic : Traffic)
    (deflate : Bytes -> Bytes)
    (opcode : Opcode)
    (payload : Bytes) :
    ∃ written compressed,
      traffic.writeChecked deflate opcode payload =
        traffic.sendFrame opcode written compressed := by
  unfold writeChecked
  split
  · exact ⟨_, _, rfl⟩
  · exact ⟨_, _, rfl⟩

theorem Proper.restage
    {closes : Nat}
    (proper : Proper closes call)
    {stage : Stage}
    (plain : stage.Plain)
    (unchecked : ¬stage.Passed)
    (refused : call.stage.Refused -> stage.Refused) :
    Proper closes { call with stage := stage } :=
  ⟨plain, fun _ => unchecked, proper.late, fun late writes => refused (proper.refused late writes)⟩

/-- A call that has found `closeSent` unset sends its frame. -/
theorem Orderly.sendPassed
    (orderly : traffic.Orderly before)
    (here : traffic.calls[index]? = some call)
    {data payload : Bytes}
    (stage : call.stage = .sending reply opcode data)
    (compressed : Bool) :
    let result := traffic.sendFrame opcode payload compressed
    (result.1.setStage index call (Stage.ofWrite reply result.2)).Orderly before := by
  intro result
  have proper := orderly.calls call (List.mem_of_getElem? here)
  have plain : opcode ≠ .close := by
    have plain := proper.plain
    rw [stage] at plain
    exact plain
  have first : traffic.closes = 0 := by
    refine Nat.eq_zero_of_not_pos fun positive => ?_
    have passed := proper.passed positive
    rw [stage] at passed
    exact passed trivial
  -- Its stage says that it is not a late write, so any stage will do.
  have settled (stage' : Stage) (plain : stage'.Plain) (unchecked : ¬stage'.Passed) :
      Proper traffic.closes { call with stage := stage' } := by
    refine proper.restage plain unchecked fun refused => ?_
    rw [stage] at refused
    exact refused.elim
  rcases traffic.sendFrame_cases opcode payload compressed with
    ⟨ws, failure, sent, wire, closeSent⟩ |
    ⟨ws, bytes, sent, wire, closeSent, genuine⟩
  · have result_eq : result = _ := sent
    rw [result_eq]
    refine orderly.release here wire rfl rfl closeSent ?_ (settled _ ?_ ?_)
    · cases reply <;> exact Nat.zero_le _
    · cases reply <;> trivial
    · cases reply <;> exact not_false
  have result_eq : result = _ := sent
  rw [result_eq]
  have logged : Orderly before
      { traffic with
        ws := ws
        sent := traffic.sent ++ [⟨opcode, bytes⟩] } :=
    orderly.log wire closeSent rfl rfl genuine first
      (beq_eq_false_iff_ne.mpr plain)
  have still : Traffic.closes
      { traffic with
        ws := ws
        sent := traffic.sent ++ [⟨opcode, bytes⟩] } = traffic.closes := by
    rw [Traffic.closes, List.countP_append, List.countP_singleton,
      if_neg (by simpa [SentFrame.isClose] using plain)]
    rfl
  refine logged.release here rfl rfl rfl rfl (Nat.zero_le _) ?_
  rw [still]
  exact settled _ trivial not_false

end Steps

/-- No close frame is sent while another call is between reading `closeSent`
and sending its frame. -/
def Undisturbed (traffic : Traffic) : TrafficLabel -> Prop
  | .call index => ∀ call ∈ traffic.calls[index]?,
      call.stage.sendsClose = true ->
        ∀ other ∈ traffic.calls, ¬other.stage.Passed
  | _ => True

instance (traffic : Traffic) :
    (label : TrafficLabel) -> Decidable (traffic.Undisturbed label)
  | .call index => inferInstanceAs (Decidable (∀ call ∈ traffic.calls[index]?,
      call.stage.sendsClose = true ->
        ∀ other ∈ traffic.calls, ¬other.stage.Passed))
  | .writeMessage _ _ | .ping _ | .pong _ | .replyPing _ | .close _ _
  | .onData _ | .serve | .callbackReturns | .connectionCloses =>
    .isTrue trivial

variable {before : Bytes} {traffic after : Traffic}

theorem Orderly.stepCall
    (orderly : traffic.Orderly before)
    {call : WriteCall}
    (here : traffic.calls[index]? = some call)
    (undisturbed : traffic.Undisturbed (.call index))
    (taken : traffic.stepCall deflate index call = some after) :
    after.Orderly before := by
  have proper := orderly.calls call (List.mem_of_getElem? here)
  have alone := orderly.alone
  have marked := orderly.marked
  unfold Traffic.stepCall at taken
  split at taken
  case h_1 reply opcode payload stage =>
    split at taken
    · cases taken
      refine orderly.release here rfl rfl rfl rfl ?_ ?_
      · cases reply <;> exact Nat.zero_le _
      · cases reply <;> exact proper.restage trivial not_false fun _ => trivial
    next unset =>
    cases taken
    have first : traffic.holders + traffic.closes = 0 :=
      Nat.eq_zero_of_not_pos fun positive => unset (marked positive)
    refine orderly.move here rfl rfl rfl ?_ ?_
    · have free : (Stage.sending reply opcode payload).holding = 0 := rfl
      omega
    have plain := proper.plain
    rw [stage] at plain
    refine ⟨plain, fun positive => ?_, proper.late, fun late _ => ?_⟩
    · omega
    · have positive := proper.late late
      omega
  case h_2 reply opcode payload stage =>
    obtain ⟨written, compressed, same⟩ :=
      traffic.exists_writeChecked_eq deflate opcode payload
    rw [same] at taken
    obtain rfl := Option.some.inj taken
    exact orderly.sendPassed here stage compressed
  case h_3 error stage =>
    cases taken
    exact orderly.release here rfl rfl rfl rfl (Nat.zero_le _)
      (proper.restage trivial not_false fun _ => trivial)
  case h_4 payload stage =>
    have unrefused : ¬call.stage.Refused := by
      rw [stage]
      exact not_false
    split at taken
    · cases taken
      exact orderly.release here rfl rfl rfl rfl (Nat.zero_le _)
        (proper.restage trivial not_false fun refused => absurd refused unrefused)
    next unset =>
    cases taken
    have first : traffic.holders + traffic.closes = 0 :=
      Nat.eq_zero_of_not_pos fun positive => unset (marked positive)
    refine orderly.move here rfl rfl rfl ?_ ?_
    · intro others split
      refine ⟨?_, fun _ => rfl⟩
      have held : (if 125 < payload.length then Stage.clearing
          else .storing payload).holding = 1 := by
        split <;> rfl
      omega
    · refine proper.restage ?_ ?_ fun refused => absurd refused unrefused
      · split <;> trivial
      · split <;> exact not_false
  case h_5 stage =>
    cases taken
    refine orderly.move here rfl rfl rfl ?_ ?_
    · intro others split
      rw [stage] at split
      have held : Stage.clearing.holding = 1 := rfl
      have free : (Stage.returned (some (.write .protocol))).holding = 0 := rfl
      exact ⟨by omega, fun positive => by omega⟩
    · exact proper.restage trivial not_false fun _ => trivial
  case h_6 payload stage =>
    cases taken
    refine orderly.release here rfl rfl rfl rfl ?_
      (proper.restage trivial not_false fun refused => ?_)
    · rw [stage]
      rfl
    · rw [stage] at refused
      exact refused.elim
  case h_7 payload stage =>
    have sends : call.stage.sendsClose = true := by
      rw [stage]
      rfl
    have unrefused : ¬call.stage.Refused := by
      rw [stage]
      exact not_false
    have held : call.stage.holding = 1 := by
      rw [stage]
      rfl
    rcases traffic.sendFrame_cases .close payload false with
      ⟨ws, failure, sent, wire, closeSent⟩ |
      ⟨ws, bytes, sent, wire, closeSent, genuine⟩
    · rw [sent] at taken
      cases taken
      exact orderly.release here wire rfl rfl closeSent (Nat.zero_le _)
        (proper.restage trivial not_false fun refused => absurd refused unrefused)
    · rw [sent] at taken
      cases taken
      exact orderly.logClose here held wire closeSent rfl rfl genuine (undisturbed call here sends)
  case h_8 stage =>
    cases taken
    refine orderly.release here rfl rfl rfl rfl (Nat.zero_le _)
      (proper.restage trivial not_false fun refused => ?_)
    rw [stage] at refused
    exact refused.elim
  case h_9 => cases taken

variable {traffic : Traffic}

section

variable (orderly : traffic.Orderly before)
include orderly

theorem Orderly.writeMessage
    (opcode : Opcode)
    (payload : Bytes) :
    (traffic.writeMessage opcode payload).Orderly before := by
  unfold Traffic.writeMessage
  split
  · exact orderly.begin _ _ rfl trivial not_false fun _ => trivial
  next data =>
  split
  · exact orderly.begin _ _ rfl trivial not_false fun _ => trivial
  · refine orderly.begin _ _ rfl ?_ not_false fun _ => trivial
    rintro rfl
    exact data ⟨nofun, nofun⟩

theorem Orderly.close
    (code : Nat)
    (reason : Bytes) :
    (traffic.close code reason).Orderly before := by
  unfold Traffic.close
  split
  · exact orderly.begin _ _ rfl trivial not_false nofun
  · split
    · exact orderly.begin _ _ rfl trivial not_false nofun
    · exact orderly.begin _ _ rfl trivial not_false nofun

theorem Orderly.closeServing (payload : Bytes) :
    (traffic.closeServing payload).Orderly before :=
  { orderly.begin (.closing payload) false rfl trivial not_false nofun with }

theorem Orderly.dispatch
    (endpoint : Endpoint)
    (event : Event) :
    (traffic.dispatch endpoint event).Orderly before := by
  unfold Traffic.dispatch
  split
  · exact { orderly with }
  · exact { orderly with }
  · split
    · exact { orderly with }
    · have begun := orderly.begin (.checking true .pong event.payload) true
        rfl nofun not_false fun _ => trivial
      exact { begun with }
  · split
    · exact { orderly with }
    · exact { orderly with }
  · exact orderly.closeServing event.payload
  · exact { orderly with }

theorem Orderly.serve (taken : traffic.serve endpoint = some after) :
    after.Orderly before := by
  have parsed (parser : Parser) : Orderly before { traffic with parser := parser } :=
    { orderly with }
  unfold Traffic.serve at taken
  split at taken
  · cases taken
  · cases taken
  · split at taken
    · cases taken
      exact (parsed _).closeServing _
    · cases taken
      exact { orderly with }
    · cases taken
      exact (parsed _).dispatch endpoint _
  · split at taken
    · cases taken
      exact { orderly with }
    · cases taken
      exact { orderly with }
    · cases taken
  · split at taken
    · cases taken
      exact { orderly with }
    · cases taken

theorem Orderly.step
    (undisturbed : traffic.Undisturbed label)
    (taken : traffic.step endpoint label = some after) :
    after.Orderly before := by
  cases label with
  | writeMessage opcode payload =>
    cases taken
    exact orderly.writeMessage opcode payload
  | ping payload | pong payload | replyPing payload =>
    cases taken
    exact orderly.begin _ _ rfl nofun not_false fun _ => trivial
  | close code reason =>
    cases taken
    exact orderly.close code reason
  | call index =>
    simp only [Traffic.step] at taken
    split at taken
    · cases taken
    · next call here => exact orderly.stepCall here undisturbed taken
  | serve => exact orderly.serve taken
  | onData data | callbackReturns =>
    simp only [Traffic.step] at taken
    split at taken
    · cases taken
      exact { orderly with }
    · cases taken
  | connectionCloses =>
    cases taken
    exact { orderly with }

end

theorem Orderly.initial (ws : Connection) :
    (start ws).Orderly ws.conn.wire where
  wire := (List.append_nil _).symm
  genuine := nofun
  alone := Nat.zero_le 1
  marked := nofun
  last := nofun
  calls := nofun

/-- Where no close frame is sent while another call is about to send, the bytes
handed to the connection are those of frames of which at most one is a close
frame, no frame follows it, and every write that begins after it returns an
error. -/
theorem nothing_follows_the_close_frame
    (endpoint : Endpoint)
    (ws : Connection)
    (labels : List TrafficLabel)
    (traffic : Traffic)
    (undisturbed : Transition.Meets (step endpoint) Undisturbed (start ws) labels)
    (reached : Transition.run (step endpoint) (start ws) labels = some traffic) :
    traffic.ws.conn.wire = ws.conn.wire ++ (traffic.sent.map SentFrame.bytes).flatten ∧
      (∀ frame ∈ traffic.sent, frame.Genuine) ∧
      traffic.sent.countP SentFrame.isClose ≤ 1 ∧
      (∀ index frame, traffic.sent[index]? = some frame ->
        frame.isClose = true -> index + 1 = traffic.sent.length) ∧
      ∀ call ∈ traffic.calls, call.late = true -> call.writes = true ->
        ∀ error, call.stage = .returned error -> error ≠ none := by
  have orderly : traffic.Orderly ws.conn.wire :=
    Transition.run_invariant_of_meets
      (fun _ _ _ orderly => orderly.step) (.initial ws) undisturbed reached
  refine ⟨orderly.wire, orderly.genuine, ?_, orderly.last, ?_⟩
  · exact Nat.le_trans (Nat.le_add_left _ _) orderly.alone
  · rintro call member late writes error returned rfl
    have refused := (orderly.calls call member).refused late writes
    rw [returned] at refused
    exact refused

/-- A message, a ping and a close handshake begun here; a ping begins once the
close frame has been sent. -/
def closedHere : List TrafficLabel :=
  [.writeMessage .text (ascii "a"), .call 0, .call 0,
    .close 1000 [], .call 1, .call 1, .call 1,
    .ping [], .call 2, .call 1]

def closedTraffic : Traffic :=
  (Transition.run (step Socket.sampleEndpoint) (start { conn := {} })
    closedHere).getD (start { conn := {} })

theorem nothing_follows_the_close_frame_closed :
    closedTraffic.ws.conn.wire = [0x81, 1, 97, 0x88, 2, 3, 232] ∧
      closedTraffic.calls.map WriteCall.late = [false, false, true] ∧
      closedTraffic.sent.countP SentFrame.isClose ≤ 1 := by
  refine ⟨by decide, by decide, ?_⟩
  exact (nothing_follows_the_close_frame Socket.sampleEndpoint { conn := {} }
    closedHere closedTraffic (by decide) rfl).2.2.1

/-- A ping that has found `closeSent` unset is sent behind the close frame,
before the connection is asked to close. -/
theorem ping_follows_the_close_frame :
    (Transition.run (step Socket.sampleEndpoint) (start { conn := {} })
      [.ping [], .call 0, .close 1000 [], .call 1, .call 1, .call 1, .call 0,
        .call 1]).map (fun traffic =>
          (traffic.sent.map SentFrame.opcode, traffic.calls.map WriteCall.stage)) =
      some ([.close, .ping], [.returned none, .returned none]) := by
  decide

end Traffic
end Websocket
end Fib
