import Fib.Http.Writer
import Fib.Library.Transition
import Fib.Websocket.Parser

/-!
# Serving frames

`serveFrames` hands the bytes of one read to the parser and acts on every frame
they complete.  A close frame, and an error of the parser, send a close frame
and make it return; the connection is then closed when its output has been
sent.  Until then the read loop may hand over further bytes.
-/

namespace Fib
namespace Websocket

/-! ## Writing -/

/-- Why a frame is not written. -/
inductive WriteFailure where
  | protocol
  | closeSent
  | connection
deriving DecidableEq, Repr

/-- `Connection`, with the keys `rand.Uint32` yields for the frames of a
client. -/
structure Connection where
  conn : Http.Conn
  client : Bool := false
  compress : Bool := false
  closeSent : Bool := false
  closeState : Option (Nat × Bytes) := none
  maskKeys : List Bytes := []

/-- A number in big-endian bytes. -/
def toBigEndian (count number : Nat) : Bytes :=
  (List.range count).reverse.map fun place =>
    (number / 256 ^ place % 256).toUInt8

/-- `frameHeader`. -/
def frameHeader
    (opcode : Opcode)
    (payloadLen : Nat) : Option Bytes :=
  if opcode = .continuation ∨ (opcode.control = true ∧ 125 < payloadLen) then
    none
  else if payloadLen < 126 then
    some [0x80 ||| opcode.encode, payloadLen.toUInt8]
  else if payloadLen ≤ 65535 then
    some ([0x80 ||| opcode.encode, 126] ++ toBigEndian 2 payloadLen)
  else some ([0x80 ||| opcode.encode, 127] ++ toBigEndian 8 payloadLen)

/-- Set bits of the byte at a position. -/
def setBits
    (bytes : Bytes)
    (position : Nat)
    (bits : UInt8) : Bytes :=
  bytes.modify position (· ||| bits)

namespace Connection

/-- `sendFrame`. -/
def sendFrame
    (ws : Connection)
    (opcode : Opcode)
    (payload : Bytes)
    (compressed : Bool) : Connection × Option WriteFailure :=
  match frameHeader opcode payload.length with
  | none => (ws, some .protocol)
  | some header =>
    let header := if compressed then setBits header 0 0x40 else header
    let mask := ws.maskKeys.headD [0, 0, 0, 0]
    let frame :=
      if ws.client then setBits header 1 0x80 ++ mask ++ applyMask mask payload
      else header ++ payload
    let (conn, failure) := ws.conn.send frame
    ({ ws with
        conn := conn
        maskKeys := if ws.client then ws.maskKeys.tail else ws.maskKeys },
      failure.map fun _ => .connection)

/-- `writeFrame`, with what `compressMessage` makes of a payload. -/
def writeFrame
    (deflate : Bytes -> Bytes)
    (ws : Connection)
    (opcode : Opcode)
    (payload : Bytes) : Connection × Option WriteFailure :=
  if ws.closeSent then (ws, some .closeSent)
  else if ws.compress && opcode.data then
    ws.sendFrame opcode (deflate payload) true
  else ws.sendFrame opcode payload false

/-- `closePayload`. -/
def closePayload (payload : Bytes) : Nat × Bytes :=
  if payload.length < 2 then (1000, [])
  else (bigEndian (payload.take 2), payload.drop 2)

/-- `sendClose`. -/
def sendClose
    (ws : Connection)
    (payload : Bytes) :
    Connection × Option WriteFailure :=
  if ws.closeSent then (ws, none)
  else if 125 < payload.length then (ws, some .protocol)
  else
    match { ws with
        closeSent := true
        closeState := some (closePayload payload) }.sendFrame .close payload
        false with
    | (ws, some failure) => (ws, some failure)
    | (ws, none) => ({ ws with conn := ws.conn.closeAfterSend }, none)

/-- `replyPing`: a connection that cannot send a pong is closed. -/
def replyPing
    (deflate : Bytes -> Bytes)
    (ws : Connection)
    (payload : Bytes) :
    Connection × Bool :=
  match ws.writeFrame deflate .pong payload with
  | (ws, some _) => ({ ws with conn := { ws.conn with isOpen := false } }, false)
  | (ws, none) => (ws, true)

/-- `closeParserError`. -/
def closeParserError
    (ws : Connection)
    (error : FrameError) : Connection :=
  let code :=
    match error with
    | .messageTooBig => 1009
    | .invalidPayload => 1007
    | .protocol => 1002
  (ws.sendClose (toBigEndian 2 code)).1

end Connection

/-! ## Reading -/

/-- One side of a connection: the parser's configuration, the optional
interfaces of the handler, and DEFLATE. -/
structure Endpoint where
  parser : ParserConfig
  handlesPing : Bool
  handlesPong : Bool
  flate : Flate
  deflate : Bytes -> Bytes

/-- An upgraded connection with its read loop. -/
structure Socket where
  ws : Connection
  parser : Parser := {}
  /-- The connection's state is still attached to it. -/
  attached : Bool := true
  /-- `serveFrames` is about to feed these bytes. -/
  feeding : Option Bytes := none
  /-- A callback of the handler is running. -/
  calling : Bool := false
  /-- A close frame has been handled, or an error of the parser reported. -/
  ended : Bool := false
  delivered : List Event := []
  /-- A callback was invoked after the end. -/
  deliveredLate : Bool := false

/-- What can happen on the connection. -/
inductive SocketEvent where
  /-- The read loop hands over what it has read. -/
  | onData (data : Bytes)
  /-- `serveFrames` calls `FeedOneBorrowed` and acts on the result. -/
  | feed
  | callbackReturns
  | callbackPanics
  /-- A goroutine of the application writes a frame. -/
  | write (opcode : Opcode) (payload : Bytes)
  /-- A goroutine of the application sends a close frame. -/
  | sendClose (payload : Bytes)
  /-- The connection is asked to close. -/
  | close
  | onClose

/-! ## Frames that no callback takes -/

/-- Where the frame at the start of bytes ends, once its header is there. -/
def frameEnd (bytes : Bytes) : Option Nat :=
  let headerSize := frameHeaderSize bytes
  if bytes.length < headerSize then none
  else
    let short := (bytes.getD 1 0 &&& 0x7f).toNat
    some (headerSize +
      if short = 126 then bigEndian ((bytes.drop 2).take 2)
      else if short = 127 then bigEndian ((bytes.drop 2).take 8)
      else short)

/-- No complete frame among the bytes is one that a callback takes: a frame of
a message, or a ping or a pong that the handler takes.  Frames behind a close
frame, or behind one that the parser refuses, are not looked at.  Every frame
has two bytes, so as much fuel as there are bytes is enough. -/
def silent (handlesPing handlesPong : Bool) : Nat -> Bytes -> Bool
  | 0, _ => true
  | fuel + 1, bytes =>
    match frameEnd bytes with
    | none => true
    | some stop =>
      if bytes.length < stop then true
      else
        match Opcode.decode (bytes.headD 0) with
        | some .ping => !handlesPing && silent handlesPing handlesPong fuel (bytes.drop stop)
        | some .pong => !handlesPong && silent handlesPing handlesPong fuel (bytes.drop stop)
        | some .close | none => true
        | some _ => false

theorem frameEnd_append
    (known : frameEnd bytes = some stop)
    (later : Bytes) :
    frameEnd (bytes ++ later) = some stop ∧ 2 ≤ stop := by
  match bytes with
  | [] | [_] => simp [frameEnd, frameHeaderSize] at known
  | first :: second :: rest =>
    simp only [frameEnd, frameHeaderSize, List.cons_append, List.length_cons, List.length_append,
      List.getD_cons_succ, List.getD_cons_zero, List.drop_succ_cons, List.drop_zero] at known ⊢
    generalize isSize : (if second &&& 0x80 ≠ 0 then 6 else 2 : Nat) = size at known ⊢
    have two : 2 ≤ size := by
      rw [← isSize]
      split <;> decide
    generalize (second &&& 0x7f).toNat = short at known ⊢
    by_cases medium : short = 126
    · subst medium
      simp only [if_true, Option.ite_none_left_eq_some, Nat.not_lt, Option.some.injEq] at known ⊢
      rw [List.take_append_of_le_length (by omega)]
      omega
    by_cases long : short = 127
    · subst long
      simp only [medium, if_true, if_false, Option.ite_none_left_eq_some, Nat.not_lt,
        Option.some.injEq] at known ⊢
      rw [List.take_append_of_le_length (by omega)]
      omega
    simp only [medium, long, if_false, Option.ite_none_left_eq_some, Nat.not_lt,
      Option.some.injEq] at known ⊢
    omega

theorem decode_of_checkFirst
    (checked : Parser.checkFirst config parser first second = .ok opcode) :
    Opcode.decode first = some opcode := by
  unfold Parser.checkFirst at checked
  dsimp only at checked
  split at checked
  · cases checked
  · next found =>
    split_ifs at checked
    cases checked
    exact found

/-- The length that the head of a frame gives, as `frameEnd` reads it. -/
theorem frameHeaderSize_of_payloadLength
    {first second : UInt8}
    {rest : Bytes}
    {length offset : Nat}
    (isLength : Parser.payloadLength (first :: second :: rest) second =
      .ok (some (length, offset))) :
    frameHeaderSize (first :: second :: rest) =
        offset + (if second &&& 0x80 ≠ 0 then 4 else 0) ∧
      (if (second &&& 0x7f).toNat = 126 then bigEndian (rest.take 2)
        else if (second &&& 0x7f).toNat = 127 then bigEndian (rest.take 8)
        else (second &&& 0x7f).toNat) = length ∧
      offset ≤ (first :: second :: rest).length := by
  unfold Parser.payloadLength at isLength
  rw [frameHeaderSize]
  generalize (second &&& 0x7f).toNat = short at isLength ⊢
  by_cases medium : short = 126
  · subst medium
    simp only [List.drop_succ_cons, List.drop_zero] at isLength ⊢
    split_ifs at isLength ⊢ <;> cases isLength <;> simp_all
  by_cases long : short = 127
  · subst long
    simp only [List.drop_succ_cons, List.drop_zero] at isLength ⊢
    split_ifs at isLength ⊢ <;> cases isLength <;> simp_all
  simp only [medium, long, if_false] at isLength ⊢
  cases isLength
  split_ifs <;> simp

theorem frameEnd_of_frameHead
    {parser : Parser}
    (parsed : parser.frameHead config = .ok (some head)) :
    frameEnd parser.buffer = some (head.offset + head.payloadLen) ∧
      Opcode.decode (parser.buffer.headD 0) = some head.opcode ∧
      head.offset ≤ parser.buffer.length := by
  unfold Parser.frameHead at parsed
  split at parsed
  swap
  · cases parsed
  next first second rest isBuffer =>
  split at parsed
  · cases parsed
  next opcode checked =>
  have decoded := decode_of_checkFirst checked
  split at parsed
  · cases parsed
  · cases parsed
  next length offset isLength =>
  rw [isBuffer] at parsed isLength ⊢
  obtain ⟨header, sameLength, enough⟩ := frameHeaderSize_of_payloadLength isLength
  rw [frameEnd, header]
  simp only [List.getD_cons_succ, List.getD_cons_zero, List.drop_succ_cons, List.drop_zero,
    sameLength, List.headD_cons]
  dsimp only at parsed
  split at parsed
  · cases parsed
  split at parsed
  · cases parsed
  split at parsed
  · next unmasked =>
    cases parsed
    simpa [unmasked, decoded] using enough
  · next masked =>
    split at parsed
    · cases parsed
    next whole =>
    cases parsed
    simp only [ne_eq, masked, not_false_eq_true, if_true, decoded, true_and]
    exact ⟨if_neg whole, Nat.not_lt.mp whole⟩

theorem takeControl_eq_ok
    {parser : Parser}
    (taken : parser.takeControl head payload borrowed = .ok result) :
    result = (parser.finishFrame (head.offset + head.payloadLen) borrowed,
      .emitted ⟨head.opcode, payload⟩) := by
  unfold Parser.takeControl at taken
  split at taken
  · cases taken
  split at taken
  · cases taken
  · exact (Except.ok.inj taken).symm

/-- What `next` makes of the frame at the head of the buffer: nothing while it
is incomplete; a control frame becomes an event and is dropped with the next
call. -/
theorem next_eq_ok
    {parser after : Parser}
    (taken : parser.next config flate true = .ok (after, parsed)) :
    (parsed = .incomplete ∧ after.buffer = parser.buffer ∧
        after.borrowedTail = parser.borrowedTail) ∨
      ∃ stop opcode, frameEnd parser.buffer = some stop ∧ stop ≤ parser.buffer.length ∧
        Opcode.decode (parser.buffer.headD 0) = some opcode ∧
        (opcode.control = true -> (∃ payload, parsed = .emitted ⟨opcode, payload⟩) ∧
          after.pendingConsume = stop ∧
          after.buffer.drop stop = parser.buffer.drop stop ∧
          after.borrowedTail = parser.borrowedTail) := by
  unfold Parser.next at taken
  split at taken
  · cases taken
  · cases taken
    exact .inl ⟨rfl, rfl, rfl⟩
  next head isHead =>
  obtain ⟨isEnd, decoded, inside⟩ := frameEnd_of_frameHead isHead
  dsimp only at taken
  split at taken
  · left
    split at taken
    · split at taken
      · cases taken
      next checked isChecked =>
      cases taken
      unfold Parser.checkPartialText at isChecked
      split at isChecked
      · cases isChecked
        exact ⟨rfl, rfl, rfl⟩
      · obtain ⟨text, -, rfl⟩ := Option.map_eq_some_iff.mp isChecked
        exact ⟨rfl, rfl, rfl⟩
    · cases taken
      exact ⟨rfl, rfl, rfl⟩
  next whole =>
  refine .inr ⟨_, _, isEnd, by omega, decoded, fun control => ?_⟩
  rw [if_pos control] at taken
  cases takeControl_eq_ok taken
  refine ⟨⟨_, rfl⟩, rfl, List.drop_left' ?_, rfl⟩
  rw [List.length_append, List.length_take, Nat.min_eq_left inside]
  have raw : ((parser.buffer.drop head.offset).take head.payloadLen).length =
      head.payloadLen := by
    rw [List.length_take, List.length_drop]
    omega
  split
  · rw [raw]
  · rw [applyMask, List.length_map, List.length_zipIdx, raw]

/-- The bytes a parser has not taken a frame from. -/
def Parser.unread (parser : Parser) : Bytes :=
  parser.buffer.drop parser.pendingConsume ++ parser.borrowedTail

theorem silent_fuel
    (enough : bytes.length ≤ fuel)
    (more : bytes.length ≤ fuel') :
    silent handlesPing handlesPong fuel bytes = silent handlesPing handlesPong fuel' bytes := by
  induction fuel generalizing fuel' bytes with
  | zero =>
    obtain rfl := List.eq_nil_of_length_eq_zero (Nat.le_zero.mp enough)
    cases fuel' <;> rfl
  | succ fuel ih =>
    cases fuel' with
    | zero =>
      obtain rfl := List.eq_nil_of_length_eq_zero (Nat.le_zero.mp more)
      rfl
    | succ fuel' =>
      rw [silent, silent]
      cases known : frameEnd bytes with
      | none => rfl
      | some stop =>
        have two := (frameEnd_append known []).2
        have same : silent handlesPing handlesPong fuel (bytes.drop stop) =
            silent handlesPing handlesPong fuel' (bytes.drop stop) := by
          have shorter : (bytes.drop stop).length = bytes.length - stop := List.length_drop
          exact ih (by omega) (by omega)
        simp only [same]

theorem appendCurrentFrame_append
    (fuel : Nat)
    (buffer data : Bytes) :
    (appendCurrentFrame fuel buffer data).1 ++ (appendCurrentFrame fuel buffer data).2 =
      buffer ++ data := by
  fun_induction appendCurrentFrame fuel buffer data <;> simp_all

theorem consume_buffer
    (parser : Parser)
    (count : Nat) :
    (parser.consume count).buffer = parser.buffer.drop count ∧
      (parser.consume count).borrowedTail = parser.borrowedTail := by
  unfold Parser.consume
  split
  · next all => exact ⟨(List.drop_of_length_le all.ge).symm, rfl⟩
  · exact ⟨rfl, rfl⟩

theorem takeTail_append (parser : Parser) :
    parser.takeTail.buffer ++ parser.takeTail.borrowedTail =
      parser.buffer ++ parser.borrowedTail := by
  unfold Parser.takeTail
  split
  · next empty => rw [empty.1, List.nil_append, List.append_nil]
  · rfl

/-- `feedOne` goes on with what is unread and the bytes it is given. -/
theorem accept_append
    {parser : Parser}
    (fresh : data = [] ∨ (parser.pendingConsume = 0 ∧ parser.borrowedTail = [])) :
    (parser.accept data true).buffer ++ (parser.accept data true).borrowedTail =
      parser.unread ++ data := by
  unfold Parser.accept
  dsimp only
  generalize isKept : (if parser.pendingConsume ≠ 0 then
    { parser.consume parser.pendingConsume with pendingConsume := 0 } else parser) = kept
  have unread : kept.buffer ++ kept.borrowedTail = parser.unread := by
    rw [← isKept, Parser.unread]
    split
    · obtain ⟨dropped, tail⟩ := consume_buffer parser parser.pendingConsume
      exact congrArg₂ (· ++ ·) dropped tail
    · next none => rw [not_ne_iff.mp none, List.drop_zero]
  rw [← unread, ← takeTail_append kept]
  rcases fresh with rfl | ⟨nothing, untailed⟩
  · simp
  · have same : kept = parser := by rw [← isKept, if_neg (not_ne_iff.mpr nothing)]
    have still : parser.takeTail = parser := if_neg fun h => h.2 untailed
    rw [same, still]
    split
    · next empty => simp [untailed, empty.2.1]
    split
    · dsimp only
      rw [appendCurrentFrame_append, untailed, List.append_nil]
    · simp [untailed]

section

variable (endpoint : Endpoint)

/-- No callback takes any of these bytes. -/
def Spent (bytes : Bytes) : Prop :=
  silent endpoint.handlesPing endpoint.handlesPong bytes.length bytes = true

instance (bytes : Bytes) : Decidable (Spent endpoint bytes) :=
  inferInstanceAs (Decidable (_ = true))

variable {endpoint}

/-- The opcode of a close frame, or of a ping or a pong that the handler does
not take. -/
def Untaken
    (endpoint : Endpoint)
    (opcode : Opcode)
    (rest : Bytes) : Prop :=
  opcode = .close ∨
    ((opcode = .ping ∧ endpoint.handlesPing = false ∨
      opcode = .pong ∧ endpoint.handlesPong = false) ∧ Spent endpoint rest)

theorem Spent.frame
    (spent : Spent endpoint bytes)
    (known : frameEnd bytes = some stop)
    (whole : stop ≤ bytes.length)
    (decoded : Opcode.decode (bytes.headD 0) = some opcode) :
    Untaken endpoint opcode (bytes.drop stop) := by
  have two := (frameEnd_append known []).2
  unfold Spent at spent
  obtain ⟨fuel, isFuel⟩ : ∃ fuel, bytes.length = fuel + 1 := ⟨bytes.length - 1, by omega⟩
  have rest : silent endpoint.handlesPing endpoint.handlesPong fuel (bytes.drop stop) =
      true -> Spent endpoint (bytes.drop stop) := by
    intro silent
    have shorter : (bytes.drop stop).length = bytes.length - stop := List.length_drop
    rwa [Spent, silent_fuel le_rfl (show (bytes.drop stop).length ≤ fuel by omega)]
  rw [isFuel, silent, known] at spent
  simp only [Nat.not_lt.mpr whole, if_false, decoded] at spent
  cases opcode with
  | text | binary | continuation => cases spent
  | close => exact .inl rfl
  | ping =>
    simp only [Bool.and_eq_true, Bool.not_eq_true'] at spent
    exact .inr ⟨.inl ⟨rfl, spent.1⟩, rest spent.2⟩
  | pong =>
    simp only [Bool.and_eq_true, Bool.not_eq_true'] at spent
    exact .inr ⟨.inr ⟨rfl, spent.1⟩, rest spent.2⟩

theorem Untaken.control
    (untaken : Untaken endpoint opcode rest) :
    opcode.control = true := by
  rcases untaken with rfl | ⟨⟨rfl, -⟩ | ⟨rfl, -⟩, -⟩ <;> rfl

/-- From bytes that no callback takes, the parser makes no event that one
does. -/
theorem Spent.feedLoop
    {parser after : Parser}
    (spent : Spent endpoint (parser.buffer ++ parser.borrowedTail))
    (fed : parser.feedLoop config flate true fuel = (after, .ok (some event))) :
    Untaken endpoint event.opcode after.unread := by
  induction fuel generalizing parser with
  | zero => cases fed
  | succ fuel ih =>
    rw [Parser.feedLoop] at fed
    cases isNext : parser.next config flate true with
    | error => simp [isNext] at fed
    | ok result =>
      obtain ⟨kept, parsed⟩ := result
      rw [isNext] at fed
      obtain ⟨rfl, sameBuffer, sameTail⟩ | ⟨stop, opcode, known, whole, decoded, taken⟩ :=
        next_eq_ok isNext
      · dsimp only at fed
        split at fed
        · refine ih ?_ fed
          rwa [takeTail_append, sameBuffer, sameTail]
        · cases fed
      · have sameHead : (parser.buffer ++ parser.borrowedTail).headD 0 =
            parser.buffer.headD 0 := by
          cases isBuffer : parser.buffer with
          | nil => simp [frameEnd, frameHeaderSize, isBuffer] at known
          | cons => rfl
        have untaken := spent.frame (frameEnd_append known _).1
          (whole.trans (by simp)) (sameHead ▸ decoded)
        obtain ⟨⟨payload, rfl⟩, pending, dropped, tail⟩ := taken untaken.control
        cases fed
        rwa [Parser.unread, pending, dropped, tail, ← List.drop_append_of_le_length whole]

end

namespace Socket

/-- `serveFrames` is not running. -/
def Idle (socket : Socket) : Prop :=
  socket.feeding = none ∧ socket.calling = false

instance (socket : Socket) : Decidable socket.Idle :=
  inferInstanceAs (Decidable (_ ∧ _))

/-- `serveFrames` returns. -/
def returned (socket : Socket) : Socket :=
  { socket with
    feeding := none
    calling := false
    parser := socket.parser.releaseBorrowed }

/-- Invoke a callback of the handler. -/
def deliver
    (socket : Socket)
    (event : Event) : Socket :=
  { socket with
    feeding := none
    calling := true
    delivered := socket.delivered ++ [event]
    deliveredLate := socket.deliveredLate || socket.ended }

/-- Act on an event of the parser. -/
def dispatch
    (endpoint : Endpoint)
    (socket : Socket)
    (event : Event) : Socket :=
  match event.opcode with
  | .text | .binary => socket.deliver event
  | .ping =>
    if endpoint.handlesPing then socket.deliver event
    else
      match socket.ws.replyPing endpoint.deflate event.payload with
      | (ws, true) => { socket with ws := ws, feeding := some [] }
      | (ws, false) => { socket with ws := ws }.returned
  | .pong =>
    if endpoint.handlesPong then socket.deliver event
    else { socket with feeding := some [] }
  | .close =>
    { socket with
      ws := (socket.ws.sendClose event.payload).1
      ended := true }.returned
  | .continuation => { socket with feeding := some [] }

/-- One turn of the loop of `serveFrames`, up to a callback. -/
def turn
    (endpoint : Endpoint)
    (socket : Socket)
    (data : Bytes) : Socket :=
  match socket.parser.feedOne endpoint.parser endpoint.flate data true with
  | (parser, .error error) =>
    { socket with
      parser := parser
      ws := socket.ws.closeParserError error
      ended := true }.returned
  | (parser, .ok none) => { socket with parser := parser }.returned
  | (parser, .ok (some event)) =>
    { socket with parser := parser }.dispatch endpoint event

def step
    (endpoint : Endpoint)
    (socket : Socket) :
    SocketEvent -> Option Socket
  | .onData data =>
    if socket.Idle ∧ socket.attached = true ∧ data ≠ [] then
      some { socket with feeding := some data }
    else none
  | .feed => socket.feeding.map (socket.turn endpoint)
  | .callbackReturns =>
    if socket.calling = true then
      some { socket with calling := false, feeding := some [] }
    else none
  | .callbackPanics =>
    if socket.calling = true then
      some { socket.returned with
        ws := { socket.ws with
          conn := { socket.ws.conn with isOpen := false } } }
    else none
  | .write opcode payload =>
    some { socket with
      ws := (socket.ws.writeFrame endpoint.deflate opcode payload).1 }
  | .sendClose payload =>
    some { socket with ws := (socket.ws.sendClose payload).1 }
  | .close =>
    some { socket with ws := { socket.ws with
      conn := { socket.ws.conn with isOpen := false } } }
  | .onClose => some { socket with attached := false }

/-- A connection that has just been upgraded. -/
def start (ws : Connection) : Socket where
  ws := ws

/-- The bytes handed over after the end complete no frame that a callback
takes. -/
def Contained
    (endpoint : Endpoint)
    (socket : Socket) : SocketEvent -> Prop
  | .onData data =>
    socket.ended = true -> Spent endpoint (socket.parser.buffer ++ data)
  | _ => True

instance (endpoint : Endpoint) (socket : Socket) :
    (event : SocketEvent) -> Decidable (Contained endpoint socket event)
  | .onData _ => inferInstanceAs (Decidable (_ -> _))
  | .feed | .callbackReturns | .callbackPanics | .write _ _ | .sendClose _
  | .close | .onClose => .isTrue trivial

/-- The parser holds nothing of the bytes of an earlier call of `serveFrames`
but the frame that is incomplete. -/
def Released (parser : Parser) : Prop :=
  parser.pendingConsume = 0 ∧ parser.borrowedTail = []

/-- After the end, `serveFrames` runs over bytes that no callback takes. -/
structure Bounded
    (endpoint : Endpoint)
    (socket : Socket) : Prop where
  punctual : socket.deliveredLate = false
  released : socket.Idle -> Released socket.parser
  free : socket.ended = true -> socket.calling = false
  spent : socket.ended = true -> ∀ data, socket.feeding = some data ->
    (data = [] ∨ Released socket.parser) ∧ Spent endpoint (socket.parser.unread ++ data)

theorem released_releaseBorrowed
    (parser : Parser) :
    Released parser.releaseBorrowed := by
  refine ⟨?_, rfl⟩
  change Parser.pendingConsume (if parser.pendingConsume ≠ 0 then _ else _) = 0
  split
  · rfl
  · next none => exact not_ne_iff.mp none

variable {endpoint : Endpoint} {socket : Socket}

section

variable (punctual : socket.deliveredLate = false)
include punctual

theorem Bounded.returned : Bounded endpoint socket.returned where
  punctual := punctual
  released _ := released_releaseBorrowed socket.parser
  free _ := rfl
  spent _ _ feeding := nomatch feeding

theorem Bounded.deliver
    (going : socket.ended = false)
    (event : Event) :
    Bounded endpoint (socket.deliver event) where
  punctual := by
    change (socket.deliveredLate || socket.ended) = false
    rw [punctual, going]
    rfl
  released idle := nomatch idle.2
  free ended := absurd (going.symm.trans ended) nofun
  spent ended := absurd (going.symm.trans ended) nofun

/-- `serveFrames` is about to go on with the bytes it has. -/
theorem Bounded.resume
    (feeding : socket.feeding = some [])
    (free : socket.ended = true -> socket.calling = false)
    (spent : socket.ended = true -> Spent endpoint socket.parser.unread) :
    Bounded endpoint socket where
  punctual := punctual
  released idle := nomatch feeding.symm.trans idle.1
  free := free
  spent ended data isData := by
    obtain rfl := Option.some.inj (feeding.symm.trans isData)
    exact ⟨.inl rfl, (List.append_nil _).symm ▸ spent ended⟩

theorem Bounded.dispatch
    (event : Event)
    (free : socket.ended = true -> socket.calling = false)
    (untaken : socket.ended = true -> Untaken endpoint event.opcode socket.parser.unread) :
    Bounded endpoint (socket.dispatch endpoint event) := by
  -- An event that a callback takes is made before the end only.
  have going (taken : ¬Untaken endpoint event.opcode socket.parser.unread) :
      socket.ended = false :=
    Bool.eq_false_iff.mpr fun ended => taken (untaken ended)
  have rest (isOpcode : event.opcode = .ping ∨ event.opcode = .pong)
      (ended : socket.ended = true) : Spent endpoint socket.parser.unread := by
    rcases untaken ended with close | ⟨-, spent⟩
    · rcases isOpcode with isOpcode | isOpcode <;> cases isOpcode.symm.trans close
    · exact spent
  unfold Socket.dispatch
  split
  next isOpcode => exact .deliver punctual (going (by simp [Untaken, isOpcode])) event
  next isOpcode => exact .deliver punctual (going (by simp [Untaken, isOpcode])) event
  next isOpcode =>
    split
    · next handles => exact .deliver punctual (going (by simp [Untaken, isOpcode, handles])) event
    · split
      · exact .resume punctual rfl free (rest (.inl isOpcode))
      · exact .returned (by exact punctual)
  next isOpcode =>
    split
    · next handles => exact .deliver punctual (going (by simp [Untaken, isOpcode, handles])) event
    · exact .resume punctual rfl free (rest (.inr isOpcode))
  next => exact .returned (by exact punctual)
  next isOpcode =>
    have unended := going (by simp [Untaken, isOpcode])
    exact .resume punctual rfl free fun ended => absurd (unended.symm.trans ended) nofun

end

theorem Bounded.turn
    (bounded : Bounded endpoint socket)
    (feeding : socket.feeding = some data) :
    Bounded endpoint (socket.turn endpoint data) := by
  unfold Socket.turn
  split
  · exact .returned (by exact bounded.punctual)
  · exact .returned (by exact bounded.punctual)
  · next parser event fed =>
    refine .dispatch (by exact bounded.punctual) event bounded.free fun ended => ?_
    obtain ⟨fresh, spent⟩ := bounded.spent ended data feeding
    exact Spent.feedLoop ((accept_append fresh).symm ▸ spent) fed

theorem Bounded.step
    {after : Socket}
    (bounded : Bounded endpoint socket)
    (contained : Contained endpoint socket event)
    (taken : socket.step endpoint event = some after) :
    Bounded endpoint after := by
  have punctual := bounded.punctual
  cases event with
  | onData data =>
    simp only [Socket.step] at taken
    split at taken
    · next allowed =>
      cases taken
      obtain ⟨none, untailed⟩ := bounded.released allowed.1
      refine ⟨punctual, (nomatch ·.1), bounded.free, fun ended data isData => ?_⟩
      cases isData
      refine ⟨.inr ⟨none, untailed⟩, ?_⟩
      simpa [Parser.unread, none, untailed] using contained ended
    · cases taken
  | feed =>
    obtain ⟨data, feeding, rfl⟩ := Option.map_eq_some_iff.mp taken
    exact bounded.turn feeding
  | callbackReturns =>
    simp only [Socket.step] at taken
    split at taken
    · next calling =>
      cases taken
      refine .resume punctual rfl (fun _ => rfl) fun ended => ?_
      cases (bounded.free ended).symm.trans calling
    · cases taken
  | callbackPanics =>
    simp only [Socket.step] at taken
    split at taken
    · cases taken
      have bounded : Bounded endpoint socket.returned := .returned punctual
      exact ⟨bounded.punctual, bounded.released, bounded.free, bounded.spent⟩
    · cases taken
  | write opcode payload | sendClose payload | close | onClose =>
    cases taken
    exact ⟨punctual, bounded.released, bounded.free, bounded.spent⟩

/-- Where the bytes handed over after a close frame has been handled, or an
error of the parser reported, complete no frame that a callback takes, no
callback is invoked after that. -/
theorem nothing_is_delivered_after_the_end
    (endpoint : Endpoint)
    (ws : Connection)
    (events : List SocketEvent)
    (socket : Socket)
    (contained : Transition.Meets (step endpoint) (Contained endpoint) (start ws) events)
    (reached : Transition.run (step endpoint) (start ws) events = some socket) :
    socket.deliveredLate = false := by
  refine (Transition.run_invariant_of_meets
    (fun before event after => Bounded.step) ?_ contained reached).punctual
  exact ⟨rfl, fun _ => ⟨rfl, rfl⟩, nofun, nofun⟩

/-- A server without compression whose handler takes pings. -/
def sampleEndpoint : Endpoint where
  parser := { maxMessageBytes := 2 ^ 24, limit_lt := by decide }
  handlesPing := true
  handlesPong := false
  flate := { inflate := fun _ _ => ([], false) }
  deflate := id

/-- The frame of a client with the given opcode and payload, whose masking key
is zero. -/
def maskedFrame
    (opcode : Opcode)
    (payload : Bytes) : Bytes :=
  [0x80 ||| opcode.encode, 0x80 ||| payload.length.toUInt8, 0, 0, 0, 0] ++
    payload

/-- A message and a close frame in one read, with a message behind them; then
a pong that the handler does not take, and the first byte of a message. -/
def closedByPeer : List SocketEvent :=
  [.onData (maskedFrame .text (ascii "a") ++ maskedFrame .close [] ++
      maskedFrame .text (ascii "b")),
    .feed, .callbackReturns, .feed,
    .onData (maskedFrame .pong [] ++ [0x81]), .feed, .feed]

def closedSocket : Socket :=
  (Transition.run (step sampleEndpoint) (start { conn := {} })
    closedByPeer).getD (start { conn := {} })

theorem nothing_is_delivered_after_the_end_closed :
    closedSocket.ended = true ∧
      closedSocket.delivered = [⟨.text, ascii "a"⟩] ∧
      closedSocket.deliveredLate = false := by
  refine ⟨by decide, by decide, ?_⟩
  refine nothing_is_delivered_after_the_end sampleEndpoint { conn := {} }
    closedByPeer closedSocket (by decide) ?_
  rfl

/-- Whether a run invokes a callback after the end of the connection. -/
def deliversLate (events : List SocketEvent) : Option Bool :=
  (Transition.run (step sampleEndpoint) (start { conn := {} }) events).map
    Socket.deliveredLate

/-- Bytes of the next read are frames again: after a close frame, and after a
frame the parser has refused. -/
theorem messages_delivered_after_the_end :
    deliversLate [.onData (maskedFrame .close []), .feed,
          .onData (maskedFrame .text (ascii "b")), .feed] = some true ∧
      deliversLate [.onData [0xf1, 0x80], .feed,
          .onData (maskedFrame .ping []), .feed] = some true := by
  decide

end Socket

end Websocket
end Fib
