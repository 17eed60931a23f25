import Fib.Library.Transition
import Fib.Quic.Datagram

/-!
# The amplification limit

Until a client's address is proven, a server sends at most three times what it
received.  Datagrams leave a connection in two ways.  `flushLocked` asks whether
one more datagram of the largest size is within the limit, fills a datagram with
what fits, and counts what it sends; `sendClose` does neither.  What the packets
of a datagram make of the connection, and what it wants to send next, is left
open.
-/

namespace Fib
namespace Quic
namespace Amplification

/-- The largest datagram that is built. -/
def maxDatagram : Nat := 1200

/-! ## The frames of a packet -/

/-- One turn of the loops of `appendFrames`. -/
inductive Part
  /-- A frame that is written whole or not at all. -/
  | control (frame : Bytes)
  | crypto (off : Nat) (data : Bytes)
  /-- Lost or new data of a stream, whose bytes below `base` have been
  acknowledged. -/
  | stream (id off base : Nat) (data : Bytes) (fin : Bool)
  /-- The end of a stream without data. -/
  | fin (id next : Nat)

/-- How many bytes an integer takes. -/
def varintLen (value : Nat) : Nat :=
  (Varint.append value).length

def appendStreamFrame
    (b : Bytes)
    (id off : Nat)
    (data : Bytes)
    (fin : Bool) : Bytes :=
  let typ : UInt8 := 0x08 ||| 0x02 ||| (if 0 < off then 0x04 else 0) |||
    if fin then 0x01 else 0
  b ++ typ :: (Varint.append id ++ ((if 0 < off then Varint.append off else []) ++
    (Varint.append data.length ++ data)))

/-- Append what fits into a payload of at most `most` bytes.  The room for the
data of a stream is told from the offset where the lost range starts, and the
frame has the offset of the first byte that is kept. -/
def appendPart
    (most : Nat)
    (b : Bytes) : Part -> Bytes
  | .control frame => if b.length + frame.length ≤ most then b ++ frame else b
  | .crypto off data =>
    let avail := most - b.length - 1 - varintLen off - 2
    if avail = 0 then b
    else
      let data := data.take avail
      b ++ 0x06 :: (Varint.append off ++ (Varint.append data.length ++ data))
  | .stream id off base data fin =>
    let avail := most - b.length - 1 - varintLen id - varintLen off - 2
    if avail = 0 then b
    else appendStreamFrame b id (max off base) (data.take avail) fin
  | .fin id next =>
    if b.length + 1 + varintLen id + varintLen next + 1 ≤ most then
      appendStreamFrame b id next [] true
    else b

/-- Nothing is acknowledged of what is sent again. -/
def Part.Unacked : Part -> Prop
  | .stream _ off base _ _ => base ≤ off
  | _ => True

instance : DecidablePred Part.Unacked
  | .control _ | .crypto .. | .fin .. => instDecidableTrue
  | .stream _ off base _ _ => Nat.decLe base off

theorem length_appendStreamFrame_le
    (b : Bytes)
    (id off : Nat)
    (data : Bytes)
    (fin : Bool) :
    (appendStreamFrame b id off data fin).length ≤
      b.length + 1 + varintLen id + varintLen off + varintLen data.length +
        data.length := by
  simp only [appendStreamFrame, varintLen, List.length_append, List.length_cons]
  split
  · omega
  · rw [List.length_nil]
    omega

variable {most : Nat} {b : Bytes}

theorem length_appendPart_le
    {part : Part}
    (unacked : part.Unacked)
    (small : most ≤ maxDatagram)
    (within : b.length ≤ most) :
    (appendPart most b part).length ≤ most := by
  rw [maxDatagram] at small
  cases part with
  | control frame =>
    rw [appendPart]
    split
    · next fits => rwa [List.length_append]
    · exact within
  | crypto off data =>
    rw [appendPart]
    dsimp only
    generalize isAvail : most - b.length - 1 - varintLen off - 2 = avail
    split
    · exact within
    have cut := List.length_take_le avail data
    have two : (Varint.append (data.take avail).length).length ≤ 2 :=
      Varint.length_append_le_two (by omega)
    simp only [varintLen, List.length_append, List.length_cons] at *
    omega
  | stream id off base data fin =>
    rw [appendPart, Nat.max_eq_left unacked]
    generalize isAvail : most - b.length - 1 - varintLen id - varintLen off - 2 = avail
    split
    · exact within
    have cut := List.length_take_le avail data
    have two : varintLen (data.take avail).length ≤ 2 :=
      Varint.length_append_le_two (by omega)
    have whole := length_appendStreamFrame_le b id off (data.take avail) fin
    omega
  | fin id next =>
    rw [appendPart]
    split
    · have whole := length_appendStreamFrame_le b id next [] true
      have one : varintLen ([] : Bytes).length = 1 := rfl
      rw [one, List.length_nil] at whole
      omega
    · exact within

theorem length_foldl_appendPart_le
    {parts : List Part}
    (unacked : ∀ part ∈ parts, part.Unacked)
    (small : most ≤ maxDatagram)
    (within : b.length ≤ most) :
    (parts.foldl (appendPart most) b).length ≤ most := by
  induction parts generalizing b with
  | nil => exact within
  | cons part rest ih =>
    rw [List.forall_mem_cons] at unacked
    exact ih unacked.2 (length_appendPart_le unacked.1 small within)

/-- What is to be sent in a space. -/
structure Due where
  /-- The ACK frame, if one is pending. -/
  ack : Option Bytes := none
  ackDue : Bool := false
  /-- Congestion control allows more than an ACK, or a probe does. -/
  mayElicit : Bool := true
  probing : Bool := false
  parts : List Part := []

namespace Due

variable (due : Due) (most : Nat)

/-- The ACK frame, unless it takes more than half of the room. -/
def withAck : Option Bytes :=
  due.ack.filter (·.length ≤ most / 2)

/-- The frames of a packet: an ACK, what fits behind it, and a PING for a probe
that has nothing else to say. -/
def frames : Bytes :=
  let first := (due.withAck most).getD []
  let b := if due.mayElicit then due.parts.foldl (appendPart most) first else first
  if due.probing ∧ b.length = first.length ∧ b.length < most then b ++ [0x01] else b

/-- Whether the frames ask for an acknowledgement. -/
def ackEliciting : Bool :=
  ((due.withAck most).getD []).length < (due.frames most).length

variable {due most}

theorem length_withAck_le :
    ((due.withAck most).getD []).length ≤ most := by
  cases kept : due.withAck most with
  | none => exact Nat.zero_le _
  | some ack =>
    have fits := of_decide_eq_true (Option.filter_eq_some_iff.mp kept).2
    exact fits.trans (Nat.div_le_self most 2)

theorem length_frames_le
    (unacked : ∀ part ∈ due.parts, part.Unacked)
    (small : most ≤ maxDatagram) :
    (due.frames most).length ≤ most := by
  have filled : (if due.mayElicit then
      due.parts.foldl (appendPart most) ((due.withAck most).getD [])
      else (due.withAck most).getD []).length ≤ most := by
    split
    · exact length_foldl_appendPart_le unacked small length_withAck_le
    · exact length_withAck_le
  rw [frames]
  split_ifs at filled ⊢ with elicits probe probe
  all_goals first
    | exact filled
    | rw [List.length_append]
      exact probe.2.2

end Due

/-! ## The connection -/

/-- What the packets that were received have made of a connection: the spaces
with keys to send with, and what the headers of its packets depend on. -/
structure Progress where
  sender : Sender
  sealing : Space -> Bool
  largestAcked : Space -> Int
  handshakeComplete : Bool
  /-- Whether a Handshake packet of the client was authenticated. -/
  addressValidated : Bool

/-- The connection of a server.  All that was handed to `PacketConn.Send` is
`handed` bytes. -/
structure Conn where
  progress : Progress
  nextPN : Space -> Nat := fun _ => 0
  closed : Bool := false
  bytesRecv : Nat := 0
  bytesSent : Nat := 0
  handed : Nat := 0

namespace Conn

variable (conn : Conn)

/-- The packet of a space in a datagram with `room` bytes left, and whether it
asks for an acknowledgement. -/
def buildPacket
    (space : Space)
    (room : Nat)
    (due : Due) : Option (PacketPlan × Bool) :=
  let pn := conn.nextPN space
  let n := pnLen pn (conn.progress.largestAcked space)
  let most := room - conn.progress.sender.headerLen space n - aeadOverhead
  if most < 16 then none
  else if !due.ackEliciting most && !((due.withAck most).isSome && due.ackDue) then none
  else
    let payload := due.frames most
    some (⟨space, pn, n, payload ++ List.replicate (4 - n - payload.length) 0⟩,
      due.ackEliciting most)

/-- The packets of a datagram that has `size` bytes so far. -/
def buildPackets
    (due : Space -> Due) : Nat -> List Space -> List (PacketPlan × Bool)
  | _, [] => []
  | size, space :: rest =>
    let built :=
      if conn.progress.sealing space then
        conn.buildPacket space (maxDatagram - size) (due space)
      else none
    match built with
    | none => buildPackets due size rest
    | some built =>
      built :: buildPackets due (size + conn.progress.sender.packetSize built.1) rest

def atAmplificationLimit : Prop :=
  conn.progress.addressValidated = false ∧
    3 * conn.bytesRecv < conn.bytesSent + maxDatagram

instance : Decidable conn.atAmplificationLimit := inferInstanceAs (Decidable (_ ∧ _))

/-- The packets of the next datagram, and whether it is padded: a server pads
an Initial packet that asks for an acknowledgement. -/
def buildDatagram (due : Space -> Due) : List PacketPlan × Bool :=
  if conn.atAmplificationLimit then ([], false)
  else
    let built := conn.buildPackets due 0 [.initial, .handshake, .app]
    (built.map Prod.fst, built.any fun plan => plan.1.space = .initial && plan.2)

/-- Hand a datagram of these packets to `PacketConn.Send`. -/
def send
    (plans : List PacketPlan)
    (pad : Bool) : Conn :=
  { conn with
    nextPN := fun space =>
      if space ∈ plans.map PacketPlan.space then conn.nextPN space + 1
      else conn.nextPN space
    handed := conn.handed + conn.progress.sender.datagramSize pad plans }

/-- One round of `flushLocked`: build a datagram, if the limit allows and there
is something to send, and send it. -/
def flush (due : Space -> Due) : Conn :=
  let (plans, pad) := conn.buildDatagram due
  if plans = [] then conn
  else
    { conn.send plans pad with
      bytesSent := conn.bytesSent + conn.progress.sender.datagramSize pad plans }

/-- Send CONNECTION_CLOSE in every space.  Only a client pads it. -/
def sendClose (error : CloseError) : Conn :=
  let plans := [Space.initial, .handshake, .app].filterMap fun space =>
    if conn.progress.sealing space = false ∨
        space = .app ∧ conn.progress.handshakeComplete = false then none
    else
      some (Outgoing.plan ⟨space, conn.nextPN space, conn.progress.largestAcked space,
        .close error⟩)
  if plans = [] then conn else conn.send plans false

def closeLocked (error : CloseError) : Conn :=
  { conn.sendClose error with closed := true }

/-- Count a datagram, and handle its packets. -/
def handleDatagram
    (length : Nat)
    (progress : Progress) : Conn :=
  { conn with
    bytesRecv := conn.bytesRecv + length
    progress := { progress with
      addressValidated :=
        conn.progress.addressValidated || progress.addressValidated } }

end Conn

inductive Label
  /-- A datagram arrives; its packets may hold an error. -/
  | datagram (length : Nat) (progress : Progress) (error : Option CloseError)
  | flush (due : Space -> Due)
  /-- The application closes the connection. -/
  | close (error : CloseError)

def step
    (conn : Conn)
    (label : Label) : Option Conn :=
  if conn.closed then none
  else
    match label with
    | .datagram length progress none => some (conn.handleDatagram length progress)
    | .datagram length progress (some error) =>
      some ((conn.handleDatagram length progress).closeLocked error)
    | .flush due => some (conn.flush due)
    | .close error => some (conn.closeLocked error)

/-- Before the client's address is proven the connection is not closed, and no
stream has a lost range that was acknowledged in part. -/
def InLimits (conn : Conn) : Label -> Prop
  | .datagram _ _ none => True
  | .datagram _ progress (some _) =>
    conn.progress.addressValidated = true ∨ progress.addressValidated = true
  | .flush due =>
    conn.progress.addressValidated = true ∨
      ∀ space ∈ [Space.initial, .handshake, .app], ∀ part ∈ (due space).parts, part.Unacked
  | .close _ => conn.progress.addressValidated = true

instance (conn : Conn) : DecidablePred (InLimits conn)
  | .datagram _ _ none => instDecidableTrue
  | .datagram _ _ (some _) => inferInstanceAs (Decidable (_ ∨ _))
  | .flush _ => inferInstanceAs (Decidable (_ ∨ _))
  | .close _ => inferInstanceAs (Decidable (_ = true))

/-! ## No datagram is too large -/

variable {conn next : Conn}

theorem packetSize_buildPacket_le
    {due : Due}
    {built : PacketPlan × Bool}
    (unacked : ∀ part ∈ due.parts, part.Unacked)
    (small : room ≤ maxDatagram)
    (isBuilt : conn.buildPacket space room due = some built) :
    conn.progress.sender.packetSize built.1 ≤ room := by
  unfold Conn.buildPacket at isBuilt
  obtain ⟨enough, isBuilt⟩ := Option.ite_none_left_eq_some.mp isBuilt
  obtain ⟨-, isBuilt⟩ := Option.ite_none_left_eq_some.mp isBuilt
  cases isBuilt
  generalize pnLen (conn.nextPN space) (conn.progress.largestAcked space) = n at enough ⊢
  generalize isMost : room - conn.progress.sender.headerLen space n - aeadOverhead = most
    at enough ⊢
  have payload : (due.frames most).length ≤ most := Due.length_frames_le unacked (by omega)
  dsimp only [Sender.packetSize]
  rw [List.length_append, List.length_replicate]
  omega

theorem sum_buildPackets_le
    {due : Space -> Due}
    (unacked : ∀ space ∈ spaces, ∀ part ∈ (due space).parts, Part.Unacked part)
    (within : size ≤ maxDatagram) :
    size + ((conn.buildPackets due size spaces).map fun built =>
      conn.progress.sender.packetSize built.1).sum ≤ maxDatagram := by
  induction spaces generalizing size with
  | nil => exact within
  | cons space rest ih =>
    rw [List.forall_mem_cons] at unacked
    unfold Conn.buildPackets
    dsimp only
    split
    · exact ih unacked.2 within
    · next built isBuilt =>
      obtain ⟨-, isBuilt⟩ := Option.ite_none_right_eq_some.mp isBuilt
      have fits := packetSize_buildPacket_le unacked.1 (Nat.sub_le _ _) isBuilt
      have rest := ih unacked.2
        (by omega : size + conn.progress.sender.packetSize built.1 ≤ maxDatagram)
      rw [List.map_cons, List.sum_cons]
      omega

theorem datagramSize_buildDatagram_le
    {due : Space -> Due}
    (unacked : ∀ space ∈ [Space.initial, .handshake, .app],
      ∀ part ∈ (due space).parts, part.Unacked) :
    conn.progress.sender.datagramSize (conn.buildDatagram due).2 (conn.buildDatagram due).1 ≤
      maxDatagram := by
  refine (Sender.datagramSize_le _ _ _).trans (Nat.max_le.mpr ⟨Nat.le_refl _, ?_⟩)
  unfold Conn.buildDatagram
  split
  · exact Nat.zero_le _
  · have within := @sum_buildPackets_le conn _ 0 due unacked (Nat.zero_le _)
    simpa [Function.comp_def] using within

/-! ## The limit -/

/-- All that was sent to an unproven address has been counted, and is within the
limit. -/
def Conn.Limited (conn : Conn) : Prop :=
  conn.progress.addressValidated = false ->
    conn.handed = conn.bytesSent ∧ conn.handed ≤ 3 * conn.bytesRecv

theorem progress_sendClose (error : CloseError) :
    (conn.sendClose error).progress = conn.progress := by
  unfold Conn.sendClose
  dsimp only
  split <;> rfl

theorem limited_closeLocked
    (validated : conn.progress.addressValidated = true) :
    (conn.closeLocked error).Limited := by
  intro unproven
  rw [Conn.closeLocked, progress_sendClose, validated] at unproven
  cases unproven

theorem limited_flush
    (limited : conn.Limited)
    (inLimits : InLimits conn (.flush due)) :
    (conn.flush due).Limited := by
  unfold Conn.flush
  dsimp only
  split
  · exact limited
  next something =>
  intro unproven
  replace unproven : conn.progress.addressValidated = false := unproven
  obtain ⟨counted, -⟩ := limited unproven
  have unacked := inLimits.resolve_left (by rw [unproven]; exact Bool.false_ne_true)
  have small := @datagramSize_buildDatagram_le conn due unacked
  have within : ¬3 * conn.bytesRecv < conn.bytesSent + maxDatagram := fun beyond =>
    something (by rw [Conn.buildDatagram, if_pos ⟨unproven, beyond⟩])
  dsimp only [Conn.send]
  omega

theorem limited_step
    (limited : conn.Limited)
    (inLimits : InLimits conn label)
    (stepped : step conn label = some next) :
    next.Limited := by
  unfold step at stepped
  split at stepped
  · cases stepped
  cases label with
  | datagram length progress error =>
    cases error with
    | none =>
      cases stepped
      intro unproven
      obtain ⟨counted, within⟩ := limited (Bool.or_eq_false_iff.mp unproven).1
      refine ⟨counted, within.trans ?_⟩
      exact Nat.mul_le_mul_left 3 (Nat.le_add_right _ _)
    | some error =>
      cases stepped
      exact limited_closeLocked (Bool.or_eq_true_iff.mpr inLimits)
  | flush due =>
    cases stepped
    exact limited_flush limited inLimits
  | close error =>
    cases stepped
    exact limited_closeLocked inLimits

/-- As long as a client's address is not proven, and the connection is not
closed, a server hands out at most three times what it received. -/
theorem server_keeps_amplification_limit
    {progress : Progress}
    {labels : List Label}
    (inLimits : Transition.Meets step InLimits ⟨progress, fun _ => 0, false, 0, 0, 0⟩ labels)
    (reached : Transition.run step ⟨progress, fun _ => 0, false, 0, 0, 0⟩ labels = some conn)
    (unproven : conn.progress.addressValidated = false) :
    conn.handed ≤ 3 * conn.bytesRecv := by
  have limited : conn.Limited := Transition.run_invariant_of_meets
    (fun _ _ _ limited inLimits stepped => limited_step limited inLimits stepped)
    (fun _ => ⟨rfl, Nat.zero_le _⟩) inLimits reached
  exact (limited unproven).2

/-! ## A server that has the keys of its first flight -/

/-- A server that knows what the client offered, with connection IDs of eight
bytes. -/
def greeted : Progress where
  sender := ⟨List.replicate 8 1, List.replicate 8 2, ⟨[], by decide⟩, false, by decide, by decide⟩
  sealing space := space ≠ .app
  largestAcked _ := -1
  handshakeComplete := false
  addressValidated := false

/-- The rest of a certificate of 4000 bytes. -/
def certificate (off : Nat) : Due :=
  { parts := [.crypto off (List.replicate (4000 - off) 0)] }

/-- A Handshake packet of the flight, as full as it can be. -/
def flushHandshake (off : Nat) : Label :=
  .flush fun
    | .handshake => certificate off
    | _ => {}

/-- The client's first datagram, and the server's hello with a certificate that
takes several Handshake packets. -/
def flight : List Label :=
  [.datagram 1200 greeted none,
    .flush fun
      | .initial =>
        { ack := some [0x02, 0, 0, 0, 0], parts := [.crypto 0 (List.replicate 90 0)] }
      | .handshake => certificate 0
      | .app => {},
    flushHandshake 1012, flushHandshake 2165, flushHandshake 3318]

/-- The server sends three datagrams of its flight, and keeps the fourth. -/
theorem server_keeps_amplification_limit_flight :
    ∃ conn, Transition.run step ⟨greeted, fun _ => 0, false, 0, 0, 0⟩ flight = some conn ∧
      (conn.progress.addressValidated = false ∧ conn.bytesRecv = 1200 ∧ 3500 < conn.handed) ∧
      conn.handed ≤ 3 * conn.bytesRecv := by
  obtain ⟨conn, reached, unproven, received⟩ : ∃ conn,
      Transition.run step ⟨greeted, fun _ => 0, false, 0, 0, 0⟩ flight = some conn ∧
        (conn.progress.addressValidated = false ∧ conn.bytesRecv = 1200 ∧
          3500 < conn.handed) :=
    Transition.exists_run_of_any (by decide +kernel)
  exact ⟨conn, reached, ⟨unproven, received⟩,
    server_keeps_amplification_limit (by decide +kernel) reached unproven⟩

/-- When the application then closes the connection, the server sends more than
three times what it received. -/
theorem close_exceeds_amplification_limit :
    ∃ conn, Transition.run step ⟨greeted, fun _ => 0, false, 0, 0, 0⟩
        (flight ++ [.close (.application 0 [])]) = some conn ∧
      conn.progress.addressValidated = false ∧ conn.bytesRecv = 1200 ∧ 3600 < conn.handed :=
  Transition.exists_run_of_any (by decide +kernel)

end Amplification
end Quic
end Fib
