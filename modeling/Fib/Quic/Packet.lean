import Fib.Library.Varint

/-!
# Packets

A datagram holds a packet of every space that has something to send, one behind
the other.  A packet is written with its header in the clear, sealed, and its
first byte and packet number are then masked with bits that a sample of the
sealed payload gives.  The receiver undoes these steps packet by packet.
-/

namespace Fib
namespace Quic

def version1 : Nat := 1

/-- The longest connection ID. -/
def maxCIDLen : Nat := 20

/-- How large a datagram with a client's Initial packet is made. -/
def minInitialDatagram : Nat := 1200

/-- The tag that sealing adds. -/
def aeadOverhead : Nat := 16

/-- A packet number space. -/
inductive Space
  | initial
  | handshake
  | app
  deriving DecidableEq

/-- The place of a space among the spaces. -/
def Space.index : Space -> Nat
  | .initial => 0
  | .handshake => 1
  | .app => 2

inductive PacketType
  | initial
  | zeroRTT
  | handshake
  | retry
  | oneRTT
  deriving DecidableEq

def Space.packetType : Space -> PacketType
  | .initial => .initial
  | .handshake => .handshake
  | .app => .oneRTT

def packetSpace : PacketType -> Space
  | .initial => .initial
  | .handshake => .handshake
  | _ => .app

/-! ## Packet numbers -/

/-- How many bytes a packet number takes, after the largest acknowledged. -/
def pnLen
    (pn : Nat)
    (largestAcked : Int) : Nat :=
  let unacked :=
    if largestAcked < 0 then pn + 1
    else (pn + 2 ^ 64 - largestAcked.toNat) % 2 ^ 64
  if unacked < 2 ^ 7 then 1
  else if unacked < 2 ^ 15 then 2
  else if unacked < 2 ^ 23 then 3
  else 4

/-- The packet number closest to the one expected next. -/
def decodePN
    (largest : Int)
    (truncated n : Nat) : Nat :=
  let expected := (largest + 1).toNat
  let win := 2 ^ (8 * n)
  let candidate := expected / win * win + truncated
  if candidate + win / 2 ≤ expected ∧ candidate < 2 ^ 62 - win then
    candidate + win
  else if expected + win / 2 < candidate ∧ win ≤ candidate then candidate - win
  else candidate

/-- The sums that `decodePN` forms. -/
def decodePNSums
    (largest : Int)
    (truncated n : Nat) : List Int :=
  let win := 2 ^ (8 * n)
  let candidate := (largest + 1).toNat / win * win + truncated
  [largest + 1, largest + 1 + win / 2, candidate, candidate + win / 2, candidate + win]

/-- A packet number takes enough bytes for what is not acknowledged. -/
theorem unacked_lt_of_pnLen
    {pn : Nat}
    {largestAcked : Int}
    (known : -1 ≤ largestAcked)
    (after : largestAcked < pn)
    (near : pn - largestAcked < 2 ^ 31) :
    (pnLen pn largestAcked = 1 ∧ pn - largestAcked < 2 ^ 7) ∨
      (pnLen pn largestAcked = 2 ∧ pn - largestAcked < 2 ^ 15) ∨
      (pnLen pn largestAcked = 3 ∧ pn - largestAcked < 2 ^ 23) ∨ pnLen pn largestAcked = 4 := by
  have unacked : (if largestAcked < 0 then pn + 1
      else (pn + 2 ^ 64 - largestAcked.toNat) % 2 ^ 64 : Nat) = pn - largestAcked := by
    split
    · omega
    · omega
  unfold pnLen
  generalize (if largestAcked < 0 then pn + 1
    else (pn + 2 ^ 64 - largestAcked.toNat) % 2 ^ 64 : Nat) = distance at unacked
  dsimp only
  split_ifs
  · exact .inl ⟨rfl, by omega⟩
  · exact .inr (.inl ⟨rfl, by omega⟩)
  · exact .inr (.inr (.inl ⟨rfl, by omega⟩))
  · exact .inr (.inr (.inr rfl))

section

variable {pn : Nat} {largestAcked largest : Int}

/-- The number of a packet is within the window of its receiver, which has seen
what was acknowledged and is not half a window ahead. -/
structure InWindow
    (pn : Nat)
    (largestAcked largest : Int) : Prop where
  known : -1 ≤ largestAcked
  after : largestAcked < pn
  small : pn < 2 ^ 62
  near : pn - largestAcked < 2 ^ 31
  seen : largestAcked ≤ largest
  close : largest + 1 - pn < 2 ^ (8 * pnLen pn largestAcked - 1)

/-- A truncated packet number is decoded as itself. -/
theorem InWindow.decodePN_eq
    (window : InWindow pn largestAcked largest) :
    decodePN largest (pn % 2 ^ (8 * pnLen pn largestAcked))
      (pnLen pn largestAcked) = pn := by
  obtain ⟨known, after, small, near, seen, close⟩ := window
  have enough := unacked_lt_of_pnLen known after near
  generalize pnLen pn largestAcked = n at close enough
  dsimp only [decodePN]
  obtain ⟨rfl, within⟩ | ⟨rfl, within⟩ | ⟨rfl, within⟩ | rfl := enough
  all_goals
    norm_num at close ⊢
    split_ifs
    all_goals omega

/-- A truncated packet number is decoded as itself by a receiver that has seen
what was acknowledged and is not half a window ahead. -/
theorem decodePN_pnLen
    (known : -1 ≤ largestAcked)
    (after : largestAcked < pn)
    (small : pn < 2 ^ 62)
    (near : pn - largestAcked < 2 ^ 31)
    (seen : largestAcked ≤ largest)
    (close : largest + 1 - pn < 2 ^ (8 * pnLen pn largestAcked - 1)) :
    let n := pnLen pn largestAcked
    decodePN largest (pn % 2 ^ (8 * n)) n = pn ∧
      ∀ sum ∈ decodePNSums largest (pn % 2 ^ (8 * n)) n, sum < 2 ^ 63 := by
  have decoded := InWindow.decodePN_eq ⟨known, after, small, near, seen, close⟩
  refine ⟨decoded, ?_⟩
  have enough := unacked_lt_of_pnLen known after near
  generalize pnLen pn largestAcked = n at close enough
  dsimp only [decodePNSums]
  obtain ⟨rfl, within⟩ | ⟨rfl, within⟩ | ⟨rfl, within⟩ | rfl := enough
  all_goals
    norm_num at close ⊢
    omega

end

/-- Packet 300 after packet 427, with packet 100 acknowledged. -/
theorem decodePN_pnLen_reordered : decodePN 427 (300 % 2 ^ 16) 2 = 300 :=
  (@decodePN_pnLen 300 100 427 (by decide) (by decide) (by decide) (by decide) (by decide)
    (by decide)).1

/-! ## Protection -/

/-- The keys of a space: what is sealed can be opened, and the mask is a
function of the sample. -/
structure Keys where
  aeadSeal (pn : Nat) (payload header : Bytes) : Bytes
  aeadOpen (pn : Nat) (sealed header : Bytes) : Option Bytes
  mask (sample : Bytes) (index : Nat) : UInt8
  length_aeadSeal (pn : Nat) (payload header : Bytes) :
    (aeadSeal pn payload header).length = payload.length + aeadOverhead
  aeadOpen_aeadSeal (pn : Nat) (payload header : Bytes) :
    aeadOpen pn (aeadSeal pn payload header) header = some payload

/-- The bytes the mask is made of. -/
def sample
    (pkt : Bytes)
    (pnOffset : Nat) : Bytes :=
  (pkt.drop (pnOffset + 4)).take 16

/-- Mask the low bits of a first byte, four of a long header or five of a
short one. -/
def maskFirst (mask byte : UInt8) : UInt8 :=
  byte ^^^ (mask &&& if byte &&& 0x80 = 0 then 0x1f else 0x0f)

/-- Mask the first byte and the `n` bytes of the packet number. -/
def protect
    (mask : Nat -> UInt8)
    (pnOffset n : Nat)
    (pkt : Bytes) : Bytes :=
  pkt.mapIdx fun i byte =>
    if i = 0 then maskFirst (mask 0) byte
    else if pnOffset ≤ i ∧ i < pnOffset + n then
      byte ^^^ mask (1 + (i - pnOffset))
    else byte

/-- Seal a packet whose number is at `pnOffset` and protect its header. -/
def Keys.sealPacket
    (k : Keys)
    (pkt : Bytes)
    (pnOffset n pn : Nat) : Bytes :=
  let header := pkt.take (pnOffset + n)
  let pkt := header ++ k.aeadSeal pn (pkt.drop (pnOffset + n)) header
  protect (k.mask (sample pkt pnOffset)) pnOffset n pkt

/-- Remove header protection: the packet in the clear, its number and how many
bytes the number takes. -/
def unprotect
    (pkt : Bytes)
    (pnOffset : Nat)
    (k : Keys)
    (largest : Int) :
    Option (Bytes × Nat × Nat) :=
  if pkt.length < pnOffset + 4 + 16 then none
  else
    let mask := k.mask (sample pkt pnOffset)
    let n := (maskFirst (mask 0) (pkt.headD 0) &&& 3).toNat + 1
    let pkt := protect mask pnOffset n pkt
    let truncated := ((pkt.drop pnOffset).take n).foldl Varint.shiftIn 0
    some (pkt, decodePN largest truncated n, n)

/-- Open a packet whose header ends at `hdrEnd`. -/
def Keys.openPacket
    (k : Keys)
    (pkt : Bytes)
    (hdrEnd pn : Nat) : Option Bytes :=
  k.aeadOpen pn (pkt.drop hdrEnd) (pkt.take hdrEnd)

/-! ## Writing a datagram -/

/-- A packet whose frames are chosen and which is not sealed yet. -/
structure PacketPlan where
  space : Space
  pn : Nat
  pnLen : Nat
  payload : Bytes

/-- What a connection writes into the headers of its packets. -/
structure Sender where
  dcid : Bytes
  scid : Bytes
  token : Text
  keyPhase : Bool
  dcid_le : dcid.length ≤ maxCIDLen
  scid_le : scid.length ≤ maxCIDLen

namespace Sender

variable (c : Sender)

/-- The first byte of a long header. -/
def longFirst
    (typ : UInt8)
    (pnLen : Nat) : UInt8 :=
  (0xc0 : UInt8) ||| typ <<< 4 ||| (pnLen - 1).toUInt8

def headerLen
    (space : Space)
    (pnLen : Nat) : Nat :=
  let long := 1 + 4 + 1 + c.dcid.length + 1 + c.scid.length + 2 + pnLen
  match space with
  | .app => 1 + c.dcid.length + pnLen
  | .handshake => long
  | .initial =>
    long + (Varint.append c.token.bytes.length).length + c.token.bytes.length

def packetSize (p : PacketPlan) : Nat :=
  c.headerLen p.space p.pnLen + p.payload.length + aeadOverhead

def firstByte (p : PacketPlan) : UInt8 :=
  match p.space with
  | .app =>
    0x40 ||| (p.pnLen - 1).toUInt8 ||| if c.keyPhase then 0x04 else 0
  | .initial => longFirst 0 p.pnLen
  | .handshake => longFirst 2 p.pnLen

/-- The token with its length, in an Initial packet. -/
def tokenField : Space -> Bytes
  | .initial => Varint.append c.token.bytes.length ++ c.token.bytes
  | _ => []

/-- The header between the first byte and the packet number. -/
def fields (p : PacketPlan) : Bytes :=
  if p.space = .app then c.dcid
  else
    Varint.lowBytes 4 version1 ++
      (c.dcid.length.toUInt8 :: (c.dcid ++
        (c.scid.length.toUInt8 :: (c.scid ++
          (c.tokenField p.space ++
            Varint.append2 (p.pnLen + p.payload.length + aeadOverhead))))))

/-- The sealed packet. -/
def sealPlan
    (keys : Space -> Keys)
    (p : PacketPlan) : Bytes :=
  let header := c.firstByte p :: c.fields p
  (keys p.space).sealPacket
    (header ++ Varint.lowBytes p.pnLen p.pn ++ p.payload)
    header.length p.pnLen p.pn

/-- Pad the payload of the last packet. -/
def padLast (count : Nat) : List PacketPlan -> List PacketPlan
  | [] => []
  | [p] => [{ p with payload := p.payload ++ List.replicate count 0 }]
  | p :: q :: rest => p :: padLast count (q :: rest)

/-- The packets of a datagram, with the last one padded if the datagram has to
be as large as one with an Initial packet. -/
def padded
    (pad : Bool)
    (plans : List PacketPlan) : List PacketPlan :=
  let size := (plans.map c.packetSize).sum
  if pad ∧ size < minInitialDatagram then
    padLast (minInitialDatagram - size) plans
  else plans

def datagram
    (keys : Space -> Keys)
    (pad : Bool)
    (plans : List PacketPlan) :
    Bytes :=
  (c.padded pad plans).flatMap (c.sealPlan keys)

end Sender

/-- Why a connection closes. -/
inductive CloseError
  | application (code : Nat) (reason : Bytes)
  | transport (code : Nat) (reason : Bytes)
  | other

def appendConnectionClose (oneRTT : Bool) : CloseError -> Bytes
  | .application code reason =>
    if oneRTT then
      0x1d :: (Varint.append code ++ (Varint.append reason.length ++ reason))
    else 0x1c :: (Varint.append 0x0c ++ (Varint.append 0 ++ Varint.append 0))
  | .transport code reason =>
    0x1c :: (Varint.append code ++ (Varint.append 0 ++
      (Varint.append (reason.take 256).length ++ reason.take 256)))
  | .other =>
    0x1c :: (Varint.append 0x01 ++ (Varint.append 0 ++ Varint.append 0))

/-- What a packet is built for: the frames that were chosen, which are far
fewer than a two-byte length can tell, or the end of the connection. -/
inductive Content
  | frames (bytes : Bytes) (fits : bytes.length + 20 < 2 ^ 14)
  | close (error : CloseError)

/-- A packet that is about to be planned, and the state of its space. -/
structure Outgoing where
  space : Space
  nextPN : Nat
  largestAcked : Int
  content : Content

/-- The packet that `buildPacket` or `sendClose` plans.  The frames are padded
so that the sample lies inside the packet. -/
def Outgoing.plan (out : Outgoing) : PacketPlan :=
  let n := pnLen out.nextPN out.largestAcked
  { space := out.space
    pn := out.nextPN
    pnLen := n
    payload :=
      match out.content with
      | .frames bytes _ =>
        bytes ++ List.replicate (4 - n - bytes.length) 0
      | .close error => appendConnectionClose (out.space = .app) error }

/-! ## Reading a datagram -/

/-- A header as far as it can be read under header protection. -/
structure Header where
  typ : PacketType := .initial
  version : Nat := 0
  dcid : Bytes := []
  scid : Bytes := []
  token : Bytes := []
  pnOffset : Nat := 0
  stop : Nat := 0

inductive PacketError
  | badPacket
  | unknownVersion (header : Header)

/-- A connection ID behind its length, and what follows it: at least `spare`
bytes. -/
def readCID (version spare : Nat) : Bytes -> Option (Bytes × Bytes)
  | [] => none
  | size :: rest =>
    if maxCIDLen < size.toNat ∧ version = version1 ∨
        rest.length < size.toNat + spare then none
    else some (rest.take size.toNat, rest.drop size.toNat)

def longType (first : UInt8) : PacketType :=
  match ((first >>> 4) &&& 3).toNat with
  | 0 => .initial
  | 1 => .zeroRTT
  | 2 => .handshake
  | _ => .retry

/-- The token of an Initial packet and what follows it. -/
def readToken (b : Bytes) : Option (Bytes × Bytes) :=
  match Varint.read b with
  | none => none
  | some (n, l) =>
    if b.length - l < n then none
    else some ((b.drop l).take n, (b.drop l).drop n)

/-- The length that ends a long header, in a datagram of `whole` bytes of which
`b` is left. -/
def readLength
    (h : Header)
    (whole : Nat)
    (b : Bytes) :
    Except PacketError Header :=
  match Varint.read b with
  | none => .error .badPacket
  | some (length, l) =>
    if b.length - l < length then .error .badPacket
    else
      let p := whole - (b.length - l)
      .ok { h with pnOffset := p, stop := p + length }

/-- What follows the connection IDs of a long header. -/
def parseLong
    (first : UInt8)
    (h : Header)
    (whole : Nat)
    (b : Bytes) :
    Except PacketError Header :=
  if h.version ≠ version1 then .error (.unknownVersion h)
  else if first &&& 0x40 = 0 then .error .badPacket
  else
    match longType first with
    | .retry => .ok { h with typ := .retry, token := b, stop := whole }
    | .initial =>
      match readToken b with
      | none => .error .badPacket
      | some (token, b) => readLength { h with token := token } whole b
    | typ => readLength { h with typ := typ } whole b

/-- The header of the packet at the front. -/
def parseHeader (shortDCIDLen : Nat) : Bytes -> Except PacketError Header
  | [] => .error .badPacket
  | first :: rest =>
    let whole := rest.length + 1
    if first &&& 0x80 = 0 then
      if whole < 1 + shortDCIDLen then .error .badPacket
      else
        .ok
          { typ := .oneRTT
            dcid := rest.take shortDCIDLen
            pnOffset := 1 + shortDCIDLen
            stop := whole }
    else if whole < 7 then .error .badPacket
    else
      let version := (rest.take 4).foldl Varint.shiftIn 0
      match readCID version 1 (rest.drop 4) with
      | none => .error .badPacket
      | some (dcid, b) =>
        match readCID version 0 b with
        | none => .error .badPacket
        | some (scid, b) => parseLong first { version, dcid, scid } whole b

/-- A connection that receives: its connection IDs, and for every space its
keys and the largest packet number received, or -1. -/
structure Receiver where
  isClient : Bool
  scid : Bytes
  odcid : Bytes
  keys : Space -> Keys
  largest : Space -> Int

/-- A packet as it was received, with the bytes of its number. -/
structure Received where
  header : Header
  number : Bytes
  pn : Nat
  payload : Option Bytes

namespace Receiver

variable (r : Receiver)

def handlePacket
    (pkt : Bytes)
    (h : Header) : Option Received :=
  let k := r.keys (packetSpace h.typ)
  if h.typ = .zeroRTT then none
  else
    match unprotect pkt h.pnOffset k (r.largest (packetSpace h.typ)) with
    | none => none
    | some (pkt, pn, n) =>
      some
        { header := h
          number := (pkt.drop h.pnOffset).take n
          pn := pn
          payload := k.openPacket pkt (h.pnOffset + n) pn }

/-- The packets of a datagram, at most `fuel` of them. -/
def handleDatagram : Nat -> Bytes -> List Received
  | 0, _ => []
  | fuel + 1, d =>
    match parseHeader r.scid.length d with
    | .error _ => []
    | .ok h =>
      let later := handleDatagram fuel (d.drop h.stop)
      if h.typ = .retry then []
      else if h.typ ≠ .oneRTT ∧ h.dcid ≠ r.scid ∧
          (r.isClient ∨ h.dcid ≠ r.odcid) then later
      else (r.handlePacket (d.take h.stop) h).toList ++ later

end Receiver

end Quic
end Fib
