import Fib.Quic.Packet
import Mathlib.Algebra.Order.BigOperators.Group.List

/-!
# Packets are received as they were planned

A protected packet differs from the sealed one in its first byte and its packet
number only.  So the receiver finds the fields of the header where the sender
put them, takes the same sample, and gets the sealed packet back.
-/

namespace Fib
namespace Quic

/-! ## Header protection -/

section Protection

variable {mask : Nat -> UInt8} {pnOffset n : Nat} {pkt : Bytes}

theorem and_xor_and
    {byte bits low high : UInt8}
    (apart : low &&& high = 0) :
    (byte ^^^ (bits &&& low)) &&& high = byte &&& high := by
  have split : (byte ^^^ (bits &&& low)) &&& high =
      (byte &&& high) ^^^ (bits &&& (low &&& high)) := by
    ext
    simp
    grind
  rw [split, apart, UInt8.and_zero, UInt8.xor_zero]

theorem maskFirst_and
    (bits byte high : UInt8)
    (apart : (0x1f : UInt8) &&& high = 0) :
    maskFirst bits byte &&& high = byte &&& high := by
  have long : (0x0f : UInt8) &&& high = 0 := by
    rw [show (0x0f : UInt8) = 0x0f &&& 0x1f from rfl, UInt8.and_assoc, apart, UInt8.and_zero]
  unfold maskFirst
  split
  · exact and_xor_and apart
  · exact and_xor_and long

@[simp]
theorem maskFirst_maskFirst
    (bits byte : UInt8) :
    maskFirst bits (maskFirst bits byte) = byte := by
  have kept := maskFirst_and bits byte 0x80 rfl
  rw [maskFirst, kept, maskFirst, UInt8.xor_assoc, UInt8.xor_self, UInt8.xor_zero]

@[simp]
theorem length_protect : (protect mask pnOffset n pkt).length = pkt.length :=
  List.length_mapIdx

/-- Nothing behind the packet number is masked. -/
theorem drop_protect
    (positive : 0 < pnOffset)
    (behind : pnOffset + n ≤ count) :
    (protect mask pnOffset n pkt).drop count = pkt.drop count := by
  apply List.ext_getElem?
  intro i
  rw [List.getElem?_drop, List.getElem?_drop, protect, List.getElem?_mapIdx]
  cases pkt[count + i]? with
  | none => rfl
  | some byte =>
    rw [Option.map_some, if_neg (by omega), if_neg (by omega)]

/-- Masking twice changes nothing. -/
theorem protect_protect : protect mask pnOffset n (protect mask pnOffset n pkt) = pkt := by
  apply List.ext_getElem?
  intro i
  rw [protect, protect, List.mapIdx_mapIdx, List.getElem?_mapIdx]
  cases pkt[i]? with
  | none => rfl
  | some byte =>
    simp only [Option.map_some, Function.comp_apply]
    split_ifs
    · rw [maskFirst_maskFirst]
    · rw [UInt8.xor_assoc, UInt8.xor_self, UInt8.xor_zero]
    · rfl

/-- A protected packet starts with the masked first byte and the fields of the
header. -/
theorem protect_header
    (first : UInt8)
    (fields body : Bytes) :
    ∃ masked : Bytes, masked.length = body.length ∧
      protect mask (fields.length + 1) n (first :: (fields ++ body)) =
        maskFirst (mask 0) first :: (fields ++ masked) := by
  refine ⟨body.mapIdx ?_, List.length_mapIdx, ?_⟩
  rotate_left
  rw [protect, List.mapIdx_cons, List.mapIdx_append]
  congr 2
  · apply List.ext_getElem?
    intro i
    rw [List.getElem?_mapIdx]
    cases found : fields[i]? with
    | none => rfl
    | some byte =>
      have inside := (List.getElem?_eq_some_iff.mp found).1
      rw [Option.map_some, if_neg (by omega), if_neg (by omega)]
  rfl

/-- The receiver takes off what the sender put on. -/
theorem unprotect_protect
    (k : Keys)
    (largest : Int)
    (first : UInt8)
    (rest : Bytes)
    (number : (first &&& 3).toNat + 1 = n)
    (positive : 0 < pnOffset)
    (sampled : pnOffset + 20 ≤ rest.length + 1) :
    unprotect (protect (k.mask (sample (first :: rest) pnOffset)) pnOffset n
          (first :: rest)) pnOffset k largest =
      some (first :: rest, decodePN largest
          ((((first :: rest).drop pnOffset).take n).foldl Varint.shiftIn 0) n,
        n) := by
  have short : n ≤ 4 := by
    have low : ∀ byte : UInt8, (byte &&& 3).toNat < 4 :=
      forall_byte (by decide +kernel)
    have := low first
    omega
  have same (mask : Nat -> UInt8) :
      sample (protect mask pnOffset n (first :: rest)) pnOffset =
        sample (first :: rest) pnOffset := by
    rw [sample, drop_protect positive (by omega), sample]
  have head (mask : Nat -> UInt8) :
      (protect mask pnOffset n (first :: rest)).headD 0 = maskFirst (mask 0) first := by
    rw [protect, List.mapIdx_cons, List.headD_cons, if_pos rfl]
  rw [unprotect, length_protect, List.length_cons, if_neg (by omega), same]
  simp only [head, maskFirst_maskFirst, number, protect_protect]

end Protection

/-! ## Parsing a header -/

theorem readCID_cons
    (short : cid.length ≤ maxCIDLen)
    (enough : spare ≤ rest.length) :
    readCID version spare (cid.length.toUInt8 :: (cid ++ rest)) = some (cid, rest) := by
  rw [maxCIDLen] at short
  have size : cid.length.toUInt8.toNat = cid.length :=
    PrefixInt.toNat_toUInt8 (by omega)
  rw [readCID, size, maxCIDLen, if_neg (by
    rw [List.length_append]
    omega), List.take_left, List.drop_left]

theorem readToken_append (fits : token.length < 2 ^ 62) :
    readToken (Varint.append token.length ++ token ++ rest) = some (token, rest) := by
  rw [readToken, List.append_assoc, Varint.read_append fits]
  dsimp only
  rw [List.drop_left, if_neg (by
    simp only [List.length_append]
    omega), List.take_left, List.drop_left]

theorem readLength_append2
    (h : Header)
    (small : length < 2 ^ 14)
    (enough : length ≤ rest.length) :
    readLength h whole (Varint.append2 length ++ rest) = .ok
        { h with
          pnOffset := whole - rest.length
          stop := whole - rest.length + length } := by
  have size : (Varint.append2 length ++ rest).length - 2 = rest.length := by
    rw [List.length_append]
    exact Nat.add_sub_cancel_left 2 rest.length
  rw [readLength, Varint.read_append2 small]
  dsimp only
  rw [size, if_neg (by omega)]

/-- What the sealing of a packet needs: a number of one to four bytes, enough
bytes for the sample, and a length that fits its field. -/
structure PacketPlan.Sealable (p : PacketPlan) : Prop where
  number : 1 ≤ p.pnLen ∧ p.pnLen ≤ 4
  sampled : 4 ≤ p.pnLen + p.payload.length
  fits : p.space ≠ .app ->
    p.pnLen + p.payload.length + aeadOverhead < 2 ^ 14

namespace Sender

variable (c : Sender) {p : PacketPlan}

/-- The header that the receiver reads. -/
def header (p : PacketPlan) : Header :=
  { typ := p.space.packetType
    version := if p.space = .app then 0 else version1
    dcid := c.dcid
    scid := if p.space = .app then [] else c.scid
    token := if p.space = .initial then c.token.bytes else []
    pnOffset := (c.fields p).length + 1
    stop := c.packetSize p }

theorem headerLen_eq (p : PacketPlan) :
    c.headerLen p.space p.pnLen = (c.fields p).length + 1 + p.pnLen := by
  have two (value : Nat) : (Varint.append2 value).length = 2 := rfl
  have four (value : Nat) : (Varint.lowBytes 4 value).length = 4 := rfl
  cases space : p.space <;> simp [headerLen, fields, tokenField, space, two, four] <;> omega

theorem parse_short
    (isApp : p.space = .app)
    (short : first &&& 0x80 = 0)
    (size : body.length = p.pnLen + p.payload.length + aeadOverhead) :
    parseHeader c.dcid.length (first :: (c.fields p ++ body)) = .ok (c.header p) := by
  have whole : (c.fields p ++ body).length + 1 = c.packetSize p := by
    rw [packetSize, headerLen_eq, List.length_append]
    omega
  have fields : c.fields p = c.dcid := if_pos isApp
  rw [parseHeader, if_pos short, whole, if_neg (by
    rw [← whole, fields, List.length_append]
    omega)]
  simp [header, isApp, Space.packetType, fields, Nat.add_comm]

/-- The token of an Initial packet is read, and the length behind it. -/
theorem parseLong_fields
    (long : p.space ≠ .app)
    (fixed : first &&& 0x40 ≠ 0)
    (typ : longType first = p.space.packetType)
    (whole : Nat)
    (small : length < 2 ^ 14)
    (enough : length ≤ body.length) :
    parseLong first { version := version1, dcid := c.dcid, scid := c.scid }
        whole (c.tokenField p.space ++ (Varint.append2 length ++ body)) =
      .ok
        { c.header p with
          pnOffset := whole - body.length
          stop := whole - body.length + length } := by
  rw [parseLong, if_neg fixed, typ]
  cases space : p.space with
  | app => exact absurd space long
  | initial =>
    have fits : c.token.bytes.length < 2 ^ 62 :=
      c.token.fits.trans (by decide)
    dsimp only [Space.packetType, tokenField]
    rw [readToken_append fits]
    dsimp only
    rw [readLength_append2 _ small enough]
    simp [header, space, Space.packetType]
  | handshake =>
    dsimp only [Space.packetType, tokenField, List.nil_append]
    rw [readLength_append2 _ small enough]
    simp [header, space, Space.packetType]

theorem parse_long
    (count : Nat)
    (long : p.space ≠ .app)
    (form : first &&& 0x80 ≠ 0)
    (fixed : first &&& 0x40 ≠ 0)
    (typ : longType first = p.space.packetType)
    (sealable : p.Sealable)
    (size : p.pnLen + p.payload.length + aeadOverhead ≤ body.length) :
    parseHeader count (first :: (c.fields p ++ body)) = .ok (c.header p) := by
  have four : (Varint.lowBytes 4 version1).length = 4 := rfl
  have version : (Varint.lowBytes 4 version1).foldl Varint.shiftIn 0 = version1 := rfl
  have whole : (c.fields p ++ body).length + 1 - body.length = (c.fields p).length + 1 := by
    rw [List.length_append]
    omega
  have stop : c.packetSize p = (c.fields p).length + 1 +
      (p.pnLen + p.payload.length + aeadOverhead) := by
    rw [packetSize, headerLen_eq]
    omega
  have enough : 7 ≤ (c.fields p ++ body).length + 1 := by
    rw [aeadOverhead] at size
    omega
  have split : c.fields p ++ body = Varint.lowBytes 4 version1 ++
      (c.dcid.length.toUInt8 :: (c.dcid ++ (c.scid.length.toUInt8 ::
        (c.scid ++ (c.tokenField p.space ++ (Varint.append2
          (p.pnLen + p.payload.length + aeadOverhead) ++ body)))))) := by
    simp [fields, if_neg long]
  have parsed := c.parseLong_fields long fixed typ
    ((c.fields p ++ body).length + 1) (sealable.fits long) size
  rw [whole, ← stop] at parsed
  rw [parseHeader, if_neg form, if_neg (Nat.not_lt.mpr enough)]
  dsimp only
  rw [split, List.take_left' four, List.drop_left' four, readCID_cons c.dcid_le (Nat.succ_pos _)]
  dsimp only
  rw [readCID_cons c.scid_le (Nat.zero_le _), ← split]
  exact parsed

/-! ## A packet that was planned -/

/-- The masked first byte of a packet tells its type, and the byte itself how
long its number is. -/
theorem firstByte_spec
    (sealable : p.Sealable)
    (bits : UInt8) :
    (c.firstByte p &&& 3).toNat + 1 = p.pnLen ∧
      (p.space = .app -> maskFirst bits (c.firstByte p) &&& 0x80 = 0) ∧
      (p.space ≠ .app -> maskFirst bits (c.firstByte p) &&& 0x80 ≠ 0 ∧
        maskFirst bits (c.firstByte p) &&& 0x40 ≠ 0 ∧
        longType (maskFirst bits (c.firstByte p)) = p.space.packetType) := by
  obtain ⟨space, pn, pnLen, payload⟩ := p
  obtain ⟨positive, short⟩ := sealable.number
  have counted : pnLen = 1 ∨ pnLen = 2 ∨ pnLen = 3 ∨ pnLen = 4 := by
    dsimp only at positive short
    omega
  revert bits
  apply forall_byte
  obtain rfl | rfl | rfl | rfl := counted <;> cases space <;> cases phase : c.keyPhase <;>
    simp only [firstByte, phase] <;> decide +kernel

section

variable (keys : Space -> Keys)
include keys

/-- The packet in the clear, with its payload sealed. -/
def sealed (p : PacketPlan) : Bytes :=
  let number := Varint.lowBytes p.pnLen p.pn
  let header := c.firstByte p :: (c.fields p ++ number)
  (keys p.space).aeadSeal p.pn p.payload header

theorem sealPlan_eq (p : PacketPlan) :
    let clear := c.firstByte p :: (c.fields p ++ (Varint.lowBytes p.pnLen p.pn ++ c.sealed keys p))
    c.sealPlan keys p = protect ((keys p.space).mask (sample clear ((c.fields p).length + 1)))
        ((c.fields p).length + 1) p.pnLen clear := by
  have whole : (c.firstByte p :: c.fields p ++ Varint.lowBytes p.pnLen p.pn).length =
        (c.firstByte p :: c.fields p).length + p.pnLen := by
    rw [List.length_append, Varint.length_lowBytes]
  rw [sealPlan, Keys.sealPacket, List.take_left' whole, List.drop_left' whole]
  simp only [List.cons_append, List.append_assoc, List.length_cons]
  rfl

theorem length_body (p : PacketPlan) :
    (Varint.lowBytes p.pnLen p.pn ++ c.sealed keys p).length =
      p.pnLen + p.payload.length + aeadOverhead := by
  rw [List.length_append, Varint.length_lowBytes, sealed, Keys.length_aeadSeal, Nat.add_assoc]

theorem length_sealPlan (p : PacketPlan) :
    (c.sealPlan keys p).length = c.packetSize p := by
  rw [sealPlan_eq, length_protect, List.length_cons, List.length_append,
    length_body, packetSize, headerLen_eq]
  omega

/-- The receiver reads the header of a packet, whatever follows a packet with
a long header. -/
theorem parse_sealPlan
    (sealable : p.Sealable)
    (last : p.space = .app -> count = c.dcid.length ∧ later = []) :
    parseHeader count (c.sealPlan keys p ++ later) = .ok (c.header p) := by
  obtain ⟨masked, size, shape⟩ := protect_header (c.firstByte p) (c.fields p)
    (Varint.lowBytes p.pnLen p.pn ++ c.sealed keys p)
  rw [length_body] at size
  rw [sealPlan_eq, shape, List.cons_append, List.append_assoc]
  obtain ⟨-, short, long⟩ := c.firstByte_spec sealable _
  by_cases isApp : p.space = .app
  · obtain ⟨rfl, rfl⟩ := last isApp
    rw [List.append_nil]
    exact c.parse_short isApp (short isApp) size
  · obtain ⟨form, fixed, typ⟩ := long isApp
    refine c.parse_long count isApp form fixed typ sealable ?_
    rw [List.length_append]
    omega

end

end Sender

/-! ## A datagram -/

namespace Receiver

variable (r : Receiver) (c : Sender)

/-- A packet is received as it was planned, and its header ends where the next
packet starts. -/
structure Recovers
    (p : PacketPlan)
    (got : Received) : Prop where
  header : got.header = c.header p
  stop : got.header.stop = (c.sealPlan r.keys p).length
  number : got.number = Varint.lowBytes p.pnLen p.pn
  pn : got.pn = p.pn
  payload : got.payload = some p.payload

/-- The receiver finds the number of a packet. -/
def Finds (p : PacketPlan) : Prop :=
  decodePN (r.largest p.space) (p.pn % 2 ^ (8 * p.pnLen)) p.pnLen = p.pn

/-- The sender writes to a connection ID of the receiver.  A server also knows
the one that the client made up, to which no 1-RTT packet is sent. -/
def Addressed (spaces : List Space) : Prop :=
  c.dcid = r.scid ∨
    (r.isClient = false ∧ c.dcid = r.odcid ∧ Space.app ∉ spaces)

theorem handlePacket_sealPlan
    (sealable : p.Sealable)
    (found : r.Finds p) :
    ∃ got, r.handlePacket (c.sealPlan r.keys p) (c.header p) = some got ∧ r.Recovers c p got := by
  have space : packetSpace (c.header p).typ = p.space := by
    dsimp only [Sender.header]
    cases p.space <;> rfl
  have typ : (c.header p).typ ≠ .zeroRTT := by
    dsimp only [Sender.header]
    cases p.space <;> decide
  have offset : (c.header p).pnOffset = (c.fields p).length + 1 := rfl
  have taken := unprotect_protect (r.keys p.space) (r.largest p.space) (c.firstByte p)
    (c.fields p ++ (Varint.lowBytes p.pnLen p.pn ++ c.sealed r.keys p))
    (c.firstByte_spec sealable 0).1 (Nat.succ_pos (c.fields p).length) (by
      have sampled := sealable.sampled
      rw [List.length_append, c.length_body, aeadOverhead]
      omega)
  have digits : (Varint.lowBytes p.pnLen p.pn).length = p.pnLen :=
    Varint.length_lowBytes _ _
  have value : (Varint.lowBytes p.pnLen p.pn).foldl Varint.shiftIn 0 =
      p.pn % 2 ^ (8 * p.pnLen) := by
    rw [Varint.foldl_lowBytes, Nat.zero_mul, Nat.zero_add, Nat.pow_mul]
  rw [← c.sealPlan_eq, List.drop_succ_cons, List.drop_left, List.take_left' digits, value,
    found] at taken
  rw [handlePacket, if_neg typ, space, offset, taken]
  refine ⟨_, rfl, rfl, (c.length_sealPlan _ _).symm, ?_, rfl, ?_⟩
  · rw [List.drop_succ_cons, List.drop_left, List.take_left' digits]
  dsimp only
  have header : (c.firstByte p :: (c.fields p ++ Varint.lowBytes p.pnLen p.pn)).length =
        (c.fields p).length + 1 + p.pnLen := by
    rw [List.length_cons, List.length_append]
    omega
  rw [Keys.openPacket, ← List.append_assoc, ← List.cons_append,
    List.drop_left' header, List.take_left' header]
  exact (r.keys p.space).aeadOpen_aeadSeal _ _ _

/-- The receiver finds the packets of a datagram one after the other. -/
theorem handleDatagram_plans
    (sealable : ∀ p ∈ plans, p.Sealable)
    (found : ∀ p ∈ plans, r.Finds p)
    (inOrder : (plans.map PacketPlan.space).Pairwise (·.index < ·.index))
    (addressed : r.Addressed c (plans.map PacketPlan.space))
    (enough : plans.length ≤ fuel) :
    List.Forall₂ (r.Recovers c) plans
      (r.handleDatagram fuel (plans.flatMap (c.sealPlan r.keys))) := by
  induction plans generalizing fuel with
  | nil => cases fuel <;> exact .nil
  | cons p rest ih =>
    obtain ⟨fuel, rfl⟩ : ∃ more, fuel = more + 1 :=
      ⟨fuel - 1, by rw [List.length_cons] at enough; omega⟩
    obtain ⟨after, inOrder⟩ := List.pairwise_cons.mp inOrder
    have parsed : parseHeader r.scid.length
        (c.sealPlan r.keys p ++ rest.flatMap (c.sealPlan r.keys)) = .ok (c.header p) := by
      refine c.parse_sealPlan r.keys (sealable p List.mem_cons_self) ?_
      intro isApp
      constructor
      · obtain same | ⟨-, -, without⟩ := addressed
        · rw [same]
        · exact absurd (isApp ▸ List.mem_cons_self) without
      cases rest with
      | nil => rfl
      | cons next rest =>
        have later :=
          after next.space (List.mem_map_of_mem List.mem_cons_self)
        rw [isApp] at later
        exact absurd later (by cases next.space <;> decide)
    have typ : (c.header p).typ ≠ .retry := by
      dsimp only [Sender.header]
      cases p.space <;> decide
    have known : ¬((c.header p).typ ≠ .oneRTT ∧ (c.header p).dcid ≠ r.scid ∧
        (r.isClient ∨ (c.header p).dcid ≠ r.odcid)) := by
      rintro ⟨-, other, unknown⟩
      obtain same | ⟨server, same, -⟩ := addressed
      · exact other same
      · obtain client | other := unknown
        · rw [server] at client
          cases client
        · exact other same
    have stop : (c.header p).stop = (c.sealPlan r.keys p).length :=
      (c.length_sealPlan _ _).symm
    obtain ⟨got, handled, recovers⟩ :=
      r.handlePacket_sealPlan c (sealable p List.mem_cons_self)
        (found p List.mem_cons_self)
    rw [List.flatMap_cons, handleDatagram, parsed]
    dsimp only
    rw [if_neg typ, if_neg known, stop, List.take_left, List.drop_left, handled]
    rw [List.forall_mem_cons] at sealable found
    refine .cons recovers (ih sealable.2 found.2 inOrder ?_ (Nat.le_of_succ_le_succ enough))
    exact addressed.imp_right fun ⟨server, same, without⟩ =>
      ⟨server, same, fun among => without (List.mem_cons_of_mem _ among)⟩

end Receiver

/-! ## What is planned can be sealed -/

theorem pnLen_bounds
    (pn : Nat)
    (largestAcked : Int) :
    1 ≤ pnLen pn largestAcked ∧ pnLen pn largestAcked ≤ 4 := by
  unfold pnLen
  dsimp only
  split_ifs <;> decide

theorem length_appendConnectionClose
    (oneRTT : Bool)
    (error : CloseError) :
    3 ≤ (appendConnectionClose oneRTT error).length ∧ (oneRTT = false ->
        (appendConnectionClose oneRTT error).length < 2 ^ 10) := by
  have bounds := Varint.length_append
  cases error with
  | application code reason =>
    have code := bounds code
    have size := bounds reason.length
    cases oneRTT with
    | false =>
      simp only [appendConnectionClose, Bool.false_eq_true, if_false]
      decide
    | true =>
      simp only [appendConnectionClose, if_true, List.length_cons, List.length_append]
      exact ⟨by omega, nofun⟩
  | transport code reason =>
    have code := bounds code
    have zero := bounds 0
    have size := bounds (reason.take 256).length
    have cut : (reason.take 256).length ≤ 256 := List.length_take_le _ _
    simp only [appendConnectionClose, List.length_cons, List.length_append]
    omega
  | other => decide +revert

theorem sealable_plan (out : Outgoing) : out.plan.Sealable := by
  obtain ⟨space, pn, acked, content⟩ := out
  obtain ⟨positive, short⟩ := pnLen_bounds pn acked
  refine ⟨⟨positive, short⟩, ?_, ?_⟩
  all_goals
    cases content with
    | frames bytes fits =>
      simp only [Outgoing.plan, List.length_append, List.length_replicate, aeadOverhead]
      omega
    | close error =>
      obtain ⟨large, small⟩ :=
        length_appendConnectionClose (space = .app) error
      simp only [Outgoing.plan, aeadOverhead, decide_eq_false_iff_not] at small ⊢
      grind

namespace Sender

variable (c : Sender) {plans : List PacketPlan}

theorem map_padLast
    {f : PacketPlan -> β}
    (blind : ∀ p payload, f { p with payload := payload } = f p)
    (count : Nat) :
    (padLast count plans).map f = plans.map f := by
  induction plans using padLast.induct with
  | case1 => rfl
  | case2 p => exact congrArg ([·]) (blind p _)
  | case3 p q rest ih =>
    rw [padLast, List.map_cons, ih]
    rfl

theorem sealable_padLast
    (sealable : ∀ p ∈ plans, p.Sealable)
    (room : ∀ p ∈ plans,
      p.pnLen + p.payload.length + aeadOverhead + count < 2 ^ 14) :
    ∀ p ∈ padLast count plans, p.Sealable := by
  induction plans using padLast.induct with
  | case1 => exact sealable
  | case2 p =>
    intro q among
    obtain rfl := List.mem_singleton.mp among
    obtain ⟨number, sampled, -⟩ := sealable p List.mem_cons_self
    have room := room p List.mem_cons_self
    refine ⟨number, ?_, fun _ => ?_⟩
    all_goals
      dsimp only
      rw [List.length_append, List.length_replicate]
      omega
  | case3 p q rest ih =>
    rw [List.forall_mem_cons] at sealable room
    rw [padLast, List.forall_mem_cons]
    exact ⟨sealable.1, ih sealable.2 room.2⟩

/-- Padding changes nothing but a payload. -/
theorem map_padded
    {f : PacketPlan -> β}
    (blind : ∀ p payload, f { p with payload := payload } = f p)
    (pad : Bool) :
    (c.padded pad plans).map f = plans.map f := by
  unfold padded
  dsimp only
  split
  · exact map_padLast blind _
  · rfl

/-- Padding fills a datagram up, so that no packet grows beyond it. -/
theorem sealable_padded
    (pad : Bool)
    (sealable : ∀ p ∈ plans, p.Sealable) :
    ∀ p ∈ c.padded pad plans, p.Sealable := by
  unfold padded
  dsimp only
  split
  · next small =>
    refine sealable_padLast sealable fun p among => ?_
    have part : c.packetSize p ≤ (plans.map c.packetSize).sum :=
      List.le_sum_of_mem (List.mem_map_of_mem among)
    rw [packetSize, headerLen_eq] at part
    rw [minInitialDatagram] at small ⊢
    omega
  · exact sealable

theorem length_flatMap_sealPlan
    (keys : Space -> Keys)
    (plans : List PacketPlan) :
    (plans.flatMap (c.sealPlan keys)).length = (plans.map c.packetSize).sum := by
  rw [List.length_flatMap]
  simp only [length_sealPlan]

theorem length_le_length_datagram
    (keys : Space -> Keys)
    (plans : List PacketPlan) :
    plans.length ≤ (plans.flatMap (c.sealPlan keys)).length := by
  rw [length_flatMap_sealPlan]
  induction plans with
  | nil => exact Nat.zero_le _
  | cons p rest ih =>
    rw [List.map_cons, List.sum_cons, List.length_cons, packetSize, aeadOverhead]
    omega

/-- The length of a datagram, told from the lengths of its packets. -/
def datagramSize
    (pad : Bool)
    (plans : List PacketPlan) : Nat :=
  ((c.padded pad plans).map c.packetSize).sum

theorem sum_padLast_le
    (count : Nat) :
    ((padLast count plans).map c.packetSize).sum ≤
      (plans.map c.packetSize).sum + count := by
  induction plans using padLast.induct with
  | case1 => exact Nat.zero_le _
  | case2 p =>
    simp only [padLast, packetSize, List.map_cons, List.map_nil, List.sum_singleton,
      List.length_append, List.length_replicate]
    omega
  | case3 p q rest ih =>
    rw [padLast, List.map_cons, List.sum_cons]
    rw [List.map_cons, List.sum_cons]
    omega

/-- Padding fills a datagram up to the size of one with an Initial packet. -/
theorem datagramSize_le
    (pad : Bool)
    (plans : List PacketPlan) :
    c.datagramSize pad plans ≤
      max minInitialDatagram (plans.map c.packetSize).sum := by
  unfold datagramSize padded
  dsimp only
  split
  · have := @sum_padLast_le c plans (minInitialDatagram - (plans.map c.packetSize).sum)
    omega
  · exact Nat.le_max_right _ _

end Sender

/-! ## The main result -/

/-- Any datagram of packets in the order of their spaces is received as it was
planned, packet by packet, with the padding in its last packet. -/
theorem coalesced_packets_parse_back
    (c : Sender)
    (r : Receiver)
    (outgoing : List Outgoing)
    (pad : Bool)
    (inOrder : (outgoing.map Outgoing.space).Pairwise (·.index < ·.index))
    (addressed : r.Addressed c (outgoing.map Outgoing.space))
    (window : ∀ out ∈ outgoing,
      InWindow out.nextPN out.largestAcked (r.largest out.space)) :
    let plans := outgoing.map Outgoing.plan
    let d := c.datagram r.keys pad plans
    List.Forall₂ (r.Recovers c) (c.padded pad plans)
      (r.handleDatagram d.length d) := by
  intro plans d
  have spaces : (c.padded pad plans).map PacketPlan.space = outgoing.map Outgoing.space := by
    rw [c.map_padded fun _ _ => rfl, List.map_map]
    rfl
  have found : ∀ p ∈ c.padded pad plans, r.Finds p := by
    have planned : ∀ p ∈ plans, r.Finds p := by
      intro p among
      obtain ⟨out, sent, rfl⟩ := List.mem_map.mp among
      exact (window out sent).decodePN_eq
    have same : (c.padded pad plans).map r.Finds = plans.map r.Finds :=
      c.map_padded (fun _ _ => rfl) pad
    intro p among
    have listed : r.Finds p ∈ plans.map r.Finds := same ▸ List.mem_map_of_mem among
    obtain ⟨q, isPlanned, equal⟩ := List.mem_map.mp listed
    exact equal ▸ planned q isPlanned
  refine r.handleDatagram_plans c (c.sealable_padded pad ?_) found
    (spaces ▸ inOrder) (spaces ▸ addressed) (c.length_le_length_datagram r.keys _)
  intro p among
  obtain ⟨out, -, rfl⟩ := List.mem_map.mp among
  exact sealable_plan out

/-- Keys that add a tag of zeros and take the mask from the sample. -/
def plainKeys : Keys where
  aeadSeal _ payload _ := payload ++ List.replicate aeadOverhead 0
  aeadOpen _ sealed _ := some (sealed.take (sealed.length - aeadOverhead))
  mask sample index := sample.getD index 0
  length_aeadSeal _ payload _ := by
    rw [List.length_append, List.length_replicate]
  aeadOpen_aeadSeal _ payload _ := by
    rw [List.length_append, List.length_replicate, Nat.add_sub_cancel,
      List.take_left]

/-- A client's Initial packet with a token, and a 1-RTT packet that is closed
and padded behind it.  The frame of the first is recovered. -/
theorem coalesced_packets_parse_back_closing :
    let c : Sender := ⟨[1, 2], [3], ⟨[9, 9], by decide⟩, true, by decide,
      by decide⟩
    let r : Receiver := ⟨false, [1, 2], [], fun _ => plainKeys, fun _ => 6⟩
    let outgoing : List Outgoing :=
      [⟨.initial, 7, 5, .frames [1] (by decide)⟩,
        ⟨.app, 7, 5, .close (.application 3 [0x62, 0x79, 0x65])⟩]
    let plans := outgoing.map Outgoing.plan
    let d := c.datagram r.keys true plans
    List.Forall₂ (r.Recovers c) (c.padded true plans) (r.handleDatagram d.length d) ∧
      ((r.handleDatagram d.length d).head?.map fun got => (got.pn, got.payload)) =
        some (7, some [1, 0, 0]) := by
  intro c r outgoing plans d
  have window : InWindow 7 5 6 := by constructor <;> decide
  have recovers : List.Forall₂ (r.Recovers c) (c.padded true plans)
      (r.handleDatagram d.length d) :=
    coalesced_packets_parse_back c r outgoing true (by decide) (Or.inl rfl)
      (List.forall_mem_cons.mpr ⟨window, List.forall_mem_singleton.mpr window⟩)
  refine ⟨recovers, ?_⟩
  obtain ⟨padding, shape⟩ : ∃ padding, c.padded true plans =
      [⟨.initial, 7, 1, [1, 0, 0]⟩, padding] := ⟨_, rfl⟩
  rw [shape] at recovers
  obtain ⟨got, _, first, -, equal⟩ := List.forall₂_cons_left_iff.mp recovers
  rw [equal]
  exact congrArg some (Prod.ext first.pn first.payload)

end Quic
end Fib
