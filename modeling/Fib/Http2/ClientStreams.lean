import Fib.Http2.Frame

/-!
# The stream identifiers of a client connection

A client connection counts its streams by two in a `uint32`, keys them by what
it counted, and writes 31 bits of it.  The identifiers on the wire increase
until the counter passes 31 bits; then they start over.
-/

namespace Fib
namespace Http2

/-- The identifier as `h2AppendFrameHeader` appends it. -/
def streamIDBytes (streamID : Nat) : Bytes :=
  [(streamID >>> 24).toUInt8 &&& 0x7f, (streamID >>> 16).toUInt8,
    (streamID >>> 8).toUInt8, streamID.toUInt8]

/-- The other side reads 31 bits of the identifier. -/
theorem uint31_streamIDBytes (streamID : Nat) :
    uint31 (streamIDBytes streamID) = streamID % 2 ^ 31 := by
  have high (byte : UInt8) : (byte &&& 0x7f).toNat = byte.toNat % 2 ^ 7 :=
    (UInt8.toNat_and ..).trans (Nat.and_two_pow_sub_one_eq_mod _ 7)
  simp only [uint31, streamIDBytes, uint32, high, UInt8.toNat_ofNat', Nat.toUInt8,
    Nat.shiftRight_eq_div_pow]
  omega

/-- What `h2ClientConn` keeps of its streams. -/
structure ClientConn (Request : Type) where
  closed : Bool := false
  goAway : Bool := false
  nextID : Nat := 1
  /-- The request of each stream in the map. -/
  streams : Nat -> Option Request := fun _ => none
  /-- A record of the HEADERS frames: the identifier on the wire and the
  request. -/
  opened : List (Nat × Request) := []

namespace ClientConn

/-- What happens to the streams of a connection. -/
inductive Event (Request : Type) where
  /-- `send`; the request may have ended before, and its fields may be
  refused. -/
  | send (r : Request) (attaches encodes : Bool)
  /-- A stream is deleted, by `cancel`, `complete` or `endStream`. -/
  | delete (id : Nat)
  | handleGoAway (lastID : Nat)
  | fail
  | shutdown

variable {Request : Type}

def step (conn : ClientConn Request) : Event Request -> ClientConn Request
  | .send r attaches encodes =>
    if !attaches || conn.closed || conn.goAway || !encodes then conn
    else
      { conn with
        nextID := (conn.nextID + 2) % 2 ^ 32
        streams := Function.update conn.streams conn.nextID (some r)
        opened := conn.opened ++ [(uint31 (streamIDBytes conn.nextID), r)] }
  | .delete id => { conn with streams := Function.update conn.streams id none }
  | .handleGoAway lastID =>
    { conn with
      goAway := true
      streams := fun id => if lastID < id then none else conn.streams id }
  | .fail => { conn with goAway := true }
  | .shutdown => { conn with closed := true, streams := fun _ => none }

/-- A connection from its start on. -/
def run (events : List (Event Request)) : ClientConn Request :=
  events.foldl step {}

/-- The counter has passed the streams that were opened, and the map keeps
requests under the identifiers they were counted by. -/
structure Counted (conn : ClientConn Request) : Prop where
  next : conn.nextID = (2 * conn.opened.length + 1) % 2 ^ 32
  wire : ∀ i entry, conn.opened[i]? = some entry -> entry.1 = (2 * i + 1) % 2 ^ 31
  known : ∀ id r, conn.streams id = some r ->
    ∃ i, (conn.opened.map Prod.snd)[i]? = some r ∧ id = (2 * i + 1) % 2 ^ 32

theorem Counted.step
    {conn : ClientConn Request}
    (counted : conn.Counted)
    (event : Event Request) :
    (conn.step event).Counted := by
  obtain ⟨next, wire, known⟩ := counted
  cases event with
  | send r attaches encodes =>
    rw [ClientConn.step]
    split
    · exact ⟨next, wire, known⟩
    refine ⟨?_, fun i entry present => ?_, fun id request kept => ?_⟩
    · dsimp only
      rw [List.length_append, List.length_singleton]
      omega
    · rw [List.getElem?_append] at present
      split at present
      · exact wire i entry present
      · obtain ⟨last, rfl⟩ := List.getElem?_eq_some_iff.mp present
        rw [List.length_singleton] at last
        rw [List.getElem_singleton, uint31_streamIDBytes]
        omega
    · dsimp only at kept ⊢
      rw [List.map_append]
      by_cases isNew : id = conn.nextID
      · rw [isNew, Function.update_self] at kept
        exact ⟨conn.opened.length, by simp [Option.some.inj kept], isNew.trans next⟩
      · rw [Function.update_of_ne isNew] at kept
        obtain ⟨i, entry, same⟩ := known id request kept
        have early := (List.getElem?_eq_some_iff.mp entry).1
        exact ⟨i, (List.getElem?_append_left early).trans entry, same⟩
  | delete id =>
    refine ⟨next, wire, fun other r kept => known other r ?_⟩
    by_cases same : other = id <;> simp_all [ClientConn.step]
  | handleGoAway lastID =>
    refine ⟨next, wire, fun id r kept => known id r ?_⟩
    by_cases late : lastID < id <;> simp_all [ClientConn.step]
  | fail => exact ⟨next, wire, known⟩
  | shutdown => exact ⟨next, wire, fun _ _ kept => by cases kept⟩

theorem counted_run (events : List (Event Request)) : (run events).Counted := by
  have start : ({} : ClientConn Request).Counted :=
    ⟨rfl, fun _ _ entry => by simp at entry, fun _ _ kept => by cases kept⟩
  exact List.foldlRecOn events _ start fun _ counted event _ => counted.step event

/-- While no more than `2 ^ 30` streams are opened, their identifiers on the wire are odd, strictly
increasing and below `2 ^ 31`, and the map has no other request under them. -/
theorem stream_identifiers_increase
    (events : List (Event Request))
    (few : (run events).opened.length ≤ 2 ^ 30) :
    ((run events).opened.map Prod.fst).Pairwise (· < ·) ∧
      ∀ id r, (id, r) ∈ (run events).opened -> id % 2 = 1 ∧ id ≤ maxStreamID ∧
        ∀ other, (run events).streams id = some other -> other = r := by
  obtain ⟨-, wire, known⟩ := counted_run events
  constructor
  · rw [List.pairwise_map, List.pairwise_iff_getElem]
    intro i j first second before
    have low := wire i _ (List.getElem?_eq_getElem first)
    have high := wire j _ (List.getElem?_eq_getElem second)
    omega
  · intro id r present
    obtain ⟨i, within, entry⟩ := List.mem_iff_getElem.mp present
    have odd := wire i _ (List.getElem?_eq_getElem within)
    rw [entry] at odd
    refine ⟨by omega, by unfold maxStreamID; omega, fun other kept => ?_⟩
    obtain ⟨j, found, same⟩ := known id other kept
    obtain ⟨inside, rfl⟩ := List.getElem?_eq_some_iff.mp found
    rw [List.length_map] at inside
    obtain rfl : i = j := by omega
    rw [List.getElem_map, entry]

theorem stream_identifiers_increase_two :
    ((run [.send 7 true true, .send 8 true true]).opened.map Prod.fst).Pairwise (· < ·) :=
  (stream_identifiers_increase [.send 7 true true, .send 8 true true] (by decide)).1

/-- Requests numbered from zero on, with nothing between them. -/
def sends (n : Nat) : List (Event Nat) :=
  (List.range n).map fun r => .send r true true

theorem opened_sends (n : Nat) :
    ((run (sends n)).closed = false ∧ (run (sends n)).goAway = false) ∧
      (run (sends n)).opened.map Prod.snd = List.range n := by
  induction n with
  | zero => exact ⟨⟨rfl, rfl⟩, rfl⟩
  | succ n ih =>
    simp only [run, sends, List.range_succ, List.map_append, List.foldl_append] at ih ⊢
    simp [step, ih]

theorem mem_opened_sends
    (early : r < n) :
    ((2 * r + 1) % 2 ^ 31, r) ∈ (run (sends n)).opened := by
  have found := congrArg (·[r]?) (opened_sends n).2
  simp only [List.getElem?_map, List.getElem?_range early, Option.map_eq_some_iff] at found
  obtain ⟨_, found, rfl⟩ := found
  rw [← (counted_run (sends n)).wire _ _ found]
  exact List.mem_of_getElem? found

/-- The request after `2 ^ 30` others opens its stream under the identifier of the first. -/
theorem first_identifier_is_used_again :
    (1, 0) ∈ (run (sends (2 ^ 30 + 1))).opened ∧ (1, 2 ^ 30) ∈ (run (sends (2 ^ 30 + 1))).opened :=
  ⟨mem_opened_sends (r := 0) (by omega), mem_opened_sends (r := 2 ^ 30) (by omega)⟩

end ClientConn
end Http2
end Fib
