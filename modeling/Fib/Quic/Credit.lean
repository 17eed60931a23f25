import Fib.Quic.Reassembly
import Mathlib.Algebra.BigOperators.Group.List.Basic
import Mathlib.Data.List.Nodup

/-!
# Receive credit

What is charged to a connection and not credited belongs to open streams, as
long as no stream is told to stop after its final size is known.
-/

namespace Fib
namespace Quic

/-! ## One receiving side -/

/-- A receiving side has read no more than it has seen, and all of it once it is
finished. -/
structure RecvSide.Credited (side : RecvSide) : Prop where
  read : side.recvRead ≤ side.recvHigh
  final : ∀ size ∈ side.recvFin, side.recvHigh = size
  offset : side.recv.offset ≤ side.recvHigh
  segments : ∀ segment ∈ side.recv.segments,
    segment.off + segment.data.length ≤ side.recvHigh
  settled : side.recvDone = true ∨ side.peerReset = true ->
    side.recvRead = side.recvHigh
  stopped : side.stopSent = true -> side.recvFin.isSome ->
    side.recvDone = true ∨ side.peerReset = true
  blank : side.hasRecv = false -> side.recvHigh = 0

theorem RecvBuffer.offset_popAll
    (segments : List Segment)
    (offset buffered : Nat) :
    (popAll offset buffered segments).2.offset =
      offset + ((popAll offset buffered segments).1.map List.length).sum := by
  induction segments generalizing offset buffered with
  | nil => rfl
  | cons first rest ih =>
    unfold popAll
    dsimp only
    split_ifs
    · rfl
    · exact ih _ _
    rw [ih]
    simp only [List.map_cons, List.length_drop, List.sum_cons]
    omega

/-- The offset advances by what is delivered. -/
theorem RecvBuffer.offset_receive
    (buffer : RecvBuffer)
    (off : Nat)
    (data : Bytes) :
    (buffer.receive off data).2.offset =
      buffer.offset + ((buffer.receive off data).1.map List.length).sum := by
  have same : (buffer.push off data).offset = buffer.offset := by
    unfold push
    split
    · rfl
    · rfl
  rw [← same]
  exact offset_popAll _ _ _

/-- Popping stays within what was seen. -/
theorem RecvBuffer.popAll_within
    {bound : Nat}
    {segments : List Segment}
    (offset buffered : Nat)
    (within : ∀ segment ∈ segments,
      segment.off + segment.data.length ≤ bound)
    (low : offset ≤ bound) :
    (popAll offset buffered segments).2.offset ≤ bound ∧
      ∀ segment ∈ (popAll offset buffered segments).2.segments,
        segment.off + segment.data.length ≤ bound := by
  induction segments generalizing offset buffered with
  | nil => simp [popAll, low]
  | cons first rest ih =>
    obtain ⟨here, later⟩ := List.forall_mem_cons.mp within
    unfold popAll
    dsimp only
    split_ifs with gap stale
    · exact ⟨low, within⟩
    · exact ih _ _ later low
    · exact ih _ _ later here

theorem RecvBuffer.receive_within
    {bound off : Nat}
    {data : Bytes}
    {buffer : RecvBuffer}
    (within : ∀ segment ∈ buffer.segments,
      segment.off + segment.data.length ≤ bound)
    (low : buffer.offset ≤ bound)
    (fits : off + data.length ≤ bound) :
    (buffer.receive off data).2.offset ≤ bound ∧ ∀ segment ∈ (buffer.receive off data).2.segments,
        segment.off + segment.data.length ≤ bound := by
  unfold receive push
  split
  · exact popAll_within _ _ within low
  · refine popAll_within _ _ (fun other present => ?_) low
    rcases mem_place.mp present with rfl | present
    · simp only [List.length_drop]
      omega
    · exact within other present

/-- Reading goes on to an offset, and the connection is credited for it. -/
structure Consumes
    (before after : Reading)
    (offset : Nat) : Prop where
  data : after.flow.recvData = before.flow.recvData
  credit : after.flow.recvConsumed + before.side.recvRead =
    before.flow.recvConsumed + after.side.recvRead
  side : ∃ recvMax maxDataPending, after.side =
    { before.side with
      recvRead := max before.side.recvRead offset
      recvMax
      maxDataPending }

theorem Consumes.trans
    (earlier : Consumes before middle first)
    (later : Consumes middle after second) :
    Consumes before after (max first second) := by
  obtain ⟨_, _, here⟩ := earlier.side
  obtain ⟨recvMax, maxDataPending, there⟩ := later.side
  have credit := earlier.credit
  have more := later.credit
  refine ⟨later.data.trans earlier.data, by omega, recvMax, maxDataPending, ?_⟩
  simp only [there, here, max_assoc]

theorem Reading.consumes_consumed
    (config : Config)
    (reading : Reading)
    (offset : Nat) :
    Consumes reading (reading.consumed config offset) offset := by
  refine ⟨rfl, ?_, _, _, rfl⟩
  change reading.flow.recvConsumed + (offset - reading.side.recvRead) + reading.side.recvRead =
      reading.flow.recvConsumed + max reading.side.recvRead offset
  omega

theorem Reading.consumes_deliver
    (config : Config)
    (chunks : List Bytes)
    (offset : Nat)
    (reading : Reading) :
    ∃ last ≤ offset + (chunks.map List.length).sum,
      Consumes reading (Reading.deliver config chunks offset reading) last := by
  induction chunks generalizing offset reading with
  | nil =>
    refine ⟨0, Nat.zero_le _, rfl, rfl, reading.side.recvMax, reading.side.maxDataPending, ?_⟩
    rw [Nat.max_zero]
    rfl
  | cons chunk rest ih =>
    obtain ⟨last, bound, consumes⟩ := ih
      (offset + chunk.length) (reading.consumed config (offset + chunk.length))
    refine ⟨_, ?_, (reading.consumes_consumed config _).trans consumes⟩
    rw [List.map_cons, List.sum_cons]
    omega

/-- What a frame does to the counters of a connection and of a receiving
side. -/
structure Settles
    (flow : Flow)
    (side : RecvSide)
    (reading : Reading) :
    Prop where
  charged : reading.flow.recvData + side.recvHigh =
    flow.recvData + reading.side.recvHigh
  credit : reading.flow.recvConsumed + side.recvRead =
    flow.recvConsumed + reading.side.recvRead
  credited : reading.side.Credited
  hasRecv : reading.side.hasRecv = side.hasRecv

namespace RecvSide

variable {config : Config} {flow charged : Flow} {side : RecvSide}
variable {receipt : Receipt} {stop : Nat} {fin : Bool}

theorem charge_eq_ok (ok : side.charge flow stop = .ok charged) :
    charged.recvData + side.recvHigh = flow.recvData + max side.recvHigh stop ∧
      charged.recvConsumed = flow.recvConsumed := by
  unfold charge at ok
  dsimp only at ok
  split at ok
  · cases ok
  · split at ok
    · cases ok
    · cases ok
      exact ⟨by dsimp only; omega, rfl⟩

theorem le_recvMax_of_charge
    (ok : side.charge flow stop = .ok charged) :
    stop ≤ side.recvMax := by
  unfold charge at ok
  dsimp only at ok
  split at ok
  · cases ok
  · omega

/-- What a STREAM frame that is no error does. -/
theorem onStreamFrame_eq_ok
    (ok : side.onStreamFrame config flow off data fin = .ok receipt) :
    (∀ size ∈ side.recvFin, off + data.length ≤ size ∧ (fin = true -> off + data.length = size)) ∧
      (fin = true -> side.recvHigh ≤ off + data.length) ∧
      ∃ charged, side.charge flow (off + data.length) = .ok charged ∧
        receipt =
          if side.recvDone || side.peerReset || side.stopSent then
            (side.grow (off + data.length) fin).discardData config charged (off + data.length)
          else (side.grow (off + data.length) fin).readData config charged off data := by
  unfold onStreamFrame at ok
  dsimp only at ok
  split at ok
  · cases ok
  split at ok
  · cases ok
  split at ok
  · cases ok
  next beyond below =>
  split at ok
  · cases ok
  next charged charges =>
  refine ⟨fun size known => ?_, fun ends => not_lt.mp fun less => below ⟨ends, less⟩, charged,
    charges, ?_⟩
  · rw [Option.mem_def.mp known] at beyond
    grind
  · split at ok
    · next unread => rw [if_pos unread, Except.ok.inj ok]
    · next reading => rw [if_neg reading, Except.ok.inj ok]

/-- What a RESET_STREAM frame that is no error does. -/
theorem onResetStream_eq_ok
    (ok : side.onResetStream config flow stop = .ok receipt) :
    (∀ size ∈ side.recvFin, stop = size) ∧ side.recvHigh ≤ stop ∧
      ∃ charged, side.charge flow stop = .ok charged ∧
        receipt = (side.grow stop true).abandon config charged stop := by
  unfold onResetStream at ok
  split at ok
  · cases ok
  next differs =>
  split at ok
  · cases ok
  next charged charges =>
  cases ok
  simp only [Bool.or_eq_true, decide_eq_true_eq, not_or, not_lt] at differs
  refine ⟨fun size known => ?_, differs.2, charged, charges, rfl⟩
  have same := differs.1
  rw [Option.mem_def.mp known, Option.any_some, bne_iff_ne, not_not] at same
  exact same.symm

/-- What a frame that is read in order leaves behind. -/
theorem settles_readData
    {data : Bytes}
    (credited : side.Credited)
    (fits : off + data.length ≤ side.recvHigh)
    (reading : side.recvDone = false ∧ side.peerReset = false ∧ side.stopSent = false) :
    Settles flow side (side.readData config flow off data).reading := by
  obtain ⟨low, within⟩ := RecvBuffer.receive_within credited.segments credited.offset fits
  have advanced := side.recv.offset_receive off data
  unfold readData
  generalize side.recv.receive off data = received at *
  obtain ⟨last, bound, consumes⟩ := Reading.consumes_deliver config received.1
    side.recv.offset { flow, side }
  dsimp only
  generalize Reading.deliver config received.1 side.recv.offset
    { flow, side } = delivered at *
  obtain ⟨after, changed⟩ := delivered
  obtain ⟨data, credit, recvMax, maxDataPending, same⟩ := consumes
  dsimp only at data credit same
  subst changed
  have readBound := credited.read
  split
  · next ended =>
    have whole := credited.final _ ended
    exact
      { charged := by dsimp only [Reading.consumed]; omega
        credit := by dsimp only [Reading.consumed] at credit ⊢; omega
        hasRecv := rfl
        credited :=
          { read := by dsimp only [Reading.consumed]; omega
            final := credited.final
            offset := low
            segments := within
            settled := fun _ => by dsimp only [Reading.consumed]; omega
            stopped := fun _ _ => .inl rfl
            blank := credited.blank } }
  exact
    { charged := by dsimp only; omega
      credit
      hasRecv := rfl
      credited :=
        { read := by dsimp only; omega
          final := credited.final
          offset := low
          segments := within
          settled := fun finished => by simp [reading] at finished
          stopped := fun stopped => by simp [reading] at stopped
          blank := credited.blank } }

/-- What a frame that nobody reads leaves behind. -/
theorem settles_discardData
    (credited : side.Credited)
    (has : side.hasRecv = true)
    (final : ∀ size ∈ (side.grow stop fin).recvFin,
      (side.grow stop fin).recvHigh = size)
    (whole : fin = true -> side.recvHigh ≤ stop)
    (charge : side.charge flow stop = .ok charged) :
    Settles flow side ((side.grow stop fin).discardData config charged stop).reading := by
  obtain ⟨total, consumed⟩ := charge_eq_ok charge
  have readBound := credited.read
  exact
    { charged := total
      credit := by dsimp only [discardData, Reading.consumed, grow]; omega
      hasRecv := rfl
      credited :=
        { read := by dsimp only [discardData, Reading.consumed, grow]; omega
          final
          offset := le_max_of_le_left credited.offset
          segments := fun segment member =>
            le_max_of_le_left (credited.segments segment member)
          settled := by
            dsimp only [discardData, Reading.consumed, grow]
            intro finished
            by_cases before : side.recvDone = true ∨ side.peerReset = true
            · rw [credited.settled before]
            -- The side ends here, so the frame brought the final size.
            cases ends : fin with
            | true =>
              have := whole ends
              omega
            | false =>
              have already := credited.stopped
              grind
          stopped := by
            dsimp only [discardData, Reading.consumed]
            grind
          blank := fun isNot => by
            simp [discardData, Reading.consumed, grow, has] at isNot } }

theorem settles_onStreamFrame
    (credited : side.Credited)
    (has : side.hasRecv = true)
    (ok : side.onStreamFrame config flow off data fin = .ok receipt) :
    Settles flow side receipt.reading := by
  obtain ⟨within, whole, charged, charges, rfl⟩ := onStreamFrame_eq_ok ok
  have final : ∀ size ∈ (side.grow (off + data.length) fin).recvFin,
      (side.grow (off + data.length) fin).recvHigh = size := by
    intro size known
    dsimp only [grow] at known ⊢
    split at known
    · next ends =>
      have := whole ends
      obtain rfl := Option.some.inj known
      omega
    have high := credited.final size known
    have := (within size known).1
    omega
  split
  · exact settles_discardData credited has final whole charges
  next reading =>
  simp only [Bool.or_eq_true, not_or, Bool.not_eq_true] at reading
  obtain ⟨total, consumed⟩ := charge_eq_ok charges
  have grown : (side.grow (off + data.length) fin).Credited :=
    { read := le_max_of_le_left credited.read
      final
      offset := le_max_of_le_left credited.offset
      segments := fun segment member =>
        le_max_of_le_left (credited.segments segment member)
      settled := fun done => by simp [grow, reading] at done
      stopped := fun stop => by simp [grow, reading] at stop
      blank := fun isNot => by simp [grow, has] at isNot }
  obtain ⟨charge, credit, credited, hasRecv⟩ :=
    settles_readData grown (le_max_right _ _) ⟨reading.1.1, reading.1.2, reading.2⟩
  refine ⟨?_, ?_, credited, hasRecv⟩
  · dsimp only [grow] at charge ⊢
    omega
  · dsimp only [grow] at credit ⊢
    omega

theorem settles_onResetStream
    (credited : side.Credited)
    (has : side.hasRecv = true)
    (ok : side.onResetStream config flow stop = .ok receipt) :
    Settles flow side receipt.reading := by
  obtain ⟨-, high, charged, charges, rfl⟩ := onResetStream_eq_ok ok
  obtain ⟨total, consumed⟩ := charge_eq_ok charges
  have readBound := credited.read
  have grown : (side.grow stop true).recvHigh = stop := max_eq_right high
  have settled : max side.recvRead stop = max side.recvHigh stop := by omega
  unfold abandon
  split
  all_goals
    refine ⟨total, by dsimp only [Reading.consumed, grow]; omega, ?_, rfl⟩
    refine
      { read := settled.le
        final := fun size known => grown.trans (Option.some.inj known)
        offset := le_max_of_le_left credited.offset
        segments := ?_
        settled := fun _ => settled
        stopped := ?_
        blank := fun isNot => by simp [Reading.consumed, grow, has] at isNot }
  · exact fun segment member => le_max_of_le_left (credited.segments segment member)
  · next finished => exact fun _ _ => (Bool.or_eq_true _ _).mp finished
  · exact fun _ member => by cases member
  · exact fun _ _ => .inr rfl

end RecvSide

/-! ## The connection -/

/-- What is charged to a stream and not yet credited. -/
def owed
    (streams : Nat -> Stream)
    (id : Nat) : Nat :=
  (streams id).receiving.recvHigh - (streams id).receiving.recvRead

theorem owed_update_self
    (streams : Nat -> Stream)
    (id : Nat)
    (stream : Stream) :
    owed (Function.update streams id stream) id =
      stream.receiving.recvHigh - stream.receiving.recvRead := by
  rw [owed, Function.update_self]

theorem map_owed_update
    {streams : Nat -> Stream}
    {id : Nat}
    {known : List Nat}
    (others : ∀ other ∈ known, other ≠ id) :
    known.map (owed (Function.update streams id stream)) = known.map (owed streams) :=
  List.map_congr_left fun other member => by
    rw [owed, Function.update_of_ne (others other member), owed]

namespace Conn

variable {conn : Conn} {id : Nat}

/-- How many streams there have been of the sort of a stream. -/
def opened
    (conn : Conn)
    (id : Nat) : Nat :=
  let counts := conn.counts (kindOf id)
  if conn.isLocal id then counts.opened else counts.peerOpened

theorem opened_of_mod (same : id % 4 = other % 4) :
    conn.opened id = conn.opened other := by
  have kind : kindOf id = kindOf other := by
    unfold kindOf
    rw [show id / 2 % 2 = other / 2 % 2 by omega]
  have side : conn.isLocal id = conn.isLocal other := by
    unfold isLocal isClientStream
    rw [show id % 2 = other % 2 by omega]
  rw [opened, kind, side, opened]

/-- A stream is forgotten only when its receiving side is finished, and an open
one has the sides of its sort. -/
structure Fair
    (known : List Nat)
    (isClient : Bool)
    (id : Nat)
    (stream : Stream) : Prop where
  credited : stream.receiving.Credited
  finished : stream.done = true -> stream.receiving.recvFinished = true
  alive : id ∈ known -> stream.done = false
  sided : id ∈ known ->
    stream.receiving.hasRecv = (kindOf id == .bidi || !(isClientStream id == isClient))

/-- What the connection is charged for and not credited is what its open streams
are. -/
structure Balanced (conn : Conn) : Prop where
  nodup : conn.known.Nodup
  numbered : ∀ id ∈ conn.known, id / 4 < conn.opened id
  fair : ∀ id, Fair conn.known conn.isClient id (conn.streams id)
  unread : conn.flow.recvData =
    conn.flow.recvConsumed + (conn.known.map (owed conn.streams)).sum

namespace Balanced

variable (balanced : conn.Balanced)
include balanced

/-- A finished side owes nothing. -/
theorem owed_eq_zero
    (finished : (conn.streams id).receiving.recvFinished = true) :
    owed conn.streams id = 0 := by
  have credited := (balanced.fair id).credited
  simp only [RecvSide.recvFinished, Bool.or_eq_true, Bool.not_eq_true'] at finished
  unfold owed
  rcases finished with (isNot | done) | reset
  · rw [credited.blank isNot, Nat.zero_sub]
  · rw [credited.settled (.inl done), Nat.sub_self]
  · rw [credited.settled (.inr reset), Nat.sub_self]

/-- The counts of finished streams do not matter, nor does how many more have
been opened. -/
theorem onCounts
    (opened : (conn.counts kind).opened ≤ (change (conn.counts kind)).opened)
    (peerOpened : (conn.counts kind).peerOpened ≤ (change (conn.counts kind)).peerOpened) :
    (conn.onCounts kind change).Balanced := by
  refine { balanced with numbered := fun id member => ?_ }
  refine (balanced.numbered id member).trans_le ?_
  have mine : (conn.onCounts kind change).isLocal id = conn.isLocal id := rfl
  unfold Conn.opened
  rw [mine]
  dsimp only [Conn.onCounts]
  by_cases same : kindOf id = kind
  · subst kind
    rw [Function.update_self]
    split_ifs <;> assumption
  · rw [Function.update_of_ne same]

theorem countDone (kind : Kind) : (conn.countDone kind).Balanced := by
  refine balanced.onCounts ?_ ?_ <;> dsimp only <;> split <;> exact le_rfl

/-- A stream settles its counters. -/
theorem replace
    {flow : Flow}
    {stream : Stream}
    (settles : Settles conn.flow (conn.streams id).receiving ⟨flow, stream.receiving⟩)
    (done : stream.done = (conn.streams id).done)
    (moved : id ∈ conn.known ∨ stream.receiving.recvHigh = (conn.streams id).receiving.recvHigh ∧
      stream.receiving.recvRead = (conn.streams id).receiving.recvRead ∧
      stream.receiving.recvFinished = (conn.streams id).receiving.recvFinished) :
    Balanced { conn with
      flow
      streams := Function.update conn.streams id stream } := by
  have fair := balanced.fair id
  refine
    { balanced with
      fair := (Function.forall_update_iff _ _).mpr ⟨?_, fun other _ => balanced.fair other⟩
      unread := ?_ }
  · refine ⟨settles.credited, fun isDone => ?_, fun member => done.trans (fair.alive member),
      fun member => settles.hasRecv.trans (fair.sided member)⟩
    rw [done] at isDone
    rcases moved with member | ⟨_, _, same⟩
    · cases (fair.alive member).symm.trans isDone
    · exact same.trans (fair.finished isDone)
  have unread := balanced.unread
  have charged := settles.charged
  have credit := settles.credit
  have before := fair.credited.read
  have after := settles.credited.read
  dsimp only at charged credit after ⊢
  by_cases member : id ∈ conn.known
  · rw [← List.sum_map_erase _ member, owed] at unread
    rw [← List.sum_map_erase _ member, owed_update_self,
      map_owed_update fun _ isIn => (balanced.nodup.mem_erase_iff.mp isIn).1]
    omega
  · obtain ⟨high, read, _⟩ := moved.resolve_left member
    rw [map_owed_update fun other isIn (equal : other = id) =>
      member (equal ▸ isIn)]
    omega

/-- A finished stream is forgotten. -/
theorem maybeFinish (id : Nat) : (conn.maybeFinish id).Balanced := by
  unfold Conn.maybeFinish
  dsimp only
  split
  · exact balanced
  next ends =>
  simp only [Bool.or_eq_true, Bool.not_eq_true', not_or, Bool.not_eq_true,
    Bool.not_eq_false] at ends
  have fair := balanced.fair id
  have forgotten : ({ conn with known := conn.known.erase id }.onStream id
      fun stream => { stream with done := true }).Balanced := by
    refine
      { nodup := balanced.nodup.erase id
        numbered := fun other member =>
          balanced.numbered other (List.mem_of_mem_erase member)
        fair := (Function.forall_update_iff _ _).mpr ⟨?_, fun other _ => ?_⟩
        unread := ?_ }
    · exact
        { fair with
          finished := fun _ => ends.2
          alive := fun member => absurd member balanced.nodup.not_mem_erase
          sided := fun member => fair.sided (List.mem_of_mem_erase member) }
    · exact
        { balanced.fair other with
          alive := fun member => (balanced.fair other).alive (List.mem_of_mem_erase member)
          sided := fun member => (balanced.fair other).sided (List.mem_of_mem_erase member) }
    dsimp only [onStream]
    refine balanced.unread.trans (congrArg _ ?_)
    rw [map_owed_update fun _ isIn => (balanced.nodup.mem_erase_iff.mp isIn).1]
    by_cases member : id ∈ conn.known
    · rw [← List.sum_map_erase (owed conn.streams) member,
        balanced.owed_eq_zero ends.2, Nat.zero_add]
    · rw [List.erase_of_not_mem member]
  split
  · exact forgotten
  · exact forgotten.countDone _

theorem newStream
    (fresh : id ∉ conn.known)
    (number : id / 4 < conn.opened id) :
    (conn.newStream id).Balanced := by
  have distinct {other : Nat} (member : other ∈ conn.known) : other ≠ id :=
    fun equal => fresh (equal ▸ member)
  have earlier {other : Nat} (differs : other ≠ id) (member : other ∈ conn.known ++ [id]) :
      other ∈ conn.known :=
    (List.mem_append.mp member).resolve_right fun last => differs (List.mem_singleton.mp last)
  unfold Conn.newStream onStream
  refine
    { nodup := ?_
      numbered := fun other member => ?_
      fair := (Function.forall_update_iff _ _).mpr ⟨?_, fun other differs => ?_⟩
      unread := ?_ }
  · exact List.nodup_append.mpr ⟨balanced.nodup, List.nodup_singleton id,
      fun other member last isLast equal => distinct member
        (equal.trans (List.mem_singleton.mp isLast))⟩
  · by_cases same : other = id
    · exact same ▸ number
    · exact balanced.numbered other (earlier same member)
  · exact ⟨by constructor <;> simp, nofun, fun _ => rfl, fun _ => rfl⟩
  · exact
      { balanced.fair other with
        alive := fun member => (balanced.fair other).alive (earlier differs member)
        sided := fun member => (balanced.fair other).sided (earlier differs member) }
  refine balanced.unread.trans (congrArg _ ?_)
  rw [List.map_append, List.sum_append,
    map_owed_update fun other member => distinct member, List.map_singleton,
    owed_update_self]
  rfl

end Balanced

theorem localID_spec
    (kind : Kind)
    (isClient : Bool)
    (opened : Nat) :
    let id := 4 * opened + (if kind = .bidi then 0 else 2) +
      (if isClient then 0 else 1)
    kindOf id = kind ∧ isClientStream id = isClient ∧ id / 4 = opened := by
  refine ⟨?_, ?_, ?_⟩ <;> cases kind <;> cases isClient <;> simp [kindOf, isClientStream] <;> omega

theorem Balanced.openStream
    (balanced : conn.Balanced)
    (kind : Kind) :
    (conn.openStream kind).Balanced := by
  obtain ⟨sort, client, number⟩ :=
    localID_spec kind conn.isClient (conn.counts kind).opened
  unfold Conn.openStream
  dsimp only
  generalize 4 * (conn.counts kind).opened + (if kind = .bidi then 0 else 2) +
    (if conn.isClient = true then 0 else 1) = id at sort client number ⊢
  have mine : conn.isLocal id = true := by
    rw [isLocal, client, beq_self_eq_true]
  refine (balanced.onCounts (Nat.le_succ _) le_rfl).newStream (fun member => ?_) ?_
  · have below := balanced.numbered id member
    unfold Conn.opened at below
    rw [mine, sort, number] at below
    exact below.false
  · unfold Conn.opened
    dsimp only [Conn.onCounts]
    rw [sort, Function.update_self]
    exact (number.trans_lt (Nat.lt_succ_self _)).trans_eq (if_pos mine).symm

/-- Opening the peer's streams up to a number. -/
theorem balanced_foldl_newStream
    (bounded : sort < 4)
    (count first : Nat)
    (conn : Conn)
    (balanced : conn.Balanced)
    (fresh : ∀ id ∈ conn.known, id % 4 = sort -> id / 4 < first)
    (numbers : first + count ≤ conn.opened sort) :
    let opened := (List.range' first count).foldl
      (fun conn number => conn.newStream (4 * number + sort)) conn
    opened.Balanced ∧ opened.isClient = conn.isClient ∧
      ∀ id, id ∈ conn.known ∨ id % 4 = sort ∧ first ≤ id / 4 ∧
        id / 4 < first + count -> id ∈ opened.known := by
  induction count generalizing first conn with
  | zero => exact ⟨balanced, rfl, fun id member => by grind⟩
  | succ count ih =>
    have kept : (conn.newStream (4 * first + sort)).known = conn.known ++ [4 * first + sort] := rfl
    have number : (4 * first + sort) / 4 < conn.opened (4 * first + sort) := by
      rw [opened_of_mod (show (4 * first + sort) % 4 = sort % 4 by omega)]
      omega
    obtain ⟨after, client, members⟩ := ih (first + 1) (conn.newStream (4 * first + sort))
      (balanced.newStream
        (fun member => by have := fresh _ member (by omega); omega) number)
      (fun id member same => by
        rw [kept, List.mem_append, List.mem_singleton] at member
        rcases member with member | rfl
        · have := fresh id member same
          omega
        · omega)
      (by
        change first + 1 + count ≤ conn.opened sort
        omega)
    refine ⟨after, client, fun id member => members id ?_⟩
    rw [kept, List.mem_append, List.mem_singleton]
    rcases member with member | ⟨same, low, high⟩
    · exact .inl (.inl member)
    · by_cases here : id / 4 = first
      · exact .inl (.inr (by omega))
      · exact .inr ⟨same, by omega, by omega⟩

/-- A frame about a receiving side finds an open stream that has one. -/
theorem Balanced.peerStream
    (balanced : conn.Balanced)
    {opened : Conn}
    (found : conn.peerStream id true = .ok (some opened)) :
    opened.Balanced ∧ id ∈ opened.known ∧
      (opened.streams id).receiving.hasRecv = true := by
  have has {opened : Conn} (balanced : opened.Balanced)
      (member : id ∈ opened.known) (same : opened.isClient = conn.isClient)
      (right : ¬(kindOf id = .uni ∧ conn.isLocal id = true)) :
      (opened.streams id).receiving.hasRecv = true := by
    refine ((balanced.fair id).sided member).trans ?_
    unfold isLocal at right
    cases sort : kindOf id <;> simp_all
  unfold Conn.peerStream transportErr at found
  dsimp only at found
  split at found
  · cases found
  next right =>
  split at found
  · next member =>
    cases found
    exact ⟨balanced, member, has balanced member rfl right⟩
  next absent =>
  split at found
  · split at found <;> cases found
  next peers =>
  split at found
  · cases found
  next fresh =>
  split at found
  · cases found
  cases found
  obtain ⟨after, client, members⟩ := balanced_foldl_newStream
    (Nat.mod_lt id (by decide : 0 < 4)) (id / 4 + 1 - (conn.counts (kindOf id)).peerOpened)
    (conn.counts (kindOf id)).peerOpened
    (conn.onCounts (kindOf id) fun counts =>
      { counts with peerOpened := id / 4 + 1 })
    (balanced.onCounts le_rfl (by dsimp only; omega)) (fun other member same => by
      have below := balanced.numbered other member
      rw [opened_of_mod same] at below
      exact below.trans_eq (if_neg peers))
    (by
      rw [opened_of_mod (Nat.mod_mod id 4)]
      unfold Conn.opened
      dsimp only [Conn.onCounts]
      rw [Function.update_self]
      refine le_of_le_of_eq ?_ (if_neg peers).symm
      dsimp only
      omega)
  have member := members id (.inr ⟨rfl, by omega, by omega⟩)
  exact ⟨after, member, has after member client right⟩

theorem Balanced.receipt
    (balanced : conn.Balanced)
    (member : id ∈ conn.known)
    (settles : Settles conn.flow (conn.streams id).receiving received.reading)
    (calls : List Event) :
    (conn.receipt id received calls).Balanced := by
  have kept : Balanced { conn with
      flow := received.reading.flow
      streams := Function.update conn.streams id
        { conn.streams id with receiving := received.reading.side } } :=
    balanced.replace settles rfl (.inl member)
  have stored : ({ conn with
      flow := received.reading.flow
      events := conn.events ++ calls }.onStream id fun stream =>
        { stream with receiving := received.reading.side }).Balanced :=
    { kept with }
  unfold Conn.receipt
  split
  · exact stored.maybeFinish id
  · exact stored

/-- Telling a stream to stop does no harm while its final size is not known, or
when it is finished anyway. -/
theorem Balanced.stopSendingLocked
    (balanced : conn.Balanced)
    (code : Nat)
    (early : (conn.streams id).receiving.recvFin = none ∨
      (conn.streams id).receiving.recvFinished = true) :
    (conn.stopSendingLocked id code).Balanced := by
  unfold Conn.stopSendingLocked
  dsimp only
  split
  · exact balanced
  next stops =>
  have credited := (balanced.fair id).credited
  refine balanced.replace ⟨rfl, rfl, { credited with
    segments := fun _ member => by cases member
    stopped := fun _ known => ?_ }, rfl⟩ rfl (.inr ⟨rfl, rfl, rfl⟩)
  unfold RecvSide.recvFinished at early
  grind

theorem Balanced.newConn
    (config : Config)
    (isClient : Bool) :
    (newConn config isClient).Balanced where
  nodup := List.nodup_nil
  numbered _ member := by cases member
  fair _ := ⟨by constructor <;> simp [Quic.newConn], nofun, nofun, nofun⟩
  unread := rfl

end Conn

/-! ## Runs -/

/-- No stream is told to stop once its final size is known, unless it is
finished anyway. -/
def StopsInTime (conn : Conn) : Label -> Prop
  | .stopSending id _ =>
    (conn.streams id).receiving.recvFin = none ∨
      (conn.streams id).receiving.recvFinished = true
  | _ => True

instance (conn : Conn) : DecidablePred (StopsInTime conn)
  | .stopSending _ _ => inferInstanceAs (Decidable (_ ∨ _))
  | .openStream _ | .sendDone _ | .stream _ _ _ _ | .resetStream _ _ _ =>
    instDecidableTrue

theorem balanced_step
    {conn next : Conn}
    (balanced : conn.Balanced)
    (inTime : StopsInTime conn label)
    (stepped : step conn label = some next) :
    next.Balanced := by
  unfold step at stepped
  cases label with
  | openStream kind =>
    cases stepped
    exact balanced.openStream kind
  | stopSending id code =>
    cases stepped
    exact balanced.stopSendingLocked code inTime
  | sendDone id =>
    dsimp only at stepped
    split at stepped
    · next member =>
      cases stepped
      have sent : (conn.onStream id fun stream =>
          { stream with sendDone := true }).Balanced :=
        balanced.replace ⟨rfl, rfl, (balanced.fair id).credited, rfl⟩ rfl (.inl member)
      exact sent.maybeFinish id
    · cases stepped
  | stream id _ _ _ | resetStream id _ _ =>
    dsimp only at stepped
    split at stepped
    · cases stepped
    · cases stepped
      exact balanced
    next opened found =>
    obtain ⟨after, member, has⟩ := balanced.peerStream found
    simp only [Conn.onStreamFrame, Conn.onResetStream] at stepped
    split at stepped
    · cases stepped
    · next ok =>
      cases stepped
      refine after.receipt member ?_ _
      first
        | exact RecvSide.settles_onStreamFrame (after.fair id).credited has ok
        | exact RecvSide.settles_onResetStream (after.fair id).credited has ok

/-- While no stream is told to stop once its final size is known, a stream that
was forgotten has been credited for all that it was charged, what the connection
is charged and not credited belongs to its open streams, and without open
streams nothing is missing. -/
theorem no_receive_credit_is_leaked
    {config : Config}
    {isClient : Bool}
    {labels : List Label}
    {conn : Conn}
    (inTime : Transition.Meets step StopsInTime (newConn config isClient) labels)
    (reached : Transition.run step (newConn config isClient) labels = some conn) :
    (∀ id, (conn.streams id).done = true -> (conn.streams id).receiving.hasRecv = true ->
        (conn.streams id).receiving.recvRead = (conn.streams id).receiving.recvHigh) ∧
      conn.flow.recvData = conn.flow.recvConsumed +
        (conn.known.map fun id => (conn.streams id).receiving.recvHigh -
          (conn.streams id).receiving.recvRead).sum ∧
      (conn.known = [] -> conn.flow.recvConsumed = conn.flow.recvData) := by
  have balanced : conn.Balanced := Transition.run_invariant_of_meets
    (fun _ _ _ balanced inTime stepped => balanced_step balanced inTime stepped)
    (.newConn config isClient) inTime reached
  have unread := balanced.unread
  refine ⟨fun id done has => ?_, unread, fun none => ?_⟩
  · have finished := (balanced.fair id).finished done
    refine (balanced.fair id).credited.settled ?_
    simpa [RecvSide.recvFinished, has] using finished
  · rw [none] at unread
    exact unread.symm

/-- A stream that arrives in two halves, the second one first, is read to its
end. -/
theorem no_receive_credit_is_leaked_swapped :
    ∃ conn, Transition.run step (newConn {} false)
        [.stream 2 1 [1] true, .stream 2 0 [0] false] = some conn ∧
      (conn.known = [] ∧ conn.flow.recvData = 2) ∧
      conn.flow.recvConsumed = conn.flow.recvData := by
  obtain ⟨conn, reached, none, charged⟩ : ∃ conn,
      Transition.run step (newConn {} false)
        [.stream 2 1 [1] true, .stream 2 0 [0] false] = some conn ∧
      (conn.known = [] ∧ conn.flow.recvData = 2) :=
    Transition.exists_run_of_any (by decide +kernel)
  exact ⟨conn, reached, ⟨none, charged⟩,
    (no_receive_credit_is_leaked (by decide +kernel) reached).2.2 none⟩

/-- When the stream is told to stop between the halves, the second half is
thrown away, the first one finishes the stream, and the connection is never
credited for the second. -/
theorem stopped_stream_leaks_receive_credit :
    ∃ conn, Transition.run step (newConn {} false)
        [.stream 2 1 [1] true, .stopSending 2 0, .stream 2 0 [0] false] = some conn ∧
      conn.known = [] ∧ (conn.streams 2).done = true ∧
      (conn.streams 2).receiving.recvHigh = 2 ∧
      (conn.streams 2).receiving.recvRead = 1 ∧
      conn.flow.recvData = 2 ∧ conn.flow.recvConsumed = 1 :=
  Transition.exists_run_of_any (by decide +kernel)

end Quic
end Fib
