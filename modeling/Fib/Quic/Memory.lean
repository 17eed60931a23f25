import Fib.Quic.Credit

/-!
# The memory of reassembly

A buffer that holds every byte once holds no more than flow control lets the
peer send.  But beyond a gap it stores what arrives as often as it arrives.
-/

namespace Fib
namespace Quic

/-- The most handshake data that waits for what comes before it. -/
def maxCryptoBuffer : Nat := 64 * 1024

namespace RecvBuffer

/-- How many bytes segments hold. -/
def held (segments : List Segment) : Nat :=
  (segments.map fun segment => segment.data.length).sum

/-- Segments that have no byte in common, in order. -/
abbrev Apart (segments : List Segment) : Prop :=
  segments.Pairwise fun first second => first.off + first.data.length ≤ second.off

/-- The buffer holds every byte at most once. -/
structure Tidy (buffer : RecvBuffer) : Prop where
  buffered : buffer.buffered = held buffer.segments
  apart : Apart buffer.segments
  beyond : ∀ segment ∈ buffer.segments, buffer.offset ≤ segment.off

/-- What a frame brings is not held. -/
def Clear
    (buffer : RecvBuffer)
    (frame : Segment) : Prop :=
  ∀ segment ∈ buffer.segments, frame.off + frame.data.length ≤ segment.off ∨
    segment.off + segment.data.length ≤ frame.off

instance (buffer : RecvBuffer) (frame : Segment) : Decidable (buffer.Clear frame) :=
  inferInstanceAs (Decidable (∀ _ ∈ _, _))

/-- Segments between two offsets fit between them. -/
theorem held_le
    {segments : List Segment}
    {offset bound : Nat}
    (apart : Apart segments)
    (low : offset ≤ bound)
    (beyond : ∀ segment ∈ segments, offset ≤ segment.off)
    (within : ∀ segment ∈ segments, segment.off + segment.data.length ≤ bound) :
    offset + held segments ≤ bound := by
  induction segments generalizing offset with
  | nil => exact low
  | cons first rest ih =>
    have later := List.pairwise_cons.mp apart
    rw [List.forall_mem_cons] at beyond within
    have := ih later.2 within.1 later.1 within.2
    simp only [held, List.map_cons, List.sum_cons] at this ⊢
    omega

theorem sorted_of_apart
    {segments : List Segment}
    (apart : Apart segments) :
    Sorted segments :=
  apart.imp fun before => (Nat.le_add_right _ _).trans before

theorem held_place
    (segment : Segment)
    (segments : List Segment) :
    held (place segment segments) = segment.data.length + held segments := by
  induction segments with
  | nil => rfl
  | cons first rest ih =>
    unfold place
    split
    · rfl
    · simp only [held, List.map_cons, List.sum_cons] at ih ⊢
      omega

theorem apart_place
    {segment : Segment}
    {segments : List Segment}
    (apart : Apart segments)
    (nonempty : 0 < segment.data.length)
    (clear : ∀ other ∈ segments, segment.off + segment.data.length ≤ other.off ∨
      other.off + other.data.length ≤ segment.off) :
    Apart (place segment segments) := by
  induction segments with
  | nil => exact List.pairwise_singleton _ _
  | cons first rest ih =>
    have later := List.pairwise_cons.mp apart
    rw [List.forall_mem_cons] at clear
    unfold place
    split
    · refine List.pairwise_cons.mpr ⟨fun other present => ?_, apart⟩
      rcases List.mem_cons.mp present with rfl | behind
      · omega
      · have := later.1 other behind
        omega
    · refine List.pairwise_cons.mpr ⟨fun other present => ?_, ih later.2 clear.2⟩
      rcases mem_place.mp present with rfl | present
      · omega
      · exact later.1 other present

theorem buffered_popAll
    (segments : List Segment)
    (offset : Nat) :
    (popAll offset (held segments) segments).2.buffered =
      held (popAll offset (held segments) segments).2.segments := by
  induction segments generalizing offset with
  | nil => rfl
  | cons first rest ih =>
    have less : held (first :: rest) - first.data.length = held rest := by
      simp [held]
    unfold popAll
    rw [less]
    dsimp only
    split_ifs
    · rfl
    · exact ih offset
    · exact ih _

/-- A frame that brings nothing held keeps the buffer tidy. -/
theorem Tidy.receive
    {buffer : RecvBuffer}
    (tidy : buffer.Tidy)
    {frame : Segment}
    (clear : buffer.Clear frame) :
    (buffer.receive frame.off frame.data).2.Tidy := by
  have pushed : (buffer.push frame.off frame.data).buffered =
        held (buffer.push frame.off frame.data).segments ∧
      Apart (buffer.push frame.off frame.data).segments := by
    unfold push
    split_ifs with stale
    · exact ⟨tidy.buffered, tidy.apart⟩
    · rw [← List.length_eq_zero_iff] at stale
      refine ⟨?_, apart_place tidy.apart ?_ fun other present => ?_⟩
      · rw [held_place, tidy.buffered, Nat.add_comm]
      · rw [List.length_drop]
        omega
      · have := clear other present
        simp only [List.length_drop]
        omega
  unfold RecvBuffer.receive
  dsimp only
  rw [pushed.1]
  have popped := popped_popAll (sorted_of_apart pushed.2)
    (buffer.push frame.off frame.data).offset (held (buffer.push frame.off frame.data).segments)
  exact ⟨buffered_popAll _ _, pushed.2.sublist popped.suffix.sublist,
    fun segment present => (popped.beyond segment present).le⟩

end RecvBuffer

/-! ## Handshake data -/

/-- `handleCrypto`, as long as TLS takes the data. -/
def handleCrypto
    (buffer : RecvBuffer)
    (frame : Segment) : Option RecvBuffer :=
  if buffer.offset + maxCryptoBuffer < frame.off + frame.data.length then none
  else some (buffer.receive frame.off frame.data).2

/-- A tidy buffer of handshake data. -/
structure RecvBuffer.Short
    (buffer : RecvBuffer) : Prop extends buffer.Tidy where
  within : ∀ segment ∈ buffer.segments,
    segment.off + segment.data.length ≤ buffer.offset + maxCryptoBuffer

/-! ## Stream data -/

/-- A STREAM frame, with the flow control of the connection when it arrives. -/
structure StreamFrame extends Segment where
  flow : Flow
  fin : Bool := false

/-- Take in a STREAM frame that is no error. -/
def acceptFrame
    (config : Config)
    (side : RecvSide)
    (frame : StreamFrame) : Option RecvSide :=
  match side.onStreamFrame config frame.flow frame.off frame.data frame.fin with
  | .error _ => none
  | .ok receipt => some receipt.reading.side

/-- The receiving side of a new stream. -/
def RecvSide.fresh (config : Config) : RecvSide :=
  { hasRecv := true, recvMax := config.streamReceiveWindow }

theorem Reading.recvMax_consumed
    (config : Config)
    (reading : Reading)
    (offset : Nat) :
    reading.side.recvMax ≤ (reading.consumed config offset).side.recvMax ∧
      (reading.consumed config offset).side.recvMax ≤
        max reading.side.recvMax (offset + config.streamReceiveWindow) := by
  dsimp only [consumed]
  split
  · next raises =>
    simp only [Bool.and_eq_true, decide_eq_true_eq] at raises
    omega
  · exact ⟨le_rfl, le_max_left _ _⟩

theorem Reading.recvMax_deliver
    (config : Config)
    (chunks : List Bytes)
    (offset : Nat)
    (reading : Reading) :
    reading.side.recvMax ≤ (deliver config chunks offset reading).side.recvMax ∧
      (deliver config chunks offset reading).side.recvMax ≤ max reading.side.recvMax
        (offset + (chunks.map List.length).sum + config.streamReceiveWindow) := by
  induction chunks generalizing offset reading with
  | nil => exact ⟨le_rfl, le_max_left _ _⟩
  | cons chunk rest ih =>
    have later := ih (offset + chunk.length) (reading.consumed config (offset + chunk.length))
    have here := reading.recvMax_consumed config (offset + chunk.length)
    rw [deliver, List.map_cons, List.sum_cons]
    omega

namespace RecvSide

variable {config : Config} {flow : Flow} {side : RecvSide}

/-- What reading a frame's data does to the side. -/
theorem readData_spec
    (config : Config)
    (flow : Flow)
    (side : RecvSide)
    (off : Nat)
    (data : Bytes) :
    ∃ recvMax maxDataPending recvRead, side.recvMax ≤ recvMax ∧
      recvMax ≤ max side.recvMax
        ((side.recv.receive off data).2.offset + config.streamReceiveWindow) ∧
      (side.readData config flow off data).reading.side =
        { side with
          recv := (side.recv.receive off data).2
          recvDone := side.recvDone || side.recvFin == some (side.recv.receive off data).2.offset
          recvMax, maxDataPending, recvRead } := by
  have advanced := side.recv.offset_receive off data
  obtain ⟨last, _, -, -, recvMax, maxDataPending, same⟩ := Reading.consumes_deliver config
    (side.recv.receive off data).1 side.recv.offset { flow, side }
  have bounds := Reading.recvMax_deliver config (side.recv.receive off data).1 side.recv.offset
    { flow, side }
  unfold readData
  generalize side.recv.receive off data = received at *
  dsimp only
  generalize Reading.deliver config received.1 side.recv.offset { flow, side } = delivered at *
  obtain ⟨after, changed⟩ := delivered
  subst same
  rw [← advanced] at bounds
  split
  · next ended =>
    refine ⟨recvMax, maxDataPending, max (max side.recvRead last) received.2.offset,
      bounds.1, bounds.2, ?_⟩
    simp [Reading.consumed, ended]
  · next goesOn =>
    exact ⟨recvMax, maxDataPending, max side.recvRead last, bounds.1, bounds.2, by simp [goesOn]⟩

/-- A receiving side that holds no byte twice, and its window. -/
structure Bounded
    (config : Config)
    (side : RecvSide) : Prop where
  credited : side.Credited
  hasRecv : side.hasRecv = true
  tidy : side.recv.Tidy
  unstopped : side.peerReset = false ∧ side.stopSent = false
  limit : side.recvHigh ≤ side.recvMax
  window : side.recvMax ≤ side.recv.offset + config.streamReceiveWindow

theorem Bounded.onStreamFrame
    (bounded : Bounded config side)
    {frame : Segment}
    (clear : side.recv.Clear frame)
    (ok : side.onStreamFrame config flow frame.off frame.data fin = .ok receipt) :
    Bounded config receipt.reading.side := by
  obtain ⟨-, -, credited, hasRecv⟩ := settles_onStreamFrame bounded.credited bounded.hasRecv ok
  have window := bounded.window
  obtain ⟨-, -, charged, charges, made⟩ := onStreamFrame_eq_ok ok
  have grown : (side.grow (frame.off + frame.data.length) fin).recvHigh ≤ side.recvMax :=
    max_le bounded.limit (le_recvMax_of_charge charges)
  split at made
  · next done =>
    simp only [bounded.unstopped, Bool.or_false] at done
    subst made
    refine ⟨credited, hasRecv.trans bounded.hasRecv, bounded.tidy, bounded.unstopped, ?_, ?_⟩
    · simpa [discardData, Reading.consumed, grow, done] using grown
    · simpa [discardData, Reading.consumed, grow, done] using window
  · subst made
    obtain ⟨recvMax, _, _, above, below, same⟩ := readData_spec config _
      (side.grow (frame.off + frame.data.length) fin) frame.off frame.data
    have advanced := side.recv.offset_receive frame.off frame.data
    refine ⟨credited, hasRecv.trans bounded.hasRecv, ?_, ?_, ?_, ?_⟩
    all_goals rw [same]
    · exact bounded.tidy.receive clear
    · exact bounded.unstopped
    · exact grown.trans above
    · dsimp only [grow] at below ⊢
      omega

theorem Bounded.buffered_le (bounded : Bounded config side) :
    side.recv.buffered ≤ side.recvHigh - side.recv.offset ∧
      side.recv.buffered ≤ config.streamReceiveWindow := by
  have total := RecvBuffer.held_le bounded.tidy.apart bounded.credited.offset bounded.tidy.beyond
    bounded.credited.segments
  have limit := bounded.limit
  have window := bounded.window
  rw [bounded.tidy.buffered]
  omega

end RecvSide

/-- While no frame brings what is held, a stream holds no more than its window,
and a space no more handshake data than its bound. -/
theorem reassembly_holds_no_more_than_window (config : Config) :
    (∀ frames side, Transition.Meets (acceptFrame config)
        (fun side frame => side.recv.Clear frame.toSegment) (.fresh config) frames ->
      Transition.run (acceptFrame config) (.fresh config) frames = some side ->
        side.recv.buffered ≤ side.recvHigh - side.recv.offset ∧
          side.recv.buffered ≤ config.streamReceiveWindow) ∧
      ∀ frames buffer, Transition.Meets handleCrypto RecvBuffer.Clear {} frames ->
        Transition.run handleCrypto {} frames = some buffer ->
          buffer.buffered ≤ maxCryptoBuffer := by
  refine ⟨fun frames side clear reached => ?_, fun frames buffer clear reached => ?_⟩
  · have start : RecvSide.Bounded config (.fresh config) :=
      ⟨⟨le_rfl, by simp [RecvSide.fresh], le_rfl, by simp [RecvSide.fresh],
        by simp [RecvSide.fresh],
        nofun, nofun⟩, rfl, ⟨rfl, .nil, nofun⟩, ⟨rfl, rfl⟩, Nat.zero_le _, by simp [RecvSide.fresh]⟩
    refine (Transition.run_invariant_of_meets (fun before frame after bounded fits taken => ?_)
      start clear reached).buffered_le
    unfold acceptFrame at taken
    split at taken
    · cases taken
    next ok =>
    cases taken
    exact bounded.onStreamFrame fits ok
  · have short : buffer.Short := by
      refine Transition.run_invariant_of_meets (fun before frame after short fits taken => ?_)
        ⟨⟨rfl, .nil, by simp⟩, by simp⟩ clear reached
      unfold handleCrypto at taken
      split at taken
      · cases taken
      next room =>
      cases taken
      have advanced := before.offset_receive frame.off frame.data
      refine ⟨short.toTidy.receive fits, fun segment present => ?_⟩
      have := (RecvBuffer.receive_within short.within (Nat.le_add_right _ _) (not_lt.mp room)).2
        segment present
      omega
    have total := RecvBuffer.held_le short.apart (Nat.le_add_right _ _) short.beyond short.within
    rw [short.buffered]
    omega

/-- Frames of a stream and of a handshake, last to first, and what waits of
them. -/
theorem reassembly_holds_no_more_than_window_backwards :
    (∃ side, Transition.run (acceptFrame {}) (.fresh {})
        [⟨⟨4, [5, 6]⟩, ⟨100, 0, 0, false⟩, false⟩, ⟨⟨2, [3, 4]⟩, ⟨100, 0, 0, false⟩, false⟩] =
          some side ∧ side.recv.buffered = 4 ∧
      side.recv.buffered ≤ side.recvHigh - side.recv.offset) ∧
      ∃ buffer, Transition.run handleCrypto {} [⟨4, [5, 6]⟩, ⟨1, [2, 3]⟩, ⟨0, [1]⟩] =
          some buffer ∧ buffer.offset = 3 ∧ buffer.buffered = 2 ∧
        buffer.buffered ≤ maxCryptoBuffer := by
  have handshake : ∃ buffer, Transition.run handleCrypto {}
      [⟨4, [5, 6]⟩, ⟨1, [2, 3]⟩, ⟨0, [1]⟩] = some buffer ∧
        buffer.offset = 3 ∧ buffer.buffered = 2 :=
    Transition.exists_run_of_any (by decide)
  obtain ⟨buffer, reached, offset, buffered⟩ := handshake
  refine ⟨⟨_, rfl, rfl, ?_⟩, buffer, reached, offset, buffered, ?_⟩
  · exact ((reassembly_holds_no_more_than_window {}).1
      [⟨⟨4, [5, 6]⟩, ⟨100, 0, 0, false⟩, false⟩, ⟨⟨2, [3, 4]⟩, ⟨100, 0, 0, false⟩, false⟩] _
      (by decide) rfl).1
  · exact (reassembly_holds_no_more_than_window {}).2 _ _ (by decide) reached

/-- Handshake data beyond a gap is held as often as it arrives. -/
theorem run_handleCrypto_twice
    {data : Bytes}
    (nonempty : data ≠ [])
    (fits : 1 + data.length ≤ maxCryptoBuffer) :
    Transition.run handleCrypto {} [⟨1, data⟩, ⟨1, data⟩] =
      some ⟨0, [⟨1, data⟩, ⟨1, data⟩], data.length + data.length⟩ := by
  simp [Transition.run, handleCrypto, RecvBuffer.receive, RecvBuffer.push, RecvBuffer.place,
    RecvBuffer.popAll, nonempty, not_lt.mpr fits]

/-- The same byte of a stream beyond a gap, again and again; and the same
handshake data, all that may wait, twice. -/
theorem repeated_frames_are_held_again :
    (∃ side, Transition.run (acceptFrame {}) (.fresh {})
        (List.replicate 3 ⟨⟨1, [0]⟩, ⟨100, 0, 0, false⟩, false⟩) = some side ∧
      side.recvHigh - side.recv.offset < side.recv.buffered) ∧
      ∃ data buffer, Transition.run handleCrypto {} [⟨1, data⟩, ⟨1, data⟩] = some buffer ∧
        maxCryptoBuffer < buffer.buffered := by
  refine ⟨Transition.exists_run_of_any (by decide), List.replicate 65535 0, _,
    run_handleCrypto_twice (List.ne_nil_of_length_pos ?_) ?_, ?_⟩
  all_goals
    rw [List.length_replicate]
    decide

end Quic
end Fib
