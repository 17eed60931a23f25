import Fib.Quic.Receiving
import Mathlib.Algebra.Order.Ring.Nat
import Mathlib.Data.List.Induction

/-!
# Reassembly

Whatever order, overlaps and repeats frames arrive with, what has been delivered
is the longest prefix that they cover, each byte as a frame gave it for its
offset.
-/

namespace Fib
namespace Quic

/-- A segment gives a byte for an offset. -/
def Gives
    (segments : List Segment)
    (i : Nat)
    (byte : UInt8) : Prop :=
  ∃ segment ∈ segments, segment.off ≤ i ∧ segment.data[i - segment.off]? = some byte

/-- A segment has a byte for an offset. -/
def Covers
    (segments : List Segment)
    (i : Nat) : Prop :=
  ∃ segment ∈ segments, segment.off ≤ i ∧ i < segment.off + segment.data.length

theorem Gives.mono
    (sub : first ⊆ second)
    (gives : Gives first i byte) :
    Gives second i byte := by
  obtain ⟨segment, present, given⟩ := gives
  exact ⟨segment, sub present, given⟩

theorem covers_of_gives
    (gives : Gives segments i byte) :
    Covers segments i := by
  obtain ⟨segment, present, low, given⟩ := gives
  have := (List.getElem?_eq_some_iff.mp given).1
  exact ⟨segment, present, low, by omega⟩

namespace RecvBuffer

theorem mem_place
    {segment other : Segment}
    {segments : List Segment} :
    other ∈ place segment segments ↔ other = segment ∨ other ∈ segments := by
  induction segments with
  | nil => simp [place]
  | cons first rest ih =>
    unfold place
    split
    · rw [List.mem_cons]
    · rw [List.mem_cons, ih, List.mem_cons]
      exact or_left_comm

/-- The segments are in the order of their offsets. -/
abbrev Sorted (segments : List Segment) : Prop :=
  segments.Pairwise (·.off ≤ ·.off)

theorem sorted_place
    {segment : Segment}
    {segments : List Segment}
    (sorted : Sorted segments) :
    Sorted (place segment segments) := by
  induction segments with
  | nil => exact List.pairwise_singleton _ _
  | cons first rest ih =>
    have later := List.pairwise_cons.mp sorted
    unfold place
    split
    · next before =>
      refine List.pairwise_cons.mpr ⟨fun other present => ?_, sorted⟩
      rcases List.mem_cons.mp present with rfl | behind
      · exact before.le
      · exact before.le.trans (later.1 other behind)
    · next behind =>
      refine List.pairwise_cons.mpr ⟨fun other present => ?_, ih later.2⟩
      rcases mem_place.mp present with rfl | present
      · exact Nat.le_of_not_lt behind
      · exact later.1 other present

/-- What popping delivers from `offset` on, and leaves behind. -/
structure Popped
    (offset : Nat)
    (segments : List Segment)
    (chunks : List Bytes)
    (after : RecvBuffer) : Prop where
  length : offset + chunks.flatten.length = after.offset
  bytes : ∀ j byte, chunks.flatten[j]? = some byte -> Gives segments (offset + j) byte
  suffix : after.segments <:+ segments
  above : ∀ i, after.offset ≤ i -> Covers segments i -> Covers after.segments i
  beyond : ∀ segment ∈ after.segments, after.offset < segment.off

theorem popped_popAll
    {segments : List Segment}
    (sorted : Sorted segments)
    (offset buffered : Nat) :
    Popped offset segments (popAll offset buffered segments).1
      (popAll offset buffered segments).2 := by
  induction segments generalizing offset buffered with
  | nil =>
    exact ⟨rfl, by simp [popAll], List.suffix_rfl, fun _ _ covers => covers,
      by simp [popAll]⟩
  | cons first rest ih =>
    have later := List.pairwise_cons.mp sorted
    -- What lies beyond the first segment is left to the others.
    have behind {after : Nat} (low : first.off + first.data.length ≤ after) {i : Nat}
        (high : after ≤ i) (covers : Covers (first :: rest) i) : Covers rest i := by
      obtain ⟨segment, present, bounds⟩ := covers
      rcases List.mem_cons.mp present with rfl | present
      · omega
      · exact ⟨segment, present, bounds⟩
    unfold popAll
    dsimp only
    split_ifs with gap stale
    · refine ⟨rfl, by simp, List.suffix_rfl, fun _ _ covers => covers, fun segment present => ?_⟩
      rcases List.mem_cons.mp present with rfl | present
      · exact gap
      · exact gap.trans_le (later.1 segment present)
    · have popped := ih later.2 offset (buffered - first.data.length)
      have advanced := popped.length
      exact ⟨advanced, fun j byte given =>
          (popped.bytes j byte given).mono (List.subset_cons_self _ _),
        popped.suffix.trans (List.suffix_cons _ _),
        fun i high covers => popped.above i high (behind (by omega) high covers), popped.beyond⟩
    · have popped := ih later.2 (first.off + first.data.length) (buffered - first.data.length)
      have advanced := popped.length
      dsimp only
      refine ⟨?_, fun j byte given => ?_, popped.suffix.trans (List.suffix_cons _ _),
        fun i high covers => popped.above i high (behind (by omega) high covers), popped.beyond⟩
      · rw [List.flatten_cons, List.length_append, List.length_drop]
        omega
      rw [List.flatten_cons, List.getElem?_append, List.length_drop] at given
      split at given
      · next within =>
        rw [List.getElem?_drop] at given
        refine ⟨first, List.mem_cons_self, by omega, ?_⟩
        rwa [Nat.sub_add_comm (by omega)]
      · next past =>
        have gives := (popped.bytes _ byte given).mono (List.subset_cons_self first rest)
        have same : first.off + first.data.length +
            (j - (first.data.length - (offset - first.off))) = offset + j := by omega
        rwa [same] at gives

/-- A stream as frames have made it: what was delivered, and the buffer. -/
structure Assembled
    (frames : List Segment)
    (delivered : Bytes)
    (buffer : RecvBuffer) :
    Prop where
  length : delivered.length = buffer.offset
  bytes : ∀ i byte, delivered[i]? = some byte -> Gives frames i byte
  held : ∀ i byte, Gives buffer.segments i byte -> Gives frames i byte
  above : ∀ i, buffer.offset ≤ i -> Covers frames i -> Covers buffer.segments i
  beyond : ∀ segment ∈ buffer.segments, buffer.offset < segment.off
  sorted : Sorted buffer.segments

theorem assembled_empty : Assembled [] [] {} :=
  ⟨rfl, by simp, by simp [Gives], by simp [Covers], by simp, .nil⟩

/-- A frame stored but not yet popped. -/
theorem Assembled.push
    (assembled : Assembled frames delivered buffer)
    (off : Nat)
    (data : Bytes) :
    (buffer.push off data).offset = buffer.offset ∧ Sorted (buffer.push off data).segments ∧
      (∀ i byte, Gives (buffer.push off data).segments i byte ->
        Gives (frames ++ [⟨off, data⟩]) i byte) ∧
      ∀ i, buffer.offset ≤ i -> Covers (frames ++ [⟨off, data⟩]) i ->
        Covers (buffer.push off data).segments i := by
  have old (i : Nat) (byte : UInt8) (gives : Gives buffer.segments i byte) :
      Gives (frames ++ [⟨off, data⟩]) i byte :=
    (assembled.held i byte gives).mono (List.subset_append_left _ _)
  have split {i : Nat} (covers : Covers (frames ++ [⟨off, data⟩]) i) :
      Covers frames i ∨ off ≤ i ∧ i < off + data.length := by
    obtain ⟨segment, present, bounds⟩ := covers
    rcases List.mem_append.mp present with present | last
    · exact .inl ⟨segment, present, bounds⟩
    · cases List.mem_singleton.mp last
      exact .inr bounds
  unfold RecvBuffer.push
  split_ifs with stale
  · refine ⟨rfl, assembled.sorted, old, fun i high covers => ?_⟩
    rcases split covers with earlier | here
    · exact assembled.above i high earlier
    · rcases stale with stale | rfl
      · omega
      · simp at here
        omega
  · refine ⟨rfl, sorted_place assembled.sorted, fun i byte gives => ?_, fun i high covers => ?_⟩
    · obtain ⟨segment, present, low, given⟩ := gives
      rcases mem_place.mp present with rfl | present
      · dsimp only at low given
        rw [List.getElem?_drop] at given
        refine ⟨⟨off, data⟩, by simp, by dsimp only; omega, ?_⟩
        rwa [show i - off = buffer.offset - off + (i - max off buffer.offset) by omega]
      · exact old i byte ⟨segment, present, low, given⟩
    · rcases split covers with earlier | here
      · obtain ⟨segment, present, bounds⟩ := assembled.above i high earlier
        exact ⟨segment, mem_place.mpr (.inr present), bounds⟩
      · refine ⟨_, mem_place.mpr (.inl rfl), ?_⟩
        dsimp only
        rw [List.length_drop]
        omega

/-- Another frame keeps the stream assembled. -/
theorem Assembled.receive
    (assembled : Assembled frames delivered buffer)
    (off : Nat)
    (data : Bytes) :
    Assembled (frames ++ [⟨off, data⟩]) (delivered ++ (buffer.receive off data).1.flatten)
      (buffer.receive off data).2 := by
  obtain ⟨same, sorted, held, above⟩ := assembled.push off data
  have popped := popped_popAll sorted (buffer.push off data).offset (buffer.push off data).buffered
  change Popped _ _ (buffer.receive off data).1 (buffer.receive off data).2 at popped
  rw [same] at popped
  have advanced := popped.length
  refine ⟨?_, fun i byte given => ?_,
    fun i byte gives => held i byte (gives.mono popped.suffix.subset),
    fun i high covers => popped.above i high (above i (by omega) covers), popped.beyond,
    sorted.sublist popped.suffix.sublist⟩
  · rw [List.length_append, assembled.length, advanced]
  rw [List.getElem?_append, assembled.length] at given
  split at given
  · exact (assembled.bytes i byte given).mono (List.subset_append_left _ _)
  · next past =>
    have gives := held _ byte (popped.bytes _ byte given)
    rwa [Nat.add_sub_cancel' (Nat.le_of_not_lt past)] at gives

/-- Take in frames one after the other: the chunks popped, and the buffer. -/
def receiveAll (frames : List Segment) : List Bytes × RecvBuffer :=
  frames.foldl
    (fun state frame =>
      let received := state.2.receive frame.off frame.data
      (state.1 ++ received.1, received.2))
    ([], {})

theorem assembled_receiveAll (frames : List Segment) :
    Assembled frames (receiveAll frames).1.flatten (receiveAll frames).2 := by
  induction frames using List.reverseRecOn with
  | nil => exact assembled_empty
  | append_singleton frames frame ih =>
    have next := ih.receive frame.off frame.data
    rw [receiveAll, List.foldl_append, List.foldl_cons]
    rwa [← List.flatten_append] at next

/-- Of frames that agree with a stream, the longest prefix that they cover is
delivered. -/
theorem longest_covered_prefix_is_delivered
    {stream : Bytes}
    {frames : List Segment}
    (agree : ∀ frame ∈ frames, frame.data <+: stream.drop frame.off) :
    (receiveAll frames).1.flatten = stream.take (receiveAll frames).2.offset ∧
      (receiveAll frames).2.offset = (receiveAll frames).1.flatten.length ∧
      (∀ i < (receiveAll frames).2.offset, Covers frames i) ∧
      ¬Covers frames (receiveAll frames).2.offset := by
  have assembled := assembled_receiveAll frames
  have length := assembled.length
  have given {i : Nat} (below : i < (receiveAll frames).2.offset) :
      ∃ byte, (receiveAll frames).1.flatten[i]? = some byte ∧ Gives frames i byte :=
    have found := List.getElem?_eq_getElem (length ▸ below)
    ⟨_, found, assembled.bytes i _ found⟩
  refine ⟨List.ext_getElem? fun i => ?_, length.symm, fun i below => ?_, fun covers => ?_⟩
  · rw [List.getElem?_take]
    split
    · next below =>
      obtain ⟨byte, found, frame, present, low, gives⟩ := given below
      obtain ⟨tail, same⟩ := agree frame present
      have agrees : (stream.drop frame.off)[i - frame.off]? = some byte := by
        rw [← same, List.getElem?_append_left (List.getElem?_eq_some_iff.mp gives).1, gives]
      rw [List.getElem?_drop, Nat.add_sub_cancel' low] at agrees
      rw [found, agrees]
    · next past => exact List.getElem?_eq_none (by omega)
  · obtain ⟨byte, -, gives⟩ := given below
    exact covers_of_gives gives
  · obtain ⟨segment, present, low, -⟩ := assembled.above _ le_rfl covers
    exact absurd (assembled.beyond segment present) (Nat.not_lt.mpr low)

/-- Frames that overlap and come last to first. -/
theorem longest_covered_prefix_is_delivered_backwards :
    (receiveAll [⟨2, [3, 4]⟩, ⟨1, [2, 3]⟩, ⟨5, [6]⟩, ⟨0, [1]⟩]).1.flatten = [1, 2, 3, 4] :=
  (@longest_covered_prefix_is_delivered [1, 2, 3, 4, 5, 6] _ (by decide)).1

end RecvBuffer

end Quic
end Fib
