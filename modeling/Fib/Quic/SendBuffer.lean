import Fib.Library.Bytes
import Fib.Library.Transition
import Mathlib.Algebra.Order.Ring.Nat
import Mathlib.Data.List.TakeDrop
import Mathlib.Tactic.Common

/-!
# What a stream has sent

A stream keeps what it has been given to send until the peer acknowledges it.
The acknowledged ranges beyond the first byte kept, and the lost ones to send
again, are lists of spans that `addSpan` keeps sorted and apart.
-/

namespace Fib
namespace Quic

/-- The offsets from `off` up to `stop`, which is not one of them. -/
structure Span where
  off : Nat
  stop : Nat
  deriving DecidableEq

def Span.Has
    (span : Span)
    (offset : Nat) : Prop :=
  span.off ≤ offset ∧ offset < span.stop

/-- Take the spans that a span reaches into it. -/
def absorb (s : Span) : List Span -> Span × List Span
  | [] => (s, [])
  | span :: rest =>
    if span.off ≤ s.stop then absorb ⟨min s.off span.off, max s.stop span.stop⟩ rest
    else (s, span :: rest)

/-- Merge a span into spans that are sorted.  The search is for the first span
that does not end before it. -/
def addSpan
    (spans : List Span)
    (s : Span) : List Span :=
  if s.stop ≤ s.off then spans
  else
    let i := spans.findIdx fun span => s.off ≤ span.stop
    let absorbed := absorb s (spans.drop i)
    spans.take i ++ absorbed.1 :: absorbed.2

/-! ## What the spans cover -/

def Spanned
    (spans : List Span)
    (offset : Nat) : Prop :=
  ∃ span ∈ spans, span.Has offset

@[simp] theorem spanned_nil : ¬Spanned [] offset := by
  simp [Spanned]

@[simp] theorem spanned_cons :
    Spanned (span :: rest) offset ↔ span.Has offset ∨ Spanned rest offset := by
  simp [Spanned]

/-- Spans that are sorted and disjoint and do not touch. -/
@[mk_iff] structure Separate (spans : List Span) : Prop where
  apart : spans.Pairwise fun first second => first.stop < second.off
  valid : ∀ span ∈ spans, span.off ≤ span.stop

theorem separate_cons :
    Separate (span :: rest) ↔
      (∀ later ∈ rest, span.stop < later.off) ∧ span.off ≤ span.stop ∧ Separate rest := by
  simp only [separate_iff, List.pairwise_cons, List.forall_mem_cons]
  tauto

/-- What merging a span does to separate spans. -/
structure Merged
    (s : Span)
    (before after : List Span) : Prop where
  separate : Separate after
  covers : ∀ offset, Spanned after offset ↔ Spanned before offset ∨ s.Has offset
  grown : ∀ span ∈ after,
    span ∈ before ∨ (span.off ≤ s.off ∧ s.off < s.stop ∧ s.stop ≤ span.stop)
  above : ∀ bound < s.off, (∀ span ∈ before, bound < span.off) -> ∀ span ∈ after, bound < span.off

theorem Merged.nonempty
    (merged : Merged s before after)
    (nonempty : ∀ span ∈ before, span.off < span.stop) :
    ∀ span ∈ after, span.off < span.stop := by
  intro span member
  rcases merged.grown span member with old | around
  · exact nonempty span old
  · omega

theorem merged_absorb
    (separate : Separate spans)
    (some : s.off < s.stop)
    (reaches : ∀ span ∈ spans, s.off ≤ span.stop) :
    Merged s spans ((absorb s spans).1 :: (absorb s spans).2) := by
  induction spans generalizing s with
  | nil =>
    refine ⟨separate_cons.mpr ⟨by simp [absorb], some.le, separate⟩, ?_, ?_, ?_⟩
    all_goals simp_all [absorb]
  | cons span rest ih =>
    obtain ⟨apart, valid, others⟩ := separate_cons.mp separate
    rw [List.forall_mem_cons] at reaches
    unfold absorb
    split
    · next touches =>
      have merged := @ih ⟨min s.off span.off, max s.stop span.stop⟩ others
        (by dsimp only; omega) fun later member =>
          (Nat.min_le_left _ _).trans (reaches.2 later member)
      refine ⟨merged.separate, fun offset => ?_, fun later member => ?_,
        fun bound below least => ?_⟩
      · have hull : Span.Has ⟨min s.off span.off, max s.stop span.stop⟩ offset ↔
            s.Has offset ∨ span.Has offset := by
          simp only [Span.Has]
          omega
        rw [merged.covers, hull, spanned_cons]
        tauto
      · refine (merged.grown later member).imp (List.mem_cons_of_mem _) fun around => ?_
        dsimp only at around
        omega
      · rw [List.forall_mem_cons] at least
        exact merged.above bound (lt_min below least.1) least.2
    · next beyond =>
      refine ⟨separate_cons.mpr ⟨?_, some.le, separate⟩, fun offset => ?_, ?_, ?_⟩
      · rw [List.forall_mem_cons]
        exact ⟨not_le.mp beyond, fun later member =>
          (not_le.mp beyond).trans (valid.trans_lt (apart later member))⟩
      · rw [spanned_cons, or_comm]
      · exact List.forall_mem_cons.mpr
          ⟨.inr ⟨le_rfl, some, le_rfl⟩, fun later member => .inl member⟩
      · exact fun bound below least => List.forall_mem_cons.mpr ⟨below, least⟩

theorem merged_addSpan
    (separate : Separate spans)
    (s : Span) :
    Merged s spans (addSpan spans s) := by
  unfold addSpan
  split
  · next empty =>
    refine ⟨separate, fun offset => ?_, fun _ => .inl, fun _ _ least => least⟩
    have : ¬s.Has offset := by
      rw [Span.Has]
      omega
    simp only [this, or_false]
  next some =>
  rw [not_le] at some
  induction spans with
  | nil => exact merged_absorb separate some (by simp)
  | cons span rest ih =>
    obtain ⟨apart, valid, others⟩ := separate_cons.mp separate
    rw [List.findIdx_cons]
    by_cases reached : s.off ≤ span.stop
    · simp only [reached, decide_true, cond_true, List.drop_zero, List.take_zero, List.nil_append]
      refine merged_absorb separate some
        (List.forall_mem_cons.mpr ⟨reached, fun later member => ?_⟩)
      have := apart later member
      have := others.valid later member
      omega
    simp only [reached, decide_false, cond_false, List.drop_succ_cons, List.take_succ_cons,
      List.cons_append]
    have merged := ih others
    refine ⟨separate_cons.mpr ⟨merged.above _ (not_le.mp reached) apart, valid, merged.separate⟩,
      fun offset => ?_, ?_, fun bound below least => ?_⟩
    · rw [spanned_cons, spanned_cons, merged.covers, or_assoc]
    · refine List.forall_mem_cons.mpr ⟨.inl List.mem_cons_self, fun later member => ?_⟩
      exact (merged.grown later member).imp_left (List.mem_cons_of_mem _)
    · rw [List.forall_mem_cons] at least ⊢
      exact ⟨least.1, merged.above bound below least.2⟩

/-! ## The buffer -/

/-- What has been written and not been acknowledged up to some byte, from offset
`base` on. -/
structure SendBuffer where
  base : Nat := 0
  buf : Bytes := []
  lost : List Span := []
  acked : List Span := []

namespace SendBuffer

variable (b : SendBuffer)

/-- The peer has the `n` bytes from `off` on.  A range beyond what was written
makes the slice of the buffer panic. -/
def onAck (off n : Nat) : Option SendBuffer :=
  match addSpan b.acked ⟨off, off + n⟩ with
  | [] => some { b with acked := [] }
  | first :: rest =>
    if b.base < first.off then some { b with acked := first :: rest }
    else if first.stop ≤ b.base then some { b with acked := rest }
    else if b.base + b.buf.length < first.stop then none
    else
      some
        { b with
          base := first.stop
          buf := b.buf.drop (first.stop - b.base)
          acked := rest }

/-- The range is to be sent again, as far as it is still wanted. -/
def onLost (off n : Nat) : SendBuffer :=
  if off + n ≤ max off b.base then b
  else { b with lost := addSpan b.lost ⟨max off b.base, off + n⟩ }

/-- The calls that change a buffer. -/
inductive Call
  | write (p : Bytes)
  | onAck (off n : Nat)
  | onLost (off n : Nat)
  deriving DecidableEq

def step : Call -> Option SendBuffer
  | .write p => some { b with buf := b.buf ++ p }
  | .onAck off n => b.onAck off n
  | .onLost off n => some (b.onLost off n)

/-- A call acknowledges an offset. -/
def Call.Acks : Call -> Nat -> Prop
  | .onAck off n => Span.Has ⟨off, off + n⟩
  | _ => fun _ => False

/-- The offsets acknowledged are those below the base and those of the spans,
which are above it. -/
structure Kept (acknowledged : Nat -> Prop) : Prop where
  separate : Separate b.acked
  nonempty : ∀ span ∈ b.acked, span.off < span.stop
  above : ∀ span ∈ b.acked, b.base < span.off
  known : ∀ offset, acknowledged offset ↔ offset < b.base ∨ Spanned b.acked offset

variable {b}

theorem Kept.onAck
    (kept : b.Kept acknowledged)
    (taken : b.onAck off n = some after) :
    after.Kept fun offset => acknowledged offset ∨ Span.Has ⟨off, off + n⟩ offset := by
  have merged := merged_addSpan kept.separate ⟨off, off + n⟩
  have known (offset : Nat) : acknowledged offset ∨ Span.Has ⟨off, off + n⟩ offset ↔
      offset < b.base ∨ Spanned (addSpan b.acked ⟨off, off + n⟩) offset := by
    rw [kept.known, merged.covers, or_assoc]
  have nonempty := merged.nonempty kept.nonempty
  unfold SendBuffer.onAck at taken
  split at taken
  · next none =>
    cases taken
    rw [none] at merged known
    exact ⟨merged.separate, by simp, by simp, known⟩
  next first rest found =>
  rw [found] at merged known nonempty
  obtain ⟨apart, -, others⟩ := separate_cons.mp merged.separate
  have inside := List.forall_mem_cons.mp nonempty
  split at taken
  · next beyond =>
    cases taken
    refine ⟨merged.separate, nonempty, List.forall_mem_cons.mpr ⟨beyond, ?_⟩, known⟩
    exact fun later member => beyond.trans (inside.1.trans (apart later member))
  next reached =>
  split at taken
  · next passed =>
    cases taken
    refine ⟨others, inside.2, fun later member => ?_, fun offset => ?_⟩
    · -- The first span has just been added, and only one has.
      have new := merged.grown first List.mem_cons_self
      have gap := apart later member
      rcases merged.grown later (List.mem_cons_of_mem _ member) with old | around
      · exact kept.above later old
      rcases new with old | new
      · have := kept.above first old
        omega
      · omega
    · rw [known, spanned_cons, ← or_assoc]
      exact or_congr_left (or_iff_left_of_imp fun inside => inside.2.trans_le passed)
  split at taken
  · cases taken
  next advances _ =>
  cases taken
  refine ⟨others, inside.2, apart, fun offset => ?_⟩
  rw [known, spanned_cons, ← or_assoc]
  refine or_congr_left ?_
  simp only [Span.Has]
  omega

theorem Kept.step
    (kept : b.Kept acknowledged)
    (taken : b.step call = some after) :
    after.Kept fun offset => acknowledged offset ∨ call.Acks offset := by
  cases call with
  | write p =>
    cases taken
    simp only [Call.Acks, or_false]
    exact { kept with }
  | onAck off n => exact kept.onAck taken
  | onLost off n =>
    cases taken
    simp only [Call.Acks, or_false]
    unfold onLost
    split
    · exact kept
    · exact { kept with }

theorem Kept.run
    (kept : b.Kept acknowledged)
    (reached : Transition.run SendBuffer.step b calls = some after) :
    after.Kept fun offset => acknowledged offset ∨ ∃ call ∈ calls, call.Acks offset := by
  induction calls generalizing b acknowledged with
  | nil =>
    cases reached
    simpa using kept
  | cons call rest ih =>
    obtain ⟨next, taken, remaining⟩ := Transition.run_cons_eq_some reached
    simpa only [List.exists_mem_cons_iff, or_assoc] using ih (kept.step taken) remaining

end SendBuffer

/-- Merging a span into separate spans gives separate spans that cover its
offsets and theirs; and the base of a buffer is the first offset that has not
been acknowledged, with the acknowledged spans above it. -/
theorem spans_merge_and_base_follows :
    (∀ spans s, Separate spans ->
      Separate (addSpan spans s) ∧
        ((∀ span ∈ spans, span.off < span.stop) ->
          ∀ span ∈ addSpan spans s, span.off < span.stop) ∧
        ∀ offset, Spanned (addSpan spans s) offset ↔ Spanned spans offset ∨ s.Has offset) ∧
      ∀ calls b, Transition.run SendBuffer.step {} calls = some b ->
        Separate b.acked ∧ (∀ span ∈ b.acked, b.base < span.off ∧ span.off < span.stop) ∧
          (∀ offset < b.base, ∃ call ∈ calls, call.Acks offset) ∧
          ¬∃ call ∈ calls, call.Acks b.base := by
  refine ⟨fun spans s separate => ?_, fun calls b reached => ?_⟩
  · have merged := merged_addSpan separate s
    exact ⟨merged.separate, merged.nonempty, merged.covers⟩
  have kept : b.Kept fun offset => False ∨ ∃ call ∈ calls, call.Acks offset :=
    SendBuffer.Kept.run ⟨⟨.nil, by simp⟩, by simp, by simp, by simp⟩ reached
  simp only [false_or] at kept
  refine ⟨kept.separate, fun span member => ⟨kept.above span member, kept.nonempty span member⟩,
    fun offset below => (kept.known offset).mpr (.inl below), fun acknowledged => ?_⟩
  rcases (kept.known b.base).mp acknowledged with below | ⟨span, member, starts, -⟩
  · omega
  · have := kept.above span member
    omega

/-- A span that bridges two, and bytes acknowledged out of order. -/
theorem spans_merge_and_base_follows_bridged :
    Separate (addSpan [⟨1, 3⟩, ⟨5, 7⟩] ⟨3, 5⟩) ∧
      ∃ b, Transition.run SendBuffer.step {}
          [.write (ascii "abcd"), .onAck 2 1, .onAck 0 1] = some b ∧
        b.base = 1 ∧ ¬∃ call ∈ [SendBuffer.Call.write (ascii "abcd"), .onAck 2 1, .onAck 0 1],
          call.Acks b.base := by
  obtain ⟨merges, follows⟩ := spans_merge_and_base_follows
  obtain ⟨b, reached, base⟩ : ∃ b, Transition.run SendBuffer.step {}
      [.write (ascii "abcd"), .onAck 2 1, .onAck 0 1] = some b ∧ b.base = 1 :=
    Transition.exists_run_of_any (by decide +kernel)
  exact ⟨(merges _ ⟨3, 5⟩ ⟨by decide, by decide⟩).1, b, reached, base, (follows _ b reached).2.2.2⟩

end Quic
end Fib
