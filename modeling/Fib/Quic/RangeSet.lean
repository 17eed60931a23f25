import Fib.Library.Transition
import Mathlib.Algebra.Order.Ring.Nat
import Mathlib.Data.List.Nodup
import Mathlib.Tactic.Common

/-!
# The packet numbers received

A packet number space keeps the numbers of the packets it has received as
ascending ranges, at most `maxAckRanges` of them; the lowest goes when there
would be more.  A number is taken in once, as long as no number below a dropped
one comes while the set has room again.
-/

namespace Fib
namespace Quic

/-- The packet numbers from `lo` to `hi`. -/
structure PnRange where
  lo : Nat
  hi : Nat
  deriving DecidableEq

/-- The most ranges kept for acknowledgement. -/
def maxAckRanges : Nat := 32

/-- The packet numbers received in a space. -/
abbrev RangeSet := List PnRange

namespace RangeSet

/-- Give a range its next number, and join it to the range after it if they
now touch. -/
def extend
    (range : PnRange)
    (pn : Nat) : RangeSet -> RangeSet
  | next :: rest =>
    if next.lo = pn + 1 then ⟨range.lo, next.hi⟩ :: rest
    else ⟨range.lo, pn⟩ :: next :: rest
  | [] => [⟨range.lo, pn⟩]

/-- Put a number into the set, unless it is there.  The search stops at the
first range that the number is not beyond by more than one. -/
def record (pn : Nat) : RangeSet -> Option RangeSet
  | [] => some [⟨pn, pn⟩]
  | range :: rest =>
    if range.hi + 1 < pn then (record pn rest).map (range :: ·)
    else if range.lo ≤ pn ∧ pn ≤ range.hi then none
    else if range.hi + 1 = pn then some (extend range pn rest)
    else if range.lo = pn + 1 then some (⟨pn, range.hi⟩ :: rest)
    else some (⟨pn, pn⟩ :: range :: rest)

/-- A full set does not tell what is below its first range. -/
def tooOld
    (ranges : RangeSet)
    (pn : Nat) : Bool :=
  ranges.length = maxAckRanges && ranges.head?.any fun range => pn < range.lo

/-- Record `pn`, unless it was already there or is too old to tell. -/
def add
    (ranges : RangeSet)
    (pn : Nat) : Option RangeSet :=
  if tooOld ranges pn then none
  else
    (record pn ranges).map fun after =>
      if maxAckRanges < after.length then after.tail else after

/-! ## What a set holds -/

/-- A number is in one of the ranges. -/
def Holds
    (ranges : RangeSet)
    (pn : Nat) : Prop :=
  ∃ range ∈ ranges, range.lo ≤ pn ∧ pn ≤ range.hi

@[simp] theorem holds_nil (pn : Nat) : ¬Holds [] pn := by
  simp [Holds]

@[simp] theorem holds_cons
    (range : PnRange)
    (rest : RangeSet)
    (pn : Nat) :
    Holds (range :: rest) pn ↔ (range.lo ≤ pn ∧ pn ≤ range.hi) ∨ Holds rest pn := by
  simp [Holds]

/-- The ranges ascend, and numbers are missing between them. -/
structure Ascending (ranges : RangeSet) : Prop where
  apart : ranges.Pairwise fun first second => first.hi + 1 < second.lo
  nonempty : ∀ range ∈ ranges, range.lo ≤ range.hi

theorem ascending_cons :
    Ascending (range :: rest) ↔ range.lo ≤ range.hi ∧ (∀ pn, Holds rest pn -> range.hi + 1 < pn) ∧
        Ascending rest := by
  constructor
  · rintro ⟨apart, nonempty⟩
    rw [List.pairwise_cons] at apart
    rw [List.forall_mem_cons] at nonempty
    refine ⟨nonempty.1, ?_, apart.2, nonempty.2⟩
    rintro pn ⟨other, member, above, _⟩
    exact (apart.1 other member).trans_le above
  · rintro ⟨here, above, apart, nonempty⟩
    refine ⟨List.pairwise_cons.mpr ⟨fun other member => ?_, apart⟩,
      List.forall_mem_cons.mpr ⟨here, nonempty⟩⟩
    exact above other.lo ⟨other, member, le_rfl, nonempty other member⟩

/-- What recording a number does to an ascending set. -/
structure Records
    (pn : Nat)
    (before after : RangeSet) : Prop where
  ascending : Ascending after
  fresh : ¬Holds before pn
  holds : ∀ other, Holds after other ↔ other = pn ∨ Holds before other

theorem records_extend
    (ascending : Ascending (range :: rest))
    (touches : range.hi + 1 = pn) :
    Records pn (range :: rest) (extend range pn rest) := by
  obtain ⟨here, above, upper⟩ := ascending_cons.mp ascending
  have fresh : ¬Holds (range :: rest) pn := by
    rw [holds_cons]
    rintro (inside | later)
    · omega
    · have := above pn later
      omega
  cases rest with
  | nil =>
    refine ⟨ascending_cons.mpr ⟨?_, by simp, upper⟩, fresh, ?_⟩
    · change range.lo ≤ pn
      omega
    · simp only [extend, holds_cons, holds_nil]
      grind
  | cons next rest =>
    obtain ⟨nextHere, nextAbove, last⟩ := ascending_cons.mp upper
    have apart := above next.lo (by simp [nextHere])
    rw [extend]
    split
    · next joins =>
      refine ⟨ascending_cons.mpr ⟨?_, nextAbove, last⟩, fresh, ?_⟩
      · change range.lo ≤ next.hi
        omega
      · simp only [holds_cons]
        grind
    next separate =>
    refine ⟨ascending_cons.mpr ⟨?_, ?_, upper⟩, fresh, ?_⟩
    · change range.lo ≤ pn
      omega
    · intro other later
      change pn + 1 < other
      rw [holds_cons] at later
      rcases later with inside | later
      · omega
      · have := nextAbove other later
        omega
    · simp only [holds_cons]
      grind

/-- Recording a number in an ascending set. -/
theorem record_spec
    (ascending : Ascending ranges)
    (pn : Nat) :
    match record pn ranges with
    | none => Holds ranges pn
    | some after => Records pn ranges after := by
  induction ranges with
  | nil =>
    refine ⟨ascending_cons.mpr ⟨le_rfl, by simp, ascending⟩, by simp, ?_⟩
    simp only [holds_cons, holds_nil]
    grind
  | cons range rest ih =>
    obtain ⟨here, above, upper⟩ := ascending_cons.mp ascending
    rw [record]
    split_ifs with beyond inside touches precedes
    · have searched := ih upper
      cases recorded : record pn rest with
      | none =>
        rw [recorded] at searched
        exact (holds_cons range rest pn).mpr (.inr searched)
      | some after =>
        rw [recorded] at searched
        refine ⟨ascending_cons.mpr ⟨here, ?_, searched.ascending⟩, ?_, ?_⟩
        · intro other later
          rcases (searched.holds other).mp later with rfl | later
          · exact beyond
          · exact above other later
        · rw [holds_cons]
          rintro (inside | later)
          · omega
          · exact searched.fresh later
        · intro other
          rw [holds_cons, holds_cons, searched.holds]
          tauto
    · exact (holds_cons range rest pn).mpr (.inl inside)
    · exact records_extend ascending touches
    all_goals
      have fresh : ¬Holds (range :: rest) pn := by
        rw [holds_cons]
        rintro (within | later)
        · exact inside within
        · have := above pn later
          omega
    · refine ⟨ascending_cons.mpr ⟨?_, above, upper⟩, fresh, ?_⟩
      · change pn ≤ range.hi
        omega
      · simp only [holds_cons]
        grind
    refine ⟨ascending_cons.mpr ⟨le_rfl, ?_, ascending⟩, fresh, ?_⟩
    · intro other later
      change pn + 1 < other
      rw [holds_cons] at later
      rcases later with within | later
      · omega
      · have := above other later
        omega
    · simp only [holds_cons]
      grind

/-! ## Runs of calls -/

/-- The set, with the numbers accepted so far and the end of the range dropped
last. -/
structure Log where
  ranges : RangeSet := []
  accepted : List Nat := []
  horizon : Nat := 0

/-- The end of the range that a set too large loses. -/
def horizonOf
    (ranges : RangeSet)
    (pn horizon : Nat) : Nat :=
  match record pn ranges with
  | some (first :: rest) =>
    if maxAckRanges < rest.length + 1 then first.hi + 1 else horizon
  | _ => horizon

/-- One call. -/
def Log.call
    (log : Log)
    (pn : Nat) : Log :=
  match add log.ranges pn with
  | none => log
  | some ranges =>
    ⟨ranges, log.accepted ++ [pn], horizonOf log.ranges pn log.horizon⟩

/-- The calls as steps. -/
def step
    (log : Log)
    (pn : Nat) : Option Log :=
  some (log.call pn)

/-- A number below a dropped one comes only while the set is full. -/
def FullBelow
    (log : Log)
    (pn : Nat) : Prop :=
  pn < log.horizon -> log.ranges.length = maxAckRanges

instance (log : Log) (pn : Nat) : Decidable (FullBelow log pn) :=
  inferInstanceAs (Decidable (_ -> _))

/-- What was accepted is in the set or below the horizon, and the set is not
below it. -/
structure Log.Sound (log : Log) : Prop where
  ascending : Ascending log.ranges
  known : ∀ pn ∈ log.accepted, pn < log.horizon ∨ Holds log.ranges pn
  above : ∀ pn, Holds log.ranges pn -> log.horizon ≤ pn
  once : log.accepted.Nodup

theorem Log.Sound.not_below
    (sound : log.Sound)
    (full : FullBelow log pn)
    (added : add log.ranges pn = some after) :
    log.horizon ≤ pn := by
  by_contra below
  have length := full (not_le.mp below)
  cases same : log.ranges with
  | nil => simp [same, maxAckRanges] at length
  | cons first rest =>
    have ascending := sound.ascending
    rw [same, ascending_cons] at ascending
    have bound := sound.above first.lo (by simp [same, ascending.1])
    have older : tooOld log.ranges pn = true := by
      rw [tooOld, length, same]
      simp
      omega
    simp [add, older] at added

theorem Log.Sound.call
    (sound : log.Sound)
    (full : FullBelow log pn) :
    (log.call pn).Sound := by
  rw [Log.call]
  cases added : add log.ranges pn with
  | none => exact sound
  | some ranges =>
    have least := sound.not_below full added
    have searched := record_spec sound.ascending pn
    simp only [add] at added
    split at added
    · cases added
    cases recorded : record pn log.ranges with
    | none => simp [recorded] at added
    | some after =>
      rw [recorded] at searched
      have new : pn ∉ log.accepted := by
        intro member
        rcases sound.known pn member with below | there
        · omega
        · exact searched.fresh there
      have once : (log.accepted ++ [pn]).Nodup := by
        rw [List.nodup_append]
        refine ⟨sound.once, List.nodup_singleton pn, ?_⟩
        intro earlier member last isLast
        rintro rfl
        exact new (List.mem_singleton.mp isLast ▸ member)
      have known : ∀ other ∈ log.accepted ++ [pn],
          other < log.horizon ∨ Holds after other := by
        intro other member
        rw [searched.holds]
        rcases List.mem_append.mp member with member | member
        · exact (sound.known other member).imp_right .inr
        · exact .inr (.inl (List.mem_singleton.mp member))
      have above : ∀ other, Holds after other -> log.horizon ≤ other := by
        intro other there
        rcases (searched.holds other).mp there with rfl | there
        · exact least
        · exact sound.above other there
      simp only [recorded, Option.map_some] at added
      cases added
      cases after with
      | nil => exact absurd ((searched.holds pn).mpr (.inl rfl)) (by simp)
      | cons first rest =>
        simp only [horizonOf, recorded, List.length_cons, List.tail_cons]
        split
        · obtain ⟨_, higher, upper⟩ :=
            ascending_cons.mp searched.ascending
          refine ⟨upper, fun other member => ?_, fun other there => ?_, once⟩
          · change other < first.hi + 1 ∨ _
            rcases known other member with below | there
            · have := above first.lo
                (by simp [(ascending_cons.mp searched.ascending).1])
              omega
            · rw [holds_cons] at there
              exact there.imp_left fun inside => by omega
          · exact (higher other there).le
        · exact ⟨searched.ascending, known, above, once⟩

/-- While no number below a dropped one meets a set with room, no number is
accepted twice. -/
theorem no_packet_number_is_accepted_twice
    {pns : List Nat}
    {log : Log}
    (full : Transition.Meets step FullBelow {} pns)
    (reached : Transition.run step {} pns = some log) :
    log.accepted.Nodup := by
  have sound : log.Sound := by
    refine Transition.run_invariant_of_meets (fun before pn after sound fits taken => ?_)
      ⟨⟨.nil, by simp⟩, by simp, by simp, List.nodup_nil⟩ full reached
    obtain rfl := Option.some.inj taken
    exact sound.call fits
  exact sound.once

/-- The even numbers up to 64, of which the first is dropped. -/
def evens : List Nat := (List.range 33).map (2 * ·)

/-- A dropped number is refused by a full set. -/
theorem no_packet_number_is_accepted_twice_dropped :
    ∃ log, Transition.run step {} (evens ++ [0]) = some log ∧
      0 < log.horizon ∧ log.accepted.Nodup := by
  obtain ⟨log, reached, dropped⟩ : ∃ log,
      Transition.run step {} (evens ++ [0]) = some log ∧ 0 < log.horizon :=
    Transition.exists_run_of_any (by decide +kernel)
  exact ⟨log, reached, dropped,
    no_packet_number_is_accepted_twice (by decide +kernel) reached⟩

/-- Once two ranges have been joined, the dropped number is accepted again. -/
theorem dropped_packet_number_is_accepted_again :
    ∃ log, Transition.run step {} (evens ++ [3, 0]) = some log ∧ ¬log.accepted.Nodup :=
  Transition.exists_run_of_any (by decide +kernel)

end RangeSet
end Quic
end Fib
