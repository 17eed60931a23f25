import Mathlib.Data.List.Range
import Mathlib.Tactic.Common

/-!
# Ring buffers

A queue in an array of fixed size: the items stand in the slots from the head
on, and the slots wrap around at the end of the array.  Putting an item at the
tail and taking one from the head are the operations of a queue on the
contents.
-/

namespace Fib

/-- The slot that is some places behind the head. -/
def Ring.place (capacity head offset : Nat) : Nat :=
  if head + offset < capacity then head + offset
  else head + offset - capacity

/-- A queue in a ring of slots. -/
structure Ring (Item : Type) where
  slots : List (Option Item)
  head : Nat
  tail : Nat
  count : Nat
  head_lt : head < slots.length
  count_le : count ≤ slots.length
  tail_eq : tail = Ring.place slots.length head count
  filled : ∀ offset < count, ∃ item,
    slots[Ring.place slots.length head offset]? = some (some item)

namespace Ring

variable {Item : Type}

theorem place_lt
    {capacity head offset : Nat}
    (inside : head < capacity)
    (few : offset ≤ capacity) :
    place capacity head offset < capacity := by
  unfold place
  split <;> omega

theorem place_ne
    (capacity head : Nat)
    (less : first < second)
    (few : second < capacity) :
    place capacity head first ≠ place capacity head second := by
  unfold place
  split <;> split <;> omega

/-- The next slot, as the code computes it. -/
def advance (capacity position : Nat) : Nat :=
  if position + 1 = capacity then 0 else position + 1

theorem advance_lt (inside : position < capacity) :
    advance capacity position < capacity := by
  unfold advance
  split <;> omega

theorem advance_place
    {capacity head offset : Nat}
    (inside : head < capacity)
    (few : offset < capacity) :
    advance capacity (place capacity head offset) = place capacity head (offset + 1) := by
  unfold advance place
  split <;> split <;> split <;> omega

theorem place_advance
    {capacity head offset : Nat}
    (few : offset < capacity) :
    place capacity (advance capacity head) offset = place capacity head (offset + 1) := by
  unfold advance place
  split <;> split <;> split <;> omega

/-- An empty ring. -/
def empty
    (Item : Type)
    (capacity : Nat)
    (positive : 0 < capacity) :
    Ring Item where
  slots := List.replicate capacity none
  head := 0
  tail := 0
  count := 0
  head_lt := by rwa [List.length_replicate]
  count_le := Nat.zero_le _
  tail_eq := by
    rw [List.length_replicate, place, if_pos positive]
  filled := nofun

section

variable (ring : Ring Item)

/-- How many items there is room for. -/
def capacity : Nat :=
  ring.slots.length

/-- The items from the oldest to the newest. -/
def contents : List Item :=
  (List.range ring.count).filterMap fun offset =>
    (ring.slots[place ring.slots.length ring.head offset]?).join

/-- Put an item at the tail. -/
def enqueue
    (item : Item)
    (room : ring.count < ring.capacity) : Ring Item where
  slots := ring.slots.set ring.tail (some item)
  head := ring.head
  tail := advance ring.slots.length ring.tail
  count := ring.count + 1
  head_lt := by
    rw [List.length_set]
    exact ring.head_lt
  count_le := by
    rw [List.length_set]
    exact room
  tail_eq := by
    rw [List.length_set, ring.tail_eq]
    exact advance_place ring.head_lt room
  filled offset less := by
    rw [List.length_set, ring.tail_eq]
    rcases Nat.lt_succ_iff_lt_or_eq.mp less with older | rfl
    · obtain ⟨old, here⟩ := ring.filled offset older
      have other := place_ne ring.slots.length ring.head older room
      exact ⟨old, by rw [List.getElem?_set_ne other.symm, here]⟩
    · refine ⟨item, List.getElem?_set_self ?_⟩
      exact place_lt ring.head_lt ring.count_le

/-- Take the item at the head. -/
def dequeue : Option (Item × Ring Item) :=
  if nonempty : 0 < ring.count then
    match (ring.slots[ring.head]?).join with
    | none => none
    | some item =>
      some (item,
        { slots := ring.slots.set ring.head none
          head := advance ring.slots.length ring.head
          tail := ring.tail
          count := ring.count - 1
          head_lt := by
            rw [List.length_set]
            exact advance_lt ring.head_lt
          count_le := by
            have few := ring.count_le
            rw [List.length_set]
            omega
          tail_eq := by
            have few := ring.count_le
            rw [List.length_set, place_advance (by omega),
              Nat.sub_add_cancel nonempty]
            exact ring.tail_eq
          filled := by
            intro offset less
            have few := ring.count_le
            rw [List.length_set, place_advance (by omega)]
            obtain ⟨old, here⟩ := ring.filled (offset + 1) (by omega)
            have other := place_ne ring.slots.length ring.head
              (Nat.succ_pos offset) (by omega)
            have first : place ring.slots.length ring.head 0 = ring.head :=
              by rw [place, Nat.add_zero, if_pos ring.head_lt]
            rw [first] at other
            exact ⟨old, by rw [List.getElem?_set_ne other, here]⟩ })
  else none

/-- There is an item to take exactly if the ring is not empty. -/
theorem dequeue_spec :
    (ring.count = 0 ∧ ring.dequeue = none) ∨
      ∃ item rest, ring.dequeue = some (item, rest) ∧ ring.contents = item :: rest.contents ∧
        ring.count = rest.count + 1 ∧ rest.capacity = ring.capacity := by
  by_cases nonempty : 0 < ring.count
  · right
    have first : place ring.slots.length ring.head 0 = ring.head := by
      rw [place, Nat.add_zero, if_pos ring.head_lt]
    obtain ⟨item, here⟩ := ring.filled 0 nonempty
    rw [first] at here
    have found : (ring.slots[ring.head]?).join = some item := by
      rw [here]
      rfl
    unfold dequeue
    rw [dif_pos nonempty]
    split
    · next absent =>
      rw [found] at absent
      cases absent
    next other present =>
    obtain rfl : item = other :=
      Option.some.inj (found.symm.trans present)
    refine ⟨item, _, rfl, ?_, ?_, List.length_set⟩
    · unfold contents
      dsimp only
      obtain ⟨fewer, same⟩ : ∃ fewer, ring.count = fewer + 1 :=
        ⟨ring.count - 1, by omega⟩
      rw [same, List.range_succ_eq_map, List.filterMap_cons, first,
        found, List.filterMap_map, List.length_set]
      dsimp only
      congr 1
      apply List.filterMap_congr
      intro offset older
      have older := List.mem_range.mp older
      have few := ring.count_le
      have other := place_ne ring.slots.length ring.head
        (Nat.succ_pos offset) (by omega)
      rw [first] at other
      rw [place_advance (by omega), Function.comp_apply, List.getElem?_set_ne other]
    · change ring.count = ring.count - 1 + 1
      omega
  · left
    exact ⟨by omega, by rw [dequeue, dif_neg nonempty]⟩

end

end Ring
end Fib
