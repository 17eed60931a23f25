import Fib.Library.Bytes
import Mathlib.Data.Nat.Bitwise
import Mathlib.Tactic.Common

/-!
# Bits of bytes

Numbers and bytes as lists of bits, highest first.
-/

namespace Fib
namespace Bits

/-- The low bits of a number, highest first. -/
def ofNat : Nat -> Nat -> List Bool
  | 0, _ => []
  | width + 1, value => value.testBit width :: ofNat width value

@[simp] theorem length_ofNat (width value : Nat) :
    (ofNat width value).length = width := by
  induction width with
  | zero => rfl
  | succ width ih =>
    rw [ofNat, List.length_cons, ih]

/-- The bits depend on no others of the number. -/
theorem ofNat_congr
    {width first second : Nat}
    (same : ∀ position < width,
      first.testBit position = second.testBit position) :
    ofNat width first = ofNat width second := by
  induction width with
  | zero => rfl
  | succ width ih =>
    rw [ofNat, ofNat, same width (Nat.lt_succ_self width), ih fun position below =>
        same position (Nat.lt_succ_of_lt below)]

/-- The high bits stand before the low ones. -/
theorem ofNat_add (high low value : Nat) :
    ofNat (high + low) value = ofNat high (value >>> low) ++ ofNat low value := by
  induction high with
  | zero => simp [ofNat]
  | succ high ih =>
    rw [Nat.succ_add, ofNat, ofNat, ih, Nat.testBit_shiftRight, Nat.add_comm low high]
    rfl

/-- Bits that are cut off leave the others as they are. -/
theorem ofNat_mod
    (within : width ≤ size)
    (value : Nat) :
    ofNat width (value % 2 ^ size) = ofNat width value := by
  apply ofNat_congr
  intro position below
  rw [Nat.testBit_mod_two_pow, decide_eq_true (by omega : position < size), Bool.true_and]

/-- A number is put behind bits that are shifted out of its way. -/
theorem ofNat_shiftLeft_or
    (fits : value < 2 ^ length)
    (count before : Nat) :
    ofNat (count + length) (before <<< length ||| value) =
      ofNat count before ++ ofNat length value := by
  rw [ofNat_add]
  congr 1
  · apply ofNat_congr
    intro position below
    have above : value.testBit (length + position) = false :=
      Nat.testBit_lt_two_pow (Nat.lt_of_lt_of_le fits
        (Nat.pow_le_pow_right (by decide) (Nat.le_add_right ..)))
    rw [Nat.testBit_shiftRight, Nat.testBit_or, above, Bool.or_false, Nat.testBit_shiftLeft,
      decide_eq_true (by omega : length ≤ length + position), Bool.true_and,
      Nat.add_sub_cancel_left]
  apply ofNat_congr
  intro position below
  rw [Nat.testBit_or, Nat.testBit_shiftLeft,
    decide_eq_false (by omega : ¬length ≤ position), Bool.false_and,
    Bool.false_or]

/-- The bits of a byte. -/
def ofByte (byte : UInt8) : List Bool :=
  ofNat 8 byte.toNat

@[simp] theorem length_ofByte (byte : UInt8) : (ofByte byte).length = 8 :=
  length_ofNat ..

/-- The low eight bits of a number are those of the byte it is cut to. -/
theorem ofByte_toUInt8 (value : Nat) : ofByte value.toUInt8 = ofNat 8 value :=
  ofNat_mod (Nat.le_refl 8) value

/-- The bits of a byte string. -/
def ofBytes (bytes : Bytes) : List Bool :=
  bytes.flatMap ofByte

@[simp] theorem ofBytes_append (first second : Bytes) :
    ofBytes (first ++ second) = ofBytes first ++ ofBytes second :=
  List.flatMap_append ..

@[simp] theorem ofBytes_singleton (byte : UInt8) :
    ofBytes [byte] = ofByte byte := by
  simp [ofBytes]

theorem length_ofBytes
    (bytes : Bytes) :
    (ofBytes bytes).length = 8 * bytes.length := by
  induction bytes with
  | nil => rfl
  | cons byte rest ih =>
    rw [← List.singleton_append, ofBytes_append, ofBytes_singleton,
      List.length_append, length_ofByte,
      List.length_append, List.length_singleton]
    omega

/-- The bits determine the bytes. -/
theorem ofBytes_inj : ofBytes first = ofBytes second -> first = second := by
  have value (byte : UInt8) :
      (ofByte byte).foldl (fun sum bit => 2 * sum + bit.toNat) 0 = byte.toNat := by
    revert byte
    exact forall_byte (by decide +kernel)
  induction first generalizing second with
  | nil =>
    intro same
    have count := congrArg List.length same
    rw [length_ofBytes, length_ofBytes, List.length_nil] at count
    exact (List.length_eq_zero_iff.mp (by omega)).symm
  | cons byte first ih =>
    cases second with
    | nil => simp [ofBytes, ofByte, ofNat]
    | cons other second =>
      intro same
      obtain ⟨head, tail⟩ := List.append_inj same (by simp)
      have number := congrArg (List.foldl (fun sum bit => 2 * sum + bit.toNat) 0) head
      rw [value, value] at number
      rw [UInt8.toNat.inj number, ih tail]

end Bits
end Fib
