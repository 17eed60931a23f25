import Mathlib.Algebra.Ring.Int.Defs
import Mathlib.Algebra.Ring.Nat
import Mathlib.Data.List.Basic

/-!
# Byte strings

Byte strings are lists of octets.
-/

namespace Fib

/-- A byte string. -/
abbrev Bytes := List UInt8

instance : LawfulBEq Bytes :=
  inferInstance

/-- The bytes of an ASCII text. -/
def ascii (text : String) : Bytes :=
  text.toList.map fun letter => letter.toNat.toUInt8

/-- A string of a program, which fits the 48 bits of its address space. -/
structure Text where
  bytes : Bytes
  fits : bytes.length < 2 ^ 48

/-- A fact about every byte, checked number by number. -/
theorem forall_byte
    {holds : UInt8 -> Prop}
    (all : ∀ number < 256, holds (UInt8.ofNat number))
    (byte : UInt8) :
    holds byte := by
  have here := all byte.toNat byte.toNat_lt
  rwa [UInt8.ofNat_toNat] at here

end Fib
