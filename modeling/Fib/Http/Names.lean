import Fib.Http.Header
import Fib.Library.Message

/-!
# Names and words up to case

Within ASCII, `strings.EqualFold`, the canonical form of a field name and the
comparison of lower-case letters all tell the same names apart.
-/

namespace Fib
namespace Http

open Lines Message

/-! ## Words -/

theorem foldNext_of_lt
    (isAscii : first < 128)
    (rest : Bytes) :
    foldNext (first :: rest) = some (lower first, rest) := by
  have notLong : first ≠ 0xC5 := by rintro rfl; exact absurd isAscii (by decide)
  have notKelvin : first ≠ 0xE2 := by
    rintro rfl
    exact absurd isAscii (by decide)
  simp only [foldNext, notLong, notKelvin, false_and, if_false, lower]
  split <;> rfl

theorem lt_of_lower_eq
    (isAscii : letter < 128)
    (same : lower first = lower letter) :
    first < 128 := by
  have each : ∀ byte : UInt8, lower byte < 128 ↔ byte < 128 :=
    forall_byte (by decide +kernel)
  rw [← each, same, each]
  exact isAscii

/-- A name a client takes for an ASCII word folds to that word. -/
theorem equalFold_of_sameName
    (isAscii : ∀ byte ∈ word, byte < 128)
    (same : sameName text word = true) :
    equalFold text word = true := by
  unfold sameName at same
  rw [beq_iff_eq] at same
  induction word generalizing text with
  | nil => simpa [equalFold] using same
  | cons letter word ih =>
    rw [List.forall_mem_cons] at isAscii
    cases text with
    | nil => simp at same
    | cons first rest =>
      rw [List.map_cons, List.map_cons, List.cons.injEq] at same
      have firstAscii := lt_of_lower_eq isAscii.1 same.1
      simp only [equalFold, foldNext_of_lt isAscii.1,
        foldNext_of_lt firstAscii, same.1, beq_self_eq_true, Bool.true_and]
      exact ih isAscii.2 same.2

/-! ## Canonical names -/

theorem lower_shiftCase
    (upper : Bool)
    (byte : UInt8) :
    lower (shiftCase upper byte) = lower byte := by
  revert upper
  revert byte
  exact forall_byte (by decide +kernel)

theorem map_lower_capitalise
    (upper : Bool)
    (name : Bytes) :
    (capitalise upper name).map lower = name.map lower := by
  induction name generalizing upper with
  | nil => rfl
  | cons byte rest ih =>
    simp only [List.map_cons, capitalise, lower_shiftCase, ih]

end Http
end Fib
