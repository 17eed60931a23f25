import Mathlib.Data.List.Infix
import Mathlib.Tactic.Common

/-!
# The first occurrence of a pattern

`find pattern text` is the first position at which the pattern stands in the
text.  A position that is found stays the first one when the text goes on, and
a search may begin at any position before which the pattern does not stand.
-/

namespace Fib
namespace Search

variable {Symbol : Type} [DecidableEq Symbol]

/-- The first position at which the pattern stands. -/
def find (pattern : List Symbol) : List Symbol -> Option Nat
  | [] => if pattern = [] then some 0 else none
  | symbol :: rest =>
    if pattern <+: symbol :: rest then some 0
    else (find pattern rest).map (· + 1)

section Find

variable {pattern text later : List Symbol}
variable {position : Nat}

theorem find_eq_zero
    (here : pattern <+: text) :
    find pattern text = some 0 := by
  cases text with
  | nil => simp [find, List.prefix_nil.mp here]
  | cons symbol rest => simp [find, here]

theorem find_cons (elsewhere : ¬pattern <+: symbol :: text) :
    find pattern (symbol :: text) = (find pattern text).map (· + 1) := by
  simp [find, elsewhere]

section

variable (found : find pattern text = some position)
include found

/-- The pattern stands where it is found. -/
theorem prefix_of_find :
    pattern <+: text.drop position := by
  induction text generalizing position with
  | nil =>
    simp only [find, Option.ite_none_right_eq_some] at found
    simp [found.1]
  | cons symbol rest ih =>
    unfold find at found
    split at found
    · next here =>
      cases found
      simpa using here
    · obtain ⟨before, earlier, rfl⟩ := Option.map_eq_some_iff.mp found
      simpa using ih earlier

theorem find_le :
    position + pattern.length ≤ text.length := by
  have here := (prefix_of_find found).length_le
  rw [List.length_drop] at here
  by_contra beyond
  -- Only an empty pattern stands beyond the text, and it is found at its start.
  obtain rfl : pattern = [] := List.length_eq_zero_iff.mp (by omega)
  rw [find_eq_zero List.nil_prefix] at found
  cases found
  simp at beyond

/-- A position that is found does not depend on what follows. -/
theorem find_append (later : List Symbol) :
    find pattern (text ++ later) = some position := by
  induction text generalizing position with
  | nil =>
    simp only [find, Option.ite_none_right_eq_some, Option.some.injEq] at found
    rw [found.1, ← found.2]
    exact find_eq_zero List.nil_prefix
  | cons symbol rest ih =>
    unfold find at found
    split at found
    · next here =>
      cases found
      exact find_eq_zero (here.trans (List.prefix_append ..))
    next elsewhere =>
    obtain ⟨before, earlier, rfl⟩ := Option.map_eq_some_iff.mp found
    have bound := find_le earlier
    rw [List.cons_append, find_cons, ih earlier]
    · rfl
    -- The pattern ends within the text, so it would stand there.
    intro here
    apply elsewhere
    refine List.prefix_of_prefix_length_le here (List.prefix_append (symbol :: rest) later) ?_
    simp only [List.length_cons]
    omega

end

/-- The pattern does not stand before the given position. -/
def AbsentBefore
    (pattern text : List Symbol)
    (position : Nat) : Prop :=
  ∀ before < position, ¬pattern <+: text.drop before

/-- A search may begin at a position before which the pattern does not
stand. -/
theorem find_drop
    (absent : AbsentBefore pattern text position)
    (within : position ≤ text.length) :
    find pattern text = (find pattern (text.drop position)).map (· + position) := by
  induction position generalizing text with
  | zero => simp
  | succ position ih =>
    cases text with
    | nil => simp at within
    | cons symbol rest =>
      have elsewhere : ¬pattern <+: symbol :: rest := by
        simpa using absent 0 (Nat.succ_pos position)
      have later : AbsentBefore pattern rest position := by
        intro before small
        simpa using absent (before + 1) (by omega)
      rw [find_cons elsewhere,
        ih later (by simpa using within),
        Option.map_map]
      rfl

/-- Where a pattern is not found, it stands nowhere. -/
theorem absentBefore_of_find_eq_none
    (absent : find pattern text = none)
    (position : Nat) :
    AbsentBefore pattern text position := by
  intro before _ here
  induction text generalizing before with
  | nil =>
    have empty : pattern = [] := by simpa using here
    simp [find, empty] at absent
  | cons symbol rest ih =>
    by_cases first : pattern <+: symbol :: rest
    · simp [find_eq_zero first] at absent
    rw [find_cons first, Option.map_eq_none_iff] at absent
    cases before with
    | zero => exact first (by simpa using here)
    | succ before =>
      exact ih absent before (by omega)
        (by simpa using here)

omit [DecidableEq Symbol] in
/-- What follows a text cannot complete the pattern at a position from which
the text leaves room for all of it. -/
theorem AbsentBefore.append
    (absent : AbsentBefore pattern text position)
    (within : position + pattern.length ≤ text.length + 1)
    (later : List Symbol) :
    AbsentBefore pattern (text ++ later) position := by
  intro before small here
  apply absent before small
  have room : before ≤ text.length := by omega
  rw [List.drop_append_of_le_length room] at here
  refine List.prefix_of_prefix_length_le here (List.prefix_append ..) ?_
  rw [List.length_drop]
  omega

/-- A pattern that is not in the text begins, in what follows, so late that it
does not end within the text. -/
theorem length_lt_of_find_append
    (absent : find pattern text = none)
    (found : find pattern (text ++ later) = some position) :
    text.length < position + pattern.length := by
  by_contra within
  have here := prefix_of_find found
  rw [List.drop_append_of_le_length (by omega)] at here
  apply absentBefore_of_find_eq_none absent (position + 1) position (by omega)
  refine List.prefix_of_prefix_length_le here (List.prefix_append ..) ?_
  rw [List.length_drop]
  omega

end Find

end Search
end Fib
