import Mathlib.Data.List.Basic
import Mathlib.Tactic.Common

/-!
# Trees that decode a prefix code

A tree is built from the codes of the symbols, each a path of bits from the
root to a leaf.  A text is decoded by walking the tree and starting over at
each leaf; what is left after the last symbol is padding, a few ones.  When
the code of every symbol leads to its leaf, every text is decoded from its
codes.
-/

namespace Fib
namespace PrefixTree

variable {Symbol Error : Type}

/-- A node has a symbol, which only counts in a leaf, and up to two children. -/
inductive Tree (Symbol : Type) where
  | absent
  | node (symbol : Symbol) (zero one : Tree Symbol)

namespace Tree

/-- The child a bit leads to. -/
def child : Tree Symbol -> Bool -> Tree Symbol
  | absent, _ => absent
  | node _ zero one, bit => if bit then one else zero

/-- A node without a child for zero is a leaf. -/
def isLeaf : Tree Symbol -> Bool
  | node _ (node _ _ _) _ => false
  | _ => true

/-- Add a symbol at the end of a path. -/
def insert (blank symbol : Symbol) : List Bool -> Tree Symbol -> Tree Symbol
  | [], absent => node symbol absent absent
  | [], node _ zero one => node symbol zero one
  | bit :: path, absent =>
    if bit then node blank absent (insert blank symbol path absent)
    else node blank (insert blank symbol path absent) absent
  | bit :: path, node other zero one =>
    if bit then node other zero (insert blank symbol path one)
    else node other (insert blank symbol path zero) one

end Tree

/-- Decode bits from a node on.  The depth and whether the bits since the last
symbol were all ones decide what is padding. -/
def decode
    (invalid tooLong : Error)
    (tree : Tree Symbol)
    (limit : Nat) :
    List Bool -> Tree Symbol -> Nat -> Bool -> List Symbol ->
      Except Error (List Symbol)
  | [], _, depth, ones, out =>
    if 7 < depth ∨ ones = false then .error invalid else .ok out
  | bit :: rest, here, depth, ones, out =>
    match here.child bit with
    | .absent => .error invalid
    | .node symbol zero one =>
      if (Tree.node symbol zero one).isLeaf then
        if 0 < limit ∧ limit < (out ++ [symbol]).length then
          .error tooLong
        else decode invalid tooLong tree limit rest tree 0 true
          (out ++ [symbol])
      else
        decode invalid tooLong tree limit rest (.node symbol zero one)
          (depth + 1) (ones && bit) out

/-! ## Paths -/

/-- The path leads through inner nodes to a leaf with the symbol. -/
def leads [DecidableEq Symbol] : Tree Symbol -> List Bool -> Symbol -> Bool
  | _, [], _ => false
  | here, bit :: path, symbol =>
    match here.child bit with
    | .absent => false
    | .node other zero one =>
      if (Tree.node other zero one).isLeaf then
        path.isEmpty && other == symbol
      else leads (.node other zero one) path symbol

/-- The path leads through inner nodes only. -/
def stays : Tree Symbol -> List Bool -> Bool
  | _, [] => true
  | here, bit :: path =>
    match here.child bit with
    | .absent => false
    | .node other zero one =>
      !(Tree.node other zero one).isLeaf &&
        stays (.node other zero one) path

theorem stays_of_append (inside : stays here (path ++ more) = true) :
    stays here path = true := by
  induction path generalizing here with
  | nil => rfl
  | cons bit path ih =>
    rw [List.cons_append] at inside
    unfold stays at inside ⊢
    cases next : here.child bit with
    | absent =>
      rw [next] at inside
      cases inside
    | node other zero one =>
      rw [next] at inside
      rw [Bool.and_eq_true] at inside ⊢
      exact ⟨inside.1, ih inside.2⟩

section Decode

variable [DecidableEq Symbol]
variable (invalid tooLong : Error)
variable (tree : Tree Symbol)
variable (limit : Nat)

/-- A path that leads to a symbol decodes to it. -/
theorem decode_of_leads
    (toSymbol : leads here path symbol = true)
    (rest : List Bool)
    (depth : Nat)
    (ones : Bool)
    (out : List Symbol) :
    decode invalid tooLong tree limit (path ++ rest) here depth ones out =
      if 0 < limit ∧ limit < (out ++ [symbol]).length then .error tooLong
      else decode invalid tooLong tree limit rest tree 0 true (out ++ [symbol]) := by
  induction path generalizing here depth ones with
  | nil => cases toSymbol
  | cons bit path ih =>
    unfold leads at toSymbol
    rw [List.cons_append, decode]
    cases next : here.child bit with
    | absent =>
      rw [next] at toSymbol
      cases toSymbol
    | node other zero one =>
      rw [next] at toSymbol
      dsimp only at toSymbol ⊢
      split at toSymbol
      · next leaf =>
        rw [Bool.and_eq_true, List.isEmpty_iff, beq_iff_eq] at toSymbol
        obtain ⟨rfl, rfl⟩ := toSymbol
        rw [if_pos leaf, List.nil_append]
      · next inner =>
        rw [if_neg inner]
        exact ih toSymbol ..

omit [DecidableEq Symbol] in
/-- A few ones that lead to no leaf are padding. -/
theorem decode_padding
    (inside : stays here (List.replicate count true) = true)
    (short : depth + count ≤ 7)
    (out : List Symbol) :
    decode invalid tooLong tree limit (List.replicate count true) here depth
        true out = .ok out := by
  induction count generalizing here depth with
  | zero =>
    rw [List.replicate_zero, decode, if_neg]
    rintro (deep | other)
    · omega
    · cases other
  | succ count ih =>
    rw [List.replicate_succ] at inside ⊢
    unfold stays at inside
    rw [decode]
    cases next : here.child true with
    | absent =>
      rw [next] at inside
      cases inside
    | node other zero one =>
      rw [next] at inside
      dsimp only at inside ⊢
      rw [Bool.and_eq_true, Bool.not_eq_true'] at inside
      rw [if_neg (by simp [inside.1]), Bool.and_self]
      exact ih inside.2 (by omega)

variable {code : Symbol -> List Bool}
variable (coded : ∀ symbol, leads tree (code symbol) symbol = true)

include coded

theorem decode_codes
    (rest : List Bool)
    (symbols out : List Symbol)
    (fits : 0 < limit -> out.length ≤ limit) :
    decode invalid tooLong tree limit (symbols.flatMap code ++ rest) tree 0 true out =
      if 0 < limit ∧ limit < (out ++ symbols).length then .error tooLong
      else decode invalid tooLong tree limit rest tree 0 true (out ++ symbols) := by
  induction symbols generalizing out with
  | nil =>
    rw [List.flatMap_nil, List.nil_append, List.append_nil, if_neg]
    rintro ⟨positive, long⟩
    exact absurd (fits positive) (by omega)
  | cons symbol symbols ih =>
    rw [List.flatMap_cons, List.append_assoc,
      decode_of_leads invalid tooLong tree limit (coded symbol)]
    by_cases long : 0 < limit ∧ limit < (out ++ [symbol]).length
    · have longer : 0 < limit ∧ limit < (out ++ symbol :: symbols).length := by
        simp only [List.length_append, List.length_cons, List.length_nil] at long ⊢
        omega
      rw [if_pos long, if_pos longer]
    · rw [if_neg long, ih (out ++ [symbol]) (fun positive => by
          by_contra excess
          exact long ⟨positive, by omega⟩),
        List.append_assoc, List.singleton_append]

/-- Every text is decoded from its codes and a few ones, unless it is longer
than the limit. -/
theorem decode_encode
    (padded : stays tree (List.replicate 7 true) = true)
    (symbols : List Symbol)
    (short : count ≤ 7) :
    decode invalid tooLong tree limit
        (symbols.flatMap code ++ List.replicate count true) tree 0 true [] =
      if 0 < limit ∧ limit < symbols.length then .error tooLong
      else .ok symbols := by
  have inside : stays tree (List.replicate count true) = true := by
    have whole : List.replicate 7 true =
        List.replicate count true ++ List.replicate (7 - count) true := by
      rw [List.replicate_append_replicate, Nat.add_sub_cancel' short]
    rw [whole] at padded
    exact stays_of_append padded
  rw [decode_codes invalid tooLong tree limit coded _ _ _ (by simp), List.nil_append,
    decode_padding invalid tooLong tree limit inside (by omega)]

end Decode

/-- What is decoded under a limit is decoded without one. -/
theorem decode_of_limit
    (decoded : decode invalid tooLong tree limit bits here depth ones out = .ok symbols) :
    decode invalid tooLong tree 0 bits here depth ones out = .ok symbols := by
  induction bits generalizing here depth ones out with
  | nil => exact decoded
  | cons bit rest ih =>
    rw [decode] at decoded ⊢
    cases next : here.child bit with
    | absent =>
      rw [next] at decoded
      cases decoded
    | node symbol zero one =>
      rw [next] at decoded
      dsimp only at decoded ⊢
      by_cases leaf : (Tree.node symbol zero one).isLeaf = true
      · rw [if_pos leaf] at decoded ⊢
        by_cases long : 0 < limit ∧ limit < (out ++ [symbol]).length
        · rw [if_pos long] at decoded
          cases decoded
        · rw [if_neg long] at decoded
          exact ih decoded
      · rw [if_neg leaf] at decoded ⊢
        exact ih decoded

/-- Every leaf below has the symbol whose code is the path to it. -/
def Tree.labelled
    (code : Symbol -> List Bool) : List Bool -> Tree Symbol -> Bool
  | _, .absent => true
  | path, .node symbol zero one =>
    (!(Tree.node symbol zero one).isLeaf || code symbol == path) &&
      (zero.labelled code (path ++ [false]) && one.labelled code (path ++ [true]))

theorem labelled_child
    (labelled : Tree.labelled code path here = true)
    (bit : Bool) :
    (here.child bit).labelled code (path ++ [bit]) = true := by
  cases here with
  | absent => rfl
  | node symbol zero one =>
    rw [Tree.labelled, Bool.and_eq_true, Bool.and_eq_true] at labelled
    cases bit
    · exact labelled.2.1
    · exact labelled.2.2

/-- What is decoded are symbols whose codes, and a few ones behind them, are
all the bits there are. -/
theorem codes_of_decode
    (whole : tree.labelled code [] = true)
    (labelled : Tree.labelled code path here = true)
    (walked : ones = true -> path = List.replicate depth true)
    (decoded : decode invalid tooLong tree limit bits here depth ones out = .ok symbols) :
    ∃ more, ∃ count ≤ 7, symbols = out ++ more ∧
      path ++ bits = more.flatMap code ++ List.replicate count true := by
  induction bits generalizing here path depth ones out with
  | nil =>
    rw [decode] at decoded
    split at decoded
    · cases decoded
    · next padding =>
      rw [not_or, Nat.not_lt, Bool.not_eq_false] at padding
      cases decoded
      exact ⟨[], depth, padding.1, by simp, by simp [walked padding.2]⟩
  | cons bit rest ih =>
    have below := labelled_child labelled bit
    rw [decode] at decoded
    cases next : here.child bit with
    | absent =>
      rw [next] at decoded
      cases decoded
    | node symbol zero one =>
      rw [next] at decoded below
      dsimp only at decoded
      split at decoded
      · next leaf =>
        rw [Tree.labelled, leaf, Bool.and_eq_true, Bool.not_true, Bool.false_or,
          beq_iff_eq] at below
        split at decoded
        · cases decoded
        · obtain ⟨more, count, few, rfl, same⟩ := ih whole (fun _ => rfl) decoded
          refine ⟨symbol :: more, count, few, by simp, ?_⟩
          rw [List.flatMap_cons, below.1, List.append_assoc, List.append_assoc, ← same]
          rfl
      · obtain ⟨more, count, few, grown, same⟩ := ih below (by
          rw [Bool.and_eq_true]
          rintro ⟨allOnes, rfl⟩
          rw [walked allOnes, ← List.replicate_succ']) decoded
        exact ⟨more, count, few, grown, by rw [← same, List.append_assoc]; rfl⟩

end PrefixTree
end Fib
