import Mathlib.Tactic.Common

/-!
# Incremental scanning

A scanner looks at the start of a stream and finds an item there, finds that
no item can stand there, or needs more of the stream.  When what it finds does
not depend on what follows, a stream may be handed over in any pieces: the
items found, and the failure that ends them, are those of the whole.
-/

namespace Fib
namespace Scanner

variable {Symbol Item Error : Type}

/-- What a scanner finds at the start of its input. -/
inductive Found (Item Error : Type) where
  | more
  | failed (error : Error)
  | item (item : Item) (size : Nat)
deriving DecidableEq

/-- What is found takes up part of the input and does not depend on what
follows. -/
structure Stable (scan : List Symbol -> Found Item Error) : Prop where
  empty : scan [] = .more
  failed :
    ∀ {input error}, scan input = .failed error ->
      ∀ later, scan (input ++ later) = .failed error
  item :
    ∀ {input item size}, scan input = .item item size ->
      ∀ later, scan (input ++ later) = .item item size
  size_pos : ∀ {input item size}, scan input = .item item size -> 0 < size
  size_le :
    ∀ {input item size}, scan input = .item item size ->
      size ≤ input.length

/-- The items found one after another, and what is left of the input or the
failure that ended them. -/
def drain (scan : List Symbol -> Found Item Error) :
    Nat -> List Symbol -> List Item × Except Error (List Symbol)
  | 0, input => ([], .ok input)
  | fuel + 1, input =>
    match scan input with
    | .more => ([], .ok input)
    | .failed error => ([], .error error)
    | .item item size =>
      let (items, rest) := drain scan fuel (input.drop size)
      (item :: items, rest)

/-- Scan the whole input: every item takes at least one symbol. -/
def scanAll
    (scan : List Symbol -> Found Item Error)
    (input : List Symbol) :
    List Item × Except Error (List Symbol) :=
  drain scan input.length input

/-- Go on with what is left, unless scanning has failed. -/
def resume (next : List Symbol -> List Item × Except Error (List Symbol)) :
    List Item × Except Error (List Symbol) ->
      List Item × Except Error (List Symbol)
  | (items, .error error) => (items, .error error)
  | (items, .ok left) => (items ++ (next left).1, (next left).2)

section Stable

variable {scan : List Symbol -> Found Item Error}
variable (stable : Stable scan)

include stable

variable {input : List Symbol}

/-- More fuel than there are symbols changes nothing. -/
theorem drain_eq_scanAll (enough : input.length ≤ fuel) :
    drain scan fuel input = scanAll scan input := by
  induction fuel using Nat.strongRecOn generalizing input with
  | _ fuel ih =>
    cases input with
    | nil =>
      cases fuel with
      | zero => rfl
      | succ fuel => simp [scanAll, drain, stable.empty]
    | cons symbol rest =>
      cases fuel with
      | zero => simp at enough
      | succ fuel =>
        simp only [scanAll, List.length_cons, drain]
        cases found : scan (symbol :: rest) with
        | more => rfl
        | failed error => rfl
        | item item size =>
          -- What is left behind the item is shorter than the input.
          have positive := stable.size_pos found
          have shorter : ((symbol :: rest).drop size).length ≤ rest.length := by
            rw [List.length_drop, List.length_cons]
            omega
          have smaller : rest.length < fuel + 1 :=
            Nat.lt_succ_of_le (Nat.le_of_succ_le_succ enough)
          dsimp only
          rw [ih fuel (Nat.lt_succ_self fuel)
              (by omega),
            ih rest.length smaller shorter]

theorem scanAll_of_more
    (found : scan input = .more) :
    scanAll scan input = ([], .ok input) := by
  rw [← drain_eq_scanAll stable (Nat.le_succ input.length)]
  simp [drain, found]

omit stable in
theorem scanAll_nil : scanAll scan [] = ([], .ok []) :=
  rfl

theorem scanAll_of_failed (found : scan input = .failed error) :
    scanAll scan input = ([], .error error) := by
  rw [← drain_eq_scanAll stable (Nat.le_succ input.length)]
  simp [drain, found]

theorem scanAll_of_item (found : scan input = .item item size) :
    scanAll scan input = (item :: (scanAll scan (input.drop size)).1,
        (scanAll scan (input.drop size)).2) := by
  have shorter : (input.drop size).length ≤ input.length := by
    rw [List.length_drop]
    omega
  rw [← drain_eq_scanAll stable (Nat.le_succ input.length), drain, found]
  dsimp only
  rw [drain_eq_scanAll stable shorter]

/-- Scanning stops where the scanner needs more. -/
theorem scan_of_scanAll
    {input left : List Symbol}
    (scanned : scanAll scan input = (items, .ok left)) :
    scan left = .more := by
  induction size : input.length using Nat.strongRecOn generalizing input items with
  | _ count ih =>
    cases found : scan input with
    | more =>
      rw [scanAll_of_more stable found, Prod.mk.injEq, Except.ok.injEq] at scanned
      rw [← scanned.2]
      exact found
    | failed error =>
      rw [scanAll_of_failed stable found] at scanned
      cases scanned
    | item item size =>
      rw [scanAll_of_item stable found, Prod.mk.injEq] at scanned
      have positive := stable.size_pos found
      have within := stable.size_le found
      refine ih _ ?_ (Prod.ext rfl scanned.2) rfl
      rw [List.length_drop]
      omega

/-- Scanning an input that goes on is scanning it and then what is left with
what follows. -/
theorem scanAll_append (input later : List Symbol) :
    scanAll scan (input ++ later) = resume (fun left => scanAll scan (left ++ later))
        (scanAll scan input) := by
  induction size : input.length using Nat.strongRecOn generalizing input with
  | _ count ih =>
    subst size
    cases found : scan input with
    | more =>
      rw [scanAll_of_more stable found]
      rfl
    | failed error =>
      rw [scanAll_of_failed stable found, scanAll_of_failed stable (stable.failed found later)]
      rfl
    | item item size =>
      have positive := stable.size_pos found
      have within := stable.size_le found
      have shorter : (input.drop size).length < input.length := by
        rw [List.length_drop]
        omega
      rw [scanAll_of_item stable (stable.item found later), List.drop_append_of_le_length within,
        ih _ shorter _ rfl, scanAll_of_item stable found]
      generalize scanAll scan (input.drop size) = scanned
      obtain ⟨items, rest⟩ := scanned
      cases rest <;> rfl

/-- A stream made up of items yields those items and nothing is left. -/
theorem scanAll_flatten
    (pieces : List (List Symbol × Item))
    (whole : ∀ piece ∈ pieces,
      scan piece.1 = .item piece.2 piece.1.length) :
    scanAll scan (pieces.map Prod.fst).flatten = (pieces.map Prod.snd, .ok []) := by
  induction pieces with
  | nil => exact scanAll_nil
  | cons piece pieces ih =>
    have found := stable.item (whole piece List.mem_cons_self) (pieces.map Prod.fst).flatten
    rw [List.map_cons, List.flatten_cons, scanAll_of_item stable found,
      List.drop_left, ih fun other present =>
        whole other (List.mem_cons_of_mem piece present)]
    rfl

end Stable

end Scanner
end Fib
