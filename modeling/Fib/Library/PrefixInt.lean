import Fib.Library.Bytes
import Mathlib.Tactic.Common
import Mathlib.Data.Nat.Bitwise
import Mathlib.Tactic.Ring

/-!
# Integers behind a prefix of bits

An integer shares its first byte with bits that stand above it.  It is written
in the low bits of that byte if it fits there below their greatest value, and
is continued in groups of seven bits otherwise, lowest first.
-/

namespace Fib
namespace PrefixInt

variable {Error : Type}

/-- The greatest value of the low bits. -/
def mask (bits : Nat) : Nat :=
  2 ^ bits - 1

/-- Groups of seven bits, each but the last with the high bit set.  The fuel
bounds the groups that follow the first. -/
def groups : Nat -> Nat -> Bytes
  | 0, value => [value.toUInt8]
  | fuel + 1, value =>
    if value < 128 then [value.toUInt8]
    else (value % 128 + 128).toUInt8 :: groups fuel (value / 128)

/-- Write an integer of at most 64 bits behind the high bits of the first
byte. -/
def append
    (first : UInt8)
    (bits value : Nat) : Bytes :=
  if value < mask bits then [first ||| value.toUInt8]
  else (first ||| (mask bits).toUInt8) :: groups 9 (value - mask bits)

/-- Read the groups from the given shift on. -/
def readGroups (truncated overflow : Error) :
    Nat -> Nat -> Bytes -> Except Error (Nat × Bytes)
  | _, _, [] => .error truncated
  | shift, value, byte :: rest =>
    let value := value + byte.toNat % 128 * 2 ^ shift
    if byte.toNat < 128 then .ok (value, rest)
    else if 56 ≤ shift + 7 then .error overflow
    else readGroups truncated overflow (shift + 7) value rest

/-- Read an integer behind the given number of low bits. -/
def read
    (truncated overflow : Error)
    (bits : Nat) :
    Bytes -> Except Error (Nat × Bytes)
  | [] => .error truncated
  | byte :: rest =>
    let value := byte.toNat % 2 ^ bits
    if value < mask bits then .ok (value, rest)
    else readGroups truncated overflow 0 value rest

/-! ## What is read -/

theorem suffix_of_readGroups
    (isRead : readGroups truncated overflow shift before bytes = .ok (value, rest)) :
    rest <:+ bytes := by
  induction bytes generalizing shift before with
  | nil => cases isRead
  | cons byte later ih =>
    unfold readGroups at isRead
    split at isRead
    · cases isRead
      exact List.suffix_cons ..
    · split at isRead
      · cases isRead
      · exact (ih isRead).trans (List.suffix_cons ..)

/-- Reading takes at least one byte off the front. -/
theorem suffix_of_read
    (isRead : read truncated overflow bits bytes = .ok (value, rest)) :
    rest <:+ bytes ∧ rest.length < bytes.length := by
  cases bytes with
  | nil => cases isRead
  | cons byte later =>
    have short : rest <:+ later := by
      unfold read at isRead
      dsimp only at isRead
      split at isRead
      · cases isRead
        exact List.suffix_rfl
      · exact suffix_of_readGroups isRead
    exact ⟨short.trans (List.suffix_cons ..), Nat.lt_succ_of_le short.length_le⟩

theorem error_of_readGroups
    (failed : readGroups truncated overflow shift before bytes = .error error) :
    error = truncated ∨ error = overflow := by
  induction bytes generalizing shift before with
  | nil =>
    cases failed
    exact .inl rfl
  | cons byte later ih =>
    unfold readGroups at failed
    split at failed
    · cases failed
    · split at failed
      · cases failed
        exact .inr rfl
      · exact ih failed

theorem error_of_read
    (failed : read truncated overflow bits bytes = .error error) :
    error = truncated ∨ error = overflow := by
  cases bytes with
  | nil =>
    cases failed
    exact .inl rfl
  | cons byte later =>
    unfold read at failed
    dsimp only at failed
    split at failed
    · cases failed
    · exact error_of_readGroups failed

/-! ## Reading what was written -/

section RoundTrip

variable (truncated overflow : Error)

/-- A byte holds every number below 256. -/
theorem toNat_toUInt8 (small : value < 256) : value.toUInt8.toNat = value :=
  Nat.mod_eq_of_lt small

/-- Groups that leave no more than eight in all are read back. -/
theorem readGroups_groups
    {group fuel value : Nat}
    (fits : value < 2 ^ (7 * (8 - group)))
    (inRange : group < 8)
    (enough : 8 ≤ group + (fuel + 1))
    (before : Nat)
    (rest : Bytes) :
    readGroups truncated overflow (7 * group) before (groups fuel value ++ rest) =
      .ok (before + value * 2 ^ (7 * group), rest) := by
  induction fuel generalizing group value before with
  | zero =>
    have last : 8 - group = 1 := by omega
    rw [last] at fits
    have small : value < 128 := fits
    simp only [groups, List.cons_append, List.nil_append, readGroups,
      toNat_toUInt8 (by omega : value < 256), if_pos small,
      Nat.mod_eq_of_lt small]
  | succ fuel ih =>
    unfold groups
    split
    · next small =>
      simp only [List.cons_append, List.nil_append, readGroups,
        toNat_toUInt8 (by omega : value < 256), if_pos small,
        Nat.mod_eq_of_lt small]
    next large =>
    have room : group + 1 < 8 := by
      by_contra late
      have last : 8 - group = 1 := by omega
      rw [last] at fits
      omega
    have later : value / 128 < 2 ^ (7 * (8 - (group + 1))) := by
      apply Nat.div_lt_of_lt_mul
      have parts : 7 * (8 - group) = 7 + 7 * (8 - (group + 1)) := by
        omega
      rw [parts, Nat.pow_add] at fits
      exact fits
    have low : (value % 128 + 128) % 128 = value % 128 := by omega
    have whole : value % 128 * 2 ^ (7 * group) + value / 128 * 2 ^ (7 * (group + 1)) =
        value * 2 ^ (7 * group) := by
      calc
        value % 128 * 2 ^ (7 * group) + value / 128 * 2 ^ (7 * (group + 1)) =
            (value % 128 + 128 * (value / 128)) * 2 ^ (7 * group) := by
          ring
        _ = value * 2 ^ (7 * group) := by rw [Nat.mod_add_div]
    rw [List.cons_append, readGroups,
      toNat_toUInt8 (by omega : value % 128 + 128 < 256), low,
      if_neg (by omega), if_neg (by omega)]
    change readGroups truncated overflow (7 * (group + 1)) _ _ = _
    rw [ih later room (by omega), Nat.add_assoc, whole]

/-- The first byte keeps the bits above the integer. -/
theorem toNat_or
    {first : UInt8}
    {bits value : Nat}
    (clear : first.toNat % 2 ^ bits = 0)
    (small : value < 2 ^ bits)
    (inByte : value < 256) :
    (first ||| value.toUInt8).toNat = first.toNat + value := by
  have above : first.toNat = 2 ^ bits * (first.toNat / 2 ^ bits) := by
    have whole := Nat.div_add_mod first.toNat (2 ^ bits)
    omega
  rw [UInt8.toNat_or, toNat_toUInt8 inByte, above, ← Nat.two_pow_add_eq_or_of_lt small]

variable {first : UInt8}
variable {bits value : Nat}

section

variable (clear : first.toNat % 2 ^ bits = 0)
include clear

theorem append_eq_cons (inByte : bits ≤ 8) :
    ∃ head rest, append first bits value = head :: rest ∧
      head.toNat = first.toNat + min value (mask bits) := by
  have bound : 2 ^ bits ≤ 256 := Nat.pow_le_pow_right (by decide) inByte
  unfold append
  split
  · next small =>
    refine ⟨_, _, rfl, ?_⟩
    unfold mask at small ⊢
    rw [toNat_or clear (by omega) (by omega), Nat.min_eq_left (by omega)]
  · next large =>
    refine ⟨_, _, rfl, ?_⟩
    unfold mask at large ⊢
    rw [toNat_or clear (by omega) (by omega), Nat.min_eq_right (by omega)]

/-- An integer that leaves at most eight groups is read back. -/
theorem read_append
    (inByte : bits ≤ 8)
    (fits : value < 2 ^ 56)
    (rest : Bytes) :
    read truncated overflow bits (append first bits value ++ rest) = .ok (value, rest) := by
  have bound : 2 ^ bits ≤ 256 := Nat.pow_le_pow_right (by decide) inByte
  have low {small : Nat} (fit : small < 2 ^ bits) :
      (first ||| small.toUInt8).toNat % 2 ^ bits = small := by
    rw [toNat_or clear fit (by omega), Nat.add_mod, clear, Nat.zero_add,
      Nat.mod_mod, Nat.mod_eq_of_lt fit]
  unfold append
  split
  · next small =>
    have fit : value < 2 ^ bits := by
      unfold mask at small
      omega
    simp only [List.cons_append, List.nil_append, read, low fit, if_pos small]
  next large =>
  have fit : mask bits < 2 ^ bits := by
    unfold mask
    omega
  simp only [List.cons_append, read, low fit, Nat.lt_irrefl, if_false]
  have groupsRead := @readGroups_groups Error truncated overflow 0 9
    (value - mask bits) (by omega) (by decide) (by decide) (mask bits)
    rest
  rw [groupsRead]
  congr 2
  omega

/-- What is written starts with a byte that keeps the bits above the integer,
and is read back. -/
theorem append_spec
    (inByte : bits ≤ 8)
    (fits : value < 2 ^ 56)
    (rest : Bytes) :
    ∃ head more, append first bits value ++ rest = head :: more ∧
      rest.length ≤ more.length ∧ first.toNat ≤ head.toNat ∧
      head.toNat < first.toNat + 2 ^ bits ∧
      read truncated overflow bits (head :: more) = .ok (value, rest) := by
  obtain ⟨head, more, block, high⟩ :=
    @append_eq_cons first bits value clear inByte
  have isRead := read_append truncated overflow clear inByte fits rest
  rw [block] at isRead
  refine ⟨head, more ++ rest, ?_, ?_, ?_, ?_, isRead⟩
  · rw [block, List.cons_append]
  · rw [List.length_append]
    exact Nat.le_add_left ..
  · rw [high]
    exact Nat.le_add_right ..
  · have bound : min value (mask bits) < 2 ^ bits := by
      apply Nat.lt_of_le_of_lt (Nat.min_le_right ..)
      exact Nat.sub_lt (Nat.two_pow_pos bits) Nat.one_pos
    omega

end

end RoundTrip

end PrefixInt
end Fib
