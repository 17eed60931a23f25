import Fib.Library.PrefixInt

/-!
# Integers of variable length

The two high bits of the first byte tell how many bytes an integer takes: one,
two, four or eight.  The other bits are the integer, the highest first.
-/

namespace Fib
namespace Varint

/-- The last bytes of a number, the highest first. -/
def lowBytes : Nat -> Nat -> Bytes
  | 0, _ => []
  | count + 1, value =>
    (value / 256 ^ count % 256).toUInt8 :: lowBytes count value

/-- Write an integer below `2 ^ 62` in as few bytes as it fits. -/
def append (value : Nat) : Bytes :=
  if value < 2 ^ 6 then [value.toUInt8]
  else if value < 2 ^ 14 then
    ((value / 256 ^ 1).toUInt8 ||| 0x40) :: lowBytes 1 value
  else if value < 2 ^ 30 then
    ((value / 256 ^ 3).toUInt8 ||| 0x80) :: lowBytes 3 value
  else ((value / 256 ^ 7).toUInt8 ||| 0xc0) :: lowBytes 7 value

/-- Write an integer below `2 ^ 14` in exactly two bytes. -/
def append2 (value : Nat) : Bytes :=
  ((value / 256 ^ 1).toUInt8 ||| 0x40) :: lowBytes 1 value

/-- How many bytes the integer takes that starts with a byte. -/
def width (first : UInt8) : Nat :=
  2 ^ (first.toNat / 64)

/-- Add a byte below a number. -/
def shiftIn
    (value : Nat)
    (byte : UInt8) : Nat :=
  value * 256 + byte.toNat

/-- Read an integer and how many bytes it takes, unless the bytes are too
few. -/
def read : Bytes -> Option (Nat × Nat)
  | [] => none
  | first :: rest =>
    if rest.length + 1 < width first then none
    else
      some ((rest.take (width first - 1)).foldl shiftIn (first.toNat % 64),
        width first)

/-! ## What is read -/

theorem width_pos (first : UInt8) : 0 < width first :=
  Nat.two_pow_pos _

theorem read_eq_some (isRead : read bytes = some (value, size)) :
    0 < size ∧ size ≤ bytes.length := by
  cases bytes with
  | nil => cases isRead
  | cons first rest =>
    rw [read] at isRead
    split at isRead
    · cases isRead
    · next enough =>
      cases isRead
      exact ⟨width_pos first, Nat.not_lt.mp enough⟩

/-- What is read does not depend on what follows. -/
theorem read_append_right
    (isRead : read bytes = some (value, size))
    (later : Bytes) :
    read (bytes ++ later) = some (value, size) := by
  cases bytes with
  | nil => cases isRead
  | cons first rest =>
    rw [read] at isRead
    split at isRead
    · cases isRead
    next enough =>
    rw [List.cons_append, read, if_neg (by
      rw [List.length_append]
      omega), List.take_append_of_le_length (by omega)]
    exact isRead

/-- What is read does not depend on what follows. -/
theorem read_take
    (isRead : read bytes = some (value, size))
    (enough : size ≤ count) :
    read (bytes.take count) = some (value, size) := by
  cases bytes with
  | nil => cases isRead
  | cons first rest =>
    rw [read] at isRead
    split at isRead
    · cases isRead
    next whole =>
    cases isRead
    have positive := width_pos first
    obtain ⟨more, rfl⟩ : ∃ more, count = more + 1 :=
      ⟨count - 1, by omega⟩
    rw [List.take_succ_cons, read, if_neg (by
      rw [List.length_take]
      omega), List.take_take, Nat.min_eq_left (by omega)]

/-! ## Reading what was written -/

theorem length_lowBytes
    (count value : Nat) :
    (lowBytes count value).length = count := by
  induction count with
  | zero => rfl
  | succ count ih =>
    rw [lowBytes, List.length_cons, ih]

theorem foldl_lowBytes (count value high : Nat) :
    (lowBytes count value).foldl shiftIn high = high * 256 ^ count + value % 256 ^ count := by
  induction count generalizing high with
  | zero => simp [lowBytes, Nat.mod_one]
  | succ count ih =>
    have digit : (value / 256 ^ count % 256).toUInt8.toNat = value / 256 ^ count % 256 :=
      PrefixInt.toNat_toUInt8 (Nat.mod_lt _ (by decide))
    rw [lowBytes, List.foldl_cons, ih, shiftIn, digit, Nat.mod_pow_succ]
    ring

theorem length_append
    (value : Nat) :
    0 < (append value).length ∧ (append value).length ≤ 8 := by
  unfold append
  split_ifs <;> simp [length_lowBytes]

theorem length_append_le_two
    (small : value < 2 ^ 14) :
    (append value).length ≤ 2 := by
  unfold append
  split_ifs
  all_goals simp [length_lowBytes]

/-- A first byte that holds the highest bits and a tag, with the low bytes
behind it, is read back. -/
theorem read_tagged
    {first : UInt8}
    {value count : Nat}
    (tag : first.toNat / 64 = Nat.log2 (count + 1))
    (power : 2 ^ Nat.log2 (count + 1) = count + 1)
    (high : first.toNat % 64 = value / 256 ^ count)
    (rest : Bytes) :
    read (first :: lowBytes count value ++ rest) =
      some (value, (first :: lowBytes count value).length) := by
  have size : width first = count + 1 := by rw [width, tag, power]
  rw [List.cons_append, read, size, if_neg (by
    rw [List.length_append, length_lowBytes]
    omega), Nat.add_sub_cancel,
    List.take_append_of_le_length (length_lowBytes count value).ge,
    List.take_of_length_le (length_lowBytes count value).le, foldl_lowBytes,
    high, List.length_cons, length_lowBytes, Nat.div_add_mod']

theorem toNat_tagged
    (tag : UInt8)
    (isTag : tag.toNat % 2 ^ 6 = 0)
    {high : Nat}
    (fits : high < 64) :
    (high.toUInt8 ||| tag).toNat = tag.toNat + high := by
  rw [UInt8.or_comm, PrefixInt.toNat_or isTag (by omega) (by omega)]

/-- Reading what was written in two bytes. -/
theorem read_append2
    (small : value < 2 ^ 14)
    (rest : Bytes) :
    read (append2 value ++ rest) = some (value, 2) := by
  have fits : value / 256 ^ 1 < 64 := by omega
  have byte := toNat_tagged 0x40 (by decide) fits
  refine read_tagged ?_ (by decide) ?_ rest
  · rw [byte]
    change (64 + value / 256 ^ 1) / 64 = 1
    omega
  · rw [byte]
    change (64 + value / 256 ^ 1) % 64 = value / 256 ^ 1
    omega

/-- Reading what was written. -/
theorem read_append
    (small : value < 2 ^ 62)
    (rest : Bytes) :
    read (append value ++ rest) = some (value, (append value).length) := by
  unfold append
  split
  · next tiny =>
    have tiny : value < 64 := tiny
    have byte : value.toUInt8.toNat = value :=
      PrefixInt.toNat_toUInt8 (by omega)
    refine @read_tagged value.toUInt8 value 0 ?_ (by decide) ?_ rest
    · rw [byte]
      exact Nat.div_eq_of_lt tiny
    · rw [byte, Nat.mod_eq_of_lt tiny, Nat.pow_zero, Nat.div_one]
  split
  · next short => exact read_append2 short rest
  split
  · next long =>
    have fits : value / 256 ^ 3 < 64 := by omega
    have byte := toNat_tagged 0x80 (by decide) fits
    refine read_tagged ?_ (by decide) ?_ rest
    · rw [byte]
      change (128 + value / 256 ^ 3) / 64 = 2
      omega
    · rw [byte]
      change (128 + value / 256 ^ 3) % 64 = value / 256 ^ 3
      omega
  have fits : value / 256 ^ 7 < 64 := by omega
  have byte := toNat_tagged 0xc0 (by decide) fits
  refine read_tagged ?_ (by decide) ?_ rest
  · rw [byte]
    change (192 + value / 256 ^ 7) / 64 = 3
    omega
  · rw [byte]
    change (192 + value / 256 ^ 7) % 64 = value / 256 ^ 7
    omega

end Varint
end Fib
