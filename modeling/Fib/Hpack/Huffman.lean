import Fib.Library.Bits
import Fib.Library.PrefixTree

/-!
# The Huffman code of header strings

Strings are coded with a fixed prefix code, whole bytes at a time, and padded
with ones.  Decoding walks the tree of the codes.  Every string is decoded
from its code.
-/

namespace Fib
namespace Hpack

open PrefixTree

/-- The errors of this package. -/
inductive Error where
  | invalidIndex
  | integerOverflow
  | truncated
  | invalidHuffman
  | stringTooLong
  | invalidSizeUpdate
deriving DecidableEq, Repr

/-- `err.Error()`. -/
def Error.message : Error -> Bytes
  | invalidIndex => ascii "hpack: invalid table index"
  | integerOverflow => ascii "hpack: integer overflow"
  | truncated => ascii "hpack: truncated header block"
  | invalidHuffman => ascii "hpack: invalid huffman encoding"
  | stringTooLong => ascii "hpack: string too long"
  | invalidSizeUpdate => ascii "hpack: invalid dynamic table size update"

/-- The code of a byte is in the low bits of its number. -/
def huffmanCodes : List Nat :=
  [
    0x1ff8, 0x7fffd8, 0xfffffe2, 0xfffffe3, 0xfffffe4, 0xfffffe5, 0xfffffe6,
    0xfffffe7, 0xfffffe8, 0xffffea, 0x3ffffffc, 0xfffffe9, 0xfffffea,
    0x3ffffffd, 0xfffffeb, 0xfffffec, 0xfffffed, 0xfffffee, 0xfffffef,
    0xffffff0, 0xffffff1, 0xffffff2, 0x3ffffffe, 0xffffff3, 0xffffff4,
    0xffffff5, 0xffffff6, 0xffffff7, 0xffffff8, 0xffffff9, 0xffffffa,
    0xffffffb, 0x14, 0x3f8, 0x3f9, 0xffa, 0x1ff9, 0x15, 0xf8, 0x7fa, 0x3fa,
    0x3fb, 0xf9, 0x7fb, 0xfa, 0x16, 0x17, 0x18, 0x0, 0x1, 0x2, 0x19, 0x1a,
    0x1b, 0x1c, 0x1d, 0x1e, 0x1f, 0x5c, 0xfb, 0x7ffc, 0x20, 0xffb, 0x3fc,
    0x1ffa, 0x21, 0x5d, 0x5e, 0x5f, 0x60, 0x61, 0x62, 0x63, 0x64, 0x65, 0x66,
    0x67, 0x68, 0x69, 0x6a, 0x6b, 0x6c, 0x6d, 0x6e, 0x6f, 0x70, 0x71, 0x72,
    0xfc, 0x73, 0xfd, 0x1ffb, 0x7fff0, 0x1ffc, 0x3ffc, 0x22, 0x7ffd, 0x3,
    0x23, 0x4, 0x24, 0x5, 0x25, 0x26, 0x27, 0x6, 0x74, 0x75, 0x28, 0x29, 0x2a,
    0x7, 0x2b, 0x76, 0x2c, 0x8, 0x9, 0x2d, 0x77, 0x78, 0x79, 0x7a, 0x7b,
    0x7ffe, 0x7fc, 0x3ffd, 0x1ffd, 0xffffffc, 0xfffe6, 0x3fffd2, 0xfffe7,
    0xfffe8, 0x3fffd3, 0x3fffd4, 0x3fffd5, 0x7fffd9, 0x3fffd6, 0x7fffda,
    0x7fffdb, 0x7fffdc, 0x7fffdd, 0x7fffde, 0xffffeb, 0x7fffdf, 0xffffec,
    0xffffed, 0x3fffd7, 0x7fffe0, 0xffffee, 0x7fffe1, 0x7fffe2, 0x7fffe3,
    0x7fffe4, 0x1fffdc, 0x3fffd8, 0x7fffe5, 0x3fffd9, 0x7fffe6, 0x7fffe7,
    0xffffef, 0x3fffda, 0x1fffdd, 0xfffe9, 0x3fffdb, 0x3fffdc, 0x7fffe8,
    0x7fffe9, 0x1fffde, 0x7fffea, 0x3fffdd, 0x3fffde, 0xfffff0, 0x1fffdf,
    0x3fffdf, 0x7fffeb, 0x7fffec, 0x1fffe0, 0x1fffe1, 0x3fffe0, 0x1fffe2,
    0x7fffed, 0x3fffe1, 0x7fffee, 0x7fffef, 0xfffea, 0x3fffe2, 0x3fffe3,
    0x3fffe4, 0x7ffff0, 0x3fffe5, 0x3fffe6, 0x7ffff1, 0x3ffffe0, 0x3ffffe1,
    0xfffeb, 0x7fff1, 0x3fffe7, 0x7ffff2, 0x3fffe8, 0x1ffffec, 0x3ffffe2,
    0x3ffffe3, 0x3ffffe4, 0x7ffffde, 0x7ffffdf, 0x3ffffe5, 0xfffff1,
    0x1ffffed, 0x7fff2, 0x1fffe3, 0x3ffffe6, 0x7ffffe0, 0x7ffffe1, 0x3ffffe7,
    0x7ffffe2, 0xfffff2, 0x1fffe4, 0x1fffe5, 0x3ffffe8, 0x3ffffe9, 0xffffffd,
    0x7ffffe3, 0x7ffffe4, 0x7ffffe5, 0xfffec, 0xfffff3, 0xfffed, 0x1fffe6,
    0x3fffe9, 0x1fffe7, 0x1fffe8, 0x7ffff3, 0x3fffea, 0x3fffeb, 0x1ffffee,
    0x1ffffef, 0xfffff4, 0xfffff5, 0x3ffffea, 0x7ffff4, 0x3ffffeb, 0x7ffffe6,
    0x3ffffec, 0x3ffffed, 0x7ffffe7, 0x7ffffe8, 0x7ffffe9, 0x7ffffea,
    0x7ffffeb, 0xffffffe, 0x7ffffec, 0x7ffffed, 0x7ffffee, 0x7ffffef,
    0x7fffff0, 0x3ffffee]

/-- How many bits the code of a byte has. -/
def huffmanCodeLen : List Nat :=
  [
    13, 23, 28, 28, 28, 28, 28, 28, 28, 24, 30, 28, 28, 30, 28, 28, 28, 28,
    28, 28, 28, 28, 30, 28, 28, 28, 28, 28, 28, 28, 28, 28, 6, 10, 10, 12, 13,
    6, 8, 11, 10, 10, 8, 11, 8, 6, 6, 6, 5, 5, 5, 6, 6, 6, 6, 6, 6, 6, 7, 8,
    15, 6, 12, 10, 13, 6, 7, 7, 7, 7, 7, 7, 7, 7, 7, 7, 7, 7, 7, 7, 7, 7, 7,
    7, 7, 7, 7, 7, 8, 7, 8, 13, 19, 13, 14, 6, 15, 5, 6, 5, 6, 5, 6, 6, 6, 5,
    7, 7, 6, 6, 6, 5, 6, 7, 6, 5, 5, 6, 7, 7, 7, 7, 7, 15, 11, 14, 13, 28, 20,
    22, 20, 20, 22, 22, 22, 23, 22, 23, 23, 23, 23, 23, 24, 23, 24, 24, 22,
    23, 24, 23, 23, 23, 23, 21, 22, 23, 22, 23, 23, 24, 22, 21, 20, 22, 22,
    23, 23, 21, 23, 22, 22, 24, 21, 22, 23, 23, 21, 21, 22, 21, 23, 22, 23,
    23, 20, 22, 22, 22, 23, 22, 22, 23, 26, 26, 20, 19, 22, 23, 22, 25, 26,
    26, 26, 27, 27, 26, 24, 25, 19, 21, 26, 27, 27, 26, 27, 24, 21, 21, 26,
    26, 28, 27, 27, 27, 20, 24, 20, 21, 22, 21, 21, 23, 22, 22, 25, 25, 24,
    24, 26, 23, 26, 27, 26, 26, 27, 27, 27, 27, 27, 28, 27, 27, 27, 27, 27,
    26]

/-- `huffmanCodes[c]`. -/
def codeValue (symbol : UInt8) : Nat :=
  huffmanCodes.getD symbol.toNat 0

/-- `huffmanCodeLen[c]`. -/
def codeLength (symbol : UInt8) : Nat :=
  huffmanCodeLen.getD symbol.toNat 0

/-- The bits of the code of a byte. -/
def codeOf (symbol : UInt8) : List Bool :=
  Bits.ofNat (codeLength symbol) (codeValue symbol)

/-- `buildHuffmanTree`: a node stands for its index. -/
def huffmanTree : PrefixTree.Tree UInt8 :=
  (List.range 256).foldl
    (fun tree number =>
      tree.insert 0 number.toUInt8 (codeOf number.toUInt8))
    (.node 0 .absent .absent)

section

variable (text : Bytes)

/-- `huffmanDecode`. -/
def huffmanDecode (maxLen : Nat) : Except Error Bytes :=
  decode .invalidHuffman .stringTooLong huffmanTree maxLen
    (Bits.ofBytes text) huffmanTree 0 true []

/-- `huffmanLen`. -/
def huffmanLen : Nat :=
  ((text.map codeLength).sum + 7) / 8

/-- The whole bytes among the bits that are accumulated, and how many bits are
left. -/
def wholeBytes (acc : Nat) : Nat -> Nat -> Bytes × Nat
  | 0, count => ([], count)
  | fuel + 1, count =>
    if 8 ≤ count then
      ((acc >>> (count - 8)).toUInt8 ::
        (wholeBytes acc fuel (count - 8)).1,
        (wholeBytes acc fuel (count - 8)).2)
    else ([], count)

/-- The loop of `huffmanAppend`, with `acc` and `n`. -/
def huffmanLoop : Bytes -> Nat -> Nat -> Bytes
  | [], acc, count =>
    if 0 < count then
      [(acc <<< (8 - count)).toUInt8 ||| (0xff >>> count : Nat).toUInt8]
    else []
  | symbol :: rest, acc, count =>
    let acc := (acc <<< codeLength symbol ||| codeValue symbol) % 2 ^ 64
    let count := count + codeLength symbol
    (wholeBytes acc count count).1 ++
      huffmanLoop rest acc (wholeBytes acc count count).2

/-- `huffmanAppend`, the part it appends. -/
def huffmanAppend : Bytes :=
  huffmanLoop text 0 0

/-! ## What the code is -/

/-- Every code leads to its byte and every leaf stands at the end of its code, and no leaf
stands at the end of a few ones. -/
theorem huffmanTree_codes :
    (∀ number < 256,
      leads huffmanTree (codeOf (UInt8.ofNat number)) (UInt8.ofNat number) = true ∧
        codeValue (UInt8.ofNat number) < 2 ^ codeLength (UInt8.ofNat number) ∧
        codeLength (UInt8.ofNat number) ≤ 30) ∧
      stays huffmanTree (List.replicate 7 true) = true ∧
      huffmanTree.labelled codeOf [] = true := by
  decide +kernel

theorem huffmanTree_code (symbol : UInt8) :
    leads huffmanTree (codeOf symbol) symbol = true ∧
      codeValue symbol < 2 ^ codeLength symbol ∧ codeLength symbol ≤ 30 := by
  revert symbol
  exact forall_byte huffmanTree_codes.1

/-! ## Writing -/

/-- Taking whole bytes off moves bits and loses none. -/
theorem bits_wholeBytes
    (acc : Nat)
    (enough : count ≤ fuel) :
    Bits.ofBytes (wholeBytes acc fuel count).1 ++
        Bits.ofNat (wholeBytes acc fuel count).2 acc = Bits.ofNat count acc ∧
      (wholeBytes acc fuel count).2 < 8 := by
  induction fuel generalizing count with
  | zero =>
    obtain rfl : count = 0 := by omega
    exact ⟨rfl, Nat.zero_lt_succ 7⟩
  | succ fuel ih =>
    unfold wholeBytes
    split
    · next large =>
      obtain ⟨same, left⟩ :=
        @ih (count - 8) (by omega)
      refine ⟨?_, left⟩
      have parts := Bits.ofNat_add 8 (count - 8) acc
      rw [Nat.add_sub_cancel' large] at parts
      rw [← List.singleton_append, Bits.ofBytes_append,
        Bits.ofBytes_singleton, Bits.ofByte_toUInt8, List.append_assoc,
        same, parts]
    · exact ⟨rfl, by omega⟩

/-- The last byte is filled up with ones. -/
theorem bits_lastByte
    (positive : 0 < count)
    (short : count < 8)
    (acc : Nat) :
    Bits.ofByte ((acc <<< (8 - count)).toUInt8 ||| (0xff >>> count : Nat).toUInt8) =
      Bits.ofNat count acc ++ List.replicate (8 - count) true := by
  have filler : ∀ count < 8, 0 < count -> 0xff >>> count < 2 ^ (8 - count) ∧
        Bits.ofNat (8 - count) (0xff >>> count) =
          List.replicate (8 - count) true := by decide
  obtain ⟨fits, ones⟩ := filler count short positive
  have joined : (acc <<< (8 - count)).toUInt8 ||| (0xff >>> count : Nat).toUInt8 =
      (acc <<< (8 - count) ||| 0xff >>> count).toUInt8 :=
    (UInt8.ofNat_or ..).symm
  have whole := Bits.ofNat_shiftLeft_or fits count acc
  rw [Nat.add_sub_cancel' short.le] at whole
  rw [joined, Bits.ofByte_toUInt8, whole, ones]

theorem bits_huffmanLoop
    (short : count < 8)
    (acc : Nat) :
    ∃ padding ≤ 7, Bits.ofBytes (huffmanLoop text acc count) =
      Bits.ofNat count acc ++ text.flatMap codeOf ++ List.replicate padding true := by
  induction text generalizing count acc with
  | nil =>
    unfold huffmanLoop
    split
    · next positive =>
      refine ⟨8 - count, by omega, ?_⟩
      rw [Bits.ofBytes_singleton, bits_lastByte positive short, List.flatMap_nil, List.append_nil]
    · next none =>
      obtain rfl : count = 0 := by omega
      exact ⟨0, by decide, rfl⟩
  | cons symbol rest ih =>
    obtain ⟨-, fits, bound⟩ := huffmanTree_code symbol
    obtain ⟨same, left⟩ := bits_wholeBytes
      ((acc <<< codeLength symbol ||| codeValue symbol) % 2 ^ 64)
      (Nat.le_refl (count + codeLength symbol))
    obtain ⟨padding, few, later⟩ := ih left
      ((acc <<< codeLength symbol ||| codeValue symbol) % 2 ^ 64)
    refine ⟨padding, few, ?_⟩
    rw [huffmanLoop, Bits.ofBytes_append, later, ← List.append_assoc,
      ← List.append_assoc, same, Bits.ofNat_mod (by omega),
      Bits.ofNat_shiftLeft_or fits, List.flatMap_cons]
    simp only [List.append_assoc]
    rfl

/-- The bits of a coded string are its codes and a few ones. -/
theorem bits_huffmanAppend :
    ∃ padding ≤ 7, Bits.ofBytes (huffmanAppend text) =
      text.flatMap codeOf ++ List.replicate padding true := by
  obtain ⟨padding, few, same⟩ :=
    bits_huffmanLoop text (by decide : 0 < 8) 0
  exact ⟨padding, few, same⟩

theorem length_flatMap_codeOf :
    (text.flatMap codeOf).length = (text.map codeLength).sum := by
  rw [List.length_flatMap]
  congr 1
  exact List.map_congr_left fun symbol _ => Bits.length_ofNat ..

/-- `huffmanLen` is the length of the coded string. -/
theorem length_huffmanAppend : (huffmanAppend text).length = huffmanLen text := by
  obtain ⟨padding, few, same⟩ := bits_huffmanAppend text
  have count := congrArg List.length same
  rw [Bits.length_ofBytes, List.length_append, List.length_replicate,
    length_flatMap_codeOf] at count
  unfold huffmanLen
  omega

/-- Every string is decoded from its code, unless it is longer than the
limit. -/
theorem huffmanDecode_huffmanAppend (maxLen : Nat) :
    huffmanDecode (huffmanAppend text) maxLen =
      if 0 < maxLen ∧ maxLen < text.length then .error .stringTooLong
      else .ok text := by
  obtain ⟨padding, few, same⟩ := bits_huffmanAppend text
  rw [huffmanDecode, same]
  exact decode_encode _ _ huffmanTree maxLen
    (fun symbol => (huffmanTree_code symbol).1) huffmanTree_codes.2.1 text few

/-- Only what `huffmanAppend` writes is decoded. -/
theorem huffmanAppend_of_huffmanDecode
    (decoded : huffmanDecode coded maxLen = .ok text) :
    huffmanAppend text = coded := by
  obtain ⟨_, count, few, rfl, bits⟩ :=
    codes_of_decode huffmanTree_codes.2.2 huffmanTree_codes.2.2 (fun _ => rfl) decoded
  obtain ⟨padding, short, same⟩ := bits_huffmanAppend text
  -- Both fill the last byte up, so they end in the same number of ones.
  have sizes := congrArg List.length bits
  have lengths := congrArg List.length same
  simp only [List.length_append, Bits.length_ofBytes, List.length_replicate,
    List.length_nil] at sizes lengths
  obtain rfl : padding = count := by omega
  exact Bits.ofBytes_inj (same.trans bits.symm)

end

end Hpack
end Fib
