import Fib.Library.Lines
import Mathlib.Data.Nat.Digits.Defs

/-!
# Numerals and chunked bodies

Numbers are written in a base of at most sixteen, most significant digit
first.  A chunked body is a sequence of chunks, each with its size in
hexadecimal on a line before it, ended by a chunk of size zero.
-/

namespace Fib

/-! ## Numerals -/

namespace Numeral

def digitByte (digit : Nat) : UInt8 :=
  if digit < 10 then (48 + digit).toUInt8 else (87 + digit).toUInt8

def digitValue (byte : UInt8) : Option Nat :=
  if 48 ≤ byte ∧ byte ≤ 57 then some (byte.toNat - 48)
  else if 97 ≤ byte ∧ byte ≤ 102 then some (byte.toNat - 87)
  else if 65 ≤ byte ∧ byte ≤ 70 then some (byte.toNat - 55)
  else none

/-- The numeral of a number. -/
def digits (base number : Nat) : Bytes :=
  if number = 0 then [48]
  else (Nat.digits base number).reverse.map digitByte

/-- Add one digit to the number read so far. -/
def shiftIn
    (base : Nat)
    (number : Option Nat)
    (byte : UInt8) : Option Nat :=
  match number, digitValue byte with
  | some number, some digit =>
    if digit < base then some (number * base + digit) else none
  | _, _ => none

/-- The number a non-empty string of digits stands for. -/
def parseDigits
    (base : Nat)
    (bytes : Bytes) : Option Nat :=
  if bytes = [] then none else bytes.foldl (shiftIn base) (some 0)

theorem digitValue_digitByte (small : digit < 16) :
    digitValue (digitByte digit) = some digit := by
  revert digit
  decide

/-- No digit ends a line or separates words. -/
theorem digitByte_ne (small : digit < 16) :
    digitByte digit ≠ 13 ∧ digitByte digit ≠ 32 := by
  revert digit
  decide

variable {base : Nat}

theorem foldl_shiftIn_reverse
    (baseSmall : base ≤ 16)
    (places : List Nat)
    (proper : ∀ digit ∈ places, digit < base) :
    (places.reverse.map digitByte).foldl (shiftIn base) (some 0) =
      some (Nat.ofDigits base places) := by
  induction places with
  | nil => rfl
  | cons digit places ih =>
    have small := proper digit List.mem_cons_self
    have rest := ih fun other present =>
      proper other (List.mem_cons_of_mem _ present)
    rw [List.reverse_cons, List.map_append, List.foldl_append, rest]
    simp only [List.map_cons, List.map_nil, List.foldl_cons,
      List.foldl_nil, shiftIn, digitValue_digitByte (by omega : digit < 16),
      small, if_true, Nat.ofDigits_cons, Option.some.injEq]
    ring

theorem digits_ne_nil (base number : Nat) : digits base number ≠ [] := by
  unfold digits
  split
  · simp
  · next positive =>
    simpa [Nat.digits_eq_nil_iff_eq_zero] using positive

/-- A numeral reads back as its number. -/
theorem parseDigits_digits
    (large : 1 < base)
    (small : base ≤ 16)
    (number : Nat) :
    parseDigits base (digits base number) = some number := by
  rw [parseDigits, if_neg (digits_ne_nil base number), digits]
  split
  · next zero =>
    subst zero
    simp [shiftIn, digitValue, show 0 < base by omega]
  · rw [foldl_shiftIn_reverse small _ fun _ => Nat.digits_lt_base large, Nat.ofDigits_digits]

theorem digits_ne
    (large : 1 < base)
    (small : base ≤ 16)
    (number : Nat) :
    ∀ byte ∈ digits base number, byte ≠ 13 ∧ byte ≠ 32 := by
  intro byte present
  unfold digits at present
  split at present
  · rw [List.mem_singleton.mp present]
    decide
  · obtain ⟨digit, among, rfl⟩ := List.mem_map.mp present
    have := Nat.digits_lt_base large (List.mem_reverse.mp among)
    exact digitByte_ne (by omega)

/-- A decimal numeral is made of the digits from `0` to `9`. -/
theorem digit_of_mem_digits
    {number : Nat}
    {byte : UInt8}
    (present : byte ∈ digits 10 number) :
    48 ≤ byte ∧ byte ≤ 57 := by
  have each : ∀ digit < 10, 48 ≤ digitByte digit ∧ digitByte digit ≤ 57 := by
    decide
  unfold digits at present
  split at present
  · rw [List.mem_singleton.mp present]
    decide
  · obtain ⟨digit, isDigit, rfl⟩ := List.mem_map.mp present
    exact each digit
      (Nat.digits_lt_base (by decide) (List.mem_reverse.mp isDigit))

theorem hasCrlf_digits
    (large : 1 < base)
    (small : base ≤ 16)
    (number : Nat) :
    Lines.hasCrlf (digits base number) = false :=
  Lines.hasCrlf_eq_false_of_forall fun byte present =>
    (digits_ne large small number byte present).1

end Numeral

/-! ## Chunks -/

namespace Chunks

open Lines Numeral

/-- One chunk with its size before it. -/
def chunk (content : Bytes) : Bytes :=
  digits 16 content.length ++ crlf ++ content ++ crlf

/-- The line that ends the chunks. -/
def lastChunk : Bytes := 48 :: crlf

/-- Read chunks up to the one of size zero, and what is left after it. -/
def readChunks : Nat -> Bytes -> Option (Bytes × Bytes)
  | 0, _ => none
  | fuel + 1, bytes =>
    match readLine bytes with
    | none => none
    | some (line, rest) =>
      match parseDigits 16 line with
      | none => none
      | some 0 => some ([], rest)
      | some size =>
        if (rest.drop size).take 2 = crlf then
          (readChunks fuel (rest.drop (size + 2))).map
            fun (content, left) => (rest.take size ++ content, left)
        else none

/-- Read a chunked body; every chunk takes at least one byte. -/
def readChunked (bytes : Bytes) : Option (Bytes × Bytes) :=
  readChunks bytes.length bytes

theorem readChunks_lastChunk
    (fuel : Nat)
    (rest : Bytes) :
    readChunks (fuel + 1) (lastChunk ++ rest) = some ([], rest) := by
  have line : readLine (lastChunk ++ rest) = some ([48], rest) :=
    @readLine_append [48] rfl rest
  rfl

theorem readChunks_chunk
    (nonempty : content ≠ [])
    (fuel : Nat)
    (rest : Bytes) :
    readChunks (fuel + 1) (chunk content ++ rest) = (readChunks fuel rest).map fun (later, left) =>
        (content ++ later, left) := by
  have line : readLine (chunk content ++ rest) =
      some (digits 16 content.length, content ++ crlf ++ rest) := by
    rw [← readLine_append (hasCrlf_digits (by decide) (by decide) _)]
    simp only [chunk, List.append_assoc]
  obtain ⟨size, length⟩ :=
    Nat.exists_eq_succ_of_ne_zero (mt List.length_eq_zero_iff.mp nonempty)
  have dropped : (content ++ crlf ++ rest).drop (size + 1) = crlf ++ rest := by
    rw [← Nat.succ_eq_add_one, ← length, List.append_assoc, List.drop_left]
  simp only [readChunks, line,
    parseDigits_digits (by decide : 1 < 16) (by decide), length]
  rw [List.append_assoc, ← length]
  simp [crlf]

section

variable (chunks : List Bytes)

/-- Chunks read back as the bytes they were cut from. -/
theorem readChunks_flatMap
    (nonempty : ∀ content ∈ chunks, content ≠ [])
    (rest : Bytes)
    (enough : chunks.length < fuel) :
    readChunks fuel (chunks.flatMap chunk ++ lastChunk ++ rest) = some (chunks.flatten, rest) := by
  induction chunks generalizing fuel with
  | nil =>
    obtain ⟨less, rfl⟩ := Nat.exists_eq_succ_of_ne_zero (by omega : fuel ≠ 0)
    exact readChunks_lastChunk less rest
  | cons content chunks ih =>
    obtain ⟨less, rfl⟩ := Nat.exists_eq_succ_of_ne_zero (Nat.ne_zero_of_lt enough)
    rw [List.flatMap_cons, List.append_assoc, List.append_assoc,
      readChunks_chunk (nonempty content List.mem_cons_self),
      ← List.append_assoc, ih (fun other present => nonempty other (List.mem_cons_of_mem _ present))
        (by simpa using enough)]
    rfl

theorem length_le_flatMap_chunk :
    chunks.length ≤ (chunks.flatMap chunk).length := by
  induction chunks with
  | nil => simp
  | cons content chunks ih =>
    simp only [List.flatMap_cons, List.length_append, List.length_cons,
      chunk, crlf, List.length_nil]
    omega

theorem readChunked_flatMap
    (nonempty : ∀ content ∈ chunks, content ≠ [])
    (rest : Bytes) :
    readChunked (chunks.flatMap chunk ++ lastChunk ++ rest) = some (chunks.flatten, rest) := by
  apply readChunks_flatMap chunks nonempty rest
  have := length_le_flatMap_chunk chunks
  simp only [List.length_append, lastChunk, List.length_cons]
  omega

/-- Read a chunked body and the fields after it, with nothing left. -/
def readTrailed (bytes : Bytes) : Option (Bytes × List (Bytes × Bytes)) :=
  match readChunked bytes with
  | none => none
  | some (content, rest) =>
    match readFields [] rest with
    | some (fields, []) => some (content, fields)
    | _ => none

theorem legible_of_readTrailed
    (read : readTrailed bytes = some (content, fields)) :
    ∀ field ∈ fields, Legible field := by
  unfold readTrailed at read
  split at read
  · cases read
  split at read
  · next readLater =>
    cases read
    exact legible_of_readFields readLater
  · cases read

theorem readTrailed_flatMap
    (nonempty : ∀ content ∈ chunks, content ≠ [])
    (fields : List (Bytes × Bytes)) :
    readTrailed (chunks.flatMap chunk ++ lastChunk ++ (fieldLines fields ++ crlf)) =
      some (chunks.flatten, fields) ↔
        ∀ field ∈ fields, Legible field := by
  constructor
  · exact legible_of_readTrailed
  · intro legible
    rw [readTrailed, readChunked_flatMap chunks nonempty]
    have read := readFields_fieldLines legible []
    rw [List.append_nil] at read
    simp only [read]

end

end Chunks
end Fib
