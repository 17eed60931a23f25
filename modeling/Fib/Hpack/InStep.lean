import Fib.Hpack.Codec
import Mathlib.Data.List.Induction

/-!
# Encoder and decoder stay in step

Whatever blocks the encoder writes, and however its table is resized between
them, a decoder that reads the blocks in order emits their fields and holds
the same table after each of them.
-/

namespace Fib
namespace Hpack

/-! ## Tables that fit -/

/-- The size of entries in a table. -/
def total (entries : List HeaderField) : Nat :=
  (entries.map HeaderField.size).sum

@[simp] theorem total_cons
    (entry : HeaderField)
    (rest : List HeaderField) :
    total (entry :: rest) = entry.size + total rest := rfl

@[simp] theorem total_append (first second : List HeaderField) :
    total (first ++ second) = total first + total second := by
  simp [total]

/-- The newest entries that fit. -/
def fit (maxSize : Nat) : List HeaderField -> List HeaderField
  | [] => []
  | entry :: rest =>
    if maxSize < total (entry :: rest) then fit maxSize rest
    else entry :: rest

theorem total_fit_le
    (maxSize : Nat)
    (entries : List HeaderField) :
    total (fit maxSize entries) ≤ maxSize := by
  induction entries with
  | nil => exact Nat.zero_le _
  | cons entry rest ih =>
    unfold fit
    split
    · exact ih
    · next fits => exact Nat.not_lt.mp fits

theorem fit_of_total_le (fits : total entries ≤ maxSize) :
    fit maxSize entries = entries := by
  cases entries with
  | nil => rfl
  | cons entry rest => rw [fit, if_neg (Nat.not_lt.mpr fits)]

/-- Fitting twice is fitting into the smaller size. -/
theorem fit_fit
    (first second : Nat)
    (entries : List HeaderField) :
    fit second (fit first entries) = fit (min first second) entries := by
  induction entries with
  | nil => rfl
  | cons entry rest ih =>
    by_cases large : first < total (entry :: rest)
    · rw [fit, if_pos large, ih, fit, if_pos (Nat.lt_of_le_of_lt (Nat.min_le_left ..) large)]
    rw [fit, if_neg large]
    by_cases larger : second < total (entry :: rest)
    · have smaller : min first second = second :=
        Nat.min_eq_right (by omega)
      rw [smaller]
    · rw [fit_of_total_le (by omega), fit_of_total_le (by omega)]

namespace DynamicTable

/-- The size counts the entries, and is no more than allowed. -/
structure WellFormed (table : DynamicTable) : Prop where
  size_eq : table.size = total table.entries
  size_le : table.size ≤ table.maxSize

theorem evictLoop_eq
    (maxSize : Nat)
    (entries : List HeaderField) :
    evictLoop maxSize entries (total entries) =
      (fit maxSize entries, total (fit maxSize entries)) := by
  induction entries with
  | nil => rfl
  | cons entry rest ih =>
    unfold evictLoop fit
    split
    · rw [total_cons, Nat.add_sub_cancel_left, ih]
    · rfl

theorem evict_eq
    {table : DynamicTable}
    (size_eq : table.size = total table.entries) :
    table.evict = ⟨fit table.maxSize table.entries,
      total (fit table.maxSize table.entries), table.maxSize⟩ := by
  simp only [evict, size_eq, evictLoop_eq]

variable {table : DynamicTable}

theorem setMaxSize_eq
    (size_eq : table.size = total table.entries)
    (maxSize : Nat) :
    table.setMaxSize maxSize = ⟨fit maxSize table.entries,
      total (fit maxSize table.entries), maxSize⟩ :=
  evict_eq size_eq

theorem add_eq
    (size_eq : table.size = total table.entries)
    (entry : HeaderField) :
    table.add entry = ⟨fit table.maxSize (table.entries ++ [entry]),
      total (fit table.maxSize (table.entries ++ [entry])),
      table.maxSize⟩ := by
  apply evict_eq
  rw [size_eq, total_append]
  rfl

section

variable (wellFormed : table.WellFormed)
include wellFormed

theorem WellFormed.setMaxSize (maxSize : Nat) :
    (table.setMaxSize maxSize).WellFormed := by
  rw [setMaxSize_eq wellFormed.size_eq]
  exact ⟨rfl, total_fit_le ..⟩

theorem WellFormed.add (entry : HeaderField) :
    (table.add entry).WellFormed := by
  rw [add_eq wellFormed.size_eq]
  exact ⟨rfl, total_fit_le ..⟩

/-- Of two changes of the size the smaller evicts and the last remains. -/
theorem setMaxSize_setMaxSize (first second : Nat) :
    (table.setMaxSize first).setMaxSize second = ⟨fit (min first second) table.entries,
        total (fit (min first second) table.entries), second⟩ := by
  rw [setMaxSize_eq (wellFormed.setMaxSize first).size_eq,
    setMaxSize_eq wellFormed.size_eq, fit_fit]

theorem length_entries_le :
    table.entries.length ≤ table.maxSize := by
  have each (entries : List HeaderField) : entries.length ≤ total entries := by
    induction entries with
    | nil => exact Nat.le_refl 0
    | cons entry rest ih =>
      rw [List.length_cons, total_cons, HeaderField.size]
      omega
  calc
    table.entries.length ≤ total table.entries := each table.entries
    _ = table.size := wellFormed.size_eq.symm
    _ ≤ table.maxSize := wellFormed.size_le

end

end DynamicTable

/-! ## Strings and integers -/

/-- What is written for an integer starts with a byte that keeps the high
bits, and is read back. -/
theorem appendInt_spec
    (first : UInt8)
    (bits : Nat)
    {value : Nat}
    (clear : first.toNat % 2 ^ bits = 0)
    (inByte : bits ≤ 8)
    (fits : value < 2 ^ 56)
    (rest : Bytes) :
    ∃ head more, appendInt first bits value ++ rest = head :: more ∧
      rest.length ≤ more.length ∧ first.toNat ≤ head.toNat ∧
      head.toNat < first.toNat + 2 ^ bits ∧
      readInt (head :: more) bits = .ok (value, rest) :=
  PrefixInt.append_spec _ _ clear inByte fits rest

/-- Huffman coding is canonical: what is written for a string is read back, and nothing else
is read, so that only a few ones may follow the codes.  An integer is read back with the rest
of the block. -/
theorem huffman_and_integers_are_canonical :
    (∀ text maxLen, (huffmanAppend text).length = huffmanLen text ∧
      ((0 < maxLen -> text.length ≤ maxLen) ->
        huffmanDecode (huffmanAppend text) maxLen = .ok text)) ∧
    (∀ coded maxLen text, huffmanDecode coded maxLen = .ok text ->
      huffmanAppend text = coded ∧ ∃ padding ≤ 7,
        Bits.ofBytes coded = text.flatMap codeOf ++ List.replicate padding true) ∧
    ∀ (first : UInt8) (bits value : Nat) (rest : Bytes), 1 ≤ bits -> bits ≤ 8 ->
      first.toNat % 2 ^ bits = 0 -> value < 2 ^ 56 ->
        readInt (appendInt first bits value ++ rest) bits = .ok (value, rest) := by
  refine ⟨fun text maxLen => ⟨length_huffmanAppend text, fun fits => ?_⟩, ?_, ?_⟩
  · rw [huffmanDecode_huffmanAppend, if_neg]
    rintro ⟨positive, long⟩
    exact absurd (fits positive) (by omega)
  · intro coded maxLen text decoded
    obtain rfl := huffmanAppend_of_huffmanDecode text decoded
    exact ⟨rfl, bits_huffmanAppend text⟩
  · intro first bits value rest positive inByte clear fits
    exact PrefixInt.read_append _ _ clear inByte fits rest

theorem huffman_and_integers_are_canonical_sample :
    huffmanDecode (huffmanAppend (ascii "a")) 1 = .ok (ascii "a") ∧
      huffmanAppend (ascii "a") = [0x1f] ∧
      readInt (appendInt 0x80 7 300 ++ [5]) 7 = .ok (300, [5]) :=
  ⟨(huffman_and_integers_are_canonical.1 (ascii "a") 1).2 (by decide),
    (huffman_and_integers_are_canonical.2.1 [0x1f] 0 (ascii "a") (by decide +kernel)).1,
    huffman_and_integers_are_canonical.2.2 0x80 7 300 [5] (by decide) (by decide) (by decide)
      (by decide)⟩

/-- A string that is written is read, unless it is longer than the limit. -/
theorem readString_appendString
    (decoder : Decoder)
    {text : Bytes}
    (fits : text.length < 2 ^ 48)
    (rest : Bytes) :
    decoder.readString (appendString text ++ rest) =
      if 0 < decoder.maxStringLength ∧
          decoder.maxStringLength < text.length then .error .stringTooLong
      else .ok (text, rest) := by
  unfold appendString
  split
  · next shorter =>
    obtain ⟨head, more, block, -, high, -, isRead⟩ :=
      @appendInt_spec 0x80 7 (huffmanLen text) (by decide) (by decide)
        (by omega) (huffmanAppend text ++ rest)
    have coded : ¬head.toNat < 128 := Nat.not_lt.mpr high
    have length := length_huffmanAppend text
    rw [List.append_assoc, block, Decoder.readString, isRead]
    simp only [Except.bind]
    rw [if_neg (by rw [List.length_append]; omega), if_neg coded,
      ← length, List.take_left, List.drop_left,
      huffmanDecode_huffmanAppend]
    split <;> rfl
  obtain ⟨head, more, block, -, -, low, isRead⟩ :=
    @appendInt_spec 0x00 7 text.length (by decide) (by decide) (by omega) (text ++ rest)
  have plain : head.toNat < 128 := by simpa using low
  rw [List.append_assoc, block, Decoder.readString, isRead]
  simp only [Except.bind]
  rw [if_neg (by rw [List.length_append]; omega), if_pos plain, List.take_left, List.drop_left]

/-! ## Indices -/

namespace DynamicTable

theorem length_staticTable : staticTable.length = 61 := rfl

variable (table : DynamicTable)

/-- The dynamic entries follow the static ones, the newest first. -/
theorem field_dynamic (position : Nat) :
    table.field (staticTable.length + 1 + position) = table.entries.reverse[position]? := by
  unfold field
  rw [if_neg (by omega), if_neg (by omega)]
  have rest : staticTable.length + 1 + position - staticTable.length =
      position + 1 := by omega
  rw [rest]
  by_cases beyond : table.entries.length < position + 1
  · rw [if_pos beyond, List.getElem?_eq_none (by simpa using by omega)]
  · rw [if_neg beyond, get, if_neg (by omega),
      List.getElem?_reverse (by omega)]
    congr 1
    omega

/-- An index that is found is within the tables. -/
theorem lt_of_field (isField : table.field index = some found) :
    0 < index ∧ index ≤ staticTable.length + table.entries.length := by
  unfold field at isField
  split at isField
  · cases isField
  split at isField
  · omega
  · split at isField
    · cases isField
    · omega

theorem field_of_staticPairIndex
    (isStatic : staticPairIndex wanted = some index) :
    table.field index = some wanted := by
  obtain ⟨position, found, rfl⟩ := Option.map_eq_some_iff.mp isStatic
  obtain ⟨within, same, -⟩ := List.findIdx?_eq_some_iff_getElem.mp found
  have equal : staticTable[position] = wanted := by simpa using same
  unfold field
  rw [if_neg (by omega), if_pos (by omega), Nat.add_sub_cancel,
    List.getElem?_eq_getElem within, equal]

/-- An index that stands for a name, or none. -/
def Names
    (index : Nat)
    (name : Bytes) : Prop :=
  index = 0 ∨ ∃ named, table.field index = some named ∧ named.name = name

theorem names_of_staticNameIndex (name : Bytes) :
    table.Names ((staticNameIndex name).getD 0) name := by
  cases isStatic : staticNameIndex name with
  | none => exact .inl rfl
  | some index =>
    obtain ⟨position, found, rfl⟩ := Option.map_eq_some_iff.mp isStatic
    obtain ⟨within, same, -⟩ := List.findIdx?_eq_some_iff_getElem.mp found
    refine .inr ⟨staticTable[position], ?_, by simpa using same⟩
    unfold field
    rw [Option.getD_some, if_neg (by omega), if_pos (by omega),
      Nat.add_sub_cancel, List.getElem?_eq_getElem within]

/-- An index of the field, or one that names it. -/
def Finds (wanted : HeaderField) : Nat ⊕ Nat -> Prop
  | .inl found => table.field found = some wanted
  | .inr nameFound => table.Names nameFound wanted.name

/-- The search finds the field, or an index that names it. -/
theorem finds_search
    (entries : ∀ position entry, older[position]? = some entry ->
      table.field (index + position) = some entry)
    (names : table.Names nameIndex wanted.name) :
    table.Finds wanted (Encoder.search wanted older index nameIndex) := by
  induction older generalizing index nameIndex with
  | nil => exact names
  | cons entry older ih =>
    have later : ∀ position entry, older[position]? = some entry ->
        table.field (index + 1 + position) = some entry := by
      intro position other present
      have shifted := entries (position + 1) other (by simpa using present)
      rwa [Nat.add_right_comm]
    have here : table.field index = some entry := entries 0 entry rfl
    unfold Encoder.search
    split
    · exact ih later names
    next sameName =>
    rw [not_not] at sameName
    split
    · next sameValue =>
      have same : entry = wanted := by
        cases wanted
        cases sameName
        cases sameValue
        rfl
      rw [← same]
      exact here
    · apply ih later
      split
      · exact .inr ⟨entry, here, sameName⟩
      · exact names

end DynamicTable

/-! ## One field -/

/-- The decoder holds the encoder's table and has no limit on strings. -/
structure Synchronised
    (encoder : Encoder)
    (decoder : Decoder) : Prop where
  table : decoder.table = encoder.table
  wellFormed : encoder.table.WellFormed
  maxSize_le : encoder.table.maxSize ≤ defaultTableSize
  unlimited : decoder.maxStringLength = 0

/-- A field whose strings are those of a program. -/
def HeaderField.Fits (field : HeaderField) : Prop :=
  field.name.length < 2 ^ 48 ∧ field.value.length < 2 ^ 48

/-- What is written for a field is decoded to it, whatever follows. -/
def Decoder.Takes
    (decoder : Decoder)
    (start : Bool)
    (written : Bytes)
    (field : HeaderField)
    (next : Decoder) : Prop :=
  ∀ rest, ∃ head more, written ++ rest = head :: more ∧ rest.length ≤ more.length ∧
    decoder.decodeOne start head (head :: more) = .ok (next, some field, rest)

section Field

variable {encoder : Encoder}
variable {decoder : Decoder}
variable {field : HeaderField}

section

variable (synchronised : Synchronised encoder decoder)
include synchronised

theorem Synchronised.index_lt
    (isField : encoder.table.field index = some found) :
    index < 2 ^ 56 := by
  have within := (encoder.table.lt_of_field isField).2
  have entries := DynamicTable.length_entries_le synchronised.wellFormed
  have allowed := synchronised.maxSize_le
  rw [DynamicTable.length_staticTable] at within
  unfold defaultTableSize at allowed
  omega

theorem Synchronised.nameIndex_lt
    (names : encoder.table.Names index name) :
    index < 2 ^ 56 := by
  rcases names with rfl | ⟨named, found, -⟩
  · decide
  · exact synchronised.index_lt found

/-- A literal is read back. -/
theorem Synchronised.readLiteral
    (fits : field.Fits)
    {nameIndex : Nat}
    (names : encoder.table.Names nameIndex field.name)
    {bits : Nat}
    {head : UInt8}
    {more rest : Bytes}
    (isRead : readInt (head :: more) bits =
      .ok (nameIndex, Encoder.literalStrings field nameIndex ++ rest)) :
    decoder.readLiteral (head :: more) bits = .ok (field, rest) := by
  have unlimited (text : Bytes) : ¬(0 < decoder.maxStringLength ∧
      decoder.maxStringLength < text.length) := by
    rw [synchronised.unlimited]
    omega
  rw [Decoder.readLiteral, isRead]
  simp only [Except.bind, Encoder.literalStrings]
  rcases names with rfl | ⟨named, found, same⟩
  · rw [if_neg (by decide), if_pos rfl, List.append_assoc,
      readString_appendString decoder fits.1, if_neg (unlimited _)]
    dsimp only
    rw [readString_appendString decoder fits.2, if_neg (unlimited _)]
    rfl
  have positive := (encoder.table.lt_of_field found).1
  rw [if_pos positive, if_neg (by omega), List.nil_append, synchronised.table, found]
  dsimp only
  rw [readString_appendString decoder fits.2, if_neg (unlimited _), same]
  rfl

/-- An index is resolved to the field it was written for. -/
theorem Synchronised.takes_index
    (found : encoder.table.field index = some field)
    (start : Bool) :
    decoder.Takes start (appendInt 0x80 7 index) field decoder := by
  intro rest
  obtain ⟨head, more, block, shorter, high, -, isRead⟩ :=
    @appendInt_spec 0x80 7 index (by decide) (by decide) (synchronised.index_lt found) rest
  refine ⟨head, more, block, shorter, ?_⟩
  have indexed : 128 ≤ head.toNat := high
  rw [Decoder.decodeOne, if_pos indexed, isRead]
  simp only [Except.bind, synchronised.table, found]

/-- A literal that is not indexed leaves the tables as they are. -/
theorem Synchronised.takes_plain
    (fits : field.Fits)
    (names : encoder.table.Names nameIndex field.name)
    (plain : first = 0x10 ∨ first = 0x00)
    (start : Bool) :
    decoder.Takes start
      (appendInt first 4 nameIndex ++ Encoder.literalStrings field nameIndex) field decoder := by
  intro rest
  obtain ⟨head, more, block, shorter, -, low, isRead⟩ :=
    @appendInt_spec first 4 nameIndex
      (by rcases plain with rfl | rfl <;> decide) (by decide)
      (synchronised.nameIndex_lt names) (Encoder.literalStrings field nameIndex ++ rest)
  have below : head.toNat < 32 := by
    rcases plain with rfl | rfl
    · exact low
    · exact Nat.lt_trans low (by decide)
  rw [List.length_append] at shorter
  refine ⟨head, more, by rw [List.append_assoc, block], by omega, ?_⟩
  rw [Decoder.decodeOne, if_neg (by omega), if_neg (by omega),
    if_neg (by omega), synchronised.readLiteral fits names isRead]
  rfl

/-- A literal that is indexed enters both tables. -/
theorem Synchronised.takes_indexed
    (fits : field.Fits)
    (names : encoder.table.Names nameIndex field.name)
    (start : Bool) :
    decoder.Takes start
      (appendInt 0x40 6 nameIndex ++ Encoder.literalStrings field nameIndex) field
      { decoder with table := encoder.table.add field } := by
  intro rest
  obtain ⟨head, more, block, shorter, high, low, isRead⟩ :=
    @appendInt_spec 0x40 6 nameIndex (by decide) (by decide)
      (synchronised.nameIndex_lt names) (Encoder.literalStrings field nameIndex ++ rest)
  have atLeast : 64 ≤ head.toNat := high
  have below : head.toNat < 128 := low
  rw [List.length_append] at shorter
  refine ⟨head, more, by rw [List.append_assoc, block], by omega, ?_⟩
  rw [Decoder.decodeOne, if_neg (by omega), if_pos atLeast,
    synchronised.readLiteral fits names isRead, synchronised.table]
  rfl

/-- Whatever is written for a field is decoded to it, and the tables stay
equal. -/
theorem Synchronised.appendField
    (fits : field.Fits)
    (sensitive start : Bool) :
    ∃ next, decoder.Takes start (encoder.appendField field sensitive).1 field next ∧
      Synchronised (encoder.appendField field sensitive).2 next ∧
      (encoder.appendField field sensitive).2.pendingSize = encoder.pendingSize ∧
      next.allowedMaxSize = decoder.allowedMaxSize := by
  have searched : encoder.table.Finds field (Encoder.search field encoder.table.entries.reverse
        (staticTable.length + 1) ((staticNameIndex field.name).getD 0)) := by
    apply encoder.table.finds_search
    · intro position entry present
      rw [encoder.table.field_dynamic, present]
    · exact encoder.table.names_of_staticNameIndex field.name
  unfold Encoder.appendField
  cases isStatic : staticPairIndex field with
  | some index =>
    exact ⟨decoder, synchronised.takes_index (encoder.table.field_of_staticPairIndex isStatic)
      start, synchronised, rfl, rfl⟩
  | none =>
    cases found : Encoder.search field encoder.table.entries.reverse
        (staticTable.length + 1) ((staticNameIndex field.name).getD 0) with
    | inl index =>
      rw [found] at searched
      exact ⟨decoder, synchronised.takes_index searched start, synchronised, rfl, rfl⟩
    | inr nameIndex =>
      rw [found] at searched
      have names : encoder.table.Names nameIndex field.name := searched
      dsimp only
      unfold Encoder.appendLiteral
      split
      · exact ⟨decoder, synchronised.takes_plain fits names (.inl rfl) start, synchronised,
          rfl, rfl⟩
      split
      · exact ⟨decoder, synchronised.takes_plain fits names (.inr rfl) start, synchronised,
          rfl, rfl⟩
      refine ⟨_, synchronised.takes_indexed fits names start, ⟨rfl, ?_, ?_, ?_⟩, rfl, rfl⟩
      · exact synchronised.wellFormed.add field
      · exact synchronised.maxSize_le
      · exact synchronised.unlimited

end

end Field

/-! ## Blocks -/

/-- A callback that takes every field. -/
def collect
    (emitted : List HeaderField)
    (field : HeaderField) :
    Except Empty (List HeaderField) :=
  .ok (emitted ++ [field])

variable {encoder : Encoder}

/-- The fields of a block are emitted in order. -/
theorem decodeLoop_appendFields
    (synchronised : Synchronised encoder decoder)
    (fits : ∀ field ∈ fields, field.1.Fits)
    (start : Bool)
    (emitted : List HeaderField)
    (enough : (encoder.appendFields fields).1.length ≤ fuel) :
    ∃ next,
      Decoder.decodeLoop collect fuel start decoder emitted (encoder.appendFields fields).1 =
          ⟨next, emitted ++ fields.map Prod.fst, none⟩ ∧
      Synchronised (encoder.appendFields fields).2 next ∧
      (encoder.appendFields fields).2.pendingSize = encoder.pendingSize ∧
      next.allowedMaxSize = decoder.allowedMaxSize := by
  induction fields generalizing encoder decoder start emitted fuel with
  | nil =>
    refine ⟨decoder, ?_, synchronised, rfl, rfl⟩
    rw [List.map_nil, List.append_nil]
    cases fuel <;> rfl
  | cons entry rest ih =>
    obtain ⟨field, sensitive⟩ := entry
    rw [List.forall_mem_cons] at fits
    unfold Encoder.appendFields at enough ⊢
    obtain ⟨next, takes, further, pending, allowed⟩ :=
      synchronised.appendField fits.1 sensitive start
    obtain ⟨head, more, block, shorter, decoded⟩ :=
      takes (Encoder.appendFields (encoder.appendField field sensitive).2 rest).1
    rw [block] at enough ⊢
    obtain ⟨fuel, rfl⟩ : ∃ fewer, fuel = fewer + 1 := by
      cases fuel with
      | zero => cases enough
      | succ fewer => exact ⟨fewer, rfl⟩
    have less := Nat.le_of_succ_le_succ enough
    obtain ⟨last, looped, inStep, lastPending, lastAllowed⟩ :=
      ih further fits.2 false (emitted ++ [field]) (shorter.trans less)
    refine ⟨last, ?_, inStep, lastPending.trans pending, lastAllowed.trans allowed⟩
    simp only [Decoder.decodeLoop, decoded, collect]
    rw [looped, List.append_assoc]
    rfl

/-! ## Changes of the table's size -/

/-- The table a decoder holds once it has read the pending changes. -/
def Encoder.announced
    (encoder : Encoder)
    (table : DynamicTable) :
    DynamicTable :=
  if encoder.pendingSize = false then table
  else
    (table.setMaxSize encoder.minPending).setMaxSize encoder.table.maxSize

theorem Encoder.announced_of_settled
    (settled : encoder.pendingSize = false)
    (table : DynamicTable) :
    encoder.announced table = table := by
  rw [announced, if_pos settled]

theorem Encoder.announced_of_pending
    (pending : encoder.pendingSize = true)
    {table : DynamicTable}
    (wellFormed : table.WellFormed) :
    encoder.announced table = ⟨fit (min encoder.minPending encoder.table.maxSize) table.entries,
        total (fit (min encoder.minPending encoder.table.maxSize)
          table.entries), encoder.table.maxSize⟩ := by
  rw [announced, if_neg (by simp [pending]), DynamicTable.setMaxSize_setMaxSize wellFormed]

/-- Between blocks the decoder lacks nothing but the pending changes. -/
structure Follows
    (encoder : Encoder)
    (decoder : Decoder) : Prop where
  table : encoder.announced decoder.table = encoder.table
  wellFormed : decoder.table.WellFormed
  maxSize_le : encoder.table.maxSize ≤ defaultTableSize
  minPending_le : encoder.pendingSize = true ->
    encoder.minPending ≤ encoder.table.maxSize
  unlimited : decoder.maxStringLength = 0
  allowed : decoder.allowedMaxSize = defaultTableSize

theorem follows_new : Follows newEncoder (newDecoder defaultTableSize) where
  table := rfl
  wellFormed := ⟨rfl, Nat.zero_le _⟩
  maxSize_le := Nat.le_refl _
  minPending_le := nofun
  unlimited := rfl
  allowed := rfl

section Blocks

variable {encoder : Encoder}
variable {decoder : Decoder}

theorem Synchronised.follows
    (synchronised : Synchronised encoder decoder)
    (settled : encoder.pendingSize = false)
    (allowed : decoder.allowedMaxSize = defaultTableSize) :
    Follows encoder decoder where
  table := by rw [Encoder.announced, if_pos settled, synchronised.table]
  wellFormed := by
    rw [synchronised.table]
    exact synchronised.wellFormed
  maxSize_le := synchronised.maxSize_le
  minPending_le pending := by
    rw [settled] at pending
    cases pending
  unlimited := synchronised.unlimited
  allowed := allowed

/-- Resizing the encoder's table leaves the decoder behind by no more than
the changes that are pending: their minimum and the last one. -/
theorem Follows.setMaxTableSize
    (follows : Follows encoder decoder)
    (size : Nat) :
    Follows (encoder.setMaxTableSize size) decoder := by
  obtain ⟨table, wellFormed, maxSize_le, minPending_le, unlimited, allowed⟩ :=
    follows
  have clamped : min size defaultTableSize ≤ defaultTableSize :=
    Nat.min_le_right ..
  unfold Encoder.setMaxTableSize
  generalize min size defaultTableSize = next at clamped
  dsimp only
  split
  · exact ⟨table, wellFormed, maxSize_le, minPending_le, unlimited, allowed⟩
  refine ⟨?_, wellFormed, clamped, fun _ => ?_, unlimited, allowed⟩
  · rw [Encoder.announced_of_pending rfl wellFormed, ← table]
    cases pending : encoder.pendingSize with
    | false =>
      rw [Encoder.announced_of_settled pending, DynamicTable.setMaxSize_eq wellFormed.size_eq]
      simp
    | true =>
      have lowest : min (if true = false ∨ next < encoder.minPending then
          next else encoder.minPending) next =
            min (min encoder.minPending encoder.table.maxSize) next := by
        rw [Nat.min_eq_left (minPending_le pending)]
        split
        · next smaller =>
          have less := smaller.resolve_left Bool.noConfusion
          rw [Nat.min_self, Nat.min_eq_right less.le]
        · rfl
      rw [Encoder.announced_of_pending pending wellFormed, DynamicTable.setMaxSize_eq rfl]
      rw [fit_fit, ← lowest]
  · split
    · exact Nat.le_refl next
    · next larger => exact Nat.not_lt.mp fun less => larger (.inr less)

/-- A change of the size is taken in, as long as no field has been read. -/
theorem decodeLoop_sizeUpdate
    {size : Nat}
    (permitted : size ≤ decoder.allowedMaxSize)
    (small : size ≤ defaultTableSize)
    (emitted : List HeaderField)
    (rest : Bytes)
    {fuel : Nat}
    (enough : (appendInt 0x20 5 size ++ rest).length ≤ fuel) :
    ∃ fewer, rest.length ≤ fewer ∧ Decoder.decodeLoop collect fuel true decoder emitted
          (appendInt 0x20 5 size ++ rest) =
        Decoder.decodeLoop collect fewer true
          { decoder with table := decoder.table.setMaxSize size } emitted
          rest := by
  obtain ⟨head, more, block, shorter, high, low, isRead⟩ :=
    @appendInt_spec 0x20 5 size (by decide) (by decide)
      (Nat.lt_of_le_of_lt small (by decide)) rest
  have high : 32 ≤ head.toNat := high
  have low : head.toNat < 64 := low
  rw [block] at enough ⊢
  cases fuel with
  | zero => cases enough
  | succ fuel =>
    refine ⟨fuel, shorter.trans (Nat.le_of_succ_le_succ enough), ?_⟩
    have decoded : decoder.decodeOne true head (head :: more) =
        .ok ({ decoder with table := decoder.table.setMaxSize size }, none, rest) := by
      rw [Decoder.decodeOne, if_neg (by omega), if_neg (by omega),
        if_pos high, if_neg (by decide), isRead]
      simp only [Except.bind]
      rw [if_neg (by omega)]
    simp only [Decoder.decodeLoop, decoded]

/-- `Begin` tells the decoder all it lacks. -/
theorem Follows.decodeLoop_begin
    (follows : Follows encoder decoder)
    (emitted : List HeaderField)
    (rest : Bytes)
    (enough : (encoder.begin.1 ++ rest).length ≤ fuel) :
    ∃ next fewer, rest.length ≤ fewer ∧ Decoder.decodeLoop collect fuel true decoder emitted
          (encoder.begin.1 ++ rest) =
        Decoder.decodeLoop collect fewer true next emitted rest ∧
      Synchronised encoder.begin.2 next ∧
      encoder.begin.2.pendingSize = false ∧
      next.allowedMaxSize = defaultTableSize := by
  obtain ⟨table, wellFormed, maxSize_le, minPending_le, unlimited, allowed⟩ :=
    follows
  unfold Encoder.begin at enough ⊢
  cases pending : encoder.pendingSize with
  | false =>
    rw [Encoder.announced_of_settled pending] at table
    rw [if_pos pending] at enough
    refine ⟨decoder, fuel, enough, rfl, ⟨table, ?_, maxSize_le, unlimited⟩, pending, allowed⟩
    change encoder.table.WellFormed
    rw [← table]
    exact wellFormed
  | true =>
    have resized : encoder.table.WellFormed := by
      rw [← table, Encoder.announced, if_neg (by simp [pending])]
      exact (wellFormed.setMaxSize _).setMaxSize _
    rw [Encoder.announced_of_pending pending wellFormed] at table
    rw [if_neg (by simp [pending])] at enough
    by_cases twice : encoder.minPending < encoder.table.maxSize
    · simp only [Bool.true_eq_false, if_false, if_pos twice, List.append_assoc] at enough ⊢
      obtain ⟨fewer, enough, first⟩ :=
        @decodeLoop_sizeUpdate decoder encoder.minPending (by omega)
          (by omega) emitted
          (appendInt 0x20 5 encoder.table.maxSize ++ rest) fuel enough
      obtain ⟨fewest, enough, second⟩ :=
        @decodeLoop_sizeUpdate
          { decoder with
            table := decoder.table.setMaxSize encoder.minPending }
          encoder.table.maxSize (by rw [allowed]; exact maxSize_le)
          maxSize_le emitted rest fewer enough
      refine ⟨_, fewest, enough, first.trans second,
        ⟨?_, resized, maxSize_le, unlimited⟩, trivial, allowed⟩
      rw [← table]
      exact DynamicTable.setMaxSize_setMaxSize wellFormed ..
    simp only [Bool.true_eq_false, if_false, if_neg twice, List.nil_append] at enough ⊢
    obtain ⟨fewer, enough, only⟩ :=
      @decodeLoop_sizeUpdate decoder encoder.table.maxSize (by omega)
        maxSize_le emitted rest fuel enough
    refine ⟨_, fewer, enough, only, ⟨?_, resized, maxSize_le, unlimited⟩, trivial, allowed⟩
    rw [Nat.min_eq_right (by omega)] at table
    rw [← table]
    exact DynamicTable.setMaxSize_eq wellFormed.size_eq _

/-- A block is decoded to its fields, and the tables are equal after it. -/
theorem Follows.decode_encodeBlock
    (follows : Follows encoder decoder)
    {fields : List (HeaderField × Bool)}
    (fits : ∀ field ∈ fields, field.1.Fits) :
    ∃ next,
      decoder.decode collect [] (encoder.encodeBlock fields).1 = ⟨next, fields.map Prod.fst, none⟩ ∧
      Synchronised (encoder.encodeBlock fields).2 next ∧
      Follows (encoder.encodeBlock fields).2 next := by
  obtain ⟨begun, fewer, enough, started, synchronised, settled, allowed⟩ :=
    follows.decodeLoop_begin [] (encoder.begin.2.appendFields fields).1 (Nat.le_refl _)
  obtain ⟨next, looped, inStep, stillSettled, stillAllowed⟩ :=
    decodeLoop_appendFields synchronised fits true [] enough
  refine ⟨next, started.trans looped, inStep, ?_⟩
  exact inStep.follows (stillSettled.trans settled) (stillAllowed.trans allowed)

end Blocks

/-! ## Sessions -/

/-- A field as a program gives it, and whether it must not be indexed. -/
structure Given where
  name : Text
  value : Text
  sensitive : Bool

/-- The field that is encoded. -/
def Given.field (given : Given) : HeaderField :=
  ⟨given.name.bytes, given.value.bytes⟩

/-- What an encoder is used for. -/
inductive Operation where
  | setMaxTableSize (size : Nat)
  | block (fields : List Given)

/-- The block an encoder writes for some fields. -/
def Encoder.blockOf
    (encoder : Encoder)
    (fields : List Given) :
    Bytes × Encoder :=
  encoder.encodeBlock (fields.map fun given => (given.field, given.sensitive))

/-- An encoder is used, and the decoder reads the blocks it writes. -/
def exchange (ends : Encoder × Decoder) : Operation -> Encoder × Decoder
  | .setMaxTableSize size => (ends.1.setMaxTableSize size, ends.2)
  | .block fields =>
    ((ends.1.blockOf fields).2,
      (ends.2.decode collect [] (ends.1.blockOf fields).1).decoder)

/-- What a new encoder and a new decoder become. -/
def exchanged (operations : List Operation) : Encoder × Decoder :=
  operations.foldl exchange (newEncoder, newDecoder defaultTableSize)

variable {decoder : Decoder}

theorem Follows.decode_blockOf
    (follows : Follows encoder decoder)
    (fields : List Given) :
    ∃ next,
      decoder.decode collect [] (encoder.blockOf fields).1 = ⟨next, fields.map Given.field, none⟩ ∧
      Synchronised (encoder.blockOf fields).2 next ∧
      Follows (encoder.blockOf fields).2 next := by
  obtain ⟨next, decoded, synchronised, further⟩ :=
    @Follows.decode_encodeBlock encoder decoder follows
      (fields.map fun given => (given.field, given.sensitive)) (by
        intro field present
        obtain ⟨given, -, rfl⟩ := List.mem_map.mp present
        exact ⟨given.name.fits, given.value.fits⟩)
  rw [List.map_map] at decoded
  exact ⟨next, decoded, synchronised, further⟩

theorem Follows.exchange
    (follows : Follows ends.1 ends.2)
    (operation : Operation) :
    Follows (exchange ends operation).1 (exchange ends operation).2 := by
  cases operation with
  | setMaxTableSize size => exact follows.setMaxTableSize size
  | block fields =>
    obtain ⟨next, decoded, -, further⟩ := follows.decode_blockOf fields
    rw [Hpack.exchange, decoded]
    exact further

theorem follows_exchanged (operations : List Operation) :
    Follows (exchanged operations).1 (exchanged operations).2 := by
  induction operations using List.reverseRecOn with
  | nil => exact follows_new
  | append_singleton before operation ih =>
    have last : exchanged (before ++ [operation]) =
        exchange (exchanged before) operation := List.foldl_concat ..
    rw [last]
    exact ih.exchange operation

/-- After any use of the two ends, the next block is decoded to its fields
without an error, and the tables that remain hold the same entries with the
same size and maximum; the size counts the entries and is no more than the
maximum. -/
theorem blocks_decode_in_step
    (operations : List Operation)
    (fields : List Given) :
    let encoder := (exchanged operations).1
    let decoder := (exchanged operations).2
    let written := encoder.blockOf fields
    let decoding := decoder.decode collect [] written.1
    decoding.state = fields.map Given.field ∧ decoding.failure = none ∧
      decoding.decoder.table = written.2.table ∧
      written.2.table.size = total written.2.table.entries ∧
      written.2.table.size ≤ written.2.table.maxSize := by
  intro encoder decoder written decoding
  obtain ⟨next, decoded, synchronised, -⟩ :=
    (follows_exchanged operations).decode_blockOf fields
  have result : decoding = ⟨next, fields.map Given.field, none⟩ := decoded
  rw [result]
  exact ⟨rfl, rfl, synchronised.table, synchronised.wellFormed.size_eq,
    synchronised.wellFormed.size_le⟩

/-! ## Limits on strings -/

/-- The decoder without its limit on strings. -/
def Decoder.unlimited (decoder : Decoder) : Decoder :=
  { decoder with maxStringLength := 0 }

section Unlimited

variable {decoder next : Decoder}

theorem huffmanDecode_of_limit
    (decoded : huffmanDecode text limit = .ok symbols) :
    huffmanDecode text 0 = .ok symbols :=
  PrefixTree.decode_of_limit decoded

variable {block : Bytes} {outcome : Except Error Value}

theorem bind_eq_ok {use : Value -> Except Error Result} :
    outcome.bind use = .ok result ↔ ∃ value, outcome = .ok value ∧ use value = .ok result := by
  cases outcome <;> simp [Except.bind]

theorem map_eq_ok {use : Value -> Result} :
    outcome.map use = .ok result ↔ ∃ value, outcome = .ok value ∧ use value = result := by
  cases outcome <;> simp [Except.map]

theorem readString_unlimited
    {result : Bytes × Bytes}
    (isRead : decoder.readString block = .ok result) :
    decoder.unlimited.readString block = .ok result := by
  cases block with
  | nil => cases isRead
  | cons first more =>
    obtain ⟨pair, prefixed, isRead⟩ := bind_eq_ok.mp isRead
    refine bind_eq_ok.mpr ⟨pair, prefixed, ?_⟩
    dsimp only at isRead ⊢
    split at isRead
    · cases isRead
    next enough =>
    rw [if_neg enough]
    split at isRead
    · next plain =>
      rw [if_pos plain]
      split at isRead
      · cases isRead
      · exact isRead
    next coded =>
    rw [if_neg coded]
    obtain ⟨symbols, decoded, same⟩ := map_eq_ok.mp isRead
    exact map_eq_ok.mpr ⟨symbols, huffmanDecode_of_limit decoded, same⟩

theorem readLiteral_unlimited
    {bits : Nat}
    (isRead : decoder.readLiteral block bits = .ok result) :
    decoder.unlimited.readLiteral block bits = .ok result := by
  obtain ⟨pair, prefixed, isRead⟩ := bind_eq_ok.mp isRead
  obtain ⟨name, isNamed, isRead⟩ := bind_eq_ok.mp isRead
  obtain ⟨value, valueRead, same⟩ := map_eq_ok.mp isRead
  refine bind_eq_ok.mpr ⟨pair, prefixed, bind_eq_ok.mpr ⟨name, ?_,
    map_eq_ok.mpr ⟨value, readString_unlimited valueRead, same⟩⟩⟩
  split at isNamed
  · next positive =>
    rw [if_pos positive]
    exact isNamed
  · next zero =>
    rw [if_neg zero]
    exact readString_unlimited isNamed

/-- A representation that is read under a limit is read without one. -/
theorem decodeOne_unlimited
    {first : UInt8}
    (decoded : decoder.decodeOne start first block = .ok (next, field, rest)) :
    decoder.unlimited.decodeOne start first block = .ok (next.unlimited, field, rest) := by
  unfold Decoder.decodeOne at decoded ⊢
  by_cases indexed : 128 ≤ first.toNat
  · rw [if_pos indexed] at decoded ⊢
    obtain ⟨pair, prefixed, decoded⟩ := bind_eq_ok.mp decoded
    refine bind_eq_ok.mpr ⟨pair, prefixed, ?_⟩
    have same : decoder.unlimited.table = decoder.table := rfl
    dsimp only at decoded ⊢
    rw [same]
    split at decoded
    · cases decoded
    · cases decoded
      rfl
  rw [if_neg indexed] at decoded ⊢
  by_cases added : 64 ≤ first.toNat
  · rw [if_pos added] at decoded ⊢
    obtain ⟨literal, isRead, same⟩ := map_eq_ok.mp decoded
    cases same
    exact map_eq_ok.mpr ⟨literal, readLiteral_unlimited isRead, rfl⟩
  rw [if_neg added] at decoded ⊢
  by_cases resized : 32 ≤ first.toNat
  · rw [if_pos resized] at decoded ⊢
    by_cases late : start = false
    · rw [if_pos late] at decoded
      cases decoded
    rw [if_neg late] at decoded ⊢
    obtain ⟨pair, prefixed, decoded⟩ := bind_eq_ok.mp decoded
    refine bind_eq_ok.mpr ⟨pair, prefixed, ?_⟩
    dsimp only at decoded ⊢
    split at decoded
    · cases decoded
    · next permitted =>
      cases decoded
      exact if_neg permitted
  rw [if_neg resized] at decoded ⊢
  obtain ⟨literal, isRead, same⟩ := map_eq_ok.mp decoded
  cases same
  exact map_eq_ok.mpr ⟨literal, readLiteral_unlimited isRead, rfl⟩

/-- A block that is decoded under a limit is decoded without one. -/
theorem decodeLoop_unlimited
    (decoded : Decoder.decodeLoop collect fuel start decoder emitted block = ⟨next, fields, none⟩) :
    Decoder.decodeLoop collect fuel start decoder.unlimited emitted block =
      ⟨next.unlimited, fields, none⟩ := by
  induction fuel generalizing start decoder emitted block with
  | zero =>
    cases decoded
    rfl
  | succ fuel ih =>
    cases block with
    | nil =>
      cases decoded
      rfl
    | cons first more =>
      unfold Decoder.decodeLoop at decoded ⊢
      dsimp only at decoded ⊢
      cases one : decoder.decodeOne start first (first :: more) with
      | error error =>
        rw [one] at decoded
        cases decoded
      | ok result =>
        obtain ⟨middle, field, rest⟩ := result
        rw [one] at decoded
        rw [decodeOne_unlimited one]
        cases field with
        | none | some field => exact ih decoded

end Unlimited

/-! ## Blocks in order -/

/-- The decoder after a block that it finds nothing wrong with. -/
def Decoder.read
    (decoder : Decoder)
    (block : Bytes) : Option Decoder :=
  match (decoder.decode collect [] block).failure with
  | none => some (decoder.decode collect [] block).decoder
  | some _ => none

/-- The blocks an encoder writes, and what it becomes. -/
def Encoder.written (encoder : Encoder) :
    List Operation -> List Bytes × Encoder
  | [] => ([], encoder)
  | .setMaxTableSize size :: rest =>
    (encoder.setMaxTableSize size).written rest
  | .block fields :: rest =>
    ((encoder.blockOf fields).1 ::
        ((encoder.blockOf fields).2.written rest).1,
      ((encoder.blockOf fields).2.written rest).2)

theorem Follows.read
    {next : Decoder}
    (follows : Follows encoder decoder.unlimited)
    (fields : List Given)
    (isRead : decoder.read (encoder.blockOf fields).1 = some next) :
    Follows (encoder.blockOf fields).2 next.unlimited := by
  obtain ⟨last, decoded, -, further⟩ := follows.decode_blockOf fields
  unfold Decoder.read at isRead
  cases limited : decoder.decode collect [] (encoder.blockOf fields).1 with
  | mk middle emitted failure =>
    rw [limited] at isRead
    cases failure with
    | some _ => cases isRead
    | none =>
      cases isRead
      have free := decoded.symm.trans (decodeLoop_unlimited limited)
      have same : last = middle.unlimited := congrArg Decoding.decoder free
      rw [← same]
      exact further

/-- A decoder that has read all the blocks of an encoder, in order, lacks
nothing but the changes that are pending. -/
theorem Follows.written
    {last : Decoder}
    (follows : Follows encoder decoder.unlimited)
    (operations : List Operation)
    (isRead : (encoder.written operations).1.foldlM Decoder.read decoder = some last) :
    Follows (encoder.written operations).2 last.unlimited := by
  induction operations generalizing encoder decoder with
  | nil =>
    cases isRead
    exact follows
  | cons operation rest ih =>
    cases operation with
    | setMaxTableSize size =>
      exact ih (follows.setMaxTableSize size) isRead
    | block fields =>
      obtain ⟨next, first, others⟩ := Option.bind_eq_some_iff.mp isRead
      exact ih (follows.read fields first) others

/-! ## Blocks from anyone -/

/-- The table is in order and no larger than the decoder was made to allow. -/
structure Decoder.Bounded
    (limit : Nat)
    (decoder : Decoder) : Prop where
  table : decoder.table.WellFormed
  maxSize : decoder.table.maxSize ≤ limit
  allowed : decoder.allowedMaxSize = limit

theorem Decoder.Bounded.decodeOne
    {decoder next : Decoder}
    (bounded : decoder.Bounded limit)
    (decoded : decoder.decodeOne start first block = .ok (next, field, rest)) :
    next.Bounded limit := by
  unfold Decoder.decodeOne at decoded
  split_ifs at decoded
  · obtain ⟨_, -, found⟩ := bind_eq_ok.mp decoded
    dsimp only at found
    split at found <;> cases found
    exact bounded
  · obtain ⟨literal, -, same⟩ := map_eq_ok.mp decoded
    cases same
    exact { bounded with table := bounded.table.add literal.1 }
  · obtain ⟨⟨size, _⟩, -, resized⟩ := bind_eq_ok.mp decoded
    dsimp only at resized
    split at resized
    · cases resized
    next permitted =>
    cases resized
    exact ⟨bounded.table.setMaxSize size, bounded.allowed ▸ not_lt.mp permitted, bounded.allowed⟩
  · obtain ⟨_, -, same⟩ := map_eq_ok.mp decoded
    cases same
    exact bounded

/-- Whatever blocks come, and whatever the callback makes of their fields, the
table counts its entries exactly and takes no more than the decoder was made to
allow. -/
theorem decoder_table_is_bounded
    {State Refusal : Type}
    (emit : State -> HeaderField -> Except Refusal State)
    (limit maxStringLength : Nat)
    (blocks : List (State × Bytes)) :
    let last := blocks.foldl
      (fun decoder (state, block) => (decoder.decode emit state block).decoder)
      { newDecoder limit with maxStringLength := maxStringLength }
    last.table.size = total last.table.entries ∧ last.table.size ≤ last.table.maxSize ∧
      last.table.maxSize ≤ limit := by
  have loop (fuel : Nat) (start : Bool) (decoder : Decoder) (state : State) (block : Bytes)
      (bounded : decoder.Bounded limit) :
      (Decoder.decodeLoop emit fuel start decoder state block).decoder.Bounded limit := by
    induction fuel generalizing start decoder state block with
    | zero => exact bounded
    | succ fuel ih =>
      unfold Decoder.decodeLoop
      split
      · exact bounded
      split
      · exact bounded
      · next decoded => exact ih _ _ _ _ (bounded.decodeOne decoded)
      · next decoded =>
        split
        · exact bounded.decodeOne decoded
        · exact ih _ _ _ _ (bounded.decodeOne decoded)
  have fresh : Decoder.Bounded limit { newDecoder limit with maxStringLength := maxStringLength } :=
    ⟨⟨rfl, Nat.zero_le _⟩, le_rfl, rfl⟩
  have bounded := List.foldlRecOn blocks
    (fun decoder (state, block) => (decoder.decode emit state block).decoder) fresh
    fun decoder held block _ => loop block.2.length true decoder block.1 block.2 held
  exact ⟨bounded.table.size_eq, bounded.table.size_le, bounded.maxSize⟩

end Hpack
end Fib
