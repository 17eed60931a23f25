import Fib.Qpack.Codec
import Fib.Hpack.InStep

/-!
# What field sections decode to

A section that was written is read back as far as the limit allows.  A section
of any bytes is read to its end or to an error, without a panic, and the lines
that are taken from it refer to no dynamic table.
-/

namespace Fib
namespace Qpack

/-! ## Integers -/

/-- The error of a section that cannot be decoded. -/
def malformed : Fault := .error .decompression

theorem readIntLoop_eq
    (before later : Bytes)
    (shift value : Nat) :
    readIntLoop (before ++ later) before.length shift value later =
      PrefixInt.readGroups malformed malformed shift value later := by
  induction later generalizing before shift value with
  | nil => rfl
  | cons byte later ih =>
    have within : before.length + 1 ≤ (before ++ byte :: later).length := by
      rw [List.length_append, List.length_cons]
      omega
    have dropped : (before ++ byte :: later).drop (before.length + 1) = later := by
      rw [List.drop_append, List.drop_eq_nil_of_le (by omega), Nat.add_sub_cancel_left]
      rfl
    have further := ih (before ++ [byte]) (shift + 7) (value + byte.toNat % 128 * 2 ^ shift)
    rw [List.append_assoc, List.length_append] at further
    unfold readIntLoop PrefixInt.readGroups
    rw [sliceFrom, dropped]
    split
    · rfl
    · split
      · rfl
      · exact further

/-- `readInt` is the reader of the library: it never slices out of range. -/
theorem readInt_eq
    (block : Bytes)
    (bits : Nat) :
    readInt block bits = PrefixInt.read malformed malformed bits block := by
  cases block with
  | nil => rfl
  | cons first rest =>
    have looped := readIntLoop_eq [] rest 0 (first.toNat % 2 ^ bits)
    unfold readInt PrefixInt.read PrefixInt.mask
    rw [if_neg (by simp)]
    simp only [byteAt, sliceFrom, Except.bind, List.getElem?_cons_zero,
      List.length_cons, if_pos (Nat.le_add_left 1 rest.length),
      List.drop_succ_cons, List.drop_zero]
    split
    · rfl
    · exact looped

theorem appendInt_spec
    (first : UInt8)
    (bits : Nat)
    {value : Nat}
    (clear : first.toNat % 2 ^ bits = 0)
    (inByte : bits ≤ 8)
    (fits : value < 2 ^ 56)
    (rest : Bytes) :
    ∃ head more, appendInt first bits value ++ rest = head :: more ∧
      rest.length ≤ more.length ∧ first.toNat ≤ head.toNat ∧
      head.toNat < first.toNat + 2 ^ bits ∧
      readInt (head :: more) bits = .ok (value, rest) := by
  simp only [readInt_eq]
  exact PrefixInt.append_spec _ _ clear inByte fits rest

/-! ## Bits of the first byte -/

/-- A single bit of a byte. -/
theorem and_bit
    (byte : UInt8)
    (inByte : bits < 8) :
    (byte &&& (1 <<< bits : Nat).toUInt8 != 0) = decide (byte.toNat / 2 ^ bits % 2 = 1) := by
  have each : ∀ number < 256, ∀ bits < 8,
      (UInt8.ofNat number &&& (1 <<< bits : Nat).toUInt8 != 0) =
        decide ((UInt8.ofNat number).toNat / 2 ^ bits % 2 = 1) := by
    decide +kernel
  revert byte
  exact forall_byte fun number small => each number small bits inByte

/-- The bits that tell the kinds of field lines apart. -/
theorem line_bits (byte : UInt8) :
    (byte &&& 0x80 ≠ 0 ↔ 128 ≤ byte.toNat) ∧ (byte &&& 0x40 = 0 ↔ byte.toNat / 64 % 2 = 0) ∧
      (byte &&& 0xc0 = 0x40 ↔ byte.toNat / 64 = 1) ∧
      (byte &&& 0x10 = 0 ↔ byte.toNat / 16 % 2 = 0) ∧
      (byte &&& 0xe0 = 0x20 ↔ byte.toNat / 32 = 1) := by
  revert byte
  exact forall_byte (by decide +kernel)

/-! ## Strings -/

theorem decodeRaw_plain
    (maxLen : Int)
    (text : Bytes) :
    decodeRaw false maxLen text =
      if 0 < maxLen ∧ maxLen < text.length then .error .tooLarge
      else .ok text := rfl

/-- The limit counts the string, not its code, which is shorter. -/
theorem decodeRaw_huffman
    (shorter : Hpack.huffmanLen text < text.length)
    (maxLen : Int) :
    decodeRaw true maxLen (Hpack.huffmanAppend text) =
      if 0 < maxLen ∧ maxLen < text.length then .error .tooLarge
      else .ok text := by
  unfold decodeRaw
  rw [Hpack.length_huffmanAppend, Hpack.huffmanDecode_huffmanAppend]
  by_cases large : 0 < maxLen ∧ maxLen < text.length
  · rw [if_pos (by omega : 0 < maxLen.toNat ∧ maxLen.toNat < text.length)]
    split <;> rfl
  · rw [if_neg large, if_neg (by omega), if_neg (by decide), if_neg (by omega)]

/-- The string behind a length that is read. -/
theorem readString_of_readInt
    (isRead : readInt (head :: more) bits = .ok (raw.length, raw ++ rest))
    (maxLen : Int) :
    readString (head :: more) bits maxLen =
      ((decodeRaw (head &&& (1 <<< bits : Nat).toUInt8 != 0) maxLen
        raw).mapError .error).map fun text => (text, rest) := by
  have within : raw.length ≤ (raw ++ rest).length := by
    rw [List.length_append]
    exact Nat.le_add_right ..
  unfold readString
  rw [if_neg (by simp), isRead]
  simp only [byteAt, List.getElem?_cons_zero, Except.bind, sliceTo, sliceFrom,
    if_neg (Nat.not_lt.mpr within), if_pos within, List.take_left,
    List.drop_left]

/-- A string within the limit is read back. -/
theorem appendString_spec
    {first : UInt8}
    {bits : Nat}
    (width : bits = 3 ∨ bits = 7)
    (clear : first.toNat % 2 ^ (bits + 1) = 0)
    {text : Bytes}
    (fits : text.length < 2 ^ 48)
    (rest : Bytes)
    (maxLen : Int) :
    ∃ head more, appendString first bits text ++ rest = head :: more ∧
      rest.length ≤ more.length ∧ first.toNat ≤ head.toNat ∧
      head.toNat < first.toNat + 2 ^ (bits + 1) ∧
      readString (head :: more) bits maxLen =
        if 0 < maxLen ∧ maxLen < text.length then .error (.error .tooLarge)
        else .ok (text, rest) := by
  have inByte : bits < 8 := by omega
  have low : first.toNat % 2 ^ bits = 0 := by
    rcases width with rfl | rfl <;> omega
  have flagged : (first ||| (1 <<< bits : Nat).toUInt8).toNat = first.toNat + 2 ^ bits := by
    have small : 1 <<< bits < 2 ^ (bits + 1) ∧ 1 <<< bits < 256 ∧ 1 <<< bits = 2 ^ bits := by
      rcases width with rfl | rfl <;> decide
    rw [PrefixInt.toNat_or clear small.1 small.2.1, small.2.2]
  unfold appendString
  split
  · next shorter =>
    obtain ⟨head, more, block, less, high, below, isRead⟩ :=
      @appendInt_spec (first ||| (1 <<< bits : Nat).toUInt8) bits
        (Hpack.huffmanLen text) (by rw [flagged, Nat.add_mod_right, low])
        inByte.le (by omega) (Hpack.huffmanAppend text ++ rest)
    rw [← Hpack.length_huffmanAppend text] at isRead
    have flag : head.toNat / 2 ^ bits % 2 = 1 := by
      rcases width with rfl | rfl <;> omega
    rw [List.length_append] at less
    refine ⟨head, more, ?_, by omega, by omega, ?_, ?_⟩
    · rw [List.append_assoc, block]
    · omega
    rw [readString_of_readInt isRead, and_bit head inByte, flag,
      decide_eq_true rfl, decodeRaw_huffman shorter]
    split
    · rfl
    · rfl
  obtain ⟨head, more, block, less, high, below, isRead⟩ :=
    @appendInt_spec first bits text.length low inByte.le (by omega) (text ++ rest)
  have flag : head.toNat / 2 ^ bits % 2 = 0 := by
    rcases width with rfl | rfl <;> omega
  rw [List.length_append] at less
  refine ⟨head, more, ?_, by omega, by omega, ?_, ?_⟩
  · rw [List.append_assoc, block]
  · omega
  rw [readString_of_readInt isRead, and_bit head inByte, flag,
    decide_eq_false (by decide), decodeRaw_plain]
  split
  · rfl
  · rfl

/-! ## Any bytes -/

/-- A reader returns a value and fewer bytes than it was given, or an error. -/
def Sound
    {Value : Type}
    (block : Bytes)
    (result : Except Fault (Value × Bytes)) : Prop :=
  (∃ value rest, result = .ok (value, rest) ∧ rest.length < block.length) ∨
    ∃ error, result = .error (.error error)

theorem sound_readInt
    (block : Bytes)
    (bits : Nat) :
    Sound block (readInt block bits) := by
  rw [readInt_eq]
  cases isRead : PrefixInt.read malformed malformed bits block with
  | ok result =>
    obtain ⟨value, rest⟩ := result
    exact .inl ⟨value, rest, rfl, (PrefixInt.suffix_of_read isRead).2⟩
  | error fault =>
    have same : fault = malformed :=
      (PrefixInt.error_of_read isRead).elim id id
    exact .inr ⟨.decompression, by rw [same]; rfl⟩

theorem sound_readString
    (block : Bytes)
    (bits : Nat)
    (maxLen : Int) :
    Sound block (readString block bits maxLen) := by
  cases block with
  | nil => exact .inr ⟨.decompression, rfl⟩
  | cons head more =>
    rcases sound_readInt (head :: more) bits with
      ⟨length, rest, isRead, less⟩ | ⟨error, failed⟩
    · by_cases short : rest.length < length
      · refine .inr ⟨.decompression, ?_⟩
        unfold readString
        rw [if_neg (by simp), isRead]
        simp only [byteAt, List.getElem?_cons_zero, Except.bind, if_pos short]
      have parts : readInt (head :: more) bits = .ok ((rest.take length).length,
            rest.take length ++ rest.drop length) := by
        rw [List.take_append_drop, List.length_take,
          Nat.min_eq_left (by omega), isRead]
      rw [readString_of_readInt parts]
      cases decodeRaw (head &&& (1 <<< bits : Nat).toUInt8 != 0) maxLen (rest.take length) with
      | ok text =>
        refine .inl ⟨text, rest.drop length, rfl, ?_⟩
        rw [List.length_drop]
        omega
      | error error => exact .inr ⟨error, rfl⟩
    · refine .inr ⟨error, ?_⟩
      unfold readString
      rw [failed]
      rfl

/-- A row that is found, or an index beyond the table. -/
theorem staticField_cases (index : Nat) :
    (∃ field, staticField index = .ok field ∧ staticTable[index]? = some field) ∨
      staticField index = .error malformed := by
  unfold staticField
  split
  · exact .inr rfl
  · next within =>
    have bound : index < staticTable.length := by omega
    refine .inl ⟨staticTable[index], ?_, List.getElem?_eq_getElem bound⟩
    rw [List.getElem?_eq_getElem bound]

/-- The field lines that refer to no dynamic table: an index into the static
table, a literal with a name of the static table, and a literal with its own
name.  What a line is followed by comes last. -/
inductive StaticLine (maxLen : Int) : Bytes -> HeaderField -> Bytes -> Prop
  | indexed
      {head : UInt8}
      {more rest : Bytes}
      {index : Nat}
      {field : HeaderField}
      (pattern : head.toNat / 64 = 3)
      (isRead : readInt (head :: more) 6 = .ok (index, rest))
      (found : staticTable[index]? = some field) :
      StaticLine maxLen (head :: more) field rest
  | named
      {head : UInt8}
      {more middle rest value : Bytes}
      {index : Nat}
      {field : HeaderField}
      (pattern : head.toNat / 16 = 5 ∨ head.toNat / 16 = 7)
      (isRead : readInt (head :: more) 4 = .ok (index, middle))
      (found : staticTable[index]? = some field)
      (valueRead : readString middle 7 maxLen = .ok (value, rest)) :
      StaticLine maxLen (head :: more) ⟨field.name, value⟩ rest
  | literal
      {head : UInt8}
      {more middle rest name value : Bytes}
      (pattern : head.toNat / 32 = 1)
      (nameRead : readString (head :: more) 3 maxLen = .ok (name, middle))
      (valueRead : readString middle 7 maxLen = .ok (value, rest)) :
      StaticLine maxLen (head :: more) ⟨name, value⟩ rest

/-- A static line is taken off the block, or there is an error. -/
def Takes
    (maxSize : Int)
    (block : Bytes)
    (result : Except Fault (HeaderField × Bytes)) : Prop :=
  (∃ field rest, result = .ok (field, rest) ∧
    StaticLine maxSize block field rest ∧ rest.length < block.length) ∨
    ∃ error, result = .error (.error error)

section Lines

variable {maxSize : Int}
variable {head : UInt8}
variable {more : Bytes}

theorem takes_decodeIndexed (pattern : head.toNat / 64 = 3) :
    Takes maxSize (head :: more) (decodeIndexed (head :: more)) := by
  unfold decodeIndexed
  rcases sound_readInt (head :: more) 6 with
    ⟨index, rest, isRead, less⟩ | ⟨error, failed⟩
  · rw [isRead]
    rcases staticField_cases index with ⟨field, ok, found⟩ | failed
    · refine .inl ⟨field, rest, ?_, .indexed pattern isRead found, less⟩
      simp only [Except.bind, ok, Except.map]
    · refine .inr ⟨.decompression, ?_⟩
      simp only [Except.bind, failed, Except.map, malformed]
  · exact .inr ⟨error, by rw [failed]; rfl⟩

theorem takes_decodeNamed
    (pattern : head.toNat / 16 = 5 ∨ head.toNat / 16 = 7) :
    Takes maxSize (head :: more) (decodeNamed maxSize (head :: more)) := by
  unfold decodeNamed
  rcases sound_readInt (head :: more) 4 with
    ⟨index, middle, isRead, less⟩ | ⟨error, failed⟩
  · rw [isRead]
    rcases staticField_cases index with ⟨named, ok, found⟩ | failed
    · rcases sound_readString middle 7 maxSize with
        ⟨value, rest, valueRead, lesser⟩ | ⟨error, failed⟩
      · refine .inl ⟨_, rest, ?_, .named pattern isRead found valueRead, lesser.trans less⟩
        simp only [Except.bind, ok, valueRead, Except.map]
      · refine .inr ⟨error, ?_⟩
        simp only [Except.bind, ok, failed, Except.map]
    · refine .inr ⟨.decompression, ?_⟩
      simp only [Except.bind, failed, malformed]
  · exact .inr ⟨error, by rw [failed]; rfl⟩

theorem takes_decodeLiteral (pattern : head.toNat / 32 = 1) :
    Takes maxSize (head :: more) (decodeLiteral maxSize (head :: more)) := by
  unfold decodeLiteral
  rcases sound_readString (head :: more) 3 maxSize with
    ⟨name, middle, nameRead, less⟩ | ⟨error, failed⟩
  · rw [nameRead]
    rcases sound_readString middle 7 maxSize with
      ⟨value, rest, valueRead, lesser⟩ | ⟨error, failed⟩
    · refine .inl ⟨_, rest, ?_, .literal pattern nameRead valueRead, lesser.trans less⟩
      simp only [Except.bind, valueRead, Except.map]
    · refine .inr ⟨error, ?_⟩
      simp only [Except.bind, failed, Except.map]
  · exact .inr ⟨error, by rw [failed]; rfl⟩

/-- Every line is a static one or an error. -/
theorem takes_decodeLine : Takes maxSize (head :: more) (decodeLine maxSize (head :: more)) := by
  obtain ⟨high, second, reference, static, literal⟩ := line_bits head
  have bound := head.toNat_lt
  unfold decodeLine
  simp only [byteAt, List.getElem?_cons_zero, Except.bind, high, second, reference, static, literal]
  split
  · split
    · exact .inr ⟨.decompression, rfl⟩
    · exact takes_decodeIndexed (by omega)
  split
  · split
    · exact .inr ⟨.decompression, rfl⟩
    · exact takes_decodeNamed (by omega)
  · split
    · next pattern => exact takes_decodeLiteral pattern
    · exact .inr ⟨.decompression, rfl⟩

end Lines

/-- Static lines, the fields they hold, and what is left behind them. -/
inductive StaticLines (maxLen : Int) :
    Bytes -> List HeaderField -> Bytes -> Prop
  | nil (block : Bytes) : StaticLines maxLen block [] block
  | cons
      {block rest left : Bytes}
      {field : HeaderField}
      {fields : List HeaderField}
      (line : StaticLine maxLen block field rest)
      (lines : StaticLines maxLen rest fields left) :
      StaticLines maxLen block (field :: fields) left

/-- Fields are handed to the callback one by one until it refuses one; after
them comes the error of the section, if there is one. -/
def deliver
    {State Refusal : Type}
    (emit : State -> HeaderField -> State × Option Refusal)
    (stop : Option Error) :
    State -> List HeaderField -> Decoding State Refusal
  | state, [] => ⟨state, stop.map fun error => .codec (.error error)⟩
  | state, field :: fields =>
    match emit state field with
    | (state, some refusal) => ⟨state, some (.refused refusal)⟩
    | (state, none) => deliver emit stop state fields

section

variable (maxSize : Int)

/-- With a byte of fuel for each byte the loop comes to an end: it delivers
the fields of static lines, which are all of them unless there is an error. -/
theorem decodeLoop_delivers
    (enough : block.length ≤ fuel)
    (size : Nat) :
    ∃ fields stop left, StaticLines maxSize block fields left ∧ (stop = none -> left = []) ∧
      ∀ (State Refusal : Type) (emit : State -> HeaderField -> State × Option Refusal)
        (state : State),
        decodeLoop emit maxSize fuel size state block = deliver emit stop state fields := by
  induction fuel generalizing block size with
  | zero =>
    have empty : block = [] :=
      List.eq_nil_of_length_eq_zero (Nat.le_zero.mp enough)
    subst empty
    exact ⟨[], none, [], .nil [], fun _ => rfl, fun _ _ _ _ => rfl⟩
  | succ fuel ih =>
    cases block with
    | nil => exact ⟨[], none, [], .nil [], fun _ => rfl, fun _ _ _ _ => rfl⟩
    | cons head more =>
      rcases @takes_decodeLine maxSize head more with
        ⟨field, rest, line, static, less⟩ | ⟨error, line⟩
      · by_cases large : 0 < maxSize ∧ maxSize < (size + field.size : Nat)
        · refine ⟨[], some .tooLarge, head :: more, .nil _, nofun, ?_⟩
          intro State Refusal emit state
          rw [decodeLoop]
          simp only [line, if_pos large]
          rfl
        obtain ⟨fields, stop, left, lines, whole, delivers⟩ :=
          @ih rest (Nat.le_of_lt_succ (less.trans_le enough)) (size + field.size)
        refine ⟨field :: fields, stop, left, .cons static lines, whole, ?_⟩
        intro State Refusal emit state
        rw [decodeLoop]
        simp only [line, if_neg large, deliver]
        obtain ⟨next, refusal⟩ := emit state field
        cases refusal with
        | none => exact delivers State Refusal emit next
        | some refusal => rfl
      refine ⟨[], some error, head :: more, .nil _, nofun, ?_⟩
      intro State Refusal emit state
      rw [decodeLoop]
      simp only [line]
      rfl

/-- A section without references to a dynamic table, up to what is left. -/
def StaticSection
    (maxLen : Int)
    (block : Bytes)
    (fields : List HeaderField)
    (left : Bytes) : Prop :=
  ∃ base rest lines, readInt block 8 = .ok (0, rest) ∧
    readInt rest 7 = .ok (base, lines) ∧
    StaticLines maxLen lines fields left

/-- The fields are those of static lines, and they are all of the section
unless there is an error; there are none if the start of the section is
wrong. -/
def Taken
    (block : Bytes)
    (fields : List HeaderField)
    (stop : Option Error) : Prop :=
  (fields = [] ∧ stop ≠ none) ∨
    ∃ left, StaticSection maxSize block fields left ∧
      (stop = none -> left = [])

/-- Whatever the callback, it is handed these fields and then the error. -/
def Delivers
    (block : Bytes)
    (fields : List HeaderField)
    (stop : Option Error) : Prop :=
  ∀ (State Refusal : Type)
    (emit : State -> HeaderField -> State × Option Refusal) (state : State),
    decode emit maxSize state block = deliver emit stop state fields

/-- A section of any bytes delivers the fields of static lines. -/
theorem decode_delivers (block : Bytes) :
    ∃ fields stop, Taken maxSize block fields stop ∧ Delivers maxSize block fields stop := by
  rcases sound_readInt block 8 with ⟨required, rest, isRead, -⟩ |
    ⟨error, failed⟩
  · by_cases dynamic : required ≠ 0
    · refine ⟨[], some .decompression, .inl ⟨rfl, nofun⟩, ?_⟩
      intro State Refusal emit state
      simp only [decode, isRead, if_pos dynamic]
      rfl
    rcases sound_readInt rest 7 with ⟨base, lines, baseRead, -⟩ |
      ⟨error, failed⟩
    · obtain ⟨fields, stop, left, static, whole, delivers⟩ :=
        decodeLoop_delivers maxSize (Nat.le_refl lines.length) 0
      refine ⟨fields, stop, .inr ⟨left, ⟨base, rest, lines, ?_, baseRead, static⟩, whole⟩, ?_⟩
      · rw [isRead, not_not.mp dynamic]
      · intro State Refusal emit state
        simp only [decode, isRead, if_neg dynamic, baseRead]
        exact delivers State Refusal emit state
    · refine ⟨[], some error, .inl ⟨rfl, nofun⟩, ?_⟩
      intro State Refusal emit state
      simp only [decode, isRead, if_neg dynamic, failed]
      rfl
  · refine ⟨[], some error, .inl ⟨rfl, nofun⟩, ?_⟩
    intro State Refusal emit state
    simp only [decode, failed]
    rfl

/-! ## Sections that were written -/

theorem field_of_staticPairIndex
    (isStatic : staticPairIndex wanted = some index) :
    staticField index = .ok wanted ∧ index < staticTable.length := by
  obtain ⟨within, same, -⟩ := List.findIdx?_eq_some_iff_getElem.mp isStatic
  have equal : staticTable[index] = wanted := by simpa using same
  refine ⟨?_, within⟩
  rw [staticField, if_neg (by omega), List.getElem?_eq_getElem within, equal]

theorem field_of_staticNameIndex
    (isStatic : staticNameIndex name = some index) :
    ∃ named, staticField index = .ok named ∧ named.name = name ∧ index < staticTable.length := by
  obtain ⟨within, same, -⟩ := List.findIdx?_eq_some_iff_getElem.mp isStatic
  refine ⟨staticTable[index], ?_, by simpa using same, within⟩
  rw [staticField, if_neg (by omega), List.getElem?_eq_getElem within]

theorem length_staticTable : staticTable.length = 99 := rfl

/-- The line is read back, or it exceeds the limit on its own. -/
def ReadsBack
    (field : HeaderField)
    (rest : Bytes)
    (result : Except Fault (HeaderField × Bytes)) : Prop :=
  result = .ok (field, rest) ∨
    (result = .error (.error .tooLarge) ∧ 0 < maxSize ∧ maxSize < field.size)

end

section Written

variable {field : HeaderField}

theorem appendLiteral_spec
    (fits : field.Fits)
    (neverIndex : Bool)
    (maxSize : Int)
    (rest : Bytes) :
    ∃ head more, appendLiteral field neverIndex ++ rest = head :: more ∧ rest.length ≤ more.length ∧
      ReadsBack maxSize field rest (decodeLine maxSize (head :: more)) := by
  have longer (text : Bytes) (part : text.length ≤ field.size)
      (large : 0 < maxSize ∧ maxSize < text.length) :
      0 < maxSize ∧ maxSize < field.size := by
    omega
  have namePart : field.name.length ≤ field.size := by
    unfold Hpack.HeaderField.size
    omega
  have valuePart : field.value.length ≤ field.size := by
    unfold Hpack.HeaderField.size
    omega
  obtain ⟨valueHead, valueMore, valueBlock, valueLess, -, -, valueRead⟩ :=
    @appendString_spec 0 7 (.inr rfl) (by decide) field.value fits.2 rest maxSize
  unfold appendLiteral
  split
  · next index isStatic =>
    obtain ⟨named, found, sameName, within⟩ :=
      field_of_staticNameIndex isStatic
    rw [length_staticTable] at within
    obtain ⟨head, more, block, less, high, low, isRead⟩ :=
      @appendInt_spec (if neverIndex then 0x50 ||| 0x20 else 0x50) 4 index
        (by cases neverIndex <;> decide) (by decide) (by omega) (valueHead :: valueMore)
    have pattern : head.toNat / 16 = 5 ∨ head.toNat / 16 = 7 := by
      cases neverIndex with
      | false =>
        have high : 80 ≤ head.toNat := high
        have low : head.toNat < 96 := low
        omega
      | true =>
        have high : 112 ≤ head.toNat := high
        have low : head.toNat < 128 := low
        omega
    obtain ⟨first, -, third, fourth, -⟩ := line_bits head
    refine ⟨head, more, ?_, ?_, ?_⟩
    · rw [List.append_assoc, valueBlock, block]
    · rw [List.length_cons] at less
      omega
    simp only [decodeLine, byteAt, List.getElem?_cons_zero, Except.bind]
    rw [if_neg (fun indexed => by have := first.mp indexed; omega),
      if_pos (third.mpr (by omega)),
      if_neg (fun dynamic => by have := fourth.mp dynamic; omega),
      decodeNamed, isRead]
    simp only [Except.bind, found, valueRead]
    split
    · next large => exact .inr ⟨rfl, longer _ valuePart large⟩
    · refine .inl ?_
      rw [sameName]
      rfl
  obtain ⟨head, more, block, less, high, low, nameRead⟩ :=
    @appendString_spec (if neverIndex then 0x20 ||| 0x10 else 0x20) 3
      (.inl rfl) (by cases neverIndex <;> decide) field.name fits.1
      (valueHead :: valueMore) maxSize
  have pattern : head.toNat / 32 = 1 := by
    cases neverIndex with
    | false =>
      have high : 32 ≤ head.toNat := high
      have low : head.toNat < 48 := low
      omega
    | true =>
      have high : 48 ≤ head.toNat := high
      have low : head.toNat < 64 := low
      omega
  obtain ⟨first, -, third, -, fifth⟩ := line_bits head
  refine ⟨head, more, ?_, ?_, ?_⟩
  · rw [List.append_assoc, valueBlock, block]
  · rw [List.length_cons] at less
    omega
  simp only [decodeLine, byteAt, List.getElem?_cons_zero, Except.bind]
  rw [if_neg (fun indexed => by have := first.mp indexed; omega),
    if_neg (fun named => by have := third.mp named; omega),
    if_pos (fifth.mpr pattern), decodeLiteral, nameRead]
  split
  · next large => exact .inr ⟨rfl, longer _ namePart large⟩
  · simp only [Except.bind, valueRead]
    split
    · next large => exact .inr ⟨rfl, longer _ valuePart large⟩
    · exact .inl rfl

theorem appendField_spec
    (fits : field.Fits)
    (neverIndex : Bool)
    (maxSize : Int)
    (rest : Bytes) :
    ∃ head more, appendField field neverIndex ++ rest = head :: more ∧ rest.length ≤ more.length ∧
      ReadsBack maxSize field rest (decodeLine maxSize (head :: more)) := by
  unfold appendField
  split
  · next index isStatic =>
    split
    · obtain ⟨found, within⟩ := field_of_staticPairIndex isStatic
      rw [length_staticTable] at within
      obtain ⟨head, more, block, less, high, -, isRead⟩ :=
        @appendInt_spec 0xc0 6 index (by decide) (by decide) (by omega) rest
      have high : 192 ≤ head.toNat := high
      have bound := head.toNat_lt
      obtain ⟨first, second, -⟩ := line_bits head
      refine ⟨head, more, block, less, .inl ?_⟩
      simp only [decodeLine, byteAt, List.getElem?_cons_zero, Except.bind]
      rw [if_pos (first.mpr (by omega)),
        if_neg (fun dynamic => by have := second.mp dynamic; omega),
        decodeIndexed, isRead]
      simp only [Except.bind, found, Except.map]
    · exact appendLiteral_spec fits neverIndex maxSize rest
  · exact appendLiteral_spec fits neverIndex maxSize rest

end Written

/-- The field lines of a section. -/
def appendFields (fields : List (HeaderField × Bool)) : Bytes :=
  fields.flatMap fun entry => appendField entry.1 entry.2

/-- A callback that takes every field. -/
def collect
    (emitted : List HeaderField)
    (field : HeaderField) :
    List HeaderField × Option Empty :=
  (emitted ++ [field], none)

/-- Fields that the limit has room for, behind others of the given size. -/
def Fits
    (maxSize : Int)
    (size : Nat)
    (fields : List HeaderField) : Prop :=
  0 < maxSize -> (size + Hpack.total fields : Nat) ≤ maxSize

instance (maxSize : Int) (size : Nat) (fields : List HeaderField) :
    Decidable (Fits maxSize size fields) :=
  inferInstanceAs (Decidable (_ -> _))

theorem fits_cons
    (maxSize : Int)
    (size : Nat)
    (field : HeaderField)
    (fields : List HeaderField) :
    Fits maxSize size (field :: fields) ↔ Fits maxSize (size + field.size) fields := by
  unfold Fits
  rw [Hpack.total_cons, Nat.add_assoc]

/-- The count of the longest list of first fields that the limit has room
for. -/
def Longest
    (maxSize : Int)
    (size : Nat)
    (fields : List HeaderField)
    (count : Nat) : Prop :=
  count ≤ fields.length ∧
    ∀ length ≤ fields.length,
      Fits maxSize size (fields.take length) ↔ length ≤ count

theorem Longest.cons
    (within : Fits maxSize size [])
    (longest : Longest maxSize (size + field.size) fields count) :
    Longest maxSize size (field :: fields) (count + 1) := by
  refine ⟨Nat.succ_le_succ longest.1, ?_⟩
  intro length bound
  cases length with
  | zero => exact iff_of_true within (Nat.zero_le _)
  | succ length =>
    rw [List.take_succ_cons, fits_cons, longest.2 length (Nat.le_of_succ_le_succ bound),
      Nat.add_le_add_iff_right]

theorem longest_zero
    (within : Fits maxSize size [])
    (large : 0 < maxSize ∧ maxSize < (size + field.size : Nat)) :
    Longest maxSize size (field :: fields) 0 := by
  refine ⟨Nat.zero_le _, ?_⟩
  intro length bound
  cases length with
  | zero => exact iff_of_true within (Nat.le_refl 0)
  | succ length =>
    refine iff_of_false (fun fits => ?_) (Nat.not_succ_le_zero length)
    rw [List.take_succ_cons, fits_cons] at fits
    have bound := fits large.1
    omega

/-- The lines that were written are read back as far as the limit allows. -/
theorem decodeLoop_appendFields
    (fit : ∀ field ∈ fields, field.1.Fits)
    (within : Fits maxSize size [])
    (emitted : List HeaderField)
    (enough : (appendFields fields).length ≤ fuel) :
    ∃ count, Longest maxSize size (fields.map Prod.fst) count ∧
      decodeLoop collect maxSize fuel size emitted (appendFields fields) =
        ⟨emitted ++ (fields.map Prod.fst).take count,
          if Fits maxSize size (fields.map Prod.fst) then none
          else some (.codec (.error .tooLarge))⟩ := by
  induction fields generalizing size emitted fuel with
  | nil =>
    refine ⟨0, ⟨Nat.le_refl 0, ?_⟩, ?_⟩
    · intro length bound
      rw [List.map_nil, List.take_nil]
      exact iff_of_true within bound
    · rw [List.map_nil, if_pos within, List.take_nil, List.append_nil]
      cases fuel <;> rfl
  | cons entry rest ih =>
    obtain ⟨field, neverIndex⟩ := entry
    rw [List.forall_mem_cons] at fit
    obtain ⟨head, more, block, less, readsBack⟩ :=
      @appendField_spec field fit.1 neverIndex maxSize (appendFields rest)
    have whole : appendFields ((field, neverIndex) :: rest) = head :: more := block
    rw [whole] at enough ⊢
    rw [List.map_cons]
    cases fuel with
    | zero => cases enough
    | succ fuel =>
      rw [decodeLoop, if_neg (by simp)]
      by_cases large : 0 < maxSize ∧ maxSize < (size + field.size : Nat)
      · have excess : ¬Fits maxSize size (field :: rest.map Prod.fst) := by
          rw [fits_cons]
          intro fits
          have bound := fits large.1
          omega
        refine ⟨0, longest_zero within large, ?_⟩
        rw [if_neg excess, List.take_zero, List.append_nil]
        rcases readsBack with line | ⟨line, -⟩
        · simp only [line, if_pos large]
        · simp only [line]
      have line : decodeLine maxSize (head :: more) = .ok (field, appendFields rest) := by
        rcases readsBack with line | ⟨-, alone⟩
        · exact line
        · omega
      have further : Fits maxSize (size + field.size) [] := by
        intro positive
        have small : ¬maxSize < (size + field.size : Nat) :=
          fun excess => large ⟨positive, excess⟩
        exact Int.not_lt.mp small
      obtain ⟨count, longest, looped⟩ :=
        ih fit.2 further (emitted ++ [field]) (less.trans (Nat.le_of_succ_le_succ enough))
      refine ⟨count + 1, longest.cons within, ?_⟩
      simp only [line, if_neg large, collect, fits_cons]
      rw [looped, List.append_assoc]
      rfl

/-- A section as a program writes it. -/
def sectionOf (fields : List Hpack.Given) : Bytes :=
  sectionStart ++
    appendFields (fields.map fun given => (given.field, given.sensitive))

/-- A section that was written is decoded to the longest list of its first
fields that the limit has room for, with an error exactly if that is not all
of them.  A section of any bytes ends in no panic, delivers nothing behind an
error, and delivers the fields of static lines only. -/
theorem sections_decode :
    (∀ (fields : List Hpack.Given) (maxSize : Int),
      ∃ count, Longest maxSize 0 (fields.map Hpack.Given.field) count ∧
        decode collect maxSize [] (sectionOf fields) = ⟨(fields.map Hpack.Given.field).take count,
            if Fits maxSize 0 (fields.map Hpack.Given.field) then none
            else some (.codec (.error .tooLarge))⟩) ∧
      ∀ (block : Bytes) (maxSize : Int),
        ∃ fields stop, Taken maxSize block fields stop ∧ Delivers maxSize block fields stop := by
  refine ⟨fun fields maxSize => ?_, fun block maxSize => decode_delivers maxSize block⟩
  have fit : ∀ field ∈ fields.map fun given => (given.field, given.sensitive), field.1.Fits := by
    intro field present
    obtain ⟨given, -, rfl⟩ := List.mem_map.mp present
    exact ⟨given.name.fits, given.value.fits⟩
  have none : Fits maxSize 0 [] := fun positive => by
    exact Int.le_of_lt positive
  obtain ⟨count, longest, looped⟩ :=
    decodeLoop_appendFields fit none [] (Nat.le_refl _)
  rw [List.map_map] at longest looped
  exact ⟨count, longest, looped⟩

end Qpack
end Fib
