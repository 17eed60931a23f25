import Fib.Hpack.Huffman
import Fib.Library.PrefixInt

/-!
# The HPACK encoder and decoder

Each end of a connection keeps a dynamic table of the fields that were sent,
the newest last.  The encoder writes a field as an index into the tables or as
a literal, and announces changes of the table's size at the start of the next
block; the decoder follows what it reads.
-/

namespace Fib
namespace Hpack

/-- `HeaderField`. -/
structure HeaderField where
  name : Bytes
  value : Bytes
deriving DecidableEq, Repr

/-- `HeaderField.size`. -/
def HeaderField.size (field : HeaderField) : Nat :=
  field.name.length + field.value.length + 32

def defaultTableSize : Nat := 4096

/-- The rows of the static table. -/
def staticRows : List (String × String) :=
  [
    (":authority", ""), (":method", "GET"), (":method", "POST"),
    (":path", "/"), (":path", "/index.html"), (":scheme", "http"),
    (":scheme", "https"), (":status", "200"), (":status", "204"),
    (":status", "206"), (":status", "304"), (":status", "400"),
    (":status", "404"), (":status", "500"), ("accept-charset", ""),
    ("accept-encoding", "gzip, deflate"), ("accept-language", ""),
    ("accept-ranges", ""), ("accept", ""),
    ("access-control-allow-origin", ""), ("age", ""), ("allow", ""),
    ("authorization", ""), ("cache-control", ""), ("content-disposition", ""),
    ("content-encoding", ""), ("content-language", ""),
    ("content-length", ""), ("content-location", ""), ("content-range", ""),
    ("content-type", ""), ("cookie", ""), ("date", ""), ("etag", ""),
    ("expect", ""), ("expires", ""), ("from", ""), ("host", ""),
    ("if-match", ""), ("if-modified-since", ""), ("if-none-match", ""),
    ("if-range", ""), ("if-unmodified-since", ""), ("last-modified", ""),
    ("link", ""), ("location", ""), ("max-forwards", ""),
    ("proxy-authenticate", ""), ("proxy-authorization", ""), ("range", ""),
    ("referer", ""), ("refresh", ""), ("retry-after", ""), ("server", ""),
    ("set-cookie", ""), ("strict-transport-security", ""),
    ("transfer-encoding", ""), ("user-agent", ""), ("vary", ""), ("via", ""),
    ("www-authenticate", "")]

/-- `staticTable`. -/
def staticTable : List HeaderField :=
  staticRows.map fun row => ⟨ascii row.1, ascii row.2⟩

/-- `staticPairIndex`: of equal rows the first counts. -/
def staticPairIndex (field : HeaderField) : Option Nat :=
  (staticTable.findIdx? (· = field)).map (· + 1)

/-- `staticNameIndex`: of rows with one name the first counts. -/
def staticNameIndex (name : Bytes) : Option Nat :=
  (staticTable.findIdx? (·.name = name)).map (· + 1)

/-! ## The dynamic table -/

/-- `dynamicTable`. -/
structure DynamicTable where
  entries : List HeaderField := []
  size : Nat := 0
  maxSize : Nat
deriving DecidableEq

namespace DynamicTable

/-- The loop of `evict`, over the entries from the oldest on. -/
def evictLoop (maxSize : Nat) :
    List HeaderField -> Nat -> List HeaderField × Nat
  | [], size => ([], size)
  | entry :: rest, size =>
    if maxSize < size then evictLoop maxSize rest (size - entry.size)
    else (entry :: rest, size)

section

variable (table : DynamicTable)

/-- `dynamicTable.evict`. -/
def evict : DynamicTable :=
  { table with
    entries := (evictLoop table.maxSize table.entries table.size).1
    size := (evictLoop table.maxSize table.entries table.size).2 }

/-- `dynamicTable.add`. -/
def add (field : HeaderField) : DynamicTable :=
  { table with
    size := table.size + field.size
    entries := table.entries ++ [field] : DynamicTable }.evict

/-- `dynamicTable.setMaxSize`. -/
def setMaxSize (maxSize : Nat) : DynamicTable :=
  { table with maxSize := maxSize : DynamicTable }.evict

/-- `dynamicTable.get`. -/
def get (index : Nat) : Option HeaderField :=
  if index < 1 ∨ table.entries.length < index then none
  else table.entries[table.entries.length - index]?

/-- `dynamicTable.field`. -/
def field (index : Nat) : Option HeaderField :=
  if index = 0 then none
  else if index ≤ staticTable.length then staticTable[index - 1]?
  else if table.entries.length < index - staticTable.length then none
  else table.get (index - staticTable.length)

end

end DynamicTable

/-! ## The decoder -/

/-- `Decoder`. -/
structure Decoder where
  table : DynamicTable
  allowedMaxSize : Nat
  maxStringLength : Nat := 0

/-- `NewDecoder`. -/
def newDecoder (maxTableSize : Nat) : Decoder where
  table := { maxSize := maxTableSize }
  allowedMaxSize := maxTableSize

/-- `readInt`. -/
def readInt
    (block : Bytes)
    (bits : Nat) : Except Error (Nat × Bytes) :=
  PrefixInt.read .truncated .integerOverflow bits block

namespace Decoder

/-- `Decoder.readString`. -/
def readString
    (decoder : Decoder)
    (block : Bytes) :
    Except Error (Bytes × Bytes) :=
  match block with
  | [] => .error .truncated
  | first :: _ =>
    (readInt block 7).bind fun (length, rest) =>
      if rest.length < length then .error .truncated
      else if first.toNat < 128 then
        if 0 < decoder.maxStringLength ∧ decoder.maxStringLength < length then
          .error .stringTooLong
        else .ok (rest.take length, rest.drop length)
      else
        (huffmanDecode (rest.take length) decoder.maxStringLength).map
          (·, rest.drop length)

/-- `Decoder.readLiteral`: the name is an entry's or follows as a string. -/
def readLiteral
    (decoder : Decoder)
    (block : Bytes)
    (bits : Nat) :
    Except Error (HeaderField × Bytes) :=
  (readInt block bits).bind fun (index, rest) =>
    (if 0 < index then
      match decoder.table.field index with
      | none => .error .invalidIndex
      | some named => .ok (named.name, rest)
    else decoder.readString rest).bind fun (name, rest) =>
      (decoder.readString rest).map fun (value, rest) => (⟨name, value⟩, rest)

/-- One representation of `Decoder.Decode`: a field, or a change of the
table's size, which may only stand before the first field. -/
def decodeOne
    (decoder : Decoder)
    (start : Bool)
    (first : UInt8)
    (block : Bytes) :
    Except Error (Decoder × Option HeaderField × Bytes) :=
  if 128 ≤ first.toNat then
    (readInt block 7).bind fun (index, rest) =>
      match decoder.table.field index with
      | none => .error .invalidIndex
      | some field => .ok (decoder, some field, rest)
  else if 64 ≤ first.toNat then
    (decoder.readLiteral block 6).map fun (field, rest) =>
      ({ decoder with table := decoder.table.add field }, some field, rest)
  else if 32 ≤ first.toNat then
    if start = false then .error .invalidSizeUpdate
    else
      (readInt block 5).bind fun (size, rest) =>
        if decoder.allowedMaxSize < size then .error .invalidSizeUpdate
        else
          .ok ({ decoder with table := decoder.table.setMaxSize size }, none,
            rest)
  else
    (decoder.readLiteral block 4).map fun (field, rest) =>
      (decoder, some field, rest)

end Decoder

/-- Why decoding stops early: the block is wrong, or the callback refuses a
field. -/
inductive Failure (Refusal : Type) where
  | codec (error : Error)
  | refused (refusal : Refusal)
deriving DecidableEq

/-- What decoding a block leaves. -/
structure Decoding (State Refusal : Type) where
  decoder : Decoder
  state : State
  failure : Option (Failure Refusal)

namespace Decoder

variable {State Refusal : Type}

/-- The loop of `Decoder.Decode`.  Every turn takes a byte, so as much fuel as
there are bytes is enough. -/
def decodeLoop (emit : State -> HeaderField -> Except Refusal State) :
    Nat -> Bool -> Decoder -> State -> Bytes -> Decoding State Refusal
  | 0, _, decoder, state, _ => ⟨decoder, state, none⟩
  | fuel + 1, start, decoder, state, block =>
    match block with
    | [] => ⟨decoder, state, none⟩
    | first :: _ =>
      match decoder.decodeOne start first block with
      | .error error => ⟨decoder, state, some (.codec error)⟩
      | .ok (decoder, none, rest) =>
        decodeLoop emit fuel start decoder state rest
      | .ok (decoder, some field, rest) =>
        match emit state field with
        | .error refusal => ⟨decoder, state, some (.refused refusal)⟩
        | .ok state => decodeLoop emit fuel false decoder state rest

/-- `Decoder.Decode`. -/
def decode
    (emit : State -> HeaderField -> Except Refusal State)
    (decoder : Decoder)
    (state : State)
    (block : Bytes) :
    Decoding State Refusal :=
  decodeLoop emit block.length true decoder state block

end Decoder

/-! ## The encoder -/

/-- `Encoder`. -/
structure Encoder where
  table : DynamicTable
  pendingSize : Bool := false
  minPending : Nat := 0

/-- `NewEncoder`. -/
def newEncoder : Encoder where
  table := { maxSize := defaultTableSize }

/-- `appendInt`, the part it appends. -/
def appendInt
    (first : UInt8)
    (bits value : Nat) : Bytes :=
  PrefixInt.append first bits value

/-- `appendString`, the part it appends. -/
def appendString (text : Bytes) : Bytes :=
  if huffmanLen text < text.length then
    appendInt 0x80 7 (huffmanLen text) ++ huffmanAppend text
  else appendInt 0x00 7 text.length ++ text

namespace Encoder

/-- `Encoder.SetMaxTableSize`. -/
def setMaxTableSize
    (encoder : Encoder)
    (size : Nat) : Encoder :=
  let size := min size defaultTableSize
  if size = encoder.table.maxSize then encoder
  else
    { table := encoder.table.setMaxSize size
      pendingSize := true
      minPending :=
        if encoder.pendingSize = false ∨ size < encoder.minPending then size
        else encoder.minPending }

/-- `Encoder.Begin`, the part it appends. -/
def begin (encoder : Encoder) : Bytes × Encoder :=
  if encoder.pendingSize = false then ([], encoder)
  else
    ((if encoder.minPending < encoder.table.maxSize then
        appendInt 0x20 5 encoder.minPending
      else []) ++ appendInt 0x20 5 encoder.table.maxSize,
      { encoder with pendingSize := false })

/-- The search of `Encoder.AppendField` through the dynamic table from the
newest entry on: the index of the field, or else the index of its name. -/
def search (field : HeaderField) :
    List HeaderField -> Nat -> Nat -> Nat ⊕ Nat
  | [], _, nameIndex => .inr nameIndex
  | entry :: older, index, nameIndex =>
    if entry.name ≠ field.name then
      search field older (index + 1) nameIndex
    else if entry.value = field.value then .inl index
    else
      search field older (index + 1)
        (if nameIndex = 0 then index else nameIndex)

/-- The strings of a literal; the name is left out when it has an index. -/
def literalStrings
    (field : HeaderField)
    (nameIndex : Nat) : Bytes :=
  (if nameIndex = 0 then appendString field.name else []) ++
    appendString field.value

/-- A field that has no index of its own. -/
def appendLiteral
    (encoder : Encoder)
    (field : HeaderField)
    (nameIndex : Nat)
    (sensitive : Bool) : Bytes × Encoder :=
  if sensitive then
    (appendInt 0x10 4 nameIndex ++ literalStrings field nameIndex, encoder)
  else if encoder.table.maxSize / 2 < field.size then
    (appendInt 0x00 4 nameIndex ++ literalStrings field nameIndex, encoder)
  else
    (appendInt 0x40 6 nameIndex ++ literalStrings field nameIndex,
      { encoder with table := encoder.table.add field })

/-- `Encoder.AppendField`, the part it appends. -/
def appendField
    (encoder : Encoder)
    (field : HeaderField)
    (sensitive : Bool) :
    Bytes × Encoder :=
  match staticPairIndex field with
  | some index => (appendInt 0x80 7 index, encoder)
  | none =>
    match search field encoder.table.entries.reverse
        (staticTable.length + 1) ((staticNameIndex field.name).getD 0) with
    | .inl index => (appendInt 0x80 7 index, encoder)
    | .inr nameIndex => encoder.appendLiteral field nameIndex sensitive

/-- The fields of a block. -/
def appendFields (encoder : Encoder) :
    List (HeaderField × Bool) -> Bytes × Encoder
  | [] => ([], encoder)
  | (field, sensitive) :: rest =>
    ((encoder.appendField field sensitive).1 ++
        (appendFields (encoder.appendField field sensitive).2 rest).1,
      (appendFields (encoder.appendField field sensitive).2 rest).2)

/-- A block is started by one `Begin`. -/
def encodeBlock
    (encoder : Encoder)
    (fields : List (HeaderField × Bool)) :
    Bytes × Encoder :=
  (encoder.begin.1 ++ (encoder.begin.2.appendFields fields).1,
    (encoder.begin.2.appendFields fields).2)

end Encoder

end Hpack
end Fib
