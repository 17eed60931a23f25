import Fib.Hpack.Codec

/-!
# QPACK without a dynamic table

A field section is written with the static table and literals, and read
likewise: a reference to a dynamic table is an error.  Indexing and slicing
check their bounds here as they do in the program, where a failed check is a
panic.
-/

namespace Fib
namespace Qpack

/-- `HeaderField`; its size is what a section's limit counts. -/
abbrev HeaderField := Hpack.HeaderField

/-- `ErrDecompression` and `ErrTooLarge`. -/
inductive Error where
  | decompression
  | tooLarge
deriving DecidableEq

/-- `err.Error()`. -/
def Error.message : Error -> Bytes
  | decompression => ascii "qpack: decompression failed"
  | tooLarge => ascii "qpack: field section too large"

/-- Why a call does not return a value: it returns an error, it panics, or it
has not come to an end. -/
inductive Fault where
  | error (error : Error)
  | panic
  | unfinished
deriving DecidableEq

/-- The rows of the static table. -/
def staticRows : List (String × String) :=
  [
    (":authority", ""), (":path", "/"), ("age", "0"),
    ("content-disposition", ""), ("content-length", "0"), ("cookie", ""),
    ("date", ""), ("etag", ""), ("if-modified-since", ""),
    ("if-none-match", ""), ("last-modified", ""), ("link", ""),
    ("location", ""), ("referer", ""), ("set-cookie", ""),
    (":method", "CONNECT"), (":method", "DELETE"), (":method", "GET"),
    (":method", "HEAD"), (":method", "OPTIONS"), (":method", "POST"),
    (":method", "PUT"), (":scheme", "http"), (":scheme", "https"),
    (":status", "103"), (":status", "200"), (":status", "304"),
    (":status", "404"), (":status", "503"), ("accept", "*/*"),
    ("accept", "application/dns-message"),
    ("accept-encoding", "gzip, deflate, br"), ("accept-ranges", "bytes"),
    ("access-control-allow-headers", "cache-control"),
    ("access-control-allow-headers", "content-type"),
    ("access-control-allow-origin", "*"), ("cache-control", "max-age=0"),
    ("cache-control", "max-age=2592000"), ("cache-control", "max-age=604800"),
    ("cache-control", "no-cache"), ("cache-control", "no-store"),
    ("cache-control", "public, max-age=31536000"), ("content-encoding", "br"),
    ("content-encoding", "gzip"), ("content-type", "application/dns-message"),
    ("content-type", "application/javascript"),
    ("content-type", "application/json"),
    ("content-type", "application/x-www-form-urlencoded"),
    ("content-type", "image/gif"), ("content-type", "image/jpeg"),
    ("content-type", "image/png"), ("content-type", "text/css"),
    ("content-type", "text/html; charset=utf-8"),
    ("content-type", "text/plain"),
    ("content-type", "text/plain;charset=utf-8"), ("range", "bytes=0-"),
    ("strict-transport-security", "max-age=31536000"),
    ("strict-transport-security", "max-age=31536000; includesubdomains"),
    ("strict-transport-security", "max-age=31536000; includesubdomains; preload"),
    ("vary", "accept-encoding"), ("vary", "origin"),
    ("x-content-type-options", "nosniff"),
    ("x-xss-protection", "1; mode=block"), (":status", "100"),
    (":status", "204"), (":status", "206"), (":status", "302"),
    (":status", "400"), (":status", "403"), (":status", "421"),
    (":status", "425"), (":status", "500"), ("accept-language", ""),
    ("access-control-allow-credentials", "FALSE"),
    ("access-control-allow-credentials", "TRUE"),
    ("access-control-allow-headers", "*"),
    ("access-control-allow-methods", "get"),
    ("access-control-allow-methods", "get, post, options"),
    ("access-control-allow-methods", "options"),
    ("access-control-expose-headers", "content-length"),
    ("access-control-request-headers", "content-type"),
    ("access-control-request-method", "get"),
    ("access-control-request-method", "post"), ("alt-svc", "clear"),
    ("authorization", ""),
    ("content-security-policy", "script-src 'none'; object-src 'none'; base-uri 'none'"),
    ("early-data", "1"), ("expect-ct", ""), ("forwarded", ""),
    ("if-range", ""), ("origin", ""), ("purpose", "prefetch"), ("server", ""),
    ("timing-allow-origin", "*"), ("upgrade-insecure-requests", "1"),
    ("user-agent", ""), ("x-forwarded-for", ""), ("x-frame-options", "deny"),
    ("x-frame-options", "sameorigin")]

/-- `staticTable`. -/
def staticTable : List HeaderField :=
  staticRows.map fun row => ⟨ascii row.1, ascii row.2⟩

/-- `staticPairIndex`: of equal rows the first counts. -/
def staticPairIndex (field : HeaderField) : Option Nat :=
  staticTable.findIdx? (· = field)

/-- `staticNameIndex`: of rows with one name the first counts. -/
def staticNameIndex (name : Bytes) : Option Nat :=
  staticTable.findIdx? (·.name = name)

/-! ## Writing -/

/-- `appendInt`, the part it appends. -/
def appendInt
    (first : UInt8)
    (bits value : Nat) : Bytes :=
  PrefixInt.append first bits value

/-- `appendString`, the part it appends. -/
def appendString
    (first : UInt8)
    (bits : Nat)
    (text : Bytes) : Bytes :=
  if Hpack.huffmanLen text < text.length then
    appendInt (first ||| (1 <<< bits : Nat).toUInt8) bits
      (Hpack.huffmanLen text) ++ Hpack.huffmanAppend text
  else appendInt first bits text.length ++ text

/-- A literal field line, with a reference to a static name if there is one. -/
def appendLiteral
    (field : HeaderField)
    (neverIndex : Bool) : Bytes :=
  match staticNameIndex field.name with
  | some index =>
    appendInt (if neverIndex then 0x50 ||| 0x20 else 0x50) 4 index ++
      appendString 0 7 field.value
  | none =>
    appendString (if neverIndex then 0x20 ||| 0x10 else 0x20) 3 field.name ++
      appendString 0 7 field.value

/-- `AppendField`, the part it appends. -/
def appendField
    (field : HeaderField)
    (neverIndex : Bool) : Bytes :=
  match staticPairIndex field with
  | some index =>
    if neverIndex = false then appendInt 0xc0 6 index
    else appendLiteral field neverIndex
  | none => appendLiteral field neverIndex

/-- `Prefix`. -/
def sectionStart : Bytes := [0, 0]

/-! ## Reading -/

/-- `bytes[index]`. -/
def byteAt
    (bytes : Bytes)
    (index : Nat) : Except Fault UInt8 :=
  match bytes[index]? with
  | some byte => .ok byte
  | none => .error .panic

/-- `bytes[low:]`. -/
def sliceFrom
    (bytes : Bytes)
    (low : Nat) : Except Fault Bytes :=
  if low ≤ bytes.length then .ok (bytes.drop low) else .error .panic

/-- `bytes[:high]`. -/
def sliceTo
    (bytes : Bytes)
    (high : Nat) : Except Fault Bytes :=
  if high ≤ bytes.length then .ok (bytes.take high) else .error .panic

/-- The loop of `readInt` over the bytes after the first, from an index on. -/
def readIntLoop (bytes : Bytes) :
    Nat -> Nat -> Nat -> Bytes -> Except Fault (Nat × Bytes)
  | _, _, _, [] => .error (.error .decompression)
  | index, shift, value, byte :: later =>
    let value := value + byte.toNat % 128 * 2 ^ shift
    if byte.toNat < 128 then
      (sliceFrom bytes (index + 1)).map fun rest => (value, rest)
    else if 56 ≤ shift + 7 then .error (.error .decompression)
    else readIntLoop bytes (index + 1) (shift + 7) value later

/-- `readInt`. -/
def readInt
    (block : Bytes)
    (bits : Nat) : Except Fault (Nat × Bytes) :=
  if block.length = 0 then .error (.error .decompression)
  else
    (byteAt block 0).bind fun first =>
      (sliceFrom block 1).bind fun rest =>
        if first.toNat % 2 ^ bits < 2 ^ bits - 1 then
          .ok (first.toNat % 2 ^ bits, rest)
        else readIntLoop rest 0 0 (first.toNat % 2 ^ bits) rest

/-- A string as it is on the wire, whose Huffman code is undone. -/
def decodeRaw
    (huffman : Bool)
    (maxLen : Int)
    (raw : Bytes) :
    Except Error Bytes :=
  if 0 < maxLen ∧ maxLen < raw.length then .error .tooLarge
  else if huffman = false then .ok raw
  else
    match Hpack.huffmanDecode raw maxLen.toNat with
    | .ok text => .ok text
    | .error .stringTooLong => .error .tooLarge
    | .error _ => .error .decompression

/-- `readString`. -/
def readString
    (block : Bytes)
    (bits : Nat)
    (maxLen : Int) :
    Except Fault (Bytes × Bytes) :=
  if block.length = 0 then .error (.error .decompression)
  else
    (byteAt block 0).bind fun first =>
      (readInt block bits).bind fun (length, rest) =>
        if rest.length < length then .error (.error .decompression)
        else
          (sliceTo rest length).bind fun raw =>
            (sliceFrom rest length).bind fun rest =>
              ((decodeRaw (first &&& (1 <<< bits : Nat).toUInt8 != 0) maxLen
                raw).mapError .error).map fun text => (text, rest)

/-- A row of the static table that a line refers to. -/
def staticField (index : Nat) : Except Fault HeaderField :=
  if staticTable.length ≤ index then .error (.error .decompression)
  else
    match staticTable[index]? with
    | some field => .ok field
    | none => .error .panic

/-- An indexed field line of `Decode`. -/
def decodeIndexed (block : Bytes) : Except Fault (HeaderField × Bytes) :=
  (readInt block 6).bind fun (index, rest) =>
    (staticField index).map fun field => (field, rest)

/-- A literal field line of `Decode` with a name reference. -/
def decodeNamed
    (maxSize : Int)
    (block : Bytes) :
    Except Fault (HeaderField × Bytes) :=
  (readInt block 4).bind fun (index, rest) =>
    (staticField index).bind fun named =>
      (readString rest 7 maxSize).map fun (value, rest) =>
        (⟨named.name, value⟩, rest)

/-- A literal field line of `Decode` with a literal name. -/
def decodeLiteral
    (maxSize : Int)
    (block : Bytes) :
    Except Fault (HeaderField × Bytes) :=
  (readString block 3 maxSize).bind fun (name, rest) =>
    (readString rest 7 maxSize).map fun (value, rest) => (⟨name, value⟩, rest)

/-- One field line of `Decode`. -/
def decodeLine
    (maxSize : Int)
    (block : Bytes) :
    Except Fault (HeaderField × Bytes) :=
  (byteAt block 0).bind fun first =>
    if first &&& 0x80 ≠ 0 then
      if first &&& 0x40 = 0 then .error (.error .decompression)
      else decodeIndexed block
    else if first &&& 0xc0 = 0x40 then
      if first &&& 0x10 = 0 then .error (.error .decompression)
      else decodeNamed maxSize block
    else if first &&& 0xe0 = 0x20 then decodeLiteral maxSize block
    else .error (.error .decompression)

/-- Why decoding stops early: the section is wrong, or the callback refuses a
field. -/
inductive Failure (Refusal : Type) where
  | codec (fault : Fault)
  | refused (refusal : Refusal)
deriving DecidableEq

/-- What decoding a section leaves. -/
structure Decoding (State Refusal : Type) where
  state : State
  failure : Option (Failure Refusal)

section Decode

variable {State Refusal : Type}

/-- The loop of `Decode`.  The fuel bounds the lines. -/
def decodeLoop
    (emit : State -> HeaderField -> State × Option Refusal)
    (maxSize : Int) : Nat -> Nat -> State -> Bytes -> Decoding State Refusal
  | fuel, size, state, rest =>
    if rest.length = 0 then ⟨state, none⟩
    else
      match fuel with
      | 0 => ⟨state, some (.codec .unfinished)⟩
      | fuel + 1 =>
        match decodeLine maxSize rest with
        | .error fault => ⟨state, some (.codec fault)⟩
        | .ok (field, rest) =>
          if 0 < maxSize ∧ maxSize < (size + field.size : Nat) then
            ⟨state, some (.codec (.error .tooLarge))⟩
          else
            match emit state field with
            | (state, some refusal) => ⟨state, some (.refused refusal)⟩
            | (state, none) =>
              decodeLoop emit maxSize fuel (size + field.size) state
                rest

/-- `Decode`.  Every line takes a byte, so as much fuel as there are bytes is
enough. -/
def decode
    (emit : State -> HeaderField -> State × Option Refusal)
    (maxSize : Int)
    (state : State)
    (block : Bytes) :
    Decoding State Refusal :=
  match readInt block 8 with
  | .error fault => ⟨state, some (.codec fault)⟩
  | .ok (required, rest) =>
    if required ≠ 0 then ⟨state, some (.codec (.error .decompression))⟩
    else
      match readInt rest 7 with
      | .error fault => ⟨state, some (.codec fault)⟩
      | .ok (_, rest) => decodeLoop emit maxSize rest.length 0 state rest

end Decode

end Qpack
end Fib
