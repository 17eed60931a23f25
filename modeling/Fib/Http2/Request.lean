import Fib.Http2.Frame
import Fib.Http.Response

/-!
# Requests and header fields of the HTTP/2 server

What the server takes from its surroundings (the HPACK codec, the parser of
request targets, the limits it was configured with), the requests it builds
from header fields, and the fields it sends for a header.
-/

namespace Fib
namespace Http2

open Http (Header canonicalHeaderKey validHeaderValue forbiddenTrailer)

/-- `hpack.HeaderField`. -/
structure HeaderField where
  name : Bytes
  value : Bytes
deriving DecidableEq, Repr

/-- A field to encode, and whether it is sensitive. -/
abbrev OutField := Bytes × Bytes × Bool

/-- `hpack.Encoder` and `hpack.Decoder`, each with its table, and the methods
the server calls. -/
structure Codec (Encoder Decoder : Type) where
  newEncoder : Encoder
  newDecoder : Decoder
  startBlock : Encoder -> Bytes × Encoder
  appendField : Encoder -> OutField -> Bytes × Encoder
  setMaxTableSize : Encoder -> Nat -> Encoder
  decode : Decoder -> Bytes -> Except String (List HeaderField) × Decoder

/-- The configuration of the server's handler, the codec, and the URL
parsers: `url.ParseRequestURI` succeeds, and the scheme, the host and the
request URI that `url.Parse` finds. -/
structure Server (Encoder Decoder : Type) extends
    Codec Encoder Decoder where
  maxBodyBytes : Nat
  maxHeaderBytes : Nat
  maxStreams : Nat
  tls : Bool
  parseRequestURI : Bytes -> Bool
  parse : Bytes -> Option (Bytes × Bytes × Bytes)

namespace Codec

variable {Encoder Decoder : Type}

/-- `Encoder.AppendField` for each field in turn. -/
def appendFields (codec : Codec Encoder Decoder) :
    Encoder -> List OutField -> Bytes × Encoder
  | encoder, [] => ([], encoder)
  | encoder, field :: rest =>
    let (bytes, encoder) := codec.appendField encoder field
    let (more, encoder) := appendFields codec encoder rest
    (bytes ++ more, encoder)

/-- A header block of the given fields. -/
def encode
    (codec : Codec Encoder Decoder)
    (encoder : Encoder)
    (fields : List OutField) : Bytes × Encoder :=
  let (bytes, encoder) := codec.startBlock encoder
  let (more, encoder) := codec.appendFields encoder fields
  (bytes ++ more, encoder)

end Codec

/-! ## Fields -/

/-- The letters of a text in lower case, at most as many as the fuel. -/
def lowerLetters : Nat -> Bytes -> Bytes
  | 0, text => text
  | _, [] => []
  | fuel + 1, first :: rest =>
    if first = 0xE2 ∧ rest.take 2 = [0x84, 0xAA] then
      107 :: lowerLetters fuel (rest.drop 2)
    else if first = 0xC4 ∧ rest.take 1 = [0xB0] then
      105 :: lowerLetters fuel (rest.drop 1)
    else if 65 ≤ first ∧ first ≤ 90 then
      (first + 32) :: lowerLetters fuel rest
    else
      first :: lowerLetters fuel rest

/-- `strings.ToLower`, as far as it can lead to an ASCII letter: besides the
ASCII capitals only the Kelvin sign and the dotted capital I do. -/
def toLower (text : Bytes) : Bytes :=
  lowerLetters text.length text

/-- `h2ConnectionHeaders`. -/
def connectionHeaders : List Bytes :=
  [ascii "connection", ascii "keep-alive", ascii "proxy-connection",
    ascii "transfer-encoding", ascii "upgrade"]

/-- `h2PushForbiddenHeaders`. -/
def pushForbiddenHeaders : List Bytes :=
  [ascii "content-length", ascii "content-encoding", ascii "trailer",
    ascii "te", ascii "expect", ascii "host"] ++ connectionHeaders

/-- `h2ValidHeaderName`. -/
def validHeaderName (name : Bytes) : Bool :=
  name != [] &&
    (name.all fun byte => !(65 ≤ byte && byte ≤ 90) && 32 < byte &&
      byte < 0x7f) &&
    name.tail.all (· != 58)

/-- `h2ValidHeaderValue`. -/
def validFieldValue (value : Bytes) : Bool :=
  (value.all fun byte => byte != 0 && byte != 13 && byte != 10) &&
    value.head?.all (fun byte => byte != 32 && byte != 9) &&
    value.getLast?.all (fun byte => byte != 32 && byte != 9)

/-- `h2CheckHeader` finds nothing wrong. -/
def checkHeader (header : Header) : Bool :=
  header.entries.all fun entry =>
    entry.1 != [] && canonicalHeaderKey entry.1 != [] &&
      validHeaderName (toLower entry.1) && entry.2.all validHeaderValue

/-- The fields `appendHeaderLocked` encodes. -/
def outFields (header : Header) : List OutField :=
  header.entries.flatMap fun entry =>
    let name := toLower entry.1
    if name ∈ connectionHeaders ∨ name = ascii "content-length" then []
    else entry.2.map fun value =>
      (name, value, name == ascii "set-cookie" ||
        name == ascii "authorization")

/-- `h2Trailer`. -/
def sendableTrailer (trailer : Header) : Option Header :=
  let kept : Header := trailer.entries.foldl
    (fun kept entry =>
      if forbiddenTrailer entry.1 ||
          !checkHeader (AList.insert entry.1 entry.2 ∅) then kept
      else kept.insert entry.1 entry.2)
    ∅
  if kept.entries.isEmpty then none else some kept

/-- `Header.Get` of a canonical name. -/
def get
    (header : Header)
    (key : Bytes) : Bytes :=
  (header.values key).headD []

/-- `header[key] = append(header[key], value)`. -/
def addValue
    (header : Header)
    (key value : Bytes) : Header :=
  header.insert key (header.values key ++ [value])

/-! ## Requests -/

/-- What the handler sees of a request, apart from its body. -/
structure Request where
  method : Bytes
  requestURI : Bytes
  host : Bytes
  header : Header
  trailer : Header

/-- `newRequest` part of the way through the fields; a missing text is a
pseudo-header not seen. -/
structure Draft where
  method : Option Bytes := none
  scheme : Option Bytes := none
  authority : Option Bytes := none
  path : Option Bytes := none
  header : Header := ∅
  cookies : List Bytes := []
  regular : Bool := false

namespace Draft

/-- A pseudo-header, which comes before the other fields and once. -/
def addPseudo
    (draft : Draft)
    (field : HeaderField) : Option Draft :=
  if draft.regular then none
  else if field.name = ascii ":method" then
    if draft.method.isSome then none
    else some { draft with method := some field.value }
  else if field.name = ascii ":scheme" then
    if draft.scheme.isSome then none
    else some { draft with scheme := some field.value }
  else if field.name = ascii ":authority" then
    if draft.authority.isSome then none
    else some { draft with authority := some field.value }
  else if field.name = ascii ":path" then
    if draft.path.isSome then none
    else some { draft with path := some field.value }
  else none

/-- Any other field. -/
def addRegular
    (draft : Draft)
    (field : HeaderField) : Option Draft :=
  if !validHeaderName field.name || !validFieldValue field.value ||
      connectionHeaders.contains field.name then none
  else if field.name = ascii "te" ∧ field.value ≠ ascii "trailers" then none
  else if field.name = ascii "cookie" then
    some { draft with
      regular := true, cookies := draft.cookies ++ [field.value] }
  else
    some { draft with
      regular := true,
      header :=
        addValue draft.header (canonicalHeaderKey field.name) field.value }

def add
    (draft : Draft)
    (field : HeaderField) : Option Draft :=
  if field.name.head? = some 58 then draft.addPseudo field
  else draft.addRegular field

/-- The header with its cookies in one field. -/
def joined (draft : Draft) : Header :=
  if draft.cookies = [] then draft.header
  else draft.header.insert (ascii "Cookie")
    [(ascii "; ").intercalate draft.cookies]

end Draft

/-- `newRequest`; nothing stands for an error. -/
def newRequest
    {Encoder Decoder : Type}
    (server : Server Encoder Decoder)
    (fields : List HeaderField) : Option Request := do
  let draft <- fields.foldlM Draft.add {}
  let method := draft.method.getD []
  let scheme := draft.scheme.getD []
  let authority := draft.authority.getD []
  let path := draft.path.getD []
  let header := draft.joined
  let request : Request :=
    { method := method
      requestURI := path
      host := if authority = [] then get header (ascii "Host") else authority
      header := header.erase (ascii "Host")
      trailer := ∅ }
  if method = [] then none
  else if method = ascii "CONNECT" then
    if scheme ≠ [] ∨ path ≠ [] ∨ authority = [] then none
    else some { request with requestURI := authority }
  else if scheme = [] ∨ path = [] then none
  else if path ≠ ascii "*" ∧ !server.parseRequestURI path then none
  else some request

/-- The number in the Content-Length of a request, if it has one. -/
def declaredLength (header : Header) : Option Int :=
  let length := get header (ascii "Content-Length")
  if length = [] then none else Http.parseInt length

/-- The Content-Length of a request is no length. -/
def malformedLength (header : Header) : Bool :=
  get header (ascii "Content-Length") != [] &&
    (declaredLength header).all (· < 0)

/-- The fields of a block that fit the header limit, and whether some did
not. -/
def collect (limit : Nat) : Nat -> List HeaderField -> List HeaderField × Bool
  | _, [] => ([], false)
  | listSize, field :: rest =>
    let listSize := listSize + field.name.length + field.value.length + 32
    if limit < listSize then ([], true)
    else
      let (fields, tooLarge) := collect limit listSize rest
      (field :: fields, tooLarge)

/-- The trailer `handleTrailers` builds; nothing stands for a malformed
one. -/
def newTrailer (fields : List HeaderField) : Option Header :=
  fields.foldlM
    (fun trailer field =>
      if field.name.head? = some 58 ∨ !validHeaderName field.name ∨
          !validFieldValue field.value then none
      else some
        (addValue trailer (canonicalHeaderKey field.name) field.value))
    ∅

/-! ## Literal fields -/

/-- A string of fewer than 127 bytes without Huffman coding. -/
def literalString (text : Bytes) : Bytes :=
  text.length.toUInt8 :: text

/-- Read a string that `literalString` wrote. -/
def readString : Bytes -> Option (Bytes × Bytes)
  | [] => none
  | length :: rest =>
    if length.toNat < 127 ∧ length.toNat ≤ rest.length then
      some (rest.take length.toNat, rest.drop length.toNat)
    else none

/-- Read literal fields, at most as many as the fuel. -/
def readLiterals : Nat -> Bytes -> Except String (List HeaderField)
  | _, [] => .ok []
  | fuel + 1, 0 :: rest =>
    match readString rest with
    | none => .error "hpack: truncated field"
    | some (name, rest) =>
      match readString rest with
      | none => .error "hpack: truncated field"
      | some (value, rest) =>
        (readLiterals fuel rest).map (⟨name, value⟩ :: ·)
  | _, _ => .error "hpack: not a literal field"

/-- The HPACK codec of a peer that sends every field as a literal without
indexing and with a new name, and so never changes a table. -/
def literals : Codec Unit Unit where
  newEncoder := ()
  newDecoder := ()
  startBlock _ := ([], ())
  appendField _ field :=
    (0 :: literalString field.1 ++ literalString field.2.1, ())
  setMaxTableSize _ _ := ()
  decode _ block := (readLiterals block.length block, ())

/-- The header block of the given fields in literals. -/
def literalBlock (fields : List (String × String)) : Bytes :=
  fields.flatMap fun field =>
    0 :: literalString (ascii field.1) ++ literalString (ascii field.2)

end Http2
end Fib
