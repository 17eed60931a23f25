import Fib.Http2.Request
import Fib.Qpack.Sections

/-!
# Messages and their fields

HTTP/3 carries fields as HTTP/2 does: names in lower case, pseudo-headers
first, and no connection-specific fields.  Here are the requests, responses
and trailers that are built from fields, the checks on both sides, and the
fields that are sent for a header.
-/

namespace Fib
namespace Http3

open Http (Header canonicalHeaderKey parseInt)
open Http2 (Request Draft toLower addValue get declaredLength malformedLength)

/-- `qpack.HeaderField`. -/
abbrev HeaderField := Qpack.HeaderField

/-- The error codes of a closed connection or a reset stream. -/
inductive ErrorCode where
  | noError
  | generalProtocolError
  | internalError
  | streamCreationError
  | closedCriticalStream
  | frameUnexpected
  | frameError
  | excessiveLoad
  | idError
  | settingsError
  | missingSettings
  | requestRejected
  | requestCancelled
  | requestIncomplete
  | messageError
  | connectError
  | versionFallback
  | qpackDecompressionFailed
deriving DecidableEq, Repr

/-- `uint64(code)`. -/
def ErrorCode.number : ErrorCode -> Nat
  | noError => 0x100
  | generalProtocolError => 0x101
  | internalError => 0x102
  | streamCreationError => 0x103
  | closedCriticalStream => 0x104
  | frameUnexpected => 0x105
  | frameError => 0x106
  | excessiveLoad => 0x107
  | idError => 0x108
  | settingsError => 0x109
  | missingSettings => 0x10a
  | requestRejected => 0x10b
  | requestCancelled => 0x10c
  | requestIncomplete => 0x10d
  | messageError => 0x10e
  | connectError => 0x10f
  | versionFallback => 0x110
  | qpackDecompressionFailed => 0x200

/-! ## Checks -/

/-- `connectionHeaders`, which are those of HTTP/2. -/
def connectionHeaders : List Bytes :=
  Http2.connectionHeaders

/-- `validName`, which is the check of HTTP/2. -/
def validName (name : Bytes) : Bool :=
  Http2.validHeaderName name

/-- `validValue`, which is the check of HTTP/2. -/
def validValue (value : Bytes) : Bool :=
  Http2.validFieldValue value

/-- `sendableValue`, which is the check of HTTP/1. -/
def sendableValue (value : Bytes) : Bool :=
  Http.validHeaderValue value

/-- `strings.HasPrefix(name, ":")`. -/
def isPseudo (name : Bytes) : Bool :=
  name.head? == some 58

/-- `sensitive`. -/
def sensitive (name : Bytes) : Bool :=
  name ∈ [ascii "authorization", ascii "cookie", ascii "set-cookie",
    ascii "proxy-authorization"]

/-- `checkHeader` finds nothing wrong. -/
def checkHeader (header : Header) : Bool :=
  header.entries.all fun entry =>
    entry.1 != [] && canonicalHeaderKey entry.1 != [] &&
      validName (toLower entry.1) && entry.2.all sendableValue

/-- The names a trailer may not have. -/
def forbiddenTrailers : List Bytes :=
  [ascii "content-length", ascii "transfer-encoding", ascii "trailer",
    ascii "host", ascii "content-type", ascii "content-encoding",
    ascii "content-range", ascii "cache-control", ascii "expect",
    ascii "max-forwards", ascii "pragma", ascii "range", ascii "te",
    ascii "authorization", ascii "set-cookie"]

/-- `validTrailer`. -/
def validTrailer
    (name : Bytes)
    (values : List Bytes) : Bool :=
  !forbiddenTrailers.contains name && name != [] &&
    !connectionHeaders.contains name && validName name &&
    values.all sendableValue

/-! ## Fields that are sent -/

/-- A field, and whether it is never to be indexed. -/
abbrev OutField := HeaderField × Bool

/-- The fields `appendHeader` encodes. -/
def outFields
    (header : Header)
    (skip : Bytes -> Bool) : List OutField :=
  header.entries.flatMap fun entry =>
    let name := toLower entry.1
    if connectionHeaders.contains name || skip name then []
    else entry.2.map fun value => (⟨name, value⟩, sensitive name)

/-- A field section. -/
def fieldSection (fields : List OutField) : Bytes :=
  Qpack.sectionStart ++ Qpack.appendFields fields

/-! ## Messages that are received -/

/-- `decodeFields`.  A section of any bytes is decoded to an end, so that
nothing but an error stands in the way. -/
def decodeFields
    (block : Bytes)
    (maxSize : Int) :
    Except Qpack.Error (List HeaderField) :=
  match Qpack.decode Qpack.collect maxSize [] block with
  | ⟨fields, none⟩ => .ok fields
  | ⟨_, some (.codec (.error error))⟩ => .error error
  | ⟨_, some (.codec _)⟩ => .error .decompression

/-- A section that was written is decoded, if the limit has room for it. -/
theorem decodeFields_fieldSection
    {fields : List OutField}
    (fit : ∀ field ∈ fields, field.1.Fits)
    {maxSize : Nat}
    (room : Hpack.total (fields.map Prod.fst) ≤ maxSize) :
    decodeFields (fieldSection fields) maxSize = .ok (fields.map Prod.fst) := by
  have within : Qpack.Fits maxSize 0 (fields.map Prod.fst) := by
    intro _
    rw [Nat.zero_add]
    exact Int.ofNat_le.mpr room
  have none : Qpack.Fits maxSize 0 [] := by
    intro positive
    exact Int.le_of_lt positive
  obtain ⟨count, longest, looped⟩ :=
    Qpack.decodeLoop_appendFields fit none [] (Nat.le_refl _)
  have all : (fields.map Prod.fst).length ≤ count := by
    rw [← longest.2 _ (Nat.le_refl _), List.take_length]
    exact within
  rw [if_pos within, List.take_of_length_le all] at looped
  have decoded : Qpack.decode Qpack.collect maxSize [] (fieldSection fields) =
      ⟨fields.map Prod.fst, Option.none⟩ := looped
  rw [decodeFields, decoded]

/-- `newRequest`, which is that of HTTP/2 with another parser of request
targets; nothing stands for an error. -/
def newRequest
    (parseRequestURI : Bytes -> Bool)
    (fields : List HeaderField) :
    Option Request := do
  let draft <- fields.foldlM
    (fun draft field => Draft.add draft ⟨field.name, field.value⟩) {}
  let method := draft.method.getD []
  let scheme := draft.scheme.getD []
  let authority := draft.authority.getD []
  let path := draft.path.getD []
  let header := draft.joined
  let request : Request :=
    { method := method
      requestURI := path
      host := if authority = [] then get header (ascii "Host") else authority
      header := header.erase (ascii "Host")
      trailer := ∅ }
  if method = [] then none
  else if method = ascii "CONNECT" then
    if scheme ≠ [] ∨ path ≠ [] ∨ authority = [] then none
    else some { request with requestURI := authority }
  else if scheme = [] ∨ path = [] then none
  else if path ≠ ascii "*" ∧ !parseRequestURI path then none
  else some request

/-- `trailerFrom`; nothing stands for an error. -/
def trailerFrom (fields : List HeaderField) : Option Header :=
  fields.foldlM
    (fun trailer field =>
      if isPseudo field.name || !validName field.name ||
          !validValue field.value || connectionHeaders.contains field.name then
        none
      else some
        (addValue trailer (canonicalHeaderKey field.name) field.value))
    ∅

/-- What the client's caller sees of a response, apart from its body. -/
structure IncomingResponse where
  statusCode : Nat
  header : Header
  contentLength : Option Nat
  trailer : Header

/-- What `newResponse` finds wrong. -/
inductive ResponseError where
  | malformedPseudoHeader
  | invalidHeader (name : Bytes)
  | malformedStatus
  | switchingProtocols
  | malformedLength
deriving DecidableEq, Repr

/-- The status and the header so far, with one more field. -/
def addResponseField
    (read : Bytes × Header)
    (field : HeaderField) :
    Except ResponseError (Bytes × Header) :=
  let (status, header) := read
  if isPseudo field.name then
    if field.name ≠ ascii ":status" ∨ status ≠ [] ∨
        header.entries ≠ [] then
      .error .malformedPseudoHeader
    else .ok (field.value, header)
  else if !validName field.name ||
      connectionHeaders.contains field.name then
    .error (.invalidHeader field.name)
  else
    .ok (status, addValue header (canonicalHeaderKey field.name) field.value)

/-- `strconv.Atoi`. -/
def atoi (text : Bytes) : Option Int :=
  parseInt text

/-- `newResponse` once it has seen all fields. -/
def responseOf
    (status : Bytes)
    (header : Header) :
    Except ResponseError (Option IncomingResponse) :=
  match atoi status with
  | none => .error .malformedStatus
  | some code =>
    if status.length ≠ 3 ∨ code < 100 then .error .malformedStatus
    else if code < 200 then
      if code = 101 then .error .switchingProtocols else .ok none
    else if malformedLength header then .error .malformedLength
    else
      .ok (some
        { statusCode := code.toNat
          header := header
          contentLength := (declaredLength header).map Int.toNat
          trailer := ∅ })

/-- `newResponse`: an error, nothing for an interim response, or the
response. -/
def newResponse (fields : List HeaderField) :
    Except ResponseError (Option IncomingResponse) :=
  (fields.foldlM addResponseField ([], ∅)).bind fun read =>
    responseOf read.1 read.2

/-- `bodyAllowed`. -/
def bodyAllowed
    (method : Bytes)
    (status : Nat) : Bool :=
  method != ascii "HEAD" && status != 204 && status != 304 && 200 ≤ status

end Http3
end Fib
