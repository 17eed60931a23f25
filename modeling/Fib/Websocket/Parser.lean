import Fib.Library.Bytes
import Mathlib.Tactic.Common

/-!
# The frame parser

`Parser` turns the bytes of one side of a WebSocket connection into messages
and control frames.  It reassembles fragments, checks text as it arrives and
inflates compressed messages; what DEFLATE makes of bytes is a parameter.
`FeedOneBorrowed` parses in the caller's read buffer: what stands behind the
current frame is set aside, a payload is unmasked in place, and the frame is
dropped with the next call.  Which arrays are kept for reuse is not modelled.
-/

namespace Fib
namespace Websocket

/-- `Opcode`, without the values no frame may have. -/
inductive Opcode where
  | continuation
  | text
  | binary
  | close
  | ping
  | pong
deriving DecidableEq, Repr

namespace Opcode

/-- The opcode of a frame's first byte. -/
def decode (first : UInt8) : Option Opcode :=
  match (first &&& 0x0f).toNat with
  | 0 => some continuation
  | 1 => some text
  | 2 => some binary
  | 8 => some close
  | 9 => some ping
  | 10 => some pong
  | _ => none

def encode : Opcode -> UInt8
  | continuation => 0
  | text => 1
  | binary => 2
  | close => 8
  | ping => 9
  | pong => 10

/-- Control frames are those from 8 on. -/
def control : Opcode -> Bool
  | close | ping | pong => true
  | continuation | text | binary => false

/-- Data frames that begin a message. -/
def data : Opcode -> Bool
  | text | binary => true
  | _ => false

end Opcode

/-- `ErrProtocol`, `ErrMessageTooBig` and `ErrInvalidPayload`. -/
inductive FrameError where
  | protocol
  | messageTooBig
  | invalidPayload
deriving DecidableEq, Repr

/-- `err.Error()`. -/
def FrameError.message : FrameError -> Bytes
  | protocol => ascii "websocket: protocol error"
  | messageTooBig => ascii "websocket: message too large"
  | invalidPayload => ascii "websocket: invalid payload"

/-- `Event`. -/
structure Event where
  opcode : Opcode
  payload : Bytes
deriving DecidableEq, Repr

/-! ## Text -/

/-- `utf8Validator`: the continuation bytes the current sequence still needs,
and the bounds of the next one. -/
structure Utf8Validator where
  need : Nat := 0
  lo : UInt8 := 0
  hi : UInt8 := 0
deriving DecidableEq, Repr

namespace Utf8Validator

/-- `step`. -/
def step
    (validator : Utf8Validator)
    (byte : UInt8) : Option Utf8Validator :=
  if validator.need ≠ 0 then
    if byte < validator.lo ∨ validator.hi < byte then none
    else some ⟨validator.need - 1, 0x80, 0xbf⟩
  else if byte < 0x80 then some ⟨0, 0x80, 0xbf⟩
  else if 0xc2 ≤ byte ∧ byte ≤ 0xdf then some ⟨1, 0x80, 0xbf⟩
  else if byte = 0xe0 then some ⟨2, 0xa0, 0xbf⟩
  else if byte = 0xed then some ⟨2, 0x80, 0x9f⟩
  else if 0xe1 ≤ byte ∧ byte ≤ 0xef then some ⟨2, 0x80, 0xbf⟩
  else if byte = 0xf0 then some ⟨3, 0x90, 0xbf⟩
  else if 0xf1 ≤ byte ∧ byte ≤ 0xf3 then some ⟨3, 0x80, 0xbf⟩
  else if byte = 0xf4 then some ⟨3, 0x80, 0x8f⟩
  else none

/-- `complete`. -/
def complete (validator : Utf8Validator) : Bool :=
  validator.need == 0

end Utf8Validator

/-- The byte is a continuation byte within the bounds. -/
def continues (lo hi byte : UInt8) : Bool :=
  lo ≤ byte && byte ≤ hi

/-- `utf8.Valid`: neither overlong forms nor surrogates, and nothing above the
last code point. -/
def validUtf8 : Bytes -> Bool
  | [] => true
  | first :: rest =>
    if first < 0x80 then validUtf8 rest
    else
      match rest with
      | [] => false
      | second :: rest =>
        if 0xc2 ≤ first ∧ first ≤ 0xdf then
          continues 0x80 0xbf second && validUtf8 rest
        else
          match rest with
          | [] => false
          | third :: rest =>
            if 0xe0 ≤ first ∧ first ≤ 0xef then
              continues (if first = 0xe0 then 0xa0 else 0x80)
                  (if first = 0xed then 0x9f else 0xbf) second &&
                continues 0x80 0xbf third && validUtf8 rest
            else
              match rest with
              | [] => false
              | fourth :: rest =>
                decide (0xf0 ≤ first ∧ first ≤ 0xf4) &&
                  continues (if first = 0xf0 then 0x90 else 0x80)
                    (if first = 0xf4 then 0x8f else 0xbf) second &&
                  continues 0x80 0xbf third &&
                  continues 0x80 0xbf fourth && validUtf8 rest

namespace Utf8Validator

/-- Finish the sequence that is under way; what is left is not part of it. -/
def finishSequence : Utf8Validator -> Bytes -> Option (Utf8Validator × Bytes)
  | validator, [] => some (validator, [])
  | validator, byte :: rest =>
    if validator.need = 0 then some (validator, byte :: rest)
    else (validator.step byte).bind fun next => next.finishSequence rest

/-- Where a sequence cut off by the end of the bytes begins: at the last of the
three last bytes that is not a continuation byte, if it begins one. -/
def cutOff (bytes : Bytes) : Nat :=
  match (bytes.reverse.take 3).findIdx? fun byte => byte &&& 0xc0 != 0x80 with
  | none => bytes.length
  | some back =>
    if 0xc0 ≤ bytes.reverse.getD back 0 then bytes.length - 1 - back
    else bytes.length

/-- `write`. -/
def write
    (validator : Utf8Validator)
    (bytes : Bytes) : Option Utf8Validator :=
  match validator.finishSequence bytes with
  | none => none
  | some (validator, rest) =>
    if validator.need ≠ 0 then some validator
    else
      let tail := cutOff rest
      if !validUtf8 (rest.take tail) then none
      else (rest.drop tail).foldlM step validator

/-- Write the bytes in pieces of 512, as they are unmasked.  Every piece takes
a byte, so as much fuel as there are bytes is enough. -/
def writePieces (validator : Utf8Validator) :
    Nat -> Bytes -> Option Utf8Validator
  | 0, _ => some validator
  | fuel + 1, bytes =>
    if bytes = [] then some validator
    else
      (validator.write (bytes.take 512)).bind fun next =>
        next.writePieces fuel (bytes.drop 512)

end Utf8Validator

/-! ## Frames -/

/-- `fragmentedMessage`. -/
structure FragmentedMessage where
  opcode : Opcode
  compressed : Bool
  data : Bytes
deriving DecidableEq, Repr

/-- What a parser is set up with: the largest message, the side whose frames it
reads, and how messages may be compressed. -/
structure ParserConfig where
  maxMessageBytes : Nat
  fromServer : Bool := false
  deflate : Bool := false
  contextTakeover : Bool := false
  limit_lt : maxMessageBytes < 2 ^ 63

/-- What `compress/flate` makes of compressed bytes and a dictionary: the bytes
it yields, and whether it then reports the end of the message. -/
structure Flate where
  inflate : (dictionary compressed : Bytes) -> Bytes × Bool

/-- `maxWindowSize`. -/
def maxWindowSize : Nat := 2 ^ 15

/-- `keepWindow`. -/
def keepWindow (window message : Bytes) : Bytes :=
  if maxWindowSize ≤ message.length then
    message.drop (message.length - maxWindowSize)
  else
    window.drop (window.length + message.length - maxWindowSize) ++ message

/-- `decompressMessage`. -/
def decompressMessage
    (flate : Flate)
    (compressed dictionary : Bytes)
    (limit : Nat) : Except FrameError Bytes :=
  let (message, ended) := flate.inflate dictionary compressed
  if limit < message.length then .error .messageTooBig
  else if ended then .ok message
  else .error .invalidPayload

/-- `applyMask`. -/
def applyMask (mask payload : Bytes) : Bytes :=
  payload.zipIdx.map fun (byte, index) => byte ^^^ mask.getD (index % 4) 0

/-- A number in big-endian bytes. -/
def bigEndian (bytes : Bytes) : Nat :=
  bytes.foldl (fun number byte => number * 256 + byte.toNat) 0

/-- `validCloseCode`. -/
def validCloseCode (code : Nat) : Bool :=
  if 1000 ≤ code && code ≤ 1014 then
    code != 1004 && code != 1005 && code != 1006
  else 3000 ≤ code && code ≤ 4999

/-- `frameHeaderSize`. -/
def frameHeaderSize (data : Bytes) : Nat :=
  match data with
  | _ :: second :: _ =>
    let size := if second &&& 0x80 ≠ 0 then 6 else 2
    match (second &&& 0x7f).toNat with
    | 126 => size + 2
    | 127 => size + 8
    | _ => size
  | _ => 2

/-- `frameSize`. -/
def frameSize (data : Bytes) : Option Nat :=
  let headerSize := frameHeaderSize data
  if data.length < headerSize then none
  else
    let short := (data.getD 1 0 &&& 0x7f).toNat
    let payloadLen :=
      if short = 126 then bigEndian ((data.drop 2).take 2)
      else if short = 127 then bigEndian ((data.drop 2).take 8)
      else short
    if 2 ^ 63 - 1 - headerSize < payloadLen then none
    else some (headerSize + payloadLen)

/-- `appendCurrentFrame`: the bytes that belong to the frame at the head of the
buffer, and those behind it.  A turn that goes on completes a frame header, so
three turns are enough. -/
def appendCurrentFrame : Nat -> Bytes -> Bytes -> Bytes × Bytes
  | 0, buffer, data => (buffer ++ data, [])
  | fuel + 1, buffer, data =>
    match frameSize buffer with
    | some frameEnd =>
      if frameEnd ≤ buffer.length ∨
          data.length ≤ frameEnd - buffer.length then
        (buffer ++ data, [])
      else
        (buffer ++ data.take (frameEnd - buffer.length),
          data.drop (frameEnd - buffer.length))
    | none =>
      let need := frameHeaderSize buffer - buffer.length
      if need = 0 ∨ data.length ≤ need then (buffer ++ data, [])
      else
        appendCurrentFrame fuel (buffer ++ data.take need)
          (data.drop need)

/-- `Parser`. -/
structure Parser where
  buffer : Bytes := []
  borrowedTail : Bytes := []
  borrowedBuffer : Bool := false
  fragment : Option FragmentedMessage := none
  text : Utf8Validator := {}
  textChecked : Nat := 0
  pendingConsume : Nat := 0
  window : Bytes := []
deriving DecidableEq

/-- What the parser makes of the frame at the head of its buffer: it waits for
more, takes in a fragment, or has an event. -/
inductive Parsed where
  | incomplete
  | absorbed
  | emitted (event : Event)
deriving DecidableEq

namespace Parser

/-- `consume`. -/
def consume
    (parser : Parser)
    (count : Nat) : Parser :=
  if count = parser.buffer.length then
    { parser with buffer := [], borrowedBuffer := false }
  else { parser with buffer := parser.buffer.drop count }

/-- `finishFrame`. -/
def finishFrame
    (parser : Parser)
    (frameEnd : Nat)
    (borrowed : Bool) :
    Parser :=
  if borrowed then { parser with pendingConsume := frameEnd }
  else parser.consume frameEnd

/-- `inflate`. -/
def inflate
    (config : ParserConfig)
    (flate : Flate)
    (parser : Parser)
    (compressed : Bytes) : Except FrameError (Parser × Bytes) :=
  let dictionary := if config.contextTakeover then parser.window else []
  match decompressMessage flate compressed dictionary
      config.maxMessageBytes with
  | .error error => .error error
  | .ok message =>
    .ok ({ parser with
      window :=
        if config.contextTakeover then keepWindow parser.window message
        else parser.window }, message)

/-- `checkPartialText`. -/
def checkPartialText
    (parser : Parser)
    (available : Bytes)
    (mask : Option Bytes) : Option Parser :=
  if available.length ≤ parser.textChecked then some parser
  else
    let text :=
      match mask with
      | none => parser.text.write (available.drop parser.textChecked)
      | some mask =>
        parser.text.writePieces available.length
          ((applyMask mask available).drop parser.textChecked)
    text.map fun text =>
      { parser with text := text, textChecked := available.length }

/-- The head of a frame. -/
structure FrameHead where
  fin : Bool
  opcode : Opcode
  compressed : Bool
  mask : Option Bytes
  offset : Nat
  payloadLen : Nat

/-- The checks of a frame's first two bytes. -/
def checkFirst
    (config : ParserConfig)
    (parser : Parser)
    (first second : UInt8) : Except FrameError Opcode :=
  let fin := first &&& 0x80 != 0
  let compressed := first &&& 0x40 != 0
  let masked := second &&& 0x80 != 0
  match Opcode.decode first with
  | none => .error .protocol
  | some opcode =>
    if first &&& 0x30 != 0 || masked == config.fromServer ||
        (compressed && (!config.deflate || !opcode.data)) then
      .error .protocol
    else if opcode.control && (!fin || 125 < second &&& 0x7f) then
      .error .protocol
    else if opcode == .continuation && parser.fragment.isNone then
      .error .protocol
    else if opcode.data && parser.fragment.isSome then .error .protocol
    else .ok opcode

/-- The length of a frame's payload, and where it is written out; no result
while it has not arrived. -/
def payloadLength
    (buffer : Bytes)
    (second : UInt8) :
    Except FrameError (Option (Nat × Nat)) :=
  match (second &&& 0x7f).toNat with
  | 126 =>
    if buffer.length < 4 then .ok none
    else
      let length := bigEndian ((buffer.drop 2).take 2)
      if length < 126 then .error .protocol else .ok (some (length, 4))
  | 127 =>
    if buffer.length < 10 then .ok none
    else
      let length := bigEndian ((buffer.drop 2).take 8)
      if length < 65536 ∨ 2 ^ 63 ≤ length then .error .protocol
      else .ok (some (length, 10))
  | short => .ok (some (short, 2))

/-- The head of the frame at the start of the buffer, as `next` checks it. -/
def frameHead
    (config : ParserConfig)
    (parser : Parser) :
    Except FrameError (Option FrameHead) :=
  match parser.buffer with
  | first :: second :: _ =>
    match checkFirst config parser first second with
    | .error error => .error error
    | .ok opcode =>
      match payloadLength parser.buffer second with
      | .error error => .error error
      | .ok none => .ok none
      | .ok (some (length, offset)) =>
        let current := (parser.fragment.map (·.data.length)).getD 0
        if opcode.control && decide (125 < length) then
          .error .protocol
        else if !opcode.control &&
            decide (config.maxMessageBytes < length ∨
              config.maxMessageBytes - length < current) then
          .error .messageTooBig
        else if second &&& 0x80 = 0 then
          .ok (some ⟨first &&& 0x80 != 0, opcode,
            first &&& 0x40 != 0, none, offset, length⟩)
        else if parser.buffer.length < offset + 4 then .ok none
        else
          .ok (some ⟨first &&& 0x80 != 0, opcode, first &&& 0x40 != 0,
            some ((parser.buffer.drop offset).take 4), offset + 4,
            length⟩)
  | _ => .ok none

/-- The frame's payload is text that is checked as it arrives. -/
def FrameHead.isText
    (head : FrameHead)
    (parser : Parser) : Bool :=
  (head.opcode == .text && !head.compressed) ||
    (head.opcode == .continuation && parser.fragment.any fun fragment =>
      fragment.opcode == .text && !fragment.compressed)

/-- A control frame that is complete. -/
def takeControl
    (parser : Parser)
    (head : FrameHead)
    (payload : Bytes)
    (borrowed : Bool) : Except FrameError (Parser × Parsed) :=
  if head.opcode == .close && (payload.length == 1 ||
      (decide (2 ≤ payload.length) &&
        !validCloseCode (bigEndian (payload.take 2)))) then
    .error .protocol
  else if head.opcode == .close && decide (2 < payload.length) &&
      !validUtf8 (payload.drop 2) then
    .error .invalidPayload
  else
    .ok (parser.finishFrame (head.offset + head.payloadLen) borrowed,
      .emitted ⟨head.opcode, payload⟩)

/-- A frame that begins a message, and is complete. -/
def takeData
    (config : ParserConfig)
    (flate : Flate)
    (parser : Parser)
    (head : FrameHead)
    (payload : Bytes)
    (checked : Nat)
    (borrowed : Bool) :
    Except FrameError (Parser × Parsed) :=
  let frameEnd := head.offset + head.payloadLen
  if head.fin && head.compressed then
    match parser.inflate config flate payload with
    | .error error => .error error
    | .ok (parser, message) =>
      if head.opcode == .text && !validUtf8 message then
        .error .invalidPayload
      else
        .ok (parser.finishFrame frameEnd borrowed,
          .emitted ⟨head.opcode, message⟩)
  else if head.fin then
    if head.isText parser then
      let valid :=
        if checked = 0 then validUtf8 payload
        else (parser.text.write (payload.drop checked)).any (·.complete)
      if !valid then .error .invalidPayload
      else
        .ok ({ parser with text := {} }.finishFrame frameEnd borrowed,
          .emitted ⟨head.opcode, payload⟩)
    else
      .ok (parser.finishFrame frameEnd borrowed,
        .emitted ⟨head.opcode, payload⟩)
  else
    let text :=
      if head.isText parser then parser.text.write (payload.drop checked)
      else some parser.text
    match text with
    | none => .error .invalidPayload
    | some text =>
      .ok ({ parser with
        text := text
        fragment := some ⟨head.opcode, head.compressed, payload⟩
        }.consume frameEnd, .absorbed)

/-- A continuation of a fragmented message, and complete. -/
def takeContinuation
    (config : ParserConfig)
    (flate : Flate)
    (parser : Parser)
    (head : FrameHead)
    (fragment : FragmentedMessage)
    (payload : Bytes)
    (checked : Nat) : Except FrameError (Parser × Parsed) :=
  let text :=
    if head.isText parser then parser.text.write (payload.drop checked)
    else some parser.text
  match text with
  | none => .error .invalidPayload
  | some text =>
    if head.isText parser && head.fin && !text.complete then
      .error .invalidPayload
    else
      let fragment := { fragment with data := fragment.data ++ payload }
      let parser := { parser with
        text := text
        fragment := some fragment }.consume (head.offset + head.payloadLen)
      if !head.fin then .ok (parser, .absorbed)
      else if fragment.compressed then
        match parser.inflate config flate fragment.data with
        | .error error => .error error
        | .ok (parser, message) =>
          if fragment.opcode == .text && !validUtf8 message then
            .error .invalidPayload
          else
            .ok ({ parser with text := {}, fragment := none },
              .emitted ⟨fragment.opcode, message⟩)
      else
        .ok ({ parser with text := {}, fragment := none },
          .emitted ⟨fragment.opcode, fragment.data⟩)

/-- `next`. -/
def next
    (config : ParserConfig)
    (flate : Flate)
    (borrowed : Bool)
    (parser : Parser) : Except FrameError (Parser × Parsed) :=
  match parser.frameHead config with
  | .error error => .error error
  | .ok none => .ok (parser, .incomplete)
  | .ok (some head) =>
    let frameEnd := head.offset + head.payloadLen
    if parser.buffer.length - head.offset < head.payloadLen then
      if head.isText parser then
        match parser.checkPartialText (parser.buffer.drop head.offset)
            head.mask with
        | none => .error .invalidPayload
        | some parser => .ok (parser, .incomplete)
      else .ok (parser, .incomplete)
    else
      let raw := (parser.buffer.drop head.offset).take head.payloadLen
      let payload :=
        match head.mask with
        | none => raw
        | some mask => applyMask mask raw
      let checked := parser.textChecked
      -- A borrowed payload is unmasked where it stands.
      let parser := { parser with
        textChecked := 0
        buffer :=
          if borrowed then
            parser.buffer.take head.offset ++ payload ++
              parser.buffer.drop frameEnd
          else parser.buffer }
      if head.opcode.control then parser.takeControl head payload borrowed
      else
        match head.opcode, parser.fragment with
        | .continuation, some fragment =>
          parser.takeContinuation config flate head fragment payload
            checked
        | _, _ =>
          parser.takeData config flate head payload checked borrowed

/-- Take up the bytes set aside behind the current frame. -/
def takeTail (parser : Parser) : Parser :=
  if parser.buffer = [] ∧ parser.borrowedTail ≠ [] then
    { parser with
      buffer := parser.borrowedTail
      borrowedTail := []
      borrowedBuffer := true }
  else parser

/-- What `feedOne` does with its bytes before it parses. -/
def accept
    (parser : Parser)
    (data : Bytes)
    (borrowed : Bool) : Parser :=
  let parser :=
    if parser.pendingConsume ≠ 0 then
      { parser.consume parser.pendingConsume with pendingConsume := 0 }
    else parser
  let parser := parser.takeTail
  if borrowed ∧ parser.buffer = [] ∧ data ≠ [] then
    { parser with buffer := data, borrowedBuffer := true }
  else if borrowed ∧ parser.borrowedBuffer = false ∧ parser.buffer ≠ [] ∧
      data ≠ [] then
    let (buffer, tail) := appendCurrentFrame 3 parser.buffer data
    { parser with buffer := buffer, borrowedTail := tail }
  else { parser with buffer := parser.buffer ++ data }

/-- The parser after an error. -/
def failed (parser : Parser) : Parser :=
  { pendingConsume := parser.pendingConsume }

/-- The loop of `feedOne`.  Every turn takes a frame of at least two bytes or
the bytes set aside, so twice as much fuel as there are bytes is enough. -/
def feedLoop
    (config : ParserConfig)
    (flate : Flate)
    (borrowed : Bool) :
    Nat -> Parser -> Parser × Except FrameError (Option Event)
  | 0, parser => (parser, .ok none)
  | fuel + 1, parser =>
    match parser.next config flate borrowed with
    | .error error => (parser.failed, .error error)
    | .ok (parser, .emitted event) => (parser, .ok (some event))
    | .ok (parser, .absorbed) => feedLoop config flate borrowed fuel parser
    | .ok (parser, .incomplete) =>
      if parser.buffer = [] ∧ parser.borrowedTail ≠ [] then
        feedLoop config flate borrowed fuel parser.takeTail
      else
        -- What is left of the caller's buffer is copied.
        ({ parser with
          borrowedBuffer :=
            parser.borrowedBuffer && decide (parser.buffer = []) },
          .ok none)

/-- `feedOne`. -/
def feedOne
    (config : ParserConfig)
    (flate : Flate)
    (parser : Parser)
    (data : Bytes)
    (borrowed : Bool) :
    Parser × Except FrameError (Option Event) :=
  let parser := parser.accept data borrowed
  feedLoop config flate borrowed
    (2 * (parser.buffer.length + parser.borrowedTail.length) + 2) parser

/-- `ReleaseBorrowed`. -/
def releaseBorrowed (parser : Parser) : Parser :=
  let parser :=
    if parser.pendingConsume ≠ 0 then
      { parser.consume parser.pendingConsume with pendingConsume := 0 }
    else parser
  { parser with
    borrowedTail := []
    borrowedBuffer := false
    buffer := if parser.borrowedBuffer then [] else parser.buffer }

/-! ## Reset -/

/-- `maxRetainedFrameBuffer`. -/
def maxRetainedFrameBuffer : Nat := 64 * 1024

/-- `Reset`.  A fragmented message stays, emptied, unless the capacity of its
array is too large to be kept. -/
def reset
    (parser : Parser)
    (capacity : Nat) : Parser where
  fragment :=
    if maxRetainedFrameBuffer < capacity then none
    else
      parser.fragment.map fun fragment =>
        { fragment with opcode := .continuation, data := [] }

/-- A call of the parser. -/
inductive Call where
  | feedOne (data : Bytes) (borrowed : Bool)
  | releaseBorrowed

/-- The parser after a sequence of calls, and what they return. -/
def calls
    (config : ParserConfig)
    (flate : Flate)
    (parser : Parser) :
    List Call -> Parser × List (Except FrameError (Option Event))
  | [] => (parser, [])
  | .feedOne data borrowed :: rest =>
    let (fed, result) := parser.feedOne config flate data borrowed
    let (last, results) := fed.calls config flate rest
    (last, result :: results)
  | .releaseBorrowed :: rest => parser.releaseBorrowed.calls config flate rest

/-- A whole binary message without a payload. -/
def emptyMessage (config : ParserConfig) : Bytes :=
  if config.fromServer then [0x82, 0x00] else [0x82, 0x80, 0, 0, 0, 0]

/-- A message may begin unless one is under way. -/
theorem checkFirst_emptyMessage
    (config : ParserConfig)
    (parser : Parser) :
    checkFirst config parser 0x82 (if config.fromServer then 0x00 else 0x80) =
      if parser.fragment.isSome then .error .protocol else .ok .binary := by
  have decoded : Opcode.decode 0x82 = some .binary := rfl
  unfold checkFirst
  rw [decoded]
  cases config.fromServer <;> cases parser.fragment <;> rfl

theorem next_emptyMessage
    (config : ParserConfig)
    (flate : Flate) :
    next config flate false { buffer := emptyMessage config } =
      .ok ({}, .emitted ⟨.binary, []⟩) := by
  have accepted := checkFirst_emptyMessage config { buffer := emptyMessage config }
  have fin : (0x82 : UInt8) &&& 0x80 = 0x80 := rfl
  have plain : (0x82 : UInt8) &&& 0x40 = 0 := rfl
  unfold emptyMessage at *
  cases direction : config.fromServer <;>
    simp only [direction, Bool.false_eq_true, if_true, if_false, Option.isSome_none] at accepted <;>
    simp [next, frameHead, accepted, payloadLength, Opcode.control, takeData, FrameHead.isText,
      finishFrame, consume, applyMask, fin, plain]

theorem next_emptyMessage_of_fragment
    (config : ParserConfig)
    (flate : Flate)
    (fragment : FragmentedMessage) :
    next config flate false { buffer := emptyMessage config, fragment := some fragment } =
      .error .protocol := by
  have refused := checkFirst_emptyMessage config
    { buffer := emptyMessage config, fragment := some fragment }
  unfold emptyMessage at *
  cases direction : config.fromServer <;>
    simp only [direction, Bool.false_eq_true, if_true, if_false, Option.isSome_some] at refused <;>
    simp [next, frameHead, refused]

/-- The message is taken unless another one is under way. -/
theorem feedOne_emptyMessage
    (config : ParserConfig)
    (flate : Flate)
    (fragment : Option FragmentedMessage) :
    (feedOne config flate { fragment := fragment } (emptyMessage config) false).2 =
      if fragment.isSome then .error .protocol else .ok (some ⟨.binary, []⟩) := by
  have accepted : ({ fragment := fragment } : Parser).accept (emptyMessage config) false =
      { buffer := emptyMessage config, fragment := fragment } := by
    simp [accept, takeTail]
  unfold feedOne
  dsimp only
  rw [accepted]
  unfold feedLoop
  cases fragment with
  | none =>
    rw [next_emptyMessage]
    rfl
  | some fragment =>
    rw [next_emptyMessage_of_fragment]
    rfl

/-- A parser that is reset answers every sequence of calls as a new parser does
if and only if no fragmented message was under way, or one whose array is not
kept, whatever it was fed before. -/
theorem reset_parser_is_fresh
    (config : ParserConfig)
    (flate : Flate)
    (before : List Call)
    (capacity : Nat) :
    (∀ after, (((calls config flate {} before).1.reset capacity).calls config flate after).2 =
        (calls config flate {} after).2) ↔
      (calls config flate {} before).1.fragment = none ∨ maxRetainedFrameBuffer < capacity := by
  refine ⟨fun same => ?_, fun unfragmented after => ?_⟩
  · -- A message that is not fragmented tells the two parsers apart.
    by_contra kept
    rw [not_or] at kept
    obtain ⟨fragment, underWay⟩ := Option.ne_none_iff_exists'.mp kept.1
    have answers := same [.feedOne (emptyMessage config) false]
    simp only [calls, reset, underWay, if_neg kept.2, Option.map_some, List.cons.injEq,
      and_true] at answers
    have fresh := feedOne_emptyMessage config flate none
    rw [feedOne_emptyMessage, fresh] at answers
    cases answers
  · have fresh : (calls config flate {} before).1.reset capacity = {} := by
      rcases unfragmented with nothing | large
      · simp [reset, nothing]
      · simp [reset, large]
    rw [fresh]

/-- A client's parser without compression. -/
def plainConfig : ParserConfig where
  maxMessageBytes := 1024
  fromServer := true
  limit_lt := by decide

def noFlate : Flate := ⟨fun _ _ => ([], true)⟩

theorem reset_parser_is_fresh_inside_text :
    (((calls plainConfig noFlate {} [.feedOne [0x81, 2, 0xc3] false]).1.reset 0).calls plainConfig
      noFlate [.feedOne [0x81, 1, 97] true]).2 =
      (calls plainConfig noFlate {} [.feedOne [0x81, 1, 97] true]).2 :=
  (reset_parser_is_fresh plainConfig noFlate _ 0).mpr (.inl (by decide)) _

/-- After the first fragment of a message and a reset, a message that a new
parser accepts is a protocol error. -/
theorem reset_keeps_fragment :
    (((calls plainConfig noFlate {} [.feedOne [0x01, 1, 97] false]).1.reset 8).calls plainConfig
      noFlate [.feedOne [0x81, 1, 97] false]).2 = [.error .protocol] ∧
    (calls plainConfig noFlate {} [.feedOne [0x81, 1, 97] false]).2 =
      [.ok (some ⟨.text, [97]⟩)] := by
  decide

end Parser

end Websocket
end Fib
