import Fib.Http.Segmentation

/-!
# Bytes kept for an incomplete request

While a request is incomplete, the parser keeps all of it.  The header, a body
of known length, the content of chunks and the trailer are each bounded by a
limit; the lines that announce chunks are bounded by none, and as long as no
CRLF ends such a line the parser waits for more of it.
-/

namespace Fib
namespace Http

open Lines Numeral Search Scanner

/-- The lines `chunkedEnd` takes for announcements of chunks, with the one that
is still arriving. -/
def sizeLines (limits : Limits) :
    Nat -> Bytes -> Nat -> Nat -> List Bytes
  | 0, _, _, _ => []
  | fuel + 1, rest, offset, decoded =>
    match find crlf rest with
    | none => [rest]
    | some lineEnd =>
      rest.take lineEnd ::
        match chunkTurn limits rest offset decoded with
        | .ended _ => []
        | .chunk size taken =>
          sizeLines limits fuel (rest.drop taken) (offset + taken)
            (decoded + size)

/-- The bytes of the lines. -/
def lineBytes (lines : List Bytes) : Nat :=
  (lines.map List.length).sum

@[simp] theorem lineBytes_nil : lineBytes [] = 0 := rfl

@[simp] theorem lineBytes_cons
    (line : Bytes)
    (lines : List Bytes) :
    lineBytes (line :: lines) = line.length + lineBytes lines :=
  List.sum_cons

theorem lineBytes_le (short : ∀ line ∈ lines, line.length ≤ limit) :
    lineBytes lines ≤ lines.length * limit := by
  induction lines with
  | nil => exact Nat.zero_le _
  | cons line lines ih =>
    have first := short line List.mem_cons_self
    have others := ih fun other present =>
      short other (List.mem_cons_of_mem line present)
    rw [lineBytes_cons, List.length_cons, Nat.add_mul]
    omega

namespace Parser

/-- Where the header of the request in progress ends, if it has arrived. -/
def headerEnd (parser : Parser) : Option Nat :=
  (find headerTerminator (parser.buffer.drop parser.headerScan)).map
    (· + parser.headerScan + 4)

/-- The lines that announce the chunks of the request in progress. -/
def chunkLines
    (limits : Limits)
    (reader : Reader)
    (parser : Parser) :
    List Bytes :=
  match parser.headerEnd, frameAt limits reader parser.buffer parser.headerEnd with
  | some headerEnd, .ok (.incomplete (some request)) =>
    if request.transferEncoding = [] then []
    else
      let rest := parser.buffer.drop headerEnd
      sizeLines limits rest.length rest headerEnd 0
  | _, _ => []

end Parser

/-- What a turn that waits has before it. -/
theorem chunkTurn_waiting
    (turn : chunkTurn limits rest offset decoded = .ended (.ok none))
    (found : find crlf rest = some lineEnd)
    (room : decoded ≤ limits.maxBodyBytes) :
    rest.length ≤ lineEnd + 4 + (limits.maxBodyBytes - decoded) + limits.maxHeaderBytes := by
  unfold chunkTurn at turn
  rw [found] at turn
  dsimp only at turn
  split at turn
  · cases turn
  next size parsed =>
  split at turn
  · -- The trailer is still arriving.
    have waiting := ChunkTurn.ended.inj turn
    unfold trailerEnd at waiting
    split at waiting
    · cases waiting
    split at waiting
    · split at waiting <;> cases waiting
    split at waiting
    · cases waiting
    · next small =>
      rw [List.length_drop] at small
      omega
  split at turn
  · cases turn
  next allowed =>
  split at turn
  · next short =>
    rw [List.length_drop] at short
    omega
  split at turn
  · next short =>
    rw [List.length_drop] at short
    omega
  · split at turn <;> cases turn

/-- The content of chunks and the trailer are bounded by the limits, and each
chunk but the last has content. -/
theorem chunkedEnd_waiting
    (waiting : chunkedEnd limits fuel rest offset decoded = .ok none)
    (enough : rest.length ≤ fuel)
    (room : decoded ≤ limits.maxBodyBytes) :
    rest.length ≤ lineBytes (sizeLines limits fuel rest offset decoded) +
        4 * (sizeLines limits fuel rest offset decoded).length +
        (limits.maxBodyBytes - decoded) + limits.maxHeaderBytes ∧
      (sizeLines limits fuel rest offset decoded).length ≤ limits.maxBodyBytes - decoded + 1 := by
  induction fuel generalizing rest offset decoded with
  | zero =>
    constructor
    · omega
    · exact Nat.zero_le _
  | succ fuel ih =>
    rw [chunkedEnd] at waiting
    rw [sizeLines]
    cases found : find crlf rest with
    | none =>
      simp only [lineBytes_cons, lineBytes_nil, List.length_cons, List.length_nil]
      omega
    | some lineEnd =>
      have within := find_le found
      have line : (rest.take lineEnd).length = lineEnd := by
        rw [List.length_take]
        omega
      cases turn : chunkTurn limits rest offset decoded with
      | ended result =>
        rw [turn] at waiting
        obtain rfl : result = .ok none := waiting
        have bound := chunkTurn_waiting turn found room
        simp only [lineBytes_cons, lineBytes_nil, line, List.length_cons, List.length_nil]
        omega
      | chunk size taken =>
        rw [turn] at waiting
        obtain ⟨position, same, length, fits, positive, allowed⟩ :=
          chunkTurn_chunk turn
        obtain rfl : position = lineEnd :=
          Option.some.inj (same.symm.trans found)
        obtain ⟨bytes, count⟩ := ih waiting
          (by rw [List.length_drop]; omega) (by omega)
        rw [List.length_drop] at bytes
        simp only [lineBytes_cons, line, List.length_cons]
        omega

theorem int64_le (nonneg : 0 ≤ exact) : int64 exact ≤ exact := by
  unfold int64 Int.bmod
  dsimp only
  split <;> omega

/-- A request with a header that waits for its body. -/
theorem headerFrame_waiting
    (framed : headerFrame limits reader buffer headerEnd = .ok (.incomplete waiting)) :
    headerEnd ≤ limits.maxHeaderBytes ∧
      ∃ request, waiting = some request ∧ (request.transferEncoding = [] ∧
            buffer.length ≤ headerEnd + limits.maxBodyBytes ∨
          request.transferEncoding ≠ [] ∧ chunkedEnd limits (buffer.drop headerEnd).length
              (buffer.drop headerEnd) headerEnd 0 = .ok none) := by
  unfold headerFrame at framed
  dsimp only at framed
  split at framed
  · cases framed
  next small =>
  refine ⟨by omega, ?_⟩
  split at framed
  · split at framed <;> cases framed
  split at framed
  · cases framed
  split at framed
  · next plain =>
    unfold lengthFrame at framed
    split at framed
    · cases framed
    split at framed
    · cases framed
    next known allowed =>
    dsimp only at framed known allowed
    split at framed
    · next short =>
      cases framed
      refine ⟨_, rfl, .inl ⟨plain, ?_⟩⟩
      have exact := int64_le (Int.add_nonneg (Int.natCast_nonneg headerEnd) (Int.not_lt.mp known))
      omega
    · cases framed
  · next coding codings =>
    split at framed
    · cases framed
    unfold chunkedFrame at framed
    dsimp only at framed
    split at framed
    · cases framed
    · next ended =>
      cases framed
      refine ⟨_, rfl, .inr ⟨?_, ended⟩⟩
      rw [codings]
      exact List.cons_ne_nil _ _
    · split at framed <;> cases framed
  · cases framed

namespace Parser

/-- What is kept when a call asks for more has the frame of a request that is
still arriving. -/
theorem feedOne_incomplete
    (fed : feedOne limits reader parser data = (next, .ok none)) :
    ∃ waiting, frameAt limits reader next.buffer next.headerEnd = .ok (.incomplete waiting) := by
  unfold feedOne at fed
  generalize arrived : { parser with buffer := parser.buffer ++ data } = held at fed
  unfold frameLength at fed
  by_cases stale : held.buffer.length < held.headerScan
  · rw [if_pos stale] at fed
    cases fed
  rw [if_neg stale, ← headerEnd] at fed
  dsimp only at fed
  cases framed : frameAt limits reader held.buffer held.headerEnd with
  | error fault =>
    rw [framed] at fed
    cases fault <;> cases fed
  | ok frame =>
    rw [framed] at fed
    cases frame with
    | complete frame =>
      dsimp only at fed
      split at fed <;> cases fed
    | incomplete waiting =>
      obtain ⟨rfl, _⟩ := fed
      refine ⟨waiting, ?_⟩
      rw [← framed]
      unfold headerEnd
      rw [(expectContinue_frame _ waiting).1, (expectContinue_frame _ waiting).2]
      cases found : find headerTerminator (held.buffer.drop held.headerScan) with
      | some position => simp [found]
      | none =>
        -- The three last bytes cannot hold the end of the header.
        cases late : find headerTerminator (held.buffer.drop (held.buffer.length - 3)) with
        | none => simp [late]
        | some position =>
          have within := find_le late
          have four : headerTerminator.length = 4 := rfl
          rw [List.length_drop] at within
          omega

end Parser

/-- Where no line that announces a chunk is longer than the header may be, an
incomplete request takes up at most the limits, four bytes for each chunk and
those lines; the lines number at most one more than the body has bytes. -/
theorem incomplete_request_is_bounded
    (config : Config)
    (reader : Reader)
    (parser next : Parser)
    (data : Bytes)
    (fed : parser.feedOne config.limits reader data = (next, .ok none))
    (short : ∀ line ∈ next.chunkLines config.limits reader,
      line.length ≤ config.limits.maxHeaderBytes) :
    next.buffer.length ≤ 2 * config.limits.maxHeaderBytes + config.limits.maxBodyBytes +
          4 * (next.chunkLines config.limits reader).length +
          lineBytes (next.chunkLines config.limits reader) ∧
      (next.chunkLines config.limits reader).length ≤ config.limits.maxBodyBytes + 1 ∧
      lineBytes (next.chunkLines config.limits reader) ≤
        (config.limits.maxBodyBytes + 1) * config.limits.maxHeaderBytes := by
  generalize config.limits = limits at fed short ⊢
  have bounds : next.buffer.length ≤ 2 * limits.maxHeaderBytes + limits.maxBodyBytes +
        4 * (next.chunkLines limits reader).length +
        lineBytes (next.chunkLines limits reader) ∧
      (next.chunkLines limits reader).length ≤ limits.maxBodyBytes + 1 := by
    obtain ⟨waiting, framed⟩ := Parser.feedOne_incomplete fed
    unfold Parser.chunkLines
    cases ends : next.headerEnd with
    | none =>
      rw [ends, frameAt] at framed
      split at framed
      · cases framed
      · constructor
        · omega
        · exact Nat.zero_le _
    | some headerEnd =>
      rw [ends] at framed
      obtain ⟨header, request, rfl, body⟩ := headerFrame_waiting framed
      rw [framed]
      dsimp only
      rcases body with ⟨plain, arrived⟩ | ⟨codings, waits⟩
      · rw [if_pos plain]
        constructor
        · omega
        · exact Nat.zero_le _
      rw [if_neg codings]
      have chunks := chunkedEnd_waiting waits (Nat.le_refl _) (Nat.zero_le _)
      have split : next.buffer.length ≤ headerEnd + (next.buffer.drop headerEnd).length := by
        rw [List.length_drop]
        omega
      omega
  refine ⟨bounds.1, bounds.2, ?_⟩
  calc lineBytes (next.chunkLines limits reader)
      ≤ (next.chunkLines limits reader).length * limits.maxHeaderBytes :=
        lineBytes_le short
    _ ≤ (limits.maxBodyBytes + 1) * limits.maxHeaderBytes :=
        Nat.mul_le_mul_right _ bounds.2

/-- A chunked request whose first chunk has been announced. -/
def announcedChunk : Parser where
  buffer := chunkedPost.header ++ ascii "2;x=1\r\nh"

theorem incomplete_request_is_bounded_announced :
    announcedChunk.buffer.length ≤ 2 * defaultConfig.limits.maxHeaderBytes +
        defaultConfig.limits.maxBodyBytes +
        4 * (announcedChunk.chunkLines defaultConfig.limits sampleReader).length +
        lineBytes (announcedChunk.chunkLines defaultConfig.limits sampleReader) :=
  (incomplete_request_is_bounded defaultConfig sampleReader {} announcedChunk
    announcedChunk.buffer (by decide) (by decide)).1

/-- No CRLF stands where there is no carriage return. -/
theorem find_crlf_eq_none
    (visible : (13 : UInt8) ∉ text) :
    find crlf text = none := by
  cases found : find crlf text with
  | none => rfl
  | some position =>
    have here := prefix_of_find found
    exact absurd (List.mem_of_mem_drop (here.subset List.mem_cons_self)) visible

/-- An extension without an end. -/
def endlessLine (count : Nat) : Bytes :=
  ascii "2;" ++ List.replicate count 120

/-- A chunked request whose first line goes on without an end. -/
def endlessPost (count : Nat) : RawRequest where
  header := chunkedPost.header
  payload := .sized (endlessLine count)

/-- The parser waits for the end of the line. -/
theorem scan_endlessPost (count : Nat) :
    scan defaultConfig.limits sampleReader (endlessPost count).encode = .more := by
  have endless : find crlf (endlessLine count) = none := by
    apply find_crlf_eq_none
    unfold endlessLine
    rw [List.mem_append, List.mem_replicate]
    rintro (early | ⟨_, late⟩)
    · revert early
      decide
    · cases late
  have ends : (find headerTerminator (endlessPost count).encode).map (· + 4) =
      some (endlessPost count).header.length := by
    have found : find headerTerminator (endlessPost count).header = some 52 := by
      change find headerTerminator chunkedPost.header = some 52
      decide
    rfl
  have behind : (endlessPost count).encode.drop
      (endlessPost count).header.length = endlessLine count :=
    List.drop_left
  have waits : ∀ fuel,
      chunkedEnd defaultConfig.limits fuel (endlessLine count)
        (endlessPost count).header.length 0 = .ok none := by
    intro fuel
    cases fuel with
    | zero => rfl
    | succ fuel => rw [chunkedEnd, chunkTurn, endless]
  obtain ⟨head, read, proto, coding, full, codings, chunked, _⟩ :=
    chunkedPost_readsAs
  have noCoding : (!head.protoAtLeast 1 1 && hasHeaderField
      chunkedPost.header (ascii "transfer-encoding")) = false := by
    rcases proto with recent | absent
    · rw [recent]
      rfl
    · rw [absent, Bool.and_false]
  have small : (endlessPost count).header.length ≤ defaultConfig.limits.maxHeaderBytes := by
    change chunkedPost.header.length ≤ _
    decide
  unfold scan frameOf
  rw [ends, frameAt, headerFrame_chunked small read noCoding codings chunked,
    chunkedFrame, behind, waits]

/-- Such a request stays incomplete however long the line gets, and the parser
keeps all of it. -/
theorem incomplete_request_is_unbounded :
    ∃ reader : Reader, ∀ bound : Nat, ∃ data next,
      ({} : Parser).feedOne defaultConfig.limits reader data = (next, .ok none) ∧
        bound < next.buffer.length := by
  refine ⟨sampleReader, fun bound => ?_⟩
  have start : ({} : Parser).Ready := Parser.ready_of_headerScan rfl
  have outcome := start.feedOne defaultConfig.limits sampleReader (endlessPost bound).encode
  have waits := scan_endlessPost bound
  have long : bound < (endlessPost bound).encode.length := by
    simp only [RawRequest.encode, endlessPost, Payload.encode, endlessLine,
      List.length_append, List.length_replicate]
    have two : (ascii "2;").length = 2 := by decide
    omega
  refine ⟨(endlessPost bound).encode, ?_⟩
  generalize Parser.feedOne defaultConfig.limits sampleReader {}
    (endlessPost bound).encode = result at outcome ⊢
  cases outcome with
  | incomplete next found buffer ready =>
    refine ⟨next, rfl, ?_⟩
    rw [buffer]
    exact long
  | failed next fault found | complete next request size found buffer ready =>
    cases found.symm.trans waits

end Http
end Fib
