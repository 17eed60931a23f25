import Fib.Http.Scan
import Fib.Http.Splitting

/-!
# Requests do not depend on how the bytes arrive

The position the parser keeps from an earlier search only skips places where
the header cannot end, so a call of the parser is told by what stands at the
start of its buffer.  A stream therefore yields the same requests and the same
first error in every split, and a stream of requests within the limits yields
exactly those requests.
-/

namespace Fib
namespace Http

open Lines Numeral Search Scanner

/-! ## Feeding -/

namespace Parser

/-- The position kept from an earlier search leaves room for the end of a
header that has begun, and no header ends before it. -/
structure Ready (parser : Parser) : Prop where
  room : parser.headerScan = 0 ∨ parser.headerScan + 3 ≤ parser.buffer.length
  absent :
    AbsentBefore headerTerminator parser.buffer parser.headerScan

variable {parser : Parser}

theorem ready_of_headerScan (restart : parser.headerScan = 0) :
    parser.Ready where
  room := .inl restart
  absent := by
    intro before small
    omega

theorem Ready.append
    (ready : parser.Ready)
    (data : Bytes) :
    Ready { parser with buffer := parser.buffer ++ data } where
  room := by
    have room := ready.room
    dsimp only
    rw [List.length_append]
    omega
  absent := by
    rcases ready.room with restart | room
    · intro before small
      rw [restart] at small
      omega
    · have four : headerTerminator.length = 4 := rfl
      exact ready.absent.append (by omega) data

theorem expectContinue_frame
    (parser : Parser)
    (waiting : Option Incoming) :
    (parser.expectContinue waiting).buffer = parser.buffer ∧
      (parser.expectContinue waiting).headerScan = parser.headerScan := by
  unfold expectContinue
  split
  · exact ⟨rfl, rfl⟩
  · split <;> exact ⟨rfl, rfl⟩

theorem Ready.expectContinue
    (ready : parser.Ready)
    (waiting : Option Incoming) :
    (parser.expectContinue waiting).Ready := by
  obtain ⟨buffer, headerScan⟩ := parser.expectContinue_frame waiting
  constructor
  · rw [buffer, headerScan]
    exact ready.room
  · rw [buffer, headerScan]
    exact ready.absent

/-- A search from the kept position finds what a search of the whole buffer
finds. -/
theorem Ready.frameLength
    (ready : parser.Ready)
    (limits : Limits)
    (reader : Reader) :
    (frameLength limits reader parser).2 = frameOf limits reader parser.buffer ∧
      (frameLength limits reader parser).1.buffer = parser.buffer ∧
      (frameLength limits reader parser).1.Ready := by
  have within : parser.headerScan ≤ parser.buffer.length := by
    have room := ready.room
    omega
  have whole : (find headerTerminator
      (parser.buffer.drop parser.headerScan)).map (· + parser.headerScan + 4) =
      (find headerTerminator parser.buffer).map (· + 4) := by
    rw [find_drop ready.absent within, Option.map_map]
    rfl
  unfold Parser.frameLength
  rw [if_neg (by omega)]
  dsimp only
  rw [whole, ← frameOf]
  cases framed : frameOf limits reader parser.buffer with
  | error fault => exact ⟨rfl, rfl, ready⟩
  | ok frame =>
    cases frame with
    | complete frame => exact ⟨rfl, rfl, ready⟩
    | incomplete waiting =>
      refine ⟨rfl, (expectContinue_frame _ _).1, Ready.expectContinue ?_ _⟩
      cases found : find headerTerminator parser.buffer with
      | some position => exact ready
      | none =>
        constructor
        · change parser.buffer.length - 3 = 0 ∨ parser.buffer.length - 3 + 3 ≤ parser.buffer.length
          omega
        · exact absentBefore_of_find_eq_none found _

/-- A call of the parser, told by what stands at the start of the buffer. -/
inductive Outcome
    (limits : Limits)
    (reader : Reader)
    (input : Bytes) :
    Parser × Except Fault (Option Incoming) -> Prop
  | incomplete
      (next : Parser)
      (found : scan limits reader input = .more)
      (buffer : next.buffer = input)
      (ready : next.Ready) :
      Outcome limits reader input (next, .ok none)
  | failed
      (next : Parser)
      (fault : Fault)
      (found : scan limits reader input = .failed fault) :
      Outcome limits reader input (next, .error fault)
  | complete
      (next : Parser)
      (request : Incoming)
      (size : Nat)
      (found : scan limits reader input = .item request size)
      (buffer : next.buffer = input.drop size)
      (ready : next.Ready) :
      Outcome limits reader input (next, .ok (some request))

theorem Ready.feedOne
    (ready : parser.Ready)
    (limits : Limits)
    (reader : Reader)
    (data : Bytes) :
    Outcome limits reader (parser.buffer ++ data) (feedOne limits reader parser data) := by
  have length := (ready.append data).frameLength limits reader
  unfold Parser.feedOne
  generalize Parser.frameLength limits reader
    { parser with buffer := parser.buffer ++ data } = result at length ⊢
  obtain ⟨next, framed⟩ := result
  obtain ⟨same, buffer, ready⟩ := length
  cases framed with
  | error fault =>
    have found : scan limits reader (parser.buffer ++ data) = .failed fault := by
      rw [scan, ← same]
    cases fault with
    | panic | error error => exact .failed _ _ found
  | ok frame =>
    cases frame with
    | incomplete waiting =>
      refine .incomplete next ?_ buffer ready
      rw [scan, ← same]
    | complete frame =>
      dsimp only
      rw [buffer]
      cases taken :
          takeRequest limits reader (parser.buffer ++ data) frame with
      | error fault =>
        have found : scan limits reader (parser.buffer ++ data) = .failed fault := by
          simp only [scan, ← same, taken]
        cases fault with
        | panic | error error => exact .failed _ _ found
      | ok request =>
        refine .complete _ request frame.frameEnd.toNat ?_ ?_ ?_
        · simp only [scan, ← same, taken]
        · rw [consume, buffer]
        · exact ready_of_headerScan rfl

/-- Feeding up to the first error, told by scanning the whole input. -/
structure Fed
    (limits : Limits)
    (reader : Reader)
    (input : Bytes)
    (result : Parser × List Incoming × Option Fault) : Prop where
  scanned : scanAll (scan limits reader) input =
    (result.2.1, result.2.2.elim (.ok result.1.buffer) .error)
  ready : result.2.2 = none -> result.1.Ready

/-- What is fed depends on the input alone. -/
theorem Fed.unique
    (left : Fed limits reader input first)
    (right : Fed limits reader input second) :
    first.2 = second.2 := by
  obtain ⟨next, requests, fault⟩ := first
  obtain ⟨other, more, second⟩ := second
  obtain ⟨rfl, same⟩ := Prod.mk.inj (left.scanned.symm.trans right.scanned)
  cases fault with
  | none =>
    cases second with
    | none => rfl
    | some second => cases same
  | some fault =>
    cases second with
    | none => cases same
    | some second =>
      cases same
      rfl

section Feeding

variable {limits : Limits} (fit : limits.Fit) (reader : Reader)

include fit

theorem Ready.feedLoop
    (ready : parser.Ready)
    (enough : parser.buffer.length + data.length < fuel) :
    Fed limits reader (parser.buffer ++ data) (feedLoop limits reader fuel parser data) := by
  have stable := scan_stable limits reader
  induction fuel generalizing parser data with
  | zero => omega
  | succ fuel ih =>
    have outcome := ready.feedOne limits reader data
    rw [Parser.feedLoop]
    generalize Parser.feedOne limits reader parser data = result at outcome ⊢
    cases outcome with
    | incomplete next found buffer waiting =>
      refine ⟨?_, fun _ => waiting⟩
      rw [scanAll_of_more stable found, ← buffer]
      rfl
    | failed next fault found =>
      exact ⟨scanAll_of_failed stable found, nofun⟩
    | complete next request size found buffer again =>
      have scanned := scanAll_of_item stable found
      rw [← buffer] at scanned
      dsimp only
      split
      · next empty =>
        refine ⟨?_, fun _ => again⟩
        rw [scanned, empty, scanAll_nil, ← empty]
        rfl
      -- The loop goes on with the bytes behind the request.
      have shorter : next.buffer.length + ([] : Bytes).length < fuel := by
        have positive := stable.size_pos found
        have within := stable.size_le found
        rw [List.length_append] at within
        rw [buffer, List.length_drop, List.length_append, List.length_nil]
        omega
      have more := ih again shorter
      rw [List.append_nil] at more
      generalize Parser.feedLoop limits reader fuel next [] = rest at more ⊢
      obtain ⟨last, requests, fault⟩ := rest
      rw [more.scanned] at scanned
      cases fault with
      | none => exact ⟨scanned, more.ready⟩
      | some fault =>
        cases fault with
        | panic => exact absurd more.scanned (scanAll_ne_panic fit reader next.buffer)
        | error error => exact ⟨scanned, nofun⟩

/-- Segments are fed as the whole is. -/
theorem Ready.feedAll
    (ready : parser.Ready)
    (waiting : scan limits reader parser.buffer = .more)
    (segments : List Bytes) :
    Fed limits reader (parser.buffer ++ segments.flatten)
      (feedAll limits reader parser segments) := by
  have stable := scan_stable limits reader
  induction segments generalizing parser with
  | nil =>
    rw [List.flatten_nil, List.append_nil]
    exact ⟨scanAll_of_more stable waiting, fun _ => ready⟩
  | cons segment segments ih =>
    have fed : Fed limits reader (parser.buffer ++ segment) (feed limits reader parser segment) :=
      ready.feedLoop fit reader (Nat.lt_succ_self _)
    rw [Parser.feedAll, List.flatten_cons, ← List.append_assoc]
    generalize Parser.feed limits reader parser segment = result at fed ⊢
    have joined := scanAll_append stable (parser.buffer ++ segment) segments.flatten
    obtain ⟨next, requests, fault⟩ := result
    rw [fed.scanned] at joined
    cases fault with
    | some fault => exact ⟨joined, nofun⟩
    | none =>
      have more := ih (fed.ready rfl) (scan_of_scanAll stable fed.scanned)
      dsimp only [Option.elim, resume] at joined ⊢
      rw [more.scanned] at joined
      exact ⟨joined, more.ready⟩

end Feeding

end Parser

/-! ## Requests as they are sent -/

/-- The line of a chunk: the size in hexadecimal digits, and extensions that
begin at a semicolon, with blanks allowed before it. -/
def SizeLine
    (line : Bytes)
    (size : Nat) : Prop :=
  ∃ numeral blanks extensions,
    line = numeral ++ blanks ++ extensions ∧
      parseDigits 16 numeral = some size ∧
      (∀ blank ∈ blanks, blank = 32 ∨ blank = 9) ∧
      (extensions.head? = some 59 ∨ blanks = [] ∧ extensions = []) ∧
      hasCrlf line = false

/-- A chunk of a body, with the line that announces it. -/
structure Chunk where
  line : Bytes
  content : Bytes

def Chunk.encode (chunk : Chunk) : Bytes :=
  chunk.line ++ (crlf ++ (chunk.content ++ crlf))

/-- The trailer section behind the last chunk: the empty line, or fields up to
the first empty line. -/
def TrailerSection (trailer : Bytes) : Prop :=
  trailer = crlf ∨
    trailer.take 2 ≠ crlf ∧
      find headerTerminator trailer = some (trailer.length - 4)

/-- What follows the header of a request. -/
inductive Payload where
  | none
  | sized (content : Bytes)
  | chunked (chunks : List Chunk) (last trailer : Bytes)

namespace Payload

def encode : Payload -> Bytes
  | none => []
  | sized content => content
  | chunked chunks last trailer =>
    chunks.flatMap Chunk.encode ++ (last ++ (crlf ++ trailer))

/-- The body that is meant. -/
def body : Payload -> Bytes
  | none => []
  | sized content => content
  | chunked chunks _ _ => chunks.flatMap Chunk.content

/-- The payload is well formed and within the limits: those of the body, of the
trailer, and of the whole of a chunked body as it is sent. -/
def Within (limits : Limits) : Payload -> Prop
  | none => True
  | sized content => content ≠ [] ∧ content.length ≤ limits.maxBodyBytes
  | chunked chunks last trailer =>
    (∀ chunk ∈ chunks,
      chunk.content ≠ [] ∧ SizeLine chunk.line chunk.content.length) ∧
    SizeLine last 0 ∧ TrailerSection trailer ∧
    (chunks.flatMap Chunk.content).length ≤ limits.maxBodyBytes ∧
    trailer.length ≤ limits.maxHeaderBytes ∧
    (chunked chunks last trailer).encode.length ≤
      limits.maxBodyBytes + limits.maxHeaderBytes

end Payload

/-- A request as it is sent: the header up to the empty line, and what
follows it. -/
structure RawRequest where
  header : Bytes
  payload : Payload

namespace RawRequest

def encode (raw : RawRequest) : Bytes :=
  raw.header ++ raw.payload.encode

/-- The header ends with its first empty line, and the request is within the
limits. -/
structure Within
    (raw : RawRequest)
    (limits : Limits) : Prop where
  terminated :
    find headerTerminator raw.header = some (raw.header.length - 4)
  header_le : raw.header.length ≤ limits.maxHeaderBytes
  payload : raw.payload.Within limits

/-- The framing of a payload, as the reader understands the header and, where
the body is chunked, the whole. -/
def FramedAs
    (raw : RawRequest)
    (reader : Reader)
    (head request : Incoming) :
    Prop :=
  match raw.payload with
  | .none =>
    head.transferEncoding = [] ∧ head.contentLength ≤ 0 ∧
      request = { head with body := [], bodyError := none }
  | .sized content =>
    head.transferEncoding = [] ∧ head.contentLength = content.length ∧
      request = { head with body := content, bodyError := none }
  | .chunked chunks _ _ =>
    ∃ coding full,
      head.transferEncoding = [coding] ∧
      equalFold coding (ascii "chunked") = true ∧
      reader.readRequest raw.encode = .ok full ∧
      full.body = chunks.flatMap Chunk.content ∧ full.bodyError = none ∧
      request = { full with
        close := full.close || (head.close ||
          hasHeaderField raw.header (ascii "content-length")) }

/-- The reader understands the bytes as the given request, whose body is the
payload's own; HTTP/1.0 has no transfer codings. -/
def ReadsAs
    (raw : RawRequest)
    (reader : Reader)
    (request : Incoming) : Prop :=
  ∃ head, reader.readRequest raw.header = .ok head ∧
    (head.protoAtLeast 1 1 = true ∨
      hasHeaderField raw.header (ascii "transfer-encoding") = false) ∧
    raw.FramedAs reader head request

end RawRequest

/-! ## Sizes -/

/-- A line without a CRLF ends at the first one behind it. -/
theorem find_crlf
    (clean : hasCrlf line = false)
    (rest : Bytes) :
    find crlf (line ++ (crlf ++ rest)) = some line.length := by
  induction line with
  | nil => exact find_eq_zero (List.prefix_append crlf rest)
  | cons first line ih =>
    cases line with
    | nil =>
      rw [List.cons_append, List.nil_append, find_cons]
      · rfl
      · intro here
        simp [crlf] at here
    | cons second line =>
      rw [hasCrlf_cons_cons, Bool.or_eq_false_iff] at clean
      rw [List.cons_append, find_cons, ih clean.2]
      · rfl
      · intro here
        have both : first = 13 ∧ second = 10 := by
          simpa [crlf, eq_comm] using here
        simp [both] at clean

/-- A digit is not the first byte of a blank. -/
theorem trimLeft_of_digit
    (visible : ∀ blank ∈ blanks, blank.head?.map digitValue = some none)
    (isDigit : digitValue digit ≠ none)
    (fuel : Nat)
    (text : Bytes) :
    trimLeft blanks fuel (digit :: text) = digit :: text := by
  cases fuel with
  | zero => rfl
  | succ fuel =>
    have none : blanks.find? (·.isPrefixOf (digit :: text)) = none := by
      rw [List.find?_eq_none]
      intro blank present here
      obtain ⟨first, starts, other⟩ :=
        Option.map_eq_some_iff.mp (visible blank present)
      obtain ⟨rest, rfl⟩ := List.head?_eq_some_iff.mp starts
      have same : first = digit := by
        simp only [List.isPrefixOf_cons_cons, Bool.and_eq_true, beq_iff_eq] at here
        exact here.1
      exact isDigit (same ▸ other)
    rw [trimLeft, none]

theorem visible_spaces :
    ∀ blank ∈ spaces, blank.head?.map digitValue = some none := by
  decide

theorem visible_spaces_reverse :
    ∀ blank ∈ spaces.map List.reverse,
      blank.head?.map digitValue = some none := by
  decide

/-- Blanks are dropped one by one up to a digit. -/
theorem trimLeft_blanks
    (blank : ∀ byte ∈ blanks, byte = 32 ∨ byte = 9)
    (isDigit : digitValue digit ≠ none)
    (text : Bytes)
    (enough : blanks.length ≤ fuel) :
    trimLeft (spaces.map List.reverse) fuel (blanks ++ digit :: text) = digit :: text := by
  induction blanks generalizing fuel with
  | nil => exact trimLeft_of_digit visible_spaces_reverse isDigit fuel text
  | cons byte rest ih =>
    cases fuel with
    | zero => simp at enough
    | succ fuel =>
      have dropped := ih (fun other present =>
          blank other (List.mem_cons_of_mem byte present))
        (Nat.le_of_succ_le_succ enough)
      rcases blank byte List.mem_cons_self with rfl | rfl
      · exact dropped
      · exact dropped

theorem shiftIn_none
    (base : Nat)
    (bytes : Bytes) :
    bytes.foldl (shiftIn base) none = none := by
  induction bytes with
  | nil => rfl
  | cons byte rest ih => exact ih

/-- A numeral consists of digits. -/
theorem digit_of_parseDigits (parsed : parseDigits base numeral = some size) :
    numeral ≠ [] ∧ ∀ byte ∈ numeral, digitValue byte ≠ none := by
  unfold parseDigits at parsed
  split at parsed
  · cases parsed
  next nonempty =>
  refine ⟨nonempty, ?_⟩
  clear nonempty
  generalize some 0 = start at parsed
  induction numeral generalizing start with
  | nil => simp
  | cons first rest ih =>
    rw [List.foldl_cons] at parsed
    intro byte present
    rcases List.mem_cons.mp present with rfl | later
    · intro other
      have stopped : shiftIn base start byte = none := by
        simp [shiftIn, other]
      rw [stopped, shiftIn_none] at parsed
      cases parsed
    · exact ih _ parsed byte later

theorem trimSpace_numeral
    (nonempty : numeral ≠ [])
    (digits : ∀ byte ∈ numeral, digitValue byte ≠ none)
    (blank : ∀ byte ∈ blanks, byte = 32 ∨ byte = 9) :
    trimSpace (numeral ++ blanks) = numeral := by
  obtain ⟨first, rest, split⟩ := List.exists_cons_of_ne_nil nonempty
  obtain ⟨front, last, ends⟩ := (List.eq_nil_or_concat numeral).resolve_left nonempty
  have leading : trimLeft spaces (numeral ++ blanks).length
      (numeral ++ blanks) = numeral ++ blanks := by
    rw [split]
    exact trimLeft_of_digit visible_spaces (digits first (split ▸ List.mem_cons_self)) _ _
  have isDigit : digitValue last ≠ none :=
    digits last (ends ▸ by simp)
  have turned : (numeral ++ blanks).reverse = blanks.reverse ++ last :: front.reverse := by
    rw [ends]
    simp
  unfold trimSpace
  dsimp only
  rw [leading, turned, trimLeft_blanks
    (fun byte present => blank byte (List.mem_reverse.mp present)) isDigit
    front.reverse (by simp)]
  rw [ends]
  simp

theorem chunkSize_of_sizeLine
    (announced : SizeLine line size)
    (fits : size < 2 ^ 63) :
    chunkSize line = some size := by
  obtain ⟨numeral, blanks, extensions, rfl, parsed, blank, ending, _⟩ :=
    announced
  obtain ⟨nonempty, digits⟩ := digit_of_parseDigits parsed
  have before : ∀ byte ∈ numeral ++ blanks, (byte != 59) = true := by
    intro byte present
    rw [bne_iff_ne]
    rintro rfl
    rcases List.mem_append.mp present with inNumeral | inBlanks
    · exact digits 59 inNumeral rfl
    · rcases blank 59 inBlanks with same | same <;> cases same
  have cut : (numeral ++ blanks ++ extensions).takeWhile (· != 59) = numeral ++ blanks := by
    rw [List.takeWhile_append_of_pos before]
    have stops : extensions.takeWhile (· != 59) = [] := by
      rcases ending with starts | ⟨_, rfl⟩
      · obtain ⟨rest, rfl⟩ := List.head?_eq_some_iff.mp starts
        rfl
      · rfl
    rw [stops, List.append_nil]
  rw [chunkSize, cut, trimSpace_numeral nonempty digits blank, parseUint63,
    parsed, Option.bind_some, if_pos fits]

example : chunkSize (ascii "1a ;name=value") = some 26 := by
  decide

/-! ## Requests within the limits -/

variable {limits : Limits}

theorem trailerEnd_trailer
    (wellFormed : TrailerSection trailer)
    (small : trailer.length ≤ limits.maxHeaderBytes)
    (offset : Nat) :
    trailerEnd limits trailer offset = .ok (some (offset + trailer.length)) := by
  rcases wellFormed with rfl | ⟨nonempty, found⟩
  · rfl
  have within := find_le found
  have four : headerTerminator.length = 4 := rfl
  rw [trailerEnd, if_neg (fun both => nonempty both.2), found]
  dsimp only
  rw [if_neg (by omega)]
  congr 2
  omega

theorem chunkTurn_encode
    {chunk : Chunk}
    (nonempty : chunk.content ≠ [])
    (announced : SizeLine chunk.line chunk.content.length)
    (allowed : decoded + chunk.content.length ≤ limits.maxBodyBytes)
    (rest : Bytes)
    (offset : Nat) :
    chunkTurn limits (chunk.encode ++ rest) offset decoded =
      .chunk chunk.content.length chunk.encode.length := by
  have positive := List.length_pos_iff.mpr nonempty
  have fits := limits.body_lt
  have clean : hasCrlf chunk.line = false := by
    obtain ⟨_, _, _, _, _, _, _, clean⟩ := announced
    exact clean
  have two : crlf.length = 2 := rfl
  have shape : chunk.encode ++ rest =
      chunk.line ++ (crlf ++ (chunk.content ++ (crlf ++ rest))) := by
    simp [Chunk.encode]
  have behind : (chunk.encode ++ rest).drop (chunk.line.length + 2) =
      chunk.content ++ (crlf ++ rest) := by
    rw [shape, List.drop_append, List.drop_of_length_le (by omega),
      Nat.add_sub_cancel_left]
    rfl
  have length : chunk.encode.length = chunk.line.length + 2 + chunk.content.length + 2 := by
    simp only [Chunk.encode, List.length_append, two]
    omega
  unfold chunkTurn
  rw [shape, find_crlf clean]
  dsimp only
  rw [List.take_left, chunkSize_of_sizeLine announced (by omega), ← shape, behind]
  dsimp only
  rw [if_neg (by omega), if_neg (by omega),
    if_neg (by simp only [List.length_append]; omega),
    if_neg (by simp only [List.length_append]; omega),
    List.drop_left, if_neg, length]
  exact not_not_intro rfl

theorem chunkedEnd_encode
    {chunks : List Chunk}
    (wellFormed : ∀ chunk ∈ chunks,
      chunk.content ≠ [] ∧ SizeLine chunk.line chunk.content.length)
    (ending : SizeLine last 0)
    (trailing : TrailerSection trailer)
    (small : trailer.length ≤ limits.maxHeaderBytes)
    (allowed : decoded + (chunks.flatMap Chunk.content).length ≤
      limits.maxBodyBytes)
    (enough : chunks.length < fuel)
    (offset : Nat) :
    chunkedEnd limits fuel (Payload.chunked chunks last trailer).encode offset decoded =
      .ok (some (offset + (Payload.chunked chunks last trailer).encode.length)) := by
  induction chunks generalizing fuel decoded offset with
  | nil =>
    obtain ⟨fuel, rfl⟩ : ∃ count, fuel = count + 1 :=
      ⟨fuel - 1, by omega⟩
    have clean : hasCrlf last = false := by
      obtain ⟨_, _, _, _, _, _, _, clean⟩ := ending
      exact clean
    have two : crlf.length = 2 := rfl
    have behind : (last ++ (crlf ++ trailer)).drop (last.length + 2) = trailer := by
      rw [List.drop_append, List.drop_of_length_le (by omega),
        Nat.add_sub_cancel_left]
      rfl
    simp only [Payload.encode, List.flatMap_nil, List.nil_append]
    rw [chunkedEnd, chunkTurn, find_crlf clean]
    dsimp only
    rw [List.take_left, chunkSize_of_sizeLine ending (by decide), behind]
    dsimp only
    rw [if_pos rfl, trailerEnd_trailer trailing small]
    simp only [List.length_append, two]
    congr 2
    omega
  | cons chunk chunks ih =>
    obtain ⟨fuel, rfl⟩ : ∃ count, fuel = count + 1 :=
      ⟨fuel - 1, by omega⟩
    obtain ⟨nonempty, announced⟩ := wellFormed chunk List.mem_cons_self
    have shape : (Payload.chunked (chunk :: chunks) last trailer).encode =
        chunk.encode ++ (Payload.chunked chunks last trailer).encode := by
      simp [Payload.encode]
    rw [List.flatMap_cons, List.length_append] at allowed
    rw [shape, chunkedEnd, chunkTurn_encode nonempty announced (by omega)]
    dsimp only
    rw [List.drop_left, ih (fun other present =>
        wellFormed other (List.mem_cons_of_mem chunk present))
      (by omega) (by simp only [List.length_cons] at enough; omega),
      List.length_append, Nat.add_assoc]

theorem length_le_encode
    (chunks : List Chunk)
    (last trailer : Bytes) :
    chunks.length < (Payload.chunked chunks last trailer).encode.length := by
  have two : crlf.length = 2 := rfl
  induction chunks with
  | nil =>
    simp only [Payload.encode, List.length_append, List.length_nil, two]
    omega
  | cons chunk chunks ih =>
    simp only [Payload.encode, List.flatMap_cons, List.length_append,
      List.length_cons, Chunk.encode, two] at ih ⊢
    omega

section Exact

variable {limits : Limits} (fit : limits.Fit) {reader : Reader}
variable {raw : RawRequest} {head request : Incoming}

/-- The frame of a request without a body or with one of known length. -/
theorem lengthFrame_encode
    (fit : limits.Fit)
    (small : raw.header.length ≤ limits.maxHeaderBytes)
    (allowed : raw.payload.encode.length ≤ limits.maxBodyBytes)
    (known : head.contentLength = raw.payload.encode.length ∨
      head.contentLength ≤ 0 ∧ raw.payload.encode = []) :
    lengthFrame limits raw.encode raw.header.length head =
      .ok (.complete ⟨raw.encode.length, raw.header.length, false, head⟩) := by
  unfold Limits.Fit at fit
  have whole : raw.encode.length = raw.header.length + raw.payload.encode.length :=
    List.length_append
  unfold lengthFrame
  by_cases unknown : head.contentLength < 0
  · have empty : raw.payload.encode.length = 0 := by
      rcases known with same | ⟨_, empty⟩
      · omega
      · rw [empty]
        rfl
    rw [if_pos unknown, whole, empty, Nat.add_zero]
  have length : head.contentLength = raw.payload.encode.length := by
    rcases known with same | ⟨low, empty⟩
    · exact same
    · rw [empty, List.length_nil]
      omega
  rw [if_neg unknown, if_neg (by omega)]
  rw [length, int64_of_fits (by omega) (by omega), whole, if_neg (by omega)]
  rfl

section

variable (small : raw.header.length ≤ limits.maxHeaderBytes)
  (read : reader.readRequest raw.header = .ok head)
  (noCoding : (!head.protoAtLeast 1 1 &&
    hasHeaderField raw.header (ascii "transfer-encoding")) = false)
include small read noCoding

/-- A header without a transfer coding leaves the frame to the length. -/
theorem headerFrame_plain (plain : head.transferEncoding = []) :
    headerFrame limits reader raw.encode raw.header.length =
      lengthFrame limits raw.encode raw.header.length
        { head with body := [], bodyError := none } := by
  have header : raw.encode.take raw.header.length = raw.header := by
    rw [RawRequest.encode, List.take_left]
  unfold headerFrame
  rw [header, if_neg (by omega), read]
  dsimp only
  rw [noCoding, plain]
  rfl

/-- A chunked request has the frame `chunkedEnd` finds. -/
theorem headerFrame_chunked
    (codings : head.transferEncoding = [coding])
    (chunked : equalFold coding (ascii "chunked") = true) :
    headerFrame limits reader raw.encode raw.header.length =
      chunkedFrame limits raw.encode raw.header.length
        { head with
          close := head.close ||
            hasHeaderField raw.header (ascii "content-length")
          body := []
          bodyError := none } := by
  have header : raw.encode.take raw.header.length = raw.header := by
    rw [RawRequest.encode, List.take_left]
  unfold headerFrame
  rw [header, if_neg (by omega), read]
  dsimp only
  rw [noCoding, codings]
  dsimp only
  rw [chunked]
  rfl

end

/-- The frame of a chunked request within the limits is all of it. -/
theorem chunkedFrame_encode
    (fit : limits.Fit)
    (payload : raw.payload = .chunked chunks last trailer)
    (within : raw.payload.Within limits) :
    chunkedFrame limits raw.encode raw.header.length head =
      .ok (.complete ⟨raw.encode.length, raw.header.length, true, head⟩) := by
  unfold Limits.Fit at fit
  rw [payload] at within
  obtain ⟨wellFormed, ending, trailing, allowed, small, total⟩ := within
  have whole : raw.encode.length = raw.header.length + raw.payload.encode.length :=
    List.length_append
  have behind : raw.encode.drop raw.header.length = raw.payload.encode := by
    rw [RawRequest.encode, List.drop_left]
  unfold chunkedFrame
  dsimp only
  rw [behind, payload, chunkedEnd_encode wellFormed ending trailing small
    (by omega) (length_le_encode chunks last trailer), ← payload, ← whole]
  dsimp only
  rw [← payload] at total
  rw [int64_of_fits (by omega) (by omega), if_neg (by omega)]

/-- A chunked request is taken as the reader reads it again. -/
theorem takeRequest_chunked
    (fit : limits.Fit)
    (read : reader.readRequest buffer = .ok full)
    (clean : full.bodyError = none)
    (allowed : full.body.length ≤ limits.maxBodyBytes) :
    takeRequest limits reader buffer ⟨buffer.length, headerEnd, true, head⟩ =
      .ok { full with close := full.close || head.close } := by
  unfold Limits.Fit at fit
  have positive := limits.header_pos
  have limit : int64 (limits.maxBodyBytes + 1) = limits.maxBodyBytes + 1 :=
    int64_of_fits (by omega) (by omega)
  have room : ((limits.maxBodyBytes : Int) + 1).toNat = limits.maxBodyBytes + 1 := by
    omega
  have below : (full.body.length : Int) < limits.maxBodyBytes + 1 := by
    omega
  have whole : full.body.take (limits.maxBodyBytes + 1) = full.body :=
    List.take_of_length_le (by omega)
  simp only [takeRequest, if_true, Int.toNat_natCast, List.take_length, read,
    limit, room, whole, if_neg (Nat.not_lt.mpr allowed), if_pos below, clean]

/-- A body of known length is taken from behind the header. -/
theorem takeRequest_sized
    (nonempty : content ≠ [])
    (same : raw.payload.encode = content)
    (length : head.contentLength = content.length) :
    takeRequest limits reader raw.encode ⟨raw.encode.length, raw.header.length, false,
          { head with body := [], bodyError := none }⟩ =
      .ok { head with body := content, bodyError := none } := by
  have positive := List.length_pos_iff.mpr nonempty
  have sized : 0 < head.contentLength := by
    omega
  have whole : raw.encode.length = raw.header.length + raw.payload.encode.length :=
    List.length_append
  have body : raw.encode.drop raw.header.length = content := by
    rw [RawRequest.encode, List.drop_left, same]
  unfold takeRequest
  rw [if_neg Bool.false_ne_true, if_pos sized]
  dsimp only
  rw [if_neg (by omega), Int.toNat_natCast, List.take_length, body]

/-- The parser finds exactly the request that was sent. -/
theorem scan_encode
    (fit : limits.Fit)
    (within : raw.Within limits)
    (reads : raw.ReadsAs reader request) :
    scan limits reader raw.encode = .item request raw.encode.length := by
  obtain ⟨head, read, proto, framed⟩ := reads
  have four : headerTerminator.length = 4 := rfl
  have long := find_le within.terminated
  have small := within.header_le
  have ends : (find headerTerminator raw.encode).map (· + 4) = some raw.header.length := by
    rw [RawRequest.encode, find_append within.terminated, Option.map_some]
    congr 1
    omega
  have noCoding : (!head.protoAtLeast 1 1 &&
      hasHeaderField raw.header (ascii "transfer-encoding")) = false := by
    rcases proto with recent | absent
    · rw [recent]
      rfl
    · rw [absent, Bool.and_false]
  unfold scan frameOf
  rw [ends, frameAt]
  have payload := within.payload
  unfold RawRequest.FramedAs at framed
  cases shape : raw.payload with
  | none =>
    rw [shape] at framed
    obtain ⟨plain, empty, rfl⟩ := framed
    have same : raw.payload.encode = [] := by
      rw [shape]
      rfl
    have frame : lengthFrame limits raw.encode raw.header.length
        { head with body := [], bodyError := none } = _ :=
      lengthFrame_encode fit small (by rw [same]; exact Nat.zero_le _) (.inr ⟨empty, same⟩)
    rw [headerFrame_plain small read noCoding plain, frame]
    dsimp only
    rw [takeRequest, if_neg (Int.not_lt.mpr empty)]
    rfl
  | sized content =>
    rw [shape] at framed payload
    obtain ⟨plain, length, rfl⟩ := framed
    obtain ⟨nonempty, allowed⟩ := payload
    have same : raw.payload.encode = content := by
      rw [shape]
      rfl
    rw [headerFrame_plain small read noCoding plain,
      lengthFrame_encode fit small (by rw [same]; exact allowed)
        (.inl (by rw [same]; exact length))]
    dsimp only
    rw [takeRequest_sized nonempty same length]
    rfl
  | chunked chunks last trailer =>
    rw [shape] at framed
    obtain ⟨coding, full, codings, chunked, readFull, body, clean, rfl⟩ :=
      framed
    rw [headerFrame_chunked small read noCoding codings chunked,
      chunkedFrame_encode fit shape payload]
    rw [shape] at payload
    obtain ⟨_, _, _, allowed, _⟩ := payload
    dsimp only
    rw [takeRequest_chunked fit readFull clean (by rw [body]; exact allowed)]
    rfl

end Exact

/-- Every split of a stream yields the requests and the first error of the
whole, and a stream of requests within the limits yields exactly those
requests and leaves nothing behind. -/
theorem requests_of_every_split
    (config : Config)
    (reader : Reader)
    (fit : config.limits.Fit) :
    (∀ segments : List Bytes,
      (Parser.feedAll config.limits reader {} segments).2 =
        (Parser.feed config.limits reader {} segments.flatten).2) ∧
    ∀ requests : List (RawRequest × Incoming),
      (∀ entry ∈ requests,
        entry.1.Within config.limits ∧ entry.1.ReadsAs reader entry.2) ->
      ∀ segments : List Bytes,
        segments.flatten = (requests.map fun entry => entry.1.encode).flatten ->
        (Parser.feedAll config.limits reader {} segments).2 = (requests.map Prod.snd, none) ∧
          (Parser.feedAll config.limits reader {} segments).1.buffer = [] := by
  have stable := scan_stable config.limits reader
  have start : ({} : Parser).Ready := Parser.ready_of_headerScan rfl
  have split := start.feedAll fit reader stable.empty
  constructor
  · intro segments
    have whole : Parser.Fed config.limits reader segments.flatten
        (Parser.feed config.limits reader {} segments.flatten) :=
      start.feedLoop fit reader (Nat.lt_succ_self _)
    exact (split segments).unique whole
  intro requests sent segments same
  have scanned := scanAll_flatten stable
    (requests.map fun entry => (entry.1.encode, entry.2)) (by
      intro piece present
      obtain ⟨entry, member, rfl⟩ := List.mem_map.mp present
      obtain ⟨within, reads⟩ := sent entry member
      exact scan_encode fit within reads)
  rw [List.map_map, List.map_map] at scanned
  have fed := split segments
  rw [same] at fed
  generalize Parser.feedAll config.limits reader {} segments = result at fed ⊢
  obtain ⟨next, found, fault⟩ := result
  have both := Prod.mk.inj (fed.scanned.symm.trans scanned)
  cases fault with
  | none => exact ⟨Prod.ext both.1 rfl, Except.ok.inj both.2⟩
  | some fault => cases both.2

/-- `POST / HTTP/1.1` with a chunked body, an extension and a trailer. -/
def chunkedPost : RawRequest where
  header := ascii "POST / HTTP/1.1\r\nHost: a\r\n" ++
    ascii "Transfer-Encoding: chunked\r\n\r\n"
  payload := .chunked [⟨ascii "2;x=1", ascii "hi"⟩] (ascii "0")
    (ascii "T: v\r\n\r\n")

def plainGet : RawRequest where
  header := ascii "GET / HTTP/1.1\r\nHost: a\r\n\r\n"
  payload := .none

/-- The request of a header with the given method and codings. -/
def requestOf
    (method : String)
    (codings : List Bytes) : Incoming where
  method := ascii method
  protoMajor := 1
  protoMinor := 1
  close := false
  requestURI := ascii "/"
  host := ascii "a"
  header := ∅
  transferEncoding := codings
  contentLength := if codings = [] then 0 else -1
  body := []
  bodyError := none
  trailer := ∅

def chunkedPosted : Incoming :=
  { requestOf "POST" [ascii "chunked"] with
    body := ascii "hi"
    trailer := headerOf "T" "v" }

/-- A reader of these requests. -/
def sampleReader : Reader where
  readRequest bytes :=
    if bytes = plainGet.header then .ok (requestOf "GET" [])
    else if bytes = chunkedPost.header then
      .ok (requestOf "POST" [ascii "chunked"])
    else if bytes = chunkedPost.encode then .ok chunkedPosted
    else .error (ascii "malformed HTTP request")

theorem chunkedPost_readsAs : chunkedPost.ReadsAs sampleReader chunkedPosted := by
  have header : sampleReader.readRequest chunkedPost.header =
      .ok (requestOf "POST" [ascii "chunked"]) := by
    unfold sampleReader
    dsimp only
    rw [if_neg (by decide), if_pos rfl]
  have whole : sampleReader.readRequest chunkedPost.encode = .ok chunkedPosted := by
    unfold sampleReader
    dsimp only
    rw [if_neg (by decide), if_neg (by decide), if_pos rfl]
  have once : hasHeaderField chunkedPost.header (ascii "content-length") =
      false := by
    decide
  refine ⟨_, header, .inl rfl, ascii "chunked", chunkedPosted, rfl,
    by decide, whole, by decide, rfl, ?_⟩
  rfl

theorem plainGet_readsAs :
    plainGet.ReadsAs sampleReader (requestOf "GET" []) := by
  have header : sampleReader.readRequest plainGet.header =
      .ok (requestOf "GET" []) := by
    unfold sampleReader
    dsimp only
    rw [if_pos rfl]
  exact ⟨_, header, .inl rfl, rfl, by decide, rfl⟩

/-- The requests are within limits that leave room for them. -/
theorem chunkedPost_within
    (header : 100 ≤ limits.maxHeaderBytes)
    (body : 2 ≤ limits.maxBodyBytes) :
    chunkedPost.Within limits := by
  have size : chunkedPost.header.length = 56 := by decide
  have total : chunkedPost.payload.encode.length = 22 := by decide
  refine ⟨by decide, by omega, ?_, ?_, ?_, ?_, ?_, ?_⟩
  · intro chunk present
    obtain rfl := List.mem_singleton.mp present
    exact ⟨by decide, ascii "2", [], ascii ";x=1", by decide,
      by decide, by simp, .inl (by decide),
      by decide⟩
  · exact ⟨ascii "0", [], [], by decide, by decide, by simp,
      .inr ⟨rfl, rfl⟩, by decide⟩
  · exact .inr (by decide)
  · exact body
  · have short : (ascii "T: v\r\n\r\n").length = 8 := by decide
    omega
  · change chunkedPost.payload.encode.length ≤ _
    omega

theorem plainGet_within
    (header : 100 ≤ limits.maxHeaderBytes) :
    plainGet.Within limits := by
  have size : plainGet.header.length = 27 := by decide
  exact ⟨by decide, by omega, trivial⟩

theorem requests_of_every_split_pipelined :
    defaultConfig.limits.Fit ∧ (Parser.feedAll defaultConfig.limits sampleReader {}
          ((chunkedPost.encode ++ plainGet.encode).map ([·]))).2 =
        ([chunkedPosted, requestOf "GET" []], none) := by
  have fit : defaultConfig.limits.Fit := by
    unfold Limits.Fit
    decide
  refine ⟨fit, ?_⟩
  refine ((requests_of_every_split defaultConfig sampleReader fit).2
    [(chunkedPost, chunkedPosted), (plainGet, requestOf "GET" [])]
    ?_ _ ?_).1
  · intro entry present
    simp only [List.mem_cons, List.not_mem_nil, or_false] at present
    rcases present with rfl | rfl
    · exact ⟨chunkedPost_within (by decide) (by decide), chunkedPost_readsAs⟩
    · exact ⟨plainGet_within (by decide), plainGet_readsAs⟩
  · decide

/-- A configuration whose body limit is the largest `int64`. -/
def unlimitedConfig : Config where
  maxHeaderBytes := 2 ^ 20
  maxBodyBytes := 2 ^ 63 - 1
  header_lt := defaultConfig.header_lt
  body_lt := by decide

/-- With the largest body limit the sum of the limits overflows, and a chunked
request within every limit is refused as too large. -/
theorem chunked_request_refused_without_limit :
    chunkedPost.Within unlimitedConfig.limits ∧ chunkedPost.ReadsAs sampleReader chunkedPosted ∧
      (Parser.feed unlimitedConfig.limits sampleReader {} chunkedPost.encode).2 =
        ([], some (.error .bodyTooLarge)) :=
  ⟨chunkedPost_within (by decide) (by decide), chunkedPost_readsAs,
    by decide⟩

end Http
end Fib
