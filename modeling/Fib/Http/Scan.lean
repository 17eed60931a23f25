import Fib.Http.Parser
import Fib.Library.Scanner

/-!
# What the parser finds at the start of a stream

Where the request at the start of the buffer ends, and what is wrong with it,
is settled by the bytes up to that point; what follows them changes nothing.
Each function that determines the frame of a request has a lemma that says so
and one that bounds its result, and together they make the parser a stable
scanner.
-/

namespace Fib
namespace Http

open Lines Numeral Search Scanner

/-! ## Chunked bodies -/

variable {rest : Bytes}

/-- A trailer whose end is settled does not depend on what follows. -/
theorem trailerEnd_append
    (limits : Limits)
    (settled : trailerEnd limits rest offset ≠ .ok none)
    (later : Bytes) :
    trailerEnd limits (rest ++ later) offset = trailerEnd limits rest offset := by
  have positive := limits.header_pos
  have short : ∀ {count : Nat}, count ≤ rest.length ->
      (rest ++ later).take count = rest.take count :=
    fun within => List.take_append_of_le_length within
  unfold trailerEnd at settled ⊢
  by_cases empty : 2 ≤ rest.length ∧ rest.take 2 = crlf
  · have both : 2 ≤ (rest ++ later).length ∧ (rest ++ later).take 2 = crlf := by
      rw [short empty.1, List.length_append]
      exact ⟨by omega, empty.2⟩
    rw [if_pos empty, if_pos both]
  rw [if_neg empty] at settled ⊢
  have stays : 2 ≤ rest.length ->
      ¬(2 ≤ (rest ++ later).length ∧ (rest ++ later).take 2 = crlf) := by
    intro long both
    rw [short long] at both
    exact empty ⟨long, both.2⟩
  cases found : find headerTerminator rest with
  | some position =>
    have within := find_le found
    have long : headerTerminator.length = 4 := rfl
    rw [if_neg (stays (by omega)), find_append found later]
  | none =>
    simp only [found] at settled ⊢
    by_cases large : limits.maxHeaderBytes < rest.length
    · rw [if_pos large, if_neg (stays (by omega))]
      cases foundLater : find headerTerminator (rest ++ later) with
      | some position =>
        have beyond := length_lt_of_find_append found foundLater
        have long : headerTerminator.length = 4 := rfl
        dsimp only
        rw [if_pos (by omega)]
      | none =>
        rw [if_pos (by rw [List.length_append]; omega)]
    · rw [if_neg large] at settled
      exact absurd rfl settled

variable {limits : Limits}

theorem trailerEnd_bounds
    (ended : trailerEnd limits rest offset = .ok (some stop)) :
    offset < stop ∧ stop ≤ offset + rest.length := by
  unfold trailerEnd at ended
  split at ended
  · next empty =>
    simp only [Except.ok.injEq, Option.some.injEq] at ended
    omega
  split at ended
  · next position found =>
    have within := find_le found
    have long : headerTerminator.length = 4 := rfl
    split at ended
    · cases ended
    · simp only [Except.ok.injEq, Option.some.injEq] at ended
      omega
  · split at ended <;> cases ended

/-- A chunk takes some of the bytes that are there. -/
theorem chunkTurn_chunk
    (turn : chunkTurn limits rest offset decoded = .chunk size taken) :
    ∃ lineEnd, find crlf rest = some lineEnd ∧
      taken = lineEnd + 2 + size + 2 ∧ taken ≤ rest.length ∧
      0 < size ∧ size ≤ limits.maxBodyBytes - decoded := by
  unfold chunkTurn at turn
  split at turn
  · cases turn
  next lineEnd found =>
  split at turn
  · cases turn
  next count parsed =>
  dsimp only at turn
  split at turn
  · cases turn
  split at turn
  · cases turn
  split at turn
  · cases turn
  split at turn
  · cases turn
  split at turn
  · cases turn
  · next nonzero allowed _ enough _ =>
    cases turn
    rw [List.length_drop] at enough
    exact ⟨lineEnd, found, rfl, by omega, by omega, by omega⟩

theorem chunkTurn_ended_bounds
    (turn : chunkTurn limits rest offset decoded = .ended (.ok (some stop))) :
    offset < stop ∧ stop ≤ offset + rest.length := by
  unfold chunkTurn at turn
  split at turn
  · cases turn
  next lineEnd found =>
  split at turn
  · cases turn
  dsimp only at turn
  split at turn
  · have bounds := trailerEnd_bounds (ChunkTurn.ended.inj turn)
    rw [List.length_drop] at bounds
    omega
  split at turn
  · cases turn
  split at turn
  · cases turn
  split at turn
  · cases turn
  split at turn <;> cases turn

/-- A turn that does not wait for more does not depend on what follows. -/
theorem chunkTurn_append
    (limits : Limits)
    (settled : chunkTurn limits rest offset decoded ≠ .ended (.ok none))
    (later : Bytes) :
    chunkTurn limits (rest ++ later) offset decoded = chunkTurn limits rest offset decoded := by
  unfold chunkTurn at settled ⊢
  cases found : find crlf rest with
  | none =>
    rw [found] at settled
    exact absurd rfl settled
  | some lineEnd =>
    have within := find_le found
    have two : crlf.length = 2 := rfl
    rw [found] at settled
    rw [find_append found later]
    dsimp only at settled ⊢
    rw [List.take_append_of_le_length (by omega),
      List.drop_append_of_le_length (by omega)]
    cases parsed : chunkSize (rest.take lineEnd) with
    | none => rfl
    | some size =>
      rw [parsed] at settled
      dsimp only at settled ⊢
      by_cases last : size = 0
      · rw [if_pos last] at settled ⊢
        rw [if_pos last, trailerEnd_append limits
          (fun waiting => settled (congrArg ChunkTurn.ended waiting))]
      rw [if_neg last] at settled ⊢
      rw [if_neg last]
      by_cases large : limits.maxBodyBytes - decoded < size
      · rw [if_pos large, if_pos large]
      rw [if_neg large] at settled ⊢
      rw [if_neg large]
      generalize rest.drop (lineEnd + 2) = content at settled ⊢
      -- A turn that does not wait has all of the chunk.
      have whole : size + 2 ≤ content.length := by
        by_contra less
        apply settled
        split
        · rfl
        · rw [if_pos (by omega)]
      have more : size + 2 ≤ (content ++ later).length := by
        rw [List.length_append]
        omega
      have same : ((content ++ later).drop size).take 2 = (content.drop size).take 2 := by
        rw [List.drop_append_of_le_length (by omega), List.take_append_of_le_length
            (by rw [List.length_drop]; omega)]
      rw [if_neg (show ¬(content ++ later).length < size by omega),
        if_neg (show ¬(content ++ later).length < size + 2 by omega),
        if_neg (show ¬content.length < size by omega),
        if_neg (show ¬content.length < size + 2 by omega), same]

/-- An end that is found, and an error, do not depend on what follows. -/
theorem chunkedEnd_append
    (limits : Limits)
    (enough : fuel ≤ moreFuel)
    (settled : chunkedEnd limits fuel rest offset decoded ≠ .ok none)
    (later : Bytes) :
    chunkedEnd limits moreFuel (rest ++ later) offset decoded =
      chunkedEnd limits fuel rest offset decoded := by
  induction fuel generalizing moreFuel rest offset decoded with
  | zero => exact absurd rfl settled
  | succ fuel ih =>
    obtain ⟨moreFuel, rfl⟩ : ∃ count, moreFuel = count + 1 :=
      ⟨moreFuel - 1, by omega⟩
    rw [chunkedEnd] at settled
    rw [chunkedEnd, chunkedEnd, chunkTurn_append limits]
    · cases turn : chunkTurn limits rest offset decoded with
      | ended result => rfl
      | chunk size taken =>
        rw [turn] at settled
        obtain ⟨_, _, _, within, _⟩ := chunkTurn_chunk turn
        dsimp only at settled ⊢
        rw [List.drop_append_of_le_length within]
        exact ih (by omega) settled
    · intro waiting
      rw [waiting] at settled
      exact settled rfl

theorem chunkedEnd_bounds
    (ended : chunkedEnd limits fuel rest offset decoded = .ok (some stop)) :
    offset < stop ∧ stop ≤ offset + rest.length := by
  induction fuel generalizing rest offset decoded with
  | zero => cases ended
  | succ fuel ih =>
    rw [chunkedEnd] at ended
    split at ended
    · next result turn =>
      rw [ended] at turn
      exact chunkTurn_ended_bounds turn
    next size taken turn =>
    have bounds := ih ended
    rw [List.length_drop] at bounds
    omega

/-! ## Frames -/

/-- The frame waits for more of the request. -/
def Waits (framed : Except Fault Frame) : Prop :=
  ∃ waiting, framed = .ok (.incomplete waiting)

section Frames

variable {limits : Limits} {reader : Reader} {buffer : Bytes}
variable {headerEnd : Nat} {request : Incoming}

theorem chunkedFrame_append
    (within : headerEnd ≤ buffer.length)
    (settled : ¬Waits (chunkedFrame limits buffer headerEnd request))
    (later : Bytes) :
    chunkedFrame limits (buffer ++ later) headerEnd request =
      chunkedFrame limits buffer headerEnd request := by
  unfold chunkedFrame at settled ⊢
  dsimp only at settled ⊢
  have longer : (buffer.drop headerEnd).length ≤ (buffer.drop headerEnd ++ later).length := by
    rw [List.length_append]
    omega
  rw [List.drop_append_of_le_length within, chunkedEnd_append limits longer]
  intro waiting
  rw [waiting] at settled
  exact settled ⟨some request, rfl⟩

theorem lengthFrame_append
    (settled : ¬Waits (lengthFrame limits buffer headerEnd request))
    (later : Bytes) :
    lengthFrame limits (buffer ++ later) headerEnd request =
      lengthFrame limits buffer headerEnd request := by
  unfold lengthFrame at settled ⊢
  split
  · rfl
  split
  · rfl
  next known allowed =>
  rw [if_neg known, if_neg allowed] at settled
  by_cases more : (buffer.length : Int) < int64 (headerEnd + request.contentLength)
  · rw [if_pos more] at settled
    exact absurd ⟨_, rfl⟩ settled
  · rw [if_neg more, if_neg]
    rw [List.length_append]
    omega

theorem headerFrame_append
    (within : headerEnd ≤ buffer.length)
    (settled : ¬Waits (headerFrame limits reader buffer headerEnd))
    (later : Bytes) :
    headerFrame limits reader (buffer ++ later) headerEnd =
      headerFrame limits reader buffer headerEnd := by
  unfold headerFrame at settled ⊢
  dsimp only at settled ⊢
  rw [List.take_append_of_le_length within]
  split
  · rfl
  next small =>
  rw [if_neg small] at settled
  cases read : reader.readRequest (buffer.take headerEnd) with
  | error text => rfl
  | ok request =>
    rw [read] at settled
    dsimp only at settled ⊢
    split
    · rfl
    next plain =>
    rw [if_neg plain] at settled
    cases codings : request.transferEncoding with
    | nil =>
      rw [codings] at settled
      exact lengthFrame_append settled later
    | cons coding others =>
      rw [codings] at settled
      cases others with
      | nil =>
        dsimp only at settled ⊢
        split
        · rfl
        · next chunked =>
          rw [if_neg chunked] at settled
          exact chunkedFrame_append within settled later
      | cons other others => rfl

/-- A complete frame ends within the buffer, and not before its header unless
the sum of the lengths overflows. -/
structure FrameBounds
    (limits : Limits)
    (buffer : Bytes)
    (headerEnd : Nat)
    (frame : FrameInfo) : Prop where
  headerEnd_eq : frame.headerEnd = headerEnd
  header_le : headerEnd ≤ limits.maxHeaderBytes
  within : frame.frameEnd ≤ buffer.length
  chunked : frame.chunked = true -> (headerEnd : Int) < frame.frameEnd
  plain :
    frame.chunked = false -> frame.request.contentLength ≤ 0 ->
      frame.frameEnd = headerEnd
  sized :
    frame.chunked = false -> 0 < frame.request.contentLength ->
      frame.request.contentLength ≤ limits.maxBodyBytes ∧
        frame.frameEnd = int64 (headerEnd + frame.request.contentLength)

variable {frame : FrameInfo}

section

variable (within : headerEnd ≤ buffer.length)
include within

theorem chunkedFrame_bounds
    (small : headerEnd ≤ limits.maxHeaderBytes)
    (framed : chunkedFrame limits buffer headerEnd request = .ok (.complete frame)) :
    FrameBounds limits buffer headerEnd frame := by
  unfold chunkedFrame at framed
  dsimp only at framed
  split at framed
  · cases framed
  · cases framed
  next stop ended =>
  have bounds := chunkedEnd_bounds ended
  rw [List.length_drop] at bounds
  split at framed
  · cases framed
  cases framed
  constructor
  · rfl
  · exact small
  · dsimp only
    omega
  · dsimp only
    omega
  · intro plain
    cases plain
  · intro plain
    cases plain

theorem lengthFrame_bounds
    (small : headerEnd ≤ limits.maxHeaderBytes)
    (framed : lengthFrame limits buffer headerEnd request = .ok (.complete frame)) :
    FrameBounds limits buffer headerEnd frame := by
  have fits := limits.header_lt
  unfold lengthFrame at framed
  split at framed
  · next unknown =>
    cases framed
    constructor
    · rfl
    · exact small
    · dsimp only
      omega
    · intro chunked
      cases chunked
    · intro _ _
      rfl
    · intro _ sized
      dsimp only at sized
      omega
  split at framed
  · cases framed
  next known allowed =>
  dsimp only at framed
  split at framed
  · cases framed
  next arrived =>
  cases framed
  constructor
  · rfl
  · exact small
  · dsimp only
    omega
  · intro chunked
    cases chunked
  · intro _ empty
    dsimp only at empty ⊢
    have zero : request.contentLength = 0 := by omega
    rw [zero]
    exact int64_of_fits (by omega) (by omega)
  · intro _ _
    dsimp only
    exact ⟨by omega, rfl⟩

theorem headerFrame_bounds
    (framed : headerFrame limits reader buffer headerEnd = .ok (.complete frame)) :
    FrameBounds limits buffer headerEnd frame := by
  unfold headerFrame at framed
  dsimp only at framed
  split at framed
  · cases framed
  next small =>
  split at framed
  · split at framed <;> cases framed
  split at framed
  · cases framed
  split at framed
  · exact lengthFrame_bounds within (by omega) framed
  · split at framed
    · cases framed
    · exact chunkedFrame_bounds within (by omega) framed
  · cases framed

end

/-- The request of a frame lies within the bytes up to its end. -/
theorem takeRequest_append
    (within : frame.frameEnd ≤ buffer.length)
    (later : Bytes) :
    takeRequest limits reader (buffer ++ later) frame = takeRequest limits reader buffer frame := by
  unfold takeRequest
  rw [List.take_append_of_le_length (by omega)]

/-- The frame at the start of the input. -/
def frameOf
    (limits : Limits)
    (reader : Reader)
    (input : Bytes) :
    Except Fault Frame :=
  frameAt limits reader input ((find headerTerminator input).map (· + 4))

theorem frameOf_append
    (settled : ¬Waits (frameOf limits reader input))
    (later : Bytes) :
    frameOf limits reader (input ++ later) = frameOf limits reader input := by
  unfold frameOf at settled ⊢
  have four : headerTerminator.length = 4 := rfl
  cases found : find headerTerminator input with
  | some position =>
    have within := find_le found
    rw [found] at settled
    rw [find_append found later]
    simp only [Option.map_some, frameAt] at settled ⊢
    exact headerFrame_append (by omega) settled later
  | none =>
    rw [found] at settled
    simp only [Option.map_none, frameAt] at settled ⊢
    by_cases large : limits.maxHeaderBytes < input.length
    · rw [if_pos large]
      cases foundLater : find headerTerminator (input ++ later) with
      | some position =>
        have beyond := length_lt_of_find_append found foundLater
        simp only [Option.map_some, headerFrame]
        rw [if_pos (by omega)]
      | none =>
        simp only [Option.map_none]
        rw [if_pos (by rw [List.length_append]; omega)]
    · rw [if_neg large] at settled
      exact absurd ⟨none, rfl⟩ settled

theorem frameOf_bounds
    (framed : frameOf limits reader input = .ok (.complete frame)) :
    4 ≤ frame.headerEnd ∧ FrameBounds limits input frame.headerEnd frame := by
  unfold frameOf at framed
  have four : headerTerminator.length = 4 := rfl
  cases found : find headerTerminator input with
  | some position =>
    have within := find_le found
    rw [found] at framed
    simp only [Option.map_some, frameAt] at framed
    have bounds := headerFrame_bounds (by omega) framed
    rw [bounds.headerEnd_eq]
    exact ⟨by omega, bounds⟩
  | none =>
    rw [found] at framed
    simp only [Option.map_none, frameAt] at framed
    split at framed <;> cases framed

end Frames

/-! ## The parser as a scanner -/

/-- What the parser finds at the start of a stream. -/
def scan
    (limits : Limits)
    (reader : Reader)
    (input : Bytes) :
    Found Incoming Fault :=
  match frameOf limits reader input with
  | .error fault => .failed fault
  | .ok (.incomplete _) => .more
  | .ok (.complete frame) =>
    match takeRequest limits reader input frame with
    | .error fault => .failed fault
    | .ok request => .item request frame.frameEnd.toNat

/-- A request that is found ends within the input, behind its header. -/
theorem scan_item (found : scan limits reader input = .item request size) :
    0 < size ∧ size ≤ input.length := by
  unfold scan at found
  split at found
  · cases found
  · cases found
  next frame framed =>
  obtain ⟨positive, bounds⟩ := frameOf_bounds framed
  have within := bounds.within
  split at found
  · cases found
  next taken =>
  cases found
  by_cases chunked : frame.chunked = true
  · have behind := bounds.chunked chunked
    omega
  rw [Bool.not_eq_true] at chunked
  by_cases sized : 0 < frame.request.contentLength
  · -- A frame that ended before its header would have panicked.
    by_contra before
    rw [takeRequest, chunked, if_neg Bool.false_ne_true,
      if_pos sized, if_pos (by omega)] at taken
    cases taken
  · have ends := bounds.plain chunked (by omega)
    omega

/-- What the parser finds does not depend on what follows. -/
theorem scan_append
    (settled : scan limits reader input ≠ .more)
    (later : Bytes) :
    scan limits reader (input ++ later) = scan limits reader input := by
  unfold scan at settled ⊢
  have decided : ¬Waits (frameOf limits reader input) := by
    rintro ⟨waiting, framed⟩
    rw [framed] at settled
    exact settled rfl
  rw [frameOf_append decided]
  cases framed : frameOf limits reader input with
  | error fault => rfl
  | ok frame =>
    cases frame with
    | incomplete waiting => rfl
    | complete frame =>
      dsimp only
      rw [takeRequest_append (frameOf_bounds framed).2.within]

theorem scan_stable
    (limits : Limits)
    (reader : Reader) :
    Stable (scan limits reader) where
  empty := by
    simp [scan, frameOf, find, headerTerminator, crlf, frameAt]
  failed := by
    intro input fault found later
    rw [scan_append (by rw [found]; simp), found]
  item := by
    intro input request size found later
    rw [scan_append (by rw [found]; simp), found]
  size_pos := fun found => (scan_item found).1
  size_le := fun found => (scan_item found).2

/-- The limits leave room for the sum of the lengths they bound. -/
def Limits.Fit (limits : Limits) : Prop :=
  limits.maxHeaderBytes + limits.maxBodyBytes < 2 ^ 63

theorem headerFrame_ne_panic
    (limits : Limits)
    (reader : Reader)
    (buffer : Bytes)
    (headerEnd : Nat) :
    headerFrame limits reader buffer headerEnd ≠ .error .panic := by
  unfold headerFrame chunkedFrame lengthFrame
  dsimp only
  split
  · simp
  split
  · split <;> simp
  split
  · simp
  split
  · split
    · simp
    · split
      · simp
      · split <;> simp
  · split
    · simp
    · split
      · simp
      · simp
      · split <;> simp
  · simp

/-- Where the limits fit, no slice is out of range. -/
theorem scan_ne_panic
    (fit : limits.Fit)
    (reader : Reader)
    (input : Bytes) :
    scan limits reader input ≠ .failed .panic := by
  intro found
  unfold scan at found
  split at found
  · next fault framed =>
    cases found
    unfold frameOf frameAt at framed
    split at framed
    · split at framed <;> cases framed
    · exact headerFrame_ne_panic _ _ _ _ framed
  · cases found
  next frame framed =>
  obtain ⟨positive, bounds⟩ := frameOf_bounds framed
  have small := bounds.header_le
  unfold Limits.Fit at fit
  split at found
  · next fault taken =>
    cases found
    unfold takeRequest at taken
    split at taken
    · split at taken
      · cases taken
      · dsimp only at taken
        split at taken
        · cases taken
        · split at taken <;> cases taken
    next plain =>
    rw [Bool.not_eq_true] at plain
    split at taken
    · next sized =>
      -- The end of the body is the exact sum.
      obtain ⟨allowed, ends⟩ := bounds.sized plain sized
      rw [int64_of_fits (by omega) (by omega)] at ends
      rw [if_neg (by omega)] at taken
      cases taken
    · cases taken
  · cases found

theorem scanAll_ne_panic
    (fit : limits.Fit)
    (reader : Reader)
    (input : Bytes) :
    scanAll (scan limits reader) input ≠ (requests, .error .panic) := by
  have stable := scan_stable limits reader
  induction size : input.length using Nat.strongRecOn generalizing input requests with
  | _ count ih =>
    cases found : scan limits reader input with
    | more =>
      rw [scanAll_of_more stable found]
      exact nofun
    | failed fault =>
      rw [scanAll_of_failed stable found]
      intro panicked
      cases panicked
      exact scan_ne_panic fit reader input found
    | item request taken =>
      have positive := stable.size_pos found
      have within := stable.size_le found
      rw [scanAll_of_item stable found]
      intro panicked
      rw [Prod.mk.injEq] at panicked
      refine ih _ ?_ _ rfl (Prod.ext rfl panicked.2)
      rw [List.length_drop]
      omega

end Http
end Fib
