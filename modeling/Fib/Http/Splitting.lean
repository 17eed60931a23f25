import Fib.Http.Writer
import Mathlib.Data.List.Dedup

/-!
# What a handler supplies cannot start a line of its own

A response splits when bytes the handler gave as a name, a value or a trailer
name are read as another field or as the end of the head.  Values are checked
before they are written; names are not, and they are the only way.
-/

namespace Fib
namespace Http

open Lines Numeral Chunks

namespace Writer

/-! ## Trailers -/

theorem values_foldl_insert
    (parts : List (Bytes × List Bytes))
    (start : Header)
    (name : Bytes) :
    Header.values (parts.foldl (fun collected part =>
        collected.insert part.1 (collected.values part.1 ++ part.2)) start) name =
      start.values name ++ valuesOf name parts := by
  induction parts generalizing start with
  | nil => simp [valuesOf]
  | cons part parts ih =>
    rw [List.foldl_cons, ih, values_insert, valuesOf_cons]
    by_cases same : part.1 = name
    · simp [same]
    · simp [same, Ne.symm same]

theorem values_trailer
    (w : Writer)
    (name : Bytes) :
    w.trailer.values name = valuesOf name w.trailerParts :=
  values_foldl_insert w.trailerParts ∅ name

/-- The names the trailer lines of a committed response are written under. -/
def SafeTrailer (w : Writer) : Prop :=
  (∀ name ∈ w.trailers, w.header.values name ≠ [] -> SafeName name) ∧
    ∀ key ∈ w.header.keys, trailerPrefix.isPrefixOf key = true ->
      forbiddenTrailer (key.drop trailerPrefix.length) = false ->
      w.header.values key ≠ [] ->
        SafeName (key.drop trailerPrefix.length)

theorem safeLines_trailer_iff_parts (w : Writer) :
    SafeLines w.trailer (fun _ => false) ↔
      ∀ part ∈ w.trailerParts, part.2 ≠ [] -> SafeName part.1 := by
  rw [safeLines_iff]
  simp only [values_trailer, valuesOf_ne_nil, forall_const]
  exact ⟨fun safe part among filled => safe part.1 ⟨part, among, rfl, filled⟩,
    fun safe name ⟨part, among, same, filled⟩ => same ▸ safe part among filled⟩

theorem safeLines_trailer_iff
    {w : Writer}
    (committed : w.committed = true) :
    SafeLines w.trailer (fun _ => false) ↔ w.SafeTrailer := by
  rw [safeLines_trailer_iff_parts]
  have known : ∀ entry ∈ w.header.entries,
      w.header.values entry.1 = entry.2 := by
    intro entry present
    rw [Header.values, AList.mem_lookup_iff.mpr present]
    rfl
  simp only [trailerParts, committed, if_true, SafeTrailer, List.mem_append,
    List.mem_map, List.mem_filter, or_imp, forall_and]
  apply and_congr
  · constructor
    · intro safe name present nonempty
      exact safe (name, w.header.values name)
        ⟨name, ⟨present, by simpa using nonempty⟩, rfl⟩ nonempty
    · rintro safe _ ⟨name, ⟨present, nonempty⟩, rfl⟩ _
      exact safe name present (by simpa using nonempty)
  constructor
  · intro safe key isKey prefixed allowed nonempty
    obtain ⟨entry, present, rfl⟩ := List.mem_map.mp isKey
    rw [← safeName_canonicalHeaderKey]
    refine safe (_, entry.2) ⟨entry, ⟨present, ?_⟩, rfl⟩ ?_
    · simp [prefixed, allowed]
    · rwa [← known entry present]
  rintro safe _ ⟨entry, ⟨present, chosen⟩, rfl⟩ nonempty
  rw [Bool.and_eq_true, Bool.not_eq_true'] at chosen
  rw [safeName_canonicalHeaderKey]
  refine safe entry.1 (List.mem_map_of_mem present) chosen.1 chosen.2 ?_
  rwa [known entry present]

/-- The announced names that have values. -/
def filledNames (w : Writer) : List Bytes :=
  w.trailers.filter fun name => w.header.values name != []

/-- What the handler set under keys with the trailer prefix. -/
def prefixedTrailers (w : Writer) : List (Bytes × List Bytes) :=
  (w.header.entries.filter fun entry =>
    trailerPrefix.isPrefixOf entry.1 &&
      !forbiddenTrailer (entry.1.drop trailerPrefix.length)).map fun entry =>
    (canonicalHeaderKey (entry.1.drop trailerPrefix.length), entry.2)

/-- The trailers the handler set: its values for each name that is announced,
and those under keys with the trailer prefix.  A trailer section of which a line
is refused is left out. -/
def givenTrailer (w : Writer) : List (Bytes × List Bytes) :=
  if (appendHeaderLines w.trailer fun _ => false).isOk then
    w.filledNames.dedup.map (fun name => (name, w.header.values name)) ++ w.prefixedTrailers
  else []

/-- The values of a name come once for each time it is listed. -/
theorem length_valuesOf_map
    (header : Header)
    (names : List Bytes)
    (name : Bytes) :
    (valuesOf name (names.map fun name => (name, header.values name))).length =
      names.count name * (header.values name).length := by
  induction names with
  | nil => simp [valuesOf]
  | cons first names ih =>
    rw [List.map_cons, valuesOf_cons, List.length_append, ih, List.count_cons]
    by_cases same : first = name
    · simp [same, Nat.add_mul, Nat.add_comm]
    · simp [same]

theorem valuesOf_append
    (name : Bytes)
    (first second : List (Bytes × List Bytes)) :
    valuesOf name (first ++ second) = valuesOf name first ++ valuesOf name second := by
  simp [valuesOf]

/-- The trailer section reads back as what the handler set exactly when the
names that are written are safe and none of them was announced twice. -/
theorem readTrailed_ending_iff
    {w : Writer}
    (committed : w.committed = true) :
    (∃ fields, readTrailed w.ending = some ([], fields) ∧ Lists fields w.givenTrailer) ↔
      ((appendHeaderLines w.trailer fun _ => false).isOk = true ->
        w.SafeTrailer ∧ w.filledNames.Nodup) := by
  unfold ending
  cases written : appendHeaderLines w.trailer fun _ => false with
  | error failure =>
    have read := (readTrailed_flatMap [] (by simp) []).mpr (by simp)
    refine iff_of_true ⟨[], by simpa using read, ?_⟩ (by simp [Except.toBool])
    simp [givenTrailer, written, Except.toBool, Lists, valuesOf]
  | ok lines =>
    have given : w.givenTrailer =
        w.filledNames.dedup.map (fun name => (name, w.header.values name)) ++
          w.prefixedTrailers := by
      simp [givenTrailer, written, Except.toBool, prefixedTrailers]
    have parts : w.trailerParts =
        w.filledNames.map (fun name => (name, w.header.values name)) ++
          w.prefixedTrailers := by
      simp only [trailerParts, committed, if_true, filledNames, prefixedTrailers]
    have sameParts : ∀ part, part ∈ w.givenTrailer ↔ part ∈ w.trailerParts := by
      intro part
      rw [given, parts]
      simp only [List.mem_append, List.mem_map, List.mem_dedup]
    have reads := @exists_readTrailed_iff _ _ w.givenTrailer [] written (by simp)
        fun name held => by
      rw [values_trailer, valuesOf_ne_nil] at held
      obtain ⟨part, among, found⟩ := held
      exact valuesOf_ne_nil.mpr ⟨part, (sameParts part).mpr among, found⟩
    simp only [List.flatMap_nil, List.nil_append, List.flatten_nil, ← List.append_assoc] at reads
    rw [reads]
    simp only [sameParts, ← safeLines_trailer_iff_parts, safeLines_trailer_iff committed,
      values_trailer]
    simp only [Except.toBool, forall_const]
    refine and_congr_right fun _ => ?_
    rw [parts, given]
    simp only [valuesOf_append, List.append_cancel_right_eq]
    refine ⟨fun once => ?_, fun distinct name => by rw [distinct.dedup]⟩
    rw [List.nodup_iff_count_le_one]
    intro name
    by_cases among : name ∈ w.filledNames
    · have lengths := congrArg List.length (once name)
      rw [length_valuesOf_map, length_valuesOf_map] at lengths
      have filled : 0 < (w.header.values name).length := by
        rw [filledNames, List.mem_filter] at among
        exact List.length_pos_iff.mpr (by simpa using among.2)
      rw [Nat.eq_of_mul_eq_mul_right filled lengths]
      exact List.nodup_iff_count_le_one.mp (List.nodup_dedup _) name
    · rw [List.count_eq_zero_of_not_mem among]
      exact Nat.zero_le 1

/-! ## Heads -/

@[simp] theorem prepare_trailers
    (platform : Platform)
    (w : Writer) :
    (w.prepare platform).trailers = announcedTrailers w.sent := by
  unfold prepare sniff
  split <;> rfl

/-- The media type the server adds has a safe name. -/
theorem safeLines_prepare
    (platform : Platform)
    (w : Writer)
    (skip : Bytes -> Bool) :
    SafeLines (w.prepare platform).sent skip ↔ SafeLines w.sent skip := by
  unfold prepare sniff
  split
  · next added =>
    have safeType : SafeName (ascii "Content-Type") := by decide
    simp only [safeLines_iff, values_insert]
    grind
  · rfl

@[simp] theorem head_header
    (w : Writer)
    (request : Request)
    (final : Bool) :
    (w.head request final).header = w.sent := by
  unfold head
  grind

theorem head_trailers
    {w : Writer}
    {request : Request}
    (chunked : (w.head request final).chunked = true) :
    (w.head request final).trailers = w.trailers := by
  unfold head at chunked ⊢
  grind

end Writer

namespace Context

/-- The head that `commit` sends reads back as its status line, the fields
the server adds and one field for each value of the header, and what it
leaves is the body that was held back. -/
def HeadReadsBack
    (context : Context)
    (platform : Platform)
    (final : Bool)
    (emitted : Bytes) : Prop :=
  let w := context.w.prepare platform
  let head := w.head context.request final
  readHead emitted =
    some ((head.statusLine context.request,
      head.fields platform context.request), w.heldBack head.chunked)

/-- The names in the header and the announced trailer names are safe. -/
def SafeHead
    (context : Context)
    (platform : Platform)
    (final : Bool) :
    Prop :=
  let head := (context.w.prepare platform).head context.request final
  SafeLines context.w.sent (head.skips context.request) ∧
    (head.chunked = true ->
      ∀ name ∈ announcedTrailers context.w.sent, hasCrlf name = false)

theorem safe_head_iff
    (context : Context)
    (platform : Platform)
    (final : Bool) :
    ((context.w.prepare platform).head context.request final).Safe
      context.request ↔ context.SafeHead platform final := by
  simp only [ResponseHead.Safe, SafeHead, Writer.head_header, Writer.safeLines_prepare]
  refine and_congr_right fun _ => imp_congr_right fun chunked => ?_
  rw [Writer.head_trailers chunked, Writer.prepare_trailers]

variable {context : Context}

/-- `commit` sends the head with the body that was held back, or nothing. -/
theorem commit_wire
    (sent : (context.commit platform final).1.conn.wire =
      context.conn.wire ++ emitted)
    (nonempty : emitted ≠ []) :
    ∃ out, appendResponseHead platform context.request
        ((context.w.prepare platform).head context.request final) = .ok out ∧
      emitted = out ++ (context.w.prepare platform).heldBack
        ((context.w.prepare platform).head context.request final).chunked := by
  unfold commit at sent
  cases accepted : appendResponseHead platform context.request
      ((context.w.prepare platform).head context.request final) with
  | error failure => simp [accepted, nonempty] at sent
  | ok out =>
    simp only [accepted] at sent
    have wire := context.conn.send_wire (out ++ (context.w.prepare platform).heldBack
        ((context.w.prepare platform).head context.request final).chunked)
    generalize context.conn.send _ = result at sent wire
    obtain ⟨conn, failed⟩ := result
    have same : conn.wire = context.conn.wire ++ emitted := by
      cases failed <;> cases final <;> exact sent
    rw [same] at wire
    simpa [nonempty] using wire

theorem headReadsBack_iff
    (nonempty : emitted ≠ [])
    (sent : (context.commit platform final).1.conn.wire = context.conn.wire ++ emitted) :
    context.HeadReadsBack platform final emitted ↔ context.SafeHead platform final := by
  obtain ⟨out, accepted, rfl⟩ := commit_wire sent nonempty
  have reads := exists_readHead_iff accepted ((context.w.prepare platform).heldBack
      ((context.w.prepare platform).head context.request final).chunked)
    (· = (context.w.prepare platform).heldBack
      ((context.w.prepare platform).head context.request final).chunked)
  rw [safe_head_iff] at reads
  simpa [HeadReadsBack] using reads

/-- Ending a chunked body sends its ending, or nothing. -/
theorem endBody_wire
    (chunked : context.w.chunked = true)
    (nonempty : emitted ≠ [])
    (sent : context.endBody.1.conn.wire = context.conn.wire ++ emitted) :
    emitted = context.w.ending := by
  have wire := context.conn.send_wire context.w.ending
  unfold endBody at sent
  simp only [chunked, if_true] at sent
  generalize context.conn.send context.w.ending = result at sent wire
  obtain ⟨conn, failed⟩ := result
  have same : conn.wire = context.conn.wire ++ emitted := by
    cases failed with
    | some failure => exact sent
    | none =>
      dsimp only at sent
      split at sent <;> exact sent
  rw [same] at wire
  simpa [nonempty] using wire

end Context

/-! ## The main result -/

/-- Whatever the server accepts from a handler, a whole response, the header
and announcements of a streamed one, or its trailers, reads back field by
field exactly when the names the handler gave are safe. -/
theorem reads_back_iff_names_safe (platform : Platform) :
    (∀ request response closeConnection out,
      marshalResponse platform request response closeConnection = .ok out ->
        (response.ReadsBack platform request closeConnection out ↔
          response.Safe request closeConnection)) ∧
    (∀ (context : Context) final emitted, emitted ≠ [] ->
      (context.commit platform final).1.conn.wire = context.conn.wire ++ emitted ->
        (context.HeadReadsBack platform final emitted ↔ context.SafeHead platform final)) ∧
    (∀ (context : Context) emitted, context.w.committed = true ->
      context.w.chunked = true -> emitted ≠ [] ->
      context.endBody.1.conn.wire = context.conn.wire ++ emitted ->
        ((∃ fields, readTrailed emitted = some ([], fields) ∧
            Lists fields context.w.givenTrailer) ↔
          ((appendHeaderLines context.w.trailer fun _ => false).isOk = true ->
            context.w.SafeTrailer ∧ context.w.filledNames.Nodup))) := by
  refine ⟨?_, ?_, ?_⟩
  · intro request response closeConnection out accepted
    exact readsBack_iff_of_marshalResponse accepted
  · intro context final emitted nonempty sent
    exact Context.headReadsBack_iff nonempty sent
  · intro context emitted committed chunked nonempty sent
    rw [Context.endBody_wire chunked nonempty sent]
    exact Writer.readTrailed_ending_iff committed

/-- A platform at a fixed time. -/
def epoch : Platform where
  date := ⟨ascii "Thu, 01 Jan 1970 00:00:00 GMT", by decide⟩
  detectContentType := fun _ => ⟨ascii "application/octet-stream", by decide⟩

def getRequest : Request where
  method := ascii "GET"
  protoMajor := 1
  protoMinor := 1
  close := false

def headerOf (key value : String) : Header :=
  (∅ : Header).insert (ascii key) [ascii value]

def okResponse (header : Header) : Response where
  statusCode := 200
  header := header
  body := ascii "hello"
  trailer := ∅
  close := false

/-- A streamed response with the given header, about to be committed. -/
def streaming (header : Header) : Context where
  conn := {}
  request := getRequest
  w := { sent := header, status := 200 }

/-- The same once its head has gone out in chunks. -/
def streamed (header : Header) : Context :=
  ((streaming header).commit epoch false).1

/-- The same with a value for the trailer it announced. -/
def summed : Context :=
  let context := streamed (headerOf "Trailer" "X-Sum")
  { context with w := { context.w with header := headerOf "X-Sum" "7" } }

theorem reads_back_iff_names_safe_plain :
    (∃ out, marshalResponse epoch getRequest
        (okResponse (headerOf "X-Id" "7")) false = .ok out ∧
      (okResponse (headerOf "X-Id" "7")).ReadsBack epoch getRequest false
        out) ∧
    (streaming (headerOf "Trailer" "X-Sum")).HeadReadsBack epoch false
      (streamed (headerOf "Trailer" "X-Sum")).conn.wire ∧
    (∃ fields, readTrailed (ascii "0\r\nX-Sum: 7\r\n\r\n") = some ([], fields) ∧
      Lists fields summed.w.givenTrailer) := by
  refine ⟨⟨_, rfl, ?_⟩, ?_, ?_⟩
  · refine ((reads_back_iff_names_safe epoch).1 _ _ _ _ rfl).mpr ⟨?_, ?_⟩
    · decide
    · intro chunked
      exact absurd chunked (by decide)
  · refine ((reads_back_iff_names_safe epoch).2.1 _ _ _
      (by decide) rfl).mpr ⟨?_, ?_⟩ <;> decide
  · refine ((reads_back_iff_names_safe epoch).2.2 summed _ rfl rfl
      (by decide) (by decide +kernel)).mpr fun _ => ⟨⟨?_, ?_⟩, ?_⟩ <;> decide +kernel

/-- A name of the header and an announced trailer name are read as fields of
their own. -/
theorem names_add_cookie_fields :
    (∃ out, marshalResponse epoch getRequest
        (okResponse (headerOf "A: b\r\nSet-Cookie" "session=1")) false =
          .ok out ∧
      ¬(okResponse (headerOf "A: b\r\nSet-Cookie" "session=1")).ReadsBack
        epoch getRequest false out ∧
      (ascii "Set-Cookie", ascii "session=1") ∈
        ((readHead out).map fun head => head.1.2).getD []) ∧
    (¬(streaming (headerOf "Trailer" "A\r\nSet-Cookie: session=1")).HeadReadsBack
        epoch false (streamed (headerOf "Trailer"
          "A\r\nSet-Cookie: session=1")).conn.wire ∧
      (ascii "Set-Cookie", ascii "session=1") ∈
        ((readHead (streamed (headerOf "Trailer"
          "A\r\nSet-Cookie: session=1")).conn.wire).map
            fun head => head.1.2).getD []) := by
  refine ⟨⟨_, rfl, ?_, ?_⟩, ?_, ?_⟩
  · rw [readsBack_iff_of_marshalResponse rfl]
    intro safe
    exact absurd safe.1 (by decide)
  · decide
  · rw [Context.headReadsBack_iff (by decide) rfl]
    intro safe
    exact absurd (safe.2 (by decide)) (by decide)
  · decide

end Http
end Fib
