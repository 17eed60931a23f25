import Fib.Http.Framing
import Fib.Library.Transition

/-!
# A handler's calls and the response they make

The handler makes any sequence of calls on its context and the server then
finishes the response.  While the connection stays open, the response is in
one of three phases: nothing but interim responses has been sent, the body is
held back, or the head has gone and the body follows it piece by piece.
-/

namespace Fib
namespace Http

open Lines Numeral Chunks Message

/-- One call of a handler that answers through the `ResponseWriter` methods.
Changes of the header are calls that replace it. -/
inductive Call where
  | setHeader (header : Header)
  | writeHeader (status : Nat)
  | write (data : Bytes)
  | flush
  | readFrom (source : Source)

/-- A context with the bytes its calls have accepted so far. -/
structure Served where
  context : Context
  accepted : Bytes

namespace Context

/-- The bytes `ReadFrom` takes its count of. -/
def offered
    (context : Context)
    (source : Source) : Bytes :=
  match source.file with
  | none => source.pieces.flatten
  | some content =>
    if context.copiesFile content then source.pieces.flatten else content

/-- What one call leaves behind and the bytes it accepts; no result stands
for a panic. -/
def perform
    (platform : Platform)
    (context : Context) :
    Call -> Option (Context × Bytes)
  | .setHeader header =>
    some ({ context with w := { context.w with header := header } }, [])
  | .writeHeader status => (context.writeHeader status).map (·, [])
  | .write data =>
    let (after, count, _) := context.write platform data
    some (after, data.take count)
  | .flush => some ((context.flushError platform).1, [])
  | .readFrom source =>
    let (after, count, _) := context.readFrom platform source
    some (after, (context.offered source).take count)

end Context

/-- One call of the handler. -/
def Served.step
    (platform : Platform)
    (served : Served)
    (call : Call) :
    Option Served :=
  (served.context.perform platform call).map fun (context, accepted) =>
    ⟨context, served.accepted ++ accepted⟩

/-- The state in which the handler is called. -/
def Served.start
    (request : Request)
    (conn : Conn) : Served :=
  ⟨{ conn := conn, request := request }, []⟩

/-! ## Headers that can go out -/

/-- Every field of the header can be written and read back. -/
def SoundHeader (header : Header) : Prop :=
  (∀ key ∈ header.keys, replaced key = false ->
    writableKey header key = true ∧ SafeName key) ∧
  ∀ name ∈ announcedTrailers header, hasCrlf name = false

instance (header : Header) : Decidable (SoundHeader header) :=
  inferInstanceAs (Decidable (_ ∧ _))

theorem SoundHeader.erase
    (sound : SoundHeader header)
    (notTrailer : removed ≠ ascii "Trailer") :
    SoundHeader (header.erase removed) := by
  have kept : ∀ key, key ≠ removed ->
      Header.values (header.erase removed) key = header.values key := by
    intro key other
    rw [Header.values, AList.lookup_erase_ne other, Header.values]
  constructor
  · intro key known kind
    rw [← AList.mem_keys, AList.mem_erase] at known
    have fine := sound.1 key known.2 kind
    rwa [writableKey, kept key known.1]
  · rw [announcedTrailers, kept _ (Ne.symm notTrailer)]
    exact sound.2

theorem SoundHeader.insert
    (sound : SoundHeader header)
    (safe : SafeName added)
    (nonempty : added ≠ [])
    (notTrailer : added ≠ ascii "Trailer")
    (value : FieldText) :
    SoundHeader (header.insert added [value.val]) := by
  constructor
  · intro key known kind
    by_cases same : key = added
    · subst same
      refine ⟨?_, safe⟩
      simp [writableKey, values_insert, nonempty, value.property]
    have among : key ∈ header.keys := by
      rw [← AList.mem_keys, AList.mem_insert] at known
      exact known.resolve_left same
    have fine := sound.1 key among kind
    rwa [writableKey, values_insert, if_neg same]
  · rw [announcedTrailers, values_insert, if_neg (Ne.symm notTrailer)]
    exact sound.2

/-- A head with a sound header is accepted and safe. -/
theorem SoundHeader.head
    {head : ResponseHead}
    (sound : SoundHeader head.header)
    (status : 100 ≤ head.status ∧ head.status ≤ 999)
    (trailers : head.chunked = true ->
      head.trailers = announcedTrailers head.header)
    (platform : Platform)
    (request : Request) :
    head.Safe request ∧
      ∃ out, appendResponseHead platform request head = .ok out := by
  have fine : ∀ key ∈ head.header.keys, head.skips request key = false ->
      writableKey head.header key = true ∧ SafeName key := by
    intro key known kept
    refine sound.1 key known ?_
    unfold ResponseHead.skips at kept
    grind
  refine ⟨⟨fun key known kept _ => (fine key known kept).2, ?_⟩, ?_⟩
  · intro chunked
    rw [trailers chunked]
    exact sound.2
  · exact ⟨_, appendResponseHead_eq_ok.mpr ⟨status, ⟨_, appendHeaderLines_eq_ok.mpr
        ⟨fun key known kept => (fine key known kept).1, rfl⟩⟩, rfl⟩⟩

/-! ## The head of a streamed response -/

namespace Writer

/-- Preparing the head changes the announced trailers and at most adds a
media type to the header that goes out. -/
theorem prepare_frame
    (platform : Platform)
    (w : Writer) :
    (w.prepare platform).header = w.header ∧ (w.prepare platform).status = w.status ∧
      (w.prepare platform).declared = w.declared ∧
      (w.prepare platform).written = w.written ∧
      (w.prepare platform).buf = w.buf ∧
      (w.prepare platform).finished = w.finished := by
  unfold prepare sniff
  grind

theorem prepare_committed
    (platform : Platform)
    (w : Writer) :
    (w.prepare platform).committed = w.committed := by
  unfold prepare sniff
  grind

variable {w : Writer}

theorem sound_prepare
    (sound : SoundHeader w.sent)
    (platform : Platform) :
    SoundHeader (w.prepare platform).sent := by
  unfold prepare sniff
  split
  · exact sound.insert (by decide) (by decide) (by decide) _
  · exact sound

/-- The header that goes out announces the trailers that were noted. -/
theorem announced_prepare
    (platform : Platform)
    (w : Writer) :
    announcedTrailers (w.prepare platform).sent = announcedTrailers w.sent := by
  have other : ascii "Trailer" ≠ ascii "Content-Type" := by decide
  unfold prepare sniff
  split
  · simp only [announcedTrailers, values_insert, if_neg other]
  · rfl

/-- The response carries no body. -/
def bodyless
    (w : Writer)
    (request : Request) : Bool :=
  request.isHead || !statusHasBody w.status

theorem head_status
    (w : Writer)
    (request : Request)
    (final : Bool) :
    (w.head request final).status = w.status := by
  unfold head
  grind

variable {request : Request}

theorem bodyless_of_head_chunked
    (chunked : (w.head request final).chunked = true) :
    w.bodyless request = false := by
  unfold head at chunked
  unfold bodyless
  grind

theorem streamed_of_head_chunked
    (chunked : (w.head request final).chunked = true) :
    w.declared = none ∧ request.protoAtLeast 1 1 = true := by
  rw [← Option.not_isSome_iff_eq_none]
  unfold head at chunked
  grind

/-- A body that is not chunked has a known length or ends the connection. -/
theorem head_length
    (hasBody : w.bodyless request = false)
    (whole : (w.head request final).chunked = false) :
    (w.head request final).close = true ∨
      ∃ length, (w.head request final).contentLength = some length ∧
        (w.declared = some length ∨ (final = true ∧ length = w.written)) := by
  rw [bodyless, Bool.or_eq_false_iff] at hasBody
  unfold head at whole ⊢
  simp only [hasBody.1, hasBody.2, Bool.not_false,
    Bool.false_eq_true, if_false, Bool.true_or, if_true] at whole ⊢
  cases declared : w.declared with
  | some length => exact .inr ⟨length, rfl, .inl rfl⟩
  | none =>
    simp only [declared, Option.isSome_none, Bool.false_eq_true, if_false] at whole ⊢
    split
    · next known =>
      rw [Bool.and_eq_true] at known
      exact .inr ⟨w.written, rfl, .inr ⟨known.1, rfl⟩⟩
    next unknown =>
    rw [if_neg unknown] at whole
    split
    · next newer => simp [newer] at whole
    · exact .inl rfl

end Writer

/-! ## Phases of a response -/

/-- Interim responses, and the given bytes behind them. -/
def Led (wire content : Bytes) : Prop :=
  ∃ pieces : List Bytes, (∀ piece ∈ pieces, Interim piece) ∧
    wire = pieces.flatten ++ content

theorem Led.append
    (led : Led wire content)
    (more : Bytes) :
    Led (wire ++ more) (content ++ more) := by
  obtain ⟨pieces, interims, rfl⟩ := led
  exact ⟨pieces, interims, by rw [List.append_assoc]⟩

/-- A status `WriteHeader` takes as final. -/
def FinalStatus (status : Nat) : Prop :=
  status = 101 ∨ (200 ≤ status ∧ status ≤ 999)

/-- The content is the accepted bytes in the framing that was chosen. -/
def Carries
    (bodyless chunked : Bool)
    (accepted content : Bytes) : Prop :=
  if bodyless then content = []
  else if chunked then
    ∃ chunks : List Bytes, (∀ piece ∈ chunks, piece ≠ []) ∧
      content = chunks.flatMap chunk ∧ chunks.flatten = accepted
  else content = accepted

/-- The status is not set. -/
structure Fresh
    (context : Context)
    (accepted : Bytes) : Prop where
  status : context.w.status = 0
  committed : context.w.committed = false
  declared : context.w.declared = none
  written : context.w.written = 0
  buf : context.w.buf = []
  accepted : accepted = []
  wire : Led context.conn.wire []

/-- The head has not gone, and the body is held back. -/
structure Held
    (context : Context)
    (accepted : Bytes) : Prop where
  status : FinalStatus context.w.status
  committed : context.w.committed = false
  sound : SoundHeader context.w.sent
  buf : context.w.buf =
    if context.w.bodyless context.request then [] else accepted
  empty : statusHasBody context.w.status = false -> accepted = []
  wire : Led context.conn.wire []

/-- The head has gone, and the body follows it. -/
structure OnWire
    (platform : Platform)
    (context : Context)
    (accepted : Bytes)
    (head : ResponseHead)
    (out content : Bytes) : Prop where
  final : FinalStatus context.w.status
  committed : context.w.committed = true
  status : head.status = context.w.status
  chunked : head.chunked = context.w.chunked
  appended : appendResponseHead platform context.request head = .ok out
  safe : head.Safe context.request
  trailers : context.w.trailers = announcedTrailers context.w.sent
  wire : Led context.conn.wire (out ++ content)
  content : Carries (context.w.bodyless context.request) context.w.chunked
    accepted content
  hasBody : context.w.chunked = true ->
    context.w.bodyless context.request = false
  streamed : context.w.chunked = true ->
    context.w.declared = none ∧ context.request.protoAtLeast 1 1 = true
  length : context.w.bodyless context.request = false ->
    context.w.chunked = false ->
      context.w.closeAfter = true ∨
        ∃ length, head.contentLength = some length ∧
          (context.w.declared = some length ∨
            (context.w.finished = true ∧ length = accepted.length))
  empty : statusHasBody context.w.status = false -> accepted = []

/-- The bytes written are counted, and stay within the declared length. -/
def Bounded
    (context : Context)
    (accepted : Bytes) : Prop :=
  ∀ length ∈ context.w.declared,
    context.w.written = accepted.length ∧ accepted.length ≤ length

/-- The status of the response is set. -/
def Begun
    (platform : Platform)
    (context : Context)
    (accepted : Bytes) :
    Prop :=
  ((Held context accepted ∧ context.w.written = accepted.length) ∨
    ∃ head out content,
      OnWire platform context accepted head out content) ∧
  Bounded context accepted

/-! ## Sending the head -/

namespace Context

/-- What sending the head leaves alone. -/
@[mk_iff] structure Keeps (before after : Context) : Prop where
  request : after.request = before.request
  wrote : after.wrote = before.wrote
  files : after.conn.files = before.conn.files
  header : after.w.header = before.w.header
  status : after.w.status = before.w.status
  declared : after.w.declared = before.w.declared
  written : after.w.written = before.w.written
  finished : after.w.finished = before.w.finished

theorem keeps_commit
    (context : Context)
    (platform : Platform)
    (final : Bool) :
    context.Keeps (context.commit platform final).1 := by
  have prepared := context.w.prepare_frame platform
  rw [keeps_iff]
  unfold commit
  dsimp only
  cases appendResponseHead platform context.request
      ((context.w.prepare platform).head context.request final) with
  | error failure => simp only [prepared, and_self]
  | ok out =>
    have files := context.conn.send_files (out ++ (context.w.prepare platform).heldBack
        ((context.w.prepare platform).head context.request final).chunked)
    dsimp only
    generalize context.conn.send _ = result at files
    obtain ⟨conn, failed⟩ := result
    dsimp only at files
    cases failed <;> cases final <;> simp [Conn.flush, prepared, files]

/-- A commit that leaves the connection open puts the head on the wire, with
the body that was held back; what can still fail is the flush. -/
theorem commit_onWire
    {context : Context}
    (held : Held context accepted)
    (counted : final = true -> context.w.finished = true ∧ context.w.written = accepted.length)
    (stillOpen : (context.commit platform final).1.conn.isOpen = true) :
    (∃ head out content, OnWire platform (context.commit platform final).1
      accepted head out content) ∧
    ((context.commit platform final).2 = none ∨
      (final = false ∧ context.conn.flushes.headD true = false)) := by
  obtain ⟨-, status, declared, written, buf, finished⟩ :=
    context.w.prepare_frame platform
  have headStatus := (context.w.prepare platform).head_status context.request final
  rw [status] at headStatus
  have range : 100 ≤ context.w.status ∧ context.w.status ≤ 999 := by
    rcases held.status with isSwitch | final <;> omega
  obtain ⟨safe, out, appended⟩ := @SoundHeader.head
    ((context.w.prepare platform).head context.request final)
    (by simpa using Writer.sound_prepare held.sound platform) (by rwa [headStatus])
    (fun chunked => by
      rw [Writer.head_trailers chunked, Writer.head_header,
        Writer.prepare_trailers, Writer.announced_prepare])
    platform context.request
  have carries : Carries (context.w.bodyless context.request)
      ((context.w.prepare platform).head context.request final).chunked
      accepted ((context.w.prepare platform).heldBack
        ((context.w.prepare platform).head context.request final).chunked) := by
    unfold Carries Writer.heldBack
    rw [buf, held.buf]
    cases bodyless : context.w.bodyless context.request with
    | true => simp
    | false =>
      simp only [Bool.false_eq_true, if_false]
      split
      · by_cases nothing : accepted = []
        · exact ⟨[], by simp, by simp [nothing], by simp [nothing]⟩
        · exact ⟨[accepted], by simpa using nothing, by simp [nothing],
            by simp⟩
      · by_cases nothing : accepted = [] <;> simp [nothing]
  unfold commit at stillOpen ⊢
  simp only [appended] at stillOpen ⊢
  obtain ⟨⟨conn, failed⟩, sent⟩ : ∃ result, context.conn.send (out ++
      (context.w.prepare platform).heldBack
        ((context.w.prepare platform).head context.request final).chunked) = result := ⟨_, rfl⟩
  have flushes := context.conn.send_flushes (out ++ (context.w.prepare platform).heldBack
      ((context.w.prepare platform).head context.request final).chunked)
  rw [sent] at stillOpen flushes ⊢
  have connOpen : conn.isOpen = true := by
    cases failed <;> cases final <;> exact stillOpen
  obtain ⟨-, rfl, wire⟩ := Conn.send_of_isOpen sent connOpen
  dsimp only at wire flushes ⊢
  have onWire : ∀ after : Conn, after.wire = conn.wire -> OnWire platform
        { context with
          conn := after
          closing := ((context.w.prepare platform).head context.request final).close
          w := { context.w.prepare platform with
            committed := true
            chunked := ((context.w.prepare platform).head context.request final).chunked
            closeAfter := ((context.w.prepare platform).head context.request final).close
            buf := [] } }
        accepted ((context.w.prepare platform).head context.request final)
        out ((context.w.prepare platform).heldBack
          ((context.w.prepare platform).head context.request final).chunked) := by
    intro after sameWire
    exact {
      final := by simpa only [status] using held.status
      committed := rfl
      status := headStatus.trans status.symm
      chunked := rfl
      appended := appended
      safe := safe
      trailers := by
        simp only [Writer.prepare_trailers, Writer.announced_prepare]
      wire := by
        simpa only [sameWire, wire, List.nil_append] using held.wire.append _
      content := by
        simpa only [Writer.bodyless, status] using carries
      hasBody := Writer.bodyless_of_head_chunked
      streamed := Writer.streamed_of_head_chunked
      length := fun hasBody whole => by
        rcases Writer.head_length hasBody whole with
          closes | ⟨length, known, source⟩
        · exact .inl closes
        · refine .inr ⟨length, known, source.imp_right fun isFinal => ?_⟩
          obtain ⟨isFinished, total⟩ := counted isFinal.1
          exact ⟨finished.trans isFinished, isFinal.2.trans (written.trans total)⟩
      empty := by simpa only [status] using held.empty }
  cases final with
  | true => exact ⟨⟨_, _, _, onWire conn rfl⟩, .inl rfl⟩
  | false =>
    refine ⟨⟨_, _, _, onWire conn.flush.1 rfl⟩, ?_⟩
    simp only [Conn.flush, flushes]
    cases context.conn.flushes.headD true <;> simp

end Context

/-! ## Adding to the body -/

theorem Carries.extend
    (carries : Carries false chunked accepted content)
    (nonempty : data ≠ []) :
    Carries false chunked (accepted ++ data)
      (content ++ if chunked then chunk data else data) := by
  unfold Carries at carries ⊢
  cases chunked with
  | false =>
    simp only [Bool.false_eq_true, if_false] at carries ⊢
    rw [carries]
  | true =>
    obtain ⟨chunks, full, rfl, rfl⟩ := carries
    refine ⟨chunks ++ [data], ?_, by simp, by simp⟩
    intro piece present
    rcases List.mem_append.mp present with before | last
    · exact full piece before
    · rwa [List.mem_singleton.mp last]

/-- More of the body behind what is on the wire. -/
theorem OnWire.extend
    {platform : Platform}
    {context after : Context}
    {accepted content out data : Bytes}
    (onWire : OnWire platform context accepted head out content)
    (running : context.w.finished = false)
    (hasBody : context.w.bodyless context.request = false)
    (nonempty : data ≠ [])
    (sameRequest : after.request = context.request)
    (sameWriter : ∃ written, after.w = { context.w with written := written })
    (wire : after.conn.wire = context.conn.wire ++
      if context.w.chunked then chunk data else data) :
    OnWire platform after (accepted ++ data) head out
      (content ++ if context.w.chunked then chunk data else data) := by
  obtain ⟨conn, request, wrote, closing, w⟩ := after
  obtain ⟨written, rfl⟩ := sameWriter
  subst sameRequest
  exact { onWire with
    wire := by
      rw [wire, ← List.append_assoc]
      exact onWire.wire.append _
    content := by
      have carries := onWire.content
      rw [hasBody] at carries
      exact (congrArg (fun bodyless => Carries bodyless _ _ _)
        hasBody).mpr (carries.extend nonempty)
    length := fun hasBody whole => by
      rcases onWire.length hasBody whole with closes | ⟨length, known, source⟩
      · exact .inl closes
      · refine .inr ⟨length, known, source.imp_right fun isFinal => ?_⟩
        exact absurd (running.symm.trans isFinal.1) Bool.false_ne_true
    empty := fun noBody => by
      rw [Writer.bodyless] at hasBody
      simp [noBody] at hasBody }

variable {context : Context}

/-- Bytes that are counted but not sent. -/
theorem OnWire.count
    {platform : Platform}
    {accepted content out : Bytes}
    {head : ResponseHead}
    (onWire : OnWire platform context accepted head out content)
    (isHead : context.request.isHead = true)
    (hasBody : statusHasBody context.w.status = true)
    (data : Bytes)
    (written : Nat) :
    OnWire platform
      { context with w := { context.w with written := written } }
      (accepted ++ data) head out content := by
  have bodyless : context.w.bodyless context.request = true := by
    rw [Writer.bodyless, isHead, Bool.true_or]
  exact { onWire with
    content := by
      have carries := onWire.content
      rw [bodyless] at carries
      exact (congrArg (fun bodyless => Carries bodyless _ _ _) bodyless).mpr carries
    length := fun hasBody => absurd (bodyless.symm.trans hasBody) (by decide)
    empty := fun noBody => absurd (hasBody.symm.trans noBody) (by decide) }

/-- Bytes that are counted and not held back. -/
theorem Held.count
    (held : Held context accepted)
    (hasBody : statusHasBody context.w.status = true)
    (unsent : context.request.isHead = true ∨ data = [])
    (written : Nat) :
    Held { context with w := { context.w with written := written } } (accepted ++ data) where
  __ := held
  buf := by
    refine held.buf.trans ?_
    rcases unsent with isHead | rfl
    · simp [Writer.bodyless, isHead]
    · simp [Writer.bodyless]
  empty := fun noBody => absurd (hasBody.symm.trans noBody) (by decide)

/-- Bytes that are held back. -/
theorem Held.hold
    (held : Held context accepted)
    (hasBody : statusHasBody context.w.status = true)
    (bodied : context.w.bodyless context.request = false)
    (data : Bytes)
    (written : Nat) :
    Held
      { context with
        w := { context.w with
          written := written
          buf := context.w.buf ++ data } }
      (accepted ++ data) where
  __ := held
  buf := by
    have buf := held.buf
    rw [bodied] at buf
    unfold Writer.bodyless at bodied ⊢
    rw [bodied]
    exact congrArg (· ++ data) buf
  empty := fun noBody => absurd (hasBody.symm.trans noBody) (by decide)

/-- The handler may still add to the response. -/
def Running (context : Context) : Prop :=
  context.wrote = false ∧ context.w.finished = false

/-- The flush behind a head that declares the length of its body does not
fail. -/
def FlushHolds (context : Context) : Prop :=
  context.w.committed = false -> context.w.declared.isSome = true ->
    context.conn.flushes.headD true = true

namespace Context

theorem sendBody_isOpen
    {context : Context}
    {data : Bytes}
    (stillOpen : (context.sendBody data).1.conn.isOpen = true) :
    context.conn.isOpen = true :=
  (Conn.send_of_isOpen rfl stillOpen).1

theorem sendBody_onWire
    {platform : Platform}
    {context : Context}
    {accepted content out data : Bytes}
    {head : ResponseHead}
    (onWire : OnWire platform context accepted head out content)
    (running : Running context)
    (hasBody : context.w.bodyless context.request = false)
    (nonempty : data ≠ [])
    (stillOpen : (context.sendBody data).1.conn.isOpen = true) :
    (context.sendBody data).2 = none ∧ (context.sendBody data).1.w = context.w ∧
      Running (context.sendBody data).1 ∧
      ∃ head out content, OnWire platform (context.sendBody data).1
        (accepted ++ data) head out content := by
  obtain ⟨-, succeeded, wire⟩ := Conn.send_of_isOpen rfl stillOpen
  exact ⟨succeeded, rfl, running, head, out, _,
    onWire.extend running.2 hasBody nonempty rfl ⟨context.w.written, rfl⟩ wire⟩

/-- The head of a response whose body is about to grow. -/
theorem ensureCommitted_onWire
    {platform : Platform}
    {context : Context}
    {accepted : Bytes}
    {final : Bool}
    (begun : Held context accepted ∨
      ∃ head out content, OnWire platform context accepted head out content)
    (counted : final = true -> context.w.finished = true ∧
        (context.w.committed = false -> context.w.written = accepted.length))
    (stillOpen : (context.ensureCommitted platform final).1.conn.isOpen = true) :
    (∃ head out content,
      OnWire platform (context.ensureCommitted platform final).1 accepted head out content) ∧
    ((context.ensureCommitted platform final).2 = none ∨
      (final = false ∧ context.w.committed = false ∧ context.conn.flushes.headD true = false)) := by
  unfold ensureCommitted at stillOpen ⊢
  rcases begun with held | ⟨head, out, content, onWire⟩
  · rw [if_pos (by rw [held.committed]; rfl)] at stillOpen ⊢
    obtain ⟨onWire, result⟩ := commit_onWire held (fun isFinal => ⟨(counted isFinal).1,
        (counted isFinal).2 held.committed⟩) stillOpen
    exact ⟨onWire, result.imp_right fun failed =>
      ⟨failed.1, held.committed, failed.2⟩⟩
  · rw [if_neg (by rw [onWire.committed]; decide)] at stillOpen ⊢
    exact ⟨⟨head, out, content, onWire⟩, .inl rfl⟩

theorem keeps_ensureCommitted
    (context : Context)
    (platform : Platform)
    (final : Bool) :
    context.Keeps (context.ensureCommitted platform final).1 := by
  unfold ensureCommitted
  split
  · exact context.keeps_commit platform final
  · exact ⟨rfl, rfl, rfl, rfl, rfl, rfl, rfl, rfl⟩

theorem Keeps.running
    {before after : Context}
    (keeps : before.Keeps after)
    (running : Running before) :
    Running after :=
  ⟨keeps.wrote.trans running.1, keeps.finished.trans running.2⟩

theorem Keeps.bounded
    {before after : Context}
    (keeps : before.Keeps after)
    (bounded : Bounded before accepted) :
    Bounded after accepted := by
  unfold Bounded
  rw [keeps.declared, keeps.written]
  exact bounded

/-- Writing keeps what is known of a response whose status is set. -/
theorem writeBody_begun
    {platform : Platform}
    {context : Context}
    {accepted data : Bytes}
    (running : Running context)
    (begun : Begun platform context accepted)
    (flushHolds : FlushHolds context)
    (stillOpen : (context.writeBody platform data).1.conn.isOpen = true) :
    Running (context.writeBody platform data).1 ∧ Begun platform (context.writeBody platform data).1
        (accepted ++ data.take (context.writeBody platform data).2.1) := by
  obtain ⟨phase, bounded⟩ := begun
  unfold writeBody at stillOpen ⊢
  rw [if_neg (by rw [running.2]; decide)] at stillOpen ⊢
  by_cases noBody : (!statusHasBody context.w.status) = true
  · rw [if_pos noBody]
    simpa using ⟨running, phase, bounded⟩
  rw [if_neg noBody] at stillOpen ⊢
  by_cases tooLong : context.w.declared.any (· < context.w.written + data.length) = true
  · rw [if_pos tooLong]
    simpa using ⟨running, phase, bounded⟩
  rw [if_neg tooLong] at stillOpen ⊢
  have hasBody : statusHasBody context.w.status = true := by
    simpa using noBody
  have grown : ∀ length ∈ context.w.declared,
      context.w.written + data.length = (accepted ++ data).length ∧
        (accepted ++ data).length ≤ length := by
    intro length declared
    obtain ⟨counted, -⟩ := bounded length declared
    rw [declared, Option.any_some, decide_eq_true_eq] at tooLong
    rw [List.length_append]
    omega
  by_cases unsent : context.request.isHead = true ∨ data = []
  · rw [if_pos unsent]
    rw [List.take_length]
    refine ⟨running, ?_, grown⟩
    rcases phase with ⟨held, counted⟩ | ⟨head, out, content, onWire⟩
    · refine .inl ⟨held.count hasBody unsent _, ?_⟩
      rw [List.length_append, ← counted]
    · rcases unsent with isHead | rfl
      · exact .inr ⟨head, out, content, onWire.count isHead hasBody data _⟩
      · rw [List.append_nil]
        exact .inr ⟨head, out, content, { onWire with }⟩
  rw [if_neg unsent] at stillOpen ⊢
  rw [not_or] at unsent
  have bodied : context.w.bodyless context.request = false := by
    rw [Writer.bodyless, hasBody]
    simpa using unsent.1
  by_cases fits : context.w.committed = false ∧
      context.w.buf.length + data.length ≤ writerBufferSize
  · rw [if_pos fits]
    rw [List.take_length]
    refine ⟨running, ?_, grown⟩
    rcases phase with ⟨held, counted⟩ | ⟨head, out, content, onWire⟩
    · refine .inl ⟨held.hold hasBody bodied data _, ?_⟩
      rw [List.length_append, ← counted]
    · exact absurd (fits.1.symm.trans onWire.committed) (by decide)
  rw [if_neg fits] at stillOpen ⊢
  have keeps := keeps_ensureCommitted { context with w := { context.w with
    written := context.w.written + data.length } } platform false
  have sent := @ensureCommitted_onWire platform { context with w := { context.w with
    written := context.w.written + data.length } } accepted false
    (phase.imp (fun ⟨held, _⟩ => { held with })
      fun ⟨head, out, content, onWire⟩ => ⟨head, out, content, { onWire with }⟩) (by simp)
  generalize ensureCommitted platform false _ = result at stillOpen keeps sent ⊢
  obtain ⟨next, failed⟩ := result
  have nextRunning : Running next := keeps.running running
  cases failed with
  | some failure =>
    obtain ⟨onWire, impossible | ⟨-, unsent, broken⟩⟩ := sent stillOpen
    · exact absurd impossible (by simp)
    rw [List.take_zero, List.append_nil]
    refine ⟨nextRunning, .inr onWire, ?_⟩
    intro length declared
    rw [keeps.declared] at declared
    have holds := flushHolds unsent (by rw [declared]; rfl)
    exact absurd (broken.symm.trans holds) (by decide)
  | none =>
    dsimp only at stillOpen ⊢
    have nextOpen : next.conn.isOpen = true := by
      refine @sendBody_isOpen next data ?_
      revert stillOpen
      generalize next.sendBody data = final
      obtain ⟨after, failure⟩ := final
      cases failure <;> exact id
    obtain ⟨⟨head, out, content, onWire⟩, -⟩ := sent nextOpen
    have nextBodied : next.w.bodyless next.request = false := by
      rw [Writer.bodyless, keeps.status, keeps.request]
      exact bodied
    have done := @sendBody_onWire platform next accepted content out data
      head onWire nextRunning nextBodied unsent.2
    generalize next.sendBody data = final at stillOpen done ⊢
    obtain ⟨after, failure⟩ := final
    have afterOpen : after.conn.isOpen = true := by
      cases failure <;> exact stillOpen
    obtain ⟨rfl, sameWriter, afterRunning, onWire⟩ := done afterOpen
    rw [List.take_length]
    refine ⟨afterRunning, .inr onWire, ?_⟩
    unfold Bounded
    rw [sameWriter]
    exact keeps.bounded grown

end Context
end Http
end Fib
