import Fib.Http.Serving

/-!
# Streamed responses are complete

Every call of a handler keeps the phase its response is in, and finishing the
response turns the phase into one complete response on the wire.
-/

namespace Fib
namespace Http

open Lines Numeral Chunks Message

/-- What is known of a response while its handler runs. -/
def Phase
    (platform : Platform)
    (context : Context)
    (accepted : Bytes) :
    Prop :=
  Fresh context accepted ∨ Begun platform context accepted

/-- A header that is about to be taken over is sound. -/
def HeaderHolds (context : Context) : Prop :=
  context.w.status = 0 -> SoundHeader context.w.header

/-! ## Setting the status -/

variable {platform : Platform} {context : Context} {accepted : Bytes}

theorem Fresh.setStatus
    (fresh : Fresh context accepted)
    (sound : SoundHeader context.w.header)
    {status : Nat}
    (final : FinalStatus status) :
    Begun platform (context.setStatus status) accepted := by
  refine ⟨.inl ⟨{
    status := final
    committed := fresh.committed
    sound := ?_
    buf := ?_
    empty := fun _ => fresh.accepted
    wire := fresh.wire }, ?_⟩, ?_⟩
  · unfold Context.setStatus
    dsimp only
    split
    · exact sound
    · exact sound.erase (by decide)
  · rw [fresh.accepted, ite_self]
    exact fresh.buf
  · rw [fresh.accepted]
    exact fresh.written
  · intro length _
    rw [fresh.accepted]
    exact ⟨fresh.written, Nat.zero_le length⟩

theorem Begun.status_ne_zero
    (begun : Begun platform context accepted) :
    context.w.status ≠ 0 := by
  have final : FinalStatus context.w.status := by
    rcases begun.1 with ⟨held, -⟩ | ⟨_, _, _, onWire⟩
    · exact held.status
    · exact onWire.final
  rcases final with isSwitch | range <;> omega

theorem Phase.ensureStatus
    (phase : Phase platform context accepted)
    (holds : HeaderHolds context) :
    Begun platform context.ensureStatus accepted := by
  unfold Context.ensureStatus
  rcases phase with fresh | begun
  · rw [if_pos fresh.status]
    exact fresh.setStatus (holds fresh.status) (.inr (by decide))
  · rwa [if_neg begun.status_ne_zero]

theorem Running.ensureStatus
    (running : Running context) :
    Running context.ensureStatus := by
  unfold Context.ensureStatus
  split
  · exact running
  · exact running

theorem Fresh.setHeader
    (fresh : Fresh context accepted)
    (header : Header) :
    Fresh { context with w := { context.w with header := header } } accepted :=
  { fresh with }

/-- A change of the header that has not been taken over, or only counts for
trailers. -/
theorem Phase.setHeader
    (phase : Phase platform context accepted)
    (header : Header) :
    Phase platform
      { context with w := { context.w with header := header } } accepted := by
  rcases phase with fresh | ⟨⟨held, counted⟩ | ⟨head, out, content, onWire⟩, bounded⟩
  · exact .inl (fresh.setHeader header)
  · exact .inr ⟨.inl ⟨{ held with }, counted⟩, bounded⟩
  · exact .inr ⟨.inr ⟨head, out, content, { onWire with }⟩, bounded⟩

/-! ## Interim responses -/

/-- No name of the header holds a line end. -/
def UnbrokenNames (header : Header) : Prop :=
  ∀ key ∈ header.keys, hasCrlf key = false

theorem interim_of_lines
    (interim : isInterim status = true)
    (unbroken : UnbrokenNames header)
    (written : appendHeaderLines header (fun _ => false) = .ok lines) :
    Interim (interimLine status ++ crlf ++ lines ++ crlf) := by
  obtain ⟨valid, rfl⟩ := appendHeaderLines_eq_ok.mp written
  have clean : ∀ field ∈ headerFields header (fun _ => false),
      hasCrlf (fieldLine field) = false := by
    intro field present
    obtain ⟨-, among⟩ := mem_headerFields.mp present
    have known := header.mem_keys_of_values_ne_nil (List.ne_nil_of_mem among)
    have writable := valid field.1 known rfl
    rw [writableKey, Bool.and_eq_true, List.all_eq_true] at writable
    rw [hasCrlf_fieldLine, unbroken field.1 known,
      hasCrlf_of_validHeaderValue (writable.2 field.2 among)]
    rfl
  have line : hasCrlf (interimLine status) = false := by
    apply hasCrlf_eq_false_of_forall
    have version : ∀ byte ∈ ascii "HTTP/1.1 ", byte ≠ 13 := by
      decide +kernel
    have blank : ∀ byte ∈ ascii " ", byte ≠ 13 := by
      decide +kernel
    intro byte present
    simp only [interimLine, List.mem_append] at present
    rcases present with ((present | present) | present) | present
    exacts [version byte present,
      (digits_ne (by decide) (by decide) _ byte present).1,
      blank byte present, statusText_ne_return status byte present]
  refine ⟨by simp [crlf], fun rest => ?_⟩
  obtain ⟨read, reads⟩ := exists_readFields clean rest
  refine ⟨interimLine status, read, status, ?_, ?_, interim⟩
  · rw [List.append_assoc, List.append_assoc,
      ← List.append_assoc (fieldLines _), readHead_append line, reads]
    rfl
  have parsed := @lineStatus_append (ascii "HTTP/1.1") (by decide) status
    (statusText status)
  rw [← parsed]
  simp [interimLine, show ascii "HTTP/1.1 " = ascii "HTTP/1.1" ++ [32] from rfl,
    show ascii " " = [32] from rfl]

theorem Fresh.writeInterim
    (fresh : Fresh context accepted)
    {status : Nat}
    (interim : isInterim status = true)
    (unbroken : UnbrokenNames header)
    (stillOpen : (context.writeInterim status header).1.conn.isOpen = true) :
    Fresh (context.writeInterim status header).1 accepted := by
  unfold Context.writeInterim at stillOpen ⊢
  split
  · exact fresh
  split
  · exact fresh
  split
  · exact fresh
  rename_i range later newer
  simp only [if_neg range, if_neg later, if_neg newer] at stillOpen
  cases written : appendHeaderLines header fun _ => false with
  | error failure => exact fresh
  | ok lines =>
    simp only [written] at stillOpen ⊢
    obtain ⟨-, -, wire⟩ := Conn.send_of_isOpen Prod.mk.eta.symm stillOpen
    refine { fresh with wire := ?_ }
    obtain ⟨pieces, interims, led⟩ := fresh.wire
    refine ⟨pieces ++ [interimLine status ++ crlf ++ lines ++ crlf], ?_, ?_⟩
    · intro piece present
      rcases List.mem_append.mp present with before | last
      · exact interims piece before
      · rw [List.mem_singleton.mp last]
        exact interim_of_lines interim unbroken written
    · rw [wire, led]
      simp

/-! ## Calls on a closed connection -/

/-- A connection that is closed takes no bytes and stays closed. -/
def Conn.Quiet (before after : Conn) : Prop :=
  before.isOpen = false -> after.isOpen = false ∧ after.wire = before.wire

namespace Conn

section

variable (conn : Conn)

theorem Quiet.refl : conn.Quiet conn :=
  fun closed => ⟨closed, rfl⟩

theorem Quiet.trans
    {first second third : Conn}
    (early : first.Quiet second)
    (late : second.Quiet third) :
    first.Quiet third := by
  intro closed
  obtain ⟨stillClosed, sameWire⟩ := early closed
  obtain ⟨atLast, same⟩ := late stillClosed
  exact ⟨atLast, same.trans sameWire⟩

/-- What a call returns, once it is taken apart. -/
theorem Quiet.of_eq
    {before : Conn}
    (quiet : before.Quiet result.1)
    (equal : result = (after, rest)) :
    before.Quiet after := by
  rwa [equal] at quiet

theorem Quiet.isOpen
    {before after : Conn}
    (quiet : before.Quiet after)
    (stillOpen : after.isOpen = true) :
    before.isOpen = true := by
  by_contra closed
  rw [(quiet (Bool.eq_false_of_not_eq_true closed)).1] at stillOpen
  cases stillOpen

theorem quiet_send (data : Bytes) : conn.Quiet (conn.send data).1 := by
  intro closed
  unfold send
  grind

theorem quiet_sendFile
    (content : Bytes) :
    conn.Quiet (conn.sendFile content).1 := by
  intro closed
  unfold sendFile
  grind

theorem quiet_flush : conn.Quiet conn.flush.1 :=
  fun closed => ⟨closed, rfl⟩

theorem quiet_closeAfterSend : conn.Quiet conn.closeAfterSend :=
  fun _ => ⟨rfl, rfl⟩

end

end Conn

namespace Context

@[simp] theorem ensureStatus_conn (context : Context) :
    context.ensureStatus.conn = context.conn := by
  unfold ensureStatus
  split <;> rfl

theorem beginFile_frame
    (platform : Platform)
    (context : Context)
    (content : Bytes) :
    (context.beginFile platform content).conn = context.conn ∧
      (context.beginFile platform content).request = context.request ∧
      (context.beginFile platform content).wrote = context.wrote ∧
      (context.beginFile platform content).w.finished = context.w.finished ∧
      (context.beginFile platform content).w.written = context.w.written ∧
      (context.beginFile platform content).w.status =
        (if context.w.status = 0 then 200 else context.w.status) ∧
      (context.beginFile platform content).w.declared =
        if context.w.status = 0 then declaredLength context.w.header
        else context.w.declared := by
  have other : ascii "Content-Length" ≠ ascii "Content-Type" := by decide
  unfold beginFile
  split
  · refine ⟨rfl, rfl, rfl, rfl, rfl, rfl, ?_⟩
    simp only [setStatus]
    split
    · rw [declaredLength, values_insert, if_neg other, declaredLength]
    · rfl
  · simp

section

variable (context : Context)

section

variable (platform : Platform)

theorem quiet_commit (final : Bool) :
    context.conn.Quiet (context.commit platform final).1.conn := by
  unfold commit
  dsimp only
  split
  · exact .refl _
  split
  · next sent => exact (context.conn.quiet_send _).of_eq sent
  next conn sent =>
  have quiet := (context.conn.quiet_send _).of_eq sent
  split
  · exact quiet
  · exact quiet.trans conn.quiet_flush

theorem quiet_ensureCommitted (final : Bool) :
    context.conn.Quiet (context.ensureCommitted platform final).1.conn := by
  unfold ensureCommitted
  split
  · exact context.quiet_commit platform final
  · exact .refl _

theorem quiet_writeBody (data : Bytes) :
    context.conn.Quiet (context.writeBody platform data).1.conn := by
  unfold writeBody
  dsimp only
  split
  · exact .refl _
  split
  · exact .refl _
  split
  · exact .refl _
  split
  · exact .refl _
  split
  · exact .refl _
  have committed := quiet_ensureCommitted { context with
    w := { context.w with written := context.w.written + data.length } }
    platform false
  split
  · next failed => rwa [failed] at committed
  next next went =>
  rw [went] at committed
  have sent : next.conn.Quiet (next.sendBody data).1.conn := next.conn.quiet_send _
  split
  all_goals
    next result =>
    rw [result] at sent
    exact committed.trans sent

theorem quiet_write (data : Bytes) :
    context.conn.Quiet (context.write platform data).1.conn := by
  unfold write
  split
  · exact .refl _
  · rw [← context.ensureStatus_conn]
    exact context.ensureStatus.quiet_writeBody platform data

theorem quiet_copy (pieces : List Bytes) :
    context.conn.Quiet (context.copy platform pieces).1.conn := by
  induction pieces generalizing context with
  | nil => exact .refl _
  | cons piece pieces ih =>
    rw [copy]
    split
    · exact ih context
    have written := context.quiet_write platform piece
    split
    · next failed => rwa [failed] at written
    · next next _ went =>
      rw [went] at written
      exact written.trans (ih next)

theorem quiet_sendContent (content : Bytes) :
    context.conn.Quiet (context.sendContent content).1.conn := by
  unfold sendContent
  dsimp only
  split
  · next size => exact (context.conn.quiet_send _).of_eq size
  next first size =>
  have begun := (context.conn.quiet_send _).of_eq size
  split
  · next file => exact begun.trans ((first.quiet_sendFile content).of_eq file)
  next second file =>
  have sent := begun.trans ((first.quiet_sendFile content).of_eq file)
  split
  all_goals
    next ending => exact sent.trans ((second.quiet_send _).of_eq ending)

theorem quiet_readFrom (source : Source) :
    context.conn.Quiet (context.readFrom platform source).1.conn := by
  unfold readFrom
  split
  · exact .refl _
  split
  · exact context.quiet_copy platform source.pieces
  split
  · exact context.quiet_copy platform source.pieces
  next content _ _ =>
  have committed := (context.beginFile platform content).quiet_ensureCommitted platform false
  rw [(context.beginFile_frame platform content).1] at committed
  split
  · next failed => rwa [failed] at committed
  · next next went =>
    rw [went] at committed
    exact committed.trans (next.quiet_sendContent content)

theorem quiet_flushError :
    context.conn.Quiet (context.flushError platform).1.conn := by
  unfold flushError
  split
  · exact .refl _
  rw [← context.ensureStatus_conn]
  dsimp only
  split
  · exact .refl _
  split
  · exact context.ensureStatus.quiet_commit platform false
  · exact context.ensureStatus.conn.quiet_flush

theorem quiet_writeInterim
    (status : Nat)
    (header : Header) :
    context.conn.Quiet (context.writeInterim status header).1.conn := by
  unfold writeInterim
  split
  · exact .refl _
  split
  · exact .refl _
  split
  · exact .refl _
  split
  · exact .refl _
  · exact context.conn.quiet_send _

theorem quiet_endBody : context.conn.Quiet context.endBody.1.conn := by
  unfold endBody
  split
  · next sent => exact (context.conn.quiet_send _).of_eq sent
  next conn sent =>
  have quiet := (context.conn.quiet_send _).of_eq sent
  split
  · exact quiet.trans conn.quiet_closeAfterSend
  · exact quiet

theorem quiet_finish :
    context.conn.Quiet (context.finish platform).1.conn := by
  unfold finish
  split
  · exact .refl _
  have committed := quiet_ensureCommitted
    { context with w := { context.w with finished := true } } platform true
  dsimp only
  split
  · next failed => rwa [failed] at committed
  · next next went =>
    rw [went] at committed
    exact committed.trans next.quiet_endBody

theorem quiet_writeResponse (response : Response) :
    context.conn.Quiet (context.writeResponse platform response).1.conn := by
  unfold writeResponse
  split
  · exact .refl _
  dsimp only
  split
  · exact .refl _
  next data _ =>
  split
  · next sent => exact (context.conn.quiet_send data).of_eq sent
  next conn sent =>
  have quiet := (context.conn.quiet_send data).of_eq sent
  split
  · exact quiet.trans conn.quiet_closeAfterSend
  · exact quiet

end

end

end Context

/-! ## Writing -/

namespace Context

variable {context : Context} {platform : Platform}

/-- Committing uses up the flush it makes. -/
theorem ensureCommitted_flushHolds (holds : FlushHolds context) :
    FlushHolds (context.ensureCommitted platform final).1 := by
  unfold ensureCommitted
  split
  · unfold commit
    dsimp only
    split
    · intro uncommitted
      rw [Writer.prepare_committed] at uncommitted
      rw [(context.w.prepare_frame platform).2.2.1]
      exact holds uncommitted
    · split
      · nofun
      · split <;> nofun
  · exact holds

theorem sendBody_flushHolds
    (holds : FlushHolds context)
    (data : Bytes) :
    FlushHolds (context.sendBody data).1 := by
  intro uncommitted declared
  have kept := holds uncommitted declared
  simpa [sendBody] using kept

/-- A write reports all of its bytes or none, and keeps the coming flush as it
is while the head has not gone. -/
theorem writeBody_result
    (platform : Platform)
    (context : Context)
    (data : Bytes) :
    ((context.writeBody platform data).2 = (data.length, none) ∨
      ∃ failure, (context.writeBody platform data).2 = (0, some failure)) ∧
    (FlushHolds context -> FlushHolds (context.writeBody platform data).1) := by
  unfold writeBody
  dsimp only
  split
  · exact ⟨.inr ⟨_, rfl⟩, id⟩
  split
  · exact ⟨.inr ⟨_, rfl⟩, id⟩
  split
  · exact ⟨.inr ⟨_, rfl⟩, id⟩
  split
  · exact ⟨.inl rfl, id⟩
  split
  · exact ⟨.inl rfl, id⟩
  have holds := @ensureCommitted_flushHolds { context with
    w := { context.w with written := context.w.written + data.length } }
    platform false
  split
  · next failed =>
    rw [failed] at holds
    exact ⟨.inr ⟨_, rfl⟩, holds⟩
  next next went =>
  rw [went] at holds
  have further (start : FlushHolds context) := @sendBody_flushHolds next (holds start) data
  split
  · next failed =>
    rw [failed] at further
    exact ⟨.inr ⟨_, rfl⟩, further⟩
  · next sent =>
    rw [sent] at further
    exact ⟨.inl rfl, further⟩

theorem write_eq
    (running : Running context)
    (platform : Platform)
    (data : Bytes) :
    context.write platform data = context.ensureStatus.writeBody platform data := by
  rw [write, running.1]
  rfl

variable {accepted : Bytes}

theorem ensureStatus_eq (begun : Begun platform context accepted) :
    context.ensureStatus = context :=
  if_neg begun.status_ne_zero

/-- Copying adds the bytes it reports. -/
theorem copy_phase
    (running : Running context)
    (phase : Phase platform context accepted)
    (header : HeaderHolds context)
    (flushHolds : FlushHolds context.ensureStatus)
    (pieces : List Bytes)
    (stillOpen : (context.copy platform pieces).1.conn.isOpen = true) :
    Running (context.copy platform pieces).1 ∧
      Phase platform (context.copy platform pieces).1 (accepted ++
          pieces.flatten.take (context.copy platform pieces).2.1) := by
  induction pieces generalizing context accepted with
  | nil => simpa [copy] using ⟨running, phase⟩
  | cons piece pieces ih =>
    rw [copy] at stillOpen ⊢
    split
    · next empty =>
      subst empty
      exact ih running phase header flushHolds stillOpen
    next nonempty =>
    rw [if_neg nonempty] at stillOpen
    rw [write_eq running] at stillOpen ⊢
    obtain ⟨reported, keepsFlush⟩ :=
      writeBody_result platform context.ensureStatus piece
    have written := @writeBody_begun platform _ _ piece running.ensureStatus
      (phase.ensureStatus header) flushHolds
    generalize writeBody platform _ piece = result at stillOpen reported keepsFlush written ⊢
    obtain ⟨next, count, failed⟩ := result
    rcases reported with whole | ⟨failure, none⟩
    · obtain ⟨rfl, rfl⟩ := Prod.mk.inj whole
      obtain ⟨nextRunning, begun⟩ := written ((next.quiet_copy platform pieces).isOpen stillOpen)
      rw [List.take_length] at begun
      have rest := ih nextRunning (.inr begun) (fun unset => absurd unset begun.status_ne_zero)
        (by rw [ensureStatus_eq begun]; exact keepsFlush flushHolds)
        stillOpen
      rwa [List.flatten_cons, List.take_length_add_append, ← List.append_assoc]
    obtain ⟨rfl, rfl⟩ := Prod.mk.inj none
    obtain ⟨nextRunning, begun⟩ := written stillOpen
    exact ⟨nextRunning, .inr begun⟩

/-! ## Files -/

/-- A file is sent whole, or refused before anything of a body that is not
chunked. -/
theorem sendContent_onWire
    {accepted body out content : Bytes}
    (onWire : OnWire platform context accepted head out body)
    (running : Running context)
    (bodied : context.w.bodyless context.request = false)
    (nonempty : content ≠ [])
    (duplicated : context.w.chunked = true -> context.conn.files.headD .accepted ≠ .refused)
    (stillOpen : (context.sendContent content).1.conn.isOpen = true) :
    Running (context.sendContent content).1 ∧
      (((context.sendContent content).2 = (content.length, none) ∧
        (context.sendContent content).1.w =
          { context.w with
            written := context.w.written + content.length } ∧
        ∃ head out body, OnWire platform (context.sendContent content).1
          (accepted ++ content) head out body) ∨
      ((context.sendContent content).2.1 = 0 ∧ (context.sendContent content).1.w = context.w ∧
        ∃ head out body, OnWire platform (context.sendContent content).1
          accepted head out body)) := by
  revert stillOpen
  unfold sendContent
  dsimp only
  split
  · next first failure size =>
    intro stillOpen
    exact absurd (Conn.send_of_isOpen size stillOpen).2.1 (by simp)
  next first size =>
  split
  · next second failure file =>
    intro stillOpen
    obtain ⟨firstOpen, ⟨none, -⟩ | ⟨-, refused, sameWire⟩⟩ :=
      Conn.sendFile_of_isOpen file stillOpen
    · exact absurd none (by simp)
    rw [← congrArg (·.1.files) size, Conn.send_files] at refused
    have whole : context.w.chunked = false := by
      rw [← Bool.not_eq_true]
      exact fun chunked => duplicated chunked refused
    obtain ⟨-, -, wire⟩ := Conn.send_of_isOpen size firstOpen
    rw [whole] at wire
    refine ⟨running, .inr ⟨rfl, rfl, head, out, body, ?_⟩⟩
    refine { onWire with wire := ?_ }
    have kept := onWire.wire
    rw [sameWire, wire]
    simpa using kept
  next second file =>
  split
  · next third failure ending =>
    intro stillOpen
    exact absurd (Conn.send_of_isOpen ending stillOpen).2.1 (by simp)
  next third ending =>
  intro stillOpen
  obtain ⟨secondOpen, -, thirdWire⟩ := Conn.send_of_isOpen ending stillOpen
  obtain ⟨firstOpen, ⟨-, secondWire⟩ | ⟨notNone, -⟩⟩ := Conn.sendFile_of_isOpen file secondOpen
  · obtain ⟨-, -, firstWire⟩ := Conn.send_of_isOpen size firstOpen
    refine ⟨running, .inl ⟨rfl, rfl, head, out, _,
      onWire.extend running.2 bodied nonempty rfl ⟨_, rfl⟩ ?_⟩⟩
    rw [thirdWire, secondWire, firstWire]
    cases context.w.chunked <;> simp [chunk]
  · exact absurd rfl notNone

/-- The response is begun with the media type of the file. -/
theorem beginFile_begun
    (phase : Phase platform context accepted)
    (header : HeaderHolds context)
    (content : Bytes) :
    Begun platform (context.beginFile platform content) accepted := by
  unfold beginFile
  rcases phase with fresh | begun
  · rw [if_pos fresh.status]
    refine (fresh.setHeader _).setStatus ?_ (.inr (by decide))
    split
    · exact (header fresh.status).insert (by decide) (by decide) (by decide) _
    · exact header fresh.status
  · rwa [if_neg begun.status_ne_zero]

end Context

/-- A file that begins the response is no longer than the length its header
declares, and the descriptor of a file that goes out in a chunk can be
duplicated. -/
def FileHolds
    (context : Context)
    (content : Bytes) : Prop :=
  (context.w.status = 0 ->
    ∀ length ∈ declaredLength context.w.header, content.length ≤ length) ∧
  ((if context.w.status = 0 then declaredLength context.w.header
    else context.w.declared) = none ->
    context.request.protoAtLeast 1 1 = true ->
      context.conn.files.headD .accepted ≠ .refused)

/-- What reading from a source asks for. -/
def SourceHolds
    (context : Context)
    (source : Source) : Prop :=
  match source.file with
  | none => FlushHolds context.ensureStatus
  | some content =>
    if context.copiesFile content then FlushHolds context.ensureStatus
    else FileHolds context content

namespace Context

variable {context : Context}

/-- What it means that a file is not copied. -/
theorem not_copiesFile (direct : context.copiesFile content = false) :
    context.request.isHead = false ∧
      (context.w.status = 0 ∨ statusHasBody context.w.status = true) ∧
      content ≠ [] ∧
      ∀ length ∈ context.w.declared,
        context.w.written + content.length ≤ length := by
  simp only [copiesFile, Bool.or_eq_false_iff, decide_eq_false_iff_not,
    Bool.and_eq_false_iff, bne_eq_false_iff_eq, Bool.not_eq_false'] at direct
  obtain ⟨⟨⟨⟨isHead, -⟩, status⟩, size⟩, fits⟩ := direct
  refine ⟨isHead, status, ?_, ?_⟩
  · rintro rfl
    exact size (by decide)
  · intro length declared
    rw [declared] at fits
    simpa using fits

variable {platform : Platform}

section

variable (running : Running context) (phase : Phase platform context accepted)
  (header : HeaderHolds context)
include running phase header

theorem sendFile_phase
    {content : Bytes}
    (direct : context.copiesFile content = false)
    (holds : FileHolds context content)
    (sent : (match (context.beginFile platform content).ensureCommitted platform false with
      | (next, some failure) => (next, 0, some failure)
      | (next, none) => next.sendContent content) = result)
    (stillOpen : result.1.conn.isOpen = true) :
    Running result.1 ∧ Begun platform result.1 (accepted ++ content.take result.2.1) := by
  obtain ⟨isHead, status, nonempty, fits⟩ := not_copiesFile direct
  have begun := beginFile_begun phase header content
  obtain ⟨sameConn, sameRequest, sameWrote, sameFinished, sameWritten,
    newStatus, newDeclared⟩ := beginFile_frame platform context content
  have room : ∀ length ∈ (context.beginFile platform content).w.declared,
      (accepted ++ content).length ≤ length := by
    intro length declared
    rw [newDeclared] at declared
    rw [List.length_append]
    rcases phase with fresh | before
    · rw [if_pos fresh.status] at declared
      have enough := holds.1 fresh.status length declared
      rw [fresh.accepted]
      simpa using enough
    · rw [if_neg before.status_ne_zero] at declared
      have counted := (before.2 length declared).1
      have enough := fits length declared
      omega
  have committed := @ensureCommitted_onWire platform _ _ false
    (begun.1.imp_left And.left) (by simp)
  have keeps := (context.beginFile platform content).keeps_ensureCommitted platform false
  generalize (context.beginFile platform content).ensureCommitted platform
    false = result' at sent committed keeps
  obtain ⟨next, failed⟩ := result'
  have nextRunning : Running next :=
    keeps.running ⟨sameWrote.trans running.1, sameFinished.trans running.2⟩
  have bounded : Bounded next accepted := keeps.bounded begun.2
  cases failed with
  | some failure =>
    subst sent
    rw [List.take_zero, List.append_nil]
    exact ⟨nextRunning, .inr (committed stillOpen).1, bounded⟩
  | none =>
    subst sent
    obtain ⟨⟨head, out, body, onWire⟩, -⟩ :=
      committed ((next.quiet_sendContent content).isOpen stillOpen)
    have bodied : next.w.bodyless next.request = false := by
      rw [Writer.bodyless, keeps.request, sameRequest, isHead, keeps.status, newStatus]
      rcases status with unset | hasBody
      · rw [if_pos unset]
        rfl
      · split
        · rfl
        · simp [hasBody]
    have duplicated : next.w.chunked = true -> next.conn.files.headD .accepted ≠ .refused := by
      intro chunked
      obtain ⟨undeclared, newer⟩ := onWire.streamed chunked
      rw [keeps.declared, newDeclared] at undeclared
      rw [keeps.request, sameRequest] at newer
      rw [keeps.files, sameConn]
      exact holds.2 undeclared newer
    obtain ⟨afterRunning, ⟨reported, writer, onWire⟩ |
        ⟨reported, writer, onWire⟩⟩ :=
      sendContent_onWire onWire nextRunning bodied nonempty duplicated stillOpen
    · rw [reported, List.take_length]
      refine ⟨afterRunning, .inr onWire, ?_⟩
      intro length declared
      rw [writer] at declared ⊢
      have counted := (bounded length declared).1
      rw [keeps.declared] at declared
      refine ⟨?_, room length declared⟩
      rw [List.length_append, ← counted]
    rw [reported, List.take_zero, List.append_nil]
    refine ⟨afterRunning, .inr onWire, ?_⟩
    unfold Bounded
    rw [writer]
    exact bounded

theorem readFrom_phase
    (holds : SourceHolds context source)
    (stillOpen : (context.readFrom platform source).1.conn.isOpen = true) :
    Running (context.readFrom platform source).1 ∧
      Phase platform (context.readFrom platform source).1 (accepted ++ (context.offered source).take
          (context.readFrom platform source).2.1) := by
  unfold readFrom offered SourceHolds at *
  rw [if_neg (by rw [running.1]; decide)] at stillOpen ⊢
  cases file : source.file with
  | none =>
    simp only [file] at holds stillOpen ⊢
    exact copy_phase running phase header holds source.pieces stillOpen
  | some content =>
    simp only [file] at holds stillOpen ⊢
    cases copied : context.copiesFile content with
    | true =>
      simp only [copied, if_true] at holds stillOpen ⊢
      exact copy_phase running phase header holds source.pieces stillOpen
    | false =>
      simp only [copied, Bool.false_eq_true, if_false] at holds stillOpen ⊢
      obtain ⟨afterRunning, begun⟩ := sendFile_phase running phase header copied holds rfl stillOpen
      exact ⟨afterRunning, .inr begun⟩

/-! ## The other calls -/

theorem flushError_phase
    (stillOpen : (context.flushError platform).1.conn.isOpen = true) :
    Running (context.flushError platform).1 ∧
      Begun platform (context.flushError platform).1 accepted := by
  have begun := phase.ensureStatus header
  have ready := running.ensureStatus
  unfold flushError at stillOpen ⊢
  rw [if_neg (by rw [running.1]; decide)] at stillOpen ⊢
  rw [if_neg (by rw [ready.2]; decide)] at stillOpen ⊢
  generalize context.ensureStatus = next at begun ready stillOpen ⊢
  rcases begun with ⟨⟨held, -⟩ | ⟨head, out, content, onWire⟩, bounded⟩
  · rw [if_pos (by rw [held.committed]; rfl)] at stillOpen ⊢
    have keeps := next.keeps_commit platform false
    exact ⟨keeps.running ready, .inr (commit_onWire held (by simp) stillOpen).1,
      keeps.bounded bounded⟩
  · rw [if_neg (by rw [onWire.committed]; decide)]
    exact ⟨ready, .inr ⟨head, out, content, { onWire with }⟩, bounded⟩

end

theorem Running.writeInterim
    (running : Running context)
    (status : Nat)
    (header : Header) :
    Running (context.writeInterim status header).1 := by
  unfold Context.writeInterim
  grind [Running]

end Context

/-- What a call asks of the header it takes over and of the connection. -/
def CallHolds (context : Context) : Call -> Prop
  | .setHeader _ => True
  | .writeHeader status =>
    context.w.status = 0 ->
      if isInterim status then UnbrokenNames context.w.header
      else SoundHeader context.w.header
  | .write _ => HeaderHolds context ∧ FlushHolds context.ensureStatus
  | .flush => HeaderHolds context
  | .readFrom source => HeaderHolds context ∧ SourceHolds context source

namespace Context

variable {platform : Platform}

theorem writeHeader_phase
    (running : Running context)
    (phase : Phase platform context accepted)
    (holds : CallHolds context (.writeHeader status))
    (called : context.writeHeader status = some after)
    (stillOpen : after.conn.isOpen = true) :
    Running after ∧ Phase platform after accepted := by
  unfold writeHeader at called
  split at called
  · simp at called
  next range =>
  split at called
  · rw [Option.some.injEq] at called
    exact called ▸ ⟨running, phase⟩
  next unset =>
  have isUnset : context.w.status = 0 := by
    rw [not_or, not_not] at unset
    exact unset.2
  have fresh : Fresh context accepted :=
    phase.resolve_right fun begun => begun.status_ne_zero isUnset
  have needed := holds isUnset
  split at called
  · next early =>
    have interim : isInterim status = true := by
      simp only [isInterim, Bool.and_eq_true, decide_eq_true_eq, bne_iff_ne]
      omega
    rw [interim] at needed
    rw [Option.some.injEq] at called
    subst called
    exact ⟨Running.writeInterim running _ _, .inl (fresh.writeInterim interim needed stillOpen)⟩
  next late =>
  have final : isInterim status = false := by
    simp only [isInterim, ← Bool.not_eq_true, Bool.and_eq_true, decide_eq_true_eq, bne_iff_ne]
    omega
  rw [final] at needed
  rw [Option.some.injEq] at called
  subst called
  refine ⟨running, .inr (fresh.setStatus needed ?_)⟩
  unfold FinalStatus
  omega

/-- Every call keeps the phase of a response whose connection stays open. -/
theorem perform_phase
    {context after : Context}
    (known : context.conn.isOpen = true -> Running context ∧ Phase platform context accepted)
    (holds : CallHolds context call)
    (called : context.perform platform call = some (after, more))
    (stillOpen : after.conn.isOpen = true) :
    Running after ∧ Phase platform after (accepted ++ more) := by
  cases call with
  | setHeader header =>
    obtain ⟨rfl, rfl⟩ := called
    obtain ⟨running, phase⟩ := known stillOpen
    rw [List.append_nil]
    exact ⟨running, phase.setHeader header⟩
  | writeHeader status =>
    simp only [perform, Option.map_eq_some_iff, Prod.mk.injEq] at called
    obtain ⟨_, called, rfl, rfl⟩ := called
    have wasOpen : context.conn.isOpen = true := by
      unfold writeHeader at called
      grind [quiet_writeInterim, Conn.Quiet, setStatus]
    obtain ⟨running, phase⟩ := known wasOpen
    rw [List.append_nil]
    exact writeHeader_phase running phase holds called stillOpen
  | write data =>
    simp only [perform, Option.some.injEq, Prod.mk.injEq] at called
    obtain ⟨rfl, rfl⟩ := called
    obtain ⟨running, phase⟩ := known ((context.quiet_write platform data).isOpen stillOpen)
    rw [write_eq running] at stillOpen ⊢
    obtain ⟨afterRunning, begun⟩ := writeBody_begun running.ensureStatus
      (phase.ensureStatus holds.1) holds.2 stillOpen
    exact ⟨afterRunning, .inr begun⟩
  | flush =>
    obtain ⟨rfl, rfl⟩ := called
    obtain ⟨running, phase⟩ := known ((context.quiet_flushError platform).isOpen stillOpen)
    obtain ⟨afterRunning, begun⟩ := flushError_phase running phase holds stillOpen
    rw [List.append_nil]
    exact ⟨afterRunning, .inr begun⟩
  | readFrom source =>
    obtain ⟨rfl, rfl⟩ := called
    obtain ⟨running, phase⟩ := known ((context.quiet_readFrom platform source).isOpen stillOpen)
    exact readFrom_phase running phase holds.1 holds.2 stillOpen

/-! ## Finishing -/

/-- Committing does not change the trailers the header announces. -/
theorem ensureCommitted_announced
    (context : Context)
    (platform : Platform)
    (final : Bool) :
    announcedTrailers (context.ensureCommitted platform final).1.w.sent =
      announcedTrailers context.w.sent := by
  unfold ensureCommitted
  split
  · unfold commit
    dsimp only
    split
    · exact Writer.announced_prepare platform context.w
    · generalize context.conn.send _ = result
      obtain ⟨conn, failed⟩ := result
      cases failed <;> cases final <;> exact Writer.announced_prepare platform context.w
  · rfl

/-- The names the trailers would be written under are safe. -/
def TrailersHold (context : Context) : Prop :=
  Writer.SafeTrailer
    { context.w with trailers := announcedTrailers context.w.sent }

/-- The bytes sent are one complete response with the accepted body. -/
def Complete
    (context : Context)
    (accepted : Bytes) : Prop :=
  readResponse context.request.isHead context.conn.wire =
      some (if context.request.isHead then [] else accepted) ∧
    ∀ length ∈ context.w.declared,
      (if context.request.isHead then [] else accepted).length ≤ length

/-- The ending of a chunked body completes it. -/
theorem body_chunked
    {w : Writer}
    (committed : w.committed = true)
    (safe : w.SafeTrailer)
    {chunks : List Bytes}
    (nonempty : ∀ piece ∈ chunks, piece ≠ []) :
    Message.body .chunked (chunks.flatMap chunk ++ w.ending) = some chunks.flatten := by
  have closing : ∀ fields, (∀ field ∈ fields, Legible field) ->
      Message.body .chunked (chunks.flatMap chunk ++
        (lastChunk ++ fieldLines fields ++ crlf)) = some chunks.flatten := by
    intro fields legible
    have read := (readTrailed_flatMap chunks nonempty fields).mpr legible
    simp only [List.append_assoc] at read ⊢
    simp [Message.body, read]
  unfold Writer.ending
  cases written : appendHeaderLines w.trailer fun _ => false with
  | error failure => simpa using closing [] (by simp)
  | ok lines =>
    have legible := (legible_headerFields_iff written).mpr
      ((Writer.safeLines_trailer_iff committed).mpr safe)
    obtain ⟨-, rfl⟩ := appendHeaderLines_eq_ok.mp written
    exact closing _ legible

variable {context : Context}

/-- What follows the head is the body its framing declares. -/
theorem body_framing
    {accepted out content : Bytes}
    {head : ResponseHead}
    (onWire : OnWire platform context accepted head out content)
    (bounded : Bounded context accepted)
    (safe : context.w.SafeTrailer)
    (keepsAlive : context.w.closeAfter = false)
    (full : context.leftShort = false) :
    Message.body (head.framing context.request)
        (content ++ if context.w.chunked then context.w.ending else []) =
      some (if context.request.isHead then [] else accepted) := by
  have carries := onWire.content
  unfold Carries at carries
  unfold ResponseHead.framing
  rw [onWire.status, ← Writer.bodyless]
  cases bodyless : context.w.bodyless context.request with
  | true =>
    have whole : context.w.chunked = false := by
      rw [← Bool.not_eq_true]
      intro chunked
      exact absurd (bodyless.symm.trans (onWire.hasBody chunked)) (by decide)
    have nothing : (if context.request.isHead then [] else accepted) = [] := by
      rw [Writer.bodyless, Bool.or_eq_true, Bool.not_eq_true'] at bodyless
      rcases bodyless with isHead | noBody
      · rw [if_pos isHead]
      · rw [onWire.empty noBody, ite_self]
    rw [bodyless, if_pos rfl] at carries
    simp [whole, carries, nothing, Message.body]
  | false =>
    have isGet : context.request.isHead = false := by
      rw [Writer.bodyless, Bool.or_eq_false_iff] at bodyless
      exact bodyless.1
    rw [bodyless, if_neg (by decide)] at carries
    rw [onWire.chunked, isGet]
    cases chunked : context.w.chunked with
    | true =>
      rw [chunked] at carries
      obtain ⟨chunks, nonempty, rfl, rfl⟩ := carries
      simpa using body_chunked onWire.committed safe nonempty
    | false =>
      rw [chunked, if_neg (by decide)] at carries
      obtain closes | ⟨length, known, source⟩ :=
        onWire.length bodyless chunked
      · exact absurd (keepsAlive.symm.trans closes) (by decide)
      have exactLength : accepted.length = length := by
        rcases source with declared | ⟨-, total⟩
        · obtain ⟨counted, within⟩ := bounded length declared
          have hasBody : statusHasBody context.w.status = true := by
            rw [Writer.bodyless, Bool.or_eq_false_iff] at bodyless
            simpa using bodyless.2
          simp only [leftShort, declared, isGet, hasBody, Option.any_some,
            Bool.not_false, Bool.and_true, decide_eq_false_iff_not] at full
          omega
        · exact total.symm
      simp [known, carries, Message.body, exactLength]

/-- A response that ends with the connection still open is complete. -/
theorem endBody_complete
    (onWire : OnWire platform context accepted head out content)
    (bounded : Bounded context accepted)
    (safe : context.w.SafeTrailer)
    (stillOpen : context.endBody.1.conn.isOpen = true) :
    Complete context.endBody.1 accepted := by
  revert stillOpen
  unfold endBody
  split
  · next sent =>
    intro stillOpen
    exact absurd (Conn.send_of_isOpen sent stillOpen).2.1 (by simp)
  next conn sent =>
  split
  · intro stillOpen
    exact absurd stillOpen (by simp [Conn.closeAfterSend])
  next ends =>
  intro stillOpen
  rw [not_or, Bool.not_eq_true, Bool.not_eq_true] at ends
  obtain ⟨-, -, wire⟩ := Conn.send_of_isOpen sent stillOpen
  refine ⟨?_, fun length declared => ?_⟩
  · obtain ⟨pieces, interims, led⟩ := onWire.wire
    obtain ⟨left, read, rfl⟩ := (exists_readHead_iff onWire.appended
      (content ++ if context.w.chunked then context.w.ending else [])
      (· = content ++ if context.w.chunked then context.w.ending else [])).mpr ⟨onWire.safe, rfl⟩
    have final : isInterim head.status = false := by
      rw [onWire.status]
      rcases onWire.final with isSwitch | range
      · rw [isSwitch]
        rfl
      · simp only [isInterim, ← Bool.not_eq_true, Bool.and_eq_true, decide_eq_true_eq, bne_iff_ne]
        omega
    have whole : conn.wire = pieces.flatten ++ (out ++
        (content ++ if context.w.chunked then context.w.ending else [])) := by
      rw [wire, led]
      simp only [List.append_assoc]
    dsimp only
    rw [whole, readResponse_eq interims read (head.lineStatus_statusLine context.request) final,
      head.framing_fields]
    exact body_framing onWire bounded safe ends.1 ends.2
  · have within := (bounded length declared).2
    split
    · exact Nat.zero_le length
    · exact within

/-- Finishing completes the response. -/
theorem finish_complete
    {accepted : Bytes}
    (running : Running context)
    (phase : Phase platform context accepted)
    (begun : context.w.status ≠ 0)
    (trailers : TrailersHold context)
    (stillOpen : (context.finish platform).1.conn.isOpen = true) :
    Complete (context.finish platform).1 accepted := by
  obtain ⟨begun', bounded⟩ := phase.resolve_left fun fresh => begun fresh.status
  unfold finish at stillOpen ⊢
  rw [if_neg (by simp [begun, running.1, running.2])] at stillOpen ⊢
  dsimp only at stillOpen ⊢
  have ready : Held { context with w := { context.w with finished := true } } accepted ∨
      ∃ head out content, OnWire platform
        { context with w := { context.w with finished := true } }
        accepted head out content := by
    rcases begun' with ⟨held, -⟩ | ⟨head, out, content, onWire⟩
    · exact .inl { held with }
    refine .inr ⟨head, out, content, { onWire with length := ?_ }⟩
    intro hasBody whole
    refine (onWire.length hasBody whole).imp_right ?_
    rintro ⟨length, known, source⟩
    refine ⟨length, known, source.imp_right fun isFinal => ?_⟩
    exact ⟨rfl, isFinal.2⟩
  have counted : context.w.committed = false -> context.w.written = accepted.length := by
    intro uncommitted
    rcases begun' with ⟨-, counted⟩ | ⟨_, _, _, onWire⟩
    · exact counted
    · exact absurd (uncommitted.symm.trans onWire.committed) (by decide)
  have committed := @ensureCommitted_onWire platform _ _ true ready (fun _ => ⟨rfl, counted⟩)
  have announced := ensureCommitted_announced
    { context with w := { context.w with finished := true } } platform true
  have keeps := keeps_ensureCommitted
    { context with w := { context.w with finished := true } } platform true
  generalize ensureCommitted platform true _ = result at stillOpen committed announced keeps ⊢
  obtain ⟨next, failed⟩ := result
  cases failed with
  | some failure =>
    rcases (committed stillOpen).2 with none | isFinal
    · exact absurd none (by simp)
    · exact absurd isFinal.1 (by decide)
  | none =>
    obtain ⟨⟨head, out, content, onWire⟩, -⟩ :=
      committed (next.quiet_endBody.isOpen stillOpen)
    refine endBody_complete onWire (keeps.bounded bounded) ?_ stillOpen
    unfold Writer.SafeTrailer
    rw [onWire.trailers, announced, keeps.header]
    exact trailers

end Context

/-! ## The main result -/

/-- While the connection is open, the response is in one of its phases. -/
theorem served_phase
    {request : Request}
    {conn : Conn}
    (unused : conn.wire = [])
    {served : Served}
    (meets : Transition.Meets (Served.step platform)
      (fun served call => CallHolds served.context call)
      (Served.start request conn) calls)
    (reached : Transition.run (Served.step platform)
      (Served.start request conn) calls = some served)
    (stillOpen : served.context.conn.isOpen = true) :
    Running served.context ∧ Phase platform served.context served.accepted := by
  refine @Transition.run_invariant_of_meets _ _ _ _
    (fun served => served.context.conn.isOpen = true -> Running served.context ∧
        Phase platform served.context served.accepted)
    ?_ _ _ _ ?_ meets reached stillOpen
  · intro before call after known holds stepped afterOpen
    rw [Served.step, Option.map_eq_some_iff] at stepped
    obtain ⟨⟨context, more⟩, called, rfl⟩ := stepped
    exact Context.perform_phase known holds called afterOpen
  · intro _
    refine ⟨⟨rfl, rfl⟩, .inl ⟨rfl, rfl, rfl, rfl, rfl, rfl, ?_⟩⟩
    exact ⟨[], by simp, unused⟩

/-- When the server has finished a response that the handler began, the
connection is closing, or the bytes sent are one complete response with the
accepted body. -/
theorem streamed_response_is_complete
    (platform : Platform)
    (request : Request)
    (sends flushes : List Bool)
    (files : List FileOutcome)
    (calls : List Call)
    (served : Served)
    (meets : Transition.Meets (Served.step platform)
      (fun served call => CallHolds served.context call)
      (Served.start request
        { sends := sends, files := files, flushes := flushes }) calls)
    (reached : Transition.run (Served.step platform) (Served.start request
        { sends := sends, files := files, flushes := flushes }) calls =
          some served)
    (trailers : served.context.TrailersHold)
    (begun : served.context.w.status ≠ 0) :
    (served.context.finish platform).1.conn.isOpen = false ∨
      (served.context.finish platform).1.Complete served.accepted := by
  rw [← Bool.not_eq_true]
  by_cases stillOpen :
      (served.context.finish platform).1.conn.isOpen = true
  · obtain ⟨running, phase⟩ := served_phase rfl meets reached
      ((served.context.quiet_finish platform).isOpen stillOpen)
    exact .inr (Context.finish_complete running phase begun trailers stillOpen)
  · exact .inl stillOpen

/-- A handler that sets a field and writes a short body. -/
def greeting : List Call :=
  [.setHeader (headerOf "X-Id" "7"), .write (ascii "hello")]

def greeted : Served :=
  (Transition.run (Served.step epoch) (Served.start getRequest {})
    greeting).getD (Served.start getRequest {})

theorem streamed_response_is_complete_greeting :
    (greeted.context.finish epoch).1.conn.isOpen = false ∨
      (greeted.context.finish epoch).1.Complete greeted.accepted := by
  refine streamed_response_is_complete epoch getRequest [] [] [] greeting
    greeted ?_ rfl ?_ (by decide)
  · refine Transition.meets_cons trivial rfl
      (Transition.meets_cons ⟨fun _ => ?_, fun _ _ => rfl⟩ rfl trivial)
    decide
  · constructor <;> decide

/-- The response was begun and the connection stays open, and a client does
not read the accepted bytes as its body. -/
def incomplete
    (conn : Conn)
    (calls : List Call) : Bool :=
  match Transition.run (Served.step epoch) (Served.start getRequest conn)
      calls with
  | none => false
  | some served =>
    let after := (served.context.finish epoch).1
    served.context.w.status != 0 && after.conn.isOpen &&
      readResponse false after.conn.wire != some served.accepted

/-- A file longer than the declared length, a header that is refused, a file
refused behind the size of its chunk, and a flush that fails behind a declared
length. -/
theorem incomplete_responses :
    incomplete {}
      [.setHeader (headerOf "Content-Length" "5"),
        .readFrom ⟨[], some (List.replicate minSendFileSize 0)⟩] = true ∧
    incomplete {}
      [.setHeader (headerOf "X-Id" "a\nb"), .write (ascii "hello")] = true ∧
    incomplete { files := [.refused] }
      [.readFrom ⟨[], some (List.replicate minSendFileSize 0)⟩] = true ∧
    incomplete { flushes := [false] }
      [.setHeader (headerOf "Content-Length" "5000"),
        .write (List.replicate 5000 0)] = true := by
  refine ⟨?_, ?_, ?_, ?_⟩ <;> decide +kernel

end Http
end Fib
