import Fib.Library.Bytes
import Fib.Library.Transition

/-!
# The TLS layer

`layer` stands between a connection and crypto/tls.  What is sent before the
handshake has completed is held; the goroutine of the handshake then encrypts
it, and later sends are encrypted by their callers.  The cryptography is a
given stream that takes writes in order and hands what it makes of them to the
connection below.  Each section under `wmu`, and each under `mu`, is one step.
What arrives from the peer is not modelled.
-/

namespace Fib
namespace Tls

/-- What is written to the stream: plaintext, or the alert of `CloseWrite`. -/
inductive Record where
  | data (plaintext : Bytes)
  | closeNotify
deriving DecidableEq, Repr

def Record.plaintext : Record -> Bytes
  | data plaintext => plaintext
  | closeNotify => []

/-! ## The connection below the layer -/

/-- What the layer asks of the connection below it. -/
inductive RawCall where
  /-- `SendRaw`, which succeeded, with what crypto/tls made of a record. -/
  | sendRaw (record : Record)
  | closeAfterSendRaw
deriving DecidableEq, Repr

/-- The connection below the layer. -/
structure Raw where
  calls : List RawCall := []
  closing : Bool := false
  closeAfterSend : Bool := false
deriving DecidableEq, Repr

namespace Raw

/-- `CloseWithError`. -/
def closeWithError (raw : Raw) : Raw :=
  { raw with closing := true }

/-- `SendRaw`, given whether the socket takes the bytes. -/
def sendRaw
    (raw : Raw)
    (record : Record)
    (accepted : Bool) : Raw × Bool :=
  if raw.closing || raw.closeAfterSend then (raw, false)
  else if accepted then
    ({ raw with calls := raw.calls ++ [.sendRaw record] }, true)
  else (raw.closeWithError, false)

/-- `CloseAfterSendRaw`, given whether everything has been sent. -/
def closeAfterSendRaw
    (raw : Raw)
    (drained : Bool) : Raw :=
  let called := { raw with calls := raw.calls ++ [.closeAfterSendRaw] }
  if raw.closing || raw.closeAfterSend then called
  else if drained then { called with closeAfterSend := true }.closeWithError
  else { called with closeAfterSend := true }

@[simp] theorem calls_closeWithError (raw : Raw) :
    raw.closeWithError.calls = raw.calls := rfl

@[simp] theorem closing_closeWithError (raw : Raw) :
    raw.closeWithError.closing = true := rfl

@[simp] theorem calls_closeAfterSendRaw
    (raw : Raw)
    (drained : Bool) :
    (raw.closeAfterSendRaw drained).calls = raw.calls ++ [.closeAfterSendRaw] := by
  unfold closeAfterSendRaw
  split
  · rfl
  · split <;> rfl

/-- A record goes out whole, or the send fails. -/
theorem sendRaw_cases
    (raw : Raw)
    (record : Record)
    (accepted : Bool) :
    raw.sendRaw record accepted = ({ raw with calls := raw.calls ++ [.sendRaw record] }, true) ∨
      (raw.sendRaw record accepted).2 = false := by
  unfold sendRaw
  split
  · exact .inr rfl
  · split
    · exact .inl rfl
    · exact .inr rfl

end Raw

/-! ## The layer -/

/-- Where the goroutine of the handshake stands. -/
inductive Progress where
  /-- `HandshakeContext` runs. -/
  | handshaking
  /-- It has returned, with or without an error. -/
  | returned (failed : Bool)
  /-- What was held has been written, or an error found. -/
  | flushed (failed : Bool)
  /-- `handshaking` has been cleared. -/
  | settled (failed : Bool)
  /-- The connection is closed, or its input is being drained. -/
  | done
deriving DecidableEq, Repr

/-- The held sends have been dealt with. -/
def Progress.pastFlush : Progress -> Bool
  | handshaking | returned _ => false
  | flushed _ | settled _ | done => true

/-- `layer`, with what happened to it: the outcome of the handshake, what was
written to the stream and whether a write failed, and the calls made. -/
structure Layer where
  closed : Bool := false
  handshaking : Bool := true
  ready : Bool := false
  failed : Bool := false
  pending : List Bytes := []
  closeAfterSend : Bool := false
  raw : Raw := {}
  progress : Progress := .handshaking
  /-- The handshake succeeded. -/
  outcome : Option Bool := none
  written : List Record := []
  writeFailed : Bool := false
  /-- The data of the calls of `Send` and whether they returned nil. -/
  sends : List (Bytes × Bool) := []
  closeCalls : Nat := 0
deriving DecidableEq

/-- What can happen on the connection; the arguments say how the writes made on
the way turn out. -/
inductive Label where
  | send (first second : Bytes) (accepted : Bool)
  | closeAfterSend (accepted drained : Bool)
  /-- `HandshakeContext` returns. -/
  | handshakeReturns (failed : Bool)
  /-- The section of `handshake` under `wmu`. -/
  | flush (accepted : List Bool) (notified drained : Bool)
  /-- The section of `handshake` under `mu`. -/
  | settle
  /-- `handshake` closes the connection or goes on to drain its input. -/
  | finish
  /-- crypto/tls gives up the handshake and calls `Close`. -/
  | handshakeTimesOut
  /-- The connection has closed: `shutdown`. -/
  | onClose
  /-- Anyone else closes the connection. -/
  | close

namespace Layer

/-- `conn.Write` and `conn.CloseWrite`. -/
def write
    (layer : Layer)
    (record : Record)
    (accepted : Bool) : Layer × Bool :=
  let (raw, sent) := layer.raw.sendRaw record accepted
  ({ layer with
      raw := raw
      written := layer.written ++ [record]
      writeFailed := layer.writeFailed || !sent }, sent)

/-- The loop that writes what was held, up to the first error. -/
def writeAll (layer : Layer) : List Bytes -> List Bool -> Layer × Bool
  | [], _ => (layer, true)
  | data :: rest, accepted =>
    match layer.write (.data data) (accepted.headD true) with
    | (layer, false) => (layer, false)
    | (layer, true) => layer.writeAll rest accepted.tail

/-- `closeNotifyLocked`. -/
def closeNotifyLocked
    (layer : Layer)
    (accepted drained : Bool) : Layer :=
  let layer := (layer.write .closeNotify accepted).1
  { layer with raw := layer.raw.closeAfterSendRaw drained }

/-- The section of `handshake` under `wmu`. -/
def flush
    (layer : Layer)
    (handshakeFailed : Bool)
    (accepted : List Bool)
    (notified drained : Bool) : Layer :=
  let (layer, succeeded) :=
    if handshakeFailed then ({ layer with pending := [] }, false)
    else { layer with pending := [] }.writeAll layer.pending accepted
  if succeeded then
    let layer := { layer with ready := true, progress := .flushed false }
    if layer.closeAfterSend then layer.closeNotifyLocked notified drained
    else layer
  else { layer with failed := true, progress := .flushed true }

/-- `Send`, with whether it returns nil. -/
def send
    (layer : Layer)
    (first second : Bytes)
    (accepted : Bool) :
    Layer × Bool :=
  if first ++ second = [] then (layer, true)
  else if layer.failed || layer.closeAfterSend || layer.closed then
    (layer, false)
  else if !layer.ready then
    ({ layer with pending := layer.pending ++ [first ++ second] }, true)
  else layer.write (.data (first ++ second)) accepted

/-- `CloseAfterSend`. -/
def requestClose
    (layer : Layer)
    (accepted drained : Bool) : Layer :=
  if layer.closeAfterSend then layer
  else
    let layer := { layer with closeAfterSend := true }
    if layer.ready then layer.closeNotifyLocked accepted drained
    else if layer.failed then
      { layer with raw := layer.raw.closeWithError }
    else layer

/-- `shutdown`. -/
def shutdown (layer : Layer) : Layer :=
  { layer with closed := true }

def step (layer : Layer) : Label -> Option Layer
  | .send first second accepted =>
    let (layer, sent) := layer.send first second accepted
    some { layer with sends := layer.sends ++ [(first ++ second, sent)] }
  | .closeAfterSend accepted drained =>
    some { layer.requestClose accepted drained with
      closeCalls := layer.closeCalls + 1 }
  | .handshakeReturns failed =>
    if layer.progress = .handshaking then
      some { layer with
        progress := .returned failed
        outcome := some (!failed) }
    else none
  | .flush accepted notified drained =>
    match layer.progress with
    | .returned failed => some (layer.flush failed accepted notified drained)
    | _ => none
  | .settle =>
    match layer.progress with
    | .flushed failed =>
      some { layer with handshaking := false, progress := .settled failed }
    | _ => none
  | .finish =>
    match layer.progress with
    | .settled failed =>
      some { layer with
        progress := .done
        raw := if failed then layer.raw.closeWithError else layer.raw }
    | _ => none
  | .handshakeTimesOut =>
    if layer.progress = .handshaking then
      some { layer.shutdown with raw := layer.raw.closeWithError }
    else none
  | .onClose => some layer.shutdown
  | .close => some { layer with raw := layer.raw.closeWithError }

/-- The data of the calls of `Send` that returned nil, in order. -/
def accepted (layer : Layer) : Bytes :=
  ((layer.sends.filter Prod.snd).map Prod.fst).flatten

/-- The plaintext passed to the stream. -/
def plaintext (layer : Layer) : Bytes :=
  (layer.written.map Record.plaintext).flatten

/-! ## What has been written -/

/-- What ends the stream. -/
def ending (layer : Layer) : List Record :=
  if layer.closeAfterSend then [.closeNotify] else []

/-- What ends the calls of the connection below. -/
def rawEnding (layer : Layer) : List RawCall :=
  if layer.closeAfterSend then [.closeAfterSendRaw] else []

/-- Nothing has been written, and what was accepted is held. -/
structure Waiting (layer : Layer) : Prop where
  written : layer.written = []
  calls : layer.raw.calls = []
  sound : layer.writeFailed = false
  notReady : layer.ready = false
  notFailed : layer.failed = false
  held : layer.pending.flatten = layer.accepted

/-- All that was accepted has been written, with the alert behind it if a close
was asked for. -/
structure Flowing (layer : Layer) : Prop where
  ready : layer.ready = true
  written : ∃ pieces : List Bytes,
    layer.written = pieces.map Record.data ++ layer.ending ∧
      pieces.flatten = layer.accepted
  calls : layer.raw.calls =
    layer.written.map RawCall.sendRaw ++ layer.rawEnding

/-- Nothing has been written, and nothing will be. -/
structure Refused (layer : Layer) : Prop where
  written : layer.written = []
  calls : layer.raw.calls = []
  notReady : layer.ready = false
  failed : layer.failed = true

/-- What holds once the held sends have been dealt with. -/
def Past (layer : Layer) : Prop :=
  (layer.outcome = some true ∧ (layer.writeFailed = false -> layer.Flowing)) ∨
    (layer.outcome = some false ∧ layer.Refused)

/-- All that these states are told from. -/
def traffic (layer : Layer) :=
  (layer.written, layer.raw.calls, layer.writeFailed, layer.ready, layer.failed,
    layer.outcome, layer.closeAfterSend, layer.sends, layer.pending)

theorem Waiting.of_same
    {layer after : Layer}
    (waiting : layer.Waiting)
    (same : after.traffic = layer.traffic) :
    after.Waiting := by
  simp only [traffic, Prod.mk.injEq] at same
  obtain ⟨written, calls, sound, ready, failed, _, _, sends, pending⟩ := same
  exact ⟨written.trans waiting.written, calls.trans waiting.calls,
    sound.trans waiting.sound, ready.trans waiting.notReady, failed.trans waiting.notFailed,
    by rw [accepted, sends, pending, waiting.held, accepted]⟩

theorem Past.of_same
    {layer after : Layer}
    (past : layer.Past)
    (same : after.traffic = layer.traffic) :
    after.Past := by
  simp only [traffic, Prod.mk.injEq] at same
  obtain ⟨written, calls, sound, ready, failed, outcome, asked, sends, _⟩ := same
  rcases past with ⟨succeeded, flowing⟩ | ⟨unsuccessful, refused⟩
  · refine .inl ⟨outcome.trans succeeded, fun unbroken => ?_⟩
    have flowing := flowing (sound.symm.trans unbroken)
    refine ⟨ready.trans flowing.ready, ?_, ?_⟩
    · rw [written, ending, asked, accepted, sends]
      exact flowing.written
    · rw [calls, written, rawEnding, asked]
      exact flowing.calls
  · exact .inr ⟨outcome.trans unsuccessful, written.trans refused.written,
      calls.trans refused.calls, ready.trans refused.notReady, failed.trans refused.failed⟩

/-- What holds at each point of the handshake. -/
def Stands (layer : Layer) : Prop :=
  match layer.progress with
  | .handshaking => layer.Waiting ∧ layer.outcome = none
  | .returned failed => layer.Waiting ∧ layer.outcome = some !failed
  | .flushed failed | .settled failed =>
    layer.Past ∧ (layer.outcome = some false -> failed = true)
  | .done =>
    layer.Past ∧ (layer.outcome = some false -> layer.raw.closing = true)

structure Kept (layer : Layer) : Prop where
  asked : layer.closeAfterSend = decide (0 < layer.closeCalls)
  stands : layer.Stands

/-! ## Every step keeps it -/

section Steps

variable {layer : Layer}

@[simp] theorem write_progress
    (record : Record)
    (taken : Bool) :
    (layer.write record taken).1.progress = layer.progress := rfl

@[simp] theorem write_outcome
    (record : Record)
    (taken : Bool) :
    (layer.write record taken).1.outcome = layer.outcome := rfl

/-- A write that succeeds adds its record to the stream and hands it down. -/
theorem write_of_sent (sent : (layer.write record taken).2 = true) :
    (layer.write record taken).1 =
      { layer with
        raw := { layer.raw with
          calls := layer.raw.calls ++ [.sendRaw record] }
        written := layer.written ++ [record] } := by
  unfold write at sent ⊢
  rcases layer.raw.sendRaw_cases record taken with whole | refused
  · rw [whole]
    simp
  · rw [refused] at sent
    cases sent

theorem writeFailed_of_not_sent
    (refused : (layer.write record taken).2 = false) :
    (layer.write record taken).1.writeFailed = true := by
  have same : (layer.write record taken).1.writeFailed =
      (layer.writeFailed || !(layer.write record taken).2) := rfl
  rw [same, refused, Bool.not_false, Bool.or_true]

theorem sent_of_sound
    (sound : (layer.write record taken).1.writeFailed = false) :
    (layer.write record taken).2 = true ∧ layer.writeFailed = false := by
  have same : (layer.write record taken).1.writeFailed =
      (layer.writeFailed || !(layer.write record taken).2) := rfl
  rw [same, Bool.or_eq_false_iff, Bool.not_eq_false'] at sound
  exact sound.symm

/-- The accepted data once another call of `Send` has returned. -/
theorem accepted_append
    (layer : Layer)
    (data : Bytes)
    (sent : Bool) :
    accepted { layer with sends := layer.sends ++ [(data, sent)] } =
      layer.accepted ++ if sent then data else [] := by
  cases sent <;> simp [accepted]

/-- Writing what was held: all of it goes out, or a write fails. -/
theorem writeAll_spec
    (layer : Layer)
    (held : List Bytes)
    (taken : List Bool) :
    (layer.writeAll held taken =
      ({ layer with
        raw := { layer.raw with
          calls := layer.raw.calls ++ (held.map Record.data).map RawCall.sendRaw }
        written := layer.written ++ held.map Record.data }, true)) ∨
      ((layer.writeAll held taken).1.writeFailed = true ∧ (layer.writeAll held taken).2 = false ∧
        (layer.writeAll held taken).1.outcome = layer.outcome ∧
        (layer.writeAll held taken).1.closeAfterSend = layer.closeAfterSend ∧
        (layer.writeAll held taken).1.closeCalls = layer.closeCalls) := by
  induction held generalizing layer taken with
  | nil => exact .inl (by simp [writeAll])
  | cons data rest ih =>
    unfold writeAll
    rcases first : layer.write (.data data) (taken.headD true) with
      ⟨next, sent⟩
    cases sent with
    | false =>
      have refused := @writeFailed_of_not_sent layer (.data data)
        (taken.headD true) (by rw [first])
      rw [first] at refused
      have same : next = (layer.write (.data data) (taken.headD true)).1 := by
        rw [first]
      exact .inr ⟨refused, rfl, same ▸ rfl, same ▸ rfl, same ▸ rfl⟩
    | true =>
      have written := @write_of_sent layer (.data data)
        (taken.headD true) (by rw [first])
      rw [first] at written
      obtain rfl : next = _ := written
      rcases ih _ taken.tail with whole | broken
      · dsimp only
        rw [whole]
        simp
      · exact .inr broken

/-- An operation that leaves the handshake where it stands. -/
theorem Stands.of_operation
    {after : Layer}
    (stands : layer.Stands)
    (progress : after.progress = layer.progress)
    (outcome : after.outcome = layer.outcome)
    (waiting : layer.Waiting -> after.Waiting)
    (past : layer.Past -> after.Past)
    (closing : layer.Past -> layer.outcome = some false ->
      layer.raw.closing = true -> after.raw.closing = true) :
    after.Stands := by
  unfold Stands at stands ⊢
  rw [progress, outcome]
  cases at_ : layer.progress with
  | handshaking | returned failed =>
    rw [at_] at stands
    exact ⟨waiting stands.1, stands.2⟩
  | flushed failed | settled failed =>
    rw [at_] at stands
    exact ⟨past stands.1, stands.2⟩
  | done =>
    rw [at_] at stands
    exact ⟨past stands.1, fun refused =>
      closing stands.1 refused (stands.2 refused)⟩

/-- An operation that only changes flags the other end reads. -/
theorem Kept.of_same
    {after : Layer}
    (kept : layer.Kept)
    (same : after = { layer with
      closed := after.closed
      raw := { layer.raw with closing := after.raw.closing } })
    (closing : layer.raw.closing = true -> after.raw.closing = true) :
    after.Kept := by
  rw [same] at *
  exact ⟨kept.asked, kept.stands.of_operation rfl rfl (·.of_same rfl) (·.of_same rfl)
    fun _ _ => closing⟩

/-- A call of `Send` while the handshake runs: it is held or refused. -/
theorem Waiting.send
    (waiting : layer.Waiting)
    (first second : Bytes)
    (taken : Bool) :
    let result := layer.send first second taken
    Waiting { result.1 with
      sends := result.1.sends ++ [(first ++ second, result.2)] } := by
  intro result
  have held := waiting.held
  unfold result Layer.send
  split
  · next empty =>
    refine ⟨waiting.written, waiting.calls, waiting.sound, waiting.notReady, waiting.notFailed, ?_⟩
    rw [accepted_append, empty]
    simpa using held
  split
  · refine ⟨waiting.written, waiting.calls, waiting.sound, waiting.notReady, waiting.notFailed, ?_⟩
    rw [accepted_append]
    simpa using held
  rw [waiting.notReady]
  refine ⟨waiting.written, waiting.calls, waiting.sound, rfl, waiting.notFailed, ?_⟩
  change (layer.pending ++ [first ++ second]).flatten =
    accepted { layer with
      sends := layer.sends ++ [(first ++ second, true)] }
  rw [accepted_append, List.flatten_append, held]
  simp

/-- A call of `Send` once the handshake has succeeded: its data follows what
has been written, unless a close was asked for. -/
theorem Flowing.send
    (flowing : layer.Flowing)
    (sound : (layer.send first second taken).1.writeFailed = false) :
    let result := layer.send first second taken
    Flowing { result.1 with
      sends := result.1.sends ++ [(first ++ second, result.2)] } := by
  intro result
  obtain ⟨pieces, written, flattened⟩ := flowing.written
  unfold result
  unfold Layer.send at sound ⊢
  split
  · next empty =>
    refine ⟨flowing.ready, ⟨pieces, written, ?_⟩, flowing.calls⟩
    rw [accepted_append, empty]
    simpa using flattened
  next nonempty =>
  rw [if_neg nonempty] at sound
  split
  · refine ⟨flowing.ready, ⟨pieces, written, ?_⟩, flowing.calls⟩
    rw [accepted_append]
    simpa using flattened
  next going =>
  rw [if_neg going] at sound
  rw [flowing.ready] at sound ⊢
  obtain ⟨sent, _⟩ := sent_of_sound sound
  have unasked : layer.closeAfterSend = false := by
    simp only [Bool.or_eq_true, not_or, Bool.not_eq_true] at going
    exact going.1.2
  have ending : layer.ending = [] := by
    rw [Layer.ending, unasked]
    rfl
  have rawEnding : layer.rawEnding = [] := by
    rw [Layer.rawEnding, unasked]
    rfl
  rw [ending] at written
  have calls := flowing.calls
  rw [rawEnding] at calls
  simp only [Bool.not_true, Bool.false_eq_true, if_false]
  rw [write_of_sent sent, sent]
  refine ⟨flowing.ready, ⟨pieces ++ [first ++ second], ?_, ?_⟩, ?_⟩
  · change layer.written ++ [_] = _ ++ layer.ending
    rw [ending, written]
    simp
  · rw [List.flatten_append, flattened]
    refine Eq.symm ((accepted_append layer _ true).trans ?_)
    simp
  · change layer.raw.calls ++ [_] = (layer.written ++ [_]).map _ ++ layer.rawEnding
    rw [rawEnding, calls]
    simp

/-- A call of `Send` after a handshake that failed. -/
theorem Refused.send
    (refused : layer.Refused)
    (first second : Bytes)
    (taken : Bool) :
    (layer.send first second taken).1 = layer := by
  unfold Layer.send
  rw [refused.failed]
  split
  · rfl
  · rfl

theorem send_outcome
    (layer : Layer)
    (first second : Bytes)
    (taken : Bool) :
    (layer.send first second taken).1.outcome = layer.outcome ∧
      (layer.send first second taken).1.progress = layer.progress ∧
      (layer.send first second taken).1.closeAfterSend = layer.closeAfterSend ∧
      (layer.send first second taken).1.closeCalls = layer.closeCalls ∧
      ((layer.send first second taken).1.writeFailed = false -> layer.writeFailed = false) := by
  unfold Layer.send
  split
  · exact ⟨rfl, rfl, rfl, rfl, id⟩
  split
  · exact ⟨rfl, rfl, rfl, rfl, id⟩
  · split
    · exact ⟨rfl, rfl, rfl, rfl, id⟩
    · exact ⟨rfl, rfl, rfl, rfl, fun sound => (sent_of_sound sound).2⟩

theorem Kept.send
    (kept : layer.Kept)
    (first second : Bytes)
    (taken : Bool) :
    let result := layer.send first second taken
    Kept { result.1 with
      sends := result.1.sends ++ [(first ++ second, result.2)] } := by
  intro result
  obtain ⟨outcome, progress, asked, calls, unbroken⟩ :=
    layer.send_outcome first second taken
  refine ⟨?_, kept.stands.of_operation progress outcome ?_ ?_ ?_⟩
  · rw [asked, calls]
    exact kept.asked
  · exact fun waiting => waiting.send first second taken
  · rintro (⟨succeeded, flowing⟩ | ⟨failed, refused⟩)
    · exact .inl ⟨outcome.trans succeeded, fun sound =>
        (flowing (unbroken sound)).send sound⟩
    · refine .inr ⟨outcome.trans failed, ?_⟩
      have same : result.1 = layer := refused.send first second taken
      rw [same]
      exact ⟨refused.written, refused.calls, refused.notReady, refused.failed⟩
  rintro (⟨succeeded, _⟩ | ⟨_, refused⟩) failed closing
  · rw [succeeded] at failed
    cases failed
  · have same : result.1 = layer := refused.send first second taken
    rw [same]
    exact closing

/-- The alert is written behind what was accepted, and the connection below is
then asked to close. -/
theorem Flowing.closeNotify
    {pieces : List Bytes}
    {taken drained : Bool}
    (ready : layer.ready = true)
    (asked : layer.closeAfterSend = true)
    (written : layer.written = pieces.map Record.data)
    (flattened : pieces.flatten = layer.accepted)
    (calls : layer.raw.calls = layer.written.map RawCall.sendRaw)
    (sound : (layer.closeNotifyLocked taken drained).writeFailed = false) :
    (layer.closeNotifyLocked taken drained).Flowing := by
  obtain ⟨sent, _⟩ := @sent_of_sound layer .closeNotify taken sound
  unfold closeNotifyLocked
  rw [write_of_sent sent]
  refine ⟨ready, ⟨pieces, ?_, flattened⟩, ?_⟩
  · simp [ending, asked, written]
  · simp [rawEnding, asked, calls]

theorem Kept.requestClose
    (kept : layer.Kept)
    (taken drained : Bool) :
    Kept { layer.requestClose taken drained with
      closeCalls := layer.closeCalls + 1 } := by
  unfold Layer.requestClose
  split
  · next asked =>
    exact ⟨asked.trans (by simp), kept.stands.of_operation rfl rfl (·.of_same rfl)
      (·.of_same rfl) fun _ _ => id⟩
  next unasked =>
  rw [Bool.not_eq_true] at unasked
  dsimp only
  split
  · next ready =>
    refine ⟨by simp [closeNotifyLocked, write], kept.stands.of_operation rfl rfl ?_ ?_ ?_⟩
    · intro waiting
      rw [waiting.notReady] at ready
      cases ready
    · rintro (⟨succeeded, flowing⟩ | ⟨_, refused⟩)
      · refine .inl ⟨succeeded, fun sound => ?_⟩
        obtain ⟨_, unbroken⟩ := @sent_of_sound
          { layer with closeAfterSend := true } .closeNotify taken sound
        obtain ⟨_, ⟨pieces, written, flattened⟩, calls⟩ :=
          flowing unbroken
        rw [ending, unasked] at written
        rw [rawEnding, unasked] at calls
        have notified := @Flowing.closeNotify
          { layer with closeAfterSend := true } pieces taken drained
          ready rfl (written.trans (List.append_nil _)) flattened
          (calls.trans (List.append_nil _)) sound
        exact ⟨notified.ready, notified.written, notified.calls⟩
      · rw [refused.notReady] at ready
        cases ready
    rintro (⟨succeeded, _⟩ | ⟨_, refused⟩) failed _
    · rw [succeeded] at failed
      cases failed
    · rw [refused.notReady] at ready
      cases ready
  next notReady =>
  have stale : ¬layer.Flowing := fun flowing =>
    notReady flowing.ready
  split
  · next failed =>
    refine ⟨by simp, kept.stands.of_operation rfl rfl ?_ ?_ ?_⟩
    · intro waiting
      rw [waiting.notFailed] at failed
      cases failed
    · rintro (⟨succeeded, flowing⟩ | ⟨outcome, refused⟩)
      · exact .inl ⟨succeeded, fun sound =>
          absurd (flowing sound) stale⟩
      · exact .inr ⟨outcome, refused.written, refused.calls, refused.notReady, refused.failed⟩
    · exact fun _ _ _ => rfl
  refine ⟨by simp, kept.stands.of_operation rfl rfl ?_ ?_ ?_⟩
  · rintro ⟨written, calls, sound, notReady, notFailed, held⟩
    exact ⟨written, calls, sound, notReady, notFailed, held⟩
  · rintro (⟨succeeded, flowing⟩ | ⟨outcome, refused⟩)
    · exact .inl ⟨succeeded, fun sound =>
        absurd (flowing sound) stale⟩
    · exact .inr ⟨outcome, refused.written, refused.calls, refused.notReady, refused.failed⟩
  · exact fun _ _ => id

/-- What was held is written, with the alert behind it if a close was asked for
in the meantime. -/
theorem Kept.flush
    (kept : layer.Kept)
    (returned : layer.progress = .returned handshakeFailed)
    (taken : List Bool)
    (notified drained : Bool) :
    (layer.flush handshakeFailed taken notified drained).Kept := by
  have stands := kept.stands
  unfold Stands at stands
  rw [returned] at stands
  obtain ⟨waiting, outcome⟩ := stands
  unfold Layer.flush
  cases handshakeFailed with
  | true =>
    exact ⟨kept.asked, .inr ⟨outcome, waiting.written, waiting.calls,
      waiting.notReady, rfl⟩, fun _ => rfl⟩
  | false =>
    simp only [Bool.false_eq_true, if_false]
    have written := waiting.written
    have calls := waiting.calls
    rcases writeAll_spec { layer with pending := [] } layer.pending taken with
      whole | ⟨failed, stopped, outcome', asked, closeCalls⟩
    · rw [whole]
      dsimp only
      rw [written, calls, if_pos rfl]
      split
      · next asked =>
        refine ⟨kept.asked, .inl ⟨outcome, fun sound => ?_⟩, ?_⟩
        · exact @Flowing.closeNotify _ layer.pending notified drained rfl
            asked rfl waiting.held rfl sound
        · intro refused
          cases outcome.symm.trans refused
      next unasked =>
      refine ⟨kept.asked, .inl ⟨outcome, fun sound => ⟨rfl, ?_, ?_⟩⟩, ?_⟩
      · refine ⟨layer.pending, ?_, waiting.held⟩
        simp [ending, unasked]
      · simp [rawEnding, unasked]
      · intro refused
        cases outcome.symm.trans refused
    rcases wrote : Layer.writeAll { layer with pending := [] }
      layer.pending taken with ⟨next, succeeded⟩
    rw [wrote] at failed stopped outcome' asked closeCalls
    rw [stopped]
    refine ⟨?_, .inl ⟨outcome'.trans outcome, fun sound => ?_⟩, fun _ => rfl⟩
    · rw [asked, closeCalls]
      exact kept.asked
    · cases failed.symm.trans sound

theorem Kept.step
    {after : Layer}
    (kept : layer.Kept)
    (taken : layer.step label = some after) :
    after.Kept := by
  cases label with
  | send first second accepted =>
    cases taken
    exact kept.send first second accepted
  | closeAfterSend accepted drained =>
    cases taken
    exact kept.requestClose accepted drained
  | handshakeReturns failed =>
    simp only [Layer.step] at taken
    split at taken
    · next handshaking =>
      cases taken
      have stands := kept.stands
      unfold Stands at stands
      rw [handshaking] at stands
      obtain ⟨⟨written, calls, sound, notReady, notFailed, held⟩, _⟩ :=
        stands
      exact ⟨kept.asked, ⟨written, calls, sound, notReady, notFailed, held⟩, rfl⟩
    · cases taken
  | flush accepted notified drained =>
    simp only [Layer.step] at taken
    split at taken
    · next failed returned =>
      cases taken
      exact kept.flush returned accepted notified drained
    · cases taken
  | settle =>
    simp only [Layer.step] at taken
    split at taken
    · next failed flushed =>
      cases taken
      have stands := kept.stands
      unfold Stands at stands
      rw [flushed] at stands
      exact ⟨kept.asked, stands.1.of_same rfl, stands.2⟩
    · cases taken
  | finish =>
    simp only [Layer.step] at taken
    split at taken
    · next failed settled =>
      cases taken
      have stands := kept.stands
      unfold Stands at stands
      rw [settled] at stands
      obtain ⟨past, refusal⟩ := stands
      refine ⟨kept.asked, past.of_same ?_, fun refused => ?_⟩
      · cases failed <;> rfl
      · rw [if_pos (refusal refused)]
        rfl
    · cases taken
  | handshakeTimesOut =>
    simp only [Layer.step] at taken
    split at taken
    · cases taken
      exact kept.of_same rfl fun _ => rfl
    · cases taken
  | onClose =>
    cases taken
    exact kept.of_same rfl id
  | close =>
    cases taken
    exact kept.of_same rfl fun _ => rfl

end Steps

theorem Kept.initial : ({} : Layer).Kept where
  asked := rfl
  stands := ⟨⟨rfl, rfl, rfl, rfl, rfl, rfl⟩, rfl⟩

theorem Kept.of_run
    {start layer : Layer}
    (kept : start.Kept)
    (reached : Transition.run Layer.step start labels = some layer) :
    layer.Kept :=
  Transition.run_invariant (fun _ _ _ => Kept.step) kept reached

theorem Kept.past
    {layer : Layer}
    (kept : layer.Kept)
    (past : layer.progress.pastFlush = true) :
    layer.Past := by
  have stands := kept.stands
  unfold Stands at stands
  split at stands
  · next waiting => rw [waiting] at past; cases past
  · next waiting => rw [waiting] at past; cases past
  · exact stands.1
  · exact stands.1
  · exact stands.1

/-- A handshake that has failed leaves nothing written, whoever sends. -/
theorem Kept.nothing_written
    {layer : Layer}
    (kept : layer.Kept)
    (failed : layer.outcome = some false) :
    layer.written = [] ∧ layer.raw.calls = [] := by
  have refused (past : layer.Past) : layer.written = [] ∧ layer.raw.calls = [] := by
    rcases past with ⟨succeeded, _⟩ | ⟨_, refused⟩
    · cases succeeded.symm.trans failed
    · exact ⟨refused.written, refused.calls⟩
  have stands := kept.stands
  unfold Stands at stands
  split at stands
  · exact ⟨stands.1.written, stands.1.calls⟩
  · exact ⟨stands.1.written, stands.1.calls⟩
  · exact refused stands.1
  · exact refused stands.1
  · exact refused stands.1

/-- What the goroutine of the handshake still has to do. -/
def remaining : Progress -> List Label
  | .handshaking | .done => []
  | .returned _ => [.flush [] true true, .settle, .finish]
  | .flushed _ => [.settle, .finish]
  | .settled _ => [.finish]

/-- After a handshake that has failed, what its goroutine still has to do
closes the connection. -/
theorem Kept.closes
    {layer : Layer}
    (kept : layer.Kept)
    (failed : layer.outcome = some false) :
    ∃ final,
      Transition.run Layer.step layer (remaining layer.progress) = some final ∧
        final.raw.closing = true := by
  have stands := kept.stands
  unfold Stands at stands
  cases progress : layer.progress with
  | handshaking =>
    rw [progress] at stands
    cases stands.2.symm.trans failed
  | returned handshakeFailed =>
    rw [progress] at stands
    have outcome := stands.2.symm.trans failed
    obtain rfl : handshakeFailed = true := by
      simpa using outcome
    simp [remaining, Transition.run, Layer.step, progress, Layer.flush]
  | flushed failure | settled failure =>
    rw [progress] at stands
    obtain rfl := stands.2 failed
    simp [remaining, Transition.run, Layer.step, progress]
  | done =>
    rw [progress] at stands
    exact ⟨layer, rfl, stands.2 failed⟩

theorem flatten_plaintext_data (pieces : List Bytes) :
    ((pieces.map Record.data).map Record.plaintext).flatten = pieces.flatten := by
  rw [List.map_map]
  exact congrArg List.flatten (List.map_id pieces)

/-- After a handshake that succeeded, and if no write fails, the plaintext
written is the data of the sends that returned nil, in order; the alert ends
it, once, if a close was asked for, and only then is the connection below
asked to close.  After a handshake that failed nothing is written and the
connection is closed. -/
theorem accepted_sends_are_written_in_order
    (labels : List Label)
    (layer : Layer)
    (reached : Transition.run step {} labels = some layer) :
    (layer.outcome = some true -> layer.progress.pastFlush = true ->
      layer.writeFailed = false -> layer.plaintext = layer.accepted ∧
        layer.written.count .closeNotify =
          (if 0 < layer.closeCalls then 1 else 0) ∧
        (∀ index, layer.written[index]? = some .closeNotify -> index + 1 = layer.written.length) ∧
        layer.raw.calls = layer.written.map .sendRaw ++
          if 0 < layer.closeCalls then [.closeAfterSendRaw] else []) ∧
      (layer.outcome = some false -> layer.written = [] ∧ layer.raw.calls = [] ∧
        ∃ final,
          Transition.run step layer (remaining layer.progress) = some final ∧
            final.raw.closing = true) := by
  have kept := Kept.initial.of_run reached
  refine ⟨fun succeeded past sound => ?_, fun failed => ?_⟩
  · have flowing : layer.Flowing := by
      rcases kept.past past with ⟨_, flowing⟩ | ⟨failed, _⟩
      · exact flowing sound
      · cases succeeded.symm.trans failed
    obtain ⟨pieces, written, flattened⟩ := flowing.written
    have calls := flowing.calls
    have absent : Record.closeNotify ∉ pieces.map Record.data := by
      simp
    have asked := kept.asked
    by_cases called : 0 < layer.closeCalls
    · rw [decide_eq_true called] at asked
      rw [ending, asked, if_pos rfl] at written
      rw [rawEnding, asked] at calls
      rw [if_pos called, if_pos called]
      refine ⟨?_, ?_, ?_, calls⟩
      · rw [plaintext, written, List.map_append, List.flatten_append,
          flatten_plaintext_data, flattened]
        simp [Record.plaintext]
      · rw [written, List.count_append, List.count_eq_zero.mpr absent]
        rfl
      intro index found
      rw [written, List.getElem?_append] at found
      split at found
      · exact absurd (List.mem_of_getElem? found) absent
      · have bound := (List.getElem?_eq_some_iff.mp found).1
        rw [List.length_singleton] at bound
        rw [written, List.length_append, List.length_singleton]
        omega
    rw [decide_eq_false called] at asked
    rw [ending, asked] at written
    rw [rawEnding, asked] at calls
    replace written : layer.written = pieces.map Record.data :=
      written.trans (List.append_nil _)
    rw [if_neg called, if_neg called]
    refine ⟨?_, ?_, ?_, calls⟩
    · rw [plaintext, written, flatten_plaintext_data, flattened]
    · rw [written, List.count_eq_zero.mpr absent]
    · intro index found
      rw [written] at found
      exact absurd (List.mem_of_getElem? found) absent
  · obtain ⟨written, calls⟩ := kept.nothing_written failed
    exact ⟨written, calls, kept.closes failed⟩

/-- Data is sent before the handshake ends, then a close is asked for while it
is being flushed. -/
def crossing : List Label :=
  [.send (ascii "a") (ascii "b") true, .handshakeReturns false,
    .send (ascii "c") [] true, .flush [] true true,
    .send (ascii "d") [] true, .closeAfterSend true false,
    .send (ascii "e") [] true, .settle, .finish]

def crossed : Layer :=
  (Transition.run step {} crossing).getD {}

theorem accepted_sends_are_written_in_order_crossed :
    crossed.accepted = ascii "abcd" ∧ crossed.plaintext = crossed.accepted :=
  ⟨by decide,
    ((accepted_sends_are_written_in_order crossing crossed (by decide)).1
      (by decide) (by decide) (by decide)).1⟩

end Layer
end Tls
end Fib
