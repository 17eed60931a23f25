import Fib.Http2.Responses

/-!
# Graceful shutdown of an HTTP/2 connection

A connection that is going away closes once its last stream is done.  The
responses it has accepted are then all handed to the transport, unless a flush
completes the last stream: `closeFinishedLocked` is called from inside the
flush, before the frames the flush has collected are sent, and they are lost.
-/

namespace Fib
namespace Http2

open Frames
open Http (Header Response)

namespace ServerConn

variable {Encoder Decoder : Type}
variable {server : Server Encoder Decoder}
variable {conn next : ServerConn Encoder Decoder}

/-- A connection that closed because it was done has handed over every byte
of every response it accepted on a stream that was not reset. -/
def LosesNothing
    (server : Server Encoder Decoder)
    (conn : ServerConn Encoder Decoder) : Prop :=
  conn.drained = true -> ∀ id st answer, conn.table id = some st ->
    st.answer = some answer -> st.reset = false ->
      Delivered server id conn.wire answer

/-- A stream of the map that no flush can complete now: it has nothing to
send, or the windows do not allow all of it. -/
structure Held
    (conn : ServerConn Encoder Decoder)
    (id : Nat) : Prop where
  present : id ∈ conn.streams
  held : ∃ st, conn.table id = some st ∧
    (st.pending = [] ∨ conn.fits st = false)

section

variable (conn : ServerConn Encoder Decoder)

/-- If the connection is going away, a flush leaves it a stream that is not
done, or finds none. -/
def Lingers : Prop :=
  conn.goingAway = true -> conn.streams = [] ∨ ∃ id, Held conn id

/-- `Lingers`, as it is computed. -/
def lingers : Bool :=
  !conn.goingAway || conn.streams.isEmpty ||
    conn.streams.any fun id =>
      (conn.table id).any fun st => st.pending.isEmpty || !conn.fits st

theorem lingers_eq_true :
    conn.lingers = true ↔ Lingers conn := by
  unfold lingers Lingers
  simp only [Bool.or_eq_true, Bool.not_eq_true', List.isEmpty_iff,
    List.any_eq_true, Option.any_eq_true]
  constructor
  · rintro ((staying | empty) | ⟨id, present, st, found, held⟩) leaving
    · simp [staying] at leaving
    · exact .inl empty
    · exact .inr ⟨id, present, st, found, held⟩
  intro holds
  cases leaving : conn.goingAway with
  | false => exact .inl (.inl rfl)
  | true =>
    rcases holds leaving with empty | ⟨id, present, st, found, held⟩
    · exact .inl (.inr empty)
    · exact .inr ⟨id, present, st, found, held⟩

end

instance (conn : ServerConn Encoder Decoder) : Decidable (Lingers conn) :=
  decidable_of_iff _ (lingers_eq_true conn)

/-! ## Closing -/

/-- Closing when all streams are done. -/
theorem LosesNothing.closeFinishedLocked
    (base : Base server conn.wire conn)
    (loses : LosesNothing server conn) :
    LosesNothing server conn.closeFinishedLocked := by
  rcases closeFinishedLocked_cases conn with same |
    ⟨isOpen, _, empty, equal⟩
  · rwa [same]
  rw [equal]
  intro _ id st answer found answered notReset
  have stored := base.stored found
  have progress := stored.progress isOpen notReset
  have done : st.localDone = true := by
    by_contra notDone
    have present := stored.kept isOpen notReset (Bool.eq_false_iff.mpr notDone)
    simp [empty] at present
  exact (progress_of_localDone answered done).mp progress

theorem losesNothing_of_isOpen
    (base : Base server conn.wire conn)
    (isOpen : conn.closed = false) :
    LosesNothing server conn := by
  intro drained
  simp [base.drains drained] at isOpen

theorem LosesNothing.agree
    (loses : LosesNothing server conn)
    (agrees : Agrees conn next) :
    LosesNothing server next := by
  intro drained id st answer found answered notReset
  obtain ⟨before, stored, same⟩ := agrees.lift found
  rw [agrees.wire]
  exact loses (agrees.drained ▸ drained) id before answer stored
    ((congrArg Side.answer same).trans answered) ((congrArg Side.reset same).trans notReset)

/-- A closed connection accepts and sends nothing. -/
theorem agrees_of_closed
    {terms : Terms Encoder Decoder}
    (base : Base server conn.wire conn)
    (closed : conn.closed = true)
    (action : Action server terms conn next) :
    Agrees conn next := by
  have empty := base.emptied closed
  have noSend : ∀ out, conn.sendLocked out = conn :=
    sendLocked_of_closed closed
  have noClose : conn.closeFinishedLocked = conn := by
    simp [closeFinishedLocked, closed]
  have flushes : ∀ order, flushLocked server order conn = ([], conn) := by
    intro order
    induction order with
    | nil => rfl
    | cons id rest ih =>
      have absent : conn.find id = none := by simp [find, empty]
      simp [flushLocked, absent, ih]
  cases action with
  | agree agrees => exact agrees
  | control _ => rw [noSend]; exact .refl conn
  | grant present | drop present => simp [empty] at present
  | opens _ _ _ isOpen | promise _ isOpen => simp [closed] at isOpen
  | respond accepted =>
    obtain ⟨_, _, isOpen, _⟩ := respond_eq_ok accepted
    simp [closed] at isOpen
  | interim accepted =>
    unfold writeInterim at accepted
    simp only [closed, Bool.true_or, if_true] at accepted
    repeat' split at accepted
    all_goals cases accepted
  | reset _ =>
    simp only [resetStream, empty, List.not_mem_nil, if_false, noSend, noClose]
    exact .refl conn
  | close => rw [noClose]; exact .refl conn
  | flush _ _ =>
    simp only [flushAndClose, flushes, noSend, noClose]
    exact .refl conn
  | fail =>
    simp only [ServerConn.fail, closed, if_true]
    exact .refl conn
  | shutdown =>
    exact { Agrees.refl conn with closed := closed.symm, streams := empty.symm }

/-! ## A flush that closes nothing -/

/-- A stream that is settled leaves the window, the retirement and the other streams alone. -/
theorem settle_frame (id : Nat) :
    (conn.settle id).sendWindow = conn.sendWindow ∧
      (conn.settle id).goingAway = conn.goingAway ∧
      ∀ other ≠ id, (conn.settle id).table other = conn.table other ∧
        (other ∈ (conn.settle id).streams ↔ other ∈ conn.streams) := by
  have forgetting (conn : ServerConn Encoder Decoder) :
      (conn.forgetLocked id).sendWindow = conn.sendWindow ∧
        (conn.forgetLocked id).goingAway = conn.goingAway ∧
        ∀ other ≠ id, (conn.forgetLocked id).table other = conn.table other ∧
          (other ∈ (conn.forgetLocked id).streams ↔ other ∈ conn.streams) := by
    cases found : conn.table id with
    | none => simp [forgetLocked, found]
    | some st =>
      obtain ⟨pushed, equal⟩ := forgetLocked_eq found
      rw [equal]
      exact ⟨rfl, rfl, fun other different =>
        ⟨Function.update_of_ne different .., List.mem_erase_of_ne different⟩⟩
  unfold settle
  split
  · simp
  split
  · simp
  split
  · exact forgetting conn
  unfold sendLocked
  split
  all_goals
    refine ⟨(forgetting _).1, (forgetting _).2.1, fun other different => ?_⟩
    obtain ⟨table, streams⟩ := (forgetting _).2.2 other different
    exact ⟨table.trans (Function.update_of_ne different ..), streams⟩

/-- While a stream is in the map, finishing another one closes nothing. -/
theorem finishStreamLocked_eq_settle
    {id : Nat}
    (busy : conn.goingAway = true -> (conn.settle id).streams ≠ []) :
    conn.finishStreamLocked id = conn.settle id := by
  rcases finishStreamLocked_cases conn id with equal | equal
  · exact equal
  rw [equal, closeFinishedLocked]
  rw [← (settle_frame id).2.1] at busy
  cases leaving : (conn.settle id).goingAway with
  | false => simp
  | true => simp [busy leaving]

section FlushOne

variable {id other : Nat}
variable {st after : ServerStream}
variable {buffer frames : List Sent}
variable (flushing : Flushing server conn buffer id st after frames window)
include flushing

/-- A stream that is held stays held when a stream is flushed. -/
theorem Held.flushOne
    (held : Held conn other)
    (encoder : Encoder) :
    Held ((conn.flushed id after encoder window).settle id) other := by
  obtain ⟨present, known, isKnown, blocked⟩ := held
  by_cases same : other = id
  · subst other
    obtain rfl := Option.some.inj (flushing.stored.symm.trans isKnown)
    have unfit : conn.fits st = false := blocked.resolve_left flushing.pending
    have going : after.localDone = false := flushing.localDone.trans unfit
    have unsettled : (conn.flushed id after encoder window).settle id =
        conn.flushed id after encoder window := by
      simp [settle, flushed, update, going]
    rw [unsettled]
    refine ⟨present, after, by simp [flushed, update], .inr ?_⟩
    exact flushing.stuck going
  refine ⟨((settle_frame id).2.2 _ same).2.mpr present, known, ?_, ?_⟩
  · rw [((settle_frame id).2.2 _ same).1]
    simpa [flushed, update, Function.update_of_ne same] using isKnown
  refine blocked.imp_right fun unfit => ?_
  have smaller : (conn.flushed id after encoder window).sendWindow ≤ conn.sendWindow :=
    flushing.shrinks
  unfold fits at *
  rw [(settle_frame id).1]
  simp only [Bool.and_eq_false_iff, decide_eq_false_iff_not] at *
  omega

/-- The connection stays as open as it is when a stream is flushed. -/
theorem Lingers.flushOne
    (lingers : Lingers conn)
    (encoder : Encoder) :
    ((conn.flushed id after encoder window).finishStreamLocked id).closed = conn.closed ∧
      Lingers ((conn.flushed id after encoder window).finishStreamLocked id) := by
  have stays : conn.goingAway = true ->
      ∃ other, Held ((conn.flushed id after encoder window).settle id) other := by
    intro leaving
    rcases lingers leaving with empty | ⟨other, held⟩
    · have present := flushing.present
      simp [empty] at present
    · exact ⟨other, held.flushOne flushing encoder⟩
  have unclosed : (conn.flushed id after encoder window).finishStreamLocked id =
      (conn.flushed id after encoder window).settle id := by
    apply finishStreamLocked_eq_settle
    intro leaving
    obtain ⟨other, held⟩ := stays leaving
    exact List.ne_nil_of_mem held.present
  rw [unclosed, settle_closed]
  refine ⟨rfl, fun leaving => .inr (stays ?_)⟩
  rwa [(settle_frame id).2.1] at leaving

end FlushOne

/-! ## Every run -/

/-- A flush that leaves a stream undone does not close the connection. -/
theorem LosesNothing.flushAndClose
    (base : Base server conn.wire conn)
    (isOpen : conn.closed = false)
    (lingers : Lingers conn)
    (order : List Nat)
    (control : ∀ frame ∈ out, isControl frame = true) :
    LosesNothing server (conn.flushAndClose server order out) := by
  obtain ⟨last, sent, equal, flushed, stillOpen, _⟩ := base.flushes control
    (fun _ next => next.closed = false ∧ Lingers next)
    (fun _ _ _ _ _ _ _ encoder flushing held =>
      (held.2.flushOne flushing encoder).imp_left fun same => same.trans held.1)
    ⟨isOpen, lingers⟩ order
  rw [equal]
  apply LosesNothing.closeFinishedLocked flushed
  exact losesNothing_of_isOpen flushed (sendLocked_closed.trans stillOpen)

/-- Every action that flushes only where a stream lingers loses nothing. -/
theorem LosesNothing.action
    (base : Base server conn.wire conn)
    (loses : LosesNothing server conn)
    (action : Action server ⟨fine, Lingers, reading⟩ conn next) :
    LosesNothing server next := by
  cases closed : conn.closed with
  | true => exact loses.agree (agrees_of_closed base closed action)
  | false =>
    have after := base.action action
    have stillOpen : next.closed = false -> LosesNothing server next :=
      losesNothing_of_isOpen after
    have undrained : conn.drained = false := by
      apply Bool.eq_false_iff.mpr
      intro drained
      simp [base.drains drained] at closed
    cases action with
    | agree agrees => exact loses.agree agrees
    | control _ | grant _ | drop _ => exact stillOpen (by simpa using closed)
    | opens _ _ _ _ _ _ _ equal => exact stillOpen (by rw [equal]; exact closed)
    | respond accepted =>
      obtain ⟨last, equal, isOpen, settled⟩ :=
        base.respond_settled accepted
      rw [equal]
      exact LosesNothing.closeFinishedLocked settled (losesNothing_of_isOpen settled isOpen)
    | interim accepted =>
      apply stillOpen
      unfold writeInterim at accepted
      repeat' split at accepted
      all_goals cases accepted
      simpa using closed
    | promise _ isOpen _ _ _ =>
      exact stillOpen (by simpa [ServerConn.promise, update] using isOpen)
    | reset _ =>
      obtain ⟨last, equal, sameClosed, settled⟩ :=
        base.resetStream_settled _ _
      rw [equal]
      exact LosesNothing.closeFinishedLocked settled
        (losesNothing_of_isOpen settled (sameClosed.trans closed))
    | close => exact loses.closeFinishedLocked base
    | flush lingers control =>
      exact LosesNothing.flushAndClose base closed lingers _ control
    | fail =>
      intro drained
      simp [ServerConn.fail, closed, undrained] at drained
    | shutdown =>
      intro drained
      simp [ServerConn.shutdown, undrained] at drained

/-- A SETTINGS or WINDOW_UPDATE frame that makes a connection that is going
away flush does not let the flush complete every stream. -/
def FlushLingers
    (server : Server Encoder Decoder)
    (conn : ServerConn Encoder Decoder) : Event -> Prop
  | .frame frame _ =>
    ∀ ready, readied server (conn.noted frame) frame = some ready ->
      Lingers ready
  | _ => True

instance (server : Server Encoder Decoder)
    (conn : ServerConn Encoder Decoder) (event : Event) :
    Decidable (FlushLingers server conn event) :=
  match event with
  | .frame frame _ =>
    decidable_of_iff
      ((readied server (conn.noted frame) frame).all lingers = true) (by
        simp only [Option.all_eq_true, lingers_eq_true]
        rfl)
  | .malformed _ _ => .isTrue trivial
  | .respond _ _ _ => .isTrue trivial
  | .interim _ _ _ => .isTrue trivial
  | .push _ _ _ _ => .isTrue trivial
  | .shutdown => .isTrue trivial

/-- In every run whose flushes leave a connection that is going away a stream
that is not done, graceful shutdown loses no response. -/
theorem graceful_shutdown_loses_nothing
    (server : Server Encoder Decoder)
    {start final : ServerConn Encoder Decoder}
    {events : List Event}
    (starts : IsStart server start)
    (lingers : Transition.Meets (step server) (FlushLingers server) start events)
    (reached : Transition.run (step server) start events = some final) :
    LosesNothing server final := by
  have initially := losesNothing_of_isOpen (base_of_isStart starts) (isOpen_of_isStart starts)
  refine run_of_step (fun conn event next base loses lingering taken => ?_)
    starts initially lingers reached
  have admitted : Admits server (fun _ _ => True) Lingers conn event := by
    cases event with
    | frame frame order => exact ⟨fun _ _ => trivial, lingering⟩
    | _ => trivial
  exact base.step_of_action (fun _ _ base loses action => loses.action base action)
    loses admitted taken

/-- The connection of the small server after the events. -/
def reach (events : List Event) : ServerConn Unit Unit :=
  (Transition.run (step smallServer) (start smallServer) events).getD
    (start smallServer)

/-- Two requests without a window; the first response closes the connection
and is flushed while the other stream is unanswered. -/
def staggered : List Event :=
  [.frame (windowSetting 0) [],
    .frame (requestFrame 1 true "GET" []) [],
    .frame (requestFrame 3 true "GET" []) [1],
    .respond 1 (ascii "GET") (textResponse "first" true),
    .frame (windowUpdate 1 5) [3, 1],
    .respond 3 (ascii "GET") (textResponse "" false)]

theorem graceful_shutdown_loses_nothing_staggered :
    (reach staggered).drained = true ∧ LosesNothing smallServer (reach staggered) :=
  ⟨by decide, @graceful_shutdown_loses_nothing _ _ smallServer _ _ staggered
      (.inl rfl) (by decide) rfl⟩

/-- One request without a window; its response closes the connection and is
flushed when the window grows. -/
def lastFlush : List Event :=
  [.frame (windowSetting 0) [],
    .frame (requestFrame 1 true "GET" []) [],
    .respond 1 (ascii "GET") (textResponse "hello" true),
    .frame (windowUpdate 1 5) [1]]

/-- The flush that completes the last stream loses the body it flushed. -/
theorem last_flush_is_lost :
    (Transition.run (step smallServer) (start smallServer) lastFlush).isSome = true ∧
      ¬LosesNothing smallServer (reach lastFlush) := by
  refine ⟨by decide, fun loses => ?_⟩
  have drained : (reach lastFlush).drained = true := by decide
  have nothing : dataOf 1 (reach lastFlush).wire = [] := by decide
  have accepted : ((reach lastFlush).table 1).any (fun st =>
      !st.reset && st.answer.any (·.body == ascii "hello")) = true := by
    decide
  simp only [Option.any_eq_true, Bool.and_eq_true, Bool.not_eq_true', beq_iff_eq] at accepted
  obtain ⟨st, found, notReset, answer, answered, body⟩ := accepted
  have delivered := loses drained 1 st answer found answered notReset
  have sent := delivered.body
  rw [body] at sent
  exact absurd sent (by decide)

/-! ## While it is open -/

/-- In whichever order frames, responses and pushes come, an open connection
keeps in its map the streams that are neither reset nor finished, no others, and
once each; and the frames it has sent hold of every response that was not reset
what its stream says is sent, and nothing on a stream that was not opened. -/
theorem responses_are_accounted
    (server : Server Encoder Decoder)
    {start final : ServerConn Encoder Decoder}
    {events : List Event}
    (starts : IsStart server start)
    (reached : Transition.run (step server) start events = some final)
    (isOpen : final.closed = false) :
    final.streams.Nodup ∧
      (∀ id, id ∈ final.streams ↔
        ∃ st, final.table id = some st ∧ st.reset = false ∧ st.localDone = false) ∧
      (∀ id st, final.table id = some st -> st.reset = false ->
        Progress server id final.wire st.side) ∧
      ∀ id, final.table id = none -> Blank id final.wire := by
  have kept (conn : ServerConn Encoder Decoder) (event : Event)
      (next : ServerConn Encoder Decoder) (base : Base server conn.wire conn)
      (taken : conn.step server event = some next) : Base server next.wire next :=
    base.step taken
  have base := Transition.run_invariant kept (base_of_isStart starts) reached
  refine ⟨base.nodup, fun id => ⟨base.isOpen id, ?_⟩, ?_, base.blank isOpen⟩
  · rintro ⟨st, found, notReset, notDone⟩
    exact (base.stored found).kept isOpen notReset notDone
  · exact fun id st found notReset => (base.stored found).progress isOpen notReset

/-- The first response is flushed, the other stream has none. -/
theorem responses_are_accounted_flushed :
    3 ∈ (reach (staggered.take 5)).streams ∧ 1 ∉ (reach (staggered.take 5)).streams := by
  have mapped := (@responses_are_accounted _ _ smallServer _ _ (staggered.take 5) (.inl rfl)
    rfl rfl).2.1
  exact ⟨(mapped 3).mpr ⟨_, rfl, rfl, rfl⟩, fun present => by
    obtain ⟨st, found, -, notDone⟩ := (mapped 1).mp present
    cases found
    cases notDone⟩

end ServerConn
end Http2
end Fib
