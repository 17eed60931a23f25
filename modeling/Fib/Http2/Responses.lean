import Fib.Http2.Progress

/-!
# Responses of an open connection

While a connection is open, every stream that has not been reset has sent what
its fields say, and it is in the map of streams until its response is
complete.  Every action keeps this, whichever streams it resets and whatever a
flush completes.
-/

namespace Fib
namespace Http2

open Frames
open Http (Header Response)

namespace ServerConn

variable {Encoder Decoder : Type}
variable {server : Server Encoder Decoder}
variable {conn next : ServerConn Encoder Decoder}
variable {frames : List Sent}
variable {id : Nat}
variable {st : ServerStream}

/-! ## The invariant -/

/-- The fields of a stream fit together. -/
structure Sound (side : Side) : Prop where
  answered : side.responded = side.answer.isSome
  pending : side.pending ≠ [] -> side.responded = true
  localDone : side.localDone = true -> side.responded = true

/-- A stream that is stored has an identifier in use, is in the map until its
response is complete, and has sent what its fields say. -/
structure Stored
    (server : Server Encoder Decoder)
    (frames : List Sent)
    (conn : ServerConn Encoder Decoder)
    (id : Nat)
    (side : Side) : Prop where
  known : id ≠ 0 ∧ conn.idleLocked id = false
  sound : Sound side
  kept : conn.closed = false -> side.reset = false -> side.localDone = false ->
    id ∈ conn.streams
  progress : conn.closed = false -> side.reset = false -> Progress server id frames side

/-- The response side of a connection that has sent, or is about to send, the
frames.  What a closed connection no longer sends is left out. -/
structure Base
    (server : Server Encoder Decoder)
    (frames : List Sent)
    (conn : ServerConn Encoder Decoder) : Prop where
  drains : conn.drained = true -> conn.closed = true
  emptied : conn.closed = true -> conn.streams = []
  nodup : conn.streams.Nodup
  isOpen : ∀ id ∈ conn.streams, ∃ st, conn.table id = some st ∧
    st.reset = false ∧ st.localDone = false
  even : 0 < conn.nextPushID ∧ conn.nextPushID % 2 = 0
  stored : ∀ {id st}, conn.table id = some st -> Stored server frames conn id st.side
  blank : conn.closed = false -> ∀ id, conn.table id = none ->
    Blank id frames

/-! ## Operations -/

theorem sendLocked_of_isOpen
    (isOpen : conn.closed = false)
    (out : List Sent) :
    conn.sendLocked out = { conn with wire := conn.wire ++ out } := by
  simp [sendLocked, isOpen]

theorem sendLocked_of_closed
    (isClosed : conn.closed = true)
    (out : List Sent) :
    conn.sendLocked out = conn := by
  simp [sendLocked, isClosed]

section Fields

variable {out : List Sent}

@[simp] theorem closeFinishedLocked_wire :
    conn.closeFinishedLocked.wire = conn.wire := by
  unfold closeFinishedLocked
  split <;> rfl

@[simp] theorem closeFinishedLocked_table :
    conn.closeFinishedLocked.table = conn.table := by
  unfold closeFinishedLocked
  split <;> rfl

@[simp] theorem sendLocked_table :
    (conn.sendLocked out).table = conn.table := by
  unfold sendLocked
  split <;> rfl

@[simp] theorem sendLocked_streams :
    (conn.sendLocked out).streams = conn.streams := by
  unfold sendLocked
  split <;> rfl

@[simp] theorem sendLocked_closed :
    (conn.sendLocked out).closed = conn.closed := by
  unfold sendLocked
  split <;> rfl

@[simp] theorem sendLocked_drained :
    (conn.sendLocked out).drained = conn.drained := by
  unfold sendLocked
  split <;> rfl

@[simp] theorem sendLocked_nextPushID :
    (conn.sendLocked out).nextPushID = conn.nextPushID := by
  unfold sendLocked
  split <;> rfl

@[simp] theorem sendLocked_maxClientID :
    (conn.sendLocked out).maxClientID = conn.maxClientID := by
  unfold sendLocked
  split <;> rfl

end Fields

/-- Closing a connection that is done, or nothing. -/
theorem closeFinishedLocked_cases (conn : ServerConn Encoder Decoder) :
    conn.closeFinishedLocked = conn ∨
      conn.closed = false ∧ conn.goingAway = true ∧ conn.streams = [] ∧ conn.closeFinishedLocked =
          { conn with closed := true, drained := true } := by
  unfold closeFinishedLocked
  split
  · exact .inl rfl
  · simp_all

/-- What a stream becomes when it is forgotten. -/
def forgotten (st : ServerStream) : ServerStream :=
  { st with reset := st.reset || !st.localDone, pending := [] }

theorem forgetLocked_eq (found : conn.table id = some st) :
    ∃ pushed, conn.forgetLocked id =
      { conn.update id (forgotten st) with
        streams := conn.streams.erase id, pushedStreams := pushed } := by
  unfold forgetLocked
  rw [found]
  dsimp only
  split
  · exact ⟨_, rfl⟩
  · next absent =>
    refine ⟨conn.pushedStreams, ?_⟩
    rw [List.erase_of_not_mem absent]
    rfl

@[simp] theorem forgetLocked_wire :
    (conn.forgetLocked id).wire = conn.wire := by
  cases found : conn.table id with
  | none => simp [forgetLocked, found]
  | some st =>
    obtain ⟨pushed, equal⟩ := forgetLocked_eq found
    rw [equal]
    rfl

@[simp] theorem forgetLocked_closed :
    (conn.forgetLocked id).closed = conn.closed := by
  cases found : conn.table id with
  | none => simp [forgetLocked, found]
  | some st =>
    obtain ⟨pushed, equal⟩ := forgetLocked_eq found
    rw [equal]
    rfl

/-! ## The invariant is kept -/

theorem Base.isOpen_of_mem
    (base : Base server frames conn)
    (present : id ∈ conn.streams) :
    conn.closed = false := by
  apply Bool.eq_false_iff.mpr
  intro closed
  simp [base.emptied closed] at present

/-- The connections differ in one stream, and in what is not of the response
side; the map of streams and the wire are left out. -/
structure Changed
    (conn next : ServerConn Encoder Decoder)
    (id : Nat)
    (after : ServerStream) : Prop where
  table : next.table = Function.update conn.table id (some after)
  closed : next.closed = conn.closed
  drained : next.drained = conn.drained
  nextPushID : next.nextPushID = conn.nextPushID
  maxClientID : next.maxClientID = conn.maxClientID

variable {after : ServerStream} {others : List Sent}

section

variable (base : Base server frames conn)
include base

/-- One stream is stored, and the map of the others stays. -/
theorem Base.store
    (table : next.table = Function.update conn.table id (some after))
    (closed : next.closed = conn.closed)
    (drained : next.drained = conn.drained)
    (emptied : next.closed = true -> next.streams = [])
    (nodup : next.streams.Nodup)
    (inMap : ∀ other, other ≠ id -> (other ∈ next.streams ↔ other ∈ conn.streams))
    (going : id ∈ next.streams -> after.reset = false ∧ after.localDone = false)
    (idle : ∀ other, conn.idleLocked other = false -> next.idleLocked other = false)
    (even : 0 < next.nextPushID ∧ next.nextPushID % 2 = 0)
    (alike : ∀ other, other ≠ id -> Alike other frames others)
    (here : Stored server others next id after.side) :
    Base server others next := by
  have atId : next.table id = some after := by
    rw [table, Function.update_self]
  have elsewhere : ∀ other, other ≠ id -> next.table other = conn.table other := by
    intro other different
    rw [table, Function.update_of_ne different]
  constructor
  case drains => rw [drained, closed]; exact base.drains
  case emptied => exact emptied
  case nodup => exact nodup
  case isOpen =>
    intro other present
    by_cases same : other = id
    · subst other
      exact ⟨after, atId, going present⟩
    · rw [elsewhere other same]
      exact base.isOpen other ((inMap other same).mp present)
  case even => exact even
  case stored =>
    intro other stream present
    by_cases same : other = id
    · subst other
      rw [atId, Option.some.injEq] at present
      exact present ▸ here
    rw [elsewhere other same] at present
    obtain ⟨⟨nonzero, used⟩, sound, kept, progress⟩ := base.stored present
    rw [← closed] at kept progress
    exact ⟨⟨nonzero, idle other used⟩, sound,
      fun isOpen notReset notDone => (inMap other same).mpr (kept isOpen notReset notDone),
      fun isOpen notReset => (progress isOpen notReset).of_alike (alike other same)⟩
  case blank =>
    intro isOpen other absent
    have same : other ≠ id := by
      rintro rfl
      simp [atId] at absent
    exact (base.blank (closed ▸ isOpen) other
      (elsewhere other same ▸ absent)).of_alike (alike other same)

/-- One stream of the map changes; it leaves the map when its response is
complete or it is reset. -/
theorem Base.replace
    (found : conn.table id = some st)
    (changed : Changed conn next id after)
    (streams : next.streams =
      if after.localDone || after.reset then conn.streams.erase id
      else conn.streams)
    (sound : Sound after.side)
    (stays : st.reset = true -> after.reset = true)
    (done : st.localDone = true -> after.localDone = true)
    (alike : ∀ other, other ≠ id -> Alike other frames others)
    (progress : conn.closed = false -> after.reset = false ->
      Progress server id others after.side) :
    Base server others next := by
  obtain ⟨table, closed, drained, nextPushID, maxClientID⟩ := changed
  have idle : ∀ number, next.idleLocked number = conn.idleLocked number := by
    simp [idleLocked, nextPushID, maxClientID]
  refine base.store table closed drained ?_ ?_ ?_ ?_ (fun other used => (idle other).trans used)
    (nextPushID ▸ base.even) alike
    ⟨idle id ▸ (base.stored found).known, sound, fun isOpen notReset notDone => ?_,
      fun isOpen => progress (closed ▸ isOpen)⟩
  · intro isClosed
    have empty := base.emptied (closed ▸ isClosed)
    rw [streams]
    split <;> simp [empty]
  · rw [streams]
    split
    · exact base.nodup.erase id
    · exact base.nodup
  · intro other different
    rw [streams]
    split
    · exact List.mem_erase_of_ne different
    · rfl
  · intro present
    rw [streams] at present
    split at present
    · exact absurd present base.nodup.not_mem_erase
    · next going =>
      simp only [Bool.or_eq_true, not_or, Bool.not_eq_true] at going
      exact ⟨going.2, going.1⟩
  · change after.reset = false at notReset
    change after.localDone = false at notDone
    rw [streams, notReset, notDone]
    apply (base.stored found).kept (closed ▸ isOpen)
    · exact Bool.eq_false_iff.mpr fun wasReset => by
        simp [stays wasReset] at notReset
    · exact Bool.eq_false_iff.mpr fun wasDone => by
        simp [done wasDone] at notDone

/-- A change of what is on the wire that is no part of a response. -/
theorem Base.of_alike (alike : ∀ id, Alike id frames others) :
    Base server others conn :=
  { base with
    stored := fun found =>
      { base.stored found with
        progress := fun isOpen notReset =>
          ((base.stored found).progress isOpen notReset).of_alike (alike _) }
    blank := fun isOpen id absent =>
      (base.blank isOpen id absent).of_alike (alike id) }

theorem Base.agree (agrees : Agrees conn next) :
    Base server frames next where
  drains isDrained := by
    rw [agrees.closed]
    exact base.drains (agrees.drained ▸ isDrained)
  emptied isClosed := by
    rw [agrees.streams]
    exact base.emptied (agrees.closed ▸ isClosed)
  nodup := agrees.streams ▸ base.nodup
  isOpen id present := by
    obtain ⟨st, found, notReset, notDone⟩ :=
      base.isOpen id (agrees.streams ▸ present)
    have same := agrees.sides id
    rw [found] at same
    obtain ⟨after, stored, equal⟩ := Option.map_eq_some_iff.mp same
    exact ⟨after, stored, (congrArg Side.reset equal).trans notReset,
      (congrArg Side.localDone equal).trans notDone⟩
  even := agrees.nextPushID ▸ base.even
  stored present := by
    obtain ⟨before, found, same⟩ := agrees.lift present
    obtain ⟨⟨nonzero, used⟩, sound, kept, progress⟩ := base.stored found
    rw [← agrees.closed] at kept progress
    rw [← agrees.streams] at kept
    rw [← same]
    refine ⟨⟨nonzero, ?_⟩, sound, kept, progress⟩
    have later := agrees.maxClientID
    unfold idleLocked at *
    rw [agrees.nextPushID]
    split at used
    · next isEven => rw [if_pos isEven, used]
    · next isOdd =>
      rw [if_neg isOdd]
      simp only [decide_eq_false_iff_not] at *
      omega
  blank isOpen id absent :=
    base.blank (agrees.closed ▸ isOpen) id ((agrees.table_eq_none_iff id).mp absent)

/-- A connection that is closed has nothing left to keep. -/
theorem Base.closing
    (table : next.table = conn.table)
    (nextPushID : next.nextPushID = conn.nextPushID)
    (maxClientID : next.maxClientID = conn.maxClientID)
    (closed : next.closed = true)
    (streams : next.streams = []) :
    Base server others next where
  drains _ := closed
  emptied _ := streams
  nodup := by simp [streams]
  isOpen := by simp [streams]
  even := nextPushID ▸ base.even
  stored present := by
    obtain ⟨known, sound, _⟩ := base.stored (table ▸ present)
    exact ⟨by simpa [idleLocked, nextPushID, maxClientID] using known, sound, by simp [closed],
      by simp [closed]⟩
  blank isOpen := by simp [closed] at isOpen

theorem Base.closeFinishedLocked :
    Base server frames conn.closeFinishedLocked := by
  rcases closeFinishedLocked_cases conn with same | ⟨_, _, empty, equal⟩
  · rwa [same]
  · rw [equal]
    exact base.closing (by rfl) (by rfl) (by rfl) (by rfl)
      (by exact empty)

theorem Base.shutdown : Base server frames conn.shutdown :=
  base.closing (by rfl) (by rfl) (by rfl) (by rfl) (by rfl)

end

theorem Base.fail
    (base : Base server conn.wire conn)
    (code : ErrorCode)
    (reason : String) :
    Base server (conn.fail code reason).wire (conn.fail code reason) := by
  unfold ServerConn.fail
  split
  · exact base
  · next isOpen =>
    rw [sendLocked_of_isOpen (by simpa using isOpen)]
    exact base.closing (by rfl) (by rfl) (by rfl) (by rfl) (by rfl)

/-- What a closed connection has still to send does not matter. -/
theorem Base.of_closed
    (base : Base server frames conn)
    (isClosed : conn.closed = true) :
    Base server others conn :=
  { base with
    stored := fun found =>
      { base.stored found with progress := fun isOpen => by simp [isClosed] at isOpen }
    blank := fun isOpen => by simp [isClosed] at isOpen }

variable {out : List Sent}

/-- Sending what was about to be sent. -/
theorem Base.sendLocked (base : Base server (conn.wire ++ out) conn) :
    Base server (conn.sendLocked out).wire (conn.sendLocked out) := by
  cases closed : conn.closed with
  | true =>
    rw [sendLocked_of_closed closed]
    exact base.of_closed closed
  | false =>
    rw [sendLocked_of_isOpen closed]
    exact { base with stored := fun found => { base.stored found with } }

theorem Base.send
    (base : Base server conn.wire conn)
    (blank : ∀ id, Blank id out) :
    Base server (conn.sendLocked out).wire (conn.sendLocked out) :=
  Base.sendLocked (base.of_alike fun id => (blank id).alike_append)

theorem blank_rstStream
    (stream : Nat)
    (code : ErrorCode) :
    Blank id [.rstStream stream code] :=
  blank_of_isBare (by
    simp [isBare, Sent.fragment, Sent.payload, Sent.endStream])

/-- A response that is complete stays so when its stream is forgotten. -/
theorem Progress.forgotten
    (progress : Progress server id frames st.side)
    (notReset : (forgotten st).reset = false) :
    Progress server id frames (forgotten st).side := by
  have done : st.localDone = true := by
    simp only [ServerConn.forgotten, Bool.or_eq_false_iff] at notReset
    simpa using notReset.2
  cases answered : st.answer with
  | none => simpa [Progress, ServerConn.forgotten, ServerStream.side,
      answered] using progress
  | some answer =>
    simpa [Progress, ServerConn.forgotten, ServerStream.side, done] using progress

theorem sound_forgotten (sound : Sound st.side) :
    Sound (forgotten st).side where
  answered := sound.answered
  pending := by simp [forgotten, ServerStream.side]
  localDone := sound.localDone

/-- Forgetting a stream. -/
theorem Base.forgetLocked
    (base : Base server frames conn)
    (present : id ∈ conn.streams) :
    Base server frames (conn.forgetLocked id) := by
  obtain ⟨st, found, notReset, notDone⟩ := base.isOpen id present
  obtain ⟨pushed, equal⟩ := forgetLocked_eq found
  rw [equal]
  refine base.replace found ⟨rfl, rfl, rfl, rfl, rfl⟩ ?_
    (sound_forgotten ((base.stored found).sound)) ?_ (fun done => done)
    (fun _ _ => ⟨rfl, rfl, rfl, rfl⟩) ?_
  · simp [forgotten, notDone]
  · simp [forgotten, notReset, notDone]
  · intro isOpen stillOpen
    exact Progress.forgotten ((base.stored found).progress isOpen notReset) stillOpen

/-- `finishStreamLocked` without closing the connection. -/
def settle
    (conn : ServerConn Encoder Decoder)
    (id : Nat) :
    ServerConn Encoder Decoder :=
  match conn.table id with
  | none => conn
  | some st =>
    if !st.localDone || st.reset then conn
    else if st.remoteDone then conn.forgetLocked id
    else ((conn.update id { st with reset := true }).sendLocked
      [.rstStream id .noError]).forgetLocked id

theorem finishStreamLocked_cases
    (conn : ServerConn Encoder Decoder)
    (id : Nat) :
    conn.finishStreamLocked id = conn.settle id ∨
      conn.finishStreamLocked id = (conn.settle id).closeFinishedLocked := by
  unfold ServerConn.finishStreamLocked settle
  cases found : conn.table id with
  | none => exact .inl rfl
  | some st =>
    dsimp only
    by_cases unfinished : (!st.localDone || st.reset) = true
    · exact .inl (by rw [if_pos unfinished, if_pos unfinished])
    · rw [if_neg unfinished]
      right
      split <;> rfl

/-- Settling a stream whose response has come further. -/
theorem Base.settle
    (base : Base server frames conn)
    (found : conn.table id = some st)
    (present : id ∈ conn.streams)
    (changed : Changed conn next id after)
    (streams : next.streams = conn.streams)
    (sound : Sound after.side)
    (notReset : after.reset = false)
    (alike : ∀ other, other ≠ id -> Alike other frames others)
    (progress : Progress server id others after.side) :
    Base server others (next.settle id) := by
  obtain ⟨known, same, wasOpen, wasGoing⟩ := base.isOpen id present
  rw [found, Option.some.injEq] at same
  subst known
  have stored : next.table id = some after := by
    rw [changed.table, Function.update_self]
  unfold ServerConn.settle
  rw [stored]
  dsimp only
  split
  · next unfinished =>
    have going : after.localDone = false := by
      simpa [notReset] using unfinished
    exact base.replace found changed (by simpa [going, notReset]) sound
      (by simp [wasOpen]) (by simp [wasGoing]) alike (fun _ _ => progress)
  next finished =>
  have done : after.localDone = true := by
    simpa [notReset] using finished
  split
  · obtain ⟨pushed, equal⟩ := forgetLocked_eq stored
    have gone : Changed conn (next.forgetLocked id) id (forgotten after) := by
      rw [equal]
      exact
        { changed with
          table := by simp [update, changed.table] }
    refine base.replace found gone ?_ (sound_forgotten sound)
      (by simp [wasOpen]) (fun _ => done) alike
      (fun _ => Progress.forgotten progress)
    rw [equal]
    simp [forgotten, done, streams]
  have resetStored : ((next.update id
      { after with reset := true }).sendLocked [.rstStream id .noError]).table id =
        some { after with reset := true } := by
    simp [update]
  obtain ⟨pushed, equal⟩ := forgetLocked_eq resetStored
  generalize ((next.update id { after with reset := true }).sendLocked
    [.rstStream id .noError]).forgetLocked id = last at equal ⊢
  have gone : Changed conn last id (forgotten { after with reset := true }) := by
    rw [equal]
    constructor <;> simp [update, changed.table, changed.closed, changed.drained,
        changed.nextPushID, changed.maxClientID]
  refine base.replace found gone ?_
    (sound_forgotten ⟨sound.answered, sound.pending, sound.localDone⟩)
    (by simp [forgotten]) (fun _ => done) alike
    (by simp [forgotten])
  rw [equal]
  simp [update, forgotten, streams]

/-- Finishing a stream whose response has come further. -/
theorem Base.finishStreamLocked
    (settled : Base server frames (conn.settle id)) :
    Base server frames (conn.finishStreamLocked id) := by
  rcases finishStreamLocked_cases conn id with equal | equal
  · rwa [equal]
  · rw [equal]
    exact settled.closeFinishedLocked

/-- Settling a stream sends at most an RST_STREAM. -/
theorem settle_wire
    (conn : ServerConn Encoder Decoder)
    (id : Nat) :
    ∃ out, (conn.settle id).wire = conn.wire ++ out ∧
      (out = [] ∨ out = [.rstStream id .noError]) := by
  unfold ServerConn.settle
  split
  · exact ⟨[], by simp⟩
  split
  · exact ⟨[], by simp⟩
  split
  · exact ⟨[], by simp⟩
  rw [forgetLocked_wire]
  unfold ServerConn.sendLocked
  split
  · exact ⟨[], by simp [update]⟩
  · exact ⟨_, rfl, .inr rfl⟩

@[simp] theorem settle_closed :
    (conn.settle id).closed = conn.closed := by
  unfold ServerConn.settle
  split
  · rfl
  · split
    · rfl
    · split <;> simp [update]

theorem finishStreamLocked_wire
    (conn : ServerConn Encoder Decoder)
    (id : Nat) :
    (conn.finishStreamLocked id).wire = (conn.settle id).wire := by
  rcases finishStreamLocked_cases conn id with equal | equal
  · rw [equal]
  · rw [equal, closeFinishedLocked_wire]

/-- An RST_STREAM sent on settling a stream is no part of a response. -/
theorem Base.settled (base : Base server (next.wire ++ buffer) conn) :
    Base server ((next.settle id).wire ++ buffer) conn := by
  obtain ⟨out, equal, which⟩ := settle_wire next id
  rw [equal]
  apply base.of_alike
  intro other
  apply Blank.alike
  rcases which with rfl | rfl
  · exact blank_nil
  · exact blank_rstStream id .noError

theorem Base.settled_wire (base : Base server next.wire conn) :
    Base server (next.settle id).wire conn := by
  rw [← List.append_nil next.wire] at base
  simpa using base.settled

theorem closeFinishedLocked_idem (conn : ServerConn Encoder Decoder) :
    conn.closeFinishedLocked.closeFinishedLocked = conn.closeFinishedLocked := by
  rcases closeFinishedLocked_cases conn with same | ⟨_, _, _, equal⟩
  · rw [same, same]
  · rw [equal]
    simp [ServerConn.closeFinishedLocked]

theorem closeFinishedLocked_finishStreamLocked
    (conn : ServerConn Encoder Decoder)
    (id : Nat) :
    (conn.finishStreamLocked id).closeFinishedLocked = (conn.settle id).closeFinishedLocked := by
  rcases finishStreamLocked_cases conn id with equal | equal
  · rw [equal]
  · rw [equal, closeFinishedLocked_idem]

/-! ## Actions that open a stream -/

/-- A stream is added to the map. -/
theorem Base.extend
    (base : Base server frames conn)
    (isOpen : conn.closed = false)
    (absent : conn.table id = none)
    (nonzero : id ≠ 0)
    (st : ServerStream)
    (fresh : st.side = .fresh)
    (table : next.table = Function.update conn.table id (some st))
    (closed : next.closed = conn.closed)
    (drained : next.drained = conn.drained)
    (streams : next.streams = id :: conn.streams)
    (even : 0 < next.nextPushID ∧ next.nextPushID % 2 = 0)
    (used : next.idleLocked id = false)
    (idle : ∀ other, conn.idleLocked other = false -> next.idleLocked other = false) :
    Base server frames next := by
  have outside : id ∉ conn.streams := by
    intro present
    obtain ⟨known, found, _⟩ := base.isOpen id present
    simp [absent] at found
  refine base.store table closed drained (by simp [closed, isOpen]) ?_ ?_ (fun _ => ?_) idle even
    (fun _ _ => ⟨rfl, rfl, rfl, rfl⟩) ⟨⟨nonzero, used⟩, ?_,
      fun _ _ _ => streams ▸ List.mem_cons_self, fun _ _ => fresh ▸ base.blank isOpen id absent⟩
  · rw [streams]
    exact List.nodup_cons.mpr ⟨outside, base.nodup⟩
  · intro other different
    rw [streams, List.mem_cons, or_iff_right different]
  · exact ⟨congrArg Side.reset fresh, congrArg Side.localDone fresh⟩
  · rw [fresh]
    constructor <;> simp [Side.fresh, ServerStream.side]

theorem Base.absent_of_idle
    (base : Base server frames conn)
    (idle : conn.idleLocked id = true) :
    conn.table id = none := by
  cases found : conn.table id with
  | none => rfl
  | some st =>
    obtain ⟨_, used⟩ := (base.stored found).known
    simp [idle] at used

theorem Base.opens
    (base : Base server conn.wire conn)
    (isOdd : id % 2 = 1)
    (new : conn.maxClientID < id)
    (isOpen : conn.closed = false)
    (fresh : st.side = .fresh) :
    Base server conn.wire
      { conn.update id st with
        streams := id :: conn.streams
        maxClientID := id
        lastStreamID := id } := by
  have idle : conn.idleLocked id = true := by simp [idleLocked, isOdd, new]
  refine base.extend isOpen (base.absent_of_idle idle) (by omega) st fresh
    (by rfl) (by rfl) (by rfl) (by rfl) base.even ?_ ?_
  · simp [idleLocked, isOdd]
  intro other used
  unfold idleLocked at *
  split at used
  · next isEven => rw [if_pos isEven]; exact used
  · next notEven =>
    rw [if_neg notEven]
    simp only [decide_eq_false_iff_not] at *
    omega

theorem Base.promise
    (base : Base server conn.wire conn)
    (isOpen : conn.closed = false)
    (request : Request)
    (header : Header) :
    Base server (conn.promise server id request header).wire
      (conn.promise server id request header) := by
  obtain ⟨positive, isEven⟩ := base.even
  have idle : conn.idleLocked conn.nextPushID = true := by
    simp [idleLocked, isEven]
  refine Base.send ?_ fun _ => blank_pushPromise ..
  refine base.extend isOpen (base.absent_of_idle idle) positive.ne'
    (conn.promisedStream request) (by rfl) (by rfl) (by rfl) (by rfl) (by rfl) ?_ ?_ ?_
  · exact ⟨Nat.succ_pos _, by simpa using isEven⟩
  · simp [idleLocked, isEven]
  intro other used
  unfold idleLocked at *
  split at used
  · next even =>
    rw [if_pos even]
    simp only [decide_eq_false_iff_not] at *
    omega
  · next odd =>
    rw [if_neg odd]
    exact used

/-! ## Responses and flushes -/

variable {method : Bytes} {response : Response}

/-- What a response that is accepted does. -/
theorem respond_eq_ok
    (accepted : conn.respond server id method response = .ok next) :
    ∃ st, conn.table id = some st ∧ conn.closed = false ∧ st.reset = false ∧ st.responded = false ∧
      next = (((((conn.beginAnswer server id st
            (answerTo method response)).2.retire response.close).2.sendLocked
          ((conn.beginAnswer server id st (answerTo method response)).1 ++
            ((conn.beginAnswer server id st (answerTo method response)).2.retire response.close).1
          )).finishStreamLocked id).closeFinishedLocked) := by
  unfold respond at accepted
  split at accepted
  · cases accepted
  next st found =>
  repeat' split at accepted
  all_goals cases accepted
  next _ _ isOpen notResponded =>
    simp only [Bool.or_eq_true, not_or, Bool.not_eq_true] at *
    exact ⟨st, found, isOpen.1, isOpen.2, notResponded, rfl⟩

/-- Retiring a connection leaves its response side alone. -/
theorem retire_spec
    (conn : ServerConn Encoder Decoder)
    (close : Bool) :
    (∀ frame ∈ (conn.retire close).1, isControl frame = true) ∧
      ∃ goAway, (conn.retire close).2 = { conn with goAway := goAway } := by
  unfold retire
  split
  · exact ⟨by simp [isControl], true, rfl⟩
  · exact ⟨by simp, conn.goAway, rfl⟩

theorem blank_of_isControl
    (control : ∀ frame ∈ out, isControl frame = true) :
    Blank id out :=
  blank_of_isBare fun frame present _ =>
    isBare_of_isControl (control frame present)

/-- A stream whose response has not begun has sent nothing of it. -/
theorem Base.unanswered
    (base : Base server conn.wire conn)
    (found : conn.table id = some st)
    (isOpen : conn.closed = false)
    (notReset : st.reset = false)
    (notResponded : st.responded = false) :
    st.localDone = false ∧ id ∈ conn.streams ∧ Blank id conn.wire := by
  have sound := (base.stored found).sound
  have notDone : st.localDone = false := by
    apply Bool.eq_false_iff.mpr
    intro done
    have responded : st.responded = true := sound.localDone done
    simp [notResponded] at responded
  have unanswered : st.side.answer = none := by
    have answered := sound.answered
    simpa [ServerStream.side, notResponded] using answered
  refine ⟨notDone, (base.stored found).kept isOpen notReset notDone, ?_⟩
  exact (progress_of_answer_eq_none unanswered).mp ((base.stored found).progress isOpen notReset)

theorem Begun.sound (begun : Begun server conn id st after answer frames) :
    Sound after.side where
  answered := by
    simp [ServerStream.side, begun.responded, begun.answered]
  pending _ := begun.responded
  localDone _ := begun.responded

/-- The connection once a response is on its way. -/
def answering
    (conn : ServerConn Encoder Decoder)
    (id : Nat)
    (after : ServerStream)
    (encoder : Encoder)
    (window : Int)
    (goAway : Bool)
    (out : List Sent) : ServerConn Encoder Decoder :=
  { conn.update id after with
    enc := encoder
    sendWindow := window
    goAway := goAway
    wire := conn.wire ++ out }

/-- What a response that is accepted comes to: its first frames are sent, a
GOAWAY behind them, and then the stream is settled. -/
theorem respond_eq_settle
    (found : conn.table id = some st)
    (going : st.localDone = false)
    (accepted : conn.respond server id method response = .ok next) :
    ∃ after encoder window goAway answered leaving,
      Begun server conn id st after (answerTo method response) answered ∧
      (∀ frame ∈ leaving, isControl frame = true) ∧
      next = ((conn.answering id after encoder window goAway
        (answered ++ leaving)).settle id).closeFinishedLocked := by
  obtain ⟨known, stored, isOpen, _, _, equal⟩ := respond_eq_ok accepted
  rw [found, Option.some.injEq] at stored
  subst known
  obtain ⟨after, encoder, window, changed, begun⟩ :=
    @beginAnswer_spec _ _ server id conn st (answerTo method response) going
  obtain ⟨control, goAway, retired⟩ :=
    retire_spec (conn.beginAnswer server id st (answerTo method response)).2 response.close
  generalize (conn.beginAnswer server id st (answerTo method response)) = answered at *
  generalize answered.2.retire response.close = leaving at *
  rw [retired, changed, sendLocked_of_isOpen (by exact isOpen),
    closeFinishedLocked_finishStreamLocked] at equal
  exact ⟨after, encoder, window, goAway, answered.1, leaving.1, begun, control, equal⟩

/-- What follows on a blank stream makes up its response. -/
theorem Progress.of_blank
    (blank : Blank id frames)
    (progress : Progress server id later side) :
    Progress server id (frames ++ later) side := by
  have alike : Alike id later (frames ++ later) := by
    constructor <;> simp [blank.head, blank.body, blank.trailer, blank.notEnded]
  exact progress.of_alike alike

section

variable (base : Base server conn.wire conn)
include base

/-- A response that is accepted, up to where a connection that is done is
closed. -/
theorem Base.respond_settled
    (accepted : conn.respond server id method response = .ok next) :
    ∃ last, next = last.closeFinishedLocked ∧ last.closed = false ∧ Base server last.wire last := by
  obtain ⟨st, found, isOpen, notReset, notResponded, _⟩ :=
    respond_eq_ok accepted
  obtain ⟨going, present, blank⟩ :=
    base.unanswered found isOpen notReset notResponded
  obtain ⟨after, encoder, window, goAway, answered, leaving, begun, control,
    equal⟩ := respond_eq_settle found going accepted
  refine ⟨_, equal, settle_closed.trans isOpen, ?_⟩
  apply Base.settled_wire
  have own : Progress server id (conn.wire ++ (answered ++ leaving)) after.side := by
    rw [← List.append_assoc]
    exact (Progress.of_blank blank begun.progress).of_alike
      (blank_of_isControl control).alike_append
  refine base.settle found present ⟨rfl, rfl, rfl, rfl, rfl⟩ rfl begun.sound
    (begun.reset.trans notReset) (fun other different => ?_) own
  apply Blank.alike_append
  apply Blank.append
  · exact blank_elsewhere fun frame member =>
      begun.onStream frame member ▸ different.symm
  · exact blank_of_isControl control

theorem Base.respond
    (accepted : conn.respond server id method response = .ok next) :
    Base server next.wire next := by
  obtain ⟨last, rfl, _, settled⟩ := base.respond_settled accepted
  rw [closeFinishedLocked_wire]
  exact settled.closeFinishedLocked

theorem Base.writeInterim
    (accepted : conn.writeInterim server id status header = .ok next) :
    Base server next.wire next := by
  unfold ServerConn.writeInterim at accepted
  repeat' split at accepted
  all_goals cases accepted
  refine Base.send ?_ fun _ => blank_interim ..
  exact base.agree { Agrees.refl _ with }

/-- A reset, up to where a connection that is done is closed. -/
theorem Base.resetStream_settled
    (id : Nat)
    (code : ErrorCode) :
    ∃ last, conn.resetStream id code = last.closeFinishedLocked ∧
      last.closed = conn.closed ∧ Base server last.wire last := by
  refine ⟨_, rfl, ?_, ?_⟩
  · split <;> simp
  refine Base.send ?_ fun _ => blank_rstStream id code
  split
  · next present =>
    rw [forgetLocked_wire]
    exact base.forgetLocked present
  · exact base

theorem Base.resetStream
    (id : Nat)
    (code : ErrorCode) :
    Base server (conn.resetStream id code).wire (conn.resetStream id code) := by
  obtain ⟨last, equal, _, settled⟩ := base.resetStream_settled id code
  rw [equal, closeFinishedLocked_wire]
  exact settled.closeFinishedLocked

end

/-- A stream of the map that is flushed, and what the flush makes of it, when
the frames of the buffer are about to be sent. -/
structure Flushing
    (server : Server Encoder Decoder)
    (conn : ServerConn Encoder Decoder)
    (buffer : List Sent)
    (id : Nat)
    (st after : ServerStream)
    (frames : List Sent)
    (window : Int) : Prop extends Flushed server conn id st after frames window where
  base : Base server (conn.wire ++ buffer) conn
  present : id ∈ conn.streams
  stored : conn.table id = some st
  pending : st.pending ≠ []
  notReset : st.reset = false
  notDone : st.localDone = false
  hasResponded : st.responded = true
  queued : ∃ answer, st.answer = some answer ∧
    Queued server id (conn.wire ++ buffer) answer st.side

/-- The connection with what a flush has made of a stream. -/
def flushed
    (conn : ServerConn Encoder Decoder)
    (id : Nat)
    (after : ServerStream)
    (encoder : Encoder)
    (window : Int) : ServerConn Encoder Decoder :=
  { conn.update id after with enc := encoder, sendWindow := window }

/-- A stream that has a body to send has an answer queued. -/
theorem Base.flushing
    (base : Base server (conn.wire ++ buffer) conn)
    (found : conn.find id = some st)
    (pending : st.pending ≠ []) :
    ∃ after encoder window,
      (conn.flushStreamLocked server id st).2 = conn.flushed id after encoder window ∧
      Flushing server conn buffer id st after (conn.flushStreamLocked server id st).1 window := by
  obtain ⟨present, stored⟩ := find_eq_some.mp found
  obtain ⟨known, same, notReset, notDone⟩ := base.isOpen id present
  obtain rfl := Option.some.inj (stored.symm.trans same)
  have isOpen := base.isOpen_of_mem present
  have sound := (base.stored stored).sound
  have responded : st.responded = true := sound.pending pending
  obtain ⟨answer, answered⟩ : ∃ answer, st.answer = some answer := by
    have isSome := sound.answered
    simp only [ServerStream.side, responded] at isSome
    exact Option.isSome_iff_exists.mp isSome.symm
  have queued := (progress_of_queued answered notDone).mp
    ((base.stored stored).progress isOpen notReset)
  obtain ⟨after, encoder, window, equal, flushes⟩ :=
    @flushStreamLocked_spec _ _ server id conn st pending notDone
  exact ⟨after, encoder, window, equal,
    { flushes with
      base := base
      present := present
      stored := stored
      pending := pending
      notReset := notReset
      notDone := notDone
      hasResponded := responded
      queued := ⟨answer, answered, queued⟩ }⟩

/-- A flush of one stream: what it returns is about to be sent. -/
theorem Base.flushOne
    (flushing : Flushing server conn buffer id st after frames window)
    (encoder : Encoder) :
    Base server
      (((conn.flushed id after encoder window).finishStreamLocked id).wire ++ (buffer ++ frames))
      ((conn.flushed id after encoder window).finishStreamLocked id) := by
  obtain ⟨answer, answered, queued⟩ := flushing.queued
  have sound : Sound after.side := by
    have responded : after.responded = true := flushing.responded.trans flushing.hasResponded
    exact
      { answered := by
          simp [ServerStream.side, responded, flushing.answer, answered]
        pending := fun _ => responded
        localDone := fun _ => responded }
  rw [finishStreamLocked_wire]
  apply Base.settled
  apply Base.finishStreamLocked
  refine flushing.base.settle flushing.stored flushing.present ⟨rfl, rfl, rfl, rfl, rfl⟩ rfl sound
    (flushing.reset.trans flushing.notReset) (fun other different => ?_) ?_
  · show Alike other (conn.wire ++ buffer) (conn.wire ++ (buffer ++ frames))
    rw [← List.append_assoc]
    exact (blank_elsewhere fun frame member =>
      flushing.onStream frame member ▸ different.symm).alike_append
  · show Progress server id (conn.wire ++ (buffer ++ frames)) after.side
    rw [← List.append_assoc]
    exact flushing.progress answered queued

/-- A flush of the streams in any order keeps what the flush of one stream
keeps, up to where it sends the frames of the connection itself and those it
has collected. -/
theorem Base.flushes
    (base : Base server conn.wire conn)
    (control : ∀ frame ∈ out, isControl frame = true)
    (holds : List Sent -> ServerConn Encoder Decoder -> Prop)
    (kept : ∀ conn buffer id st after frames window encoder,
      Flushing server conn buffer id st after frames window -> holds buffer conn ->
        holds (buffer ++ frames) ((conn.flushed id after encoder window).finishStreamLocked id))
    (held : holds out conn)
    (order : List Nat) :
    ∃ last sent, conn.flushAndClose server order out = (last.sendLocked sent).closeFinishedLocked ∧
      Base server (last.sendLocked sent).wire (last.sendLocked sent) ∧ holds sent last := by
  have about : Base server (conn.wire ++ out) conn :=
    base.of_alike fun _ => (blank_of_isControl control).alike_append
  suffices both : Base server ((flushLocked server order conn).2.wire ++
        (out ++ (flushLocked server order conn).1)) (flushLocked server order conn).2 ∧
      holds (out ++ (flushLocked server order conn).1) (flushLocked server order conn).2 from
    ⟨_, _, rfl, both.1.sendLocked, both.2⟩
  clear base control
  induction order generalizing conn out with
  | nil => simpa [flushLocked] using ⟨about, held⟩
  | cons id rest ih =>
    unfold flushLocked
    split
    · simpa using ⟨about, held⟩
    split
    · exact ih held about
    next st found =>
    split
    · exact ih held about
    · next pending =>
      obtain ⟨after, encoder, window, equal, flushing⟩ := about.flushing found pending
      have later := ih (kept conn out id st after _ window encoder flushing held)
        (Base.flushOne flushing encoder)
      rw [← equal] at later
      simpa using later

theorem Base.flushAndClose
    (base : Base server conn.wire conn)
    (order : List Nat)
    (control : ∀ frame ∈ out, isControl frame = true) :
    Base server (conn.flushAndClose server order out).wire
      (conn.flushAndClose server order out) := by
  obtain ⟨last, sent, equal, flushed, _⟩ :=
    base.flushes control (fun _ _ => True) (fun _ _ _ _ _ _ _ _ _ _ => trivial) trivial order
  rw [equal, closeFinishedLocked_wire]
  exact flushed.closeFinishedLocked

/-- Every action keeps the invariant. -/
theorem Base.action
    {terms : Terms Encoder Decoder}
    (base : Base server conn.wire conn)
    (action : Action server terms conn next) :
    Base server next.wire next := by
  cases action with
  | agree agrees =>
    rw [agrees.wire]
    exact base.agree agrees
  | control isControl =>
    exact base.send fun _ => blank_of_isControl (by simpa using isControl)
  | grant present =>
    refine base.send fun _ => blank_of_isBare ?_
    simp [isBare, Sent.fragment, Sent.payload, Sent.endStream]
  | opens isOdd new _ isOpen fresh _ _ equal =>
    subst equal
    exact base.opens isOdd new isOpen fresh
  | respond accepted => exact base.respond accepted
  | interim accepted => exact base.writeInterim accepted
  | promise _ isOpen _ _ _ => exact base.promise isOpen _ _
  | reset _ => exact base.resetStream _ _
  | drop present =>
    rw [forgetLocked_wire]
    exact base.forgetLocked present
  | close =>
    rw [closeFinishedLocked_wire]
    exact base.closeFinishedLocked
  | flush _ control => exact base.flushAndClose _ control
  | fail => exact base.fail _ _
  | shutdown => exact base.shutdown

/-! ## The start -/

theorem base_start (server : Server Encoder Decoder) :
    Base server (start server).wire (start server) where
  drains := by simp [start]
  emptied := by simp [start]
  nodup := by simp [start]
  isOpen := by simp [start]
  even := by simp [start]
  stored := by simp [start]
  blank _ id _ := by
    apply blank_of_isBare
    simp [start, isBare, Sent.fragment, Sent.payload, Sent.endStream]

theorem base_of_isStart
    (starts : IsStart server conn) :
    Base server conn.wire conn := by
  rcases isStart_cases starts with rfl | ⟨request, applied, retuned, rfl⟩
  · exact base_start server
  have agrees := retuned.agrees
  have base := (base_start server).agree agrees
  have unused : applied.maxClientID = 0 := by
    obtain ⟨_, _, _, _, _, _, _, rfl, _⟩ := retuned
    rfl
  refine (agrees.wire ▸ base).extend agrees.closed
    ((agrees.table_eq_none_iff 1).mpr rfl) one_ne_zero
    (applied.upgradedStream request) (by rfl) (by rfl) (by rfl) (by rfl) ?_ base.even (by rfl) ?_
  · rw [agrees.streams]
    rfl
  intro other used
  unfold idleLocked at *
  split at used
  · next isEven => rw [if_pos isEven]; exact used
  · next isOdd =>
    simp only [decide_eq_false_iff_not] at *
    omega

theorem isOpen_of_isStart
    (starts : IsStart server conn) :
    conn.closed = false := by
  rcases isStart_cases starts with rfl | ⟨_, _, retuned, rfl⟩
  · rfl
  · exact retuned.agrees.closed

/-! ## Runs -/

/-- What every action keeps of a connection with the invariant, a sequence of
them keeps. -/
theorem Base.actions
    {terms : Terms Encoder Decoder}
    {holds : ServerConn Encoder Decoder -> Prop}
    (base : Base server conn.wire conn)
    (kept : ∀ conn next, Base server conn.wire conn -> holds conn ->
      Action server terms conn next -> holds next)
    (held : holds conn)
    (actions : Actions server terms conn next) :
    Base server next.wire next ∧ holds next := by
  induction actions with
  | refl => exact ⟨base, held⟩
  | tail _ action ih => exact ⟨ih.1.action action, kept _ _ ih.1 ih.2 action⟩

theorem Base.step
    (base : Base server conn.wire conn)
    (taken : conn.step server event = some next) :
    Base server next.wire next :=
  (@Base.actions _ _ server conn next _ (fun _ => True) base (fun _ _ _ _ _ => trivial) trivial
    (step_actions (admits_all event) taken)).1

/-- What every action keeps of a connection with the invariant, an admitted
step keeps. -/
theorem Base.step_of_action
    {fine : List Sent -> Nat -> Prop}
    {calm holds : ServerConn Encoder Decoder -> Prop}
    (base : Base server conn.wire conn)
    (kept : ∀ conn next, Base server conn.wire conn -> holds conn ->
      Action server ⟨fine, calm, True⟩ conn next -> holds next)
    (held : holds conn)
    (admitted : Admits server fine calm conn event)
    (taken : conn.step server event = some next) :
    holds next :=
  (base.actions kept held (step_actions admitted taken)).2

/-- What every step keeps of a connection with the invariant holds after every
run. -/
theorem run_of_step
    {start final : ServerConn Encoder Decoder}
    {holds : ServerConn Encoder Decoder -> Prop}
    {meets : ServerConn Encoder Decoder -> Event -> Prop}
    (kept : ∀ conn event next, Base server conn.wire conn -> holds conn -> meets conn event ->
      conn.step server event = some next -> holds next)
    (starts : IsStart server start)
    (initially : holds start)
    (met : Transition.Meets (step server) meets start events)
    (reached : Transition.run (step server) start events = some final) :
    holds final := by
  have both : ∀ conn event next, Base server conn.wire conn ∧ holds conn -> meets conn event ->
      conn.step server event = some next -> Base server next.wire next ∧ holds next :=
    fun conn event next held met taken =>
      ⟨held.1.step taken, kept conn event next held.1 held.2 met taken⟩
  exact (Transition.run_invariant_of_meets both ⟨base_of_isStart starts, initially⟩ met reached).2

end ServerConn
end Http2
end Fib
