import Fib.Http3.Client

/-!
# Requests that wait for a stream

A waiting request is safe when some later event starts or fails it: its
connection is known to the client, takes requests, and is still being dialed or
has no stream to spare.  Choosing a connection and marking it as going away
happen under different locks, so a request can be put on a connection whose
idle timer has just given it up.  When no request is, every waiting request is
safe whenever nothing runs.
-/

namespace Fib
namespace Http3
namespace Client

variable {Key : Type}

/-! ## What a section leaves alone -/

/-- The connection a section can change. -/
def target (state : State Key) : Section -> Option Nat
  | .enqueue r _ =>
    if state.closed then none
    else some ((state.conns (state.request r).key).getD state.made)
  | .dial cc | .connected cc _ | .failed cc | .failedDrain cc | .handshaken cc
  | .startWaiting cc | .settle cc _ | .idleExpired cc | .idleForget cc
  | .closeQuic cc | .announce cc _ | .goAwayDrain cc _ | .closing cc
  | .closeDrain cc | .closeConn cc => some cc
  | _ => none

/-- The connection whose waiting requests a section is about to take away. -/
def drains : Section -> Option Nat
  | .failedDrain cc | .closeDrain cc | .goAwayDrain cc _ => some cc
  | _ => none

/-- The connection that a pending section is about to empty or has given
up. -/
def governs : Section -> Option Nat
  | .failedDrain cc | .closeDrain cc | .goAwayDrain cc _ | .idleForget cc =>
    some cc
  | _ => none

theorem governs_of_drains
    (drain : drains code = some cc) :
    governs code = some cc := by
  cases code <;> first | exact drain | cases drain

/-- A section changes its own connection only, finishes requests for good, and only `enqueue` makes
a connection. -/
structure Confined
    (code : Section)
    (state next : State Key) : Prop where
  conn : target state code ≠ some cc -> next.conn cc = state.conn cc
  done : ∀ r, (state.request r).done = true -> (next.request r).done = true
  made : next.made = state.made ∨ next.made = state.made + 1 ∧
    target state code = some state.made ∧ ∃ r retrying, code = .enqueue r retrying
  key : cc < state.made -> (next.conn cc).key = (state.conn cc).key
  conns : (∀ name cc, state.conns name = some cc -> (state.conn cc).key = name) ->
    target state code ≠ some cc ->
      ∀ name, next.conns name = some cc ↔ state.conns name = some cc
  known : next.conns name = some cc ->
    state.conns name = some cc ∨ cc < next.made ∧ (next.conn cc).key = name

section Frame

variable [DecidableEq Key] {state : State Key} {code : Section}
  {answer : Bool} {cc : Nat}

theorem exec_confined
    (state : State Key)
    (code : Section)
    (answer : Bool) :
    Confined code state (exec code answer state).1 := by
  cases code
  case enqueue r retrying =>
    simp only [exec, State.enqueue]
    split
    · exact ⟨fun _ => rfl, fun _ => id, .inl rfl, fun _ => rfl, fun _ _ _ => Iff.rfl, .inl⟩
    next taking =>
    split
    · next chosen known =>
      refine ⟨fun {cc} elsewhere => ?_, ?_, .inl rfl, ?_, fun _ _ _ => Iff.rfl, .inl⟩
      · have different : cc ≠ chosen := fun same =>
          elsewhere (by simp [target, taking, known, same])
        simp [State.wait, different]
      · simp [State.wait, State.onRequest, apply_ite]
      · simp [State.wait, State.onConn, apply_ite Conn.key]
    · next unknown =>
      have fresh : target state (.enqueue r retrying) = some state.made := by
        simp [target, taking, unknown]
      rw [State.wait]
      refine ⟨fun {cc} elsewhere => ?_, ?_, .inr ⟨rfl, fresh, r, retrying, rfl⟩, ?_, ?_, ?_⟩
      · have different : cc ≠ state.made := fun same => elsewhere (same ▸ fresh)
        simp [different]
      · simp [State.onRequest, apply_ite]
      · simp +contextual [State.onConn, Nat.ne_of_lt]
      · simp only [fresh, State.conns_onRequest, State.conns_onConn, State.onKey]
        grind
      · intro name cc known
        simp only [State.conns_onRequest, State.conns_onConn, State.onKey] at known
        split at known
        · simp_all
        · exact .inl known
  all_goals
    simp only [exec, State.finish, State.retry, State.startWaiting,
      State.goAwayDrain, State.closeDrain, State.close, State.feed,
      State.reset, State.streamDone, State.ended, State.forget]
    repeat' split
    all_goals
      refine ⟨fun elsewhere => ?_, fun r done => ?_, .inl rfl, fun _ => ?_,
        fun keyed elsewhere name => ?_, fun known => .inl ?_⟩
      · simp [target, State.onConn] at elsewhere ⊢ <;> grind
      · simp [State.onRequest, done, apply_ite]
      · simp [State.onConn, apply_ite Conn.key]
      · simp [target, State.onKey] at elsewhere ⊢ <;> grind
      · first
          | exact known
          | grind [State.onKey, State.conns_onConn]

/-- Only a section about a connection that exists gives it up. -/
theorem exec_governs
    (follows : next ∈ (exec code answer state).2)
    (about : governs next = some cc) :
    target state code = some cc ∧ cc < state.made := by
  cases code
  case streamDone st after =>
    cases after <;> grind [exec, State.streamDone, State.afterwards, governs]
  case finishAbort r stream =>
    cases stream <;> grind [exec, State.finish, State.abandon, governs]
  all_goals
    simp only [exec, State.enqueue, State.finish, State.retry,
      State.startWaiting, State.goAwayDrain, State.closeDrain, State.close,
      State.feed, State.reset, State.abandon] at follows
    grind [governs, target]

end Frame

/-! ## The waiting requests of one connection -/

/-- Some running function is about to take the waiting requests away. -/
def Draining
    (system : System Key)
    (cc : Nat) : Prop :=
  ∃ code, drains code = some cc ∧ system.Pending code

/-- The event makes a connection that is ready look for streams. -/
def wakes : Event -> Bool
  | .available _ => true
  | _ => false

/-- A connection that could start one of its waiting requests. -/
@[mk_iff]
structure Wants
    (state : State Key)
    (conn : Conn Key) : Prop where
  ready : conn.ready = true
  opened : conn.closed = false
  staying : conn.goingAway = false
  alive : conn.quicClosed = false
  spare : conn.opened < conn.limit
  some : ∃ r ∈ conn.waiting, (state.request r).done = false

theorem Wants.lasting
    {before after : State Key}
    (wants : Wants after conn)
    (lasting : ∀ r, (after.request r).done = false -> (before.request r).done = false) :
    Wants before conn := by
  obtain ⟨r, waits, unfinished⟩ := wants.some
  exact { wants with some := ⟨r, waits, lasting r unfinished⟩ }

theorem not_wants
    {state : State Key}
    (waiting : conn.waiting = []) :
    ¬Wants state conn := by
  rintro ⟨_, _, _, _, _, r, waits, _⟩
  rw [waiting] at waits
  cases waits

/-- What holds of a connection at every moment. -/
structure Fine
    (system : System Key)
    (cc : Nat)
    (conn : Conn Key) : Prop where
  kept : conn.waiting ≠ [] ->
    system.shared.conns conn.key = some cc ∨ Draining system cc
  parted : conn.goingAway = true -> conn.waiting = []
  ended : conn.closed = true ->
    conn.waiting = [] ∧ system.shared.conns conn.key ≠ some cc
  drained : Draining system cc -> system.shared.conns conn.key ≠ some cc
  givenUp : system.Pending (.idleForget cc) -> conn.goingAway = true
  served : Wants system.shared conn ->
    system.Pending (.startWaiting cc) ∨ ∃ event ∈ conn.events, wakes event
  closes : conn.quicClosed = true ->
    conn.closed = true ∨ .closed ∈ conn.events ∨
      system.Pending (.closing cc) ∨ system.Pending (.closeDrain cc)

/-- Two states of a connection that differ only in timers, dialing and
records. -/
def Alike (conn other : Conn Key) : Prop :=
  conn.key = other.key ∧ conn.ready = other.ready ∧
    conn.closed = other.closed ∧ conn.goingAway = other.goingAway ∧
    conn.waiting = other.waiting ∧ conn.quicClosed = other.quicClosed ∧
    conn.opened = other.opened ∧ conn.limit = other.limit ∧
    conn.events = other.events

theorem Fine.alike
    (fine : Fine system cc conn)
    (same : Alike other conn) :
    Fine system cc other := by
  obtain ⟨key, ready, closed, going, waiting, quic, opened, limit, events⟩ :=
    same
  obtain ⟨kept, parted, ended, drained, givenUp, served, closes⟩ := fine
  rw [wants_iff] at served
  constructor <;>
    simpa only [wants_iff, key, ready, closed, going, waiting, quic, opened, limit, events]

/-- Every connection is fine, the client knows only connections it has made
for the key, and what runs is about connections that exist. -/
structure Safe (system : System Key) : Prop where
  known : ∀ key cc, system.shared.conns key = some cc ->
    cc < system.shared.made ∧ (system.shared.conn cc).key = key
  fine : ∀ cc < system.shared.made, Fine system cc (system.shared.conn cc)
  placed : ∀ code cc, system.Pending code -> governs code = some cc ->
    cc < system.shared.made

section Moved

variable {system : System Key} {index : Nat} {tag : Option Nat}
  {code : Section} {rest : List Section} {outcome : State Key × List Section}
  {cc : Nat} {conn changed : Conn Key}

section

variable (here : system.threads[index]? = some ⟨tag, code :: rest⟩)
include here

theorem draining_moved
    (draining : Draining system cc)
    (other : drains code ≠ some cc) :
    Draining (system.moved index tag rest outcome) cc := by
  obtain ⟨drain, about, pending⟩ := draining
  refine ⟨drain, about, pending.moved here ?_⟩
  rintro rfl
  exact other about

/-- The client forgets a connection and is about to take its requests away. -/
theorem Fine.forgotten
    (fine : Fine system cc conn)
    (calm : code ≠ .startWaiting cc ∧ code ≠ .closeDrain cc)
    (about : drains drain = some cc)
    (closes : code = .closing cc -> drain = .closeDrain cc)
    (unknown : after.conns conn.key ≠ some cc)
    (lasting : ∀ r, (after.request r).done = false -> (system.shared.request r).done = false) :
    Fine (system.moved index tag rest (after, [drain])) cc conn where
  kept := fun _ => .inr ⟨drain, about, Threads.System.pending_next here List.mem_cons_self⟩
  parted := fine.parted
  ended := fun closed => ⟨(fine.ended closed).1, unknown⟩
  drained := fun _ => unknown
  givenUp := fun pending => by
    rcases pending.of_moved here with follows | before
    · rw [← List.mem_singleton.mp follows] at about
      cases about
    · exact fine.givenUp before
  served := fun wants => (fine.served (wants.lasting lasting)).imp_left fun pending =>
    pending.moved here (Ne.symm calm.1)
  closes := fun closed => by
    refine (fine.closes closed).imp_right fun pending =>
      pending.imp_right fun pending => ?_
    by_cases same : code = .closing cc
    · exact .inr (closes same ▸ Threads.System.pending_next here List.mem_cons_self)
    · exact pending.imp (·.moved here (Ne.symm same)) (·.moved here (Ne.symm calm.2))

/-- The waiting requests are gone and the connection takes no more. -/
theorem Fine.emptied
    (fine : Fine system cc conn)
    (drain : drains code = some cc)
    (key : changed.key = conn.key)
    (waiting : changed.waiting = [])
    (parting : conn.goingAway = true -> changed.goingAway = true)
    (closes : changed.quicClosed = true -> changed.closed = true ∨
      .closed ∈ changed.events ∨ system.Pending (.closing cc) ∨
        (code ≠ .closeDrain cc ∧ system.Pending (.closeDrain cc)))
    (conns : outcome.1.conns = system.shared.conns)
    (free : .idleForget cc ∉ outcome.2) :
    Fine (system.moved index tag rest outcome) cc changed := by
  have unknown : outcome.1.conns changed.key ≠ some cc := by
    rw [conns, key]
    exact fine.drained ⟨code, drain, Threads.System.pending_head here⟩
  exact
    { kept := fun some => absurd waiting some
      parted := fun _ => waiting
      ended := fun _ => ⟨waiting, unknown⟩
      drained := fun _ => unknown
      givenUp := fun pending => parting (fine.givenUp ((pending.of_moved here).resolve_left free))
      served := fun wants => absurd wants (not_wants waiting)
      closes := fun closed => by
        refine (closes closed).imp_right fun pending =>
          pending.imp_right fun pending => ?_
        rcases pending with closing | ⟨different, draining⟩
        · refine .inl (closing.moved here ?_)
          rintro rfl
          cases drain
        · exact .inr (draining.moved here (Ne.symm different)) }

/-- The connection stays in its place and its waiting requests change. -/
theorem Fine.replaced
    (fine : Fine system cc conn)
    (calm : drains code = none ∧ code ≠ .closing cc)
    (free : ∀ follows ∈ outcome.2, drains follows = none)
    (conns : outcome.1.conns = system.shared.conns)
    (key : changed.key = conn.key)
    (closed : changed.closed = conn.closed)
    (kept : changed.waiting ≠ [] -> conn.waiting ≠ [] ∨ system.shared.conns conn.key = some cc)
    (parted : changed.goingAway = true -> changed.waiting = [])
    (ended : conn.closed = true -> changed.waiting = [])
    (givenUp : .idleForget cc ∈ outcome.2 ∨ conn.goingAway = true -> changed.goingAway = true)
    (served : Wants outcome.1 changed ->
      (system.moved index tag rest outcome).Pending (.startWaiting cc) ∨
        ∃ event ∈ changed.events, wakes event)
    (closes : changed.quicClosed = true -> conn.quicClosed = true ∨ .closed ∈ changed.events)
    (events : .closed ∈ conn.events -> .closed ∈ changed.events) :
    Fine (system.moved index tag rest outcome) cc changed := by
  have same : (system.moved index tag rest outcome).shared.conns changed.key =
      system.shared.conns conn.key := by
    rw [key]
    exact congrFun conns conn.key
  refine ⟨fun some => ?_, parted, fun gone => ?_, ?_, fun pending => ?_, served, fun gone => ?_⟩
  · rw [same]
    rcases kept some with before | known
    · exact (fine.kept before).imp_right fun draining =>
        draining_moved here draining (by simp [calm.1])
    · exact .inl known
  · rw [same]
    exact ⟨ended (closed ▸ gone), (fine.ended (closed ▸ gone)).2⟩
  · rintro ⟨drain, about, pending⟩
    rw [same]
    refine fine.drained ⟨drain, about, (pending.of_moved here).resolve_left fun follows => ?_⟩
    rw [free drain follows] at about
    cases about
  · exact givenUp ((pending.of_moved here).imp_right fine.givenUp)
  rw [closed]
  rcases closes gone with before | event
  · refine (fine.closes before).imp_right fun pending =>
      pending.imp events fun pending => pending.imp
        (·.moved here (Ne.symm calm.2)) fun draining => draining.moved here ?_
    rintro rfl
    cases calm.1
  · exact .inr (.inl event)

omit here in
/-- What becomes of a connection that a step does not touch. -/
theorem Fine.transfer
    (fine : Fine before cc conn)
    (known : ∀ key, after.shared.conns key = some cc ↔ before.shared.conns key = some cc)
    (lasting : ∀ r, (before.shared.request r).done = true -> (after.shared.request r).done = true)
    (forward : ∀ code, target before.shared code = some cc ->
      before.Pending code -> after.Pending code)
    (backward : ∀ code, governs code = some cc -> after.Pending code -> before.Pending code) :
    Fine after cc conn where
  kept := fun some => by
    rw [known]
    refine (fine.kept some).imp_right ?_
    rintro ⟨code, drain, pending⟩
    refine ⟨code, drain, forward code ?_ pending⟩
    cases code <;> first | exact drain | cases drain
  parted := fine.parted
  ended := fun closed => by
    rw [ne_eq, known]
    exact fine.ended closed
  drained := by
    rintro ⟨code, drain, pending⟩
    rw [ne_eq, known]
    exact fine.drained ⟨code, drain, backward code (governs_of_drains drain) pending⟩
  givenUp := fun pending => fine.givenUp (backward _ rfl pending)
  served := fun wants => by
    refine (fine.served (wants.lasting fun r unfinished => ?_)).imp_left (forward _ rfl)
    exact Bool.eq_false_iff.mpr fun done =>
      absurd ((lasting r done).symm.trans unfinished) nofun
  closes := fun closed => (fine.closes closed).imp_right fun pending =>
    pending.imp_right fun pending => pending.imp (forward _ rfl) (forward _ rfl)

/-- Nothing that waits is changed. -/
theorem Fine.kept_same
    (fine : Fine system cc conn)
    (calm : drains code = none ∧ code ≠ .closing cc ∧ code ≠ .startWaiting cc)
    (free : ∀ follows ∈ outcome.2, drains follows = none ∧
      follows ≠ .idleForget cc)
    (conns : outcome.1.conns = system.shared.conns)
    (request : outcome.1.request = system.shared.request)
    (same : Alike changed conn) :
    Fine (system.moved index tag rest outcome) cc changed := by
  refine @Fine.alike _ _ cc conn changed ?_ same
  refine fine.replaced here ⟨calm.1, calm.2.1⟩
    (fun follows member => (free follows member).1) conns rfl rfl .inl
    fine.parted (fun closed => (fine.ended closed).1) ?_ ?_ .inl id
  · exact fun given => given.resolve_left fun member =>
      (free _ member).2 rfl
  · exact fun wants => (fine.served (wants.lasting fun r => request ▸ id)).imp_left
      (·.moved here (Ne.symm calm.2.2))

end

/-- A round of `startWaiting` keeps the connection looking for streams, or
there is no need to. -/
theorem startWaiting_target
    (fine : Fine system cc (system.shared.conn cc))
    (here : system.threads[index]? = some ⟨tag, .startWaiting cc :: rest⟩) :
    Fine (system.moved index tag rest (system.shared.startWaiting cc)) cc
      ((system.shared.startWaiting cc).1.conn cc) := by
  -- A round that ends the search does so for a reason.
  have stops (reason : ¬Wants system.shared (system.shared.conn cc)) :
      Fine (system.moved index tag rest (system.shared, [])) cc (system.shared.conn cc) :=
    fine.replaced here ⟨rfl, nofun⟩ nofun rfl rfl rfl .inl fine.parted
      (fun closed => (fine.ended closed).1) (fun given => given.resolve_left nofun)
      (fun wants => absurd wants reason) .inl id
  -- A round that goes on shortens the waiting list.
  have goesOn : ∀ {outcome : State Key × List Section} {changed : Conn Key},
      outcome.1.conns = system.shared.conns ->
      (∀ follows ∈ outcome.2, drains follows = none ∧ follows ≠ .idleForget cc) ->
      .startWaiting cc ∈ outcome.2 ->
      changed.key = (system.shared.conn cc).key ->
      changed.closed = (system.shared.conn cc).closed ->
      changed.goingAway = (system.shared.conn cc).goingAway ->
      changed.quicClosed = (system.shared.conn cc).quicClosed ->
      changed.events = (system.shared.conn cc).events ->
      (∃ r, (system.shared.conn cc).waiting = r :: changed.waiting) ->
      Fine (system.moved index tag rest outcome) cc changed := by
    rintro outcome changed conns free again key closed going quic events ⟨r, waiting⟩
    refine fine.replaced here ⟨rfl, nofun⟩ (fun next member =>
      (free next member).1) conns key closed (fun _ => .inl (by simp [waiting]))
      (fun parted => ?_) (fun gone => ?_) (fun given => ?_)
      (fun _ => .inl (Threads.System.pending_next here again))
      (fun gone => .inl (quic ▸ gone)) (events ▸ id)
    · simpa [waiting] using fine.parted (going ▸ parted)
    · simpa [waiting] using (fine.ended gone).1
    · exact going.trans (given.resolve_left fun member =>
        (free _ member).2 rfl)
  simp only [State.startWaiting]
  split
  · next barred =>
    exact stops fun wants => by
      simp [wants.ready, wants.opened, wants.staying] at barred
  split
  · next empty => exact stops (not_wants empty)
  next r remaining first =>
  split
  · rw [State.conn_onConn_self]
    exact goesOn rfl (by simp [drains]) (by simp) rfl rfl rfl rfl rfl ⟨r, first⟩
  split
  · next full =>
    refine stops fun wants => ?_
    simp [wants.alive, Nat.not_le.mpr wants.spare] at full
  · simp only [State.conn_onStream, State.conn_onConn_self]
    exact goesOn rfl (by simp [drains]) (by simp) rfl rfl rfl rfl rfl ⟨r, first⟩

end Moved

/-! ## Every section -/

section Run

variable [DecidableEq Key] {system : System Key} {index : Nat}
  {tag : Option Nat} {code : Section} {answer : Bool} {rest : List Section}
  {cc : Nat}

/-- The section puts a request on a connection that is going away. -/
def choosesLeaving (state : State Key) : Section -> Bool
  | .enqueue r _ =>
    !state.closed && (state.conns (state.request r).key).any fun cc =>
      (state.conn cc).goingAway
  | _ => false

theorem enqueue_target
    (safe : Safe system)
    (here : system.threads[index]? = some ⟨tag, .enqueue r retrying :: rest⟩)
    (staying : choosesLeaving system.shared (.enqueue r retrying) = false)
    (touched : target system.shared (.enqueue r retrying) = some cc) :
    Fine (system.moved index tag rest (system.shared.enqueue r retrying)) cc
      ((system.shared.enqueue r retrying).1.conn cc) := by
  simp only [State.enqueue]
  split
  · next closed => simp [target, closed] at touched
  next taking =>
  split
  · next chosen known =>
    obtain rfl : chosen = cc := by
      simpa [target, taking, known] using touched
    have fine := safe.fine chosen (safe.known _ _ known).1
    have here_known : system.shared.conns (system.shared.conn chosen).key = some chosen :=
      (safe.known _ _ known).2 ▸ known
    have stays : (system.shared.conn chosen).goingAway = false := by
      simpa [choosesLeaving, taking, known] using staying
    simp only [State.wait, State.conn_onRequest, State.conn_onConn_self]
    refine fine.replaced here ⟨rfl, nofun⟩ (by simp [drains]) rfl rfl rfl
      (fun _ => .inr here_known) (fun going => ?_) (fun closed => ?_)
      (fun given => given.resolve_left (by simp)) ?_ .inl id
    · exact absurd (going.symm.trans stays) nofun
    · exact absurd here_known (fine.ended closed).2
    · exact fun _ => .inl (Threads.System.pending_next here List.mem_cons_self)
  next unknown =>
  obtain rfl : system.shared.made = cc := by
    simpa [target, taking, unknown] using touched
  have unplaced : ∀ pending, governs pending = some system.shared.made -> ¬system.Pending pending :=
    fun pending about runs =>
      absurd (safe.placed pending _ runs about) (lt_irrefl _)
  simp only [State.wait, State.conn_onRequest, State.conn_onConn_self, State.conn_onKey]
  refine ⟨fun _ => .inl ?_, nofun, nofun, ?_, fun pending => ?_,
    fun wants => absurd wants.ready nofun, nofun⟩
  · exact if_pos rfl
  · rintro ⟨drain, about, pending⟩
    rcases pending.of_moved here with follows | before
    · rw [List.mem_singleton.mp follows] at about
      cases about
    · exact absurd before (unplaced drain (governs_of_drains about))
  · rcases pending.of_moved here with follows | before
    · simp at follows
    · exact absurd before (unplaced _ rfl)

/-- What a section makes of a connection it changes. -/
theorem exec_target
    (safe : Safe system)
    (here : system.threads[index]? = some ⟨tag, code :: rest⟩)
    (other : ∀ r retrying, code ≠ .enqueue r retrying)
    (touched : target system.shared code = some cc)
    (made : cc < system.shared.made) :
    Fine (system.moved index tag rest (exec code answer system.shared)) cc
      ((exec code answer system.shared).1.conn cc) := by
  have fine := safe.fine cc made
  have lasting : ∀ r,
      ((exec code answer system.shared).1.request r).done = false ->
        (system.shared.request r).done = false := by
    intro r unfinished
    by_contra done
    rw [Bool.not_eq_false] at done
    have confined := exec_confined system.shared code answer
    exact absurd ((confined.done r done).symm.trans unfinished) nofun
  have unknown : (system.shared.forget cc).conns (system.shared.conn cc).key ≠ some cc := by
    rw [ne_eq, State.conns_forget _ _ fun key known =>
      (safe.known key cc known).2]
    exact fun known => known.2 rfl
  cases code
  case enqueue r retrying => exact absurd rfl (other r retrying)
  all_goals cases touched
  case startWaiting =>
    exact startWaiting_target fine here
  case dial | connected | settle =>
    simp only [exec]
    repeat' split
    all_goals
      exact fine.kept_same here ⟨rfl, nofun, nofun⟩
        (by simp [drains]) rfl rfl (by simp [Alike])
  case failed | announce =>
    simp only [exec, if_pos made, State.conn_forget] at lasting ⊢
    exact fine.forgotten here ⟨nofun, nofun⟩ rfl nofun unknown lasting
  case closing =>
    simp only [exec, if_pos made, State.conn_forget] at lasting ⊢
    exact fine.forgotten here ⟨nofun, nofun⟩ rfl (fun _ => rfl) unknown lasting
  case failedDrain =>
    simp only [exec, State.conn_onConn_self]
    exact fine.emptied here rfl rfl rfl id (fun _ => .inl rfl) rfl (by simp)
  case closeDrain =>
    simp only [exec, State.closeDrain, State.conn_onConn_self]
    refine fine.emptied here rfl rfl rfl id (fun _ => .inl rfl) rfl ?_
    simp only [List.mem_append, List.mem_map, not_or, not_exists, not_and]
    exact ⟨fun _ _ => nofun, fun _ _ => by split <;> nofun⟩
  case goAwayDrain =>
    simp only [exec, State.goAwayDrain, State.conn_onConn_self]
    refine fine.emptied here rfl rfl rfl (fun _ => rfl) (fun closed => ?_)
      rfl (by simp)
    exact (fine.closes closed).imp_right fun pending => pending.imp_right
      fun pending => pending.imp_right fun draining => ⟨nofun, draining⟩
  case handshaken =>
    simp only [exec]
    split
    · rw [State.conn_onConn_self]
      refine fine.replaced here ⟨rfl, nofun⟩ (by simp [drains]) rfl rfl rfl
        .inl fine.parted (fun closed => (fine.ended closed).1)
        (fun given => given.resolve_left (by simp)) ?_ .inl id
      exact fun _ => .inl (Threads.System.pending_next here List.mem_cons_self)
    · exact fine.kept_same here ⟨rfl, nofun, nofun⟩ (by simp [drains]) rfl
        rfl (by simp [Alike])
  case idleExpired =>
    simp only [exec]
    split
    · next idle =>
      have empty : (system.shared.conn cc).waiting = [] := by
        simp only [State.isIdle, Bool.and_eq_true] at idle
        exact List.isEmpty_iff.mp idle.1.2
      rw [State.conn_onConn_self]
      exact fine.replaced here ⟨rfl, nofun⟩ (by simp [drains]) rfl rfl rfl
        .inl (fun _ => empty) (fun _ => empty) (fun _ => rfl)
        (fun wants => absurd wants.staying nofun) .inl id
    · exact fine.kept_same here ⟨rfl, nofun, nofun⟩ nofun rfl rfl
        (by simp [Alike])
  case idleForget =>
    have going := fine.givenUp (Threads.System.pending_head here)
    have empty := fine.parted going
    simp only [exec, State.conn_forget]
    refine ⟨fun some => absurd empty some, fun _ => empty,
      fun _ => ⟨empty, unknown⟩, fun _ => unknown, fun _ => going,
      fun wants => absurd (going.symm.trans wants.staying) nofun,
      fun closed => ?_⟩
    exact (fine.closes closed).imp_right fun pending => pending.imp_right
      fun pending => pending.imp (·.moved here nofun) (·.moved here nofun)
  case closeQuic =>
    simp only [exec]
    split
    · exact fine.kept_same here ⟨rfl, nofun, nofun⟩ nofun rfl rfl
        (by simp [Alike])
    rw [State.conn_onConn_self]
    exact fine.replaced here ⟨rfl, nofun⟩ nofun rfl rfl rfl .inl
      fine.parted (fun closed => (fine.ended closed).1)
      (fun given => given.resolve_left nofun)
      (fun wants => absurd wants.alive nofun) (fun _ => .inr (by simp))
      (by simp)
  case closeConn =>
    simp only [exec, State.conn_onConn_self]
    refine fine.replaced here ⟨rfl, nofun⟩ ?_ rfl rfl rfl
      (fun some => absurd rfl some) (fun _ => rfl) (fun _ => rfl)
      (fun given => given.resolve_left (by simp)) (fun wants => absurd wants (not_wants rfl))
      .inl id
    simp only [List.mem_append, List.mem_map, List.mem_singleton]
    rintro follows (⟨r, _, rfl⟩ | rfl) <;> rfl

/-- A step of a running function. -/
theorem Safe.run
    (safe : Safe system)
    (here : system.threads[index]? = some ⟨tag, code :: rest⟩)
    (staying : choosesLeaving system.shared code = false) :
    Safe (system.moved index tag rest (exec code answer system.shared)) := by
  have keyed := fun key cc known => (safe.known key cc known).2
  have confined := exec_confined system.shared code answer
  have grows : system.shared.made ≤ (exec code answer system.shared).1.made := by
    rcases confined.made with same | ⟨more, _⟩
    · exact same.ge
    · exact more ▸ Nat.le_succ _
  refine ⟨fun key cc known => ?_, fun cc made => ?_, fun other cc pending about => ?_⟩
  · rcases confined.known known with before | made
    · obtain ⟨made, named⟩ := safe.known key cc before
      exact ⟨made.trans_le grows, (confined.key made).trans named⟩
    · exact made
  · by_cases touched : target system.shared code = some cc
    · cases code with
      | enqueue r retrying => exact enqueue_target safe here staying touched
      | _ =>
        refine exec_target safe here nofun touched ?_
        rcases confined.made with same | ⟨_, _, _, _, impossible⟩
        · exact same ▸ made
        · cases impossible
    have inside : cc < system.shared.made := by
      rcases confined.made with same | ⟨more, fresh, _⟩
      · exact same ▸ made
      change cc < (exec code answer system.shared).1.made at made
      rw [more] at made
      refine lt_of_le_of_ne (Nat.lt_succ_iff.mp made) ?_
      rintro rfl
      exact touched fresh
    change Fine _ cc ((exec code answer system.shared).1.conn cc)
    rw [confined.conn touched]
    refine (safe.fine cc inside).transfer (confined.conns keyed touched) confined.done ?_ ?_
    · intro other about pending
      refine pending.moved here ?_
      rintro rfl
      exact touched about
    · intro other about pending
      refine (pending.of_moved here).resolve_left fun follows => ?_
      exact touched (exec_governs follows about).1
  · rcases pending.of_moved here with follows | before
    · exact (exec_governs follows about).2.trans_le grows
    · exact (safe.placed other cc before about).trans_le grows

end Run

/-! ## Every step -/

section Steps

variable {system after : System Key}

/-- A step outside the running functions. -/
theorem Safe.outside
    (safe : Safe system)
    (conns : after.shared.conns = system.shared.conns)
    (made : after.shared.made = system.shared.made)
    (lasting : ∀ r, (system.shared.request r).done = true -> (after.shared.request r).done = true)
    (forward : ∀ code, system.Pending code -> after.Pending code)
    (backward : ∀ code cc, governs code = some cc -> after.Pending code -> system.Pending code)
    (keys : ∀ cc, (after.shared.conn cc).key = (system.shared.conn cc).key)
    (fine : ∀ cc < system.shared.made,
      Alike (after.shared.conn cc) (system.shared.conn cc) ∨ Fine after cc (after.shared.conn cc)) :
    Safe after where
  known := fun key cc known => by
    rw [made, keys]
    exact safe.known key cc (conns ▸ known)
  fine := fun cc inside => by
    rw [made] at inside
    rcases fine cc inside with same | fine
    · exact ((safe.fine cc inside).transfer (fun _ => by rw [conns]) lasting
        (fun code _ => forward code) fun code about =>
          backward code cc about).alike same
    · exact fine
  placed := fun code cc pending about =>
    made ▸ safe.placed code cc (backward code cc about pending) about

/-- A thread is started that has not given up any connection. -/
theorem Safe.spawned
    (safe : Safe system)
    (conns : shared.conns = system.shared.conns)
    (made : shared.made = system.shared.made)
    (lasting : ∀ r, (system.shared.request r).done = true -> (shared.request r).done = true)
    (same : ∀ cc, Alike (shared.conn cc) (system.shared.conn cc))
    (free : governs code = none) :
    Safe ({ system with shared := shared }.spawn tag [code]) := by
  refine safe.outside conns made lasting
    (fun _ pending => Threads.System.pending_spawn.mpr (.inr pending))
    (fun other cc about pending => ?_) (fun cc => (same cc).1)
    fun cc _ => .inl (same cc)
  refine (Threads.System.pending_spawn.mp pending).resolve_left fun started =>
    ?_
  rw [List.mem_singleton.mp started, free] at about
  cases about

theorem alike_onConn
    (state : State Key)
    (cc : Nat)
    (same : ∀ conn, Alike (change conn) conn)
    (other : Nat) :
    Alike ((state.onConn cc change).conn other) (state.conn other) := by
  by_cases equal : other = cc
  · rw [equal, State.conn_onConn_self]
    exact same _
  · rw [State.conn_onConn_ne _ _ equal]
    simp [Alike]

/-- A connection takes something from the network or from its queue. -/
theorem Safe.exchanged
    {change : Conn Key -> Conn Key}
    (safe : Safe system)
    (shared : after.shared = system.shared.onConn cc change)
    (forward : ∀ code, system.Pending code -> after.Pending code)
    (backward : ∀ code cc, governs code = some cc -> after.Pending code -> system.Pending code)
    (same : ∀ conn, (change conn).key = conn.key ∧ (change conn).closed = conn.closed ∧
      (change conn).goingAway = conn.goingAway ∧
      (change conn).waiting = conn.waiting)
    (served : Fine system cc (system.shared.conn cc) ->
      Wants system.shared (change (system.shared.conn cc)) ->
      after.Pending (.startWaiting cc) ∨
        ∃ event ∈ (change (system.shared.conn cc)).events, wakes event)
    (closes : Fine system cc (system.shared.conn cc) ->
      (change (system.shared.conn cc)).quicClosed = true ->
      (system.shared.conn cc).closed = true ∨ .closed ∈ (change (system.shared.conn cc)).events ∨
        after.Pending (.closing cc) ∨ after.Pending (.closeDrain cc)) :
    Safe after := by
  obtain ⟨key, closed, going, waiting⟩ := same (system.shared.conn cc)
  refine safe.outside (shared ▸ rfl) (shared ▸ rfl) (fun r => shared ▸ id)
    forward backward (fun other => ?_) fun other inside => ?_
  · rw [shared]
    by_cases equal : other = cc
    · rw [equal, State.conn_onConn_self, key]
    · rw [State.conn_onConn_ne _ _ equal]
  rw [shared]
  by_cases equal : other = cc
  · subst equal
    have fine := safe.fine other inside
    have conns : after.shared.conns (change (system.shared.conn other)).key =
        system.shared.conns (system.shared.conn other).key := by
      rw [shared, key]
      rfl
    rw [State.conn_onConn_self]
    refine .inr ⟨fun some => ?_, fun leaving => ?_, fun gone => ?_, ?_,
      fun pending => ?_, fun wants => served fine (wants.lasting fun r => shared ▸ id),
      fun gone => ?_⟩
    · rw [conns]
      refine (fine.kept (waiting ▸ some)).imp_right ?_
      rintro ⟨code, drain, pending⟩
      exact ⟨code, drain, forward code pending⟩
    · exact waiting.trans (fine.parted (going ▸ leaving))
    · rw [conns, waiting]
      exact fine.ended (closed ▸ gone)
    · rintro ⟨code, drain, pending⟩
      rw [conns]
      exact fine.drained ⟨code, drain, backward code other (governs_of_drains drain) pending⟩
    · exact going.trans (fine.givenUp (backward _ other rfl pending))
    · rw [closed]
      exact closes fine gone
  · rw [State.conn_onConn_ne _ _ equal]
    exact .inl (by simp [Alike])

/-- An event is queued. -/
theorem Safe.received
    [DecidableEq Key]
    (safe : Safe system)
    (arriving : arrives system.shared cc event = true) :
    Safe { system with
      shared := system.shared.onConn cc (receive event) } := by
  refine safe.exchanged rfl (fun _ => id) (fun _ _ _ => id) (fun conn => ?_)
    (fun fine wants => ?_) fun fine gone => ?_
  · cases event <;> exact ⟨rfl, rfl, rfl, rfl⟩
  · cases event with
    | handshake limit =>
      have unready : (system.shared.conn cc).ready = true := wants.ready
      simp [arrives, unready] at arriving
    | available limit =>
      exact .inr ⟨.available limit, by simp [receive], rfl⟩
    | closed => cases wants.alive
    | _ =>
      refine (fine.served { wants with }).imp_right ?_
      rintro ⟨old, member, waking⟩
      exact ⟨old, List.mem_append_left _ member, waking⟩
  cases event with
  | closed => exact .inr (.inl (by simp [receive]))
  | _ =>
    exact (fine.closes gone).imp_right fun pending => pending.imp_left
      fun queued => List.mem_append_left _ queued

/-- The callback of the first event is started. -/
theorem Safe.dispatched
    (safe : Safe system)
    (first : (system.shared.conn cc).events = event :: rest) :
    Safe ({ system with
      shared := system.shared.onConn cc fun conn =>
        { conn with events := rest } }.spawn (some cc) [callback cc event]) := by
  have forward : ∀ code, system.Pending code ->
      ({ system with
        shared := system.shared.onConn cc fun conn =>
          { conn with events := rest } }.spawn (some cc) [callback cc event]).Pending code :=
    fun code pending => Threads.System.pending_spawn.mpr (.inr pending)
  have started : ({ system with
      shared := system.shared.onConn cc fun conn =>
        { conn with events := rest } }.spawn (some cc)
          [callback cc event]).Pending (callback cc event) :=
    Threads.System.pending_spawn.mpr (.inl List.mem_cons_self)
  refine @Safe.exchanged _ _ _ cc (fun conn => { conn with events := rest })
    safe rfl forward (fun code other about pending => ?_)
    (fun _ => ⟨rfl, rfl, rfl, rfl⟩)
    (fun fine wants => ?_) fun fine gone => ?_
  · refine (Threads.System.pending_spawn.mp pending).resolve_left fun member =>
      ?_
    rw [List.mem_singleton.mp member] at about
    cases event <;> cases about
  · rcases fine.served { wants with } with
      pending | ⟨old, member, waking⟩
    · exact .inl (forward _ pending)
    rw [first] at member
    rcases List.mem_cons.mp member with rfl | later
    · cases old with
      | available limit => exact .inl started
      | _ => cases waking
    · exact .inr ⟨old, later, waking⟩
  rcases fine.closes gone with closed | queued | closing | draining
  · exact .inl closed
  · rw [first] at queued
    rcases List.mem_cons.mp queued with rfl | later
    · exact .inr (.inr (.inl started))
    · exact .inr (.inl later)
  · exact .inr (.inr (.inl (forward _ closing)))
  · exact .inr (.inr (.inr (forward _ draining)))

variable [DecidableEq Key]

/-- No request is put on a connection that is going away. -/
def Staying (system : System Key) : Label Key -> Prop
  | .run index _ =>
    ((system.threads[index]?).bind fun thread => thread.stack.head?).all
      (fun code => !choosesLeaving system.shared code) = true
  | _ => True

instance (system : System Key) (label : Label Key) :
    Decidable (Staying system label) := by
  cases label <;> unfold Staying <;> infer_instance

theorem Safe.step
    (safe : Safe system)
    (staying : Staying system label)
    (taken : step system label = some after) :
    Safe after := by
  cases stepped taken with
  | request key =>
    refine safe.spawned rfl rfl (fun r done => ?_)
      (fun _ => by simp [Alike]) rfl
    by_cases same : r = system.shared.asked <;> simpa [State.onRequest, same] using done
  | abort _ _ | close =>
    exact safe.spawned rfl rfl (fun _ => id) (fun _ => by simp [Alike]) rfl
  | dialed cc ok | idleFires cc timer =>
    exact safe.spawned rfl rfl (fun _ => id)
      (alike_onConn _ cc fun _ => by simp [Alike]) rfl
  | network cc event arriving => exact safe.received arriving
  | dispatch cc event rest first free => exact safe.dispatched first
  | run index answer tag code rest here =>
    refine safe.run here ?_
    simpa [Staying, here] using staying

/-- **Waiting requests.**  When no request is put on a connection that is going
away, then whenever nothing runs every unfinished request that waits is on a
connection the client knows, that is neither going away nor closed, and that is
still being dialed or out of streams. -/
theorem waiting_requests_are_not_stranded
    [Inhabited Key]
    {idleTimeout : Bool}
    {labels : List (Label Key)}
    {final : System Key}
    (reached :
      Transition.run Client.step (start idleTimeout) labels = some final)
    (staying : Transition.Meets Client.step Staying (start idleTimeout) labels)
    (settled : Settled final)
    {cc r : Nat}
    (made : cc < final.shared.made)
    (waits : r ∈ (final.shared.conn cc).waiting)
    (unfinished : (final.shared.request r).done = false) :
    final.shared.conns (final.shared.conn cc).key = some cc ∧
      (final.shared.conn cc).goingAway = false ∧
      (final.shared.conn cc).closed = false ∧
      ((final.shared.conn cc).ready = false ∨
        (final.shared.conn cc).limit ≤ (final.shared.conn cc).opened) := by
  have initial : Safe (start idleTimeout : System Key) :=
    ⟨nofun, nofun, fun _ _ ⟨_, member, _⟩ => absurd member List.not_mem_nil⟩
  have safe : Safe final := Transition.run_invariant_of_meets
    (fun _ _ _ => Safe.step) initial staying reached
  have fine := safe.fine cc made
  have nothing := Threads.System.not_pending_of_quiet settled.1
  have noEvents := settled.2 cc made
  have some : (final.shared.conn cc).waiting ≠ [] := List.ne_nil_of_mem waits
  have known : final.shared.conns (final.shared.conn cc).key = Option.some cc := by
    refine (fine.kept some).resolve_right ?_
    rintro ⟨code, _, pending⟩
    exact nothing code pending
  have stays : (final.shared.conn cc).goingAway = false :=
    Bool.eq_false_iff.mpr fun going => some (fine.parted going)
  have opened : (final.shared.conn cc).closed = false :=
    Bool.eq_false_iff.mpr fun closed => some (fine.ended closed).1
  have alive : (final.shared.conn cc).quicClosed = false := by
    refine Bool.eq_false_iff.mpr fun closed => ?_
    rcases fine.closes closed with gone | event | closing | draining
    · exact some (fine.ended gone).1
    · rw [noEvents] at event
      cases event
    · exact nothing _ closing
    · exact nothing _ draining
  refine ⟨known, stays, opened, ?_⟩
  by_contra spare
  rw [not_or, Bool.not_eq_false, Nat.not_le] at spare
  rcases fine.served ⟨spare.1, opened, stays, alive, spare.2, r, waits, unfinished⟩
    with pending | ⟨event, member, _⟩
  · exact nothing _ pending
  · rw [noEvents] at member
    cases member

end Steps

/-- A request is put on the first stream of a new connection. -/
def startedRun : List (Label Unit) :=
  [.request (), .run 0 true, .run 0 true, .dialed 0 true, .run 1 true,
    .network 0 (.handshake 1), .dispatch 0, .run 2 true, .run 2 true,
    .run 2 true, .run 2 true, .run 2 true]

/-- The request is answered, and a second one is queued after the idle timer
has given the connection up and before the client has forgotten it. -/
def strandingRun : List (Label Unit) :=
  startedRun ++ [.network 0 (.data 0 .completes), .dispatch 0, .run 3 true,
    .run 3 true, .run 3 true, .run 3 true, .run 3 true, .idleFires 0 0,
    .run 4 true, .request (), .run 5 true, .run 5 true, .run 4 true,
    .run 4 true]

/-- A second request is queued while the only stream is in use. -/
def queueingRun : List (Label Unit) :=
  startedRun ++ [.request (), .run 3 true, .run 3 true]

/-- The request of `strandingRun` waits on a connection that is going away and
that the client has forgotten. -/
theorem idle_timer_strands_a_request :
    ∃ final, Transition.run step (start true) strandingRun = some final ∧
      Settled final ∧ 1 ∈ (final.shared.conn 0).waiting ∧ (final.shared.request 1).done = false ∧
          final.shared.conns (final.shared.conn 0).key = none ∧
            (final.shared.conn 0).goingAway = true := by
  exact Transition.exists_run_of_any (by decide +kernel)

theorem waiting_requests_are_not_stranded_queued :
    ∃ final, Transition.run step (start true) queueingRun = some final ∧
      final.shared.conns (final.shared.conn 0).key = some 0 ∧
        (final.shared.conn 0).goingAway = false ∧ (final.shared.conn 0).closed = false ∧
            ((final.shared.conn 0).ready = false ∨
              (final.shared.conn 0).limit ≤ (final.shared.conn 0).opened) := by
  obtain ⟨final, reached, settled, made, waits, unfinished⟩ :
      ∃ final, Transition.run step (start true) queueingRun = some final ∧
        Settled final ∧ 0 < final.shared.made ∧ 1 ∈ (final.shared.conn 0).waiting ∧
            (final.shared.request 1).done = false :=
    Transition.exists_run_of_any (by decide +kernel)
  exact ⟨final, reached, waiting_requests_are_not_stranded reached
    (by decide +kernel) settled made waits unfinished⟩

end Client
end Http3
end Fib
