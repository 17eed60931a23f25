import Fib.Library.Threads
import Fib.Library.Transition

/-!
# The HTTP/3 client

A client keeps one connection per key, a connection keeps the requests that
wait for a stream and the streams it has opened, and a request knows the stream
it is on.  Callers, timers, the dialer and each connection's QUIC events run the
client's functions side by side; every section under a mutex is one step.  The
events of one connection are queued and their callbacks run one after another.

Fields marked as a record of the past are read by no function of the client.
-/

namespace Fib
namespace Http3
namespace Client

/-- How a request ended. -/
inductive Outcome where
  | response (stream : Nat)
  /-- An error of the stream it was on. -/
  | streamError (stream : Nat)
  /-- Its stream was declared unprocessed and it may not be sent again. -/
  | rejected (stream : Nat)
  /-- An error of the connection it was on. -/
  | connectionError (conn : Nat)
  /-- The connection it waited for could not be dialed. -/
  | dialError (conn : Nat)
  | clientClosed
  /-- Its context or its time ran out. -/
  | aborted
deriving DecidableEq

/-- A `clientRequest`. -/
structure Request (Key : Type) where
  key : Key
  done : Bool := false
  retried : Bool := false
  stream : Option Nat := none
  /-- Record: what the callback got. -/
  outcome : Option Outcome := none
  /-- Record: the connections on which `retry` queued it. -/
  requeues : List Nat := []

/-- A `clientStream`. -/
structure Stream where
  conn : Nat := 0
  sid : Nat := 0
  request : Nat := 0
  done : Bool := false
  /-- The QUIC stream was reset by `abortStream`. -/
  aborted : Bool := false
  /-- It is in its connection's `streams`. -/
  listed : Bool := false

/-- What the parser makes of the bytes of an answer. -/
inductive Verdict where
  | more
  | fails
  | breaks
  | failsAndBreaks
  | completes
deriving DecidableEq

/-- An event of a QUIC connection. -/
inductive Event where
  | handshake (limit : Nat)
  | available (limit : Nat)
  | goAway (id : Nat)
  | data (stream : Nat) (verdict : Verdict)
  | reset (stream : Nat) (rejected : Bool)
  /-- What the peer must not send on its own streams. -/
  | fault
  | closed
deriving DecidableEq

/-- A `clientConn` with its QUIC connection. -/
structure Conn (Key : Type) where
  key : Key
  ready : Bool := false
  closed : Bool := false
  goingAway : Bool := false
  waiting : List Nat := []
  idleTimer : Option Nat := none
  /-- The timers that have been set and neither fired nor stopped. -/
  armed : List Nat := []
  timers : Nat := 0
  dialing : Bool := false
  hasQuic : Bool := false
  quicClosed : Bool := false
  opened : Nat := 0
  limit : Nat := 0
  events : List Event := []

/-- What a stream's end does once the connection has forgotten it. -/
inductive After where
  | nothing
  | finish (outcome : Outcome)
  | retry
deriving DecidableEq

/-- What is left of a running function, from one of its sections on. -/
inductive Section where
  | enqueue (request : Nat) (retrying : Bool)
  | dial (conn : Nat)
  | connected (conn : Nat) (ok : Bool)
  | failed (conn : Nat)
  | failedDrain (conn : Nat)
  | handshaken (conn : Nat)
  | startWaiting (conn : Nat)
  | attach (stream : Nat)
  | send (stream : Nat)
  | fail (stream : Nat)
  | abortStream (stream : Nat)
  | streamDone (stream : Nat) (after : After)
  | readClosed (conn : Nat)
  | settle (conn : Nat) (clientClosed : Bool)
  | idleExpired (conn : Nat)
  | idleForget (conn : Nat)
  | closeIfIdle (conn : Nat)
  | closeQuic (conn : Nat)
  | finish (request : Nat) (outcome : Outcome)
  | abort (request : Nat)
  | finishAbort (request : Nat) (stream : Option Nat)
  | retry (request : Nat) (cause : Outcome)
  | announce (conn : Nat) (id : Nat)
  | goAwayDrain (conn : Nat) (id : Nat)
  | closing (conn : Nat)
  | closeDrain (conn : Nat)
  | feed (stream : Nat) (verdict : Verdict)
  | reset (stream : Nat) (rejected : Bool)
  | close
  | closeConn (conn : Nat)
deriving DecidableEq

/-- The client, its connections, requests and streams, each under the number it
was made with. -/
structure State (Key : Type) where
  /-- Whether `IdleConnTimeout` is set. -/
  idleTimeout : Bool
  closed : Bool := false
  conns : Key -> Option Nat := fun _ => none
  conn : Nat -> Conn Key
  made : Nat := 0
  request : Nat -> Request Key
  asked : Nat := 0
  stream : Nat -> Stream := fun _ => {}
  opened : Nat := 0

/-- A client after a section, and the sections that follow it. -/
abbrev Outcomes (Key : Type) := State Key × List Section

namespace State

variable {Key : Type}

/-! ## The parts of a state -/

def onConn
    (state : State Key)
    (cc : Nat)
    (change : Conn Key -> Conn Key) :
    State Key :=
  { state with
    conn := fun other =>
      if other = cc then change (state.conn other) else state.conn other }

def onRequest
    (state : State Key)
    (r : Nat)
    (change : Request Key -> Request Key) : State Key :=
  { state with
    request := fun other =>
      if other = r then change (state.request other)
      else state.request other }

def onStream
    (state : State Key)
    (st : Nat)
    (change : Stream -> Stream) :
    State Key :=
  { state with
    stream := fun other =>
      if other = st then change (state.stream other) else state.stream other }

section Parts

variable (state : State Key) {cc other : Nat} (change : Conn Key -> Conn Key)

@[simp] theorem conn_onConn_self :
    (state.onConn cc change).conn cc = change (state.conn cc) :=
  if_pos rfl

@[simp] theorem conn_onConn_ne (different : other ≠ cc) :
    (state.onConn cc change).conn other = state.conn other :=
  if_neg different

@[simp] theorem conns_onConn : (state.onConn cc change).conns = state.conns :=
  rfl

@[simp] theorem request_onConn :
    (state.onConn cc change).request = state.request := rfl

@[simp] theorem conn_onRequest
    (r : Nat)
    (change : Request Key -> Request Key) :
    (state.onRequest r change).conn = state.conn := rfl

@[simp] theorem conns_onRequest
    (r : Nat)
    (change : Request Key -> Request Key) :
    (state.onRequest r change).conns = state.conns := rfl

@[simp] theorem conn_onStream
    (st : Nat)
    (change : Stream -> Stream) :
    (state.onStream st change).conn = state.conn := rfl

@[simp] theorem conns_onStream
    (st : Nat)
    (change : Stream -> Stream) :
    (state.onStream st change).conns = state.conns := rfl

@[simp] theorem request_onStream
    (st : Nat)
    (change : Stream -> Stream) :
    (state.onStream st change).request = state.request := rfl

end Parts

section

variable (state : State Key)

/-- The streams a connection lists. -/
def listedOf (cc : Nat) : List Nat :=
  (List.range state.opened).filter fun st =>
    (state.stream st).conn == cc && (state.stream st).listed

/-- Nothing is in flight on a connection and nothing waits for it. -/
def isIdle (cc : Nat) : Bool :=
  (state.listedOf cc).isEmpty && (state.conn cc).waiting.isEmpty

/-! ## Requests -/

/-- The request is put into the waiting list. -/
def wait
    (cc r : Nat)
    (retrying : Bool) : State Key :=
  (state.onConn cc fun conn =>
      { conn with waiting := conn.waiting ++ [r] }).onRequest r fun request =>
    { request with
      requeues :=
        if retrying then request.requeues ++ [cc] else request.requeues }

/-- `clientRequest.finish`, with what runs if it called the callback. -/
def finish
    (r : Nat)
    (outcome : Outcome)
    (follows : List Section) : Outcomes Key :=
  if (state.request r).done then (state, [])
  else
    (state.onRequest r fun request =>
      { request with
        done := true
        stream := none
        outcome := some outcome }, follows)

/-- What `cancel` runs. -/
def abandon (st : Nat) : List Section :=
  [.abortStream st, .streamDone st .nothing]

/-- `clientRequest.retry`. -/
def retry
    (r : Nat)
    (cause : Outcome) : Outcomes Key :=
  (state.onRequest r fun request =>
      { request with retried := true, stream := none },
    if !(state.request r).retried && !(state.request r).done then
      [.enqueue r true]
    else [.finish r cause])

/-! ## Connections -/

/-- One round of `startWaiting`. -/
def startWaiting (cc : Nat) : Outcomes Key :=
  let conn := state.conn cc
  if !conn.ready || conn.closed || conn.goingAway then (state, [])
  else
    match conn.waiting with
    | [] => (state, [])
    | r :: rest =>
      if (state.request r).done then
        (state.onConn cc fun conn => { conn with waiting := rest },
          [.startWaiting cc])
      else if conn.quicClosed || conn.limit ≤ conn.opened then (state, [])
      else
        ({ (state.onConn cc fun conn =>
            { conn with
              waiting := rest
              opened := conn.opened + 1
              idleTimer := none
              armed := conn.armed.filter fun timer =>
                conn.idleTimer != some timer }).onStream state.opened
              fun _ =>
                { conn := cc
                  sid := 4 * conn.opened
                  request := r
                  listed := true }
          with opened := state.opened + 1 },
          [.attach state.opened, .startWaiting cc])

/-- `handleGoAway` after the connection is forgotten. -/
def goAwayDrain (cc id : Nat) : Outcomes Key :=
  let unserved := (state.listedOf cc).filter fun st =>
    id ≤ (state.stream st).sid
  ({ state.onConn cc fun conn =>
        { conn with goingAway := true, waiting := [] }
      with
      stream := fun st =>
        if st ∈ unserved then { state.stream st with listed := false }
        else state.stream st },
    (unserved.flatMap fun st =>
      [.abortStream st, .retry (state.stream st).request (.rejected st)]) ++
      (state.conn cc).waiting.map (fun r => .enqueue r false) ++
        [.closeIfIdle cc])

/-- `OnClose` after the connection is forgotten. -/
def closeDrain (cc : Nat) : Outcomes Key :=
  let conn := state.conn cc
  ({ state.onConn cc fun conn =>
        { conn with
          closed := true
          waiting := []
          armed := conn.armed.filter fun timer =>
            conn.idleTimer != some timer }
      with
      stream := fun st =>
        if st ∈ state.listedOf cc then
          { state.stream st with listed := false }
        else state.stream st },
    (state.listedOf cc).map (fun st =>
      .finish (state.stream st).request (.connectionError cc)) ++
      conn.waiting.map fun r =>
        if conn.ready then .retry r (.connectionError cc)
        else .finish r (.connectionError cc))

end

section Keyed

variable [DecidableEq Key]

section

variable (state : State Key)

def onKey
    (key : Key)
    (known : Option Nat) : State Key :=
  { state with
    conns := fun other => if other = key then known else state.conns other }

@[simp] theorem conn_onKey
    (key : Key)
    (known : Option Nat) :
    (state.onKey key known).conn = state.conn := rfl

@[simp] theorem request_onKey
    (key : Key)
    (known : Option Nat) :
    (state.onKey key known).request = state.request :=
  rfl

/-- `forget`. -/
def forget (cc : Nat) : State Key :=
  if state.conns (state.conn cc).key = some cc then
    state.onKey (state.conn cc).key none
  else state

@[simp] theorem conn_forget (cc : Nat) :
    (state.forget cc).conn = state.conn := by
  unfold forget
  split <;> rfl

@[simp] theorem request_forget (cc : Nat) :
    (state.forget cc).request = state.request := by
  unfold forget
  split <;> rfl

/-- Who is known once a connection is forgotten. -/
theorem conns_forget
    (cc : Nat)
    (keyed : ∀ key, state.conns key = some cc -> (state.conn cc).key = key) :
    (state.forget cc).conns key = some other ↔ state.conns key = some other ∧ other ≠ cc := by
  unfold forget onKey
  split <;> grind

/-- `enqueue`. -/
def enqueue
    (r : Nat)
    (retrying : Bool) : Outcomes Key :=
  let key := (state.request r).key
  if state.closed then (state, [.finish r .clientClosed])
  else
    match state.conns key with
    | some cc => (state.wait cc r retrying, [.startWaiting cc])
    | none =>
      ({ (((state.onConn state.made fun _ => { key := key }).onKey key
            (some state.made)).wait state.made r retrying)
          with made := state.made + 1 },
        [.dial state.made])

/-- `Client.Close` up to its unlocking. -/
def close : Outcomes Key :=
  if state.closed then (state, [])
  else
    ({ state with closed := true },
      ((List.range state.made).filter fun cc =>
        state.conns (state.conn cc).key = some cc).map Section.closeConn)

/-! ## Streams -/

/-- What follows `streamDone` in its caller. -/
def afterwards (st r : Nat) : After -> List Section
  | .nothing => []
  | .finish outcome => [.finish r outcome]
  | .retry => [.retry r (.rejected st)]

/-- `streamDone` up to its first unlocking. -/
def streamDone
    (st : Nat)
    (follows : After) :
    Outcomes Key :=
  let cc := (state.stream st).conn
  let unlisted := state.onStream st fun stream =>
    { stream with listed := false }
  (unlisted,
    (if unlisted.isIdle cc && !(state.conn cc).closed then [.readClosed cc]
      else []) ++ afterwards st (state.stream st).request follows)

/-- The stream is done. -/
def ended (st : Nat) : State Key :=
  state.onStream st fun stream => { stream with done := true }

/-- `clientStream.feed`. -/
def feed
    (st : Nat)
    (verdict : Verdict) : Outcomes Key :=
  if (state.stream st).done then (state, [])
  else
    match verdict with
    | .more => (state, [])
    | .fails => (state, [.fail st])
    | .breaks => (state, [.closeQuic (state.stream st).conn])
    | .failsAndBreaks =>
      (state, [.fail st, .closeQuic (state.stream st).conn])
    | .completes =>
      (state.ended st, [.streamDone st (.finish (.response st))])

/-- `clientStream.reset`. -/
def reset
    (st : Nat)
    (rejected : Bool) : Outcomes Key :=
  if (state.stream st).done then (state, [])
  else
    (state.ended st,
      [.streamDone st (if rejected then .retry else .finish (.streamError st))])

end

end Keyed

end State

/-! ## Steps -/

section Steps

variable {Key : Type} [DecidableEq Key]

/-- One section.  The answer is what the dialer or the opening of the control
stream says.  There is nothing to end of a connection that was not made. -/
def exec
    (code : Section)
    (answer : Bool)
    (state : State Key) : Outcomes Key :=
  match code with
  | .enqueue r retrying => state.enqueue r retrying
  | .dial cc =>
    if answer then
      (state.onConn cc fun conn => { conn with dialing := true }, [])
    else (state, [.failed cc])
  | .connected cc ok =>
    if ok then
      (state.onConn cc fun conn => { conn with hasQuic := true }, [])
    else (state, [.failed cc])
  | .failed cc =>
    if cc < state.made then (state.forget cc, [.failedDrain cc])
    else (state, [])
  | .failedDrain cc =>
    (state.onConn cc fun conn => { conn with closed := true, waiting := [] },
      (state.conn cc).waiting.map fun r => .finish r (.dialError cc))
  | .handshaken cc =>
    if answer then
      (state.onConn cc fun conn => { conn with ready := true },
        [.startWaiting cc])
    else (state, [.closeQuic cc])
  | .startWaiting cc => state.startWaiting cc
  | .attach st =>
    if (state.request (state.stream st).request).done then
      (state, State.abandon st)
    else
      (state.onRequest (state.stream st).request fun request =>
        { request with stream := some st }, [.send st])
  | .send st =>
    if (state.conn (state.stream st).conn).quicClosed ||
        (state.stream st).aborted then
      (state, [.fail st])
    else (state, [])
  | .fail st =>
    (state.ended st,
      [.abortStream st, .streamDone st (.finish (.streamError st))])
  | .abortStream st =>
    (state.onStream st fun stream => { stream with aborted := true }, [])
  | .streamDone st follows => state.streamDone st follows
  | .readClosed cc => (state, [.settle cc state.closed])
  | .settle cc closed =>
    if (state.conn cc).goingAway || closed then (state, [.closeIfIdle cc])
    else if state.idleTimeout && (state.conn cc).idleTimer.isNone then
      (state.onConn cc fun conn =>
        { conn with
          idleTimer := some conn.timers
          armed := conn.armed ++ [conn.timers]
          timers := conn.timers + 1 }, [])
    else (state, [])
  | .idleExpired cc =>
    if state.isIdle cc && cc < state.made then
      (state.onConn cc fun conn =>
        { conn with idleTimer := none, goingAway := true },
        [.idleForget cc])
    else
      (state.onConn cc fun conn => { conn with idleTimer := none }, [])
  | .idleForget cc => (state.forget cc, [.closeIfIdle cc])
  | .closeIfIdle cc =>
    (state,
      if state.isIdle cc && !(state.conn cc).closed &&
          (state.conn cc).hasQuic then
        [.closeQuic cc]
      else [])
  | .closeQuic cc =>
    if (state.conn cc).quicClosed then (state, [])
    else
      (state.onConn cc fun conn =>
        { conn with
          quicClosed := true
          events := conn.events ++ [.closed] }, [])
  | .finish r outcome => state.finish r outcome []
  | .abort r => (state, [.finishAbort r (state.request r).stream])
  | .finishAbort r stream =>
    state.finish r .aborted ((stream.map State.abandon).getD [])
  | .retry r cause => state.retry r cause
  | .announce cc id =>
    if cc < state.made then (state.forget cc, [.goAwayDrain cc id])
    else (state, [])
  | .goAwayDrain cc id => state.goAwayDrain cc id
  | .closing cc =>
    if cc < state.made then (state.forget cc, [.closeDrain cc])
    else (state, [])
  | .closeDrain cc => state.closeDrain cc
  | .feed st verdict => state.feed st verdict
  | .reset st rejected => state.reset st rejected
  | .close => state.close
  | .closeConn cc =>
    (state.onConn cc fun conn => { conn with waiting := [] },
      (state.conn cc).waiting.map (fun r => .finish r .clientClosed) ++
        [.closeIfIdle cc])

/-- The client with its running functions.  A thread that runs the callbacks of
a connection carries its number. -/
abbrev System (Key : Type) :=
  Threads.System (State Key) (Option Nat) Section

/-- What the callback of an event runs. -/
def callback (cc : Nat) : Event -> Section
  | .handshake _ => .handshaken cc
  | .available _ => .startWaiting cc
  | .goAway id => .announce cc id
  | .data st verdict => .feed st verdict
  | .reset st rejected => .reset st rejected
  | .fault => .closeQuic cc
  | .closed => .closing cc

/-- What can happen next. -/
inductive Label (Key : Type) where
  /-- `Do`. -/
  | request (key : Key)
  | abort (request : Nat)
  | close
  | dialed (conn : Nat) (ok : Bool)
  | idleFires (conn : Nat) (timer : Nat)
  | network (conn : Nat) (event : Event)
  | dispatch (conn : Nat)
  | run (thread : Nat) (answer : Bool)

/-- An event can arrive on a connection. -/
def arrives
    (state : State Key)
    (cc : Nat)
    (event : Event) : Bool :=
  (state.conn cc).hasQuic && !(state.conn cc).quicClosed &&
    match event with
    | .data st _ | .reset st _ =>
      st < state.opened && (state.stream st).conn == cc &&
        !(state.stream st).aborted
    | .handshake _ => !(state.conn cc).ready
    | _ => true

/-- What the QUIC connection takes from an event before its callback runs. -/
def receive
    (event : Event)
    (conn : Conn Key) : Conn Key :=
  let conn := { conn with events := conn.events ++ [event] }
  match event with
  | .handshake limit | .available limit =>
    { conn with limit := max conn.limit limit }
  | .closed => { conn with quicClosed := true }
  | _ => conn

/-- No callback of the connection is running. -/
def Undispatched
    (system : System Key)
    (cc : Nat) : Prop :=
  ∀ thread ∈ system.threads, thread.tag = some cc -> thread.stack = []

instance (system : System Key) (cc : Nat) :
    Decidable (Undispatched system cc) :=
  inferInstanceAs (Decidable (∀ thread ∈ system.threads,
    thread.tag = some cc -> thread.stack = []))

/-- One step of the client or its surroundings. -/
def step (system : System Key) : Label Key -> Option (System Key)
  | .request key =>
    -- the record under the next number is still blank
    some ({ system with
      shared :=
        { system.shared.onRequest system.shared.asked fun request =>
            { request with key := key }
          with asked := system.shared.asked + 1 } }.spawn none
        [.enqueue system.shared.asked false])
  | .abort r =>
    if r < system.shared.asked then some (system.spawn none [.abort r])
    else none
  | .close => some (system.spawn none [.close])
  | .dialed cc ok =>
    if (system.shared.conn cc).dialing then
      some ({ system with
        shared := system.shared.onConn cc fun conn =>
          { conn with dialing := false } }.spawn none [.connected cc ok])
    else none
  | .idleFires cc timer =>
    if timer ∈ (system.shared.conn cc).armed then
      some ({ system with
        shared := system.shared.onConn cc fun conn =>
          { conn with armed := conn.armed.erase timer } }.spawn none
            [.idleExpired cc])
    else none
  | .network cc event =>
    if arrives system.shared cc event then
      some { system with shared := system.shared.onConn cc (receive event) }
    else none
  | .dispatch cc =>
    match (system.shared.conn cc).events with
    | [] => none
    | event :: rest =>
      if Undispatched system cc then
        some ({ system with
          shared := system.shared.onConn cc fun conn =>
            { conn with events := rest } }.spawn (some cc)
              [callback cc event])
      else none
  | .run thread answer => system.advance exec thread answer

/-- The cases of a step. -/
inductive Stepped (system : System Key) : Label Key -> System Key -> Prop
  | request (key : Key) :
      Stepped system (.request key) ({ system with
        shared :=
          { system.shared.onRequest system.shared.asked fun request =>
              { request with key := key }
            with asked := system.shared.asked + 1 } }.spawn none
          [.enqueue system.shared.asked false])
  | abort (r : Nat) (inside : r < system.shared.asked) :
      Stepped system (.abort r) (system.spawn none [.abort r])
  | close : Stepped system .close (system.spawn none [.close])
  | dialed (cc : Nat) (ok : Bool) :
      Stepped system (.dialed cc ok) ({ system with
        shared := system.shared.onConn cc fun conn =>
          { conn with dialing := false } }.spawn none [.connected cc ok])
  | idleFires (cc timer : Nat) :
      Stepped system (.idleFires cc timer) ({ system with
        shared := system.shared.onConn cc fun conn =>
          { conn with armed := conn.armed.erase timer } }.spawn none
            [.idleExpired cc])
  | network (cc : Nat) (event : Event)
      (arriving : arrives system.shared cc event = true) :
      Stepped system (.network cc event)
        { system with shared := system.shared.onConn cc (receive event) }
  | dispatch (cc : Nat) (event : Event) (rest : List Event)
      (first : (system.shared.conn cc).events = event :: rest)
      (free : Undispatched system cc) :
      Stepped system (.dispatch cc) ({ system with
        shared := system.shared.onConn cc fun conn =>
          { conn with events := rest } }.spawn (some cc) [callback cc event])
  | run (index : Nat) (answer : Bool) (tag : Option Nat) (code : Section)
      (rest : List Section)
      (here : system.threads[index]? = some ⟨tag, code :: rest⟩) :
      Stepped system (.run index answer)
        (system.moved index tag rest (exec code answer system.shared))

theorem stepped
    {system after : System Key}
    (taken : step system label = some after) :
    Stepped system label after := by
  cases label <;> simp only [step] at taken
  case request key => exact Option.some.inj taken ▸ .request key
  case close => exact Option.some.inj taken ▸ .close
  case run index answer =>
    obtain ⟨tag, code, rest, here, rfl⟩ :=
      Threads.System.advance_eq_some taken
    exact .run index answer tag code rest here
  case dispatch cc =>
    split at taken
    · cases taken
    next event rest first =>
    split at taken
    · next free =>
      exact Option.some.inj taken ▸ .dispatch cc event rest first free
    · cases taken
  all_goals
    split at taken
    · next holds =>
      obtain rfl := Option.some.inj taken
      constructor <;> exact holds
    · cases taken

/-- A client before its first request. -/
def start
    [Inhabited Key]
    (idleTimeout : Bool) : System Key where
  shared :=
    { idleTimeout := idleTimeout
      conn := fun _ => { key := default }
      request := fun _ => { key := default } }

/-- No function is running and no callback is due. -/
def Settled (system : System Key) : Prop :=
  system.Quiet ∧ ∀ cc < system.shared.made, (system.shared.conn cc).events = []

instance (system : System Key) : Decidable (Settled system) :=
  inferInstanceAs (Decidable (system.Quiet ∧
    ∀ cc < system.shared.made, (system.shared.conn cc).events = []))

end Steps

end Client
end Http3
end Fib
