import Fib.Http.Pipeline
import Fib.Http.Segmentation

/-!
# The connection's last response

The read loop hands what it reads to `OnData`, which parses one request after
the other and calls the handler on it.  A request that asks for the end of the
connection, and a response that announces it, make the current call of
`OnData` return; what the parser holds stays with it, and the read loop goes on
when the read filled its buffer.  The model joins the read loop, the parser and
the contexts of the requests; the contexts are those of the pipeline.
-/

namespace Fib
namespace Http

/-- What `h2cUpgrade` and `upgradeH2C` come to: no upgrade, an upgrade whose
settings the server does not accept, or a connection that is HTTP/2 from then
on. -/
inductive Upgrade where
  | none
  | declined
  | switched
deriving DecidableEq

/-- `ServerHandler`, with what it is given. -/
structure ServerHandler where
  config : Config
  disableHTTP2 : Bool
  reader : Reader
  platform : Platform
  upgrade : Incoming -> Upgrade

/-- `h2Preface`. -/
def h2Preface : Bytes := ascii "PRI * HTTP/2.0\r\n\r\nSM\r\n\r\n"

/-- The status of the response that reports a parse error. -/
def errorStatus : ParseError -> Nat
  | .headerTooLarge => 431
  | .bodyTooLarge => 413
  | .unsupportedTransferEncoding => 501
  | .malformed _ => 400

/-- `checkRequest`; no status for a request that may be served. -/
def checkRequest (request : Incoming) : Option Nat :=
  let hosts := request.header.values (ascii "Host")
  let expect := request.header.values (ascii "Expect")
  if request.protoAtLeast 1 1 && request.method != ascii "CONNECT" &&
      ((!request.header.has (ascii "Host") && request.host == []) ||
        decide (1 < hosts.length)) then some 400
  else if request.header.has (ascii "Expect") &&
      (expect.length != 1 ||
        !equalFold (trimSpace (expect.headD [])) (ascii "100-continue")) then
    some 417
  else none

/-- A connection with its read loop. -/
structure Session where
  pipeline : Pipeline
  parser : Parser := {}
  sniffed : Bool := false
  /-- The parser is still the connection's attachment. -/
  attached : Bool := true
  http2 : Bool := false
  /-- `readLoop` is running, and its last read filled the buffer. -/
  reading : Bool := false
  filled : Bool := false
  /-- `OnData` is about to parse, with these bytes to append. -/
  parsing : Option Bytes := none
  /-- `OnData` returns after the request that is being served. -/
  lastRequest : Bool := false
  /-- The connection has asked the event loop to close it. -/
  closing : Bool := false
  /-- A request that asked for the end of the connection has been served. -/
  closeServed : Bool := false
  /-- The handler was called after the connection's last response. -/
  servedLate : Bool := false

/-- What can happen on the connection. -/
inductive SessionEvent where
  /-- A worker begins to drain the socket. -/
  | beginRound
  /-- The read loop stops before it has met a short read. -/
  | endRound
  /-- A read hands its bytes to `OnData`. -/
  | onData (data : Bytes)
  /-- `OnData` calls `FeedOne`. -/
  | parse
  | act (index : Nat) (act : Act)
  | handlerReturns
  | handlerPanics
  /-- The connection is asked to close: its output has been sent, or the peer
  or the socket ended it. -/
  | close
  | onClose

namespace Session

/-- `OnData` is not running. -/
def Idle (session : Session) : Prop :=
  session.parsing = none ∧ session.pipeline.serving = none

instance (session : Session) : Decidable session.Idle :=
  inferInstanceAs (Decidable (_ ∧ _))

/-- The connection's last response has been written, or its last request
served. -/
def Ended (session : Session) : Prop :=
  session.closeServed = true ∨
    ∃ context ∈ session.pipeline.contexts, context.closing = true

instance (session : Session) : Decidable session.Ended :=
  inferInstanceAs (Decidable (_ ∨ _))

/-- `OnData` returns to the read loop, which goes on after a read that filled
the buffer. -/
def returned (session : Session) : Session :=
  { session with
    parsing := none
    lastRequest := false
    reading := session.reading && session.filled }

section

variable (server : ServerHandler)

section

variable (session : Session)

/-- Let a request that waits for it send its body. -/
def permit : Option Pipeline :=
  if session.parser.wantContinue then
    session.pipeline.step server.platform .sendContinue
  else some session.pipeline

/-- Refuse a request that cannot be served. -/
def refuse (pipeline : Pipeline) :
    Option Nat -> Option Pipeline
  | none => some pipeline
  | some status => pipeline.step server.platform (.refuse status)

/-- The end of `OnData` behind its loop. -/
def conclude (refusal : Option Nat) : Option Session :=
  (session.permit server).bind fun pipeline =>
    (refuse server pipeline refusal).map fun pipeline =>
      { session with
        pipeline := pipeline
        parser := { session.parser with wantContinue := false } }.returned

/-- Call the handler on a request. -/
def serve
    (request : Incoming)
    (last : Bool) : Option Session :=
  (session.pipeline.step server.platform
    (.receive request.toRequest)).map fun pipeline =>
      { session with
        pipeline := pipeline
        parsing := none
        lastRequest := last
        servedLate := session.servedLate || decide session.Ended }

/-- The start of `OnData`: the parser of the connection, or a new one, and the
bytes it is to parse.  A connection that opens with the HTTP/2 preface leaves
HTTP/1. -/
def receive (data : Bytes) :
    Session :=
  let session :=
    if session.attached then session
    else { session with attached := true, parser := {}, sniffed := false }
  if session.sniffed || server.disableHTTP2 then
    { session with sniffed := true, parsing := some data }
  else
    let parser : Parser := { session.parser with
      buffer := session.parser.buffer ++ data }
    let count := min parser.buffer.length h2Preface.length
    if parser.buffer.take count = h2Preface.take count then
      { session with
        parser := parser
        http2 := decide (count = h2Preface.length) }.returned
    else
      { session with
        parser := parser.takeBuffered.1
        sniffed := true
        parsing := some parser.takeBuffered.2 }

/-- One turn of the loop of `OnData`, up to the call of the handler. -/
def parse (data : Bytes) :
    Option Session :=
  match session.parser.feedOne server.config.limits server.reader data with
  | (parser, .error .panic) =>
    some { session with
      parser := parser
      parsing := none
      reading := false
      closing := true }
  | (parser, .error (.error error)) =>
    { session with parser := parser }.conclude server
      (some (errorStatus error))
  | (parser, .ok none) =>
    { session with parser := parser }.conclude server none
  | (parser, .ok (some request)) =>
    let session := { session with parser := parser }
    match checkRequest request with
    | some status => session.conclude server (some status)
    | none =>
      match server.upgrade request with
      | .none => session.serve server request false
      | .declined => session.serve server request true
      | .switched =>
        some { session with
          http2 := true
          servedLate := session.servedLate || decide session.Ended
          }.returned

/-- The handler has returned: the response is finished, and `OnData` goes on
with the bytes the parser holds unless the connection ends with the
response. -/
def resume (index : Nat) :
    Option Session := do
  let pipeline <- session.pipeline.step server.platform .handlerReturns
  let context <- pipeline.contexts[index]?
  let served := { session with
    pipeline := pipeline
    closeServed := session.closeServed || context.request.close }
  if session.lastRequest || context.request.close || context.closing then
    some served.returned
  else if session.parser.buffer = [] then served.conclude server none
  else some { served with parsing := some [] }

end

def step
    (bufferSize : Nat)
    (session : Session) :
    SessionEvent -> Option Session
  | .beginRound =>
    if session.reading = false ∧ session.Idle ∧ session.closing = false then
      some { session with reading := true, filled := false }
    else none
  | .endRound =>
    if session.reading = true ∧ session.Idle then
      some { session with reading := false }
    else none
  | .onData data =>
    if session.reading = true ∧ session.Idle ∧ session.http2 = false ∧
        data ≠ [] ∧ data.length ≤ bufferSize then
      some ({ session with
        filled := decide (data.length = bufferSize) }.receive server data)
    else none
  | .parse => session.parsing.bind fun data => session.parse server data
  | .act index act =>
    (session.pipeline.step server.platform (.act index act)).map
      fun pipeline => { session with pipeline := pipeline }
  | .handlerReturns => session.pipeline.serving.bind (session.resume server)
  | .handlerPanics =>
    if session.pipeline.serving = none then none
    else
      some { session with
        pipeline := { session.pipeline with serving := none }
        lastRequest := false
        reading := false
        closing := true }
  | .close => some { session with
      closing := true
      pipeline := { session.pipeline with
        conn := { session.pipeline.conn with isOpen := false } } }
  | .onClose => some { session with attached := false, http2 := false }

/-- A connection that has been opened. -/
def start
    (sends flushes : List Bool)
    (files : List FileOutcome) :
    Session where
  pipeline := Pipeline.start sends flushes files

end

end Session

/-- A call that does not end the connection: it sets a header or a status, or
it writes an interim response or a whole one that lets the connection go on. -/
def Act.continues (context : Context) : Act -> Bool
  | .call (.setHeader _) | .call (.writeHeader _) | .writeInterim _ _ => true
  | .writeResponse response =>
    !(response.close || context.request.close ||
      headerHasToken response.header (ascii "Connection") (ascii "close"))
  | .respond _ _ _ => !context.request.close
  | .call _ | .finish => false

namespace Session

/-- The read that brought the last request was short, nothing has arrived since
the connection ended, and while a round reads the connection only the response
to the request being served ends it. -/
def Contained
    (session : Session)
    (event : SessionEvent) : Prop :=
  (session.Ended -> session.filled = false) ∧
    match event with
    | .beginRound => ¬session.Ended
    | .act index act =>
      session.reading = false ∨ session.pipeline.serving = some index ∨
        session.pipeline.contexts[index]?.all act.continues = true
    | _ => True

instance (session : Session) (event : SessionEvent) :
    Decidable (session.Contained event) := by
  unfold Contained
  cases event <;> infer_instance

/-- While `OnData` runs, only the response to the request being served can
have ended the connection; once it has ended the read loop goes on only after a
read that filled the buffer. -/
structure Bounded (session : Session) : Prop where
  punctual : session.servedLate = false
  exclusive : session.parsing = none ∨ session.pipeline.serving = none
  running : ¬session.Idle -> session.reading = true
  ending :
    session.Idle -> session.Ended -> session.reading = true -> session.filled = true
  own :
    ¬session.Idle ->
      session.closeServed = false ∧
        ∀ index context, session.pipeline.contexts[index]? = some context ->
          context.closing = true -> session.pipeline.serving = some index

variable {session : Session}

theorem Bounded.of_idle
    (punctual : session.servedLate = false)
    (idle : session.Idle)
    (ending : session.Ended -> session.reading = true -> session.filled = true) :
    session.Bounded :=
  ⟨punctual, .inl idle.1, fun busy => absurd idle busy, fun _ => ending,
    fun busy => absurd idle busy⟩

/-- The read loop stops behind `OnData` after a short read. -/
theorem filled_of_returned
    (goesOn : session.returned.reading = true) :
    session.returned.filled = true :=
  (Bool.and_eq_true_iff.mp goesOn).2

theorem not_ended_iff (session : Session) :
    ¬session.Ended ↔ session.closeServed = false ∧
      ∀ context ∈ session.pipeline.contexts, context.closing = false := by
  unfold Ended
  simp only [not_or, Bool.not_eq_true, not_exists, not_and]

/-- Before a request is taken up nothing has ended the connection. -/
theorem Bounded.not_ended
    (bounded : session.Bounded)
    (parsing : session.parsing = some data) :
    session.pipeline.serving = none ∧ ¬session.Ended := by
  have busy : session.parsing ≠ none := by
    rw [parsing]
    exact nofun
  have free := bounded.exclusive.resolve_left busy
  refine ⟨free, ?_⟩
  obtain ⟨unserved, own⟩ := bounded.own fun idle => busy idle.1
  rw [not_ended_iff]
  refine ⟨unserved, fun context present => ?_⟩
  obtain ⟨index, found⟩ := List.mem_iff_getElem?.mp present
  by_contra closing
  rw [Bool.not_eq_false] at closing
  have serving := own index context found closing
  rw [free] at serving
  cases serving

/-- A session in which nothing has ended the connection. -/
theorem Bounded.of_not_ended
    (punctual : session.servedLate = false)
    (exclusive : session.parsing = none ∨ session.pipeline.serving = none)
    (running : ¬session.Idle -> session.reading = true)
    (going : ¬session.Ended) :
    session.Bounded := by
  refine ⟨punctual, exclusive, running, fun _ ended => absurd ended going, fun _ => ?_⟩
  rw [not_ended_iff] at going
  refine ⟨going.1, ?_⟩
  intro index context found closing
  rw [going.2 context (List.mem_of_getElem? found)] at closing
  cases closing

/-! ## What the steps of the pipeline do to the contexts -/

section Pipeline

variable {platform : Platform} {pipeline after : Pipeline}

theorem receive_pipeline
    (taken : pipeline.step platform (.receive request) = some after) :
    pipeline.serving = none ∧ after.contexts = pipeline.contexts ++
        [{ conn := pipeline.conn, request := request }] := by
  simp only [Pipeline.step] at taken
  split at taken
  · next free =>
    cases taken
    exact ⟨free, rfl⟩
  · cases taken

/-- A call on a context leaves every other context alone. -/
theorem call_pipeline (taken : pipeline.call platform index act = some after) :
    after.serving = pipeline.serving ∧
      ∃ context, after.contexts = pipeline.contexts.set index context := by
  unfold Pipeline.call at taken
  split at taken
  · cases taken
  · obtain ⟨context, _, rfl⟩ := Option.map_eq_some_iff.mp taken
    exact ⟨rfl, context, rfl⟩

/-- A call that continues the connection leaves its end as it was. -/
theorem closing_act
    {context next : Context}
    {act : Act}
    (continues : act.continues context = true)
    (called : context.act platform act = some next) :
    next.closing = context.closing := by
  have interim (status : Nat) (header : Header) :
      (context.writeInterim status header).1.closing = context.closing := by
    unfold Context.writeInterim
    repeat' split
    all_goals rfl
  have whole (response : Response) (goesOn : (response.close || context.request.close ||
      headerHasToken response.header (ascii "Connection") (ascii "close")) = false) :
      (context.writeResponse platform response).1.closing = context.closing := by
    unfold Context.writeResponse
    simp only [goesOn, Bool.false_eq_true, if_false]
    repeat' split
    all_goals rfl
  cases act with
  | call call =>
    obtain ⟨⟨_, _⟩, performed, rfl⟩ := Option.map_eq_some_iff.mp called
    cases call with
    | setHeader header =>
      cases performed
      rfl
    | writeHeader status =>
      obtain ⟨set, isSet, same⟩ := Option.map_eq_some_iff.mp performed
      cases same
      unfold Context.writeHeader at isSet
      split_ifs at isSet
      all_goals cases isSet
      · rfl
      · exact interim _ _
      · rfl
    | write _ | flush | readFrom _ => cases continues
  | writeResponse response =>
    cases called
    exact whole response (by simpa [Act.continues] using continues)
  | respond status contentType body =>
    cases called
    refine whole _ ?_
    have absent : Header.values (if contentType = [] then ∅
        else (∅ : Header).insert (ascii "Content-Type") [contentType])
        (ascii "Connection") = [] := by
      split
      · rfl
      · rw [values_insert, if_neg (by decide)]
        rfl
    simp only [headerHasToken, absent, List.any_nil, Bool.or_false, Bool.false_or]
    simpa [Act.continues] using continues
  | writeInterim status header =>
    cases called
    exact interim status header
  | finish => cases continues

theorem closings_call
    {act : Act}
    (continues : pipeline.contexts[index]?.all act.continues = true)
    (taken : pipeline.call platform index act = some after) :
    after.contexts.map Context.closing = pipeline.contexts.map Context.closing := by
  unfold Pipeline.call at taken
  split at taken
  · cases taken
  · next context found =>
    obtain ⟨next, called, rfl⟩ := Option.map_eq_some_iff.mp taken
    rw [found] at continues
    have same : next.closing = context.closing :=
      @closing_act _ { context with conn := { pipeline.conn with wire := [] } } _ _
        continues called
    obtain ⟨inside, rfl⟩ := List.getElem?_eq_some_iff.mp found
    dsimp only
    rw [List.map_set, same, ← List.getElem_map Context.closing (h := by simpa using inside),
      List.set_getElem_self]

theorem closing_before_call
    {act : Act}
    {position : Nat}
    {context : Context}
    (continues : pipeline.contexts[index]?.all act.continues = true)
    (taken : pipeline.call platform index act = some after)
    (here : after.contexts[position]? = some context)
    (closing : context.closing = true) :
    ∃ earlier, pipeline.contexts[position]? = some earlier ∧ earlier.closing = true := by
  have flag : (after.contexts.map Context.closing)[position]? = some true := by
    rw [List.getElem?_map, here, Option.map_some, closing]
  rw [closings_call continues taken, List.getElem?_map] at flag
  exact Option.map_eq_some_iff.mp flag

theorem handlerReturns_pipeline
    (taken : pipeline.step platform .handlerReturns = some after) :
    ∃ index, pipeline.serving = some index ∧ after.serving = none ∧
      ∃ context, after.contexts = pipeline.contexts.set index context := by
  simp only [Pipeline.step] at taken
  split at taken
  · cases taken
  · next index serving =>
    obtain ⟨called, call, rfl⟩ := Option.map_eq_some_iff.mp taken
    exact ⟨index, serving, rfl, (call_pipeline call).2⟩

theorem sendContinue_pipeline
    (taken : pipeline.step platform .sendContinue = some after) :
    after.serving = none := by
  simp only [Pipeline.step] at taken
  split at taken
  · next free =>
    cases taken
    exact free
  · cases taken

theorem refuse_pipeline
    (taken : pipeline.step platform (.refuse status) = some after) :
    after.serving = none := by
  simp only [Pipeline.step] at taken
  split at taken
  · next free => exact (call_pipeline taken).1.trans free
  · cases taken

end Pipeline

/-! ## Steps -/

section Steps

variable {server : ServerHandler} {session after : Session}

/-- `OnData` does not run behind its end. -/
theorem Bounded.conclude
    (punctual : session.servedLate = false)
    (free : session.pipeline.serving = none)
    (taken : session.conclude server refusal = some after) :
    after.Bounded := by
  obtain ⟨permitted, continued, taken⟩ := Option.bind_eq_some_iff.mp taken
  obtain ⟨refused, answered, rfl⟩ := Option.map_eq_some_iff.mp taken
  refine .of_idle punctual ⟨rfl, ?_⟩ fun _ => filled_of_returned
  have permittedFree : permitted.serving = none := by
    unfold permit at continued
    split at continued
    · exact sendContinue_pipeline continued
    · cases continued
      exact free
  cases refusal with
  | none =>
    cases answered
    exact permittedFree
  | some status => exact refuse_pipeline answered

/-- A request is taken up while nothing has ended the connection. -/
theorem Bounded.serve
    (punctual : session.servedLate = false)
    (running : session.reading = true)
    (going : ¬session.Ended)
    (taken : session.serve server request last = some after) :
    after.Bounded := by
  obtain ⟨pipeline, received, rfl⟩ := Option.map_eq_some_iff.mp taken
  apply Bounded.of_not_ended
  · rw [punctual, decide_eq_false going]
    rfl
  · exact .inl rfl
  · exact fun _ => running
  rw [not_ended_iff] at going ⊢
  refine ⟨going.1, fun context present => ?_⟩
  rw [(receive_pipeline received).2] at present
  rcases List.mem_append.mp present with earlier | new
  · exact going.2 context earlier
  · rw [List.mem_singleton.mp new]

theorem Bounded.parse
    (bounded : session.Bounded)
    (waiting : session.parsing = some data)
    (taken : session.parse server data = some after) :
    after.Bounded := by
  have punctual := bounded.punctual
  obtain ⟨free, going⟩ := bounded.not_ended waiting
  have running : session.reading = true := bounded.running fun idle => by
    rw [idle.1] at waiting
    cases waiting
  unfold Session.parse at taken
  split at taken
  · cases taken
    exact .of_idle punctual ⟨rfl, free⟩ fun _ => nofun
  · exact .conclude (by exact punctual) (by exact free) taken
  · exact .conclude (by exact punctual) (by exact free) taken
  split at taken
  · exact .conclude (by exact punctual) (by exact free) taken
  split at taken
  · exact .serve (by exact punctual) (by exact running) (by exact going) taken
  · exact .serve (by exact punctual) (by exact running) (by exact going) taken
  cases taken
  refine .of_idle ?_ ⟨rfl, free⟩ fun _ => filled_of_returned
  change (session.servedLate || decide session.Ended) = false
  rw [punctual, decide_eq_false going]
  rfl

/-- After a response that does not end the connection nothing has. -/
theorem Bounded.resume
    (bounded : session.Bounded)
    (serving : session.pipeline.serving = some index)
    (taken : session.resume server index = some after) :
    after.Bounded := by
  have punctual := bounded.punctual
  have busy : ¬session.Idle := by
    intro idle
    rw [idle.2] at serving
    cases serving
  obtain ⟨unserved, own⟩ := bounded.own busy
  unfold Session.resume at taken
  simp only [Option.bind_eq_bind, Option.bind_eq_some_iff] at taken
  obtain ⟨pipeline, returned, context, found, taken⟩ := taken
  obtain ⟨same, sameServing, free, context', contexts⟩ :=
    handlerReturns_pipeline returned
  obtain rfl : index = same :=
    Option.some.inj (serving.symm.trans sameServing)
  split at taken
  · cases taken
    exact .of_idle punctual ⟨rfl, free⟩ fun _ => filled_of_returned
  next goesOn =>
  simp only [Bool.or_eq_true, not_or, Bool.not_eq_true] at goesOn
  split at taken
  · exact .conclude (by exact punctual) (by exact free) taken
  cases taken
  refine .of_not_ended punctual (.inr free) (fun _ => bounded.running busy) ?_
  rw [not_ended_iff]
  refine ⟨by simp [unserved, goesOn], ?_⟩
  intro other present
  obtain ⟨position, here⟩ := List.mem_iff_getElem?.mp present
  by_cases same : position = index
  · rw [same, found] at here
    cases here
    exact goesOn.2
  -- Another context was not closing when the handler returned.
  rw [contexts, List.getElem?_set_ne (Ne.symm same)] at here
  by_contra closing
  rw [Bool.not_eq_false] at closing
  have other := own position other here closing
  rw [serving, Option.some.injEq] at other
  exact same other.symm

theorem Bounded.act
    {index : Nat}
    {act : Act}
    {pipeline : Pipeline}
    (bounded : session.Bounded)
    (contained : session.Contained (.act index act))
    (taken : session.pipeline.step server.platform (.act index act) = some pipeline) :
    Bounded { session with pipeline := pipeline } := by
  obtain ⟨sameServing, changed, contexts⟩ := call_pipeline taken
  have sameIdle : Idle { session with pipeline := pipeline } ↔ session.Idle := by
    simp only [Idle, sameServing]
  obtain resting | serving | continues := contained.2
  · -- No round reads the connection, so `OnData` does not run either.
    have idle : session.Idle := by
      by_contra busy
      rw [bounded.running busy] at resting
      cases resting
    refine .of_idle bounded.punctual (sameIdle.mpr idle) fun _ reading => ?_
    cases resting.symm.trans reading
  · have busy : ¬session.Idle := by
      rintro ⟨-, free⟩
      rw [free] at serving
      cases serving
    obtain ⟨unserved, own⟩ := bounded.own busy
    refine ⟨bounded.punctual, bounded.exclusive.imp_right sameServing.trans,
      fun _ => bounded.running busy, fun idle => absurd (sameIdle.mp idle) busy,
      fun _ => ⟨unserved, fun position context here closing => ?_⟩⟩
    by_cases same : position = index
    · rw [same]
      exact sameServing.trans serving
    · rw [contexts, List.getElem?_set_ne (Ne.symm same)] at here
      exact sameServing.trans (own position context here closing)
  · -- A call that does not end the connection leaves every flag as it was.
    refine ⟨bounded.punctual, bounded.exclusive.imp_right sameServing.trans,
      fun busy => bounded.running (mt sameIdle.mpr busy), fun idle ended => ?_, fun busy => ?_⟩
    · refine bounded.ending (sameIdle.mp idle) (ended.imp_right ?_)
      rintro ⟨context, present, closing⟩
      obtain ⟨position, here⟩ := List.mem_iff_getElem?.mp present
      obtain ⟨earlier, found, wasClosing⟩ :=
        closing_before_call continues taken here closing
      exact ⟨earlier, List.mem_of_getElem? found, wasClosing⟩
    · obtain ⟨unserved, own⟩ := bounded.own (mt sameIdle.mpr busy)
      refine ⟨unserved, fun position context here closing => ?_⟩
      obtain ⟨earlier, found, wasClosing⟩ :=
        closing_before_call continues taken here closing
      exact sameServing.trans (own position earlier found wasClosing)

end Steps

/-- `OnData` begins while nothing has ended the connection. -/
theorem Bounded.receive
    (punctual : session.servedLate = false)
    (free : session.pipeline.serving = none)
    (running : session.reading = true)
    (going : ¬session.Ended)
    (server : ServerHandler)
    (data : Bytes) :
    (session.receive server data).Bounded := by
  have same : ∀ next : Session, next.servedLate = session.servedLate ->
      next.closeServed = session.closeServed ->
      next.pipeline = session.pipeline ->
      (next.parsing ≠ none -> next.reading = true) -> next.Bounded := by
    intro next sameLate sameServed samePipeline reading
    refine .of_not_ended (sameLate.trans punctual)
      (.inr (by rw [samePipeline]; exact free))
      (fun busy => reading fun none => busy ⟨none, by rw [samePipeline]; exact free⟩) ?_
    rw [not_ended_iff] at going ⊢
    rw [sameServed, samePipeline]
    exact going
  unfold Session.receive
  dsimp only
  split <;> split <;> try split
  all_goals exact same _ rfl rfl rfl (by first | exact fun _ => running | exact absurd rfl)

theorem Bounded.step
    (bounded : session.Bounded)
    (contained : session.Contained event)
    (taken : session.step server bufferSize event = some after) :
    after.Bounded := by
  have punctual := bounded.punctual
  cases event with
  | beginRound =>
    simp only [Session.step] at taken
    split at taken
    · next ready =>
      cases taken
      exact .of_idle punctual ready.2.1 fun ended => absurd ended contained.2
    · cases taken
  | endRound =>
    simp only [Session.step] at taken
    split at taken
    · next ready =>
      cases taken
      exact .of_idle punctual ready.2 fun _ => nofun
    · cases taken
  | onData data =>
    simp only [Session.step] at taken
    split at taken
    · next ready =>
      -- The read loop goes on, so the last read filled the buffer.
      have going : ¬session.Ended := fun ended => by
        have short := contained.1 ended
        rw [bounded.ending ready.2.1 ended ready.1] at short
        cases short
      cases taken
      exact .receive (by exact punctual) (by exact ready.2.1.2) (by exact ready.1)
        (by exact going) server data
    · cases taken
  | parse =>
    obtain ⟨data, waiting, parsed⟩ := Option.bind_eq_some_iff.mp taken
    exact bounded.parse waiting parsed
  | act index act =>
    obtain ⟨pipeline, called, rfl⟩ := Option.map_eq_some_iff.mp taken
    exact bounded.act contained called
  | handlerReturns =>
    obtain ⟨index, serving, resumed⟩ := Option.bind_eq_some_iff.mp taken
    exact bounded.resume serving resumed
  | handlerPanics =>
    simp only [Session.step] at taken
    split at taken
    · cases taken
    · next busy =>
      cases taken
      exact .of_idle punctual ⟨bounded.exclusive.resolve_right busy, rfl⟩ fun _ => nofun
  | close | onClose =>
    cases taken
    exact ⟨punctual, bounded.exclusive, bounded.running, bounded.ending, bounded.own⟩

end Session

end Http
end Fib
