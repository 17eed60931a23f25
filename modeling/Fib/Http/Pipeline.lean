import Fib.Http.Streaming

/-!
# Pipelined requests and the order of their answers

The server takes the requests of one connection up one after the other, and
moves on as soon as a handler returns.  A handler may keep its context and
answer later, from any goroutine.  The log records what was put on the
connection and for which request.
-/

namespace Fib
namespace Http

/-- One call on the context of a request. -/
inductive Act where
  | call (call : Call)
  | writeResponse (response : Response)
  | respond (status : Nat) (contentType body : Bytes)
  | writeInterim (status : Nat) (header : Header)
  | finish

namespace Context

/-- The context as a call leaves it; no result stands for a panic. -/
def act
    (platform : Platform)
    (context : Context) : Act -> Option Context
  | .call call => (context.perform platform call).map Prod.fst
  | .writeResponse response => some (context.writeResponse platform response).1
  | .respond status contentType body =>
    some (context.respond platform status contentType body).1
  | .writeInterim status header => some (context.writeInterim status header).1
  | .finish => some (context.finish platform).1

end Context

/-- What one step put on the connection, for the request of that number, and
whether the final response to it was complete with that. -/
structure Piece where
  request : Nat
  bytes : Bytes
  completes : Bool
deriving DecidableEq, Repr

/-- A connection that serves HTTP/1 requests. -/
structure Pipeline where
  conn : Conn
  contexts : List Context
  /-- `OnData` is inside the handler of this request. -/
  serving : Option Nat
  log : List Piece

/-- What can happen on the connection. -/
inductive Event where
  /-- `OnData` has parsed a request and calls the handler. -/
  | receive (request : Request)
  /-- A goroutine calls a method of the context of a request. -/
  | act (index : Nat) (act : Act)
  /-- The handler that `OnData` called returns, and the response is
  finished. -/
  | handlerReturns
  /-- `OnData` refuses the next request with an error response. -/
  | refuse (status : Nat)
  /-- `OnData` lets the next request send its body. -/
  | sendContinue
  /-- The connection ends. -/
  | close

/-- The response with which `OnData` refuses a request. -/
def errorResponse (status : Nat) : Response where
  statusCode := status
  header := (∅ : Header).insert (ascii "Content-Type")
    [ascii "text/plain; charset=utf-8"]
  body := statusText status ++ ascii "\n"
  trailer := ∅
  close := true

/-- The request in whose name an error response is written. -/
def errorRequest : Request where
  method := []
  protoMajor := 1
  protoMinor := 1
  close := false

namespace Pipeline

/-- Add to the log what a call put on the connection. -/
def record
    (pipeline : Pipeline)
    (index : Nat)
    (answered : Bool)
    (after : Context) : List Piece :=
  let completes := pipeline.conn.isOpen && !answered && after.wrote
  if after.conn.wire = [] ∧ completes = false then pipeline.log
  else pipeline.log ++ [⟨index, after.conn.wire, completes⟩]

/-- Call a method of a context. -/
def call
    (platform : Platform)
    (pipeline : Pipeline)
    (index : Nat)
    (act : Act) : Option Pipeline :=
  match pipeline.contexts[index]? with
  | none => none
  | some context =>
    let before := { context with conn := { pipeline.conn with wire := [] } }
    (before.act platform act).map fun after =>
      { pipeline with
        conn := after.conn
        contexts := pipeline.contexts.set index after
        log := pipeline.record index context.wrote after }

/-- A new context for the next request. -/
def begin
    (pipeline : Pipeline)
    (request : Request) : Pipeline :=
  { pipeline with
    contexts := pipeline.contexts ++
      [{ conn := pipeline.conn, request := request }] }

def step
    (platform : Platform)
    (pipeline : Pipeline) : Event -> Option Pipeline
  | .receive request =>
    if pipeline.serving = none then
      some { pipeline.begin request with
        serving := some pipeline.contexts.length }
    else none
  | .act index act => pipeline.call platform index act
  | .handlerReturns =>
    match pipeline.serving with
    | none => none
    | some index =>
      (pipeline.call platform index .finish).map fun after =>
        { after with serving := none }
  | .refuse status =>
    if pipeline.serving = none then
      (pipeline.begin errorRequest).call platform pipeline.contexts.length
        (.writeResponse (errorResponse status))
    else none
  | .sendContinue =>
    if pipeline.serving = none then
      let conn := ({ pipeline.conn with wire := [] }.send
        (ascii "HTTP/1.1 100 Continue\r\n\r\n")).1
      some { pipeline with
        conn := conn
        log :=
          if conn.wire = [] then pipeline.log
          else pipeline.log ++
            [⟨pipeline.contexts.length, conn.wire, false⟩] }
    else none
  | .close =>
    some { pipeline with conn := { pipeline.conn with isOpen := false } }

/-- A connection before its first request. -/
def start
    (sends flushes : List Bool)
    (files : List FileOutcome) :
    Pipeline where
  conn := { sends := sends, files := files, flushes := flushes }
  contexts := []
  serving := none
  log := []

/-- The pieces on the wire belong to the requests in their order, and the
final responses are those to the first, the second and so on. -/
def InOrder (pipeline : Pipeline) : Prop :=
  (pipeline.log.map Piece.request).Pairwise (· ≤ ·) ∧
    (pipeline.log.filter Piece.completes).map Piece.request =
      List.range (pipeline.log.filter Piece.completes).length

instance (pipeline : Pipeline) : Decidable pipeline.InOrder :=
  inferInstanceAs (Decidable (_ ∧ _))

end Pipeline

/-! ## Calls on a closed connection, and on an answered request -/

namespace Context

/-- No call puts anything on a closed connection. -/
theorem quiet_act
    {context after : Context}
    {act : Act}
    (called : context.act platform act = some after) :
    context.conn.Quiet after.conn := by
  cases act with
  | call call =>
    rw [Context.act, Option.map_eq_some_iff] at called
    obtain ⟨⟨next, accepted⟩, performed, rfl⟩ := called
    cases call with
    | setHeader header =>
      simp only [perform, Option.some.injEq, Prod.mk.injEq] at performed
      exact performed.1 ▸ .refl _
    | writeHeader status =>
      simp only [perform, Option.map_eq_some_iff, Prod.mk.injEq] at performed
      obtain ⟨next, set, rfl, -⟩ := performed
      unfold writeHeader at set
      have interim := context.quiet_writeInterim status context.w.header
      split at set
      · simp at set
      split at set
      · exact Option.some.inj set ▸ .refl _
      split at set
      · exact Option.some.inj set ▸ interim
      · exact Option.some.inj set ▸ .refl _
    | write data =>
      simp only [perform, Option.some.injEq, Prod.mk.injEq] at performed
      exact performed.1 ▸ context.quiet_write platform data
    | flush =>
      simp only [perform, Option.some.injEq, Prod.mk.injEq] at performed
      exact performed.1 ▸ context.quiet_flushError platform
    | readFrom source =>
      simp only [perform, Option.some.injEq, Prod.mk.injEq] at performed
      exact performed.1 ▸ context.quiet_readFrom platform source
  | writeResponse _ | respond _ _ _ =>
    exact Option.some.inj called ▸ context.quiet_writeResponse platform _
  | writeInterim status header =>
    exact Option.some.inj called ▸ context.quiet_writeInterim status header
  | finish => exact Option.some.inj called ▸ context.quiet_finish platform

/-- A request that was answered gets nothing more. -/
theorem act_of_wrote
    {context after : Context}
    {platform : Platform}
    {act : Act}
    (answered : context.wrote = true)
    (called : context.act platform act = some after) :
    after.conn = context.conn ∧ after.wrote = true := by
  cases act with
  | call call =>
    rw [Context.act, Option.map_eq_some_iff] at called
    obtain ⟨⟨next, accepted⟩, performed, rfl⟩ := called
    cases call <;> simp only [perform, writeHeader, write, flushError, readFrom, answered,
        true_or, if_true, Option.some.injEq, Prod.mk.injEq,
        Option.map_eq_some_iff] at performed
    case setHeader => exact performed.1 ▸ ⟨rfl, rfl⟩
    case writeHeader =>
      obtain ⟨_, set, rfl, -⟩ := performed
      split at set
      · simp at set
      · exact Option.some.inj set ▸ ⟨rfl, answered⟩
    all_goals exact performed.1 ▸ ⟨rfl, answered⟩
  | writeInterim status header =>
    simp only [Context.act, writeInterim, answered, true_or, if_true, Option.some.injEq] at called
    split at called <;> exact called ▸ ⟨rfl, answered⟩
  | writeResponse _ | respond _ _ _ | finish =>
    simp only [Context.act, respond, writeResponse, finish, answered, or_true, if_true,
      Option.some.injEq] at called
    exact called ▸ ⟨rfl, answered⟩

end Context

/-! ## The order of the answers -/

namespace Pipeline

/-- The first `count` requests have got their final responses, and the log
speaks of at most one more. -/
structure Logged
    (log : List Piece)
    (count : Nat) : Prop where
  sorted : (log.map Piece.request).Pairwise (· ≤ ·)
  bound : ∀ piece ∈ log, piece.request ≤ count
  completed : (log.filter Piece.completes).map Piece.request = List.range count

/-- The first `count` requests have been answered, and at most one more has
been taken up. -/
structure Caught
    (contexts : List Context)
    (count : Nat) : Prop where
  answered : ∀ index context, contexts[index]? = some context ->
    (context.wrote = true ↔ index < count)
  near : contexts.length ≤ count + 1
  within : count ≤ contexts.length

/-- The answers are in order, and while the connection is open the requests
are answered one after the other. -/
def Orderly (pipeline : Pipeline) : Prop :=
  pipeline.InOrder ∧
    (pipeline.conn.isOpen = true ->
      ∃ count, Logged pipeline.log count ∧ Caught pipeline.contexts count)

variable {pipeline : Pipeline}
variable {count : Nat}

/-- The log grows by a piece for the first request that is not answered. -/
theorem Logged.append
    {log : List Piece}
    (logged : Logged log count)
    (piece : Piece)
    (next : piece.request = count) :
    Logged (log ++ [piece]) (if piece.completes then count + 1 else count) := by
  constructor
  case sorted =>
    rw [List.map_append, List.pairwise_append]
    refine ⟨logged.sorted, by simp, ?_⟩
    intro first present second last
    obtain ⟨earlier, among, rfl⟩ := List.mem_map.mp present
    rw [List.map_singleton, List.mem_singleton] at last
    rw [last, next]
    exact logged.bound earlier among
  case bound =>
    intro other among
    rcases List.mem_append.mp among with before | last
    · have bound := logged.bound other before
      split <;> omega
    · rw [List.mem_singleton.mp last, next]
      split <;> omega
  case completed =>
    rw [List.filter_append, List.map_append, logged.completed]
    cases completes : piece.completes with
    | true => simp [completes, next, List.range_succ]
    | false => simp [completes]

theorem Logged.inOrder
    (logged : Logged pipeline.log count) :
    pipeline.InOrder := by
  refine ⟨logged.sorted, ?_⟩
  have length := congrArg List.length logged.completed
  rw [List.length_map, List.length_range] at length
  rw [logged.completed, length]

/-- A context that replaces another is answered when its request is among
those that are counted. -/
theorem Caught.set
    {contexts : List Context}
    {context next : Context}
    {index counted : Nat}
    (caught : Caught contexts count)
    (present : contexts[index]? = some context)
    (grows : count ≤ counted)
    (most : counted ≤ max count (index + 1))
    (here : next.wrote = true ↔ index < counted) :
    Caught (contexts.set index next) counted := by
  have inside := (List.getElem?_eq_some_iff.mp present).1
  obtain ⟨answered, near, within⟩ := caught
  constructor
  case answered =>
    intro other context found
    rw [List.getElem?_set] at found
    by_cases isIndex : index = other
    · subst isIndex
      rw [if_pos rfl, if_pos inside] at found
      exact Option.some.inj found ▸ here
    · rw [if_neg isIndex] at found
      rw [answered other context found]
      omega
  all_goals
    rw [List.length_set]
    omega

/-- A call on a context keeps the answers in order. -/
theorem Orderly.call
    {pipeline after : Pipeline}
    (orderly : pipeline.Orderly)
    (called : pipeline.call platform index act = some after) :
    after.Orderly := by
  unfold Pipeline.call at called
  split at called
  · simp at called
  next context present =>
  rw [Option.map_eq_some_iff] at called
  obtain ⟨next, acted, rfl⟩ := called
  have quiet := Context.quiet_act acted
  have silent := fun wrote => @Context.act_of_wrote
    { context with conn := { pipeline.conn with wire := [] } } _ _ _ wrote
    acted
  cases isOpen : pipeline.conn.isOpen with
  | false =>
    obtain ⟨closed, sameWire⟩ := quiet isOpen
    have sameLog : pipeline.record index context.wrote next = pipeline.log := by
      simp [record, sameWire, isOpen]
    refine ⟨?_, fun stillOpen => ?_⟩
    · rw [sameLog]
      exact orderly.1
    · exact absurd (closed.symm.trans stillOpen) (by decide)
  | true =>
    obtain ⟨count, logged, caught⟩ := orderly.2 isOpen
    have isAnswered := caught.answered index context present
    by_cases wrote : context.wrote = true
    · obtain ⟨sameConn, stays⟩ := silent wrote
      have sameLog : pipeline.record index context.wrote next = pipeline.log := by
        simp [record, sameConn, wrote]
      rw [sameLog]
      exact ⟨orderly.1, fun _ => ⟨count, logged, caught.set present (le_refl _)
        (le_max_left _ _) (iff_of_true stays (isAnswered.mp wrote))⟩⟩
    have isNext : index = count := by
      have inside := (List.getElem?_eq_some_iff.mp present).1
      have near := caught.near
      have notYet : ¬index < count := by
        rwa [← isAnswered]
      omega
    subst isNext
    have counted : Caught (pipeline.contexts.set index next)
        (if next.wrote then index + 1 else index) :=
      caught.set present (by split <;> omega) (by split <;> omega) (by split <;> simp_all)
    have logs : Logged (pipeline.record index context.wrote next)
        (if next.wrote then index + 1 else index) := by
      by_cases nothing : next.conn.wire = [] ∧ next.wrote = false
      · have sameLog : pipeline.record index context.wrote next = pipeline.log := by
          simp [record, nothing]
        rw [sameLog, nothing.2]
        exact logged
      · have grown : pipeline.record index context.wrote next =
            pipeline.log ++ [⟨index, next.conn.wire, next.wrote⟩] := by
          simp [record, isOpen, wrote, nothing]
        rw [grown]
        exact logged.append ⟨index, next.conn.wire, next.wrote⟩ rfl
    exact ⟨logs.inOrder, fun _ => ⟨_, logs, counted⟩⟩

theorem Orderly.serving
    (orderly : pipeline.Orderly)
    (serving : Option Nat) :
    Orderly { pipeline with serving := serving } :=
  orderly

/-- The next request is taken up when every earlier one has been answered,
or when nothing can be sent any more. -/
def Patient (pipeline : Pipeline) : Event -> Prop
  | .receive _ | .refuse _ | .sendContinue =>
    (∀ context ∈ pipeline.contexts, context.wrote = true) ∨
      pipeline.conn.isOpen = false
  | .act _ _ | .handlerReturns | .close => True

/-- When every request is answered, all are counted. -/
theorem Caught.count_eq
    (caught : Caught pipeline.contexts count)
    (all : ∀ context ∈ pipeline.contexts, context.wrote = true) :
    count = pipeline.contexts.length := by
  refine le_antisymm caught.within ?_
  by_contra fewer
  rw [not_le] at fewer
  have present := List.getElem?_eq_getElem fewer
  have answered := (caught.answered count _ present).mp (all _ (List.getElem_mem fewer))
  omega

theorem Orderly.begin
    (orderly : pipeline.Orderly)
    (patient : (∀ context ∈ pipeline.contexts, context.wrote = true) ∨
      pipeline.conn.isOpen = false)
    (request : Request) :
    (pipeline.begin request).Orderly := by
  refine ⟨orderly.1, fun isOpen => ?_⟩
  have all := patient.resolve_right fun closed =>
    absurd (closed.symm.trans isOpen) (by decide)
  obtain ⟨count, logged, caught⟩ := orderly.2 isOpen
  have whole := caught.count_eq all
  refine ⟨count, logged, ?_, ?_, ?_⟩
  · intro index context present
    simp only [Pipeline.begin] at present
    by_cases earlier : index < pipeline.contexts.length
    · rw [List.getElem?_append_left earlier] at present
      exact caught.answered index context present
    rw [List.getElem?_append_right (by omega), List.getElem?_singleton] at present
    split at present
    · exact Option.some.inj present ▸ iff_of_false (by simp) (by omega)
    · simp at present
  all_goals
    simp only [Pipeline.begin, List.length_append, List.length_singleton]
    omega

theorem Orderly.sendContinue
    (orderly : pipeline.Orderly)
    (patient : (∀ context ∈ pipeline.contexts, context.wrote = true) ∨
      pipeline.conn.isOpen = false)
    {conn : Conn}
    (quiet : pipeline.conn.isOpen = false -> conn.isOpen = false ∧ conn.wire = []) :
    Orderly { pipeline with
      conn := conn
      log :=
        if conn.wire = [] then pipeline.log
        else pipeline.log ++ [⟨pipeline.contexts.length, conn.wire, false⟩] } := by
  cases isOpen : pipeline.conn.isOpen with
  | false =>
    obtain ⟨closed, nothing⟩ := quiet isOpen
    rw [if_pos nothing]
    exact ⟨orderly.1, fun stillOpen =>
      absurd (closed.symm.trans stillOpen) (by decide)⟩
  | true =>
    obtain ⟨count, logged, caught⟩ := orderly.2 isOpen
    have whole := caught.count_eq (patient.resolve_right fun closed =>
      absurd (closed.symm.trans isOpen) (by decide))
    split
    · exact ⟨orderly.1, fun _ => ⟨count, logged, caught⟩⟩
    · have logs := logged.append ⟨pipeline.contexts.length, conn.wire, false⟩ whole.symm
      exact ⟨logs.inOrder, fun _ => ⟨count, logs, caught⟩⟩

theorem step_orderly
    {pipeline after : Pipeline}
    (orderly : pipeline.Orderly)
    (patient : pipeline.Patient event)
    (stepped : pipeline.step platform event = some after) :
    after.Orderly := by
  cases event with
  | receive request =>
    simp only [step] at stepped
    split at stepped
    · exact Option.some.inj stepped ▸ (orderly.begin patient request).serving _
    · simp at stepped
  | act index act => exact orderly.call stepped
  | handlerReturns =>
    simp only [step] at stepped
    split at stepped
    · simp at stepped
    · rw [Option.map_eq_some_iff] at stepped
      obtain ⟨next, finished, rfl⟩ := stepped
      exact (orderly.call finished).serving none
  | refuse status =>
    simp only [step] at stepped
    split at stepped
    · exact (orderly.begin patient errorRequest).call stepped
    · simp at stepped
  | sendContinue =>
    simp only [step] at stepped
    split at stepped
    · rw [Option.some.injEq] at stepped
      subst stepped
      exact orderly.sendContinue patient (Conn.quiet_send { pipeline.conn with wire := [] } _)
    · simp at stepped
  | close =>
    cases stepped
    exact ⟨orderly.1, fun isOpen => absurd isOpen (by simp)⟩

end Pipeline

/-- On a connection that takes up the next request only when the earlier ones
have been answered, the answers are in the order of the requests. -/
theorem answers_are_in_order
    (platform : Platform)
    (sends flushes : List Bool)
    (files : List FileOutcome)
    (events : List Event)
    (pipeline : Pipeline)
    (patient : Transition.Meets (Pipeline.step platform) Pipeline.Patient
      (Pipeline.start sends flushes files) events)
    (reached : Transition.run (Pipeline.step platform)
      (Pipeline.start sends flushes files) events = some pipeline) :
    pipeline.InOrder := by
  refine (Transition.run_invariant_of_meets
    (fun before event after => Pipeline.step_orderly) ?_ patient reached).1
  refine ⟨⟨List.Pairwise.nil, rfl⟩, fun _ => ⟨0, ⟨.nil, nofun, rfl⟩, ?_⟩⟩
  constructor <;> simp [Pipeline.start]

/-- Two requests, the second answered after the first. -/
def oneByOne : List Event :=
  [.receive getRequest,
    .act 0 (.writeResponse (okResponse ∅)), .handlerReturns,
    .receive getRequest,
    .act 1 (.writeResponse (okResponse ∅)), .handlerReturns]

def servedOneByOne : Pipeline :=
  (Transition.run (Pipeline.step epoch) (Pipeline.start [] [] [])
    oneByOne).getD (Pipeline.start [] [] [])

theorem answers_are_in_order_one_by_one : servedOneByOne.InOrder := by
  refine answers_are_in_order epoch [] [] [] oneByOne servedOneByOne ?_ rfl
  refine Transition.meets_cons (.inl (by decide)) rfl ?_
  refine Transition.meets_cons trivial rfl ?_
  refine Transition.meets_cons trivial rfl ?_
  refine Transition.meets_cons (.inl (by decide)) rfl ?_
  refine Transition.meets_cons trivial rfl ?_
  exact Transition.meets_cons trivial rfl trivial

/-- Two pipelined requests; the handler of the first returns and answers
later, the handler of the second answers at once. -/
def answeredLate : List Event :=
  [.receive getRequest, .handlerReturns,
    .receive getRequest,
    .act 1 (.writeResponse (okResponse ∅)), .handlerReturns,
    .act 0 (.writeResponse (okResponse ∅))]

/-- The first response on the wire answers the second request. -/
theorem late_answer_is_out_of_order :
    ((Transition.run (Pipeline.step epoch) (Pipeline.start [] [] [])
      answeredLate).map fun pipeline =>
        (decide pipeline.InOrder, (pipeline.log.filter Piece.completes).map Piece.request)) =
      some (false, [1, 0]) := by
  decide

end Http
end Fib
