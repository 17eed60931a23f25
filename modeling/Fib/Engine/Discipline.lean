import Fib.Engine.Machine

/-!
# What a goroutine still owes, read off its stack

The sections left on a stack say what a goroutine is going to do: a round of
a worker stands at the bottom of its stack, whatever writes or reads stands
above the section that takes its error, and only the event loop carries out
commands.  This module states that discipline as a Boolean check of a stack
and proves that every section keeps it, with the effect of the two longest
sections, a send and one iteration of a flush, stated once.
-/

namespace Fib
namespace Engine

open Goroutines

namespace Section

/-- The part of `process` that stands at the bottom of a worker's stack. -/
def isRound : Section -> Bool
  | .process _ | .roundOut _ | .roundPri _ | .roundIn _ | .roundEnd _ _ => true
  | _ => false

/-- A round that has met an error and reaches this section closes the
connection. -/
def closesRound : Section -> Bool
  | .roundPri _ | .roundIn _ | .roundEnd _ _ => true
  | _ => false

/-- What an application call does with the error of its flush. -/
def returnsFlush : Section -> Bool
  | .closeOnError | .returnFlush => true
  | _ => false

/-- What only the event loop does. -/
def isLoop : Section -> Bool
  | .noteEvent _ | .drainCommands | .refreshConnection | .redeliverRead
  | .setReadPaused _ | .closeConnection _ | .resumeBudgetPaused
  | .resumeOne | .submitReady | .refused => true
  | _ => false

def isSetReadPaused : Section -> Bool
  | .setReadPaused _ => true
  | _ => false

def isCloseWithError : Section -> Bool
  | .closeWithError _ => true
  | _ => false

def isUncork : Section -> Bool
  | .uncork => true
  | _ => false

def isRead : Section -> Bool
  | .read => true
  | _ => false

def isFlushStep : Section -> Bool
  | .flushStep => true
  | _ => false

/-- A request for a refresh not yet in the command queue. -/
def asksRefresh : Section -> Bool
  | .request .refresh => true
  | _ => false

/-- The section leads to a flush if output is queued. -/
def owesFlush : Section -> Bool
  | .flushOutput | .flushStep => true
  | .roundOut events => events.evOut
  | _ => false

/-- The section leads to a read, or to one being handed on. -/
def owesRead (config : Config) : Section -> Bool
  | .process deferred => deferred.evIn
  | .roundOut events | .roundPri events | .roundIn events => events.evIn
  | .roundEnd _ deferred => deferred.evIn
  | .read | .stall => true
  | .watermark n | .watermarkAgain n | .recork n =>
    decide (config.readBufferSize ≤ n)
  | _ => false

/-- The loop is about to report bytes that wait in the socket. -/
def resumesRead : Section -> Bool
  | .redeliverRead => true
  | .setReadPaused paused => !paused
  | _ => false

/-- The loop is about to arm read interest. -/
def rearms : Section -> Bool
  | .setReadPaused paused => !paused
  | _ => false

def isRefreshConnection : Section -> Bool
  | .refreshConnection => true
  | _ => false

/-- The section may change what is known of waiting input. -/
def touchesInput : Section -> Bool
  | .request _ | .process _ | .cork | .read | .stall | .noteEvent _
  | .drainCommands | .refreshConnection | .redeliverRead
  | .setReadPaused _ => true
  | _ => false

/-- The section may change what is known of queued output. -/
def touchesOutput : Section -> Bool
  | .send _ _ | .sendParts _ _ | .sendFile _ | .uncork | .flushOutput
  | .flushStep | .returnFlush | .process _ | .cork | .recork _
  | .noteEvent _ | .redeliverRead | .closeConnection _ => true
  | _ => false

/-- The section may change who owns the connection. -/
def touchesOwner : Section -> Bool
  | .process _ | .noteEvent _ | .redeliverRead | .submitReady
  | .recovered | .refused => true
  | _ => false

/-- What a section relies on below it. -/
def placed : Section -> List Section -> Bool
  | .process deferred, rest => rest.isEmpty && !deferred.evOut
  | .roundOut _, rest | .roundPri _, rest | .roundIn _, rest => rest.isEmpty
  | .roundEnd _ deferred, rest => rest.isEmpty && !deferred.evOut
  | .flushOutput, rest | .flushStep, rest | .uncork, rest =>
    rest.any closesRound || rest.any returnsFlush
  | .cork, rest =>
    rest.any isRead && rest.any isUncork && rest.any closesRound
  | .read, rest | .onData, rest | .watermark _, rest
  | .watermarkAgain _, rest | .recork _, rest =>
    rest.any isUncork && rest.any closesRound
  | .stall, rest => rest.any asksRefresh && rest.any closesRound
  | .recvOOB, rest | .onPriorityData, rest => rest.any closesRound
  | .recovered, _ | .refused, _ => false
  | _, _ => true

end Section

/-- A stack every section of which finds below it what it relies on. -/
def disciplined : List Section -> Bool
  | [] => true
  | first :: rest =>
    first.placed rest && !rest.any Section.isSetReadPaused &&
      disciplined rest

@[simp] theorem disciplined_cons
    (first : Section)
    (rest : List Section) :
    disciplined (first :: rest) = (first.placed rest && !rest.any Section.isSetReadPaused &&
        disciplined rest) := rfl

variable {first : Section} {rest : List Section}

theorem placed_of_disciplined (formed : disciplined (first :: rest) = true) :
    first.placed rest = true := by
  rw [disciplined_cons, Bool.and_eq_true, Bool.and_eq_true] at formed
  exact formed.1.1

/-- A round stands at the bottom of its stack. -/
theorem eq_nil_of_isRound
    (formed : disciplined (first :: rest) = true)
    (round : first.isRound = true) :
    rest = [] := by
  cases first with
  | process _ | roundOut _ | roundPri _ | roundIn _ | roundEnd _ _ =>
    simp_all [Section.placed]
  | _ => simp [Section.isRound] at round

/-- Sections of the loop that rely on nothing below them. -/
theorem disciplined_append_of_free
    (free : ∀ first ∈ pushed, (∀ below, first.placed below = true) ∧
      first.isSetReadPaused = false)
    (below : disciplined rest = true)
    (settled : rest.any Section.isSetReadPaused = false) :
    disciplined (pushed ++ rest) = true ∧ (pushed ++ rest).any Section.isSetReadPaused = false := by
  induction pushed with
  | nil => exact ⟨below, settled⟩
  | cons first pushed ih =>
    obtain ⟨formed, quiet⟩ := ih fun other present => free other (List.mem_cons_of_mem _ present)
    obtain ⟨anywhere, notSetting⟩ := free first List.mem_cons_self
    rw [List.cons_append, disciplined_cons, List.any_cons]
    simp only [anywhere, notSetting, formed, quiet]
    simp

/-! ## The effect of a send -/

/-- What a send call can do: it changes the queue and what the socket took,
and leaves output queued that nobody waits for only if it was told that the
socket is full. -/
structure SendEffect
    (world : World)
    (locals : Locals)
    (outcome : Result) :
    Prop where
  shared : ∃ queue pendingBytes full wire accepted,
    outcome.shared =
        { world with
          conn :=
            { world.conn with queue := queue, pendingBytes := pendingBytes }
          full := full
          wire := wire
          accepted := accepted } ∧
      (world.full = true -> full = true) ∧
      (queue.isEmpty = false -> world.conn.queue.isEmpty = false ∨
        full = true ∨ world.conn.flushing = true ∨ world.conn.corked = true)
  next : outcome.next = [] ∨ outcome.next = [.request .refresh] ∨
    ∃ err, outcome.next = [.closeWithError err]
  unwind : outcome.unwind = false
  locals : outcome.locals = locals ∨ ∃ err, outcome.locals = locals.fail err

theorem refreshIfChanged_cases
    (config : Config)
    (answer : Answer)
    (c : Connection) :
    refreshIfChanged config answer c = [] ∨
      refreshIfChanged config answer c = [.request .refresh] := by
  unfold refreshIfChanged
  split <;> simp

variable {config : Config} {answer : Answer} {world : World} {locals : Locals}
variable {outcome : Result}

/-- How a send ends: with nothing sent, with everything on the socket, or with the rest queued. -/
inductive SendOutcome
    (offered : Bytes)
    (enqueue : Nat -> Nat -> SendQueue -> SendQueue)
    (answer : Answer)
    (world : World)
    (locals : Locals) : Result -> Prop
  | idle (after : Locals) (next : List Section) :
      after = locals ∨ (∃ err, after = locals.fail err) ->
      next = [] ∨ (∃ err, next = [.closeWithError err]) ->
      SendOutcome offered enqueue answer world locals
        { shared := world, locals := after, next := next }
  | whole : world.conn.sendClosed = false -> world.conn.queue.isEmpty = true ->
      SendOutcome offered enqueue answer world locals
        { shared := { world with
            wire := world.wire ++ offered
            accepted := world.accepted ++ [offered] }
          locals := locals
          next := [] }
  | queued (sent : Nat) (blocked : Bool) (next : List Section) :
      world.conn.sendClosed = false ->
      sent ≤ offered.length ∧ (world.conn.queue.isEmpty = true ∨ sent = 0) ->
      blocked = true ∨ world.conn.queue.isEmpty = false ∨ world.conn.flushing = true ∨
        world.conn.corked = true ->
      next = [] ∨ next = [.request .refresh] ->
      SendOutcome offered enqueue answer world locals
        { shared := { world with
            conn := ({ world.conn with
                queue := enqueue sent answer.capacity world.conn.queue }
              |>.addPending (offered.length - sent))
            full := world.full || blocked
            wire := world.wire ++ offered.take sent
            accepted := world.accepted ++ [offered] }
          locals := locals
          next := next }

theorem sendWith_outcome
    (executed : sendWith config offered enqueue answer world locals = some outcome) :
    SendOutcome offered enqueue answer world locals outcome := by
  have asks (c : Connection) : (if c.corked then [] else refreshIfChanged config answer c) = [] ∨
      (if c.corked then [] else refreshIfChanged config answer c) = [.request .refresh] := by
    split
    · exact .inl rfl
    · exact refreshIfChanged_cases config answer c
  unfold sendWith at executed
  dsimp only at executed
  split at executed
  · cases executed
    exact .idle _ _ (.inl rfl) (.inl rfl)
  split at executed
  · cases executed
    exact .idle _ _ (.inr ⟨_, rfl⟩) (.inl rfl)
  next notClosed =>
  have opened : world.conn.sendClosed = false := by simpa using notClosed
  split at executed
  · next direct =>
    simp only [Connection.canWriteDirectlyLocked, Bool.and_eq_true] at direct
    split at executed
    · split at executed
      · next short =>
        cases executed
        exact .queued _ true _ opened ⟨Nat.le_of_lt short.2, .inl direct.1.1⟩ (.inl rfl) (asks _)
      split at executed
      · cases executed
        exact .whole opened direct.1.1
      · simp at executed
    · cases executed
      exact .queued 0 true _ opened ⟨Nat.zero_le _, .inr rfl⟩ (.inl rfl) (asks _)
    · cases executed
      exact .idle _ _ (.inr ⟨_, rfl⟩) (.inr ⟨_, rfl⟩)
    · simp at executed
    · simp at executed
  · next waits =>
    cases executed
    refine .queued 0 false _ opened ⟨Nat.zero_le _, .inr rfl⟩ (.inr ?_) (asks _)
    simp only [Connection.canWriteDirectlyLocked] at waits
    grind

theorem sendWith_sendEffect
    (executed : sendWith config offered enqueue answer world locals = some outcome) :
    SendEffect world locals outcome := by
  cases sendWith_outcome executed with
  | idle after next same schedules =>
    refine ⟨⟨_, _, _, _, _, rfl, id, .inl⟩, ?_, rfl, same⟩
    exact schedules.elim .inl fun closes => .inr (.inr closes)
  | whole => exact ⟨⟨_, _, _, _, _, rfl, id, .inl⟩, .inl rfl, rfl, .inl rfl⟩
  | queued sent blocked next opened bounded waits asks =>
    refine ⟨⟨_, _, _, _, _, rfl, by simp_all, ?_⟩, asks.imp_right .inl, rfl, .inl rfl⟩
    rcases waits with waiting | waiting | waiting | waiting <;> simp [waiting]

theorem send_sendEffect
    (executed : exec config (.send data copyData) answer world locals = some outcome) :
    SendEffect world locals outcome := by
  rw [exec] at executed
  exact sendWith_sendEffect executed

theorem sendParts_sendEffect
    {first second : Bytes}
    (executed : exec config (.sendParts first second) answer world locals = some outcome) :
    SendEffect world locals outcome := by
  rw [exec] at executed
  exact sendWith_sendEffect executed

/-! ## The effect of one iteration of a flush -/

/-- What one iteration of a flush can do: go on, stop with the queue empty or
the socket full, or fail. -/
inductive FlushEffect
    (world : World)
    (locals : Locals) : Result -> Prop
  | goesOn (queue : SendQueue) (pendingBytes : Int) (wire : Bytes) :
      FlushEffect world locals
        { shared :=
            { world with
              conn :=
                { world.conn with
                  queue := queue, pendingBytes := pendingBytes }
              wire := wire }
          locals := locals
          next := [.flushStep] }
  | stops (queue : SendQueue) (pendingBytes : Int) (full : Bool)
      (wire : Bytes) (next : List Section) :
      (world.full = true -> full = true) ->
      queue.isEmpty = true ∨ full = true ->
      next = [] ∨ next = [.request .refresh] ∨ next = [.closeAfterSent] ->
      FlushEffect world locals
        { shared :=
            { world with
              conn :=
                { world.conn with
                  queue := queue
                  pendingBytes := pendingBytes
                  flushing := false }
              full := full
              wire := wire }
          locals := locals
          next := next }
  | fails (err : Err) :
      FlushEffect world locals
        { shared := { world with conn := { world.conn with flushing := false } }
          locals := locals.fail err
          next := [] }

theorem flushStep_flushEffect
    (executed : flushStep config answer world locals = some outcome) :
    FlushEffect world locals outcome := by
  have refreshes (c : Connection) :
      refreshIfChanged config answer c = [] ∨
        refreshIfChanged config answer c = [.request .refresh] ∨
        refreshIfChanged config answer c = [.closeAfterSent] := by
    rcases refreshIfChanged_cases config answer c with none | asks
    · exact .inl none
    · exact .inr (.inl asks)
  unfold flushStep at executed
  simp only at executed
  split at executed
  · cases executed
    refine .stops _ _ _ _ _ id (.inl ?_) ?_
    · exact SendQueue.isEmpty_empty
    · split
      · exact .inr (.inr rfl)
      · exact refreshes _
  split at executed
  · simp at executed
  · split at executed
    · cases executed
      split
      · exact .stops _ _ _ _ _ (fun _ => rfl) (.inr rfl) (refreshes _)
      · exact .stops _ _ _ _ _ (fun _ => rfl) (.inr rfl) (refreshes _)
    cases executed
    split
    · exact .goesOn _ _ _
    · exact .goesOn _ _ _
  · cases executed
    exact .goesOn _ _ _
  · cases executed
    exact .stops _ _ _ _ _ (fun _ => rfl) (.inr rfl) (refreshes _)
  · cases executed
    exact .fails _

/-! ## What a section leaves alone -/

/-- Nothing known of waiting input has changed. -/
structure SameInput (before after : World) : Prop where
  unread : after.unread = before.unread
  readEdge : after.readEdge = before.readEdge
  readArmed : after.readArmed = before.readArmed
  pendingEvents : after.conn.pendingEvents = before.conn.pendingEvents
  readPaused : after.conn.readPaused = before.conn.readPaused
  readStalled : after.conn.readStalled = before.conn.readStalled
  commands : after.commands = before.commands

/-- Nothing known of queued output has changed. -/
structure SameOutput (before after : World) : Prop where
  queue : after.conn.queue = before.conn.queue
  flushing : after.conn.flushing = before.conn.flushing
  corked : after.conn.corked = before.conn.corked
  full : after.full = before.full
  writeEdge : after.writeEdge = before.writeEdge
  flushFailed : after.flushFailed = before.flushFailed
  pendingEvents : after.conn.pendingEvents = before.conn.pendingEvents

/-- The owner of the connection is the same. -/
structure SameOwner (before after : World) : Prop where
  scheduled : after.conn.scheduled = before.conn.scheduled
  ready : after.ready = before.ready
  redeliver : after.redeliver = before.redeliver
  tasks : after.tasks = before.tasks

/-- Each section leaves alone the parts it does not touch, and none reopens
the connection. -/
structure Frame
    (first : Section)
    (before after : World) : Prop where
  input : first.touchesInput = false -> SameInput before after
  output : first.touchesOutput = false -> SameOutput before after
  owner : first.touchesOwner = false -> SameOwner before after
  opened : after.conn.isOpen = true -> before.conn.isOpen = true

theorem SendEffect.frame
    (sends : first.touchesOutput = true)
    (effect : SendEffect world locals outcome) :
    Frame first world outcome.shared := by
  obtain ⟨queue, pendingBytes, full, wire, accepted, shared, -⟩ :=
    effect.shared
  rw [shared]
  refine ⟨fun _ => ?_, fun other => ?_, fun _ => ?_, id⟩
  · exact ⟨rfl, rfl, rfl, rfl, rfl, rfl, rfl⟩
  · rw [sends] at other
    exact absurd other (by simp)
  · exact ⟨rfl, rfl, rfl, rfl⟩

theorem FlushEffect.frame (effect : FlushEffect world locals outcome) :
    Frame .flushStep world outcome.shared := by
  cases effect with
  | _ =>
    refine ⟨fun _ => ?_, fun other => ?_, fun _ => ?_, id⟩
    · exact ⟨rfl, rfl, rfl, rfl, rfl, rfl, rfl⟩
    · exact absurd other (by simp [Section.touchesOutput])
    · exact ⟨rfl, rfl, rfl, rfl⟩

theorem exec_frame
    (executed : exec config first answer world locals = some outcome) :
    Frame first world outcome.shared := by
  cases first with
  | send data copyData => exact (send_sendEffect executed).frame rfl
  | sendParts first second => exact (sendParts_sendEffect executed).frame rfl
  | flushStep => exact (flushStep_flushEffect executed).frame
  | _ =>
    simp only [exec, sendFile, closeAfterSendRaw, closeWithError, uncork,
      flushOutput, process, roundOut, roundPri, roundIn, roundEnd, recvOOB,
      callback, cork, read, watermark, watermarkAgain, stall, recork,
      unschedule, noteEvent, Connection.noteEvent, drainCommands,
      refreshConnection, redeliverRead, setReadPaused, closeConnection,
      resumeBudgetPaused, resumeOne, submitReady, continueWith]
      at executed
    repeat' split at executed
    all_goals
      first
        | (cases executed
           refine ⟨?_, ?_, ?_, ?_⟩
           · first
               | exact fun _ => ⟨rfl, rfl, rfl, rfl, rfl, rfl, rfl⟩
               | (intro other
                  exact absurd other (by simp [Section.touchesInput]))
           · first
               | exact fun _ => ⟨rfl, rfl, rfl, rfl, rfl, rfl, rfl⟩
               | (intro other
                  exact absurd other (by simp [Section.touchesOutput]))
           · first
               | exact fun _ => ⟨rfl, rfl, rfl, rfl⟩
               | (intro other
                  exact absurd other (by simp [Section.touchesOwner]))
           · simp [Connection.isOpen])
        | simp at executed

/-! ## Every section keeps the discipline -/

theorem exec_disciplined
    (calm : answer.panics = false ∧ answer.refuses = false)
    (formed : disciplined (first :: rest) = true)
    (executed : exec config first answer world locals = some outcome) :
    outcome.unwind = false ∧ disciplined (outcome.next ++ rest) = true := by
  obtain ⟨placed, settled, below⟩ : first.placed rest = true ∧
      rest.any Section.isSetReadPaused = false ∧
      disciplined rest = true := by
    simpa [and_assoc] using formed
  have single (pushed : Section) (free : pushed.placed rest = true) :
      disciplined ([pushed] ++ rest) = true := by
    rw [List.singleton_append, disciplined_cons, free, settled, below]
    rfl
  cases first with
  | send data copyData =>
    obtain ⟨-, next, unwind, -⟩ := send_sendEffect executed
    refine ⟨unwind, ?_⟩
    rcases next with next | next | ⟨err, next⟩ <;> rw [next]
    · exact below
    · exact single _ rfl
    · exact single _ rfl
  | sendParts first second =>
    obtain ⟨-, next, unwind, -⟩ := sendParts_sendEffect executed
    refine ⟨unwind, ?_⟩
    rcases next with next | next | ⟨err, next⟩ <;> rw [next]
    · exact below
    · exact single _ rfl
    · exact single _ rfl
  | flushStep =>
    cases flushStep_flushEffect executed with
    | goesOn => exact ⟨rfl, formed⟩
    | stops _ _ _ _ _ _ _ next =>
      refine ⟨rfl, ?_⟩
      rcases next with next | next | next <;> rw [next]
      · exact below
      · exact single _ rfl
      · exact single _ rfl
    | fails => exact ⟨rfl, below⟩
  | drainCommands =>
    cases executed
    refine ⟨rfl, (disciplined_append_of_free ?_ below settled).1⟩
    intro pushed present
    obtain ⟨command, -, rfl⟩ := List.mem_map.mp present
    cases command <;> exact ⟨fun _ => rfl, rfl⟩
  | resumeBudgetPaused =>
    simp only [exec, resumeBudgetPaused, continueWith] at executed
    split at executed
    all_goals
      cases executed
      refine ⟨rfl, (disciplined_append_of_free ?_ below settled).1⟩
      intro pushed present
      simp only [List.not_mem_nil, List.mem_replicate] at present
    rw [present.2]
    exact ⟨fun _ => rfl, rfl⟩
  | submitReady =>
    simp only [exec, submitReady, continueWith, calm, Option.some.injEq,
      Bool.false_eq_true, if_false] at executed
    subst executed
    exact ⟨rfl, below⟩
  | recovered | refused => simp [Section.placed] at placed
  | _ =>
    simp only [exec, sendFile, closeAfterSendRaw, closeWithError, uncork,
      flushOutput, process, roundOut, roundPri, roundIn, roundEnd, recvOOB,
      callback, cork, read, readOn, watermark, watermarkAgain, stall,
      recork, noteEvent, refreshConnection, redeliverRead, setReadPaused,
      closeConnection, resumeOne, calm, Bool.false_eq_true, if_false,
      continueWith] at executed
    repeat' split at executed
    all_goals
      first
        | (cases executed
           simp only [Section.placed] at placed
           refine ⟨rfl, ?_⟩
           simp only [List.nil_append, List.cons_append, disciplined_cons,
             settled, below, Section.placed, List.any_cons,
             Section.isSetReadPaused, Section.closesRound,
             Section.returnsFlush, Section.isRead, Section.isUncork,
             Section.asksRefresh, deferredRead] <;> grind)
        | simp at executed

/-! ## Errors, rounds, flushes and reads -/

/-- What every section does about errors, rounds, flushes and reads. -/
structure Conduct
    (first : Section)
    (world : World)
    (locals : Locals)
    (outcome : Result) :
    Prop where
  /-- Only sections of the loop push sections of the loop. -/
  loop : outcome.next.any Section.isLoop = true -> first.isLoop = true
  /-- A flush in progress has its next iteration on some stack. -/
  flushing : outcome.shared.conn.flushing = true ->
    (world.conn.flushing = true ∧ first.isFlushStep = false) ∨
      outcome.next.any Section.isFlushStep = true
  /-- Only a read that begins or goes on corks. -/
  corked : outcome.shared.conn.corked = true ->
    (world.conn.corked = true ∧ first.isUncork = false) ∨ first = .cork ∨ ∃ n, first = .recork n
  closing : .closeAfterSent ∈ outcome.next -> first = .closeAfterSendRaw ∨ first = .flushStep
  unread : outcome.shared.unread ≤ world.unread
  readPaused : first.isRefreshConnection = false ->
    outcome.shared.conn.readPaused = world.conn.readPaused
  /-- Only a refresh pushes the registration of read interest, and it
  registers what the refresh decided. -/
  pausing : ∀ paused, .setReadPaused paused ∈ outcome.next ->
    outcome.shared.conn.readPaused = paused
  /-- A round goes on until the head of its loop gives up, and no other
  section begins one. -/
  round : (∀ deferred, first ≠ .process deferred) ->
    outcome.next.any Section.isRound = first.isRound
  /-- An error stays with the goroutine that met it until its next round. -/
  failed : (∀ deferred, first ≠ .process deferred) ->
    (locals.usable = false -> outcome.locals.usable = false) ∧
      (locals.err.isSome = true -> outcome.locals.err.isSome = true)

theorem failed_fail
    (locals : Locals)
    (err : Err) :
    (locals.fail err).usable = false ∧ (locals.fail err).err.isSome = true := by
  simp [Locals.fail, Locals.usable]

theorem SendEffect.conduct
    (effect : SendEffect world locals outcome)
    (noRound : first.isRound = false)
    (noFlush : first.isFlushStep = false)
    (noUncork : first.isUncork = false) :
    Conduct first world locals outcome := by
  obtain ⟨⟨_, _, _, _, _, shared, -⟩, next, -, same⟩ := effect
  have plain : outcome.next.any Section.isLoop = false ∧
      outcome.next.any Section.isRound = false ∧ .closeAfterSent ∉ outcome.next ∧
      ∀ paused, .setReadPaused paused ∉ outcome.next := by
    rcases next with next | next | ⟨_, next⟩ <;> simp [next, Section.isLoop, Section.isRound]
  constructor
  case round => simp [plain, noRound]
  case failed => rcases same with same | ⟨_, same⟩ <;> simp [same, failed_fail]
  all_goals simp +contextual [shared, plain, noFlush, noUncork]

theorem FlushEffect.conduct (effect : FlushEffect world locals outcome) :
    Conduct .flushStep world locals outcome := by
  cases effect with
  | goesOn =>
    constructor <;>
      simp +contextual [Section.isLoop, Section.isRound, Section.isFlushStep, Section.isUncork]
  | stops _ _ _ _ _ _ _ next =>
    rcases next with rfl | rfl | rfl
    all_goals constructor <;> simp +contextual [Section.isLoop, Section.isRound, Section.isUncork]
  | fails => constructor <;> simp +contextual [failed_fail, Section.isRound, Section.isUncork]

theorem exec_conduct
    (executed : exec config first answer world locals = some outcome) :
    Conduct first world locals outcome := by
  cases first with
  | send data copyData => exact (send_sendEffect executed).conduct rfl rfl rfl
  | sendParts first second => exact (sendParts_sendEffect executed).conduct rfl rfl rfl
  | flushStep => exact (flushStep_flushEffect executed).conduct
  | drainCommands =>
    cases executed
    have carriesOut (command : Command) : (commandSection command).isRound = false ∧
        commandSection command ≠ .closeAfterSent ∧
        ∀ paused, commandSection command ≠ .setReadPaused paused := by
      cases command <;> simp [commandSection, Section.isRound]
    constructor
    case round =>
      have idle : Section.drainCommands.isRound = false := rfl
      simp [carriesOut, idle]
    all_goals simp +contextual [carriesOut, Section.isLoop, Section.isFlushStep, Section.isUncork]
  | refreshConnection =>
    cases executed
    constructor
    case round =>
      intro _
      rw [List.any_append]
      split <;> split <;> rfl
    all_goals
      simp +contextual [Section.isLoop, Section.isFlushStep, Section.isUncork,
        Section.isRefreshConnection]
  | _ =>
    simp only [exec, sendFile, closeAfterSendRaw, closeWithError, uncork,
      flushOutput, process, roundOut, roundPri, roundIn, roundEnd, roundError,
      recvOOB, callback, cork, read, readOn, watermark, watermarkAgain, stall,
      recork, unschedule, noteEvent, Connection.noteEvent, redeliverRead, setReadPaused,
      closeConnection, resumeBudgetPaused, resumeOne, submitReady, continueWith] at executed
    repeat' split at executed
    all_goals
      first
        | (cases executed
           constructor <;> simp +contextual [Section.isLoop, Section.isRound, Section.isFlushStep,
             Section.isUncork, failed_fail])
        | simp at executed

/-! ## Rounds and owners -/

/-- Connections handed to the pool that no worker has begun. -/
def World.runs (world : World) : Nat :=
  world.ready + world.redeliver + world.tasks

/-- How a section changes the owner of the connection. -/
inductive OwnerEffect
    (before after : World)
    (round roundAfter : Bool) : Prop
  | keeps :
      after.runs = before.runs ->
      after.conn.scheduled = before.conn.scheduled ->
      roundAfter = round ->
      OwnerEffect before after round roundAfter
  | givesUp :
      after.runs = before.runs ->
      after.conn.scheduled = false ->
      round = true ->
      roundAfter = false ->
      OwnerEffect before after round roundAfter
  | submits :
      after.runs = before.runs + 1 ->
      before.conn.scheduled = false ->
      after.conn.scheduled = true ->
      roundAfter = round ->
      OwnerEffect before after round roundAfter
  | takes :
      before.runs = after.runs + 1 ->
      after.conn.scheduled = before.conn.scheduled ->
      roundAfter = true ->
      OwnerEffect before after round roundAfter

theorem SameOwner.ownerEffect
    (same : SameOwner before after)
    (round : Bool) :
    OwnerEffect before after round round := by
  refine .keeps ?_ same.scheduled rfl
  simp only [World.runs, same.ready, same.redeliver, same.tasks]

theorem noteEvent_ownerEffect
    (world : World)
    (events : Events)
    (readEdge writeEdge round again : Bool) :
    OwnerEffect world
      { world with
        conn := (world.conn.noteEvent events).1
        readEdge := readEdge
        writeEdge := writeEdge
        ready := world.ready +
          (if again then 0 else (world.conn.noteEvent events).2.toNat)
        redeliver := world.redeliver +
          (if again then (world.conn.noteEvent events).2.toNat else 0) }
      round round := by
  cases submit : (world.conn.noteEvent events).2 with
  | false =>
    refine .keeps ?_ ?_ rfl
    · simp [World.runs]
    · simp only [Connection.noteEvent] at submit ⊢
      grind
  | true =>
    have unowned : world.conn.scheduled = false ∧
        (world.conn.noteEvent events).1.scheduled = true := by
      simp only [Connection.noteEvent] at submit ⊢
      grind
    refine .submits ?_ unowned.1 unowned.2 rfl
    cases again <;> simp [World.runs] <;> omega

theorem exec_ownerEffect
    (calm : answer.panics = false ∧ answer.refuses = false)
    (formed : disciplined (first :: rest) = true)
    (executed : exec config first answer world locals = some outcome) :
    OwnerEffect world outcome.shared ((first :: rest).any Section.isRound)
      ((outcome.next ++ rest).any Section.isRound) := by
  have placed := placed_of_disciplined formed
  have sameRound (other : ∀ deferred, first ≠ .process deferred) :
      (outcome.next ++ rest).any Section.isRound = (first :: rest).any Section.isRound := by
    rw [List.any_append, List.any_cons, (exec_conduct executed).round other]
  cases first with
  | process deferred =>
    obtain rfl := eq_nil_of_isRound formed rfl
    simp only [exec, process, continueWith] at executed
    split at executed
    · cases executed
      exact .givesUp rfl rfl rfl rfl
    · cases executed
      exact .keeps rfl rfl rfl
  | noteEvent events =>
    rw [sameRound (by simp)]
    cases executed
    simpa using noteEvent_ownerEffect world events _ _ _ false
  | redeliverRead =>
    rw [sameRound (by simp)]
    cases executed
    simpa using noteEvent_ownerEffect world { evIn := true } _ _ _ true
  | submitReady =>
    simp only [exec, submitReady, continueWith, calm, Option.some.injEq,
      Bool.false_eq_true, if_false] at executed
    subst executed
    refine .keeps ?_ rfl rfl
    simp only [World.runs]
    omega
  | recovered | refused => simp [Section.placed] at placed
  | _ =>
    rw [sameRound (by simp)]
    exact ((exec_frame executed).owner rfl).ownerEffect _

/-! ## Errors are acted on -/

/-- A worker that has met an error and will close the connection. -/
def failing
    (stack : List Section)
    (locals : Locals) : Bool :=
  (!locals.usable && stack.any Section.closesRound) ||
    (stack.any Section.isRound && stack.any Section.isCloseWithError)

theorem any_append_of_any_cons
    (idle : property first = false)
    (holds : (first :: rest).any property = true) :
    (next ++ rest).any property = true := by
  rw [List.any_cons, idle, Bool.false_or] at holds
  rw [List.any_append, holds, Bool.or_true]

theorem exec_failing
    (formed : disciplined (first :: rest) = true)
    (executed : exec config first answer world locals = some outcome)
    (opened : outcome.shared.conn.isOpen = true)
    (fails : failing (first :: rest) locals = true) :
    failing (outcome.next ++ rest) outcome.locals = true := by
  have passedOn (other : ∀ deferred, first ≠ .process deferred)
      (notClosing : first.closesRound = false)
      (notClose : first.isCloseWithError = false) :
      failing (outcome.next ++ rest) outcome.locals = true := by
    have conduct := exec_conduct executed
    have keeps := (conduct.failed other).1
    have round := conduct.round other
    simp only [failing, Bool.or_eq_true, Bool.and_eq_true, Bool.not_eq_true'] at fails ⊢
    rcases fails with ⟨unusable, closes⟩ | ⟨round', close⟩
    · exact .inl ⟨keeps unusable, any_append_of_any_cons notClosing closes⟩
    · refine .inr ⟨?_, any_append_of_any_cons notClose close⟩
      rw [List.any_append, round]
      exact round'
  cases first with
  | process deferred =>
    obtain rfl := eq_nil_of_isRound formed rfl
    simp [failing, Section.closesRound, Section.isCloseWithError] at fails
  | closeWithError err =>
    cases executed
    simp [Connection.isOpen] at opened
  | roundPri events | roundIn events =>
    obtain rfl := eq_nil_of_isRound formed rfl
    cases executed
    simp_all [failing, Section.closesRound, Section.isCloseWithError]
  | roundEnd events deferred =>
    obtain rfl := eq_nil_of_isRound formed rfl
    have unusable : locals.usable = false := by
      simpa [failing, Section.closesRound, Section.isCloseWithError] using fails
    simp only [exec, roundEnd, roundError, continueWith, unusable,
      Bool.false_and, Bool.false_eq_true, if_false, Option.some.injEq]
      at executed
    subst executed
    simp [failing, Section.isRound, Section.isCloseWithError]
  | _ => exact passedOn (by simp) rfl rfl

end Engine
end Fib
