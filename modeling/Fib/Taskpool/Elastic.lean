import Fib.Library.Tally
import Fib.Library.Transition

/-!
# The elastic task pool

Any number of goroutines call `submit`, `submitBatch` and `stop`; the workers
that were forked and the dispatcher run the tasks.  Every atomic operation and
every operation of a channel is one step, and only the calls and `stop` take
the lock.  A send gives its task to a receiver that is blocked, if there is
one, and else puts it into the buffer; a receive takes the oldest task of the
buffer, and the task of a blocked sender moves up.
-/

namespace Fib
namespace Taskpool

/-- A task that a call gives to a pool: the call, and its place among the
tasks of the call. -/
structure Job where
  call : Nat
  index : Nat
deriving DecidableEq, Repr

namespace Elastic

/-- The arguments of `newElasticPool`. -/
structure Config where
  maxConcurrent : Nat
  queueSize : Nat
  positive : 0 < maxConcurrent

/-- `maxWorkers`: the dispatcher is the last of the slots. -/
def Config.maxWorkers (config : Config) : Int :=
  config.maxConcurrent - 1

/-! ## Goroutines -/

/-- Where a call of `submit` is. -/
inductive Phase where
  /-- Before the lock. -/
  | entering
  /-- With the lock, before `idle.Load`. -/
  | deciding
  /-- A worker was idle: before the `select`. -/
  | offering
  /-- `fork`, before `active.Load`. -/
  | forking
  /-- `fork`, before the `CompareAndSwap`. -/
  | loaded (active : Int)
  /-- `fork` failed, and the lock is still held. -/
  | queueing
  /-- Before the send, without the lock. -/
  | sending
  /-- Blocked in the send. -/
  | blocked
  /-- The task has been given away, and the lock is still held. -/
  | unlocking
  | returned
deriving DecidableEq, Repr

/-- A call of `submit`, which has one task, or of `submitBatch`: the number of
its tasks, and how many of them `submit` has returned `true` for. -/
structure Call where
  size : Nat
  index : Nat
  phase : Phase
deriving DecidableEq, Repr

/-- `submit` has returned `true`. -/
def Call.next (call : Call) : Call :=
  { call with
    index := call.index + 1
    phase := if call.index + 1 < call.size then .entering else .returned }

/-- A goroutine of `run`. -/
inductive Worker where
  | executing (job : Job)
  /-- The task has returned. -/
  | executed
  /-- Before the `select` with a default. -/
  | polling
  /-- The timer is set, before `idle.Add(1)`. -/
  | idling
  /-- Before the `select` with the timer. -/
  | selecting
  /-- Blocked in that `select`. -/
  | waiting
  | received (job : Job)
  /-- The timer was chosen. -/
  | expired
  /-- Before `active.Add(-1)`. -/
  | leaving
  /-- Before `workerWG.Done`. -/
  | left
  | gone
deriving DecidableEq, Repr

/-- The goroutine of `dispatch`. -/
inductive Dispatcher where
  /-- Before the `select`. -/
  | selecting
  /-- Blocked in the `select`. -/
  | waiting
  /-- `fork`, before `active.Load`. -/
  | received (job : Job)
  /-- `fork`, before the `CompareAndSwap`. -/
  | loaded (job : Job) (active : Int)
  | executing (job : Job)
  | executed
  /-- Before `workerWG.Done`. -/
  | left
  | gone
deriving DecidableEq, Repr

/-- `stopOnce`. -/
inductive Once where
  | fresh
  | running
  | done
deriving DecidableEq, Repr

/-- A call of `stop`. -/
inductive Stop where
  /-- Before `stopOnce.Do`. -/
  | calling
  /-- Before `stopped` is set. -/
  | flagging
  /-- In `taskWG.Wait`. -/
  | draining
  /-- Before the dispatcher's channel is closed. -/
  | closing
  /-- In `workerWG.Wait`. -/
  | awaiting
  /-- In `stopOnce.Do`, which another call runs. -/
  | standing
  | returned
deriving DecidableEq, Repr

/-- `elasticPool` and its goroutines. -/
structure Pool where
  active : Int := 0
  idle : Int := 0
  taskWG : Int := 0
  workerWG : Int := 1
  tasks : List Job := []
  /-- `mu` is held. -/
  locked : Bool := false
  stopped : Bool := false
  /-- `dispatcher` is closed. -/
  closed : Bool := false
  once : Once := .fresh
  dispatcher : Dispatcher := .selecting
  workers : List Worker := []
  calls : List Call := []
  stops : List Stop := []

namespace Pool

/-! ## The channel of tasks -/

/-- A goroutine that may be blocked in a receive. -/
inductive Receiver where
  | dispatcher
  | worker (index : Nat)
deriving DecidableEq, Repr

def waits (pool : Pool) : Receiver -> Bool
  | .dispatcher => pool.dispatcher = .waiting
  | .worker index => pool.workers[index]? = some .waiting

def someWaits (pool : Pool) : Bool :=
  pool.dispatcher = .waiting || pool.workers.any (· = .waiting)

/-- A blocked receiver is given a task. -/
def hand
    (pool : Pool)
    (job : Job) : Receiver -> Pool
  | .dispatcher => { pool with dispatcher := .received job }
  | .worker index =>
    { pool with workers := pool.workers.set index (.received job) }

/-- The task is put into the buffer. -/
def buffer
    (pool : Pool)
    (job : Job) : Pool :=
  { pool with tasks := pool.tasks ++ [job] }

/-- A send on the channel: it is done, or it cannot be done now.  Of the
receivers that are blocked one is served, and it is not for every label to
say which. -/
def send
    (config : Config)
    (pool : Pool)
    (job : Job)
    (receiver : Receiver) :
    Option (Option Pool) :=
  if pool.someWaits then
    if pool.waits receiver then some (some (pool.hand job receiver)) else none
  else if pool.tasks.length < config.queueSize then
    some (some (pool.buffer job))
  else some none

section

variable (pool : Pool)

def someBlocked : Bool :=
  pool.calls.any (·.phase = .blocked)

/-- The call that is blocked in a send. -/
def blockedCall (index : Nat) : Option Call :=
  (pool.calls[index]?).filter (·.phase = .blocked)

/-- A blocked send is done. -/
def unblock
    (index : Nat)
    (call : Call) : Pool :=
  { pool with calls := pool.calls.set index call.next }

/-- The oldest task of the buffer leaves it. -/
def take (rest : List Job) : Pool :=
  { pool with tasks := rest }

/-- A receive on the channel: a task, or nothing now.  Of the senders that are
blocked one is served. -/
def receive (sender : Nat) : Option (Option (Job × Pool)) :=
  if pool.someBlocked then
    match pool.blockedCall sender with
    | none => none
    | some call =>
      match pool.tasks ++ [⟨sender, call.index⟩] with
      | [] => none
      | job :: rest =>
        some (some (job, (pool.unblock sender call).take rest))
  else
    match pool.tasks with
    | [] => some none
    | job :: rest => some (some (job, pool.take rest))

end

/-- What a send that is done has done. -/
inductive Sent
    (config : Config)
    (pool : Pool)
    (job : Job) : Pool -> Prop
  | handed (receiver : Receiver) :
      pool.waits receiver = true ->
      Sent config pool job (pool.hand job receiver)
  | buffered :
      pool.someWaits = false ->
      pool.tasks.length < config.queueSize ->
      Sent config pool job (pool.buffer job)

theorem sent_of_send (done : pool.send config job receiver = some (some sent)) :
    Sent config pool job sent := by
  unfold send at done
  split at done
  · split at done
    · next waits =>
      obtain rfl := Option.some.inj (Option.some.inj done)
      exact .handed receiver waits
    · cases done
  next nobody =>
  split at done
  · next room =>
    obtain rfl := Option.some.inj (Option.some.inj done)
    exact .buffered (Bool.eq_false_of_not_eq_true nobody) room
  · cases Option.some.inj done

/-- What a receive that brings a task has done. -/
inductive Received
    (pool : Pool)
    (job : Job) : Pool -> Prop
  | buffered (rest : List Job) :
      pool.someBlocked = false ->
      pool.tasks = job :: rest ->
      Received pool job (pool.take rest)
  | moved (sender : Nat) (call : Call) (rest : List Job) :
      pool.calls[sender]? = some call ->
      call.phase = .blocked ->
      pool.tasks ++ [⟨sender, call.index⟩] = job :: rest ->
      Received pool job ((pool.unblock sender call).take rest)

theorem received_of_receive
    (done : pool.receive sender = some (some (job, next))) :
    Received pool job next := by
  unfold receive at done
  split at done
  · split at done
    · cases done
    next call isBlocked =>
    obtain ⟨here, blocked⟩ := Option.filter_eq_some_iff.mp isBlocked
    split at done
    · cases done
    · next first rest tasks =>
      cases done
      exact .moved sender call rest here (of_decide_eq_true blocked) tasks
  next free =>
  split at done
  · cases done
  · next first rest tasks =>
    cases done
    exact .buffered rest (Bool.eq_false_of_not_eq_true free) tasks

/-- A receive that brings nothing. -/
theorem empty_of_receive
    {pool : Pool}
    (nothing : pool.receive sender = some none) :
    pool.tasks = [] ∧ pool.someBlocked = false := by
  unfold receive at nothing
  split at nothing
  · split at nothing
    · cases nothing
    · split at nothing
      · cases nothing
      · cases nothing
  · next free =>
    split at nothing
    · next tasks => exact ⟨tasks, Bool.eq_false_of_not_eq_true free⟩
    · cases nothing

/-! ## Calls -/

def setCall
    (pool : Pool)
    (index : Nat)
    (call : Call) : Pool :=
  { pool with calls := pool.calls.set index call }

/-- `active` and `workerWG` are raised, and a worker is started. -/
def fork
    (pool : Pool)
    (job : Job) : Pool :=
  { pool with
    active := pool.active + 1
    workerWG := pool.workerWG + 1
    workers := pool.workers ++ [.executing job] }

/-- The next step of a call of `submit` or `submitBatch`. -/
def stepCall
    (config : Config)
    (pool : Pool)
    (index : Nat)
    (receiver : Receiver) : Option Pool :=
  match pool.calls[index]? with
  | none => none
  | some call =>
    let job : Job := ⟨index, call.index⟩
    let goto (phase : Phase) := { call with phase := phase }
    match call.phase with
    | .entering =>
      if pool.locked then none
      else if pool.stopped then
        some (pool.setCall index (goto .returned))
      else
        some
          { pool.setCall index (goto .deciding) with
            locked := true
            taskWG := pool.taskWG + 1 }
    | .deciding =>
      if 0 < pool.idle then some (pool.setCall index (goto .offering))
      else some (pool.setCall index (goto .forking))
    | .offering =>
      match pool.send config job receiver with
      | none => none
      | some none => some (pool.setCall index (goto .forking))
      | some (some sent) => some (sent.setCall index (goto .unlocking))
    | .forking =>
      if config.maxWorkers ≤ pool.active then
        some (pool.setCall index (goto .queueing))
      else some (pool.setCall index (goto (.loaded pool.active)))
    | .loaded active =>
      if pool.active = active then
        some ((pool.fork job).setCall index (goto .unlocking))
      else some (pool.setCall index (goto .forking))
    | .queueing =>
      some
        { pool.setCall index (goto .sending) with locked := false }
    | .sending =>
      match pool.send config job receiver with
      | none => none
      | some none => some (pool.setCall index (goto .blocked))
      | some (some sent) => some (sent.setCall index call.next)
    | .blocked => none
    | .unlocking =>
      some { pool.setCall index call.next with locked := false }
    | .returned => none

/-! ## Workers -/

def setWorker
    (pool : Pool)
    (index : Nat)
    (worker : Worker) : Pool :=
  { pool with workers := pool.workers.set index worker }

/-- The next step of a worker; its timer may be chosen. -/
def stepWorker
    (pool : Pool)
    (index : Nat)
    (timer : Bool)
    (sender : Nat) :
    Option Pool :=
  match pool.workers[index]? with
  | none => none
  | some worker =>
    match worker with
    | .executing _ => some (pool.setWorker index .executed)
    | .executed =>
      some
        { pool.setWorker index .polling with taskWG := pool.taskWG - 1 }
    | .polling =>
      match pool.receive sender with
      | none => none
      | some none => some (pool.setWorker index .idling)
      | some (some (job, pool)) =>
        some (pool.setWorker index (.executing job))
    | .idling =>
      some { pool.setWorker index .selecting with idle := pool.idle + 1 }
    | .selecting =>
      if timer then some (pool.setWorker index .expired)
      else
        match pool.receive sender with
        | none => none
        | some none => some (pool.setWorker index .waiting)
        | some (some (job, pool)) =>
          some (pool.setWorker index (.received job))
    | .waiting =>
      if timer then some (pool.setWorker index .expired) else none
    | .received job =>
      some
        { pool.setWorker index (.executing job) with
          idle := pool.idle - 1 }
    | .expired =>
      some { pool.setWorker index .leaving with idle := pool.idle - 1 }
    | .leaving =>
      some { pool.setWorker index .left with active := pool.active - 1 }
    | .left =>
      some
        { pool.setWorker index .gone with workerWG := pool.workerWG - 1 }
    | .gone => none

/-! ## The dispatcher -/

def setDispatcher
    (pool : Pool)
    (dispatcher : Dispatcher) : Pool :=
  { pool with dispatcher := dispatcher }

/-- The next step of the dispatcher; its `select` may choose the channel that
is closed. -/
def stepDispatcher
    (config : Config)
    (pool : Pool)
    (byClose : Bool)
    (sender : Nat) : Option Pool :=
  match pool.dispatcher with
  | .selecting =>
    if byClose then
      if pool.closed then some (pool.setDispatcher .left) else none
    else
      match pool.receive sender with
      | none => none
      | some none =>
        if pool.closed then none
        else some (pool.setDispatcher .waiting)
      | some (some (job, pool)) =>
        some (pool.setDispatcher (.received job))
  | .waiting =>
    if pool.closed then some (pool.setDispatcher .left) else none
  | .received job =>
    if config.maxWorkers ≤ pool.active then
      some (pool.setDispatcher (.executing job))
    else some (pool.setDispatcher (.loaded job pool.active))
  | .loaded job active =>
    if pool.active = active then
      some ((pool.fork job).setDispatcher .selecting)
    else some (pool.setDispatcher (.received job))
  | .executing _ => some (pool.setDispatcher .executed)
  | .executed =>
    some
      { pool.setDispatcher .selecting with taskWG := pool.taskWG - 1 }
  | .left =>
    some { pool.setDispatcher .gone with workerWG := pool.workerWG - 1 }
  | .gone => none

/-! ## Stopping -/

def setStop
    (pool : Pool)
    (index : Nat)
    (stop : Stop) : Pool :=
  { pool with stops := pool.stops.set index stop }

/-- The next step of a call of `stop`. -/
def stepStop
    (pool : Pool)
    (index : Nat) : Option Pool :=
  match pool.stops[index]? with
  | none => none
  | some stop =>
    match stop with
    | .calling =>
      if pool.once = .fresh then
        some { pool.setStop index .flagging with once := .running }
      else some (pool.setStop index .standing)
    | .flagging =>
      if pool.locked then none
      else some { pool.setStop index .draining with stopped := true }
    | .draining =>
      if pool.taskWG = 0 then some (pool.setStop index .closing) else none
    | .closing =>
      some { pool.setStop index .awaiting with closed := true }
    | .awaiting =>
      if pool.workerWG = 0 then
        some { pool.setStop index .returned with once := .done }
      else none
    | .standing =>
      if pool.once = .done then some (pool.setStop index .returned)
      else none
    | .returned => none

end Pool

/-! ## Steps -/

/-- What happens next: a call begins, or a goroutine takes its next step. -/
inductive Label where
  | submit (size : Nat)
  | stop
  | call (index : Nat) (receiver : Pool.Receiver)
  | worker (index : Nat) (timer : Bool) (sender : Nat)
  | dispatcher (byClose : Bool) (sender : Nat)
  | stopping (index : Nat)
deriving DecidableEq, Repr

def Pool.step
    (config : Config)
    (pool : Pool) : Label -> Option Pool
  | .submit size =>
    some
      { pool with
        calls := pool.calls ++
          [⟨size, 0, if size = 0 then .returned else .entering⟩] }
  | .stop => some { pool with stops := pool.stops ++ [.calling] }
  | .call index receiver => pool.stepCall config index receiver
  | .worker index timer sender => pool.stepWorker index timer sender
  | .dispatcher byClose sender => pool.stepDispatcher config byClose sender
  | .stopping index => pool.stepStop index

end Elastic
end Taskpool
end Fib
