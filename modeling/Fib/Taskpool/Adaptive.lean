import Fib.Library.Cond
import Fib.Library.Ring
import Fib.Taskpool.Elastic

/-!
# A shard of the adaptive task pool

Any number of goroutines call `submit`, `submitBatch`, `shrink`, `resize` and
`stop`, and the workers run the tasks.  What a goroutine does with the lock is
one step, up to where it unlocks or waits; every signal, every start of a
worker and every operation of a wait group outside the lock is a step of its
own.
-/

namespace Fib
namespace Taskpool
namespace Adaptive

/-! ## Goroutines -/

/-- A goroutine of `worker`. -/
inductive Worker where
  /-- Before the lock. -/
  | locking
  /-- In `notEmpty.Wait`. -/
  | parked
  /-- With a task, before `notFull.Signal` if there is to be one. -/
  | took (job : Job) (wakeFull : Bool)
  | executing (job : Job)
  /-- The task has returned, before `pending.Done`. -/
  | executed
  /-- `exitLocked` has unlocked, before the signal if there is to be one. -/
  | leaving (handoff : Bool)
  /-- Before `workerWG.Done`. -/
  | left
  | gone
deriving DecidableEq, Repr

/-- What a goroutine other than a worker calls. -/
inductive Request where
  | submit
  | submitBatch (size : Nat)
  | shrink
  | resize (minWorkers maxWorkers : Int)
  | stop
deriving DecidableEq, Repr

/-- Where such a call is. -/
inductive Phase where
  /-- Before the lock. -/
  | entering
  /-- In `notFull.Wait`. -/
  | parked
  /-- Unlocked, with so many signals to send and workers to start, and with a
  broadcast to make or not. -/
  | settling (wake spawn : Nat) (broadcast : Bool)
  /-- `stop` in `pending.Wait`. -/
  | draining
  /-- `stop` before its last broadcast. -/
  | waking
  | returned
deriving DecidableEq, Repr

/-- A call, and how many tasks it has queued. -/
structure Call where
  request : Request
  submitted : Nat := 0
  phase : Phase := .entering
deriving DecidableEq, Repr

/-! ## State -/

/-- `adaptivePool` and its goroutines.  `workerWG` is what the shard has added
to it. -/
structure Shard where
  queue : Ring Job
  notEmpty : Cond := {}
  notFull : Cond := {}
  idle : Int := 0
  signals : Int := 0
  fullWaiters : Int := 0
  minWorkers : Int := 0
  maxWorkers : Int := 0
  workers : Int := 0
  retire : Int := 0
  lowIdle : Int := 0
  stopped : Bool := false
  pending : Int := 0
  workerWG : Int := 0
  goroutines : List Worker := []
  calls : List Call := []

namespace Shard

/-- `enqueueLocked`. -/
def enqueueLocked
    (shard : Shard)
    (job : Job)
    (room : shard.queue.count < shard.queue.capacity) : Shard :=
  { shard with queue := shard.queue.enqueue job room }

/-- `spawnLocked`. -/
def spawnLocked (shard : Shard) : Option Shard :=
  if shard.maxWorkers ≤ shard.workers then none
  else
    some
      { shard with
        workers := shard.workers + 1
        workerWG := shard.workerWG + 1 }

/-- `startWorkers`. -/
def startWorkers
    (shard : Shard)
    (count : Nat) : Shard :=
  { shard with
    goroutines := shard.goroutines ++ List.replicate count .locking }

/-- `claimLocked`. -/
def claimLocked (shard : Shard) : Option Shard :=
  if shard.idle = 0 then none
  else
    some
      { shard with
        idle := shard.idle - 1
        signals := shard.signals + 1
        lowIdle := min shard.lowIdle (shard.idle - 1) }

/-- `signal`. -/
def signal
    (shard : Shard)
    (count : Nat) : Shard :=
  { shard with notEmpty := shard.notEmpty.signals count }

/-- The first part of `waitForRoomLocked`: a worker is started if the ceiling
allows one. -/
def growLocked (shard : Shard) : Shard :=
  match shard.spawnLocked with
  | some grown => grown.startWorkers 1
  | none => shard

/-- `waitForRoomLocked`, up to where it blocks. -/
def waitForRoomLocked (shard : Shard) : Shard :=
  { shard.growLocked with
    fullWaiters := shard.growLocked.fullWaiters + 1
    notFull := shard.growLocked.notFull.wait }

/-! ## Submissions -/

/-- After a task is queued an idle worker is claimed, or else a worker is
reserved: whether to signal, and whether to start one. -/
def claimOrSpawn (shard : Shard) : Shard × Nat × Nat :=
  match shard.claimLocked with
  | some claimed => (claimed, 1, 0)
  | none =>
    match shard.spawnLocked with
    | some grown => (grown, 0, 1)
    | none => (shard, 0, 0)

def setCall
    (shard : Shard)
    (index : Nat)
    (call : Call) : Shard :=
  { shard with calls := shard.calls.set index call }

/-- `submit` with the lock. -/
def submitLocked
    (shard : Shard)
    (index : Nat)
    (call : Call) : Shard :=
  if room : shard.queue.count < shard.queue.capacity then
    if shard.stopped then
      shard.setCall index { call with phase := .returned }
    else
      let (shard, wake, spawn) :=
        { shard.enqueueLocked ⟨index, 0⟩ room with
          pending := shard.pending + 1 }.claimOrSpawn
      shard.setCall index
        { call with
          submitted := 1
          phase := .settling wake spawn false }
  else if shard.stopped then
    shard.setCall index { call with phase := .returned }
  else
    shard.waitForRoomLocked.setCall index { call with phase := .parked }

/-- The end of `submitBatch` with the lock: what was not queued is not
pending. -/
def endBatch
    (shard : Shard)
    (index size submitted wake spawn : Nat) :
    Shard :=
  { shard with pending := shard.pending - (size - submitted : Nat) }.setCall
    index ⟨.submitBatch size, submitted, .settling wake spawn false⟩

/-- The loop of `submitBatch` over the tasks that are left. -/
def batchLoop
    (shard : Shard)
    (index size : Nat) :
    Nat -> Nat -> Nat -> Nat -> Shard
  | 0, submitted, wake, spawn =>
    shard.endBatch index size submitted wake spawn
  | remaining + 1, submitted, wake, spawn =>
    if room : shard.queue.count < shard.queue.capacity then
      if shard.stopped then
        shard.endBatch index size submitted wake spawn
      else
        let (shard, woken, spawned) :=
          (shard.enqueueLocked ⟨index, submitted⟩ room).claimOrSpawn
        shard.batchLoop index size remaining (submitted + 1)
          (wake + woken) (spawn + spawned)
    else if shard.stopped then
      shard.endBatch index size submitted wake spawn
    else
      -- The deferred signals and starts are settled before it parks.
      ((shard.signal wake).startWorkers spawn).waitForRoomLocked.setCall
        index ⟨.submitBatch size, submitted, .parked⟩

/-! ## The other calls -/

/-- `shrink` with the lock. -/
def shrinkLocked
    (shard : Shard)
    (index : Nat)
    (call : Call) : Shard :=
  let surplus := shard.workers - shard.minWorkers
  let retire :=
    if 0 < shard.lowIdle ∧ 0 < surplus ∧ shard.stopped = false then
      min ((shard.lowIdle + 1) / 2) surplus
    else 0
  { shard with
    lowIdle := shard.idle
    retire := retire }.setCall index
      { call with
        phase := .settling (min retire shard.idle).toNat 0 false }

/-- The loop of `resize`: how many workers are reserved, at most as many as
the fuel. -/
def reserve (shard : Shard) : Nat -> Shard × Nat
  | 0 => (shard, 0)
  | fuel + 1 =>
    if shard.stopped = false ∧ shard.workers < shard.minWorkers then
      match shard.spawnLocked with
      | some grown => ((grown.reserve fuel).1, (grown.reserve fuel).2 + 1)
      | none => (shard, 0)
    else (shard, 0)

/-- `resize` with the lock.  The loop ends at the floor. -/
def resizeLocked
    (shard : Shard)
    (index : Nat)
    (call : Call)
    (minWorkers maxWorkers : Int) : Shard :=
  let (grown, spawn) :=
    { shard with
      minWorkers := minWorkers
      maxWorkers := maxWorkers }.reserve
        (minWorkers - shard.workers).toNat
  grown.setCall index
    { call with
      phase := .settling 0 spawn (maxWorkers < grown.workers) }

/-- The first part of `stop` with the lock. -/
def stopLocked
    (shard : Shard)
    (index : Nat)
    (call : Call) : Shard :=
  { shard with
    stopped := true
    notEmpty := shard.notEmpty.broadcast
    notFull := shard.notFull.broadcast }.setCall index
      { call with phase := .draining }

/-- The next step of a call. -/
def stepCall
    (shard : Shard)
    (index : Nat) : Option Shard :=
  match shard.calls[index]? with
  | none => none
  | some call =>
    match call.phase with
    | .entering =>
      match call.request with
      | .submit => some (shard.submitLocked index call)
      | .submitBatch size =>
        if shard.stopped then
          some (shard.setCall index { call with phase := .returned })
        else
          some ({ shard with
            pending := shard.pending + size }.batchLoop index size
              size 0 0 0)
      | .shrink => some (shard.shrinkLocked index call)
      | .resize minWorkers maxWorkers =>
        some (shard.resizeLocked index call minWorkers maxWorkers)
      | .stop => some (shard.stopLocked index call)
    | .parked =>
      match shard.notFull.resume with
      | none => none
      | some notFull =>
        let shard :=
          { shard with
            notFull := notFull
            fullWaiters := shard.fullWaiters - 1 }
        match call.request with
        | .submit => some (shard.submitLocked index call)
        | .submitBatch size =>
          some (shard.batchLoop index size (size - call.submitted)
            call.submitted 0 0)
        | .shrink | .resize _ _ | .stop => none
    | .settling (wake + 1) spawn broadcast =>
      some ((shard.signal 1).setCall index
        { call with phase := .settling wake spawn broadcast })
    | .settling 0 (spawn + 1) broadcast =>
      some ((shard.startWorkers 1).setCall index
        { call with phase := .settling 0 spawn broadcast })
    | .settling 0 0 true =>
      some ({ shard with
        notEmpty := shard.notEmpty.broadcast }.setCall index
          { call with phase := .returned })
    | .settling 0 0 false =>
      some (shard.setCall index { call with phase := .returned })
    | .draining =>
      if shard.pending = 0 then
        some (shard.setCall index { call with phase := .waking })
      else none
    | .waking =>
      some ({ shard with
        notEmpty := shard.notEmpty.broadcast }.setCall index
          { call with phase := .returned })
    | .returned => none

/-! ## Workers -/

def setWorker
    (shard : Shard)
    (index : Nat)
    (worker : Worker) : Shard :=
  { shard with goroutines := shard.goroutines.set index worker }

/-- `exitLocked`. -/
def exitLocked
    (shard : Shard)
    (index : Nat) : Shard :=
  let shard := { shard with workers := shard.workers - 1 }
  if 0 < shard.queue.count then
    match shard.claimLocked with
    | some claimed => claimed.setWorker index (.leaving true)
    | none => shard.setWorker index (.leaving false)
  else shard.setWorker index (.leaving false)

/-- The loop of `worker` with the lock. -/
def workerLocked
    (shard : Shard)
    (index : Nat) : Shard :=
  if shard.maxWorkers < shard.workers then shard.exitLocked index
  else
    match shard.queue.dequeue with
    | some (job, rest) =>
      { shard with queue := rest }.setWorker index
        (.took job (0 < shard.fullWaiters))
    | none =>
      if shard.stopped then shard.exitLocked index
      else if 0 < shard.retire ∧ shard.minWorkers < shard.workers then
        { shard with retire := shard.retire - 1 }.exitLocked index
      else
        { shard with
          idle := shard.idle + 1
          notEmpty := shard.notEmpty.wait }.setWorker index .parked

/-- A worker that wakes takes up a claim, if there is one. -/
def takeUp (shard : Shard) : Shard :=
  if 0 < shard.signals then { shard with signals := shard.signals - 1 }
  else
    { shard with
      idle := shard.idle - 1
      lowIdle := min shard.lowIdle (shard.idle - 1) }

/-- The next step of a worker. -/
def stepWorker
    (shard : Shard)
    (index : Nat) : Option Shard :=
  match shard.goroutines[index]? with
  | none => none
  | some worker =>
    match worker with
    | .locking => some (shard.workerLocked index)
    | .parked =>
      match shard.notEmpty.resume with
      | none => none
      | some notEmpty =>
        some ({ shard with notEmpty := notEmpty }.takeUp.workerLocked
          index)
    | .took job true =>
      some ({ shard with
        notFull := shard.notFull.signal }.setWorker index
          (.executing job))
    | .took job false => some (shard.setWorker index (.executing job))
    | .executing _ => some (shard.setWorker index .executed)
    | .executed =>
      some ({ shard with
        pending := shard.pending - 1 }.setWorker index .locking)
    | .leaving true => some ((shard.signal 1).setWorker index .left)
    | .leaving false => some (shard.setWorker index .left)
    | .left =>
      some ({ shard with
        workerWG := shard.workerWG - 1 }.setWorker index .gone)
    | .gone => none

/-! ## Steps -/

end Shard

/-- What happens next: a call begins, a goroutine takes its next step, or one
that waits is woken for no reason. -/
inductive Label where
  | begin (request : Request)
  | call (index : Nat)
  | worker (index : Nat)
  | wakeWorker
  | wakeCall
deriving DecidableEq, Repr

/-- The ranges that `validateAdaptiveRange` lets through. -/
def Request.Valid : Request -> Prop
  | .resize minWorkers maxWorkers =>
    0 < maxWorkers ∧ 0 ≤ minWorkers ∧ minWorkers ≤ maxWorkers
  | _ => True

instance (request : Request) : Decidable request.Valid :=
  match request with
  | .resize _ _ => inferInstanceAs (Decidable (_ ∧ _ ∧ _))
  | .submit | .submitBatch _ | .shrink | .stop => .isTrue trivial

def Shard.step (shard : Shard) : Label -> Option Shard
  | .begin request =>
    if request.Valid then
      some { shard with calls := shard.calls ++ [{ request := request }] }
    else none
  | .call index => shard.stepCall index
  | .worker index => shard.stepWorker index
  | .wakeWorker => some { shard with notEmpty := shard.notEmpty.signal }
  | .wakeCall => some { shard with notFull := shard.notFull.signal }

/-- The arguments a shard is set up with. -/
structure Config where
  minWorkers : Nat
  maxWorkers : Nat
  queueSize : Nat
  positive : 0 < maxWorkers
  ordered : minWorkers ≤ maxWorkers

/-- `newAdaptivePool`, and the workers the first `resize` starts. -/
def start (config : Config) : Shard where
  queue := .empty Job (max config.queueSize 1) (by omega)
  minWorkers := config.minWorkers
  maxWorkers := config.maxWorkers
  workers := config.minWorkers
  workerWG := config.minWorkers
  goroutines := List.replicate config.minWorkers .locking

end Adaptive
end Taskpool
end Fib
