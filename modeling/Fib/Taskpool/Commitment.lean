import Fib.Taskpool.Adaptive

/-!
# Workers committed to the tasks of an adaptive shard

A worker that is neither parked nor executing a task will look at the queue,
and so will one that is reserved and not started yet; a signal that no worker
has taken up is one more.  Unless the ceiling is reached and nobody is idle,
there are as many of these as tasks in the queue.  The exception is a `resize`
that raises the ceiling while tasks wait: it starts no workers for them.
-/

namespace Fib
namespace Taskpool
namespace Adaptive

/-! ## What a goroutine counts for -/

/-- In `notEmpty.Wait`, woken or not. -/
def Worker.isParked : Worker -> Nat
  | .parked => 1
  | _ => 0

/-- Neither parked nor executing a task, and not on its way out. -/
def Worker.isFree : Worker -> Nat
  | .locking | .executed => 1
  | _ => 0

/-- From where a task is taken to where it returns. -/
def Worker.isExecuting : Worker -> Nat
  | .took _ _ | .executing _ => 1
  | _ => 0

/-- The workers a call has reserved and not started. -/
def Call.reserved (call : Call) : Nat :=
  match call.phase with
  | .settling _ spawn _ => spawn
  | _ => 0

/-! ## The counters -/

/-- What a shard counts, and what there is to be counted. -/
structure Figures where
  count : Nat
  idle : Int
  signals : Int
  workers : Int
  maxWorkers : Int
  /-- Goroutines in `notEmpty.Wait`, by the condition variable. -/
  waiting : Nat
  parked : Nat
  free : Nat
  executing : Nat
  reserved : Nat

/-- The workers committed to take a task: the live ones that are neither
parked nor executing one, those that are reserved among them, and those that
are to take up a signal. -/
def Figures.committed (figures : Figures) : Int :=
  figures.free + figures.reserved + figures.signals

/-- The invariant, in the middle of a call that has reserved `extra` workers
more than its phase says. -/
@[mk_iff] structure Figures.Holds
    (extra : Nat)
    (figures : Figures) : Prop where
  idle_nonneg : 0 ≤ figures.idle
  signals_nonneg : 0 ≤ figures.signals
  parked : figures.idle + figures.signals = figures.parked
  waiting : figures.waiting = figures.parked
  workers : figures.workers =
    figures.parked + figures.free + figures.executing + figures.reserved +
      extra
  covered : (figures.count : Int) ≤ figures.committed + extra ∨
    (figures.idle = 0 ∧ figures.maxWorkers ≤ figures.workers)

/-- The ceiling that a call of `resize` is about to set. -/
def Call.ceiling (call : Call) : Option Int :=
  match call.request, call.phase with
  | .resize _ maxWorkers, .entering => some maxWorkers
  | _, _ => none

namespace Shard

def figures (shard : Shard) : Figures where
  count := shard.queue.count
  idle := shard.idle
  signals := shard.signals
  workers := shard.workers
  maxWorkers := shard.maxWorkers
  waiting := shard.notEmpty.asleep + shard.notEmpty.notified
  parked := tally Worker.isParked shard.goroutines
  free := tally Worker.isFree shard.goroutines
  executing := tally Worker.isExecuting shard.goroutines
  reserved := tally Call.reserved shard.calls

variable {shard next : Shard}
variable {extra : Nat}

/-! ## Parts of the steps -/

section

variable (shard : Shard)

@[simp] theorem figures_signal (count : Nat) :
    (shard.signal count).figures = shard.figures := by
  unfold signal figures
  rw [Cond.waiting_signals]

@[simp] theorem figures_broadcast :
    { shard with notEmpty := shard.notEmpty.broadcast }.figures = shard.figures := by
  unfold figures
  simp only [Cond.asleep_broadcast, Cond.notified_broadcast, Nat.zero_add]

/-- Inversion of `spawnLocked`. -/
theorem spawnLocked_spec :
    (shard.spawnLocked = none ∧ shard.maxWorkers ≤ shard.workers) ∨
      shard.spawnLocked = some
        { shard with workers := shard.workers + 1, workerWG := shard.workerWG + 1 } := by
  unfold spawnLocked
  split
  · next ceiling => exact .inl ⟨rfl, ceiling⟩
  · exact .inr rfl

/-- Inversion of `claimLocked`. -/
theorem claimLocked_spec :
    (shard.claimLocked = none ∧ shard.idle = 0) ∨
      shard.idle ≠ 0 ∧ shard.claimLocked = some
        { shard with
          idle := shard.idle - 1
          signals := shard.signals + 1
          lowIdle := min shard.lowIdle (shard.idle - 1) } := by
  unfold claimLocked
  split
  · next nobody => exact .inl ⟨rfl, nobody⟩
  · next someIdle => exact .inr ⟨someIdle, rfl⟩

end

/-- Reserved workers are started. -/
theorem holds_startWorkers
    {count : Nat}
    (holds : shard.figures.Holds (extra + count)) :
    (shard.startWorkers count).figures.Holds extra := by
  simp only [Figures.holds_iff, Figures.committed, figures, startWorkers, tally_append,
    tally_replicate, Worker.isParked, Worker.isFree, Worker.isExecuting] at holds ⊢
  omega

/-- A task is queued, one more than `count`. -/
theorem holds_claimOrSpawn
    {count : Nat}
    (counted : shard.queue.count = count + 1)
    (holds : Figures.Holds extra { shard.figures with count := count }) :
    shard.claimOrSpawn.1.figures.Holds (extra + shard.claimOrSpawn.2.2) := by
  simp only [Figures.holds_iff, Figures.committed, figures] at holds
  unfold claimOrSpawn
  rcases shard.claimLocked_spec with ⟨none, nobody⟩ | ⟨someIdle, some⟩
  · rw [none]
    rcases shard.spawnLocked_spec with ⟨none, ceiling⟩ | some
    · rw [none]
      simp only [Figures.holds_iff, Figures.committed, figures]
      omega
    · rw [some]
      simp only [Figures.holds_iff, Figures.committed, figures]
      omega
  · rw [some]
    simp only [Figures.holds_iff, Figures.committed, figures]
    omega

section

variable (holds : shard.figures.Holds extra)
include holds

/-- A worker is reserved. -/
theorem holds_spawned :
    { shard with
      workers := shard.workers + 1
      workerWG := shard.workerWG + 1 }.figures.Holds (extra + 1) := by
  simp only [Figures.holds_iff, Figures.committed, figures] at holds ⊢
  omega

theorem holds_growLocked :
    shard.growLocked.figures.Holds extra := by
  unfold growLocked
  rcases shard.spawnLocked_spec with ⟨none, -⟩ | some
  · rw [none]
    exact holds
  · rw [some]
    exact holds_startWorkers (holds_spawned holds)

theorem holds_waitForRoomLocked :
    shard.waitForRoomLocked.figures.Holds extra :=
  holds_growLocked holds

end

variable {index : Nat}

/-- A call moves on, and says what it has reserved. -/
theorem holds_setCall
    {before after : Call}
    (here : shard.calls[index]? = some before)
    (holds : next.figures.Holds extra)
    (calls : next.calls = shard.calls)
    {rest : Nat}
    (same : before.reserved + extra = after.reserved + rest) :
    (next.setCall index after).figures.Holds rest := by
  rw [← calls] at here
  have moved := tally_set Call.reserved here after
  simp only [Figures.holds_iff, Figures.committed, figures, setCall] at holds ⊢
  omega

/-! ### The calls stay where they are -/

theorem calls_growLocked
    (shard : Shard) :
    shard.growLocked.calls = shard.calls := by
  unfold growLocked
  rcases shard.spawnLocked_spec with ⟨none, -⟩ | some
  · rw [none]
  · rw [some]
    rfl

@[simp] theorem calls_waitForRoomLocked (shard : Shard) :
    shard.waitForRoomLocked.calls = shard.calls :=
  calls_growLocked shard

@[simp] theorem calls_claimOrSpawn (shard : Shard) :
    shard.claimOrSpawn.1.calls = shard.calls := by
  unfold claimOrSpawn
  rcases shard.claimLocked_spec with ⟨none, -⟩ | ⟨-, some⟩
  · rw [none]
    rcases shard.spawnLocked_spec with ⟨none, -⟩ | some
    · rw [none]
    · rw [some]
  · rw [some]

/-! ## Submissions -/

theorem holds_submitLocked
    (holds : shard.figures.Holds 0)
    (here : shard.calls[index]? = some call)
    (none : call.reserved = 0) :
    (shard.submitLocked index call).figures.Holds 0 := by
  unfold submitLocked
  split
  · next room =>
    split
    · exact holds_setCall here holds rfl none
    have queued := @holds_claimOrSpawn
      { shard.enqueueLocked ⟨index, 0⟩ room with pending := shard.pending + 1 } 0 _ rfl holds
    refine holds_setCall here queued (calls_claimOrSpawn _) ?_
    rw [none, Nat.zero_add]
    exact Nat.zero_add _
  · split
    · exact holds_setCall here holds rfl none
    · exact holds_setCall here (holds_waitForRoomLocked holds) (calls_waitForRoomLocked _) none

theorem holds_batchLoop
    (remaining : Nat)
    (submitted wake : Nat)
    (holds : shard.figures.Holds spawn)
    (here : shard.calls[index]? = some call)
    (none : call.reserved = 0) :
    (shard.batchLoop index size remaining submitted wake spawn).figures.Holds 0 := by
  have ended (shard : Shard) (submitted wake spawn : Nat) (holds : shard.figures.Holds spawn)
      (here : shard.calls[index]? = some call) :
      (shard.endBatch index size submitted wake spawn).figures.Holds 0 := by
    refine holds_setCall here ?_ rfl (by rw [none]; exact Nat.zero_add _)
    exact holds
  induction remaining generalizing shard submitted wake spawn with
  | zero => exact ended shard submitted wake spawn holds here
  | succ remaining ih =>
    unfold batchLoop
    split
    · next room =>
      split
      · exact ended shard submitted wake spawn holds here
      · dsimp only
        refine ih _ _ (holds_claimOrSpawn rfl holds) ?_
        rw [calls_claimOrSpawn]
        exact here
    split
    · exact ended shard submitted wake spawn holds here
    have started : ((shard.signal wake).startWorkers spawn).figures.Holds 0 := by
      refine holds_startWorkers ?_
      rw [figures_signal, Nat.zero_add]
      exact holds
    exact holds_setCall here (holds_waitForRoomLocked started) (calls_waitForRoomLocked _) none

/-! ## The other calls -/

theorem reserve_spec
    (fuel : Nat)
    (holds : shard.figures.Holds extra) :
    (shard.reserve fuel).1.figures.Holds (extra + (shard.reserve fuel).2) ∧
      (shard.reserve fuel).1.calls = shard.calls := by
  induction fuel generalizing shard extra with
  | zero => exact ⟨holds, rfl⟩
  | succ fuel ih =>
    unfold reserve
    split
    · rcases shard.spawnLocked_spec with ⟨none, -⟩ | some
      · rw [none]
        exact ⟨holds, rfl⟩
      rw [some]
      obtain ⟨last, calls⟩ := ih (holds_spawned holds)
      rw [Nat.add_right_comm] at last
      exact ⟨last, calls⟩
    · exact ⟨holds, rfl⟩

/-- The ceiling rises only while there are workers for all tasks. -/
def MayResize
    (shard : Shard)
    (maxWorkers : Int) : Prop :=
  maxWorkers ≤ shard.maxWorkers ∨
    (shard.queue.count : Int) ≤ shard.figures.committed

theorem holds_resizeLocked
    (holds : shard.figures.Holds 0)
    {call : Call}
    (here : shard.calls[index]? = some call)
    (none : call.reserved = 0)
    {minWorkers maxWorkers : Int}
    (may : MayResize shard maxWorkers) :
    (shard.resizeLocked index call minWorkers maxWorkers).figures.Holds 0 := by
  have moved : ({ shard with
      minWorkers := minWorkers
      maxWorkers := maxWorkers } : Shard).figures.Holds 0 := by
    simp only [MayResize, Figures.holds_iff, Figures.committed, figures] at may holds ⊢
    omega
  obtain ⟨reserved, calls⟩ :=
    reserve_spec (minWorkers - shard.workers).toNat moved
  unfold resizeLocked
  refine holds_setCall here reserved calls ?_
  rw [none, Nat.zero_add]
  exact Nat.zero_add _

instance (shard : Shard) (maxWorkers : Int) :
    Decidable (MayResize shard maxWorkers) :=
  inferInstanceAs (Decidable (_ ∨ _))

/-- A `resize` that takes the lock meets the condition. -/
def Mindful (shard : Shard) : Label -> Prop
  | .call index =>
    ∀ maxWorkers ∈ (shard.calls[index]?).bind Call.ceiling,
      MayResize shard maxWorkers
  | _ => True

instance (shard : Shard) (label : Label) : Decidable (Mindful shard label) :=
  match label with
  | .call _ => inferInstanceAs (Decidable (∀ _ ∈ _, _))
  | .begin _ | .worker _ | .wakeWorker | .wakeCall => .isTrue trivial

theorem holds_stepCall
    (holds : shard.figures.Holds 0)
    (mindful : Mindful shard (.call index))
    (taken : shard.stepCall index = some next) :
    next.figures.Holds 0 := by
  unfold stepCall at taken
  split at taken
  · cases taken
  next call here =>
  split at taken
  · next entering =>
    have none : call.reserved = 0 := by rw [Call.reserved, entering]
    split at taken
    · cases taken
      exact holds_submitLocked holds here none
    · split at taken
      · cases taken
        exact holds_setCall here holds rfl none
      · cases taken
        exact holds_batchLoop _ _ _ holds here none
    · cases taken
      exact holds_setCall here holds rfl none
    · next minWorkers maxWorkers resizes =>
      cases taken
      refine holds_resizeLocked holds here none (mindful maxWorkers ?_)
      rw [here, Option.mem_def, Option.bind_some, Call.ceiling, resizes, entering]
    cases taken
    have woken : ({ shard with
        stopped := true
        notEmpty := shard.notEmpty.broadcast
        notFull := shard.notFull.broadcast } : Shard).figures.Holds 0 := by
      rw [← figures_broadcast] at holds
      exact holds
    exact holds_setCall here woken rfl none
  · next parked =>
    have none : call.reserved = 0 := by rw [Call.reserved, parked]
    split at taken
    · cases taken
    split at taken
    · cases taken
      refine holds_submitLocked ?_ ?_ none
      · exact holds
      · exact here
    · cases taken
      refine holds_batchLoop _ _ _ ?_ ?_ none
      · exact holds
      · exact here
    · cases taken
    · cases taken
    · cases taken
  · next wake spawn broadcast settling =>
    cases taken
    rw [← figures_signal shard 1] at holds
    refine holds_setCall here holds rfl ?_
    rw [Call.reserved, settling]
    rfl
  · next spawn broadcast settling =>
    cases taken
    have reserved : (shard.setCall index
        { call with phase := .settling 0 spawn broadcast }).figures.Holds (0 + 1) :=
      holds_setCall here holds rfl (by rw [Call.reserved, settling]; rfl)
    exact holds_startWorkers reserved
  · next settling =>
    cases taken
    rw [← figures_broadcast] at holds
    refine holds_setCall here holds rfl ?_
    rw [Call.reserved, settling]
    rfl
  · next settling =>
    cases taken
    refine holds_setCall here holds rfl ?_
    rw [Call.reserved, settling]
    rfl
  · next draining =>
    split at taken
    · cases taken
      refine holds_setCall here holds rfl ?_
      rw [Call.reserved, draining]
      rfl
    · cases taken
  · next waking =>
    cases taken
    rw [← figures_broadcast] at holds
    refine holds_setCall here holds rfl ?_
    rw [Call.reserved, waking]
    rfl
  · cases taken

/-! ## Workers -/

/-- A worker goes from one place to another. -/
theorem counts_set
    {workers : List Worker}
    {before : Worker}
    (here : workers[index]? = some before)
    (after : Worker) :
    tally Worker.isParked (workers.set index after) + before.isParked =
        tally Worker.isParked workers + after.isParked ∧
      tally Worker.isFree (workers.set index after) + before.isFree =
        tally Worker.isFree workers + after.isFree ∧
      tally Worker.isExecuting (workers.set index after) + before.isExecuting =
        tally Worker.isExecuting workers + after.isExecuting :=
  ⟨tally_set _ here after, tally_set _ here after, tally_set _ here after⟩

/-- A worker moves that stays parked or stays away. -/
theorem holds_setWorker
    {before after : Worker}
    (here : shard.goroutines[index]? = some before)
    (holds : shard.figures.Holds extra)
    (parked : before.isParked = after.isParked)
    (free : before.isFree ≤ after.isFree)
    (busy : before.isFree + before.isExecuting = after.isFree + after.isExecuting) :
    (shard.setWorker index after).figures.Holds extra := by
  have moved := counts_set here after
  simp only [Figures.holds_iff, Figures.committed, figures, setWorker] at holds ⊢
  omega

section

variable (inside : index < shard.goroutines.length)
variable (holds : (shard.setWorker index .locking).figures.Holds 0)
include inside holds

/-- Wherever the worker with the lock comes from. -/
theorem holds_exitLocked
    (may : shard.queue.count = 0 ∨ shard.maxWorkers < shard.workers) :
    (shard.exitLocked index).figures.Holds 0 := by
  have locked : (shard.goroutines.set index .locking)[index]? = some .locking :=
    List.getElem?_set_self inside
  have leaves (handoff : Bool) := counts_set locked (.leaving handoff)
  simp only [List.set_set, Worker.isParked, Worker.isFree, Worker.isExecuting] at leaves
  simp only [Figures.holds_iff, Figures.committed, figures, setWorker] at holds
  unfold exitLocked
  dsimp only
  split
  · rcases ({ shard with
        workers := shard.workers - 1 } : Shard).claimLocked_spec with
      ⟨none, nobody⟩ | ⟨someIdle, some⟩
    · rw [none]
      specialize leaves false
      simp only [Figures.holds_iff, Figures.committed, figures, setWorker] at nobody ⊢
      omega
    · rw [some]
      specialize leaves true
      simp only [Figures.holds_iff, Figures.committed, figures, setWorker] at someIdle ⊢
      omega
  · specialize leaves false
    simp only [Figures.holds_iff, Figures.committed, figures, setWorker]
    omega

theorem holds_workerLocked : (shard.workerLocked index).figures.Holds 0 := by
  have locked : (shard.goroutines.set index .locking)[index]? = some .locking :=
    List.getElem?_set_self inside
  unfold workerLocked
  split
  · next many => exact holds_exitLocked inside holds (.inr many)
  rcases shard.queue.dequeue_spec with
    ⟨empty, none⟩ | ⟨job, rest, some, -, one, -⟩
  · rw [none]
    dsimp only
    split
    · exact holds_exitLocked inside holds (.inl empty)
    split
    · have retired : ({ shard with
          retire := shard.retire - 1 }.setWorker index .locking).figures.Holds 0 := holds
      exact holds_exitLocked inside retired (.inl empty)
    have parks := counts_set locked .parked
    simp only [List.set_set, Worker.isParked, Worker.isFree, Worker.isExecuting] at parks
    simp only [Figures.holds_iff, Figures.committed, figures, setWorker, Cond.asleep_wait,
      Cond.notified_wait] at holds ⊢
    omega
  · rw [some]
    have takes := counts_set locked (.took job (0 < shard.fullWaiters))
    simp only [List.set_set, Worker.isParked, Worker.isFree, Worker.isExecuting] at takes
    simp only [Figures.holds_iff, Figures.committed, figures, setWorker] at holds ⊢
    omega

end

section

variable (holds : shard.figures.Holds 0)
include holds

/-- A worker that wakes. -/
theorem holds_takeUp
    (here : shard.goroutines[index]? = some .parked)
    {notEmpty : Cond}
    (resumed : shard.notEmpty.resume = some notEmpty) :
    (({ shard with notEmpty := notEmpty }.takeUp).setWorker index .locking).figures.Holds 0 := by
  have woke := Cond.resume_eq_some resumed
  have moved := counts_set here .locking
  simp only [Worker.isParked, Worker.isFree, Worker.isExecuting] at moved
  simp only [Figures.holds_iff, Figures.committed, figures] at holds
  unfold takeUp
  dsimp only
  split
  · simp only [Figures.holds_iff, Figures.committed, figures, setWorker]
    omega
  · simp only [Figures.holds_iff, Figures.committed, figures, setWorker]
    omega

theorem holds_stepWorker (taken : shard.stepWorker index = some next) :
    next.figures.Holds 0 := by
  unfold stepWorker at taken
  split at taken
  · cases taken
  next worker here =>
  have inside := (List.getElem?_eq_some_iff.mp here).1
  split at taken
  · cases taken
    exact holds_workerLocked inside (holds_setWorker here holds rfl le_rfl rfl)
  · split at taken
    · cases taken
    next notEmpty resumed =>
    cases taken
    refine holds_workerLocked ?_ (holds_takeUp holds here resumed)
    unfold takeUp
    split
    · exact inside
    · exact inside
  · cases taken
    exact holds_setWorker here holds rfl le_rfl rfl
  · cases taken
    exact holds_setWorker here holds rfl le_rfl rfl
  · cases taken
    exact holds_setWorker here holds rfl (Nat.zero_le _) rfl
  · cases taken
    exact holds_setWorker here holds rfl le_rfl rfl
  · cases taken
    rw [← figures_signal shard 1] at holds
    exact holds_setWorker here holds rfl le_rfl rfl
  · cases taken
    exact holds_setWorker here holds rfl le_rfl rfl
  · cases taken
    exact holds_setWorker here holds rfl le_rfl rfl
  · cases taken

theorem holds_step
    (mindful : Mindful shard label)
    (taken : shard.step label = some next) :
    next.figures.Holds 0 := by
  cases label with
  | begin request =>
    simp only [step, Option.ite_none_right_eq_some, Option.some.injEq] at taken
    obtain ⟨-, rfl⟩ := taken
    have none : tally Call.reserved (shard.calls ++ [{ request := request }]) =
        shard.figures.reserved := by
      rw [tally_append]
      rfl
    unfold figures
    rw [none]
    exact holds
  | call index => exact holds_stepCall holds mindful taken
  | worker index => exact holds_stepWorker holds taken
  | wakeWorker =>
    cases taken
    rw [← figures_signal shard 1] at holds
    exact holds
  | wakeCall =>
    cases taken
    exact holds

end

theorem holds_start (config : Config) : (start config).figures.Holds 0 := by
  simp only [Figures.holds_iff, Figures.committed, figures, start, tally_replicate,
    Worker.isParked, Worker.isFree, Worker.isExecuting, Ring.empty]
  simp only [tally_nil]
  omega

/-- While the lock is free, the counters of idle workers and of signals add up
to the parked workers; and there are as many workers committed to take a task
as there are tasks in the queue, or nobody is idle and the ceiling is reached.
This is so as long as no `resize` raises the ceiling while the queue has more
tasks than workers committed to take one. -/
theorem tasks_have_workers
    (config : Config)
    {labels : List Label}
    {final : Shard}
    (mindful : Transition.Meets step Mindful (start config) labels)
    (reached : Transition.run step (start config) labels = some final) :
    final.idle + final.signals = tally Worker.isParked final.goroutines ∧
      ((final.queue.count : Int) ≤ tally Worker.isFree final.goroutines +
            tally Call.reserved final.calls + final.signals ∨
        (final.idle = 0 ∧ final.maxWorkers ≤ final.workers)) := by
  have holds : final.figures.Holds 0 :=
    Transition.run_invariant_of_meets
      (fun _ _ _ holds mindful taken => holds_step holds mindful taken)
      (holds_start config) mindful reached
  refine ⟨holds.parked, holds.covered.imp (fun enough => ?_) id⟩
  rw [Int.natCast_zero, Int.add_zero] at enough
  exact enough

/-- A shard of one worker and a queue for two tasks. -/
def oneWorker : Config where
  minWorkers := 0
  maxWorkers := 1
  queueSize := 2
  positive := by decide
  ordered := by decide

/-- One task is being executed and another one waits. -/
def busy : List Label :=
  [.begin .submit, .call 0, .call 0, .call 0, .worker 0, .worker 0,
    .begin .submit, .call 1, .call 1]

def reachedBy (labels : List Label) : Shard :=
  (Transition.run step (start oneWorker) labels).getD (start oneWorker)

theorem tasks_have_workers_busy :
    (reachedBy busy).queue.count = 1 ∧ ((reachedBy busy).idle = 0 ∧
        (reachedBy busy).maxWorkers ≤ (reachedBy busy).workers) :=
  ⟨by decide,
    (@tasks_have_workers oneWorker busy (reachedBy busy) (by decide)
      rfl).2.resolve_left (by decide)⟩

/-- The ceiling is raised to two. -/
def raised : List Label :=
  busy ++ [.begin (.resize 0 2), .call 2, .call 2]

/-- The task waits behind the busy worker, and the shard may grow. -/
theorem task_waits_after_resize :
    (Transition.run step (start oneWorker) raised).isSome = true ∧
      (reachedBy raised).queue.count = 1 ∧
      tally Worker.isFree (reachedBy raised).goroutines = 0 ∧
      tally Call.reserved (reachedBy raised).calls = 0 ∧
      (reachedBy raised).signals = 0 ∧
      (reachedBy raised).workers < (reachedBy raised).maxWorkers := by
  decide

end Shard
end Adaptive
end Taskpool
end Fib
