import Fib.Taskpool.Elastic

/-!
# Slots of the elastic pool

The dispatcher runs a task itself only when all other slots are taken.  As
long as, while it does so, a worker gives up its slot only with nothing queued
and an idle worker that a submission counts on is blocked in its receive, a
task that waits in the queue waits for a slot.  A worker whose timer expires
may leave behind a task that was queued for it, and two tasks may be queued for
one worker.
-/

namespace Fib
namespace Taskpool
namespace Elastic

/-- The dispatcher is executing a task itself. -/
def Dispatcher.isExecuting : Dispatcher -> Bool
  | .executing _ => true
  | _ => false

namespace Pool

variable {config : Config}
variable {pool next : Pool}

theorem someWaits_iff (pool : Pool) :
    pool.someWaits = true ↔ pool.dispatcher = .waiting ∨ Worker.waiting ∈ pool.workers := by
  simp [someWaits]

/-- A number of workers that `fork` has loaded leaves it a slot. -/
def Phase.Low
    (config : Config)
    (phase : Phase) : Prop :=
  ∀ active, phase = .loaded active -> active < config.maxWorkers

def Dispatcher.Low
    (config : Config)
    (dispatcher : Dispatcher) : Prop :=
  ∀ job active, dispatcher = .loaded job active -> active < config.maxWorkers

/-- A call that has found no slot is about to queue its task. -/
def Phase.queues : Phase -> Bool
  | .queueing | .sending | .blocked => true
  | _ => false

/-- A task is in the queue or about to be put there. -/
def Queued (pool : Pool) : Prop :=
  pool.tasks ≠ [] ∨ ∃ call ∈ pool.calls, Phase.queues call.phase = true

/-- What the dispatcher and the queue say about the slots. -/
structure Slots
    (config : Config)
    (pool : Pool) : Prop where
  active_le : pool.active ≤ config.maxWorkers
  full : pool.dispatcher.isExecuting = true -> pool.Queued ->
    pool.active = config.maxWorkers
  empty : pool.someWaits = true -> pool.tasks = []
  calls : ∀ call ∈ pool.calls, Phase.Low config call.phase
  dispatcher : Dispatcher.Low config pool.dispatcher

namespace Slots

variable {index : Nat}

section

variable (slots : Slots config pool)
include slots

/-- A call moves, and has found all slots taken if it queues its task. -/
theorem setCall
    (index : Nat)
    (call : Call)
    (low : Phase.Low config call.phase)
    (full : Phase.queues call.phase = true -> pool.dispatcher.isExecuting = true ->
      pool.active = config.maxWorkers) :
    Slots config (pool.setCall index call) :=
  { slots with
    full := fun executing queued => by
      rcases queued with tasks | ⟨other, present, queues⟩
      · exact slots.full executing (.inl tasks)
      rcases List.mem_or_eq_of_mem_set present with present | rfl
      · exact slots.full executing (.inr ⟨other, present, queues⟩)
      · exact full queues executing
    calls := fun other present => by
      rcases List.mem_or_eq_of_mem_set present with present | rfl
      · exact slots.calls other present
      · exact low }

/-- A call that queues its task has found all slots taken. -/
theorem full_of_queues
    (here : pool.calls[index]? = some call)
    (queues : Phase.queues call.phase = true)
    (executing : pool.dispatcher.isExecuting = true) :
    pool.active = config.maxWorkers :=
  slots.full executing (.inr ⟨call, List.mem_of_getElem? here, queues⟩)

/-- A worker moves, and is not blocked in a receive afterwards. -/
theorem setWorker
    (index : Nat)
    (worker : Worker)
    (awake : worker ≠ .waiting) :
    Slots config (pool.setWorker index worker) :=
  { slots with
    empty := fun waits => by
      refine slots.empty ?_
      rw [someWaits_iff] at waits ⊢
      refine waits.imp id fun present => ?_
      exact (List.mem_or_eq_of_mem_set present).resolve_right awake.symm }

theorem setDispatcher
    {dispatcher : Dispatcher}
    (awake : dispatcher ≠ .waiting)
    (full : dispatcher.isExecuting = true -> pool.active = config.maxWorkers)
    (low : Dispatcher.Low config dispatcher) :
    Slots config (pool.setDispatcher dispatcher) where
  active_le := slots.active_le
  full executing _ := full executing
  empty waits := by
    refine slots.empty ?_
    rw [someWaits_iff] at waits ⊢
    exact .inr (waits.resolve_left awake)
  calls := slots.calls
  dispatcher := low

/-- A receiver blocks when there is nothing to receive. -/
theorem setWaiting
    (index : Nat)
    (tasks : pool.tasks = []) :
    Slots config (pool.setWorker index .waiting) :=
  ⟨slots.active_le, slots.full, fun _ => tasks, slots.calls, slots.dispatcher⟩

theorem setDispatcherWaiting (tasks : pool.tasks = []) :
    Slots config (pool.setDispatcher .waiting) :=
  ⟨slots.active_le, nofun, fun _ => tasks, slots.calls, nofun⟩

theorem sent
    (full : pool.someWaits = false -> pool.dispatcher.isExecuting = true ->
      pool.active = config.maxWorkers)
    (sent : Sent config pool job next) :
    Slots config next := by
  cases sent with
  | handed receiver waits =>
    cases receiver with
    | dispatcher =>
      exact { @setDispatcher config pool slots (.received job) nofun nofun nofun with }
    | worker index =>
      exact { slots.setWorker index (.received job) nofun with }
  | buffered nobody room =>
    refine ⟨slots.active_le, fun executing _ => full nobody executing, fun waits => ?_,
      slots.calls, slots.dispatcher⟩
    have waits : pool.someWaits = true := waits
    rw [nobody] at waits
    cases waits

end

theorem next_low (call : Call) : Phase.Low config call.next.phase := by
  intro active loaded
  unfold Call.next at loaded
  split at loaded
  · cases loaded
  · cases loaded

theorem queues_next (call : Call) : Phase.queues call.next.phase = false := by
  unfold Call.next
  split
  · rfl
  · rfl

theorem received
    (slots : Slots config pool)
    (received : Received pool job next) :
    Slots config next := by
  cases received with
  | buffered rest free tasks =>
    refine ⟨slots.active_le, fun executing _ => slots.full executing (.inl (by simp [tasks])),
      fun waits => ?_, slots.calls, slots.dispatcher⟩
    have none := slots.empty waits
    rw [tasks] at none
    cases none
  | moved sender call rest here blocked tasks =>
    have full := slots.full_of_queues here (by rw [blocked]; rfl)
    refine ⟨slots.active_le, fun executing _ => full executing, fun waits => ?_,
      (slots.setCall sender _ (next_low call) fun _ => full).calls, slots.dispatcher⟩
    rw [slots.empty waits] at tasks
    cases tasks
    rfl

/-- A worker is forked while the slots are not all taken. -/
theorem fork
    (slots : Slots config pool)
    (free : pool.active < config.maxWorkers)
    (job : Job) :
    Slots config (pool.fork job) where
  active_le := by
    change pool.active + 1 ≤ config.maxWorkers
    omega
  full executing queued := by
    have full := slots.full executing queued
    omega
  empty waits := by
    refine slots.empty ?_
    rw [someWaits_iff] at waits ⊢
    refine waits.imp id fun present => ?_
    have present : Worker.waiting ∈ pool.workers ++ [.executing job] := present
    simpa using present
  calls := slots.calls
  dispatcher := slots.dispatcher

/-- While the dispatcher is executing a task, a worker gives up its slot only
with nothing in the queue or about to be put there, and if a slot is free, the
idle worker that a call has counted on is blocked in its receive. -/
def KeepsSlots
    (config : Config)
    (pool : Pool) : Label -> Prop
  | .worker index _ _ =>
    pool.workers[index]? = some .leaving -> pool.dispatcher.isExecuting = true ->
      pool.tasks = [] ∧ ∀ call ∈ pool.calls, Phase.queues call.phase = false
  | .call index _ =>
    (∃ call ∈ pool.calls[index]?, call.phase = .offering) ->
      pool.dispatcher.isExecuting = true ->
        pool.active = config.maxWorkers ∨ pool.someWaits = true
  | _ => True

theorem stepCall
    (slots : Slots config pool)
    (keeps : KeepsSlots config pool (.call index receiver))
    (taken : pool.stepCall config index receiver = some next) :
    Slots config next := by
  unfold Pool.stepCall at taken
  split at taken
  · cases taken
  next call here =>
  dsimp only at taken
  split at taken
  · split at taken
    · cases taken
    split at taken
    · cases taken
      exact slots.setCall index _ nofun nofun
    · cases taken
      exact { slots.setCall index { call with phase := .deciding } nofun nofun with }
  · split at taken
    · cases taken
      exact slots.setCall index _ nofun nofun
    · cases taken
      exact slots.setCall index _ nofun nofun
  · next offering =>
    split at taken
    · cases taken
    · cases taken
      exact slots.setCall index _ nofun nofun
    · next sent done =>
      cases taken
      have full (nobody : pool.someWaits = false) (executing : pool.dispatcher.isExecuting = true) :
          pool.active = config.maxWorkers :=
        (keeps ⟨call, here, offering⟩ executing).resolve_right (by simp [nobody])
      exact (slots.sent full (sent_of_send done)).setCall index _ nofun nofun
  · split at taken
    · next reached =>
      cases taken
      exact slots.setCall index _ nofun fun _ _ => le_antisymm slots.active_le reached
    next free =>
    cases taken
    refine slots.setCall index _ (fun active loaded => ?_) nofun
    cases loaded
    exact not_le.mp free
  · next active loaded =>
    split at taken
    · next same =>
      cases taken
      have free := slots.calls call (List.mem_of_getElem? here) active loaded
      exact (slots.fork (same ▸ free) _).setCall index _ nofun nofun
    · cases taken
      exact slots.setCall index _ nofun nofun
  · next queueing =>
    cases taken
    have full := slots.full_of_queues here (by rw [queueing]; rfl)
    exact { slots.setCall index { call with phase := .sending } nofun fun _ => full with }
  · next sending =>
    have full := slots.full_of_queues here (by rw [sending]; rfl)
    split at taken
    · cases taken
    · cases taken
      exact slots.setCall index _ nofun fun _ => full
    · next sent done =>
      cases taken
      refine (slots.sent (fun _ => full) (sent_of_send done)).setCall index _ (next_low call) ?_
      simp [queues_next]
  · cases taken
  · cases taken
    exact { slots.setCall index _ (next_low call) (by simp [queues_next]) with }
  · cases taken

section

variable (slots : Slots config pool)
include slots

theorem stepWorker
    (keeps : KeepsSlots config pool (.worker index timer sender))
    (taken : pool.stepWorker index timer sender = some next) :
    Slots config next := by
  unfold Pool.stepWorker at taken
  split at taken
  · cases taken
  next worker here =>
  split at taken
  · cases taken
    exact { slots.setWorker index .executed nofun with }
  · cases taken
    exact { slots.setWorker index .polling nofun with }
  · split at taken
    · cases taken
    · cases taken
      exact slots.setWorker index _ nofun
    · next received =>
      cases taken
      exact (slots.received (received_of_receive received)).setWorker index _ nofun
  · cases taken
    exact { slots.setWorker index .selecting nofun with }
  · split at taken
    · cases taken
      exact slots.setWorker index _ nofun
    split at taken
    · cases taken
    · next nothing =>
      cases taken
      exact slots.setWaiting index (empty_of_receive nothing).1
    · next received =>
      cases taken
      exact (slots.received (received_of_receive received)).setWorker index _ nofun
  · split at taken
    · cases taken
      exact slots.setWorker index _ nofun
    · cases taken
  · cases taken
    exact { slots.setWorker index (.executing _) nofun with }
  · cases taken
    exact { slots.setWorker index .leaving nofun with }
  · cases taken
    have moved : Slots config (pool.setWorker index .left) :=
      slots.setWorker index _ nofun
    refine ⟨?_, fun executing queued => ?_, moved.empty, moved.calls, moved.dispatcher⟩
    · have bounded := slots.active_le
      change pool.active - 1 ≤ config.maxWorkers
      omega
    · obtain ⟨none, idle⟩ := keeps here executing
      rcases queued with tasks | ⟨call, present, queues⟩
      · exact absurd none tasks
      · rw [idle call present] at queues
        cases queues
  · cases taken
    exact { slots.setWorker index .gone nofun with }
  · cases taken

theorem stepDispatcher
    (taken : pool.stepDispatcher config byClose sender = some next) :
    Slots config next := by
  unfold Pool.stepDispatcher at taken
  split at taken
  · split at taken
    · split at taken
      · cases taken
        exact slots.setDispatcher nofun nofun nofun
      · cases taken
    split at taken
    · cases taken
    · next nothing =>
      split at taken
      · cases taken
      · cases taken
        exact slots.setDispatcherWaiting (empty_of_receive nothing).1
    · next received =>
      cases taken
      exact (slots.received (received_of_receive received)).setDispatcher nofun nofun nofun
  · split at taken
    · cases taken
      exact slots.setDispatcher nofun nofun nofun
    · cases taken
  · split at taken
    · next reached =>
      cases taken
      refine slots.setDispatcher nofun (fun _ => ?_) nofun
      exact le_antisymm slots.active_le reached
    next free =>
    cases taken
    refine slots.setDispatcher nofun nofun fun job active loaded => ?_
    cases loaded
    exact not_le.mp free
  · next job active loaded =>
    split at taken
    · next same =>
      cases taken
      have free := slots.dispatcher job active loaded
      exact (slots.fork (same ▸ free) job).setDispatcher nofun nofun nofun
    · cases taken
      exact slots.setDispatcher nofun nofun nofun
  · cases taken
    exact { @setDispatcher config pool slots .executed nofun nofun nofun with }
  · cases taken
    exact { @setDispatcher config pool slots .selecting nofun nofun nofun with }
  · cases taken
    exact { @setDispatcher config pool slots .gone nofun nofun nofun with }
  · cases taken

theorem stepStop (taken : pool.stepStop index = some next) :
    Slots config next := by
  unfold Pool.stepStop at taken
  split at taken
  · cases taken
  · repeat' split at taken
    all_goals
      cases taken
      try exact { slots with }

theorem step
    (keeps : KeepsSlots config pool label)
    (taken : pool.step config label = some next) :
    Slots config next := by
  cases label with
  | submit size =>
    cases taken
    refine ⟨slots.active_le, fun executing queued => slots.full executing ?_, slots.empty,
      fun call present => ?_, slots.dispatcher⟩
    · refine queued.imp id fun ⟨call, present, queues⟩ => ⟨call, ?_, queues⟩
      refine (List.mem_append.mp present).resolve_right fun own => ?_
      rw [List.mem_singleton.mp own] at queues
      dsimp only at queues
      split at queues
      · cases queues
      · cases queues
    · rcases List.mem_append.mp present with present | present
      · exact slots.calls call present
      obtain rfl := List.mem_singleton.mp present
      intro active loaded
      split at loaded
      · cases loaded
      · cases loaded
  | stop =>
    cases taken
    exact { slots with }
  | call index receiver => exact slots.stepCall keeps taken
  | worker index timer sender => exact slots.stepWorker keeps taken
  | dispatcher byClose sender => exact slots.stepDispatcher taken
  | stopping index => exact slots.stepStop taken

end

end Slots

/-- No submission is in progress, every worker is executing a task or has
given up its slot, and the dispatcher is executing a task or is blocked until
there is one. -/
structure Quiet (pool : Pool) : Prop where
  calls : ∀ call ∈ pool.calls, call.phase = .returned
  workers : ∀ worker ∈ pool.workers,
    (∃ job, worker = .executing job) ∨ worker = .left ∨ worker = .gone
  dispatcher : (∃ job, pool.dispatcher = .executing job) ∨
    pool.dispatcher = .waiting

/-- When nothing but tasks that do not return keeps the pool from going on, a
task waits in the queue only if all slots are taken, provided that the slots are
kept while the dispatcher is executing a task. -/
theorem queued_only_without_slot
    {final : Pool}
    {labels : List Label}
    (keeps : Transition.Meets (Pool.step config) (Slots.KeepsSlots config) {} labels)
    (reached : Transition.run (Pool.step config) {} labels = some final)
    (quiet : Quiet final)
    (queued : final.tasks ≠ []) :
    final.active = config.maxWorkers ∧
      ∃ job, final.dispatcher = .executing job := by
  have initially : Slots config {} := by
    have positive := config.positive
    refine ⟨?_, nofun, fun _ => rfl, nofun, nofun⟩
    change (0 : Int) ≤ (config.maxConcurrent : Int) - 1
    omega
  have slots : Slots config final :=
    Transition.run_invariant_of_meets (fun _ _ _ slots keeps taken => slots.step keeps taken)
      initially keeps reached
  rcases quiet.dispatcher with ⟨job, executing⟩ | waiting
  · refine ⟨slots.full ?_ (.inl queued), job, executing⟩
    rw [executing]
    rfl
  · refine absurd (slots.empty ?_) queued
    rw [someWaits_iff]
    exact .inl waiting

/-- One worker, the dispatcher, and a queue for one task. -/
def twoSlots : Config where
  maxConcurrent := 2
  queueSize := 1
  positive := by decide

/-- A call of `submit` takes as many steps. -/
def submitted (index steps : Nat) : List Label :=
  .submit 1 :: List.replicate steps (.call index .dispatcher)

/-- A task is forked, and the dispatcher takes over the next one. -/
def bothBusy : List Label :=
  submitted 0 5 ++ submitted 1 5 ++ List.replicate 2 (.dispatcher false 0)

def reachedBy (labels : List Label) : Pool :=
  (Transition.run (Pool.step twoSlots) {} labels).getD {}

instance (config : Config) (pool : Pool) (label : Label) :
    Decidable (Slots.KeepsSlots config pool label) :=
  match label with
  | .worker _ _ _ => inferInstanceAs (Decidable (_ -> _ -> _))
  | .call _ _ => inferInstanceAs (Decidable (_ -> _ -> _))
  | .submit _ | .stop | .dispatcher _ _ | .stopping _ =>
    .isTrue trivial

/-- While the dispatcher is executing a task, the worker's task returns, its
timer expires, and it leaves.  The next task is forked, and the one after it
waits in the queue. -/
def idledOut : List Label :=
  bothBusy ++ List.replicate 5 (.worker 0 false 0) ++ [.worker 0 true 0] ++
    List.replicate 3 (.worker 0 false 0) ++ submitted 2 5 ++ submitted 3 5

theorem quiet_of_idledOut : Quiet (reachedBy idledOut) where
  calls := by decide
  workers worker present := by
    have only : (reachedBy idledOut).workers = [.gone, .executing ⟨2, 0⟩] := by decide
    rw [only, List.mem_cons, List.mem_singleton] at present
    rcases present with rfl | rfl
    · exact .inr (.inr rfl)
    · exact .inl ⟨_, rfl⟩
  dispatcher := .inl ⟨⟨1, 0⟩, by decide⟩

theorem queued_only_without_slot_idled_out :
    (reachedBy idledOut).tasks = [⟨3, 0⟩] ∧
      (reachedBy idledOut).active = twoSlots.maxWorkers :=
  ⟨by decide, (@queued_only_without_slot twoSlots _ idledOut
      (by decide) rfl quiet_of_idledOut (by decide)).1⟩

/-- The worker's task returns and its timer expires; before it gives up its
place among the idle workers, a third task is queued for it. -/
def expiry : List Label :=
  bothBusy ++ List.replicate 5 (.worker 0 false 0) ++ [.worker 0 true 0] ++
    submitted 2 4 ++ List.replicate 3 (.worker 0 false 0)

/-- The task stays in the queue while a slot is free. -/
theorem queued_although_slot_is_free :
    (Transition.run (Pool.step twoSlots) {} expiry).isSome = true ∧ Quiet (reachedBy expiry) ∧
      (reachedBy expiry).tasks = [⟨2, 0⟩] ∧
      (reachedBy expiry).active < twoSlots.maxWorkers := by
  refine ⟨by decide, ⟨by decide, fun worker present => ?_, ?_⟩, by decide,
    by decide⟩
  · have only : (reachedBy expiry).workers = [.gone] := by decide
    rw [only, List.mem_singleton] at present
    exact .inr (.inr present)
  · exact .inl ⟨⟨1, 0⟩, by decide⟩

end Pool
end Elastic
end Taskpool
end Fib
