import Fib.Engine.Promises

/-!
# No readable bytes are stranded

Readiness is edge-triggered: an edge that is dropped does not come back.  A
worker that finds output queued defers the read and gives the connection up,
trusting the write edge that follows a write the socket cut short.

No bytes are stranded as long as a worker gives up a deferred read only while
the output that deferred it still waits for the socket; an application
goroutine that flushes the same queue at that moment breaks exactly this.
-/

namespace Fib
namespace Engine

open Goroutines

/-! ## Starting a goroutine and events of the socket -/

/-- What starting a goroutine does: it leaves the world alone, or takes a
task of the pool. -/
structure EntryEffect
    (index : Nat)
    (world : World)
    (outcome : Result) : Prop where
  resumes : outcome.unwind = false
  formed : disciplined outcome.next = true
  loop : outcome.next.any Section.isLoop = true -> index = 0
  settled : ∀ paused, .setReadPaused paused ∉ outcome.next
  shared : ∃ tasks, outcome.shared = { world with tasks }
  owner : OwnerEffect world outcome.shared false (outcome.next.any Section.isRound)

variable {index : Nat} {outcome : Result}

theorem entry_effect (entered : entry index first world = some outcome) :
    EntryEffect index world outcome := by
  simp only [entry, continueWith] at entered
  repeat' split at entered
  all_goals
    first
      | (cases entered
         refine ⟨rfl, rfl, ?_, by simp, ⟨_, rfl⟩, ?_⟩
         · simp_all [Section.isLoop]
         · first
           | exact .keeps rfl rfl rfl
           | (refine .takes ?_ rfl rfl
              simp only [World.runs]
              omega))
      | simp at entered

/-! ## One owner -/

/-- Who has the connection. -/
inductive Holder
  | nobody
  | task
  | worker (index : Nat)
  deriving DecidableEq

/-- One task or worker has the connection, or nobody has it, as is the case
while it is not scheduled. -/
structure OwnedBy
    (holder : Holder)
    (system : System) : Prop where
  runs : system.shared.runs = if holder = .task then 1 else 0
  rounds : ∀ index, (system.goroutine index).stack.any Section.isRound =
    decide (holder = .worker index)
  free : system.shared.conn.scheduled = false -> holder = .nobody

theorem OwnedBy.of_effect
    (index : Nat)
    (owned : OwnedBy holder system)
    (others : ∀ other, other ≠ index -> next.goroutine other = system.goroutine other)
    (effect : OwnerEffect system.shared next.shared
      ((system.goroutine index).stack.any Section.isRound)
      ((next.goroutine index).stack.any Section.isRound)) :
    ∃ holder, OwnedBy holder next := by
  obtain ⟨runs, rounds, free⟩ := owned
  have all {after : Holder}
      (here : (next.goroutine index).stack.any Section.isRound = decide (after = .worker index))
      (there : ∀ other, other ≠ index -> (holder = .worker other ↔ after = .worker other))
      (other : Nat) :
      (next.goroutine other).stack.any Section.isRound = decide (after = .worker other) := by
    by_cases same : other = index
    · rw [same, here]
    · rw [others other same, rounds, decide_eq_decide]
      exact there other same
  cases effect with
  | keeps sameRuns sameScheduled kept =>
    exact ⟨holder, sameRuns.trans runs, all (kept.trans (rounds index)) fun _ _ => .rfl,
      sameScheduled ▸ free⟩
  | givesUp sameRuns unscheduled wasRound noRound =>
    obtain rfl : holder = .worker index := by simpa [rounds] using wasRound
    exact ⟨.nobody, sameRuns.trans runs,
      all (by simp [noRound]) fun other different => by simp [different.symm], fun _ => rfl⟩
  | submits oneMore wasFree scheduled kept =>
    obtain rfl := free wasFree
    exact ⟨.task, by simp [oneMore, runs], all (by simp [kept, rounds]) (by simp),
      by simp [scheduled]⟩
  | takes oneLess sameScheduled round =>
    obtain rfl : holder = .task := by
      by_contra other
      rw [if_neg other] at runs
      omega
    refine ⟨.worker index, ?_,
      all (by simp [round]) fun other different => by simp [different.symm],
      fun unscheduled => ?_⟩
    · rw [if_pos rfl] at runs
      simp
      omega
    · cases free (sameScheduled ▸ unscheduled)

variable {system : System}

/-! ## The invariant -/

/-- What is on the stack of a goroutine fits together and fits it. -/
structure Fits
    (readPaused : Bool)
    (index : Nat)
    (stack : List Section) : Prop where
  formed : disciplined stack = true
  loop : stack.any Section.isLoop = true -> index = 0
  pausing : ∀ paused, .setReadPaused paused ∈ stack -> readPaused = paused

/-- The invariant behind readiness. -/
structure Readiness
    (config : Config)
    (system : System) : Prop where
  fits : ∀ index, Fits system.shared.conn.readPaused index (system.goroutine index).stack
  owned : ∃ holder, OwnedBy holder system
  flushing : system.shared.conn.flushing = true ->
    ∃ index, (system.goroutine index).stack.any Section.isFlushStep = true
  corked : system.shared.conn.corked = true ->
    ∃ index, (system.goroutine index).stack.any Section.isUncork = true ∧
      (system.goroutine index).stack.any Section.isRound = true
  output : system.shared.conn.isOpen = true ->
    system.shared.conn.queue.isEmpty = false ->
      system.shared.outputTended = true ∨
        ∃ index, flushes (system.goroutine index).stack
          (system.goroutine index).locals = true
  armed : system.shared.conn.isOpen = true ->
    system.shared.readArmed = true ∨
      system.shared.conn.readPaused = true ∨
      ∃ index, (system.goroutine index).stack.any Section.rearms = true
  input : system.shared.conn.isOpen = true -> 0 < system.shared.unread ->
    system.shared.inputNoted = true ∨
      (∃ index, reads config (system.goroutine index).stack
        (system.goroutine index).locals = true) ∨
      (system.shared.conn.readStalled = true ∧
        (system.shared.refreshQueued = true ∨
          ∃ index, refreshes (system.goroutine index).stack = true))
  awaited : system.shared.conn.isOpen = true ->
    system.shared.conn.pendingEvents.evIn = true ->
      system.shared.readAwaited = true

theorem readiness_initial (config : Config) :
    Readiness config initial where
  fits := fun _ => ⟨rfl, by simp [initial], by simp [initial]⟩
  owned := ⟨.nobody, rfl, fun _ => rfl, fun _ => rfl⟩
  flushing := by simp [initial]
  corked := by simp [initial]
  output := by simp [initial]
  armed := fun _ => .inl rfl
  input := by simp [initial]
  awaited := by simp [initial]

/-- The output that made a worker defer a read still waits for the socket:
it is queued, no call of `SendFile` or `Flush` is flushing, and none failed
to. -/
structure OutputStillWaits (system : System) : Prop where
  queued : system.shared.conn.queue.isEmpty = false
  noFlushCall : ∀ index,
    (system.goroutine index).stack.any Section.returnsFlush = false
  noFailedFlush : system.shared.flushFailed = false

/-- Worker `index` is about to give up an open connection with a deferred
read. -/
def givesUpRead
    (system : System)
    (index : Nat) : Bool :=
  match (system.goroutine index).stack with
  | .process deferred :: _ =>
    deferred.evIn && system.shared.conn.isOpen &&
      decide (system.shared.conn.pendingEvents.union deferred = deferred)
  | _ => false

/-- The condition on one step: a worker gives up a deferred read only while
the output still waits for the socket, no handler panics, and the pool refuses
no task. -/
def Undisturbed (system : System) : SystemMove -> Prop
  | .run index answer =>
    (answer.panics = false ∧ answer.refuses = false) ∧
      (givesUpRead system index = true -> OutputStillWaits system)
  | _ => True

variable {config : Config}

/-- A worker that gives up while the output still waits leaves the read to a
write edge that comes. -/
theorem Readiness.write_edge_to_come
    (readiness : Readiness config system)
    (stack : (system.goroutine index).stack = .process deferred :: rest)
    (gaveUp : system.shared.conn.pendingEvents.union deferred = deferred)
    (opened : system.shared.conn.isOpen = true)
    (waits : OutputStillWaits system) :
    system.shared.full = true ∨ system.shared.writeEdge = true := by
  have formed := stack ▸ (readiness.fits index).formed
  obtain rfl := eq_nil_of_isRound formed rfl
  obtain ⟨holder, owned⟩ := readiness.owned
  obtain rfl : holder = .worker index := by
    have round := owned.rounds index
    rw [stack] at round
    exact of_decide_eq_true round.symm
  have onlyWorker (other : Nat)
      (round : (system.goroutine other).stack.any Section.isRound = true) :
      (system.goroutine other).stack = [.process deferred] := by
    rw [owned.rounds, decide_eq_true_eq, Holder.worker.injEq] at round
    rw [← round, stack]
  have noOut : system.shared.conn.pendingEvents.evOut = false := by
    have placed := placed_of_disciplined formed
    have same := congrArg Events.evOut gaveUp
    simp only [Section.placed, Bool.and_eq_true, Bool.not_eq_true',
      Events.union_evOut] at placed same
    simpa [placed.2] using same
  have noFlush (other : Nat) (promised : (system.goroutine other).stack.any Section.isRound = true ∨
        (system.goroutine other).stack.any Section.returnsFlush = true) :
      (system.goroutine other).stack = [.process deferred] := by
    rcases promised with round | returns
    · exact onlyWorker other round
    · rw [waits.noFlushCall other] at returns
      exact absurd returns (by simp)
  have notFlushing : system.shared.conn.flushing = false := by
    rw [Bool.eq_false_iff]
    intro flushing
    obtain ⟨other, step⟩ := readiness.flushing flushing
    have owes : (system.goroutine other).stack.any Section.owesFlush = true := by
      refine any_mono (fun pending isStep => ?_) step
      cases pending <;> first | rfl | simp [Section.isFlushStep] at isStep
    have flushes := round_or_returnsFlush_of_owesFlush (readiness.fits other).formed owes
    rw [noFlush other flushes] at step
    simp [Section.isFlushStep] at step
  have notCorked : system.shared.conn.corked = false := by
    rw [Bool.eq_false_iff]
    intro corked
    obtain ⟨other, uncorks, round⟩ := readiness.corked corked
    rw [onlyWorker other round] at uncorks
    simp [Section.isUncork] at uncorks
  rcases readiness.output opened waits.queued with tended | ⟨other, promised⟩
  · simpa [World.outputTended, waits.noFailedFlush, noOut, notFlushing, notCorked] using tended
  · rw [noFlush other (round_or_returnsFlush_of_flushes
      (readiness.fits other).formed promised)] at promised
    simp [flushes, failing, Section.owesFlush, Section.closesRound,
      Section.isCloseWithError, Section.returnsFlush] at promised

/-! ## A goroutine runs a section -/

/-- Goroutine `index` of a system that has the invariant runs `first`. -/
structure Ran
    (config : Config)
    (system : System)
    (index : Nat)
    (first : Section)
    (rest : List Section)
    (outcome : Result) : Prop where
  readiness : Readiness config system
  stack : (system.goroutine index).stack = first :: rest
  resumes : outcome.unwind = false
  executed : ∃ answer, (answer.panics = false ∧ answer.refuses = false) ∧
    exec config first answer system.shared
      (system.goroutine index).locals = some outcome

namespace Ran

section

variable {config : Config} {system : System} {index : Nat} {first : Section}
  {rest : List Section} {outcome : Result}

section

variable (ran : Ran config system index first rest outcome)
include ran

theorem formed :
    disciplined (first :: rest) = true :=
  ran.stack ▸ (ran.readiness.fits index).formed

theorem self :
    (system.commit index outcome rest).goroutine index =
      { stack := outcome.next ++ rest, locals := outcome.locals } := by
  rw [Pool.commit_self, Outcome.stackOver_eq ran.resumes]

theorem wasOpen (opened : outcome.shared.conn.isOpen = true) :
    system.shared.conn.isOpen = true := by
  obtain ⟨answer, -, executed⟩ := ran.executed
  exact (exec_frame executed).opened opened

/-- A promise of the stacks that the section itself did not make is kept. -/
theorem passedOn
    (idle : property first = false)
    (holds : ∃ other, (system.goroutine other).stack.any property = true) :
    ∃ other, ((system.commit index outcome rest).goroutine other).stack.any property = true := by
  obtain ⟨other, holds⟩ := holds
  refine ⟨other, ?_⟩
  by_cases same : other = index
  · subst same
    rw [ran.self]
    exact any_append_of_any_cons idle (ran.stack ▸ holds)
  · rw [Pool.commit_other _ _ _ same]
    exact holds

theorem after_fits (other : Nat) :
    Fits outcome.shared.conn.readPaused other
      ((system.commit index outcome rest).goroutine other).stack := by
  obtain ⟨answer, calm, executed⟩ := ran.executed
  have conduct := exec_conduct executed
  have fits := ran.readiness.fits
  by_cases same : other = index
  · subst same
    rw [ran.self]
    refine ⟨(exec_disciplined calm ran.formed executed).2, fun loops => ?_,
      fun paused registers => ?_⟩
    · refine (fits other).loop ?_
      rw [List.any_append, Bool.or_eq_true] at loops
      rw [ran.stack, List.any_cons, Bool.or_eq_true]
      exact loops.imp_left conduct.loop
    · rcases List.mem_append.mp registers with pushed | below
      · exact conduct.pausing paused pushed
      · have formed := ran.formed
        simp only [disciplined_cons, Bool.and_eq_true, Bool.not_eq_true',
          List.any_eq_false] at formed
        exact absurd rfl (formed.1.2 _ below)
  rw [Pool.commit_other _ _ _ same]
  refine { fits other with pausing := fun paused registers => ?_ }
  cases refreshes : first.isRefreshConnection with
  | false =>
    rw [conduct.readPaused refreshes]
    exact (fits other).pausing paused registers
  | true =>
    -- Both goroutines would be the event loop.
    have isFirst : first = .refreshConnection := by
      cases first <;> simp [Section.isRefreshConnection] at refreshes ⊢
    have otherLoop : other = 0 := (fits other).loop (List.any_eq_true.mpr ⟨_, registers, rfl⟩)
    have indexLoop : index = 0 :=
      (fits index).loop (by simp [ran.stack, isFirst, Section.isLoop])
    exact absurd (otherLoop.trans indexLoop.symm) same

theorem after_owned :
    ∃ holder, OwnedBy holder (system.commit index outcome rest) := by
  obtain ⟨answer, calm, executed⟩ := ran.executed
  obtain ⟨_, owned⟩ := ran.readiness.owned
  refine owned.of_effect index
    (fun other different => Pool.commit_other _ _ _ different) ?_
  rw [ran.self, ran.stack]
  exact exec_ownerEffect calm ran.formed executed

theorem after_flushing (flushing : outcome.shared.conn.flushing = true) :
    ∃ other, ((system.commit index outcome rest).goroutine
      other).stack.any Section.isFlushStep = true := by
  obtain ⟨answer, -, executed⟩ := ran.executed
  rcases (exec_conduct executed).flushing flushing with ⟨before, idle⟩ | pushed
  · exact ran.passedOn idle (ran.readiness.flushing before)
  · exact ⟨index, by rw [ran.self, List.any_append, pushed, Bool.true_or]⟩

theorem after_corked (corked : outcome.shared.conn.corked = true) :
    ∃ other,
      ((system.commit index outcome rest).goroutine other).stack.any Section.isUncork = true ∧
      ((system.commit index outcome rest).goroutine other).stack.any Section.isRound = true := by
  obtain ⟨answer, -, executed⟩ := ran.executed
  rcases exec_corked ran.formed executed corked with
    ⟨before, idle⟩ | ⟨uncorks, closes⟩
  · obtain ⟨other, uncorks, round⟩ := ran.readiness.corked before
    refine ⟨other, ?_⟩
    by_cases same : other = index
    · subst same
      rw [ran.stack] at uncorks round
      rw [ran.self]
      refine ⟨any_append_of_any_cons idle uncorks, ?_⟩
      cases isRound : first.isRound with
      | false => exact any_append_of_any_cons isRound round
      | true =>
        obtain rfl := eq_nil_of_isRound ran.formed isRound
        simp [idle] at uncorks
    · rw [Pool.commit_other _ _ _ same]
      exact ⟨uncorks, round⟩
  · refine ⟨index, ?_⟩
    rw [ran.self]
    simp only [List.any_append, uncorks, isRound_of_closesRound closes]
    simp

theorem after_output
    (opened : outcome.shared.conn.isOpen = true)
    (waiting : outcome.shared.conn.queue.isEmpty = false) :
    outcome.shared.outputTended = true ∨
      ∃ other, flushes ((system.commit index outcome rest).goroutine other).stack
        ((system.commit index outcome rest).goroutine other).locals = true := by
  obtain ⟨answer, -, executed⟩ := ran.executed
  by_cases elsewhere : ∃ other, other ≠ index ∧ flushes (system.goroutine other).stack
        (system.goroutine other).locals = true
  · obtain ⟨other, different, promised⟩ := elsewhere
    refine .inr ⟨other, ?_⟩
    rw [Pool.commit_other _ _ _ different]
    exact promised
  have here (wasWaiting : system.shared.conn.queue.isEmpty = false) :
      system.shared.outputTended = true ∨
        flushes (first :: rest) (system.goroutine index).locals = true := by
    refine (ran.readiness.output (ran.wasOpen opened) wasWaiting).imp_right
      fun ⟨other, promised⟩ => ?_
    by_cases same : other = index
    · rw [← ran.stack, ← same]
      exact promised
    · exact absurd ⟨other, same, promised⟩ elsewhere
  refine (exec_output ran.formed executed opened waiting here).imp_right fun promised => ⟨index, ?_⟩
  rw [ran.self]
  exact promised

theorem after_armed (opened : outcome.shared.conn.isOpen = true) :
    outcome.shared.readArmed = true ∨ outcome.shared.conn.readPaused = true ∨
      ∃ other, ((system.commit index outcome rest).goroutine
        other).stack.any Section.rearms = true := by
  obtain ⟨answer, -, executed⟩ := ran.executed
  have agrees (paused : Bool) (isFirst : first = .setReadPaused paused) :
      system.shared.conn.readPaused = paused :=
    (ran.readiness.fits index).pausing paused (by simp [ran.stack, isFirst])
  have here (armed : system.shared.readArmed = true ∨ system.shared.conn.readPaused = true ∨
      (first :: rest).any Section.rearms = true) :=
    (exec_armed executed opened agrees armed).imp_right (Or.imp_right fun rearms =>
        (⟨index, by rw [ran.self]; exact rearms⟩ : ∃ other,
          ((system.commit index outcome rest).goroutine other).stack.any Section.rearms = true))
  rcases ran.readiness.armed (ran.wasOpen opened) with
    armed | paused | ⟨other, rearms⟩
  · exact here (.inl armed)
  · exact here (.inr (.inl paused))
  by_cases same : other = index
  · exact here (.inr (.inr (by rw [← ran.stack, ← same]; exact rearms)))
  · refine .inr (.inr ⟨other, ?_⟩)
    rw [Pool.commit_other _ _ _ same]
    exact rearms

theorem after_input
    (opened : outcome.shared.conn.isOpen = true)
    (unread : 0 < outcome.shared.unread) :
    outcome.shared.inputNoted = true ∨ (∃ other, reads config
        ((system.commit index outcome rest).goroutine other).stack
        ((system.commit index outcome rest).goroutine other).locals = true) ∨
      (outcome.shared.conn.readStalled = true ∧ (outcome.shared.refreshQueued = true ∨
          ∃ other, refreshes ((system.commit index outcome rest).goroutine other).stack =
              true)) := by
  obtain ⟨answer, -, executed⟩ := ran.executed
  have wasUnread : 0 < system.shared.unread :=
    Nat.lt_of_lt_of_le unread (exec_conduct executed).unread
  by_cases readsElsewhere : ∃ other, other ≠ index ∧ reads config (system.goroutine other).stack
        (system.goroutine other).locals = true
  · obtain ⟨other, different, promised⟩ := readsElsewhere
    refine .inr (.inl ⟨other, ?_⟩)
    rw [Pool.commit_other _ _ _ different]
    exact promised
  -- `elsewhere` tells whether another goroutine owes a refresh.
  obtain ⟨elsewhere, accounts⟩ : ∃ elsewhere : Bool, elsewhere = true ↔
      ∃ other, other ≠ index ∧ refreshes (system.goroutine other).stack = true :=
    ⟨_, @decide_eq_true_iff _ (Classical.propDecidable _)⟩
  have tracked : inputTracked config elsewhere system.shared (first :: rest)
      (system.goroutine index).locals = true := by
    simp only [inputTracked, Bool.or_eq_true, Bool.and_eq_true]
    rcases ran.readiness.input (ran.wasOpen opened) wasUnread with
      noted | ⟨other, promised⟩ | ⟨stalled, queued | ⟨other, promised⟩⟩
    · exact .inl (.inl noted)
    · by_cases same : other = index
      · subst same
        exact .inl (.inr (ran.stack ▸ promised))
      · exact absurd ⟨other, same, promised⟩ readsElsewhere
    · exact .inr ⟨stalled, .inl (.inl queued)⟩
    · by_cases same : other = index
      · subst same
        exact .inr ⟨stalled, .inl (.inr (ran.stack ▸ promised))⟩
      · exact .inr ⟨stalled, .inr (accounts.mpr ⟨other, same, promised⟩)⟩
  have after := exec_input ran.formed executed opened tracked unread
  simp only [inputTracked, Bool.or_eq_true, Bool.and_eq_true] at after
  rcases after with (noted | promised) | ⟨stalled, (queued | promised) | refreshesElsewhere⟩
  · exact .inl noted
  · exact .inr (.inl ⟨index, by rw [ran.self]; exact promised⟩)
  · exact .inr (.inr ⟨stalled, .inl queued⟩)
  · exact .inr (.inr ⟨stalled, .inr ⟨index, by
      rw [ran.self]; exact promised⟩⟩)
  · obtain ⟨other, different, promised⟩ := accounts.mp refreshesElsewhere
    refine .inr (.inr ⟨stalled, .inr ⟨other, ?_⟩⟩)
    rw [Pool.commit_other _ _ _ different]
    exact promised

theorem after_awaited
    (waits : givesUpRead system index = true -> OutputStillWaits system)
    (opened : outcome.shared.conn.isOpen = true)
    (noted : outcome.shared.conn.pendingEvents.evIn = true) :
    outcome.shared.readAwaited = true := by
  obtain ⟨answer, -, executed⟩ := ran.executed
  have wasOpen := ran.wasOpen opened
  rcases exec_readAwaited ran.formed executed opened noted (ran.readiness.awaited wasOpen) with
    awaited | ⟨deferred, rfl, evIn, gaveUp⟩
  · exact awaited
  have givesUp : givesUpRead system index = true := by
    simp [givesUpRead, ran.stack, evIn, wasOpen, gaveUp]
  have edge := ran.readiness.write_edge_to_come ran.stack gaveUp wasOpen (waits givesUp)
  simp only [exec, process, gaveUp, if_true, continueWith] at executed
  simp only [World.readAwaited]
  grind

end

end

end Ran

section

variable (readiness : Readiness config system)
include readiness

theorem Readiness.of_ran
    (undisturbed : Undisturbed system (.run index answer))
    (stack : (system.goroutine index).stack = first :: rest)
    (executed : exec config first answer system.shared
      (system.goroutine index).locals = some outcome) :
    Readiness config (system.commit index outcome rest) := by
  obtain ⟨calm, waits⟩ := undisturbed
  have formed := stack ▸ (readiness.fits index).formed
  have ran : Ran config system index first rest outcome :=
    ⟨readiness, stack, (exec_disciplined calm formed executed).1, answer, calm, executed⟩
  exact
    { fits := ran.after_fits
      owned := ran.after_owned
      flushing := ran.after_flushing
      corked := ran.after_corked
      output := ran.after_output
      armed := ran.after_armed
      input := ran.after_input
      awaited := ran.after_awaited waits }

/-! ## A goroutine starts, or the socket changes -/

theorem Readiness.of_started
    (idle : (system.goroutine index).stack = [])
    (effect : EntryEffect index system.shared outcome) :
    Readiness config (system.commit index outcome []) := by
  have self : (system.commit index outcome []).goroutine index =
      { stack := outcome.next, locals := outcome.locals } := by
    rw [Pool.commit_self, Outcome.stackOver_eq effect.resumes, List.append_nil]
  obtain ⟨tasks, same⟩ := effect.shared
  obtain ⟨_, owned⟩ := readiness.owned
  have passedOn (property : List Section -> Locals -> Prop) (never : ∀ locals, ¬ property [] locals)
      (holds : ∃ other, property (system.goroutine other).stack (system.goroutine other).locals) :
      ∃ other, property ((system.commit index outcome []).goroutine other).stack
        ((system.commit index outcome []).goroutine other).locals := by
    obtain ⟨other, holds⟩ := holds
    refine ⟨other, ?_⟩
    by_cases isIndex : other = index
    · rw [isIndex, idle] at holds
      exact absurd holds (never _)
    · rw [Pool.commit_other _ _ _ isIndex]
      exact holds
  refine ⟨fun other => ?_, owned.of_effect index (fun _ => Pool.commit_other _ _ _) ?_,
    ?_, ?_, ?_, ?_, ?_, ?_⟩
  · rw [Pool.commit_shared, same]
    by_cases isIndex : other = index
    · rw [isIndex, self]
      exact ⟨effect.formed, effect.loop,
        fun paused registers => absurd registers (effect.settled paused)⟩
    · rw [Pool.commit_other _ _ _ isIndex]
      exact readiness.fits other
  · rw [self, idle]
    exact effect.owner
  · rw [Pool.commit_shared, same]
    exact fun flushing => passedOn (fun stack _ => stack.any Section.isFlushStep = true)
      (by simp) (readiness.flushing flushing)
  · rw [Pool.commit_shared, same]
    exact fun corked => passedOn (fun stack _ => stack.any Section.isUncork = true ∧
        stack.any Section.isRound = true)
      (by simp) (readiness.corked corked)
  · rw [Pool.commit_shared, same]
    exact fun opened waiting => (readiness.output opened waiting).imp_right
      (passedOn (fun stack locals => flushes stack locals = true)
        (by simp [flushes, failing]))
  · rw [Pool.commit_shared, same]
    exact fun opened => (readiness.armed opened).imp_right
      (Or.imp_right (passedOn (fun stack _ => stack.any Section.rearms = true)
        (by simp)))
  · rw [Pool.commit_shared, same]
    exact fun opened unread => (readiness.input opened unread).imp_right (Or.imp
        (passedOn (fun stack locals => reads config stack locals = true)
          (by simp [reads, failing]))
        (And.imp_right (Or.imp_right (passedOn (fun stack _ => refreshes stack = true)
          (by simp [refreshes])))))
  · rw [Pool.commit_shared, same]
    exact readiness.awaited

theorem Readiness.of_acted
    (acted : socketEvent event system.shared = some shared) :
    Readiness config { system with shared := shared } := by
  obtain ⟨holder, owned⟩ := readiness.owned
  cases event with
  | arrive n =>
    cases acted
    refine ⟨readiness.fits, ⟨holder, { owned with }⟩, readiness.flushing, readiness.corked,
      readiness.output, readiness.armed, ?_, readiness.awaited⟩
    intro opened unread
    by_cases nothing : n = 0
    · subst nothing
      simpa [World.refreshQueued] using
        readiness.input opened (by simpa using unread)
    rcases readiness.armed opened with armed | paused | ⟨other, rearms⟩
    · simp [World.inputNoted, armed, Nat.pos_of_ne_zero nothing]
    · exact .inl (by simp [World.inputNoted, paused])
    refine .inr (.inl ⟨other, ?_⟩)
    have resumes : (system.goroutine other).stack.any Section.resumesRead = true := by
      refine any_mono (fun pending isRearming => ?_) rearms
      cases pending <;> first | exact isRearming | simp [Section.rearms] at isRearming
    simp [reads, resumes]
  | room =>
    simp only [socketEvent] at acted
    split at acted
    · cases acted
      refine ⟨readiness.fits, ⟨holder, { owned with }⟩, readiness.flushing, readiness.corked,
        ?_, readiness.armed, readiness.input, ?_⟩
      · exact fun _ _ => .inl (by simp [World.outputTended])
      · exact fun _ _ => by simp [World.readAwaited]
    · simp at acted

theorem readiness_step
    (undisturbed : Undisturbed system move)
    (taken : step config system move = some next) :
    Readiness config next := by
  cases step_cases taken with
  | ran index answer first rest outcome stack executed =>
    exact readiness.of_ran undisturbed stack executed
  | started index first outcome idle entered =>
    exact readiness.of_started idle (entry_effect entered)
  | acted event shared acted => exact readiness.of_acted acted

end

/-! ## No bytes are stranded -/

/-- The event loop is carrying out a refresh of the connection. -/
def Section.carriesOutRefresh : Section -> Bool
  | .refreshConnection | .redeliverRead | .setReadPaused _ => true
  | _ => false

/-- Something will hand the unread bytes of a connection that is not
scheduled to a worker. -/
def Outstanding (system : System) : Prop :=
  system.shared.readEdge = true ∨
    ((system.shared.full = true ∨ system.shared.writeEdge = true) ∧
      system.shared.conn.pendingEvents.evIn = true) ∨
    Command.refresh ∈ system.shared.commands ∨
    (system.goroutine 0).stack.any Section.carriesOutRefresh = true ∨
    0 < system.shared.redeliver ∨
    system.shared.conn.readPaused = true

instance (system : System) : Decidable (Outstanding system) := by
  unfold Outstanding
  infer_instance

/-- The open connection is not scheduled although its socket holds unread
bytes that nothing outstanding will deliver. -/
def Stranded (system : System) : Prop :=
  system.shared.conn.isOpen = true ∧
    system.shared.conn.scheduled = false ∧
    0 < system.shared.unread ∧ ¬ Outstanding system

instance (system : System) : Decidable (Stranded system) := by
  unfold Stranded
  infer_instance

theorem Readiness.loop_any
    (readiness : Readiness config system)
    (onLoop : ∀ pending, property pending = true -> pending.carriesOutRefresh = true)
    (holds : (system.goroutine index).stack.any property = true) :
    (system.goroutine 0).stack.any Section.carriesOutRefresh = true := by
  have refreshing := any_mono onLoop holds
  have isLoop : (system.goroutine index).stack.any Section.isLoop = true := by
    refine any_mono (fun pending carries => ?_) refreshing
    cases pending <;> first | rfl | simp [Section.carriesOutRefresh] at carries
  rw [← (readiness.fits index).loop isLoop]
  exact refreshing

theorem Readiness.not_stranded
    (readiness : Readiness config system) :
    ¬ Stranded system := by
  rintro ⟨opened, unscheduled, unread, stranded⟩
  apply stranded
  obtain ⟨holder, owned⟩ := readiness.owned
  obtain rfl := owned.free unscheduled
  have noRounds (index : Nat) : (system.goroutine index).stack.any Section.isRound = false :=
    owned.rounds index
  rcases readiness.input opened unread with
    noted | ⟨index, promised⟩ | ⟨-, queued | ⟨index, promised⟩⟩
  · simp only [World.inputNoted, Bool.or_eq_true] at noted
    rcases noted with (edge | evIn) | paused
    · exact .inl edge
    · have awaited := readiness.awaited opened evIn
      refine .inr (.inl ⟨?_, evIn⟩)
      simpa [World.readAwaited, unscheduled] using awaited
    · exact .inr (.inr (.inr (.inr (.inr paused))))
  · have noClose : (system.goroutine index).stack.any Section.closesRound = false := by
      rw [Bool.eq_false_iff]
      intro closes
      have round := isRound_of_closesRound closes
      rw [noRounds index] at round
      exact absurd round (by simp)
    have resumes : (system.goroutine index).stack.any Section.resumesRead = true := by
      simpa [reads, failing, noRounds index, noClose] using promised
    refine .inr (.inr (.inr (.inl (readiness.loop_any ?_ resumes))))
    intro pending resuming
    cases pending <;> first | rfl | simp [Section.resumesRead] at resuming
  · exact .inr (.inr (.inl (by simpa [World.refreshQueued] using queued)))
  have refreshing : (system.goroutine index).stack.any Section.isRefreshConnection = true := by
    simpa [refreshes, noRounds index] using promised
  refine .inr (.inr (.inr (.inl (readiness.loop_any ?_ refreshing))))
  intro pending isRefresh
  cases pending <;> first | rfl | simp [Section.isRefreshConnection] at isRefresh

/-- In every run in which a worker gives up a deferred read only while the
output that deferred it still waits for the socket, no handler panics and the
pool refuses no task, no state reached strands readable bytes. -/
theorem no_bytes_stranded
    (config : Config)
    (moves : List SystemMove)
    {system : System}
    (undisturbed : Transition.Meets (step config) Undisturbed initial moves)
    (reached : Transition.run (step config) initial moves = some system) :
    ¬ Stranded system :=
  (Transition.run_invariant_of_meets (fun _ _ _ readiness meets taken =>
      readiness_step readiness meets taken)
    (readiness_initial config) undisturbed reached).not_stranded

/-- The loop notes a read edge and hands the connection to goroutine `2`,
which takes the event, finds output queued and defers the read. -/
def deferringMoves : List SystemMove :=
  [.env (.arrive 5), .start 0 (.noteEvent { evIn := true }), .run 0 {},
    .start 0 .resumeBudgetPaused, .run 0 {}, .run 0 {},
    .start 2 (.process {}), .run 2 {}, .run 2 {}, .run 2 {}, .run 2 {},
    .run 2 {}, .run 2 {}]

/-- The output was cut short by a full socket, so the deferred read comes back
with the write edge. -/
def waitingMoves : List SystemMove :=
  [.start 1 (.send [1, 2, 3] true), .run 1 { sys := .took 1 }] ++
    deferringMoves

theorem waitingMoves_undisturbed :
    Transition.Meets (step defaultConfig) Undisturbed initial waitingMoves := by
  have calm {system : System} {index : Nat} {answer : Answer}
      (goesOn : givesUpRead system index = false)
      (calm : answer.panics = false ∧ answer.refuses = false) :
      Undisturbed system (.run index answer) :=
    ⟨calm, fun givesUp => absurd (goesOn.symm.trans givesUp) (by simp)⟩
  repeat
    first
      | refine Transition.meets_cons trivial rfl ?_
      | refine Transition.meets_cons (calm rfl ⟨rfl, rfl⟩) rfl ?_
  refine Transition.meets_cons ⟨⟨rfl, rfl⟩, fun _ => ?_⟩ rfl trivial
  refine ⟨rfl, fun index => ?_, rfl⟩
  match index with
  | 0 => rfl
  | 1 => rfl
  | 2 => rfl
  | _ + 3 => rfl

theorem no_bytes_stranded_waiting :
    ∃ system, Transition.run (step defaultConfig) initial waitingMoves = some system ∧
      system.shared.conn.scheduled = false ∧
      system.shared.conn.isOpen = true ∧
      0 < system.shared.unread ∧
      ¬ Stranded system := by
  refine ⟨_, rfl, rfl, rfl, by decide, ?_⟩
  exact no_bytes_stranded defaultConfig waitingMoves waitingMoves_undisturbed rfl

/-- `SendFile` is flushing when the worker defers the read; the worker gives
up, and the flush then empties the queue without ever finding the socket
full. -/
def strandingMoves : List SystemMove :=
  [.start 1 (.sendFile { content := [1, 2], offset := 0, remaining := 2 }),
    .run 1 {}, .run 1 {}] ++
    deferringMoves ++
    [.run 1 { sys := .took 2 }, .run 1 {}, .run 1 {}]

theorem sendFile_strands_bytes :
    ∃ system, Transition.run (step defaultConfig) initial strandingMoves = some system ∧
      system.shared.conn.queue.isEmpty = true ∧
      (∀ index < 3, (system.goroutine index).stack = []) ∧
      Stranded system := by
  refine ⟨_, rfl, by decide, by decide, by decide⟩

end Engine
end Fib
