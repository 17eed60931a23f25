import Fib.Engine.Discipline

/-!
# What the sections promise

Two promises are read off the stacks.  Queued output is tended: a write edge
is to come, or somebody flushes, will flush, or will close.  Unread bytes are
tracked: their edge is undelivered or noted, reads are paused, a worker is
going to read, or a refresh is on its way.  Every section passes on what it
promised.
-/

namespace Fib
namespace Engine

open Goroutines

/-! ## Queued output -/

/-- A goroutine that will flush queued output, close the connection, or
report the write error to the caller of `Flush`. -/
def flushes
    (stack : List Section)
    (locals : Locals) : Bool :=
  stack.any Section.owesFlush || failing stack locals ||
    (locals.err.isSome && stack.any Section.returnsFlush)

/-- Queued output has a write edge to come, or is being looked after. -/
def World.outputTended (world : World) : Bool :=
  world.full || world.writeEdge || world.flushFailed ||
    world.conn.pendingEvents.evOut || world.conn.flushing ||
    world.conn.corked

theorem SameOutput.outputTended_eq
    {before after : World}
    (same : SameOutput before after) :
    after.outputTended = before.outputTended := by
  simp only [World.outputTended, same.full, same.writeEdge,
    same.flushFailed, same.pendingEvents, same.flushing, same.corked]

variable {config : Config} {first : Section} {answer : Answer} {world : World}
variable {locals : Locals} {outcome : Result}

variable {rest : List Section}

section

variable (formed : disciplined (first :: rest) = true)
variable (executed : exec config first answer world locals = some outcome)
include formed executed

/-- A corked connection has a worker that will uncork it. -/
theorem exec_corked (corked : outcome.shared.conn.corked = true) :
    (world.conn.corked = true ∧ first.isUncork = false) ∨ (rest.any Section.isUncork = true ∧
        rest.any Section.closesRound = true) := by
  have placed := placed_of_disciplined formed
  rcases (exec_conduct executed).corked corked with before | rfl | ⟨n, rfl⟩
  · exact .inl before
  · simp only [Section.placed, Bool.and_eq_true] at placed
    exact .inr ⟨placed.1.2, placed.2⟩
  · simp only [Section.placed, Bool.and_eq_true] at placed
    exact .inr placed

/-- A goroutine keeps the promise of what is below the section it ran. -/
theorem exec_flushes
    (opened : outcome.shared.conn.isOpen = true)
    (noFlush : first.owesFlush = false)
    (noReturn : first.returnsFlush = false)
    (promised : flushes (first :: rest) locals = true) :
    flushes (outcome.next ++ rest) outcome.locals = true := by
  simp only [flushes, Bool.or_eq_true, Bool.and_eq_true] at promised ⊢
  rcases promised with (owes | fails) | ⟨failed, returns⟩
  · exact .inl (.inl (any_append_of_any_cons noFlush owes))
  · exact .inl (.inr (exec_failing formed executed opened fails))
  refine .inr ⟨?_, any_append_of_any_cons noReturn returns⟩
  refine ((exec_conduct executed).failed ?_).2 failed
  intro deferred same
  subst same
  obtain rfl := eq_nil_of_isRound formed rfl
  simp [Section.returnsFlush] at returns

theorem exec_output
    (opened : outcome.shared.conn.isOpen = true)
    (waiting : outcome.shared.conn.queue.isEmpty = false)
    (tended : world.conn.queue.isEmpty = false ->
      world.outputTended = true ∨ flushes (first :: rest) locals = true) :
    outcome.shared.outputTended = true ∨ flushes (outcome.next ++ rest) outcome.locals = true := by
  have passedOn := exec_flushes formed executed opened
  have sends (effect : SendEffect world locals outcome)
      (keeps : flushes (first :: rest) locals = true ->
        flushes (outcome.next ++ rest) outcome.locals = true) :
      outcome.shared.outputTended = true ∨
        flushes (outcome.next ++ rest) outcome.locals = true := by
    obtain ⟨_, _, full, _, _, shared, stillFull, nonempty⟩ := effect.shared
    rw [shared] at waiting ⊢
    simp only [World.outputTended, Bool.or_eq_true] at tended ⊢
    grind
  cases first with
  | send data copyData =>
    exact sends (send_sendEffect executed) (passedOn rfl rfl)
  | sendParts first second =>
    exact sends (sendParts_sendEffect executed) (passedOn rfl rfl)
  | sendFile segment =>
    simp only [exec, sendFile, continueWith] at executed
    repeat' split at executed
    all_goals cases executed
    · exact (tended waiting).imp_right (passedOn rfl rfl)
    · exact (tended waiting).imp_right (passedOn rfl rfl)
    · exact .inr (by simp [flushes, Section.owesFlush])
    next blocked =>
    simp only [Connection.canWriteDirectlyLocked] at blocked
    simp only [World.outputTended, Bool.or_eq_true] at tended ⊢
    have := passedOn rfl rfl
    grind
  | uncork =>
    simp only [exec, uncork, continueWith] at executed
    split at executed
    · cases executed
      exact .inr (by simp [flushes, Section.owesFlush])
    next idle =>
    cases executed
    have notCorked : world.conn.corked = false := by
      simpa [waiting] using idle
    refine (tended waiting).imp (fun before => ?_) (passedOn rfl rfl)
    simpa [World.outputTended, notCorked] using before
  | flushOutput =>
    simp only [exec, flushOutput, continueWith] at executed
    repeat' split at executed
    all_goals cases executed
    · next closing =>
      simp only [Connection.isOpen] at opened
      grind
    · next flushing => exact .inl (by simp [World.outputTended, flushing])
    · exact .inl (by simp [World.outputTended])
  | flushStep =>
    cases flushStep_flushEffect executed with
    | goesOn => exact .inr (by simp [flushes, Section.owesFlush])
    | stops _ _ _ _ _ _ ends =>
      simp only [waiting, Bool.false_eq_true, false_or] at ends
      exact .inl (by simp [World.outputTended, ends])
    | fails err =>
      have placed := placed_of_disciplined formed
      simp only [Section.placed, Bool.or_eq_true] at placed
      rcases placed with closes | returns
      · simp [flushes, failing, Locals.fail, Locals.usable, closes]
      · simp [flushes, Locals.fail, returns]
  | closeOnError =>
    simp only [exec, closeWithError, continueWith] at executed
    split at executed
    · cases executed
      simp [Connection.isOpen] at opened
    next fine =>
    cases executed
    refine (tended waiting).imp_right fun before => ?_
    simpa [flushes, failing, fine, Section.owesFlush, Section.closesRound, Section.isRound,
      Section.isCloseWithError] using before
  | returnFlush =>
    cases executed
    cases failed : locals.err.isSome with
    | true => exact .inl (by simp [World.outputTended])
    | false =>
      refine (tended waiting).imp (fun before => ?_) fun before => ?_
      · simpa [failed] using before
      · simpa [flushes, failing, failed, Section.owesFlush, Section.closesRound, Section.isRound,
          Section.isCloseWithError] using before
  | process deferred =>
    obtain rfl := eq_nil_of_isRound formed rfl
    have quiet : flushes [.process deferred] locals = false := by
      simp [flushes, failing, Section.owesFlush, Section.closesRound,
        Section.isCloseWithError, Section.returnsFlush]
    simp only [exec, process, continueWith] at executed
    split at executed
    all_goals
      cases executed
      have before := (tended waiting).resolve_right (by simp [quiet])
      simp only [World.outputTended, Events.union_evOut, Bool.or_eq_true] at before ⊢
    · grind
    · simp only [flushes, List.append_nil, List.any_cons, List.any_nil,
        Section.owesFlush, Events.union_evOut]
      grind
  | roundOut events =>
    obtain rfl := eq_nil_of_isRound formed rfl
    simp only [exec, roundOut, continueWith] at executed
    split at executed
    all_goals cases executed
    · exact .inr (by simp [flushes, Section.owesFlush])
    next idle =>
    refine (tended waiting).imp_right fun before => ?_
    cases usable : locals.usable with
    | true =>
      simp [flushes, failing, usable, Section.owesFlush,
        Section.closesRound, Section.isCloseWithError,
        Section.returnsFlush] at before
      simp [usable, before] at idle
      simp [idle] at waiting
    | false =>
      simp [flushes, failing, usable, Section.closesRound]
  | noteEvent events =>
    simp only [exec, noteEvent, Connection.noteEvent, continueWith] at executed
    repeat' split at executed
    all_goals cases executed
    · simp only [Connection.isOpen] at opened
      grind
    all_goals
      refine (tended waiting).imp (fun before => ?_) (passedOn rfl rfl)
      simp only [World.outputTended, Events.union_evOut] at before ⊢
      grind
  | redeliverRead =>
    simp only [exec, redeliverRead, Connection.noteEvent, continueWith] at executed
    repeat' split at executed
    all_goals
      cases executed
      refine (tended waiting).imp (fun before => ?_) (passedOn rfl rfl)
      simp only [World.outputTended, Events.union_evOut] at before ⊢
      grind
  | closeConnection err =>
    simp only [exec, closeConnection, continueWith] at executed
    split at executed
    all_goals
      cases executed
      simp_all [Connection.isOpen]
  | cork | recork n =>
    cases executed
    exact .inl (by simp [World.outputTended])
  | _ =>
    have same := (exec_frame executed).output rfl
    rw [same.outputTended_eq]
    exact (tended (same.queue ▸ waiting)).imp_right (passedOn rfl rfl)

end

/-! ## Waiting input -/

/-- A worker that will read, hand the read on or close, or the loop about to
report what waits in the socket. -/
def reads
    (config : Config)
    (stack : List Section)
    (locals : Locals) : Bool :=
  (stack.any Section.isRound && stack.any (Section.owesRead config)) ||
    failing stack locals || stack.any Section.resumesRead

/-- A worker about to ask for a refresh, or the loop about to carry one
out. -/
def refreshes (stack : List Section) : Bool :=
  stack.any Section.isRefreshConnection ||
    (stack.any Section.isRound && stack.any Section.asksRefresh)

/-- Unread bytes are known, or reads are paused. -/
def World.inputNoted (world : World) : Bool :=
  world.readEdge || world.conn.pendingEvents.evIn || world.conn.readPaused

/-- A refresh is in the command queue. -/
def World.refreshQueued (world : World) : Bool :=
  world.commands.contains .refresh

/-- Unread bytes are accounted for by the world or by one goroutine;
`elsewhere` tells whether another goroutine owes a refresh. -/
def inputTracked
    (config : Config)
    (elsewhere : Bool)
    (world : World)
    (stack : List Section)
    (locals : Locals) : Bool :=
  world.inputNoted || reads config stack locals ||
    (world.conn.readStalled &&
      (world.refreshQueued || refreshes stack || elsewhere))

variable {stack : List Section}

theorem any_mono
    (implies : ∀ pending, property pending = true -> weaker pending = true)
    (holds : stack.any property = true) :
    stack.any weaker = true := by
  rw [List.any_eq_true] at holds ⊢
  obtain ⟨pending, present, holds⟩ := holds
  exact ⟨pending, present, implies pending holds⟩

theorem isRound_of_closesRound (closes : stack.any Section.closesRound = true) :
    stack.any Section.isRound = true := by
  refine any_mono (fun pending closing => ?_) closes
  cases pending <;> first | rfl | simp [Section.closesRound] at closing

theorem owesRead_of_isRead
    (config : Config)
    (read : stack.any Section.isRead = true) :
    stack.any (Section.owesRead config) = true := by
  refine any_mono (fun pending reading => ?_) read
  cases pending <;> first | rfl | simp [Section.isRead] at reading

/-- A goroutine keeps the promise of what is below the section it ran. -/
theorem exec_reads
    (formed : disciplined (first :: rest) = true)
    (executed : exec config first answer world locals = some outcome)
    (opened : outcome.shared.conn.isOpen = true)
    (sameRound : ∀ deferred, first ≠ .process deferred)
    (noRead : first.owesRead config = false)
    (noResume : first.resumesRead = false)
    (promised : reads config (first :: rest) locals = true) :
    reads config (outcome.next ++ rest) outcome.locals = true := by
  simp only [reads, Bool.or_eq_true, Bool.and_eq_true] at promised ⊢
  rcases promised with (⟨round, owes⟩ | fails) | resumes
  · refine .inl (.inl ⟨?_, any_append_of_any_cons noRead owes⟩)
    rw [List.any_append, (exec_conduct executed).round sameRound]
    exact round
  · exact .inl (.inr (exec_failing formed executed opened fails))
  · exact .inr (any_append_of_any_cons noResume resumes)

theorem exec_refreshes
    (executed : exec config first answer world locals = some outcome)
    (sameRound : ∀ deferred, first ≠ .process deferred)
    (noRefresh : first.isRefreshConnection = false)
    (noRequest : first.asksRefresh = false)
    (promised : refreshes (first :: rest) = true) :
    refreshes (outcome.next ++ rest) = true := by
  simp only [refreshes, Bool.or_eq_true, Bool.and_eq_true] at promised ⊢
  rcases promised with refreshing | ⟨round, asks⟩
  · exact .inl (any_append_of_any_cons noRefresh refreshing)
  · refine .inr ⟨?_, any_append_of_any_cons noRequest asks⟩
    rw [List.any_append, (exec_conduct executed).round sameRound]
    exact round

section

variable (formed : disciplined (first :: rest) = true)
variable (executed : exec config first answer world locals = some outcome)
variable (opened : outcome.shared.conn.isOpen = true)
variable (tracked : inputTracked config elsewhere world (first :: rest) locals = true)
include formed executed opened tracked

/-- A section that neither touches the input nor owes anything for it. -/
theorem inputTracked_of_same
    (sameRound : ∀ deferred, first ≠ .process deferred)
    (noRead : first.owesRead config = false)
    (noResume : first.resumesRead = false)
    (untouched : first.touchesInput = false) :
    inputTracked config elsewhere outcome.shared (outcome.next ++ rest) outcome.locals = true := by
  have same := (exec_frame executed).input untouched
  have noRefresh : first.isRefreshConnection = false := by
    cases first <;> first | rfl | simp [Section.touchesInput] at untouched
  have noRequest : first.asksRefresh = false := by
    cases first <;> first | rfl | simp [Section.touchesInput] at untouched
  have keepsReads := exec_reads formed executed opened sameRound noRead noResume
  have keepsRefreshes : refreshes (first :: rest) = true ->
      refreshes (outcome.next ++ rest) = true :=
    exec_refreshes executed sameRound noRefresh noRequest
  simp only [inputTracked, World.inputNoted, World.refreshQueued,
    same.readEdge, same.pendingEvents, same.readPaused, same.readStalled,
    same.commands, Bool.or_eq_true, Bool.and_eq_true] at tracked ⊢
  grind

/-- The sections of a round pass on the read they owe. -/
theorem exec_input_round (round : first.isRound = true) :
    inputTracked config elsewhere outcome.shared (outcome.next ++ rest) outcome.locals = true := by
  obtain rfl := eq_nil_of_isRound formed round
  have keepsFailing := exec_failing formed executed opened
  have noRefresh : refreshes [first] = false := by
    cases first <;> simp [refreshes, Section.isRefreshConnection, Section.asksRefresh,
        Section.isRound] at round ⊢
  have noResume : first.resumesRead = false := by
    cases first <;> simp [Section.resumesRead, Section.isRound] at round ⊢
  have owesOr : world.inputNoted = true ∨ first.owesRead config = true ∨
      failing [first] locals = true ∨
      (world.conn.readStalled = true ∧ (world.refreshQueued = true ∨ elsewhere = true)) := by
    simp only [inputTracked, reads, noRefresh, noResume, round, List.any_cons,
      List.any_nil] at tracked
    grind
  cases first with
  | process deferred =>
    simp only [exec, process, continueWith] at executed
    split at executed
    all_goals
      cases executed
      simp only [inputTracked, reads, World.inputNoted, World.refreshQueued,
        Events.union_evIn, List.append_nil, List.any_cons, List.any_nil,
        Section.isRound, Section.owesRead, failing, Section.closesRound,
        Section.isCloseWithError] at owesOr ⊢
      grind
  | roundOut _ | roundPri _ | roundEnd _ _ =>
    simp only [exec, roundOut, roundPri, roundEnd, continueWith] at executed
    split at executed
    all_goals
      cases executed
      simp only [inputTracked, reads, List.append_nil, List.any_cons,
        List.any_nil, Section.isRound, Section.owesRead]
        at owesOr keepsFailing ⊢
      grind
  | roundIn events =>
    simp only [exec, roundIn, continueWith] at executed
    repeat' split at executed
    all_goals cases executed
    · simp [inputTracked, reads, Section.isRound, Section.owesRead, deferredRead]
    · simp [inputTracked, reads, Section.isRound, Section.owesRead]
    · simp only [inputTracked, reads, List.append_nil, List.any_cons,
        List.any_nil, Section.isRound, Section.owesRead, failing,
        Section.closesRound, Section.isCloseWithError] at owesOr ⊢
      grind
  | _ => simp [Section.isRound] at round

/-- A worker that reads passes on the read it owes. -/
theorem exec_input_reading
    (reading : first = .cork ∨ first = .read ∨ first = .stall ∨
      ∃ n, first = .watermark n ∨ first = .watermarkAgain n ∨
        first = .recork n)
    (unread : 0 < outcome.shared.unread) :
    inputTracked config elsewhere outcome.shared (outcome.next ++ rest) outcome.locals = true := by
  have placed := placed_of_disciplined formed
  have closes : rest.any Section.closesRound = true := by
    rcases reading with rfl | rfl | rfl | ⟨n, rfl | rfl | rfl⟩ <;>
      simp only [Section.placed, Bool.and_eq_true] at placed <;>
      exact placed.2
  have round := isRound_of_closesRound closes
  have ofOwed (owed : (outcome.next ++ rest).any (Section.owesRead config) = true) :
      inputTracked config elsewhere outcome.shared (outcome.next ++ rest)
        outcome.locals = true := by
    simp only [inputTracked, reads, owed, List.any_append, round]
    simp
  have ofUnusable (unusable : outcome.locals.usable = false) :
      inputTracked config elsewhere outcome.shared (outcome.next ++ rest)
        outcome.locals = true := by
    simp only [inputTracked, reads, failing, unusable, List.any_append, closes]
    simp
  have ofSame : first.owesRead config = false -> first.resumesRead = false ->
      first.touchesInput = false ->
      inputTracked config elsewhere outcome.shared (outcome.next ++ rest)
        outcome.locals = true := fun noRead noResume untouched =>
    inputTracked_of_same formed executed opened tracked
      (by rintro deferred rfl; simp at reading) noRead noResume untouched
  rcases reading with rfl | rfl | rfl | ⟨n, rfl | rfl | rfl⟩
  · simp only [Section.placed, Bool.and_eq_true] at placed
    apply ofOwed
    rw [List.any_append, owesRead_of_isRead config placed.1.1, Bool.or_true]
  · simp only [exec, read, continueWith] at executed
    split at executed
    · next n took =>
      split at executed
      · next taken =>
        cases executed
        have whole : config.readBufferSize ≤ n := by
          simp only at unread
          omega
        apply ofOwed
        simp [Section.owesRead, whole]
      · simp at executed
    · cases executed
      exact ofOwed (by simp [Section.owesRead])
    · split at executed
      · cases executed
        simp_all
      · simp at executed
    · split at executed
      · cases executed
        simp_all
      · simp at executed
    · cases executed
      exact ofUnusable (by simp [Locals.fail, Locals.usable])
  · simp only [Section.placed, Bool.and_eq_true] at placed
    cases executed
    simp only [inputTracked, refreshes, List.nil_append, placed.1, round]
    simp
  · by_cases whole : config.readBufferSize ≤ n
    · simp only [exec, watermark, readOn, continueWith] at executed
      repeat' split at executed
      all_goals cases executed
      · exact ofOwed (by simp [Section.owesRead, whole])
      · omega
      · exact ofOwed (by simp [Section.owesRead])
    · exact ofSame (by simpa [Section.owesRead] using whole) rfl rfl
  · by_cases whole : config.readBufferSize ≤ n
    · simp only [exec, watermarkAgain, continueWith] at executed
      repeat' split at executed
      all_goals cases executed
      · next failed =>
        refine ofUnusable ?_
        simp [Locals.usable, Option.isNone_eq_false_iff.mpr failed]
      · exact ofOwed (by simp [Section.owesRead])
      · exact ofOwed (by simp [Section.owesRead, whole])
    · exact ofSame (by simpa [Section.owesRead] using whole) rfl rfl
  by_cases whole : config.readBufferSize ≤ n
  · simp only [exec, recork, readOn, continueWith, Option.some.injEq,
      if_neg (Nat.not_lt.mpr whole)] at executed
    subst executed
    exact ofOwed (by simp [Section.owesRead])
  · exact ofSame (by simpa [Section.owesRead] using whole) rfl rfl

/-- Unread bytes stay accounted for, whichever section runs. -/
theorem exec_input (unread : 0 < outcome.shared.unread) :
    inputTracked config elsewhere outcome.shared (outcome.next ++ rest) outcome.locals = true := by
  have wasOpen := (exec_frame executed).opened opened
  have keepsReads := exec_reads formed executed opened
  have keepsRefreshes : (∀ deferred, first ≠ .process deferred) ->
      first.isRefreshConnection = false -> first.asksRefresh = false ->
      refreshes (first :: rest) = true ->
      refreshes (outcome.next ++ rest) = true :=
    exec_refreshes executed
  have cases := tracked
  simp only [inputTracked, Bool.or_eq_true, Bool.and_eq_true] at cases
  cases first with
  | process _ | roundOut _ | roundPri _ | roundIn _ | roundEnd _ _ =>
    exact exec_input_round formed executed opened tracked rfl
  | cork | read | stall | watermark n | watermarkAgain n | recork n =>
    exact exec_input_reading formed executed opened tracked (by simp) unread
  | request command =>
    cases executed
    have keeps := keepsReads (by simp) rfl rfl
    cases command with
    | refresh =>
      simp only [inputTracked, World.inputNoted, World.refreshQueued,
        List.contains_append, List.nil_append] at cases keeps ⊢
      grind
    | close err =>
      have keepsRefreshes := keepsRefreshes (by simp) rfl rfl
      simp only [inputTracked, World.inputNoted, World.refreshQueued,
        List.contains_append, List.nil_append]
        at cases keeps keepsRefreshes ⊢
      grind
  | noteEvent events =>
    have keeps := keepsReads (by simp) rfl rfl
    have keepsRefreshes := keepsRefreshes (by simp) rfl rfl
    simp only [exec, noteEvent, Connection.noteEvent, continueWith] at executed
    repeat' split at executed
    all_goals
      cases executed
      simp only [inputTracked, World.inputNoted, World.refreshQueued,
        Events.union_evIn, Connection.isOpen] at cases wasOpen ⊢
      grind
  | drainCommands =>
    have keeps := keepsReads (by simp) rfl rfl
    have keepsRefreshes := keepsRefreshes (by simp) rfl rfl
    cases executed
    have drained (queued : world.refreshQueued = true) :
        refreshes (world.commands.map commandSection ++ rest) = true := by
      have present : Command.refresh ∈ world.commands := by
        simpa [World.refreshQueued] using queued
      have pushed : (world.commands.map commandSection).any Section.isRefreshConnection = true :=
        List.any_eq_true.mpr ⟨_, List.mem_map.mpr ⟨_, present, rfl⟩, rfl⟩
      simp [refreshes, List.any_append, pushed]
    simp only [inputTracked, World.inputNoted] at cases ⊢
    grind
  | refreshConnection =>
    have keeps := keepsReads (by simp) rfl rfl
    have usable : (!world.conn.closing && !world.conn.closed) = true :=
      wasOpen
    simp only [exec, refreshConnection, usable, continueWith, Option.some.injEq] at executed
    cases pause : (pauseDecision config answer.pendingTotal
        world.conn.pendingBytes world.conn.readPaused).1 with
    | true =>
      subst executed
      simp [inputTracked, World.inputNoted, pause]
    | false =>
      rw [pause] at executed
      cases wasPaused : world.conn.readPaused with
      | true =>
        subst executed
        simp [inputTracked, reads, wasPaused, Section.resumesRead]
      | false =>
        cases wasStalled : world.conn.readStalled with
        | true =>
          subst executed
          simp [inputTracked, reads, wasPaused, wasStalled, Section.resumesRead]
        | false =>
          simp only [inputTracked, World.inputNoted, wasPaused] at cases ⊢
          grind
  | redeliverRead =>
    simp only [exec, redeliverRead, Connection.noteEvent, continueWith] at executed
    repeat' split at executed
    all_goals
      cases executed
      simp only [inputTracked, World.inputNoted, Events.union_evIn, Connection.isOpen] at wasOpen ⊢
      grind
  | setReadPaused paused =>
    simp only [exec, setReadPaused, closeWithError, continueWith] at executed
    split at executed
    · cases executed
      simp [Connection.isOpen] at opened
    cases paused with
    | false =>
      cases executed
      simp [inputTracked, World.inputNoted]
    | true =>
      have keeps := keepsReads (by simp) rfl rfl
      have keepsRefreshes := keepsRefreshes (by simp) rfl rfl
      simp only [inputTracked, World.inputNoted, World.refreshQueued] at cases ⊢
      grind
  | _ =>
    exact inputTracked_of_same formed executed opened tracked (by simp) rfl rfl rfl

end

/-! ## Paused reads and deferred reads -/

section

variable (executed : exec config first answer world locals = some outcome)
include executed

/-- Read interest is armed, reads are paused, or the loop is about to arm
it. -/
theorem exec_armed
    (opened : outcome.shared.conn.isOpen = true)
    (agrees : ∀ paused, first = .setReadPaused paused -> world.conn.readPaused = paused)
    (armed : world.readArmed = true ∨ world.conn.readPaused = true ∨
      (first :: rest).any Section.rearms = true) :
    outcome.shared.readArmed = true ∨ outcome.shared.conn.readPaused = true ∨
      (outcome.next ++ rest).any Section.rearms = true := by
  have wasOpen := (exec_frame executed).opened opened
  have passedOn (idle : first.rearms = false)
      (sameArmed : outcome.shared.readArmed = world.readArmed)
      (samePaused : outcome.shared.conn.readPaused = world.conn.readPaused) :
      outcome.shared.readArmed = true ∨ outcome.shared.conn.readPaused = true ∨
        (outcome.next ++ rest).any Section.rearms = true := by
    rw [sameArmed, samePaused]
    exact armed.imp_right (Or.imp_right (any_append_of_any_cons idle))
  cases first with
  | setReadPaused paused =>
    have agrees := agrees paused rfl
    simp only [exec, setReadPaused, closeWithError, continueWith] at executed
    split at executed
    · cases executed
      simp [Connection.isOpen] at opened
    cases executed
    cases paused with
    | false => exact .inl rfl
    | true => exact .inr (.inl agrees)
  | refreshConnection =>
    have usable : (!world.conn.closing && !world.conn.closed) = true :=
      wasOpen
    simp only [exec, refreshConnection, usable, continueWith] at executed
    cases executed
    cases pause : (pauseDecision config answer.pendingTotal
        world.conn.pendingBytes world.conn.readPaused).1 with
    | true => exact .inr (.inl rfl)
    | false =>
      cases wasPaused : world.conn.readPaused with
      | true =>
        simp [Section.rearms]
      | false =>
        rw [wasPaused] at pause armed
        simp only [List.any_cons, Section.rearms, Bool.false_or,
          Bool.false_eq_true, false_or] at armed
        rcases armed with armed | rearms
        · exact .inl armed
        · exact .inr (.inr (by
            rw [List.any_append, rearms, Bool.or_true]))
  | request _ | process _ | cork | read | stall | noteEvent _
  | drainCommands | redeliverRead =>
    refine passedOn rfl ?_ ((exec_conduct executed).readPaused rfl)
    simp only [exec, process, cork, read, stall, noteEvent, drainCommands,
      redeliverRead, continueWith] at executed
    repeat' split at executed
    all_goals
      first
        | (cases executed
           rfl)
        | simp at executed
  | _ =>
    have same := (exec_frame executed).input rfl
    exact passedOn rfl same.readArmed same.readPaused

end

/-- A noted read is with a worker, or waits for a write edge. -/
def World.readAwaited (world : World) : Bool :=
  world.conn.scheduled || world.full || world.writeEdge

/-- Only a worker that gives up may leave a noted read to a write edge that
does not come. -/
theorem exec_readAwaited
    (formed : disciplined (first :: rest) = true)
    (executed : exec config first answer world locals = some outcome)
    (opened : outcome.shared.conn.isOpen = true)
    (noted : outcome.shared.conn.pendingEvents.evIn = true)
    (awaited : world.conn.pendingEvents.evIn = true -> world.readAwaited = true) :
    outcome.shared.readAwaited = true ∨
      ∃ deferred, first = .process deferred ∧ deferred.evIn = true ∧
        world.conn.pendingEvents.union deferred = deferred := by
  have wasOpen := (exec_frame executed).opened opened
  have placed := placed_of_disciplined formed
  have sends (effect : SendEffect world locals outcome) : outcome.shared.readAwaited = true := by
    obtain ⟨_, _, full, _, _, shared, stillFull, -⟩ := effect.shared
    rw [shared] at noted ⊢
    have before := awaited noted
    simp only [World.readAwaited, Bool.or_eq_true] at before ⊢
    grind
  cases first with
  | send data copyData => exact .inl (sends (send_sendEffect executed))
  | sendParts first second =>
    exact .inl (sends (sendParts_sendEffect executed))
  | flushStep =>
    have before := awaited (((exec_frame executed).input rfl).pendingEvents ▸ noted)
    cases flushStep_flushEffect executed with
    | goesOn | fails => exact .inl before
    | stops _ _ _ _ _ stillFull =>
      simp only [World.readAwaited, Bool.or_eq_true] at before ⊢
      grind
  | process deferred =>
    simp only [exec, process, continueWith] at executed
    split at executed
    · next gaveUp =>
      cases executed
      exact .inr ⟨deferred, rfl, gaveUp ▸ noted, gaveUp⟩
    · cases executed
      simp at noted
  | noteEvent events | redeliverRead =>
    simp only [exec, noteEvent, redeliverRead, Connection.noteEvent, continueWith] at executed
    simp only [World.readAwaited, Connection.isOpen] at awaited noted wasOpen ⊢
    grind
  | recovered | refused => simp [Section.placed] at placed
  | sendFile _ | uncork | flushOutput | returnFlush | cork | recork _
  | closeConnection _ | submitReady =>
    simp only [exec, sendFile, uncork, flushOutput, cork, recork,
      closeConnection, submitReady, continueWith] at executed
    repeat' split at executed
    all_goals
      cases executed
      exact .inl (awaited noted)
  | _ =>
    have frame := exec_frame executed
    have output := frame.output rfl
    have owner := frame.owner rfl
    have before := awaited (output.pendingEvents ▸ noted)
    refine .inl ?_
    simpa only [World.readAwaited, output.full, output.writeEdge, owner.scheduled] using before

/-- Who owes a flush is a worker, or will report its error to a caller. -/
theorem round_or_returnsFlush_of_owesFlush
    (formed : disciplined stack = true)
    (owes : stack.any Section.owesFlush = true) :
    stack.any Section.isRound = true ∨ stack.any Section.returnsFlush = true := by
  induction stack with
  | nil => simp at owes
  | cons first rest ih =>
    have placed := placed_of_disciplined formed
    have below : rest.any Section.isRound = true ∨ rest.any Section.returnsFlush = true ->
        (first :: rest).any Section.isRound = true ∨
          (first :: rest).any Section.returnsFlush = true := by
      simp only [List.any_cons, Bool.or_eq_true]
      exact Or.imp .inr .inr
    have formedBelow : disciplined rest = true := by
      rw [disciplined_cons, Bool.and_eq_true] at formed
      exact formed.2
    cases first with
    | flushOutput | flushStep =>
      simp only [Section.placed, Bool.or_eq_true] at placed
      exact below (placed.imp_left isRound_of_closesRound)
    | roundOut events => exact .inl rfl
    | _ => exact below (ih formedBelow owes)

theorem round_or_returnsFlush_of_flushes
    (formed : disciplined stack = true)
    (promised : flushes stack locals = true) :
    stack.any Section.isRound = true ∨ stack.any Section.returnsFlush = true := by
  simp only [flushes, failing, Bool.or_eq_true, Bool.and_eq_true] at promised
  rcases promised with (owes | ⟨-, closes⟩ | ⟨round, -⟩) | ⟨-, returns⟩
  · exact round_or_returnsFlush_of_owesFlush formed owes
  · exact .inl (isRound_of_closesRound closes)
  · exact .inl round
  · exact .inr returns

end Engine
end Fib
