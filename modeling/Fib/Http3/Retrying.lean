import Fib.Http3.Client

/-!
# The ends of requests

Whatever becomes of connections and streams, a request that has got its outcome
keeps it, and one that the server declared unprocessed is sent again only once.
A section that queues a request again is counted from where it is decided on.
-/

namespace Fib
namespace Http3
namespace Client

variable {Key : Type} [DecidableEq Key]

/-- How often pending sections are to queue a request again. -/
def requeuing
    (r : Nat)
    (system : System Key) : Nat :=
  tally (fun thread => thread.stack.count (.enqueue r true)) system.threads

/-- The callback of a request has run if it is done, and it was queued again, or
is about to be, only if it is retried, and then once. -/
structure Once
    (r : Nat)
    (system : System Key) : Prop where
  answered : (system.shared.request r).outcome.isSome = (system.shared.request r).done
  requeued : (system.shared.request r).requeues.length + requeuing r system ≤
    (system.shared.request r).retried.toNat

/-- What a section does to a request, and to how often it is queued again. -/
structure Advances
    (code : Section)
    (r : Nat)
    (before after : Request Key)
    (follows : List Section) : Prop where
  answered : before.outcome.isSome = before.done -> after.outcome.isSome = after.done
  settled : before.done = true -> after.outcome = before.outcome
  requeued : after.requeues.length + follows.count (.enqueue r true) + before.retried.toNat ≤
    before.requeues.length + [code].count (.enqueue r true) + after.retried.toNat

theorem exec_advances
    (code : Section)
    (answer : Bool)
    (state : State Key)
    (r : Nat) :
    Advances code r (state.request r) ((exec code answer state).1.request r)
      (exec code answer state).2 := by
  have none {sections : List Section} (never : .enqueue r true ∉ sections) :
      sections.count (.enqueue r true) = 0 :=
    List.count_eq_zero.mpr never
  cases code
  case finishAbort r stream =>
    cases stream <;> constructor <;>
      simp [exec, State.finish, State.abandon, State.onRequest] <;> grind
  case goAwayDrain cc first =>
    refine ⟨id, fun _ => rfl, ?_⟩
    rw [exec, State.goAwayDrain, none (by simp)]
    exact Nat.le_refl _
  case closeDrain cc =>
    refine ⟨id, fun _ => rfl, ?_⟩
    rw [exec, State.closeDrain, none (by simp; grind)]
    exact Nat.le_refl _
  all_goals
    simp only [exec, State.enqueue, State.finish, State.retry, State.startWaiting,
      State.close, State.feed, State.reset, State.streamDone, State.ended, State.wait,
      State.abandon, State.afterwards]
    repeat' split
    all_goals
      constructor <;>
        simp [State.onRequest, State.onConn, State.onStream, State.onKey,
          List.count_eq_zero] <;> grind [Bool.toNat_le]

theorem Once.step
    {system next : System Key}
    (once : Once r system)
    (taken : step system label = some next) :
    Once r next ∧ ((system.shared.request r).done = true ->
      (next.shared.request r).outcome = (system.shared.request r).outcome) := by
  obtain ⟨answered, requeued⟩ := once
  cases stepped taken with
  | run index answer tag code rest here =>
    have advances := exec_advances code answer system.shared r
    have moved := tally_set (fun thread => thread.stack.count (.enqueue r true)) here
      ⟨tag, (exec code answer system.shared).2 ++ rest⟩
    have one := advances.requeued
    rw [List.count_append, ← List.singleton_append, List.count_append] at moved
    refine ⟨⟨advances.answered answered, ?_⟩, advances.settled⟩
    change _ + tally _ (system.threads.set _ _) ≤ _
    unfold requeuing at requeued
    dsimp only [Threads.System.moved]
    omega
  | dispatch cc event =>
    refine ⟨⟨answered, ?_⟩, fun _ => rfl⟩
    cases event <;> simpa [requeuing, Threads.System.spawn, callback] using requeued
  | request key =>
    refine ⟨⟨?_, ?_⟩, fun _ => ?_⟩ <;>
      simp [requeuing, Threads.System.spawn, State.onRequest] <;> grind [requeuing]
  | abort | close | dialed | idleFires | network =>
    refine ⟨⟨answered, ?_⟩, fun _ => rfl⟩
    simpa [requeuing, Threads.System.spawn] using requeued

/-- However the sections of the client interleave, the callback of a request has
run if the request is done, its outcome stays, and the request is sent again at
most once. -/
theorem requests_end_once
    [Inhabited Key]
    {idleTimeout : Bool}
    {labels : List (Label Key)}
    {final : System Key}
    (reached : Transition.run step (start idleTimeout) labels = some final)
    (r : Nat) :
    ((final.shared.request r).outcome.isSome = (final.shared.request r).done) ∧
      (final.shared.request r).requeues.length ≤ 1 ∧
      ∀ label next, step final label = some next -> (final.shared.request r).done = true ->
        (next.shared.request r).outcome = (final.shared.request r).outcome := by
  have once : Once r final :=
    Transition.run_invariant (fun _ _ _ once taken => (once.step taken).1)
      (⟨rfl, Nat.le_refl _⟩ : Once r (start idleTimeout)) reached
  have few := once.requeued
  have most := Bool.toNat_le (final.shared.request r).retried
  exact ⟨once.answered, by omega, fun _ _ taken => (once.step taken).2⟩

/-- The server declares a request unprocessed, which is sent again on another
stream and answered there. -/
def retriedRun : List (Label Unit) :=
  [.request (), .run 0 true, .run 0 true, .dialed 0 true, .run 1 true,
    .network 0 (.handshake 2), .dispatch 0] ++
    List.replicate 5 (.run 2 true) ++
    [.network 0 (.reset 0 true), .dispatch 0] ++
    List.replicate 10 (.run 3 true) ++
    [.network 0 (.data 1 .completes), .dispatch 0] ++
    List.replicate 5 (.run 4 true)

theorem requests_end_once_retried :
    ∃ final : System Unit, Transition.run step (start false) retriedRun = some final ∧
      (final.shared.request 0).outcome = some (.response 1) ∧
      (final.shared.request 0).requeues = [0] ∧
      (final.shared.request 0).done = true := by
  obtain ⟨final, reached, outcome, requeued⟩ :
      ∃ final : System Unit, Transition.run step (start false) retriedRun = some final ∧
        (final.shared.request 0).outcome = some (.response 1) ∧
        (final.shared.request 0).requeues = [0] :=
    Transition.exists_run_of_any (by decide +kernel)
  refine ⟨final, reached, outcome, requeued, ?_⟩
  rw [← (requests_end_once reached 0).1, outcome]
  rfl

end Client
end Http3
end Fib
