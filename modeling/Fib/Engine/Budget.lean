import Fib.Engine.Machine

/-!
# The connections the budget has paused

`refreshConnection` puts a connection whose reads the server-wide budget stops
on a list, and `resumeBudgetPaused` walks that list once the budget has
recovered.  The connection's flag is to say that it is on the list.  The
connections of an engine share nothing here but the total of the pending bytes,
which every section reads anew, and the list is their entries together.
-/

namespace Fib
namespace Engine
namespace Budget

/-- What happens to a connection between two steps of the event loop, or in
one. -/
inductive Move where
  /-- Other goroutines change neither the flag nor whether it is closed. -/
  | changed (change : Connection -> Connection)
  | refreshConnection (pendingTotal : Int)
  | closeConnection
  /-- A walk reads the total once more for each entry. -/
  | resumeBudgetPaused (pendingTotal : Int) (totals : Nat -> Int)

variable (config : Config)

/-- `refreshConnection`, up to the calls it ends with. -/
def refreshed
    (world : World)
    (pendingTotal : Int) : Option World :=
  (refreshConnection config { pendingTotal := pendingTotal } world {}).map (·.shared)

/-- One move, on the connection and its entries in the list. -/
def step (world : World) : Move -> Option World
  | .changed change =>
    some { world with
      conn := { change world.conn with
        budgetPaused := world.conn.budgetPaused
        closed := world.conn.closed } }
  | .refreshConnection pendingTotal => refreshed config world pendingTotal
  | .closeConnection => (closeConnection world {}).map (·.shared)
  | .resumeBudgetPaused pendingTotal totals =>
    if config.budgetResumeBytes < pendingTotal then some world
    else
      (List.range world.budgetEntries).foldlM
        (fun world turn => (resumeOne world {}).bind fun outcome =>
          refreshed config outcome.shared (totals turn))
        { world with budgetEntries := 0 }

/-- The connection is not resumed on its own account, and not closed, while it
is on the list. -/
def Undisturbed (world : World) : Move -> Prop
  | .refreshConnection pendingTotal =>
    0 < world.budgetEntries ->
      (pauseDecision config pendingTotal world.conn.pendingBytes world.conn.readPaused).1 = true
  | .closeConnection => world.budgetEntries = 0
  | _ => True

/-- The connection is listed once while it is flagged and not at all otherwise,
and it is open while it is listed. -/
structure Listed (world : World) : Prop where
  counted : world.budgetEntries = world.conn.budgetPaused.toNat
  isOpen : 0 < world.budgetEntries -> world.conn.closed = false

variable {config}

/-- A refresh keeps the list, unless it resumes a connection that is on it. -/
theorem Listed.refreshed
    (listed : Listed world)
    (stays : Undisturbed config world (.refreshConnection pendingTotal))
    (taken : refreshed config world pendingTotal = some next) :
    Listed next := by
  simp only [Budget.refreshed, refreshConnection, continueWith, Option.map_some,
    Option.some.injEq] at taken
  simp only [Undisturbed] at stays
  have counted := listed.counted
  have isOpen := listed.isOpen
  subst taken
  generalize pauseDecision _ _ _ _ = decision at stays ⊢
  cases flagged : world.conn.budgetPaused with
  | true =>
    rw [flagged] at counted
    have pauses := stays (by simp [counted])
    exact ⟨by simp [counted, pauses], by simpa [flagged] using isOpen⟩
  | false =>
    rw [flagged] at counted
    constructor <;> cases world.conn.closed <;> cases decision.1 <;> cases decision.2 <;>
      simp [counted]

theorem Listed.step
    (listed : Listed world)
    (undisturbed : Undisturbed config world move)
    (taken : step config world move = some next) :
    Listed next := by
  cases move with
  | changed change =>
    cases taken
    exact ⟨listed.counted, listed.isOpen⟩
  | refreshConnection pendingTotal => exact listed.refreshed undisturbed taken
  | closeConnection =>
    have counted := listed.counted
    simp only [Undisturbed] at undisturbed
    simp only [Budget.step, closeConnection] at taken
    split at taken <;> cases taken
    · exact listed
    · exact ⟨by simp [undisturbed], by simp [undisturbed]⟩
  | resumeBudgetPaused pendingTotal totals =>
    have counted := listed.counted
    simp only [Budget.step] at taken
    split at taken
    · cases taken
      exact listed
    cases flagged : world.conn.budgetPaused with
    | false =>
      simp only [counted, flagged, Bool.toNat_false, List.range_zero, List.foldlM_nil] at taken
      cases taken
      exact ⟨by simp [flagged], by simp⟩
    | true =>
      simp only [counted, flagged, Bool.toNat_true, List.range_one, List.foldlM_cons,
        List.foldlM_nil, bind_pure, resumeOne, continueWith, Option.bind_some] at taken
      exact Listed.refreshed ⟨rfl, by simp⟩ (by simp [Undisturbed]) taken

/-- In an engine none of whose connections is resumed on its own account or
closed while it is on the list, every connection is listed once while it is
flagged and not at all otherwise, it is open while it is listed, and the list
is never longer than the open connections are many. -/
theorem budget_list_is_exact
    (config : Config)
    (engine : List World)
    (reached : ∀ world ∈ engine, ∃ moves,
      Transition.Meets (step config) (Undisturbed config) {} moves ∧
        Transition.run (step config) {} moves = some world) :
    (∀ world ∈ engine, world.budgetEntries = world.conn.budgetPaused.toNat ∧
      (0 < world.budgetEntries -> world.conn.closed = false)) ∧
      (engine.map World.budgetEntries).sum ≤ engine.countP (!·.conn.closed) := by
  have each (world : World) (among : world ∈ engine) : Listed world := by
    obtain ⟨moves, undisturbed, taken⟩ := reached world among
    exact Transition.run_invariant_of_meets (fun _ _ _ holds meets taken => holds.step meets taken)
      ⟨rfl, by simp⟩ undisturbed taken
  refine ⟨fun world among => ⟨(each world among).counted, (each world among).isOpen⟩, ?_⟩
  clear reached
  induction engine with
  | nil => simp
  | cons world rest ih =>
    rw [List.forall_mem_cons] at each
    have others := ih each.2
    have one : world.budgetEntries ≤ 1 := by
      rw [each.1.counted]
      exact Bool.toNat_le _
    simp only [List.map_cons, List.sum_cons, List.countP_cons]
    cases listed : world.budgetEntries with
    | zero => omega
    | succ _ =>
      rw [each.1.isOpen (by omega)]
      simp only [Bool.not_false, if_true]
      omega

instance (config : Config) (world : World) (move : Move) :
    Decidable (Undisturbed config world move) :=
  match move with
  | .refreshConnection _ => inferInstanceAs (Decidable (_ -> _))
  | .closeConnection => inferInstanceAs (Decidable (_ = _))
  | .changed _ | .resumeBudgetPaused _ _ => .isTrue trivial

/-- A connection is paused, and then a walk reads the total. -/
def walked (total : Int) : List Move :=
  [.refreshConnection 1073741824, .resumeBudgetPaused 0 fun _ => total]

/-- One walk over two connections resumes the first; for the second the budget
is used up again. -/
theorem budget_list_is_exact_walked :
    ∃ first second, Transition.run (step defaultConfig) {} (walked 0) = some first ∧
      Transition.run (step defaultConfig) {} (walked 1073741824) = some second ∧
      first.conn.budgetPaused = false ∧ second.conn.budgetPaused = true ∧
      first.budgetEntries = 0 ∧ second.budgetEntries = 1 ∧
      ([first, second].map World.budgetEntries).sum ≤
        [first, second].countP (!·.conn.closed) := by
  refine ⟨_, _, rfl, rfl, rfl, rfl, rfl, rfl,
    (budget_list_is_exact defaultConfig _ fun world among => ?_).2⟩
  rcases List.mem_pair.mp among with rfl | rfl
  · exact ⟨walked 0, by decide, rfl⟩
  · exact ⟨walked 1073741824, by decide, rfl⟩

/-- The budget is used up when the connection is refreshed, half of it is free
when it is refreshed again, and then it is used up again.  The connection is
on the list twice, and stays there when it is closed. -/
theorem resumed_connection_is_listed_twice :
    ∃ world, Transition.run (step defaultConfig) {}
        [.refreshConnection 1073741824, .refreshConnection 536870912,
          .refreshConnection 1073741824, .closeConnection] = some world ∧
      world.budgetEntries = 2 ∧ world.conn.budgetPaused = false ∧ world.conn.closed = true :=
  ⟨_, rfl, rfl, rfl, rfl⟩

end Budget
end Engine
end Fib
