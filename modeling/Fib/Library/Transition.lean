import Mathlib.Data.List.Basic

/-!
# Runs of a partial step function

A component is given by a step function that consumes one label at a time and
refuses the labels that are not possible in the current state.  This module
defines its runs, the runs all of whose steps meet a condition on the state
before the step, and the induction rules by which an invariant of one step
becomes an invariant of every state reached.
-/

namespace Fib
namespace Transition

variable {State Label : Type}

/-- The state reached from `start` by the labels of a run, if every step is
possible. -/
def run (step : State -> Label -> Option State) :
    State -> List Label -> Option State
  | start, [] => some start
  | start, label :: rest =>
    match step start label with
    | none => none
    | some next => run step next rest

@[simp] theorem run_nil
    (step : State -> Label -> Option State)
    (start : State) :
    run step start [] = some start := rfl

variable {step : State -> Label -> Option State}

/-- Inversion of a nonempty run at its first step. -/
theorem run_cons_eq_some
    (reached : run step start (label :: rest) = some final) :
    ∃ next, step start label = some next ∧ run step next rest = some final := by
  unfold run at reached
  split at reached
  · simp at reached
  · next next taken => exact ⟨next, taken, reached⟩

/-- Every step of the run meets `condition` in the state before it. -/
def Meets
    (step : State -> Label -> Option State)
    (condition : State -> Label -> Prop) :
    State -> List Label -> Prop
  | _, [] => True
  | start, label :: rest =>
    condition start label ∧
      ∀ next, step start label = some next ->
        Meets step condition next rest

/-- A first step that meets the condition, and a run that does. -/
theorem meets_cons
    {condition : State -> Label -> Prop}
    (holds : condition start label)
    (taken : step start label = some next)
    (remaining : Meets step condition next rest) :
    Meets step condition start (label :: rest) := by
  refine ⟨holds, fun other sameStep => ?_⟩
  rw [taken, Option.some.injEq] at sameStep
  exact sameStep ▸ remaining

/-- Whether a run meets a condition can be found by running it. -/
instance decidableMeets
    (step : State -> Label -> Option State)
    (condition : State -> Label -> Prop)
    [∀ state label, Decidable (condition state label)] :
    ∀ start labels, Decidable (Meets step condition start labels)
  | _, [] => .isTrue trivial
  | start, label :: rest =>
    match taken : step start label with
    | none =>
      decidable_of_iff (condition start label)
        ⟨fun holds => ⟨holds, by simp [taken]⟩, And.left⟩
    | some next =>
      have := decidableMeets step condition next rest
      decidable_of_iff
        (condition start label ∧ Meets step condition next rest)
        ⟨fun both => meets_cons both.1 taken both.2,
          fun meets => ⟨meets.1, meets.2 next taken⟩⟩

/-- An invariant kept by the steps that meet a condition holds in every state
that a run of such steps reaches. -/
theorem run_invariant_of_meets
    {step : State -> Label -> Option State}
    {condition : State -> Label -> Prop}
    {invariant : State -> Prop}
    (kept : ∀ state label next, invariant state ->
      condition state label -> step state label = some next ->
        invariant next)
    {start final : State}
    {labels : List Label}
    (initially : invariant start)
    (meets : Meets step condition start labels)
    (reached : run step start labels = some final) :
    invariant final := by
  induction labels generalizing start with
  | nil =>
    rw [run_nil, Option.some.injEq] at reached
    exact reached ▸ initially
  | cons label rest ih =>
    obtain ⟨next, taken, remaining⟩ := run_cons_eq_some reached
    exact ih (kept start label next initially meets.1 taken) (meets.2 next taken) remaining

variable {labels : List Label}

section

variable (entry : State -> Label -> Bool) (idle : State -> Bool)

/-- How many entries have been made since the state was last idle. -/
def sinceIdle
    (made : Nat)
    (state : State)
    (label : Label) : Nat :=
  if entry state label then (if idle state then 1 else made + 1) else made

/-- No more than `limit` entries are made from one idle moment to the next. -/
def Spaced
    (step : State -> Label -> Option State)
    (limit : Nat) :
    Nat -> State -> List Label -> Prop
  | _, _, [] => True
  | made, start, label :: rest =>
    sinceIdle entry idle made start label ≤ limit ∧
      ∀ next, step start label = some next ->
        Spaced step limit (sinceIdle entry idle made start label) next rest

end

/-- What grows by one with an entry, and starts over with an entry made while
idle, is as large as the entries are many. -/
theorem run_size_le_of_spaced
    {entry : State -> Label -> Bool}
    {idle : State -> Bool}
    (size : State -> Nat)
    (grows : ∀ state label next, step state label = some next ->
      size next ≤ sinceIdle entry idle (size state) state label)
    (initially : size start ≤ made)
    (within : made ≤ limit)
    (spaced : Spaced entry idle step limit made start labels)
    (reached : run step start labels = some final) :
    size final ≤ limit := by
  induction labels generalizing start made with
  | nil =>
    rw [run_nil, Option.some.injEq] at reached
    exact reached ▸ Nat.le_trans initially within
  | cons label rest ih =>
    obtain ⟨next, taken, remaining⟩ := run_cons_eq_some reached
    refine ih (Nat.le_trans (grows start label next taken) ?_) spaced.1
      (spaced.2 next taken) remaining
    unfold sinceIdle
    split
    · split <;> omega
    · exact initially

/-- A run meets a condition that all its labels meet. -/
theorem meets_of_forall
    (step : State -> Label -> Option State)
    {condition : Label -> Prop}
    (start : State)
    (holds : ∀ label ∈ labels, condition label) :
    Meets step (fun _ label => condition label) start labels := by
  induction labels generalizing start with
  | nil => trivial
  | cons label rest ih =>
    rw [List.forall_mem_cons] at holds
    exact ⟨holds.1, fun next _ => ih next holds.2⟩

/-- Every run meets the trivial condition. -/
theorem meets_true
    (step : State -> Label -> Option State)
    (start : State)
    (labels : List Label) :
    Meets step (fun _ _ => True) start labels :=
  meets_of_forall step start fun _ _ => trivial

/-- An invariant kept by every step holds in every state reached. -/
theorem run_invariant
    {invariant : State -> Prop}
    (kept : ∀ state label next, invariant state ->
      step state label = some next -> invariant next)
    (initially : invariant start)
    (reached : run step start labels = some final) :
    invariant final :=
  run_invariant_of_meets (fun state label next holds _ => kept state label next holds)
    initially (meets_true step start labels) reached

/-- A run that can be made, and what holds at its end, found by making it. -/
theorem exists_run_of_any
    {holds : State -> Prop}
    [DecidablePred holds]
    (found : (run step start labels).any (fun final => holds final) = true) :
    ∃ final, run step start labels = some final ∧ holds final := by
  cases reached : run step start labels with
  | none => simp [reached] at found
  | some final => exact ⟨final, rfl, by simpa [reached] using found⟩

end Transition
end Fib
