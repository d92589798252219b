import Mathlib.Data.List.Basic

/-!
# Runs of a step function

A machine is a function that takes an operation and a state to the next state. A
run is a list of operations; the states it reaches are indexed by the number of
operations taken, and a run that is over stands still. A fact that may mention
the index holds all along a run when it holds at the start and each step keeps
it.
-/

namespace PoisonedOS.Runs

universe u v
variable {State : Type u} {Operation : Type v} (step : Operation → State → State) (start : State)

def reached (operations : List Operation) (index : Nat) : State :=
  (operations.take index).foldl (fun state operation => step operation state) start

variable {step start} {operations : List Operation} {index : Nat}

@[simp] theorem reached_zero : reached step start operations 0 = start := rfl

/-- Each operation is applied to the state reached before it. -/
theorem reached_succ {operation : Operation} (taken : operations[index]? = some operation) :
    reached step start operations (index + 1) =
      step operation (reached step start operations index) := by
  rw [reached, List.take_add_one, taken, Option.toList_some, List.foldl_append]
  rfl

/-- A run stands still after its last operation. -/
theorem reached_end (ended : operations[index]? = none) :
    reached step start operations (index + 1) = reached step start operations index := by
  rw [reached, List.take_add_one, ended, Option.toList_none, List.append_nil, reached]

/-- What holds at the start and is kept by each step and by standing still holds
all along a run. -/
theorem along {motive : Nat → State → Prop} (initial : motive 0 start)
    (kept : ∀ index operation, operations[index]? = some operation →
      motive index (reached step start operations index) →
      motive (index + 1) (step operation (reached step start operations index)))
    (idle : ∀ index, operations[index]? = none →
      motive index (reached step start operations index) →
      motive (index + 1) (reached step start operations index)) (index : Nat) :
    motive index (reached step start operations index) := by
  induction index with
  | zero => exact initial
  | succ index ih =>
    cases taken : operations[index]? with
    | none =>
      rw [reached_end taken]
      exact idle index taken ih
    | some operation =>
      rw [reached_succ taken]
      exact kept index operation taken ih

/-- A fact that does not mention the index holds all along a run when each step keeps it. -/
theorem always {motive : State → Prop} (initial : motive start)
    (kept : ∀ index operation, operations[index]? = some operation →
      motive (reached step start operations index) →
      motive (step operation (reached step start operations index))) (index : Nat) :
    motive (reached step start operations index) :=
  along (motive := fun _ => motive) initial kept (fun _ _ holds => holds) index

/-- What holds at one point of a run and is kept by each later step holds from there on. -/
theorem onward {motive : State → Prop} {earlier later : Nat} (order : earlier ≤ later)
    (holds : motive (reached step start operations earlier))
    (kept : ∀ index operation, earlier ≤ index → operations[index]? = some operation →
      motive (reached step start operations index) →
      motive (step operation (reached step start operations index))) :
    motive (reached step start operations later) := by
  induction order with
  | refl => exact holds
  | @step later order ih =>
    cases taken : operations[later]? with
    | none =>
      rw [reached_end taken]
      exact ih
    | some operation =>
      rw [reached_succ taken]
      exact kept later operation order taken ih

end PoisonedOS.Runs
