import Mathlib.Data.List.Basic

/-!
# Traced state programs

A traced program runs to a value and a final state, and also records the state
after each of its durable effects. The recorded states are what an interruption
between two effects leaves behind, so a crash property of a program is a
property of its images. Silent changes touch volatile state and leave no image.

Sequencing concatenates images; a program embedded into a larger state by a lens
embeds its images the same way.
-/

namespace PoisonedOS

universe u v w

/-- The outcome of one run: its value, the state it ends in and the states after
its durable effects, in order. -/
structure Run (σ : Type u) (α : Type v) where
  value : α
  final : σ
  images : List σ
deriving DecidableEq

/-- A program over a state, to be run from any state. -/
def Traced (σ : Type u) (α : Type v) : Type (max u v) := σ → Run σ α

namespace Traced

variable {σ : Type u} {τ : Type w} {α β : Type v}

/-- Return without touching the state. -/
def done (value : α) : Traced σ α := fun state => ⟨value, state, []⟩

/-- Run the first program, then the second from the state the first ends in. -/
def andThen (first : Traced σ α) (next : α → Traced σ β) : Traced σ β := fun state =>
  let before := first state
  let after := next before.value before.final
  ⟨after.value, after.final, before.images ++ after.images⟩

instance : Monad (Traced σ) where
  pure := done
  bind := andThen

/-- Observe the state. -/
def observe (read : σ → α) : Traced σ α := fun state => ⟨read state, state, []⟩

/-- One durable effect. -/
def effect (step : σ → α × σ) : Traced σ α := fun state =>
  ⟨(step state).1, (step state).2, [(step state).2]⟩

/-- One change of volatile state. -/
def silent (step : σ → α × σ) : Traced σ α := fun state => ⟨(step state).1, (step state).2, []⟩

/-- Run a program on a component of a larger state. -/
def focus (get : τ → σ) (set : σ → τ → τ) (program : Traced σ α) : Traced τ α := fun state =>
  let inner := program (get state)
  ⟨inner.value, set inner.final state, inner.images.map (set · state)⟩

/-- Run a program under a condition; otherwise return a given value. -/
def onlyIf (condition : Bool) (program : Traced σ α) (otherwise : α) : Traced σ α :=
  if condition then program else done otherwise

/-- Run a program and read its value through a function. -/
def reading (read : α → β) (program : Traced σ α) : Traced σ β := fun state =>
  ⟨read (program state).value, (program state).final, (program state).images⟩

@[simp] theorem onlyIf_true (program : Traced σ α) (otherwise : α) :
    onlyIf true program otherwise = program := rfl

@[simp] theorem onlyIf_false (program : Traced σ α) (otherwise : α) (state : σ) :
    onlyIf false program otherwise state = ⟨otherwise, state, []⟩ := rfl

@[simp] theorem pure_run (value : α) (state : σ) :
    (pure value : Traced σ α) state = ⟨value, state, []⟩ := rfl

@[simp] theorem bind_run (first : Traced σ α) (next : α → Traced σ β) (state : σ) :
    (first >>= next) state =
      ⟨(next (first state).value (first state).final).value,
        (next (first state).value (first state).final).final,
        (first state).images ++ (next (first state).value (first state).final).images⟩ := rfl

@[simp] theorem observe_run (read : σ → α) (state : σ) :
    observe read state = ⟨read state, state, []⟩ := rfl

@[simp] theorem effect_run (step : σ → α × σ) (state : σ) :
    effect step state = ⟨(step state).1, (step state).2, [(step state).2]⟩ := rfl

@[simp] theorem silent_run (step : σ → α × σ) (state : σ) :
    silent step state = ⟨(step state).1, (step state).2, []⟩ := rfl

@[simp] theorem reading_run (read : α → β) (program : Traced σ α) (state : σ) :
    reading read program state =
      ⟨read (program state).value, (program state).final, (program state).images⟩ := rfl

@[simp] theorem focus_run (get : τ → σ) (set : σ → τ → τ) (program : Traced σ α) (state : τ) :
    focus get set program state =
      ⟨(program (get state)).value, set (program (get state)).final state,
        (program (get state)).images.map (set · state)⟩ := rfl

end Traced

end PoisonedOS
