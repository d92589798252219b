import PoisonedOS.Library.Traced

/-!
# Simulation of traced programs

A program on a large state is simulated by one on a view of it when both return
the same value, the views of its final state and of all its images are those of
the model, and every state it reaches is related to the first one by a frame:
what the view does not show has changed in no other way.

Simulations compose like the programs do, so a program is related to its model
statement by statement.
-/

namespace PoisonedOS.Traced

universe u v w

variable {σ : Type u} {τ : Type w} {α β : Type v}

/-- Run from the given state, the program does to its view what the model does,
and keeps the frame throughout. -/
structure Simulates (view : τ → σ) (frame : τ → τ → Prop) (state : τ) (program : Traced τ α)
    (model : Traced σ α) : Prop where
  value : (program state).value = (model (view state)).value
  final : view (program state).final = (model (view state)).final
  images : (program state).images.map view = (model (view state)).images
  finalFramed : frame state (program state).final
  imagesFramed : ∀ image ∈ (program state).images, frame state image

variable {view : τ → σ} {frame : τ → τ → Prop} {state : τ}

/-- Returning simulates returning. -/
theorem Simulates.done (reflexive : ∀ some_, frame some_ some_) (value : α) :
    Simulates view frame state (pure value) (pure value) where
  value := rfl
  final := rfl
  images := rfl
  finalFramed := reflexive state
  imagesFramed := by
    intro image among
    cases among

variable {program : Traced τ α} {model : Traced σ α}

/-- Sequences of simulating programs simulate. The second program is compared
from the state the first one ends in only. -/
theorem Simulates.andThen
    (transitive : ∀ first second third, frame first second → frame second third → frame first third)
    {next : α → Traced τ β} {modelNext : α → Traced σ β}
    (first : Simulates view frame state program model)
    (rest : Simulates view frame (program state).final (next (program state).value)
      (modelNext (program state).value)) :
    Simulates view frame state (program >>= next) (model >>= modelNext) := by
  have restValue := rest.value
  have restFinal := rest.final
  have restImages := rest.images
  rw [first.final, first.value] at restValue restFinal restImages
  constructor
  · simp only [bind_run]
    rw [first.value, restValue]
  · simp only [bind_run]
    rw [first.value, restFinal]
  · simp only [bind_run, List.map_append]
    rw [first.images, first.value, restImages]
  · exact transitive _ _ _ first.finalFramed rest.finalFramed
  · intro image among
    simp only [bind_run, List.mem_append] at among
    rcases among with early | late
    · exact first.imagesFramed image early
    · exact transitive _ _ _ first.finalFramed (rest.imagesFramed image late)

theorem Simulates.onlyIf (reflexive : ∀ some_, frame some_ some_) (condition : Bool) (otherwise : α)
    (simulates : condition = true → Simulates view frame state program model) :
    Simulates view frame state (Traced.onlyIf condition program otherwise)
      (Traced.onlyIf condition model otherwise) := by
  cases condition with
  | false => exact Simulates.done reflexive otherwise
  | true => exact simulates rfl

/-- Only the run from the given state matters, of the program and of the model. -/
theorem Simulates.congr {other : Traced τ α} {otherModel : Traced σ α}
    (simulates : Simulates view frame state program model) (same : other state = program state)
    (sameModel : otherModel (view state) = model (view state)) :
    Simulates view frame state other otherModel where
  value := by rw [same, sameModel, simulates.value]
  final := by rw [same, sameModel, simulates.final]
  images := by rw [same, sameModel, simulates.images]
  finalFramed := by rw [same]; exact simulates.finalFramed
  imagesFramed := by rw [same]; exact simulates.imagesFramed

end PoisonedOS.Traced
