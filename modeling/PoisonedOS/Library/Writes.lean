import Mathlib.Data.List.Chain
import PoisonedOS.Library.Traced

/-!
# Rules for the effects of a traced program

Each effect of a traced program takes the state from one recorded image to the
next. To show that all of them are allowed, and that every image satisfies an
invariant, it is enough to look at each effect where it stands: a program is
composed of observations, effects and conditions, and each has its rule.
-/

namespace PoisonedOS.Traced

universe u v w
variable {σ : Type u} {τ : Type w} {α β : Type v}

/-- A function that has one effect where it succeeds, and none where it fails. -/
def once (step : σ → Bool × σ) : Traced σ Bool := fun state =>
  ⟨(step state).1, (step state).2, if (step state).1 then [(step state).2] else []⟩

/-- One effect that always succeeds. -/
def write (next : σ → σ) : Traced σ Bool := effect fun state => (true, next state)

@[simp] theorem once_run (step : σ → Bool × σ) (state : σ) :
    once step state =
      ⟨(step state).1, (step state).2, if (step state).1 then [(step state).2] else []⟩ := rfl

@[simp] theorem write_run (next : σ → σ) (state : σ) :
    write next state = ⟨true, next state, [next state]⟩ := rfl

/-- One of two programs. -/
def branch (condition : Bool) (first second : Traced σ α) : Traced σ α :=
  if condition then first else second

@[simp] theorem branch_true (first second : Traced σ α) : branch true first second = first := rfl

@[simp] theorem branch_false (first second : Traced σ α) : branch false first second = second := rfl

/-- From the state, every effect of the program is allowed and keeps the invariant,
and the last one leaves the final state. -/
structure Effects (Allowed : σ → σ → Prop) (Holds : σ → Prop) (program : Traced σ α)
    (state : σ) : Prop where
  chain : (state :: (program state).images).IsChain Allowed
  holds : ∀ image ∈ (program state).images, Holds image
  last : (state :: (program state).images).getLast? = some (program state).final

variable {Allowed : σ → σ → Prop} {Holds : σ → Prop} {state : σ}

namespace Effects

variable {program : Traced σ α}

/-- The invariant holds where the program ends. -/
theorem final (effects : Effects Allowed Holds program state) (start : Holds state) :
    Holds (program state).final := by
  obtain same | member := List.mem_cons.mp (List.mem_of_getLast? effects.last)
  · rw [same]
    exact start
  · exact effects.holds _ member

/-- More may be allowed. -/
theorem weaken {More : σ → σ → Prop} (effects : Effects Allowed Holds program state)
    (more : ∀ before after, Allowed before after → More before after) :
    Effects More Holds program state :=
  ⟨effects.chain.imp more, effects.holds, effects.last⟩

/-- A program without effects. -/
theorem silent (images : (program state).images = []) (same : (program state).final = state) :
    Effects Allowed Holds program state where
  chain := by
    rw [images]
    exact .singleton _
  holds := by
    rw [images]
    simp
  last := by simp only [images, same, List.getLast?_singleton]

theorem pure (value : α) : Effects Allowed Holds (Pure.pure value : Traced σ α) state :=
  silent rfl rfl

theorem observe (read : σ → α) : Effects Allowed Holds (Traced.observe read) state :=
  silent rfl rfl

theorem write {next : σ → σ} (allowed : Allowed state (next state)) (holds : Holds (next state)) :
    Effects Allowed Holds (Traced.write next) state where
  chain := List.isChain_pair.mpr allowed
  holds := by simpa using holds
  last := rfl

theorem once {step : σ → Bool × σ}
    (failed : (step state).1 = false → (step state).2 = state)
    (succeeded : (step state).1 = true → Allowed state (step state).2 ∧ Holds (step state).2) :
    Effects Allowed Holds (Traced.once step) state := by
  cases result : (step state).1 with
  | false => exact silent (by simp [result]) (failed result)
  | true =>
    obtain ⟨allowed, holds⟩ := succeeded result
    constructor
    · simpa [result] using allowed
    · simpa [result] using holds
    · simp [result]

/-- The second program starts where the first one ends. -/
theorem andThen {first : Traced σ α} {next : α → Traced σ β}
    (before : Effects Allowed Holds first state)
    (after : Effects Allowed Holds (next (first state).value) (first state).final) :
    Effects Allowed Holds (first >>= next) state := by
  constructor
  · rw [bind_run, ← List.cons_append]
    refine List.isChain_append.mpr ⟨before.chain, after.chain.tail, ?_⟩
    intro image isLast other isHead
    have same : image = (first state).final :=
      Option.some.inj (isLast.symm.trans before.last)
    rw [same]
    exact (List.isChain_cons.mp after.chain).1 other isHead
  · intro image member
    rw [bind_run] at member
    obtain inFirst | inNext := List.mem_append.mp member
    · exact before.holds image inFirst
    · exact after.holds image inNext
  · have joined := after.last
    rw [bind_run, ← List.cons_append, List.getLast?_append]
    cases images : (next (first state).value (first state).final).images with
    | nil =>
      simp only [images, List.getLast?_singleton] at joined
      simpa only [List.getLast?_nil, Option.none_or, before.last] using joined
    | cons image rest =>
      rw [images, List.getLast?_cons_cons] at joined
      rw [joined, Option.some_or]

/-- An observation comes first. -/
theorem observing {read : σ → α} {next : α → Traced σ β}
    (after : Effects Allowed Holds (next (read state)) state) :
    Effects Allowed Holds (Traced.observe read >>= next) state :=
  andThen (observe read) after

/-- The whole state is read first. -/
theorem observingState {σ β : Type u} {Allowed : σ → σ → Prop} {Holds : σ → Prop} {state : σ}
    {next : σ → Traced σ β} (after : Effects Allowed Holds (next state) state) :
    Effects Allowed Holds (Traced.observe id >>= next) state :=
  andThen (observe id) after

/-- A program under a condition. -/
theorem onlyIf {condition : Bool} {otherwise : α}
    (effects : condition = true → Effects Allowed Holds program state) :
    Effects Allowed Holds (Traced.onlyIf condition program otherwise) state := by
  cases condition with
  | false => exact silent rfl rfl
  | true => exact effects rfl

/-- One of two programs. -/
theorem branch {condition : Bool} {first second : Traced σ α}
    (yes : condition = true → Effects Allowed Holds first state)
    (no : condition = false → Effects Allowed Holds second state) :
    Effects Allowed Holds (Traced.branch condition first second) state := by
  cases condition with
  | false => exact no rfl
  | true => exact yes rfl

/-- A program on a component: the allowed effects and the invariant are read off
the component. -/
theorem focus {get : τ → σ} {set : σ → τ → τ} {outer : τ} {AllowedOuter : τ → τ → Prop}
    {HoldsOuter : τ → Prop} (replaced : set (get outer) outer = outer)
    (effects : Effects (fun before after => AllowedOuter (set before outer) (set after outer))
      (fun component => HoldsOuter (set component outer)) program (get outer)) :
    Effects AllowedOuter HoldsOuter (Traced.focus get set program) outer := by
  have images : (outer :: (Traced.focus get set program outer).images) =
      (get outer :: (program (get outer)).images).map (set · outer) := by
    simp [replaced]
  constructor
  · rw [images]
    exact (List.isChain_map _).mpr effects.chain
  · intro image member
    obtain ⟨component, inside, rfl⟩ := List.mem_map.mp member
    exact effects.holds component inside
  · rw [images, List.getLast?_map, effects.last]
    rfl

end Effects

end PoisonedOS.Traced
