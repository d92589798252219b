import Mathlib.Data.Set.Card

/-!
# Reference counts

Finitely many of any number of holders hold a thing each. The references of a thing
are its holders, and a counter is right when what it says of each thing is the
number of its references. A counter need not know all things: what it has no number
for has been forgotten, whoever still holds it.

A right counter stays right when one holder takes a thing and the thing's number goes
up, when one lets go of it and the number goes down, and when things nobody holds are
added with the number zero. It goes wrong when a holder lets go and the number of
another thing, or of none, goes down.
-/

namespace PoisonedOS.ReferenceCounts

universe u v
variable {ι : Type u} {κ : Type v}

/-- The number of holders of a thing. -/
noncomputable def references (holds : ι → Option κ) (thing : κ) : Nat :=
  {holder | holds holder = some thing}.ncard

/-- Finitely many hold something. -/
def Finite (holds : ι → Option κ) : Prop := {holder | holds holder ≠ none}.Finite

def Counts (counter : κ → Option Nat) (holds : ι → Option κ) : Prop :=
  ∀ thing count, counter thing = some count → count = references holds thing

variable {holds : ι → Option κ} {thing : κ} {holder : ι}

theorem Finite.holders (finite : Finite holds) (thing : κ) :
    {holder | holds holder = some thing}.Finite := by
  refine Set.Finite.subset finite ?_
  intro holder held none
  rw [held] at none
  cases none

theorem finite_none : Finite fun _ : ι => (none : Option κ) := by
  simp [Finite]

/-- A thing that nobody holds has no references. -/
theorem references_zero (unheld : ∀ holder, holds holder ≠ some thing) :
    references holds thing = 0 := by
  have empty : {holder | holds holder = some thing} = ∅ :=
    Set.eq_empty_of_forall_notMem unheld
  rw [references, empty, Set.ncard_empty]

/-- A thing that somebody holds has a reference. -/
theorem references_pos (finite : Finite holds) (held : holds holder = some thing) :
    0 < references holds thing :=
  (Set.ncard_pos (finite.holders thing)).mpr ⟨holder, held⟩

variable {counter next : κ → Option Nat}

/-- Things are forgotten, or added with the number zero while nobody holds them. -/
theorem Counts.revise (counts : Counts counter holds)
    (revised : ∀ thing count, next thing = some count →
      counter thing = some count ∨ (count = 0 ∧ ∀ holder, holds holder ≠ some thing)) :
    Counts next holds := by
  intro thing count counted
  obtain same | ⟨rfl, unheld⟩ := revised thing count counted
  · exact counts thing count same
  · rw [references_zero unheld]

variable [DecidableEq ι]

/-- One change keeps the number of holders finite. -/
theorem Finite.update (finite : Finite holds) (holder : ι) (taken : Option κ) :
    Finite (Function.update holds holder taken) := by
  refine Set.Finite.subset (Set.Finite.insert holder finite) ?_
  intro other held
  by_cases same : other = holder
  · exact .inl same
  · refine .inr ?_
    have here : Function.update holds holder taken other ≠ none := held
    rwa [Function.update_of_ne same] at here

theorem references_take (finite : Finite holds) (free : holds holder = none) (thing : κ) :
    references (Function.update holds holder (some thing)) thing = references holds thing + 1 := by
  have same : {other | Function.update holds holder (some thing) other = some thing} =
      insert holder {other | holds other = some thing} := by
    ext other
    by_cases here : other = holder
    · simp [here]
    · simp [here]
  have fresh : ¬holder ∈ {other | holds other = some thing} := by
    intro held
    have isThing : holds holder = some thing := held
    rw [free] at isThing
    cases isThing
  rw [references, same, Set.ncard_insert_of_notMem fresh (finite.holders thing)]
  rfl

theorem references_other {taken : Option κ} (notBefore : holds holder ≠ some thing)
    (notAfter : taken ≠ some thing) :
    references (Function.update holds holder taken) thing = references holds thing := by
  have same : {other | Function.update holds holder taken other = some thing} =
      {other | holds other = some thing} := by
    ext other
    by_cases here : other = holder
    · simp [here, notBefore, notAfter]
    · simp [here]
  rw [references, same, references]

/-- A holder that lets go is one holder less.

Proof: it would be one holder more if it took the thing again. -/
theorem references_drop (finite : Finite holds) (held : holds holder = some thing) :
    references (Function.update holds holder none) thing + 1 = references holds thing := by
  have back : Function.update (Function.update holds holder none) holder (some thing) = holds := by
    rw [Function.update_idem, ← held, Function.update_eq_self]
  have again := references_take (finite.update holder none)
    (Function.update_self holder none holds) thing
  rw [back] at again
  exact again.symm

/-- A thing is taken and its number goes up. -/
theorem Counts.take (counts : Counts counter holds) (finite : Finite holds)
    (free : holds holder = none)
    (raised : ∀ count, next thing = some count →
      ∃ before, counter thing = some before ∧ count = before + 1)
    (kept : ∀ other, other ≠ thing → next other = counter other) :
    Counts next (Function.update holds holder (some thing)) := by
  intro other count counted
  by_cases same : other = thing
  · subst same
    obtain ⟨before, wasCounted, rfl⟩ := raised count counted
    rw [references_take finite free, counts _ _ wasCounted]
  · rw [kept other same] at counted
    have notBefore : holds holder ≠ some other := by
      rw [free]
      exact Option.some_ne_none other |>.symm
    have notAfter : some thing ≠ some other := fun equal => same (Option.some.inj equal).symm
    rw [references_other notBefore notAfter]
    exact counts other count counted

/-- Where a holder lets go of a thing, the counter stays right exactly when the thing's
number goes down, if it has one, and the other numbers stay. -/
theorem Counts.drop_iff (counts : Counts counter holds) (finite : Finite holds)
    (held : holds holder = some thing)
    (known : ∀ other, (next other).isSome ↔ (counter other).isSome) :
    Counts next (Function.update holds holder none) ↔
      (∀ count, next thing = some count → counter thing = some (count + 1)) ∧
        ∀ other, other ≠ thing → next other = counter other := by
  have dropped := references_drop finite held
  have others : ∀ other, other ≠ thing →
      references (Function.update holds holder none) other = references holds other := by
    intro other different
    refine references_other ?_ (Option.some_ne_none other).symm
    rw [held]
    exact fun equal => different (Option.some.inj equal).symm
  constructor
  · intro after
    constructor
    · intro count counted
      have isKnown := (known thing).mp (by rw [counted]; rfl)
      obtain ⟨before, wasCounted⟩ := Option.isSome_iff_exists.mp isKnown
      rw [wasCounted, after thing count counted, dropped, ← counts thing before wasCounted]
    · intro other different
      cases counted : next other with
      | none =>
        have unknown : (counter other).isSome = false := by
          have := known other
          rw [counted] at this
          simpa using this
        rw [Option.isSome_eq_false_iff, Option.isNone_iff_eq_none] at unknown
        rw [unknown]
      | some count =>
        have isKnown := (known other).mp (by rw [counted]; rfl)
        obtain ⟨before, wasCounted⟩ := Option.isSome_iff_exists.mp isKnown
        rw [wasCounted, after other count counted, others other different,
          ← counts other before wasCounted]
  · rintro ⟨lowered, kept⟩ other count counted
    by_cases same : other = thing
    · subst same
      have before := counts _ _ (lowered count counted)
      omega
    · rw [kept other same] at counted
      rw [others other same]
      exact counts other count counted

end PoisonedOS.ReferenceCounts
