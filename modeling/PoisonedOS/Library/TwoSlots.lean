import Mathlib.Data.Fin.Basic
import Mathlib.Logic.Function.Basic

/-!
# Two-slot storage

A value with a generation number is stored in one of two slots, the one its
generation's parity names. Reading takes the newer of what the slots hold. A
write puts a value into its own slot and leaves the other one alone, so a write
that goes wrong costs at most what was in that slot: the newest value survives
exactly when its parity is not the one written.
-/

namespace PoisonedOS.TwoSlots

universe u
variable {α : Type u} (generation : α → Nat)

/-- The slot a value belongs to. -/
def home (value : α) : Fin 2 := ⟨generation value % 2, Nat.mod_lt _ (by decide)⟩

/-- The newer of two stored values; the first one wins a tie. -/
def newer : Option α → Option α → Option α
  | none, second => second
  | some first, none => some first
  | some first, some second =>
    if generation first < generation second then some second else some first

/-- What reading finds. -/
def newest (slots : Fin 2 → Option α) : Option α := newer generation (slots 0) (slots 1)

/-- Every stored value is in its own slot. -/
def Homed (slots : Fin 2 → Option α) : Prop :=
  ∀ slot value, slots slot = some value → home generation value = slot

variable {generation} {slots : Fin 2 → Option α} {value written : α} {slot : Fin 2}

/-- There are two slots. -/
theorem slot_cases (slot : Fin 2) : slot = 0 ∨ slot = 1 := by
  omega

theorem newest_none : newest generation slots = none ↔ ∀ slot, slots slot = none := by
  rw [newest]
  constructor
  · intro absent slot
    cases first : slots 0 <;> cases second : slots 1 <;> rw [first, second] at absent
    · rcases slot_cases slot with rfl | rfl
      · exact first
      · exact second
    · cases absent
    · cases absent
    · rw [newer] at absent
      split at absent <;> cases absent
  · intro absent
    rw [absent 0, absent 1]
    rfl

/-- Reading finds a stored value, and none is newer. -/
theorem newest_some (found : newest generation slots = some value) :
    (∃ slot, slots slot = some value) ∧
      ∀ slot other, slots slot = some other → generation other ≤ generation value := by
  rw [newest] at found
  cases first : slots 0 with
  | none =>
    rw [first, newer] at found
    refine ⟨⟨1, found⟩, fun slot other stored => ?_⟩
    rcases slot_cases slot with rfl | rfl
    · rw [first] at stored
      cases stored
    · rw [found, Option.some.injEq] at stored
      rw [stored]
  | some one =>
    cases second : slots 1 with
    | none =>
      rw [first, second, newer, Option.some.injEq] at found
      subst found
      refine ⟨⟨0, first⟩, fun slot other stored => ?_⟩
      rcases slot_cases slot with rfl | rfl
      · rw [first, Option.some.injEq] at stored
        rw [stored]
      · rw [second] at stored
        cases stored
    | some two =>
      rw [first, second, newer] at found
      split at found
      · rename_i later
        cases found
        refine ⟨⟨1, second⟩, fun slot other stored => ?_⟩
        rcases slot_cases slot with rfl | rfl
        · rw [first, Option.some.injEq] at stored
          exact stored ▸ Nat.le_of_lt later
        · rw [second, Option.some.injEq] at stored
          rw [stored]
      · rename_i notLater
        cases found
        refine ⟨⟨0, first⟩, fun slot other stored => ?_⟩
        rcases slot_cases slot with rfl | rfl
        · rw [first, Option.some.injEq] at stored
          rw [stored]
        · rw [second, Option.some.injEq] at stored
          exact stored ▸ Nat.le_of_not_lt notLater

theorem Homed.newest_home (homed : Homed generation slots)
    (found : newest generation slots = some value) : slots (home generation value) = some value := by
  obtain ⟨⟨slot, stored⟩, -⟩ := newest_some found
  rw [homed slot value stored]
  exact stored

theorem Homed.erase (homed : Homed generation slots) (slot : Fin 2) :
    Homed generation (Function.update slots slot none) := by
  intro other value stored
  by_cases here : other = slot
  · subst here
    rw [Function.update_self] at stored
    cases stored
  · rw [Function.update_of_ne here] at stored
    exact homed other value stored

theorem Homed.write (homed : Homed generation slots) (value : α) :
    Homed generation (Function.update slots (home generation value) (some value)) := by
  intro other stored isStored
  by_cases here : other = home generation value
  · subst here
    rw [Function.update_self, Option.some.injEq] at isStored
    rw [isStored]
  · rw [Function.update_of_ne here] at isStored
    exact homed other stored isStored

/-- A value newer than what the other slot holds is found after it was written. -/
theorem newest_write
    (later : ∀ slot stored, slot ≠ home generation value → slots slot = some stored →
      generation stored < generation value) :
    newest generation (Function.update slots (home generation value) (some value)) =
      some value := by
  rw [newest]
  rcases slot_cases (home generation value) with isHome | isHome <;> rw [isHome] at later ⊢
  · rw [Function.update_self, Function.update_of_ne (by decide)]
    cases stored : slots 1 with
    | none => rfl
    | some other =>
      rw [newer, if_neg (Nat.not_lt_of_le (Nat.le_of_lt (later 1 other (by decide) stored)))]
  · rw [Function.update_self, Function.update_of_ne (by decide)]
    cases stored : slots 0 with
    | none => rfl
    | some other => rw [newer, if_pos (later 0 other (by decide) stored)]

/-- The newest value survives the loss of a slot exactly when that is not its own. -/
theorem Homed.newest_erase_iff (homed : Homed generation slots)
    (found : newest generation slots = some value) :
    newest generation (Function.update slots slot none) = some value ↔
      home generation value ≠ slot := by
  constructor
  · intro survives isHome
    have stored := (homed.erase slot).newest_home survives
    rw [isHome, Function.update_self] at stored
    cases stored
  · intro elsewhere
    have stored := homed.newest_home found
    rw [newest]
    rcases slot_cases slot with rfl | rfl
    · have isHome : home generation value = 1 := (slot_cases _).resolve_left elsewhere
      rw [Function.update_self, Function.update_of_ne (by decide), newer, ← isHome, stored]
    · have isHome : home generation value = 0 := (slot_cases _).resolve_right elsewhere
      rw [Function.update_self, Function.update_of_ne (by decide), ← isHome, stored]
      rfl

theorem Homed.newest_erase_ne (homed : Homed generation slots)
    (found : newest generation (Function.update slots slot none) = some value) :
    home generation value ≠ slot := by
  intro isHome
  have stored := (homed.erase slot).newest_home found
  rw [isHome, Function.update_self] at stored
  cases stored

end PoisonedOS.TwoSlots
