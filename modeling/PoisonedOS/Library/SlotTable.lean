import Mathlib.Data.Fin.Tuple.Basic
import Mathlib.Logic.Function.Basic

/-!
# Keyed slot tables

A table of finitely many slots, each empty or holding a record with a key. A
key's slot is the first one that holds it, so a table with repeated keys still
has a definite lookup; when the keys are distinct, lookup is membership.

The two ways to write a table are replacing the record a key was found at, and
placing a record under a key no slot holds.
-/

namespace PoisonedOS.SlotTable

universe u v
variable {size : Nat} {κ : Type u} {ρ : Type v}

/-- The first slot whose content is accepted. -/
def firstSlot (slots : Fin size → Option ρ) (accepts : Option ρ → Bool) : Option (Fin size) :=
  Fin.find? fun slot => accepts (slots slot)

variable [DecidableEq κ] (key : ρ → κ)

/-- A slot that holds the key. -/
def holds (wanted : κ) (stored : Option ρ) : Bool :=
  stored.any fun record => key record = wanted

/-- The slot a key is found at. -/
def findSlot (slots : Fin size → Option ρ) (wanted : κ) : Option (Fin size) :=
  firstSlot slots (holds key wanted)

/-- The record a key is found with. -/
def lookup (slots : Fin size → Option ρ) (wanted : κ) : Option ρ :=
  (findSlot key slots wanted).bind slots

/-- Replace a slot's content by a record. -/
def place (slots : Fin size → Option ρ) (slot : Fin size) (record : ρ) : Fin size → Option ρ :=
  Function.update slots slot (some record)

/-- No key occupies two slots. -/
def Distinct (slots : Fin size → Option ρ) : Prop :=
  ∀ first second left right, slots first = some left → slots second = some right →
    key left = key right → first = second

variable {key}

variable {wanted : κ}

theorem holds_iff {stored : Option ρ} :
    holds key wanted stored = true ↔ ∃ record, stored = some record ∧ key record = wanted := by
  cases stored <;> simp [holds]

variable {slots : Fin size → Option ρ} {slot : Fin size}

theorem findSlot_some (found : findSlot key slots wanted = some slot) :
    ∃ record, slots slot = some record ∧ key record = wanted ∧
      lookup key slots wanted = some record := by
  have accepted := (Fin.find?_eq_some_iff.mp found).1
  obtain ⟨record, stored, keyed⟩ := holds_iff.mp accepted
  exact ⟨record, stored, keyed, by rw [lookup, found, Option.bind_some, stored]⟩

theorem findSlot_none :
    findSlot key slots wanted = none ↔ ∀ slot record, slots slot = some record →
      key record ≠ wanted := by
  simp only [findSlot, firstSlot, Fin.find?_eq_none_iff]
  constructor
  · intro absent slot record stored keyed
    have := absent slot
    rw [Bool.eq_false_iff] at this
    exact this (holds_iff.mpr ⟨record, stored, keyed⟩)
  · intro absent slot
    rw [Bool.eq_false_iff]
    intro held
    obtain ⟨record, stored, keyed⟩ := holds_iff.mp held
    exact absent slot record stored keyed

/-- A lookup fails exactly where no slot is found. -/
theorem lookup_none :
    lookup key slots wanted = none ↔ findSlot key slots wanted = none := by
  cases found : findSlot key slots wanted with
  | none => simp [lookup, found]
  | some slot =>
    obtain ⟨record, -, -, looked⟩ := findSlot_some found
    simp [looked]

variable {record : ρ}

theorem lookup_stored (looked : lookup key slots wanted = some record) :
    ∃ slot, findSlot key slots wanted = some slot ∧ slots slot = some record ∧
      key record = wanted := by
  cases found : findSlot key slots wanted with
  | none => rw [lookup_none.mpr found] at looked; cases looked
  | some slot =>
    obtain ⟨other, stored, keyed, same⟩ := findSlot_some found
    rw [looked] at same
    cases same
    exact ⟨slot, rfl, stored, keyed⟩

/-- With distinct keys a lookup is membership. -/
theorem lookup_iff (distinct : Distinct key slots) :
    lookup key slots wanted = some record ↔ ∃ slot, slots slot = some record ∧
      key record = wanted := by
  constructor
  · intro looked
    obtain ⟨slot, -, stored, keyed⟩ := lookup_stored looked
    exact ⟨slot, stored, keyed⟩
  · rintro ⟨slot, stored, keyed⟩
    cases looked : lookup key slots wanted with
    | none => exact absurd keyed (findSlot_none.mp (lookup_none.mp looked) slot record stored)
    | some other =>
      obtain ⟨place, -, storedOther, keyedOther⟩ := lookup_stored looked
      have same := distinct slot place record other stored storedOther
        (keyed.trans keyedOther.symm)
      subst same
      rw [stored] at storedOther
      exact storedOther.symm

/-- Replacing a found record by one with the same key changes that key's lookup
and no other. Every slot keeps the key it had, so every key keeps its slot. -/
theorem lookup_replace (found : findSlot key slots wanted = some slot) (keyed : key record = wanted)
    (other : κ) :
    lookup key (place slots slot record) other =
      if other = wanted then some record else lookup key slots other := by
  obtain ⟨before, stored, keyedBefore, -⟩ := findSlot_some found
  have sameHolds : ∀ wanted' place', holds key wanted' (place slots slot record place') =
      holds key wanted' (slots place') := by
    intro wanted' place'
    by_cases here : place' = slot
    · subst here
      simp [place, stored, holds, keyed, keyedBefore]
    · simp [place, Function.update_of_ne here]
  have sameSlot : findSlot key (place slots slot record) other = findSlot key slots other := by
    simp only [findSlot, firstSlot, sameHolds]
  rw [lookup, sameSlot]
  split
  · rename_i isWanted
    rw [isWanted, found]
    simp [place]
  · rename_i isOther
    cases foundOther : findSlot key slots other with
    | none => rw [lookup, foundOther]; rfl
    | some elsewhere =>
      obtain ⟨_, storedOther, keyedOther, looked⟩ := findSlot_some foundOther
      have apart : elsewhere ≠ slot := by
        intro same
        subst same
        rw [stored] at storedOther
        cases storedOther
        exact isOther (keyedOther.symm.trans keyedBefore)
      rw [looked, Option.bind_some, place, Function.update_of_ne apart, storedOther]

omit [DecidableEq κ] in
theorem distinct_replace (distinct : Distinct key slots) {before : ρ}
    (stored : slots slot = some before) (keyed : key record = key before) :
    Distinct key (place slots slot record) := by
  have lift : ∀ place' other, place slots slot record place' = some other →
      ∃ old, slots place' = some old ∧ key old = key other := by
    intro place' other storedOther
    by_cases here : place' = slot
    · subst here
      simp only [place, Function.update_self, Option.some.injEq] at storedOther
      exact ⟨before, stored, by rw [← storedOther, keyed]⟩
    · rw [place, Function.update_of_ne here] at storedOther
      exact ⟨other, storedOther, rfl⟩
  intro first second left right storedLeft storedRight same
  obtain ⟨oldLeft, wasLeft, keyLeft⟩ := lift first left storedLeft
  obtain ⟨oldRight, wasRight, keyRight⟩ := lift second right storedRight
  exact distinct first second oldLeft oldRight wasLeft wasRight
    (keyLeft.trans (same.trans keyRight.symm))

theorem distinct_fresh (distinct : Distinct key slots)
    (absent : lookup key slots (key record) = none) (slot : Fin size) :
    Distinct key (place slots slot record) := by
  have vacant := findSlot_none.mp (lookup_none.mp absent)
  intro first second left right storedLeft storedRight same
  by_cases atFirst : first = slot <;> by_cases atSecond : second = slot
  · exact atFirst.trans atSecond.symm
  · subst atFirst
    simp only [place, Function.update_self, Option.some.injEq] at storedLeft
    rw [place, Function.update_of_ne atSecond] at storedRight
    exact absurd (same.symm.trans (by rw [storedLeft])) (vacant second right storedRight)
  · subst atSecond
    simp only [place, Function.update_self, Option.some.injEq] at storedRight
    rw [place, Function.update_of_ne atFirst] at storedLeft
    exact absurd (same.trans (by rw [storedRight])) (vacant first left storedLeft)
  · rw [place, Function.update_of_ne atFirst] at storedLeft
    rw [place, Function.update_of_ne atSecond] at storedRight
    exact distinct first second left right storedLeft storedRight same

/-- Placing a record under a key no slot holds makes it that key's lookup. Any
other key keeps its record, unless it was the one the record displaced. -/
theorem lookup_fresh (distinct : Distinct key slots) (absent : lookup key slots (key record) = none)
    (slot : Fin size) (other : κ) :
    lookup key (place slots slot record) other =
      if other = key record then some record
      else (lookup key slots other).filter fun _ => !holds key other (slots slot) := by
  have distinctAfter := distinct_fresh distinct absent slot
  split
  · rename_i isKey
    exact (lookup_iff distinctAfter).mpr ⟨slot, by simp [place], isKey.symm⟩
  · rename_i isOther
    apply Option.ext
    intro found
    rw [lookup_iff distinctAfter, Option.filter_eq_some_iff, lookup_iff distinct]
    constructor
    · rintro ⟨place', stored, keyed⟩
      have apart : place' ≠ slot := by
        intro same
        subst same
        simp only [place, Function.update_self, Option.some.injEq] at stored
        exact isOther (by rw [stored, keyed])
      rw [place, Function.update_of_ne apart] at stored
      refine ⟨⟨place', stored, keyed⟩, ?_⟩
      rw [Bool.not_eq_true', Bool.eq_false_iff]
      intro held
      obtain ⟨displaced, storedThere, keyedThere⟩ := holds_iff.mp held
      exact apart (distinct place' slot found displaced stored storedThere
        (keyed.trans keyedThere.symm))
    · rintro ⟨⟨place', stored, keyed⟩, kept⟩
      have apart : place' ≠ slot := by
        intro same
        subst same
        rw [holds_iff.mpr ⟨found, stored, keyed⟩] at kept
        cases kept
      exact ⟨place', by rw [place, Function.update_of_ne apart, stored], keyed⟩

end PoisonedOS.SlotTable
