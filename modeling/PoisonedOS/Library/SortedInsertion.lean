import Mathlib.Data.List.Perm.Basic

/-!
# Insertion into a sorted list

An item is put into a sorted list by moving the later items one place back, from the last
one on, until one is met that is not after the item. If the order tells the item from all
others, the list stays strictly sorted.

A strictly sorted list is determined by its items, so that lists which were filled in
different orders are the same list.
-/

namespace SortedInsertion

variable {Item : Type} (before : Item → Item → Bool)

/-- The loop that moves the later items back, over the items from the last one on. -/
def shift (item : Item) : List Item → List Item
  | [] => [item]
  | last :: rest => if before item last then last :: shift item rest else item :: last :: rest

/-- The list with the item in its place. -/
def insertItem (item : Item) (items : List Item) : List Item :=
  (shift before item items.reverse).reverse

/-- Each item is before all later ones. -/
def Sorted (items : List Item) : Prop :=
  items.Pairwise fun first second => before first second = true

variable (item : Item)

theorem shift_perm (items : List Item) :
    (shift before item items).Perm (item :: items) := by
  induction items with
  | nil => exact List.Perm.refl _
  | cons last rest ih =>
    rw [shift]
    split
    · exact (ih.cons last).trans (List.Perm.swap item last rest)
    · exact List.Perm.refl _

/-- The item is added to those of the list. -/
theorem insertItem_perm (items : List Item) :
    (insertItem before item items).Perm (item :: items) :=
  (List.reverse_perm _).trans
    ((shift_perm before item _).trans ((List.reverse_perm items).cons item))

theorem length_insertItem (items : List Item) :
    (insertItem before item items).length = items.length + 1 :=
  (insertItem_perm before item items).length_eq

section Order

variable {before}

/-- An order that is transitive. -/
def Chained (before : Item → Item → Bool) : Prop :=
  ∀ first second third, before first second = true → before second third = true →
    before first third = true

def Placed (before : Item → Item → Bool) (item : Item) (items : List Item) : Prop :=
  ∀ other ∈ items, before item other = true ∨ before other item = true

/-- Proof: by induction on the items from the last one on. The item is not after the items
that are moved, and the first one that is not moved is before it, with all earlier ones. -/
theorem shift_sorted (chained : Chained before) {item : Item} {items : List Item}
    (sorted : items.Pairwise fun second first => before first second = true)
    (placed : Placed before item items) :
    (shift before item items).Pairwise fun second first => before first second = true := by
  induction items with
  | nil => exact List.pairwise_singleton _ _
  | cons last rest ih =>
    obtain ⟨lastAfter, restSorted⟩ := List.pairwise_cons.mp sorted
    have restPlaced : Placed before item rest := fun other inside =>
      placed other (List.mem_cons_of_mem _ inside)
    rw [shift]
    split
    · rename_i earlier
      refine List.pairwise_cons.mpr ⟨?_, ih restSorted restPlaced⟩
      intro other inside
      obtain rfl | inRest := List.mem_cons.mp ((shift_perm before item rest).mem_iff.mp inside)
      · exact earlier
      · exact lastAfter other inRest
    · rename_i notEarlier
      have lastBefore : before last item = true :=
        (placed last List.mem_cons_self).resolve_left notEarlier
      refine List.pairwise_cons.mpr ⟨?_, sorted⟩
      intro other inside
      obtain rfl | inRest := List.mem_cons.mp inside
      · exact lastBefore
      · exact chained other last item (lastAfter other inRest) lastBefore

/-- Insertion keeps a list sorted. -/
theorem insertItem_sorted (chained : Chained before) {item : Item} {items : List Item}
    (sorted : Sorted before items) (placed : Placed before item items) :
    Sorted before (insertItem before item items) := by
  have shifted := shift_sorted chained (List.pairwise_reverse.mpr sorted)
    (fun other inside => placed other (List.mem_reverse.mp inside))
  exact List.pairwise_reverse.mpr shifted

/-- A strictly sorted list is determined by its items. -/
theorem Sorted.eq_of_perm (chained : Chained before)
    (irreflexive : ∀ item, before item item = false) {first second : List Item}
    (firstSorted : Sorted before first) (secondSorted : Sorted before second)
    (same : first.Perm second) : first = second := by
  refine same.eq_of_pairwise ?_ firstSorted secondSorted
  intro left right _ _ leftFirst rightFirst
  have cycle := chained left right left leftFirst rightFirst
  rw [irreflexive] at cycle
  cases cycle

end Order

end SortedInsertion
