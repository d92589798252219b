import Mathlib.Data.List.Nodup

/-!
# Lists that are joined key by key

A list of items with a key takes others in one after the other: an item with a new key comes
last, and one with a known key is joined to the item that is there. What such a list holds is
seen by looking keys up, up to the order of its items.
-/

namespace KeyedJoin

variable {Item Key : Type} [BEq Key] (key : Item → Key) (join : Item → Item → Item)

/-- The first item with a key. -/
def lookup (items : List Item) (wanted : Key) : Option Item :=
  items.find? fun item => key item == wanted

/-- The list with one more item. -/
def absorb (items : List Item) (item : Item) : List Item :=
  match lookup key items (key item) with
  | none => items ++ [item]
  | some current => items.map fun old => if key old == key item then join current item else old

/-- The list with more items. -/
def absorbAll (items added : List Item) : List Item := added.foldl (absorb key join) items

variable {key join} {items added : List Item} {item : Item} {wanted : Key}
variable [LawfulBEq Key]

theorem lookup_some (found : lookup key items wanted = some item) :
    item ∈ items ∧ key item = wanted := by
  have isKey := List.find?_some found
  exact ⟨List.mem_of_find?_eq_some found, beq_iff_eq.mp isKey⟩

theorem lookup_none : lookup key items wanted = none ↔ ¬ wanted ∈ items.map key := by
  simp only [lookup, List.find?_eq_none, beq_iff_eq, List.mem_map, not_exists, not_and]

/-- Where no key is there twice, an item is found by its key. -/
theorem lookup_mem (different : (items.map key).Nodup) (inside : item ∈ items) :
    lookup key items (key item) = some item := by
  cases found : lookup key items (key item) with
  | none => exact absurd (List.mem_map_of_mem inside) (lookup_none.mp found)
  | some other =>
    obtain ⟨otherInside, same⟩ := lookup_some found
    rw [List.inj_on_of_nodup_map different otherInside inside same]

/-- Lists without repeated keys hold the same items if the same are found in them. -/
theorem perm_iff_lookup {first second : List Item} (firstDifferent : (first.map key).Nodup)
    (secondDifferent : (second.map key).Nodup) :
    first.Perm second ↔ ∀ wanted, lookup key first wanted = lookup key second wanted := by
  constructor
  · intro same wanted
    cases found : lookup key first wanted with
    | none =>
      refine (lookup_none.mpr fun inside => lookup_none.mp found ?_).symm
      exact (same.map key).mem_iff.mpr inside
    | some item =>
      obtain ⟨inside, rfl⟩ := lookup_some found
      exact (lookup_mem secondDifferent (same.mem_iff.mp inside)).symm
  · intro same
    refine (List.perm_ext_iff_of_nodup firstDifferent.of_map secondDifferent.of_map).mpr ?_
    intro item
    constructor
    · intro inside
      exact (lookup_some ((same _).symm.trans (lookup_mem firstDifferent inside))).1
    · intro inside
      exact (lookup_some ((same _).trans (lookup_mem secondDifferent inside))).1

section Keys

variable [DecidableEq Key] in
theorem lookup_cons : lookup key (item :: items) wanted =
    if wanted = key item then some item else lookup key items wanted := by
  rw [lookup, List.find?_cons]
  split
  · rename_i isKey
    rw [if_pos (beq_iff_eq.mp isKey).symm]
  · rename_i other
    rw [if_neg fun isKey => beq_eq_false_iff_ne.mp other isKey.symm, lookup]

variable (keeps : ∀ left right, key left = key right → key (join left right) = key right)
include keeps

variable [DecidableEq Key] in
/-- An item is found after another was taken in: the one that was there, joined with it if it
has its key. -/
theorem lookup_absorb : lookup key (absorb key join items item) wanted =
    if wanted = key item then Option.merge join (lookup key items wanted) (some item)
    else lookup key items wanted := by
  rw [absorb]
  cases found : lookup key items (key item) with
  | none =>
    rw [lookup, List.find?_append]
    split
    · rename_i isKey
      rw [isKey, ← lookup, found]
      simp [Option.merge]
    · rename_i other
      simp [lookup, Ne.symm other]
  | some current =>
    have joined := keeps current item (lookup_some found).2
    have mapped :
        (fun old => key (if key old == key item then join current item else old) == wanted) =
          fun old => key old == wanted := by
      funext old
      split
      · rename_i same
        rw [joined, beq_iff_eq.mp same]
      · rfl
    rw [lookup, List.find?_map, Function.comp_def, mapped, ← lookup]
    split
    · rename_i isKey
      rw [isKey, found, Option.map_some, if_pos (beq_iff_eq.mpr (lookup_some found).2)]
      rfl
    · rename_i other
      cases before : lookup key items wanted with
      | none => rfl
      | some old =>
        rw [Option.map_some, if_neg]
        rw [(lookup_some before).2, beq_iff_eq]
        exact other

/-- The keys stay, and a new one comes last. -/
theorem keys_absorb : ((absorb key join items item).map key) =
    items.map key ++ if key item ∈ items.map key then [] else [key item] := by
  rw [absorb]
  cases found : lookup key items (key item) with
  | none => rw [if_neg (lookup_none.mp found), List.map_append, List.map_singleton]
  | some current =>
    have known : key item ∈ items.map key := by
      by_contra unknown
      rw [lookup_none.mpr unknown] at found
      cases found
    rw [if_pos known, List.append_nil, List.map_map]
    refine List.map_congr_left fun old _ => ?_
    rw [Function.comp_apply]
    split
    · rename_i same
      rw [keeps current item (lookup_some found).2, beq_iff_eq.mp same]
    · rfl

theorem nodup_absorb (different : (items.map key).Nodup) :
    ((absorb key join items item).map key).Nodup := by
  rw [keys_absorb keeps]
  split
  · rw [List.append_nil]
    exact different
  · rename_i unknown
    exact (List.nodup_append_comm.mp (different.cons unknown))

theorem nodup_absorbAll (different : (items.map key).Nodup) :
    ((absorbAll key join items added).map key).Nodup := by
  induction added generalizing items with
  | nil => exact different
  | cons item rest ih => exact ih (nodup_absorb keeps different)

/-- All keys of a list are still there, in their order. -/
theorem sublist_absorbAll : (items.map key).Sublist ((absorbAll key join items added).map key) := by
  induction added generalizing items with
  | nil => exact List.Sublist.refl _
  | cons item rest ih =>
    refine List.Sublist.trans ?_ ih
    rw [keys_absorb keeps]
    exact List.sublist_append_left _ _

variable [DecidableEq Key] in
/-- What is found after items with different keys were taken in is what was found before,
joined with the one that was added. -/
theorem lookup_absorbAll (different : (added.map key).Nodup) :
    lookup key (absorbAll key join items added) wanted =
      Option.merge join (lookup key items wanted) (lookup key added wanted) := by
  induction added generalizing items with
  | nil =>
    rw [absorbAll, List.foldl_nil, show lookup key [] wanted = none from rfl]
    cases lookup key items wanted <;> rfl
  | cons item rest ih =>
    rw [List.map_cons, List.nodup_cons] at different
    rw [absorbAll, List.foldl_cons, ← absorbAll, ih different.2,
      lookup_absorb keeps]
    by_cases isKey : wanted = key item
    · have absent : lookup key rest wanted = none := lookup_none.mpr (isKey ▸ different.1)
      rw [lookup_cons, if_pos isKey, if_pos isKey, absent]
      cases lookup key items wanted <;> rfl
    · rw [lookup_cons, if_neg isKey, if_neg isKey]

end Keys

end KeyedJoin
