import Mathlib.Data.List.Nodup
import PoisonedOS.Library.SortedInsertion

/-!
# Lists with a key

A map from keys to items that carry their key is the list of its items in the order of their
keys. Putting an item takes the place of the one with its key. Two such lists with the same
items are the same list.
-/

namespace KeyedList

open SortedInsertion (Sorted)

section Order

variable {Item Key : Type} [Ord Key]

/-- One item comes before another. -/
def before (key : Item → Key) (first second : Item) : Bool :=
  compare (key first) (key second) == .lt

variable {key : Item → Key} [Std.TransOrd Key] [Std.LawfulEqOrd Key]

omit [Std.LawfulEqOrd Key] in
theorem before_chained : SortedInsertion.Chained (before key) := by
  intro first second third early late
  rw [before, beq_iff_eq] at early late ⊢
  exact Std.TransCmp.lt_trans early late

omit [Std.TransOrd Key] in
theorem before_self {first second : Item} (same : key first = key second) :
    before key first second = false := by
  rw [before, same, Std.LawfulEqOrd.compare_eq_iff_eq.mpr rfl]
  rfl

/-- An item with another key is before or after. -/
theorem before_or {first second : Item} (other : key first ≠ key second) :
    before key first second = true ∨ before key second first = true := by
  rw [before, before, beq_iff_eq, beq_iff_eq]
  cases order : compare (key first) (key second) with
  | lt => exact .inl rfl
  | gt => exact .inr (Std.OrientedCmp.lt_of_gt order)
  | eq => exact absurd (Std.LawfulEqOrd.compare_eq_iff_eq.mp order) other

omit [Std.TransOrd Key] in
/-- No key is there twice. -/
theorem nodup_keys {items : List Item} (sorted : Sorted (before key) items) :
    (items.map key).Nodup := by
  refine List.pairwise_map.mpr (sorted.imp fun {first second} early same => ?_)
  rw [before_self same] at early
  cases early

omit [Std.TransOrd Key] in
theorem eq_of_key {items : List Item} (sorted : Sorted (before key) items) {first second : Item}
    (firstInside : first ∈ items) (secondInside : second ∈ items)
    (same : key first = key second) : first = second :=
  List.inj_on_of_nodup_map (nodup_keys sorted) firstInside secondInside same

/-- Sorted lists with the same items are the same. -/
theorem eq_of_mem_iff {first second : List Item} (firstSorted : Sorted (before key) first)
    (secondSorted : Sorted (before key) second) (same : ∀ item, item ∈ first ↔ item ∈ second) :
    first = second :=
  Sorted.eq_of_perm before_chained (fun _ => before_self rfl) firstSorted secondSorted
    ((List.perm_ext_iff_of_nodup (nodup_keys firstSorted).of_map
      (nodup_keys secondSorted).of_map).mpr same)

end Order

variable {Item Key : Type} [DecidableEq Key]

/-- The items without the one with a key. -/
def without (key : Item → Key) (removed : Key) (items : List Item) : List Item :=
  items.filter fun item => key item != removed

/-- Whether an item with the key is there. -/
def has (key : Item → Key) (wanted : Key) (items : List Item) : Bool :=
  items.any fun item => key item == wanted

variable {items : List Item} {item : Item}

theorem mem_without {key : Item → Key} {removed : Key} :
    item ∈ without key removed items ↔ item ∈ items ∧ key item ≠ removed := by
  rw [without, List.mem_filter, bne_iff_ne]

theorem has_iff {key : Item → Key} {wanted : Key} :
    has key wanted items = true ↔ wanted ∈ items.map key := by
  simp only [has, List.any_eq_true, beq_iff_eq, List.mem_map]

variable [Ord Key]

def put (key : Item → Key) (item : Item) (items : List Item) : List Item :=
  SortedInsertion.insertItem (before key) item (without key (key item) items)

/-- The items with others, put one after the other. -/
def putAll (key : Item → Key) (added items : List Item) : List Item :=
  added.foldl (fun items item => put key item items) items

variable {key : Item → Key}

theorem mem_put {other : Item} :
    other ∈ put key item items ↔ other = item ∨ other ∈ items ∧ key other ≠ key item := by
  rw [put, (SortedInsertion.insertItem_perm _ _ _).mem_iff, List.mem_cons, mem_without]

/-- The keys after an item was put. -/
theorem mem_keys_put {wanted : Key} :
    wanted ∈ (put key item items).map key ↔ wanted = key item ∨ wanted ∈ items.map key := by
  simp only [List.mem_map, mem_put]
  constructor
  · rintro ⟨other, rfl | ⟨old, -⟩, rfl⟩
    · exact .inl rfl
    · exact .inr ⟨other, old, rfl⟩
  · rintro (rfl | ⟨other, old, rfl⟩)
    · exact ⟨item, .inl rfl, rfl⟩
    · by_cases same : key other = key item
      · exact ⟨item, .inl rfl, same.symm⟩
      · exact ⟨other, .inr ⟨old, same⟩, rfl⟩

/-- Items with different keys that are put one after the other are all there in the end. -/
theorem mem_putAll {added : List Item} (different : (added.map key).Nodup) :
    item ∈ putAll key added items ↔ item ∈ added ∨ item ∈ items ∧ key item ∉ added.map key := by
  induction added generalizing items with
  | nil => simp [putAll]
  | cons first rest ih =>
    rw [List.map_cons, List.nodup_cons] at different
    rw [putAll, List.foldl_cons, ← putAll, ih different.2, mem_put, List.mem_cons,
      List.map_cons, List.mem_cons, not_or]
    constructor
    · rintro (inRest | ⟨rfl | ⟨old, other⟩, apart⟩)
      · exact .inl (.inr inRest)
      · exact .inl (.inl rfl)
      · exact .inr ⟨old, other, apart⟩
    · rintro ((rfl | inRest) | ⟨old, other, apart⟩)
      · exact .inr ⟨.inl rfl, different.1⟩
      · exact .inl inRest
      · exact .inr ⟨.inr ⟨old, other⟩, apart⟩

theorem sorted_without (sorted : Sorted (before key) items) (removed : Key) :
    Sorted (before key) (without key removed items) :=
  sorted.filter _

section Laws

variable [Std.TransOrd Key] [Std.LawfulEqOrd Key]

theorem sorted_put (sorted : Sorted (before key) items) (item : Item) :
    Sorted (before key) (put key item items) := by
  refine SortedInsertion.insertItem_sorted before_chained (sorted_without sorted _) ?_
  intro other inside
  exact (before_or (mem_without.mp inside).2).symm

/-- Putting an item that is there changes nothing. -/
theorem put_of_mem (sorted : Sorted (before key) items) (inside : item ∈ items) :
    put key item items = items := by
  refine eq_of_mem_iff (sorted_put sorted item) sorted fun other => ?_
  rw [mem_put]
  constructor
  · rintro (rfl | ⟨old, -⟩)
    · exact inside
    · exact old
  · intro old
    by_cases same : key other = key item
    · exact .inl (eq_of_key sorted old inside same)
    · exact .inr ⟨old, same⟩

/-- Putting an item makes the list longer by one if its key is new. -/
theorem length_put (sorted : Sorted (before key) items) (item : Item) :
    (put key item items).length =
      if has key (key item) items then items.length else items.length + 1 := by
  have length {keys : List Key} (nodup : keys.Nodup)
      (same : ∀ wanted, wanted ∈ (put key item items).map key ↔ wanted ∈ keys) :
      (put key item items).length = keys.length := by
    have perm := (List.perm_ext_iff_of_nodup (nodup_keys (sorted_put sorted item)) nodup).mpr same
    rw [← perm.length_eq, List.length_map]
  split
  · rename_i known
    rw [length (nodup_keys sorted), List.length_map]
    intro wanted
    rw [mem_keys_put, or_iff_right_of_imp]
    rintro rfl
    exact has_iff.mp known
  · rename_i unknown
    rw [length ((nodup_keys sorted).cons (mt has_iff.mpr unknown)), List.length_cons,
      List.length_map]
    intro wanted
    rw [mem_keys_put, List.mem_cons]

end Laws

end KeyedList
