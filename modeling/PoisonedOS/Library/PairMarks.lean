import Mathlib.Data.List.Basic

/-!
# Marking clashing pairs

All pairs of a list are compared, each item with those after it, and both items of a
clashing pair are marked. If the marks do not change what clashes, and the clash is
symmetric, an item is marked exactly where some item of the list clashes with it.
-/

namespace PairMarks

variable {Item : Type} (clash : Item → Item → Bool) (mark : Item → Item)

/-- The inner loop: an item against those after it. -/
def markRow (first : Item) : List Item → Item × List Item
  | [] => (first, [])
  | second :: rest =>
    if clash first second then
      let row := markRow (mark first) rest
      (row.1, mark second :: row.2)
    else
      let row := markRow first rest
      (row.1, second :: row.2)

/-- The outer loop over a number of rows. -/
def markRows : Nat → List Item → List Item
  | rows + 1, first :: rest =>
    let row := markRow clash mark first rest
    row.1 :: markRows rows row.2
  | _, items => items

/-- All pairs of the list. -/
def markPairs (items : List Item) : List Item := markRows clash mark items.length items

theorem length_markRow (first : Item) (rest : List Item) :
    (markRow clash mark first rest).2.length = rest.length := by
  induction rest generalizing first with
  | nil => rfl
  | cons second rest ih =>
    rw [markRow]
    split
    · exact congrArg (· + 1) (ih _)
    · exact congrArg (· + 1) (ih _)

/-- No item is lost. -/
theorem length_markPairs (items : List Item) :
    (markPairs clash mark items).length = items.length := by
  suffices rows : ∀ count (items : List Item),
      (markRows clash mark count items).length = items.length from rows _ items
  intro count
  induction count with
  | zero => exact fun items => by cases items <;> rfl
  | succ count ih =>
    intro items
    cases items with
    | nil => rfl
    | cons first rest =>
      rw [markRows, List.length_cons, ih, length_markRow, List.length_cons]

/-- An item, marked where the condition holds. -/
def markIf (condition : Bool) (item : Item) : Item := if condition then mark item else item

/-- A clash that is symmetric and not of an item with itself, and a mark that changes no
clash and is set once. -/
structure Lawful (clash : Item → Item → Bool) (mark : Item → Item) : Prop where
  symmetric : ∀ first second, clash first second = clash second first
  irreflexive : ∀ item, clash item item = false
  marked : ∀ first second, clash (mark first) second = clash first second
  once : ∀ item, mark (mark item) = mark item

section Laws

variable {clash mark} (lawful : Lawful clash mark)
include lawful

theorem Lawful.markIf_left (condition : Bool) (first second : Item) :
    clash (markIf mark condition first) second = clash first second := by
  cases condition with
  | true => exact lawful.marked first second
  | false => rfl

theorem Lawful.markIf_right (condition : Bool) (first second : Item) :
    clash first (markIf mark condition second) = clash first second := by
  rw [lawful.symmetric, lawful.markIf_left, lawful.symmetric]

theorem Lawful.markIf_twice (inner outer : Bool) (item : Item) :
    markIf mark outer (markIf mark inner item) = markIf mark (inner || outer) item := by
  cases inner with
  | true =>
    cases outer with
    | true => exact lawful.once item
    | false => rfl
  | false => rfl

/-- The inner loop marks what clashes with its item, and the item if anything does. -/
theorem Lawful.markRow_eq (first : Item) (rest : List Item) :
    markRow clash mark first rest =
      (markIf mark (rest.any (clash first)) first,
        rest.map fun second => markIf mark (clash first second) second) := by
  induction rest generalizing first with
  | nil => rfl
  | cons second rest ih =>
    rw [markRow, List.any_cons, List.map_cons]
    have kept : clash (mark first) = clash first := funext (lawful.marked first)
    cases found : clash first second with
    | true =>
      have twice := lawful.markIf_twice true (rest.any (clash first)) first
      rw [if_pos rfl, ih, kept]
      exact Prod.ext twice rfl
    | false =>
      rw [if_neg Bool.false_ne_true, ih]
      rfl

/-- The loops mark exactly the items that clash with an item of the list.

Proof: by induction on the rows. The first row's item is compared with all others, and the
marks that its row sets are those of the later items that clash with it. -/
theorem Lawful.markPairs_eq (items : List Item) :
    markPairs clash mark items =
      items.map fun item => markIf mark (items.any (clash item)) item := by
  suffices rows : ∀ count (items : List Item), items.length = count →
      markRows clash mark count items =
        items.map fun item => markIf mark (items.any (clash item)) item from
    rows _ items rfl
  intro count
  induction count with
  | zero =>
    intro items empty
    rw [List.length_eq_zero_iff.mp empty]
    rfl
  | succ count ih =>
    intro items counted
    obtain ⟨first, rest, rfl⟩ := List.exists_cons_of_length_eq_add_one counted
    have restCounted : rest.length = count := Nat.succ.inj counted
    rw [markRows, lawful.markRow_eq]
    dsimp only
    rw [ih _ (by rw [List.length_map, restCounted]), List.map_cons, List.any_cons,
      lawful.irreflexive, Bool.false_or, List.map_map]
    refine congrArg _ (List.map_congr_left fun second _ => ?_)
    have others : (rest.map fun item => markIf mark (clash first item) item).any
        (clash (markIf mark (clash first second) second)) = rest.any (clash second) := by
      rw [List.any_map]
      refine congrArg (rest.any ·) (funext fun other => ?_)
      rw [Function.comp_apply, lawful.markIf_right, lawful.markIf_left]
    rw [Function.comp_apply, others, lawful.markIf_twice, List.any_cons, lawful.symmetric first]

end Laws

end PairMarks
