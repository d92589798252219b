import Mathlib.Data.List.Nodup
import Mathlib.Logic.Function.Basic

/-!
# Keys with one holder and a counter

Items are held by holders, at most one each. An item has a key and a counter. Keys
are issued once, an item may move from holder to holder or be dropped, and a use
takes the counter's value and advances it. Then no key is ever held twice and no
pair of a key and a number is used twice.

The moves are general: an item may be copied, as long as of the copies one is kept.
-/

namespace PoisonedOS.Ownership

universe u v w
variable {Holder : Type u} {Item : Type v} {Key : Type w} (key : Item → Key)
  (counter : Item → Nat)

/-- No two holders have items with the same key. -/
def Exclusive (held : Holder → Option Item) : Prop :=
  ∀ holder other item second, held holder = some item → held other = some second →
    key item = key second → holder = other

/-- Every item held afterwards was held before, by a holder from which no other
holder got one, under the same key and with a counter that is no larger. -/
structure Moves (held next : Holder → Option Item) (origin : Holder → Holder) : Prop where
  came : ∀ holder item, next holder = some item →
    ∃ former, held (origin holder) = some former ∧ key former = key item ∧
      counter former ≤ counter item
  single : ∀ holder other item second, next holder = some item → next other = some second →
    origin holder = origin other → holder = other

/-- The account of all keys issued and all numbers used. -/
structure Accounted (held : Holder → Option Item) (issued : List Key)
    (used : List (Key × Nat)) : Prop where
  exclusive : Exclusive key held
  known : ∀ holder item, held holder = some item → key item ∈ issued
  owned : ∀ entry ∈ used, entry.1 ∈ issued
  spent : ∀ holder item, held holder = some item →
    ∀ entry ∈ used, entry.1 = key item → entry.2 < counter item
  distinct : used.Nodup

variable {key counter} {held next : Holder → Option Item} {issued : List Key}
  {used : List (Key × Nat)}

/-- Items that stay where they are or are dropped. -/
theorem Moves.kept (stays : ∀ holder item, next holder = some item →
    ∃ former, held holder = some former ∧ key former = key item ∧ counter former ≤ counter item) :
    Moves key counter held next id where
  came := stays
  single _ _ _ _ _ _ same := same

variable {origin : Holder → Holder}

/-- A function of the key is a key that moves along. -/
theorem Moves.project {Part : Type*} (part : Key → Part)
    (moves : Moves key counter held next origin) :
    Moves (part ∘ key) counter held next origin where
  came holder item stored := by
    obtain ⟨former, before, sameKey, grown⟩ := moves.came holder item stored
    exact ⟨former, before, congrArg part sameKey, grown⟩
  single := moves.single

/-- The counter may be forgotten. -/
theorem Moves.uncounted (moves : Moves key counter held next origin) :
    Moves key (fun _ => 0) held next origin where
  came holder item stored := by
    obtain ⟨former, before, sameKey, -⟩ := moves.came holder item stored
    exact ⟨former, before, sameKey, Nat.le_refl 0⟩
  single := moves.single

/-- Nothing is held and nothing was used. -/
theorem Accounted.initial (empty : ∀ holder, held holder = none) :
    Accounted key counter held [] [] where
  exclusive holder other item second stored := by
    rw [empty holder] at stored
    cases stored
  known holder item stored := by
    rw [empty holder] at stored
    cases stored
  owned := by simp
  spent := by simp
  distinct := List.nodup_nil

/-- The account stays right when items move. -/
theorem Accounted.moves (accounted : Accounted key counter held issued used)
    (moves : Moves key counter held next origin) : Accounted key counter next issued used where
  exclusive holder other item second stored stored' same := by
    obtain ⟨former, before, sameKey, -⟩ := moves.came holder item stored
    obtain ⟨former', before', sameKey', -⟩ := moves.came other second stored'
    have sameOrigin := accounted.exclusive _ _ former former' before before'
      (sameKey.trans (same.trans sameKey'.symm))
    exact moves.single holder other item second stored stored' sameOrigin
  known holder item stored := by
    obtain ⟨former, before, sameKey, -⟩ := moves.came holder item stored
    rw [← sameKey]
    exact accounted.known _ former before
  owned := accounted.owned
  spent holder item stored entry member same := by
    obtain ⟨former, before, sameKey, grown⟩ := moves.came holder item stored
    exact Nat.lt_of_lt_of_le
      (accounted.spent _ former before entry member (same.trans sameKey.symm)) grown
  distinct := accounted.distinct

variable [DecidableEq Holder]

theorem Moves.transfer (source target : Holder)
    (handed : ∀ item, next target = some item → held source = some item)
    (left : next source = none)
    (others : ∀ holder item, holder ≠ target → next holder = some item → held holder = some item) :
    Moves key counter held next (fun holder => if holder = target then source else holder) where
  came holder item stored := by
    by_cases here : holder = target
    · rw [if_pos here]
      rw [here] at stored
      exact ⟨item, handed item stored, rfl, Nat.le_refl _⟩
    · rw [if_neg here]
      exact ⟨item, others holder item here stored, rfl, Nat.le_refl _⟩
  single holder other item second stored stored' same := by
    by_cases here : holder = target
    · by_cases there : other = target
      · rw [here, there]
      · rw [if_pos here, if_neg there] at same
        rw [← same, left] at stored'
        cases stored'
    · by_cases there : other = target
      · rw [if_neg here, if_pos there] at same
        rw [same, left] at stored
        cases stored
      · rwa [if_neg here, if_neg there] at same

/-- A key that was never issued may be given to a holder, in place of what it
held. -/
theorem Accounted.issue {holder : Holder} {item : Item}
    (accounted : Accounted key counter held issued used) (fresh : key item ∉ issued) :
    Accounted key counter (Function.update held holder (some item)) (issued ++ [key item]) used
    where
  exclusive first second left right stored stored' same := by
    by_cases here : first = holder
    · by_cases there : second = holder
      · rw [here, there]
      · rw [here, Function.update_self, Option.some.injEq] at stored
        rw [Function.update_of_ne there] at stored'
        have known := accounted.known second right stored'
        rw [← same, ← stored] at known
        exact absurd known fresh
    · rw [Function.update_of_ne here] at stored
      by_cases there : second = holder
      · rw [there, Function.update_self, Option.some.injEq] at stored'
        have known := accounted.known first left stored
        rw [same, ← stored'] at known
        exact absurd known fresh
      · rw [Function.update_of_ne there] at stored'
        exact accounted.exclusive first second left right stored stored' same
  known first left stored := by
    by_cases here : first = holder
    · rw [here, Function.update_self, Option.some.injEq] at stored
      rw [stored]
      exact List.mem_append_right _ (List.mem_singleton.mpr rfl)
    · rw [Function.update_of_ne here] at stored
      exact List.mem_append_left _ (accounted.known first left stored)
  owned entry member := List.mem_append_left _ (accounted.owned entry member)
  spent first left stored entry member same := by
    by_cases here : first = holder
    · rw [here, Function.update_self, Option.some.injEq] at stored
      have owned := accounted.owned entry member
      rw [same, ← stored] at owned
      exact absurd owned fresh
    · rw [Function.update_of_ne here] at stored
      exact accounted.spent first left stored entry member same
  distinct := accounted.distinct

/-- A holder may use its counter's value once, when it advances the counter. -/
theorem Accounted.use {holder : Holder} {item advanced : Item}
    (accounted : Accounted key counter held issued used) (stored : held holder = some item)
    (sameKey : key advanced = key item) (grown : counter item < counter advanced) :
    Accounted key counter (Function.update held holder (some advanced)) issued
      (used ++ [(key item, counter item)]) := by
  have moves : Moves key counter held (Function.update held holder (some advanced)) id := by
    constructor
    · intro other second stored'
      by_cases here : other = holder
      · rw [here, Function.update_self, Option.some.injEq] at stored'
        subst here stored'
        exact ⟨item, stored, sameKey.symm, Nat.le_of_lt grown⟩
      · rw [Function.update_of_ne here] at stored'
        exact ⟨second, stored', rfl, Nat.le_refl _⟩
    · intro first second left right _ _ same
      exact same
  have moved := accounted.moves moves
  constructor
  · exact moved.exclusive
  · exact moved.known
  · intro entry member
    rw [List.mem_append, List.mem_singleton] at member
    obtain member | rfl := member
    · exact accounted.owned entry member
    · exact accounted.known holder item stored
  · intro first left stored' entry member same
    rw [List.mem_append, List.mem_singleton] at member
    obtain member | rfl := member
    · exact moved.spent first left stored' entry member same
    · have here := moved.exclusive holder first advanced left (Function.update_self ..) stored'
        (sameKey.trans same)
      rw [← here, Function.update_self, Option.some.injEq] at stored'
      rw [← stored']
      exact grown
  · refine List.nodup_append.mpr ⟨accounted.distinct, List.nodup_singleton _, ?_⟩
    intro entry member other single
    rw [List.mem_singleton.mp single]
    rintro rfl
    exact Nat.lt_irrefl _ (accounted.spent holder item stored _ member rfl)

end PoisonedOS.Ownership
