import Mathlib.Data.List.Induction

/-!
# Numbered chains of digests

The entries of a chain are numbered without gaps, and each carries the digest of the one
before it. A stretch of a chain is such a list that starts after a given number and a given
digest; parts of a stretch are stretches again, and selecting the entries above a number is
dropping those up to it.
-/

namespace PoisonedOS.HashChain

universe u v
variable {Entry : Type u} {Link : Type v} (number : Entry → Nat) (prior link : Entry → Link)

def Linked : Nat → Link → List Entry → Prop
  | _, _, [] => True
  | base, before, entry :: entries =>
    number entry = base + 1 ∧ prior entry = before ∧ Linked (base + 1) (link entry) entries

/-- The digest a list ends with, or the one it starts after. -/
def lastLink (before : Link) : List Entry → Link
  | [] => before
  | entry :: entries => lastLink (link entry) entries

variable {number prior link} {base : Nat} {before : Link} {entries : List Entry}

/-- A list ends with the digest of its last entry. -/
theorem lastLink_concat (before : Link) (entries : List Entry) (entry : Entry) :
    lastLink link before (entries ++ [entry]) = link entry := by
  induction entries generalizing before with
  | nil => rfl
  | cons first entries ih => exact ih (link first)

variable {entry : Entry}

/-- A list that is not empty ends with the digest of its last entry. -/
theorem lastLink_getLast (last : entries.getLast? = some entry) :
    lastLink link before entries = link entry := by
  obtain ⟨front, rfl⟩ := List.getLast?_eq_some_iff.mp last
  exact lastLink_concat before front entry

/-- One more entry continues a stretch when it carries the next number and the last digest. -/
theorem Linked.concat (linked : Linked number prior link base before entries)
    (numbered : number entry = base + entries.length + 1)
    (continues : prior entry = lastLink link before entries) :
    Linked number prior link base before (entries ++ [entry]) := by
  induction entries generalizing base before with
  | nil => exact ⟨by simpa using numbered, continues, trivial⟩
  | cons first entries ih =>
    obtain ⟨firstNumber, firstPrior, rest⟩ := linked
    refine ⟨firstNumber, firstPrior, ih rest ?_ continues⟩
    rw [numbered, List.length_cons]
    omega

/-- What comes after the first entries of a stretch is one. -/
theorem Linked.drop (linked : Linked number prior link base before entries) {count : Nat}
    (within : count ≤ entries.length) :
    Linked number prior link (base + count) (lastLink link before (entries.take count))
      (entries.drop count) := by
  induction count generalizing base before entries with
  | zero => exact linked
  | succ count ih =>
    cases entries with
    | nil => simp at within
    | cons first entries =>
      have rest := ih linked.2.2 (by simpa using within)
      rw [show base + (count + 1) = base + 1 + count by omega]
      exact rest

/-- The first entries of a stretch are one. -/
theorem Linked.take (linked : Linked number prior link base before entries) (count : Nat) :
    Linked number prior link base before (entries.take count) := by
  induction count generalizing base before entries with
  | zero => exact trivial
  | succ count ih =>
    cases entries with
    | nil => exact trivial
    | cons first entries => exact ⟨linked.1, linked.2.1, ih linked.2.2⟩

/-- Entries are numbered by their position. -/
theorem Linked.number_eq (linked : Linked number prior link base before entries) {index : Nat}
    (stored : entries[index]? = some entry) :
    number entry = base + index + 1 := by
  induction index generalizing base before entries with
  | zero =>
    cases entries with
    | nil => cases stored
    | cons first entries =>
      cases stored
      exact linked.1
  | succ index ih =>
    cases entries with
    | nil => cases stored
    | cons first entries =>
      have rest := ih linked.2.2 stored
      omega

/-- The entries above a number are those after the first ones. -/
theorem Linked.filter_above (linked : Linked number prior link base before entries)
    (bound : Nat) :
    entries.filter (fun entry => decide (bound < number entry)) =
      entries.drop (bound - base) := by
  induction entries generalizing base before with
  | nil => simp
  | cons first entries ih =>
    obtain ⟨firstNumber, -, rest⟩ := linked
    rw [List.filter_cons, ih rest, firstNumber]
    by_cases above : bound < base + 1
    · have none : bound - base = 0 := by omega
      have noneLeft : bound - (base + 1) = 0 := by omega
      simp only [above, decide_true, ↓reduceIte, none, noneLeft, List.drop_zero]
    · have some : bound - base = bound - (base + 1) + 1 := by omega
      simp only [above, decide_false, Bool.false_eq_true, ↓reduceIte, some, List.drop_succ_cons]

/-- Chains from one start that are as long and end with the same digest are the same, where a
digest is that of one entry only.

Proof: by induction from the end. The last entries have one digest, so they are the same, and so
is the digest that they carry of what comes before. -/
theorem Linked.eq_of_lastLink {left right : List Entry}
    (leftLinked : Linked number prior link base before left)
    (rightLinked : Linked number prior link base before right)
    (binding : ∀ first ∈ left, ∀ second ∈ right, link first = link second → first = second)
    (counted : left.length = right.length)
    (same : lastLink link before left = lastLink link before right) : left = right := by
  induction left using List.reverseRecOn generalizing right with
  | nil => exact (List.eq_nil_of_length_eq_zero counted.symm).symm
  | append_singleton front last ih =>
    cases right using List.reverseRecOn with
    | nil => simp at counted
    | append_singleton others final =>
      have lengths : front.length = others.length := by simpa using counted
      rw [lastLink_concat, lastLink_concat] at same
      obtain rfl := binding last (by simp) final (by simp) same
      have carried (list : List Entry) (linked : Linked number prior link base before
          (list ++ [last])) : prior last = lastLink link before list := by
        have within : list.length ≤ (list ++ [last]).length := by simp
        have suffix := linked.drop within
        rw [List.take_left, List.drop_left] at suffix
        exact suffix.2.1
      have fronts := ih
        (by simpa using leftLinked.take front.length) (by simpa using rightLinked.take others.length)
        (fun first isFirst second isSecond => binding first (List.mem_append_left _ isFirst) second
          (List.mem_append_left _ isSecond)) lengths
        ((carried front leftLinked).symm.trans (carried others rightLinked))
      rw [fronts]

end PoisonedOS.HashChain
