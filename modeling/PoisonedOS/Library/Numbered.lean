import Mathlib.Data.List.Infix
import Mathlib.Data.List.Sort

/-!
# Numbered lists

A list is numbered if its elements have the numbers from one on, in order. It is sorted by these
numbers, each number stands for one element, and it is continued by an element with the next one.
-/

namespace PoisonedOS.Numbered

variable {Element : Type} (number : Element → Int)

/-- The elements have the numbers from one on. -/
def IsNumbered (elements : List Element) : Prop :=
  ∀ (index : Nat) element, elements[index]? = some element → number element = index + 1

variable {number} {elements : List Element} {element : Element}

/-- No elements are numbered. -/
theorem isNumbered_nil : IsNumbered number [] := by
  intro index element found
  cases found

/-- The next element has the next number. -/
theorem isNumbered_concat (numbered : IsNumbered number elements)
    (next : number element = elements.length + 1) :
    IsNumbered number (elements ++ [element]) := by
  intro index other found
  by_cases earlier : index < elements.length
  · rw [List.getElem?_append_left earlier] at found
    exact numbered index other found
  · have later := Nat.not_lt.mp earlier
    rw [List.getElem?_append_right later] at found
    obtain ⟨within, rfl⟩ := List.getElem?_eq_some_iff.mp found
    rw [List.length_singleton] at within
    have last : index = elements.length := by omega
    subst last
    simpa using next

/-- No number is beyond the length. -/
theorem number_le (numbered : IsNumbered number elements) (isElement : element ∈ elements) :
    number element ≤ elements.length := by
  obtain ⟨index, found⟩ := List.mem_iff_getElem?.mp isElement
  obtain ⟨within, -⟩ := List.getElem?_eq_some_iff.mp found
  have counted := numbered index element found
  omega

/-- The numbers grow. -/
theorem pairwise_le (numbered : IsNumbered number elements) :
    elements.Pairwise fun left right => number left ≤ number right := by
  rw [List.pairwise_iff_getElem]
  intro left right leftWithin rightWithin before
  have leftNumber := numbered left _ (List.getElem?_eq_getElem leftWithin)
  have rightNumber := numbered right _ (List.getElem?_eq_getElem rightWithin)
  omega

/-- Elements of one number are one element. -/
theorem eq_of_number (numbered : IsNumbered number elements) {other : Element}
    (isElement : element ∈ elements) (isOther : other ∈ elements)
    (same : number element = number other) : element = other := by
  obtain ⟨index, found⟩ := List.mem_iff_getElem?.mp isElement
  obtain ⟨otherIndex, otherFound⟩ := List.mem_iff_getElem?.mp isOther
  have counted := numbered index element found
  have otherCounted := numbered otherIndex other otherFound
  have sameIndex : index = otherIndex := by omega
  subst sameIndex
  exact Option.some.inj (found.symm.trans otherFound)

end PoisonedOS.Numbered
