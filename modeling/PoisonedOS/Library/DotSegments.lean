import Mathlib.Algebra.GroupWithZero.Nat
import Mathlib.Data.List.Basic

/-!
# Dot segments

A relative path is a text that is cut at a separator. Its segments are taken one after the other
onto a stack: one dot stands for where one is, two dots take the last name away, and every other
segment is a name that is put on the stack. A path whose segments are all names is its own stack.
-/

namespace PoisonedOS.DotSegments

universe u
variable {Letter : Type u} (separator dot : Letter)

/-- The segments joined into a text. -/
def joined (parts : List (List Letter)) : List Letter := [separator].intercalate parts

/-- A segment that stands for itself. -/
structure IsName (part : List Letter) : Prop where
  nonempty : part ≠ []
  free : separator ∉ part
  notHere : part ≠ [dot]
  notUp : part ≠ [dot, dot]

variable {separator dot} {text : List Letter} {parts stack final : List (List Letter)}
  {part : List Letter}

@[simp] theorem joined_nil : joined separator [] = [] := rfl

theorem joined_concat (inhabited : parts ≠ []) (part : List Letter) :
    joined separator (parts ++ [part]) = joined separator parts ++ separator :: part := by
  induction parts with
  | nil => exact absurd rfl inhabited
  | cons first rest ih =>
    cases rest with
    | nil => simp [joined]
    | cons second others =>
      have later := ih (List.cons_ne_nil _ _)
      simp only [joined, List.cons_append, List.intercalate_cons_cons] at later ⊢
      rw [later]
      simp

theorem joined_ne_nil (named : ∀ part ∈ parts, part ≠ []) (inhabited : parts ≠ []) :
    joined separator parts ≠ [] := by
  cases parts with
  | nil => exact absurd rfl inhabited
  | cons first rest =>
    have full := named first List.mem_cons_self
    cases rest with
    | nil => simpa [joined] using full
    | cons second others =>
      rw [joined, List.intercalate_cons_cons]
      simp [full]

/-- A separator before each segment makes the joined text longer by one. -/
theorem length_joined (inhabited : parts ≠ []) :
    (joined separator parts).length + 1 = (parts.map (·.length + 1)).sum := by
  induction parts with
  | nil => exact absurd rfl inhabited
  | cons first rest ih =>
    cases rest with
    | nil => simp only [joined, List.intercalate_singleton, List.map_cons, List.map_nil,
        List.sum_cons, List.sum_nil, Nat.add_zero]
    | cons second others =>
      have later := ih (List.cons_ne_nil _ _)
      rw [joined] at later ⊢
      rw [List.intercalate_cons_cons, List.map_cons, List.sum_cons, ← later]
      simp only [List.length_append, List.length_singleton]
      omega

section Stack

variable [DecidableEq Letter]

variable (dot) in
/-- One segment is taken onto the stack. -/
def place (stack : List (List Letter)) (segment : List Letter) : Option (List (List Letter)) :=
  if segment = [dot] then some stack
  else if segment = [dot, dot] then if stack = [] then none else some stack.dropLast
  else some (stack ++ [segment])

variable (separator dot) in
/-- The stack that a path leads to, if it never goes up from the empty one. -/
def stackOf (text : List Letter) : Option (List (List Letter)) :=
  (text.splitOn separator).foldlM (place dot) []

variable (separator) in
/-- The text without its last segment. -/
def pop (text : List Letter) : List Letter :=
  ((text.reverse.dropWhile (· ≠ separator)).drop 1).reverse

variable (separator dot) in
/-- A text whose segments are all names. -/
def Canonical (text : List Letter) : Prop :=
  ∀ part ∈ text.splitOn separator, IsName separator dot part

/-- Taking the last segment away. -/
theorem pop_concat (free : separator ∉ part) :
    pop separator (joined separator (stack ++ [part])) = joined separator stack := by
  have apart : ∀ letter ∈ part.reverse, decide (letter ≠ separator) = true := by
    intro letter isLetter
    rw [decide_eq_true_iff]
    rintro rfl
    exact free (List.mem_reverse.mp isLetter)
  by_cases inhabited : stack = []
  · rw [inhabited]
    simp only [pop, joined, List.nil_append, List.intercalate_singleton, List.intercalate_nil]
    rw [← List.append_nil part.reverse, List.dropWhile_append_of_pos apart]
    rfl
  · rw [joined_concat inhabited, pop, List.reverse_append, List.reverse_cons, List.append_assoc,
      List.dropWhile_append_of_pos apart]
    simp

theorem splitOn_joined (named : ∀ part ∈ parts, IsName separator dot part)
    (inhabited : parts ≠ []) : (joined separator parts).splitOn separator = parts :=
  List.splitOn_intercalate separator (fun part isPart => (named part isPart).free) inhabited

theorem place_name (name : IsName separator dot part) :
    place dot stack part = some (stack ++ [part]) := by
  rw [place, if_neg name.notHere, if_neg name.notUp]

/-- Names are put on the stack in their order. -/
theorem foldlM_names (named : ∀ part ∈ parts, IsName separator dot part)
    (stack : List (List Letter)) : parts.foldlM (place dot) stack = some (stack ++ parts) := by
  induction parts generalizing stack with
  | nil => simp
  | cons first rest ih =>
    rw [List.foldlM_cons, place_name (named first List.mem_cons_self)]
    show rest.foldlM (place dot) (stack ++ [first]) = _
    rw [ih fun part isPart => named part (List.mem_cons_of_mem _ isPart),
      List.append_assoc, List.singleton_append]

/-- A segment leaves a stack of names. -/
theorem place_named (named : ∀ part ∈ stack, IsName separator dot part) (full : part ≠ [])
    (free : separator ∉ part) (placed : place dot stack part = some final) :
    ∀ part ∈ final, IsName separator dot part := by
  rw [place] at placed
  split at placed
  · obtain rfl := Option.some.inj placed
    exact named
  rename_i notHere
  split at placed
  · split at placed
    · cases placed
    · obtain rfl := Option.some.inj placed
      exact fun part isPart => named part (List.dropLast_subset stack isPart)
  · rename_i notUp
    obtain rfl := Option.some.inj placed
    intro other isOther
    obtain old | new := List.mem_append.mp isOther
    · exact named other old
    · rw [List.mem_singleton.mp new]
      exact ⟨full, free, notHere, notUp⟩

theorem foldlM_named (genuine : ∀ part ∈ parts, part ≠ [] ∧ separator ∉ part)
    (named : ∀ part ∈ stack, IsName separator dot part)
    (placed : parts.foldlM (place dot) stack = some final) :
    ∀ part ∈ final, IsName separator dot part := by
  induction parts generalizing stack with
  | nil =>
    obtain rfl := Option.some.inj placed
    exact named
  | cons first rest ih =>
    rw [List.foldlM_cons] at placed
    obtain ⟨middle, isMiddle, later⟩ := Option.bind_eq_some_iff.mp placed
    obtain ⟨full, free⟩ := genuine first List.mem_cons_self
    exact ih (fun part isPart => genuine part (List.mem_cons_of_mem _ isPart))
      (place_named named full free isMiddle) later

/-- What is on the stack at the end was there or was taken onto it. -/
theorem foldlM_sublist (placed : parts.foldlM (place dot) stack = some final) :
    final.Sublist (stack ++ parts) := by
  induction parts generalizing stack with
  | nil =>
    obtain rfl := Option.some.inj placed
    rw [List.append_nil]
  | cons first rest ih =>
    rw [List.foldlM_cons] at placed
    obtain ⟨middle, isMiddle, later⟩ := Option.bind_eq_some_iff.mp placed
    refine (ih later).trans ?_
    rw [place] at isMiddle
    split at isMiddle
    · obtain rfl := Option.some.inj isMiddle
      exact (List.sublist_cons_self first rest).append_left _
    split at isMiddle
    · split at isMiddle
      · cases isMiddle
      · obtain rfl := Option.some.inj isMiddle
        exact (List.dropLast_sublist stack).append (List.sublist_cons_self first rest)
    · obtain rfl := Option.some.inj isMiddle
      rw [List.append_assoc, List.singleton_append]

/-- A canonical text leads to the stack of its segments, and is what they are joined to. -/
theorem stackOf_canonical (canonical : Canonical separator dot text) :
    stackOf separator dot text = some (text.splitOn separator) := by
  rw [stackOf, foldlM_names canonical, List.nil_append]

/-- The one canonical text that leads to a stack is the stack joined.

Proof: a canonical text is its own stack joined, and a joined stack of names has these segments. -/
theorem canonical_iff (named : ∀ part ∈ final, IsName separator dot part)
    (inhabited : final ≠ []) :
    Canonical separator dot text ∧ stackOf separator dot text = some final ↔
      text = joined separator final := by
  constructor
  · rintro ⟨canonical, leads⟩
    rw [stackOf_canonical canonical, Option.some.injEq] at leads
    rw [← leads, joined, List.intercalate_splitOn]
  · rintro rfl
    have cut := splitOn_joined named inhabited
    have canonical : Canonical separator dot (joined separator final) := by
      rw [Canonical, cut]
      exact named
    exact ⟨canonical, (stackOf_canonical canonical).trans (congrArg some cut)⟩

end Stack

end PoisonedOS.DotSegments
