import Mathlib.Data.List.Infix

/-!
# Words inside separated text

A word that does not contain a separator cannot stretch over one: it occurs in a
separated text exactly when it occurs in one of the parts.
-/

namespace PoisonedOS.Infixes

universe u
variable {Letter : Type u} {separator : Letter} {word left right : List Letter}

/-- A word that starts before a separator and does not contain it ends before it. -/
theorem infix_of_before {front tail rest : List Letter} (absent : separator ∉ word)
    (split : front ++ word = left ++ separator :: rest) (tail_eq : right = rest ++ tail) :
    word <:+: right := by
  subst tail_eq
  cases List.append_eq_append_iff.mp split with
  | inl inside =>
    obtain ⟨middle, -, covered⟩ := inside
    exact absurd (covered ▸ List.mem_append_right middle List.mem_cons_self) absent
  | inr after =>
    obtain ⟨middle, -, covered⟩ := after
    cases middle with
    | nil =>
      rw [List.nil_append] at covered
      exact absurd (by rw [← covered]; exact List.mem_cons_self) absent
    | cons letter middle =>
      rw [List.cons_append, List.cons.injEq] at covered
      refine ⟨middle, tail, ?_⟩
      rw [covered.2]

/-- A word without the separator occurs in one of the two parts. -/
theorem infix_append_separator (absent : separator ∉ word) :
    word <:+: left ++ separator :: right ↔ word <:+: left ∨ word <:+: right := by
  constructor
  · rintro ⟨front, tail, split⟩
    cases List.append_eq_append_iff.mp split with
    | inl before =>
      obtain ⟨middle, covered, -⟩ := before
      exact .inl ⟨front, middle, covered.symm⟩
    | inr across =>
      obtain ⟨middle, covered, rest⟩ := across
      cases middle with
      | nil =>
        rw [List.append_nil] at covered
        exact .inl ⟨front, [], by rw [covered, List.append_nil]⟩
      | cons letter middle =>
        rw [List.cons_append, List.cons.injEq] at rest
        obtain ⟨rfl, rest⟩ := rest
        exact .inr (infix_of_before absent covered rest)
  · intro occurs
    cases occurs with
    | inl occurs => exact occurs.trans (List.prefix_append left (separator :: right)).isInfix
    | inr occurs =>
      refine occurs.trans ⟨left ++ [separator], [], ?_⟩
      rw [List.append_nil, List.append_assoc, List.singleton_append]

end PoisonedOS.Infixes
