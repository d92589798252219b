import Mathlib.Data.List.Infix

/-!
# Fields between marks

A text is made of fields with marks between them. A mark begins with a letter that it does not
have again, so that no two marks overlap. Where the text is cut is known exactly if no field has
a mark that is beside it: the first field the first mark, a middle one both of its own, and the
last field the last mark.
-/

namespace PoisonedOS.Marks

universe u
variable {Letter : Type u} {letter : Letter} {word : List Letter}

def IsMark (mark : List Letter) : Prop := ∃ letter word, mark = letter :: word ∧ letter ∉ word

variable {mark left right leftRest rightRest : List Letter}

/-- A mark that begins in a text that begins with it does so at the start or behind it. -/
theorem inside_cases (isMark : IsMark mark) {start : List Letter}
    (same : mark ++ leftRest = start ++ (mark ++ rightRest)) :
    start = [] ∧ leftRest = rightRest ∨
      ∃ middle, start = mark ++ middle ∧ leftRest = middle ++ (mark ++ rightRest) := by
  obtain ⟨letter, word, rfl, apart⟩ := isMark
  cases start with
  | nil => exact .inl ⟨rfl, List.append_cancel_left same⟩
  | cons first later =>
    rw [List.cons_append, List.cons_append, List.cons.injEq] at same
    obtain ⟨rfl, same⟩ := same
    obtain ⟨middle, rfl, after⟩ | ⟨behind, isWord, before⟩ := List.append_eq_append_iff.mp same
    · exact .inr ⟨middle, rfl, after⟩
    · cases behind with
      | nil =>
        rw [List.append_nil] at isWord
        exact .inr ⟨[], by rw [isWord, List.append_nil], before.symm⟩
      | cons second others =>
        rw [List.cons_append, List.cons_append, List.cons.injEq] at before
        refine absurd ?_ apart
        rw [isWord, before.1]
        simp

/-- Two cuts of a text at a mark are the same, or one is behind the other. -/
theorem cut_cases (isMark : IsMark mark)
    (same : left ++ (mark ++ leftRest) = right ++ (mark ++ rightRest)) :
    left = right ∧ leftRest = rightRest ∨
      (∃ middle, right = left ++ (mark ++ middle) ∧ leftRest = middle ++ (mark ++ rightRest)) ∨
      ∃ middle, left = right ++ (mark ++ middle) ∧ rightRest = middle ++ (mark ++ leftRest) := by
  obtain ⟨start, rfl, after⟩ | ⟨start, rfl, after⟩ := List.append_eq_append_iff.mp same
  · obtain ⟨rfl, rest⟩ | ⟨middle, rfl, rest⟩ := inside_cases isMark after
    · exact .inl ⟨(List.append_nil left).symm, rest⟩
    · exact .inr (.inl ⟨middle, rfl, rest⟩)
  · obtain ⟨rfl, rest⟩ | ⟨middle, rfl, rest⟩ := inside_cases isMark after
    · exact .inl ⟨List.append_nil right, rest.symm⟩
    · exact .inr (.inr ⟨middle, rfl, rest⟩)

theorem mark_occurs (before after : List Letter) : mark <:+: before ++ (mark ++ after) :=
  ⟨before, after, List.append_assoc _ _ _⟩

/-- A text is cut at the first mark. -/
theorem first_cut (isMark : IsMark mark) (leftFree : ¬ mark <:+: left)
    (rightFree : ¬ mark <:+: right)
    (same : left ++ (mark ++ leftRest) = right ++ (mark ++ rightRest)) :
    left = right ∧ leftRest = rightRest := by
  obtain both | ⟨middle, rfl, -⟩ | ⟨middle, rfl, -⟩ := cut_cases isMark same
  · exact both
  · exact absurd (mark_occurs left middle) rightFree
  · exact absurd (mark_occurs right middle) leftFree

section Four

variable (first second third : List Letter)

/-- Four fields and the marks between them. -/
def fields (one two three four : List Letter) : List Letter :=
  one ++ (first ++ (two ++ (second ++ (three ++ (third ++ four)))))

/-- No field has a mark that is beside it. -/
structure Separated (one two three four : List Letter) : Prop where
  one : ¬ first <:+: one
  twoBefore : ¬ first <:+: two
  twoBehind : ¬ second <:+: two
  threeBefore : ¬ second <:+: three
  threeBehind : ¬ third <:+: three
  four : ¬ third <:+: four

variable {first second third} {one two three four one' two' three' four' : List Letter}

/-- Separated fields are known from their text.

Proof: the last cut is the last third mark of the text, since the last field has none. The second
marks before it are that of the cut and some of the first field, which has no first mark before
it. So all cuts are the same. -/
theorem Separated.unique (isFirst : IsMark first) (isSecond : IsMark second)
    (isThird : IsMark third) (separated : Separated first second third one two three four)
    (same : fields first second third one two three four =
      fields first second third one' two' three' four') :
    one = one' ∧ two = two' ∧ three = three' ∧ four = four' := by
  -- no second mark stands behind a first mark and before the second cut
  have apart (middle : List Letter) :
      one ++ (first ++ two) ≠ one' ++ (first ++ (two' ++ (second ++ middle))) := by
    intro before
    obtain ⟨-, rest⟩ | ⟨inner, -, rest⟩ | ⟨inner, rest, -⟩ := cut_cases isFirst before
    · exact separated.twoBehind (rest ▸ mark_occurs two' middle)
    · exact separated.twoBefore (rest ▸ mark_occurs inner _)
    · exact separated.one (rest ▸ mark_occurs one' inner)
  -- what is before the last cut is cut at a second mark
  have cut {middle : List Letter}
      (before : one ++ (first ++ two) ++ (second ++ three) =
        one' ++ (first ++ two') ++ (second ++ middle)) :
      one = one' ∧ two = two' ∧ three = middle := by
    obtain ⟨start, rest⟩ | ⟨inner, -, rest⟩ | ⟨inner, rest, -⟩ := cut_cases isSecond before
    · obtain ⟨rfl, rfl⟩ | ⟨inner, -, again⟩ | ⟨inner, again, -⟩ := cut_cases isFirst start
      · exact ⟨rfl, rfl, rest⟩
      · exact absurd (again ▸ mark_occurs inner two') separated.twoBefore
      · exact absurd (again ▸ mark_occurs one' inner) separated.one
    · exact absurd (rest ▸ mark_occurs inner middle) separated.threeBefore
    · refine absurd ?_ (apart inner)
      rw [rest]
      simp only [List.append_assoc]
  have whole : (one ++ (first ++ two) ++ (second ++ three)) ++ (third ++ four) =
      (one' ++ (first ++ two') ++ (second ++ three')) ++ (third ++ four') := by
    simp only [fields, List.append_assoc] at same ⊢
    exact same
  obtain ⟨before, rfl⟩ | ⟨inner, -, rest⟩ | ⟨inner, before, -⟩ := cut_cases isThird whole
  · obtain ⟨rfl, rfl, rfl⟩ := cut before
    exact ⟨rfl, rfl, rfl, rfl⟩
  · exact absurd (rest ▸ mark_occurs inner four') separated.four
  · have later : one ++ (first ++ two) ++ (second ++ three) =
        one' ++ (first ++ two') ++ (second ++ (three' ++ (third ++ inner))) := by
      rw [before]
      simp only [List.append_assoc]
    obtain ⟨-, -, rest⟩ := cut later
    exact absurd (rest ▸ mark_occurs three' inner) separated.threeBehind

theorem length_between (isMark : IsMark mark) (before after : List Letter) :
    before.length < (before ++ (mark ++ after)).length := by
  obtain ⟨letter, word, rfl, -⟩ := isMark
  simp only [List.length_append, List.length_cons]
  omega

/-- Four fields are known from their text exactly if they are separated.

Proof: a field is cut at a mark that it has, and its parts are fields of the same text. -/
theorem unique_iff (isFirst : IsMark first) (isSecond : IsMark second) (isThird : IsMark third) :
    (∀ one' two' three' four', fields first second third one' two' three' four' =
      fields first second third one two three four →
        one' = one ∧ two' = two ∧ three' = three ∧ four' = four) ↔
      Separated first second third one two three four := by
  constructor
  · intro known
    have shorter {mark before after : List Letter} (isMark : IsMark mark) :
        before ≠ before ++ (mark ++ after) := fun same =>
      absurd (congrArg List.length same) (length_between isMark before after).ne
    refine ⟨?_, ?_, ?_, ?_, ?_, ?_⟩
    · rintro ⟨before, after, rfl⟩
      rw [List.append_assoc] at known
      refine shorter isFirst (known before (after ++ (first ++ two)) three four ?_).1
      simp only [fields, List.append_assoc]
    · rintro ⟨before, after, rfl⟩
      refine shorter isFirst (known (one ++ (first ++ before)) after three four ?_).1.symm
      simp only [fields, List.append_assoc]
    · rintro ⟨before, after, rfl⟩
      rw [List.append_assoc] at known
      refine shorter isSecond (known one before (after ++ (second ++ three)) four ?_).2.1
      simp only [fields, List.append_assoc]
    · rintro ⟨before, after, rfl⟩
      refine shorter isSecond (known one (two ++ (second ++ before)) after four ?_).2.1.symm
      simp only [fields, List.append_assoc]
    · rintro ⟨before, after, rfl⟩
      rw [List.append_assoc] at known
      refine shorter isThird (known one two before (after ++ (third ++ four)) ?_).2.2.1
      simp only [fields, List.append_assoc]
    · rintro ⟨before, after, rfl⟩
      refine shorter isThird (known one two (three ++ (third ++ before)) after ?_).2.2.1.symm
      simp only [fields, List.append_assoc]
  · intro separated one' two' three' four' same
    obtain ⟨rfl, rfl, rfl, rfl⟩ := separated.unique isFirst isSecond isThird same.symm
    exact ⟨rfl, rfl, rfl, rfl⟩

end Four

end PoisonedOS.Marks
