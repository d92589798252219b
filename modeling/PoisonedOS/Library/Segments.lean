import Mathlib.Data.List.Basic

/-!
# Segments of a text

A text over any alphabet is cut at a separator. Its segments are the runs between
separators, without the empty ones. Writing each segment after a separator gives a
text that has exactly these segments, so a text of that form is known from its
segments, and squeezing runs of separators into one keeps them.
-/

namespace PoisonedOS.Segments

universe u
variable {Letter : Type u} [DecidableEq Letter] (separator : Letter)

/-- The nonempty runs between separators. -/
def segments (text : List Letter) : List (List Letter) :=
  (text.splitOn separator).filter (!·.isEmpty)

/-- Each segment after a separator. -/
def render (parts : List (List Letter)) : List Letter := parts.flatMap (separator :: ·)

/-- A nonempty run without separators. -/
def IsSegment (part : List Letter) : Prop := part ≠ [] ∧ separator ∉ part

/-- Only the first separator of each run, and none where one came right before. -/
def squeeze : List Letter → Bool → List Letter
  | [], _ => []
  | letter :: rest, previous =>
    if letter = separator then
      if previous then squeeze rest true else letter :: squeeze rest true
    else letter :: squeeze rest false

variable {separator} {text : List Letter} {parts : List (List Letter)}

theorem splitOn_separator : (separator :: text).splitOn separator = [] :: text.splitOn separator := by
  simp [List.splitOn, List.splitOnP_cons_eq_if_modifyHead]

theorem splitOn_letter {letter : Letter} (apart : letter ≠ separator) :
    (letter :: text).splitOn separator =
      (text.splitOn separator).modifyHead (List.cons letter) := by
  simp [List.splitOn, List.splitOnP_cons_eq_if_modifyHead, apart]

/-- The first run and the others. -/
theorem splitOn_cons (text : List Letter) (separator : Letter) :
    ∃ first rest, text.splitOn separator = first :: rest :=
  List.exists_cons_of_ne_nil (List.splitOnP_ne_nil _ _)

variable {part : List Letter}

/-- No run contains the separator. -/
theorem separator_not_mem (isRun : part ∈ text.splitOn separator) :
    separator ∉ part := by
  induction text generalizing part with
  | nil =>
    obtain rfl : part = [] := by simpa using isRun
    exact List.not_mem_nil
  | cons letter rest ih =>
    by_cases isSeparator : letter = separator
    · subst isSeparator
      rw [splitOn_separator] at isRun
      obtain rfl | later := List.mem_cons.mp isRun
      · exact List.not_mem_nil
      · exact ih later
    · obtain ⟨first, others, cut⟩ := splitOn_cons rest separator
      rw [splitOn_letter isSeparator, cut, List.modifyHead_cons] at isRun
      rw [cut] at ih
      obtain rfl | later := List.mem_cons.mp isRun
      · have apart := ih List.mem_cons_self
        exact List.not_mem_cons_of_ne_of_not_mem (Ne.symm isSeparator) apart
      · exact ih (List.mem_cons_of_mem first later)

theorem isSegment_of_mem (isPart : part ∈ segments separator text) :
    IsSegment separator part := by
  rw [segments, List.mem_filter] at isPart
  exact ⟨by simpa using isPart.2, separator_not_mem isPart.1⟩

theorem splitOn_append (free : separator ∉ part) (text : List Letter) :
    (part ++ text).splitOn separator = (text.splitOn separator).modifyHead (part ++ ·) := by
  induction part with
  | nil =>
    obtain ⟨first, others, cut⟩ := splitOn_cons text separator
    simp [cut]
  | cons letter rest ih =>
    rw [List.mem_cons, not_or] at free
    obtain ⟨first, others, cut⟩ := splitOn_cons text separator
    rw [List.cons_append, splitOn_letter (Ne.symm free.1), ih free.2, cut]
    rfl

theorem splitOn_render (free : ∀ part ∈ parts, separator ∉ part) :
    (render separator parts).splitOn separator = [] :: parts := by
  induction parts with
  | nil => simp [render]
  | cons part rest ih =>
    have later := ih fun part isPart => free part (List.mem_cons_of_mem _ isPart)
    have written : render separator (part :: rest) =
        separator :: (part ++ render separator rest) := rfl
    rw [written, splitOn_separator, splitOn_append (free part List.mem_cons_self), later]
    simp

/-- A rendered text has exactly the segments it was rendered from. -/
theorem segments_render (genuine : ∀ part ∈ parts, IsSegment separator part) :
    segments separator (render separator parts) = parts := by
  rw [segments, splitOn_render fun part isPart => (genuine part isPart).2,
    List.filter_cons_of_neg (by simp), List.filter_eq_self]
  intro part isPart
  simpa using (genuine part isPart).1

/-- Squeezing keeps the segments; at most one separator is left at the end. -/
theorem squeeze_eq (text : List Letter) :
    (∃ ending, (ending = [] ∨ ending = [separator]) ∧
      separator :: squeeze separator text true =
        render separator (segments separator text) ++ ending) ∧
    ∃ first rest, text.splitOn separator = first :: rest ∧
      ∃ ending, (ending = [] ∨ ending = [separator]) ∧
        squeeze separator text false =
          first ++ render separator (rest.filter (!·.isEmpty)) ++ ending := by
  induction text with
  | nil =>
    exact ⟨⟨[separator], .inr rfl, by simp [squeeze, segments, render]⟩,
      [], [], by simp, [], .inl rfl, by simp [squeeze, render]⟩
  | cons letter rest ih =>
    obtain ⟨⟨ending, short, afterSeparator⟩, first, others, cut, tail, shortTail, afterLetter⟩ :=
      ih
    by_cases isSeparator : letter = separator
    · subst isSeparator
      have same : segments letter (letter :: rest) = segments letter rest := by
        simp [segments, splitOn_separator]
      refine ⟨⟨ending, short, ?_⟩, [], rest.splitOn letter, splitOn_separator, ending, short, ?_⟩
      · rw [same, ← afterSeparator]
        simp [squeeze]
      · rw [List.nil_append, ← segments, ← afterSeparator]
        simp [squeeze]
    · have apart : (letter :: rest).splitOn separator = (letter :: first) :: others := by
        rw [splitOn_letter isSeparator, cut, List.modifyHead_cons]
      refine ⟨⟨tail, shortTail, ?_⟩, letter :: first, others, apart, tail, shortTail, ?_⟩
      · rw [segments, apart, squeeze, if_neg isSeparator, afterLetter]
        simp [render]
      · rw [squeeze, if_neg isSeparator, afterLetter]
        simp

omit [DecidableEq Letter] in
/-- A text rendered from some segments ends in a letter of the last one. -/
theorem render_concat (genuine : ∀ part ∈ parts, IsSegment separator part)
    (inhabited : parts ≠ []) :
    ∃ before letter, render separator parts = before ++ [letter] ∧ before ≠ [] ∧
      letter ≠ separator := by
  have last := genuine _ (List.getLast_mem inhabited)
  have split := List.dropLast_concat_getLast inhabited
  have ended := List.dropLast_concat_getLast last.1
  generalize parts.getLast inhabited = part at last split ended
  generalize part.getLast last.1 = letter at ended
  refine ⟨render separator parts.dropLast ++ separator :: part.dropLast, letter, ?_, by simp, ?_⟩
  · calc render separator parts = render separator (parts.dropLast ++ [part]) := by rw [split]
      _ = render separator parts.dropLast ++ separator :: part := by simp [render]
      _ = render separator parts.dropLast ++ separator :: (part.dropLast ++ [letter]) := by
        rw [ended]
      _ = _ := by simp
  · rintro rfl
    apply last.2
    rw [← ended]
    simp

end PoisonedOS.Segments
