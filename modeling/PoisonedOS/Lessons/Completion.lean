import Mathlib.Data.List.Forall2
import PoisonedOS.Lessons.Progress

/-!
# Completing a lesson

What a learner submits is refused or recorded step by step. Submissions that are refused do no
harm: a lesson is completed exactly by those submissions among which, in the order of the steps,
there is one for each step.
-/

namespace PoisonedOS.Lessons

open List (SublistForall₂)

/-- Items that can be matched in order are matched greedily: where the first ones fit, they may be
matched with each other. -/
theorem sublistForall₂_cons_cons {Item Other : Type} {fits : Item → Other → Prop} {item : Item}
    {other : Other} {items : List Item} {others : List Other} :
    SublistForall₂ fits (item :: items) (other :: others) ↔
      fits item other ∧ SublistForall₂ fits items others ∨
        ¬ fits item other ∧ SublistForall₂ fits (item :: items) others := by
  have tail (matched : SublistForall₂ fits (item :: items) others) :
      SublistForall₂ fits items others := by
    obtain ⟨taken, fit, within⟩ := List.sublistForall₂_iff.mp matched
    cases fit with
    | cons _ fit =>
      exact List.sublistForall₂_iff.mpr ⟨_, fit, (List.sublist_cons_self _ _).trans within⟩
  constructor
  · intro matched
    by_cases here : fits item other
    · cases matched with
      | cons _ rest => exact .inl ⟨here, rest⟩
      | cons_right rest => exact .inl ⟨here, tail rest⟩
    · cases matched with
      | cons there _ => exact absurd there here
      | cons_right rest => exact .inr ⟨here, rest⟩
  · rintro (⟨here, rest⟩ | ⟨-, rest⟩)
    · exact .cons here rest
    · exact .cons_right rest

namespace LessonProgress

/-- The evidence is one that the step takes. -/
def Takes (step : LessonStep) (evidenceDigest : Option CString) : Prop :=
  step.admits evidenceDigest = true ∧ digestValidOrEmpty evidenceDigest = true

/-- The progress after some submissions. -/
def submit (lesson : Lesson) (progress : LessonProgress) (submissions : List (Option CString)) :
    LessonProgress :=
  submissions.foldl (fun progress evidenceDigest => (progress.advance lesson evidenceDigest).2)
    progress

variable {lesson : Lesson} {progress : LessonProgress}

theorem submit_complete (complete : progress.complete = true)
    (submissions : List (Option CString)) : progress.submit lesson submissions = progress := by
  induction submissions with
  | nil => rfl
  | cons evidenceDigest submissions ih =>
    have refused : (progress.advance lesson evidenceDigest).2 = progress := by
      simp [advance, complete]
    rw [submit, List.foldl_cons, refused]
    exact ih

/-- Submissions complete the steps that are left exactly if these can be matched with them.

Proof: by induction on the submissions; each one is recorded where it fits the next step. -/
theorem submit_complete_iff (version : progress.lessonVersion = lesson.version)
    (started : progress.complete = false)
    (left : progress.completedSteps < lesson.steps.length) (submissions : List (Option CString)) :
    (progress.submit lesson submissions).complete = true ↔
      SublistForall₂ Takes (lesson.steps.drop progress.completedSteps) submissions := by
  induction submissions generalizing progress with
  | nil =>
    rw [submit, List.foldl_nil, started, List.drop_eq_getElem_cons left]
    exact iff_of_false Bool.false_ne_true nofun
  | cons evidenceDigest submissions ih =>
    have advanced : (progress.advance lesson evidenceDigest).2 =
        if lesson.steps[progress.completedSteps].admits evidenceDigest &&
          digestValidOrEmpty evidenceDigest then progress.record lesson evidenceDigest
        else progress := by
      simp only [advance, started, version, bne_self_eq_false, Bool.or_self, Bool.false_eq_true,
        if_false, List.getElem?_eq_getElem left]
      cases lesson.steps[progress.completedSteps].admits evidenceDigest <;>
        cases digestValidOrEmpty evidenceDigest <;> rfl
    rw [submit, List.foldl_cons, ← submit, advanced, List.drop_eq_getElem_cons left,
      sublistForall₂_cons_cons, ← List.drop_eq_getElem_cons left]
    split
    · rename_i taken
      have takes : Takes lesson.steps[progress.completedSteps] evidenceDigest :=
        Bool.and_eq_true_iff.mp taken
      rw [or_iff_left (fun refused => refused.1 takes), and_iff_right takes]
      by_cases last : progress.completedSteps + 1 = lesson.steps.length
      · have complete : (progress.record lesson evidenceDigest).complete = true := by
          simpa [record] using last
        rw [submit_complete complete, last, List.drop_length]
        exact iff_of_true complete .nil
      · exact @ih (progress.record lesson evidenceDigest) version
          (by simpa [record] using last) (by simp only [record]; omega)
    · rename_i refused
      have rejects : ¬ Takes lesson.steps[progress.completedSteps] evidenceDigest :=
        fun takes => refused (Bool.and_eq_true_iff.mpr takes)
      rw [or_iff_right (fun taken => rejects taken.1), and_iff_right rejects]
      exact ih version started left

/-- **A lesson is completed exactly by evidence for each of its steps in order**, with any other
submissions in between, before and after. -/
theorem completes_iff {learnerId : CString} (isStarted : init lesson learnerId = some progress)
    (submissions : List (Option CString)) :
    (progress.submit lesson submissions).complete = true ↔
      SublistForall₂ Takes lesson.steps submissions := by
  rw [init] at isStarted
  split at isStarted
  · cases isStarted
  rename_i valid
  cases isStarted
  simp only [Bool.or_eq_true, not_or, List.isEmpty_iff] at valid
  exact submit_complete_iff rfl rfl (List.length_pos_iff.mpr valid.1.2) submissions

/-- A lesson whose first step requires evidence and whose second one takes any. -/
def twoStepLesson : Lesson :=
  ⟨.literal "radio", 1, true,
    [⟨.literal "scan", .evidenceCheckpoint, .literal "Scan", sampleDigest⟩,
      ⟨.literal "read", .explanation, .literal "Read", default⟩]⟩

/-- It is completed by evidence for both steps, with refused submissions in between, and not by
the same evidence in the other order. -/
theorem sample_completes_iff :
    ∃ progress, init twoStepLesson (.literal "l") = some progress ∧
      (progress.submit twoStepLesson [none, some sampleDigest, none]).complete = true ∧
      (progress.submit twoStepLesson [none, some sampleDigest]).complete = false := by
  have isStarted : init twoStepLesson (.literal "l") = some _ := rfl
  refine ⟨_, isStarted, ?_, ?_⟩
  · have evidence : Takes ⟨.literal "scan", .evidenceCheckpoint, .literal "Scan", sampleDigest⟩
        (some sampleDigest) := by
      unfold Takes
      decide +kernel
    have explained : Takes ⟨.literal "read", .explanation, .literal "Read", default⟩ none := by
      unfold Takes
      decide +kernel
    exact (completes_iff isStarted [none, some sampleDigest, none]).mpr
      (.cons_right (.cons evidence (.cons explained .nil)))
  · refine Bool.eq_false_iff.mpr fun complete => ?_
    have listed := (completes_iff isStarted [none, some sampleDigest]).mp complete
    -- The first step takes the evidence only, and nothing follows it for the second.
    cases listed with
    | cons taken rest =>
      unfold Takes at taken
      revert taken
      decide +kernel
    | cons_right listed =>
      cases listed with
      | cons taken rest => cases rest
      | cons_right listed => cases listed

end LessonProgress

end PoisonedOS.Lessons
