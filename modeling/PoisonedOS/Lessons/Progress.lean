import PoisonedOS.Library.Runs
import PoisonedOS.Rpc.Confirmation

/-!
# Progress in a lesson

An instructor makes an assignment from a lesson and binds a learner to it. Each advance passes
a lesson again and records the evidence of one step; the progress is complete with the last step
of the lesson that was passed.

Of that lesson only the version is compared with the progress. A run therefore keeps, beside the
store, the lesson that each assignment was made from, and its promise is about that one.
-/

namespace PoisonedOS.Lessons

/-- `POISON_LESSON_MAX_ID`. -/
def lessonMaxId : Nat := 64

/-- `POISON_LESSON_MAX_TITLE`. -/
def lessonMaxTitle : Nat := 96

/-- `POISON_LESSON_MAX_STEPS`. -/
def lessonMaxSteps : Nat := 32

/-- `POISON_LESSON_MAX_ASSIGNMENTS`. -/
def lessonMaxAssignments : Nat := 16

/-- `PoisonLessonStepKind`; the values that the code refuses are none of the type. -/
inductive LessonStepKind where
  | explanation
  | deviceAction
  | browserAction
  | observation
  | evidenceCheckpoint
  | knowledgeCheck
  | starterCode
  | reset
deriving DecidableEq

/-- `PoisonLessonStep`. -/
structure LessonStep where
  id : CString
  kind : LessonStepKind
  title : CString
  requiredEvidenceDigest : CString
deriving DecidableEq

/-- `PoisonLesson`; the count of its steps is their number. -/
structure Lesson where
  lessonId : CString
  version : UInt32
  signatureValid : Bool
  steps : List LessonStep

/-- `PoisonLessonProgress`; the rows of the evidence are numbered by the steps. -/
structure LessonProgress where
  learnerId : CString
  lessonId : CString
  lessonVersion : UInt32
  completedSteps : Nat
  complete : Bool
  evidenceDigests : Nat → CString

/-- `PoisonLessonAssignment`. -/
structure LessonAssignment where
  assignmentId : CString
  workspaceId : CString
  instructorId : CString
  learnerId : CString
  progress : LessonProgress
  dueAt : UInt32
  active : Bool
  bound : Bool

/-- `PoisonLessonAssignmentStore`. -/
structure LessonAssignmentStore where
  assignments : Nat → LessonAssignment
  count : Nat

/-- `id_valid`. -/
def idValid (value : CString) (maximum : Nat) : Bool :=
  !value.isEmpty && decide (value.length < maximum) && value.bytes.all fun byte =>
    isLower byte || isDigit byte || byte == 46 || byte == 45 || byte == 95

/-- `assignment_id_valid`. -/
def assignmentIdValid (value : CString) : Bool := idValid value lessonMaxId

/-- `digest_valid_or_empty`; a NULL digest is none. -/
def digestValidOrEmpty : Option CString → Bool
  | none => true
  | some value => value.isEmpty || (value.length == 64 && value.bytes.all isLowerHex)

/-- `role_can_manage`. -/
def roleCanManage (role : Role) : Bool := role == .owner || role == .instructor

/-- `poison_lesson_add_step`; a slot past the last step is cleared. -/
def Lesson.addStep (lesson : Lesson) (id : CString) (kind : LessonStepKind) (title : CString)
    (evidenceDigest : Option CString) : Bool × Lesson :=
  if !lesson.signatureValid || decide (lesson.steps.length ≥ lessonMaxSteps) ||
      !idValid id lessonMaxId || title.isEmpty || decide (title.length ≥ lessonMaxTitle) ||
      !digestValidOrEmpty evidenceDigest then
    (false, lesson)
  else
    (true, { lesson with
      steps := lesson.steps ++ [⟨id, kind, title, evidenceDigest.getD default⟩] })

/-- Cleared memory. -/
def LessonProgress.cleared : LessonProgress := ⟨default, default, 0, 0, false, fun _ => default⟩

/-- Cleared memory. -/
def LessonAssignment.cleared : LessonAssignment :=
  ⟨default, default, default, default, .cleared, 0, false, false⟩

/-- `poison_lesson_progress_init`. -/
def LessonProgress.init (lesson : Lesson) (learnerId : CString) : Option LessonProgress :=
  if !lesson.signatureValid || lesson.steps.isEmpty || !idValid learnerId lessonMaxId then none
  else some { LessonProgress.cleared with
    learnerId, lessonId := lesson.lessonId, lessonVersion := lesson.version }

def LessonStep.admits (step : LessonStep) (evidenceDigest : Option CString) : Bool :=
  step.requiredEvidenceDigest.isEmpty || evidenceDigest == some step.requiredEvidenceDigest

/-- What `poison_lesson_advance` writes. -/
def LessonProgress.record (progress : LessonProgress) (lesson : Lesson)
    (evidenceDigest : Option CString) : LessonProgress :=
  { progress with
    evidenceDigests := match evidenceDigest with
      | none => progress.evidenceDigests
      | some digest => Function.update progress.evidenceDigests progress.completedSteps digest
    completedSteps := progress.completedSteps + 1
    complete := progress.completedSteps + 1 == lesson.steps.length }

/-- `poison_lesson_advance`. -/
def LessonProgress.advance (progress : LessonProgress) (lesson : Lesson)
    (evidenceDigest : Option CString) : Bool × LessonProgress :=
  if progress.complete || progress.lessonVersion != lesson.version then (false, progress)
  else
    match lesson.steps[progress.completedSteps]? with
    | none => (false, progress)
    | some step =>
      if !step.admits evidenceDigest then (false, progress)
      else if !digestValidOrEmpty evidenceDigest then (false, progress)
      else (true, progress.record lesson evidenceDigest)

/-- `poison_lesson_reset`. -/
def LessonProgress.reset (progress : LessonProgress) : LessonProgress :=
  { progress with completedSteps := 0, complete := false, evidenceDigests := fun _ => default }

namespace LessonAssignmentStore

/-- `poison_lesson_assignments_init`. -/
def init : LessonAssignmentStore := ⟨fun _ => .cleared, 0⟩

/-- The store with another assignment in a slot. -/
def place (store : LessonAssignmentStore) (index : Nat) (assignment : LessonAssignment) :
    LessonAssignmentStore :=
  { store with assignments := Function.update store.assignments index assignment }

/-- `poison_lesson_assignment_create`: the index, if the assignment is made. -/
def create (store : LessonAssignmentStore) (lesson : Lesson)
    (assignmentId workspaceId instructorId : CString) (dueAt : UInt32) (role : Role) :
    Option Nat × LessonAssignmentStore :=
  if !lesson.signatureValid || !roleCanManage role ||
      decide (store.count ≥ lessonMaxAssignments) || !assignmentIdValid assignmentId ||
      !assignmentIdValid workspaceId || !assignmentIdValid instructorId then
    (none, store)
  else if (List.range store.count).any fun index =>
      (store.assignments index).active &&
        (store.assignments index).assignmentId == assignmentId then
    (none, store)
  else
    match LessonProgress.init lesson (.literal "unassigned") with
    | none => (none, store.place store.count .cleared)
    | some progress =>
      (some store.count, { store.place store.count { LessonAssignment.cleared with
        assignmentId, workspaceId, instructorId, dueAt, active := true, progress } with
        count := store.count + 1 })

/-- `poison_lesson_assignment_bind`. -/
def bind (store : LessonAssignmentStore) (index : Nat) (learnerId : CString) (role : Role) :
    Bool × LessonAssignmentStore :=
  let assignment := store.assignments index
  if decide (index ≥ store.count) || !roleCanManage role || !assignmentIdValid learnerId then
    (false, store)
  else if !assignment.active || assignment.bound then (false, store)
  else
    (true, store.place index { assignment with
      learnerId, progress := { assignment.progress with learnerId }, bound := true })

/-- `poison_lesson_assignment_reset`. -/
def reset (store : LessonAssignmentStore) (index : Nat) (role : Role) :
    Bool × LessonAssignmentStore :=
  let assignment := store.assignments index
  if decide (index ≥ store.count) || !roleCanManage role || !assignment.active ||
      !assignment.bound then
    (false, store)
  else (true, store.place index { assignment with progress := assignment.progress.reset })

/-- `poison_lesson_advance` on the progress of an assignment. -/
def advance (store : LessonAssignmentStore) (index : Nat) (lesson : Lesson)
    (evidenceDigest : Option CString) : Bool × LessonAssignmentStore :=
  let assignment := store.assignments index
  if index ≥ store.count then (false, store)
  else
    match assignment.progress.advance lesson evidenceDigest with
    | (false, _) => (false, store)
    | (true, progress) => (true, store.place index { assignment with progress })

end LessonAssignmentStore

/-- The lessons in memory, the store, and the lesson that each assignment was made from. -/
structure LessonSystem where
  lessons : Nat → Lesson
  store : LessonAssignmentStore
  given : Nat → Lesson

/-- A call; the lesson that it passes is given by its place in memory. -/
inductive LessonCall where
  | addStep (lesson : Nat) (id : CString) (kind : LessonStepKind) (title : CString)
      (evidenceDigest : Option CString)
  | create (lesson : Nat) (assignmentId workspaceId instructorId : CString) (dueAt : UInt32)
      (role : Role)
  | bind (index : Nat) (learnerId : CString) (role : Role)
  | reset (index : Nat) (role : Role)
  | advance (index lesson : Nat) (evidenceDigest : Option CString)

/-- What a call returns and leaves. -/
def LessonCall.apply (call : LessonCall) (system : LessonSystem) : Bool × LessonSystem :=
  match call with
  | .addStep lesson id kind title evidenceDigest =>
    let added := (system.lessons lesson).addStep id kind title evidenceDigest
    (added.1, { system with lessons := Function.update system.lessons lesson added.2 })
  | .create lesson assignmentId workspaceId instructorId dueAt role =>
    match system.store.create (system.lessons lesson) assignmentId workspaceId instructorId dueAt
      role with
    | (none, store) => (false, { system with store })
    | (some index, store) =>
      (true, { system with
        store, given := Function.update system.given index (system.lessons lesson) })
  | .bind index learnerId role =>
    let answered := system.store.bind index learnerId role
    (answered.1, { system with store := answered.2 })
  | .reset index role =>
    let answered := system.store.reset index role
    (answered.1, { system with store := answered.2 })
  | .advance index lesson evidenceDigest =>
    let answered := system.store.advance index (system.lessons lesson) evidenceDigest
    (answered.1, { system with store := answered.2 })

def systemAt (lessons : Nat → Lesson) (calls : List LessonCall) : Nat → LessonSystem :=
  Runs.reached (fun call system => (LessonCall.apply call system).2) ⟨lessons, .init, lessons⟩ calls

/-- What complete progress stands for: the evidence of every step of the lesson that the
assignment was made from, by the learner that is bound to it. -/
structure LessonAssignment.Earned (assignment : LessonAssignment) (lesson : Lesson) : Prop where
  evidence : ∀ index step, lesson.steps[index]? = some step →
    step.requiredEvidenceDigest.isEmpty = false →
    assignment.progress.evidenceDigests index = step.requiredEvidenceDigest
  learner : assignment.bound = true ∧ assignment.progress.learnerId = assignment.learnerId
  steps : assignment.progress.completedSteps = lesson.steps.length

/-- Complete progress was earned. -/
def LessonSystem.Sound (system : LessonSystem) : Prop :=
  ∀ index < system.store.count, (system.store.assignments index).progress.complete = true →
    (system.store.assignments index).Earned (system.given index)

/-- An advance that the lesson passed lets through has the evidence that the step of the
assignment's own lesson requires, and at the last step it is the last step of that lesson too and
a learner is bound. -/
def LessonCall.Faithful (call : LessonCall) (system : LessonSystem) : Prop :=
  match call with
  | .advance index lesson evidenceDigest =>
    let assignment := system.store.assignments index
    let position := assignment.progress.completedSteps
    index < system.store.count → assignment.progress.complete = false →
    assignment.progress.lessonVersion = (system.lessons lesson).version →
    digestValidOrEmpty evidenceDigest = true →
    ∀ step, (system.lessons lesson).steps[position]? = some step →
      step.admits evidenceDigest = true →
      (∀ own, (system.given index).steps[position]? = some own →
        own.admits evidenceDigest = true) ∧
      (position + 1 = (system.lessons lesson).steps.length →
        position + 1 = (system.given index).steps.length ∧ assignment.bound = true)
  | _ => True

/-! ## Calls -/

variable {system after : LessonSystem} {call : LessonCall}

/-- The slots past the last assignment are cleared. -/
def LessonAssignmentStore.Cleared (store : LessonAssignmentStore) : Prop :=
  ∀ index, store.count ≤ index → store.assignments index = .cleared

/-- The system with another assignment in a slot. -/
def LessonSystem.place (system : LessonSystem) (index : Nat) (assignment : LessonAssignment) :
    LessonSystem :=
  { system with store := system.store.place index assignment }

/-- What accepted calls do. -/
inductive Moves (system : LessonSystem) : LessonCall → LessonSystem → Prop where
  | taught {lesson id kind title evidenceDigest} (lessons : Nat → Lesson) :
    Moves system (.addStep lesson id kind title evidenceDigest) { system with lessons }
  | made {lesson assignmentId workspaceId instructorId dueAt role} (assignment : LessonAssignment)
      (unbound : assignment.bound = false) (started : assignment.progress.complete = false)
      (unmoved : assignment.progress.completedSteps = 0) :
    Moves system (.create lesson assignmentId workspaceId instructorId dueAt role) { system with
      store := { system.store.place system.store.count assignment with
        count := system.store.count + 1 }
      given := Function.update system.given system.store.count (system.lessons lesson) }
  | bound {index learnerId role} (inside : index < system.store.count) :
    Moves system (.bind index learnerId role) (system.place index { system.store.assignments index
      with learnerId, progress := { (system.store.assignments index).progress with learnerId }
           bound := true })
  | restarted {index role} (inside : index < system.store.count) :
    Moves system (.reset index role) (system.place index { system.store.assignments index with
      progress := (system.store.assignments index).progress.reset })
  | advanced {index lesson evidenceDigest step} (inside : index < system.store.count)
      (started : (system.store.assignments index).progress.complete = false)
      (version : (system.store.assignments index).progress.lessonVersion =
        (system.lessons lesson).version)
      (valid : digestValidOrEmpty evidenceDigest = true)
      (found : (system.lessons lesson).steps[
        (system.store.assignments index).progress.completedSteps]? = some step)
      (admitted : step.admits evidenceDigest = true) :
    Moves system (.advance index lesson evidenceDigest) (system.place index
      { system.store.assignments index with
        progress := (system.store.assignments index).progress.record (system.lessons lesson)
          evidenceDigest })

/-- A call is refused and leaves everything, or it is accepted. A refused assignment clears a slot
that was cleared already. -/
theorem apply_cases (cleared : system.store.Cleared) (call : LessonCall) :
    call.apply system = (false, system) ∨
      ∃ after, call.apply system = (true, after) ∧ Moves system call after := by
  cases call with
  | addStep lesson id kind title evidenceDigest =>
    rw [LessonCall.apply, Lesson.addStep]
    split
    · exact .inl (by rw [Function.update_eq_self])
    · exact .inr ⟨_, rfl, .taught _⟩
  | create lesson assignmentId workspaceId instructorId dueAt role =>
    rw [LessonCall.apply]
    cases answered : system.store.create (system.lessons lesson) assignmentId workspaceId
      instructorId dueAt role with
    | mk made store =>
    rw [LessonAssignmentStore.create] at answered
    split at answered
    · cases answered
      exact .inl rfl
    split at answered
    · cases answered
      exact .inl rfl
    cases started : LessonProgress.init (system.lessons lesson) (.literal "unassigned") with
    | none =>
      rw [started] at answered
      cases answered
      have same : system.store.place system.store.count .cleared = system.store := by
        rw [LessonAssignmentStore.place, ← cleared system.store.count (Nat.le_refl _),
          Function.update_eq_self]
      dsimp only
      exact .inl (by rw [same])
    | some progress =>
      rw [started] at answered
      cases answered
      rw [LessonProgress.init] at started
      split at started
      · cases started
      · cases started
        exact .inr ⟨_, rfl, .made _ rfl rfl rfl⟩
  | bind index learnerId role =>
    rw [LessonCall.apply, LessonAssignmentStore.bind]
    split
    · exact .inl rfl
    rename_i checked
    split
    · exact .inl rfl
    · rw [Bool.not_eq_true, Bool.or_eq_false_iff, Bool.or_eq_false_iff,
        decide_eq_false_iff_not] at checked
      exact .inr ⟨_, rfl, .bound (Nat.not_le.mp checked.1.1)⟩
  | reset index role =>
    rw [LessonCall.apply, LessonAssignmentStore.reset]
    split
    · exact .inl rfl
    · rename_i checked
      rw [Bool.not_eq_true, Bool.or_eq_false_iff, Bool.or_eq_false_iff, Bool.or_eq_false_iff,
        decide_eq_false_iff_not] at checked
      exact .inr ⟨_, rfl, .restarted (Nat.not_le.mp checked.1.1.1)⟩
  | advance index lesson evidenceDigest =>
    rw [LessonCall.apply, LessonAssignmentStore.advance]
    split
    · exact .inl rfl
    rename_i inside
    cases answered : (system.store.assignments index).progress.advance (system.lessons lesson)
      evidenceDigest with
    | mk accepted progress =>
    rw [LessonProgress.advance.eq_def] at answered
    split at answered
    · cases answered
      exact .inl rfl
    rename_i compared
    rw [Bool.not_eq_true, Bool.or_eq_false_iff, bne_eq_false_iff_eq] at compared
    cases found : (system.lessons lesson).steps[
        (system.store.assignments index).progress.completedSteps]? with
    | none =>
      rw [found] at answered
      cases answered
      exact .inl rfl
    | some step =>
      simp only [found] at answered
      split at answered
      · cases answered
        exact .inl rfl
      rename_i admitted
      split at answered
      · cases answered
        exact .inl rfl
      rename_i valid
      cases answered
      rw [Bool.not_eq_true, Bool.not_eq_false'] at admitted valid
      exact .inr ⟨_, rfl, .advanced (Nat.not_le.mp inside) compared.1 compared.2 valid found
        admitted⟩

theorem LessonAssignmentStore.Cleared.place (cleared : system.store.Cleared) {index : Nat}
    (inside : index < system.store.count) (assignment : LessonAssignment) :
    (system.place index assignment).store.Cleared := by
  intro other past
  have apart : other ≠ index := (inside.trans_le past).ne'
  exact (Function.update_of_ne apart ..).trans (cleared other past)

theorem Moves.cleared (moves : Moves system call after) (cleared : system.store.Cleared) :
    after.store.Cleared := by
  cases moves with
  | taught lessons => exact cleared
  | made assignment _ _ _ =>
    intro index past
    have later : system.store.count < index := past
    exact (Function.update_of_ne later.ne' ..).trans (cleared index later.le)
  | bound inside => exact cleared.place inside _
  | restarted inside => exact cleared.place inside _
  | advanced inside _ _ _ _ _ => exact cleared.place inside _

/-! ## Progress -/

/-- What every assignment keeps on its way to complete progress. -/
structure LessonAssignment.Keeps (assignment : LessonAssignment) (lesson : Lesson) : Prop where
  evidence : ∀ index < assignment.progress.completedSteps, ∀ step,
    lesson.steps[index]? = some step → step.requiredEvidenceDigest.isEmpty = false →
    assignment.progress.evidenceDigests index = step.requiredEvidenceDigest
  learner : assignment.bound = true → assignment.progress.learnerId = assignment.learnerId
  complete : assignment.progress.complete = true →
    assignment.progress.completedSteps = lesson.steps.length ∧ assignment.bound = true

variable {assignment : LessonAssignment}

theorem LessonAssignment.Keeps.earned {lesson : Lesson} (keeps : assignment.Keeps lesson)
    (complete : assignment.progress.complete = true) :
    assignment.Earned lesson := by
  obtain ⟨steps, bound⟩ := keeps.complete complete
  refine ⟨fun index step found => keeps.evidence index ?_ step found,
    ⟨bound, keeps.learner bound⟩, steps⟩
  rw [steps]
  exact (List.getElem?_eq_some_iff.mp found).1

/-- Every assignment of the system keeps it. -/
def LessonSystem.Kept (system : LessonSystem) : Prop :=
  ∀ index < system.store.count, (system.store.assignments index).Keeps (system.given index)

theorem LessonSystem.Kept.place (kept : system.Kept) {index : Nat}
    (keeps : assignment.Keeps (system.given index)) : (system.place index assignment).Kept := by
  intro other inside
  by_cases same : other = index
  · subst same
    simpa only [LessonSystem.place, LessonAssignmentStore.place, Function.update_self] using keeps
  · simpa only [LessonSystem.place, LessonAssignmentStore.place, Function.update_of_ne same]
      using kept other inside

/-- What is recorded goes into the row of the step, and the rows before it stay. -/
theorem LessonAssignment.Keeps.record {own : Lesson} (keeps : assignment.Keeps own)
    (lesson : Lesson) {evidenceDigest : Option CString}
    (admits : ∀ step, own.steps[assignment.progress.completedSteps]? = some step →
      step.admits evidenceDigest = true)
    (last : assignment.progress.completedSteps + 1 = lesson.steps.length →
      assignment.progress.completedSteps + 1 = own.steps.length ∧ assignment.bound = true) :
    { assignment with progress := assignment.progress.record lesson evidenceDigest }.Keeps own := by
  refine ⟨fun row earlier step found required => ?_, keeps.learner, fun complete =>
    last (beq_iff_eq.mp complete)⟩
  by_cases here : row = assignment.progress.completedSteps
  · subst here
    have admitted := admits step found
    rw [LessonStep.admits, required, Bool.false_or, beq_iff_eq] at admitted
    rw [admitted]
    exact Function.update_self ..
  · have before := keeps.evidence row
      (Nat.lt_of_le_of_ne (Nat.lt_succ_iff.mp earlier) here) step found required
    cases evidenceDigest with
    | none => exact before
    | some digest => exact (Function.update_of_ne here ..).trans before

theorem Moves.kept (moves : Moves system call after) (kept : system.Kept)
    (faithful : call.Faithful system) : after.Kept := by
  cases moves with
  | taught lessons => exact kept
  | made assignment unbound started unmoved =>
    intro index inside
    by_cases isNew : index = system.store.count
    · subst isNew
      simp only [LessonAssignmentStore.place, Function.update_self]
      refine ⟨fun row earlier => ?_, fun bound => ?_, fun complete => ?_⟩
      · rw [unmoved] at earlier
        exact absurd earlier (Nat.not_lt_zero row)
      · exact absurd (unbound.symm.trans bound) Bool.false_ne_true
      · exact absurd (started.symm.trans complete) Bool.false_ne_true
    · simp only [LessonAssignmentStore.place, Function.update_of_ne isNew]
      exact kept index (Nat.lt_of_le_of_ne (Nat.lt_succ_iff.mp inside) isNew)
  | bound inside =>
    have keeps := kept _ inside
    exact kept.place ⟨keeps.evidence, fun _ => rfl, fun complete =>
      ⟨(keeps.complete complete).1, rfl⟩⟩
  | restarted inside =>
    exact kept.place ⟨fun row earlier => absurd earlier (Nat.not_lt_zero row),
      (kept _ inside).learner, fun complete => absurd complete Bool.false_ne_true⟩
  | advanced inside started version valid found admitted =>
    obtain ⟨own, last⟩ := faithful inside started version valid _ found admitted
    exact kept.place ((kept _ inside).record _ own last)

/-- The first advances of a run are faithful. -/
def FaithfulRun (lessons : Nat → Lesson) (calls : List LessonCall) (index : Nat) : Prop :=
  ∀ earlier < index, ∀ call, calls[earlier]? = some call →
    call.Faithful (systemAt lessons calls earlier)

/-- Slots past the end stay cleared, and with faithful advances every assignment keeps what it has
to keep. -/
theorem run_keeps (lessons : Nat → Lesson) (calls : List LessonCall) (index : Nat) :
    (systemAt lessons calls index).store.Cleared ∧
      (FaithfulRun lessons calls index → (systemAt lessons calls index).Kept) := by
  have earlierRun {position : Nat} (faithful : FaithfulRun lessons calls (position + 1)) :
      FaithfulRun lessons calls position :=
    fun earlier inside => faithful earlier (Nat.lt_succ_of_lt inside)
  refine Runs.along (motive := fun index (system : LessonSystem) => system.store.Cleared ∧
    (FaithfulRun lessons calls index → system.Kept))
    ⟨fun _ _ => rfl, fun _ _ inside => absurd inside (Nat.not_lt_zero _)⟩
    (fun position call taken before => ?_)
    (fun _ _ before => ⟨before.1, fun faithful => before.2 (earlierRun faithful)⟩) index
  obtain same | ⟨after, done, moves⟩ := apply_cases before.1 call
  · rw [same]
    exact ⟨before.1, fun faithful => before.2 (earlierRun faithful)⟩
  · simp only [done]
    exact ⟨moves.cleared before.1, fun faithful => moves.kept (before.2 (earlierRun faithful))
      (faithful position (Nat.lt_succ_self position) call taken)⟩

/-- Over any lessons and any sequence of calls, a refused call changes nothing; and as long as
the advances are faithful, complete progress was earned. -/
theorem progress_sound (lessons : Nat → Lesson) (calls : List LessonCall) (index : Nat) :
    (∀ call : LessonCall, (call.apply (systemAt lessons calls index)).1 = false →
      (call.apply (systemAt lessons calls index)).2 = systemAt lessons calls index) ∧
    (FaithfulRun lessons calls index → (systemAt lessons calls index).Sound) := by
  obtain ⟨cleared, kept⟩ := run_keeps lessons calls index
  refine ⟨fun call refused => ?_, fun faithful _ inside complete =>
    (kept faithful _ inside).earned complete⟩
  obtain same | ⟨after, done, -⟩ := apply_cases cleared call
  · rw [same]
  · rw [done] at refused
    cases refused

/-- A digest of 64 digits. -/
def sampleDigest : CString := .ofBytes (List.replicate 64 97)

/-- Two lessons of one version and one step; only the first one requires evidence. -/
def sampleLessons : Nat → Lesson
  | 0 => ⟨.literal "radio", 1, true, [⟨.literal "scan", .evidenceCheckpoint, .literal "Scan",
      sampleDigest⟩]⟩
  | _ => ⟨.literal "intro", 1, true, [⟨.literal "read", .explanation, .literal "Read", default⟩]⟩

/-- An assignment is made from the first lesson, bound and advanced. -/
def sampleCalls (lesson : Nat) (evidenceDigest : Option CString) : List LessonCall :=
  [.create 0 (.literal "a") (.literal "w") (.literal "i") 0 .owner,
    .bind 0 (.literal "l") .owner, .advance 0 lesson evidenceDigest]

theorem progress_sound_sample :
    ((systemAt sampleLessons (sampleCalls 0 (some sampleDigest)) 3).store.assignments 0).Earned
      (sampleLessons 0) := by
  have sound := (progress_sound sampleLessons (sampleCalls 0 (some sampleDigest)) 3).2
    (fun earlier inside call taken => by
      match earlier, inside with
      | 0, _ => cases taken; trivial
      | 1, _ => cases taken; trivial
      | 2, _ =>
        cases taken
        intro _ _ _ _ step found admitted
        exact ⟨fun own ownFound => by cases found; cases ownFound; exact admitted,
          fun _ => ⟨rfl, by decide +kernel⟩⟩)
  exact sound 0 (by decide +kernel) (by decide +kernel)

/-- The progress is completed with the other lesson, without the evidence. -/
theorem other_lesson_completes : ¬ ∀ lessons calls index, (systemAt lessons calls index).Sound := by
  intro sound
  have earned := sound sampleLessons (sampleCalls 1 none) 3 0 (by decide +kernel)
    (by decide +kernel)
  have evidence := earned.evidence 0 _ rfl (by decide +kernel)
  revert evidence
  decide +kernel

end PoisonedOS.Lessons
