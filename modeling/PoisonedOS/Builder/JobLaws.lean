import PoisonedOS.Builder.JobStore
import PoisonedOS.Library.Runs

/-!
# The laws of the job store

Job ids are unique, a key keeps its job, refused operations leave no trace, and what a job is
built from is settled when its inputs are finalized. All of this holds along a run as long as
no inputs are finalized twice in a different way: that call is refused, but its inputs are
written.
-/

namespace PoisonedOS.Builder

/-- A state from which there is no transition. -/
def JobState.terminal : JobState → Bool
  | .succeeded => true
  | .failed => true
  | .cancelled => true
  | .expired => true
  | _ => false

theorem JobState.not_allowed_of_terminal {state next : JobState} (ended : state.terminal = true) :
    state.allows next = false := by
  cases state <;> cases next <;> first | rfl | cases ended

/-- Only the inputs of a created job are finalized. -/
theorem JobState.allows_inputsFinalized {state : JobState} :
    state.allows .inputsFinalized = true ↔ state = .created := by
  cases state <;> decide

/-- A job that was taken to its next state. -/
structure Job.Advanced (job after : Job) : Prop where
  allowed : job.state.allows after.state = true
  id : after.id = job.id
  key : after.idempotencyKey = job.idempotencyKey
  inputs : job.state ≠ .created →
    after.sourceBytes = job.sourceBytes ∧ after.provenance = job.provenance
  finalized : job.state = .created → after.provenance.isSome = true
  artifact : after.nativeArtifact = job.nativeArtifact ∨ after.state = .succeeded

namespace BuilderStore

/-- The store after a job was created. -/
def created (store : BuilderStore) (key : String) : BuilderStore :=
  { store with
    nextId := store.nextId + 1
    idempotency := Function.update store.idempotency key (some (jobId store.nextId))
    jobs := Function.update store.jobs (jobId store.nextId)
      (some
        { id := jobId store.nextId
          idempotencyKey := key
          state := .created
          sourceBytes := 0
          provenance := none
          nativeArtifact := none }) }

/-- The store with another job at an id. -/
def withJob (store : BuilderStore) (id : String) (job : Job) : BuilderStore :=
  { store with jobs := Function.update store.jobs id (some job) }

/-- All that an operation can do. -/
inductive Outcome (store : BuilderStore) :
    Operation → Except String (Option String) × BuilderStore → Prop where
  | refused (operation : Operation) (error : String) :
    Outcome store operation (.error error, store)
  | known (key id : String) (mapped : store.idempotency key = some id) :
    Outcome store (.createJob key) (.ok (some id), store)
  | created (key : String) (unmapped : store.idempotency key = none) :
    Outcome store (.createJob key) (.ok (some (jobId store.nextId)), store.created key)
  | advanced (operation : Operation) (id : String) (job after : Job)
    (present : store.jobs id = some job) (advanced : job.Advanced after) :
    Outcome store operation (.ok none, store.withJob id after)
  | overwritten (id : String) (sourceBytes : UInt64) (provenance : Provenance) (job : Job)
    (within : sourceBytes ≤ store.policy.maxSourceBytes) (present : store.jobs id = some job)
    (left : job.state ≠ .created) :
    Outcome store (.finalizeInputs id sourceBytes provenance)
      (.error "invalid job transition",
        store.withJob id { job with sourceBytes, provenance := some provenance })

variable {store : BuilderStore}

variable {id : String} {job : Job}

/-- A job that is put where it was. -/
theorem withJob_same (present : store.jobs id = some job) :
    store.withJob id job = store := by
  rw [withJob, ← present, Function.update_eq_self]

theorem withJob_here : (store.withJob id job).jobs id = some job :=
  Function.update_self ..

theorem withJob_elsewhere {other : String} (differ : other ≠ id) :
    (store.withJob id job).jobs other = store.jobs other :=
  Function.update_of_ne differ ..

theorem replace_outcome (operation : Operation) (id : String)
    (change : Job → Option String × Job)
    (moves : ∀ job, store.jobs id = some job →
      (∃ error, change job = (some error, job)) ∨
        ∃ after, change job = (none, after) ∧ job.Advanced after) :
    Outcome store operation (answer (store.replace id change)) := by
  rw [replace]
  cases present : store.jobs id with
  | none => exact .refused _ _
  | some job =>
    obtain ⟨error, same⟩ | ⟨after, changed, advanced⟩ := moves job present
    · have kept := withJob_same present
      rw [withJob] at kept
      simp only [answer, same, kept]
      exact .refused _ _
    · simp only [answer, changed]
      exact .advanced operation id job after present advanced

/-- A transition that keeps everything else is one of a job whose inputs are finalized. -/
theorem transition_moves {next : JobState} (reachable : JobState.created.allows next = false) (job : Job) :
    (∃ error, job.transition next = (some error, job)) ∨
      ∃ after, job.transition next = (none, after) ∧ job.Advanced after := by
  rw [Job.transition]
  split
  · rename_i allowed
    refine .inr ⟨_, rfl, allowed, rfl, rfl, fun _ => ⟨rfl, rfl⟩, fun isCreated => ?_, .inl rfl⟩
    rw [isCreated, reachable] at allowed
    cases allowed
  · exact .inl ⟨_, rfl⟩

/-- The inputs of a job that left its first state are written, and the call is refused. -/
theorem apply_overwrites {id : String} {sourceBytes : UInt64} {provenance : Provenance} {job : Job}
    (within : sourceBytes ≤ store.policy.maxSourceBytes) (present : store.jobs id = some job)
    (left : job.state ≠ .created) :
    store.apply (.finalizeInputs id sourceBytes provenance) =
      (.error "invalid job transition",
        store.withJob id { job with sourceBytes, provenance := some provenance }) := by
  have refused : ¬ job.state.allows .inputsFinalized = true := by
    rw [JobState.allows_inputsFinalized]
    exact left
  rw [apply, finalizeInputs, if_neg (UInt64.not_lt.mpr within), replace, present]
  simp only [Job.transition, if_neg refused]
  rfl

/-- **All that an operation does is listed.** -/
theorem apply_outcome (store : BuilderStore) (operation : Operation) :
    Outcome store operation (store.apply operation) := by
  cases operation with
  | createJob key =>
    rw [apply, createJob]
    split
    · exact .refused _ _
    · cases mapped : store.idempotency key with
      | none => exact .created key mapped
      | some id => exact .known key id mapped
  | finalizeInputs id sourceBytes provenance =>
    by_cases beyond : store.policy.maxSourceBytes < sourceBytes
    · rw [apply, finalizeInputs, if_pos beyond]
      exact .refused _ _
    have within := UInt64.not_lt.mp beyond
    by_cases isCreated : ∀ job, store.jobs id = some job → job.state = .created
    · rw [apply, finalizeInputs, if_neg beyond]
      refine replace_outcome _ id _ fun job present => .inr ?_
      have allowed := JobState.allows_inputsFinalized.mpr (isCreated job present)
      refine ⟨{ job with
        sourceBytes := sourceBytes, provenance := some provenance, state := .inputsFinalized },
        by rw [Job.transition, if_pos allowed], allowed, rfl, rfl, fun left => ?_,
        fun _ => rfl, .inl rfl⟩
      exact absurd (isCreated job present) left
    · push Not at isCreated
      obtain ⟨job, present, left⟩ := isCreated
      rw [apply_overwrites within present left]
      exact .overwritten id sourceBytes provenance job within present left
  | start id =>
    exact replace_outcome _ id _ fun job _ => transition_moves rfl job
  | finish id outputBytes =>
    rw [apply, finish]
    split
    · exact .refused _ _
    · exact replace_outcome _ id _ fun job _ => transition_moves rfl job
  | publishNativeArtifact id manifest outputBytes =>
    rw [apply, publishNativeArtifact]
    split
    · exact .refused _ _
    split
    · exact .refused _ _
    refine replace_outcome _ id _ fun job _ => ?_
    by_cases running : job.state = .running
    · have allowed : job.state.allows .succeeded = true := by
        rw [running]
        rfl
      have runs : (job.state != .running) = false := by
        rw [running]
        rfl
      refine .inr ⟨{ job with nativeArtifact := some manifest, state := .succeeded },
        by simp only [runs, Bool.false_eq_true, ↓reduceIte, Job.transition, allowed], allowed, rfl,
        rfl, fun _ => ⟨rfl, rfl⟩, fun isCreated => ?_, .inr rfl⟩
      rw [isCreated] at running
      cases running
    · exact .inl ⟨_, if_pos (bne_iff_ne.mpr running)⟩
  | cancel id =>
    exact replace_outcome _ id _ fun job _ => transition_moves rfl job
  | fail id =>
    exact replace_outcome _ id _ fun job _ => transition_moves rfl job

/-! ## The laws -/

/-- What an operation keeps: a refused operation leaves no trace, a key keeps its id and an id
its key, inputs that are finalized stay, and a job in a terminal state stays as it is. -/
structure Lawful (store : BuilderStore) (operation : Operation) : Prop where
  refused : ∀ error, (store.apply operation).1 = .error error →
    (store.apply operation).2 = store
  mapped : ∀ key id, store.idempotency key = some id →
    (store.apply operation).2.idempotency key = some id
  kept : ∀ id job, store.jobs id = some job → ∃ after,
    (store.apply operation).2.jobs id = some after ∧ after.id = job.id ∧
      after.idempotencyKey = job.idempotencyKey ∧
      (job.state ≠ .created →
        after.sourceBytes = job.sourceBytes ∧ after.provenance = job.provenance) ∧
      (job.state.terminal = true → after = job)

/-- What holds of the store: a job has its id and its key to itself, a job that left its first
state has the provenance of its inputs, and only a job that succeeded has an artifact. -/
structure Consistent (store : BuilderStore) : Prop where
  keyed : ∀ id job, store.jobs id = some job →
    job.id = id ∧ store.idempotency job.idempotencyKey = some id
  mapped : ∀ key id, store.idempotency key = some id →
    ∃ job, store.jobs id = some job ∧ job.idempotencyKey = key
  finalized : ∀ id job, store.jobs id = some job → job.state ≠ .created →
    job.provenance.isSome = true
  published : ∀ id job, store.jobs id = some job → job.nativeArtifact.isSome = true →
    job.state = .succeeded

def Careful (store : BuilderStore) : Operation → Prop
  | .finalizeInputs id sourceBytes provenance =>
    sourceBytes ≤ store.policy.maxSourceBytes → ∀ job, store.jobs id = some job →
      job.state ≠ .created → job.sourceBytes = sourceBytes ∧ job.provenance = some provenance
  | _ => True

/-- The ids that were issued are below the counter, which is after so many operations at most
so large. -/
structure Numbered (store : BuilderStore) (operations : Nat) : Prop where
  issued : ∀ id job, store.jobs id = some job →
    ∃ number < store.nextId.toNat, id = "job-" ++ toString number
  bound : store.nextId.toNat ≤ operations + 1

/-- Numbers have different texts. -/
theorem toString_injective {left right : Nat} (same : toString left = toString right) :
    left = right := by
  have digits := congrArg (fun text : String => Nat.ofDigitChars 10 text.toList 0) same
  simpa only [Nat.toString_eq_repr, Nat.toList_repr, Nat.ofDigitChars_ten_toDigits] using digits

theorem jobId_injective {left right : Nat}
    (same : "job-" ++ toString left = "job-" ++ toString right) : left = right := by
  have letters := congrArg String.toList same
  rw [String.toList_append, String.toList_append] at letters
  exact toString_injective (String.toList_inj.mp (List.append_cancel_left letters))

variable {operations : Nat}

/-- The next id is free. -/
theorem Numbered.free (numbered : store.Numbered operations) :
    store.jobs (jobId store.nextId) = none := by
  cases present : store.jobs (jobId store.nextId) with
  | none => rfl
  | some job =>
    obtain ⟨number, below, same⟩ := numbered.issued _ job present
    rw [jobId] at same
    have equal := jobId_injective same
    omega

/-- The counter goes on. -/
theorem Numbered.apply (numbered : store.Numbered operations)
    (few : operations + 2 < 18446744073709551616) (operation : Operation) :
    (store.apply operation).2.Numbered (operations + 1) := by
  have bound := numbered.bound
  have same (next : BuilderStore) (counter : next.nextId = store.nextId)
      (jobs : ∀ id job, next.jobs id = some job → ∃ former, store.jobs id = some former) :
      next.Numbered (operations + 1) := by
    constructor
    · intro id job present
      obtain ⟨former, before⟩ := jobs id job present
      rw [counter]
      exact numbered.issued id former before
    · rw [counter]
      omega
  have placed (id : String) (job after : Job) (present : store.jobs id = some job) :
      (store.withJob id after).Numbered (operations + 1) := by
    refine same _ rfl fun other stored isStored => ?_
    by_cases own : other = id
    · exact ⟨job, own ▸ present⟩
    · exact ⟨stored, (withJob_elsewhere own).symm.trans isStored⟩
  have outcome := store.apply_outcome operation
  generalize store.apply operation = result at outcome ⊢
  cases outcome with
  | refused _ error => exact same _ rfl fun id job present => ⟨job, present⟩
  | known key id mapped => exact same _ rfl fun id job present => ⟨job, present⟩
  | created key unmapped =>
    have advanced : (store.nextId + 1).toNat = store.nextId.toNat + 1 := by
      rw [UInt64.toNat_add, UInt64.toNat_one]
      omega
    constructor
    · intro id job present
      simp only [created] at present ⊢
      rw [advanced]
      by_cases own : id = jobId store.nextId
      · exact ⟨store.nextId.toNat, by omega, own⟩
      · rw [Function.update_of_ne own] at present
        obtain ⟨number, below, isText⟩ := numbered.issued id job present
        exact ⟨number, by omega, isText⟩
    · simp only [created]
      omega
  | advanced _ id job after present advanced => exact placed id job after present
  | overwritten id sourceBytes provenance job within present left => exact placed id job _ present

/-- **The store stays consistent**, whatever the operation. -/
theorem Consistent.apply (consistent : store.Consistent) (numbered : store.Numbered operations)
    (operation : Operation) :
    (store.apply operation).2.Consistent := by
  have placed (id : String) (job after : Job) (present : store.jobs id = some job)
      (sameId : after.id = job.id) (sameKey : after.idempotencyKey = job.idempotencyKey)
      (finalized : after.state ≠ .created → after.provenance.isSome = true)
      (published : after.nativeArtifact.isSome = true → after.state = .succeeded) :
      (store.withJob id after).Consistent := by
    constructor
    · intro other stored isStored
      by_cases own : other = id
      · subst own
        cases withJob_here.symm.trans isStored
        rw [sameId, sameKey]
        exact consistent.keyed other job present
      · rw [withJob_elsewhere own] at isStored
        exact consistent.keyed other stored isStored
    · intro key other mapped
      obtain ⟨stored, isStored, isKey⟩ := consistent.mapped key other mapped
      by_cases own : other = id
      · subst own
        cases present.symm.trans isStored
        exact ⟨after, withJob_here, sameKey.trans isKey⟩
      · exact ⟨stored, (withJob_elsewhere own).trans isStored, isKey⟩
    · intro other stored isStored
      by_cases own : other = id
      · subst own
        cases withJob_here.symm.trans isStored
        exact finalized
      · rw [withJob_elsewhere own] at isStored
        exact consistent.finalized other stored isStored
    · intro other stored isStored
      by_cases own : other = id
      · subst own
        cases withJob_here.symm.trans isStored
        exact published
      · rw [withJob_elsewhere own] at isStored
        exact consistent.published other stored isStored
  have outcome := store.apply_outcome operation
  generalize store.apply operation = result at outcome ⊢
  cases outcome with
  | refused _ error => exact consistent
  | known key id mapped => exact consistent
  | created key unmapped =>
    have free := numbered.free
    constructor
    · intro id job present
      simp only [created] at present ⊢
      by_cases own : id = jobId store.nextId
      · subst own
        rw [Function.update_self] at present
        cases present
        exact ⟨rfl, Function.update_self ..⟩
      · rw [Function.update_of_ne own] at present
        obtain ⟨sameId, mapped⟩ := consistent.keyed id job present
        refine ⟨sameId, ?_⟩
        rw [Function.update_of_ne, mapped]
        rintro rfl
        rw [unmapped] at mapped
        cases mapped
    · intro other id mapped
      simp only [created] at mapped ⊢
      by_cases own : other = key
      · subst own
        rw [Function.update_self] at mapped
        cases mapped
        exact ⟨_, Function.update_self .., rfl⟩
      · rw [Function.update_of_ne own] at mapped
        obtain ⟨job, present, isKey⟩ := consistent.mapped other id mapped
        refine ⟨job, ?_, isKey⟩
        rw [Function.update_of_ne, present]
        rintro rfl
        rw [free] at present
        cases present
    · intro id job present
      simp only [created] at present
      by_cases own : id = jobId store.nextId
      · subst own
        rw [Function.update_self] at present
        cases present
        exact fun left => absurd rfl left
      · rw [Function.update_of_ne own] at present
        exact consistent.finalized id job present
    · intro id job present
      simp only [created] at present
      by_cases own : id = jobId store.nextId
      · subst own
        rw [Function.update_self] at present
        cases present
        exact fun isSome => by cases isSome
      · rw [Function.update_of_ne own] at present
        exact consistent.published id job present
  | advanced _ id job after present advanced =>
    refine placed id job after present advanced.id advanced.key (fun _ => ?_) fun isSome => ?_
    · by_cases isCreated : job.state = .created
      · exact advanced.finalized isCreated
      · rw [(advanced.inputs isCreated).2]
        exact consistent.finalized id job present isCreated
    · obtain same | succeeded := advanced.artifact
      · rw [same] at isSome
        have ended := consistent.published id job present isSome
        have allowed := advanced.allowed
        rw [ended, JobState.not_allowed_of_terminal rfl] at allowed
        cases allowed
      · exact succeeded
  | overwritten id sourceBytes provenance job within present left =>
    exact placed id job _ present rfl rfl (fun _ => rfl)
      (consistent.published id job present)

/-- A job that is changed in one of the ways that are allowed. -/
theorem withJob_kept {after : Job} (present : store.jobs id = some job) (sameId : after.id = job.id)
    (sameKey : after.idempotencyKey = job.idempotencyKey)
    (inputs : job.state ≠ .created →
      after.sourceBytes = job.sourceBytes ∧ after.provenance = job.provenance)
    (ended : job.state.terminal = true → after = job) {other : String} {stored : Job}
    (isStored : store.jobs other = some stored) :
    ∃ next, (store.withJob id after).jobs other = some next ∧ next.id = stored.id ∧
      next.idempotencyKey = stored.idempotencyKey ∧
      (stored.state ≠ .created →
        next.sourceBytes = stored.sourceBytes ∧ next.provenance = stored.provenance) ∧
      (stored.state.terminal = true → next = stored) := by
  by_cases own : other = id
  · subst own
    cases present.symm.trans isStored
    exact ⟨after, withJob_here, sameId, sameKey, inputs, ended⟩
  · exact ⟨stored, (withJob_elsewhere own).trans isStored, rfl, rfl, fun _ => ⟨rfl, rfl⟩,
      fun _ => rfl⟩

/-- An operation that changes nothing is lawful. -/
theorem lawful_of_unchanged {operation : Operation}
    (same : (store.apply operation).2 = store) : store.Lawful operation := by
  refine ⟨fun _ _ => same, ?_, ?_⟩ <;> rw [same]
  · exact fun _ _ mapped => mapped
  · exact fun id job present => ⟨job, present, rfl, rfl, fun _ => ⟨rfl, rfl⟩, fun _ => rfl⟩

/-- A careful operation is lawful. -/
theorem Careful.lawful (numbered : store.Numbered operations) {operation : Operation}
    (careful : store.Careful operation) : store.Lawful operation := by
  have outcome := store.apply_outcome operation
  generalize applied : store.apply operation = result at outcome
  cases outcome with
  | refused _ error =>
    exact lawful_of_unchanged (by rw [applied])
  | known key id mapped =>
    exact lawful_of_unchanged (by rw [applied])
  | created key unmapped =>
    have free := numbered.free
    refine ⟨?_, ?_, ?_⟩ <;> rw [applied]
    · intro error isError
      cases isError
    · intro other id mapped
      simp only [created]
      rw [Function.update_of_ne, mapped]
      rintro rfl
      rw [unmapped] at mapped
      cases mapped
    · intro id job present
      refine ⟨job, ?_, rfl, rfl, fun _ => ⟨rfl, rfl⟩, fun _ => rfl⟩
      simp only [created]
      rw [Function.update_of_ne, present]
      rintro rfl
      rw [free] at present
      cases present
  | advanced _ id job after present advanced =>
    refine ⟨?_, ?_, ?_⟩ <;> rw [applied]
    · intro error isError
      cases isError
    · exact fun _ _ mapped => mapped
    · refine fun other stored isStored => withJob_kept present advanced.id advanced.key
        advanced.inputs (fun ended => ?_) isStored
      have allowed := advanced.allowed
      rw [JobState.not_allowed_of_terminal ended] at allowed
      cases allowed
  | overwritten id sourceBytes provenance job within present left =>
    obtain ⟨sameBytes, sameProvenance⟩ := careful within job present left
    have same : { job with sourceBytes, provenance := some provenance } = job := by
      cases job
      simp only at sameBytes sameProvenance
      rw [sameBytes, sameProvenance]
    rw [same, withJob_same present] at applied
    exact lawful_of_unchanged (by rw [applied])

/-- A lawful operation is careful: a call that is refused leaves the inputs of its job. -/
theorem Lawful.careful {operation : Operation} (lawful : store.Lawful operation) :
    store.Careful operation := by
  cases operation with
  | finalizeInputs id sourceBytes provenance =>
    intro within job present left
    have applied : store.apply (.finalizeInputs id sourceBytes provenance) = _ :=
      apply_overwrites within present left
    have same := lawful.refused _ (by rw [applied])
    rw [applied] at same
    have here := congrArg (fun next : BuilderStore => next.jobs id) same
    simp only [withJob_here, present, Option.some.injEq] at here
    rw [← here]
    exact ⟨rfl, rfl⟩
  | createJob _ | start _ | finish _ _ | publishNativeArtifact _ _ _ | cancel _ | fail _ => trivial

/-! ## Runs -/

/-- An operation, without what it returns. -/
def next (operation : Operation) (store : BuilderStore) : BuilderStore := (store.apply operation).2

/-- **The laws of the job store.** Along every run that is short enough for the counter, the
store is consistent, and all operations of the run are lawful exactly where all of them are
careful. -/
theorem job_store_lawful_iff (policy : BuildPolicy) (operations : List Operation)
    (short : operations.length < 18446744073709551614) :
    (∀ index, (Runs.reached next (.new policy) operations index).Consistent) ∧
      ((∀ index operation, operations[index]? = some operation →
          (Runs.reached next (.new policy) operations index).Lawful operation) ↔
        ∀ index operation, operations[index]? = some operation →
          (Runs.reached next (.new policy) operations index).Careful operation) := by
  have both (index : Nat) :
      (Runs.reached next (.new policy) operations index).Consistent ∧
        ∃ taken, taken ≤ index ∧ taken ≤ operations.length ∧
          (Runs.reached next (.new policy) operations index).Numbered taken := by
    refine Runs.along (motive := fun index store => Consistent store ∧
      ∃ taken, taken ≤ index ∧ taken ≤ operations.length ∧ Numbered store taken) ?_ ?_ ?_ index
    · refine ⟨⟨?_, ?_, ?_, ?_⟩, 0, Nat.le_refl 0, Nat.zero_le _, ?_, ?_⟩
      · exact fun _ _ present => by cases present
      · exact fun _ _ mapped => by cases mapped
      · exact fun _ _ present => by cases present
      · exact fun _ _ present => by cases present
      · exact fun _ _ present => by cases present
      · exact Nat.le_refl 1
    · rintro index operation isTaken ⟨consistent, taken, early, within, numbered⟩
      have inside := (List.getElem?_eq_some_iff.mp isTaken).1
      exact ⟨consistent.apply numbered operation, taken + 1, by omega, by omega,
        numbered.apply (by omega) operation⟩
    · rintro index _ ⟨consistent, taken, early, within, numbered⟩
      exact ⟨consistent, taken, by omega, within, numbered⟩
  refine ⟨fun index => (both index).1, ?_⟩
  constructor
  · exact fun lawful index operation isTaken => (lawful index operation isTaken).careful
  · intro careful index operation isTaken
    obtain ⟨_, taken, _, _, numbered⟩ := both index
    exact (careful index operation isTaken).lawful numbered

/-! ## Two finalizations -/

section Sample

/-- The limits of `BuildPolicy::default`. -/
def defaultPolicy : BuildPolicy where
  maxSourceBytes := 2 * 1024 * 1024
  maxOutputBytes := 4 * 1024 * 1024

def sampleProvenance (sourceDigest : String) : Provenance where
  sourceDigest := sourceDigest
  lockDigest := "lock"
  toolchainDigest := "toolchain"
  apiVersion := 1
  target := "thumbv7em-none-eabihf"

/-- A job is created and its inputs are finalized. -/
def sampleOperations : List Operation :=
  [.createJob "request-1", .finalizeInputs "job-1" 10 (sampleProvenance "source")]

/-- Creating a job and finalizing its inputs is lawful. -/
theorem job_store_lawful_sample :
    (Runs.reached next (.new defaultPolicy) sampleOperations 2).Consistent ∧
      (Runs.reached next (.new defaultPolicy) sampleOperations 1).Lawful
        (.finalizeInputs "job-1" 10 (sampleProvenance "source")) := by
  have laws := job_store_lawful_iff defaultPolicy sampleOperations (by decide)
  refine ⟨laws.1 2, laws.2.mpr ?_ 1 _ rfl⟩
  intro index operation isTaken
  match index with
  | 0 =>
    cases isTaken
    trivial
  | 1 =>
    cases isTaken
    intro within job present left
    have created : (Runs.reached next (.new defaultPolicy) sampleOperations 1).jobs "job-1" = some
        { id := "job-1", idempotencyKey := "request-1", state := .created, sourceBytes := 0,
          provenance := none, nativeArtifact := none } := by
      decide +kernel
    cases created.symm.trans present
    exact absurd rfl left
  | _ + 2 => cases isTaken

/-- The inputs of a job are finalized a second time: the call is refused, and the job now has
the digests of the other source. -/
theorem refused_finalization_written :
    ((Runs.reached next (.new defaultPolicy) sampleOperations 2).apply
        (.finalizeInputs "job-1" 20 (sampleProvenance "other"))).1 =
      .error "invalid job transition" ∧
    (((Runs.reached next (.new defaultPolicy) sampleOperations 2).apply
        (.finalizeInputs "job-1" 20 (sampleProvenance "other"))).2.jobs "job-1").map
          Job.provenance = some (some (sampleProvenance "other")) ∧
    ¬ (Runs.reached next (.new defaultPolicy) sampleOperations 2).Lawful
        (.finalizeInputs "job-1" 20 (sampleProvenance "other")) := by
  have present : (Runs.reached next (.new defaultPolicy) sampleOperations 2).jobs "job-1" = some
      { id := "job-1", idempotencyKey := "request-1", state := .inputsFinalized,
        sourceBytes := 10, provenance := some (sampleProvenance "source"),
        nativeArtifact := none } := by
    decide +kernel
  have within : (20 : UInt64) ≤
      (Runs.reached next (.new defaultPolicy) sampleOperations 2).policy.maxSourceBytes := by
    decide +kernel
  have applied := @apply_overwrites _ _ _ (sampleProvenance "other") _ within present (by decide)
  refine ⟨by rw [applied], ?_, fun lawful => ?_⟩
  · rw [applied]
    simp only [withJob_here, Option.map_some]
  · have same := (lawful.careful within _ present (by decide)).1
    revert same
    decide

end Sample

end BuilderStore

end PoisonedOS.Builder
