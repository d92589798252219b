import Mathlib.Logic.Function.Basic

/-!
# The store of build jobs

The builder keeps jobs by their ids and ids by idempotency keys. An operation names a job and
takes it to its next state, or is refused. The digests of a job's inputs are written when the
inputs are finalized, and before the state is looked at.

The counter of ids is a machine word; `HashMap` is a function from keys to values.
-/

namespace PoisonedOS.Builder

/-- `MAX_JOB_ID`. -/
def maxJobId : Nat := 64

/-- `JobState`. -/
inductive JobState where
  | created
  | inputsFinalized
  | running
  | succeeded
  | failed
  | cancelled
  | expired
deriving DecidableEq

/-- `BuildPolicy`; the store reads its two limits only. -/
structure BuildPolicy where
  maxSourceBytes : UInt64
  maxOutputBytes : UInt64

/-- `Provenance`. -/
structure Provenance where
  sourceDigest : String
  lockDigest : String
  toolchainDigest : String
  apiVersion : UInt16
  target : String
deriving DecidableEq

/-- `NativeArtifactManifest`. -/
structure NativeArtifactManifest where
  target : String
  apiVersion : UInt16
  abiVersion : UInt16
  entry : String
  imports : List String
  relocations : List UInt32
  capabilities : List String
  digest : String
deriving DecidableEq

/-- `is_ascii_hexdigit` and not `is_ascii_uppercase`. -/
def isLowerHexDigit (digit : Char) : Bool :=
  digit.isDigit || (decide ('a' ≤ digit) && decide (digit ≤ 'f'))

/-- `NativeArtifactManifest::validate`: the error, if there is one. -/
def NativeArtifactManifest.validate (manifest : NativeArtifactManifest) (expectedTarget : String)
    (expectedApi expectedAbi : UInt16) : Option String :=
  if manifest.target != expectedTarget || manifest.apiVersion != expectedApi ||
      manifest.abiVersion != expectedAbi then
    some "target or ABI mismatch"
  else if manifest.entry != "poison_rust_entry" then some "entry symbol mismatch"
  else if manifest.digest.utf8ByteSize != 64 || !manifest.digest.toList.all isLowerHexDigit then
    some "invalid artifact digest"
  else if manifest.imports.any fun name => !"poison_".toList.isPrefixOf name.toList then
    some "unsupported import"
  else if manifest.relocations.any fun relocation => !([0, 2, 3, 10].contains relocation) then
    some "unsupported relocation"
  else if manifest.capabilities.any fun capability =>
      capability.isEmpty || decide (64 < capability.utf8ByteSize) then
    some "invalid capability"
  else none

/-- `Job`; its log is not written by any operation of the store. -/
structure Job where
  id : String
  idempotencyKey : String
  state : JobState
  sourceBytes : UInt64
  provenance : Option Provenance
  nativeArtifact : Option NativeArtifactManifest
deriving DecidableEq

/-- The pairs of states in `Job::transition`. -/
def JobState.allows : JobState → JobState → Bool
  | .created, .inputsFinalized => true
  | .inputsFinalized, .running => true
  | .running, .succeeded => true
  | .running, .failed => true
  | .running, .cancelled => true
  | .created, .expired => true
  | .inputsFinalized, .expired => true
  | _, _ => false

/-- `Job::transition`: the error, if there is one, and the job. -/
def Job.transition (job : Job) (next : JobState) : Option String × Job :=
  if job.state.allows next then (none, { job with state := next })
  else (some "invalid job transition", job)

/-- `BuilderStore`. -/
structure BuilderStore where
  jobs : String → Option Job
  idempotency : String → Option String
  nextId : UInt64
  policy : BuildPolicy

/-- `BuilderStore::new`. -/
def BuilderStore.new (policy : BuildPolicy) : BuilderStore where
  jobs _ := none
  idempotency _ := none
  nextId := 1
  policy := policy

/-- The operations of the store with their arguments. -/
inductive Operation where
  | createJob (idempotencyKey : String)
  | finalizeInputs (id : String) (sourceBytes : UInt64) (provenance : Provenance)
  | start (id : String)
  | finish (id : String) (outputBytes : UInt64)
  | publishNativeArtifact (id : String) (manifest : NativeArtifactManifest) (outputBytes : UInt64)
  | cancel (id : String)
  | fail (id : String)

namespace BuilderStore

variable (store : BuilderStore)

/-- The text of an id. -/
def jobId (number : UInt64) : String := "job-" ++ toString number.toNat

def replace (id : String) (change : Job → Option String × Job) : Option String × BuilderStore :=
  match store.jobs id with
  | none => (some "unknown job", store)
  | some job =>
    ((change job).1, { store with jobs := Function.update store.jobs id (some (change job).2) })

/-- `BuilderStore::create_job`. -/
def createJob (idempotencyKey : String) : Except String String × BuilderStore :=
  if idempotencyKey.isEmpty || decide (maxJobId < idempotencyKey.utf8ByteSize) then
    (.error "invalid idempotency key", store)
  else
    match store.idempotency idempotencyKey with
    | some id => (.ok id, store)
    | none =>
      let id := jobId store.nextId
      let job : Job :=
        { id
          idempotencyKey
          state := .created
          sourceBytes := 0
          provenance := none
          nativeArtifact := none }
      (.ok id,
        { store with
          nextId := store.nextId + 1
          idempotency := Function.update store.idempotency idempotencyKey (some id)
          jobs := Function.update store.jobs id (some job) })

/-- `BuilderStore::finalize_inputs`. -/
def finalizeInputs (id : String) (sourceBytes : UInt64) (provenance : Provenance) :
    Option String × BuilderStore :=
  if store.policy.maxSourceBytes < sourceBytes then (some "source limit exceeded", store)
  else
    store.replace id fun job =>
      -- the inputs are written before the transition is tried
      { job with sourceBytes, provenance := some provenance }.transition .inputsFinalized

/-- `BuilderStore::start`. -/
def start (id : String) : Option String × BuilderStore :=
  store.replace id fun job => job.transition .running

/-- `BuilderStore::finish`. -/
def finish (id : String) (outputBytes : UInt64) : Option String × BuilderStore :=
  if store.policy.maxOutputBytes < outputBytes then (some "output limit exceeded", store)
  else store.replace id fun job => job.transition .succeeded

/-- `BuilderStore::publish_native_artifact`. -/
def publishNativeArtifact (id : String) (manifest : NativeArtifactManifest)
    (outputBytes : UInt64) : Option String × BuilderStore :=
  if store.policy.maxOutputBytes < outputBytes then (some "output limit exceeded", store)
  else if (manifest.validate "thumbv7em-none-eabihf" 1 1).isSome then
    (some "native artifact admission failed", store)
  else
    store.replace id fun job =>
      if job.state != .running then (some "native artifact requires running job", job)
      else { job with nativeArtifact := some manifest }.transition .succeeded

/-- `BuilderStore::cancel`. -/
def cancel (id : String) : Option String × BuilderStore :=
  store.replace id fun job => job.transition .cancelled

/-- `BuilderStore::fail`. -/
def fail (id : String) : Option String × BuilderStore :=
  store.replace id fun job => job.transition .failed

/-- An operation other than a creation: its error, if there is one. -/
def answer (result : Option String × BuilderStore) : Except String (Option String) × BuilderStore :=
  match result.1 with
  | none => (.ok none, result.2)
  | some error => (.error error, result.2)

def apply : Operation → Except String (Option String) × BuilderStore
  | .createJob key => ((store.createJob key).1.map some, (store.createJob key).2)
  | .finalizeInputs id sourceBytes provenance =>
    answer (store.finalizeInputs id sourceBytes provenance)
  | .start id => answer (store.start id)
  | .finish id outputBytes => answer (store.finish id outputBytes)
  | .publishNativeArtifact id manifest outputBytes =>
    answer (store.publishNativeArtifact id manifest outputBytes)
  | .cancel id => answer (store.cancel id)
  | .fail id => answer (store.fail id)

end BuilderStore

end PoisonedOS.Builder
