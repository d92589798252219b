import PoisonedOS.Rpc.Steps

/-!
# Sessions over one device

Any number of sessions, each with its own confirmation state, send requests to
one device in any order. A run is the sequence of calls that were processed; it
starts from an empty device and sessions as the service sets them up.
-/

namespace PoisonedOS

/-- A processed request: the session it came from and everything it carried. -/
structure PackageCall where
  session : Nat
  request : PackageOperationRequest
  verified : Option VerifiedArchive
  context : Option RequestContext
  environment : Environment

/-- The settings a session reads when it is set up. -/
structure SessionProfile where
  hardwareTarget : UInt32
  firmwareApiMajor : UInt32
  firmwareApiMinor : UInt32
  availableStorageBytes : UInt64

/-- The device and all sessions. -/
structure PackageSystem (Tree : Type) where
  device : Device Tree
  sessions : Nat → RpcPackages

namespace PackageSystem

variable {Tree : Type}

/-- Nothing installed, nothing to confirm. -/
def start (profiles : Nat → SessionProfile) : PackageSystem Tree where
  device := .empty
  sessions := fun session =>
    .init (profiles session).hardwareTarget (profiles session).firmwareApiMajor
      (profiles session).firmwareApiMinor (profiles session).availableStorageBytes

variable (sha256 : List UInt8 → Digest)
  (extract : Option (List UInt8) → VerifiedArchive → Traced (Option Tree) Bool)

def outcome (system : PackageSystem Tree) (call : PackageCall) :
    Run (Device Tree) ProcessOutcome :=
  (system.sessions call.session).process sha256 extract call.request call.verified call.context
    call.environment system.device

/-- The system after a call. -/
def step (system : PackageSystem Tree) (call : PackageCall) : PackageSystem Tree where
  device := (outcome sha256 extract system call).final
  sessions := Function.update system.sessions call.session
    (outcome sha256 extract system call).value.packages

/-- The system after a sequence of calls. -/
def run (system : PackageSystem Tree) (calls : List PackageCall) : PackageSystem Tree :=
  calls.foldl (step sha256 extract) system

variable {sha256 extract}

/-- A call moves its own session on. -/
@[simp] theorem step_own (system : PackageSystem Tree) (call : PackageCall) :
    (step sha256 extract system call).sessions call.session =
      (outcome sha256 extract system call).value.packages :=
  Function.update_self _ _ _

/-- It leaves the other sessions alone. -/
theorem step_other {session : Nat} (system : PackageSystem Tree) {call : PackageCall}
    (other : session ≠ call.session) :
    (step sha256 extract system call).sessions session = system.sessions session :=
  Function.update_of_ne other _ _

@[simp] theorem run_nil (system : PackageSystem Tree) : run sha256 extract system [] = system := rfl

theorem run_append (system : PackageSystem Tree) (first second : List PackageCall) :
    run sha256 extract system (first ++ second) =
      run sha256 extract (run sha256 extract system first) second := by
  simp only [run, List.foldl_append]

/-- One more call is one more step. -/
theorem run_concat (system : PackageSystem Tree) (calls : List PackageCall) (call : PackageCall) :
    run sha256 extract system (calls ++ [call]) =
      step sha256 extract (run sha256 extract system calls) call :=
  run_append system calls [call]

variable (sha256 extract) in
/-- The system a call of the sequence meets. -/
def before (system : PackageSystem Tree) (calls : List PackageCall) (index : Nat) :
    PackageSystem Tree :=
  run sha256 extract system (calls.take index)

variable {system : PackageSystem Tree} {calls : List PackageCall}

theorem before_succ {index : Nat} {call : PackageCall} (present : calls[index]? = some call) :
    before sha256 extract system calls (index + 1) =
      step sha256 extract (before sha256 extract system calls index) call := by
  rw [before, List.take_add_one, present, Option.toList_some, run_concat]
  rfl

theorem before_end {index : Nat} (absent : calls[index]? = none) :
    before sha256 extract system calls (index + 1) = before sha256 extract system calls index := by
  rw [before, List.take_add_one, absent, Option.toList_none, List.append_nil]
  rfl

@[simp] theorem before_zero : before sha256 extract system calls 0 = system := rfl

/-- Every session is as the service sets them up. -/
def Standard (system : PackageSystem Tree) : Prop :=
  ∀ session, (system.sessions session).Standard

theorem start_standard (profiles : Nat → SessionProfile) :
    (start profiles : PackageSystem Tree).Standard :=
  fun _ => RpcPackages.init_standard _ _ _ _

/-- Processing a call keeps the settings of all sessions. -/
theorem Standard.step (standard : system.Standard)
    (call : PackageCall) : (step sha256 extract system call).Standard := by
  intro session
  by_cases own : session = call.session
  · subst own
    have stepped := (standard call.session).confirmation_step
      (RpcPackages.process_step sha256 extract call.verified call.context call.environment
        (system.sessions call.session) call.request system.device)
    rw [step_own]
    exact stepped
  · rw [step_other system own]
    exact standard session

/-- A run keeps a standard system. -/
theorem Standard.run (standard : system.Standard) (calls : List PackageCall) : (run sha256 extract system calls).Standard := by
  induction calls generalizing system with
  | nil => exact standard
  | cons call rest ih => exact ih (standard.step call)

section Demo

/-- A digest of 64 equal characters. -/
def demoDigest (character : UInt8) : CString := .ofBytes (List.replicate 64 character)

/-- A verified archive of the package `demo`. -/
def demoArchive (version digest : CString) (releaseSequence : UInt32) : VerifiedArchive where
  contentType := .literal "application"
  packageId := .literal "demo"
  version := version
  firmwareApi := .literal "1.0"
  entrypoint := .literal "main.js"
  contentSha256 := demoDigest 48
  signingKeyId := .literal "key"
  archiveSha256 := digest
  capabilityMask := 0
  archiveBytes := 4
  releaseSequence := releaseSequence
  capabilities := []
  payloads := []

/-- A request about the first version of `demo`. -/
def demoRequest (operation : PackageOperation) (confirmationToken : List UInt8) :
    PackageOperationRequest where
  operation := operation.toWire
  packageId := .literal "demo"
  version := .literal "1.0.0"
  previousVersion := .literal ""
  manifestPath := .literal "/ext/apps/.staging/demo"
  candidateDigest := demoDigest 49
  previousDigest := .literal ""
  signingKeyId := .literal "key"
  capabilityMask := 0
  releaseSequence := 1
  receivedBytes := 4
  contentBytes := 4
  previousState := 6
  protectedPackage := false
  confirmationRequired := false
  healthy := false
  confirmationToken := confirmationToken

/-- The token that is drawn in the demonstration. -/
def demoToken : List UInt8 := List.replicate 16 1

def demoCall (request : PackageOperationRequest) (verified : Option VerifiedArchive) :
    PackageCall where
  session := 0
  request := request
  verified := verified
  context := some ⟨7, .owner, 1, 0, true⟩
  environment := ⟨true, true, ⟨demoToken, by simp [demoToken, confirmationTokenBytes]⟩,
    fun _ => some []⟩

/-- An extraction whose tree is the digest of the archive it came from. -/
def demoExtract (_ : Option (List UInt8)) (archive : VerifiedArchive) :
    Traced (Option CString) Bool :=
  Traced.effect fun _ => (true, some archive.archiveSha256)

/-- Install the first version of `demo`. -/
def demoInstallation : List PackageCall :=
  let archive := demoArchive (.literal "1.0.0") (demoDigest 49) 1
  [demoCall (demoRequest .importArchive []) (some archive), demoCall (demoRequest .stage []) none,
    demoCall (demoRequest .verify []) (some archive),
    demoCall (demoRequest .activate demoToken) none,
    demoCall { demoRequest .health [] with healthy := true } none]

/-- The profile of the demonstration. -/
def demoProfile (_ : Nat) : SessionProfile := ⟨7, 1, 0, 4096⟩

end Demo

end PackageSystem

end PoisonedOS
