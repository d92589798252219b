import PoisonedOS.Archive.Verified
import PoisonedOS.Packages.Recovery
import PoisonedOS.Rpc.Confirmation

/-!
# Package requests

One request is processed against a session's own confirmation state, the shared
manager and the device's directories. Most operations change the directories
first, then ask the manager, and undo the directories when the manager refuses;
if the manager changed, the state file is saved, and a failed save undoes the
directories again and restores the manager's copy from before the request.

What the outside contributes to one request is an argument: whether allocation
and saving succeed, the random token, the archive files, and how extraction fills
a candidate directory. SHA-256 is a parameter.
-/

namespace PoisonedOS

/-- `PB_Poison_PackageOperation`. -/
inductive PackageOperation where
  | inspect
  | importArchive
  | stage
  | verify
  | activate
  | health
  | disable
  | enable
  | remove
  | rollback
  | quarantine
deriving DecidableEq, Repr

namespace PackageOperation

/-- The operations in the order of their wire numbers. -/
def all : List PackageOperation :=
  [inspect, importArchive, stage, verify, activate, health, disable, enable, remove, rollback,
    quarantine]

/-- The operation with a wire number. -/
def ofWire (number : UInt32) : Option PackageOperation := all[number.toNat]?

/-- The wire number of an operation. -/
def toWire (operation : PackageOperation) : UInt32 := UInt32.ofNat (all.idxOf operation)

@[simp] theorem of_wire_to_wire (operation : PackageOperation) :
    ofWire operation.toWire = some operation := by
  cases operation <;> decide

def confirmed : PackageOperation → Bool
  | activate | enable | remove | rollback => true
  | _ => false

end PackageOperation

/-- `PB_Poison_PackageLifecycleState` on the wire; the numbers are those of
`PoisonPackageState`. -/
def PackageState.ofWire (number : UInt32) : Option PackageState :=
  [installed, staged, verified, active, disabled, quarantined, removed][number.toNat]?

/-- `PB_Poison_PackageOperationRequest`. The two enumerations keep their wire
numbers, which may be outside the enumeration. -/
structure PackageOperationRequest where
  operation : UInt32
  packageId : CString
  version : CString
  previousVersion : CString
  manifestPath : CString
  candidateDigest : CString
  previousDigest : CString
  signingKeyId : CString
  capabilityMask : UInt64
  releaseSequence : UInt32
  receivedBytes : UInt32
  contentBytes : UInt32
  previousState : UInt32
  protectedPackage : Bool
  confirmationRequired : Bool
  healthy : Bool
  confirmationToken : List UInt8
deriving DecidableEq

/-- `PB_Poison_PackageOperationStatus`. -/
structure PackageOperationStatus where
  packageId : CString
  version : CString
  digest : CString
  signingKeyId : CString
  state : PackageState
  capabilityMask : UInt64
  receivedBytes : UInt32
  contentBytes : UInt32
  protectedPackage : Bool
  confirmationRequired : Bool
  confirmationToken : List UInt8
  result : CString
deriving DecidableEq

/-- `RpcPoisonPackages`, without the pointer to the shared manager. -/
structure RpcPackages where
  storageLayout : StorageLayout
  confirmation : Confirmation
  confirmationToken : Token
  confirmationPackageId : CString
  confirmationDigest : CString
  confirmationOperation : UInt32
  confirmationCapabilityMask : UInt64
  confirmationActive : Bool
  storageEnabled : Bool
  persistenceEnabled : Bool
  hardwareTarget : UInt32
  firmwareApiMajor : UInt32
  firmwareApiMinor : UInt32
  availableStorageBytes : UInt64
deriving DecidableEq

/-- The result texts a status can carry. -/
inductive ResultName where
  | invalid
  | outOfMemory
  | inspected
  | notFound
  | manifestRejected
  | imported
  | staged
  | stageRejected
  | verified
  | verificationFailed
  | confirmationRequired
  | activating
  | activationRejected
  | healthy
  | rolledBack
  | healthRejected
  | disabled
  | disableRejected
  | enabled
  | enableRejected
  | removed
  | removeRejected
  | rollbackRejected
  | quarantined
  | quarantineRejected
  | statePersistFailed
deriving DecidableEq, Repr

/-- The text of a result. -/
def ResultName.text : ResultName → CString
  | .invalid => .literal "invalid"
  | .outOfMemory => .literal "out-of-memory"
  | .inspected => .literal "inspected"
  | .notFound => .literal "not-found"
  | .manifestRejected => .literal "manifest-rejected"
  | .imported => .literal "imported"
  | .staged => .literal "staged"
  | .stageRejected => .literal "stage-rejected"
  | .verified => .literal "verified"
  | .verificationFailed => .literal "verification-failed"
  | .confirmationRequired => .literal "confirmation-required"
  | .activating => .literal "activating"
  | .activationRejected => .literal "activation-rejected"
  | .healthy => .literal "healthy"
  | .rolledBack => .literal "rolled-back"
  | .healthRejected => .literal "health-rejected"
  | .disabled => .literal "disabled"
  | .disableRejected => .literal "disable-rejected"
  | .enabled => .literal "enabled"
  | .enableRejected => .literal "enable-rejected"
  | .removed => .literal "removed"
  | .removeRejected => .literal "remove-rejected"
  | .rollbackRejected => .literal "rollback-rejected"
  | .quarantined => .literal "quarantined"
  | .quarantineRejected => .literal "quarantine-rejected"
  | .statePersistFailed => .literal "state-persist-failed"

/-- What the outside contributes to one request. -/
structure Environment where
  allocated : Bool
  saved : Bool
  token : Token
  archives : CString → Option (List UInt8)

/-- The bytes hashed for a confirmation: the domain, then the request's fields in
the order of the source, strings with their terminators. The token is left out. -/
def confirmationPreimage (request : PackageOperationRequest) (domain : CString) : List UInt8 :=
  domain.terminated ++ (bytes32 request.operation ++ (request.packageId.terminated ++
    (request.version.terminated ++ (request.previousVersion.terminated ++
    (request.manifestPath.terminated ++ (request.candidateDigest.terminated ++
    (request.previousDigest.terminated ++ (request.signingKeyId.terminated ++
    (bytes64 request.capabilityMask ++ (bytes32 request.releaseSequence ++
    (bytes32 request.receivedBytes ++ (bytes32 request.contentBytes ++
    (bytes32 request.previousState ++ (bytesBool request.protectedPackage ++
    (bytesBool request.confirmationRequired ++ (bytesBool request.healthy ++ []))))))))))))))))

namespace RpcPackages

section Confirmation

variable (sha256 : List UInt8 → Digest)

def boundDigests (request : PackageOperationRequest) : BoundDigests where
  command := sha256 (confirmationPreimage request (.literal "package.command.v1"))
  target := sha256 (confirmationPreimage request (.literal "package.target.v1"))
  consequence := sha256 (confirmationPreimage request (.literal "package.consequence.v1"))

/-- `rpc_poison_packages_issue_confirmation`. -/
def issueConfirmation (packages : RpcPackages) (request : PackageOperationRequest)
    (context : Option RequestContext) (token : Token) : Bool × RpcPackages :=
  match context with
  | none => (false, packages)
  | some context =>
    if context.sessionId == 0 then (false, packages)
    else
      match Confirmation.issue context.sessionId context.role (boundDigests sha256 request)
          context.policyVersion context.nowMs confirmationMaxTtlMs true token with
      | none => (false, packages)
      | some confirmation =>
        (true, { packages with
          confirmation
          confirmationToken := confirmation.token
          confirmationPackageId := request.packageId
          confirmationDigest := request.candidateDigest
          confirmationOperation := request.operation
          confirmationCapabilityMask := request.capabilityMask
          confirmationActive := true })

/-- `rpc_poison_packages_confirmation_matches`. The probe is a copy, approved as
if the physical confirmation had been given. -/
def confirmationMatches (packages : RpcPackages) (request : PackageOperationRequest)
    (context : Option RequestContext) : Bool :=
  if !packages.confirmationActive || packages.confirmationPackageId != request.packageId ||
      packages.confirmationDigest != request.candidateDigest ||
      packages.confirmationOperation != request.operation ||
      packages.confirmationCapabilityMask != request.capabilityMask ||
      request.confirmationToken.length != confirmationTokenBytes then
    false
  else
    match context with
    | none => false
    | some context =>
      (packages.confirmation.approve context.sessionId context.role (boundDigests sha256 request)
        request.confirmationToken context.policyVersion context.nowMs true).1 == .ok

/-- The session state after a confirmation has been used up. -/
def cleared (packages : RpcPackages) : RpcPackages :=
  { packages with
    confirmationActive := false
    confirmationToken := .zero _
    confirmationPackageId := .literal ""
    confirmationDigest := .literal ""
    confirmationCapabilityMask := 0
    confirmation := .zero }

/-- `rpc_poison_packages_require_confirmation`. -/
def requireConfirmation (packages : RpcPackages) (request : PackageOperationRequest)
    (context : Option RequestContext) (token : Token) : Bool × RpcPackages :=
  if !packages.confirmationMatches sha256 request context then
    (false, (packages.issueConfirmation sha256 request context token).2)
  else
    match context with
    | none => (false, packages)
    | some context =>
      match packages.confirmation.approve context.sessionId context.role
          (boundDigests sha256 request) request.confirmationToken context.policyVersion
          context.nowMs context.physicalConfirmed with
      | (.ok, _) => (true, packages.cleared)
      | (_, confirmation) => (false, { packages with confirmation })

end Confirmation

/-- `rpc_poison_packages_init` and the settings made by
`rpc_system_poison_packages_alloc`: storage under the default layout, persistence
on, nothing to confirm. -/
def init (hardwareTarget firmwareApiMajor firmwareApiMinor : UInt32)
    (availableStorageBytes : UInt64) : RpcPackages where
  storageLayout := .default
  confirmation := .zero
  confirmationToken := .zero _
  confirmationPackageId := .literal ""
  confirmationDigest := .literal ""
  confirmationOperation := 0
  confirmationCapabilityMask := 0
  confirmationActive := false
  storageEnabled := true
  persistenceEnabled := true
  hardwareTarget := hardwareTarget
  firmwareApiMajor := firmwareApiMajor
  firmwareApiMinor := firmwareApiMinor
  availableStorageBytes := availableStorageBytes

/-- `rpc_poison_packages_fill_status`. -/
def fillStatus (packages : RpcPackages) (manager : PackageManager) (packageId : CString)
    (result : ResultName) : PackageOperationStatus :=
  let record := manager.find packageId
  let confirming :=
    packages.confirmationActive && packages.confirmationPackageId == packageId
  { packageId := (record.map (·.packageId)).getD (.literal "")
    version := (record.map (·.version)).getD (.literal "")
    digest := (record.map (·.digest)).getD (.literal "")
    signingKeyId := (record.map (·.signingKeyId)).getD (.literal "")
    state := (record.map (·.transaction.state)).getD .installed
    capabilityMask := (record.map (·.capabilityMask)).getD 0
    receivedBytes := (record.map (·.transaction.contentUpdate.receivedBytes)).getD 0
    contentBytes := (record.map (·.transaction.contentUpdate.contentBytes)).getD 0
    protectedPackage := (record.map (·.transaction.protectedPackage)).getD false
    confirmationRequired := confirming
    confirmationToken := if confirming then packages.confirmationToken.bytes else []
    result := result.text }

end RpcPackages

/-- What the operation's branch decides before the manager is saved. -/
structure OperationOutcome where
  result : Bool
  name : ResultName
  packages : RpcPackages

/-- What processing a request returns: its result, the status it fills, if any,
and the session's state afterwards. -/
structure ProcessOutcome where
  result : Bool
  status : Option PackageOperationStatus
  packages : RpcPackages

/-- `poison_package_storage_stage` for the verified archive's own package. -/
def PackageStorage.stage {Tree : Type} (layout : StorageLayout) (packageId : CString)
    (extraction : Traced (Option Tree) Bool) : Traced (Directories Tree) Bool :=
  withPaths layout packageId [.candidate]
    (Traced.focus Directories.candidate
      (fun candidate directories => { directories with candidate }) extraction)

/-- The capabilities whose packages need a confirmed activation. -/
def confirmedCapabilities : UInt64 :=
  (1 : UInt64) <<< (5 : UInt64) ||| (1 : UInt64) <<< (6 : UInt64) ||| (1 : UInt64) <<< (7 : UInt64)

/-- The packages that cannot be removed. -/
def protectedPackageId (packageId : CString) : Bool :=
  packageId == .literal "org.poisonedos.recovery" ||
    packageId.startsWith (.literal "org.poisonedos.core.")

namespace RpcPackages

variable {Tree : Type} (sha256 : List UInt8 → Digest)
  (extract : Option (List UInt8) → VerifiedArchive → Traced (Option Tree) Bool)
  (packages : RpcPackages) (request : PackageOperationRequest)
  (verified : Option VerifiedArchive) (context : Option RequestContext)
  (environment : Environment)

/-- A storage function on the request's package, when storage is enabled. -/
def onStorage (program : StorageLayout → CString → Traced (Directories Tree) Bool) :
    Traced (Device Tree) Bool :=
  if packages.storageEnabled then
    Device.storage request.packageId (program packages.storageLayout request.packageId)
  else pure true

def named (success failure : ResultName) (result : Bool) : OperationOutcome :=
  ⟨result, if result then success else failure, packages⟩

def importOf (verified : VerifiedArchive) (previousState : PackageState) : PackageImport where
  contentType := verified.contentType
  packageId := request.packageId
  version := verified.version
  previousVersion := request.previousVersion
  candidateDigest := verified.archiveSha256
  previousDigest := request.previousDigest
  signingKeyId := verified.signingKeyId
  manifestPath := request.manifestPath
  entrypoint := verified.entrypoint
  capabilityMask := verified.capabilityMask
  releaseSequence := verified.releaseSequence
  contentBytes := verified.archiveBytes
  hardwareTarget := packages.hardwareTarget
  firmwareApi := packages.firmwareApiMajor
  availableStorageBytes := packages.availableStorageBytes
  previousState
  protectedPackage := protectedPackageId verified.packageId
  confirmationRequired := verified.capabilityMask &&& confirmedCapabilities != 0
  manifestVerified := true

/-- The `INSPECT` case. -/
def processInspect : Traced (Device Tree) OperationOutcome := do
  let result ← Traced.observe fun device => (device.manager.find request.packageId).isSome
  return packages.named .inspected .notFound result

/-- The `IMPORT` case. -/
def processImport : Traced (Device Tree) OperationOutcome :=
  match verified with
  | none => pure ⟨false, .manifestRejected, packages⟩
  | some archive =>
    if (packageContentTypeParse archive.contentType).isNone ||
        archive.packageId != request.packageId ||
        archive.archiveSha256 != request.candidateDigest then
      pure ⟨false, .manifestRejected, packages⟩
    else
      match PackageState.ofWire request.previousState with
      | none => pure ⟨false, .invalid, packages⟩
      | some previousState => do
        let result ← Device.managed fun manager =>
          manager.importPackage (packages.importOf request archive previousState)
        return packages.named .imported .manifestRejected result

/-- The `STAGE` case. -/
def processStage : Traced (Device Tree) OperationOutcome := do
  let result ← Device.managed fun manager =>
    manager.receive request.packageId request.receivedBytes
  return packages.named .staged .stageRejected result

/-- The extraction of the `VERIFY` case: from the path the record names, into the
candidate directory of the package the archive names. -/
def extractCandidate : Traced (Device Tree) Bool :=
  match verified with
  | none => pure false
  | some archive =>
    if packages.storageEnabled then do
      match ← Traced.observe fun device => device.manager.find request.packageId with
      | none => pure false
      | some record =>
        Device.storage archive.packageId
          (PackageStorage.stage packages.storageLayout archive.packageId
            (extract (environment.archives record.manifestPath) archive))
    else pure true

/-- The `VERIFY` case. A success issues the confirmation for activating with the
same fields. -/
def processVerify : Traced (Device Tree) OperationOutcome := do
  let extracted ← packages.extractCandidate extract request verified environment
  let result ← Device.managed fun manager =>
    manager.verify request.packageId request.candidateDigest extracted
  let _ ← Traced.onlyIf (!result && packages.storageEnabled && verified.isSome)
    (packages.onStorage request PackageStorage.quarantine) true
  let (issued, packages) :=
    if result then
      packages.issueConfirmation sha256
        { request with operation := PackageOperation.activate.toWire } context environment.token
    else (false, packages)
  return packages.named .verified .verificationFailed issued

/-- The `ACTIVATE` case after its confirmation. -/
def processActivate : Traced (Device Tree) OperationOutcome := do
  let stored ← packages.onStorage request PackageStorage.activate
  let result ← Traced.onlyIf stored
    (Device.managed fun manager => manager.activate request.packageId true) false
  let _ ← Traced.onlyIf (stored && !result && packages.storageEnabled)
    (packages.onStorage request fun layout packageId =>
      PackageStorage.reportHealth layout packageId false) true
  return packages.named .activating .activationRejected result

/-- The `HEALTH` case. Nothing undoes the directories when the manager refuses. -/
def processHealth : Traced (Device Tree) OperationOutcome := do
  let stored ← packages.onStorage request fun layout packageId =>
    PackageStorage.reportHealth layout packageId request.healthy
  let result ← Traced.onlyIf stored
    (Device.managed fun manager => manager.reportHealth request.packageId request.healthy) false
  return packages.named (if request.healthy then .healthy else .rolledBack) .healthRejected result

/-- The `DISABLE` case. -/
def processDisable : Traced (Device Tree) OperationOutcome := do
  let result ← Device.managed fun manager => manager.setEnabled request.packageId false false
  return packages.named .disabled .disableRejected result

/-- The `ENABLE` case after its confirmation. -/
def processEnable : Traced (Device Tree) OperationOutcome := do
  let result ← Device.managed fun manager => manager.setEnabled request.packageId true true
  return packages.named .enabled .enableRejected result

/-- The `REMOVE` case after its confirmation. -/
def processRemove : Traced (Device Tree) OperationOutcome := do
  let stored ← packages.onStorage request PackageStorage.remove
  let result ← Traced.onlyIf stored
    (Device.managed fun manager => manager.remove request.packageId true) false
  let _ ← Traced.onlyIf (stored && !result && packages.storageEnabled)
    (packages.onStorage request PackageStorage.restoreRemoved) true
  return packages.named .removed .removeRejected result

/-- The `ROLLBACK` case after its confirmation. -/
def processRollback : Traced (Device Tree) OperationOutcome := do
  let stored ← packages.onStorage request PackageStorage.rollback
  let result ← Traced.onlyIf stored
    (Device.managed fun manager => manager.rollback request.packageId true) false
  let _ ← Traced.onlyIf (stored && !result && packages.storageEnabled)
    (packages.onStorage request PackageStorage.rollback) true
  return packages.named .rolledBack .rollbackRejected result

/-- The `QUARANTINE` case. -/
def processQuarantine : Traced (Device Tree) OperationOutcome := do
  let found ← Traced.observe fun device => (device.manager.find request.packageId).isSome
  let stored ← Traced.onlyIf found (packages.onStorage request PackageStorage.quarantine) false
  let result ← Traced.onlyIf stored
    (Device.managed fun manager => manager.quarantine request.packageId) false
  return packages.named .quarantined .quarantineRejected result

def whenConfirmed (operation : RpcPackages → Traced (Device Tree) OperationOutcome) :
    Traced (Device Tree) OperationOutcome :=
  match packages.requireConfirmation sha256 request context environment.token with
  | (false, packages) => pure ⟨false, .confirmationRequired, packages⟩
  | (true, packages) => operation packages

/-- The switch of `rpc_poison_packages_process`. -/
def operate : Traced (Device Tree) OperationOutcome :=
  match PackageOperation.ofWire request.operation with
  | none => pure ⟨false, .invalid, packages⟩
  | some .inspect => packages.processInspect request
  | some .importArchive => packages.processImport request verified
  | some .stage => packages.processStage request
  | some .verify => packages.processVerify sha256 extract request verified context environment
  | some .activate =>
    packages.whenConfirmed sha256 request context environment (·.processActivate request)
  | some .health => packages.processHealth request
  | some .disable => packages.processDisable request
  | some .enable =>
    packages.whenConfirmed sha256 request context environment (·.processEnable request)
  | some .remove =>
    packages.whenConfirmed sha256 request context environment (·.processRemove request)
  | some .rollback =>
    packages.whenConfirmed sha256 request context environment (·.processRollback request)
  | some .quarantine => packages.processQuarantine request

/-- Undo the directories of a successful operation whose state could not be
saved. `previous` is the manager from before the request. -/
def undo (previous : PackageManager) : Traced (Device Tree) Bool :=
  match PackageOperation.ofWire request.operation with
  | some .verify => packages.onStorage request PackageStorage.quarantine
  | some .activate => packages.onStorage request fun layout packageId =>
      PackageStorage.reportHealth layout packageId false
  | some .health =>
    if request.healthy then pure true
    else packages.onStorage request PackageStorage.revertHealthRollback
  | some .remove => packages.onStorage request PackageStorage.restoreRemoved
  | some .rollback => packages.onStorage request PackageStorage.rollback
  | some .quarantine =>
    let candidate := (previous.find request.packageId).any fun prior =>
      prior.transaction.state == .staged || prior.transaction.state == .verified
    packages.onStorage request fun layout packageId =>
      PackageStorage.restoreQuarantine layout packageId candidate
  | _ => pure true

/-- Save the manager if the operation changed it. The result is false only for a
save that was needed and failed. -/
def saveChanged (previous : PackageManager) (outcome : OperationOutcome) :
    Traced (Device Tree) Bool := do
  let generation ← Traced.observe fun device => device.manager.generation
  Traced.onlyIf (outcome.packages.persistenceEnabled && previous.generation != generation &&
    request.operation != PackageOperation.inspect.toWire) (Device.saveState environment.saved) true

/-- After a failed save, undo the directories of a successful operation and
restore the manager. -/
def restorePrevious (previous : PackageManager) (outcome : OperationOutcome) :
    Traced (Device Tree) Bool := do
  let _ ← Traced.onlyIf (outcome.result && outcome.packages.storageEnabled)
    (outcome.packages.undo request previous) true
  Traced.silent fun device => (true, { device with manager := previous })

/-- The end of `rpc_poison_packages_process`: save a changed manager, or undo. -/
def commit (previous : PackageManager) (outcome : OperationOutcome) :
    Traced (Device Tree) ProcessOutcome := do
  let saved ← saveChanged request environment previous outcome
  let _ ← Traced.onlyIf (!saved) (restorePrevious request previous outcome) true
  let manager ← Traced.observe fun device => device.manager
  return ⟨saved && outcome.result,
    some (outcome.packages.fillStatus manager request.packageId
      (if saved then outcome.name else .statePersistFailed)), outcome.packages⟩

/-- `rpc_poison_packages_process`. -/
def process : Traced (Device Tree) ProcessOutcome :=
  if request.packageId.isEmpty then pure ⟨false, none, packages⟩
  else do
    let previous ← Traced.observe fun device => device.manager
    if packages.persistenceEnabled && !environment.allocated then
      return ⟨false, some (packages.fillStatus previous request.packageId .outOfMemory), packages⟩
    else do
      let outcome ← packages.operate sha256 extract request verified context environment
      commit request environment previous outcome

/-- A request is refused before its operation when it names no package or the
manager cannot be copied; otherwise its operation runs and is committed. -/
theorem process_run (device : Device Tree) :
    (request.packageId.isEmpty = true ∧
      packages.process sha256 extract request verified context environment device =
        ⟨⟨false, none, packages⟩, device, []⟩) ∨
    ((packages.persistenceEnabled && !environment.allocated) = true ∧
      packages.process sha256 extract request verified context environment device =
        ⟨⟨false, some (packages.fillStatus device.manager request.packageId .outOfMemory),
          packages⟩, device, []⟩) ∨
    (request.packageId.isEmpty = false ∧
      (packages.persistenceEnabled && !environment.allocated) = false ∧
      let operated := packages.operate sha256 extract request verified context environment device
      let committed := commit request environment device.manager operated.value operated.final
      packages.process sha256 extract request verified context environment device =
        ⟨committed.value, committed.final, operated.images ++ committed.images⟩) := by
  unfold process
  split
  · rename_i isEmpty
    exact .inl ⟨isEmpty, rfl⟩
  rename_i named
  refine .inr ?_
  simp only [Traced.bind_run, Traced.observe_run, List.nil_append]
  split
  · rename_i exhausted
    exact .inl ⟨exhausted, rfl⟩
  · rename_i copied
    exact .inr ⟨by simpa using named, by simpa using copied, rfl⟩

end RpcPackages

end PoisonedOS
