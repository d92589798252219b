import PoisonedOS.Rpc.Refinement

/-!
# The cell step of every request

Each operation is given as a motion or a verification of its package's cell, and
processing the request is shown to simulate it. A request that changes nothing
and an accepted import are described directly: an import is the only request
that writes a record from nothing and the only one that can touch the record of
another package.
-/

namespace PoisonedOS

open PackageOperation (inspect ofWire of_wire_to_wire)
open Traced (Simulates bind_run onlyIf pure_run reading reading_run silent_run)

/-- An operation other than verification counts a generation exactly when it is
accepted. -/
theorem RecordOperation.counted_eq_result {operation : RecordOperation}
    (other : ∀ digest payloadVerified, operation ≠ .verify digest payloadVerified)
    (record : PackageRecord) :
    (operation.apply record).counted = (operation.apply record).result := by
  cases operation with
  | receive bytes => rfl
  | verify digest payloadVerified => exact absurd rfl (other digest payloadVerified)
  | activate exactConfirmation =>
    simp only [RecordOperation.apply, PackageRecord.activate]
    split <;> rfl
  | reportHealth healthy =>
    simp only [RecordOperation.apply, PackageRecord.reportHealth]
    split
    · rfl
    · split <;> rfl
  | setEnabled enabled exactConfirmation =>
    simp only [RecordOperation.apply, PackageRecord.setEnabled]
    split <;> rfl
  | remove exactConfirmation =>
    simp only [RecordOperation.apply, PackageRecord.remove]
    split <;> rfl
  | rollback exactConfirmation =>
    simp only [RecordOperation.apply, PackageRecord.rollback]
    split
    · rfl
    · split <;> rfl
  | quarantine =>
    simp only [RecordOperation.apply, PackageRecord.quarantine]
    split <;> rfl

namespace PackageOperationRequest

variable {Tree : Type}

/-- Whether a failed save puts a quarantined tree back as the candidate. -/
def quarantinesCandidate (prior : Option PackageRecord) : Bool :=
  prior.any fun record => record.transaction.state == .staged || record.transaction.state == .verified

def motion (request : PackageOperationRequest) (prior : Option PackageRecord) :
    PackageOperation → Option (Motion Tree)
  | .stage => some (.recordOnly (.receive request.receivedBytes))
  | .activate => some
      { move := PackageStorage.activate .default request.packageId
        operation := .activate true
        revert := PackageStorage.reportHealth .default request.packageId false
        undo := PackageStorage.reportHealth .default request.packageId false }
  | .health => some
      { move := PackageStorage.reportHealth .default request.packageId request.healthy
        operation := .reportHealth request.healthy
        revert := pure true
        undo := if request.healthy then pure true
          else PackageStorage.revertHealthRollback .default request.packageId }
  | .disable => some (.recordOnly (.setEnabled false false))
  | .enable => some (.recordOnly (.setEnabled true true))
  | .remove => some
      { move := PackageStorage.remove .default request.packageId
        operation := .remove true
        revert := PackageStorage.restoreRemoved .default request.packageId
        undo := PackageStorage.restoreRemoved .default request.packageId }
  | .rollback => some
      { move := PackageStorage.rollback .default request.packageId
        operation := .rollback true
        revert := PackageStorage.rollback .default request.packageId
        undo := PackageStorage.rollback .default request.packageId }
  | .quarantine => some
      { move := if prior.isSome then PackageStorage.quarantine .default request.packageId
          else pure false
        operation := .quarantine
        revert := pure true
        undo := PackageStorage.restoreQuarantine .default request.packageId
          (quarantinesCandidate prior) }
  | .inspect | .importArchive | .verify => none

/-- No motion verifies. -/
theorem motion_not_verify {request : PackageOperationRequest} {prior : Option PackageRecord}
    {operation : PackageOperation} {motion : Motion Tree}
    (isMotion : request.motion prior operation = some motion) (digest : CString)
    (payloadVerified : Bool) : motion.operation ≠ .verify digest payloadVerified := by
  intro isVerify
  cases operation <;> simp only [PackageOperationRequest.motion, Option.some.injEq, reduceCtorEq]
    at isMotion <;> subst isMotion <;> cases isVerify

/-- A motion counts a generation exactly when it is accepted. -/
theorem motion_counts {request : PackageOperationRequest} {prior : Option PackageRecord}
    {operation : PackageOperation} {motion : Motion Tree}
    (isMotion : request.motion prior operation = some motion) (record : PackageRecord) :
    (motion.operation.apply record).counted = (motion.operation.apply record).result :=
  RecordOperation.counted_eq_result (motion_not_verify isMotion) record

end PackageOperationRequest

namespace RpcPackages

variable {Tree : Type} {sha256 : List UInt8 → Digest}
  {extract : Option (List UInt8) → VerifiedArchive → Traced (Option Tree) Bool}
  {packages : RpcPackages} {request : PackageOperationRequest}
  {verified : Option VerifiedArchive} {context : Option RequestContext}
  {environment : Environment}

/-- The confirmation a request needs has been given. -/
def authorized (sha256 : List UInt8 → Digest) (packages : RpcPackages)
    (request : PackageOperationRequest) (context : Option RequestContext) (token : Token)
    (operation : PackageOperation) : Bool :=
  !operation.confirmed || (packages.requireConfirmation sha256 request context token).1

/-- With the confirmation given, the operation runs in a standard session. -/
theorem when_confirmed_authorized (standard : packages.Standard)
    (given : (packages.requireConfirmation sha256 request context environment.token).1 = true)
    (operation : RpcPackages → Traced (Device Tree) OperationOutcome) :
    ∃ after : RpcPackages, after.Standard ∧
      packages.whenConfirmed sha256 request context environment operation = operation after := by
  rcases require_confirmation_cases packages request context environment.token with
    unchanged | ⟨after, issuance, refused⟩ | ⟨matched, used, isUsed, approved, granted⟩
  · rw [unchanged] at given
    cases given
  · rw [refused] at given
    cases given
  · refine ⟨packages.cleared, ⟨standard.storage, standard.persistence, standard.layout⟩, ?_⟩
    rw [whenConfirmed, granted]

/-- Without it, the operation changes nothing but the session's confirmation. -/
theorem when_confirmed_refused
    (refused : (packages.requireConfirmation sha256 request context environment.token).1 = false)
    (operation : RpcPackages → Traced (Device Tree) OperationOutcome) :
    ∃ after : RpcPackages,
      packages.whenConfirmed sha256 request context environment operation =
        pure ⟨false, .confirmationRequired, after⟩ := by
  cases outcome : packages.requireConfirmation sha256 request context environment.token with
  | mk result after =>
    rw [outcome] at refused
    cases refused
    exact ⟨after, by rw [whenConfirmed, outcome]⟩

variable {operation : PackageOperation}

variable (extract verified) in
/-- The operation's part of a request is the attempt of its motion. -/
theorem operate_motion (standard : packages.Standard)
    (decoded : ofWire request.operation = some operation) (device : Device Tree)
    {motion : Motion Tree}
    (isMotion : request.motion (device.manager.find request.packageId) operation = some motion)
    (given : packages.authorized sha256 request context environment.token operation = true) :
    reading OperationOutcome.result
      (packages.operate sha256 extract request verified context environment) device =
        Device.attempt request.packageId motion device := by
  unfold authorized at given
  cases operation <;>
    simp only [PackageOperationRequest.motion, Option.some.injEq, reduceCtorEq] at isMotion <;>
    subst isMotion
  case stage =>
    simp [operate, decoded, processStage, Device.attempt_record_only, Device.managed,
      PackageManager.receive, named]
  case disable =>
    simp [operate, decoded, processDisable, Device.attempt_record_only, Device.managed,
      PackageManager.setEnabled, named]
  case enable =>
    obtain ⟨after, standardAfter, runs⟩ := when_confirmed_authorized standard given
      fun after => (after.processEnable request : Traced (Device Tree) OperationOutcome)
    simp only [operate, decoded, runs]
    simp [processEnable, Device.attempt_record_only, Device.managed, PackageManager.setEnabled,
      named]
  case activate =>
    obtain ⟨after, standardAfter, runs⟩ := when_confirmed_authorized standard given
      fun after => (after.processActivate request : Traced (Device Tree) OperationOutcome)
    simp only [operate, decoded, runs]
    simp [processActivate, onStorage, standardAfter.storage, standardAfter.layout, Device.attempt,
      PackageManager.activate, named]
  case health =>
    simp [operate, decoded, processHealth, onStorage, standard.storage, standard.layout,
      Device.attempt, PackageManager.reportHealth, named]
  case remove =>
    obtain ⟨after, standardAfter, runs⟩ := when_confirmed_authorized standard given
      fun after => (after.processRemove request : Traced (Device Tree) OperationOutcome)
    simp only [operate, decoded, runs]
    simp [processRemove, onStorage, standardAfter.storage, standardAfter.layout, Device.attempt,
      PackageManager.remove, named]
  case rollback =>
    obtain ⟨after, standardAfter, runs⟩ := when_confirmed_authorized standard given
      fun after => (after.processRollback request : Traced (Device Tree) OperationOutcome)
    simp only [operate, decoded, runs]
    simp [processRollback, onStorage, standardAfter.storage, standardAfter.layout, Device.attempt,
      PackageManager.rollback, named]
  case quarantine =>
    simp only [operate, decoded]
    cases found : (device.manager.find request.packageId).isSome with
    | false =>
      simp [processQuarantine, found, Device.attempt, named]
    | true =>
      simp [processQuarantine, found, onStorage, standard.storage, standard.layout, Device.attempt,
        PackageManager.quarantine, named]

/-- Undoing a motion's request undoes the motion. -/
theorem simulates_undo (standard : packages.Standard)
    (decoded : ofWire request.operation = some operation)
    (previous : PackageManager) {motion : Motion Tree}
    (isMotion : request.motion (previous.find request.packageId) operation = some motion)
    (device : Device Tree) :
    Device.Simulates request.packageId device (packages.undo request previous)
      (PackageCell.storage motion.undo) := by
  have onDirectories : ∀ program : StorageLayout → CString → Traced (Directories Tree) Bool,
      Device.Simulates request.packageId device (packages.onStorage request program)
        (PackageCell.storage (program .default request.packageId)) := by
    intro program
    rw [onStorage, if_pos standard.storage, standard.layout]
    exact Device.simulates_storage _ _ device
  have nothing : Device.Simulates request.packageId device (pure true)
      (PackageCell.storage (pure true)) :=
    Simulates.done (Device.Frame.refl _) true
  unfold undo
  rw [decoded]
  cases operation <;>
    simp only [PackageOperationRequest.motion, Option.some.injEq, reduceCtorEq] at isMotion <;>
    subst isMotion
  case stage => exact nothing
  case disable => exact nothing
  case enable => exact nothing
  case activate => exact onDirectories _
  case health =>
    cases healthy : request.healthy with
    | true => simpa only [healthy, if_true] using nothing
    | false => simpa only [healthy, Bool.false_eq_true, if_false] using onDirectories _
  case remove => exact onDirectories _
  case rollback => exact onDirectories _
  case quarantine => exact onDirectories _

/-- An operation that is not an inspection has another wire number. -/
theorem wire_ne_inspect (other : operation ≠ .inspect)
    (decoded : ofWire request.operation = some operation) :
    request.operation ≠ inspect.toWire := by
  intro same
  rw [same, of_wire_to_wire] at decoded
  exact other (Option.some.inj decoded).symm

variable (extract verified) in
/-- Processing a request whose operation is a motion simulates the motion. The
manager to be saved is the one its attempt leaves. -/
theorem simulates_attempted_motion (standard : packages.Standard)
    (decoded : ofWire request.operation = some operation)
    (named : request.packageId.isEmpty = false) (allocated : environment.allocated = true)
    (device : Device Tree) {motion : Motion Tree}
    (isMotion : request.motion (device.manager.find request.packageId) operation = some motion)
    (given : packages.authorized sha256 request context environment.token operation = true) :
    Device.Simulates request.packageId device
      (processed sha256 extract packages request verified context environment)
      (motion.run ((Device.attempt request.packageId motion device).final.manager.persistedValid &&
        environment.saved)) := by
  have operated := operate_motion extract verified standard decoded device isMotion given
  have attempts := Device.simulates_attempt request.packageId motion device
  have operating : Device.Simulates request.packageId device
      (reading OperationOutcome.result
        (packages.operate sha256 extract request verified context environment)) motion.attempt :=
    attempts.congr operated rfl
  have sameValue : (packages.operate sha256 extract request verified context environment
      device).value.result = (Device.attempt request.packageId motion device).value :=
    congrArg Run.value operated
  have sameFinal : (packages.operate sha256 extract request verified context environment
      device).final = (Device.attempt request.packageId motion device).final :=
    congrArg Run.final operated
  have standardAfter := standard.confirmation_step
    (operate_step sha256 extract verified context environment packages request device)
  have other : operation ≠ .inspect := by
    rintro rfl
    cases isMotion
  have committing := simulates_commit request environment
    (Device.attempt request.packageId motion device).final standardAfter
    (Device.attempt_generation (PackageOperationRequest.motion_counts isMotion) device)
    (fun _ => wire_ne_inspect other decoded)
    (fun other apart => (attempts.finalFramed.record other apart).symm)
    (simulates_undo standardAfter decoded device.manager isMotion)
  have whole := simulates_process sha256 extract packages verified context named allocated
    (fun result => PackageCell.settle (device.manager.find request.packageId) result
      ((Device.attempt request.packageId motion device).final.manager.persistedValid &&
        environment.saved) result (PackageCell.storage motion.undo))
    operating (by
      intro operated
      rw [sameFinal, sameValue]
      rw [sameValue] at committing
      exact committing)
  exact whole.congr rfl rfl

variable (environment) in
/-- The manager an operation leaves can be saved, and storage permits it. -/
def saves (device : Device Tree) (packageId : CString) (operation : RecordOperation) : Bool :=
  (device.manager.onRecord packageId operation.apply).2.persistedValid && environment.saved

variable (extract verified) in
/-- Processing a request whose operation is a motion simulates the motion; the
save succeeds when the changed manager is valid and storage permits it. -/
theorem simulates_motion (standard : packages.Standard)
    (decoded : ofWire request.operation = some operation)
    (named : request.packageId.isEmpty = false) (allocated : environment.allocated = true)
    (device : Device Tree) {motion : Motion Tree}
    (isMotion : request.motion (device.manager.find request.packageId) operation = some motion)
    (given : packages.authorized sha256 request context environment.token operation = true) :
    Device.Simulates request.packageId device
      (processed sha256 extract packages request verified context environment)
      (motion.run (saves environment device request.packageId motion.operation)) := by
  have simulated := simulates_attempted_motion extract verified standard decoded named allocated
    device isMotion given
  refine simulated.congr rfl ?_
  cases moved : (motion.move (device.directories request.packageId)).value with
  | false => rw [motion.run_unmoved _ _ moved, motion.run_unmoved _ _ moved]
  | true =>
    have ran : (Device.storage request.packageId motion.move device).value = true := moved
    have same : (Device.attempt request.packageId motion device).final.manager =
        (device.manager.onRecord request.packageId motion.operation.apply).2 := by
      simp [Device.attempt, ran]
    rw [saves, same]

def verification (sha256 : List UInt8 → Digest)
    (extract : Option (List UInt8) → VerifiedArchive → Traced (Option Tree) Bool)
    (packages : RpcPackages) (request : PackageOperationRequest)
    (verified : Option VerifiedArchive) (context : Option RequestContext)
    (environment : Environment) : Verification Tree where
  digest := request.candidateDigest
  extraction := verified.map fun archive record =>
    PackageStorage.stage .default request.packageId
      (extract (environment.archives record.manifestPath) archive)
  quarantine := PackageStorage.quarantine .default request.packageId
  issued := (packages.issueConfirmation sha256
    { request with operation := PackageOperation.activate.toWire } context environment.token).1

variable (extract packages request verified environment) in
/-- Extraction does not touch the manager. -/
theorem extract_candidate_manager (device : Device Tree) :
    (packages.extractCandidate extract request verified environment device).final.manager =
      device.manager := by
  unfold extractCandidate
  cases verified with
  | none => rfl
  | some archive =>
    cases storage : packages.storageEnabled with
    | false => simp
    | true =>
      cases found : device.manager.find request.packageId with
      | none => simp [found]
      | some record => simp [found]

section Verify

variable (standard : packages.Standard)
  (own : ∀ archive, verified = some archive → archive.packageId = request.packageId)
include standard own

variable (sha256 extract context environment) in
theorem simulates_extract (device : Device Tree) :
    Device.Simulates request.packageId device
      (packages.extractCandidate extract request verified environment)
      ((verification sha256 extract packages request verified context environment).extract
        (device.manager.find request.packageId)) := by
  have nothing : Device.Simulates request.packageId device (pure false) (pure false) :=
    Simulates.done (Device.Frame.refl _) false
  cases isVerified : verified with
  | none => exact nothing
  | some archive =>
    have sameId := own archive isVerified
    cases found : device.manager.find request.packageId with
    | none =>
      refine nothing.congr ?_ rfl
      simp [extractCandidate, standard.storage, found]
    | some record =>
      refine (Device.simulates_storage request.packageId (PackageStorage.stage .default
        request.packageId (extract (environment.archives record.manifestPath) archive))
          device).congr ?_ rfl
      simp [extractCandidate, standard.storage, standard.layout, found, sameId]

variable (sha256 extract context environment) in
/-- The operation's part of a verification simulates its attempt, and counts a
generation whenever it finds a record. -/
theorem simulates_verify (decoded : ofWire request.operation = some .verify)
    (device : Device Tree) :
    let model := verification sha256 extract packages request verified context environment
    let operated := packages.operate sha256 extract request verified context environment device
    Device.Simulates request.packageId device
      (reading OperationOutcome.result
        (packages.operate sha256 extract request verified context environment))
      (do
        let result ← model.attempt (device.manager.find request.packageId)
        return result && model.issued) ∧
    (device.manager.generation != operated.final.manager.generation) =
      (device.manager.find request.packageId).isSome := by
  intro model operated
  let attempting : Traced (Device Tree) Bool := do
    let extracted ← packages.extractCandidate extract request verified environment
    let result ← Device.managed fun manager =>
      manager.verify request.packageId request.candidateDigest extracted
    let _ ← onlyIf (!result && model.extraction.isSome)
      (Device.storage request.packageId (PackageStorage.quarantine .default request.packageId)) true
    return result && model.issued
  have sameRun : reading OperationOutcome.result
      (packages.operate sha256 extract request verified context environment) device =
        attempting device := by
    simp only [operate, decoded, reading_run, processVerify, attempting, onStorage,
      standard.storage, standard.layout, bind_run, pure_run, if_true, Bool.and_true,
      model, verification, Option.isSome_map, Run.mk.injEq, and_true, named]
    split <;> simp_all
  have extracts := simulates_extract sha256 extract context environment standard own device
  have attempts : Device.Simulates request.packageId device attempting (do
      let result ← model.attempt (device.manager.find request.packageId)
      return result && model.issued) := by
    have plain : Device.Simulates request.packageId device attempting (do
        let extracted ← model.extract (device.manager.find request.packageId)
        let result ← PackageCell.managed (.verify model.digest extracted)
        let _ ← onlyIf (!result && model.extraction.isSome)
          (PackageCell.storage model.quarantine) true
        return result && model.issued) := by
      refine Simulates.andThen Device.Frame.trans extracts ?_
      refine Simulates.andThen Device.Frame.trans
        (Device.simulates_managed request.packageId _ _) ?_
      refine Simulates.andThen Device.Frame.trans
        (.onlyIf (Device.Frame.refl _) _ true fun _ =>
          Device.simulates_storage request.packageId _ _) ?_
      exact .done (Device.Frame.refl _) _
    refine plain.congr rfl ?_
    simp [Verification.attempt]
  refine ⟨attempts.congr sameRun rfl, ?_⟩
  have sameFinal : operated.final = (attempting device).final := congrArg Run.final sameRun
  have finalManager : operated.final.manager = (device.manager.verify request.packageId
      request.candidateDigest
        (packages.extractCandidate extract request verified environment device).value).2 := by
    rw [sameFinal]
    simp only [attempting, bind_run, pure_run, Device.only_if_storage_manager,
      Device.managed_manager, extract_candidate_manager]
  rw [finalManager, PackageManager.verify, PackageManager.on_record_generation]
  have counts : ∀ digest payloadVerified record,
      ((RecordOperation.verify digest payloadVerified).apply record).counted = true := by
    intro digest payloadVerified record
    cases payloadVerified <;> rfl
  cases found : device.manager.find request.packageId with
  | none => simp
  | some record => simp [counts]

variable (sha256 extract context) in
/-- Processing a verification simulates the verification of the cell. -/
theorem simulates_verification
    (decoded : ofWire request.operation = some .verify)
    (named : request.packageId.isEmpty = false) (allocated : environment.allocated = true)
    (device : Device Tree) :
    let operated := packages.operate sha256 extract request verified context environment device
    Device.Simulates request.packageId device
      (processed sha256 extract packages request verified context environment)
      ((verification sha256 extract packages request verified context environment).run
        (operated.final.manager.persistedValid && environment.saved)) := by
  intro operated
  let model := verification sha256 extract packages request verified context environment
  obtain ⟨operating, generation⟩ :=
    simulates_verify sha256 extract context environment standard own decoded device
  have standardAfter : operated.value.packages.Standard := standard.confirmation_step
    (operate_step sha256 extract verified context environment packages request device)
  have undone : ∀ later : Device Tree, Device.Simulates request.packageId later
      (operated.value.packages.undo request device.manager)
      (PackageCell.storage model.quarantine) := by
    intro later
    simp only [undo, decoded, onStorage, standardAfter.storage, standardAfter.layout, if_true]
    exact Device.simulates_storage _ _ later
  have committing := simulates_commit request environment operated.final standardAfter generation
    (fun _ => wire_ne_inspect (by decide) decoded)
    (fun other apart => (operating.finalFramed.record other apart).symm) undone
  have whole := simulates_process sha256 extract packages verified context named allocated
    (fun result => PackageCell.settle (device.manager.find request.packageId)
      (device.manager.find request.packageId).isSome
      (operated.final.manager.persistedValid && environment.saved) result
      (PackageCell.storage model.quarantine))
    operating committing
  refine whole.congr rfl ?_
  simp [Verification.run, Device.cell, model]

end Verify

/-- A request that names no package or cannot be undone is refused at once. -/
theorem processed_refused (refused : request.packageId.isEmpty = true ∨
    (packages.persistenceEnabled && !environment.allocated) = true) (device : Device Tree) :
    processed sha256 extract packages request verified context environment device =
      ⟨false, device, []⟩ := by
  rcases process_run sha256 extract packages request verified context environment device with
    ⟨-, ran⟩ | ⟨-, ran⟩ | ⟨named, copied, -⟩
  · simp only [processed, reading_run, ran]
  · simp only [processed, reading_run, ran]
  · rcases refused with isEmpty | exhausted
    · rw [named] at isEmpty
      cases isEmpty
    · rw [copied] at exhausted
      cases exhausted

/-- An operation that leaves the device alone is not saved. -/
theorem processed_idle {device : Device Tree}
    {outcome : OperationOutcome}
    (operated : packages.operate sha256 extract request verified context environment device =
      ⟨outcome, device, []⟩) :
    ∃ result, (result = true → outcome.result = true) ∧
      processed sha256 extract packages request verified context environment device =
        ⟨result, device, []⟩ := by
  rcases process_run sha256 extract packages request verified context environment device with
    ⟨-, ran⟩ | ⟨-, ran⟩ | ⟨-, -, ran⟩
  · exact ⟨false, (fun impossible => absurd impossible (by decide)), by
      simp only [processed, reading_run, ran]⟩
  · exact ⟨false, (fun impossible => absurd impossible (by decide)), by
      simp only [processed, reading_run, ran]⟩
  · refine ⟨outcome.result, id, ?_⟩
    simp only [processed, reading_run, ran]
    rw [operated]
    simp [commit, saveChanged]

/-- Without its confirmation a request changes nothing on the device. -/
theorem processed_unauthorized
    (decoded : ofWire request.operation = some operation)
    (refused : packages.authorized sha256 request context environment.token operation = false)
    (device : Device Tree) :
    processed sha256 extract packages request verified context environment device =
      ⟨false, device, []⟩ := by
  simp only [authorized, Bool.or_eq_false_iff, Bool.not_eq_false'] at refused
  obtain ⟨needed, unapproved⟩ := refused
  have operated : ∃ after : RpcPackages,
      packages.operate sha256 extract request verified context environment device =
        ⟨⟨false, .confirmationRequired, after⟩, device, []⟩ := by
    cases operation <;> first | (cases needed; done) | skip
    all_goals
      simp only [operate, decoded]
    case activate =>
      obtain ⟨after, runs⟩ := when_confirmed_refused unapproved
        fun after => (after.processActivate request : Traced (Device Tree) OperationOutcome)
      exact ⟨after, by rw [runs]; rfl⟩
    case enable =>
      obtain ⟨after, runs⟩ := when_confirmed_refused unapproved
        fun after => (after.processEnable request : Traced (Device Tree) OperationOutcome)
      exact ⟨after, by rw [runs]; rfl⟩
    case remove =>
      obtain ⟨after, runs⟩ := when_confirmed_refused unapproved
        fun after => (after.processRemove request : Traced (Device Tree) OperationOutcome)
      exact ⟨after, by rw [runs]; rfl⟩
    case rollback =>
      obtain ⟨after, runs⟩ := when_confirmed_refused unapproved
        fun after => (after.processRollback request : Traced (Device Tree) OperationOutcome)
      exact ⟨after, by rw [runs]; rfl⟩
  obtain ⟨after, operated⟩ := operated
  obtain ⟨result, onlyThen, ran⟩ := processed_idle operated
  cases result with
  | false => exact ran
  | true => cases onlyThen rfl

/-- A request that succeeds was not refused at once. -/
theorem processed_accepted (standard : packages.Standard)
    (decoded : ofWire request.operation = some operation) {device : Device Tree}
    (succeeded : (processed sha256 extract packages request verified context environment
      device).value = true) :
    request.packageId.isEmpty = false ∧ environment.allocated = true ∧
      packages.authorized sha256 request context environment.token operation = true := by
  refine ⟨?_, ?_, ?_⟩
  · by_contra unnamed
    rw [processed_refused (.inl (by simpa using unnamed)) device] at succeeded
    cases succeeded
  · by_contra exhausted
    rw [processed_refused (.inr (by simpa [standard.persistence] using exhausted)) device]
      at succeeded
    cases succeeded
  · by_contra refused
    rw [processed_unauthorized decoded (by simpa using refused) device] at succeeded
    cases succeeded

variable (sha256 extract verified context environment) in
/-- What an import can do: nothing, or put the manager's accepted import in place
and save it, or save it in vain and keep the old manager. -/
theorem import_cases (standard : packages.Standard)
    (decoded : ofWire request.operation = some .importArchive)
    (device : Device Tree) :
    let run := processed sha256 extract packages request verified context environment device
    run = ⟨false, device, []⟩ ∨
    ∃ archive previousState after, verified = some archive ∧
      archive.packageId = request.packageId ∧ archive.archiveSha256 = request.candidateDigest ∧
      PackageState.ofWire request.previousState = some previousState ∧
      device.manager.importPackage (packages.importOf request archive previousState) =
        (true, after) ∧
      (((after.persistedValid && environment.saved) = true ∧
          run = ⟨true, { device with manager := after, stored := some after },
            [{ device with manager := after, stored := some after }]⟩) ∨
        ((after.persistedValid && environment.saved) = false ∧
          run = ⟨false, device, [{ device with manager := after }]⟩)) := by
  intro run
  have refused : ∀ outcome, outcome.result = false →
      packages.operate sha256 extract request verified context environment device =
        ⟨outcome, device, []⟩ → run = ⟨false, device, []⟩ := by
    intro outcome unaccepted operated
    obtain ⟨result, onlyThen, ran⟩ := processed_idle operated
    cases result with
    | false => exact ran
    | true =>
      rw [unaccepted] at onlyThen
      cases onlyThen rfl
  have operates : packages.operate sha256 extract request verified context environment =
      packages.processImport request verified := by
    simp only [operate, decoded]
  cases isVerified : verified with
  | none =>
    refine .inl (refused ⟨false, .manifestRejected, packages⟩ rfl ?_)
    rw [operates, isVerified]
    rfl
  | some archive =>
    by_cases mismatched : ((packageContentTypeParse archive.contentType).isNone ||
        archive.packageId != request.packageId ||
        archive.archiveSha256 != request.candidateDigest) = true
    · refine .inl (refused ⟨false, .manifestRejected, packages⟩ rfl ?_)
      rw [operates, isVerified]
      simp only [processImport, mismatched, if_true, pure_run]
    have matched := mismatched
    simp only [Bool.or_eq_true, not_or, bne_iff_ne, ne_eq, not_not] at matched
    cases state : PackageState.ofWire request.previousState with
    | none =>
      refine .inl (refused ⟨false, .invalid, packages⟩ rfl ?_)
      rw [operates, isVerified]
      simp only [processImport, mismatched, state, Bool.false_eq_true, if_false, pure_run]
    | some previousState =>
      have operated : packages.operate sha256 extract request verified context environment
          device =
            ⟨packages.named .imported .manifestRejected (device.manager.importPackage
                (packages.importOf request archive previousState)).1,
              { device with manager := (device.manager.importPackage
                (packages.importOf request archive previousState)).2 }, []⟩ := by
        rw [operates, isVerified]
        simp only [processImport, mismatched, state, Bool.false_eq_true, if_false,
          bind_run, pure_run, Device.managed, silent_run, List.append_nil]
      rcases device.manager.import_cases (packages.importOf request archive previousState) with
        unchanged | ⟨_, slot, previous, transaction, -, -, -, written⟩
      · rw [unchanged] at operated
        exact .inl (refused _ rfl operated)
      rcases process_run sha256 extract packages request verified context environment device with
        ⟨-, ran⟩ | ⟨-, ran⟩ | ⟨-, -, ran⟩
      · exact .inl (by simp only [run, processed, reading_run, ran])
      · exact .inl (by simp only [run, processed, reading_run, ran])
      rw [written] at operated
      let after := (device.manager.store slot
        ((packages.importOf request archive previousState).record previous transaction)).count
      have counted : (device.manager.generation != after.generation) = true := by
        simp [after, PackageManager.count, PackageManager.store]
      have mutating : (request.operation != inspect.toWire) = true := by
        simpa using wire_ne_inspect (by decide) decoded
      refine .inr ⟨archive, previousState, after, rfl, matched.1.2, matched.2, rfl, written, ?_⟩
      have settled : run = (reading ProcessOutcome.result
          (commit request environment device.manager (packages.named .imported .manifestRejected
            true)) { device with manager := after }) := by
        simp only [run, processed, reading_run, ran, operated, List.nil_append, after]
      let imported : Device Tree := { device with manager := after }
      cases saved : imported.manager.persistedValid && environment.saved with
      | true =>
        have saves := Device.save_state_accepted saved
        refine .inl ⟨rfl, settled.trans ?_⟩
        simp only [imported] at saves
        simp [commit, saveChanged, named, standard.persistence, counted, mutating, saves]
      | false =>
        have saves := Device.save_state_refused saved
        refine .inr ⟨rfl, settled.trans ?_⟩
        simp only [imported] at saves
        simp [commit, saveChanged, restorePrevious, named, standard.persistence, standard.storage,
          counted, mutating, saves, undo, decoded]

end RpcPackages

end PoisonedOS
