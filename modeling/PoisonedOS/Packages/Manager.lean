import Mathlib.Data.Fintype.Pi
import PoisonedOS.Library.SlotTable
import PoisonedOS.Packages.Transaction

/-!
# The package manager's record table

The manager holds eight slots. Every operation except import looks its record up
by identifier, changes that record in place and counts a generation when it
reports a change; `onRecord` is that common frame, and each operation is given
by what it does to the one record. Import chooses a slot: the package's own, a
free one, or the first one whose package has been removed.

An operation may change the record without counting a generation: a refused
chunk can open the reception of a discovered update.
-/

namespace PoisonedOS

/-- `POISON_PACKAGE_MAX_RECORDS`. -/
def packageMaxRecords : Nat := 8

/-- `POISON_PACKAGE_ID_MAX`. -/
def packageIdMax : Nat := 64

/-- `POISON_PACKAGE_VERSION_MAX`. -/
def packageVersionMax : Nat := 32

/-- `POISON_PACKAGE_SIGNING_KEY_MAX`. -/
def packageSigningKeyMax : Nat := 64

/-- `POISON_PACKAGE_MANIFEST_PATH_MAX`. -/
def packageManifestPathMax : Nat := 256

/-- `poison_package_text_valid`. -/
def packageTextValid (value : CString) (maximum : Nat) : Bool :=
  !value.isEmpty && decide (value.length ≤ maximum)

/-- One byte of a package identifier: `isalnum`, `.`, `-` or `_`. -/
def packageIdByte (byte : UInt8) : Bool :=
  isDigit byte || isLower byte || isUpper byte || byte == 46 || byte == 45 || byte == 95

/-- `poison_package_id_valid`. -/
def packageIdValid (value : CString) : Bool :=
  packageTextValid value packageIdMax && value.bytes.all packageIdByte

/-- `poison_package_digest_valid`. -/
def packageDigestValid (value : CString) (isOptional : Bool) : Bool :=
  (isOptional && value.isEmpty) || boundedDigest value

/-- `poison_package_manifest_path_valid`. -/
def packageManifestPathValid (value : CString) : Bool :=
  packageTextValid value packageManifestPathMax &&
    value.startsWith (.literal "/ext/apps/.staging/") && !value.contains (.literal "..") &&
    !value.hasByte 92

/-- The conditions on an entrypoint, which import and the persistence check
spell out alike: relative, bounded, without `..` or a backslash. -/
def packageEntrypointValid (value : CString) : Bool :=
  packageTextValid value packageManifestPathMax && value.bytes.head? != some 47 &&
    !value.contains (.literal "..") && !value.hasByte 92

/-- The names `poison_package_content_type_parse` accepts. -/
def supportedContentTypes : List (CString × ContentUpdateType) :=
  [(.literal "application", .application), (.literal "lesson", .lesson),
    (.literal "tool-data", .toolData), (.literal "theme", .theme), (.literal "font", .fontIcon),
    (.literal "icon", .fontIcon), (.literal "font-icon", .fontIcon), (.literal "menu", .menu),
    (.literal "resource", .resource), (.literal "ui-pack", .uiPack)]

/-- `poison_package_content_type_parse`. -/
def packageContentTypeParse (contentType : CString) : Option ContentUpdateType :=
  (supportedContentTypes.find? fun supported => supported.1 == contentType).map (·.2)

/-- The digest recorded as the previous one of a first installation. -/
def absentDigest : CString := ⟨List.replicate 64 48, by decide⟩

/-- `PoisonPackageImport`. Its `highest_release_sequence` is never read. -/
structure PackageImport where
  contentType : CString
  packageId : CString
  version : CString
  previousVersion : CString
  candidateDigest : CString
  previousDigest : CString
  signingKeyId : CString
  manifestPath : CString
  entrypoint : CString
  capabilityMask : UInt64
  releaseSequence : UInt32
  contentBytes : UInt32
  hardwareTarget : UInt32
  firmwareApi : UInt32
  availableStorageBytes : UInt64
  previousState : PackageState
  protectedPackage : Bool
  confirmationRequired : Bool
  manifestVerified : Bool

/-- `PoisonPackageRecord`; the `occupied` flag is the slot's `some`. -/
structure PackageRecord where
  contentType : CString
  packageId : CString
  version : CString
  previousVersion : CString
  digest : CString
  previousDigest : CString
  signingKeyId : CString
  manifestPath : CString
  entrypoint : CString
  capabilityMask : UInt64
  confirmationRequired : Bool
  transaction : PackageTransaction
deriving DecidableEq

/-- What an operation does to one record: its result, the record it leaves and
whether it counts a generation. -/
structure RecordStep where
  result : Bool
  record : PackageRecord
  counted : Bool
deriving DecidableEq

namespace PackageRecord

/-- The record part of `poison_package_manager_receive`. -/
def receive (record : PackageRecord) (bytes : UInt32) : RecordStep :=
  let (received, transaction) := record.transaction.receive bytes
  ⟨received, { record with transaction }, received⟩

/-- Writing both states directly, as rejection and boot recovery do. -/
def quarantineBoth (record : PackageRecord) : PackageRecord :=
  { record with transaction := { record.transaction with
      state := .quarantined
      contentUpdate := { record.transaction.contentUpdate with state := .quarantined } } }

/-- The record part of `poison_package_manager_verify`. -/
def verify (record : PackageRecord) (digest : CString) (payloadVerified : Bool) : RecordStep :=
  if !payloadVerified then ⟨false, record.quarantineBoth, true⟩
  else
    let (verified, transaction) := record.transaction.verifyPayload digest
    ⟨verified, { record with transaction }, true⟩

/-- The record part of `poison_package_manager_activate`. -/
def activate (record : PackageRecord) (exactConfirmation : Bool) : RecordStep :=
  if record.confirmationRequired && !exactConfirmation then ⟨false, record, false⟩
  else
    let (activated, transaction) := record.transaction.activate true
    ⟨activated, { record with transaction }, activated⟩

/-- The record part of `poison_package_manager_report_health`. An unhealthy
report restores the previous version and digest where they are recorded. -/
def reportHealth (record : PackageRecord) (healthy : Bool) : RecordStep :=
  match record.transaction.reportHealth healthy with
  | (false, transaction) => ⟨false, { record with transaction }, false⟩
  | (true, transaction) =>
    let reported := { record with transaction }
    if healthy then ⟨true, reported, true⟩
    else
      ⟨true, { reported with
        version :=
          if record.previousVersion.isEmpty then record.version else record.previousVersion
        digest :=
          if record.previousDigest.isEmpty then record.digest else record.previousDigest }, true⟩

/-- The record part of `poison_package_manager_set_enabled`. -/
def setEnabled (record : PackageRecord) (enabled exactConfirmation : Bool) : RecordStep :=
  if enabled && record.confirmationRequired && !exactConfirmation then ⟨false, record, false⟩
  else
    let (changed, transaction) :=
      record.transaction.transition (if enabled then .active else .disabled)
    ⟨changed, { record with transaction }, changed⟩

/-- The record part of `poison_package_manager_remove`. -/
def remove (record : PackageRecord) (exactConfirmation : Bool) : RecordStep :=
  if !exactConfirmation || record.transaction.protectedPackage then ⟨false, record, false⟩
  else
    let (removed, transaction) := record.transaction.transition .removed
    ⟨removed, { record with transaction }, removed⟩

/-- The record part of `poison_package_manager_rollback`: version and digest
trade places with the previous ones and the package is active. -/
def rollback (record : PackageRecord) (exactConfirmation : Bool) : RecordStep :=
  if !exactConfirmation || record.previousVersion.isEmpty ||
      !packageDigestValid record.previousDigest false ||
      (record.transaction.state != .active && record.transaction.state != .disabled) then
    ⟨false, record, false⟩
  else
    match record.transaction.contentUpdate.rollback with
    | (false, update) =>
      ⟨false, { record with transaction := { record.transaction with contentUpdate := update } },
        false⟩
    | (true, update) =>
      ⟨true, { record with
        version := record.previousVersion
        digest := record.previousDigest
        previousVersion := record.version
        previousDigest := record.digest
        transaction := { record.transaction with contentUpdate := update, state := .active } },
        true⟩

/-- The record part of `poison_package_manager_quarantine`. -/
def quarantine (record : PackageRecord) : RecordStep :=
  if record.transaction.state == .removed then ⟨false, record, false⟩
  else
    ⟨true, { record with transaction := { record.transaction with state := .quarantined } }, true⟩

/-- The condition of `poison_package_manager_active_content` on the record. -/
def activeContent (record : PackageRecord) (contentType : CString) : Bool :=
  record.contentType == contentType && record.transaction.state == .active &&
    (record.transaction.contentUpdate.state == .healthy ||
      record.transaction.contentUpdate.state == .rolledBack)

end PackageRecord

/-- The operations that look one record up and change it in place, with their
arguments. -/
inductive RecordOperation where
  | receive (bytes : UInt32)
  | verify (digest : CString) (payloadVerified : Bool)
  | activate (exactConfirmation : Bool)
  | reportHealth (healthy : Bool)
  | setEnabled (enabled exactConfirmation : Bool)
  | remove (exactConfirmation : Bool)
  | rollback (exactConfirmation : Bool)
  | quarantine
deriving DecidableEq

/-- What an operation does to the record it found. -/
def RecordOperation.apply : RecordOperation → PackageRecord → RecordStep
  | .receive bytes, record => record.receive bytes
  | .verify digest payloadVerified, record => record.verify digest payloadVerified
  | .activate exactConfirmation, record => record.activate exactConfirmation
  | .reportHealth healthy, record => record.reportHealth healthy
  | .setEnabled enabled exactConfirmation, record => record.setEnabled enabled exactConfirmation
  | .remove exactConfirmation, record => record.remove exactConfirmation
  | .rollback exactConfirmation, record => record.rollback exactConfirmation
  | .quarantine, record => record.quarantine

/-- `PoisonPackageManager`. -/
structure PackageManager where
  records : Fin packageMaxRecords → Option PackageRecord
  generation : UInt32
deriving DecidableEq

namespace PackageManager

/-- `poison_package_manager_init`. -/
def init : PackageManager := ⟨fun _ => none, 0⟩

/-- `poison_package_manager_find_mutable`: the slot of the record it returns. -/
def findSlot (manager : PackageManager) (packageId : CString) : Option (Fin packageMaxRecords) :=
  SlotTable.findSlot PackageRecord.packageId manager.records packageId

/-- `poison_package_manager_find`. -/
def find (manager : PackageManager) (packageId : CString) : Option PackageRecord :=
  SlotTable.lookup PackageRecord.packageId manager.records packageId

/-- Write a record into a slot. -/
def store (manager : PackageManager) (slot : Fin packageMaxRecords) (record : PackageRecord) :
    PackageManager :=
  { manager with records := SlotTable.place manager.records slot record }

/-- `++manager->generation`. -/
def count (manager : PackageManager) : PackageManager :=
  { manager with generation := manager.generation + 1 }

/-- The frame of every operation on a record found by its identifier. -/
def onRecord (manager : PackageManager) (packageId : CString)
    (step : PackageRecord → RecordStep) : Bool × PackageManager :=
  match manager.findSlot packageId with
  | none => (false, manager)
  | some slot =>
    match manager.records slot with
    | none => (false, manager)
    | some record =>
      let outcome := step record
      let stored := manager.store slot outcome.record
      (outcome.result, if outcome.counted then stored.count else stored)

/-- `poison_package_manager_receive`. -/
def receive (manager : PackageManager) (packageId : CString) (bytes : UInt32) :
    Bool × PackageManager :=
  manager.onRecord packageId (RecordOperation.receive bytes).apply

/-- `poison_package_manager_verify`. -/
def verify (manager : PackageManager) (packageId digest : CString) (payloadVerified : Bool) :
    Bool × PackageManager :=
  manager.onRecord packageId (RecordOperation.verify digest payloadVerified).apply

/-- `poison_package_manager_activate`. -/
def activate (manager : PackageManager) (packageId : CString) (exactConfirmation : Bool) :
    Bool × PackageManager :=
  manager.onRecord packageId (RecordOperation.activate exactConfirmation).apply

/-- `poison_package_manager_report_health`. -/
def reportHealth (manager : PackageManager) (packageId : CString) (healthy : Bool) :
    Bool × PackageManager :=
  manager.onRecord packageId (RecordOperation.reportHealth healthy).apply

/-- `poison_package_manager_set_enabled`. -/
def setEnabled (manager : PackageManager) (packageId : CString)
    (enabled exactConfirmation : Bool) : Bool × PackageManager :=
  manager.onRecord packageId (RecordOperation.setEnabled enabled exactConfirmation).apply

/-- `poison_package_manager_remove`. -/
def remove (manager : PackageManager) (packageId : CString) (exactConfirmation : Bool) :
    Bool × PackageManager :=
  manager.onRecord packageId (RecordOperation.remove exactConfirmation).apply

/-- `poison_package_manager_rollback`. -/
def rollback (manager : PackageManager) (packageId : CString) (exactConfirmation : Bool) :
    Bool × PackageManager :=
  manager.onRecord packageId (RecordOperation.rollback exactConfirmation).apply

/-- `poison_package_manager_quarantine`. -/
def quarantine (manager : PackageManager) (packageId : CString) : Bool × PackageManager :=
  manager.onRecord packageId RecordOperation.quarantine.apply

/-- `poison_package_manager_active_content`. -/
def activeContent (manager : PackageManager) (packageId contentType : CString) : Bool :=
  (manager.find packageId).any (·.activeContent contentType)

end PackageManager

/-- The checks `poison_package_manager_import` makes on its argument alone, and
the update type it parsed. -/
def PackageImport.check (package : PackageImport) : Option ContentUpdateType :=
  if !package.manifestVerified then none
  else
    match packageContentTypeParse package.contentType with
    | none => none
    | some updateType =>
      if !packageIdValid package.packageId || !packageTextValid package.version packageVersionMax ||
          !packageTextValid package.signingKeyId packageSigningKeyMax ||
          !packageDigestValid package.candidateDigest false ||
          !packageDigestValid package.previousDigest true ||
          !packageManifestPathValid package.manifestPath ||
          !packageEntrypointValid package.entrypoint || package.contentBytes == 0 ||
          package.hardwareTarget == 0 || package.firmwareApi == 0 ||
          package.availableStorageBytes == 0 ||
          (package.previousState != .removed &&
            !packageTextValid package.previousVersion packageVersionMax) then
        none
      else some updateType

/-- An import onto a live record must name that record's own state, version and
digest as the previous ones and bring another digest. -/
def PackageImport.updates (package : PackageImport) (record : PackageRecord) : Bool :=
  record.contentType == package.contentType && record.transaction.state == package.previousState &&
    record.version == package.previousVersion && record.digest == package.previousDigest &&
    record.digest != package.candidateDigest

/-- An import that updates nothing must name nothing as previous. -/
def PackageImport.installs (package : PackageImport) : Bool :=
  package.previousState == .removed && package.previousVersion.isEmpty &&
    package.previousDigest.isEmpty

theorem PackageImport.updates_state {package : PackageImport} {record : PackageRecord}
    (updates : package.updates record = true) :
    record.transaction.state = package.previousState := by
  simp only [PackageImport.updates, Bool.and_eq_true, beq_iff_eq] at updates
  exact updates.1.1.1.2

theorem PackageImport.installs_removed {package : PackageImport}
    (installs : package.installs = true) : package.previousState = .removed := by
  simp only [PackageImport.installs, Bool.and_eq_true, beq_iff_eq] at installs
  exact installs.1.1

/-- The manifest and environment an import presents for admission. The 64-bit
free space is narrowed to the environment's 32 bits. -/
def PackageImport.admission (package : PackageImport) (updateType : ContentUpdateType)
    (previous : Option PackageRecord) : ContentUpdateManifest × ContentUpdateEnvironment :=
  ({ contentType := updateType
     updateId := package.packageId
     candidateDigest := package.candidateDigest
     previousDigest := (previous.map (·.digest)).getD absentDigest
     hardwareTarget := package.hardwareTarget
     minimumApi := package.firmwareApi
     maximumApi := 0xFFFFFFFF
     releaseSequence := package.releaseSequence
     contentBytes := package.contentBytes
     signatureValid := true
     signerRevoked := false
     rollbackAvailable := true
     protectedTarget := package.protectedPackage },
   { hardwareTarget := package.hardwareTarget
     firmwareApi := package.firmwareApi
     highestReleaseSequence := (previous.map (·.transaction.contentUpdate.sequence)).getD 0
     availableStorageBytes := package.availableStorageBytes.toUInt32 })

/-- The record an import writes. -/
def PackageImport.record (package : PackageImport) (previous : Option PackageRecord)
    (transaction : PackageTransaction) : PackageRecord where
  contentType := package.contentType
  packageId := package.packageId
  version := package.version
  previousVersion := (previous.map (·.version)).getD (.literal "")
  digest := package.candidateDigest
  previousDigest := (previous.map (·.digest)).getD absentDigest
  signingKeyId := package.signingKeyId
  manifestPath := package.manifestPath
  entrypoint := package.entrypoint
  capabilityMask := package.capabilityMask
  confirmationRequired := package.confirmationRequired
  transaction

namespace PackageManager

/-- A slot whose package has been removed. -/
def reclaimable (stored : Option PackageRecord) : Bool :=
  stored.any fun record => record.transaction.state == .removed

/-- The slot an import writes and the live record it updates, if any. The second
search reads slots without their `occupied` flag, but runs only when every slot
is occupied. -/
def importSlot (manager : PackageManager) (package : PackageImport) :
    Option (Fin packageMaxRecords × Option PackageRecord) :=
  match manager.findSlot package.packageId with
  | some slot =>
    match manager.records slot with
    | some record =>
      if record.transaction.state != .removed then
        if package.updates record then some (slot, some record) else none
      else if package.installs then some (slot, none) else none
    | none => none
  | none =>
    if !package.installs then none
    else
      match SlotTable.firstSlot manager.records Option.isNone with
      | some slot => some (slot, none)
      | none =>
        (SlotTable.firstSlot manager.records reclaimable).map fun slot => (slot, none)

/-- `poison_package_manager_import`. -/
def importPackage (manager : PackageManager) (package : PackageImport) : Bool × PackageManager :=
  match package.check with
  | none => (false, manager)
  | some updateType =>
    match manager.importSlot package with
    | none => (false, manager)
    | some (slot, previous) =>
      let (manifest, environment) := package.admission updateType previous
      match PackageTransaction.begin manifest environment package.previousState
          package.protectedPackage with
      | (.ok, some transaction) =>
        (true, (manager.store slot (package.record previous transaction)).count)
      | _ => (false, manager)

end PackageManager

end PoisonedOS
