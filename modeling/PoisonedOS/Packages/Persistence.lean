import PoisonedOS.Packages.Layout

/-!
# The persisted state file

The manager is written to one file, with a header and a digest over everything
before it, and read back only when header, size and digest agree and every
record passes the persistence check. The same check guards the write, so one
record that fails it blocks every later save.

The file is represented by the structure whose memory image is written. Its
digest is a parameter: saving and loading use the same function, and nothing
else about it is relied on. What the storage service answers to the two calls is
an argument as well.
-/

namespace PoisonedOS

/-- `poison_package_record_persisted_valid`. The range checks on the three states
hold of every value of their types. -/
def PackageRecord.persistedValid (record : PackageRecord) : Bool :=
  let update := record.transaction.contentUpdate
  match packageContentTypeParse record.contentType with
  | none => false
  | some updateType =>
    if !packageIdValid record.packageId || !packageTextValid record.version packageVersionMax ||
        !packageDigestValid record.digest false ||
        !packageDigestValid record.previousDigest false ||
        !packageTextValid record.signingKeyId packageSigningKeyMax ||
        !packageManifestPathValid record.manifestPath ||
        !packageEntrypointValid record.entrypoint || !record.transaction.initialized ||
        update.updateId != record.packageId ||
        ((update.state == .rolledBack && update.previousDigest != record.digest) ||
          (update.state != .rolledBack && update.candidateDigest != record.digest)) ||
        update.contentType != updateType || update.sequence == 0 || update.contentBytes == 0 ||
        update.receivedBytes > update.contentBytes then
      false
    else
      record.previousVersion.isEmpty || packageTextValid record.previousVersion packageVersionMax

/-- `poison_package_manager_persisted_valid`: every record passes and no
identifier occurs twice. The count of occupied slots cannot exceed their number. -/
def PackageManager.persistedValid (manager : PackageManager) : Bool :=
  (List.finRange packageMaxRecords).all fun slot =>
    match manager.records slot with
    | none => true
    | some record =>
      record.persistedValid &&
        (List.finRange packageMaxRecords).all fun prior =>
          !decide (prior < slot) ||
            !SlotTable.holds PackageRecord.packageId record.packageId (manager.records prior)

/-- The part of the state file its digest covers. -/
structure StateHeader where
  magic : CString
  version : UInt32
  managerBytes : UInt32
  manager : PackageManager
deriving DecidableEq

/-- `PoisonPackageStateFile`. -/
structure StateFile (Digest : Type) extends StateHeader where
  digest : Digest
deriving DecidableEq

/-- What the allocator and the storage service answer while saving. -/
structure SaveAnswers where
  allocated : Bool
  digested : Bool
  directory : Bool
  opened : Bool
  written : Bool
  synced : Bool
  closed : Bool
  renamed : Bool
deriving DecidableEq

/-- Every call succeeds. -/
def SaveAnswers.succeeding : SaveAnswers := ⟨true, true, true, true, true, true, true, true⟩

/-- What the allocator and the storage service answer while loading. -/
structure LoadAnswers where
  allocated : Bool
  opened : Bool
  sized : Bool
  read : Bool
  digested : Bool
deriving DecidableEq

/-- Every call succeeds. -/
def LoadAnswers.succeeding : LoadAnswers := ⟨true, true, true, true, true⟩

/-- `POISON_PACKAGE_STATE_PATH`. -/
def packageStatePath : CString := .literal "/int/.poison/package_state.bin"

/-- A state path with a parent directory and room for the `.partial` suffix:
`poison_package_state_parent` and the bound of the temporary name. -/
def statePathValid (path : CString) : Bool :=
  storageRootValid path && path.bytes.tail.contains 47 &&
    decide (path.length + 8 ≤ packageManifestPathMax)

section StateFile

variable {Digest : Type} [DecidableEq Digest] (managerBytes : UInt32)
  (digestOf : StateHeader → Digest)

/-- The header written around a manager. -/
def stateHeader (manager : PackageManager) : StateHeader where
  magic := .literal "PPKS"
  version := 1
  managerBytes
  manager

/-- `poison_package_manager_save`: its result and the state file afterwards. The
file is replaced by the final rename alone. -/
def PackageManager.save (manager : PackageManager) (path : CString) (answers : SaveAnswers)
    (before : Option (StateFile Digest)) : Bool × Option (StateFile Digest) :=
  if !manager.persistedValid || !answers.allocated || !statePathValid path then (false, before)
  else
    let header := stateHeader managerBytes manager
    let ok := answers.digested && answers.directory && answers.opened && answers.written &&
      answers.synced && answers.closed && answers.renamed
    (ok, if ok then some { header with digest := digestOf header } else before)

/-- `poison_package_manager_load`: its result and the manager afterwards. -/
def PackageManager.load (manager : PackageManager) (path : CString) (answers : LoadAnswers)
    (file : Option (StateFile Digest)) : Bool × PackageManager :=
  if !storageRootValid path || !answers.allocated then (false, manager)
  else
    match file with
    | none => (false, manager)
    | some file =>
      if answers.opened && answers.sized && answers.read && file.magic == .literal "PPKS" &&
          file.version == 1 && file.managerBytes == managerBytes && answers.digested &&
          digestOf file.toStateHeader == file.digest && file.manager.persistedValid then
        (true, file.manager)
      else
        (false, manager)

variable {managerBytes digestOf}

/-- A manager that passes the persistence check is saved whenever the calls
succeed, and the file then loads as exactly that manager, whatever the loading
manager held and whatever the file held before. -/
theorem load_save {manager : PackageManager} (valid : manager.persistedValid = true)
    {path : CString} (accepted : statePathValid path = true) (other : PackageManager)
    (before : Option (StateFile Digest)) :
    let saved := manager.save managerBytes digestOf path .succeeding before
    saved.1 = true ∧
      other.load managerBytes digestOf path .succeeding saved.2 = (true, manager) := by
  have rooted : storageRootValid path = true := by
    simp only [statePathValid, Bool.and_eq_true] at accepted
    exact accepted.1.1
  simp [PackageManager.save, PackageManager.load, valid, accepted, rooted, SaveAnswers.succeeding,
    LoadAnswers.succeeding, stateHeader]

end StateFile

/-- The service's own state path is acceptable. -/
theorem state_path_valid : statePathValid packageStatePath = true := by decide

/-- The conditions of the persistence check, one by one. -/
structure PackageRecord.Persistable (record : PackageRecord) : Prop where
  typed : packageContentTypeParse record.contentType =
    some record.transaction.contentUpdate.contentType
  identified : packageIdValid record.packageId = true
  versioned : packageTextValid record.version packageVersionMax = true
  digested : boundedDigest record.digest = true
  previousDigested : boundedDigest record.previousDigest = true
  signed : packageTextValid record.signingKeyId packageSigningKeyMax = true
  located : packageManifestPathValid record.manifestPath = true
  entered : packageEntrypointValid record.entrypoint = true
  initialized : record.transaction.initialized = true
  named : record.transaction.contentUpdate.updateId = record.packageId
  digestAgrees : record.digest =
    if record.transaction.contentUpdate.state = .rolledBack then
      record.transaction.contentUpdate.previousDigest
    else record.transaction.contentUpdate.candidateDigest
  sequenced : record.transaction.contentUpdate.sequence ≠ 0
  sized : record.transaction.contentUpdate.contentBytes ≠ 0
  received : record.transaction.contentUpdate.receivedBytes ≤
    record.transaction.contentUpdate.contentBytes
  previousVersioned : record.previousVersion.isEmpty = true ∨
    packageTextValid record.previousVersion packageVersionMax = true

theorem PackageRecord.persisted_valid_iff (record : PackageRecord) :
    record.persistedValid = true ↔ record.Persistable := by
  unfold PackageRecord.persistedValid
  cases parsed : packageContentTypeParse record.contentType with
  | none =>
    simp only [Bool.false_eq_true, false_iff]
    intro persistable
    exact absurd (parsed.symm.trans persistable.typed) (by simp)
  | some updateType =>
    constructor
    · intro valid
      simp only [packageDigestValid, Bool.false_and, Bool.false_or] at valid
      split at valid
      · cases valid
      rename_i passed
      simp only [Bool.or_eq_true, not_or, Bool.not_eq_true', Bool.not_eq_false, bne_iff_ne,
        ne_eq, not_not, beq_iff_eq, Bool.and_eq_true, not_and, decide_eq_true_eq, gt_iff_lt,
        UInt32.not_lt] at passed valid
      obtain ⟨⟨⟨⟨⟨⟨⟨⟨⟨⟨⟨⟨⟨identified, versioned⟩, digested⟩, previousDigested⟩, signed⟩, located⟩,
        entered⟩, initialized⟩, named⟩, rolledBack, current⟩, typed⟩, sequenced⟩, sized⟩,
        received⟩ := passed
      refine ⟨by rw [typed, parsed], identified, versioned, digested, previousDigested, signed,
        located, entered, initialized, named, ?_, sequenced, sized, received, valid⟩
      split
      · exact (rolledBack ‹_›).symm
      · exact (current ‹_›).symm
    · intro persistable
      have typed : updateType = record.transaction.contentUpdate.contentType :=
        Option.some.inj (parsed.symm.trans persistable.typed)
      have agrees := persistable.digestAgrees
      simp only [packageDigestValid, Bool.false_and, Bool.false_or]
      rw [if_neg]
      · simpa only [Bool.or_eq_true] using persistable.previousVersioned
      · simp only [Bool.or_eq_true, not_or, Bool.not_eq_true', Bool.not_eq_false, bne_iff_ne,
          ne_eq, not_not, beq_iff_eq, Bool.and_eq_true, not_and, decide_eq_true_eq, gt_iff_lt,
          UInt32.not_lt]
        refine ⟨⟨⟨⟨⟨⟨⟨⟨⟨⟨⟨⟨⟨persistable.identified, persistable.versioned⟩,
          persistable.digested⟩, persistable.previousDigested⟩, persistable.signed⟩,
          persistable.located⟩, persistable.entered⟩, persistable.initialized⟩,
          persistable.named⟩, ?_, ?_⟩, typed.symm⟩, persistable.sequenced⟩, persistable.sized⟩,
          persistable.received⟩
        · intro isRolledBack
          rw [if_pos isRolledBack] at agrees
          exact agrees.symm
        · intro isCurrent
          rw [if_neg isCurrent] at agrees
          exact agrees.symm

/-- The whole manager passes exactly when its records do and their identifiers
are distinct. -/
theorem PackageManager.persisted_valid_iff (manager : PackageManager) :
    manager.persistedValid = true ↔
      (∀ slot record, manager.records slot = some record → record.Persistable) ∧
        SlotTable.Distinct PackageRecord.packageId manager.records := by
  simp only [PackageManager.persistedValid, List.all_eq_true, List.mem_finRange, true_imp_iff]
  constructor
  · intro passed
    have each : ∀ slot record, manager.records slot = some record →
        record.persistedValid = true ∧ ∀ prior, prior < slot →
          SlotTable.holds PackageRecord.packageId record.packageId (manager.records prior) =
            false := by
      intro slot record stored
      have here := passed slot
      simp only [stored, Bool.and_eq_true, List.all_eq_true, List.mem_finRange, true_imp_iff,
        Bool.or_eq_true, Bool.not_eq_true', decide_eq_false_iff_not] at here
      refine ⟨here.1, fun prior before => ?_⟩
      exact (here.2 prior).resolve_left (not_not.mpr before)
    refine ⟨fun slot record stored =>
      (PackageRecord.persisted_valid_iff record).mp (each slot record stored).1, ?_⟩
    intro first second left right storedLeft storedRight same
    rcases lt_trichotomy first second with before | equal | after
    · have absent := (each second right storedRight).2 first before
      rw [SlotTable.holds_iff.mpr ⟨left, storedLeft, same⟩] at absent
      cases absent
    · exact equal
    · have absent := (each first left storedLeft).2 second after
      rw [SlotTable.holds_iff.mpr ⟨right, storedRight, same.symm⟩] at absent
      cases absent
  · rintro ⟨each, distinct⟩ slot
    cases stored : manager.records slot with
    | none => rfl
    | some record =>
      simp only [Bool.and_eq_true, List.all_eq_true, List.mem_finRange, true_imp_iff,
        Bool.or_eq_true, Bool.not_eq_true', decide_eq_false_iff_not]
      refine ⟨(PackageRecord.persisted_valid_iff record).mpr (each slot record stored), ?_⟩
      intro prior
      by_cases before : prior < slot
      · right
        rw [Bool.eq_false_iff]
        intro held
        obtain ⟨other, storedOther, same⟩ := SlotTable.holds_iff.mp held
        exact absurd (distinct prior slot other record storedOther stored same) (ne_of_lt before)
      · exact .inl before

end PoisonedOS
