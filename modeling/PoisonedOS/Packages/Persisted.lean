import PoisonedOS.Packages.Recovery

/-!
# Every manager that can be saved

A run is a sequence of manager operations with arbitrary arguments and of boot
recoveries with arbitrary answers from the storage layer. Soundness of the table
carries the persistence check along a run, up to one defect: rejecting the
verification of a package whose update has been rolled back, or quarantining it
at boot, writes `quarantined` over the rolled-back state while the record keeps
the previous digest. From then on the persistence check fails, and no package
can be saved.
-/

namespace PoisonedOS

/-- The operations of the manager's interface that change it, and the manager's
part of a boot recovery. -/
inductive ManagerOperation where
  | importPackage (package : PackageImport)
  | onRecord (packageId : CString) (operation : RecordOperation)
  | recover (answers : Fin packageMaxRecords → Bool)

namespace ManagerOperation

/-- The manager an operation leaves. -/
def apply : ManagerOperation → PackageManager → PackageManager
  | .importPackage package, manager => (manager.importPackage package).2
  | .onRecord packageId operation, manager => (manager.onRecord packageId operation.apply).2
  | .recover answers, manager => manager.recoverSlots answers

/-- The managers along a run, the last one being its result. -/
def run : List ManagerOperation → PackageManager → PackageManager
  | [], manager => manager
  | operation :: rest, manager => run rest (operation.apply manager)

/-- The step does not quarantine the update of a record that was rolled back:
no rejected verification and no failed storage recovery meets one. -/
def Permitted : ManagerOperation → PackageManager → Prop
  | .onRecord packageId (.verify _ false), manager =>
    ∀ record, manager.find packageId = some record →
      record.transaction.contentUpdate.state ≠ .rolledBack
  | .recover answers, manager =>
    ∀ slot record, manager.records slot = some record → record.transaction.state ≠ .removed →
      answers slot = false → record.transaction.contentUpdate.state ≠ .rolledBack
  | _, _ => True

/-- Every step of a run meets the condition where it is taken. -/
def RunPermitted : List ManagerOperation → PackageManager → Prop
  | [], _ => True
  | operation :: rest, manager =>
    operation.Permitted manager ∧ RunPermitted rest (operation.apply manager)

end ManagerOperation

namespace PackageManager

variable {manager : PackageManager} {slot : Fin packageMaxRecords} {record : PackageRecord}

/-- With distinct identifiers an operation on a stored record writes its slot. -/
theorem on_record_slot (distinct : SlotTable.Distinct PackageRecord.packageId manager.records)
    (stored : manager.records slot = some record) (step : PackageRecord → RecordStep) :
    manager.onRecord record.packageId step =
      ((step record).result, (manager.store slot (step record).record).counted
        (step record).counted) := by
  have looked : manager.find record.packageId = some record :=
    (SlotTable.lookup_iff distinct).mpr ⟨slot, stored, rfl⟩
  rcases manager.on_record_cases record.packageId step with
    ⟨absent, -⟩ | ⟨place, other, found, -, storedOther, keyed, changed⟩
  · rw [looked] at absent
    cases absent
  · rw [looked] at found
    cases found
    have same : place = slot := distinct place slot record record storedOther stored rfl
    rw [changed, same]

/-- A slot that is written holds what was written; the others are untouched. -/
theorem store_records (manager : PackageManager) (slot : Fin packageMaxRecords)
    (record : PackageRecord) (other : Fin packageMaxRecords) :
    (manager.store slot record).records other =
      if other = slot then some record else manager.records other := by
  simp only [store, SlotTable.place, Function.update_apply]

/-- Writing a sound record over one with its identifier keeps the table sound. -/
theorem Sound.store (sound : manager.Sound) {before : PackageRecord}
    (stored : manager.records slot = some before) (keyed : record.packageId = before.packageId)
    (recordSound : record.Sound) : (manager.store slot record).Sound where
  records := by
    intro place other storedOther
    rw [store_records] at storedOther
    split at storedOther
    · cases storedOther
      exact recordSound
    · exact sound.records place other storedOther
  distinct := SlotTable.distinct_replace sound.distinct stored keyed

/-- What recovering one slot writes into a sound table: nothing, both states
quarantined, or the record after an unhealthy report. -/
theorem Sound.recover_slot_cases (sound : manager.Sound) (slot : Fin packageMaxRecords)
    (answer : Bool) :
    manager.recoverSlot slot answer = (false, manager) ∨
    (∃ record, manager.records slot = some record ∧ record.transaction.state ≠ .removed ∧
      answer = false ∧
      manager.recoverSlot slot answer =
        (true, (manager.store slot record.quarantineBoth).count)) ∨
    (∃ record, manager.records slot = some record ∧ answer = true ∧
      record.transaction.contentUpdate.state = .activating ∧
      manager.recoverSlot slot answer =
        (true, (manager.store slot (record.reportHealth false).record).counted
          (record.reportHealth false).counted)) := by
  unfold recoverSlot
  cases stored : manager.records slot with
  | none => exact .inl rfl
  | some record =>
    by_cases removed : record.transaction.state = .removed
    · exact .inl (by simp [removed])
    have live : (record.transaction.state == .removed) = false := by simpa using removed
    simp only [live, Bool.false_eq_true, if_false]
    cases answer with
    | false => exact .inr (.inl ⟨record, rfl, removed, rfl, rfl⟩)
    | true =>
      by_cases activating : record.transaction.contentUpdate.state = .activating
      · refine .inr (.inr ⟨record, rfl, rfl, activating, ?_⟩)
        have unhealthy := ((sound.records slot record stored).unhealthy activating).2
        have reported := on_record_slot sound.distinct stored
          (RecordOperation.reportHealth false).apply
        simp only [RecordOperation.apply, unhealthy] at reported
        simp only [PackageRecord.activating, activating, reportHealth, reported, Bool.not_true,
          Bool.false_eq_true, if_false, beq_self_eq_true, if_true]
      · exact .inl (by simp [PackageRecord.activating, activating])

/-- Recovering one slot keeps the identifiers distinct and every other slot's
record. -/
theorem recover_slot_frame (distinct : SlotTable.Distinct PackageRecord.packageId manager.records)
    (slot : Fin packageMaxRecords) (answer : Bool) :
    SlotTable.Distinct PackageRecord.packageId (manager.recoverSlot slot answer).2.records ∧
      ∀ other, other ≠ slot →
        (manager.recoverSlot slot answer).2.records other = manager.records other := by
  unfold recoverSlot
  cases stored : manager.records slot with
  | none => exact ⟨distinct, fun _ _ => rfl⟩
  | some record =>
    dsimp only
    split
    · exact ⟨distinct, fun _ _ => rfl⟩
    split
    · refine ⟨SlotTable.distinct_replace distinct stored rfl, fun other apart => ?_⟩
      rw [count_records, store_records, if_neg apart]
    split
    · have reported := on_record_slot distinct stored (RecordOperation.reportHealth false).apply
      have keyed := PackageRecord.apply_package_id (.reportHealth false) record
      rw [reportHealth, reported]
      cases ((RecordOperation.reportHealth false).apply record).result with
      | true =>
        dsimp only
        rw [counted_records]
        refine ⟨SlotTable.distinct_replace distinct stored keyed, fun other apart => ?_⟩
        rw [store_records, if_neg apart]
      | false =>
        have storedLeft : ((manager.store slot ((RecordOperation.reportHealth false).apply
            record).record).counted ((RecordOperation.reportHealth false).apply
            record).counted).records slot =
            some ((RecordOperation.reportHealth false).apply record).record := by
          rw [counted_records, store_records, if_pos rfl]
        dsimp only
        rw [storedLeft]
        dsimp only
        have distinctLeft := SlotTable.distinct_replace distinct stored keyed
        refine ⟨?_, fun other apart => ?_⟩
        · rw [count_records]
          refine SlotTable.distinct_replace ?_ storedLeft rfl
          rw [counted_records]
          exact distinctLeft
        · rw [count_records, store_records, if_neg apart, counted_records, store_records,
            if_neg apart]
    · exact ⟨distinct, fun _ _ => rfl⟩

/-- Recovering one slot keeps the table sound unless storage fails for a record
that was rolled back. -/
theorem Sound.recover_slot (sound : manager.Sound) (slot : Fin packageMaxRecords) (answer : Bool)
    (permitted : ∀ record, manager.records slot = some record →
      record.transaction.state ≠ .removed → answer = false →
      record.transaction.contentUpdate.state ≠ .rolledBack) :
    (manager.recoverSlot slot answer).2.Sound := by
  rcases sound.recover_slot_cases slot answer with
    unchanged | ⟨record, stored, live, refused, quarantined⟩ |
      ⟨record, stored, -, activating, reported⟩
  · rw [unchanged]
    exact sound
  · rw [quarantined]
    have recordSound := (sound.records slot record stored).quarantine_both
      (permitted record stored live refused)
    have after : (manager.store slot record.quarantineBoth).Sound :=
      sound.store stored rfl recordSound
    exact ⟨after.records, after.distinct⟩
  · rw [reported]
    have after := sound.store stored (PackageRecord.apply_package_id (.reportHealth false) record)
      ((sound.records slot record stored).unhealthy activating).1
    exact ⟨by rw [counted_records]; exact after.records,
      by rw [counted_records]; exact after.distinct⟩

/-- Recovering a list of different slots keeps the table sound. Each slot still
holds its original record when its turn comes. -/
theorem Sound.recover_list (sound : manager.Sound) (slots : List (Fin packageMaxRecords))
    (different : slots.Nodup) (answers : Fin packageMaxRecords → Bool)
    (permitted : ∀ slot ∈ slots, ∀ record, manager.records slot = some record →
      record.transaction.state ≠ .removed → answers slot = false →
      record.transaction.contentUpdate.state ≠ .rolledBack) :
    (slots.foldl (fun current slot => (current.recoverSlot slot (answers slot)).2)
      manager).Sound := by
  induction slots generalizing manager with
  | nil => exact sound
  | cons slot rest ih =>
    obtain ⟨fresh, differentRest⟩ := List.nodup_cons.mp different
    have soundAfter := sound.recover_slot slot (answers slot) (permitted slot List.mem_cons_self)
    refine ih soundAfter differentRest ?_
    intro later among record stored
    rw [(recover_slot_frame sound.distinct slot (answers slot)).2 later
      fun same => fresh (same ▸ among)] at stored
    exact permitted later (List.mem_cons_of_mem slot among) record stored

/-- Quarantining the update of a record that was rolled back leaves a record that
cannot be persisted: it carries the previous digest, and its update now calls for
the candidate's. -/
theorem quarantine_both_not_persistable (sound : record.Sound)
    (reverted : record.transaction.contentUpdate.state = .rolledBack) :
    ¬ record.quarantineBoth.Persistable := by
  intro persistable
  have agrees : record.digest = record.transaction.contentUpdate.candidateDigest :=
    persistable.digestAgrees
  exact sound.admitted.distinct (agrees.symm.trans (sound.reverted reverted))

/-- Recovering other slots does not touch a slot. -/
theorem recover_list_frame (distinct : SlotTable.Distinct PackageRecord.packageId manager.records)
    (slots : List (Fin packageMaxRecords)) (answers : Fin packageMaxRecords → Bool)
    (absent : slot ∉ slots) :
    (slots.foldl (fun current place => (current.recoverSlot place (answers place)).2)
      manager).records slot = manager.records slot := by
  induction slots generalizing manager with
  | nil => rfl
  | cons place rest ih =>
    obtain ⟨distinctAfter, others⟩ := recover_slot_frame distinct place (answers place)
    have apart : slot ≠ place := fun same => absent (same ▸ List.mem_cons_self)
    rw [List.foldl_cons, ih distinctAfter fun inRest =>
      absent (List.mem_cons_of_mem place inRest), others slot apart]

/-- The step boot recovery must not take on a slot: storage fails for a live
record whose update was rolled back. -/
def Breaks (manager : PackageManager) (answers : Fin packageMaxRecords → Bool)
    (slot : Fin packageMaxRecords) : Prop :=
  ∃ record, manager.records slot = some record ∧ record.transaction.state ≠ .removed ∧
    answers slot = false ∧ record.transaction.contentUpdate.state = .rolledBack

/-- A breaking step on any of the slots leaves some record that cannot be
persisted, whatever the recovery of the other slots does. -/
theorem Sound.recover_list_breaks (sound : manager.Sound) (slots : List (Fin packageMaxRecords))
    (different : slots.Nodup) (answers : Fin packageMaxRecords → Bool) (among : slot ∈ slots)
    (breaks : manager.Breaks answers slot) :
    ∃ place left, (slots.foldl (fun current place =>
      (current.recoverSlot place (answers place)).2) manager).records place = some left ∧
      ¬ left.Persistable := by
  induction slots generalizing manager with
  | nil => cases among
  | cons place rest ih =>
    obtain ⟨fresh, differentRest⟩ := List.nodup_cons.mp different
    obtain ⟨distinctAfter, others⟩ := recover_slot_frame sound.distinct place (answers place)
    rw [List.foldl_cons]
    by_cases breaksHere : manager.Breaks answers place
    · obtain ⟨record, stored, live, refused, reverted⟩ := breaksHere
      refine ⟨place, record.quarantineBoth, ?_,
        quarantine_both_not_persistable (sound.records place record stored) reverted⟩
      rw [recover_list_frame distinctAfter rest answers fresh, recoverSlot, stored]
      have isLive : (record.transaction.state == .removed) = false := by simpa using live
      simp only [isLive, refused, Bool.false_eq_true, if_false, Bool.not_false, if_true]
      rw [count_records, store_records, if_pos rfl]
    · have apart : slot ≠ place := fun same => breaksHere (same ▸ breaks)
      have soundAfter := sound.recover_slot place (answers place)
        fun record stored live refused reverted =>
          breaksHere ⟨record, stored, live, refused, reverted⟩
      have breaksAfter : (manager.recoverSlot place (answers place)).2.Breaks answers slot := by
        rw [Breaks, others slot apart]
        exact breaks
      exact ih soundAfter differentRest
        ((List.mem_cons.mp among).resolve_left apart) breaksAfter

end PackageManager

namespace ManagerOperation

/-- A permitted step keeps the table sound. -/
theorem step_sound {manager : PackageManager} (sound : manager.Sound)
    (operation : ManagerOperation) (permitted : operation.Permitted manager) :
    (operation.apply manager).Sound := by
  cases operation with
  | importPackage package => exact sound.import package
  | onRecord packageId operation =>
    refine sound.on_record (PackageRecord.apply_package_id operation) ?_
    intro record found
    refine (sound.found found).1.step operation ?_
    intro digest isRejection
    subst isRejection
    exact permitted record found
  | recover answers =>
    exact sound.recover_list _ (List.nodup_finRange _) answers
      fun slot _ => permitted slot

/-- On a sound table a step leaves something that can be persisted exactly when
it is permitted. -/
theorem step_persisted_iff {manager : PackageManager} (sound : manager.Sound)
    (operation : ManagerOperation) :
    (operation.apply manager).persistedValid = true ↔ operation.Permitted manager := by
  constructor
  · intro valid
    have each := ((PackageManager.persisted_valid_iff _).mp valid).1
    cases operation with
    | importPackage package => trivial
    | onRecord packageId operation =>
      cases operation with
      | verify digest payloadVerified =>
        cases payloadVerified with
        | true => trivial
        | false =>
          intro record found reverted
          obtain ⟨slot, -, stored, keyed⟩ := SlotTable.lookup_stored found
          have rejected := PackageManager.on_record_slot sound.distinct stored
            (RecordOperation.verify digest false).apply
          rw [keyed] at rejected
          refine PackageManager.quarantine_both_not_persistable
            (sound.records slot record stored) reverted (each slot _ ?_)
          rw [apply, rejected, PackageManager.counted_records, PackageManager.store_records,
            if_pos rfl]
          rfl
      | _ => trivial
    | recover answers =>
      intro slot record stored live refused reverted
      obtain ⟨place, left, storedLeft, broken⟩ := sound.recover_list_breaks _
        (List.nodup_finRange _) answers (List.mem_finRange slot)
        ⟨record, stored, live, refused, reverted⟩
      exact broken (each place left storedLeft)
  · exact fun permitted => (step_sound sound operation permitted).persisted_valid

/-- A run reaches only managers that can be persisted exactly when all its steps
are permitted. -/
theorem run_persisted_iff {manager : PackageManager} (sound : manager.Sound)
    (operations : List ManagerOperation) :
    (∀ count, (run (operations.take count) manager).persistedValid = true) ↔
      RunPermitted operations manager := by
  induction operations generalizing manager with
  | nil =>
    simp only [List.take_nil, run, RunPermitted, iff_true]
    exact fun _ => sound.persisted_valid
  | cons operation rest ih =>
    constructor
    · intro valid
      have permitted := (step_persisted_iff sound operation).mp (valid 1)
      refine ⟨permitted, (ih (step_sound sound operation permitted)).mp ?_⟩
      exact fun count => valid (count + 1)
    · rintro ⟨permitted, permittedRest⟩ count
      cases count with
      | zero => exact sound.persisted_valid
      | succ count =>
        exact (ih (step_sound sound operation permitted)).mpr permittedRest count

/-- A manager passes the check, is saved whenever the storage calls succeed, and
the file then loads as exactly that manager, for every digest function, every
manager it is loaded over and every file it replaces. -/
def Persists (manager : PackageManager) : Prop :=
  manager.persistedValid = true ∧
    ∀ (Digest : Type) [DecidableEq Digest] (managerBytes : UInt32)
      (digestOf : StateHeader → Digest) (other : PackageManager)
      (before : Option (StateFile Digest)),
      let saved := manager.save managerBytes digestOf packageStatePath .succeeding before
      saved.1 = true ∧ other.load managerBytes digestOf packageStatePath .succeeding saved.2 =
        (true, manager)

theorem persists_iff (manager : PackageManager) :
    Persists manager ↔ manager.persistedValid = true :=
  ⟨fun persists => persists.1, fun valid => ⟨valid, fun _ _ _ _ other before =>
    load_save valid state_path_valid other before⟩⟩

/-- Along every run from the empty manager, all the managers reached pass the
persistence check, are saved and load back unchanged, exactly when no step
quarantines the update of a record that had been rolled back.

Proof: soundness of the table is kept by every permitted step, and a step that is
not permitted leaves a record whose digest is the previous one while its update
calls for the candidate's. -/
theorem run_persists_iff_permitted (operations : List ManagerOperation) :
    (∀ count, Persists (run (operations.take count) .init)) ↔ RunPermitted operations .init := by
  simp only [persists_iff]
  exact run_persisted_iff PackageManager.init_sound operations

def sampleImport : PackageImport where
  contentType := .literal "application"
  packageId := .literal "demo"
  version := .literal "1"
  previousVersion := .literal ""
  candidateDigest := ⟨List.replicate 64 49, by decide⟩
  previousDigest := .literal ""
  signingKeyId := .literal "key"
  manifestPath := .literal "/ext/apps/.staging/demo"
  entrypoint := .literal "main.js"
  capabilityMask := 1
  releaseSequence := 1
  contentBytes := 4
  hardwareTarget := 7
  firmwareApi := 1
  availableStorageBytes := 4096
  previousState := .removed
  protectedPackage := false
  confirmationRequired := false
  manifestVerified := true

/-- A package is installed, reported unhealthy and then offered for verification
again with a payload that does not verify. -/
def rejectedAfterRollback : List ManagerOperation :=
  [.importPackage sampleImport,
    .onRecord sampleImport.packageId (.receive 4),
    .onRecord sampleImport.packageId (.verify sampleImport.candidateDigest true),
    .onRecord sampleImport.packageId (.activate true),
    .onRecord sampleImport.packageId (.reportHealth false),
    .onRecord sampleImport.packageId (.verify sampleImport.candidateDigest false)]

/-- Not every reachable manager can be persisted. -/
theorem reachable_not_persisted : ¬ ∀ operations, Persists (run operations .init) := by
  intro always
  have passed := (always rejectedAfterRollback).1
  revert passed
  decide +kernel

end ManagerOperation

end PoisonedOS
