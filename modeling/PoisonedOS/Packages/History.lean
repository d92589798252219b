import PoisonedOS.Library.Runs
import PoisonedOS.Packages.Persisted

/-!
# Histories of one package

A run of the manager is followed one package at a time. Each step of the run
does one of a few things to a package: it leaves the record alone, drops a
removed package whose slot another import takes, writes the record of an
accepted import, changes the record by an operation on it, or recovers it at
boot.

Nothing here asks for the soundness that the persistence check needs. The
identifiers stay distinct and every stored transaction stays begun along every
run, whatever its arguments.
-/

namespace PoisonedOS

namespace PackageRecord

/-- What boot recovery leaves of a record, given what the storage layer answered. -/
def recover (record : PackageRecord) (answer : Bool) : PackageRecord :=
  if record.transaction.state == .removed then record
  else if !answer then record.quarantineBoth
  else if record.activating then
    if (record.reportHealth false).result then (record.reportHealth false).record
    else (record.reportHealth false).record.quarantineBoth
  else record

/-- The stored transaction was begun by an admitted import. -/
structure Begun (record : PackageRecord) : Prop where
  initialized : record.transaction.initialized = true
  admitted : ContentUpdate.Admitted record.transaction.contentUpdate.identity

variable {record : PackageRecord}

/-- Only the fixed part of the update and the flag matter. -/
theorem Begun.of_same {other : PackageRecord} (begun : record.Begun)
    (initialized : other.transaction.initialized = record.transaction.initialized)
    (fixed : other.transaction.contentUpdate.identity = record.transaction.contentUpdate.identity) :
    other.Begun :=
  ⟨initialized.trans begun.initialized, fixed ▸ begun.admitted⟩

/-- What a health report leaves of a begun record. -/
theorem Begun.report_health_cases (begun : record.Begun) (healthy : Bool) :
    (record.transaction.contentUpdate.state ≠ .activating ∧
      record.reportHealth healthy = ⟨false, record, false⟩) ∨
    (record.transaction.contentUpdate.state = .activating ∧
      (record.reportHealth healthy).result = true ∧
      (record.reportHealth healthy).record.transaction = { record.transaction with
        state := if healthy then .active else record.transaction.rollbackState
        contentUpdate := { record.transaction.contentUpdate with
          state := if healthy then .healthy else .rolledBack
          healthReported := true } } ∧
      (record.reportHealth healthy).record.version =
        (if healthy || record.previousVersion.isEmpty then record.version
        else record.previousVersion) ∧
      (record.reportHealth healthy).record.digest =
        (if healthy || record.previousDigest.isEmpty then record.digest
        else record.previousDigest) ∧
      (record.reportHealth healthy).record.previousVersion = record.previousVersion ∧
      (record.reportHealth healthy).record.previousDigest = record.previousDigest) := by
  rcases PackageTransaction.report_health_cases begun.initialized begun.admitted healthy with
    ⟨settled, unchanged⟩ | ⟨activating, reported⟩
  · refine .inl ⟨settled, ?_⟩
    simp only [reportHealth, unchanged]
  · refine .inr ⟨activating, ?_⟩
    cases healthy <;> simp [reportHealth, reported]

/-- An operation leaves the fixed part of a begun update alone. -/
theorem Begun.apply_fixed (begun : record.Begun) (operation : RecordOperation) :
    (operation.apply record).record.transaction.initialized = record.transaction.initialized ∧
      (operation.apply record).record.transaction.contentUpdate.identity =
        record.transaction.contentUpdate.identity := by
  have effect := effect begun.initialized begun.admitted operation
  generalize operation.apply record = step at effect ⊢
  cases effect <;> exact ⟨rfl, rfl⟩

/-- Every operation keeps a transaction begun. -/
theorem Begun.apply (begun : record.Begun) (operation : RecordOperation) :
    (operation.apply record).record.Begun := by
  obtain ⟨initialized, fixed⟩ := begun.apply_fixed operation
  exact begun.of_same initialized fixed

/-- What recovery leaves of a begun record: the record itself, both states
quarantined, or the record after an unhealthy report. -/
theorem Begun.recover_cases (begun : record.Begun) (answer : Bool) :
    (record.recover answer = record ∧ (record.transaction.state = .removed ∨ answer = true)) ∨
    (record.transaction.state ≠ .removed ∧ answer = false ∧
      record.recover answer = record.quarantineBoth) ∨
    (record.transaction.state ≠ .removed ∧ answer = true ∧
      record.transaction.contentUpdate.state = .activating ∧
      record.recover answer = (record.reportHealth false).record) := by
  unfold recover
  by_cases removed : record.transaction.state = .removed
  · exact .inl ⟨by simp [removed], .inl removed⟩
  have live : (record.transaction.state == .removed) = false := by simpa using removed
  simp only [live, Bool.false_eq_true, if_false]
  cases answer with
  | false => exact .inr (.inl ⟨removed, rfl, rfl⟩)
  | true =>
    rcases begun.report_health_cases false with ⟨settled, -⟩ | ⟨activating, accepted, -⟩
    · exact .inl ⟨by simp [activating, settled], .inr rfl⟩
    · exact .inr (.inr ⟨removed, rfl, activating, by
        simp [PackageRecord.activating, activating, accepted]⟩)

/-- Recovery keeps a transaction begun. -/
theorem Begun.recover (begun : record.Begun) (answer : Bool) :
    (record.recover answer).Begun := by
  rcases begun.recover_cases answer with ⟨unchanged, -⟩ | ⟨-, -, quarantined⟩ | ⟨-, -, -, reported⟩
  · rw [unchanged]
    exact begun
  · rw [quarantined]
    exact begun.of_same rfl rfl
  · rw [reported]
    exact begun.apply (.reportHealth false)

/-- Recovery leaves the identifier alone. -/
theorem recover_package_id (record : PackageRecord) (answer : Bool) :
    (record.recover answer).packageId = record.packageId := by
  have keyed := apply_package_id (.reportHealth false) record
  unfold PackageRecord.recover
  split
  · rfl
  split
  · rfl
  split
  · split
    · exact keyed
    · exact keyed
  · rfl

end PackageRecord

namespace PackageManager

variable {manager : PackageManager}

theorem recover_slot_records (distinct : SlotTable.Distinct PackageRecord.packageId manager.records)
    (slot : Fin packageMaxRecords) (answer : Bool) :
    (manager.recoverSlot slot answer).2.records slot =
      (manager.records slot).map fun record => record.recover answer := by
  unfold recoverSlot
  cases stored : manager.records slot with
  | none => simp [stored]
  | some record =>
    simp only [Option.map_some, PackageRecord.recover]
    split
    · exact stored
    split
    · rw [count_records, store_records, if_pos rfl]
    split
    · have reported := on_record_slot distinct stored (RecordOperation.reportHealth false).apply
      rw [reportHealth, reported, RecordOperation.apply]
      cases (record.reportHealth false).result with
      | true => simp [store_records]
      | false => simp [store_records]
    · exact stored

theorem recover_list_records (distinct : SlotTable.Distinct PackageRecord.packageId manager.records)
    (slots : List (Fin packageMaxRecords)) (different : slots.Nodup)
    (answers : Fin packageMaxRecords → Bool) :
    let recovered := slots.foldl
      (fun current place => (current.recoverSlot place (answers place)).2) manager
    SlotTable.Distinct PackageRecord.packageId recovered.records ∧
      ∀ slot ∈ slots, recovered.records slot =
        (manager.records slot).map fun record => record.recover (answers slot) := by
  induction slots generalizing manager with
  | nil => exact ⟨distinct, fun slot among => by cases among⟩
  | cons place rest ih =>
    obtain ⟨fresh, differentRest⟩ := List.nodup_cons.mp different
    obtain ⟨distinctAfter, others⟩ := recover_slot_frame distinct place (answers place)
    obtain ⟨distinctLater, later⟩ := ih distinctAfter differentRest
    refine ⟨distinctLater, fun slot among => ?_⟩
    rcases List.mem_cons.mp among with rfl | inRest
    · rw [List.foldl_cons, recover_list_frame distinctAfter rest answers fresh,
        recover_slot_records distinct]
    · have apart : slot ≠ place := by
        rintro rfl
        exact fresh inRest
      rw [List.foldl_cons, later slot inRest, others slot apart]

/-- Boot recovery keeps identifiers distinct and recovers every record. -/
theorem recover_slots_records
    (distinct : SlotTable.Distinct PackageRecord.packageId manager.records)
    (answers : Fin packageMaxRecords → Bool) :
    SlotTable.Distinct PackageRecord.packageId (manager.recoverSlots answers).records ∧
      ∀ slot, (manager.recoverSlots answers).records slot =
        (manager.records slot).map fun record => record.recover (answers slot) := by
  obtain ⟨after, recovered⟩ :=
    recover_list_records distinct _ (List.nodup_finRange packageMaxRecords) answers
  exact ⟨after, fun slot => recovered slot (List.mem_finRange slot)⟩

/-- Distinct identifiers and begun transactions: what every operation keeps,
whatever its arguments. -/
structure Keyed (manager : PackageManager) : Prop where
  distinct : SlotTable.Distinct PackageRecord.packageId manager.records
  begun : ∀ slot record, manager.records slot = some record → record.Begun

/-- The empty manager. -/
theorem init_keyed : init.Keyed := ⟨init_sound.distinct, fun _ _ stored => by cases stored⟩

/-- A found record was begun and carries the identifier it was found under. -/
theorem Keyed.found (keyed : manager.Keyed) {packageId : CString} {record : PackageRecord}
    (found : manager.find packageId = some record) :
    record.Begun ∧ record.packageId = packageId := by
  obtain ⟨slot, -, stored, named⟩ := SlotTable.lookup_stored found
  exact ⟨keyed.begun slot record stored, named⟩

/-- Writing a begun record keeps every stored transaction begun. -/
theorem Keyed.store (keyed : manager.Keyed) {slot : Fin packageMaxRecords} {record : PackageRecord}
    (distinct : SlotTable.Distinct PackageRecord.packageId (manager.store slot record).records)
    (begun : record.Begun) : (manager.store slot record).Keyed where
  distinct
  begun := by
    intro place other stored
    rw [store_records] at stored
    split at stored
    · cases stored
      exact begun
    · exact keyed.begun place other stored

end PackageManager

namespace ManagerOperation

/-- The operation reports success. Boot recovery reports nothing. -/
def accepted : ManagerOperation → PackageManager → Bool
  | .importPackage package, manager => (manager.importPackage package).1
  | .onRecord packageId operation, manager => (manager.onRecord packageId operation.apply).1
  | .recover _, _ => true

/-- What a step of a run, with its result, does to the package with the
identifier. -/
inductive Effect (packageId : CString) :
    ManagerOperation → Bool → Option PackageRecord → Option PackageRecord → Prop
  /-- It is not about this package, or refused. -/
  | kept (operation result record) : Effect packageId operation result record record
  /-- A removed package loses its slot to the import of another. -/
  | reused (package : PackageImport) (result : Bool) (record : PackageRecord)
      (other : package.packageId ≠ packageId) (removed : record.transaction.state = .removed) :
      Effect packageId (.importPackage package) result (some record) none
  /-- An accepted import installs a package that is absent or removed. -/
  | installed (package : PackageImport) (updateType : ContentUpdateType)
      (before : Option PackageRecord) (transaction : PackageTransaction)
      (named : package.packageId = packageId) (checked : package.check = some updateType)
      (installs : package.installs = true)
      (absent : ∀ record, before = some record → record.transaction.state = .removed)
      (begun : PackageTransaction.begin (package.admission updateType none).1
        (package.admission updateType none).2 package.previousState package.protectedPackage =
          (.ok, some transaction)) :
      Effect packageId (.importPackage package) true before (some (package.record none transaction))
  /-- An accepted import updates a package that is not removed. -/
  | updated (package : PackageImport) (updateType : ContentUpdateType) (record : PackageRecord)
      (transaction : PackageTransaction)
      (named : package.packageId = packageId) (checked : package.check = some updateType)
      (updates : package.updates record = true)
      (present : record.transaction.state ≠ .removed)
      (begun : PackageTransaction.begin (package.admission updateType (some record)).1
        (package.admission updateType (some record)).2 package.previousState
        package.protectedPackage = (.ok, some transaction)) :
      Effect packageId (.importPackage package) true (some record)
        (some (package.record (some record) transaction))
  /-- An operation is applied to its record. -/
  | applied (operation : RecordOperation) (record : PackageRecord) :
      Effect packageId (.onRecord packageId operation) (operation.apply record).result (some record)
        (some (operation.apply record).record)
  /-- Boot recovery meets the record. -/
  | recovered (answers : Fin packageMaxRecords → Bool) (result answer : Bool)
      (record : PackageRecord) :
      Effect packageId (.recover answers) result (some record) (some (record.recover answer))

/-- Every step keeps identifiers distinct and transactions begun. -/
theorem apply_keyed {manager : PackageManager} (keyed : manager.Keyed)
    (operation : ManagerOperation) : (operation.apply manager).Keyed := by
  cases operation with
  | importPackage package =>
    simp only [apply]
    rcases manager.import_cases package with
      unchanged | ⟨updateType, slot, previous, transaction, -, chosen, begun, written⟩
    · rw [unchanged]
      exact keyed
    · rw [written]
      obtain ⟨update, admitted, isSome, -⟩ := PackageTransaction.begin_ok begun
      obtain ⟨_, isUpdate, fixed, -⟩ := ContentUpdate.admit_ok admitted
      cases isUpdate
      cases isSome
      have stored : (package.record previous { state := package.previousState
                                               rollbackState := package.previousState
                                               protectedPackage := package.protectedPackage
                                               initialized := true
                                               contentUpdate := update }).Begun :=
        ⟨rfl, fixed⟩
      have after := keyed.store (PackageManager.import_distinct keyed.distinct chosen _) stored
      exact ⟨after.distinct, after.begun⟩
  | onRecord packageId operation =>
    simp only [apply]
    rcases manager.on_record_cases packageId operation.apply with
      ⟨-, unchanged⟩ | ⟨slot, record, -, -, stored, -, changed⟩
    · rw [unchanged]
      exact keyed
    · rw [changed]
      have after := keyed.store (SlotTable.distinct_replace keyed.distinct stored
        (PackageRecord.apply_package_id operation record))
        ((keyed.begun slot record stored).apply operation)
      exact ⟨by rw [PackageManager.counted_records]; exact after.distinct,
        by rw [PackageManager.counted_records]; exact after.begun⟩
  | recover answers =>
    obtain ⟨distinct, recovered⟩ := PackageManager.recover_slots_records keyed.distinct answers
    refine ⟨distinct, fun slot record stored => ?_⟩
    rw [apply, recovered slot, Option.map_eq_some_iff] at stored
    obtain ⟨before, wasStored, rfl⟩ := stored
    exact (keyed.begun slot before wasStored).recover (answers slot)

/-- A step has one of the effects on each package. -/
theorem effect {manager : PackageManager} (keyed : manager.Keyed) (operation : ManagerOperation)
    (packageId : CString) :
    Effect packageId operation (operation.accepted manager) (manager.find packageId)
      ((operation.apply manager).find packageId) := by
  cases operation with
  | importPackage package =>
    simp only [apply, accepted]
    rcases manager.import_cases package with
      unchanged | ⟨updateType, slot, previous, transaction, checked, chosen, begun, written⟩
    · rw [unchanged]
      exact .kept _ _ _
    · rw [written]
      dsimp only
      rcases PackageManager.find_import keyed.distinct chosen transaction packageId with
        ⟨same, stored⟩ | ⟨-, kept⟩ | ⟨other, lost, displaced, found, removed⟩
      · rw [stored]
        subst same
        rcases PackageManager.import_slot_cases chosen with
          ⟨record, found, -, -, ⟨present, updates, isPrevious⟩ | ⟨removed, installs, isNone⟩⟩ |
            ⟨absent, installs, isNone, -⟩
        · rw [found]
          subst isPrevious
          exact .updated package updateType record transaction rfl checked updates present begun
        · rw [found]
          subst isNone
          refine .installed package updateType _ transaction rfl checked installs ?_ begun
          rintro _ ⟨rfl⟩
          exact removed
        · rw [absent]
          subst isNone
          refine .installed package updateType _ transaction rfl checked installs ?_ begun
          rintro _ ⟨⟩
      · rw [kept]
        exact .kept _ _ _
      · rw [lost, found]
        exact .reused package _ displaced other.symm removed
  | onRecord other operation =>
    simp only [apply, accepted]
    rw [PackageManager.find_on_record _ _ (PackageRecord.apply_package_id operation),
      PackageManager.on_record_result]
    split
    · rename_i same
      subst same
      cases manager.find packageId with
      | none => exact .kept _ _ _
      | some record => exact .applied operation record
    · exact .kept _ _ _
  | recover answers =>
    obtain ⟨distinct, recovered⟩ := PackageManager.recover_slots_records keyed.distinct answers
    simp only [apply]
    cases found : manager.find packageId with
    | none =>
      have absent := SlotTable.findSlot_none.mp (SlotTable.lookup_none.mp found)
      have still : (manager.recoverSlots answers).find packageId = none := by
        rw [PackageManager.find, SlotTable.lookup_none, SlotTable.findSlot_none]
        intro slot record stored
        rw [recovered slot, Option.map_eq_some_iff] at stored
        obtain ⟨before, wasStored, rfl⟩ := stored
        rw [PackageRecord.recover_package_id]
        exact absent slot before wasStored
      rw [still]
      exact .kept _ _ _
    | some record =>
      obtain ⟨slot, -, stored, named⟩ := SlotTable.lookup_stored found
      have after : (manager.recoverSlots answers).find packageId =
          some (record.recover (answers slot)) := by
        refine (SlotTable.lookup_iff distinct).mpr ⟨slot, ?_, ?_⟩
        · rw [recovered slot, stored, Option.map_some]
        · rw [PackageRecord.recover_package_id, named]
      rw [after]
      exact .recovered answers _ (answers slot) record

/-- The manager a run from the empty one has reached after its first steps. -/
def managerAt (operations : List ManagerOperation) (index : Nat) : PackageManager :=
  run (operations.take index) .init

/-- It is the state reached in the sense of runs of a step function. -/
theorem manager_at_eq (operations : List ManagerOperation) (index : Nat) :
    managerAt operations index = Runs.reached apply .init operations index := by
  have folded : ∀ (taken : List ManagerOperation) (manager : PackageManager),
      run taken manager = taken.foldl (fun state operation => operation.apply state) manager := by
    intro taken
    induction taken with
    | nil => exact fun _ => rfl
    | cons operation rest ih =>
      exact fun manager => ih (operation.apply manager)
  exact folded _ _

@[simp] theorem manager_at_zero (operations : List ManagerOperation) :
    managerAt operations 0 = .init := rfl

variable {operations : List ManagerOperation}

/-- Each step of a run is applied to the manager reached before it. -/
theorem manager_at_succ {index : Nat} {operation : ManagerOperation}
    (taken : operations[index]? = some operation) :
    managerAt operations (index + 1) = operation.apply (managerAt operations index) := by
  rw [manager_at_eq, manager_at_eq, Runs.reached_succ taken]

/-- A run stands still after its last step. -/
theorem manager_at_end {index : Nat} (ended : operations[index]? = none) :
    managerAt operations (index + 1) = managerAt operations index := by
  rw [manager_at_eq, manager_at_eq, Runs.reached_end ended]

/-- What holds of the empty manager and is kept by each step of a run holds all
along it. -/
theorem run_induction {motive : PackageManager → Prop} (initial : motive .init)
    (step : ∀ index operation, operations[index]? = some operation →
      motive (managerAt operations index) →
      motive (operation.apply (managerAt operations index))) (index : Nat) :
    motive (managerAt operations index) := by
  simp only [manager_at_eq] at step ⊢
  exact Runs.always (motive := motive) initial step index

/-- Every manager a run reaches has distinct identifiers and begun transactions. -/
theorem manager_at_keyed (operations : List ManagerOperation) (index : Nat) :
    (managerAt operations index).Keyed :=
  run_induction PackageManager.init_keyed
    (fun _ operation _ keyed => apply_keyed keyed operation) index

end ManagerOperation

end PoisonedOS
