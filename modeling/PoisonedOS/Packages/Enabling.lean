import PoisonedOS.Packages.Releases

/-!
# Disabling an active package and enabling it again

A package is active content when its lifecycle state is `active` and its update
is either healthy or rolled back: the package then runs with the version it went
back to. The transition table, which decides whether a disabled package may
become active again, knows only the healthy update.

So the two requests are inverse to each other exactly on the packages whose last
update was reported healthy. A package that runs after a rollback, or after a
failed update, can be disabled and never enabled again.
-/

namespace PoisonedOS

namespace PackageTransaction

/-- An active package can always be disabled. -/
theorem transition_disabled {transaction : PackageTransaction}
    (active : transaction.state = .active) :
    transaction.transition .disabled =
      (true, { transaction with rollbackState := .active, state := .disabled }) := by
  have edge : allowed .active .disabled = true := by decide
  simp [transition, edge, active]

theorem transition_enabled {transaction : PackageTransaction}
    (initialized : transaction.initialized = true) (disabled : transaction.state = .disabled) :
    transaction.transition .active =
      if transaction.contentUpdate.state = .healthy then
        (true, { transaction with rollbackState := .disabled, state := .active })
      else (false, transaction) := by
  have edge : allowed .disabled .active = true := by decide
  by_cases healthy : transaction.contentUpdate.state = .healthy
  · simp [transition, edge, initialized, healthy, disabled]
  · simp [transition, healthy]

end PackageTransaction

namespace PackageRecord

/-- What identifies the content a record stands for, and the content it would go
back to. -/
structure SameContent (before after : PackageRecord) : Prop where
  version : after.version = before.version
  digest : after.digest = before.digest
  previousVersion : after.previousVersion = before.previousVersion
  previousDigest : after.previousDigest = before.previousDigest

variable {record : PackageRecord}

/-- Disabling an active record succeeds whatever is confirmed. -/
theorem set_enabled_off (active : record.transaction.state = .active) (confirmation : Bool) :
    record.setEnabled false confirmation =
      ⟨true, { record with transaction := { record.transaction with
        rollbackState := .active, state := .disabled } }, true⟩ := by
  simp only [setEnabled, Bool.false_and, Bool.false_eq_true, if_false,
    PackageTransaction.transition_disabled active]

/-- Enabling a disabled record with the exact confirmation is left to its update. -/
theorem Begun.set_enabled_on (begun : record.Begun)
    (disabled : record.transaction.state = .disabled) :
    record.setEnabled true true =
      if record.transaction.contentUpdate.state = .healthy then
        ⟨true, { record with transaction := { record.transaction with
          rollbackState := .disabled, state := .active } }, true⟩
      else ⟨false, record, false⟩ := by
  have moved := PackageTransaction.transition_enabled begun.initialized disabled
  simp only [setEnabled, Bool.not_true, Bool.and_false, Bool.false_eq_true, if_false, if_true,
    moved]
  split
  · rfl
  · rfl

/-- Active content has one of two updates. -/
theorem active_content_iff {contentType : CString} :
    record.activeContent contentType = true ↔
      record.contentType = contentType ∧ record.transaction.state = .active ∧
        (record.transaction.contentUpdate.state = .healthy ∨
          record.transaction.contentUpdate.state = .rolledBack) := by
  simp [activeContent, and_assoc]

/-- No update of the record has been taken back. -/
def Unreverted (record : PackageRecord) : Prop :=
  record.transaction.contentUpdate.state ≠ .rolledBack

/-- Only a rollback and an unhealthy report take an update back. -/
theorem Coherent.unreverted_apply (coherent : record.Coherent) (unreverted : record.Unreverted)
    {operation : RecordOperation} (notRollback : ∀ confirmation, operation ≠ .rollback confirmation)
    (notUnhealthy : operation ≠ .reportHealth false) :
    (operation.apply record).record.Unreverted := by
  have effect := PackageRecord.effect coherent.begun.initialized coherent.begun.admitted operation
  generalize operation.apply record = step at effect ⊢
  cases effect with
  | same | rejected | toggled | removed | quarantined => exact unreverted
  | opened | added | completed | refused | mismatched | verified | activated | healthy =>
    exact fun reverted => by cases reverted
  | unhealthy activating => exact absurd rfl notUnhealthy
  | swapped retained live revertible => exact absurd rfl (notRollback _)

end PackageRecord

namespace ManagerOperation

/-- Disabling the package and then enabling it with the exact confirmation both
succeed, and the record is active content again, with the content it had. -/
structure Reenabled (manager : PackageManager) (packageId contentType : CString)
    (confirmation : Bool) (record : PackageRecord) : Prop where
  disabled : (manager.setEnabled packageId false confirmation).1 = true
  enabled :
    ((manager.setEnabled packageId false confirmation).2.setEnabled packageId true true).1 = true
  active :
    ((manager.setEnabled packageId false confirmation).2.setEnabled packageId true
      true).2.activeContent packageId contentType = true
  same : ∃ after,
    ((manager.setEnabled packageId false confirmation).2.setEnabled packageId true true).2.find
      packageId = some after ∧ record.SameContent after

/-- The step takes an update back: a rollback, an unhealthy report, or a boot
that meets an update waiting for its report. -/
def TakesBack (manager : PackageManager) : ManagerOperation → Prop
  | .onRecord _ (.rollback _) => True
  | .onRecord _ (.reportHealth false) => True
  | .recover _ => ∃ packageId record, manager.find packageId = some record ∧
      record.transaction.contentUpdate.state = .activating
  | _ => False

/-- Where the record of an identifier is found after it was disabled or enabled. -/
theorem find_set_enabled (manager : PackageManager) (packageId : CString)
    (enabled confirmation : Bool) :
    (manager.setEnabled packageId enabled confirmation).2.find packageId =
      (manager.find packageId).map fun record =>
        (record.setEnabled enabled confirmation).record := by
  have found := PackageManager.find_on_record manager packageId
    (PackageRecord.apply_package_id (.setEnabled enabled confirmation)) packageId
  rw [if_pos rfl] at found
  exact found

/-- What the request reports is what the record's own step reports. -/
theorem set_enabled_result (manager : PackageManager) (packageId : CString)
    (enabled confirmation : Bool) :
    (manager.setEnabled packageId enabled confirmation).1 =
      (manager.find packageId).any fun record =>
        (record.setEnabled enabled confirmation).result :=
  PackageManager.on_record_result manager packageId _

/-- An active package whose transaction was begun can be disabled and enabled
again exactly when its update is healthy. -/
theorem reenabled_iff_healthy {manager : PackageManager} {packageId contentType : CString}
    {record : PackageRecord} (found : manager.find packageId = some record)
    (begun : record.Begun) (active : record.activeContent contentType = true)
    (confirmation : Bool) :
    Reenabled manager packageId contentType confirmation record ↔
      record.transaction.contentUpdate.state = .healthy := by
  obtain ⟨typed, isActive, -⟩ := PackageRecord.active_content_iff.mp active
  have off := PackageRecord.set_enabled_off isActive confirmation
  have foundOff := find_set_enabled manager packageId false confirmation
  rw [found, Option.map_some, off] at foundOff
  have begunOff : PackageRecord.Begun { record with transaction := { record.transaction with
      rollbackState := .active, state := .disabled } } := begun.of_same rfl rfl
  have on := begunOff.set_enabled_on rfl
  constructor
  · rintro ⟨-, enabled, -, -⟩
    rw [set_enabled_result, foundOff, Option.any_some, on] at enabled
    by_contra failed
    rw [if_neg failed] at enabled
    cases enabled
  · intro healthy
    rw [if_pos healthy] at on
    have foundOn := find_set_enabled (manager.setEnabled packageId false confirmation).2
      packageId true true
    rw [foundOff, Option.map_some, on] at foundOn
    refine ⟨?_, ?_, ?_, _, foundOn, ⟨rfl, rfl, rfl, rfl⟩⟩
    · rw [set_enabled_result, found, Option.any_some, off]
    · rw [set_enabled_result, foundOff, Option.any_some, on]
    · rw [PackageManager.activeContent, foundOn, Option.any_some,
        PackageRecord.active_content_iff]
      exact ⟨typed, rfl, .inl healthy⟩

/-- In a run that takes no update back no record has a rolled back update. -/
theorem run_unreverted {operations : List ManagerOperation}
    (steady : ∀ index operation, operations[index]? = some operation →
      ¬ TakesBack (managerAt operations index) operation) (index : Nat) :
    ∀ packageId record, (managerAt operations index).find packageId = some record →
      record.Unreverted := by
  refine run_induction (motive := fun manager => ∀ packageId record,
    manager.find packageId = some record → record.Unreverted) ?_ ?_ index
  · intro packageId record found
    rw [PackageManager.find_init] at found
    cases found
  · intro index operation taken unreverted packageId record found
    have stays := steady index operation taken
    have stepped := effect (manager_at_keyed operations index) operation packageId
    rw [found] at stepped
    generalize isBefore : (managerAt operations index).find packageId = before at stepped
    generalize operation.accepted (managerAt operations index) = result at stepped
    cases stepped with
    | kept _ _ _ => exact unreverted packageId record isBefore
    | installed package updateType _ transaction _ _ _ _ begun =>
      have discovered := PackageTransaction.begin_discovered begun
      exact fun reverted => by cases discovered.symm.trans reverted
    | updated package updateType prior transaction _ _ _ _ begun =>
      have discovered := PackageTransaction.begin_discovered begun
      exact fun reverted => by cases discovered.symm.trans reverted
    | applied operation prior =>
      refine (run_coherent operations index packageId prior isBefore).unreverted_apply
        (unreverted packageId prior isBefore) ?_ ?_
      · rintro confirmation rfl
        exact stays trivial
      · rintro rfl
        exact stays trivial
    | recovered answers _ answer prior =>
      have begun := (run_coherent operations index packageId prior isBefore).begun
      rcases begun.recover_cases answer with
        ⟨unchanged, -⟩ | ⟨-, -, quarantined⟩ | ⟨-, -, activating, -⟩
      · rw [unchanged]
        exact unreverted packageId prior isBefore
      · rw [quarantined]
        exact fun reverted => by cases reverted
      · exact absurd ⟨packageId, prior, isBefore, activating⟩ stays

/-- In every state of every run, a package reported active can be disabled and
enabled again exactly when its update is healthy; and in a run that takes no
update back that is every package reported active.

Proof: the transition table asks a disabled package for a healthy update and for
nothing else, and the update of an active package is healthy or rolled back. -/
theorem run_reenabled (operations : List ManagerOperation) :
    (∀ index packageId contentType record confirmation,
      (managerAt operations index).find packageId = some record →
      (managerAt operations index).activeContent packageId contentType = true →
      (Reenabled (managerAt operations index) packageId contentType confirmation record ↔
        record.transaction.contentUpdate.state = .healthy)) ∧
    ((∀ index operation, operations[index]? = some operation →
        ¬ TakesBack (managerAt operations index) operation) →
      ∀ index packageId contentType record confirmation,
        (managerAt operations index).find packageId = some record →
        (managerAt operations index).activeContent packageId contentType = true →
        Reenabled (managerAt operations index) packageId contentType confirmation record) := by
  have exactly : ∀ index packageId contentType record confirmation,
      (managerAt operations index).find packageId = some record →
      (managerAt operations index).activeContent packageId contentType = true →
      record.activeContent contentType = true ∧
        (Reenabled (managerAt operations index) packageId contentType confirmation record ↔
          record.transaction.contentUpdate.state = .healthy) := by
    intro index packageId contentType record confirmation found active
    rw [PackageManager.activeContent, found, Option.any_some] at active
    exact ⟨active, reenabled_iff_healthy found
      ((manager_at_keyed operations index).found found).1 active confirmation⟩
  refine ⟨fun index packageId contentType record confirmation found active =>
    (exactly index packageId contentType record confirmation found active).2, ?_⟩
  intro steady index packageId contentType record confirmation found active
  obtain ⟨isActive, healthyIff⟩ :=
    exactly index packageId contentType record confirmation found active
  obtain ⟨-, -, healthy | reverted⟩ := PackageRecord.active_content_iff.mp isActive
  · exact healthyIff.mpr healthy
  · exact absurd reverted (run_unreverted steady index packageId record found)

/-- The sample package is updated, and the update is reported unhealthy: the
package runs with its first release. -/
def failedUpdate : List ManagerOperation :=
  healthyInstallation sampleImport ++
    [.importPackage sampleUpdate, .onRecord sampleImport.packageId (.receive 4),
      .onRecord sampleImport.packageId (.verify sampleUpdate.candidateDigest true),
      .onRecord sampleImport.packageId (.activate true),
      .onRecord sampleImport.packageId (.reportHealth false)]

/-- Not every package reported active can be disabled and enabled again: after a
failed update the package runs, and once disabled it stays so. -/
theorem failed_update_stays_disabled :
    ¬ ∀ (operations : List ManagerOperation) (index : Nat) (packageId contentType : CString)
      (record : PackageRecord),
      (managerAt operations index).find packageId = some record →
      (managerAt operations index).activeContent packageId contentType = true →
      Reenabled (managerAt operations index) packageId contentType true record := by
  intro always
  have present :
      ((managerAt failedUpdate 10).find sampleImport.packageId).isSome = true := by decide +kernel
  have active : (managerAt failedUpdate 10).activeContent sampleImport.packageId
      sampleImport.contentType = true := by decide +kernel
  have refused : (((managerAt failedUpdate 10).setEnabled sampleImport.packageId false
      true).2.setEnabled sampleImport.packageId true true).1 = false := by decide +kernel
  obtain ⟨record, found⟩ := Option.isSome_iff_exists.mp present
  have enabled := (always failedUpdate 10 _ _ record found active).enabled
  rw [refused] at enabled
  cases enabled

end ManagerOperation

end PoisonedOS
