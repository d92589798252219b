import PoisonedOS.Packages.Lifecycle

/-!
# The releases a package has run

A release counts as having run once it was reported healthy. Two promises are
about these releases over whole runs: no import brings back an older one, and
the previous version a record names is one of them.

The manager keeps the floor for the first promise in the record alone, as the
sequence of its update. It holds as long as the record stays: a package that was
removed, or whose slot was taken, is imported again without any floor.
-/

namespace PoisonedOS

theorem ContentUpdate.admit_newer {manifest : ContentUpdateManifest}
    {environment : ContentUpdateEnvironment} {stored : Option ContentUpdate}
    (admitted : admitUpdate manifest environment = (.ok, stored)) :
    environment.highestReleaseSequence < manifest.releaseSequence := by
  unfold admitUpdate at admitted
  iterate 5
    split at admitted
    · simp at admitted
  split at admitted
  · simp at admitted
  · rename_i newer
    exact UInt32.not_le.mp newer

namespace PackageRecord

def releaseSequence (record : PackageRecord) : UInt32 :=
  record.transaction.contentUpdate.sequence

theorem Begun.apply_sequence {record : PackageRecord} (begun : record.Begun)
    (operation : RecordOperation) :
    (operation.apply record).record.releaseSequence = record.releaseSequence :=
  congrArg ContentUpdate.Identity.sequence (begun.apply_fixed operation).2

/-- Neither does boot recovery. -/
theorem Begun.recover_sequence {record : PackageRecord} (begun : record.Begun) (answer : Bool) :
    (record.recover answer).releaseSequence = record.releaseSequence := by
  rcases begun.recover_cases answer with
    ⟨unchanged, -⟩ | ⟨-, -, quarantined⟩ | ⟨-, -, -, reported⟩
  · rw [unchanged]
  · rw [quarantined]
    rfl
  · rw [reported]
    exact begun.apply_sequence (.reportHealth false)

end PackageRecord

namespace ManagerOperation

/-- An accepted import's record carries the sequence it was imported with, which
is above the one of the record it updates. -/
theorem imported_sequence {package : PackageImport} {updateType : ContentUpdateType}
    {previous : Option PackageRecord} {transaction : PackageTransaction}
    (begun : PackageTransaction.begin (package.admission updateType previous).1
      (package.admission updateType previous).2 package.previousState
      package.protectedPackage = (.ok, some transaction)) :
    (package.record previous transaction).releaseSequence = package.releaseSequence ∧
      ∀ record, previous = some record → record.releaseSequence < package.releaseSequence := by
  obtain ⟨update, admitted, isSome, -⟩ := PackageTransaction.begin_ok begun
  obtain ⟨same, isUpdate, -, shape⟩ := ContentUpdate.admit_ok admitted
  cases isUpdate
  cases isSome
  refine ⟨by rw [PackageRecord.releaseSequence, PackageImport.record, shape]; rfl, ?_⟩
  rintro record rfl
  exact ContentUpdate.admit_newer admitted

section Histories

variable (operations : List ManagerOperation)

/-- The step at the index is an accepted import. -/
def AcceptedImport (index : Nat) (package : PackageImport) : Prop :=
  operations[index]? = some (.importPackage package) ∧
    accepted (.importPackage package) (managerAt operations index) = true

def ReportedHealthy (index : Nat) (packageId : CString) (record : PackageRecord) : Prop :=
  operations[index]? = some (.onRecord packageId (.reportHealth true)) ∧
    accepted (.onRecord packageId (.reportHealth true)) (managerAt operations index) = true ∧
    (managerAt operations index).find packageId = some record

/-- Every accepted import is newer than every release of its package that was
reported healthy earlier in the run. -/
def NeverBehind : Prop :=
  ∀ earlier later package record, earlier < later →
    ReportedHealthy operations earlier package.packageId record →
    AcceptedImport operations later package → record.releaseSequence < package.releaseSequence

/-- Once a release of a package was reported healthy, every accepted import of
the package finds its record, and the record is not removed. -/
def KeepsRecord : Prop :=
  ∀ earlier later package record, earlier < later →
    ReportedHealthy operations earlier package.packageId record →
    AcceptedImport operations later package →
    ∃ current, (managerAt operations later).find package.packageId = some current ∧
      current.transaction.state ≠ .removed

end Histories

theorem accepted_import {manager : PackageManager} {package : PackageImport}
    (isAccepted : accepted (.importPackage package) manager = true) :
    ∃ updateType previous transaction,
      PackageTransaction.begin (package.admission updateType previous).1
        (package.admission updateType previous).2 package.previousState
        package.protectedPackage = (.ok, some transaction) ∧
      (∀ current, manager.find package.packageId = some current →
        current.transaction.state ≠ .removed →
        previous = some current ∧ package.updates current = true) := by
  rcases manager.import_cases package with
    unchanged | ⟨updateType, slot, previous, transaction, -, chosen, begun, -⟩
  · rw [accepted, unchanged] at isAccepted
    cases isAccepted
  · refine ⟨updateType, previous, transaction, begun, ?_⟩
    intro current found present
    rcases PackageManager.import_slot_cases chosen with
      ⟨record, looked, -, -, ⟨-, updates, isPrevious⟩ | ⟨removed, -, -⟩⟩ | ⟨absent, -⟩
    · rw [found] at looked
      cases looked
      exact ⟨isPrevious, updates⟩
    · rw [found] at looked
      cases looked
      exact absurd removed present
    · rw [found] at absent
      cases absent

/-- As long as records are kept, a record is never behind a release of its
package that was reported healthy. -/
theorem kept_record_not_behind {operations : List ManagerOperation}
    (kept : KeepsRecord operations) (packageId : CString) (index : Nat) :
    ∀ current, (managerAt operations index).find packageId = some current →
      ∀ earlier record, earlier < index → ReportedHealthy operations earlier packageId record →
        record.releaseSequence ≤ current.releaseSequence := by
  induction index with
  | zero =>
    intro current found earlier record before
    omega
  | succ index ih =>
    intro current found earlier record before reported
    have keyed := manager_at_keyed operations index
    cases taken : operations[index]? with
    | none =>
      rw [manager_at_end taken] at found
      have apart : earlier ≠ index := by
        rintro rfl
        rw [reported.1] at taken
        cases taken
      exact ih current found earlier record (by omega) reported
    | some operation =>
      have stepped := effect keyed operation packageId
      rw [← manager_at_succ taken, found] at stepped
      -- The record before the step is not behind any report up to this one.
      have prior : ∀ old, (managerAt operations index).find packageId = some old →
          record.releaseSequence ≤ old.releaseSequence := by
        intro old wasFound
        rcases Nat.lt_succ_iff_lt_or_eq.mp before with strictlyBefore | same
        · exact ih old wasFound earlier record strictlyBefore reported
        · subst same
          rw [reported.2.2] at wasFound
          cases wasFound
          exact UInt32.le_refl _
      generalize isOld : (managerAt operations index).find packageId = old at stepped
      generalize isAccepted : operation.accepted (managerAt operations index) = result at stepped
      cases stepped with
      | kept _ _ _ => exact prior current isOld
      | installed package updateType _ transaction named checked installs absent begun =>
        subst named
        have strictlyBefore : earlier < index := by
          refine Nat.lt_of_le_of_ne (Nat.lt_succ_iff.mp before) ?_
          rintro rfl
          rw [reported.1] at taken
          cases taken
        obtain ⟨found, isFound, present⟩ :=
          kept earlier index package record strictlyBefore reported ⟨taken, isAccepted⟩
        rw [isFound] at isOld
        exact absurd (absent found isOld.symm) present
      | updated package updateType old transaction named checked updates present begun =>
        obtain ⟨sequenced, newer⟩ := imported_sequence begun
        rw [sequenced]
        exact UInt32.le_trans (prior old isOld) (UInt32.le_of_lt (newer old rfl))
      | applied operation old =>
        rw [(keyed.found isOld).1.apply_sequence operation]
        exact prior old isOld
      | recovered answers _ answer old =>
        rw [(keyed.found isOld).1.recover_sequence answer]
        exact prior old isOld

/-- As long as no package is imported afresh after a release of it was reported
healthy, no import is behind such a release: it updates the record, whose sequence
is the highest yet, and admission asks for a higher one. -/
theorem never_behind_of_keeps_record {operations : List ManagerOperation}
    (kept : KeepsRecord operations) : NeverBehind operations := by
  intro earlier later package record before reported imported
  obtain ⟨current, found, present⟩ := kept earlier later package record before reported imported
  obtain ⟨updateType, previous, transaction, begun, updating⟩ := accepted_import imported.2
  have notBehind := kept_record_not_behind kept package.packageId later current found earlier
    record before reported
  exact UInt32.lt_of_le_of_lt notBehind
    ((imported_sequence begun).2 current (updating current found present).1)

/-- A first installation that is received, verified, activated and reported
healthy. -/
def healthyInstallation (package : PackageImport) : List ManagerOperation :=
  [.importPackage package, .onRecord package.packageId (.receive package.contentBytes),
    .onRecord package.packageId (.verify package.candidateDigest true),
    .onRecord package.packageId (.activate true),
    .onRecord package.packageId (.reportHealth true)]

/-- The next release of the sample package. -/
def sampleUpdate : PackageImport :=
  { sampleImport with
    version := .literal "2"
    previousVersion := sampleImport.version
    candidateDigest := ⟨List.replicate 64 50, by decide⟩
    previousDigest := sampleImport.candidateDigest
    releaseSequence := 2
    previousState := .active }

/-- The sample package is installed and updated, and the update is newer. -/
theorem sample_update_never_behind :
    KeepsRecord (healthyInstallation sampleImport ++ [.importPackage sampleUpdate]) ∧
      NeverBehind (healthyInstallation sampleImport ++ [.importPackage sampleUpdate]) := by
  have kept : KeepsRecord (healthyInstallation sampleImport ++ [.importPackage sampleUpdate]) := by
    intro earlier later package record before reported imported
    have within : later < 6 := (List.getElem?_eq_some_iff.mp imported.1).1
    obtain rfl | rfl | rfl | rfl | rfl | rfl :
        later = 0 ∨ later = 1 ∨ later = 2 ∨ later = 3 ∨ later = 4 ∨ later = 5 := by omega
    · omega
    iterate 4 cases imported.1
    cases imported.1
    have updated : ((managerAt (healthyInstallation sampleImport ++ [.importPackage sampleUpdate])
        5).find sampleUpdate.packageId).map (·.transaction.state) = some .active := by
      decide +kernel
    obtain ⟨current, found, active⟩ := Option.map_eq_some_iff.mp updated
    exact ⟨current, found, by rw [active]; decide⟩
  exact ⟨kept, never_behind_of_keeps_record kept⟩

/-- The fifth release of the sample package runs, is removed, and the first one is
accepted again. -/
theorem reinstallation_behind : ¬ ∀ operations, NeverBehind operations := by
  intro always
  let newer : PackageImport := { sampleImport with releaseSequence := 5 }
  let operations : List ManagerOperation := healthyInstallation newer ++
    [.onRecord sampleImport.packageId (.remove true), .importPackage sampleImport]
  have healthy : ((managerAt operations 4).find sampleImport.packageId).map
      (·.releaseSequence) = some 5 := by decide +kernel
  obtain ⟨record, found, sequence⟩ := Option.map_eq_some_iff.mp healthy
  have reported : ReportedHealthy operations 4 sampleImport.packageId record :=
    ⟨rfl, by decide +kernel, found⟩
  have imported : AcceptedImport operations 6 sampleImport := ⟨rfl, by decide +kernel⟩
  have impossible := always operations 4 6 sampleImport record (by decide) reported imported
  rw [sequence] at impossible
  exact absurd impossible (by decide)

end ManagerOperation

end PoisonedOS
