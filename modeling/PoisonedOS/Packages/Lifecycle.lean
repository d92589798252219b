import PoisonedOS.Packages.History

/-!
# The lifecycle of a package over whole runs

The transition table of the package transaction leaves `removed` only for
`staged`, and `quarantined` only for `removed`. Reception, verification, health
reports and boot recovery write the lifecycle state without asking the table, so
what the table promises has to be established over runs.

A first installation is `removed` until its last chunk, and a rejected
verification quarantines whatever it meets. Besides these, a package that is out
of use stays so, as long as the update it went out of use with is not still in
progress.
-/

namespace PoisonedOS

namespace PackageRecord

/-- The update is still being received. -/
def Arriving (record : PackageRecord) : Prop :=
  record.transaction.contentUpdate.state = .discovered ∨
    record.transaction.contentUpdate.state = .receiving

/-- The package has never been installed: its update is the first one. -/
def Fresh (record : PackageRecord) : Prop :=
  record.transaction.state = .removed ∧ record.transaction.rollbackState = .removed

/-- The package went out of use while its update was being received or was
waiting for a health report. -/
def Resumable (record : PackageRecord) : Prop :=
  record.transaction.contentUpdate.state = .activating ∨ (record.Arriving ∧ ¬ record.Fresh)

/-- Which lifecycle and update states occur together along a run. -/
structure Coherent (record : PackageRecord) : Prop where
  begun : record.Begun
  notInstalled : record.transaction.state ≠ .installed
  returns : record.transaction.rollbackState = .removed ∨
    record.transaction.rollbackState = .active ∨ record.transaction.rollbackState = .disabled ∨
    record.transaction.rollbackState = .quarantined
  live : record.transaction.state = .active ∨ record.transaction.state = .disabled →
    record.Arriving ∨ record.transaction.contentUpdate.state = .healthy ∨
      record.transaction.contentUpdate.state = .rolledBack
  staged : record.transaction.state = .staged → record.transaction.contentUpdate.state = .staged
  verified : record.transaction.state = .verified →
    record.transaction.contentUpdate.state = .verified ∨
      record.transaction.contentUpdate.state = .activating

namespace Coherent

variable {record : PackageRecord} (coherent : record.Coherent)
include coherent

/-- Every operation keeps a record coherent. -/
theorem apply (operation : RecordOperation) : (operation.apply record).record.Coherent := by
  obtain ⟨begun, notInstalled, returns, live, staged, verified⟩ := coherent
  have begunAfter := begun.apply operation
  have states := record.transaction.state.eq_cases
  have effect := PackageRecord.effect begun.initialized begun.admitted operation
  generalize operation.apply record = step at effect begunAfter ⊢
  cases effect with
  | same => exact ⟨begun, notInstalled, returns, live, staged, verified⟩
  | opened | added | completed | toggled =>
    constructor <;> grind [moved, PackageTransaction.allowed, Arriving]
  | removed => constructor <;> grind [PackageTransaction.allowed]
  | refused => constructor <;> grind [quarantineBoth]
  | _ => constructor <;> grind [moved]

/-- Boot recovery keeps a record coherent. -/
theorem recover (answer : Bool) : (record.recover answer).Coherent := by
  rcases coherent.begun.recover_cases answer with
    ⟨unchanged, -⟩ | ⟨-, -, quarantined⟩ | ⟨-, -, -, reported⟩
  · rw [unchanged]
    exact coherent
  · rw [quarantined]
    exact coherent.apply (.verify (.literal "") false)
  · rw [reported]
    exact coherent.apply (.reportHealth false)

theorem unhealthy_of_reverted (operation : RecordOperation)
    (activating : record.transaction.contentUpdate.state = .activating)
    (back : (operation.apply record).record.transaction.contentUpdate.state = .rolledBack) :
    operation = .reportHealth false := by
  obtain ⟨begun, -, -, live, staged, -⟩ := coherent
  have effect := PackageRecord.effect begun.initialized begun.admitted operation
  generalize operation.apply record = step at effect back
  cases effect with
  | same =>
    rw [activating] at back
    cases back
  | unhealthy => rfl
  | rejected | toggled | removed | quarantined =>
    have same : record.transaction.contentUpdate.state = .rolledBack := back
    rw [activating] at same
    cases same
  | swapped retained isLive revertible => grind [Arriving]
  | _ => cases back

end Coherent

/-- The record of an accepted import is coherent. -/
theorem coherent_of_import {package : PackageImport} {updateType : ContentUpdateType}
    {previous : Option PackageRecord} {transaction : PackageTransaction}
    (begun : PackageTransaction.begin (package.admission updateType previous).1
      (package.admission updateType previous).2 package.previousState
      package.protectedPackage = (.ok, some transaction))
    (notInstalled : package.previousState ≠ .installed) :
    (package.record previous transaction).Coherent := by
  obtain ⟨update, admitted, isSome, admissible⟩ := PackageTransaction.begin_ok begun
  obtain ⟨same, isUpdate, fixed, shape⟩ := ContentUpdate.admit_ok admitted
  cases isUpdate
  cases isSome
  have discovered : update.state = .discovered := by rw [shape]
  exact {
    begun := ⟨rfl, fixed⟩
    notInstalled
    returns := by
      simp only [PackageImport.record]
      grind
    live := fun _ => .inl (.inl discovered)
    staged := by
      simp only [PackageImport.record]
      grind
    verified := by
      simp only [PackageImport.record]
      grind }

end PackageRecord

namespace ManagerOperation

/-- Along every run all records are coherent. -/
theorem run_coherent (operations : List ManagerOperation) (index : Nat) :
    ∀ packageId record, (managerAt operations index).find packageId = some record →
      record.Coherent := by
  refine run_induction (motive := fun manager => ∀ packageId record,
    manager.find packageId = some record → record.Coherent) ?_ ?_ index
  · intro packageId record found
    rw [PackageManager.find_init] at found
    cases found
  · intro index operation taken coherent packageId record found
    have stepped := effect (manager_at_keyed operations index) operation packageId
    rw [found] at stepped
    generalize isBefore : (managerAt operations index).find packageId = before at stepped
    generalize operation.accepted (managerAt operations index) = result at stepped
    cases stepped with
    | kept _ _ _ => exact coherent packageId record isBefore
    | installed package updateType _ transaction named checked installs absent begun =>
      refine PackageRecord.coherent_of_import begun ?_
      rw [PackageImport.installs_removed installs]
      decide
    | updated package updateType prior transaction named checked updates present begun =>
      refine PackageRecord.coherent_of_import begun ?_
      rw [← PackageImport.updates_state updates]
      exact (coherent packageId prior isBefore).notInstalled
    | applied operation prior => exact (coherent packageId prior isBefore).apply operation
    | recovered answers _ answer prior => exact (coherent packageId prior isBefore).recover answer

def Confirmed : RecordOperation → Prop
  | .activate exactConfirmation => exactConfirmation = true
  | .setEnabled _ exactConfirmation => exactConfirmation = true
  | .remove exactConfirmation => exactConfirmation = true
  | .rollback exactConfirmation => exactConfirmation = true
  | _ => False

/-- What the transition table promises of a step, taken literally: `removed` is
left by an import of the package only, `quarantined` only for `removed` by a
confirmed removal, and a protected package is taken out of use by a confirmed
operation only. -/
structure StrictStep (packageId : CString) (taken : ManagerOperation)
    (before next : PackageRecord) : Prop where
  removed : before.transaction.state = .removed → next.transaction.state ≠ .removed →
    ∃ package, taken = .importPackage package ∧ package.packageId = packageId
  quarantined : before.transaction.state = .quarantined → next.transaction.state ≠ .quarantined →
    next.transaction.state = .removed ∧ taken = .onRecord packageId (.remove true)
  guarded : before.transaction.protectedPackage = true →
    before.transaction.state = .active ∨ before.transaction.state = .disabled →
    next.transaction.state ≠ .active → next.transaction.state ≠ .disabled →
    ∃ operation, taken = .onRecord packageId operation ∧ Confirmed operation

/-- What a step does to the lifecycle state of one package. Nothing is said of a
package out of use whose update is still in progress. -/
structure LifecycleStep (packageId : CString) (taken : ManagerOperation) (before : PackageRecord)
    (after : Option PackageRecord) : Prop where
  forgotten : after = none → before.transaction.state = .removed ∧
    ∃ package, taken = .importPackage package ∧ package.packageId ≠ packageId
  removed : ∀ next, after = some next → before.transaction.state = .removed →
    ¬ before.Resumable →
    next.transaction.state = .removed ∨
    (next.transaction.state = .staged ∧ before.Fresh ∧ before.Arriving ∧
      ∃ bytes, taken = .onRecord packageId (.receive bytes)) ∨
    (next.transaction.state = .quarantined ∧
      ∃ digest, taken = .onRecord packageId (.verify digest false))
  quarantined : ∀ next, after = some next → before.transaction.state = .quarantined →
    ¬ before.Resumable →
    next.transaction.state = .quarantined ∨
    (next.transaction.state = .removed ∧ before.transaction.protectedPackage = false ∧
      taken = .onRecord packageId (.remove true))
  guarded : ∀ next, after = some next → before.transaction.protectedPackage = true →
    before.transaction.state = .active ∨ before.transaction.state = .disabled →
    next.transaction.state = .active ∨ next.transaction.state = .disabled ∨
    (next.transaction.state = .staged ∧ before.Arriving ∧
      ∃ bytes, taken = .onRecord packageId (.receive bytes)) ∨
    (next.transaction.state = .quarantined ∧
      (taken = .onRecord packageId .quarantine ∨
        (∃ digest, taken = .onRecord packageId (.verify digest false)) ∨
        ∃ answers, taken = .recover answers))

section Steps

variable {packageId : CString} {record : PackageRecord} (coherent : record.Coherent)
include coherent

/-- An operation on a package moves its lifecycle state as the law says. -/
theorem applied_lifecycle (operation : RecordOperation) :
    LifecycleStep packageId (.onRecord packageId operation) record
      (some (operation.apply record).record) := by
  obtain ⟨begun, -, -, live, staged, verified⟩ := coherent
  have states := record.transaction.state.eq_cases
  have effect := PackageRecord.effect begun.initialized begun.admitted operation
  generalize operation.apply record = step at effect ⊢
  cases effect with
  | same => constructor <;> grind
  | completed | healthy | unhealthy =>
    constructor <;> grind [PackageRecord.moved, PackageRecord.Resumable, PackageRecord.Arriving,
      PackageRecord.Fresh]
  | toggled | removed => constructor <;> grind [PackageTransaction.allowed]
  | refused => constructor <;> grind [PackageRecord.quarantineBoth]
  | _ => constructor <;> grind [PackageRecord.moved]

/-- So does boot recovery. -/
theorem recovered_lifecycle (answers : Fin packageMaxRecords → Bool) (answer : Bool) :
    LifecycleStep packageId (.recover answers) record (some (record.recover answer)) := by
  have live := coherent.live
  rcases coherent.begun.recover_cases answer with
    ⟨unchanged, -⟩ | ⟨present, -, quarantined⟩ | ⟨present, -, activating, reported⟩
  · rw [unchanged]
    constructor <;> grind
  · rw [quarantined, PackageRecord.quarantineBoth]
    constructor <;> grind
  · rw [reported]
    constructor <;> grind [PackageRecord.Resumable, PackageRecord.Arriving]

end Steps

/-- Along every run, with whatever arguments, a package out of use whose update
is no longer in progress stays out of use: a removed one until it is imported
again or its slot is taken, a quarantined one until it is removed with the exact
confirmation. A protected package in use stays in use or is quarantined, unless a
complete update of it has been received.

Proof: the lifecycle and update states of every record a run reaches occur
together as `Coherent` says, and then each operation is looked at once. -/
theorem run_lifecycle (operations : List ManagerOperation) (packageId : CString) (index : Nat) :
    ∀ operation before, operations[index]? = some operation →
      (managerAt operations index).find packageId = some before →
      LifecycleStep packageId operation before
        ((managerAt operations (index + 1)).find packageId) := by
  intro operation before taken found
  have coherent := run_coherent operations index packageId before found
  have stepped := effect (manager_at_keyed operations index) operation packageId
  rw [manager_at_succ taken]
  rw [found] at stepped
  generalize (operation.apply (managerAt operations index)).find packageId = after at stepped ⊢
  generalize operation.accepted (managerAt operations index) = result at stepped
  cases stepped with
  | kept _ _ _ => constructor <;> grind
  | reused package _ _ other removed => constructor <;> grind
  | installed package updateType _ transaction named checked installs absent begun =>
    obtain ⟨update, -, isSome, -⟩ := PackageTransaction.begin_ok begun
    cases isSome
    have isRemoved : package.previousState = .removed :=
      PackageImport.installs_removed installs
    have wasRemoved := absent before rfl
    constructor <;> grind [PackageImport.record]
  | updated package updateType _ transaction named checked updates present begun =>
    obtain ⟨update, -, isSome, -⟩ := PackageTransaction.begin_ok begun
    cases isSome
    have isState : before.transaction.state = package.previousState :=
      PackageImport.updates_state updates
    constructor <;> grind [PackageImport.record]
  | applied operation _ => exact applied_lifecycle coherent operation
  | recovered answers _ answer _ => exact recovered_lifecycle coherent answers answer

/-- The law meets a package that was removed after it had been in use. -/
theorem demo_stays_removed :
    let operations : List ManagerOperation := [.importPackage sampleImport,
      .onRecord sampleImport.packageId (.receive 4),
      .onRecord sampleImport.packageId (.verify sampleImport.candidateDigest true),
      .onRecord sampleImport.packageId (.activate true),
      .onRecord sampleImport.packageId (.reportHealth true),
      .onRecord sampleImport.packageId (.remove true),
      .recover fun _ => false]
    ∃ removed, (managerAt operations 6).find sampleImport.packageId = some removed ∧
      LifecycleStep sampleImport.packageId (.recover fun _ => false) removed
        ((managerAt operations 7).find sampleImport.packageId) := by
  intro operations
  have present : ((managerAt operations 6).find sampleImport.packageId).isSome = true := by
    decide +kernel
  obtain ⟨removed, found⟩ := Option.isSome_iff_exists.mp present
  exact ⟨removed, found, run_lifecycle operations sampleImport.packageId 6 _ removed rfl found⟩

/-- Taken literally the table is not kept: the last chunk of a first installation
takes the package out of `removed`. -/
theorem received_package_leaves_removed :
    ¬ ∀ (operations : List ManagerOperation) (packageId : CString) (index : Nat)
      (operation : ManagerOperation) (before next : PackageRecord),
      operations[index]? = some operation →
      (managerAt operations index).find packageId = some before →
      (managerAt operations (index + 1)).find packageId = some next →
      StrictStep packageId operation before next := by
  intro always
  let operations : List ManagerOperation :=
    [.importPackage sampleImport, .onRecord sampleImport.packageId (.receive 4)]
  have removed : ((managerAt operations 1).find sampleImport.packageId).map
      (·.transaction.state) = some .removed := by decide +kernel
  have staged : ((managerAt operations 2).find sampleImport.packageId).map
      (·.transaction.state) = some .staged := by decide +kernel
  obtain ⟨before, found, isRemoved⟩ := Option.map_eq_some_iff.mp removed
  obtain ⟨next, foundNext, isStaged⟩ := Option.map_eq_some_iff.mp staged
  have strict := always operations sampleImport.packageId 1 _ before next rfl found foundNext
  obtain ⟨package, impossible, -⟩ := strict.removed isRemoved (by rw [isStaged]; decide)
  cases impossible

end ManagerOperation

end PoisonedOS
