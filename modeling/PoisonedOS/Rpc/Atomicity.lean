import PoisonedOS.Rpc.System

/-!
# When a failed request leaves its package alone

An activation, health report, removal, rollback or quarantine that fails should
leave the record and the active, candidate and rollback directories as they were.
The result is exact: for every state of the device it says which failures keep
that promise. An unhealthy report that the manager refuses is never taken back, a
refused or unsaved activation loses the candidate, a removal loses the previous
rollback copy before the manager is asked, and a quarantine puts the tree back
where the record's state says a tree should be, not where it was.
-/

namespace PoisonedOS

namespace PackageCell

variable {Tree : Type}

/-- Record, active, candidate and rollback directories are the same. -/
@[mk_iff]
structure Unchanged (before after : PackageCell Tree) : Prop where
  record : after.record = before.record
  active : after.directories.active = before.directories.active
  candidate : after.directories.candidate = before.directories.candidate
  rollback : after.directories.rollback = before.directories.rollback

theorem Unchanged.refl (cell : PackageCell Tree) : Unchanged cell cell := ⟨rfl, rfl, rfl, rfl⟩

/-- A failed run leaves the cell unchanged. -/
def Atomic (program : Traced (PackageCell Tree) Bool) (cell : PackageCell Tree) : Prop :=
  (program cell).value = false → Unchanged cell (program cell).final

end PackageCell

/-- A refused rollback leaves the update alone. -/
theorem ContentUpdate.rollback_refused {update after : ContentUpdate}
    (refused : update.rollback = (false, after)) : after = update := by
  unfold ContentUpdate.rollback at refused
  split at refused
  · exact (Prod.mk.inj refused).2.symm
  split at refused
  · exact (Prod.mk.inj refused).2.symm
  · cases refused

theorem PackageTransaction.healthy_refused {transaction after : PackageTransaction}
    (refused : transaction.reportHealth true = (false, after)) : after = transaction := by
  obtain ⟨state, rollbackState, protectedPackage, initialized, update⟩ := transaction
  unfold PackageTransaction.reportHealth at refused
  cases initialized with
  | false => exact (Prod.mk.inj refused).2.symm
  | true =>
    by_cases activating : update.state = .activating
    · simp [ContentUpdate.reportHealth, activating, ContentUpdate.transition,
        ContentUpdate.allowed] at refused
    · simp [ContentUpdate.reportHealth, activating] at refused
      exact refused.symm

/-- The operations whose refusal leaves the record alone, whatever it holds. -/
theorem PackageRecord.refused_unchanged {operation : RecordOperation} {record : PackageRecord}
    (kind : operation = .reportHealth true ∨ operation = .remove true ∨
      operation = .rollback true ∨ operation = .quarantine)
    (refused : (operation.apply record).result = false) :
    (operation.apply record).record = record := by
  rcases kind with rfl | rfl | rfl | rfl
  · simp only [RecordOperation.apply, reportHealth] at refused ⊢
    cases reported : record.transaction.reportHealth true with
    | mk result transaction =>
      cases result with
      | false => rw [PackageTransaction.healthy_refused reported]
      | true => simp [reported] at refused
  · revert refused
    simp only [RecordOperation.apply, remove]
    split
    · exact fun _ => rfl
    · rcases record.transaction.transition_cases .removed with unchanged | ⟨-, -, -, moved⟩
      · rw [unchanged]
        exact fun _ => rfl
      · rw [moved]
        intro impossible
        cases impossible
  · revert refused
    simp only [RecordOperation.apply, rollback]
    split
    · exact fun _ => rfl
    · cases reverted : record.transaction.contentUpdate.rollback with
      | mk result update =>
        cases result with
        | false =>
          intro _
          rw [ContentUpdate.rollback_refused reverted]
        | true =>
          intro impossible
          cases impossible
  · revert refused
    simp only [RecordOperation.apply, quarantine]
    split
    · exact fun _ => rfl
    · intro impossible
      cases impossible

/-- For a whole cell. -/
theorem PackageCell.refused_applied {Tree : Type} (cell : PackageCell Tree)
    {operation : RecordOperation}
    (kind : operation = .reportHealth true ∨ operation = .remove true ∨
      operation = .rollback true ∨ operation = .quarantine)
    (refused : cell.accepts operation = false) : cell.applied operation = cell := by
  obtain ⟨_ | record, stored, directories⟩ := cell
  · rfl
  · have same := PackageRecord.refused_unchanged kind (by simpa [accepts] using refused)
    simp [applied, same]

/-- A motion is atomic when each of its three ways to fail leaves the cell
unchanged. -/
theorem Motion.atomic_iff {Tree : Type} (motion : Motion Tree) (saved : Bool)
    (cell : PackageCell Tree) :
    cell.Atomic (motion.run saved) ↔
      ((motion.move cell.directories).value = false →
        cell.Unchanged (cell.place (motion.move cell.directories).final)) ∧
      ((motion.move cell.directories).value = true → cell.accepts motion.operation = false →
        cell.Unchanged ((cell.applied motion.operation).place
          (motion.revert (motion.move cell.directories).final).final)) ∧
      ((motion.move cell.directories).value = true → cell.accepts motion.operation = true →
        saved = false →
        cell.Unchanged (cell.place (motion.undo (motion.move cell.directories).final).final)) := by
  cases moved : (motion.move cell.directories).value with
  | false => simp [PackageCell.Atomic, motion.run_unmoved saved cell moved]
  | true =>
    cases accepted : cell.accepts motion.operation with
    | false => simp [PackageCell.Atomic, motion.run_refused saved cell moved accepted]
    | true =>
      cases saved with
      | false =>
        simp only [PackageCell.Atomic, motion.run_unsaved cell moved accepted]
        simp [PackageCell.place]
      | true => simp [PackageCell.Atomic, motion.run_saved cell moved accepted]

namespace PackageOperationRequest

variable {Tree : Type} {request : PackageOperationRequest} {prior : Option PackageRecord}
  {motion : Motion Tree} (placed : PackageStorage.Placed .default request.packageId)
  (saved : Bool) (cell : PackageCell Tree)
include placed

/-- An activation that fails is atomic exactly without a candidate. -/
theorem activate_atomic_iff (isMotion : request.motion prior .activate = some motion) :
    cell.Atomic (motion.run saved) ↔
      cell.directories.candidate = none ∨
        (cell.accepts (.activate true) = true ∧ saved = true) := by
  cases isMotion
  obtain ⟨record, stored, active, candidate, rollback, quarantine, swap⟩ := cell
  rw [Motion.atomic_iff]
  cases candidate with
  | none =>
    cases active <;> simp [PackageStorage.activate_run placed, PackageCell.unchanged_iff]
  | some candidate =>
    cases active <;> simp [PackageStorage.activate_run placed,
      PackageStorage.report_health_run_unhealthy placed, PackageCell.unchanged_iff] <;>
      exact .inl

/-- A health report that fails is atomic when it is healthy, when it finds
nothing to move, or when the manager would accept it. -/
theorem health_atomic_iff (isMotion : request.motion prior .health = some motion) :
    cell.Atomic (motion.run saved) ↔
      request.healthy = true ∨
        (cell.directories.active = none ∧ cell.directories.quarantine = none) ∨
        (cell.directories.active ≠ none ∧ cell.accepts (.reportHealth false) = true) := by
  cases isMotion
  rw [Motion.atomic_iff]
  cases healthy : request.healthy with
  | true =>
    simp only [PackageStorage.report_health_run_healthy placed, true_or, iff_true]
    refine ⟨fun _ => ⟨rfl, rfl, rfl, rfl⟩, fun _ refused => ?_, fun _ _ _ => ⟨rfl, rfl, rfl, rfl⟩⟩
    rw [PackageCell.refused_applied _ (.inl rfl) refused]
    exact ⟨rfl, rfl, rfl, rfl⟩
  | false =>
    obtain ⟨record, stored, active, candidate, rollback, quarantine, swap⟩ := cell
    cases active <;> cases rollback <;> cases quarantine <;>
      simp [PackageStorage.report_health_run_unhealthy placed,
        PackageStorage.revert_health_rollback_run placed, PackageCell.unchanged_iff]

/-- A removal that fails is atomic when there is no active tree or no previous
copy to lose. -/
theorem remove_atomic_iff (isMotion : request.motion prior .remove = some motion) :
    cell.Atomic (motion.run saved) ↔
      cell.directories.active = none ∨ cell.directories.rollback = none ∨
        (cell.accepts (.remove true) = true ∧ saved = true) := by
  cases isMotion
  have kept := cell.refused_applied (.inr (.inl (Eq.refl (RecordOperation.remove true))))
  obtain ⟨record, stored, active, candidate, rollback, quarantine, swap⟩ := cell
  rw [Motion.atomic_iff]
  cases active <;> cases rollback <;>
      simp_all [PackageStorage.remove_run placed,
        PackageStorage.restore_removed_run placed, PackageCell.unchanged_iff]

/-- A rollback that fails is atomic unless a leftover swap directory stands in
for a missing tree. -/
theorem rollback_atomic_iff (isMotion : request.motion prior .rollback = some motion) :
    cell.Atomic (motion.run saved) ↔
      cell.directories.swap = none ∨
        (cell.directories.active ≠ none ∧ cell.directories.rollback ≠ none) := by
  cases isMotion
  have kept := cell.refused_applied
    (.inr (.inr (.inl (Eq.refl (RecordOperation.rollback true)))))
  obtain ⟨record, stored, active, candidate, rollback, quarantine, swap⟩ := cell
  rw [Motion.atomic_iff]
  cases active <;> cases rollback <;> cases swap <;>
      simp_all [PackageStorage.rollback_run placed, PackageCell.unchanged_iff]

/-- A quarantine that fails is atomic when it had nothing to do, or when the
record's state tells which tree was taken. -/
theorem quarantine_atomic_iff (isMotion : request.motion cell.record .quarantine = some motion) :
    cell.Atomic (motion.run saved) ↔
      cell.record = none ∨
        (cell.directories.active = none ∧ cell.directories.candidate = none) ∨
        (cell.accepts .quarantine = true ∧
          (saved = true ∨ cell.directories.candidate.isSome = quarantinesCandidate cell.record)) := by
  cases isMotion
  have kept := cell.refused_applied
    (.inr (.inr (.inr (Eq.refl RecordOperation.quarantine))))
  obtain ⟨record, stored, active, candidate, rollback, quarantine, swap⟩ := cell
  rw [Motion.atomic_iff]
  cases record with
  | none => simp [PackageCell.unchanged_iff]
  | some record =>
    cases toCandidate : quarantinesCandidate (some record) <;> cases active <;> cases candidate <;>
      simp_all [PackageStorage.quarantine_run placed, PackageCell.unchanged_iff,
        PackageStorage.restore_quarantine_run_candidate placed,
        PackageStorage.restore_quarantine_run_active placed]

omit placed in
/-- Without valid paths nothing moves. -/
theorem unplaced_atomic {operation : PackageOperation}
    (invalid : packageIdValid request.packageId = false)
    (isMotion : request.motion prior operation = some motion)
    (moves : operation ∈ [PackageOperation.activate, .health, .remove, .rollback, .quarantine]) :
    cell.Atomic (motion.run saved) := by
  have unmoved : motion.move = pure false := by
    have refused : ∀ slots body, slots ≠ [] →
        PackageStorage.withPaths .default request.packageId slots body =
          (pure false : Traced (Directories Tree) Bool) := by
      intro slots body nonempty
      rw [PackageStorage.with_paths_default slots nonempty body, invalid]
      rfl
    cases operation <;> simp at moves <;>
      simp only [PackageOperationRequest.motion, Option.some.injEq] at isMotion <;> subst isMotion
    case activate => exact refused _ _ (by decide)
    case health => exact refused _ _ (by decide)
    case remove => exact refused _ _ (by decide)
    case rollback => exact refused _ _ (by decide)
    case quarantine =>
      cases prior with
      | none => rfl
      | some record => exact refused _ _ (by decide)
  intro _
  rw [motion.run_unmoved saved cell (by rw [unmoved]; rfl), unmoved]
  exact ⟨rfl, rfl, rfl, rfl⟩

/-- When a failure of the operation leaves the package alone: the condition on
the package's cell before the request and on whether the record the operation
would leave can be saved. -/
def AtomicWhen (request : PackageOperationRequest) (cell : PackageCell Tree)
    (saved : RecordOperation → Bool) : PackageOperation → Prop
  | .activate => cell.directories.candidate = none ∨
      (cell.accepts (.activate true) = true ∧ saved (.activate true) = true)
  | .health => request.healthy = true ∨
      (cell.directories.active = none ∧ cell.directories.quarantine = none) ∨
      (cell.directories.active ≠ none ∧ cell.accepts (.reportHealth false) = true)
  | .remove => cell.directories.active = none ∨ cell.directories.rollback = none ∨
      (cell.accepts (.remove true) = true ∧ saved (.remove true) = true)
  | .rollback => cell.directories.swap = none ∨
      (cell.directories.active ≠ none ∧ cell.directories.rollback ≠ none)
  | .quarantine => cell.record = none ∨
      (cell.directories.active = none ∧ cell.directories.candidate = none) ∨
      (cell.accepts .quarantine = true ∧ (saved .quarantine = true ∨
        cell.directories.candidate.isSome = quarantinesCandidate cell.record))
  | _ => True

end PackageOperationRequest

namespace RpcPackages

variable {Tree : Type}

/-- In every state of the device, a failing activation, health report, removal,
rollback or quarantine leaves its package's record and its active, candidate and
rollback directories alone exactly when it was not run at all or its condition
holds.

Proof: the request simulates its motion, and the conditions are those under which
each of the motion's three ways to fail restores the cell. -/
theorem failed_request_atomic_iff (sha256 : List UInt8 → Digest)
    (extract : Option (List UInt8) → VerifiedArchive → Traced (Option Tree) Bool)
    (packages : RpcPackages) (standard : packages.Standard) (request : PackageOperationRequest)
    (verified : Option VerifiedArchive) (context : Option RequestContext)
    (environment : Environment) (device : Device Tree) (operation : PackageOperation)
    (decoded : PackageOperation.ofWire request.operation = some operation)
    (moves : operation ∈ [PackageOperation.activate, .health, .remove, .rollback, .quarantine]) :
    let run := packages.process sha256 extract request verified context environment device
    let before := device.cell request.packageId
    (run.value.result = false → before.Unchanged (run.final.cell request.packageId)) ↔
      environment.allocated = false ∨ packageIdValid request.packageId = false ∨
        packages.authorized sha256 request context environment.token operation = false ∨
        request.AtomicWhen before (saves environment device request.packageId) operation := by
  intro run before
  have atOnce : (processed sha256 extract packages request verified context environment device =
      ⟨false, device, []⟩) → run.value.result = false → before.Unchanged
        (run.final.cell request.packageId) := by
    intro refused _
    have same : run.final = device := congrArg Run.final refused
    rw [same]
    exact .refl before
  cases allocated : environment.allocated with
  | false =>
    have exhausted : (packages.persistenceEnabled && !environment.allocated) = true := by
      rw [standard.persistence, allocated]
      rfl
    exact ⟨fun _ => .inl rfl, fun _ => atOnce (processed_refused (.inr exhausted) device)⟩
  | true =>
    cases given : packages.authorized sha256 request context environment.token operation with
    | false =>
      exact ⟨fun _ => .inr (.inr (.inl rfl)), fun _ =>
        atOnce (processed_unauthorized decoded given device)⟩
    | true =>
      obtain ⟨motion, isMotion⟩ : ∃ motion : Motion Tree,
          request.motion (device.manager.find request.packageId) operation = some motion := by
        cases operation <;> simp at moves <;> exact ⟨_, rfl⟩
      cases valid : packageIdValid request.packageId with
      | false =>
        refine ⟨fun _ => .inr (.inl rfl), fun _ => ?_⟩
        cases named : request.packageId.isEmpty with
        | true => exact atOnce (processed_refused (.inl named) device)
        | false =>
          have simulated := simulates_motion extract verified standard decoded named allocated
            device isMotion given
          have atomic := PackageOperationRequest.unplaced_atomic
            (saves environment device request.packageId motion.operation) before valid isMotion
            moves
          intro failed
          have final := simulated.final
          have value := simulated.value
          exact final ▸ atomic (value.symm.trans failed)
      | true =>
        have named : request.packageId.isEmpty = false := by
          simp only [packageIdValid, packageTextValid, Bool.and_eq_true, Bool.not_eq_true'] at valid
          exact valid.1.1
        have placed : PackageStorage.Placed .default request.packageId := by
          intro slot
          rw [StorageLayout.default_path_isSome]
          exact valid
        have simulated := simulates_motion extract verified standard decoded named allocated
          device isMotion given
        have atomic : (run.value.result = false → before.Unchanged
            (run.final.cell request.packageId)) ↔
            before.Atomic (motion.run (saves environment device request.packageId
              motion.operation)) := by
          rw [PackageCell.Atomic, ← simulated.value, ← simulated.final]
          rfl
        rw [atomic]
        simp only [Bool.true_eq_false, false_or]
        cases operation <;> simp at moves
        case activate =>
          have same := PackageOperationRequest.activate_atomic_iff placed
            (saves environment device request.packageId motion.operation) before isMotion
          cases isMotion
          exact same
        case health =>
          exact PackageOperationRequest.health_atomic_iff placed _ before isMotion
        case remove =>
          have same := PackageOperationRequest.remove_atomic_iff placed
            (saves environment device request.packageId motion.operation) before isMotion
          cases isMotion
          exact same
        case rollback =>
          exact PackageOperationRequest.rollback_atomic_iff placed _ before isMotion
        case quarantine =>
          have same := PackageOperationRequest.quarantine_atomic_iff placed
            (saves environment device request.packageId motion.operation) before isMotion
          cases isMotion
          exact same

/-- A healthy report. -/
def healthyReport : PackageOperationRequest :=
  { PackageSystem.demoRequest .health [] with healthy := true }

/-- A healthy report on a package that is healthy already fails and changes
nothing. -/
theorem repeated_report_atomic :
    let run := (init 7 1 0 4096).process Session.sha256Digest (fun _ _ => pure true) healthyReport
      none none (Session.removalCall [] 1 0 false).environment Session.removalDevice
    run.value.result = false ∧ (Session.removalDevice.cell healthyReport.packageId).Unchanged
      (run.final.cell healthyReport.packageId) := by
  have failed : ((init 7 1 0 4096).process Session.sha256Digest (fun _ _ => pure true)
      healthyReport none none (Session.removalCall [] 1 0 false).environment
      Session.removalDevice).value.result = false := by decide +kernel
  have condition := failed_request_atomic_iff Session.sha256Digest (fun _ _ => pure true)
    (init 7 1 0 4096) (init_standard 7 1 0 4096) healthyReport none none
    (Session.removalCall [] 1 0 false).environment Session.removalDevice .health (by decide)
    (by decide)
  exact ⟨failed, condition.mpr (.inr (.inr (.inr (.inl rfl)))) failed⟩

/-- An unhealthy report on an installed and healthy package fails and has taken
the package's active directory away. -/
theorem unhealthy_report_not_atomic :
    let system := PackageSystem.run Session.sha256Digest PackageSystem.demoExtract
      (PackageSystem.start PackageSystem.demoProfile) PackageSystem.demoInstallation
    let run := PackageSystem.outcome Session.sha256Digest PackageSystem.demoExtract system
      (PackageSystem.demoCall (PackageSystem.demoRequest .health []) none)
    run.value.result = false ∧
      (system.device.cell (.literal "demo")).directories.active = some (PackageSystem.demoDigest 49) ∧
      (run.final.cell (.literal "demo")).directories.active = none ∧
      ¬ (system.device.cell (.literal "demo")).Unchanged (run.final.cell (.literal "demo")) := by
  intro system run
  have moved : run.value.result = false ∧
      (system.device.cell (.literal "demo")).directories.active =
        some (PackageSystem.demoDigest 49) ∧
      (run.final.cell (.literal "demo")).directories.active = none := by decide +kernel
  refine ⟨moved.1, moved.2.1, moved.2.2, fun same => ?_⟩
  have kept := same.active
  rw [moved.2.1, moved.2.2] at kept
  cases kept

end RpcPackages

end PoisonedOS
