import Mathlib.Logic.Relation
import PoisonedOS.Packages.Persisted

/-!
# Storage recovery at boot

The state file is saved after the directories have moved, so a power cut leaves directories halfway
beside the record from before. At boot the record says what to bring back. Recovery moves
directories itself and may be cut short like any other operation, any number of times.
-/

namespace PoisonedOS

open PackageStorage

namespace PackageStorage

variable {Tree : Type} (layout : StorageLayout) (packageId : CString)

/-- The first part of `poison_package_storage_recover_record`: a rollback is finished. -/
def recoverSwap : Traced (Directories Tree) Bool := do
  let hasActive ← present .active
  let hasRollback ← present .rollback
  let hasSwap ← present .swap
  if hasSwap && !hasActive then rename .swap .active
  else if hasSwap && hasActive && !hasRollback then
    let ok ← rename .active .rollback
    ifOk ok (rename .swap .active)
  else return !hasSwap

/-- The second part, for a candidate that was not committed. -/
def recoverCandidate (hadPrevious discardCandidate : Bool) : Traced (Directories Tree) Bool := do
  let hasActive ← present .active
  let hasRollback ← present .rollback
  let hasCandidate ← present .candidate
  let moves := !hasActive && hasRollback
  let ok ← if moves then rename .rollback .active else pure true
  let hasActive := if moves then ok else hasActive
  let hasRollback := hasRollback && !moves
  if ok && !hasCandidate && hasActive && (!hadPrevious || hasRollback) then
    let ok ← removeIfPresent .quarantine
    let ok ← ifOk ok (rename .active .quarantine)
    if ok && hasRollback then rename .rollback .active else return ok
  else if ok && hasCandidate && discardCandidate then
    if ← present .quarantine then return ok else rename .candidate .quarantine
  else return ok

/-- The last part, for a committed candidate. -/
def recoverCommitted : Traced (Directories Tree) Bool := do
  let hasActive ← present .active
  let hasRollback ← present .rollback
  if !hasActive && hasRollback then rename .rollback .active else return hasActive

/-- `poison_package_storage_recover_record`. -/
def recoverRecord (candidateCommitted hadPrevious discardCandidate : Bool) :
    Traced (Directories Tree) Bool :=
  withPaths layout packageId [.active, .candidate, .rollback, .quarantine, .swap] do
    let ok ← recoverSwap
    if candidateCommitted then ifOk ok recoverCommitted
    else ifOk ok (recoverCandidate hadPrevious discardCandidate)

end PackageStorage

namespace PackageRecord

variable {Tree : Type} (layout : StorageLayout) (record : PackageRecord)

/-- What `poison_packages_recover_storage_state` takes for a committed record. -/
def committed : Bool :=
  (record.transaction.state == .active || record.transaction.state == .disabled ||
    record.transaction.state == .installed) && !record.activating

def hadPrevious : Bool := record.transaction.rollbackState != .removed

/-- The round of `poison_packages_recover_storage_state` for the record. -/
def recoverStorage : Traced (Directories Tree) Bool :=
  if record.transaction.state == .removed then pure true
  else recoverRecord layout record.packageId record.committed record.hadPrevious record.activating

end PackageRecord

variable {Tree : Type} {layout : StorageLayout} {record : PackageRecord}
  {directories : Directories Tree}

/-- The record has not committed its candidate, and knows whether a tree was active before. -/
structure Pending (record : PackageRecord) (expected : Option Tree) : Prop where
  kept : record.transaction.state ≠ .removed
  uncommitted : record.committed = false
  previous : record.hadPrevious = expected.isSome

/-- Directories from which recovery gets to an active tree, wherever it is cut short. -/
inductive Repairable (record : PackageRecord) (expected : Option Tree) : Directories Tree → Prop
  | live {tree : Tree} {candidate rollback quarantine : Option Tree} (same : expected = some tree)
      (committed : record.committed = true) :
    Repairable record expected ⟨expected, candidate, rollback, quarantine, none⟩
  | removed {tree : Tree} {candidate quarantine : Option Tree} (same : expected = some tree)
      (committed : record.committed = true) :
    Repairable record expected ⟨none, candidate, expected, quarantine, none⟩
  | waiting {candidate : Tree} {rollback quarantine : Option Tree} (pending : Pending record expected)
      (idle : record.activating = false) (fresh : expected = none → rollback = none) :
    Repairable record expected ⟨expected, some candidate, rollback, quarantine, none⟩
  | between {candidate quarantine : Option Tree} (pending : Pending record expected)
      (idle : candidate = none ∨ record.activating = false) :
    Repairable record expected ⟨none, candidate, expected, quarantine, none⟩
  | placed {tree : Tree} {quarantine : Option Tree} (pending : Pending record expected) :
    Repairable record expected ⟨some tree, none, expected, quarantine, none⟩
  | undone {quarantine : Option Tree} (pending : Pending record expected) :
    Repairable record expected ⟨expected, none, none, quarantine, none⟩

variable {expected : Option Tree}

/-- What recovery does with a record where no rollback is half done. -/
def recoverUnswapped (record : PackageRecord) : Traced (Directories Tree) Bool :=
  if record.committed then recoverCommitted else recoverCandidate record.hadPrevious record.activating

theorem recover_run (kept : record.transaction.state ≠ .removed)
    (available : Placed layout record.packageId) (swapped : directories.swap = none) :
    record.recoverStorage layout directories = recoverUnswapped record directories := by
  rw [PackageRecord.recoverStorage, if_neg (by simpa using kept), recoverRecord,
    with_paths_placed available, recoverUnswapped]
  obtain ⟨active, candidate, rollback, quarantine, swap⟩ := directories
  cases swapped
  cases record.committed <;> rfl

theorem Repairable.swapped (repairable : Repairable record expected directories) :
    directories.swap = none := by
  cases repairable <;> rfl

theorem kept_of_committed (committed : record.committed = true) :
    record.transaction.state ≠ .removed := by
  intro removed
  simp [PackageRecord.committed, removed] at committed

theorem Repairable.kept (repairable : Repairable record expected directories) :
    record.transaction.state ≠ .removed := by
  cases repairable with
  | live _ committed | removed _ committed => exact kept_of_committed committed
  | waiting pending | between pending | placed pending | undone pending => exact pending.kept

/-- Recovery gets there, and leaves nothing on the way from which it would not. After it another
recovery moves nothing. -/
theorem Repairable.recover_unswapped (repairable : Repairable record expected directories) :
    ∃ final images, recoverUnswapped record directories = ⟨true, final, images⟩ ∧
      final.active = expected ∧ final.swap = none ∧
      recoverUnswapped record final = ⟨true, final, []⟩ ∧
      ∀ image ∈ images, Repairable record expected image := by
  rw [recoverUnswapped]
  cases repairable with
  | @live tree candidate rollback quarantine same committed =>
    subst same
    rw [committed]
    cases rollback <;> exact ⟨_, _, rfl, rfl, rfl, rfl, nofun⟩
  | removed same committed =>
    subst same
    rw [committed]
    exact ⟨_, _, rfl, rfl, rfl, rfl, List.forall_mem_singleton.mpr (.live rfl committed)⟩
  | waiting pending idle fresh =>
    rw [pending.uncommitted, idle]
    cases expected with
    | none =>
      cases fresh rfl
      exact ⟨_, _, rfl, rfl, rfl, rfl, nofun⟩
    | some tree => exact ⟨_, _, rfl, rfl, rfl, rfl, nofun⟩
  | @between candidate quarantine pending idle =>
    rw [pending.uncommitted, pending.previous]
    cases candidate with
    | none =>
      cases expected with
      | none => exact ⟨_, _, rfl, rfl, rfl, rfl, nofun⟩
      | some tree => exact ⟨_, _, rfl, rfl, rfl, rfl, List.forall_mem_singleton.mpr (.undone pending)⟩
    | some candidate =>
      obtain idle := idle.resolve_left nofun
      rw [idle]
      cases expected with
      | none => exact ⟨_, _, rfl, rfl, rfl, rfl, nofun⟩
      | some tree =>
        exact ⟨_, _, rfl, rfl, rfl, rfl, List.forall_mem_singleton.mpr (.waiting pending idle nofun)⟩
  | placed pending =>
    rw [pending.uncommitted, pending.previous]
    cases expected with
    | none =>
      exact ⟨_, _, rfl, rfl, rfl, rfl, List.forall_mem_cons.mpr ⟨.placed pending,
        List.forall_mem_singleton.mpr (.undone pending)⟩⟩
    | some tree =>
      exact ⟨_, _, rfl, rfl, rfl, rfl, List.forall_mem_cons.mpr ⟨.placed pending,
        List.forall_mem_cons.mpr ⟨.between pending (.inl rfl),
          List.forall_mem_singleton.mpr (.undone pending)⟩⟩⟩
  | undone pending =>
    rw [pending.uncommitted, pending.previous]
    cases expected <;> exact ⟨_, _, rfl, rfl, rfl, rfl, nofun⟩

/-- The same of the recovery at boot. -/
theorem Repairable.recover (repairable : Repairable record expected directories)
    (available : Placed layout record.packageId) :
    ∃ final images, record.recoverStorage layout directories = ⟨true, final, images⟩ ∧
      final.active = expected ∧ record.recoverStorage layout final = ⟨true, final, []⟩ ∧
      ∀ image ∈ images, Repairable record expected image := by
  obtain ⟨final, images, run, active, swapped, settled, kept⟩ := repairable.recover_unswapped
  refine ⟨final, images, ?_, active, ?_, kept⟩
  · rw [recover_run repairable.kept available repairable.swapped, run]
  · rw [recover_run repairable.kept available swapped, settled]

/-- An operation that recovery undoes while the record is the one from before, and the active tree
that this brings back. -/
inductive Undone (layout : StorageLayout) (record : PackageRecord) (directories : Directories Tree) :
    Traced (Directories Tree) Bool → Option Tree → Prop
  | activation (verified : record.transaction.state = .verified) (idle : record.activating = false)
      (previous : record.hadPrevious = directories.active.isSome)
      (present : directories.candidate.isSome = true)
      (fresh : directories.active = none → directories.rollback = none) :
    Undone layout record directories (activate layout record.packageId) directories.active
  | removal (live : record.committed = true) (present : directories.active.isSome = true) :
    Undone layout record directories (remove layout record.packageId) directories.active
  | failedReport (kept : record.transaction.state ≠ .removed)
      (activating : record.activating = true)
      (previous : record.hadPrevious = directories.rollback.isSome)
      (moved : directories.candidate = none) (present : directories.active.isSome = true) :
    Undone layout record directories (reportHealth layout record.packageId false)
      directories.rollback

/-- Wherever the operation is cut short, its directories can be repaired. -/
theorem Undone.repairable {operation : Traced (Directories Tree) Bool}
    (undone : Undone layout record directories operation expected)
    (available : Placed layout record.packageId) (swapped : directories.swap = none) :
    ∀ image ∈ directories :: (operation directories).images, Repairable record expected image := by
  obtain ⟨active, candidate, rollback, quarantine, swap⟩ := directories
  cases swapped
  cases undone with
  | activation verified idle previous present fresh =>
    obtain ⟨tree, rfl⟩ := Option.isSome_iff_exists.mp present
    have pending : Pending record active :=
      ⟨by simp [verified], by simp [PackageRecord.committed, verified], previous⟩
    rw [activate_run available]
    cases active with
    | none =>
      cases fresh rfl
      simp only [List.forall_mem_cons]
      exact ⟨.between pending (.inr idle), .between pending (.inr idle),
        .placed pending, List.forall_mem_nil _⟩
    | some old =>
      have waits (later : Option Tree) (empty : some old = none) : later = none := by cases empty
      simp only [List.forall_mem_cons]
      exact ⟨.waiting pending idle (waits _), .waiting pending idle (waits _),
        .between pending (.inr idle), .placed pending, List.forall_mem_nil _⟩
  | removal live present =>
    obtain ⟨tree, rfl⟩ := Option.isSome_iff_exists.mp present
    rw [remove_run available]
    simp only [List.forall_mem_cons]
    exact ⟨.live rfl live, .live rfl live, .removed rfl live, List.forall_mem_nil _⟩
  | failedReport kept activating previous moved present =>
    cases moved
    obtain ⟨tree, rfl⟩ := Option.isSome_iff_exists.mp present
    have pending : Pending record rollback :=
      ⟨kept, by simp [PackageRecord.committed, activating], previous⟩
    rw [report_health_run_unhealthy available]
    cases rollback with
    | none =>
      simp only [List.forall_mem_cons]
      exact ⟨.placed pending, .placed pending, .undone pending, List.forall_mem_nil _⟩
    | some old =>
      simp only [List.forall_mem_cons]
      exact ⟨.placed pending, .placed pending,
        .between pending (.inl rfl), .undone pending, List.forall_mem_nil _⟩

/-- **An interrupted operation is undone at boot, however often the boot is interrupted too.** An
activation, a removal or a failed health report is cut short before the record is saved; any number
of boots are cut short in recovery. The first one that is not brings the active tree back. -/
theorem interruption_undone {operation : Traced (Directories Tree) Bool}
    (undone : Undone layout record directories operation expected)
    (available : Placed layout record.packageId) (swapped : directories.swap = none)
    {image later : Directories Tree} (cut : image ∈ directories :: (operation directories).images)
    (boots : Relation.ReflTransGen
      (fun before after => after ∈ (record.recoverStorage layout before).images) image later) :
    ∃ final images, record.recoverStorage layout later = ⟨true, final, images⟩ ∧
      final.active = expected ∧ record.recoverStorage layout final = ⟨true, final, []⟩ := by
  have repairable : Repairable record expected later := by
    induction boots with
    | refl => exact undone.repairable available swapped image cut
    | tail _ among ih =>
      obtain ⟨final, images, run, -, -, kept⟩ := ih.recover available
      rw [run] at among
      exact kept _ among
  obtain ⟨final, images, run, active, settled, -⟩ := repairable.recover available
  exact ⟨final, images, run, active, settled⟩

open ManagerOperation (sampleImport) in
/-- A removal is cut short after its directories have moved. -/
theorem removal_undone :
    let operations : List ManagerOperation := [.importPackage sampleImport,
      .onRecord sampleImport.packageId (.receive 4),
      .onRecord sampleImport.packageId (.verify sampleImport.candidateDigest true),
      .onRecord sampleImport.packageId (.activate true),
      .onRecord sampleImport.packageId (.reportHealth true)]
    ∃ record, (ManagerOperation.run operations .init).find sampleImport.packageId = some record ∧
      ∃ final images, record.recoverStorage .default
          (⟨none, none, some 1, none, none⟩ : Directories Nat) = ⟨true, final, images⟩ ∧
        final.active = some 1 ∧ record.recoverStorage .default final = ⟨true, final, []⟩ := by
  intro operations
  have known : ((ManagerOperation.run operations .init).find sampleImport.packageId).map
      (fun record => (record.committed, packageIdValid record.packageId)) = some (true, true) := by
    decide +kernel
  obtain ⟨record, found, isKnown⟩ := Option.map_eq_some_iff.mp known
  obtain ⟨live, valid⟩ := Prod.mk.inj isKnown
  have available : Placed .default record.packageId :=
    fun slot => (StorageLayout.default_path_isSome record.packageId slot).trans valid
  have cut : (⟨none, none, some 1, none, none⟩ : Directories Nat) ∈
      ⟨some 1, none, none, none, none⟩ ::
        (remove .default record.packageId ⟨some 1, none, none, none, none⟩).images := by
    simp [remove_run available]
  exact ⟨record, found, interruption_undone (.removal live rfl) available rfl cut .refl⟩

end PoisonedOS
