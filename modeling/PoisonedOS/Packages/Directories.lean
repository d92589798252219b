import PoisonedOS.Library.Traced
import PoisonedOS.Packages.Layout

/-!
# The directories of one package

A package owns up to five directories, each absent or holding a tree. Storage
calls are taken as single effects: a rename moves a directory that exists to a
name that does not, and a removal empties the name.
Every storage function of the manager is a program over these five names that
also records the states between its removals and renames.

What a tree is does not matter here. The two roots themselves are created on
demand and never removed, so creating them is not an effect on a package.
-/

namespace PoisonedOS

universe u

/-- The contents of a package's five directory names. -/
structure Directories (Tree : Type u) where
  active : Option Tree
  candidate : Option Tree
  rollback : Option Tree
  quarantine : Option Tree
  swap : Option Tree
deriving DecidableEq

namespace Directories

variable {Tree : Type u}

/-- No directory at all. -/
def empty : Directories Tree := ⟨none, none, none, none, none⟩

/-- The content of one name. -/
def get (directories : Directories Tree) : DirectorySlot → Option Tree
  | .active => directories.active
  | .candidate => directories.candidate
  | .rollback => directories.rollback
  | .quarantine => directories.quarantine
  | .swap => directories.swap

/-- Replace the content of one name. -/
def set (directories : Directories Tree) (slot : DirectorySlot) (content : Option Tree) :
    Directories Tree :=
  match slot with
  | .active => { directories with active := content }
  | .candidate => { directories with candidate := content }
  | .rollback => { directories with rollback := content }
  | .quarantine => { directories with quarantine := content }
  | .swap => { directories with swap := content }

end Directories

namespace PackageStorage

variable {Tree : Type u}

/-- `poison_package_storage_exists(storage, path, true)`. -/
def present (slot : DirectorySlot) : Traced (Directories Tree) Bool :=
  Traced.observe fun directories => (directories.get slot).isSome

/-- `poison_package_storage_remove_if_present`. -/
def removeIfPresent (slot : DirectorySlot) : Traced (Directories Tree) Bool :=
  Traced.effect fun directories => (true, directories.set slot none)

/-- `storage_common_rename(storage, source, destination) == FSE_OK`. -/
def rename (source destination : DirectorySlot) : Traced (Directories Tree) Bool :=
  Traced.effect fun directories =>
    match directories.get source, directories.get destination with
    | some tree, none => (true, (directories.set source none).set destination (some tree))
    | _, _ => (false, directories)

/-- `poison_package_storage_mkdir_tree` on a root of the layout. -/
def makeRoot : Traced (Directories Tree) Bool := pure true

/-- `if(ok) ok = step;` -/
def ifOk (ok : Bool) (step : Traced (Directories Tree) Bool) : Traced (Directories Tree) Bool :=
  if ok then step else pure false

/-- All the paths a storage function computes first, or it refuses at once. -/
def withPaths (layout : StorageLayout) (packageId : CString) (slots : List DirectorySlot)
    (body : Traced (Directories Tree) Bool) : Traced (Directories Tree) Bool :=
  if slots.all fun slot => (layout.path packageId slot).isSome then body else pure false

variable (layout : StorageLayout) (packageId : CString)

/-- `poison_package_storage_activate`. -/
def activate : Traced (Directories Tree) Bool :=
  withPaths layout packageId [.candidate, .rollback, .active] do
    let ok ← present .candidate
    let ok ← ifOk ok makeRoot
    let hadActive ← ifOk ok (present .active)
    let ok ← ifOk ok (removeIfPresent .rollback)
    let ok ← if ok && hadActive then rename .active .rollback else pure ok
    let ok ← ifOk ok (rename .candidate .active)
    if !ok && hadActive && !(← present .active) && (← present .rollback) then
      let _ ← rename .rollback .active
    return ok

/-- `poison_package_storage_report_health`. -/
def reportHealth (healthy : Bool) : Traced (Directories Tree) Bool :=
  withPaths layout packageId [.active, .rollback, .quarantine] do
    let ok ← present .active
    if healthy then return ok
    let ok ← ifOk ok (removeIfPresent .quarantine)
    let ok ← ifOk ok (rename .active .quarantine)
    let hasRollback ← ifOk ok (present .rollback)
    let ok ← if ok && hasRollback then rename .rollback .active else pure ok
    if !ok && !(← present .active) && (← present .quarantine) then
      let _ ← rename .quarantine .active
    return ok

/-- `poison_package_storage_revert_health_rollback`. -/
def revertHealthRollback : Traced (Directories Tree) Bool :=
  withPaths layout packageId [.active, .rollback, .quarantine] do
    let hadActive ← present .active
    let ok := (← present .quarantine) && !(← present .rollback)
    let ok ← if ok && hadActive then rename .active .rollback else pure ok
    let ok ← ifOk ok (rename .quarantine .active)
    if !ok && hadActive && !(← present .active) && (← present .rollback) then
      let _ ← rename .rollback .active
    return ok

/-- `poison_package_storage_rollback`. -/
def rollback : Traced (Directories Tree) Bool :=
  withPaths layout packageId [.active, .rollback, .swap] do
    let ok := (← present .active) && (← present .rollback)
    let ok ← ifOk ok (removeIfPresent .swap)
    let ok ← ifOk ok (rename .active .swap)
    let ok ← ifOk ok (rename .rollback .active)
    let ok ← ifOk ok (rename .swap .rollback)
    if !ok then
      if (← present .active) && (← present .swap) && !(← present .rollback) then
        let _ ← rename .active .rollback
      if (← present .swap) && !(← present .active) then
        let _ ← rename .swap .active
    return ok

/-- `poison_package_storage_remove`. -/
def remove : Traced (Directories Tree) Bool :=
  withPaths layout packageId [.active, .rollback] do
    let ok ← present .active
    let ok ← ifOk ok (removeIfPresent .rollback)
    ifOk ok (rename .active .rollback)

/-- `poison_package_storage_restore_removed`. -/
def restoreRemoved : Traced (Directories Tree) Bool :=
  withPaths layout packageId [.active, .rollback] do
    let ok := !(← present .active) && (← present .rollback)
    ifOk ok (rename .rollback .active)

/-- `poison_package_storage_quarantine`. -/
def quarantine : Traced (Directories Tree) Bool :=
  withPaths layout packageId [.candidate, .active, .quarantine] do
    let source := if ← present .candidate then DirectorySlot.candidate else .active
    let ok ← present source
    let ok ← ifOk ok (removeIfPresent .quarantine)
    ifOk ok (rename source .quarantine)

/-- `poison_package_storage_restore_quarantine`. -/
def restoreQuarantine (toCandidate : Bool) : Traced (Directories Tree) Bool :=
  let destination := if toCandidate then DirectorySlot.candidate else .active
  withPaths layout packageId [destination, .quarantine] do
    let ok := (← present .quarantine) && !(← present destination)
    let ok ← if !toCandidate && ok then makeRoot else pure ok
    ifOk ok (rename .quarantine destination)

/-- A layout that gives the package all its paths. -/
def Placed (layout : StorageLayout) (packageId : CString) : Prop :=
  ∀ slot, (layout.path packageId slot).isSome = true

variable {layout packageId}

/-- With every path available the body runs. -/
theorem with_paths_placed (placed : Placed layout packageId) (slots : List DirectorySlot)
    (body : Traced (Directories Tree) Bool) :
    withPaths layout packageId slots body = body := by
  have available : (slots.all fun slot => (layout.path packageId slot).isSome) = true := by
    simp only [List.all_eq_true]
    exact fun slot _ => placed slot
  simp only [withPaths, available, if_true]

/-- Under the default layout an invalid identifier is refused everywhere. -/
theorem with_paths_default (slots : List DirectorySlot) (nonempty : slots ≠ [])
    (body : Traced (Directories Tree) Bool) (packageId : CString) :
    withPaths .default packageId slots body =
      if packageIdValid packageId then body else pure false := by
  cases slots with
  | nil => exact absurd rfl nonempty
  | cons first rest =>
    simp only [withPaths, List.all_cons, StorageLayout.default_path_isSome]
    cases packageIdValid packageId <;> simp

section Runs

variable (placed : Placed layout packageId) (directories : Directories Tree)
include placed

/-- Activation drops the old rollback tree, moves the active tree behind and the
candidate into place. Without a candidate it does nothing. -/
theorem activate_run : activate layout packageId directories =
    match directories with
    | ⟨none, some candidate, _, quarantine, swap⟩ =>
      ⟨true, ⟨some candidate, none, none, quarantine, swap⟩,
        [⟨none, some candidate, none, quarantine, swap⟩,
          ⟨some candidate, none, none, quarantine, swap⟩]⟩
    | ⟨some active, some candidate, _, quarantine, swap⟩ =>
      ⟨true, ⟨some candidate, none, some active, quarantine, swap⟩,
        [⟨some active, some candidate, none, quarantine, swap⟩,
          ⟨none, some candidate, some active, quarantine, swap⟩,
          ⟨some candidate, none, some active, quarantine, swap⟩]⟩
    | unchanged => ⟨false, unchanged, []⟩ := by
  unfold activate
  rw [with_paths_placed placed]
  obtain ⟨_ | active, _ | candidate, rollback, quarantine, swap⟩ := directories <;> rfl

/-- A healthy report only checks that an active tree exists. -/
theorem report_health_run_healthy : reportHealth layout packageId true directories =
    ⟨directories.active.isSome, directories, []⟩ := by
  unfold reportHealth
  rw [with_paths_placed placed]
  rfl

/-- An unhealthy report quarantines the active tree and brings the rollback tree
back. Without an active tree its undo step runs although nothing was done, and
turns a quarantined tree active. -/
theorem report_health_run_unhealthy : reportHealth layout packageId false directories =
    match directories with
    | ⟨some active, candidate, some rollback, _, swap⟩ =>
      ⟨true, ⟨some rollback, candidate, none, some active, swap⟩,
        [⟨some active, candidate, some rollback, none, swap⟩,
          ⟨none, candidate, some rollback, some active, swap⟩,
          ⟨some rollback, candidate, none, some active, swap⟩]⟩
    | ⟨some active, candidate, none, _, swap⟩ =>
      ⟨true, ⟨none, candidate, none, some active, swap⟩,
        [⟨some active, candidate, none, none, swap⟩,
          ⟨none, candidate, none, some active, swap⟩]⟩
    | ⟨none, candidate, rollback, some quarantine, swap⟩ =>
      ⟨false, ⟨some quarantine, candidate, rollback, none, swap⟩,
        [⟨some quarantine, candidate, rollback, none, swap⟩]⟩
    | unchanged => ⟨false, unchanged, []⟩ := by
  unfold reportHealth
  rw [with_paths_placed placed]
  obtain ⟨_ | active, candidate, _ | rollback, _ | quarantine, swap⟩ := directories <;> rfl

/-- Reverting an unhealthy report takes the quarantined tree back, provided the
rollback name is free. -/
theorem revert_health_rollback_run : revertHealthRollback layout packageId directories =
    match directories with
    | ⟨some active, candidate, none, some quarantine, swap⟩ =>
      ⟨true, ⟨some quarantine, candidate, some active, none, swap⟩,
        [⟨none, candidate, some active, some quarantine, swap⟩,
          ⟨some quarantine, candidate, some active, none, swap⟩]⟩
    | ⟨none, candidate, none, some quarantine, swap⟩ =>
      ⟨true, ⟨some quarantine, candidate, none, none, swap⟩,
        [⟨some quarantine, candidate, none, none, swap⟩]⟩
    | unchanged => ⟨false, unchanged, []⟩ := by
  unfold revertHealthRollback
  rw [with_paths_placed placed]
  obtain ⟨_ | active, candidate, _ | rollback, _ | quarantine, swap⟩ := directories <;> rfl

/-- A rollback exchanges the active and the rollback tree through the swap name.
When one of the two is missing, its undo steps still act on a leftover swap. -/
theorem rollback_run : rollback layout packageId directories =
    match directories with
    | ⟨some active, candidate, some rollback, quarantine, _⟩ =>
      ⟨true, ⟨some rollback, candidate, some active, quarantine, none⟩,
        [⟨some active, candidate, some rollback, quarantine, none⟩,
          ⟨none, candidate, some rollback, quarantine, some active⟩,
          ⟨some rollback, candidate, none, quarantine, some active⟩,
          ⟨some rollback, candidate, some active, quarantine, none⟩]⟩
    | ⟨some active, candidate, none, quarantine, some swap⟩ =>
      ⟨false, ⟨some swap, candidate, some active, quarantine, none⟩,
        [⟨none, candidate, some active, quarantine, some swap⟩,
          ⟨some swap, candidate, some active, quarantine, none⟩]⟩
    | ⟨none, candidate, rollback, quarantine, some swap⟩ =>
      ⟨false, ⟨some swap, candidate, rollback, quarantine, none⟩,
        [⟨some swap, candidate, rollback, quarantine, none⟩]⟩
    | unchanged => ⟨false, unchanged, []⟩ := by
  unfold PackageStorage.rollback
  rw [with_paths_placed placed]
  obtain ⟨_ | active, candidate, _ | rollback, quarantine, _ | swap⟩ := directories <;> rfl

/-- Removal keeps the active tree as the rollback tree. -/
theorem remove_run : remove layout packageId directories =
    match directories with
    | ⟨some active, candidate, _, quarantine, swap⟩ =>
      ⟨true, ⟨none, candidate, some active, quarantine, swap⟩,
        [⟨some active, candidate, none, quarantine, swap⟩,
          ⟨none, candidate, some active, quarantine, swap⟩]⟩
    | unchanged => ⟨false, unchanged, []⟩ := by
  unfold remove
  rw [with_paths_placed placed]
  obtain ⟨_ | active, candidate, rollback, quarantine, swap⟩ := directories <;> rfl

theorem restore_removed_run : restoreRemoved layout packageId directories =
    match directories with
    | ⟨none, candidate, some rollback, quarantine, swap⟩ =>
      ⟨true, ⟨some rollback, candidate, none, quarantine, swap⟩,
        [⟨some rollback, candidate, none, quarantine, swap⟩]⟩
    | unchanged => ⟨false, unchanged, []⟩ := by
  unfold restoreRemoved
  rw [with_paths_placed placed]
  obtain ⟨_ | active, candidate, _ | rollback, quarantine, swap⟩ := directories <;> rfl

theorem quarantine_run : quarantine layout packageId directories =
    match directories with
    | ⟨active, some candidate, rollback, _, swap⟩ =>
      ⟨true, ⟨active, none, rollback, some candidate, swap⟩,
        [⟨active, some candidate, rollback, none, swap⟩,
          ⟨active, none, rollback, some candidate, swap⟩]⟩
    | ⟨some active, none, rollback, _, swap⟩ =>
      ⟨true, ⟨none, none, rollback, some active, swap⟩,
        [⟨some active, none, rollback, none, swap⟩,
          ⟨none, none, rollback, some active, swap⟩]⟩
    | unchanged => ⟨false, unchanged, []⟩ := by
  unfold PackageStorage.quarantine
  rw [with_paths_placed placed]
  obtain ⟨_ | active, _ | candidate, rollback, quarantine, swap⟩ := directories <;> rfl

theorem restore_quarantine_run_candidate : restoreQuarantine layout packageId true directories =
    match directories with
    | ⟨active, none, rollback, some quarantine, swap⟩ =>
      ⟨true, ⟨active, some quarantine, rollback, none, swap⟩,
        [⟨active, some quarantine, rollback, none, swap⟩]⟩
    | unchanged => ⟨false, unchanged, []⟩ := by
  unfold restoreQuarantine
  simp only [if_true]
  rw [with_paths_placed placed]
  obtain ⟨active, _ | candidate, rollback, _ | quarantine, swap⟩ := directories <;> rfl

theorem restore_quarantine_run_active : restoreQuarantine layout packageId false directories =
    match directories with
    | ⟨none, candidate, rollback, some quarantine, swap⟩ =>
      ⟨true, ⟨some quarantine, candidate, rollback, none, swap⟩,
        [⟨some quarantine, candidate, rollback, none, swap⟩]⟩
    | unchanged => ⟨false, unchanged, []⟩ := by
  unfold restoreQuarantine
  simp only [Bool.false_eq_true, if_false]
  rw [with_paths_placed placed]
  obtain ⟨_ | active, candidate, rollback, _ | quarantine, swap⟩ := directories <;> rfl

end Runs

end PackageStorage

end PoisonedOS
