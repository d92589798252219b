import PoisonedOS.Packages.Persistence
import PoisonedOS.Packages.Directories

/-!
# One package as a cell

A package is a cell of three parts: its record in the manager, its record in the
state file and its directories. A request changes the cell of its own package in
one of two ways. Most requests are motions: move directories, apply one operation
to the record, move the directories back when it is refused, save, and undo
everything when the save fails. A verification fills the candidate directory,
and its refusal is itself a change.

The cell is the abstract level of the development: package requests are shown to
refine its steps, and agreement, atomicity and crash consistency are properties
of cells.
-/

namespace PoisonedOS

/-- One package: its record in memory, its saved record and its directories. -/
structure PackageCell (Tree : Type) where
  record : Option PackageRecord
  stored : Option PackageRecord
  directories : Directories Tree
deriving DecidableEq

namespace PackageCell

variable {Tree : Type}

/-- The record as it is now is the saved one. -/
def synced (cell : PackageCell Tree) : PackageCell Tree := { cell with stored := cell.record }

/-- The cell with other directories. -/
def place (cell : PackageCell Tree) (directories : Directories Tree) : PackageCell Tree :=
  { cell with directories }

@[simp] theorem place_record (cell : PackageCell Tree) (directories : Directories Tree) :
    (cell.place directories).record = cell.record := rfl

@[simp] theorem place_stored (cell : PackageCell Tree) (directories : Directories Tree) :
    (cell.place directories).stored = cell.stored := rfl

@[simp] theorem place_directories (cell : PackageCell Tree) (directories : Directories Tree) :
    (cell.place directories).directories = directories := rfl

def accepts (cell : PackageCell Tree) (operation : RecordOperation) : Bool :=
  cell.record.any fun record => (operation.apply record).result

def applied (cell : PackageCell Tree) (operation : RecordOperation) : PackageCell Tree :=
  { cell with record := cell.record.map fun record => (operation.apply record).record }

@[simp] theorem applied_stored (cell : PackageCell Tree) (operation : RecordOperation) :
    (cell.applied operation).stored = cell.stored := rfl

@[simp] theorem applied_directories (cell : PackageCell Tree) (operation : RecordOperation) :
    (cell.applied operation).directories = cell.directories := rfl

/-- Run a storage function on the directories. -/
def storage (program : Traced (Directories Tree) Bool) : Traced (PackageCell Tree) Bool :=
  Traced.focus directories (fun directories cell => cell.place directories) program

def managed (operation : RecordOperation) : Traced (PackageCell Tree) Bool :=
  Traced.silent fun cell => (cell.accepts operation, cell.applied operation)

/-- Save the record, given whether that succeeds. -/
def save (saved : Bool) : Traced (PackageCell Tree) Bool :=
  Traced.effect fun cell => if saved then (true, cell.synced) else (false, cell)

/-- Set the record. -/
def write (record : Option PackageRecord) : Traced (PackageCell Tree) Bool :=
  Traced.silent fun cell => (true, { cell with record })

/-- How every request ends: save a change, or undo what succeeded and bring the
previous record back. -/
def settle (previous : Option PackageRecord) (changed saved result : Bool)
    (undo : Traced (PackageCell Tree) Bool) : Traced (PackageCell Tree) Bool := do
  let kept ← Traced.onlyIf changed (save saved) true
  let _ ← Traced.onlyIf (!kept) (do
    let _ ← Traced.onlyIf result undo true
    write previous) true
  return kept && result

end PackageCell

/-- A request that moves directories, applies an operation to the record, and can
take the move back: after a refusal and after a failed save. -/
structure Motion (Tree : Type) where
  move : Traced (Directories Tree) Bool
  operation : RecordOperation
  revert : Traced (Directories Tree) Bool
  undo : Traced (Directories Tree) Bool

namespace Motion

variable {Tree : Type}

/-- A motion of the record alone. -/
def recordOnly (operation : RecordOperation) : Motion Tree :=
  ⟨pure true, operation, pure true, pure true⟩

/-- The part of a motion before the save: move, apply, move back if refused. -/
def attempt (motion : Motion Tree) : Traced (PackageCell Tree) Bool := do
  let moved ← PackageCell.storage motion.move
  let result ← Traced.onlyIf moved (PackageCell.managed motion.operation) false
  let _ ← Traced.onlyIf (moved && !result) (PackageCell.storage motion.revert) true
  return result

def run (motion : Motion Tree) (saved : Bool) : Traced (PackageCell Tree) Bool := do
  let previous ← Traced.observe PackageCell.record
  let result ← motion.attempt
  PackageCell.settle previous result saved result (PackageCell.storage motion.undo)

section Runs

variable (motion : Motion Tree) (saved : Bool) (cell : PackageCell Tree)

/-- A move that fails ends the motion. -/
theorem run_unmoved (unmoved : (motion.move cell.directories).value = false) :
    motion.run saved cell =
      ⟨false, cell.place (motion.move cell.directories).final,
        (motion.move cell.directories).images.map cell.place⟩ := by
  simp [run, attempt, PackageCell.settle, PackageCell.storage, unmoved]

variable (moved : (motion.move cell.directories).value = true)
include moved

/-- A refused motion moves the directories back as far as it can. -/
theorem run_refused (refused : cell.accepts motion.operation = false) :
    let after := (motion.move cell.directories).final
    motion.run saved cell =
      ⟨false, (cell.applied motion.operation).place (motion.revert after).final,
        (motion.move cell.directories).images.map cell.place ++
          (motion.revert after).images.map (cell.applied motion.operation).place⟩ := by
  have refusedAfter : (cell.place (motion.move cell.directories).final).accepts
      motion.operation = false := refused
  simp [run, attempt, PackageCell.settle, PackageCell.storage, PackageCell.managed, moved,
    refusedAfter]
  exact ⟨rfl, fun _ _ => rfl⟩

variable (accepted : cell.accepts motion.operation = true)
include accepted

/-- An accepted motion ends with its save. -/
theorem run_saved :
    let after := (cell.applied motion.operation).place (motion.move cell.directories).final
    motion.run true cell =
      ⟨true, after.synced, (motion.move cell.directories).images.map cell.place ++
        [after.synced]⟩ := by
  have acceptedAfter : (cell.place (motion.move cell.directories).final).accepts
      motion.operation = true := accepted
  simp [run, attempt, PackageCell.settle, PackageCell.storage, PackageCell.managed,
    PackageCell.save, moved, acceptedAfter]
  rfl

/-- An accepted motion that cannot be saved is undone as far as it can be. -/
theorem run_unsaved :
    let after := (cell.applied motion.operation).place (motion.move cell.directories).final
    motion.run false cell =
      ⟨false, cell.place (motion.undo after.directories).final,
        (motion.move cell.directories).images.map cell.place ++ after ::
          (motion.undo after.directories).images.map after.place⟩ := by
  have acceptedAfter : (cell.place (motion.move cell.directories).final).accepts
      motion.operation = true := accepted
  simp [run, attempt, PackageCell.settle, PackageCell.storage, PackageCell.managed,
    PackageCell.save, PackageCell.write, moved, acceptedAfter]
  exact ⟨rfl, rfl, fun _ _ => rfl⟩

end Runs

/-- A motion succeeds only by moving the directories, by being accepted and by
being saved. -/
theorem run_succeeded {motion : Motion Tree} {saved : Bool} {cell : PackageCell Tree}
    (succeeded : (motion.run saved cell).value = true) :
    (motion.move cell.directories).value = true ∧ cell.accepts motion.operation = true ∧
      saved = true ∧ (motion.run saved cell).final =
        ((cell.applied motion.operation).place (motion.move cell.directories).final).synced := by
  cases moved : (motion.move cell.directories).value with
  | false =>
    rw [motion.run_unmoved saved cell moved] at succeeded
    cases succeeded
  | true =>
    cases accepted : cell.accepts motion.operation with
    | false =>
      rw [motion.run_refused saved cell moved accepted] at succeeded
      cases succeeded
    | true =>
      cases saved with
      | false =>
        rw [motion.run_unsaved cell moved accepted] at succeeded
        cases succeeded
      | true => exact ⟨rfl, rfl, rfl, by rw [motion.run_saved cell moved accepted]⟩

/-- The record and the directories after a motion whose save succeeds. -/
theorem run_true_cases (motion : Motion Tree) (cell : PackageCell Tree) :
    let moved := motion.move cell.directories
    let final := (motion.run true cell).final
    (moved.value = false ∧ final.record = cell.record ∧ final.directories = moved.final) ∨
    (moved.value = true ∧ cell.accepts motion.operation = false ∧
      final.record = (cell.applied motion.operation).record ∧
      final.directories = (motion.revert moved.final).final) ∨
    (moved.value = true ∧ cell.accepts motion.operation = true ∧
      final.record = (cell.applied motion.operation).record ∧ final.directories = moved.final) := by
  intro moved final
  cases isMoved : moved.value with
  | false => exact .inl ⟨rfl, by simp [final, motion.run_unmoved true cell isMoved, moved]⟩
  | true =>
    cases accepted : cell.accepts motion.operation with
    | false =>
      exact .inr (.inl ⟨rfl, rfl, by simp [final, motion.run_refused true cell isMoved accepted,
        moved]⟩)
    | true =>
      exact .inr (.inr ⟨rfl, rfl, by simp [final, motion.run_saved cell isMoved accepted,
        PackageCell.synced, moved]⟩)

end Motion

/-- A verification: the digest it expects, how the candidate is extracted once a
record is known, if an archive came with the request, and whether a token is
issued afterwards. -/
structure Verification (Tree : Type) where
  digest : CString
  extraction : Option (PackageRecord → Traced (Directories Tree) Bool)
  quarantine : Traced (Directories Tree) Bool
  issued : Bool

namespace Verification

variable {Tree : Type}

/-- The extraction of the candidate. Without an archive or a record it fails and
touches nothing. -/
def extract (verification : Verification Tree) (record : Option PackageRecord) :
    Traced (PackageCell Tree) Bool :=
  match verification.extraction, record with
  | some extraction, some record => PackageCell.storage (extraction record)
  | _, _ => pure false

/-- Extract, apply the verification to the record, and quarantine the package
when it is refused although an archive came with the request. -/
def attempt (verification : Verification Tree) (record : Option PackageRecord) :
    Traced (PackageCell Tree) Bool := do
  let extracted ← verification.extract record
  let result ← PackageCell.managed (.verify verification.digest extracted)
  let _ ← Traced.onlyIf (!result && verification.extraction.isSome)
    (PackageCell.storage verification.quarantine) true
  return result

/-- A whole verification. The record changes whenever there is one. When the save
fails, the candidate is quarantined if a token had been issued. -/
def run (verification : Verification Tree) (saved : Bool) : Traced (PackageCell Tree) Bool := do
  let previous ← Traced.observe PackageCell.record
  let result ← verification.attempt previous
  PackageCell.settle previous previous.isSome saved (result && verification.issued)
    (PackageCell.storage verification.quarantine)

/-- The record and the directories after a verification whose save succeeds: the
refused candidate has been quarantined if an archive came with the request. -/
theorem run_true (verification : Verification Tree) (cell : PackageCell Tree) :
    let extracted := verification.extract cell.record cell
    let operation := RecordOperation.verify verification.digest extracted.value
    let final := (verification.run true cell).final
    final.record = (extracted.final.applied operation).record ∧
    final.directories =
      if !extracted.final.accepts operation && verification.extraction.isSome then
        (verification.quarantine extracted.final.directories).final
      else extracted.final.directories := by
  intro extracted operation final
  have ran : final = (PackageCell.settle cell.record cell.record.isSome true
      ((verification.attempt cell.record cell).value && verification.issued)
      (PackageCell.storage verification.quarantine)
      (verification.attempt cell.record cell).final).final := rfl
  have settled : final.record = (verification.attempt cell.record cell).final.record ∧
      final.directories = (verification.attempt cell.record cell).final.directories := by
    rw [ran]
    cases cell.record <;> simp [PackageCell.settle, PackageCell.save, PackageCell.synced]
  rw [settled.1, settled.2]
  simp only [attempt, Traced.bind_run, PackageCell.managed, Traced.silent_run, Traced.pure_run]
  cases !extracted.final.accepts operation && verification.extraction.isSome <;>
    simp_all [PackageCell.storage, extracted, operation]

end Verification

end PoisonedOS
