import PoisonedOS.Files.Service

/-!
# Files under names

A service that keeps its files under names of its own sees the storage as a function from
these names to contents. Every call of the storage may fail: what it answers is given, and
the call changes what the code under it has done until the failure. A rename removes the
file it finds at the new name, copies, and removes the old file, so it can end in between.
-/

namespace PoisonedOS

/-- The files of a service by their names. -/
abbrev NamedFiles (ν : Type) := ν → Option (List UInt8)

/-- The answers of the storage while a file is opened, written, synced and closed. -/
structure WriteAnswers where
  opened : Bool
  /-- The bytes that are written. -/
  written : Nat
  synced : Bool
  closed : Bool

/-- The answers of the storage to the calls of one `storage_common_rename`. -/
structure RenameAnswers where
  /-- The old file is found. -/
  oldSeen : Bool
  /-- A file at the new name is found. -/
  newSeen : Bool
  /-- A file at the new name is removed. -/
  newRemoved : Bool
  /-- The copy finds and opens the old file and creates the new one. -/
  created : Bool
  /-- The bytes of the file that the copy gets. -/
  copied : Nat
  /-- Copying ends with an error. -/
  copyFailed : Bool
  /-- The old file is removed. -/
  oldRemoved : Bool

namespace NamedFiles

variable {ν : Type} [DecidableEq ν] (files : NamedFiles ν)

/-- `storage_file_exists`. -/
def fileExists (name : ν) (seen : Bool) : Bool := seen && (files name).isSome

/-- `storage_common_remove`. -/
def remove (name : ν) (removed : Bool) : NamedFiles ν :=
  if removed then Function.update files name none else files

/-- A file is opened with `FSOM_CREATE_ALWAYS`, written, synced and closed. -/
def writeNew (name : ν) (data : List UInt8) (answers : WriteAnswers) : Bool × NamedFiles ν :=
  if !answers.opened then (false, files)
  else
    (decide (data.length ≤ answers.written) && answers.synced && answers.closed,
      Function.update files name (some (data.take answers.written)))

def cleared (new : ν) (answers : RenameAnswers) : NamedFiles ν :=
  if files.fileExists new answers.newSeen then files.remove new answers.newRemoved else files

/-- `storage_common_rename` of a file to another name. -/
def rename (old new : ν) (answers : RenameAnswers) : Bool × NamedFiles ν :=
  match files old with
  | none => (false, files)
  | some content =>
    if !answers.oldSeen then (false, files)
    else
      let cleared := files.cleared new answers
      if (cleared new).isSome || !answers.created then (false, cleared)
      else
        let copied := Function.update cleared new (some (content.take answers.copied))
        if answers.copyFailed || !answers.oldRemoved then (false, copied)
        else (true, Function.update copied old none)

def cleanUp (result : Bool × NamedFiles ν) (temporary : ν) (removed : Bool) :
    Bool × NamedFiles ν :=
  if result.1 then result else (false, result.2.remove temporary removed)

variable {files} {old new name : ν} {answers : RenameAnswers}

@[simp] theorem remove_same (removed : Bool) :
    files.remove name removed name = if removed then none else files name := by
  rw [remove]
  split <;> simp

variable {other : ν}

theorem remove_other (differ : other ≠ name) (removed : Bool) :
    files.remove name removed other = files other := by
  rw [remove]
  split <;> simp [differ]

@[simp] theorem cleanUp_fst (result : Bool × NamedFiles ν) (temporary : ν) (removed : Bool) :
    (cleanUp result temporary removed).1 = result.1 := by
  rw [cleanUp]
  cases failed : result.1 <;> simp [failed]

theorem cleanUp_other {temporary : ν} (differ : other ≠ temporary) (result : Bool × NamedFiles ν)
    (removed : Bool) :
    (cleanUp result temporary removed).2 other = result.2 other := by
  rw [cleanUp]
  split
  · rfl
  · exact remove_other differ _

variable {data : List UInt8} {written : WriteAnswers}

theorem writeNew_other (differ : other ≠ name) :
    (files.writeNew name data written).2 other = files other := by
  rw [writeNew]
  split <;> simp [differ]

/-- A file that was written with success is whole. -/
theorem writeNew_same (succeeded : (files.writeNew name data written).1 = true) :
    (files.writeNew name data written).2 name = some data := by
  rw [writeNew] at succeeded ⊢
  split at succeeded
  · cases succeeded
  · rename_i opened
    simp only [Bool.and_eq_true, decide_eq_true_eq] at succeeded
    simp only [opened, Bool.false_eq_true, ↓reduceIte, Function.update_self,
      List.take_of_length_le succeeded.1.1]

theorem cleared_other (differ : other ≠ new) :
    files.cleared new answers other = files other := by
  rw [cleared]
  split
  · exact remove_other differ _
  · rfl

/-- A rename touches its two names only. -/
theorem rename_other (notOld : other ≠ old) (notNew : other ≠ new) :
    (files.rename old new answers).2 other = files other := by
  rw [rename]
  cases files old with
  | none => rfl
  | some content =>
    simp only
    split
    · rfl
    split
    · exact cleared_other notNew
    split
    · simp only [Function.update_of_ne notNew, cleared_other notNew]
    · simp only [Function.update_of_ne notOld, Function.update_of_ne notNew,
        cleared_other notNew]

def Spares (files : NamedFiles ν) (new : ν) (answers : RenameAnswers) : Prop :=
  (files new).isSome = true → (answers.newSeen && answers.newRemoved) = false

theorem cleared_spared (spares : files.Spares new answers) :
    files.cleared new answers new = files new := by
  rw [cleared, fileExists]
  cases present : files new with
  | none => simp [present]
  | some content =>
    have spared := spares (by rw [present]; rfl)
    cases seen : answers.newSeen with
    | false => simp [present]
    | true =>
      rw [seen, Bool.true_and] at spared
      simp [present, spared]

/-- **What a rename does that spares its new name**: it fails without a change there, or the
new name was free and it has created a copy. -/
theorem rename_spared (differ : old ≠ new) (spares : files.Spares new answers) :
    ((files.rename old new answers).1 = false ∧
      (files.rename old new answers).2 new = files new) ∨
    ∃ content, files old = some content ∧ files new = none ∧ answers.created = true ∧
      (files.rename old new answers).1 = (!answers.copyFailed && answers.oldRemoved) ∧
      (files.rename old new answers).2 new = some (content.take answers.copied) := by
  have kept := cleared_spared spares
  rw [rename]
  cases held : files old with
  | none => exact .inl ⟨rfl, rfl⟩
  | some content =>
    simp only
    split
    · exact .inl ⟨rfl, rfl⟩
    rw [kept]
    split
    · exact .inl ⟨rfl, kept⟩
    · rename_i free
      simp only [Bool.or_eq_true, Bool.not_eq_true', not_or, Bool.not_eq_false,
        Bool.not_eq_true, Option.isSome_eq_false_iff, Option.isNone_iff_eq_none] at free
      refine .inr ⟨content, rfl, free.1, free.2, ?_, ?_⟩
      · cases answers.copyFailed <;> cases answers.oldRemoved <;> rfl
      split
      · exact Function.update_self ..
      · simp only [Function.update_of_ne differ.symm, Function.update_self]

end NamedFiles

end PoisonedOS
