import Mathlib.Logic.Function.Basic
import PoisonedOS.Library.Text

/-!
# The files below a directory

A tree holds directories and files under the names they have on the volume. How the volume
names a path is a parameter, which may give two paths one name and some paths none. Calls
succeed unless the names forbid it.
-/

namespace PoisonedOS

inductive TreeEntry where
  | directory
  | file (content : List UInt8)
deriving DecidableEq

/-- What stands at each name. -/
abbrev FileTree := CString → Option TreeEntry

namespace FileTree

def empty : FileTree := fun _ => none

/-- The content of the file at a name. -/
def file (tree : FileTree) (name : CString) : Option (List UInt8) :=
  match tree name with
  | some (.file content) => some content
  | _ => none

variable (names : CString → Option CString) (tree : FileTree)

def put (name : CString) (entry : Option TreeEntry) : FileTree := Function.update tree name entry

/-- A directory is made unless it is there. -/
def makeDirectory (path : CString) : Bool × FileTree :=
  match names path with
  | none => (false, tree)
  | some name =>
    match tree name with
    | none => (true, tree.put name (some .directory))
    | some .directory => (true, tree)
    | some (.file _) => (false, tree)

/-- The directories of a path are made from the outermost on. -/
def makeDirectories (tree : FileTree) : List CString → Bool × FileTree
  | [] => (true, tree)
  | path :: rest =>
    let (made, grown) := tree.makeDirectory names path
    if made then makeDirectories grown rest else (false, grown)

/-- `storage_simply_remove`, and a file is created and written. A directory stays, as it is
not empty. -/
def rewrite (name : CString) (content : List UInt8) : Bool × FileTree :=
  match tree name with
  | some .directory => (false, tree)
  | _ => (true, tree.put name (some (.file content)))

/-- `storage_common_rename` of a file: what is at the new name is removed, then the file is
copied and the old one removed. -/
def renameFile (old new : CString) : Bool × FileTree :=
  let cleared := if (tree.file new).isSome then tree.put new none else tree
  match cleared.file old, cleared new with
  | some content, none => (true, (cleared.put new (some (.file content))).put old none)
  | _, _ => (false, cleared)

variable {names tree} {name other old new : CString} {content : List UInt8}

@[simp] theorem file_empty : empty.file name = none := rfl

@[simp] theorem put_same (entry : Option TreeEntry) : tree.put name entry name = entry :=
  Function.update_self ..

theorem put_other (differ : other ≠ name) (entry : Option TreeEntry) :
    tree.put name entry other = tree other := Function.update_of_ne differ ..

@[simp] theorem file_put_same (entry : Option TreeEntry) :
    (tree.put name entry).file name =
      match entry with
      | some (.file content) => some content
      | _ => none := by
  rw [file, put_same]

theorem file_congr {next : FileTree} (same : next name = tree name) :
    next.file name = tree.file name := by
  rw [file, file, same]

/-- Making directories touches no file. -/
theorem file_makeDirectory (path : CString) :
    (tree.makeDirectory names path).2.file other = tree.file other := by
  rw [makeDirectory]
  cases names path with
  | none => rfl
  | some name =>
    dsimp only
    split
    · rename_i free
      by_cases same : other = name
      · rw [same]
        simp [file, free]
      · exact file_congr (put_other same _)
    · rfl
    · rfl

theorem file_makeDirectories (paths : List CString) :
    (tree.makeDirectories names paths).2.file other = tree.file other := by
  induction paths generalizing tree with
  | nil => rfl
  | cons path rest ih =>
    simp only [makeDirectories]
    split
    · exact ih.trans (file_makeDirectory path)
    · exact file_makeDirectory path

/-- A file that can be written anew holds what is written, and no other file is touched. -/
theorem file_rewrite (written : (tree.rewrite name content).1 = true) :
    (tree.rewrite name content).2.file name = some content ∧
      ∀ other, other ≠ name → (tree.rewrite name content).2 other = tree other := by
  rw [rewrite] at written ⊢
  split at written
  · cases written
  · exact ⟨file_put_same _, fun other differ => put_other differ _⟩

/-- A file that is moved to a free name is there and nowhere else. -/
theorem file_renameFile (differ : old ≠ new) (held : tree.file old = some content)
    (free : tree.file new = none) (moved : (tree.renameFile old new).1 = true) :
    (tree.renameFile old new).2.file new = some content ∧
      (tree.renameFile old new).2.file old = none ∧
      ∀ other, other ≠ old → other ≠ new → (tree.renameFile old new).2 other = tree other := by
  simp only [renameFile, free, Option.isSome_none, Bool.false_eq_true, if_false, held] at moved ⊢
  split at moved
  · rename_i isNew found absent
    cases found
    refine ⟨?_, file_put_same _, fun other notOld notNew => ?_⟩
    · exact (file_congr (put_other differ.symm _)).trans (file_put_same _)
    · exact (put_other notOld _).trans (put_other notNew _)
  · cases moved

end FileTree

end PoisonedOS
