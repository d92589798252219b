import PoisonedOS.Packages.Persisted
import PoisonedOS.Rpc.ContentUpdates

/-!
# Admission for storage

The free space of the card is a number of 64 bits, and the environment that admission
compares has 32. An import of a package narrows the number on the way; an import of a
content update refuses every number that does not fit before it narrows it.

So neither compares what it was given once the card has 4 GiB free: a package may be refused
that fits, and a content update always is.
-/

namespace PoisonedOS

namespace ContentUpdate

variable {manifest : ContentUpdateManifest} {environment : ContentUpdateEnvironment}

/-- When an update is admitted with some free space, only the storage is left to be checked
with another. -/
theorem admitUpdate_storage {update : ContentUpdate}
    (admitted : admitUpdate manifest environment = (.ok, some update)) (free : UInt32) :
    admitUpdate manifest { environment with availableStorageBytes := free } =
      if manifest.contentBytes > free then (.insufficientStorage, none)
      else (.ok, some update) := by
  simp only [admitUpdate] at admitted ⊢
  repeat' split at admitted
  any_goals (cases admitted; done)
  rename_i shaped verified unrevoked targeted compatible newer _ backed _ begun started
  rw [if_neg shaped, if_neg verified, if_neg unrevoked, if_neg targeted, if_neg compatible,
    if_neg newer, if_neg backed, admitted]

/-- An update that is admitted has content. -/
theorem admitUpdate_content {update : ContentUpdate}
    (admitted : admitUpdate manifest environment = (.ok, some update)) :
    manifest.contentBytes ≠ 0 := by
  intro empty
  simp [admitUpdate, empty] at admitted

end ContentUpdate

/-- The number narrowed to 32 bits. -/
theorem toNat_narrowed (free : UInt64) : free.toUInt32.toNat = free.toNat % 4294967296 := by
  simp

namespace PackageTransaction

variable {manifest : ContentUpdateManifest} {environment : ContentUpdateEnvironment}
  {previousState : PackageState} {protectedPackage : Bool}

/-- A transaction begins like its update. -/
theorem begin_storage {transaction : PackageTransaction}
    (begun : PackageTransaction.begin manifest environment previousState protectedPackage =
      (.ok, some transaction)) (free : UInt32) :
    manifest.contentBytes ≠ 0 ∧
      PackageTransaction.begin manifest { environment with availableStorageBytes := free }
          previousState protectedPackage =
        if manifest.contentBytes > free then (.insufficientStorage, none)
        else (.ok, some transaction) := by
  simp only [PackageTransaction.begin] at begun ⊢
  split at begun
  · cases begun
  rename_i allowed
  rw [if_neg allowed]
  cases admission : ContentUpdate.admitUpdate manifest environment with
  | mk verdict admitted =>
    rw [admission] at begun
    split at begun
    · rename_i update isUpdate
      cases isUpdate
      refine ⟨ContentUpdate.admitUpdate_content admission, ?_⟩
      rw [ContentUpdate.admitUpdate_storage admission free]
      by_cases exceeds : manifest.contentBytes > free
      · simp only [if_pos exceeds]
      · simp only [if_neg exceeds]
        exact begun
    · cases begun

end PackageTransaction

namespace PackageManager

/-- The package with another free space. -/
def withFree (package : PackageImport) (free : UInt64) : PackageImport :=
  { package with availableStorageBytes := free }

/-- Every check but that of the storage passes: with some free space the package is
imported. -/
def Admissible (manager : PackageManager) (package : PackageImport) : Prop :=
  ∃ enough, (manager.importPackage (withFree package enough)).1 = true

variable {manager : PackageManager} {package : PackageImport}

/-- The checks of the argument ask only whether there is free space. -/
theorem check_withFree {enough : UInt64} {updateType : ContentUpdateType}
    (checked : (withFree package enough).check = some updateType) (free : UInt64) :
    (withFree package free).check = if free = 0 then none else some updateType := by
  dsimp only [PackageImport.check, withFree] at checked ⊢
  cases verified : package.manifestVerified with
  | false =>
    rw [verified] at checked
    cases checked
  | true =>
    simp only [verified, Bool.not_true, Bool.false_eq_true, if_false] at checked ⊢
    cases parsed : packageContentTypeParse package.contentType with
    | none =>
      rw [parsed] at checked
      cases checked
    | some parsedType =>
      rw [parsed] at checked
      dsimp only at checked ⊢
      split at checked
      · cases checked
      · rename_i passes
        cases checked
        simp only [Bool.or_eq_true, not_or, Bool.not_eq_true] at passes
        by_cases empty : free = 0
        · simp [empty]
        · simp [passes, empty]

/-- An admissible package is imported where the narrowed number covers its content. -/
theorem Admissible.imported (admissible : manager.Admissible package) (free : UInt64) :
    (manager.importPackage (withFree package free)).1 = true ↔
      package.contentBytes.toNat ≤ free.toNat % 4294967296 := by
  obtain ⟨enough, accepted⟩ := admissible
  have sameSlot (other : UInt64) :
      manager.importSlot (withFree package other) = manager.importSlot package := rfl
  simp only [importPackage, sameSlot] at accepted ⊢
  cases checked : (withFree package enough).check with
  | none =>
    rw [checked] at accepted
    cases accepted
  | some updateType =>
    rw [checked] at accepted
    rw [check_withFree checked free]
    cases placed : manager.importSlot package with
    | none =>
      rw [placed] at accepted
      cases accepted
    | some place =>
      rw [placed] at accepted
      dsimp only at accepted
      split at accepted
      · rename_i transaction begun
        obtain ⟨content, same⟩ := PackageTransaction.begin_storage begun free.toUInt32
        have begins : PackageTransaction.begin
            ((withFree package free).admission updateType place.2).1
            ((withFree package free).admission updateType place.2).2
            (withFree package free).previousState (withFree package free).protectedPackage =
              if package.contentBytes > free.toUInt32 then (.insufficientStorage, none)
              else (.ok, some transaction) := same
        have positive : package.contentBytes.toNat ≠ 0 := fun zero =>
          content (UInt32.toNat_inj.mp zero)
        by_cases empty : free = 0
        · subst empty
          simp [positive]
        · simp only [if_neg empty, begins]
          rw [← toNat_narrowed free]
          by_cases exceeds : package.contentBytes > free.toUInt32
          · simp only [if_pos exceeds, Bool.false_eq_true, false_iff, not_le]
            exact UInt32.lt_iff_toNat_lt.mp exceeds
          · simp only [if_neg exceeds, true_iff]
            exact UInt32.le_iff_toNat_le.mp (UInt32.not_lt.mp exceeds)
      · cases accepted

end PackageManager

namespace UpdateEngine

/-- Every check but that of the storage passes: with some free space the update is
imported. -/
def Admissible (engine : UpdateEngine) (request : UpdateRequest) (answers : UpdateAnswers) :
    Prop :=
  ∃ enough, (({ engine with availableStorageBytes := enough } : UpdateEngine).importUpdate
    request answers).1 = true

def contentOf (request : UpdateRequest) (answers : UpdateAnswers) : Nat :=
  ((answers.archive request.manifestPath request.candidateDigest).map
    fun archive => archive.archiveBytes.toNat).getD 0

/-- Content is counted with 32 bits. -/
theorem contentOf_le (request : UpdateRequest) (answers : UpdateAnswers) :
    contentOf request answers ≤ 4294967295 := by
  rw [contentOf]
  cases answers.archive request.manifestPath request.candidateDigest with
  | none => exact Nat.zero_le _
  | some archive => exact Nat.le_of_lt_succ archive.archiveBytes.toNat_lt

variable {engine : UpdateEngine} {request : UpdateRequest} {answers : UpdateAnswers}

/-- The verification of the archive does not look at the free space. -/
theorem verifyArchive_storage (engine : UpdateEngine) (path digest : CString)
    (answers : UpdateAnswers) (free : UInt64) :
    ({ engine with availableStorageBytes := free } : UpdateEngine).verifyArchive path digest
        answers =
      ((engine.verifyArchive path digest answers).1,
        { (engine.verifyArchive path digest answers).2 with availableStorageBytes := free }) := by
  simp only [verifyArchive]
  cases answers.archive path digest with
  | none => rfl
  | some archive =>
    dsimp only
    split
    · rfl
    · split
      · split <;> rfl
      · rfl

/-- What is verified is the archive that was read. -/
theorem verifyArchive_content {path digest : CString} {archive : VerifiedArchive}
    (verified : (engine.verifyArchive path digest answers).1 = some archive) :
    answers.archive path digest = some archive := by
  simp only [verifyArchive] at verified
  cases read : answers.archive path digest with
  | none =>
    rw [read] at verified
    cases verified
  | some other =>
    rw [read] at verified
    dsimp only at verified
    split at verified
    · cases verified
    · split at verified
      · split at verified
        · cases verified
        · exact verified
      · exact verified

/-- An admissible update is imported where the free space fits into 32 bits and covers the
content. -/
theorem Admissible.imported (admissible : engine.Admissible request answers) (free : UInt64) :
    (({ engine with availableStorageBytes := free } : UpdateEngine).importUpdate request
        answers).1 = true ↔
      contentOf request answers ≤ free.toNat ∧ free.toNat ≤ 4294967295 := by
  obtain ⟨enough, accepted⟩ := admissible
  simp only [importUpdate, verifyArchive_storage] at accepted ⊢
  split at accepted
  · cases accepted
  rename_i allocated
  rw [if_neg allocated]
  cases verified : engine.verifyArchive request.manifestPath request.candidateDigest answers with
  | mk read kept =>
    simp only [verified] at accepted ⊢
    cases read with
    | none => cases accepted
    | some archive =>
      have isRead := verifyArchive_content (congrArg Prod.fst verified)
      have content : contentOf request answers = archive.archiveBytes.toNat := by
        rw [contentOf, isRead]
        rfl
      dsimp only at accepted ⊢
      cases known : updateContentType archive.contentType with
      | none =>
        rw [known] at accepted
        cases accepted
      | some contentType =>
        rw [known] at accepted
        dsimp only at accepted ⊢
        split at accepted
        · cases accepted
        rename_i passes
        simp only [Bool.or_eq_true, not_or, Bool.not_eq_true] at passes
        obtain ⟨⟨passes, -⟩, -⟩ := passes
        split at accepted
        · rename_i update admission
          generalize (updateFufPathValid kept.lastKnownGoodManifestPath &&
            answers.present kept.lastKnownGoodManifestPath) = rollback at admission ⊢
          have filled : archive.archiveBytes ≠ 0 := ContentUpdate.admitUpdate_content admission
          have positive : archive.archiveBytes.toNat ≠ 0 := fun zero =>
            filled (UInt32.toNat_inj.mp zero)
          have begins : ContentUpdate.admitUpdate
              (({ kept with availableStorageBytes := free } : UpdateEngine).admission archive
                contentType rollback).1
              (({ kept with availableStorageBytes := free } : UpdateEngine).admission archive
                contentType rollback).2 =
              if archive.archiveBytes > free.toUInt32 then (.insufficientStorage, none)
              else (.ok, some update) :=
            ContentUpdate.admitUpdate_storage admission free.toUInt32
          rw [content]
          by_cases empty : free = 0
          · subst empty
            simp [positive]
          by_cases large : free > 0xFFFFFFFF
          · have beyond : 4294967295 < free.toNat := UInt64.lt_iff_toNat_lt.mp large
            simp [large, Nat.not_le.mpr beyond]
          · have within : free.toNat ≤ 4294967295 :=
              UInt64.le_iff_toNat_le.mp (UInt64.not_lt.mp large)
            have narrowed : free.toUInt32.toNat = free.toNat := by
              rw [toNat_narrowed]
              omega
            simp only [passes, beq_eq_false_iff_ne.mpr empty, large, decide_false, Bool.or_false,
              Bool.false_eq_true, if_false, begins, within, and_true]
            rw [← narrowed]
            by_cases exceeds : archive.archiveBytes > free.toUInt32
            · simp only [if_pos exceeds, Bool.false_eq_true, false_iff, not_le]
              exact UInt32.lt_iff_toNat_lt.mp exceeds
            · simp only [if_neg exceeds, true_iff]
              exact UInt32.le_iff_toNat_le.mp (UInt32.not_lt.mp exceeds)
        · cases accepted

end UpdateEngine

/-- With every other check passed, the package importer refuses exactly what exceeds the
free space unless the lower half of the number falls short of content that fits, and the
one of content updates unless the number has an upper half.

Proof: an import is accepted exactly when the narrowed number covers the content. -/
theorem storage_refusals (free : UInt64) :
    (∀ (manager : PackageManager) (package : PackageImport), manager.Admissible package →
      (((manager.importPackage (PackageManager.withFree package free)).1 = false ↔
          free.toNat < package.contentBytes.toNat) ↔
        ¬ (free.toNat % 4294967296 < package.contentBytes.toNat ∧
          package.contentBytes.toNat ≤ free.toNat))) ∧
    ∀ (engine : UpdateEngine) (request : UpdateRequest) (answers : UpdateAnswers),
      engine.Admissible request answers →
      (((({ engine with availableStorageBytes := free } : UpdateEngine).importUpdate request
            answers).1 = false ↔ free.toNat < UpdateEngine.contentOf request answers) ↔
        free.toNat ≤ 4294967295) := by
  constructor
  · intro manager package admissible
    have imported := admissible.imported free
    rw [← Bool.not_eq_true, imported]
    omega
  · intro engine request answers admissible
    have imported := admissible.imported free
    rw [← Bool.not_eq_true, imported]
    have small := UpdateEngine.contentOf_le request answers
    omega

section Example

/-- An import of four bytes with 4 GiB free is refused. -/
theorem storage_narrowed : ¬ ∀ (manager : PackageManager) (package : PackageImport) free,
    manager.Admissible package →
    ((manager.importPackage (PackageManager.withFree package free)).1 = false ↔
      free.toNat < package.contentBytes.toNat) := by
  intro always
  have admissible : PackageManager.init.Admissible ManagerOperation.sampleImport :=
    ⟨4096, by decide +kernel⟩
  have refused := (always .init ManagerOperation.sampleImport 0x100000000 admissible).mp
    (by decide +kernel)
  exact absurd refused (by decide +kernel)

end Example

end PoisonedOS
