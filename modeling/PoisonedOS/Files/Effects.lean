import PoisonedOS.Files.Service
import PoisonedOS.Library.Runs

/-!
# What a request of the file service does

A request leaves the transfer and the storage in one of a few ways, which are listed
once with the checks that lead there. The invariant that makes the list short is that a
session without an active transfer has a blank record, and that a transfer that writes
holds its temporary file open, with exactly the bytes it has hashed.
-/

namespace PoisonedOS

namespace FileTransfer

/-- The record of a transfer agrees with itself and with the storage. -/
structure Backed (transfer : FileTransfer) (store : FileStore) : Prop where
  inactive : transfer.active = false → transfer = idle
  named : transfer.active = true →
    transfer.temporaryPath = transfer.targetPath.append fileTransferSuffix
  handle : transfer.active = true → transfer.file = !transfer.replayOnly
  counted : transfer.receivedSize = transfer.hashed.length
  fits : transfer.receivedSize ≤ transfer.expectedSize
  stored : transfer.file = true →
    store.files transfer.temporaryPath = some transfer.hashed
  held : transfer.file = true → store.opened transfer.temporaryPath = true

variable {sha256 : List UInt8 → Digest} {transfer : FileTransfer} {store : FileStore}
  {answers : FileAnswers}

/-- The temporary path is another than the target. -/
theorem suffixed_ne (path : CString) : path.append fileTransferSuffix ≠ path := by
  intro same
  have lengths := congrArg (fun value : CString => value.bytes.length) same
  have positive : 0 < fileTransferSuffix.bytes.length := by decide +kernel
  simp only [CString.append, List.length_append] at lengths
  omega

/-- A blank record agrees with every storage. -/
theorem idle_backed (store : FileStore) : idle.Backed store where
  inactive _ := rfl
  named active := by cases active
  handle active := by cases active
  counted := rfl
  fits := Nat.le_refl 0
  stored open_ := by cases open_
  held open_ := by cases open_

/-- A transfer that writes holds its file open. -/
theorem Backed.file_of_writing (backed : transfer.Backed store) (active : transfer.active = true)
    (writing : transfer.replayOnly = false) : transfer.file = true := by
  rw [backed.handle active, writing]
  rfl

/-- A transfer that only replays holds none. -/
theorem Backed.file_of_replay (backed : transfer.Backed store)
    (replay : transfer.replayOnly = true) : transfer.file = false := by
  cases active : transfer.active with
  | true => rw [backed.handle active, replay]; rfl
  | false => rw [backed.inactive active]; rfl

theorem Backed.of_agree {next : FileStore} (backed : transfer.Backed store)
    (agree : transfer.file = true → next.files transfer.temporaryPath =
      store.files transfer.temporaryPath ∧ next.opened transfer.temporaryPath =
      store.opened transfer.temporaryPath) : transfer.Backed next where
  inactive := backed.inactive
  named := backed.named
  handle := backed.handle
  counted := backed.counted
  fits := backed.fits
  stored file := (agree file).1.trans (backed.stored file)
  held file := (agree file).2.trans (backed.held file)

def Refused (sha256 : List UInt8 → Digest) (transfer : FileTransfer) (store : FileStore)
    (role : Option Role) (hasNext : Bool) (answers : FileAnswers) : FileRequest → Prop
  | .list _ _ _ _ => False
  | .transferBegin operationId path size digest =>
    ∀ target expected,
      transfer.beginChecks role hasNext operationId path size digest = some (target, expected) →
      beginMode sha256 store answers target size expected = none
  | .transferChunk operationId offset data digest =>
    ∀ chunkDigest, transfer.chunkChecks sha256 role hasNext operationId data digest =
      some chunkDigest →
      transfer.isRetry offset data chunkDigest = false ∧ transfer.isNext offset data = false
  | .transferComplete operationId size digest =>
    transfer.completeChecks sha256 role hasNext operationId size digest = false ∨
      transfer.replayOnly = false ∧ ((answers.synced && answers.closed) = false ∨
        store.fileExists transfer.targetPath = true ∨ answers.created = false)

/-- The complete passes every check and finds no file at the target. -/
structure Finishes (sha256 : List UInt8 → Digest) (transfer : FileTransfer) (store : FileStore)
    (role : Option Role) (hasNext : Bool) (answers : FileAnswers) (operationId : CString)
    (size : Nat) (digest : CString) : Prop where
  checked : transfer.completeChecks sha256 role hasNext operationId size digest = true
  writes : transfer.replayOnly = false
  flushed : (answers.synced && answers.closed) = true
  absent : store.fileExists transfer.targetPath = false
  created : answers.created = true

/-- The closed storage with the copy at the target. -/
def copiedStore (transfer : FileTransfer) (store : FileStore) (answers : FileAnswers) :
    FileStore :=
  { transfer.closeFile store with
    files := Function.update store.files transfer.targetPath
      (some (transfer.hashed.take answers.copied)) }

/-- The ways a request ends. -/
inductive Effect (sha256 : List UInt8 → Digest) (transfer : FileTransfer) (store : FileStore)
    (role : Option Role) (hasNext : Bool) (answers : FileAnswers) :
    FileRequest → Bool × FileTransfer × FileStore → Prop where
  | listed (path cursor pageSize directory) :
      Effect sha256 transfer store role hasNext answers (.list path cursor pageSize directory)
        ((listProcess role hasNext path cursor pageSize directory).isSome, transfer, store)
  | refused (request : FileRequest)
      (refused : Refused sha256 transfer store role hasNext answers request) :
      Effect sha256 transfer store role hasNext answers request
        (false, transfer.reset store answers)
  | blocked (operationId path size digest target expected replayOnly)
      (checked : transfer.beginChecks role hasNext operationId path size digest =
        some (target, expected))
      (mode : beginMode sha256 store answers target size expected = some replayOnly)
      (blocked : store.fileExists (target.append fileTransferSuffix) = true ∨
        replayOnly = false ∧ answers.opened = false) :
      Effect sha256 transfer store role hasNext answers
        (.transferBegin operationId path size digest)
        (false, (transfer.named operationId target).reset store answers)
  | replays (operationId path size digest target expected)
      (checked : transfer.beginChecks role hasNext operationId path size digest =
        some (target, expected))
      (mode : beginMode sha256 store answers target size expected = some true)
      (absent : store.fileExists (target.append fileTransferSuffix) = false) :
      Effect sha256 transfer store role hasNext answers
        (.transferBegin operationId path size digest)
        (true, (transfer.named operationId target).started true size expected, store)
  | creates (operationId path size digest target expected)
      (checked : transfer.beginChecks role hasNext operationId path size digest =
        some (target, expected))
      (mode : beginMode sha256 store answers target size expected = some false)
      (absent : store.fileExists (target.append fileTransferSuffix) = false) :
      Effect sha256 transfer store role hasNext answers
        (.transferBegin operationId path size digest)
        (true, (transfer.named operationId target).started false size expected,
          store.create (target.append fileTransferSuffix))
  | retried (operationId offset data digest chunkDigest)
      (checked : transfer.chunkChecks sha256 role hasNext operationId data digest =
        some chunkDigest)
      (retry : transfer.isRetry offset data chunkDigest = true) :
      Effect sha256 transfer store role hasNext answers
        (.transferChunk operationId offset data digest) (true, transfer, store)
  | skipped (operationId offset data digest chunkDigest)
      (checked : transfer.chunkChecks sha256 role hasNext operationId data digest =
        some chunkDigest)
      (fresh : transfer.isRetry offset data chunkDigest = false)
      (next : transfer.isNext offset data = true) (replay : transfer.replayOnly = true) :
      Effect sha256 transfer store role hasNext answers
        (.transferChunk operationId offset data digest)
        (true, transfer.took offset data chunkDigest, store)
  | wrote (operationId offset data digest chunkDigest)
      (checked : transfer.chunkChecks sha256 role hasNext operationId data digest =
        some chunkDigest)
      (fresh : transfer.isRetry offset data chunkDigest = false)
      (next : transfer.isNext offset data = true) (writes : transfer.replayOnly = false) :
      Effect sha256 transfer store role hasNext answers
        (.transferChunk operationId offset data digest)
        (true, transfer.took offset data chunkDigest, store.write transfer.temporaryPath data)
  | shortened (operationId offset data digest chunkDigest)
      (checked : transfer.chunkChecks sha256 role hasNext operationId data digest =
        some chunkDigest)
      (writes : transfer.replayOnly = false) :
      Effect sha256 transfer store role hasNext answers
        (.transferChunk operationId offset data digest)
        (false, transfer.reset
          (store.write transfer.temporaryPath (data.take answers.written)) answers)
  | replayed (operationId size digest)
      (checked : transfer.completeChecks sha256 role hasNext operationId size digest = true)
      (replay : transfer.replayOnly = true) :
      Effect sha256 transfer store role hasNext answers
        (.transferComplete operationId size digest) (true, idle, store)
  | completed (operationId size digest)
      (finishes : Finishes sha256 transfer store role hasNext answers operationId size digest)
      (copied : answers.copyFailed = false) (moved : answers.oldRemoved = true) :
      Effect sha256 transfer store role hasNext answers
        (.transferComplete operationId size digest)
        (true, idle, { transfer.copiedStore store answers with
          files := Function.update (transfer.copiedStore store answers).files
            transfer.temporaryPath none })
  | halfRenamed (operationId size digest)
      (finishes : Finishes sha256 transfer store role hasNext answers operationId size digest)
      (failed : answers.copyFailed = true ∨ answers.oldRemoved = false) :
      Effect sha256 transfer store role hasNext answers
        (.transferComplete operationId size digest)
        (false, idle, transfer.removeTemporary (transfer.copiedStore store answers) answers)

variable {role : Option Role} {hasNext : Bool}

/-- A begin ends in one of the listed ways. -/
theorem begin_effect (operationId path : CString) (size : Nat) (digest : CString) :
    Effect sha256 transfer store role hasNext answers
      (.transferBegin operationId path size digest)
      (transfer.beginProcess sha256 store answers role hasNext operationId path size digest) := by
  simp only [beginProcess]
  cases checked : transfer.beginChecks role hasNext operationId path size digest with
  | none =>
    exact .refused _ fun target expected found => absurd (checked.symm.trans found) (by simp)
  | some found =>
    obtain ⟨target, expected⟩ := found
    simp only
    cases mode : beginMode sha256 store answers target size expected with
    | none =>
      refine .refused _ fun target' expected' found => ?_
      obtain ⟨rfl, rfl⟩ := Prod.mk.inj (Option.some.inj (checked.symm.trans found))
      exact mode
    | some replayOnly =>
      have temporary : (transfer.named operationId target).temporaryPath =
          target.append fileTransferSuffix := rfl
      simp only [temporary]
      by_cases there : store.fileExists (target.append fileTransferSuffix) = true
      · rw [if_pos there]
        exact .blocked _ _ _ _ _ _ _ checked mode (.inl there)
      · rw [if_neg there]
        have absent := Bool.eq_false_of_not_eq_true there
        cases replayOnly with
        | true => exact .replays _ _ _ _ _ _ checked mode absent
        | false =>
          cases opened : answers.opened with
          | true => exact .creates _ _ _ _ _ _ checked mode absent
          | false => exact .blocked _ _ _ _ _ _ _ checked mode (.inr ⟨rfl, opened⟩)

/-- A chunk ends in one of the listed ways. -/
theorem chunk_effect (operationId : CString) (offset : Nat) (data : List UInt8) (digest : CString) :
    Effect sha256 transfer store role hasNext answers
      (.transferChunk operationId offset data digest)
      (transfer.chunkProcess sha256 store answers role hasNext operationId offset data digest) := by
  simp only [chunkProcess]
  cases checked : transfer.chunkChecks sha256 role hasNext operationId data digest with
  | none => exact .refused _ fun chunkDigest found => absurd (checked.symm.trans found) (by simp)
  | some chunkDigest =>
    simp only
    cases retry : transfer.isRetry offset data chunkDigest with
    | true => exact .retried _ _ _ _ _ checked retry
    | false =>
      cases next : transfer.isNext offset data with
      | false =>
        refine .refused _ fun chunkDigest' found => ?_
        obtain rfl := Option.some.inj (checked.symm.trans found)
        exact ⟨retry, next⟩
      | true =>
        cases replay : transfer.replayOnly with
        | true => exact .skipped _ _ _ _ _ checked retry next replay
        | false =>
          by_cases short : answers.written < data.length
          · simp only [short, if_true, Bool.not_true, Bool.false_eq_true, if_false]
            exact .shortened _ _ _ _ _ checked replay
          · have whole : data.take answers.written = data :=
              List.take_of_length_le (Nat.not_lt.mp short)
            simp only [short, if_false, Bool.not_true, Bool.false_eq_true, whole]
            exact .wrote _ _ _ _ _ checked retry next replay

/-- Closing changes no file. -/
theorem closeFile_files : (transfer.closeFile store).files = store.files := by
  unfold closeFile
  cases transfer.file <;> rfl

/-- A complete ends in one of the listed ways. -/
theorem complete_effect (backed : transfer.Backed store) (operationId : CString) (size : Nat)
    (digest : CString) :
    Effect sha256 transfer store role hasNext answers
      (.transferComplete operationId size digest)
      (transfer.completeProcess sha256 store answers role hasNext operationId size digest) := by
  simp only [completeProcess]
  cases checked : transfer.completeChecks sha256 role hasNext operationId size digest with
  | false => exact .refused _ (.inl checked)
  | true =>
    have active : transfer.active = true := by
      simp only [completeChecks, Bool.and_eq_true] at checked
      exact checked.1.1.1.1.1.1.2
    cases replay : transfer.replayOnly with
    | true =>
      have closed : transfer.closeFile store = store := by
        rw [closeFile, backed.file_of_replay replay]
        rfl
      simp only [closed]
      exact .replayed _ _ _ checked replay
    | false =>
      have file := backed.file_of_writing active replay
      have present : (transfer.closeFile store).fileExists transfer.targetPath =
          store.fileExists transfer.targetPath := by
        rw [FileStore.fileExists, closeFile_files]
        rfl
      have differ : (transfer.temporaryPath == transfer.targetPath) = false := by
        rw [backed.named active]
        exact beq_false_of_ne (suffixed_ne _)
      cases flushed : answers.synced && answers.closed with
      | false => exact .refused _ (.inr ⟨replay, .inl flushed⟩)
      | true =>
        cases there : store.fileExists transfer.targetPath with
        | true =>
          simp only [present, there, Bool.or_true, if_true, Bool.not_true, Bool.false_eq_true,
            if_false]
          exact .refused _ (.inr ⟨replay, .inr (.inl there)⟩)
        | false =>
          simp only [present, there, Bool.or_false, Bool.not_true, Bool.false_eq_true, if_false,
            FileStore.rename, closeFile_files, backed.stored file, differ]
          cases created : answers.created with
          | false => exact .refused _ (.inr ⟨replay, .inr (.inr created)⟩)
          | true =>
            have finishes : Finishes sha256 transfer store role hasNext answers operationId size
                digest := ⟨checked, replay, flushed, there, created⟩
            cases copied : answers.copyFailed with
            | true => exact .halfRenamed _ _ _ finishes (.inl copied)
            | false =>
              cases moved : answers.oldRemoved with
              | true => exact .completed _ _ _ finishes copied moved
              | false => exact .halfRenamed _ _ _ finishes (.inr moved)

/-- Every request ends in one of the listed ways. -/
theorem handle_effect (backed : transfer.Backed store) (request : FileRequest) :
    Effect sha256 transfer store role hasNext answers request
      (FileService.handle sha256 transfer store role hasNext answers request) := by
  cases request with
  | list path cursor pageSize directory => exact .listed path cursor pageSize directory
  | transferBegin operationId path size digest => exact begin_effect operationId path size digest
  | transferChunk operationId offset data digest =>
    exact chunk_effect operationId offset data digest
  | transferComplete operationId size digest =>
    exact complete_effect backed operationId size digest

end FileTransfer

end PoisonedOS
