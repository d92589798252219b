import PoisonedOS.Evidence.Storage
import PoisonedOS.Library.Buffers
import PoisonedOS.Library.Hex

/-!
# Capturing evidence

The evidence service keeps the content of a piece of evidence in an object file, named by
its SHA-256, and a record of it in a record file, named by its id. Both are written to a
temporary file first. Content comes from a buffer or is read from a file: once to hash it and
once to copy it, and the file may change in between.

The storage gives the answers to all calls; SHA-256 is a parameter.
-/

namespace PoisonedOS

/-- `POISON_EVIDENCE_MAX_RECORDS`. -/
def evidenceMaxRecords : Nat := 32

/-- The files of the service under `POISON_EVIDENCE_ROOT`: `objects/<digest>.bin`,
`records/<id>.pev`, `.tmp/<id>.object` and `.tmp/<id>.record`. -/
inductive EvidenceFile where
  | object (digest : Digest)
  | record (evidenceId : CString)
  | objectTemporary (evidenceId : CString)
  | recordTemporary (evidenceId : CString)
deriving DecidableEq

/-- `poison_evidence_id_validate`. -/
def evidenceIdValidate (identifier : CString) : Bool :=
  !identifier.isEmpty && identifier.bytes.head? != some 46 && decide (identifier.length < 65) &&
    identifier.bytes.all fun byte =>
      isLower byte || isUpper byte || isDigit byte || byte == 46 || byte == 95 || byte == 45

/-- `PoisonEvidenceRecord`. -/
structure EvidenceRecord where
  active : Bool
  derived : Bool
  evidenceId : CString
  caseId : CString
  contentLength : UInt64
  contentSha256 : Digest
  previousAuditSha256 : Digest
  auditSha256 : Digest
deriving DecidableEq

/-- `PoisonEvidenceStore`: as many records as it counts. -/
abbrev EvidenceStore := List EvidenceRecord

/-- `PoisonEvidenceTransaction`, with what was hashed. -/
structure EvidenceTransaction where
  active : Bool
  record : EvidenceRecord
  hashed : List UInt8
  expectedLength : Nat
  receivedLength : Nat

/-- `poison_evidence_find`. -/
def EvidenceStore.find (store : EvidenceStore) (evidenceId : CString) : Option EvidenceRecord :=
  List.find? (fun record => record.active && record.evidenceId == evidenceId) store

/-- `poison_evidence_begin`. -/
def evidenceBegin (store : EvidenceStore) (evidenceId caseId : CString) (expectedLength : Nat)
    (derived : Bool) (previousAuditSha256 : Digest) : Option EvidenceTransaction :=
  if expectedLength == 0 || decide (evidenceMaxRecords ≤ store.length) ||
      (store.find evidenceId).isSome || !evidenceIdValidate evidenceId ||
      !evidenceIdValidate caseId then
    none
  else
    some
      { active := true
        record :=
          { active := false
            derived
            evidenceId
            caseId
            contentLength := UInt64.ofNat expectedLength
            contentSha256 := .zero _
            previousAuditSha256
            auditSha256 := .zero _ }
        hashed := []
        expectedLength
        receivedLength := 0 }

/-- `poison_evidence_append`. -/
def EvidenceTransaction.append (transaction : EvidenceTransaction) (data : List UInt8) :
    Option EvidenceTransaction :=
  if !transaction.active ||
      decide (transaction.expectedLength - transaction.receivedLength < data.length) then
    none
  else
    some
      { transaction with
        hashed := transaction.hashed ++ data
        receivedLength := transaction.receivedLength + data.length }

def EvidenceRecord.auditFields (record : EvidenceRecord) : List UInt8 :=
  (CString.literal "POISON-EVIDENCE-AUDIT-v1").bytes ++ record.previousAuditSha256.bytes ++
    record.evidenceId.terminated ++ record.caseId.terminated ++ bytesBool record.derived ++
    bytes64 record.contentLength ++ record.contentSha256.bytes

section Capture

variable (sha256 : List UInt8 → Digest)

/-- `poison_evidence_commit`: the store with the record. -/
def evidenceCommit (store : EvidenceStore) (transaction : EvidenceTransaction) :
    Option EvidenceStore :=
  if !transaction.active || transaction.receivedLength != transaction.expectedLength ||
      decide (evidenceMaxRecords ≤ store.length) ||
      (store.find transaction.record.evidenceId).isSome then
    none
  else
    let hashed := { transaction.record with contentSha256 := sha256 transaction.hashed }
    some (store ++ [{ hashed with auditSha256 := sha256 hashed.auditFields, active := true }])

/-- `poison_evidence_capture`. -/
def evidenceCapture (store : EvidenceStore) (evidenceId caseId : CString) (data : List UInt8)
    (derived : Bool) (previousAuditSha256 : Digest) : Option EvidenceStore :=
  if data.isEmpty then none
  else do
    let begun ← evidenceBegin store evidenceId caseId data.length derived previousAuditSha256
    let appended ← begun.append data
    evidenceCommit sha256 store appended

/-- `poison_evidence_record_encode`. -/
def EvidenceRecord.encode (record : EvidenceRecord) : List UInt8 :=
  (CString.literal "POISEV1").bytes ++ (bytesBool record.derived ++
    (textBuffer 65 record.evidenceId ++ (textBuffer 65 record.caseId ++
      (bytes64 record.contentLength ++ (record.contentSha256.bytes ++
        (record.previousAuditSha256.bytes ++ (record.auditSha256.bytes ++ [10])))))))

/-! ## Files of one capture -/

/-- The answers of the storage to `poison_evidence_write_atomic`. -/
structure AtomicAnswers where
  /-- A final file is found. -/
  seen : Bool
  write : WriteAnswers
  rename : RenameAnswers
  /-- The clean-up can remove the temporary file. -/
  removed : Bool

/-- `poison_evidence_write_atomic`. -/
def writeAtomic (files : NamedFiles EvidenceFile) (temporary final : EvidenceFile)
    (data : List UInt8) (answers : AtomicAnswers) : Bool × NamedFiles EvidenceFile :=
  if files.fileExists final answers.seen then (false, files)
  else
    let written := files.writeNew temporary data answers.write
    NamedFiles.cleanUp
      (if written.1 then written.2.rename temporary final answers.rename else written)
      temporary answers.removed

/-- `poison_evidence_object_matches`. -/
def objectMatches (files : NamedFiles EvidenceFile) (name : EvidenceFile) (expected : Digest)
    (expectedLength : Nat) (readable : Bool) : Bool :=
  match files name with
  | none => false
  | some content => readable && content.length == expectedLength && sha256 content == expected

/-- The answers of the storage to the calls for an object that is written from a buffer. -/
structure ObjectAnswers where
  /-- The object is found. -/
  seen : Bool
  /-- The object can be read. -/
  readable : Bool
  write : AtomicAnswers

/-- The object in `poison_evidence_persist`. -/
def persistObject (files : NamedFiles EvidenceFile) (record : EvidenceRecord) (data : List UInt8)
    (answers : ObjectAnswers) : Bool × NamedFiles EvidenceFile :=
  if files.fileExists (.object record.contentSha256) answers.seen then
    (objectMatches sha256 files (.object record.contentSha256) record.contentSha256 data.length
      answers.readable, files)
  else
    writeAtomic files (.objectTemporary record.evidenceId) (.object record.contentSha256) data
      answers.write

/-- The record file in `poison_evidence_persist` and `poison_evidence_persist_file`, after the
object. -/
def persistRecord (record : EvidenceRecord) (object : Bool × NamedFiles EvidenceFile)
    (answers : AtomicAnswers) : Bool × NamedFiles EvidenceFile :=
  if object.1 then
    writeAtomic object.2 (.recordTemporary record.evidenceId) (.record record.evidenceId)
      record.encode answers
  else object

/-- `poison_evidence_persist`. -/
def evidencePersist (files : NamedFiles EvidenceFile) (record : EvidenceRecord)
    (data : List UInt8) (directories : Bool) (object : ObjectAnswers) (written : AtomicAnswers) :
    Bool × NamedFiles EvidenceFile :=
  persistRecord record
    (if directories then persistObject sha256 files record data object else (false, files)) written

/-- A source file while it is read once. -/
structure SourceAnswers where
  opened : Bool
  size : Nat
  /-- The bytes that reading gives until it fails. -/
  data : List UInt8
  closed : Bool

/-- The loop of `poison_evidence_copy_object`, with the number of rounds left and the bytes
that can still be written: whether it ends well, and what was written. -/
def copyLoop : Nat → List UInt8 → Nat → Nat → List UInt8 → Bool × List UInt8
  | 0, _, remaining, _, output => (remaining == 0, output)
  | rounds + 1, data, remaining, room, output =>
    if remaining == 0 then (true, output)
    else
      let chunk := min remaining 256
      if data.length < chunk then (false, output)
      else if room < chunk then (false, output ++ data.take room)
      else
        copyLoop rounds (data.drop chunk) (remaining - chunk) (room - chunk)
          (output ++ data.take chunk)

/-- The answers of the storage to the calls of `poison_evidence_copy_object`. -/
structure CopyAnswers where
  /-- The object is found. -/
  seen : Bool
  /-- The object can be read. -/
  readable : Bool
  source : SourceAnswers
  /-- The temporary file while it is written. -/
  output : WriteAnswers
  /-- The temporary file can be read. -/
  temporaryReadable : Bool
  /-- The object is found after copying. -/
  seenAfter : Bool
  /-- The object can be read after copying. -/
  readableAfter : Bool
  /-- The temporary file of an object that was found is removed. -/
  dropped : Bool
  rename : RenameAnswers
  /-- The clean-up can remove the temporary file. -/
  removed : Bool

/-- The source is copied to the temporary file, in `poison_evidence_copy_object`. -/
def copySource (files : NamedFiles EvidenceFile) (record : EvidenceRecord)
    (answers : CopyAnswers) : Bool × NamedFiles EvidenceFile :=
  if !answers.source.opened || answers.source.size != record.contentLength.toNat ||
      !answers.output.opened then
    (false, files)
  else
    let copied := copyLoop record.contentLength.toNat answers.source.data
      record.contentLength.toNat answers.output.written []
    (copied.1 && answers.output.synced && answers.source.closed && answers.output.closed,
      Function.update files (.objectTemporary record.evidenceId) (some copied.2))

/-- The temporary file becomes the object, in `poison_evidence_copy_object`. -/
def placeCopy (files : NamedFiles EvidenceFile) (record : EvidenceRecord)
    (answers : CopyAnswers) : Bool × NamedFiles EvidenceFile :=
  if !objectMatches sha256 files (.objectTemporary record.evidenceId) record.contentSha256
      record.contentLength.toNat answers.temporaryReadable then
    (false, files)
  else if files.fileExists (.object record.contentSha256) answers.seenAfter then
    (objectMatches sha256 files (.object record.contentSha256) record.contentSha256
        record.contentLength.toNat answers.readableAfter,
      files.remove (.objectTemporary record.evidenceId) answers.dropped)
  else
    files.rename (.objectTemporary record.evidenceId) (.object record.contentSha256)
      answers.rename

/-- `poison_evidence_copy_object`. -/
def copyObject (files : NamedFiles EvidenceFile) (record : EvidenceRecord)
    (answers : CopyAnswers) : Bool × NamedFiles EvidenceFile :=
  if files.fileExists (.object record.contentSha256) answers.seen then
    (objectMatches sha256 files (.object record.contentSha256) record.contentSha256
      record.contentLength.toNat answers.readable, files)
  else
    let copied := copySource files record answers
    NamedFiles.cleanUp (if copied.1 then placeCopy sha256 copied.2 record answers else copied)
      (.objectTemporary record.evidenceId) answers.removed

/-- `poison_evidence_persist_file`. -/
def evidencePersistFile (files : NamedFiles EvidenceFile) (record : EvidenceRecord)
    (directories : Bool) (object : CopyAnswers) (written : AtomicAnswers) :
    Bool × NamedFiles EvidenceFile :=
  persistRecord record
    (if directories then copyObject sha256 files record object else (false, files)) written

/-! ## The service -/

/-- `PoisonEvidenceService`, with the files it has written. -/
structure EvidenceService where
  store : EvidenceStore
  files : NamedFiles EvidenceFile

/-- What both captures do with a staged record: its files are made, and it joins the store. -/
def EvidenceService.keep (service : EvidenceService) (record : EvidenceRecord)
    (persist : NamedFiles EvidenceFile → Bool × NamedFiles EvidenceFile) :
    Option EvidenceRecord × EvidenceService :=
  if decide (evidenceMaxRecords ≤ service.store.length) ||
      (service.store.find record.evidenceId).isSome then
    (none, service)
  else
    let persisted := persist service.files
    if persisted.1 then
      (some record, { store := service.store ++ [record], files := persisted.2 })
    else (none, { service with files := persisted.2 })

/-- The content of a buffer: its length is a `size_t`. -/
structure BufferContent where
  bytes : List UInt8
  sized : bytes.length < 4294967296

/-- The calls of `poison_evidence_capture_global`. -/
structure BufferCapture where
  evidenceId : CString
  caseId : CString
  content : BufferContent
  derived : Bool
  previousAuditSha256 : Digest
  directories : Bool
  object : ObjectAnswers
  record : AtomicAnswers

/-- `poison_evidence_capture_global`: the record that is kept. -/
def captureGlobal (service : EvidenceService) (call : BufferCapture) :
    Option EvidenceRecord × EvidenceService :=
  match evidenceCapture sha256 [] call.evidenceId call.caseId call.content.bytes call.derived
      call.previousAuditSha256 with
  | some (record :: _) =>
    service.keep record fun files =>
      evidencePersist sha256 files record call.content.bytes call.directories call.object
        call.record
  | _ => (none, service)

/-- The calls of `poison_evidence_capture_file_global`. -/
structure FileCapture where
  evidenceId : CString
  caseId : CString
  expectedLength : UInt32
  expectedSha256 : Digest
  derived : Bool
  previousAuditSha256 : Digest
  source : SourceAnswers
  directories : Bool
  object : CopyAnswers
  record : AtomicAnswers

/-- The loop of `poison_evidence_capture_file_global`, with the number of rounds left. -/
def appendLoop : Nat → List UInt8 → Nat → EvidenceTransaction → Option EvidenceTransaction
  | 0, _, remaining, transaction => if remaining == 0 then some transaction else none
  | rounds + 1, data, remaining, transaction =>
    if remaining == 0 then some transaction
    else
      let chunk := min remaining 256
      if data.length < chunk then none
      else do
        let appended ← transaction.append (data.take chunk)
        appendLoop rounds (data.drop chunk) (remaining - chunk) appended

/-- The record that `poison_evidence_capture_file_global` stages. -/
def stageFile (call : FileCapture) : Option EvidenceRecord := do
  let begun ← evidenceBegin [] call.evidenceId call.caseId call.expectedLength.toNat call.derived
    call.previousAuditSha256
  if !call.source.opened || call.source.size != call.expectedLength.toNat then none
  else do
    let appended ← appendLoop call.expectedLength.toNat call.source.data
      call.expectedLength.toNat begun
    if !call.source.closed then none
    else
      match evidenceCommit sha256 [] appended with
      | some (record :: _) => if record.contentSha256 = call.expectedSha256 then some record else none
      | _ => none

/-- `poison_evidence_capture_file_global`: the record that is kept. -/
def captureFileGlobal (service : EvidenceService) (call : FileCapture) :
    Option EvidenceRecord × EvidenceService :=
  match stageFile sha256 call with
  | some record =>
    service.keep record fun files =>
      evidencePersistFile sha256 files record call.directories call.object call.record
  | none => (none, service)

end Capture

/-- `poison_evidence_on_system_start`: the store is empty after a restart. -/
def EvidenceService.restart (service : EvidenceService) : EvidenceService :=
  { service with store := [] }

end PoisonedOS
