import PoisonedOS.Audit.Chain
import PoisonedOS.Evidence.Capture
import PoisonedOS.Library.Runs

/-!
# Evidence is kept

An object file holds what its name says, and a record file reads back as one record that was
captured, with its object. A capture only adds: no record or object is changed, and a capture
that fails adds no record. This rests on the storage: a rename copies and removes, and where
it ends in between, a record file is left that was not captured.
-/

namespace PoisonedOS

open NamedFiles (cleanUp cleanUp_fst cleanUp_other fileExists remove_other rename_other
  rename_spared writeNew_other writeNew_same)

/-! ## Record files -/

/-- A digest among the bytes of a file. -/
def digestOfBytes (bytes : List UInt8) : Option Digest :=
  if sized : bytes.length = 32 then some ⟨bytes, sized⟩ else none

@[simp] theorem digestOfBytes_bytes (digest : Digest) : digestOfBytes digest.bytes = some digest :=
  dif_pos digest.sized

/-- What a record file says. -/
def EvidenceRecord.decode (file : List UInt8) : Option EvidenceRecord :=
  let (magic, file) := file.splitAt 7
  let (derived, file) := file.splitAt 1
  let (evidenceId, file) := file.splitAt 65
  let (caseId, file) := file.splitAt 65
  let (contentLength, file) := file.splitAt 8
  let (contentSha256, file) := file.splitAt 32
  let (previousAuditSha256, file) := file.splitAt 32
  let (auditSha256, file) := file.splitAt 32
  if magic = (CString.literal "POISEV1").bytes ∧ file = [10] then do
    let contentSha256 ← digestOfBytes contentSha256
    let previousAuditSha256 ← digestOfBytes previousAuditSha256
    let auditSha256 ← digestOfBytes auditSha256
    some
      { active := true
        derived := derived == [1]
        evidenceId := CString.ofBytes evidenceId
        caseId := CString.ofBytes caseId
        contentLength := UInt64.ofNat (fromLittleEndian contentLength)
        contentSha256
        previousAuditSha256
        auditSha256 }
  else none

/-- A record that was committed. -/
structure EvidenceRecord.Committed (record : EvidenceRecord) : Prop where
  active : record.active = true
  evidenceId : evidenceIdValidate record.evidenceId = true
  caseId : evidenceIdValidate record.caseId = true

/-- A valid id fits its buffer. -/
theorem evidenceId_fits {identifier : CString} (valid : evidenceIdValidate identifier = true) :
    identifier.length < 65 := by
  simp only [evidenceIdValidate, Bool.and_eq_true, decide_eq_true_eq] at valid
  exact valid.1.2

theorem splitAt_append {first second : List UInt8} {length : Nat}
    (measured : first.length = length) : (first ++ second).splitAt length = (first, second) := by
  rw [List.splitAt_eq, List.take_left' measured, List.drop_left' measured]

/-- A record file reads back as its record. -/
theorem EvidenceRecord.decode_encode {record : EvidenceRecord} (committed : record.Committed) :
    decode record.encode = some record := by
  have idFits := evidenceId_fits committed.evidenceId
  have caseFits := evidenceId_fits committed.caseId
  have derivedLength : (bytesBool record.derived).length = 1 := rfl
  have derivedRead : (bytesBool record.derived == [1]) = record.derived := by
    cases record.derived <;> rfl
  have lengthRead : UInt64.ofNat (fromLittleEndian (bytes64 record.contentLength)) =
      record.contentLength := by
    have small : record.contentLength.toNat < 256 ^ 8 := record.contentLength.toNat_lt
    rw [bytes64, from_littleEndian, Nat.mod_eq_of_lt small, UInt64.ofNat_toNat]
  have magicLength : (CString.literal "POISEV1").bytes.length = 7 := by decide
  have numberLength : (bytes64 record.contentLength).length = 8 := length_littleEndian 8 _
  have digestLength (digest : Digest) : digest.bytes.length = 32 := digest.sized
  rw [decode, encode]
  simp only [splitAt_append magicLength, splitAt_append derivedLength,
    splitAt_append (length_textBuffer idFits), splitAt_append (length_textBuffer caseFits),
    splitAt_append numberLength, splitAt_append (digestLength _), true_and, ↓reduceIte, digestOfBytes_bytes, Option.bind_eq_bind, Option.bind_some,
    ofBytes_textBuffer idFits, ofBytes_textBuffer caseFits, derivedRead, lengthRead]
  rw [← committed.active]

/-! ## Staged records -/

section Staging

variable {sha256 : List UInt8 → Digest} {evidenceId caseId : CString} {derived : Bool}
  {previousAuditSha256 : Digest} {transaction : EvidenceTransaction}

/-- What a begin has checked and made. -/
theorem evidenceBegin_some {expectedLength : Nat}
    (begun : evidenceBegin [] evidenceId caseId expectedLength derived previousAuditSha256 =
      some transaction) :
    evidenceIdValidate evidenceId = true ∧ evidenceIdValidate caseId = true ∧
      transaction.record.evidenceId = evidenceId ∧ transaction.record.caseId = caseId ∧
      transaction.record.contentLength = UInt64.ofNat expectedLength ∧
      transaction.hashed = [] := by
  rw [evidenceBegin] at begun
  split at begun
  · cases begun
  · rename_i checks
    simp only [Bool.or_eq_true, Bool.not_eq_true', not_or, Bool.not_eq_false] at checks
    cases begun
    exact ⟨checks.1.2, checks.2, rfl, rfl, rfl, rfl⟩

theorem append_some {appended : EvidenceTransaction} {data : List UInt8}
    (taken : transaction.append data = some appended) :
    appended.record = transaction.record ∧ appended.hashed = transaction.hashed ++ data := by
  rw [EvidenceTransaction.append] at taken
  split at taken
  · cases taken
  · cases taken
    exact ⟨rfl, rfl⟩

/-- What a commit has made. -/
theorem evidenceCommit_some {record : EvidenceRecord} {rest : EvidenceStore}
    (staged : evidenceCommit sha256 [] transaction = some (record :: rest)) :
    record.active = true ∧ record.evidenceId = transaction.record.evidenceId ∧
      record.caseId = transaction.record.caseId ∧
      record.contentLength = transaction.record.contentLength ∧
      record.contentSha256 = sha256 transaction.hashed := by
  rw [evidenceCommit] at staged
  split at staged
  · cases staged
  · cases staged
    exact ⟨rfl, rfl, rfl, rfl, rfl⟩

/-- What was staged from a buffer. -/
theorem evidenceCapture_staged {record : EvidenceRecord} {rest : EvidenceStore}
    {content : BufferContent}
    (staged : evidenceCapture sha256 [] evidenceId caseId content.bytes derived
      previousAuditSha256 = some (record :: rest)) :
    record.Committed ∧ record.evidenceId = evidenceId ∧
      record.contentLength.toNat = content.bytes.length ∧
      record.contentSha256 = sha256 content.bytes := by
  rw [evidenceCapture] at staged
  split at staged
  · cases staged
  simp only [Option.bind_eq_bind, Option.bind_eq_some_iff] at staged
  obtain ⟨begun, isBegun, appended, isAppended, isCommitted⟩ := staged
  obtain ⟨idValid, caseValid, begunId, begunCase, begunLength, begunHashed⟩ :=
    evidenceBegin_some isBegun
  obtain ⟨appendedRecord, appendedHashed⟩ := append_some isAppended
  obtain ⟨active, sameId, sameCase, sameLength, digest⟩ := evidenceCommit_some isCommitted
  rw [appendedRecord] at sameId sameCase sameLength
  rw [appendedHashed, begunHashed, List.nil_append] at digest
  refine ⟨⟨active, ?_, ?_⟩, sameId.trans begunId, ?_, digest⟩
  · rw [sameId, begunId]
    exact idValid
  · rw [sameCase, begunCase]
    exact caseValid
  · rw [sameLength, begunLength, UInt64.toNat_ofNat']
    have sized := content.sized
    omega

theorem appendLoop_record {rounds remaining : Nat} {data : List UInt8}
    {appended : EvidenceTransaction}
    (taken : appendLoop rounds data remaining transaction = some appended) :
    appended.record = transaction.record := by
  induction rounds generalizing data remaining transaction with
  | zero =>
    rw [appendLoop] at taken
    split at taken
    · cases taken
      rfl
    · cases taken
  | succ rounds ih =>
    rw [appendLoop] at taken
    split at taken
    · cases taken
      rfl
    simp only at taken
    split at taken
    · cases taken
    rw [Option.bind_eq_bind, Option.bind_eq_some_iff] at taken
    obtain ⟨next, isNext, later⟩ := taken
    rw [ih later, (append_some isNext).1]

/-- What was staged from a file. -/
theorem stageFile_staged {record : EvidenceRecord} {call : FileCapture}
    (staged : stageFile sha256 call = some record) :
    record.Committed ∧ record.evidenceId = call.evidenceId ∧
      record.contentLength.toNat = call.expectedLength.toNat ∧
      record.contentSha256 = call.expectedSha256 := by
  rw [stageFile, Option.bind_eq_bind, Option.bind_eq_some_iff] at staged
  obtain ⟨begun, isBegun, staged⟩ := staged
  split at staged
  · cases staged
  rw [Option.bind_eq_some_iff] at staged
  obtain ⟨appended, isAppended, staged⟩ := staged
  split at staged
  · cases staged
  cases committed : evidenceCommit sha256 [] appended with
  | none => simp [committed] at staged
  | some store =>
    cases store with
    | nil => simp [committed] at staged
    | cons first rest =>
      simp only [committed] at staged
      split at staged
      · rename_i expected
        cases staged
        obtain ⟨idValid, caseValid, begunId, begunCase, begunLength, _⟩ :=
          evidenceBegin_some isBegun
        have appendedRecord := appendLoop_record isAppended
        obtain ⟨active, sameId, sameCase, sameLength, _⟩ := evidenceCommit_some committed
        rw [appendedRecord] at sameId sameCase sameLength
        refine ⟨⟨active, ?_, ?_⟩, sameId.trans begunId, ?_, expected⟩
        · rw [sameId, begunId]
          exact idValid
        · rw [sameCase, begunCase]
          exact caseValid
        · rw [sameLength, begunLength, UInt64.toNat_ofNat']
          have sized := call.expectedLength.toNat_lt
          omega
      · cases staged

end Staging

/-! ## Files of one capture -/

/-- Files that stay: objects and records. -/
def EvidenceFile.Kept : EvidenceFile → Prop
  | .object _ => True
  | .record _ => True
  | .objectTemporary _ => False
  | .recordTemporary _ => False

/-- A rename that creates its copy and reports success has copied so many bytes. -/
def RenameAnswers.Full (answers : RenameAnswers) (length : Nat) : Prop :=
  answers.created = true → answers.copyFailed = false → answers.oldRemoved = true →
    length ≤ answers.copied

/-- A rename that creates its copy copies so many bytes and reports success. -/
def RenameAnswers.Clean (answers : RenameAnswers) (length : Nat) : Prop :=
  answers.created = true →
    length ≤ answers.copied ∧ answers.copyFailed = false ∧ answers.oldRemoved = true

section Writing

variable {files : NamedFiles EvidenceFile} {temporary final : EvidenceFile} {data : List UInt8}
  {answers : AtomicAnswers}

theorem writeAtomic_other {name : EvidenceFile} (notTemporary : name ≠ temporary)
    (notFinal : name ≠ final) :
    (writeAtomic files temporary final data answers).2 name = files name := by
  rw [writeAtomic]
  split
  · rfl
  simp only
  rw [cleanUp_other notTemporary]
  split
  · rw [rename_other notTemporary notFinal, writeNew_other notTemporary]
  · exact writeNew_other notTemporary

/-- What an atomic write does to its final file: it fails without a change there, or the file
was not there and a copy of the temporary file is. -/
theorem writeAtomic_final (differ : temporary ≠ final)
    (spares : answers.seen = false → files.Spares final answers.rename) :
    ((writeAtomic files temporary final data answers).1 = false ∧
      (writeAtomic files temporary final data answers).2 final = files final) ∨
    (files final = none ∧ answers.rename.created = true ∧
      (writeAtomic files temporary final data answers).1 =
        (!answers.rename.copyFailed && answers.rename.oldRemoved) ∧
      (writeAtomic files temporary final data answers).2 final =
        some (data.take answers.rename.copied)) := by
  rw [writeAtomic]
  cases found : files.fileExists final answers.seen with
  | true => exact .inl ⟨rfl, rfl⟩
  | false =>
    simp only [Bool.false_eq_true, ↓reduceIte, cleanUp_fst,
      cleanUp_other differ.symm]
    have untouched : (files.writeNew temporary data answers.write).2 final = files final :=
      writeNew_other differ.symm
    cases success : (files.writeNew temporary data answers.write).1 with
    | false => exact .inl ⟨success, untouched⟩
    | true =>
      have whole := writeNew_same success
      have spared : (files.writeNew temporary data answers.write).2.Spares final
          answers.rename := by
        intro present
        rw [untouched] at present
        refine spares ?_ present
        cases seen : answers.seen with
        | false => rfl
        | true => simp [fileExists, seen, present] at found
      obtain ⟨failed, same⟩ | ⟨content, held, free, created, result, copied⟩ :=
        rename_spared differ spared
      · exact .inl ⟨failed, same.trans untouched⟩
      · cases whole.symm.trans held
        exact .inr ⟨untouched.symm.trans free, created, result, copied⟩

end Writing

section Objects

variable {sha256 : List UInt8 → Digest} {files : NamedFiles EvidenceFile}
  {record : EvidenceRecord} {length : Nat}

/-- What was done for the object of a record: other files that stay are as they were, and so
is the object if there was one. Where it succeeded, the object holds what it says. -/
structure ObjectPlaced (sha256 : List UInt8 → Digest) (files : NamedFiles EvidenceFile)
    (record : EvidenceRecord) (length : Nat) (result : Bool × NamedFiles EvidenceFile) : Prop where
  others : ∀ name : EvidenceFile, name.Kept → name ≠ .object record.contentSha256 →
    result.2 name = files name
  same : ∀ content, files (.object record.contentSha256) = some content →
    result.2 (.object record.contentSha256) = some content
  placed : result.1 = true → ∃ content, result.2 (.object record.contentSha256) = some content ∧
    content.length = length ∧ sha256 content = record.contentSha256

/-- Nothing was done. -/
theorem ObjectPlaced.untouched : ObjectPlaced sha256 files record length (false, files) where
  others _ _ _ := rfl
  same _ present := present
  placed succeeded := by cases succeeded

variable {name : EvidenceFile}

theorem objectMatches_iff {expected : Digest} {readable : Bool} :
    objectMatches sha256 files name expected length readable = true ↔
      ∃ content, files name = some content ∧ readable = true ∧ content.length = length ∧
        sha256 content = expected := by
  rw [objectMatches]
  cases files name with
  | none => simp
  | some content => simp [and_assoc]

/-- An object that is there was checked. -/
theorem ObjectPlaced.found {readable : Bool} :
    ObjectPlaced sha256 files record length
      (objectMatches sha256 files (.object record.contentSha256) record.contentSha256 length
        readable, files) where
  others _ _ _ := rfl
  same _ present := present
  placed succeeded := by
    obtain ⟨content, present, _, measured, digest⟩ := objectMatches_iff.mp succeeded
    exact ⟨content, present, measured, digest⟩

theorem EvidenceFile.Kept.ne_objectTemporary (kept : name.Kept) {evidenceId : CString} :
    name ≠ .objectTemporary evidenceId := by
  rintro rfl
  exact kept

theorem EvidenceFile.Kept.ne_recordTemporary (kept : name.Kept) {evidenceId : CString} :
    name ≠ .recordTemporary evidenceId := by
  rintro rfl
  exact kept

/-- The clean-up of a temporary file changes nothing that stays. -/
theorem ObjectPlaced.cleanUp {result : Bool × NamedFiles EvidenceFile}
    (placed : ObjectPlaced sha256 files record length result) (name : CString) (removed : Bool) :
    ObjectPlaced sha256 files record length
      (cleanUp result (.objectTemporary name) removed) where
  others other kept differ := by
    rw [cleanUp_other kept.ne_objectTemporary]
    exact placed.others other kept differ
  same content present := by
    rw [cleanUp_other (by simp)]
    exact placed.same content present
  placed succeeded := by
    rw [cleanUp_fst] at succeeded
    rw [cleanUp_other (by simp)]
    exact placed.placed succeeded

/-- Where a call may start from other temporary files. -/
theorem ObjectPlaced.of_kept {before : NamedFiles EvidenceFile}
    {result : Bool × NamedFiles EvidenceFile}
    (placed : ObjectPlaced sha256 before record length result)
    (kept : ∀ other : EvidenceFile, other.Kept → before other = files other) :
    ObjectPlaced sha256 files record length result where
  others other isKept differ := (placed.others other isKept differ).trans (kept other isKept)
  same content present := placed.same content ((kept (.object _) trivial).trans present)
  placed := placed.placed

theorem temporary_ne_object (name : CString) (digest : Digest) :
    EvidenceFile.objectTemporary name ≠ .object digest := by simp

theorem ObjectPlaced.renamed {answers : RenameAnswers} {data : List UInt8} {name : CString}
    (held : files (.objectTemporary name) = some data) (measured : data.length = length)
    (digest : sha256 data = record.contentSha256) (full : answers.Full length)
    (spares : files.Spares (.object record.contentSha256) answers) :
    ObjectPlaced sha256 files record length
      (files.rename (.objectTemporary name) (.object record.contentSha256) answers) where
  others other kept differ := rename_other kept.ne_objectTemporary differ
  same content present := by
    obtain ⟨_, same⟩ | ⟨_, _, free, _⟩ :=
      rename_spared (temporary_ne_object name _) spares
    · rw [same, present]
    · rw [present] at free
      cases free
  placed succeeded := by
    obtain ⟨failed, _⟩ | ⟨content, isContent, _, created, result, copied⟩ :=
      rename_spared (temporary_ne_object name _) spares
    · rw [succeeded] at failed
      cases failed
    · cases held.symm.trans isContent
      rw [succeeded] at result
      have outcome := result.symm
      rw [Bool.and_eq_true, Bool.not_eq_true'] at outcome
      have whole := full created outcome.1 outcome.2
      rw [List.take_of_length_le (measured.trans_le whole)] at copied
      exact ⟨data, copied, measured, digest⟩

/-- A buffer is written to an object that is spared and filled. -/
theorem ObjectPlaced.written {answers : AtomicAnswers} {data : List UInt8} {name : CString}
    (digest : sha256 data = record.contentSha256) (full : answers.rename.Full data.length)
    (spares : answers.seen = false → files.Spares (.object record.contentSha256) answers.rename) :
    ObjectPlaced sha256 files record data.length
      (writeAtomic files (.objectTemporary name) (.object record.contentSha256) data
        answers) where
  others other kept differ := writeAtomic_other kept.ne_objectTemporary differ
  same content present := by
    obtain ⟨_, same⟩ | ⟨free, _⟩ := writeAtomic_final (temporary_ne_object name _) spares
    · rw [same, present]
    · rw [present] at free
      cases free
  placed succeeded := by
    obtain ⟨failed, _⟩ | ⟨_, created, result, copied⟩ :=
      writeAtomic_final (temporary_ne_object name _) spares
    · rw [succeeded] at failed
      cases failed
    · rw [succeeded] at result
      have outcome := result.symm
      rw [Bool.and_eq_true, Bool.not_eq_true'] at outcome
      rw [List.take_of_length_le (full created outcome.1 outcome.2)] at copied
      exact ⟨data, copied, rfl, digest⟩

/-- The answers to the calls for an object from a buffer are sound: a rename spares the object
where the queries before did not find it, and fills it. -/
structure ObjectAnswers.Sound (answers : ObjectAnswers) (files : NamedFiles EvidenceFile)
    (digest : Digest) (length : Nat) : Prop where
  spares : answers.seen = false → answers.write.seen = false →
    files.Spares (.object digest) answers.write.rename
  full : answers.write.rename.Full length

theorem persistObject_placed {answers : ObjectAnswers} {data : List UInt8}
    (digest : sha256 data = record.contentSha256)
    (sound : answers.Sound files record.contentSha256 data.length) :
    ObjectPlaced sha256 files record data.length
      (persistObject sha256 files record data answers) := by
  rw [persistObject]
  split
  · exact .found
  · rename_i missing
    refine .written digest sound.full fun unseen present => ?_
    refine sound.spares ?_ unseen present
    cases seen : answers.seen with
    | false => rfl
    | true => simp [fileExists, seen, present] at missing

/-- The answers to the calls for an object from a file are sound. -/
structure CopyAnswers.Sound (answers : CopyAnswers) (files : NamedFiles EvidenceFile)
    (digest : Digest) (length : Nat) : Prop where
  spares : answers.seen = false → answers.seenAfter = false →
    files.Spares (.object digest) answers.rename
  full : answers.rename.Full length

theorem copySource_other {answers : CopyAnswers} {other : EvidenceFile} (kept : other.Kept) :
    (copySource files record answers).2 other = files other := by
  rw [copySource]
  split
  · rfl
  · exact Function.update_of_ne kept.ne_objectTemporary ..

theorem placeCopy_placed {answers : CopyAnswers}
    (spares : answers.seenAfter = false → files.Spares (.object record.contentSha256)
      answers.rename)
    (full : answers.rename.Full record.contentLength.toNat) :
    ObjectPlaced sha256 files record record.contentLength.toNat
      (placeCopy sha256 files record answers) := by
  rw [placeCopy]
  cases good : objectMatches sha256 files (.objectTemporary record.evidenceId)
      record.contentSha256 record.contentLength.toNat answers.temporaryReadable with
  | false => exact .untouched
  | true =>
    obtain ⟨data, held, _, measured, digest⟩ := objectMatches_iff.mp good
    simp only [Bool.not_true, Bool.false_eq_true, ↓reduceIte]
    split
    · constructor
      · exact fun other kept _ => remove_other kept.ne_objectTemporary _
      · intro content present
        exact (remove_other (temporary_ne_object _ _).symm _).trans present
      · intro succeeded
        obtain ⟨content, present, _, rest⟩ := objectMatches_iff.mp succeeded
        exact ⟨content, (remove_other (temporary_ne_object _ _).symm _).trans present,
          rest⟩
    · rename_i missing
      refine .renamed held measured digest full fun present => ?_
      refine spares ?_ present
      cases seen : answers.seenAfter with
      | false => rfl
      | true => simp [fileExists, seen, present] at missing

theorem copyObject_placed {answers : CopyAnswers}
    (sound : answers.Sound files record.contentSha256 record.contentLength.toNat) :
    ObjectPlaced sha256 files record record.contentLength.toNat
      (copyObject sha256 files record answers) := by
  have object : (EvidenceFile.object record.contentSha256).Kept := trivial
  rw [copyObject]
  split
  · exact .found
  · rename_i missing
    refine ObjectPlaced.cleanUp ?_ _ _
    split
    · refine ObjectPlaced.of_kept (placeCopy_placed ?_ sound.full)
        fun other kept => copySource_other kept
      intro unseen present
      rw [copySource_other object] at present
      refine sound.spares ?_ unseen present
      cases seen : answers.seen with
      | false => rfl
      | true => simp [fileExists, seen, present] at missing
    · rename_i failed
      constructor
      · exact fun other kept _ => copySource_other kept
      · exact fun content present => (copySource_other object).trans present
      · exact fun succeeded => absurd succeeded failed

end Objects

/-! ## One call -/

section Calls

variable {sha256 : List UInt8 → Digest} {service : EvidenceService} {record : EvidenceRecord}

/-- The size of a record file. -/
def evidenceRecordSize : Nat := 243

theorem EvidenceRecord.Committed.length_encode (committed : record.Committed) :
    record.encode.length = evidenceRecordSize := by
  have idLength := length_textBuffer (evidenceId_fits committed.evidenceId)
  have caseLength := length_textBuffer (evidenceId_fits committed.caseId)
  have magicLength : (CString.literal "POISEV1").bytes.length = 7 := by decide
  have digestLength (digest : Digest) : digest.bytes.length = 32 := digest.sized
  simp only [encode, List.length_append, magicLength, bytesBool, idLength, caseLength, bytes64,
    length_littleEndian, digestLength, List.length_cons, List.length_nil, evidenceRecordSize]

/-- The answers to the calls for a record file are sound: a rename spares a record that the
query before did not find, and a copy that it creates is whole and reported. -/
structure AtomicAnswers.Sound (answers : AtomicAnswers) (files : NamedFiles EvidenceFile)
    (evidenceId : CString) : Prop where
  spares : answers.seen = false → files.Spares (.record evidenceId) answers.rename
  clean : answers.rename.Clean evidenceRecordSize

/-- What the object file of a record has to be. -/
def EvidenceRecord.Backed (sha256 : List UInt8 → Digest) (record : EvidenceRecord)
    (files : NamedFiles EvidenceFile) : Prop :=
  ∃ content, files (.object record.contentSha256) = some content ∧
    content.length = record.contentLength.toNat ∧ sha256 content = record.contentSha256

/-- What a call leaves: files that stay are unchanged, a call that keeps no record adds none,
and a record that is kept is new, and is stored with its object. -/
structure Captured (sha256 : List UInt8 → Digest) (before : EvidenceService)
    (result : Option EvidenceRecord × EvidenceService) : Prop where
  unchanged : ∀ name : EvidenceFile, name.Kept → ∀ content, before.files name = some content →
    result.2.files name = some content
  refused : result.1 = none → result.2.store = before.store ∧
    ∀ evidenceId, result.2.files (.record evidenceId) = before.files (.record evidenceId)
  kept : ∀ record, result.1 = some record → record.Committed ∧
    result.2.store = before.store ++ [record] ∧
    before.files (.record record.evidenceId) = none ∧
    result.2.files (.record record.evidenceId) = some record.encode ∧
    (∀ other, other ≠ record.evidenceId →
      result.2.files (.record other) = before.files (.record other)) ∧
    record.Backed sha256 result.2.files

/-- A call that does nothing. -/
theorem Captured.untouched : Captured sha256 service (none, service) where
  unchanged _ _ _ present := present
  refused _ := ⟨rfl, fun _ => rfl⟩
  kept _ isSome := by cases isSome

/-- Placing an object leaves all files that stay. -/
theorem ObjectPlaced.unchanged {files : NamedFiles EvidenceFile} {length : Nat}
    {object : Bool × NamedFiles EvidenceFile}
    (placed : ObjectPlaced sha256 files record length object) {name : EvidenceFile}
    (kept : name.Kept) {content : List UInt8} (present : files name = some content) :
    object.2 name = some content := by
  by_cases own : name = .object record.contentSha256
  · subst own
    exact placed.same content present
  · rw [placed.others name kept own, present]

/-- Writing a record file leaves everything else that stays. -/
theorem writeRecord_other {files : NamedFiles EvidenceFile} {answers : AtomicAnswers}
    (name : EvidenceFile) (kept : name.Kept) (differ : name ≠ .record record.evidenceId) :
    (writeAtomic files (.recordTemporary record.evidenceId) (.record record.evidenceId)
      record.encode answers).2 name = files name :=
  writeAtomic_other kept.ne_recordTemporary differ

/-- A record file is written whole and reported, where it was not there, or not at all. -/
theorem writeRecord_final {files : NamedFiles EvidenceFile} {answers : AtomicAnswers}
    (committed : record.Committed) (sound : answers.Sound files record.evidenceId) :
    ((writeAtomic files (.recordTemporary record.evidenceId) (.record record.evidenceId)
        record.encode answers).1 = false ∧
      (writeAtomic files (.recordTemporary record.evidenceId) (.record record.evidenceId)
        record.encode answers).2 (.record record.evidenceId) =
          files (.record record.evidenceId)) ∨
    (files (.record record.evidenceId) = none ∧
      (writeAtomic files (.recordTemporary record.evidenceId) (.record record.evidenceId)
        record.encode answers).1 = true ∧
      (writeAtomic files (.recordTemporary record.evidenceId) (.record record.evidenceId)
        record.encode answers).2 (.record record.evidenceId) = some record.encode) := by
  have differ : EvidenceFile.recordTemporary record.evidenceId ≠ .record record.evidenceId := by
    simp
  obtain failed | ⟨free, created, result, copied⟩ := writeAtomic_final differ sound.spares
  · exact .inl failed
  · obtain ⟨whole, noError, removed⟩ := sound.clean created
    rw [noError, removed] at result
    rw [List.take_of_length_le (committed.length_encode.trans_le whole)] at copied
    exact .inr ⟨free, result, copied⟩

/-- **What keeping a staged record does**, after its object was placed. -/
theorem keep_captured {persist : NamedFiles EvidenceFile → Bool × NamedFiles EvidenceFile}
    {object : Bool × NamedFiles EvidenceFile} {answers : AtomicAnswers}
    (committed : record.Committed)
    (placed : ObjectPlaced sha256 service.files record record.contentLength.toNat object)
    (persisted : persist service.files = persistRecord record object answers)
    (sound : answers.Sound service.files record.evidenceId) :
    Captured sha256 service (service.keep record persist) := by
  have records (other : CString) : object.2 (.record other) = service.files (.record other) :=
    placed.others (.record other) trivial (by simp)
  have recordSound : answers.Sound object.2 record.evidenceId := by
    refine ⟨fun unseen present => ?_, sound.clean⟩
    rw [records] at present
    exact sound.spares unseen present
  rw [EvidenceService.keep]
  split
  · exact .untouched
  simp only [persisted, persistRecord]
  cases success : object.1 with
  | false =>
    simp only [Bool.false_eq_true, ↓reduceIte, success]
    constructor
    · exact fun name kept content present => placed.unchanged kept present
    · exact fun _ => ⟨rfl, records⟩
    · intro other isSome
      cases isSome
  | true =>
    have unchanged {name : EvidenceFile} (kept : name.Kept)
        (differ : name ≠ .record record.evidenceId) {content : List UInt8}
        (present : service.files name = some content) :
        (writeAtomic object.2 (.recordTemporary record.evidenceId) (.record record.evidenceId)
          record.encode answers).2 name = some content :=
      (writeRecord_other name kept differ).trans (placed.unchanged kept present)
    have others (other : CString) (differ : other ≠ record.evidenceId) :
        (writeAtomic object.2 (.recordTemporary record.evidenceId) (.record record.evidenceId)
          record.encode answers).2 (.record other) = service.files (.record other) := by
      rw [writeRecord_other (.record other) trivial (by simp [differ]), records]
    simp only [↓reduceIte]
    obtain ⟨failed, same⟩ | ⟨free, result, written⟩ := writeRecord_final committed recordSound
    · simp only [failed, Bool.false_eq_true, ↓reduceIte]
      constructor
      · intro name kept content present
        by_cases own : name = .record record.evidenceId
        · subst own
          exact same.trans ((records _).trans present)
        · exact unchanged kept own present
      · refine fun _ => ⟨rfl, fun other => ?_⟩
        by_cases own : other = record.evidenceId
        · subst own
          exact same.trans (records _)
        · exact others other own
      · intro other isSome
        cases isSome
    · simp only [result, ↓reduceIte]
      constructor
      · intro name kept content present
        refine unchanged kept ?_ present
        rintro rfl
        rw [← records, free] at present
        cases present
      · intro isNone
        cases isNone
      · intro other isSome
        cases isSome
        obtain ⟨content, present, measured, digest⟩ := placed.placed success
        refine ⟨committed, rfl, (records _).symm.trans free, written, others, content, ?_, measured,
          digest⟩
        exact (writeRecord_other (.object record.contentSha256) trivial (by simp)).trans present

end Calls

/-! ## Histories of calls -/

/-- What happens to the service. -/
inductive EvidenceEvent where
  | buffer (call : BufferCapture)
  | file (call : FileCapture)
  | restart

section Histories

variable (sha256 : List UInt8 → Digest)

def EvidenceEvent.run (event : EvidenceEvent) (service : EvidenceService) :
    Option EvidenceRecord × EvidenceService :=
  match event with
  | .buffer call => captureGlobal sha256 service call
  | .file call => captureFileGlobal sha256 service call
  | .restart => (none, service.restart)

def EvidenceEvent.Sound (event : EvidenceEvent) (files : NamedFiles EvidenceFile) : Prop :=
  match event with
  | .buffer call =>
    call.object.Sound files (sha256 call.content.bytes) call.content.bytes.length ∧
      call.record.Sound files call.evidenceId
  | .file call =>
    call.object.Sound files call.expectedSha256 call.expectedLength.toNat ∧
      call.record.Sound files call.evidenceId
  | .restart => True

/-- The service, and the records that were captured so far. -/
structure EvidenceHistory where
  service : EvidenceService
  captured : List EvidenceRecord

/-- No evidence yet. -/
def EvidenceHistory.fresh : EvidenceHistory where
  service := { store := [], files := fun _ => none }
  captured := []

/-- An event, noted. -/
def EvidenceHistory.step (event : EvidenceEvent) (history : EvidenceHistory) : EvidenceHistory where
  service := (event.run sha256 history.service).2
  captured := history.captured ++ (event.run sha256 history.service).1.toList

/-- Every record file reads back as one record that was captured, with its object, and every
record that was captured has its file, under an id of its own. -/
structure EvidenceHistory.Integral (history : EvidenceHistory) : Prop where
  recorded : ∀ evidenceId file, history.service.files (.record evidenceId) = some file →
    ∃ record ∈ history.captured, EvidenceRecord.decode file = some record ∧
      record.evidenceId = evidenceId ∧ record.Backed sha256 history.service.files
  stored : ∀ record ∈ history.captured, record.Committed ∧
    history.service.files (.record record.evidenceId) = some record.encode
  distinct : (history.captured.map EvidenceRecord.evidenceId).Nodup

/-- An event only adds: files that stay are unchanged, and where it keeps no record, there is
none more in the files, nor in memory. -/
structure EvidenceHistory.Adds (history : EvidenceHistory) (event : EvidenceEvent) : Prop where
  unchanged : ∀ name : EvidenceFile, name.Kept → ∀ content,
    history.service.files name = some content →
      (history.step sha256 event).service.files name = some content
  refused : (event.run sha256 history.service).1 = none →
    (∀ evidenceId, (history.step sha256 event).service.files (.record evidenceId) =
      history.service.files (.record evidenceId)) ∧
    (event ≠ .restart → (history.step sha256 event).service.store = history.service.store)

variable {sha256} {service : EvidenceService} {history : EvidenceHistory} {event : EvidenceEvent}

theorem captureGlobal_captured {call : BufferCapture}
    (sound : (EvidenceEvent.buffer call).Sound sha256 service.files) :
    Captured sha256 service (captureGlobal sha256 service call) := by
  obtain ⟨objectSound, recordSound⟩ := sound
  rw [captureGlobal]
  cases staged : evidenceCapture sha256 [] call.evidenceId call.caseId call.content.bytes
      call.derived call.previousAuditSha256 with
  | none => exact .untouched
  | some store =>
    cases store with
    | nil => exact .untouched
    | cons record rest =>
      obtain ⟨committed, sameId, measured, digest⟩ := evidenceCapture_staged staged
      rw [← digest] at objectSound
      rw [← sameId] at recordSound
      have placed : ObjectPlaced sha256 service.files record record.contentLength.toNat
          (if call.directories then
            persistObject sha256 service.files record call.content.bytes call.object
          else (false, service.files)) := by
        rw [measured]
        split
        · exact persistObject_placed digest.symm objectSound
        · exact .untouched
      exact keep_captured committed placed rfl recordSound

theorem captureFileGlobal_captured {call : FileCapture}
    (sound : (EvidenceEvent.file call).Sound sha256 service.files) :
    Captured sha256 service (captureFileGlobal sha256 service call) := by
  obtain ⟨objectSound, recordSound⟩ := sound
  rw [captureFileGlobal]
  cases staged : stageFile sha256 call with
  | none => exact .untouched
  | some record =>
    obtain ⟨committed, sameId, measured, digest⟩ := stageFile_staged staged
    rw [← digest, ← measured] at objectSound
    rw [← sameId] at recordSound
    have placed : ObjectPlaced sha256 service.files record record.contentLength.toNat
        (if call.directories then copyObject sha256 service.files record call.object
        else (false, service.files)) := by
      split
      · exact copyObject_placed objectSound
      · exact .untouched
    exact keep_captured committed placed rfl recordSound

/-- A captured record stays backed while files that stay are unchanged. -/
theorem EvidenceRecord.Backed.mono {record : EvidenceRecord}
    {before after : NamedFiles EvidenceFile} (backed : record.Backed sha256 before)
    (unchanged : ∀ name : EvidenceFile, name.Kept → ∀ content, before name = some content →
      after name = some content) : record.Backed sha256 after := by
  obtain ⟨content, present, rest⟩ := backed
  exact ⟨content, unchanged (.object record.contentSha256) trivial content present, rest⟩

/-- **What a sound capture keeps.** -/
theorem EvidenceHistory.Integral.captured {result : Option EvidenceRecord × EvidenceService}
    (integral : history.Integral sha256) (step : Captured sha256 history.service result) :
    EvidenceHistory.Integral sha256
      { service := result.2, captured := history.captured ++ result.1.toList } := by
  obtain ⟨unchanged, refused, kept⟩ := step
  cases outcome : result.1 with
  | none =>
    have records := (refused outcome).2
    simp only [Option.toList_none, List.append_nil]
    constructor
    · intro evidenceId file present
      rw [records] at present
      obtain ⟨record, isCaptured, decoded, sameId, backed⟩ :=
        integral.recorded evidenceId file present
      exact ⟨record, isCaptured, decoded, sameId, backed.mono unchanged⟩
    · intro record isCaptured
      obtain ⟨committed, stored⟩ := integral.stored record isCaptured
      exact ⟨committed, unchanged (.record _) trivial _ stored⟩
    · exact integral.distinct
  | some record =>
    obtain ⟨committed, _, free, written, others, backed⟩ := kept record outcome
    simp only [Option.toList_some]
    constructor
    · intro evidenceId file present
      by_cases own : evidenceId = record.evidenceId
      · rw [own, written] at present
        cases present
        exact ⟨record, by simp, EvidenceRecord.decode_encode committed, own.symm, backed⟩
      · rw [others evidenceId own] at present
        obtain ⟨older, isCaptured, decoded, sameId, olderBacked⟩ :=
          integral.recorded evidenceId file present
        exact ⟨older, List.mem_append_left _ isCaptured, decoded, sameId,
          olderBacked.mono unchanged⟩
    · intro other isCaptured
      obtain older | newest := List.mem_append.mp isCaptured
      · obtain ⟨otherCommitted, stored⟩ := integral.stored other older
        exact ⟨otherCommitted, unchanged (.record _) trivial _ stored⟩
      · rw [List.mem_singleton.mp newest]
        exact ⟨committed, written⟩
    · rw [List.map_append, List.map_singleton, List.nodup_append]
      refine ⟨integral.distinct, by simp, ?_⟩
      intro olderId isOlder newId isNew same
      obtain ⟨older, isCaptured, rfl⟩ := List.mem_map.mp isOlder
      rw [List.mem_singleton.mp isNew] at same
      have stored := (integral.stored older isCaptured).2
      rw [same, free] at stored
      cases stored

/-- A sound event keeps the evidence. -/
theorem EvidenceHistory.Integral.step (integral : history.Integral sha256)
    (sound : event.Sound sha256 history.service.files) :
    (history.step sha256 event).Integral sha256 ∧ history.Adds sha256 event := by
  cases event with
  | buffer call =>
    have captured := captureGlobal_captured sound
    exact ⟨integral.captured captured, captured.unchanged, fun refused =>
      ⟨(captured.refused refused).2, fun _ => (captured.refused refused).1⟩⟩
  | file call =>
    have captured := captureFileGlobal_captured sound
    exact ⟨integral.captured captured, captured.unchanged, fun refused =>
      ⟨(captured.refused refused).2, fun _ => (captured.refused refused).1⟩⟩
  | restart =>
    refine ⟨⟨?_, ?_, ?_⟩, fun _ _ _ present => present, fun _ => ⟨fun _ => rfl, fun other =>
      absurd rfl other⟩⟩
    · simpa [EvidenceHistory.step, EvidenceEvent.run, EvidenceService.restart] using
        integral.recorded
    · simpa [EvidenceHistory.step, EvidenceEvent.run, EvidenceService.restart] using
        integral.stored
    · simpa [EvidenceHistory.step, EvidenceEvent.run] using integral.distinct

variable (sha256) in
/-- **Evidence is kept.** From no evidence, where the storage answers soundly to the calls of
every event, every record file reads back as one captured record with its object, the ids of
the captured records are distinct, and every event only adds. -/
theorem evidence_kept (events : List EvidenceEvent)
    (sound : ∀ index (event : EvidenceEvent), events[index]? = some event →
      event.Sound sha256
        (Runs.reached (EvidenceHistory.step sha256) .fresh events index).service.files)
    (index : Nat) :
    (Runs.reached (EvidenceHistory.step sha256) .fresh events index).Integral sha256 ∧
      ∀ event, events[index]? = some event →
        (Runs.reached (EvidenceHistory.step sha256) .fresh events index).Adds sha256 event := by
  have integral : (Runs.reached (EvidenceHistory.step sha256) .fresh events index).Integral
      sha256 := by
    refine Runs.always (motive := EvidenceHistory.Integral sha256) ?_ ?_ index
    · refine ⟨?_, ?_, List.nodup_nil⟩
      · intro evidenceId file present
        cases present
      · intro record isCaptured
        cases isCaptured
    · exact fun index event taken integral => (integral.step (sound index event taken)).1
  exact ⟨integral, fun event taken => (integral.step (sound index event taken)).2⟩

end Histories

/-! ## A capture -/

section Sample

/-- A storage on which everything succeeds. -/
def AtomicAnswers.fine : AtomicAnswers where
  seen := true
  write := { opened := true, written := 4096, synced := true, closed := true }
  rename :=
    { oldSeen := true
      newSeen := true
      newRemoved := true
      created := true
      copied := 4096
      copyFailed := false
      oldRemoved := true }
  removed := true

def sampleCapture (evidenceId : String) (record : AtomicAnswers) : BufferCapture where
  evidenceId := .literal evidenceId
  caseId := .literal "case-1"
  content := ⟨[7], by decide⟩
  derived := false
  previousAuditSha256 := .zero _
  directories := true
  object := { seen := true, readable := true, write := .fine }
  record := record

theorem sampleCapture_sound (evidenceId : String) (files : NamedFiles EvidenceFile) :
    (EvidenceEvent.buffer (sampleCapture evidenceId .fine)).Sound sha256Of files := by
  constructor
  · constructor
    · intro unseen
      cases unseen
    · exact fun _ _ _ => show 1 ≤ 4096 by decide
  · constructor
    · intro unseen
      cases unseen
    · exact fun _ => ⟨show 243 ≤ 4096 by decide, rfl, rfl⟩

/-- Two records share an object, before and after a restart. -/
theorem evidence_kept_shared :
    (Runs.reached (EvidenceHistory.step sha256Of) .fresh
      [.buffer (sampleCapture "sample-1" .fine), .restart,
        .buffer (sampleCapture "sample-2" .fine)] 3).Integral sha256Of := by
  refine (evidence_kept sha256Of _ ?_ 3).1
  intro position event taken
  have isSample := List.mem_of_getElem? taken
  simp only [List.mem_cons, List.not_mem_nil, or_false] at isSample
  obtain rfl | rfl | rfl := isSample
  · exact sampleCapture_sound _ _
  · trivial
  · exact sampleCapture_sound _ _

/-- A capture whose record was copied, but whose temporary file then stays. -/
def unremovedCapture : EvidenceEvent :=
  .buffer (sampleCapture "sample-1"
    { AtomicAnswers.fine with rename := { AtomicAnswers.fine.rename with oldRemoved := false } })

/-- The temporary file of a record cannot be removed after it was copied: the capture fails,
and its record is in the files. -/
theorem refused_capture_recorded :
    (unremovedCapture.run sha256Of EvidenceHistory.fresh.service).1 = none ∧
      ¬ EvidenceHistory.fresh.Adds sha256Of unremovedCapture ∧
      ¬ (EvidenceHistory.fresh.step sha256Of unremovedCapture).Integral sha256Of := by
  have refused : (unremovedCapture.run sha256Of EvidenceHistory.fresh.service).1 = none := by
    decide +kernel
  have written : ((EvidenceHistory.fresh.step sha256Of unremovedCapture).service.files
      (.record (.literal "sample-1"))).isSome = true := by
    decide +kernel
  refine ⟨refused, fun adds => ?_, fun integral => ?_⟩
  · rw [(adds.refused refused).1] at written
    cases written
  · obtain ⟨file, present⟩ := Option.isSome_iff_exists.mp written
    obtain ⟨record, isCaptured, _⟩ := integral.recorded _ file present
    rw [EvidenceHistory.step, refused] at isCaptured
    cases isCaptured

end Sample

end PoisonedOS
