import PoisonedOS.Files.Handles

/-!
# What a completed transfer holds

The upload of a session is read off its messages and their answers: what its last
accepted begin announced, and the data of the chunks accepted since, without those that
were retried. All along a run the record of the transfer agrees with it. So a complete
that is answered with OK has seen chunks of the announced size and hash, a retry changes
nothing, and a chunk is taken for a retry only when it repeats the last one or collides
with it.

Whether the target then holds these bytes is left to the storage. A rename copies the
file, and a copy that stops short without an error is reported as done; a transfer that
only replays trusts that the target still holds what the begin found there.
-/

namespace PoisonedOS

/-- Different bytes of the same length and hash. -/
structure Collision (sha256 : List UInt8 → Digest) (left right : List UInt8) : Prop where
  different : left ≠ right
  sized : left.length = right.length
  hashed : sha256 left = sha256 right

/-- What a session has uploaded: what its begin announced, the accepted data, and the
offset and data of the last chunk taken. -/
structure Upload where
  target : CString
  size : Nat
  sha256 : Digest
  bytes : List UInt8
  previous : Option (Nat × List UInt8)

namespace Upload

/-- The upload an accepted begin announces. -/
def announced (role : Option Role) (path : CString) (size : Nat) (digest : CString) :
    Option Upload :=
  match role.bind (vfsResolvePath path · .write), hexDecode digest with
  | some resolved, some expected => some ⟨resolved.backingPath, size, expected, [], none⟩
  | _, _ => none

/-- The upload with the data of one more chunk. -/
def extend (upload : Upload) (offset : Nat) (data : List UInt8) : Upload :=
  { upload with
    bytes := upload.bytes ++ data
    previous := some (offset, data) }

/-- The upload after a request that is answered with OK or not. Of an accepted chunk it
matters whether it was a retry. -/
def record (upload : Option Upload) (role : Option Role) (answered retry : Bool) :
    FileRequest → Option Upload
  | .list _ _ _ _ => upload
  | .transferBegin _ path size digest => if answered then announced role path size digest else none
  | .transferChunk _ offset data _ =>
    if !answered then none
    else if retry then upload
    else upload.map (·.extend offset data)
  | .transferComplete _ _ _ => none

/-- The target holds the uploaded bytes, up to a collision. -/
def Held (sha256 : List UInt8 → Digest) (upload : Upload) (store : FileStore) : Prop :=
  ∃ content, store.files upload.target = some content ∧
    (content = upload.bytes ∨ Collision sha256 content upload.bytes)

/-- The record of a transfer agrees with the upload. -/
structure Matches (sha256 : List UInt8 → Digest) (upload : Upload) (transfer : FileTransfer) :
    Prop where
  target : transfer.targetPath = upload.target
  size : transfer.expectedSize = upload.size
  digest : transfer.expectedSha256 = upload.sha256
  bytes : transfer.hashed = upload.bytes
  last : transfer.lastChunk =
    upload.previous.map fun chunk => ⟨chunk.1, chunk.2.length, sha256 chunk.2⟩

end Upload

namespace FileTransfer

def retries (sha256 : List UInt8 → Digest) (transfer : FileTransfer) : FileRequest → Bool
  | .transferChunk _ offset data _ => transfer.isRetry offset data (sha256 data)
  | _ => false

/-- The upload of the session is what its record says. -/
def Tracked (sha256 : List UInt8 → Digest) (upload : Option Upload) (transfer : FileTransfer) :
    Prop :=
  transfer.active = true → ∃ known, upload = some known ∧ known.Matches sha256 transfer

variable {sha256 : List UInt8 → Digest} {transfer : FileTransfer} {store : FileStore}
  {role : Option Role} {hasNext : Bool} {answers : FileAnswers} {request : FileRequest}
  {result : Bool × FileTransfer × FileStore} {upload : Option Upload}

variable {operationId digest : CString} {size : Nat}

theorem beginChecks_announced {path target : CString} {expected : Digest}
    (checked : transfer.beginChecks role hasNext operationId path size digest =
      some (target, expected)) :
    Upload.announced role path size digest = some ⟨target, size, expected, [], none⟩ := by
  cases role with
  | none => cases checked
  | some role =>
    simp only [beginChecks] at checked
    split at checked
    · cases checked
    · cases decoded : hexDecode digest with
      | none =>
        rw [decoded] at checked
        cases checked
      | some found =>
        cases resolves : vfsResolvePath path role .write with
        | none =>
          simp only [decoded, resolves] at checked
          cases checked
        | some resolved =>
          simp only [decoded, resolves] at checked
          split at checked
          · obtain ⟨rfl, rfl⟩ := Prod.mk.inj (Option.some.inj checked)
            simp [Upload.announced, decoded, resolves]
          · cases checked

theorem chunkChecks_digest {data : List UInt8} {found : Digest}
    (checked : transfer.chunkChecks sha256 role hasNext operationId data digest = some found) :
    found = sha256 data := by
  simp only [chunkChecks, chunkDigest] at checked
  split at checked
  · cases checked
  · split at checked
    · exact (Option.some.inj checked).symm
    · cases checked

/-- What the checks of a complete compare. -/
theorem completeChecks_compared
    (checked : transfer.completeChecks sha256 role hasNext operationId size digest = true) :
    size = transfer.expectedSize ∧ transfer.receivedSize = transfer.expectedSize ∧
      hexDecode digest = some transfer.expectedSha256 ∧
      sha256 transfer.hashed = transfer.expectedSha256 := by
  simp only [completeChecks, Bool.and_eq_true, beq_iff_eq] at checked
  exact ⟨checked.1.1.1.2, checked.1.1.2, checked.1.2, checked.2⟩

/-- The upload follows the record of the transfer. -/
theorem Effect.tracked (backed : transfer.Backed store)
    (effect : Effect sha256 transfer store role hasNext answers request result)
    (tracked : transfer.Tracked sha256 upload) :
    result.2.1.Tracked sha256
      (Upload.record upload role result.1 (transfer.retries sha256 request) request) := by
  have taken {operationId digest : CString} {offset : Nat} {data : List UInt8} {found : Digest}
      (checked : transfer.chunkChecks sha256 role hasNext operationId data digest = some found)
      (fresh : transfer.isRetry offset data found = false) :
      (transfer.took offset data found).Tracked sha256 (Upload.record upload role true
        (transfer.retries sha256 (.transferChunk operationId offset data digest))
        (.transferChunk operationId offset data digest)) := by
    obtain rfl := chunkChecks_digest checked
    obtain ⟨known, rfl, same⟩ := tracked (chunkChecks_active checked)
    intro active
    refine ⟨known.extend offset data, ?_, same.target, same.size, same.digest, ?_, rfl⟩
    · simp [Upload.record, retries, fresh]
    · simp only [took, Upload.extend, same.bytes]
  have begun {operationId path digest target : CString} {size : Nat} {expected : Digest}
      {replayOnly : Bool}
      (checked : transfer.beginChecks role hasNext operationId path size digest =
        some (target, expected)) :
      ((transfer.named operationId target).started replayOnly size expected).Tracked sha256
        (Upload.record upload role true
          (transfer.retries sha256 (.transferBegin operationId path size digest))
          (.transferBegin operationId path size digest)) := by
    have idle := backed.inactive (beginChecks_inactive checked)
    intro active
    refine ⟨⟨target, size, expected, [], none⟩, beginChecks_announced checked, rfl, rfl, rfl, rfl,
      ?_⟩
    rw [idle]
    rfl
  cases effect with
  | listed => exact tracked
  | refused | blocked | shortened | replayed | completed | halfRenamed =>
    intro active
    cases active
  | replays operationId path size digest target expected checked mode absent => exact begun checked
  | creates operationId path size digest target expected checked mode absent => exact begun checked
  | retried operationId offset data digest chunkDigest checked retry =>
    obtain rfl := chunkChecks_digest checked
    intro active
    obtain ⟨known, isKnown, same⟩ := tracked active
    refine ⟨known, ?_, same⟩
    simp [Upload.record, retries, retry, isKnown]
  | skipped operationId offset data digest chunkDigest checked fresh next replay =>
    exact taken checked fresh
  | wrote operationId offset data digest chunkDigest checked fresh next writes =>
    exact taken checked fresh

/-- An accepted chunk that is a retry changes nothing, and repeats the last chunk taken
or collides with it. -/
theorem Effect.retry (effect : Effect sha256 transfer store role hasNext answers request result)
    (tracked : transfer.Tracked sha256 upload) (answered : result.1 = true) {offset : Nat}
    {data : List UInt8} (isChunk : request = .transferChunk operationId offset data digest)
    (retry : transfer.isRetry offset data (sha256 data) = true) :
    result.2 = (transfer, store) ∧ ∃ known last, upload = some known ∧
      known.previous = some (offset, last) ∧ (data = last ∨ Collision sha256 data last) := by
  subst isChunk
  cases effect with
  | refused => cases answered
  | shortened => cases answered
  | retried _ _ _ _ chunkDigest checked isRetry =>
    refine ⟨rfl, ?_⟩
    obtain ⟨known, isKnown, same⟩ := tracked (chunkChecks_active checked)
    have last := beq_iff_eq.mp retry
    rw [same.last] at last
    cases stored : known.previous with
    | none =>
      rw [stored] at last
      cases last
    | some chunk =>
      rw [stored] at last
      simp only [Option.map_some, Option.some.injEq, LastChunk.mk.injEq] at last
      refine ⟨known, chunk.2, isKnown, ?_, ?_⟩
      · rw [stored, ← last.1]
      · by_cases repeated : data = chunk.2
        · exact .inl repeated
        · exact .inr ⟨repeated, last.2.1.symm, last.2.2.symm⟩
  | skipped _ _ _ _ chunkDigest checked fresh next replay =>
    obtain rfl := chunkChecks_digest checked
    exact absurd (retry.symm.trans fresh) (by simp)
  | wrote _ _ _ _ chunkDigest checked fresh next writes =>
    obtain rfl := chunkChecks_digest checked
    exact absurd (retry.symm.trans fresh) (by simp)

/-- A complete that will be answered with OK does not leave its bytes at the target: the
copy of the rename is short, or a transfer that only replays finds something else there. -/
def Loses (sha256 : List UInt8 → Digest) (transfer : FileTransfer) (store : FileStore)
    (role : Option Role) (hasNext : Bool) (answers : FileAnswers) : FileRequest → Prop
  | .transferComplete operationId size digest =>
    (Finishes sha256 transfer store role hasNext answers operationId size digest ∧
        answers.copyFailed = false ∧ answers.oldRemoved = true ∧
        answers.copied < transfer.expectedSize) ∨
      (transfer.completeChecks sha256 role hasNext operationId size digest = true ∧
        transfer.replayOnly = true ∧ ∀ content,
          store.files transfer.targetPath = some content →
          content.length = transfer.expectedSize → sha256 content ≠ transfer.expectedSha256)
  | _ => False

/-- Of a complete that is answered with OK: the upload has the announced size and hash,
and it is at the target unless the storage loses it. -/
theorem Effect.complete (backed : transfer.Backed store)
    (effect : Effect sha256 transfer store role hasNext answers request result)
    (tracked : transfer.Tracked sha256 upload) (answered : result.1 = true)
    (isComplete : request = .transferComplete operationId size digest) :
    ∃ known, upload = some known ∧ known.bytes.length = known.size ∧
      sha256 known.bytes = known.sha256 ∧ size = known.size ∧
      hexDecode digest = some known.sha256 ∧
      (known.Held sha256 result.2.2 ↔
        ¬ transfer.Loses sha256 store role hasNext answers request) := by
  subst isComplete
  have compared (checked : transfer.completeChecks sha256 role hasNext operationId size digest =
      true) : ∃ known, upload = some known ∧ known.Matches sha256 transfer ∧
        known.bytes.length = known.size ∧ sha256 known.bytes = known.sha256 ∧
        size = known.size ∧ hexDecode digest = some known.sha256 := by
    obtain ⟨known, isKnown, same⟩ := tracked (completeChecks_active checked)
    obtain ⟨sameSize, whole, decoded, hashes⟩ := completeChecks_compared checked
    refine ⟨known, isKnown, same, ?_, ?_, sameSize.trans same.size, ?_⟩
    · rw [← same.bytes, ← backed.counted, whole, same.size]
    · rw [← same.bytes, hashes, same.digest]
    · rw [decoded, same.digest]
  cases effect with
  | refused => cases answered
  | halfRenamed => cases answered
  | replayed _ _ _ checked replay =>
    obtain ⟨known, isKnown, same, sized, hashes, sameSize, decoded⟩ := compared checked
    refine ⟨known, isKnown, sized, hashes, sameSize, decoded, ?_⟩
    constructor
    · rintro ⟨content, isHeld, whole⟩ (⟨finishes, -⟩ | ⟨-, -, missing⟩)
      · exact absurd (replay.symm.trans finishes.writes) (by simp)
      · rw [same.target, same.size, same.digest] at missing
        obtain rfl | collision := whole
        · exact missing _ isHeld sized hashes
        · exact missing _ isHeld (collision.sized.trans sized) (collision.hashed.trans hashes)
    · intro keeps
      by_contra lost
      refine keeps (.inr ⟨checked, replay, fun content isHeld isSize isHash => lost ?_⟩)
      rw [same.target] at isHeld
      refine ⟨content, isHeld, ?_⟩
      by_cases whole : content = known.bytes
      · exact .inl whole
      · refine .inr ⟨whole, ?_, ?_⟩
        · rw [isSize, same.size, sized]
        · rw [isHash, same.digest, hashes]
  | completed _ _ _ finishes copied moved =>
    obtain ⟨known, isKnown, same, sized, hashes, sameSize, decoded⟩ := compared finishes.checked
    refine ⟨known, isKnown, sized, hashes, sameSize, decoded, ?_⟩
    have apart : transfer.targetPath ≠ transfer.temporaryPath := by
      rw [backed.named (completeChecks_active finishes.checked)]
      exact (suffixed_ne _).symm
    have stored : Function.update (transfer.copiedStore store answers).files
        transfer.temporaryPath none known.target = some (known.bytes.take answers.copied) := by
      rw [← same.target, Function.update_of_ne apart, ← same.bytes]
      exact Function.update_self _ _ _
    constructor
    · rintro ⟨content, isHeld, whole⟩ (⟨-, -, -, short⟩ | ⟨-, replay, -⟩)
      · obtain rfl := Option.some.inj (stored.symm.trans isHeld)
        have long : (known.bytes.take answers.copied).length = known.bytes.length := by
          obtain whole | collision := whole
          · rw [whole]
          · exact collision.sized
        rw [same.size] at short
        rw [List.length_take] at long
        omega
      · exact absurd (replay.symm.trans finishes.writes) (by simp)
    · intro keeps
      have enough : known.bytes.length ≤ answers.copied := by
        by_contra short
        refine keeps (.inl ⟨finishes, copied, moved, ?_⟩)
        rw [same.size]
        omega
      rw [List.take_of_length_le enough] at stored
      exact ⟨known.bytes, stored, .inl rfl⟩

end FileTransfer

namespace FileService

def uploadAt (sha256 : List UInt8 → Digest) (files : CString → Option (List UInt8))
    (events : List FileEvent) (session : Nat) : Nat → Option Upload
  | 0 => none
  | index + 1 =>
    match events[index]? with
    | none => uploadAt sha256 files events session index
    | some event =>
      if event.session ≠ session then uploadAt sha256 files events session index
      else
        match event with
        | .ended _ _ => none
        | .request _ role _ request _ =>
          Upload.record (uploadAt sha256 files events session index) role
            ((serviceAt sha256 files events index).outcome sha256 event).1
            (((serviceAt sha256 files events index).sessions session).retries sha256 request)
            request

/-- The event completes what was uploaded, and a retry is no news. -/
structure Integral (sha256 : List UInt8 → Digest) (files : CString → Option (List UInt8))
    (events : List FileEvent) (index session : Nat) (role : Option Role) (hasNext : Bool)
    (request : FileRequest) (answers : FileAnswers) : Prop where
  /-- A complete that is answered with OK has the announced bytes at the target. -/
  complete : ∀ operationId size digest, request = .transferComplete operationId size digest →
    ∃ upload, uploadAt sha256 files events session index = some upload ∧
      upload.bytes.length = upload.size ∧ sha256 upload.bytes = upload.sha256 ∧
      size = upload.size ∧ hexDecode digest = some upload.sha256 ∧
      upload.Held sha256 (serviceAt sha256 files events (index + 1)).store
  /-- A retried chunk changes nothing and brings nothing new. -/
  retried : ∀ operationId offset data digest,
    request = .transferChunk operationId offset data digest →
    ((serviceAt sha256 files events index).sessions session).isRetry offset data (sha256 data) =
      true →
    serviceAt sha256 files events (index + 1) = serviceAt sha256 files events index ∧
      ∃ upload last, uploadAt sha256 files events session index = some upload ∧
        upload.previous = some (offset, last) ∧ (data = last ∨ Collision sha256 data last)

def Answered (sha256 : List UInt8 → Digest) (files : CString → Option (List UInt8))
    (events : List FileEvent) (index session : Nat) (role : Option Role) (hasNext : Bool)
    (request : FileRequest) (answers : FileAnswers) : Prop :=
  events[index]? = some (.request session role hasNext request answers) ∧
    ((serviceAt sha256 files events index).outcome sha256
      (.request session role hasNext request answers)).1 = true

variable {sha256 : List UInt8 → Digest} {files : CString → Option (List UInt8)}
  {events : List FileEvent} {index session : Nat} {role : Option Role} {hasNext : Bool}
  {request : FileRequest} {answers : FileAnswers}

open FileTransfer

/-- All along a run the uploads are what the records say. -/
theorem run_tracked (sha256 : List UInt8 → Digest) (files : CString → Option (List UInt8))
    (events : List FileEvent) (session index : Nat) :
    ((serviceAt sha256 files events index).sessions session).Tracked sha256
      (uploadAt sha256 files events session index) := by
  induction index with
  | zero =>
    intro active
    cases active
  | succ index tracked =>
    cases taken : events[index]? with
    | none =>
      have still : serviceAt sha256 files events (index + 1) =
          serviceAt sha256 files events index := Runs.reached_end taken
      simp only [uploadAt, taken, still]
      exact tracked
    | some event =>
      simp only [uploadAt, taken, serviceAt_succ taken]
      by_cases different : event.session ≠ session
      · rw [if_pos different, step_other different.symm]
        exact tracked
      · rw [if_neg different]
        obtain rfl := not_not.mp different
        rw [step_session]
        cases event with
        | ended session answers =>
          intro active
          cases active
        | request session role hasNext request answers =>
          have backed := (run_sound sha256 files events index).backed session
          exact (handle_effect backed request).tracked backed tracked

/-- An accepted request is integral exactly when the storage loses nothing. -/
theorem integral_step_iff
    (answered : Answered sha256 files events index session role hasNext request answers) :
    Integral sha256 files events index session role hasNext request answers ↔
      ¬ ((serviceAt sha256 files events index).sessions session).Loses sha256
        (serviceAt sha256 files events index).store role hasNext answers request := by
  obtain ⟨taken, accepted⟩ := answered
  have backed := (run_sound sha256 files events index).backed session
  have tracked := run_tracked sha256 files events session index
  have effect : Effect sha256 _ _ role hasNext answers request _ := handle_effect backed request
  have next : serviceAt sha256 files events (index + 1) = _ := serviceAt_succ taken
  constructor
  · intro integral loses
    cases request with
    | list => exact loses
    | transferBegin => exact loses
    | transferChunk => exact loses
    | transferComplete operationId size digest =>
      obtain ⟨upload, isUpload, -, -, -, -, isHeld⟩ := integral.complete _ _ _ rfl
      obtain ⟨known, isKnown, -, -, -, -, whole⟩ := effect.complete backed tracked accepted rfl
      obtain rfl := Option.some.inj (isUpload.symm.trans isKnown)
      rw [next] at isHeld
      exact whole.mp isHeld loses
  · intro keeps
    refine ⟨fun operationId size digest isComplete => ?_,
      fun operationId offset data digest isChunk retry => ?_⟩
    · obtain ⟨known, isKnown, sized, hashes, sameSize, decoded, whole⟩ :=
        effect.complete backed tracked accepted isComplete
      refine ⟨known, isKnown, sized, hashes, sameSize, decoded, ?_⟩
      rw [next]
      exact whole.mpr keeps
    · obtain ⟨same, known⟩ := effect.retry tracked accepted isChunk retry
      refine ⟨?_, known⟩
      rw [next]
      have stays : ((serviceAt sha256 files events index).outcome sha256
          (.request session role hasNext request answers)).2 =
          ((serviceAt sha256 files events index).sessions session,
            (serviceAt sha256 files events index).store) := same
      simp only [step, stays, FileEvent.session, Function.update_eq_self]

/-- For every storage the service starts with and every run of any number of sessions,
all accepted requests are integral exactly when the storage loses nothing. -/
theorem transfers_integral_iff (sha256 : List UInt8 → Digest)
    (files : CString → Option (List UInt8)) (events : List FileEvent) :
    (∀ index session role hasNext request answers,
        Answered sha256 files events index session role hasNext request answers →
        Integral sha256 files events index session role hasNext request answers) ↔
      ∀ index session role hasNext request answers,
        Answered sha256 files events index session role hasNext request answers →
        ¬ ((serviceAt sha256 files events index).sessions session).Loses sha256
          (serviceAt sha256 files events index).store role hasNext answers request :=
  ⟨fun integral index session role hasNext request answers answered =>
      (integral_step_iff answered).mp (integral index session role hasNext request answers answered),
    fun keeps index session role hasNext request answers answered =>
      (integral_step_iff answered).mpr (keeps index session role hasNext request answers answered)⟩

section FullCard

/-- SHA-256 itself. -/
def fileDigest (message : List UInt8) : Digest :=
  ⟨Sha256.digest message, Sha256.length_digest message⟩

/-- A storage that does everything it is asked. -/
def willingAnswers : FileAnswers where
  readable := true
  parentReady := true
  opened := true
  written := 512
  synced := true
  closed := true
  created := true
  copied := fileTransferMaxBytes
  copyFailed := false
  oldRemoved := true
  removed := true

/-- The hash of the uploaded byte, as the messages carry it. -/
def byteDigest : CString := .ofBytes (hexBytes (fileDigest [7]).bytes)

def fullCardUpload : List FileEvent :=
  [.request 0 (some .owner) false
      (.transferBegin (.literal "upload-1") (.literal "/ext/notes") 1 byteDigest) willingAnswers,
    .request 0 (some .owner) false
      (.transferChunk (.literal "upload-1") 0 [7] byteDigest) willingAnswers,
    .request 0 (some .owner) false
      (.transferComplete (.literal "upload-1") 1 byteDigest) { willingAnswers with copied := 0 }]

/-- The complete is answered with OK, and the target is empty. -/
theorem full_card_truncates : ¬ ∀ (sha256 : List UInt8 → Digest)
    (files : CString → Option (List UInt8)) (events : List FileEvent),
    ∀ index session role hasNext request answers,
      Answered sha256 files events index session role hasNext request answers →
      Integral sha256 files events index session role hasNext request answers := by
  intro always
  have answered : Answered fileDigest (fun _ => none) fullCardUpload 2 0 (some .owner) false
      (.transferComplete (.literal "upload-1") 1 byteDigest)
      { willingAnswers with copied := 0 } := ⟨rfl, by decide +kernel⟩
  obtain ⟨upload, isUpload, sized, -, sameSize, -, content, isHeld, whole⟩ :=
    (always _ _ _ _ _ _ _ _ _ answered).complete _ _ _ rfl
  have target : (uploadAt fileDigest (fun _ => none) fullCardUpload 0 2).map Upload.target =
      some (.literal "/ext/notes") := by decide +kernel
  rw [isUpload, Option.map_some, Option.some.injEq] at target
  have empty : (serviceAt fileDigest (fun _ => none) fullCardUpload (2 + 1)).store.files
      (.literal "/ext/notes") = some [] := by decide +kernel
  rw [target, empty] at isHeld
  obtain rfl := Option.some.inj isHeld
  have long : ([] : List UInt8).length = upload.bytes.length := by
    obtain whole | collision := whole
    · rw [whole]
    · exact collision.sized
  rw [sized, ← sameSize] at long
  cases long

end FullCard

end FileService

end PoisonedOS
