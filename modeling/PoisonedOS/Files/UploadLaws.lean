import PoisonedOS.Files.Upload
import PoisonedOS.Library.Ascii

/-!
# Uploads end to end

An upload that resolves leaves exactly its data at the target, unless the target was there
before with other bytes of the same size and hash. An upload that fails after its begin was
taken leaves the transfer open at the device, because nothing tells the device that it is
over: the begin of the next upload is then refused, and only this refusal closes the old
transfer.
-/

namespace PoisonedOS.FileUpload

open ContentDigest (deviceText)

/-! ## What the dashboard sends is well formed -/

/-- The digits of a digest are read back. -/
theorem hexPairs_hexBytes (bytes : List UInt8) : hexPairs (hexBytes bytes) = some bytes := by
  induction bytes with
  | nil => rfl
  | cons byte bytes ih =>
    have lower := Hex.hexDigit_lower byte
    have value := beq_iff_eq.mp (Hex.forall_byte (fun byte =>
      hexValue (hexDigit (byte >>> (4 : UInt8))) <<< (4 : UInt8) |||
        hexValue (hexDigit (byte &&& (15 : UInt8))) == byte) (by decide +kernel) byte)
    rw [Hex.hexBytes_cons, hexPairs, lower, ih]
    simp only [if_true, Option.map_some, value]

/-- The device reads the digest that the dashboard writes. -/
theorem hexDecode_hexdigest (digest : Digest) :
    hexDecode (deviceText (PackageBuilder.hexdigest digest.bytes)) = some digest := by
  have bytes : (PackageArchive.hexEncode digest).bytes = hexBytes digest.bytes :=
    CString.ofBytes_bytes (Hex.zero_not_mem _)
  have sized : digest.bytes.length = 32 := digest.sized
  have length : (PackageArchive.hexEncode digest).length = 64 := by
    rw [CString.length, bytes, Hex.length_hexBytes, digest.sized]
    rfl
  rw [ContentDigest.deviceText_hexdigest, hexDecode, if_neg (not_not.mpr length), bytes,
    hexPairs_hexBytes]
  simp only [sized, dite_true]

/-- Such a letter is an ASCII character. -/
theorem operationIdLetter_ascii {letter : Char} (allowed : operationIdLetter letter = true) :
    letter.toNat < 128 := by
  simp only [operationIdLetter, Bool.or_eq_true, Bool.and_eq_true, decide_eq_true_eq,
    beq_iff_eq, Char.le_def, UInt32.le_iff_toNat_le] at allowed
  have upper : ('Z' : Char).val.toNat = 90 := rfl
  have lower : ('z' : Char).val.toNat = 122 := rfl
  have digit : ('9' : Char).val.toNat = 57 := rfl
  have number : letter.toNat = letter.val.toNat := rfl
  rcases allowed with ((((inside | inside) | inside) | rfl) | rfl) | rfl
  · omega
  · omega
  · omega
  · decide
  · decide
  · decide

/-- The device allows its byte. -/
theorem operationIdLetter_byte {letter : Char} (allowed : operationIdLetter letter = true) :
    (isLower (Ascii.byte letter) || isUpper (Ascii.byte letter) || isDigit (Ascii.byte letter) ||
      Ascii.byte letter == 45 || Ascii.byte letter == 95 || Ascii.byte letter == 46) = true := by
  have all : ∀ value : Fin 128, operationIdLetter (Char.ofNat value) = true →
      (isLower (UInt8.ofNat value) || isUpper (UInt8.ofNat value) || isDigit (UInt8.ofNat value) ||
        UInt8.ofNat value == 45 || UInt8.ofNat value == 95 || UInt8.ofNat value == 46) = true := by
    decide +kernel
  have here := all ⟨letter.toNat, operationIdLetter_ascii allowed⟩
  simp only [Char.ofNat_toNat] at here
  exact here allowed

theorem fileOperationIdValid_of_accepted {operationId : List Char}
    (accepted : operationIdAccepted operationId = true) :
    fileOperationIdValid (deviceText operationId) = true := by
  simp only [operationIdAccepted, Bool.and_eq_true, Bool.not_eq_true', decide_eq_true_eq]
    at accepted
  obtain ⟨⟨inhabited, short⟩, letters⟩ := accepted
  have allowed : ∀ letter ∈ operationId, operationIdLetter letter = true :=
    List.all_eq_true.mp letters
  have ascii : Ascii.Text operationId := fun letter inside =>
    operationIdLetter_ascii (allowed letter inside)
  have checked : ∀ byte ∈ operationId.map Ascii.byte, (isLower byte || isUpper byte ||
      isDigit byte || byte == 45 || byte == 95 || byte == 46) = true := by
    intro byte inside
    obtain ⟨letter, isLetter, rfl⟩ := List.mem_map.mp inside
    exact operationIdLetter_byte (allowed letter isLetter)
  have free : (0 : UInt8) ∉ operationId.map Ascii.byte := by
    intro inside
    have letter := checked 0 inside
    revert letter
    decide
  have bytes : (deviceText operationId).bytes = operationId.map Ascii.byte := by
    rw [deviceText, Ascii.utf8_eq ascii, CString.ofBytes_bytes free]
  have long : 0 < operationId.length := by
    cases operationId with
    | nil => cases inhabited
    | cons letter rest => exact Nat.succ_pos _
  have length : (deviceText operationId).length = operationId.length := by
    rw [CString.length, bytes, List.length_map]
  have named : (deviceText operationId).isEmpty = false :=
    CString.isEmpty_false_of_length (by rw [length]; exact long)
  rw [fileOperationIdValid, named, length, bytes, List.all_eq_true.mpr checked]
  simp only [Bool.not_false, Bool.true_and, Bool.and_true, decide_eq_true_eq]
  omega

section Upload

variable {sha256 : List UInt8 → Digest} {role : Role} {maxRetries : Nat}
  {request : UploadRequest} {course : Course} {device : Device} {store : FileStore}

/-- What `upload` has checked. -/
structure UploadRequest.Sound (sha256 : List UInt8 → Digest) (request : UploadRequest) :
    Prop where
  operationId : fileOperationIdValid (deviceText request.operationId) = true
  small : request.data.length ≤ fileTransferMaxBytes
  digest : hexDecode (deviceText request.expectedSha256) = some (sha256 request.data)

theorem UploadRequest.sound (accepted : request.accepted sha256 = true) :
    request.Sound sha256 := by
  simp only [UploadRequest.accepted, UploadRequest.valid, Bool.and_eq_true, decide_eq_true_eq,
    beq_iff_eq] at accepted
  obtain ⟨⟨⟨⟨⟨operationId, -⟩, -⟩, small⟩, -⟩, digest⟩ := accepted
  refine ⟨fileOperationIdValid_of_accepted operationId, small, ?_⟩
  rw [← digest, sha256Hex, hexDecode_hexdigest]

/-! ## The device during an upload -/

/-- The data of the first chunks. -/
def UploadRequest.taken (request : UploadRequest) (count : Nat) : List UInt8 :=
  request.data.take (count * fileChunkBytes)

/-- The record of the last of the first chunks. -/
def UploadRequest.lastTaken (sha256 : List UInt8 → Digest) (request : UploadRequest) :
    Nat → Option LastChunk
  | 0 => none
  | index + 1 =>
    some ⟨index * fileChunkBytes, (request.chunkData index).length,
      sha256 (request.chunkData index)⟩

def UploadRequest.transferring (sha256 : List UInt8 → Digest) (request : UploadRequest)
    (target : CString) (replay : Bool) (count : Nat) : FileTransfer where
  file := !replay
  active := true
  replayOnly := replay
  operationId := deviceText request.operationId
  targetPath := target
  temporaryPath := target.append fileTransferSuffix
  expectedSize := request.data.length
  receivedSize := (request.taken count).length
  expectedSha256 := sha256 request.data
  lastChunk := request.lastTaken sha256 count
  hashed := request.taken count

/-- The storage after the first chunks. -/
def UploadRequest.storing (request : UploadRequest) (store : FileStore) (target : CString)
    (replay : Bool) (count : Nat) : FileStore :=
  if replay then store
  else
    { files := Function.update store.files (target.append fileTransferSuffix)
        (some (request.taken count))
      opened := Function.update store.opened (target.append fileTransferSuffix) true }

/-- The device after the first chunks. -/
def UploadRequest.uploading (sha256 : List UInt8 → Digest) (request : UploadRequest)
    (store : FileStore) (target : CString) (replay : Bool) (count : Nat) : Device :=
  ⟨request.transferring sha256 target replay count, request.storing store target replay count⟩

/-- The storage after the complete. -/
def UploadRequest.finished (request : UploadRequest) (store : FileStore) (target : CString)
    (replay : Bool) : FileStore :=
  if replay then store
  else
    { files := Function.update (Function.update store.files target (some request.data))
        (target.append fileTransferSuffix) none
      opened := Function.update store.opened (target.append fileTransferSuffix) false }

/-- A session without a transfer takes the begin, with this target, and replays or not. The
target is there with the same size and hash, or it is not there, and no temporary file
stands in the way. -/
structure Admits (sha256 : List UInt8 → Digest) (role : Role) (store : FileStore)
    (request : UploadRequest) (target : CString) (replay : Bool) : Prop where
  resolves : ∃ resolved, vfsResolvePath (deviceText request.path) role .write = some resolved ∧
    resolved.backingPath = target
  fits : target.length + fileTransferSuffix.length ≤ vfsPathMax
  temporary : store.files (target.append fileTransferSuffix) = none
  found : if replay then ∃ content, store.files target = some content ∧
      store.opened target = false ∧ content.length = request.data.length ∧
      sha256 content = sha256 request.data
    else store.files target = none

/-- The begin is admitted in one way or the other. -/
def Admissible (sha256 : List UInt8 → Digest) (role : Role) (store : FileStore)
    (request : UploadRequest) : Prop :=
  ∃ target replay, Admits sha256 role store request target replay

/-- A resolved path was short enough to be decoded. -/
theorem decoded_of_resolves {path : CString} {operation : VfsOperation}
    {resolved : VfsResolvedPath}
    (resolves : vfsResolvePath path role operation = some resolved) :
    path.length ≤ vfsPathMax := by
  by_contra long
  have refused : vfsNormalizePath path = none := by
    rw [vfsNormalizePath, if_pos]
    simp only [Bool.or_eq_true, decide_eq_true_eq]
    exact .inr (by omega)
  simp only [vfsResolvePath, refused] at resolves
  cases resolves

variable {target : CString} {replay : Bool}

theorem beginMode_iff :
    FileTransfer.beginMode sha256 store succeeding target request.data.length
        (sha256 request.data) = some replay ↔
      if replay then ∃ content, store.files target = some content ∧
        store.opened target = false ∧ content.length = request.data.length ∧
        sha256 content = sha256 request.data
      else store.files target = none := by
  cases there : store.files target with
  | none =>
    simp only [FileTransfer.beginMode, FileStore.fileExists, there]
    cases replay <;> simp [succeeding]
  | some content =>
    have answers : succeeding.readable = true := rfl
    simp only [FileTransfer.beginMode, FileStore.fileExists, there, existingMatches, answers]
    cases replay <;> simp [and_assoc]

/-! ## What the device answers -/

/-- What the checks of a begin find. -/
theorem beginChecks_iff (sound : request.Sound sha256) (transfer : FileTransfer)
    {expected : Digest} :
    transfer.beginChecks (some role) false (deviceText request.operationId)
        (deviceText request.path) request.data.length (deviceText request.expectedSha256) =
      some (target, expected) ↔
    transfer.active = false ∧ expected = sha256 request.data ∧
      (∃ resolved, vfsResolvePath (deviceText request.path) role .write = some resolved ∧
        resolved.backingPath = target) ∧
      target.length + fileTransferSuffix.length ≤ vfsPathMax := by
  have small : decide (request.data.length > fileTransferMaxBytes) = false :=
    decide_eq_false (Nat.not_lt.mpr sound.small)
  simp only [FileTransfer.beginChecks, sound.operationId, sound.digest, small]
  cases active : transfer.active with
  | true => simp
  | false =>
    cases resolves : vfsResolvePath (deviceText request.path) role .write with
    | none => simp
    | some resolved =>
      by_cases fits : resolved.backingPath.length + fileTransferSuffix.length ≤ vfsPathMax
      · simp only [Bool.or_self, Bool.not_true, Bool.false_eq_true, if_false, fits,
          if_true, Option.some.injEq, Prod.mk.injEq, exists_eq_left', true_and]
        constructor
        · rintro ⟨rfl, rfl⟩
          exact ⟨rfl, rfl, fits⟩
        · rintro ⟨rfl, rfl, -⟩
          exact ⟨rfl, rfl⟩
      · simp only [Bool.or_self, Bool.not_true, Bool.false_eq_true, if_false, fits,
          Option.some.injEq, exists_eq_left', true_and, reduceCtorEq, false_iff]
        rintro ⟨-, rfl, there⟩
        exact fits there

/-- An admitted begin is taken. -/
theorem receive_begin (sound : request.Sound sha256)
    (admits : Admits sha256 role store request target replay) :
    Device.receive sha256 role ⟨.idle, store⟩ request.beginMessage =
      (true, request.uploading sha256 store target replay 0) := by
  obtain ⟨resolved, resolves, -⟩ := admits.resolves
  have readable : decoded request.beginMessage = true :=
    decide_eq_true (decoded_of_resolves resolves)
  have checked := (beginChecks_iff sound .idle).mpr
    ⟨rfl, rfl, admits.resolves, admits.fits⟩
  have mode := beginMode_iff.mpr admits.found
  have absent : store.fileExists (target.append fileTransferSuffix) = false := by
    rw [FileStore.fileExists, admits.temporary]
    rfl
  have started : request.taken 0 = [] := by
    rw [UploadRequest.taken, Nat.zero_mul, List.take_zero]
  rw [Device.receive, readable]
  simp only [UploadRequest.beginMessage, FileService.handle, FileTransfer.beginProcess, checked,
    mode, FileTransfer.named, absent, if_true]
  cases replay with
  | true =>
    simp only [UploadRequest.uploading, UploadRequest.transferring, UploadRequest.storing, started]
    rfl
  | false =>
    simp only [UploadRequest.uploading, UploadRequest.transferring, UploadRequest.storing, started]
    rfl

/-- A begin that is not admitted, or comes while a transfer is open, is refused, and no
transfer is open then. -/
theorem receive_begin_refused (sound : request.Sound sha256)
    (readable : (deviceText request.path).length ≤ vfsPathMax)
    (refused : device.transfer.active = true ∨ ¬ Admissible sha256 role device.store request) :
    ∃ left, device.receive sha256 role request.beginMessage = (false, ⟨.idle, left⟩) := by
  have decodable : decoded request.beginMessage = true := decide_eq_true readable
  have effect : FileTransfer.Effect sha256 device.transfer device.store (some role) false
      succeeding request.beginMessage (device.transfer.beginProcess sha256 device.store succeeding
        (some role) false (deviceText request.operationId) (deviceText request.path)
        request.data.length (deviceText request.expectedSha256)) :=
    FileTransfer.begin_effect _ _ _ _
  have taken : ∀ {target : CString} {expected : Digest} {replay : Bool},
      device.transfer.beginChecks (some role) false (deviceText request.operationId)
        (deviceText request.path) request.data.length (deviceText request.expectedSha256) =
        some (target, expected) →
      FileTransfer.beginMode sha256 device.store succeeding target request.data.length expected =
        some replay →
      device.store.fileExists (target.append fileTransferSuffix) = false → False := by
    intro target expected replay checked mode absent
    obtain ⟨inactive, rfl, resolves, fits⟩ := (beginChecks_iff sound device.transfer).mp checked
    have temporary : device.store.files (target.append fileTransferSuffix) = none :=
      Option.not_isSome_iff_eq_none.mp (by rw [← FileStore.fileExists, absent]; simp)
    rcases refused with active | inadmissible
    · rw [inactive] at active
      cases active
    · exact inadmissible ⟨target, replay, resolves, fits, temporary, beginMode_iff.mp mode⟩
  rw [Device.receive, decodable]
  simp only [UploadRequest.beginMessage, FileService.handle, if_true]
  generalize device.transfer.beginProcess sha256 device.store succeeding (some role) false
    (deviceText request.operationId) (deviceText request.path) request.data.length
    (deviceText request.expectedSha256) = result at effect
  cases effect with
  | refused _ refused => exact ⟨_, rfl⟩
  | blocked => exact ⟨_, rfl⟩
  | replays _ _ _ _ _ _ checked mode absent => exact (taken checked mode absent).elim
  | creates _ _ _ _ _ _ checked mode absent => exact (taken checked mode absent).elim

variable {index : Nat}

/-- There is data in a chunk. -/
theorem chunkData_length (inside : index < request.chunkCount) :
    0 < (request.chunkData index).length ∧
      (request.chunkData index).length ≤ fileTransferChunkBytes ∧
      index * fileChunkBytes + (request.chunkData index).length ≤ request.data.length := by
  simp only [UploadRequest.chunkCount, fileChunkBytes] at inside
  simp only [UploadRequest.chunkData, List.length_take, List.length_drop, fileChunkBytes,
    fileTransferChunkBytes]
  omega

/-- A chunk is what is taken next. -/
theorem taken_succ (request : UploadRequest) (index : Nat) :
    request.taken (index + 1) = request.taken index ++ request.chunkData index := by
  rw [UploadRequest.taken, Nat.succ_mul, List.take_add, UploadRequest.taken,
    UploadRequest.chunkData]

theorem taken_length (inside : index < request.chunkCount) :
    (request.taken index).length = index * fileChunkBytes := by
  simp only [UploadRequest.chunkCount, fileChunkBytes] at inside
  simp only [UploadRequest.taken, List.length_take, fileChunkBytes]
  omega

/-- After all chunks the data is taken. -/
theorem taken_chunkCount (request : UploadRequest) :
    request.taken request.chunkCount = request.data := by
  apply List.take_of_length_le
  simp only [UploadRequest.chunkCount, fileChunkBytes]
  omega

/-- The checks of a chunk of the open transfer. -/
theorem chunkChecks_eq {count : Nat} (inside : index < request.chunkCount) :
    (request.transferring sha256 target replay count).chunkChecks sha256 (some role) false
        (deviceText request.operationId) (request.chunkData index)
        (deviceText (sha256Hex sha256 (request.chunkData index))) =
      some (sha256 (request.chunkData index)) := by
  obtain ⟨inhabited, short, -⟩ := chunkData_length inside
  have present : (request.chunkData index).isEmpty = false := by
    cases stored : request.chunkData index with
    | nil => simp [stored] at inhabited
    | cons byte rest => rfl
  have small : decide ((request.chunkData index).length > fileTransferChunkBytes) = false :=
    decide_eq_false (Nat.not_lt.mpr short)
  simp [FileTransfer.chunkChecks, UploadRequest.transferring, present, small, chunkDigest,
    sha256Hex, hexDecode_hexdigest]

/-- The next chunk is taken. -/
theorem receive_chunk (inside : index < request.chunkCount) :
    (request.uploading sha256 store target replay index).receive sha256 role
        (request.chunkMessage sha256 index) =
      (true, request.uploading sha256 store target replay (index + 1)) := by
  obtain ⟨inhabited, short, fits⟩ := chunkData_length inside
  have length := taken_length inside
  have fresh : (request.transferring sha256 target replay index).isRetry
      (index * fileChunkBytes) (request.chunkData index)
      (sha256 (request.chunkData index)) = false := by
    cases index with
    | zero => rfl
    | succ index =>
      simp [FileTransfer.isRetry, UploadRequest.transferring, UploadRequest.lastTaken,
        fileChunkBytes]
  have next : (request.transferring sha256 target replay index).isNext (index * fileChunkBytes)
      (request.chunkData index) = true := by
    simp only [FileTransfer.isNext, UploadRequest.transferring, length, beq_self_eq_true,
      Bool.true_and, decide_eq_true_eq]
    omega
  have written : ¬ succeeding.written < (request.chunkData index).length := by
    have bound : fileTransferChunkBytes ≤ succeeding.written := by decide
    omega
  have took : (request.transferring sha256 target replay index).took (index * fileChunkBytes)
      (request.chunkData index) (sha256 (request.chunkData index)) =
      request.transferring sha256 target replay (index + 1) := by
    simp only [FileTransfer.took, UploadRequest.transferring, taken_succ, List.length_append]
    rfl
  have stored : (request.storing store target false index).write
      (target.append fileTransferSuffix) (request.chunkData index) =
      request.storing store target false (index + 1) := by
    simp [FileStore.write, UploadRequest.storing, taken_succ]
  have whole : (request.chunkData index).take succeeding.written = request.chunkData index :=
    List.take_of_length_le (Nat.not_lt.mp written)
  simp only [Device.receive, decoded, if_true, UploadRequest.chunkMessage, FileService.handle,
    FileTransfer.chunkProcess, UploadRequest.uploading, chunkChecks_eq inside, fresh, next, took,
    Bool.false_eq_true, if_false, Bool.not_true, written, whole]
  cases replay with
  | true => rfl
  | false =>
    have writes : (request.transferring sha256 target false index).replayOnly = false := rfl
    have temporary : (request.transferring sha256 target false index).temporaryPath =
        target.append fileTransferSuffix := rfl
    simp only [writes, temporary, stored, Bool.false_eq_true, if_false]

/-- A chunk that is sent again is not taken twice. -/
theorem receive_chunk_again (inside : index < request.chunkCount) :
    (request.uploading sha256 store target replay (index + 1)).receive sha256 role
        (request.chunkMessage sha256 index) =
      (true, request.uploading sha256 store target replay (index + 1)) := by
  have retry : (request.transferring sha256 target replay (index + 1)).isRetry
      (index * fileChunkBytes) (request.chunkData index) (sha256 (request.chunkData index)) =
      true := by
    simp [FileTransfer.isRetry, UploadRequest.transferring, UploadRequest.lastTaken]
  simp only [Device.receive, decoded, if_true, UploadRequest.chunkMessage, FileService.handle,
    FileTransfer.chunkProcess, UploadRequest.uploading, chunkChecks_eq inside, retry]

variable (role) in
/-- The complete of a transfer that took all chunks moves the file to the target. -/
theorem receive_complete (sound : request.Sound sha256)
    (admits : Admits sha256 role store request target replay) :
    (request.uploading sha256 store target replay request.chunkCount).receive sha256 role
        request.completeMessage =
      (true, ⟨.idle, request.finished store target replay⟩) := by
  have checked : (request.transferring sha256 target replay request.chunkCount).completeChecks
      sha256 (some role) false (deviceText request.operationId) request.data.length
      (deviceText request.expectedSha256) = true := by
    simp [FileTransfer.completeChecks, UploadRequest.transferring, taken_chunkCount, sound.digest]
  simp only [Device.receive, decoded, if_true, UploadRequest.completeMessage, FileService.handle,
    FileTransfer.completeProcess, UploadRequest.uploading, checked]
  cases replay with
  | true => rfl
  | false =>
    have absent : store.files target = none := admits.found
    have differ := FileTransfer.suffixed_ne target
    have distinct : (target.append fileTransferSuffix == target) = false := beq_false_of_ne differ
    have whole : request.data.take fileTransferMaxBytes = request.data :=
      List.take_of_length_le sound.small
    have there : Function.update store.files (target.append fileTransferSuffix)
        (some request.data) target = none := by
      rw [Function.update_of_ne differ.symm, absent]
    have moved : Function.update (Function.update (Function.update store.files
        (target.append fileTransferSuffix) (some request.data)) target (some request.data))
        (target.append fileTransferSuffix) none =
        Function.update (Function.update store.files target (some request.data))
          (target.append fileTransferSuffix) none := by
      rw [Function.update_comm differ, Function.update_idem]
    simp [UploadRequest.transferring, UploadRequest.storing, UploadRequest.finished,
      FileTransfer.closeFile, FileStore.close, FileStore.fileExists, FileStore.rename,
      taken_chunkCount, there, distinct, whole, moved, succeeding]

/-! ## Sending a message again -/

section Again

variable {message : FileRequest} {before after : Device}

/-- A message that the device takes twice as once: when it is answered it was taken, and
otherwise it was taken or not. -/
theorem request_again (first : before.receive sha256 role message = (true, after))
    (again : after.receive sha256 role message = (true, after))
    (start : device = before ∨ device = after) (fate : Fate) :
    (fate = .answered ∧ device.request sha256 role fate message = (true, after)) ∨
      (fate ≠ .answered ∧ ∃ left, device.request sha256 role fate message = (false, left) ∧
        (left = before ∨ left = after)) := by
  have received : device.receive sha256 role message = (true, after) := by
    rcases start with rfl | rfl
    · exact first
    · exact again
  cases fate with
  | lost => exact .inr ⟨by decide, device, rfl, start⟩
  | unanswered => exact .inr ⟨by decide, after, by rw [Device.request, received], .inr rfl⟩
  | answered => exact .inl ⟨rfl, received⟩

def Answered (fate : Nat → Fate) (retries attempt : Nat) : Prop :=
  ∃ count ≤ retries, fate (attempt + count) = .answered

/-- The first attempt is answered, or a later one. -/
theorem answered_succ {fate : Nat → Fate} {retries attempt : Nat}
    (missed : fate attempt ≠ .answered) :
    Answered fate (retries + 1) attempt ↔ Answered fate retries (attempt + 1) := by
  constructor
  · rintro ⟨count, bound, found⟩
    cases count with
    | zero => exact absurd found missed
    | succ count =>
      refine ⟨count, by omega, ?_⟩
      rw [Nat.add_assoc, Nat.add_comm 1 count]
      exact found
  · rintro ⟨count, bound, found⟩
    refine ⟨count + 1, by omega, ?_⟩
    rw [Nat.add_comm count 1, ← Nat.add_assoc]
    exact found

/-- Such a message is sent when one attempt is answered, and otherwise it was taken or not. -/
theorem send_again (first : before.receive sha256 role message = (true, after))
    (again : after.receive sha256 role message = (true, after)) (fate : Nat → Fate)
    (retries attempt : Nat) (start : device = before ∨ device = after) :
    (Answered fate retries attempt ∧
      device.send sha256 role message fate retries attempt = (true, after)) ∨
    (¬ Answered fate retries attempt ∧ ∃ left,
      device.send sha256 role message fate retries attempt = (false, left) ∧
        (left = before ∨ left = after)) := by
  induction retries generalizing attempt device with
  | zero =>
    rcases request_again first again start (fate attempt) with
      ⟨answered, requested⟩ | ⟨missed, left, requested, which⟩
    · exact .inl ⟨⟨0, Nat.le_refl 0, answered⟩, requested⟩
    · refine .inr ⟨?_, left, requested, which⟩
      rintro ⟨count, bound, found⟩
      rw [Nat.le_zero.mp bound] at found
      exact missed found
  | succ retries ih =>
    rcases request_again first again start (fate attempt) with
      ⟨answered, requested⟩ | ⟨missed, left, requested, which⟩
    · refine .inl ⟨⟨0, Nat.zero_le _, answered⟩, ?_⟩
      rw [Device.send, requested]
    · have sent : device.send sha256 role message fate (retries + 1) attempt =
          left.send sha256 role message fate retries (attempt + 1) := by
        rw [Device.send, requested]
      rw [sent, answered_succ missed]
      exact ih (attempt + 1) which

end Again

/-! ## The chunks -/

/-- A chunk gets through: the upload is not cancelled before it, and one of its attempts is
answered. -/
def Course.Passes (course : Course) (maxRetries index : Nat) : Prop :=
  course.cancelled index = false ∧ Answered (course.chunk index) maxRetries 0

variable (sha256 role maxRetries request course store) in
/-- The chunks from one on are all sent, or one of them does not get through and the
transfer is left open. -/
theorem sendChunks_spec (target : CString) (replay : Bool) (steps : Nat) :
    ∀ index, index + steps = request.chunkCount →
    ((∀ place, index ≤ place → place < request.chunkCount → course.Passes maxRetries place) ∧
      (request.uploading sha256 store target replay index).sendChunks sha256 role maxRetries
          request course (List.range' index steps) (request.taken index).length =
        (.ok request.data.length,
          request.uploading sha256 store target replay request.chunkCount)) ∨
    (¬ (∀ place, index ≤ place → place < request.chunkCount → course.Passes maxRetries place) ∧
      ∃ error count,
        (request.uploading sha256 store target replay index).sendChunks sha256 role maxRetries
            request course (List.range' index steps) (request.taken index).length =
          (.error error, request.uploading sha256 store target replay count)) := by
  induction steps with
  | zero =>
    intro index ended
    obtain rfl : index = request.chunkCount := ended
    refine .inl ⟨fun place from_ below => absurd below (by omega), ?_⟩
    rw [List.range'_zero, Device.sendChunks, taken_chunkCount]
  | succ steps ih =>
    intro index more
    have inside : index < request.chunkCount := by omega
    have first : (request.uploading sha256 store target replay index).receive sha256 role
        (request.chunkMessage sha256 index) =
        (true, request.uploading sha256 store target replay (index + 1)) := receive_chunk inside
    have sent := send_again first (receive_chunk_again inside) (course.chunk index) maxRetries 0
      (.inl rfl)
    rw [List.range'_succ, Device.sendChunks]
    cases cancelled : course.cancelled index with
    | true =>
      rw [if_pos rfl]
      refine .inr ⟨fun all => ?_, .cancelled, index, rfl⟩
      have passes := (all index (Nat.le_refl index) inside).1
      rw [cancelled] at passes
      cases passes
    | false =>
      rw [if_neg Bool.false_ne_true]
      rcases sent with ⟨answered, sent⟩ | ⟨missed, left, sent, which⟩
      · have taken : (request.taken index).length + (request.chunkData index).length =
            (request.taken (index + 1)).length := by
          rw [taken_succ, List.length_append]
        have passes : course.Passes maxRetries index := ⟨cancelled, answered⟩
        have split : (∀ place, index ≤ place → place < request.chunkCount →
            course.Passes maxRetries place) ↔
            ∀ place, index + 1 ≤ place → place < request.chunkCount →
              course.Passes maxRetries place := by
          constructor
          · exact fun all place from_ below => all place (by omega) below
          · intro all place from_ below
            rcases Nat.eq_or_lt_of_le from_ with rfl | later
            · exact passes
            · exact all place later below
        simp only [sent, taken, split]
        exact ih (index + 1) (by omega)
      · simp only [sent]
        refine .inr ⟨fun all => missed (all index (Nat.le_refl index) inside).2, ?_⟩
        rcases which with rfl | rfl
        · exact ⟨.retryExhausted, index, rfl⟩
        · exact ⟨.retryExhausted, index + 1, rfl⟩

/-- The course of an upload that was taken lets it end at the device: the begin is answered,
every chunk gets through, and the complete arrives. -/
structure Course.Delivers (course : Course) (maxRetries : Nat) (request : UploadRequest) :
    Prop where
  starting : course.starting = .answered
  chunks : ∀ place < request.chunkCount, course.Passes maxRetries place
  finishing : course.finishing ≠ .lost

/-- The ways an upload that the dashboard accepts can end. -/
inductive Outcome (sha256 : List UInt8 → Digest) (role : Role) (maxRetries : Nat)
    (request : UploadRequest) (course : Course) (device : Device) :
    Except UploadError TransferProgress × Device → Prop where
  | unheard (silent : course.starting = .lost ∨ vfsPathMax < (deviceText request.path).length) :
      Outcome sha256 role maxRetries request course device (.error .request, device)
  | refused (arrived : course.starting ≠ .lost)
      (readable : (deviceText request.path).length ≤ vfsPathMax)
      (refused : device.transfer.active = true ∨ ¬ Admissible sha256 role device.store request)
      (left : FileStore) :
      Outcome sha256 role maxRetries request course device (.error .request, ⟨.idle, left⟩)
  | stopped (target : CString) (replay : Bool) (arrived : course.starting ≠ .lost)
      (inactive : device.transfer.active = false)
      (admits : Admits sha256 role device.store request target replay)
      (undelivered : ¬ course.Delivers maxRetries request) (error : UploadError) (count : Nat) :
      Outcome sha256 role maxRetries request course device
        (.error error, request.uploading sha256 device.store target replay count)
  | unconfirmed (target : CString) (replay : Bool) (inactive : device.transfer.active = false)
      (admits : Admits sha256 role device.store request target replay)
      (delivered : course.Delivers maxRetries request) (missed : course.finishing = .unanswered)
      (error : UploadError) :
      Outcome sha256 role maxRetries request course device
        (.error error, ⟨.idle, request.finished device.store target replay⟩)
  | resolved (target : CString) (replay : Bool) (inactive : device.transfer.active = false)
      (admits : Admits sha256 role device.store request target replay)
      (delivered : course.Delivers maxRetries request)
      (confirmed : course.finishing = .answered) :
      Outcome sha256 role maxRetries request course device
        (.ok ⟨request.operationId, request.data.length, request.data.length, true⟩,
          ⟨.idle, request.finished device.store target replay⟩)

/-- A session without a transfer has a blank record. -/
def Settled (device : Device) : Prop := device.transfer.active = false → device.transfer = .idle

/-- A path that is too long for its field is not decoded. -/
theorem receive_undecoded (long : vfsPathMax < (deviceText request.path).length) :
    device.receive sha256 role request.beginMessage = (false, device) := by
  have unreadable : decoded request.beginMessage = false :=
    decide_eq_false (Nat.not_le.mpr long)
  rw [Device.receive, unreadable]
  rfl

/-- A begin that the device does not answer with OK ends the upload. -/
theorem upload_unbegun (accepted : request.accepted sha256 = true) (left : Device)
    (begun : device.request sha256 role course.starting request.beginMessage = (false, left)) :
    device.upload sha256 role maxRetries request course = (.error .request, left) := by
  simp only [UploadRequest.accepted, Bool.and_eq_true, beq_iff_eq] at accepted
  obtain ⟨valid, digest⟩ := accepted
  simp only [Device.upload, valid, digest, bne_self_eq_false, Bool.not_true, Bool.false_eq_true,
    if_false, begun]

/-- An upload goes on after a begin that is answered with OK. -/
theorem upload_begun (accepted : request.accepted sha256 = true) (begun : Device)
    (requested : device.request sha256 role course.starting request.beginMessage = (true, begun)) :
    device.upload sha256 role maxRetries request course =
      begun.uploadBegun sha256 role maxRetries request course := by
  simp only [UploadRequest.accepted, Bool.and_eq_true, beq_iff_eq] at accepted
  obtain ⟨valid, digest⟩ := accepted
  simp only [Device.upload, valid, digest, bne_self_eq_false, Bool.not_true, Bool.false_eq_true,
    if_false, requested]

variable (role maxRetries course) in
/-- Every upload that the dashboard accepts ends in one of these ways. -/
theorem upload_outcome (accepted : request.accepted sha256 = true) (settled : Settled device) :
    Outcome sha256 role maxRetries request course device
      (device.upload sha256 role maxRetries request course) := by
  have sound := UploadRequest.sound accepted
  by_cases silent : course.starting = .lost
  · rw [upload_unbegun accepted device (by rw [silent]; rfl)]
    exact .unheard (.inl silent)
  by_cases readable : (deviceText request.path).length ≤ vfsPathMax
  swap
  · have long : vfsPathMax < (deviceText request.path).length := Nat.not_le.mp readable
    rw [upload_unbegun accepted device]
    · exact .unheard (.inr long)
    · cases starting : course.starting with
      | lost => exact absurd starting silent
      | unanswered => rw [Device.request, receive_undecoded long]
      | answered => rw [Device.request, receive_undecoded long]
  by_cases refused : device.transfer.active = true ∨
      ¬ Admissible sha256 role device.store request
  · obtain ⟨left, received⟩ := receive_begin_refused sound readable refused
    rw [upload_unbegun accepted ⟨.idle, left⟩]
    · exact .refused silent readable refused left
    · cases starting : course.starting with
      | lost => exact absurd starting silent
      | unanswered => rw [Device.request, received]
      | answered => rw [Device.request, received]
  obtain ⟨idle, admissible⟩ := not_or.mp refused
  have inactive : device.transfer.active = false := Bool.eq_false_of_not_eq_true idle
  obtain ⟨target, replay, admits⟩ := not_not.mp admissible
  have received : device.receive sha256 role request.beginMessage =
      (true, request.uploading sha256 device.store target replay 0) := by
    have blank : device = ⟨.idle, device.store⟩ := by
      cases device with
      | mk transfer store => rw [show transfer = .idle from settled inactive]
    rw [blank]
    exact receive_begin sound admits
  cases starting : course.starting with
  | lost => exact absurd starting silent
  | unanswered =>
    rw [upload_unbegun accepted (request.uploading sha256 device.store target replay 0)]
    · refine .stopped target replay silent inactive admits (fun delivers => ?_) _ 0
      have answered := delivers.starting
      rw [starting] at answered
      cases answered
    · rw [starting, Device.request, received]
  | answered =>
    rw [upload_begun accepted (request.uploading sha256 device.store target replay 0)
      (by rw [starting, Device.request, received]), Device.uploadBegun]
    have all : (∀ place, 0 ≤ place → place < request.chunkCount →
        course.Passes maxRetries place) ↔
        ∀ place < request.chunkCount, course.Passes maxRetries place :=
      ⟨fun passes place => passes place (Nat.zero_le _), fun passes place _ => passes place⟩
    have none_ : (request.taken 0).length = 0 := by
      rw [UploadRequest.taken, Nat.zero_mul, List.take_zero]
      rfl
    have sent := sendChunks_spec sha256 role maxRetries request course device.store target replay
      request.chunkCount 0 (Nat.zero_add _)
    rw [all, none_, ← List.range_eq_range'] at sent
    rcases sent with ⟨passes, sent⟩ | ⟨missed, error, count, sent⟩
    · rw [sent]
      have completed := receive_complete role sound admits
      cases finishing : course.finishing with
      | lost =>
        refine .stopped target replay silent inactive admits (fun delivers => ?_) _ _
        exact delivers.finishing finishing
      | unanswered =>
        have delivers : course.Delivers maxRetries request :=
          ⟨starting, passes, by rw [finishing]; decide⟩
        simp only [Device.request, completed]
        exact .unconfirmed target replay inactive admits delivers finishing _
      | answered =>
        have delivers : course.Delivers maxRetries request :=
          ⟨starting, passes, by rw [finishing]; decide⟩
        simp only [Device.request, completed]
        exact .resolved target replay inactive admits delivers finishing
    · rw [sent]
      exact .stopped target replay silent inactive admits
        (fun delivers => missed delivers.chunks) error count

end Upload

end PoisonedOS.FileUpload
