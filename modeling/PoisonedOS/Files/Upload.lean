import PoisonedOS.Files.Effects
import PoisonedOS.Archive.ContentDigest

/-!
# Uploading a file

The dashboard uploads a file with a begin, one chunk after the other and a complete. A
chunk that is not answered with OK is sent again a few times; a begin and a complete are
not. When the upload is cancelled or gives up, it just stops: there is no message that
tells the device.

A request may be lost on its way, or be handled with its answer lost. What becomes of each
request is the course of the upload.
-/

namespace PoisonedOS.FileUpload

open ContentDigest (deviceText)

/-- The characters of a literal. -/
def chars (literal : String) : List Char := literal.toList

/-- `FILE_CHUNK_BYTES`. -/
def fileChunkBytes : Nat := 512

/-- The largest upload. -/
def uploadMaxBytes : Nat := 16 * 1024 * 1024

/-- What `upload` is called with. -/
structure UploadRequest where
  operationId : List Char
  path : List Char
  data : List UInt8
  expectedSha256 : List Char

/-- `TransferProgress`. -/
structure TransferProgress where
  operationId : List Char
  sentBytes : Nat
  totalBytes : Nat
  acknowledged : Bool
deriving DecidableEq

/-- The codes of `FileTransferError`, and the error of a request that is not retried. -/
inductive UploadError where
  | invalid
  | checksum
  | cancelled
  | retryExhausted
  | request
deriving DecidableEq

/-- What becomes of a request: it is lost, it is handled and its answer is lost, or its
answer arrives. -/
inductive Fate where
  | lost
  | unanswered
  | answered
deriving DecidableEq

/-- What becomes of every request of an upload, and before which chunks it is found
cancelled. -/
structure Course where
  starting : Fate
  chunk : Nat → Nat → Fate
  finishing : Fate
  cancelled : Nat → Bool

/-- No request and no answer is lost, and nobody cancels. -/
def undisturbed : Course where
  starting := .answered
  chunk _ _ := .answered
  finishing := .answered
  cancelled _ := false

/-! ## What the dashboard accepts -/

/-- A letter of an operation id. -/
def operationIdLetter (letter : Char) : Bool :=
  ('A' ≤ letter && letter ≤ 'Z') || ('a' ≤ letter && letter ≤ 'z') ||
    ('0' ≤ letter && letter ≤ '9') || letter == '.' || letter == '_' || letter == '-'

/-- `/^[A-Za-z0-9._-]{1,64}$/`. -/
def operationIdAccepted (operationId : List Char) : Bool :=
  !operationId.isEmpty && decide (operationId.length ≤ 64) && operationId.all operationIdLetter

/-- The directories a path may begin with. -/
def pathRoots : List (List Char) :=
  [chars "/config", chars "/profiles", chars "/apps", chars "/scripts", chars "/workloads",
    chars "/cases", chars "/evidence", chars "/lessons", chars "/exports"]

/-- A character that may stand within a segment of a path. -/
def segmentLetter (letter : Char) : Bool :=
  letter != '/' && letter != '\\' && letter.toNat != 0

/-- A segment of a path: it may begin with one dot, when another character than a dot
follows. -/
def segmentAccepted : List Char → Bool
  | [] => false
  | first :: rest =>
    if first == '.' then
      match rest with
      | [] => false
      | second :: _ => second != '.' && rest.all segmentLetter
    else segmentLetter first && rest.all segmentLetter

/-- What follows the first directory: nothing, or segments that each follow a slash. -/
def segmentsAccepted (text : List Char) : Bool :=
  match text with
  | [] => true
  | first :: rest => first == '/' && (rest.splitOn '/').all segmentAccepted

/-- The expression that `upload` holds the path against. -/
def pathAccepted (path : List Char) : Bool :=
  pathRoots.any fun root => root.isPrefixOf path && segmentsAccepted (path.drop root.length)

/-- `/^[0-9a-f]{64}$/`. -/
def digestAccepted (digest : List Char) : Bool :=
  digest.length == 64 &&
    digest.all fun letter =>
      ('0' ≤ letter && letter ≤ '9') || ('a' ≤ letter && letter ≤ 'f')

/-- The first check of `upload`. -/
def UploadRequest.valid (request : UploadRequest) : Bool :=
  operationIdAccepted request.operationId && pathAccepted request.path &&
    decide ((Unicode.utf16 request.path).length ≤ 256) &&
    decide (request.data.length ≤ uploadMaxBytes) && digestAccepted request.expectedSha256

section Upload

variable (sha256 : List UInt8 → Digest)

/-- `sha256Hex`. -/
def sha256Hex (data : List UInt8) : List Char := PackageBuilder.hexdigest (sha256 data).bytes

/-- The request passes both checks of `upload`. -/
def UploadRequest.accepted (request : UploadRequest) : Bool :=
  request.valid && sha256Hex sha256 request.data == request.expectedSha256

/-! ## The messages -/

/-- The begin of an upload. -/
def UploadRequest.beginMessage (request : UploadRequest) : FileRequest :=
  .transferBegin (deviceText request.operationId) (deviceText request.path)
    request.data.length (deviceText request.expectedSha256)

/-- The data of one chunk. -/
def UploadRequest.chunkData (request : UploadRequest) (index : Nat) : List UInt8 :=
  (request.data.drop (index * fileChunkBytes)).take fileChunkBytes

/-- One chunk. -/
def UploadRequest.chunkMessage (request : UploadRequest) (index : Nat) : FileRequest :=
  .transferChunk (deviceText request.operationId) (index * fileChunkBytes)
    (request.chunkData index) (deviceText (sha256Hex sha256 (request.chunkData index)))

/-- The complete of an upload. -/
def UploadRequest.completeMessage (request : UploadRequest) : FileRequest :=
  .transferComplete (deviceText request.operationId) request.data.length
    (deviceText request.expectedSha256)

/-- The chunks that begin before the end of the data. -/
def UploadRequest.chunkCount (request : UploadRequest) : Nat :=
  (request.data.length + (fileChunkBytes - 1)) / fileChunkBytes

/-! ## The device -/

/-- The transfer of the session, and the storage. -/
structure Device where
  transfer : FileTransfer
  store : FileStore

/-- The answers of a storage whose calls succeed. -/
def succeeding : FileAnswers where
  readable := true
  parentReady := true
  opened := true
  written := fileTransferMaxBytes
  synced := true
  closed := true
  created := true
  copied := fileTransferMaxBytes
  copyFailed := false
  oldRemoved := true
  removed := true

/-- The device can decode the message: a path must fit its field. -/
def decoded : FileRequest → Bool
  | .transferBegin _ path _ _ => decide (path.length ≤ vfsPathMax)
  | _ => true

variable (role : Role)

/-- The device gets a message: whether it answers OK, and what it is then. -/
def Device.receive (device : Device) (message : FileRequest) : Bool × Device :=
  if decoded message then
    let (valid, transfer, store) :=
      FileService.handle sha256 device.transfer device.store (some role) false succeeding message
    (valid, ⟨transfer, store⟩)
  else (false, device)

/-- `request`, with what becomes of the message: whether the dashboard gets an OK, and what
the device is then. -/
def Device.request (device : Device) (fate : Fate) (message : FileRequest) : Bool × Device :=
  match fate with
  | .lost => (false, device)
  | .unanswered => (false, (device.receive sha256 role message).2)
  | .answered => device.receive sha256 role message

/-! ## `upload` -/

/-- The inner loop of `upload`: a message is sent until it is answered with OK, at most
`retries` times again. -/
def Device.send (message : FileRequest) (fate : Nat → Fate) :
    (retries attempt : Nat) → Device → Bool × Device
  | 0, attempt, device => device.request sha256 role (fate attempt) message
  | retries + 1, attempt, device =>
    match device.request sha256 role (fate attempt) message with
    | (true, device) => (true, device)
    | (false, device) => send message fate retries (attempt + 1) device

variable (maxRetries : Nat) (request : UploadRequest) (course : Course)

/-- The loop of `upload` through some of the chunks, with the bytes sent before. -/
def Device.sendChunks : List Nat → Nat → Device → Except UploadError Nat × Device
  | [], sentBytes, device => (.ok sentBytes, device)
  | index :: rest, sentBytes, device =>
    if course.cancelled index then (.error .cancelled, device)
    else
      match device.send sha256 role (request.chunkMessage sha256 index) (course.chunk index)
          maxRetries 0 with
      | (false, device) => (.error .retryExhausted, device)
      | (true, device) =>
        device.sendChunks rest (sentBytes + (request.chunkData index).length)

/-- `upload` after its begin: the chunks and the complete. -/
def Device.uploadBegun (device : Device) : Except UploadError TransferProgress × Device :=
  match device.sendChunks sha256 role maxRetries request course
      (List.range request.chunkCount) 0 with
  | (.error error, device) => (.error error, device)
  | (.ok sentBytes, device) =>
    match device.request sha256 role course.finishing request.completeMessage with
    | (false, device) => (.error .request, device)
    | (true, device) => (.ok ⟨request.operationId, sentBytes, request.data.length, true⟩, device)

/-- `upload`. -/
def Device.upload (device : Device) : Except UploadError TransferProgress × Device :=
  if !request.valid then (.error .invalid, device)
  else if sha256Hex sha256 request.data != request.expectedSha256 then (.error .checksum, device)
  else
    match device.request sha256 role course.starting request.beginMessage with
    | (false, device) => (.error .request, device)
    | (true, device) => device.uploadBegun sha256 role maxRetries request course

/-- The upload resolves. -/
def Device.resolves (device : Device) : Bool :=
  (device.upload sha256 role maxRetries request course).1.isOk

/-- The device after the upload. -/
def Device.after (device : Device) : Device :=
  (device.upload sha256 role maxRetries request course).2

/-- The devices that uploads lead to, from any files. Between uploads other services
change the files that are not open. -/
inductive Reached : Device → Prop where
  | fresh (files : CString → Option (List UInt8)) : Reached ⟨.idle, ⟨files, fun _ => false⟩⟩
  | uploaded {device : Device} (reached : Reached device) (request : UploadRequest)
      (course : Course) : Reached (device.after sha256 role maxRetries request course)
  | changed {device : Device} (reached : Reached device)
      (files : CString → Option (List UInt8))
      (kept : ∀ path, device.store.opened path = true → files path = device.store.files path) :
      Reached ⟨device.transfer, { device.store with files := files }⟩

end Upload

end PoisonedOS.FileUpload
