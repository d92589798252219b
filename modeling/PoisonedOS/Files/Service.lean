import PoisonedOS.Vfs.Paths
import Mathlib.Logic.Function.Basic

/-!
# The file service

A session uploads a file in pieces. A begin names the target and opens a temporary
file beside it, chunks are appended to the temporary file and hashed, and a complete
compares the hash, closes the temporary file and renames it to the target. A begin for
a target that already holds the announced bytes starts a transfer that writes nothing.
Whatever is refused goes through one clean-up, which closes the temporary file, removes
the path the transfer names and forgets the transfer.

Any number of sessions share one storage. A file that is open is not removed. Renaming
copies the file and then removes the old one, and the copy stops without an error when
the card is full. What the storage answers is taken from the environment.
-/

namespace PoisonedOS

/-- `POISON_FILE_TRANSFER_MAX_BYTES`. -/
def fileTransferMaxBytes : Nat := 16 * 1024 * 1024

/-- `POISON_FILE_TRANSFER_CHUNK_BYTES`. -/
def fileTransferChunkBytes : Nat := 512

/-- `POISON_FILE_TRANSFER_SUFFIX`. -/
def fileTransferSuffix : CString := .literal ".poison-upload"

/-- The files of the storage by their paths, each spelled one way, and which are open. -/
structure FileStore where
  files : CString → Option (List UInt8)
  opened : CString → Bool

/-- The answers of the storage to the calls of one handler. -/
structure FileAnswers where
  /-- The existing target can be read. -/
  readable : Bool
  /-- The parent directories are there or are made. -/
  parentReady : Bool
  /-- The new temporary file can be opened. -/
  opened : Bool
  /-- The bytes of a chunk that are written. -/
  written : Nat
  synced : Bool
  closed : Bool
  /-- The copy of a renaming can be created. -/
  created : Bool
  /-- The bytes of the file that the copy gets. -/
  copied : Nat
  /-- Copying ends with an error. -/
  copyFailed : Bool
  /-- The old file of a renaming is removed. -/
  oldRemoved : Bool
  /-- The clean-up can remove the temporary file. -/
  removed : Bool

namespace FileStore

variable (store : FileStore) (path : CString)

/-- `storage_file_exists`. -/
def fileExists : Bool := (store.files path).isSome

/-- `storage_file_open` of a new file for writing, at a path where there is none. -/
def create : FileStore where
  files := Function.update store.files path (some [])
  opened := Function.update store.opened path true

/-- `storage_file_write` at the end of an open file. -/
def write (bytes : List UInt8) : FileStore :=
  { store with
    files := Function.update store.files path ((store.files path).map (· ++ bytes)) }

/-- `storage_file_close`. -/
def close : FileStore := { store with opened := Function.update store.opened path false }

/-- `storage_common_remove`: an open file stays. -/
def remove (removed : Bool) : FileStore :=
  if store.opened path || !removed then store
  else { store with files := Function.update store.files path none }

/-- `storage_common_rename` to a path where there is no file: whether it reports success,
and what it leaves. -/
def rename (old new : CString) (answers : FileAnswers) : Bool × FileStore :=
  match store.files old with
  | none => (false, store)
  | some content =>
    if old == new then (true, store)
    else if !answers.created then (false, store)
    else
      let copied : FileStore :=
        { store with
          files := Function.update store.files new (some (content.take answers.copied)) }
      if answers.copyFailed then (false, copied)
      else if !answers.oldRemoved then (false, copied)
      else (true, { copied with files := Function.update copied.files old none })

end FileStore

/-- The last chunk taken: `last_chunk_offset`, `last_chunk_size` and `last_chunk_sha256`. -/
structure LastChunk where
  offset : Nat
  size : Nat
  sha256 : Digest
deriving DecidableEq

/-- `RpcPoisonFiles`. The handle is open on the temporary file or there is none, and the
state of the hash is what was fed to it. -/
structure FileTransfer where
  file : Bool
  active : Bool
  replayOnly : Bool
  operationId : CString
  targetPath : CString
  temporaryPath : CString
  expectedSize : Nat
  receivedSize : Nat
  expectedSha256 : Digest
  lastChunk : Option LastChunk
  hashed : List UInt8
deriving DecidableEq

/-- `rpc_poison_files_operation_id_valid`. -/
def fileOperationIdValid (operationId : CString) : Bool :=
  !operationId.isEmpty && decide (operationId.length < 65) &&
    operationId.bytes.all fun byte =>
      isLower byte || isUpper byte || isDigit byte || byte == 45 || byte == 95 || byte == 46

/-- The value of a lower-case hexadecimal digit. -/
def hexValue (digit : UInt8) : UInt8 := if digit ≤ 57 then digit - 48 else digit - 97 + 10

/-- The loop of `rpc_poison_files_hex_decode` over pairs of digits. -/
def hexPairs : List UInt8 → Option (List UInt8)
  | [] => some []
  | [_] => none
  | high :: low :: rest =>
    if isLowerHex high && isLowerHex low then
      (hexPairs rest).map fun output =>
        (hexValue high <<< (4 : UInt8) ||| hexValue low) :: output
    else none

/-- `rpc_poison_files_hex_decode`. -/
def hexDecode (input : CString) : Option Digest :=
  if input.length ≠ 64 then none
  else
    match hexPairs input.bytes with
    | none => none
    | some output => if sized : output.length = 32 then some ⟨output, sized⟩ else none

/-- `rpc_poison_files_chunk_digest_valid`: the digest it writes. -/
def chunkDigest (sha256 : List UInt8 → Digest) (data : List UInt8) (expected : CString) :
    Option Digest :=
  if hexDecode expected = some (sha256 data) then some (sha256 data) else none

/-- `rpc_poison_files_existing_matches`. A file that is open elsewhere does not match. -/
def existingMatches (sha256 : List UInt8 → Digest) (store : FileStore) (path : CString)
    (expectedSize : Nat) (expected : Digest) (answers : FileAnswers) : Bool :=
  match store.files path with
  | none => false
  | some content =>
    answers.readable && !store.opened path && content.length == expectedSize &&
      sha256 content == expected

namespace FileTransfer

/-- The record `memset` leaves. -/
def idle : FileTransfer where
  file := false
  active := false
  replayOnly := false
  operationId := .literal ""
  targetPath := .literal ""
  temporaryPath := .literal ""
  expectedSize := 0
  receivedSize := 0
  expectedSha256 := .zero _
  lastChunk := none
  hashed := []

variable (sha256 : List UInt8 → Digest) (transfer : FileTransfer) (store : FileStore)
  (answers : FileAnswers)

/-- The handle is closed and freed. -/
def closeFile : FileStore := if transfer.file then store.close transfer.temporaryPath else store

/-- `storage_common_remove` of the temporary path when one is named. -/
def removeTemporary : FileStore :=
  if transfer.temporaryPath.isEmpty then store
  else store.remove transfer.temporaryPath answers.removed

/-- `rpc_poison_files_reset` with `remove_temporary` set, as every caller sets it. -/
def reset : FileTransfer × FileStore :=
  (idle, transfer.removeTemporary (transfer.closeFile store) answers)

/-- `rpc_poison_files_secure_role` and the checks of a begin up to the length of the
path: the backing path and the announced digest. -/
def beginChecks (role : Option Role) (hasNext : Bool) (operationId path : CString) (size : Nat)
    (digest : CString) : Option (CString × Digest) :=
  match role with
  | none => none
  | some role =>
    if hasNext || transfer.active || !fileOperationIdValid operationId ||
        decide (size > fileTransferMaxBytes) then
      none
    else
      match hexDecode digest, vfsResolvePath path role .write with
      | some expected, some resolved =>
        if resolved.backingPath.length + fileTransferSuffix.length ≤ vfsPathMax then
          some (resolved.backingPath, expected)
        else none
      | _, _ => none

/-- What a begin does after its checks until it names the paths: whether the transfer
only replays, or `none` when the begin is refused before. -/
def beginMode (target : CString) (size : Nat) (expected : Digest) : Option Bool :=
  if store.fileExists target then
    if existingMatches sha256 store target size expected answers then some true else none
  else if answers.parentReady then some false
  else none

/-- The transfer once a begin has named its paths. -/
def named (operationId target : CString) : FileTransfer :=
  { transfer with
    operationId := operationId
    targetPath := target
    temporaryPath := target.append fileTransferSuffix }

/-- The fields an accepted begin sets. -/
def started (replayOnly : Bool) (size : Nat) (expected : Digest) : FileTransfer :=
  { transfer with
    file := !replayOnly
    active := true
    replayOnly := replayOnly
    expectedSize := size
    expectedSha256 := expected
    hashed := [] }

/-- `rpc_poison_files_begin_process`: whether it answers OK, and what it leaves. -/
def beginProcess (role : Option Role) (hasNext : Bool) (operationId path : CString) (size : Nat)
    (digest : CString) : Bool × FileTransfer × FileStore :=
  match transfer.beginChecks role hasNext operationId path size digest with
  | none => (false, transfer.reset store answers)
  | some (target, expected) =>
    match beginMode sha256 store answers target size expected with
    | none => (false, transfer.reset store answers)
    | some replayOnly =>
      let named := transfer.named operationId target
      if store.fileExists named.temporaryPath then (false, named.reset store answers)
      else if replayOnly then (true, named.started true size expected, store)
      else if !answers.opened then (false, named.reset store answers)
      else (true, named.started false size expected, store.create named.temporaryPath)

def chunkChecks (role : Option Role) (hasNext : Bool) (operationId : CString)
    (data : List UInt8) (digest : CString) : Option Digest :=
  if hasNext || !transfer.active || role.isNone || operationId != transfer.operationId ||
      data.isEmpty || decide (data.length > fileTransferChunkBytes) then
    none
  else chunkDigest sha256 data digest

/-- `retry`: the chunk is the last one again. -/
def isRetry (offset : Nat) (data : List UInt8) (digest : Digest) : Bool :=
  transfer.lastChunk == some ⟨offset, data.length, digest⟩

/-- The chunk is the next one and still fits. -/
def isNext (offset : Nat) (data : List UInt8) : Bool :=
  offset == transfer.receivedSize &&
    decide (data.length ≤ transfer.expectedSize - transfer.receivedSize)

/-- The transfer with a chunk taken. -/
def took (offset : Nat) (data : List UInt8) (digest : Digest) : FileTransfer :=
  { transfer with
    receivedSize := transfer.receivedSize + data.length
    lastChunk := some ⟨offset, data.length, digest⟩
    hashed := transfer.hashed ++ data }

/-- `rpc_poison_files_chunk_process`: whether it answers OK, and what it leaves. -/
def chunkProcess (role : Option Role) (hasNext : Bool) (operationId : CString) (offset : Nat)
    (data : List UInt8) (digest : CString) : Bool × FileTransfer × FileStore :=
  match transfer.chunkChecks sha256 role hasNext operationId data digest with
  | none => (false, transfer.reset store answers)
  | some chunkDigest =>
    if transfer.isRetry offset data chunkDigest then (true, transfer, store)
    else if !transfer.isNext offset data then (false, transfer.reset store answers)
    else if transfer.replayOnly then (true, transfer.took offset data chunkDigest, store)
    else
      let written := store.write transfer.temporaryPath (data.take answers.written)
      if answers.written < data.length then (false, transfer.reset written answers)
      else (true, transfer.took offset data chunkDigest, written)

def completeChecks (role : Option Role) (hasNext : Bool) (operationId : CString) (size : Nat)
    (digest : CString) : Bool :=
  !hasNext && transfer.active && role.isSome && operationId == transfer.operationId &&
    size == transfer.expectedSize && transfer.receivedSize == transfer.expectedSize &&
    hexDecode digest == some transfer.expectedSha256 &&
    sha256 transfer.hashed == transfer.expectedSha256

/-- The last part of `rpc_poison_files_complete_process` when it is not valid. -/
def abandoned : Bool × FileTransfer × FileStore :=
  (false, idle, transfer.removeTemporary store answers)

/-- `rpc_poison_files_complete_process`: whether it answers OK, and what it leaves. -/
def completeProcess (role : Option Role) (hasNext : Bool) (operationId : CString) (size : Nat)
    (digest : CString) : Bool × FileTransfer × FileStore :=
  let closed := transfer.closeFile store
  if !transfer.completeChecks sha256 role hasNext operationId size digest then
    transfer.abandoned closed answers
  else if transfer.replayOnly then (true, idle, closed)
  else if !(answers.synced && answers.closed) || closed.fileExists transfer.targetPath then
    transfer.abandoned closed answers
  else
    match closed.rename transfer.temporaryPath transfer.targetPath answers with
    | (true, renamed) => (true, idle, renamed)
    | (false, renamed) => transfer.abandoned renamed answers

end FileTransfer

/-- One entry of a directory, as the storage lists it. -/
structure DirectoryEntry where
  name : CString
  size : Nat
  directory : Bool
  /-- The timestamp, when the storage has one. -/
  timestamp : Option Nat
deriving DecidableEq

/-- `PB_Poison_FileStat`. -/
structure FileStat where
  path : CString
  size : Nat
  modifiedAtMs : Nat
  directory : Bool
deriving DecidableEq

/-- The loop of `rpc_poison_files_cursor_parse`, where `size_t` has 32 bits. -/
def cursorDigits : List UInt8 → Nat → Option Nat
  | [], value => some value
  | byte :: rest, value =>
    if !isDigit byte || decide (value > (0xFFFFFFFF - (byte - 48).toNat) / 10) then none
    else cursorDigits rest (value * 10 + (byte - 48).toNat)

/-- `rpc_poison_files_cursor_parse`. -/
def fileCursorParse (cursor : CString) : Option Nat := cursorDigits cursor.bytes 0

/-- The logical path of an entry. -/
def entryPath (base name : CString) : CString :=
  if base.length == 1 then base.append name else (base.append (.literal "/")).append name

/-- One entry of the reply. -/
def fileStat (base backing : CString) (entry : DirectoryEntry) : FileStat where
  path := entryPath base entry.name
  size := entry.size
  modifiedAtMs :=
    if backing.length + 1 + entry.name.length ≤ vfsPathMax then
      (entry.timestamp.map (· * 1000)).getD 0
    else 0
  directory := entry.directory

/-- `rpc_poison_files_list_process`: the entries it sends and the next cursor, or `none`
for an error. -/
def listProcess (role : Option Role) (hasNext : Bool) (path cursor : CString) (pageSize : Nat)
    (directory : Option (List DirectoryEntry)) : Option (List FileStat × Option Nat) :=
  let pageSize := if pageSize == 0 then 16 else pageSize
  match role, fileCursorParse cursor, directory with
  | some role, some offset, some entries =>
    if hasNext || decide (pageSize > 16) then none
    else
      match vfsResolvePath path role .read with
      | none => none
      | some resolved =>
        let page := ((entries.drop offset).take (pageSize + 1)).map
          (fileStat path resolved.backingPath)
        if page.any (·.path.length > vfsPathMax) then none
        else
          let sent := page.take pageSize
          some (sent, if page.length > pageSize then some (offset + sent.length) else none)
  | _, _, _ => none

/-- The requests of the service. -/
inductive FileRequest where
  | list (path cursor : CString) (pageSize : Nat) (directory : Option (List DirectoryEntry))
  | transferBegin (operationId path : CString) (size : Nat) (sha256 : CString)
  | transferChunk (operationId : CString) (offset : Nat) (data : List UInt8) (sha256 : CString)
  | transferComplete (operationId : CString) (size : Nat) (sha256 : CString)

/-- What happens to the service: a session sends a request, with the role its secure
dispatch shows, or a session ends. -/
inductive FileEvent where
  | request (session : Nat) (role : Option Role) (hasNext : Bool) (request : FileRequest)
    (answers : FileAnswers)
  | ended (session : Nat) (answers : FileAnswers)

/-- The session an event is of. -/
def FileEvent.session : FileEvent → Nat
  | .request session _ _ _ _ => session
  | .ended session _ => session

/-- The transfers of all sessions and the storage they share. -/
structure FileService where
  sessions : Nat → FileTransfer
  store : FileStore

namespace FileService

variable (sha256 : List UInt8 → Digest) (service : FileService)

def init (files : CString → Option (List UInt8)) : FileService where
  sessions := fun _ => .idle
  store := ⟨files, fun _ => false⟩

/-- The handler of a request on the transfer of its session: whether it answers OK, and
what it leaves. -/
def handle (transfer : FileTransfer) (store : FileStore) (role : Option Role) (hasNext : Bool)
    (answers : FileAnswers) : FileRequest → Bool × FileTransfer × FileStore
  | .list path cursor pageSize directory =>
    ((listProcess role hasNext path cursor pageSize directory).isSome, transfer, store)
  | .transferBegin operationId path size digest =>
    transfer.beginProcess sha256 store answers role hasNext operationId path size digest
  | .transferChunk operationId offset data digest =>
    transfer.chunkProcess sha256 store answers role hasNext operationId offset data digest
  | .transferComplete operationId size digest =>
    transfer.completeProcess sha256 store answers role hasNext operationId size digest

/-- One event, on the transfer of its session. An ended session is reset. -/
def outcome (event : FileEvent) : Bool × FileTransfer × FileStore :=
  let transfer := service.sessions event.session
  match event with
  | .request _ role hasNext request answers =>
    handle sha256 transfer service.store role hasNext answers request
  | .ended _ answers => (true, transfer.reset service.store answers)

/-- The service after one event. -/
def step (event : FileEvent) : FileService :=
  let (_, transfer, store) := service.outcome sha256 event
  { sessions := Function.update service.sessions event.session transfer
    store }

end FileService

end PoisonedOS
