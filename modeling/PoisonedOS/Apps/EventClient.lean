import PoisonedOS.Apps.Events

/-!
# The dashboard's side of structured events

The client checks every message, keeps the parts of the event whose messages are coming in,
and decodes the event when the last has come. An event is appended to the run where it
continues the sequence. `none` stands for an exception.

How the protobuf library decodes a text field is a parameter.
-/

namespace PoisonedOS.Apps

/-- `AppEventLevel`. -/
inductive AppEventLevel where
  | info
  | warning
  | error
deriving DecidableEq, Repr

/-- `AppEventKind`, of which the client decodes six. -/
inductive AppEventKind where
  | status
  | progress
  | log
  | warning
  | form
  | table
  | result
  | artifact
  | exit
deriving DecidableEq, Repr

/-- `AppEvent`. -/
structure AppEvent where
  runId : List Char
  eventId : List Char
  sequence : Nat
  timeMs : Nat
  level : AppEventLevel
  kind : AppEventKind
  message : List Char
  artifactIds : List (List Char) := []
  progressPercent : Option Nat := none
  schemaJson : Option (List Char) := none
  rowsJson : Option (List Char) := none
deriving DecidableEq, Repr

/-- `encoder.encode(text).byteLength`. -/
def byteLength (text : List Char) : Nat := (Unicode.utf8 text).length

/-- A text of 1 to 64 bytes. -/
def identityLength (text : List Char) : Bool := !text.isEmpty && byteLength text ≤ 64

/-- `Number.MAX_SAFE_INTEGER`. -/
def maxSafeInteger : Nat := 9007199254740991

/-- A text that is given has so many bytes at most. -/
def optionalWithin (text : Option (List Char)) (limit : Nat) : Bool :=
  match text with
  | none => true
  | some text => byteLength text ≤ limit

/-- `/^sha256:[0-9a-f]{64}$/`. -/
def isDigestId (id : List Char) : Bool :=
  id.take 7 == ['s', 'h', 'a', '2', '5', '6', ':'] && (id.drop 7).length == 64 &&
    (id.drop 7).all fun digit =>
      ('0' ≤ digit && digit ≤ '9') || ('a' ≤ digit && digit ≤ 'f')

/-- `appendAppEvent`. -/
def appendAppEvent (events : List AppEvent) (event : AppEvent) : Option (List AppEvent) :=
  if !identityLength event.runId || maxSafeInteger < event.timeMs ||
      1024 < byteLength event.message then none
  else if !identityLength event.eventId then none
  else if event.progressPercent.any fun percent => decide (100 < percent) then none
  else if !optionalWithin event.schemaJson 4096 || !optionalWithin event.rowsJson 8192 then none
  else
    let continues := match events.getLast? with
      | none => event.sequence == 0
      | some previous =>
        previous.runId == event.runId && event.sequence == previous.sequence + 1
    if !continues then none
    else if event.artifactIds.any fun id => !isDigestId id then none
    else some (events ++ [event])

/-- `PendingEvent`. -/
structure PendingEvent where
  key : List Char
  count : Nat
  next : Nat
  event : AppEventMessage
  message : List (List UInt8)
  schema : List (List UInt8)
  rows : List (List UInt8)

/-- `StructuredAppClient` with the run it has started. -/
structure StructuredAppClient where
  runId : List Char
  events : List AppEvent
  cancelled : Bool
  pendingEvent : Option PendingEvent

/-- `textDecoder.decode`: the decoder is fatal and leaves out a byte order mark. -/
def decodeText (bytes : List UInt8) : Option (List Char) :=
  (Unicode.decodeUtf8 bytes).map Unicode.dropMark

/-- `join`. -/
def joinParts (parts : List (List UInt8)) : Option (List Char) := decodeText parts.flatten

/-- The texts of an event that came in chunks. -/
structure Chunks where
  message : List Char
  schema : List Char
  rows : List Char

namespace StructuredAppClient

/-- `start`, on a client without a run. -/
def start (runId : List Char) : Option StructuredAppClient :=
  if runId.isEmpty then none else some ⟨runId, [], false, none⟩

/-- `event`. -/
def event (client : StructuredAppClient) (event : AppEvent) : Option StructuredAppClient :=
  if client.cancelled || event.runId != client.runId then none
  else (appendAppEvent client.events event).map fun events => { client with events }

variable (decodeString : List UInt8 → List Char)

/-- The name of a kind in the decoded message. -/
def kindCase (kind : PoisonAppEventKind) : List Char :=
  match kind with
  | .log _ _ => "log".toList
  | .progress _ _ => "progress".toList
  | .form _ => "form".toList
  | .table _ _ => "table".toList
  | .artifact _ _ _ _ => "artifact".toList
  | .result _ _ => "result".toList

/-- The key of the event that a message belongs to. -/
def eventKey (wire : AppEventMessage) : List Char :=
  let zero := [Char.ofNat 0]
  decodeString wire.appId.bytes ++ zero ++ decodeString wire.runId.bytes ++ zero ++
    decodeString wire.eventId.bytes ++ zero ++ Nat.toDigits 10 wire.sequence ++ zero ++
    kindCase wire.kind

/-- `validateChunkFields`, which throws or returns. -/
def chunkFieldsValid (wire : AppEventMessage) : Bool :=
  let message := wire.messageChunk.length
  let schema := wire.schemaJsonChunk.length
  let rows := wire.rowsJsonChunk.length
  match wire.kind with
  | .log _ _ | .result _ _ => !(message == 0 || schema != 0 || rows != 0)
  | .form _ => !(message != 0 || schema == 0 || rows != 0)
  | .table _ _ => !(message != 0 || (schema == 0) == (rows == 0))
  | .progress _ _ | .artifact _ _ _ _ =>
    !(wire.chunkCount != 1 || wire.chunkIndex != 0 || message != 0 || schema != 0 || rows != 0)

def levelOf (text : List Char) : AppEventLevel :=
  if text = "error".toList then .error else if text = "warning".toList then .warning else .info

/-- `decodeEvent`, at a time. -/
def decodeEvent (timeMs : Nat) (wire : AppEventMessage) (chunks : Option Chunks) :
    Option AppEvent :=
  let appId := decodeString wire.appId.bytes
  let runId := decodeString wire.runId.bytes
  let eventId := decodeString wire.eventId.bytes
  if wire.protocolVersion != appProtocolVersion || !identityLength appId ||
      !identityLength runId || !identityLength eventId then none
  else
    let text (chunked : Chunks → List Char) (field : CString) :=
      match chunks with
      | some chunks => chunked chunks
      | none => decodeString field.bytes
    let base (level : AppEventLevel) (kind : AppEventKind) (message : List Char) : AppEvent :=
      { runId, eventId, sequence := wire.sequence, timeMs, level, kind, message }
    some <| match wire.kind with
    | .log level message =>
      base (levelOf (decodeString level.bytes)) .log (text Chunks.message message)
    | .progress percent label =>
      { base .info .progress (decodeString label.bytes) with progressPercent := some percent }
    | .form schemaJson =>
      { base .info .form "Input requested".toList with
        schemaJson := some (text Chunks.schema schemaJson) }
    | .table schemaJson rowsJson =>
      { base .info .table "Table updated".toList with
        schemaJson := some (text Chunks.schema schemaJson)
        rowsJson := some (text Chunks.rows rowsJson) }
    | .artifact name _ sha256 _ =>
      { base .info .artifact (decodeString name.bytes) with
        artifactIds := ["sha256:".toList ++ decodeString sha256.bytes] }
    | .result success message =>
      base (if success then .info else .error) .result (text Chunks.message message)

/-- A part that is not empty is kept. -/
def addPart (parts : List (List UInt8)) (part : List UInt8) : List (List UInt8) :=
  if part.length = 0 then parts else parts ++ [part]

def PendingEvent.add (pending : PendingEvent) (wire : AppEventMessage) : PendingEvent :=
  { pending with
    message := addPart pending.message wire.messageChunk
    schema := addPart pending.schema wire.schemaJsonChunk
    rows := addPart pending.rows wire.rowsJsonChunk
    next := pending.next + 1 }

/-- `MAX_APP_CHUNKS`. -/
def maxAppChunks : Nat := 33

/-- `notification`, for a message with an application event; `now` gives the time when so many
events were appended. -/
def notification (now : Nat → Nat) (client : StructuredAppClient) (wire : AppEventMessage) :
    Option StructuredAppClient :=
  if wire.chunkCount = 0 then
    if wire.chunkIndex ≠ 0 ∨ wire.messageChunk.length ≠ 0 ∨ wire.schemaJsonChunk.length ≠ 0 ∨
        wire.rowsJsonChunk.length ≠ 0 then none
    else (decodeEvent decodeString (now client.events.length) wire none).bind client.event
  else if maxAppChunks < wire.chunkCount ∨ wire.chunkCount ≤ wire.chunkIndex ∨
      appChunkBytes < wire.messageChunk.length ∨ appChunkBytes < wire.schemaJsonChunk.length ∨
      appChunkBytes < wire.rowsJsonChunk.length then none
  else if !chunkFieldsValid wire then none
  else
    let key := eventKey decodeString wire
    let pendingEvent :=
      if wire.chunkIndex = 0 then some ⟨key, wire.chunkCount, 0, wire, [], [], []⟩
      else client.pendingEvent
    match pendingEvent with
    | none => none
    | some pending =>
      if pending.key ≠ key ∨ pending.count ≠ wire.chunkCount ∨ pending.next ≠ wire.chunkIndex then
        none
      else
        let added := PendingEvent.add pending wire
        if added.next = added.count then do
          let message ← joinParts added.message
          let schema ← joinParts added.schema
          let rows ← joinParts added.rows
          let event ← decodeEvent decodeString (now client.events.length) added.event
            (some ⟨message, schema, rows⟩)
          { client with pendingEvent := none }.event event
        else some { client with pendingEvent := some added }

/-- The messages of a publication arrive in order. A text that does not fit its field is copied
past the end of it, and nothing can be said of what follows. -/
def receive (now : Nat → Nat) (client : StructuredAppClient) (event : PoisonAppEvent) :
    Option StructuredAppClient :=
  if (sendEvent event).all AppEventMessage.fits then
    (sendEvent event).foldlM (notification decodeString now) client
  else none

end StructuredAppClient

/-- The text of a C string that holds UTF-8. -/
def textOf (value : CString) : List Char := (Unicode.decodeUtf8 value.bytes).getD []

def shown (timeMs : Nat) (event : PoisonAppEvent) : AppEvent :=
  let base (level : AppEventLevel) (kind : AppEventKind) (message : List Char) : AppEvent :=
    { runId := textOf event.runId, eventId := textOf event.eventId, sequence := event.sequence
      timeMs, level, kind, message }
  match event.kind with
  | .log level message => base (StructuredAppClient.levelOf (textOf level)) .log (textOf message)
  | .progress percent label =>
    { base .info .progress (textOf label) with progressPercent := some percent }
  | .form schemaJson =>
    { base .info .form "Input requested".toList with schemaJson := some (textOf schemaJson) }
  | .table schemaJson rowsJson =>
    { base .info .table "Table updated".toList with
      schemaJson := some (textOf schemaJson), rowsJson := some (textOf rowsJson) }
  | .artifact name _ sha256 _ =>
    { base .info .artifact (textOf name) with
      artifactIds := ["sha256:".toList ++ textOf sha256] }
  | .result success message =>
    base (if success then .info else .error) .result (textOf message)

end PoisonedOS.Apps
