import PoisonedOS.Apps.Commands
import PoisonedOS.Library.Unicode

/-!
# Events of structured applications

The running application publishes events in their order. The session that subscribed sends
each as messages with up to 384 bytes of text, and the dashboard puts the messages of one
event together again and appends it to the events of its run.

The device's texts are C strings; the dashboard's are lists of code points.
-/

namespace PoisonedOS.Apps

/-! ## The service -/

/-- `POISON_APP_MAX_TEXT`. -/
def poisonAppMaxText : Nat := 128

/-- `POISON_APP_MAX_MESSAGE`. -/
def poisonAppMaxMessage : Nat := 1025

/-- `PoisonAppEventKind`, with the fields of `PoisonAppEvent` that each kind uses. -/
inductive PoisonAppEventKind where
  | log (level message : CString)
  | progress (percent : Nat) (label : CString)
  | form (schemaJson : CString)
  | table (schemaJson rowsJson : CString)
  | artifact (name path sha256 : CString) (size : Nat)
  | result (success : Bool) (message : CString)
deriving DecidableEq

/-- `PoisonAppEvent`. -/
structure PoisonAppEvent where
  appId : CString
  runId : CString
  eventId : CString
  sequence : Nat
  kind : PoisonAppEventKind
deriving DecidableEq

/-- `PoisonAppRun`. -/
structure PoisonAppRun where
  appId : CString
  runId : CString
  nextSequence : Nat
  active : Bool
  cancelled : Bool
deriving DecidableEq

/-- `bounded_text`. -/
def boundedText (value : CString) (capacity : Nat) : Bool :=
  !value.isEmpty && value.length < capacity

/-- `poison_app_digest_is_valid`. -/
def digestIsValid (value : CString) : Bool :=
  value.length == 64 && value.bytes.all isLowerHex

/-- `poison_app_artifact_path_is_valid`. -/
def artifactPathIsValid (value : CString) : Bool :=
  boundedText value 257 && value.startsWith (CString.literal "/ext/") &&
    !value.contains (CString.literal "//") && !value.contains (CString.literal "/../") &&
    !value.endsWith (CString.literal "/..")

/-- `poison_app_event_is_typed`. -/
def eventIsTyped (event : PoisonAppEvent) : Bool :=
  boundedText event.eventId poisonAppMaxText &&
    match event.kind with
    | .log level message => boundedText level 17 && boundedText message poisonAppMaxMessage
    | .progress percent label => percent ≤ 100 && boundedText label 129
    | .form schemaJson => boundedText schemaJson 4097
    | .table schemaJson rowsJson => boundedText schemaJson 4097 && boundedText rowsJson 8193
    | .artifact name path sha256 _ =>
      boundedText name 129 && artifactPathIsValid path && digestIsValid sha256
    | .result _ message => boundedText message poisonAppMaxMessage

/-- `poison_app_run_start` on a run that is not active. -/
def runStart (appId runId : CString) : Option PoisonAppRun :=
  if !boundedText appId poisonAppMaxText || !boundedText runId poisonAppMaxText then none
  else some ⟨appId, runId, 0, true, false⟩

/-- The number of values of a `uint64_t`. -/
def sequenceValues : Nat := 18446744073709551616

/-- `poison_app_accept_event`. The sequence is a `uint64_t`. -/
def acceptEvent (run : PoisonAppRun) (event : PoisonAppEvent) : Option PoisonAppRun :=
  if !run.active || run.cancelled || run.appId != event.appId || run.runId != event.runId ||
      event.sequence != run.nextSequence then none
  else some { run with nextSequence := (run.nextSequence + 1) % sequenceValues }

/-- `poison_app_publish_event`: the run after an event that is accepted. -/
def publishEvent (run : PoisonAppRun) (event : PoisonAppEvent) : Option PoisonAppRun :=
  if eventIsTyped event then acceptEvent run event else none

/-! ## The session -/

/-- `PB_Poison_AppEvent`. -/
structure AppEventMessage where
  appId : CString
  runId : CString
  eventId : CString
  sequence : Nat
  protocolVersion : Nat
  chunkIndex : Nat
  chunkCount : Nat
  kind : PoisonAppEventKind
  messageChunk : List UInt8
  schemaJsonChunk : List UInt8
  rowsJsonChunk : List UInt8

/-- The texts of a kind fit their fields. -/
def kindFits (kind : PoisonAppEventKind) : Bool :=
  match kind with
  | .log level message => level.length ≤ 16 && message.length ≤ 1024
  | .progress _ label => label.length ≤ 128
  | .form schemaJson => schemaJson.length ≤ 4096
  | .table schemaJson rowsJson => schemaJson.length ≤ 4096 && rowsJson.length ≤ 8192
  | .artifact name path sha256 _ =>
    name.length ≤ 128 && path.length ≤ 256 && sha256.length ≤ 64
  | .result _ message => message.length ≤ 1024

def AppEventMessage.fits (message : AppEventMessage) : Bool :=
  (message.appId.length ≤ 64 && message.runId.length ≤ 64 && message.eventId.length ≤ 64) &&
    (message.messageChunk.length ≤ appChunkBytes &&
      message.schemaJsonChunk.length ≤ appChunkBytes &&
      message.rowsJsonChunk.length ≤ appChunkBytes) &&
    kindFits message.kind

/-- `rpc_poison_app_event_base`, with a kind. -/
def eventBase (event : PoisonAppEvent) (kind : PoisonAppEventKind)
    (chunkIndex chunkCount : Nat) : AppEventMessage where
  appId := event.appId
  runId := event.runId
  eventId := event.eventId
  sequence := event.sequence
  protocolVersion := appProtocolVersion
  chunkIndex := chunkIndex
  chunkCount := chunkCount
  kind := kind
  messageChunk := []
  schemaJsonChunk := []
  rowsJsonChunk := []

/-- `rpc_poison_app_chunk_count`. -/
def eventChunkCount (length : Nat) : Nat := Slices.count appChunkBytes length

/-- `rpc_poison_app_copy_chunk`. -/
def copyChunk (source : CString) (index : Nat) : List UInt8 :=
  Slices.slice appChunkBytes source.bytes index

/-- `rpc_poison_app_send_event`, with `rpc_poison_app_send_text_events`: the number of messages
of an event. -/
def eventMessages (kind : PoisonAppEventKind) : Nat :=
  match kind with
  | .log _ message => eventChunkCount message.length
  | .progress _ _ => 1
  | .form schemaJson => eventChunkCount schemaJson.length
  | .table schemaJson rowsJson =>
    eventChunkCount schemaJson.length + eventChunkCount rowsJson.length
  | .artifact _ _ _ _ => 1
  | .result _ message => eventChunkCount message.length

/-- The message at a position. The fields that are not written stay zero. -/
def eventMessage (event : PoisonAppEvent) (index : Nat) : AppEventMessage :=
  let count := eventMessages event.kind
  let empty : CString := CString.ofBytes []
  match event.kind with
  | .log level message =>
    { eventBase event (.log level empty) index count with messageChunk := copyChunk message index }
  | .progress percent label => eventBase event (.progress percent label) index count
  | .form schemaJson =>
    { eventBase event (.form empty) index count with schemaJsonChunk := copyChunk schemaJson index }
  | .table schemaJson rowsJson =>
    let firstCount := eventChunkCount schemaJson.length
    if index < firstCount then
      { eventBase event (.table empty empty) index count with
        schemaJsonChunk := copyChunk schemaJson index }
    else
      { eventBase event (.table empty empty) index count with
        rowsJsonChunk := copyChunk rowsJson (index - firstCount) }
  | .artifact name path sha256 size =>
    eventBase event (.artifact name path sha256 size) index count
  | .result success message =>
    { eventBase event (.result success empty) index count with
      messageChunk := copyChunk message index }

/-- `rpc_poison_app_send_event`. -/
def sendEvent (event : PoisonAppEvent) : List AppEventMessage :=
  (List.range (eventMessages event.kind)).map (eventMessage event)

end PoisonedOS.Apps
