import PoisonedOS.Library.Slices
import PoisonedOS.Library.Text

/-!
# Commands for structured applications

The dashboard sends a command to the running application as messages of up to 384 bytes of
payload each, and a command without payload as one message with no chunks. The device
collects the chunks of one command at a time and hands it to the application service when
the last has come. The collector belongs to the session, so it keeps what an earlier command
left in it.
-/

namespace PoisonedOS.Apps

/-- `APP_CHUNK_BYTES`, and the capacity of the chunk fields. -/
def appChunkBytes : Nat := 384

/-- `RPC_POISON_APP_MAX_CHUNKS`. -/
def rpcPoisonAppMaxChunks : Nat := 11

/-- `APP_PROTOCOL_VERSION` and `POISON_APP_PROTOCOL_VERSION`. -/
def appProtocolVersion : Nat := 1

/-! ## The dashboard -/

/-- `AppCommand` as it is sent; its texts are UTF-8 bytes. -/
structure AppCommandMessage where
  appId : List UInt8
  runId : List UInt8
  commandId : List UInt8
  payloadJson : List UInt8
  cancel : Bool
  protocolVersion : Nat
  chunkIndex : Nat
  chunkCount : Nat
  payloadChunk : List UInt8
deriving DecidableEq, Repr

/-- A byte count that the client takes for an identifier. -/
def idLength (bytes : List UInt8) : Bool := bytes.length != 0 && bytes.length ≤ 64

/-- The message that `command` sends at a position of its loop. -/
def commandMessage (runId appId commandId payload : List UInt8) (cancel : Bool)
    (chunkIndex : Nat) : AppCommandMessage :=
  let chunkCount := if payload.length = 0 then 0 else Slices.count appChunkBytes payload.length
  { appId, runId, commandId, cancel, chunkIndex, chunkCount
    payloadJson := if chunkCount = 0 then payload else []
    protocolVersion := appProtocolVersion
    payloadChunk := if chunkCount = 0 then [] else Slices.slice appChunkBytes payload chunkIndex }

/-- `StructuredAppClient.command`, for the identifier of a run that is active: the messages it
sends, one after the reply to the other. -/
def command (runId appId commandId payload : List UInt8) (cancel : Bool) :
    Option (List AppCommandMessage) :=
  if !idLength appId || !idLength runId || !idLength commandId || 4096 < payload.length ||
      payload.contains 0 then none
  else
    let chunkCount := if payload.length = 0 then 0 else Slices.count appChunkBytes payload.length
    some ((List.range (max 1 chunkCount)).map
      (commandMessage runId appId commandId payload cancel))

/-! ## The device -/

/-- `PB_Poison_AppCommand`. -/
structure AppCommand where
  appId : CString
  runId : CString
  commandId : CString
  payloadJson : CString
  cancel : Bool
  protocolVersion : Nat
  chunkIndex : Nat
  chunkCount : Nat
  payloadChunk : List UInt8
deriving DecidableEq

/-- The message as the device decodes it into fields of fixed capacity, where a text ends at
its first zero byte. -/
def AppCommandMessage.decode (message : AppCommandMessage) : Option AppCommand :=
  if message.appId.length ≤ 64 ∧ message.runId.length ≤ 64 ∧ message.commandId.length ≤ 64 ∧
      message.payloadJson.length ≤ 4096 ∧ message.payloadChunk.length ≤ appChunkBytes then
    some {
      appId := CString.ofBytes message.appId
      runId := CString.ofBytes message.runId
      commandId := CString.ofBytes message.commandId
      payloadJson := CString.ofBytes message.payloadJson
      cancel := message.cancel
      protocolVersion := message.protocolVersion
      chunkIndex := message.chunkIndex
      chunkCount := message.chunkCount
      payloadChunk := message.payloadChunk }
  else none

/-- `PoisonAppCommand`. -/
structure PoisonAppCommand where
  protocolVersion : Nat
  appId : CString
  runId : CString
  commandId : CString
  payloadJson : CString
  cancel : Bool
deriving DecidableEq

/-- `RpcPoisonApp`; `payload_size` is the number of bytes collected. -/
structure RpcPoisonApp where
  subscribed : Bool
  receivingCommand : Bool
  expectedChunks : Nat
  nextChunk : Nat
  appId : CString
  runId : CString
  commandId : CString
  payloadJson : List UInt8

namespace RpcPoisonApp

/-- `rpc_system_poison_app_alloc`, with the answer of `poison_app_event_subscribe`. -/
def alloc (subscribed : Bool) : RpcPoisonApp where
  subscribed := subscribed
  receivingCommand := false
  expectedChunks := 0
  nextChunk := 0
  appId := default
  runId := default
  commandId := default
  payloadJson := []

/-- `rpc_poison_app_reset_command`. -/
def resetCommand (rpcApp : RpcPoisonApp) : RpcPoisonApp :=
  { rpcApp with receivingCommand := false, expectedChunks := 0, nextChunk := 0, payloadJson := [] }

/-- The answer of `rpc_poison_app_collect_command` and its `complete`. -/
inductive Collected where
  | rejected
  | stored
  | complete
deriving DecidableEq, Repr

/-- The collector after the first chunk of a command was seen. -/
def begin (rpcApp : RpcPoisonApp) (input : AppCommand) : RpcPoisonApp :=
  if input.chunkIndex = 0 then
    { rpcApp.resetCommand with
      receivingCommand := true
      expectedChunks := input.chunkCount
      appId := input.appId
      runId := input.runId
      commandId := input.commandId }
  else rpcApp

/-- A chunk is not the one the collector waits for. -/
def unexpected (rpcApp : RpcPoisonApp) (input : AppCommand) : Bool :=
  !rpcApp.receivingCommand || input.chunkCount != rpcApp.expectedChunks ||
    input.chunkIndex != rpcApp.nextChunk || input.appId != rpcApp.appId ||
    input.runId != rpcApp.runId || input.commandId != rpcApp.commandId ||
    input.payloadChunk.length == 0 ||
    4096 < rpcApp.payloadJson.length + input.payloadChunk.length ||
    input.payloadChunk.contains 0

/-- The collector after it appended a chunk. -/
def append (rpcApp : RpcPoisonApp) (input : AppCommand) : RpcPoisonApp :=
  { rpcApp with
    payloadJson := rpcApp.payloadJson ++ input.payloadChunk
    nextChunk := rpcApp.nextChunk + 1 }

/-- `rpc_poison_app_collect_command`. -/
def collectCommand (rpcApp : RpcPoisonApp) (input : AppCommand) : Collected × RpcPoisonApp :=
  if input.chunkCount = 0 then
    if input.payloadChunk.length ≠ 0 ∨ rpcApp.receivingCommand then (.rejected, rpcApp)
    else (.complete, rpcApp)
  else if rpcPoisonAppMaxChunks < input.chunkCount ∨ input.chunkCount ≤ input.chunkIndex ∨
      !input.payloadJson.isEmpty then (.rejected, rpcApp.resetCommand)
  else
    let begun := rpcApp.begin input
    if begun.unexpected input then (.rejected, begun.resetCommand)
    else
      let appended := begun.append input
      if appended.nextChunk = appended.expectedChunks then
        (.complete, { appended with receivingCommand := false })
      else (.stored, appended)

/-- `rpc_poison_app_command_is_bounded`. -/
def commandIsBounded (appId commandId payloadJson : CString) : Bool :=
  !appId.isEmpty && !commandId.isEmpty && appId.length < 65 && commandId.length < 65 &&
    payloadJson.length < 4097

/-- A command message that reached its handler: the flag of the frame, whether it came
through the secure dispatch, and its content. -/
structure Request where
  hasNext : Bool
  secureDispatch : Bool
  input : AppCommand

/-- What `rpc_poison_app_command_process` does with a message: an error, an empty answer for a
chunk, an error for a complete command out of bounds, or a call of
`poison_app_dispatch_command`. -/
inductive Outcome where
  | rejected
  | stored
  | unbounded
  | dispatched (command : PoisonAppCommand)
deriving DecidableEq

/-- `rpc_poison_app_command_process`. The collector is reset after a complete command,
whatever the service answers. -/
def commandProcess (rpcApp : RpcPoisonApp) (request : Request) : Outcome × RpcPoisonApp :=
  if request.hasNext || !rpcApp.subscribed || !request.secureDispatch then (.rejected, rpcApp)
  else
    match rpcApp.collectCommand request.input with
    | (.rejected, collected) => (.rejected, collected)
    | (.stored, collected) => (.stored, collected)
    | (.complete, collected) =>
      if commandIsBounded request.input.appId request.input.commandId
          request.input.payloadJson then
        (.dispatched {
          protocolVersion := request.input.protocolVersion
          appId := request.input.appId
          runId := request.input.runId
          commandId := request.input.commandId
          payloadJson := if request.input.chunkCount = 0 then request.input.payloadJson
            else CString.ofBytes collected.payloadJson
          cancel := request.input.cancel }, collected.resetCommand)
      else (.unbounded, collected.resetCommand)

/-- The collector after a history of messages. -/
def after (rpcApp : RpcPoisonApp) (history : List Request) : RpcPoisonApp :=
  history.foldl (fun rpcApp request => (rpcApp.commandProcess request).2) rpcApp

/-- The client sends its messages through the secure channel, the next after an answer that is
no error; `accepts` is the answer of `poison_app_dispatch_command`. -/
def exchange (accepts : Bool) : List AppCommandMessage → RpcPoisonApp → List Outcome
  | [], _ => []
  | message :: rest, rpcApp =>
    match message.decode with
    | none => []
    | some input =>
      match rpcApp.commandProcess ⟨false, true, input⟩ with
      | (.stored, rpcApp) => .stored :: exchange accepts rest rpcApp
      | (.dispatched command, rpcApp) =>
        .dispatched command :: if accepts then exchange accepts rest rpcApp else []
      | (outcome, _) => [outcome]

/-- Every message is accepted, and the last dispatches the command that was sent. -/
def Delivered (runId appId commandId payload : List UInt8) (cancel : Bool) (messages : Nat)
    (outcomes : List Outcome) : Prop :=
  ∃ command : PoisonAppCommand,
    outcomes = List.replicate (messages - 1) .stored ++ [.dispatched command] ∧
      command.protocolVersion = appProtocolVersion ∧ command.appId.bytes = appId ∧
      command.runId.bytes = runId ∧ command.commandId.bytes = commandId ∧
      command.payloadJson.bytes = payload ∧ command.cancel = cancel

end RpcPoisonApp

end PoisonedOS.Apps
