import PoisonedOS.Library.Runs
import PoisonedOS.Session.Policy
import Mathlib.Logic.Function.Basic

/-!
# The tool service and its worker

A run of a tool is started and stopped by callers, and a command for it is dispatched
through the application service: the run is looked up under that service's lock, and the
callback of the tool service is called after the lock is released. The callback queues
the command for the one worker, or asks for cancellation.

Each section under a mutex is one step, and so is each step of the worker between them,
so a step of any other actor may come in between. What the adapters do is observed, not
computed.
-/

namespace PoisonedOS

/-- `POISON_TOOLS_APP_ID`. -/
def toolsAppId : CString := .literal "org.poison.tools"

/-- `POISON_APP_MAX_TEXT`. -/
def appMaxText : Nat := 128

/-- `POISON_APP_PROTOCOL_VERSION`. -/
def appProtocolVersion : UInt32 := 1

/-- `PoisonToolDefinition`. -/
structure ToolDefinition where
  toolId : CString
  family : CString
  commandId : CString
  requiredCapabilities : Capabilities
deriving DecidableEq

/-- `poison_tool_definitions`. -/
def toolDefinitions : List ToolDefinition :=
  let radio := capabilityControl ||| capabilityRadio
  [⟨.literal "nfc.read", .literal "nfc", .literal "nfc.detect", radio⟩,
    ⟨.literal "lf-rfid.read", .literal "lf-rfid", .literal "lf-rfid.detect", radio⟩,
    ⟨.literal "ibutton.read", .literal "ibutton", .literal "ibutton.read", radio⟩,
    ⟨.literal "infrared.receive", .literal "infrared", .literal "infrared.receive", radio⟩,
    ⟨.literal "sub-ghz.receive", .literal "sub-ghz", .literal "sub-ghz.receive", radio⟩,
    ⟨.literal "gpio.inspect", .literal "gpio", .literal "gpio.read", radio⟩,
    ⟨.literal "usb-hid.inspect", .literal "usb-hid", .literal "usb-hid.status", capabilityStatus⟩,
    ⟨.literal "ble-hid.status", .literal "ble-hid", .literal "ble-hid.status", capabilityStatus⟩,
    ⟨.literal "serial.observe", .literal "serial", .literal "serial.observe", radio⟩,
    ⟨.literal "storage.inspect", .literal "storage", .literal "storage.inspect", capabilityFiles⟩,
    ⟨.literal "marauder.console", .literal "serial", .literal "marauder.command", radio⟩]

/-- `poison_tool_definition_find`. -/
def toolDefinitionFind (toolId : CString) : Option ToolDefinition :=
  toolDefinitions.find? (·.toolId == toolId)

/-- `poison_tool_definition_authorized` for a role below the counting sentinel. -/
def toolDefinitionAuthorized (definition : ToolDefinition) (role : Role) : Bool :=
  (roleCapabilities role &&& definition.requiredCapabilities) == definition.requiredCapabilities

/-- `bounded_identifier`. -/
def boundedIdentifier (value : CString) (maxLength : Nat) : Bool :=
  !value.isEmpty && decide (value.length ≤ maxLength) &&
    value.bytes.all fun byte =>
      isLower byte || isDigit byte || byte == 46 || byte == 45 || byte == 95

/-- `bounded_text`. -/
def boundedText (value : CString) (capacity : Nat) : Bool :=
  !value.isEmpty && decide (value.length < capacity)

/-- `PoisonAppRun`. -/
structure AppRun where
  appId : CString
  runId : CString
  nextSequence : Nat
  active : Bool
  cancelled : Bool
deriving DecidableEq

/-- The run `memset` leaves. -/
def AppRun.zero : AppRun := ⟨.literal "", .literal "", 0, false, false⟩

/-- `PoisonAppCommand`. -/
structure AppCommand where
  protocolVersion : UInt32
  appId : CString
  runId : CString
  commandId : CString
  payloadJson : CString
  cancel : Bool
deriving DecidableEq

/-- `PoisonAppService`: the run, and whether the callback of the tool service is
registered. -/
structure AppService where
  run : AppRun
  registered : Bool
deriving DecidableEq

namespace AppService

variable (app : AppService)

/-- `poison_app_endpoint_register` with `poison_app_run_start`. -/
def endpointRegister (appId runId : CString) : Option AppService :=
  if app.run.active || !boundedText appId appMaxText || !boundedText runId appMaxText then none
  else some ⟨⟨appId, runId, 0, true, false⟩, true⟩

/-- `poison_app_endpoint_unregister` by the tool service. -/
def endpointUnregister : AppService := if app.registered then ⟨.zero, false⟩ else app

/-- The checks of `poison_app_dispatch_command` and its first locked section: the callback
will be called. -/
def dispatches (command : AppCommand) : Bool :=
  command.protocolVersion == appProtocolVersion && boundedText command.appId appMaxText &&
    boundedText command.runId appMaxText && boundedText command.commandId appMaxText &&
    decide (command.payloadJson.length < 4097) &&
    app.run.active && app.run.appId == command.appId && app.run.runId == command.runId &&
    app.registered

/-- `poison_app_cancel` goes through. -/
def cancels : Bool := app.run.active && !app.run.cancelled

/-- The run `poison_app_cancel` leaves. -/
def cancelled : AppService :=
  { app with run := { app.run with cancelled := true, active := false } }

/-- `poison_app_accept_event` of a typed event of the tool service. -/
def acceptsEvent (appId runId : CString) (sequence : Nat) : Bool :=
  app.run.active && !app.run.cancelled && app.run.appId == appId && app.run.runId == runId &&
    sequence == app.run.nextSequence

end AppService

/-- `PoisonToolsService`. The captures of the adapters are left out. -/
structure ToolsService where
  toolId : CString
  runId : CString
  caseId : CString
  pendingCommandId : CString
  pendingPayload : CString
  role : Role
  eventSequence : Nat
  active : Bool
  cancelled : Bool
  workPending : Bool
  workerBusy : Bool
deriving DecidableEq

/-- The service `memset` leaves. -/
def ToolsService.zero : ToolsService where
  toolId := .literal ""
  runId := .literal ""
  caseId := .literal ""
  pendingCommandId := .literal ""
  pendingPayload := .literal ""
  role := .owner
  eventSequence := 0
  active := false
  cancelled := false
  workPending := false
  workerBusy := false

/-- Where the worker is: before or after the semaphore, in an adapter, in an adapter that
is publishing a result and has checked for cancellation or captured the evidence, or
after it. -/
inductive WorkerPhase where
  | waiting
  | woken
  | executing
  | publishing
  | captured
  | returned
deriving DecidableEq, Repr

/-- An adapter is running. -/
def WorkerPhase.runs : WorkerPhase → Bool
  | .executing | .publishing | .captured => true
  | _ => false

/-- Where a caller's thread is between its locked sections. -/
inductive Caller where
  | idle
  /-- A dispatch has found the run and will call back. -/
  | found (command : AppCommand)
  /-- The command is queued and the semaphore not yet released. -/
  | queued
  /-- A cancellation was accepted and goes on to the application service. -/
  | cancelling (command : AppCommand)
  /-- A stop waits for the worker to be idle. -/
  | stopping (runId : CString)
  /-- A stop has seen the worker idle. -/
  | idleSeen (runId : CString)
deriving DecidableEq

/-- The two services, the worker and the callers. The last two fields are not in the
code: the run of the pending command, and how many runs were started. -/
structure ToolSystem where
  tools : ToolsService
  app : AppService
  workAvailable : Bool
  idleFlag : Bool
  worker : WorkerPhase
  callers : Nat → Caller
  pendingRunId : CString
  started : Nat

/-- What can be seen of a step. The first run is that of the command, the second that
under which it is used; the number is that of the run under which it is used. -/
inductive ToolObservation where
  | queued (commandRun serviceRun : CString)
  | cancelled (commandRun serviceRun : CString)
  | appCancelled (commandRun serviceRun : CString)
  | began (commandRun serviceRun : CString) (run : Nat)
  | effect (commandRun serviceRun : CString) (run : Nat)
  | evidence (commandRun serviceRun : CString) (run : Nat)
  | result (commandRun serviceRun : CString) (run : Nat)
  | finished
  | stopped (run : Nat)
deriving DecidableEq

/-- The steps of the callers, by number, and of the worker. -/
inductive ToolStep where
  | start (toolId runId caseId : CString) (role : Role)
  | lookup (caller : Nat) (command : AppCommand)
  | callback (caller : Nat)
  | release (caller : Nat)
  | appCancel (caller : Nat)
  | stopBegin (caller : Nat) (runId : CString)
  | stopWait (caller : Nat) (timedOut : Bool)
  | stopEnd (caller : Nat)
  | wake
  | take
  | adapterEffect
  | publishCheck
  | publishCapture (captured : Bool)
  | publishEvent (typed : Bool)
  | adapterReturn
  | done

namespace ToolsService

variable (tools : ToolsService)

/-- The command is one of the tool of the run. -/
def knowsCommand (commandId : CString) : Bool :=
  match toolDefinitionFind tools.toolId with
  | none => false
  | some definition =>
    commandId == definition.commandId ||
      (definition.toolId == .literal "infrared.receive" &&
        commandId == .literal "infrared.transmit") ||
      (definition.toolId == .literal "sub-ghz.receive" &&
        (commandId == .literal "sub-ghz.analyze" || commandId == .literal "sub-ghz.transmit"))

/-- `poison_tools_command` accepts the command. -/
def accepts (command : AppCommand) : Bool :=
  tools.active && tools.knowsCommand command.commandId && !tools.cancelled &&
    (command.cancel ||
      (!tools.workPending && !tools.workerBusy && decide (command.payloadJson.length < 4097)))

/-- The checks of `poison_tools_run_start_for_case` before the lock. -/
def startChecks (toolId runId caseId : CString) (role : Role) : Bool :=
  boundedIdentifier toolId 64 && boundedIdentifier runId 64 && boundedIdentifier caseId 64 &&
    (toolDefinitionFind toolId).any (toolDefinitionAuthorized · role)

/-- The fields a started run sets. -/
def startedRun (toolId runId caseId : CString) (role : Role) : ToolsService :=
  { tools with
    toolId, runId, caseId, role
    eventSequence := 0
    cancelled := false
    pendingCommandId := .literal ""
    pendingPayload := .literal ""
    active := true }

/-- The run a stop leaves. -/
def stoppedRun : ToolsService :=
  { tools with
    active := false
    toolId := .literal ""
    runId := .literal ""
    caseId := .literal ""
    pendingCommandId := .literal ""
    pendingPayload := .literal "" }

end ToolsService

namespace ToolSystem

def init : ToolSystem where
  tools := .zero
  app := ⟨.zero, false⟩
  workAvailable := false
  idleFlag := true
  worker := .waiting
  callers := fun _ => .idle
  pendingRunId := .literal ""
  started := 0

variable (system : ToolSystem)

/-- The system with one caller moved on. -/
def move (caller : Nat) (phase : Caller) : ToolSystem :=
  { system with callers := Function.update system.callers caller phase }

/-- `poison_tools_run_start_for_case`. A run that cannot register its endpoint is left
inactive, with its other fields set. -/
def startRun (toolId runId caseId : CString) (role : Role) : ToolSystem :=
  if !ToolsService.startChecks toolId runId caseId role || system.tools.active ||
      system.tools.workPending || system.tools.workerBusy then
    system
  else
    let tools := system.tools.startedRun toolId runId caseId role
    match system.app.endpointRegister toolsAppId runId with
    | none => { system with tools := { tools with active := false } }
    | some app => { system with tools, app, started := system.started + 1 }

/-- `poison_tools_command`, called by a dispatch. -/
def command (caller : Nat) (command : AppCommand) : ToolSystem × List ToolObservation :=
  if !system.tools.accepts command then (system.move caller .idle, [])
  else if command.cancel then
    ({ system.move caller (.cancelling command) with
        tools := { system.tools with cancelled := true } },
      [.cancelled command.runId system.tools.runId])
  else
    ({ system.move caller .queued with
        tools := {
          system.tools with
          pendingCommandId := command.commandId
          pendingPayload := command.payloadJson
          workPending := true }
        idleFlag := false
        pendingRunId := command.runId },
      [.queued command.runId system.tools.runId])

/-- The last locked section of `poison_tools_run_stop`. -/
def stopEnd (caller : Nat) (runId : CString) : ToolSystem × List ToolObservation :=
  if system.tools.active && system.tools.runId == runId && !system.tools.workPending &&
      !system.tools.workerBusy then
    ({ system.move caller .idle with
        tools := system.tools.stoppedRun
        app := system.app.endpointUnregister },
      [.stopped system.started])
  else (system.move caller .idle, [])

/-- The first locked section of the worker. -/
def take : ToolSystem × List ToolObservation :=
  let execute := system.tools.workPending && system.tools.active && !system.tools.cancelled
  ({ system with
      tools := { system.tools with workPending := false, workerBusy := execute }
      worker := if execute then .executing else .returned },
    if execute then [.began system.pendingRunId system.tools.runId system.started] else [])

/-- The event of `poison_tools_publish_result_with_evidence`. -/
def publishEvent (typed : Bool) : ToolSystem × List ToolObservation :=
  if typed && system.app.acceptsEvent toolsAppId system.tools.runId system.tools.eventSequence then
    ({ system with
        tools := { system.tools with eventSequence := system.tools.eventSequence + 1 }
        app := { system.app with
          run := { system.app.run with nextSequence := system.app.run.nextSequence + 1 } }
        worker := .executing },
      [.result system.pendingRunId system.tools.runId system.started])
  else ({ system with worker := .executing }, [])

def step : ToolStep → ToolSystem × List ToolObservation
  | .start toolId runId caseId role => (system.startRun toolId runId caseId role, [])
  | .lookup caller command =>
    if system.callers caller = .idle ∧ system.app.dispatches command = true then
      (system.move caller (.found command), [])
    else (system, [])
  | .callback caller =>
    match system.callers caller with
    | .found command => system.command caller command
    | _ => (system, [])
  | .release caller =>
    match system.callers caller with
    | .queued => ({ system.move caller .idle with workAvailable := true }, [])
    | _ => (system, [])
  | .appCancel caller =>
    match system.callers caller with
    | .cancelling command =>
      if system.app.cancels then
        ({ system.move caller .idle with app := system.app.cancelled },
          [.appCancelled command.runId system.app.run.runId])
      else (system.move caller .idle, [])
    | _ => (system, [])
  | .stopBegin caller runId =>
    if system.callers caller = .idle ∧ system.tools.active = true ∧ system.tools.runId = runId then
      ({ system.move caller (.stopping runId) with
          tools := { system.tools with cancelled := true } }, [])
    else (system, [])
  | .stopWait caller timedOut =>
    match system.callers caller with
    | .stopping runId =>
      if system.idleFlag then (system.move caller (.idleSeen runId), [])
      else if timedOut then (system.move caller .idle, [])
      else (system, [])
    | _ => (system, [])
  | .stopEnd caller =>
    match system.callers caller with
    | .idleSeen runId => system.stopEnd caller runId
    | _ => (system, [])
  | .wake =>
    if system.worker = .waiting ∧ system.workAvailable = true then
      ({ system with worker := .woken, workAvailable := false }, [])
    else (system, [])
  | .take => if system.worker = .woken then system.take else (system, [])
  | .adapterEffect =>
    if system.worker = .executing then
      (system, [.effect system.pendingRunId system.tools.runId system.started])
    else (system, [])
  | .publishCheck =>
    if system.worker = .executing ∧ system.tools.active = true ∧ system.tools.cancelled = false then
      ({ system with worker := .publishing }, [])
    else (system, [])
  | .publishCapture captured =>
    if system.worker = .publishing then
      if captured then
        ({ system with worker := .captured },
          [.evidence system.pendingRunId system.tools.runId system.started])
      else ({ system with worker := .executing }, [])
    else (system, [])
  | .publishEvent typed =>
    if system.worker = .captured then system.publishEvent typed else (system, [])
  | .adapterReturn =>
    if system.worker = .executing then ({ system with worker := .returned }, [.finished])
    else (system, [])
  | .done =>
    if system.worker = .returned then
      ({ system with
          tools := { system.tools with workerBusy := false }
          idleFlag := true
          worker := .waiting }, [])
    else (system, [])

end ToolSystem

end PoisonedOS
