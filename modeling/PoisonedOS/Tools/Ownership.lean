import PoisonedOS.Library.SlotTable
import PoisonedOS.Tools.Isolation

/-!
# Who a tool run belongs to

A session that starts a tool run records it, and registers the command that started it so
that a cancel request can find it. A stop request, a cancel request and the end of the
session all stop the run through the tool service, which gives up when the worker stays
busy; so does a start whose command cannot be registered.

Which of the four asked decides what an unsuccessful stop leaves: a stop request and a
cancel request keep the record and the slot, the other two drop the record all the same.

The record and the slots of a session are read and written by its own thread only, so what
a request does to them between two calls of the tool service is one step with the call.
-/

namespace PoisonedOS.ToolOwnership

/-- `PB_Poison_ToolRun`. -/
structure ToolRun where
  toolId : CString
  toolVersion : CString
  runId : CString
  caseId : CString
  state : CString
deriving DecidableEq

/-- `rpc_poison_tool_run_is_bounded`. -/
def toolRunIsBounded (toolId runId : CString) : Bool :=
  !toolId.isEmpty && !runId.isEmpty && decide (toolId.length < 65) && decide (runId.length < 65)

/-- `rpc_poison_tool_run_request_is_valid`. -/
def ToolRun.requestIsValid (input : ToolRun) : Bool :=
  toolRunIsBounded input.toolId input.runId && !input.caseId.isEmpty &&
    decide (input.caseId.length < 65) && input.toolVersion == .literal "builtin" &&
    (input.state == .literal "start" || input.state == .literal "stop")

/-- The context a cancellation slot was registered with. -/
inductive SlotContext where
  | tools
  | workload
deriving DecidableEq, Repr

/-- `RpcCancellationSlot`, while active. -/
structure CancellationSlot where
  commandId : UInt32
  context : SlotContext
deriving DecidableEq

/-- The slots of a session: `RPC_CANCELLATION_SLOT_COUNT` of them. -/
abbrev Cancellations := Fin 4 → Option CancellationSlot

/-- `rpc_session_register_cancellable`. -/
def registerCancellable (cancellations : Cancellations) (commandId : UInt32)
    (context : SlotContext) : Option Cancellations :=
  if commandId = 0 then none
  else if (SlotTable.findSlot CancellationSlot.commandId cancellations commandId).isSome then none
  else
    (SlotTable.firstSlot cancellations Option.isNone).map fun slot =>
      SlotTable.place cancellations slot ⟨commandId, context⟩

/-- `rpc_session_complete_cancellable`. -/
def completeCancellable (cancellations : Cancellations) (commandId : UInt32)
    (context : SlotContext) : Cancellations :=
  if commandId = 0 then cancellations
  else
    match SlotTable.firstSlot cancellations (· == some ⟨commandId, context⟩) with
    | none => cancellations
    | some slot => Function.update cancellations slot none

/-- Who calls `poison_tools_run_stop`: a start whose command was not registered, a stop
request, a cancel request that found its slot, or the end of the session. -/
inductive StopReason where
  | undo
  | stop
  | cancel (slot : Fin 4)
  | close
deriving DecidableEq

def StopReason.drops : StopReason → Bool
  | .undo | .close => true
  | .stop | .cancel _ => false

/-- Where the thread of a session is in a request: about to call `poison_tools_run_stop`,
or in it. -/
inductive RequestPhase where
  | idle
  | calling (reason : StopReason)
  | waiting (reason : StopReason)
deriving DecidableEq

/-- `RpcPoisonTools` with the slots of its session. The last field is not in the code: the
number of the run that is recorded. -/
structure ToolSession where
  opened : Bool
  activeRunId : CString
  activeToolId : CString
  activeCommandId : UInt32
  cancellations : Cancellations
  phase : RequestPhase
  run : Nat

namespace ToolSession

/-- There is no session. -/
def closed : ToolSession where
  opened := false
  activeRunId := .literal ""
  activeToolId := .literal ""
  activeCommandId := 0
  cancellations := fun _ => none
  phase := .idle
  run := 0

/-- The session after `rpc_system_poison_tools_alloc`. -/
def fresh : ToolSession := { closed with opened := true }

variable (session : ToolSession)

/-- A run is recorded: `active_run_id[0] != '\0'`. -/
def holds : Bool := !session.activeRunId.isEmpty

/-- The record is erased, and the request is over. -/
def cleared : ToolSession :=
  { session with
    activeRunId := .literal ""
    activeToolId := .literal ""
    activeCommandId := 0
    phase := .idle }

def recorded (input : ToolRun) (commandId : UInt32) (run : Nat) : ToolSession :=
  { session with
    activeRunId := input.runId
    activeToolId := input.toolId
    activeCommandId := commandId
    run }

/-- What the caller of `poison_tools_run_stop` does with its result. -/
def resolve (reason : StopReason) (stopped : Bool) : ToolSession :=
  match reason with
  | .undo => session.cleared
  | .stop =>
    if stopped then
      { session.cleared with
        cancellations := completeCancellable session.cancellations session.activeCommandId .tools }
    else { session with phase := .idle }
  | .cancel slot =>
    if stopped then
      { session.cleared with cancellations := Function.update session.cancellations slot none }
    else { session with phase := .idle }
  | .close => closed

/-- The callback of a slot: `rpc_poison_tool_cancel` up to its stop, or that of a workload,
whose answer is given. -/
def slotCallback (slot : Fin 4) (accepted : Bool) : ToolSession :=
  match session.cancellations slot with
  | none => session
  | some ⟨commandId, .tools⟩ =>
    if session.activeCommandId != commandId || session.activeRunId.isEmpty then session
    else { session with phase := .calling (.cancel slot) }
  | some ⟨_, .workload⟩ =>
    if accepted then
      { session with cancellations := Function.update session.cancellations slot none }
    else session

/-- `rpc_cancel_request_process` up to the stop of a tool run. -/
def cancelRequest (target : UInt64) (accepted : Bool) : ToolSession :=
  if target = 0 ∨ 4294967295 < target then session
  else
    match SlotTable.findSlot CancellationSlot.commandId session.cancellations target.toUInt32 with
    | none => session
    | some slot => session.slotCallback slot accepted

/-- A stop request, up to the stop. -/
def stopRequest (input : ToolRun) : ToolSession :=
  if session.activeRunId == input.runId && session.activeToolId == input.toolId then
    { session with phase := .calling .stop }
  else session

/-- `rpc_system_poison_tools_free`, up to the stop. -/
def free : ToolSession :=
  if session.holds then
    { session with
      cancellations := completeCancellable session.cancellations session.activeCommandId .tools
      phase := .calling .close }
  else closed

/-- A workload registers its command. -/
def registerWorkload (commandId : UInt32) : ToolSession :=
  match registerCancellable session.cancellations commandId .workload with
  | none => session
  | some cancellations => { session with cancellations }

/-- A workload completes its command. -/
def completeWorkload (commandId : UInt32) : ToolSession :=
  { session with
    cancellations := completeCancellable session.cancellations commandId .workload }

end ToolSession

/-- `poison_tools_run_start_for_case` returns true. -/
def starts (system : ToolSystem) (toolId runId caseId : CString) (role : Role) : Bool :=
  ToolsService.startChecks toolId runId caseId role && !system.tools.active &&
    !system.tools.workPending && !system.tools.workerBusy &&
    (system.app.endpointRegister toolsAppId runId).isSome

/-- The tool service and the sessions, by number. The thread of a session is the caller of
its number. -/
structure OwnedSystem where
  system : ToolSystem
  sessions : Nat → ToolSession

/-- The steps of the worker and of dispatches, and those of the sessions. -/
inductive OwnedStep where
  | work (operation : ToolStep)
  | openSession (number : Nat)
  | toolRun (number : Nat) (commandId : UInt32) (identity : Option Role) (input : ToolRun)
  | cancelRequest (number : Nat) (target : UInt64) (accepted : Bool)
  | close (number : Nat)
  | stopBegin (number : Nat)
  | stopWait (number : Nat) (timedOut : Bool)
  | stopEnd (number : Nat)
  | registerWorkload (number : Nat) (commandId : UInt32)
  | completeWorkload (number : Nat) (commandId : UInt32)

namespace OwnedSystem

/-- After boot there is no session. -/
def init : OwnedSystem := ⟨.init, fun _ => .closed⟩

variable (state : OwnedSystem)

/-- The state with one session changed. -/
def change (number : Nat) (session : ToolSession) : OwnedSystem :=
  { state with sessions := Function.update state.sessions number session }

/-- The session is open and its thread handles no request. -/
def ready (number : Nat) : Bool :=
  (state.sessions number).opened && decide ((state.sessions number).phase = .idle) &&
    decide (state.system.callers number = .idle)

/-- The step is not one of starting or stopping, and a dispatch comes from a session that
handles no other request. -/
def admits : ToolStep → Bool
  | .start _ _ _ _ | .stopBegin _ _ | .stopWait _ _ | .stopEnd _ => false
  | .lookup caller _ => state.ready caller
  | _ => true

/-- A start request of a session. -/
def startRequest (number : Nat) (commandId : UInt32) (role : Role) (input : ToolRun) :
    OwnedSystem :=
  let session := state.sessions number
  if session.holds then state
  else
    let system := state.system.startRun input.toolId input.runId input.caseId role
    if !starts state.system input.toolId input.runId input.caseId role then { state with system }
    else
      let recorded := session.recorded input commandId system.started
      match registerCancellable session.cancellations commandId .tools with
      | none => { state.change number { recorded with phase := .calling .undo } with system }
      | some cancellations => { state.change number { recorded with cancellations } with system }

/-- `rpc_poison_tool_run_process`, up to the stop. There is no identity when the message is
not a single one in the secure channel. -/
def toolRun (number : Nat) (commandId : UInt32) (identity : Option Role) (input : ToolRun) :
    OwnedSystem :=
  match identity with
  | none => state
  | some role =>
    if !input.requestIsValid then state
    else if input.state == .literal "start" then state.startRequest number commandId role input
    else state.change number ((state.sessions number).stopRequest input)

/-- The first locked section of `poison_tools_run_stop`. -/
def stopBegin (number : Nat) : OwnedSystem :=
  let session := state.sessions number
  match session.phase with
  | .calling reason =>
    if state.system.tools.active && state.system.tools.runId == session.activeRunId then
      { state.change number { session with phase := .waiting reason } with
        system := (state.system.step (.stopBegin number session.activeRunId)).1 }
    else state.change number (session.resolve reason false)
  | _ => state

def stopWait (number : Nat) (timedOut : Bool) : OwnedSystem :=
  let session := state.sessions number
  match session.phase with
  | .waiting reason =>
    let system := (state.system.step (.stopWait number timedOut)).1
    if system.callers number = .idle then
      { state.change number (session.resolve reason false) with system }
    else { state with system }
  | _ => state

/-- The last locked section of `poison_tools_run_stop`. -/
def stopEnd (number : Nat) : OwnedSystem :=
  let session := state.sessions number
  match session.phase, state.system.callers number with
  | .waiting reason, .idleSeen runId =>
    let ended := state.system.stopEnd number runId
    { state.change number (session.resolve reason (!ended.2.isEmpty)) with system := ended.1 }
  | _, _ => state

/-- One step. A step whose actor is elsewhere does nothing. -/
def step (operation : OwnedStep) : OwnedSystem :=
  match operation with
  | .work operation =>
    if state.admits operation then { state with system := (state.system.step operation).1 }
    else state
  | .openSession number =>
    if (state.sessions number).opened then state else state.change number .fresh
  | .toolRun number commandId identity input =>
    if state.ready number then state.toolRun number commandId identity input else state
  | .cancelRequest number target accepted =>
    if state.ready number then
      state.change number ((state.sessions number).cancelRequest target accepted)
    else state
  | .close number =>
    if state.ready number then state.change number (state.sessions number).free else state
  | .stopBegin number => state.stopBegin number
  | .stopWait number timedOut => state.stopWait number timedOut
  | .stopEnd number => state.stopEnd number
  | .registerWorkload number commandId =>
    if state.ready number then
      state.change number ((state.sessions number).registerWorkload commandId)
    else state
  | .completeWorkload number commandId =>
    if state.ready number then
      state.change number ((state.sessions number).completeWorkload commandId)
    else state

/-- The state after the first steps of a run. -/
def ownedAt (steps : List OwnedStep) (index : Nat) : OwnedSystem :=
  Runs.reached (fun operation state => OwnedSystem.step state operation) init steps index

/-- The session is open and has recorded the run of the tool service. -/
def Holder (number : Nat) : Prop :=
  (state.sessions number).opened = true ∧
    (state.sessions number).activeRunId = state.system.tools.runId

/-- What the three places say agrees. While a session undoes its start or ends, the slot is
not there yet or not there any more. -/
structure Lawful : Prop where
  /-- An active run is that of exactly one open session. -/
  owned : state.system.tools.active = true → ∃ number, (∀ other, state.Holder other ↔
    other = number) ∧ (state.sessions number).activeToolId = state.system.tools.toolId ∧
    (state.sessions number).run = state.system.started
  /-- That session has exactly one slot for the command that started the run. -/
  slotted : state.system.tools.active = true → ∀ number, state.Holder number →
    ((state.sessions number).phase = .idle ∨ ∃ reason, reason.drops = false ∧
      ((state.sessions number).phase = .calling reason ∨
        (state.sessions number).phase = .waiting reason)) →
    ∃ slot, (state.sessions number).cancellations slot =
        some ⟨(state.sessions number).activeCommandId, .tools⟩ ∧
      ∀ other record, (state.sessions number).cancellations other = some record →
        record.context = .tools ∨ record.commandId = (state.sessions number).activeCommandId →
        other = slot
  /-- When no session has recorded a run and the worker is idle, any run can be started. -/
  startable : (∀ number, (state.sessions number).holds = false) →
    state.system.tools.workPending = false → state.system.tools.workerBusy = false →
    ∀ toolId runId caseId role, ToolsService.startChecks toolId runId caseId role = true →
      starts state.system toolId runId caseId role = true

/-- The active run of one state is not that of another. -/
def Ends (state after : OwnedSystem) : Prop :=
  state.system.tools.active = true ∧
    ¬ (after.system.tools.active = true ∧ after.system.started = state.system.started)

/-- In every state the three places agree, and a run is ended only by the stop that its
session called. -/
structure Owned (steps : List OwnedStep) : Prop where
  lawful : ∀ index, (ownedAt steps index).Lawful
  own : ∀ index operation, steps[index]? = some operation →
    Ends (ownedAt steps index) ((ownedAt steps index).step operation) →
    ∃ number, operation = .stopEnd number ∧ (ownedAt steps index).Holder number ∧
      ((ownedAt steps index).sessions number).run = (ownedAt steps index).system.started

/-- The stop with which a session undoes its start or ends gives up: the worker is not idle
in time, or it was and has work again. -/
def Abandons : OwnedStep → Prop
  | .stopWait number timedOut =>
    timedOut = true ∧ state.system.idleFlag = false ∧
      ∃ reason runId, reason.drops = true ∧ (state.sessions number).phase = .waiting reason ∧
        state.system.callers number = .stopping runId
  | .stopEnd number =>
    (state.system.tools.workPending = true ∨ state.system.tools.workerBusy = true) ∧
      ∃ reason runId, reason.drops = true ∧ (state.sessions number).phase = .waiting reason ∧
        state.system.callers number = .idleSeen runId
  | _ => False

end OwnedSystem

end PoisonedOS.ToolOwnership
