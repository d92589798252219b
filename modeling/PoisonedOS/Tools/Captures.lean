import PoisonedOS.Profiles.Profile
import PoisonedOS.Tools.JsonReaders
import PoisonedOS.Tools.Service

/-!
# Captures of the radio tools

A receive command of the infrared or the Sub-GHz tool leaves what it received in the service,
and a transmit command sends it. A capture is dropped by the next receive command and by the
stop of its run.

Whether a signal may be sent is decided in several places: the infrared command looks at the
role, the adapters validate the request, and the Sub-GHz adapter asks for the policy of the
region, the profile and the classroom while it has the radio.
-/

namespace PoisonedOS

/-- `MAX_TIMINGS_AMOUNT`. -/
def maxTimingsAmount : UInt32 := 1024

/-- `POISON_SUBGHZ_RAW_TIMINGS_MAX`. -/
def subGhzRawTimingsMax : UInt32 := 1024

/-- `POISON_TOOL_INFRARED_TIMEOUT_MAX_MS` and `POISON_TOOL_SUBGHZ_TIMEOUT_MAX_MS`. -/
def radioTimeoutMaxMs : UInt32 := 60000

/-- `InfraredSignal`: a decoded message or raw timings. The duty cycle is given by its bits. -/
inductive InfraredSignal where
  | message (protocol : Nat) (address command : UInt32) (repeats : Bool)
  | raw (timings : List UInt32) (frequency dutyCycle : UInt32)
deriving DecidableEq

/-- `PoisonInfraredResult`. -/
structure InfraredResult where
  decoded : Bool
  protocol : Nat
  address : UInt32
  command : UInt32
  repeats : Bool
  rawTimings : List UInt32
  frequency : UInt32
  dutyCycle : UInt32

/-- The result that `poison_infrared_receive` makes of the signal of its handle. -/
def InfraredSignal.result : InfraredSignal → InfraredResult
  | .message protocol address command repeats =>
    { decoded := true, protocol, address, command, repeats
      rawTimings := [], frequency := 0, dutyCycle := 0 }
  | .raw timings frequency dutyCycle =>
    { decoded := false, protocol := 0, address := 0, command := 0, repeats := false
      rawTimings := timings, frequency, dutyCycle }

/-- The signal that `poison_infrared_load_result` gives its handle. -/
def InfraredResult.load (result : InfraredResult) : InfraredSignal :=
  if result.decoded then .message result.protocol result.address result.command result.repeats
  else .raw result.rawTimings result.frequency result.dutyCycle

theorem InfraredSignal.load_result (signal : InfraredSignal) : signal.result.load = signal := by
  cases signal with
  | message protocol address command repeats => rfl
  | raw timings frequency dutyCycle => rfl

/-- `LevelDuration` of a timing that is no reset and no wait. -/
structure LevelDuration where
  level : Bool
  duration : UInt32
deriving DecidableEq

/-- `PoisonSubGhzResult`. -/
structure SubGhzResult where
  frequency : UInt32
  rawTimings : List LevelDuration
  decoded : Option CString

/-- `PoisonToolInfraredOperation` and `PoisonToolSubGhzOperation`; infrared has no analysis. -/
inductive RadioOperation where
  | receive
  | analyze
  | transmit
deriving DecidableEq

/-- `PoisonToolInfraredRequest` and `PoisonToolSubGhzRequest`; infrared has no frequency. -/
structure RadioRequest where
  operation : RadioOperation
  frequencyHz : UInt32
  timeoutMs : UInt32
  maximumTimings : Nat
  exactConfirmation : Bool

/-- What both validations of a request check. -/
def RadioRequest.bounded (request : RadioRequest) (maximum : UInt32) : Bool :=
  request.timeoutMs != 0 && decide (request.timeoutMs ≤ radioTimeoutMaxMs) &&
    request.maximumTimings != 0 && decide (request.maximumTimings ≤ maximum.toNat)

/-- `poison_tool_infrared_request_validate`. -/
def infraredRequestValidate (request : RadioRequest) (granted : UInt32) : Bool :=
  request.bounded maxTimingsAmount &&
    match request.operation with
    | .transmit => granted &&& 2 != 0 && request.exactConfirmation
    | _ => granted &&& 1 != 0

/-- `poison_tool_subghz_request_validate`. -/
def subGhzRequestValidate (request : RadioRequest) (granted : UInt32) : Bool :=
  request.frequencyHz != 0 && decide (request.frequencyHz ≤ 1000000000) &&
    request.bounded subGhzRawTimingsMax &&
    match request.operation with
    | .receive => granted &&& 1 != 0
    | .analyze => granted &&& 2 != 0
    | .transmit => granted &&& 4 != 0 && request.exactConfirmation

/-- `PoisonToolSubGhzPolicySnapshot`. -/
structure SubGhzPolicySnapshot where
  hardwareFrequencySupported : Bool
  regionProvisioned : Bool
  regionFrequencyAllowed : Bool
  profileRegionMatches : Bool
  toolEnabled : Bool
  classroomRestricted : Bool
  classroomInstructor : Bool
  roleCapabilities : Capabilities
  profileCapabilities : Capabilities

/-- The capabilities a request needs. -/
def radioCapabilities (operation : RadioOperation) : Capabilities :=
  let required := capabilityControl ||| capabilityRadio
  if operation = .transmit then required ||| capabilityDestructive else required

/-- `poison_tool_subghz_policy_allows`. -/
def subGhzPolicyAllows (request : RadioRequest) (policy : SubGhzPolicySnapshot) : Bool :=
  let required := radioCapabilities request.operation
  if !policy.hardwareFrequencySupported || !policy.profileRegionMatches || !policy.toolEnabled then
    false
  else if policy.roleCapabilities &&& required != required ||
      (policy.profileCapabilities != 0 && policy.profileCapabilities &&& required != required) then
    false
  else if request.operation == .transmit &&
      (!policy.regionProvisioned || !policy.regionFrequencyAllowed) then
    false
  else !(policy.classroomRestricted && request.operation != .receive && !policy.classroomInstructor)

/-- What a command reads of the device and the active profile. -/
structure PolicyReading where
  profile : Option Profile
  regionName : Option CString
  regionProvisioned : Bool
  regionAllows : UInt32 → Bool
  hardwareSupports : UInt32 → Bool

/-- `poison_tools_profile_enables_tool`. -/
def profileEnablesTool (profile : Profile) (toolId : CString) : Bool :=
  profile.enabledTools.isEmpty || profile.enabledTools.contains toolId

/-- `poison_tools_subghz_policy_snapshot`, of a profile that can be copied. -/
def PolicyReading.snapshot (reading : PolicyReading) (request : RadioRequest) (role : Role)
    (profile : Profile) : SubGhzPolicySnapshot where
  hardwareFrequencySupported := reading.hardwareSupports request.frequencyHz
  regionProvisioned := reading.regionProvisioned
  regionFrequencyAllowed := reading.regionAllows request.frequencyHz
  profileRegionMatches := profile.radioRegion == .literal "device" ||
    reading.regionName == some profile.radioRegion
  toolEnabled := profileEnablesTool profile (.literal "sub-ghz.receive")
  classroomRestricted := profile.classroomRestricted
  classroomInstructor := profile.classroomPolicy == .literal "instructor"
  roleCapabilities := roleCapabilities role
  profileCapabilities := profile.capabilityMask.toUInt32

/-- `poison_tool_subghz_live_policy`. -/
def subGhzLivePolicy (request : RadioRequest) (role : Role) (reading : PolicyReading) : Bool :=
  reading.profile.any fun profile =>
    subGhzPolicyAllows request (reading.snapshot request role profile)

/-- What an execution meets: whether memory is given, the run cancelled and the radio opened,
what comes in before the time is up, whether the evidence can be encoded and a signal loaded,
and whether the result and a derived artifact are published. -/
structure Surroundings where
  memory : Bool
  cancelled : Bool
  opens : Bool
  infraredHeard : Option InfraredSignal
  subGhzHeard : Option (List LevelDuration × Option CString)
  encodes : Bool
  loads : Bool
  policy : PolicyReading
  published : Bool
  derivedPublished : Bool

/-- A signal of one of the radios. -/
inductive RadioSignal where
  | infrared (signal : InfraredSignal)
  | subGhz (frequency : UInt32) (timings : List LevelDuration)
deriving DecidableEq

/-- What is seen of the service. Runs are numbered. A receive or analyze command is seen when
its result is published, with what was captured. -/
inductive CaptureEvent where
  | started (run : Nat) (role : Role)
  | accepted (run : Nat) (commandId payload : CString)
  | received (run : Nat) (signal : Option RadioSignal)
  | sent (run : Nat) (payload : CString) (policy : PolicyReading) (signal : RadioSignal)

/-- The service with its captures, and what was seen of it, the latest first. -/
structure CaptureSystem where
  base : ToolSystem
  infraredCapture : Option InfraredResult
  subGhzCapture : Option SubGhzResult
  history : List CaptureEvent

namespace CaptureSystem

/-- The service after boot. -/
def init : CaptureSystem := ⟨.init, none, none, []⟩

variable (system : CaptureSystem) (around : Surroundings)

/-- The service that has published the result of a receive command, if it could. -/
def publish (signal : Option RadioSignal) : CaptureSystem :=
  if around.published then
    { system with history := .received system.base.started signal :: system.history }
  else system

/-- The service whose adapter has sent a signal. -/
def send (signal : RadioSignal) : CaptureSystem :=
  { system with
    history := .sent system.base.started system.base.tools.pendingPayload around.policy signal ::
      system.history }

/-- `poison_tool_infrared_receive`: the signal, if it is captured. -/
def infraredReceive (request : RadioRequest) : Option InfraredSignal :=
  if !infraredRequestValidate request 1 || request.operation != .receive || !around.opens then none
  else
    around.infraredHeard.filter fun signal =>
      (signal.result.decoded ||
        decide (signal.result.rawTimings.length ≤ request.maximumTimings)) && around.encodes

/-- `poison_tools_execute_infrared_receive`. -/
def executeInfraredReceive : CaptureSystem :=
  let payload := system.base.tools.pendingPayload
  match jsonUint payload (.literal "timeout_ms") 1 5000,
      jsonUint payload (.literal "maximum_timings") 1 maxTimingsAmount with
  | some timeoutMs, some maximumTimings =>
    let system := { system with infraredCapture := none }
    if !around.memory then system.publish around none
    else
      match infraredReceive around ⟨.receive, 0, timeoutMs, maximumTimings.toNat, false⟩ with
      | none => system.publish around none
      | some signal =>
        if around.published then
          { system.publish around (some (.infrared signal)) with
            infraredCapture := some signal.result }
        else system
  | _, _ => system

/-- `poison_tool_infrared_transmit`: the signal that `poison_infrared_transmit_once` is called
with, if it is. -/
def infraredTransmit (request : RadioRequest) (signal : InfraredResult) : Option InfraredSignal :=
  if !infraredRequestValidate request 2 || request.operation != .transmit then none
  else if around.cancelled then none
  else if (!signal.decoded && decide (signal.rawTimings.length > request.maximumTimings)) ||
      !around.encodes then
    none
  else if !around.opens || !around.loads then none
  else some signal.load

/-- `poison_tools_execute_infrared_transmit`. -/
def executeInfraredTransmit : CaptureSystem :=
  match system.infraredCapture,
      jsonBool system.base.tools.pendingPayload (.literal "exact_confirmation") with
  | some signal, some exactConfirmation =>
    if roleCapabilities system.base.tools.role &&& capabilityDestructive == 0 || !around.memory then
      system
    else
      match infraredTransmit around
          ⟨.transmit, 0, 5000, maxTimingsAmount.toNat, exactConfirmation⟩ signal with
      | some sent => system.send around (.infrared sent)
      | none => system
  | _, _ => system

/-- `poison_tool_subghz_receive`: the result, if there is one. -/
def subGhzReceive (request : RadioRequest) (granted : UInt32) : Option SubGhzResult :=
  if !subGhzRequestValidate request granted || request.operation == .transmit then none
  else if around.cancelled || !around.opens then none
  else if !subGhzLivePolicy request system.base.tools.role around.policy then none
  else
    (around.subGhzHeard.map fun heard => ⟨request.frequencyHz, heard.1, heard.2⟩).filter
      fun result : SubGhzResult =>
        decide (result.rawTimings.length ≤ request.maximumTimings) && around.encodes

/-- `poison_tools_execute_subghz_receive`. A decoded signal is published as an artifact too,
and the capture is kept if both are published. -/
def executeSubGhzReceive (operation : RadioOperation) : CaptureSystem :=
  let payload := system.base.tools.pendingPayload
  match jsonUint payload (.literal "frequency_hz") 1 1000000000,
      jsonUint payload (.literal "timeout_ms") 1 60000,
      jsonUint payload (.literal "maximum_timings") 1 subGhzRawTimingsMax with
  | some frequency, some timeoutMs, some maximumTimings =>
    let system := { system with subGhzCapture := none }
    if !around.memory then system.publish around none
    else
      match system.subGhzReceive around
          ⟨operation, frequency, timeoutMs, maximumTimings.toNat, false⟩
          (if operation = .analyze then 2 else 1) with
      | none => system.publish around none
      | some result =>
        let signal := .subGhz result.frequency result.rawTimings
        if around.published && (result.decoded.isNone || around.derivedPublished) then
          { system.publish around (some signal) with subGhzCapture := some result }
        else system.publish around (some signal)
  | _, _, _ => system

/-- `poison_tool_subghz_transmit`: `poison_subghz_transmit_raw` is called, with the frequency
and the timings of the signal. -/
def subGhzTransmit (request : RadioRequest) (signal : SubGhzResult) : Option RadioSignal :=
  if !subGhzRequestValidate request 4 || request.operation != .transmit ||
      signal.frequency != request.frequencyHz ||
      decide (signal.rawTimings.length > request.maximumTimings) then
    none
  else if around.cancelled then none
  else if !around.encodes || !around.opens then none
  else if !subGhzLivePolicy request system.base.tools.role around.policy then none
  else some (.subGhz signal.frequency signal.rawTimings)

/-- `poison_tools_execute_subghz_transmit`. -/
def executeSubGhzTransmit : CaptureSystem :=
  match system.subGhzCapture,
      jsonBool system.base.tools.pendingPayload (.literal "exact_confirmation") with
  | some signal, some exactConfirmation =>
    if !around.memory then system
    else
      match system.subGhzTransmit around
          ⟨.transmit, signal.frequency, 5000, signal.rawTimings.length, exactConfirmation⟩
          signal with
      | some sent => system.send around sent
      | none => system
  | _, _ => system

/-- `poison_tools_execute_pending`, as far as captures go. -/
def executePending : CaptureSystem :=
  let tools := system.base.tools
  if tools.toolId == .literal "infrared.receive" then
    if tools.pendingCommandId == .literal "infrared.transmit" then
      system.executeInfraredTransmit around
    else system.executeInfraredReceive around
  else if tools.toolId == .literal "sub-ghz.receive" then
    if tools.pendingCommandId == .literal "sub-ghz.transmit" then
      system.executeSubGhzTransmit around
    else
      system.executeSubGhzReceive around
        (if tools.pendingCommandId == .literal "sub-ghz.analyze" then .analyze else .receive)
  else system

end CaptureSystem

/-- A step of the callers or the worker, or the whole of an adapter's execution, which ends with
its return. -/
inductive CaptureStep where
  | other (operation : ToolStep)
  | execute (around : Surroundings)

namespace CaptureSystem

/-- What is seen of a step of the callers and the worker. -/
def eventsOf (before next : ToolSystem) : List ToolObservation → List CaptureEvent
  | [.queued _ _] =>
    [.accepted next.started next.tools.pendingCommandId next.tools.pendingPayload]
  | _ =>
    if before.started < next.started then [.started next.started next.tools.role] else []

/-- One step. The last section of `poison_tools_run_stop` clears the captures of the run it
stops. -/
def step (system : CaptureSystem) : CaptureStep → CaptureSystem
  | .execute around =>
    if system.base.worker = .executing then
      { system.executePending around with base := (system.base.step .adapterReturn).1 }
    else system
  | .other .adapterReturn => system
  | .other operation =>
    let next := system.base.step operation
    let history := eventsOf system.base next.1 next.2 ++ system.history
    match next.2 with
    | [.stopped _] => ⟨next.1, none, none, history⟩
    | _ => { system with base := next.1, history }

end CaptureSystem

end PoisonedOS
