import PoisonedOS.Workloads.Limits

/-!
# Limits of the JavaScript runtime

A managed script counts eleven resources and the time since it started. The first call that
would pass a limit leaves its reason, and no later call is allowed. A limit of zero is no
limit. The script's thread tells the reason as a text in its last event, by which the
workload finds the reason it ends with.
-/

namespace PoisonedOS

/-- `JsLimitReason`, in the order of the source. -/
inductive JsLimitReason where
  | none
  | fuel
  | wallTime
  | heap
  | source
  | module
  | parser
  | stack
  | callback
  | timer
  | handle
  | log
  | artifact
deriving DecidableEq, Repr

/-- `JsLimitsConfig`. -/
structure JsLimitsConfig where
  heapBytes : UInt32
  sourceBytes : UInt32
  modules : UInt16
  parserDepth : UInt16
  stackDepth : UInt16
  fuelLimit : UInt32
  callbacks : UInt16
  timers : UInt16
  openHandles : UInt16
  logs : UInt32
  artifacts : UInt16
  wallTimeMs : UInt32

/-- `JsLimitsUsage`. -/
structure JsLimitsUsage where
  heapBytes : UInt32 := 0
  sourceBytes : UInt32 := 0
  modules : UInt16 := 0
  parserDepth : UInt16 := 0
  stackDepth : UInt16 := 0
  fuel : UInt32 := 0
  callbacks : UInt16 := 0
  timers : UInt16 := 0
  openHandles : UInt16 := 0
  logs : UInt32 := 0
  artifacts : UInt16 := 0
deriving DecidableEq

/-- `JsLimits`. -/
structure JsLimits where
  config : JsLimitsConfig
  usage : JsLimitsUsage
  startTick : UInt32
  reason : JsLimitReason

/-- The sums of `js_limits_account`. -/
def JsLimitsUsage.add (usage increment : JsLimitsUsage) : JsLimitsUsage where
  heapBytes := usage.heapBytes + increment.heapBytes
  sourceBytes := usage.sourceBytes + increment.sourceBytes
  modules := usage.modules + increment.modules
  parserDepth := usage.parserDepth + increment.parserDepth
  stackDepth := usage.stackDepth + increment.stackDepth
  fuel := usage.fuel + increment.fuel
  callbacks := usage.callbacks + increment.callbacks
  timers := usage.timers + increment.timers
  openHandles := usage.openHandles + increment.openHandles
  logs := usage.logs + increment.logs
  artifacts := usage.artifacts + increment.artifacts

/-- `js_limits_reason_text`. -/
def JsLimitReason.text : JsLimitReason → CString
  | .fuel => .literal "javascript fuel limit exceeded"
  | .wallTime => .literal "javascript wall-time limit exceeded"
  | .heap => .literal "javascript heap limit exceeded"
  | .source => .literal "javascript source limit exceeded"
  | .module => .literal "javascript module limit exceeded"
  | .parser => .literal "javascript parser limit exceeded"
  | .stack => .literal "javascript stack limit exceeded"
  | .callback => .literal "javascript callback limit exceeded"
  | .timer => .literal "javascript timer limit exceeded"
  | .handle => .literal "javascript handle limit exceeded"
  | .log => .literal "javascript log limit exceeded"
  | .artifact => .literal "javascript artifact limit exceeded"
  | .none => .literal "javascript limit not exceeded"

namespace JsLimits

/-- `js_limits_init`. -/
def init (config : JsLimitsConfig) (startTick : UInt32) : JsLimits :=
  { config, usage := {}, startTick, reason := .none }

/-- The comparisons of `js_limits_account`; `exceeds32` and `exceeds16` there are those of
`poison_workload_account`. -/
def exceededReason (limits : JsLimits) (increment : JsLimitsUsage) : JsLimitReason :=
  let config := limits.config
  let usage := limits.usage
  if config.heapBytes != 0 && exceeds usage.heapBytes increment.heapBytes config.heapBytes then
    .heap
  else if config.sourceBytes != 0 &&
      exceeds usage.sourceBytes increment.sourceBytes config.sourceBytes then
    .source
  else if config.modules != 0 && exceeds16 usage.modules increment.modules config.modules then
    .module
  else if config.parserDepth != 0 &&
      exceeds16 usage.parserDepth increment.parserDepth config.parserDepth then
    .parser
  else if config.stackDepth != 0 &&
      exceeds16 usage.stackDepth increment.stackDepth config.stackDepth then
    .stack
  else if config.fuelLimit != 0 && exceeds usage.fuel increment.fuel config.fuelLimit then
    .fuel
  else if config.callbacks != 0 &&
      exceeds16 usage.callbacks increment.callbacks config.callbacks then
    .callback
  else if config.timers != 0 && exceeds16 usage.timers increment.timers config.timers then
    .timer
  else if config.openHandles != 0 &&
      exceeds16 usage.openHandles increment.openHandles config.openHandles then
    .handle
  else if config.logs != 0 && exceeds usage.logs increment.logs config.logs then
    .log
  else if config.artifacts != 0 &&
      exceeds16 usage.artifacts increment.artifacts config.artifacts then
    .artifact
  else .none

/-- `js_limits_account`. -/
def account (limits : JsLimits) (increment : JsLimitsUsage) : Bool × JsLimits :=
  if limits.reason != .none then (false, limits)
  else
    let reason := limits.exceededReason increment
    if reason != .none then (false, { limits with reason })
    else (true, { limits with usage := limits.usage.add increment })

/-- `js_limits_poll`. -/
def poll (limits : JsLimits) (nowTick tickFrequency : UInt32) : Bool × JsLimits :=
  if limits.reason != .none then (true, limits)
  else
    let accounted :=
      limits.account { fuel := if limits.usage.fuel = 0xFFFFFFFF then 0 else 1 }
    if !accounted.1 then (true, accounted.2)
    else
      let limits := accounted.2
      if limits.config.fuelLimit != 0 && decide (limits.usage.fuel > limits.config.fuelLimit) then
        (true, { limits with reason := .fuel })
      else if limits.config.wallTimeMs != 0 && tickFrequency != 0 then
        let elapsedTicks := nowTick - limits.startTick
        let elapsedMs := elapsedTicks.toUInt64 * 1000 / tickFrequency.toUInt64
        if elapsedMs > limits.config.wallTimeMs.toUInt64 then
          (true, { limits with reason := .wallTime })
        else (false, limits)
      else (false, limits)

/-- `js_limits_triggered`. -/
def triggered (limits : JsLimits) : Bool := limits.reason != .none

end JsLimits

/-- `furi_kernel_get_tick_frequency`, which is `configTICK_RATE_HZ_RAW`. -/
def kernelTickFrequency : UInt32 := 1000

/-! ## The workload of a script -/

/-- `JsThreadEvent`. -/
inductive JsThreadEvent where
  | done
  | error
  | print
  | errorTrace
deriving DecidableEq, Repr

/-- The table of `poison_workload_js_limit_reason`. -/
def jsLimitReasons : List (JsLimitReason × TerminalReason) :=
  [(.heap, .heapLimit), (.source, .sourceLimit), (.module, .moduleLimit),
    (.parser, .parserLimit), (.stack, .stackLimit), (.fuel, .fuelLimit),
    (.callback, .callbackLimit), (.timer, .timerLimit), (.handle, .handleLimit),
    (.log, .logLimit), (.artifact, .artifactLimit)]

/-- `poison_workload_js_limit_reason`. -/
def workloadJsLimitReason (message : Option CString) : TerminalReason :=
  match message with
  | none => .none
  | some message =>
    match jsLimitReasons.find? fun entry => message == entry.1.text with
    | none => .none
    | some entry => entry.2

namespace Workload

/-- `poison_workload_js_event`. -/
def jsEvent (workload : Workload) (event : JsThreadEvent) (message : Option CString) : Workload :=
  match event with
  | .print => (workload.appendConsole .stdout (message.getD (.literal ""))).2
  | .error | .errorTrace =>
    if workload.state != .cancelling then
      let limitReason := workloadJsLimitReason message
      if limitReason != .none then (workload.forceTerminate limitReason).2
      else ((workload.appendConsole .stderr (message.getD (.literal ""))).2.finish false).2
    else workload
  | .done => if workload.state != .cancelling then (workload.finish true).2 else workload

/-- The limits that `poison_workload_js_start_managed` gives to the script. -/
def jsLimitsConfig (workload : Workload) : JsLimitsConfig where
  heapBytes := workload.limits.heapBytes
  sourceBytes := workload.limits.sourceBytes
  modules := workload.limits.modules
  parserDepth := workload.limits.parserDepth
  stackDepth := workload.limits.stackDepth
  fuelLimit := workload.limits.fuel
  callbacks := workload.limits.callbacks
  timers := workload.limits.timers
  openHandles := workload.limits.openHandles
  logs := workload.limits.logs
  artifacts := workload.limits.artifacts
  wallTimeMs := workload.limits.wallMs

end Workload

/-- How the interpreter returned: without an error, or with one and the trace it left. -/
structure MjsError where
  text : CString
  stackTrace : Option CString

/-- The events that `js_thread` ends with. -/
def JsLimits.lastEvents (limits : JsLimits) (error : Option MjsError) :
    List (JsThreadEvent × Option CString) :=
  if limits.triggered then [(.error, some limits.reason.text)]
  else
    match error with
    | some error =>
      (.error, some error.text) ::
        match error.stackTrace with
        | some trace => [(.errorTrace, some trace)]
        | none => []
    | none => [(.done, none)]

def Workload.afterScript (workload : Workload) (limits : JsLimits) (error : Option MjsError) :
    Workload :=
  (limits.lastEvents error).foldl
    (fun workload event => workload.jsEvent event.1 event.2) workload

/-! ## What a client may ask for -/

/-- `PB_Poison_WorkloadLimits`. -/
structure PbWorkloadLimits where
  heapBytes : UInt32
  sourceBytes : UInt32
  modules : UInt32
  parserDepth : UInt32
  stackDepth : UInt32
  fuel : UInt32
  callbacks : UInt32
  timers : UInt32
  openHandles : UInt32
  logs : UInt32
  artifacts : UInt32
  wallMs : UInt32
  artifactBytes : UInt32

/-- `rpc_poison_workload_limits_valid`. -/
def PbWorkloadLimits.valid (limits : PbWorkloadLimits) : Bool :=
  decide (limits.heapBytes > 0) && decide (limits.heapBytes ≤ 64 * 1024) &&
    decide (limits.sourceBytes > 0) && decide (limits.sourceBytes ≤ 256 * 1024) &&
    decide (limits.modules > 0) && decide (limits.modules ≤ 32) &&
    decide (limits.parserDepth > 0) && decide (limits.parserDepth ≤ 64) &&
    decide (limits.stackDepth > 0) && decide (limits.stackDepth ≤ 64) &&
    decide (limits.fuel > 0) && decide (limits.fuel ≤ 10000000) &&
    decide (limits.callbacks ≤ 64) && decide (limits.timers ≤ 64) &&
    decide (limits.openHandles ≤ 32) && decide (limits.logs > 0) &&
    decide (limits.logs ≤ 64 * 1024) && decide (limits.artifacts ≤ 8) &&
    decide (limits.artifactBytes ≤ 8 * 1024 * 1024) &&
    ((limits.artifacts == 0) == (limits.artifactBytes == 0)) &&
    decide (limits.wallMs > 0) && decide (limits.wallMs ≤ 60000)

/-- `rpc_poison_workload_limits`. -/
def PbWorkloadLimits.limits (input : PbWorkloadLimits) : WorkloadUsage where
  heapBytes := input.heapBytes
  sourceBytes := input.sourceBytes
  modules := input.modules.toUInt16
  parserDepth := input.parserDepth.toUInt16
  stackDepth := input.stackDepth.toUInt16
  fuel := input.fuel
  callbacks := input.callbacks.toUInt16
  timers := input.timers.toUInt16
  openHandles := input.openHandles.toUInt16
  logs := input.logs
  artifacts := input.artifacts.toUInt16
  wallMs := input.wallMs
  artifactBytes := input.artifactBytes

end PoisonedOS
