import PoisonedOS.Packages.ContentUpdate
import PoisonedOS.Rpc.Confirmation

/-!
# Managed workloads

A workload is accounted for while it runs: thirteen counters, each with its limit,
a console and a list of artifacts. Several entry points advance the counters, and
one that would exceed a limit ends the workload instead.

Whether a file has the announced content, and whether evidence of it could be
captured, is answered by the storage. The locks and the table of managed workloads
are not modelled: each call here is made under the workload's lock.
-/

namespace PoisonedOS

/-- `PoisonWorkloadState`, in the order of the source. -/
inductive WorkloadState where
  | queued
  | running
  | cancelling
  | completed
  | failed
  | cancelled
  | timedOut
  | crashed
  | disconnected
deriving DecidableEq, Repr

/-- `PoisonWorkloadTerminalReason`. -/
inductive TerminalReason where
  | none
  | completed
  | cancelled
  | timeout
  | crash
  | disconnect
  | heapLimit
  | sourceLimit
  | moduleLimit
  | parserLimit
  | stackLimit
  | fuelLimit
  | callbackLimit
  | timerLimit
  | handleLimit
  | logLimit
  | artifactLimit
deriving DecidableEq, Repr

/-- `PoisonWorkloadConsoleType`. -/
inductive ConsoleType where
  | stdout
  | stderr
  | log
  | event
  | truncation
deriving DecidableEq, Repr

/-- `PoisonWorkloadUsage`; `PoisonWorkloadLimits` has the same fields. -/
structure WorkloadUsage where
  heapBytes : UInt32
  sourceBytes : UInt32
  modules : UInt16
  parserDepth : UInt16
  stackDepth : UInt16
  fuel : UInt32
  callbacks : UInt16
  timers : UInt16
  openHandles : UInt16
  logs : UInt32
  artifacts : UInt16
  wallMs : UInt32
  artifactBytes : UInt32
deriving DecidableEq

/-- `PoisonWorkloadArtifactState`. -/
inductive ArtifactState where
  | isPartial
  | project
  | evidence
deriving DecidableEq, Repr

/-- `PoisonWorkloadArtifact`. -/
structure WorkloadArtifact where
  artifactId : CString
  path : CString
  size : UInt64
  sha256 : Digest
  state : ArtifactState
  evidenceId : CString
deriving DecidableEq

/-- `PoisonWorkloadConsoleFrame`. -/
structure ConsoleFrame where
  sequence : UInt64
  consoleType : ConsoleType
  text : CString
deriving DecidableEq

/-- `PoisonWorkload`. The two counts are the lengths of the lists. -/
structure Workload where
  workloadId : CString
  projectDigest : CString
  capabilitiesDigest : CString
  state : WorkloadState
  terminalReason : TerminalReason
  limits : WorkloadUsage
  usage : WorkloadUsage
  console : List ConsoleFrame
  nextConsoleSequence : UInt64
  artifacts : List WorkloadArtifact
deriving DecidableEq

/-- What the storage answers to a commit. -/
structure CommitAnswers where
  fileMatches : CString → UInt64 → Digest → Bool
  captured : Bool

/-- `POISON_WORKLOAD_MAX_ID`, the buffer size with its terminator. -/
def workloadMaxId : Nat := 64

/-- `POISON_WORKLOAD_MAX_CONSOLE_FRAMES`. -/
def workloadMaxConsoleFrames : Nat := 32

/-- `POISON_WORKLOAD_MAX_CONSOLE_TEXT`. -/
def workloadMaxConsoleText : Nat := 128

/-- `POISON_WORKLOAD_MAX_ARTIFACTS`. -/
def workloadMaxArtifacts : Nat := 8

/-- `POISON_WORKLOAD_MAX_ARTIFACT_ID`, the buffer size with its terminator. -/
def workloadMaxArtifactId : Nat := 64

/-- `POISON_WORKLOAD_MAX_ARTIFACT_PATH`, the buffer size with its terminator. -/
def workloadMaxArtifactPath : Nat := 257

/-- `bounded_id` of a workload. -/
def boundedWorkloadId (value : CString) : Bool :=
  !value.isEmpty && decide (value.length < workloadMaxId) &&
    value.bytes.all fun byte => isLower byte || isDigit byte || byte == 45 || byte == 95

/-- `poison_workload_artifact_id_valid`. -/
def artifactIdValid (artifactId : CString) : Bool :=
  !artifactId.isEmpty && artifactId.bytes.head? != some 46 &&
    decide (artifactId.length < workloadMaxArtifactId) &&
    artifactId.bytes.all fun byte =>
      isLower byte || isUpper byte || isDigit byte || byte == 45 || byte == 95 || byte == 46

/-- `poison_workload_artifact_path_valid`. -/
def artifactPathValid (path : CString) : Bool :=
  decide (path.length < workloadMaxArtifactPath) && path.startsWith (.literal "/ext/scripts/") &&
    path.contains (.literal "/artifacts/") && !path.contains (.literal "/../") &&
    !path.contains (.literal "/./") && !path.hasByte 92

/-- The counters `memset` leaves. -/
def WorkloadUsage.zero : WorkloadUsage where
  heapBytes := 0
  sourceBytes := 0
  modules := 0
  parserDepth := 0
  stackDepth := 0
  fuel := 0
  callbacks := 0
  timers := 0
  openHandles := 0
  logs := 0
  artifacts := 0
  wallMs := 0
  artifactBytes := 0

/-- The artifact `memset` leaves. -/
def WorkloadArtifact.zero : WorkloadArtifact where
  artifactId := .literal ""
  path := .literal ""
  size := 0
  sha256 := .zero _
  state := .isPartial
  evidenceId := .literal ""

/-- `exceeds`. -/
def exceeds (current increment maximum : UInt32) : Bool :=
  decide (increment > maximum) || decide (current > maximum - increment)

/-- `exceeds16`. -/
def exceeds16 (current increment maximum : UInt16) : Bool :=
  decide (increment > maximum) || decide (current > maximum - increment)

/-- The comparisons of `poison_workload_account`. -/
def WorkloadUsage.over (usage increment limits : WorkloadUsage) : Bool :=
  exceeds usage.heapBytes increment.heapBytes limits.heapBytes ||
    exceeds usage.sourceBytes increment.sourceBytes limits.sourceBytes ||
    exceeds16 usage.modules increment.modules limits.modules ||
    exceeds16 usage.parserDepth increment.parserDepth limits.parserDepth ||
    exceeds16 usage.stackDepth increment.stackDepth limits.stackDepth ||
    exceeds usage.fuel increment.fuel limits.fuel ||
    exceeds16 usage.callbacks increment.callbacks limits.callbacks ||
    exceeds16 usage.timers increment.timers limits.timers ||
    exceeds16 usage.openHandles increment.openHandles limits.openHandles ||
    exceeds usage.logs increment.logs limits.logs ||
    exceeds16 usage.artifacts increment.artifacts limits.artifacts ||
    exceeds usage.wallMs increment.wallMs limits.wallMs ||
    exceeds usage.artifactBytes increment.artifactBytes limits.artifactBytes

/-- The sums of `poison_workload_account`. -/
def WorkloadUsage.add (usage increment : WorkloadUsage) : WorkloadUsage where
  heapBytes := usage.heapBytes + increment.heapBytes
  sourceBytes := usage.sourceBytes + increment.sourceBytes
  modules := usage.modules + increment.modules
  parserDepth := usage.parserDepth + increment.parserDepth
  stackDepth := usage.stackDepth + increment.stackDepth
  fuel := usage.fuel + increment.fuel
  callbacks := usage.callbacks + increment.callbacks
  timers := usage.timers + increment.timers
  openHandles := usage.openHandles + increment.openHandles
  logs := usage.logs + increment.logs
  artifacts := usage.artifacts + increment.artifacts
  wallMs := usage.wallMs + increment.wallMs
  artifactBytes := usage.artifactBytes + increment.artifactBytes

/-- `terminal_state`. -/
def WorkloadState.terminal : WorkloadState → Bool
  | .queued | .running | .cancelling => false
  | _ => true

/-- `state_for_reason`. -/
def stateForReason : TerminalReason → WorkloadState
  | .cancelled => .cancelled
  | .timeout => .timedOut
  | .disconnect => .disconnected
  | .completed => .completed
  | _ => .failed

namespace Workload

/-- `poison_workload_init`. -/
def init (workloadId projectDigest capabilitiesDigest : CString) (limits : WorkloadUsage) :
    Option Workload :=
  if !boundedWorkloadId workloadId || !boundedDigest projectDigest ||
      !boundedDigest capabilitiesDigest || limits.heapBytes == 0 || limits.sourceBytes == 0 ||
      limits.modules == 0 || limits.fuel == 0 || limits.wallMs == 0 then
    none
  else
    some {
      workloadId, projectDigest, capabilitiesDigest
      state := .queued
      terminalReason := .none
      limits
      usage := .zero
      console := []
      nextConsoleSequence := 1
      artifacts := [] }

/-- `poison_workload_start`. -/
def start (workload : Workload) : Bool × Workload :=
  if workload.state != .queued then (false, workload)
  else (true, { workload with state := .running })

/-- `poison_workload_request_cancel`. -/
def requestCancel (workload : Workload) : Bool × Workload :=
  if workload.state != .running then (false, workload)
  else (true, { workload with state := .cancelling })

/-- `poison_workload_force_terminate`. -/
def forceTerminate (workload : Workload) (reason : TerminalReason) : Bool × Workload :=
  if reason == .none || workload.state.terminal then (false, workload)
  else if workload.state != .running && workload.state != .cancelling then (false, workload)
  else (true, { workload with terminalReason := reason, state := stateForReason reason })

/-- `poison_workload_account`. -/
def account (workload : Workload) (increment : WorkloadUsage) (limitReason : TerminalReason) :
    Bool × Workload :=
  if workload.state != .running then (false, workload)
  else if workload.usage.over increment workload.limits then
    workload.forceTerminate (if limitReason == .none then .fuelLimit else limitReason)
  else (true, { workload with usage := workload.usage.add increment })

/-- The text a console call stores. -/
def consoleStored (text : CString) : CString :=
  if decide (text.length > workloadMaxConsoleText) then .literal "[truncated]" else text

def consoleFull (workload : Workload) (text : CString) : Bool :=
  let storedBytes := UInt32.ofNat (consoleStored text).length
  decide (workload.console.length ≥ workloadMaxConsoleFrames - 1) ||
    decide (storedBytes > workload.limits.logs) ||
    decide (workload.usage.logs > workload.limits.logs - storedBytes)

/-- `poison_workload_append_console`. -/
def appendConsole (workload : Workload) (consoleType : ConsoleType) (text : CString) :
    Bool × Workload :=
  if workload.state.terminal then (false, workload)
  else if workload.consoleFull text then
    let truncated :=
      if workload.console.length < workloadMaxConsoleFrames then
        { workload with
          console := workload.console ++
            [⟨workload.nextConsoleSequence, .truncation, .literal "[output limit reached]"⟩]
          nextConsoleSequence := workload.nextConsoleSequence + 1 }
      else workload
    (false, { truncated with
      usage := { workload.usage with logs := workload.limits.logs }
      terminalReason := .logLimit
      state := .failed })
  else
    let frameType :=
      if decide (text.length > workloadMaxConsoleText) then .truncation else consoleType
    (true, { workload with
      console := workload.console ++ [⟨workload.nextConsoleSequence, frameType, consoleStored text⟩]
      nextConsoleSequence := workload.nextConsoleSequence + 1
      usage := { workload.usage with
        logs := workload.usage.logs + UInt32.ofNat (consoleStored text).length } })

/-- `poison_workload_finalize_artifact`. It counts an artifact whose entry stays as
`memset` left it. -/
def finalizeArtifact (workload : Workload) (evidenceRequested : Bool) : Bool × Workload :=
  if workload.state != .running || !evidenceRequested ||
      decide (workload.artifacts.length ≥ workloadMaxArtifacts) ||
      decide (workload.usage.artifacts ≥ workload.limits.artifacts) then
    (false, workload)
  else
    (true, { workload with
      artifacts := workload.artifacts ++ [.zero]
      usage := { workload.usage with artifacts := workload.usage.artifacts + 1 } })

/-- `poison_workload_finish`. -/
def finish (workload : Workload) (success : Bool) : Bool × Workload :=
  if workload.state != .running && workload.state != .cancelling then (false, workload)
  else
    (true, { workload with
      terminalReason := if success then .completed else .crash
      state := if success then .completed else .crashed })

/-- `poison_workload_artifact_find`. -/
def findArtifact (workload : Workload) (artifactId : CString) : Option WorkloadArtifact :=
  workload.artifacts.find? fun artifact => artifact.artifactId == artifactId

/-- Write the artifact that `poison_workload_artifact_find` points to. -/
def replaceArtifact (artifacts : List WorkloadArtifact) (artifact : WorkloadArtifact) :
    List WorkloadArtifact :=
  match artifacts with
  | [] => []
  | first :: rest =>
    if first.artifactId == artifact.artifactId then artifact :: rest
    else first :: replaceArtifact rest artifact

/-- `poison_workload_artifact_begin`. -/
def artifactBegin (workload : Workload) (artifactId projectPath : CString) : Bool × Workload :=
  if workload.state != .running || !artifactIdValid artifactId ||
      !artifactPathValid projectPath then
    (false, workload)
  else
    match workload.findArtifact artifactId with
    | some existing => (existing.path == projectPath, workload)
    | none =>
      if decide (workload.artifacts.length ≥ workloadMaxArtifacts) ||
          decide (workload.artifacts.length ≥ workload.limits.artifacts.toNat) then
        (false, (workload.forceTerminate .artifactLimit).2)
      else
        (true, { workload with
          artifacts := workload.artifacts ++
            [{ WorkloadArtifact.zero with artifactId, path := projectPath }] })

/-- `poison_workload_artifact_commit`. The record that evidence capture fills in has
the identifier it was asked for. -/
def artifactCommit (workload : Workload) (artifactId : CString) (expectedSize : UInt64)
    (expectedSha256 : Digest) (evidenceRequested : Bool) (evidenceId : CString)
    (answers : CommitAnswers) : Bool × Workload :=
  if workload.state != .running || expectedSize == 0 || decide (expectedSize > 0xFFFFFFFF) then
    (false, workload)
  else
    match workload.findArtifact artifactId with
    | none => (false, workload)
    | some artifact =>
      let committed : ArtifactState := if evidenceRequested then .evidence else .project
      if artifact.state != .isPartial then
        (artifact.size == expectedSize && artifact.sha256 == expectedSha256 &&
          artifact.state == committed && (!evidenceRequested || artifact.evidenceId == evidenceId),
          workload)
      else
        let artifactBytes := expectedSize.toUInt32
        if decide (artifactBytes > workload.limits.artifactBytes) ||
            decide (workload.usage.artifactBytes >
              workload.limits.artifactBytes - artifactBytes) then
          (false, (workload.forceTerminate .artifactLimit).2)
        else if !answers.fileMatches artifact.path expectedSize expectedSha256 then
          (false, workload)
        else if evidenceRequested && !answers.captured then (false, workload)
        else
          (true, { workload with
            artifacts := replaceArtifact workload.artifacts { artifact with
              evidenceId := if evidenceRequested then evidenceId else artifact.evidenceId
              state := committed
              size := expectedSize
              sha256 := expectedSha256 }
            usage := { workload.usage with
              artifacts := workload.usage.artifacts + 1
              artifactBytes := workload.usage.artifactBytes + artifactBytes } })

end Workload

/-- A call on a workload. -/
inductive WorkloadCall where
  | start
  | account (increment : WorkloadUsage) (limitReason : TerminalReason)
  | appendConsole (consoleType : ConsoleType) (text : CString)
  | artifactBegin (artifactId projectPath : CString)
  | artifactCommit (artifactId : CString) (expectedSize : UInt64) (expectedSha256 : Digest)
      (evidenceRequested : Bool) (evidenceId : CString) (answers : CommitAnswers)
  | finalizeArtifact (evidenceRequested : Bool)
  | requestCancel
  | finish (success : Bool)
  | forceTerminate (reason : TerminalReason)

/-- The result of a call, and the workload it leaves. -/
def WorkloadCall.apply (call : WorkloadCall) (workload : Workload) : Bool × Workload :=
  match call with
  | .start => workload.start
  | .account increment limitReason => workload.account increment limitReason
  | .appendConsole consoleType text => workload.appendConsole consoleType text
  | .artifactBegin artifactId projectPath => workload.artifactBegin artifactId projectPath
  | .artifactCommit artifactId expectedSize expectedSha256 evidenceRequested evidenceId answers =>
    workload.artifactCommit artifactId expectedSize expectedSha256 evidenceRequested evidenceId
      answers
  | .finalizeArtifact evidenceRequested => workload.finalizeArtifact evidenceRequested
  | .requestCancel => workload.requestCancel
  | .finish success => workload.finish success
  | .forceTerminate reason => workload.forceTerminate reason

end PoisonedOS
