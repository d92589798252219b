import PoisonedOS.Workloads.JsLimits

/-!
# A managed script and its workload

One record holds a workload, the adapter of its script and a mutex. Sessions create, run and
cancel the workload and close; the script runs in a thread of its own and delivers its events
under the mutex. Stopping a script sets a flag that it polls and waits until its thread has
exited.

What is done under the mutex is one step, but that a `CREATE` waits for a thread while it
holds it. Two sessions that wait for one thread both go on when it has exited.
-/

namespace PoisonedOS

/-- An event that a script delivers to its workload. -/
abbrev ScriptEvent := JsThreadEvent × Option CString

/-- Where the thread of a script is. -/
inductive ScriptPhase where
  | running
  /-- It waits for the mutex with an event, and the script goes on after it. -/
  | delivering (event : ScriptEvent)
  /-- The script has returned; these events are left to deliver. -/
  | ending (events : List ScriptEvent)
  /-- It waits for the mutex with the first of the events that are left. -/
  | deliveringLast (event : ScriptEvent) (events : List ScriptEvent)
  | exited
deriving DecidableEq

/-- The thread of a script, and whether it was told to stop. -/
structure Script where
  phase : ScriptPhase
  told : Bool
deriving DecidableEq

/-- Where the handler of a session is. -/
inductive ManagedHandler where
  | idle
  /-- `CREATE` waits for the thread and holds the mutex. -/
  | creating (thread : Nat) (next : Option Workload)
  /-- The cancel was accepted; `js_thread_stop` comes next. -/
  | cancelling
  | cancelWaiting (thread : Nat)
  | cancelEnding
  /-- The session's end has left the mutex; the clean-up comes next. -/
  | closing
  | closeWaiting (thread : Nat)
  | closed
deriving DecidableEq

/-- The parts of a `CREATE` request that decide what it does. -/
structure CreateRequest where
  workloadId : CString
  projectDigest : CString
  capabilitiesDigest : CString
  limits : WorkloadUsage
  /-- The runtime and the capabilities are those of the workload that is there. -/
  sameRuntime : Bool
  /-- The entrypoint is resolved and the project verified. -/
  verified : Bool

/-- The parts of a `FINALIZE_ARTIFACT` request that decide what it does. -/
structure ArtifactRequest where
  artifactId : CString
  path : CString
  size : UInt64
  sha256 : Digest
  evidenceRequested : Bool
  evidenceId : CString
  answers : CommitAnswers
  /-- The path is resolved within the project, and evidence is allowed for. -/
  allowed : Bool

/-- `PoisonManagedWorkload` with the threads it has started. No workload is one whose project
digest is empty. -/
structure ManagedScript where
  workload : Option Workload
  scripts : List Script
  thread : Option Nat
  attached : Bool
  handlers : Nat → ManagedHandler
  lockedBy : Option Nat

/-- What happens to the record. -/
inductive ManagedEvent where
  | create (session : Nat) (request : CreateRequest)
  | createJoined (session : Nat)
  | run (session : Nat) (threadMade : Bool)
  | artifact (session : Nat) (request : ArtifactRequest)
  | cancel (session : Nat)
  | cancelStop (session : Nat)
  | cancelJoined (session : Nat)
  | cancelEnd (session : Nat)
  | close (session : Nat)
  | closeStop (session : Nat)
  | closeJoined (session : Nat)
  | print (thread : Nat) (message : CString)
  | returns (thread : Nat) (events : List ScriptEvent)
  | next (thread : Nat)
  | deliver (thread : Nat)
  | exit (thread : Nat)

namespace ManagedScript

/-- A record that was just attached. -/
def start : ManagedScript where
  workload := none
  scripts := []
  thread := none
  attached := false
  handlers _ := .idle
  lockedBy := none

/-- The handler of a session goes on. -/
def handle (managed : ManagedScript) (session : Nat) (handler : ManagedHandler) :
    ManagedScript :=
  { managed with
    handlers := fun other => if other = session then handler else managed.handlers other }

/-- The thread of a script goes on. -/
def script (managed : ManagedScript) (thread : Nat) (phase : ScriptPhase) : ManagedScript :=
  { managed with
    scripts := managed.scripts.modify thread fun script => { script with phase := phase } }

/-- The flag that `js_thread_stop` sets. -/
def tell (managed : ManagedScript) (thread : Nat) : ManagedScript :=
  { managed with
    scripts := managed.scripts.modify thread fun script => { script with told := true } }

/-- A thread that can be joined. -/
def hasExited (managed : ManagedScript) (thread : Nat) : Bool :=
  match managed.scripts[thread]? with
  | some script => script.phase == .exited
  | none => false

/-- The session is idle, and the mutex is free. -/
def enters (managed : ManagedScript) (session : Nat) : Bool :=
  managed.handlers session == .idle && managed.lockedBy.isNone

/-- The workload that a `CREATE` makes, if its checks pass. -/
def CreateRequest.workload (request : CreateRequest) : Option Workload :=
  if !request.verified then none
  else Workload.init request.workloadId request.projectDigest request.capabilitiesDigest
    request.limits

def CreateRequest.repeats (request : CreateRequest) (workload : Workload) : Bool :=
  workload.workloadId == request.workloadId && workload.projectDigest == request.projectDigest &&
    workload.capabilitiesDigest == request.capabilitiesDigest && request.sameRuntime &&
    workload.state == .queued

/-- `poison_workload_js_cleanup` after the join, and the rest of `rpc_poison_workload_create`. -/
def replace (managed : ManagedScript) (next : Option Workload) : ManagedScript :=
  { managed with workload := next, thread := none, attached := false }

/-- `rpc_poison_workload_create` as far as the join. -/
def create (managed : ManagedScript) (session : Nat) (request : CreateRequest) : ManagedScript :=
  if !managed.enters session then managed
  else
    match managed.workload with
    | none => { managed with workload := CreateRequest.workload request }
    | some workload =>
      if CreateRequest.repeats request workload || !workload.state.terminal then managed
      else
        match managed.thread with
        | none => managed.replace (CreateRequest.workload request)
        | some thread =>
          { (managed.tell thread).handle session
              (.creating thread (CreateRequest.workload request)) with
            lockedBy := some session }

/-- The thread that a `CREATE` waits for has exited. -/
def createJoined (managed : ManagedScript) (session : Nat) : ManagedScript :=
  match managed.handlers session with
  | .creating thread next =>
    if managed.hasExited thread then
      { (managed.replace next).handle session .idle with lockedBy := none }
    else managed
  | _ => managed

/-- `rpc_poison_workload_run`. -/
def run (managed : ManagedScript) (session : Nat) (threadMade : Bool) : ManagedScript :=
  if !managed.enters session then managed
  else
    match managed.workload with
    | none => managed
    | some workload =>
      if !workload.start.1 then managed
      else if threadMade then
        { managed with
          workload := some workload.start.2
          scripts := managed.scripts ++ [{ phase := .running, told := false }]
          thread := some managed.scripts.length
          attached := true }
      else
        { managed with
          workload := some (workload.start.2.finish false).2
          thread := none
          attached := false }

/-- `rpc_poison_workload_finalize_artifact` of a workload. -/
def ArtifactRequest.apply (request : ArtifactRequest) (workload : Workload) : Workload :=
  if workload.state != .running || !request.allowed then workload
  else
    let begun := workload.artifactBegin request.artifactId request.path
    if !begun.1 then begun.2
    else
      (begun.2.artifactCommit request.artifactId request.size request.sha256
        request.evidenceRequested request.evidenceId request.answers).2

/-- A `FINALIZE_ARTIFACT` request. -/
def artifact (managed : ManagedScript) (session : Nat) (request : ArtifactRequest) :
    ManagedScript :=
  if !managed.enters session then managed
  else { managed with workload := managed.workload.map (ArtifactRequest.apply request) }

/-- `rpc_poison_workload_cancel_active` and `poison_workload_js_cancel` as far as the stop. -/
def cancel (managed : ManagedScript) (session : Nat) : ManagedScript :=
  if !managed.enters session then managed
  else
    match managed.workload with
    | none => managed
    | some workload =>
      if managed.thread.isNone || !managed.attached || !workload.requestCancel.1 then managed
      else { managed.handle session .cancelling with workload := some workload.requestCancel.2 }

/-- `js_thread_stop` of a cancel, as far as the join. -/
def cancelStop (managed : ManagedScript) (session : Nat) : ManagedScript :=
  match managed.handlers session, managed.thread with
  | .cancelling, some thread => (managed.tell thread).handle session (.cancelWaiting thread)
  | _, _ => managed

/-- The thread that a cancel waits for has exited. -/
def cancelJoined (managed : ManagedScript) (session : Nat) : ManagedScript :=
  match managed.handlers session with
  | .cancelWaiting thread =>
    if managed.hasExited thread then
      { managed.handle session .cancelEnding with thread := none }
    else managed
  | _ => managed

/-- The end of `poison_workload_js_cancel`. -/
def cancelEnd (managed : ManagedScript) (session : Nat) : ManagedScript :=
  match managed.handlers session with
  | .cancelEnding =>
    if managed.lockedBy.isNone then
      let idle := managed.handle session .idle
      if managed.attached then
        { idle with
          workload := managed.workload.map fun workload =>
            (workload.forceTerminate .cancelled).2 }
      else idle
    else managed
  | _ => managed

/-- `rpc_system_poison_workload_free` as far as the clean-up. -/
def close (managed : ManagedScript) (session : Nat) : ManagedScript :=
  if !managed.enters session then managed
  else
    { managed.handle session .closing with
      workload := managed.workload.map fun workload => (workload.forceTerminate .disconnect).2 }

/-- `poison_workload_js_cleanup` of a session's end, as far as the join. -/
def closeStop (managed : ManagedScript) (session : Nat) : ManagedScript :=
  match managed.handlers session with
  | .closing =>
    match managed.thread with
    | some thread => (managed.tell thread).handle session (.closeWaiting thread)
    | none => { managed.handle session .closed with attached := false }
  | _ => managed

/-- The thread that a session's end waits for has exited. -/
def closeJoined (managed : ManagedScript) (session : Nat) : ManagedScript :=
  match managed.handlers session with
  | .closeWaiting thread =>
    if managed.hasExited thread then
      { managed.handle session .closed with thread := none, attached := false }
    else managed
  | _ => managed

/-- The script prints: it reaches for the mutex if the adapter has a workload. -/
def print (managed : ManagedScript) (thread : Nat) (message : CString) : ManagedScript :=
  match managed.scripts[thread]? with
  | some ⟨.running, _⟩ =>
    if managed.attached then managed.script thread (.delivering (.print, some message))
    else managed
  | _ => managed

/-- The script has returned to `js_thread`. -/
def returns (managed : ManagedScript) (thread : Nat) (events : List ScriptEvent) :
    ManagedScript :=
  match managed.scripts[thread]? with
  | some ⟨.running, _⟩ => managed.script thread (.ending events)
  | _ => managed

/-- `js_thread` comes to its next event. -/
def next (managed : ManagedScript) (thread : Nat) : ManagedScript :=
  match managed.scripts[thread]? with
  | some ⟨.ending (event :: events), _⟩ =>
    if managed.attached then managed.script thread (.deliveringLast event events)
    else managed.script thread (.ending events)
  | _ => managed

/-- The event is for the workload of the adapter, if it has one. -/
def event (managed : ManagedScript) (event : ScriptEvent) : ManagedScript :=
  if managed.attached then
    { managed with
      workload := managed.workload.map fun workload => workload.jsEvent event.1 event.2 }
  else managed

/-- `poison_workload_js_event`, once the mutex is free. -/
def deliver (managed : ManagedScript) (thread : Nat) : ManagedScript :=
  if managed.lockedBy.isSome then managed
  else
    match managed.scripts[thread]? with
    | some ⟨.delivering event, _⟩ => (managed.event event).script thread .running
    | some ⟨.deliveringLast event events, _⟩ =>
      (managed.event event).script thread (.ending events)
    | _ => managed

/-- The thread exits after its last event. -/
def exit (managed : ManagedScript) (thread : Nat) : ManagedScript :=
  match managed.scripts[thread]? with
  | some ⟨.ending [], _⟩ => managed.script thread .exited
  | _ => managed

/-- One event. -/
def step : ManagedEvent → ManagedScript → ManagedScript
  | .create session request, managed => managed.create session request
  | .createJoined session, managed => managed.createJoined session
  | .run session threadMade, managed => managed.run session threadMade
  | .artifact session request, managed => managed.artifact session request
  | .cancel session, managed => managed.cancel session
  | .cancelStop session, managed => managed.cancelStop session
  | .cancelJoined session, managed => managed.cancelJoined session
  | .cancelEnd session, managed => managed.cancelEnd session
  | .close session, managed => managed.close session
  | .closeStop session, managed => managed.closeStop session
  | .closeJoined session, managed => managed.closeJoined session
  | .print thread message, managed => managed.print thread message
  | .returns thread events, managed => managed.returns thread events
  | .next thread, managed => managed.next thread
  | .deliver thread, managed => managed.deliver thread
  | .exit thread, managed => managed.exit thread

end ManagedScript

end PoisonedOS
