import PoisonedOS.Library.ReferenceCounts
import PoisonedOS.Workloads.ManagedScript

/-!
# The table of managed workloads

Two workloads are managed at a time, each in a record that any number of sessions of one actor
can be attached to. A request attaches its session to the record of the workload it names, and
a `CREATE` request may take a record that nobody is attached to. A session that is attached to
a workload that is not terminal stays with it.

The counter of a record is the number of the sessions attached to it. When a session ends, its
workload is terminated, whoever else is attached.
-/

namespace PoisonedOS

/-- `POISON_MANAGED_WORKLOAD_MAX_RECORDS`. -/
abbrev managedMaxRecords : Nat := 2

/-- The largest number of attachments, `UINT16_MAX`. -/
def maxAttachments : Nat := 0xFFFF

/-- `PoisonManagedWorkload` of an occupied record. -/
structure ManagedRecord where
  actorDigest : Digest
  attachments : Nat
  workload : Workload

/-- The records, and the record that each session is attached to. -/
structure ManagedTable where
  slots : Fin managedMaxRecords → Option ManagedRecord
  managed : Nat → Option (Fin managedMaxRecords)

/-- A workload of zeros with an identifier. -/
def Workload.cleared (workloadId : CString) : Workload where
  workloadId := workloadId
  projectDigest := .literal ""
  capabilitiesDigest := .literal ""
  state := .queued
  terminalReason := .none
  limits := .zero
  usage := .zero
  console := []
  nextConsoleSequence := 0
  artifacts := []

namespace ManagedRecord

/-- `poison_managed_workload_matches`. -/
def isOf (record : ManagedRecord) (actorDigest : Digest) (workloadId : CString) : Bool :=
  record.actorDigest == actorDigest && record.workload.workloadId == workloadId

/-- The record can be taken for another workload. -/
def replaceable (record : ManagedRecord) : Bool :=
  record.attachments == 0 &&
    (record.workload.projectDigest.isEmpty || record.workload.state.terminal)

def first (actorDigest : Digest) (workloadId : CString) : ManagedRecord :=
  ⟨actorDigest, 1, .cleared workloadId⟩

end ManagedRecord

/-- `rpc_poison_workload_create` on the workload of a record: whether the request is accepted,
and the workload. -/
def createOn (workload : Workload) (request : CreateRequest) : Bool × Workload :=
  let next (before : Workload) : Bool × Workload :=
    match ManagedScript.CreateRequest.workload request with
    | none => (false, before)
    | some created => (true, created)
  if workload.projectDigest.isEmpty then next workload
  else if ManagedScript.CreateRequest.repeats request workload then (true, workload)
  else if !workload.state.terminal then (false, workload)
  else next (.cleared (.literal ""))

namespace ManagedTable

/-- The table after the system has started. -/
def start : ManagedTable := ⟨fun _ => none, fun _ => none⟩

/-- The record of a slot is changed. -/
def change (table : ManagedTable) (slot : Fin managedMaxRecords)
    (edit : ManagedRecord → ManagedRecord) : ManagedTable :=
  { table with slots := Function.update table.slots slot ((table.slots slot).map edit) }

/-- The record that `poison_managed_workload_attach` selects, where there may be no memory for a
new one. -/
def selectSlot (table : ManagedTable) (memory : Bool) (actorDigest : Digest)
    (workloadId : CString) (createIfMissing : Bool) : Option (Fin managedMaxRecords) :=
  if !boundedWorkloadId workloadId then none
  else
    match (List.finRange managedMaxRecords).find? fun slot =>
        (table.slots slot).any (·.isOf actorDigest workloadId) with
    | some slot =>
      if (table.slots slot).any fun record => decide (record.attachments < maxAttachments) then
        some slot
      else none
    | none =>
      if !createIfMissing then none
      else
        match (List.finRange managedMaxRecords).find? fun slot =>
            (table.slots slot).all ManagedRecord.replaceable with
        | none => none
        | some slot => if (table.slots slot).isSome || memory then some slot else none

/-- The rest of `poison_managed_workload_attach`, with the record that was selected. -/
def attach (table : ManagedTable) (slot : Fin managedMaxRecords) (actorDigest : Digest)
    (workloadId : CString) : ManagedTable :=
  { table with slots := Function.update table.slots slot <|
      match table.slots slot with
      | some record =>
        if record.isOf actorDigest workloadId then
          some { record with attachments := record.attachments + 1 }
        else some (.first actorDigest workloadId)
      | none => some (.first actorDigest workloadId) }

/-- `poison_managed_workload_detach` of a session's record. -/
def detach (table : ManagedTable) (session : Nat) : ManagedTable :=
  match table.managed session with
  | none => table
  | some slot =>
    { (table.change slot fun record => { record with attachments := record.attachments - 1 }) with
      managed := Function.update table.managed session none }

/-- The session is attached to a record. -/
def hold (table : ManagedTable) (session : Nat) (slot : Fin managedMaxRecords) : ManagedTable :=
  { table with managed := Function.update table.managed session (some slot) }

/-- The workload that a session is attached to. -/
def recordOf (table : ManagedTable) (session : Nat) : Option ManagedRecord :=
  (table.managed session).bind table.slots

/-- `rpc_poison_workload_bind`. -/
def bind (table : ManagedTable) (memory : Bool) (session : Nat) (actorDigest : Digest)
    (workloadId : CString) (createIfMissing : Bool) : Bool × ManagedTable :=
  if (table.recordOf session).any (·.isOf actorDigest workloadId) then (true, table)
  else if (table.recordOf session).any fun record => !record.workload.state.terminal then
    (false, table)
  else
    match table.selectSlot memory actorDigest workloadId createIfMissing with
    | none => (false, table)
    | some slot =>
      (true, ((table.attach slot actorDigest workloadId).detach session).hold session slot)

/-- `rpc_poison_workload_create` of a session. -/
def create (table : ManagedTable) (session : Nat) (request : CreateRequest) :
    Bool × ManagedTable :=
  match table.managed session, table.recordOf session with
  | some slot, some record =>
    ((createOn record.workload request).1,
      table.change slot fun record =>
        { record with workload := (createOn record.workload request).2 })
  | _, _ => (false, table)

/-- A `CREATE` request, which is permitted if its fields and the session's rights pass their
checks. -/
def createRequest (table : ManagedTable) (memory permitted : Bool) (session : Nat)
    (actorDigest : Digest) (request : CreateRequest) : Bool × ManagedTable :=
  if !permitted then (false, table)
  else
    let bound := table.bind memory session actorDigest request.workloadId true
    if !bound.1 then (false, table) else bound.2.create session request

/-- `rpc_system_poison_workload_free`. -/
def close (table : ManagedTable) (session : Nat) : ManagedTable :=
  match table.managed session with
  | none => table
  | some slot =>
    (table.change slot fun record =>
      { record with workload := (record.workload.forceTerminate .disconnect).2 }).detach session

end ManagedTable

/-- What happens to the table: `CREATE` requests, the binding of all other requests, the calls
that they and the scripts make on a workload, and the ends of sessions. -/
inductive TableEvent where
  | create (memory permitted : Bool) (session : Nat) (actorDigest : Digest)
      (request : CreateRequest)
  | request (session : Nat) (actorDigest : Digest) (workloadId : CString)
  | work (slot : Fin managedMaxRecords) (call : WorkloadCall)
  | close (session : Nat)

namespace ManagedTable

/-- One event. -/
def step : TableEvent → ManagedTable → ManagedTable
  | .create memory permitted session actorDigest request, table =>
    (table.createRequest memory permitted session actorDigest request).2
  | .request session actorDigest workloadId, table =>
    (table.bind false session actorDigest workloadId false).2
  | .work slot call, table =>
    table.change slot fun record => { record with workload := (call.apply record.workload).2 }
  | .close session, table => table.close session

/-- The table before an event of a run. -/
def tableAt (events : List TableEvent) (index : Nat) : ManagedTable :=
  Runs.reached step start events index

/-- What each record says of its sessions. -/
def counter (table : ManagedTable) (slot : Fin managedMaxRecords) : Option Nat :=
  (table.slots slot).map ManagedRecord.attachments

/-- Sessions are attached to records that are there, and the counters count them. -/
structure Attached (table : ManagedTable) : Prop where
  finite : ReferenceCounts.Finite table.managed
  occupied : ∀ session slot, table.managed session = some slot → table.slots slot ≠ none
  counted : ReferenceCounts.Counts table.counter table.managed

end ManagedTable

end PoisonedOS
