import PoisonedOS.Workloads.ManagedTable

/-!
# Laws of the table of managed workloads

In every run each session is attached to a record that is there, and the counter of a record is
the number of its sessions. So no record is taken for another workload while a session is
attached to it.

The end of a session changes no other record. Its own is left as it is unless the workload
runs, or is being cancelled.
-/

namespace PoisonedOS

open ReferenceCounts (Finite Counts references references_pos references_zero)

namespace ManagedTable

variable {table : ManagedTable} {session : Nat} {slot : Fin managedMaxRecords}
  {actorDigest : Digest} {workloadId : CString}

theorem selectSlot_some {memory createIfMissing : Bool}
    (selected : table.selectSlot memory actorDigest workloadId createIfMissing = some slot) :
    (∃ record, table.slots slot = some record ∧ record.isOf actorDigest workloadId = true) ∨
      ∀ record, table.slots slot = some record →
        record.isOf actorDigest workloadId = false ∧ record.attachments = 0 := by
  rw [selectSlot] at selected
  split at selected
  · cases selected
  split at selected
  · rename_i found isFound
    split at selected
    · obtain rfl := Option.some.inj selected
      have isOf := List.find?_some isFound
      rw [Option.any_eq_true] at isOf
      exact .inl isOf
    · cases selected
  · rename_i notFound
    split at selected
    · cases selected
    split at selected
    · cases selected
    rename_i replacement isReplacement
    split at selected
    · obtain rfl := Option.some.inj selected
      refine .inr fun record isRecord => ⟨?_, ?_⟩
      · have notOf := List.find?_eq_none.mp notFound replacement (List.mem_finRange _)
        rw [isRecord] at notOf
        exact Bool.not_eq_true _ |>.mp notOf
      · have free := List.find?_some isReplacement
        rw [isRecord, Option.all_some, ManagedRecord.replaceable, Bool.and_eq_true,
          beq_iff_eq] at free
        exact free.1
    · cases selected

/-- What is changed about a record leaves the others and all sessions. -/
theorem change_slots_of_ne {edit : ManagedRecord → ManagedRecord} {other : Fin managedMaxRecords}
    (different : other ≠ slot) : (table.change slot edit).slots other = table.slots other :=
  Function.update_of_ne different _ _

theorem change_slots_self (edit : ManagedRecord → ManagedRecord) :
    (table.change slot edit).slots slot = (table.slots slot).map edit :=
  Function.update_self _ _ _

/-- A change that leaves the counter of its record. -/
theorem attached_change (attached : Attached table) {edit : ManagedRecord → ManagedRecord}
    (kept : ∀ record, (edit record).attachments = record.attachments) :
    Attached (table.change slot edit) where
  finite := attached.finite
  occupied := by
    intro session held isHeld
    by_cases same : held = slot
    · rw [same, change_slots_self, Ne, Option.map_eq_none_iff, ← same]
      exact attached.occupied session held isHeld
    · rw [change_slots_of_ne same]
      exact attached.occupied session held isHeld
  counted := by
    have same : (table.change slot edit).counter = table.counter := by
      funext other
      rw [counter, counter]
      by_cases isSlot : other = slot
      · rw [isSlot, change_slots_self, Option.map_map]
        exact congrArg (Option.map · _) (funext kept)
      · rw [change_slots_of_ne isSlot]
    rw [same]
    exact attached.counted

/-- A session that lets go of its record is counted no more. -/
theorem attached_detach (attached : Attached table) (session : Nat) :
    Attached (table.detach session) ∧ (table.detach session).managed session = none := by
  rw [detach]
  cases held : table.managed session with
  | none => exact ⟨attached, held⟩
  | some slot =>
    refine ⟨⟨attached.finite.update _ _, ?_, ?_⟩, Function.update_self _ _ _⟩
    · intro other otherSlot isHeld
      have wasHeld : table.managed other = some otherSlot := by
        by_cases same : other = session
        · rw [same] at isHeld
          exact absurd ((Function.update_self ..).symm.trans isHeld) (Option.some_ne_none _).symm
        · exact (Function.update_of_ne same _ _).symm.trans isHeld
      by_cases isSlot : otherSlot = slot
      · rw [isSlot, change_slots_self, Ne, Option.map_eq_none_iff, ← isSlot]
        exact attached.occupied other otherSlot wasHeld
      · rw [change_slots_of_ne isSlot]
        exact attached.occupied other otherSlot wasHeld
    · refine (attached.counted.drop_iff attached.finite held ?_).mpr ⟨?_, ?_⟩
      · intro other
        rw [counter, counter, Option.isSome_map, Option.isSome_map]
        by_cases isSlot : other = slot
        · rw [isSlot, change_slots_self, Option.isSome_map]
        · rw [change_slots_of_ne isSlot]
      · intro count counted
        rw [counter, change_slots_self, Option.map_map, Option.map_eq_some_iff] at counted
        obtain ⟨record, isRecord, rfl⟩ := counted
        have isCounter : table.counter slot = some record.attachments := by
          rw [counter, isRecord]
          rfl
        have positive := references_pos attached.finite held
        rw [← attached.counted slot _ isCounter] at positive
        rw [isCounter, Option.some.injEq]
        exact (Nat.sub_add_cancel positive).symm
      · intro other different
        rw [counter, counter, change_slots_of_ne different]

theorem attach_slots_of_ne {other : Fin managedMaxRecords} (different : other ≠ slot) :
    (table.attach slot actorDigest workloadId).slots other = table.slots other :=
  Function.update_of_ne different _ _

theorem attach_slots_self :
    (table.attach slot actorDigest workloadId).slots slot =
      match table.slots slot with
      | some record =>
        if record.isOf actorDigest workloadId then
          some { record with attachments := record.attachments + 1 }
        else some (.first actorDigest workloadId)
      | none => some (.first actorDigest workloadId) :=
  Function.update_self _ _ _

/-- Nobody is attached to a record without attachments. -/
theorem Attached.unheld (attached : Attached table)
    (empty : ∀ record, table.slots slot = some record → record.attachments = 0) (session : Nat) :
    table.managed session ≠ some slot := by
  intro held
  obtain ⟨record, isRecord⟩ := Option.ne_none_iff_exists'.mp (attached.occupied session slot held)
  have isCounter : table.counter slot = some record.attachments := by
    rw [counter, isRecord]
    rfl
  have positive := references_pos attached.finite held
  rw [← attached.counted slot _ isCounter, empty record isRecord] at positive
  exact absurd positive (Nat.lt_irrefl 0)

/-- A record that can be selected. -/
def Selectable (table : ManagedTable) (slot : Fin managedMaxRecords) (actorDigest : Digest)
    (workloadId : CString) : Prop :=
  (∃ record, table.slots slot = some record ∧ record.isOf actorDigest workloadId = true) ∨
    ∀ record, table.slots slot = some record →
      record.isOf actorDigest workloadId = false ∧ record.attachments = 0

/-- A free session that takes a selected record is counted.

Proof: the counter of the record is right before, or right if it is set to zero, since nobody
is attached to a record that is taken for another workload. -/
theorem attached_hold (attached : Attached table) (free : table.managed session = none)
    (selectable : table.Selectable slot actorDigest workloadId) :
    Attached ((table.attach slot actorDigest workloadId).hold session slot) := by
  obtain ⟨base, isBase, taken⟩ : ∃ base,
      Counts (Function.update table.counter slot (some base)) table.managed ∧
        (table.attach slot actorDigest workloadId).counter slot = some (base + 1) := by
    obtain ⟨record, isRecord, matching⟩ | unmatched := selectable
    · have isCounter : table.counter slot = some record.attachments := by
        rw [counter, isRecord]
        rfl
      refine ⟨record.attachments, ?_, ?_⟩
      · rw [← isCounter, Function.update_eq_self]
        exact attached.counted
      · rw [counter, attach_slots_self, isRecord]
        dsimp only
        rw [if_pos matching]
        rfl
    · refine ⟨0, attached.counted.revise fun thing count counted => ?_, ?_⟩
      · by_cases same : thing = slot
        · rw [same, Function.update_self, Option.some.injEq] at counted
          rw [same]
          exact .inr ⟨counted.symm,
            attached.unheld fun record isRecord => (unmatched record isRecord).2⟩
        · rw [Function.update_of_ne same] at counted
          exact .inl counted
      · rw [counter, attach_slots_self]
        cases isRecord : table.slots slot with
        | none => rfl
        | some record =>
          dsimp only
          rw [(unmatched record isRecord).1, if_neg Bool.false_ne_true]
          rfl
  constructor
  · exact attached.finite.update _ _
  · intro other otherSlot held
    show (table.attach slot actorDigest workloadId).slots otherSlot ≠ none
    by_cases same : otherSlot = slot
    · rw [same]
      intro empty
      rw [counter, empty] at taken
      cases taken
    · rw [attach_slots_of_ne same]
      by_cases isSession : other = session
      · have isSlot : Function.update table.managed session (some slot) other = some otherSlot :=
          held
        rw [isSession, Function.update_self] at isSlot
        exact absurd (Option.some.inj isSlot).symm same
      · exact attached.occupied other otherSlot
          ((Function.update_of_ne isSession _ _).symm.trans held)
  · refine isBase.take attached.finite free (fun count counted => ?_) fun other different => ?_
    · exact ⟨base, Function.update_self _ _ _, Option.some.inj (counted.symm.trans taken)⟩
    · rw [Function.update_of_ne different]
      show Option.map _ _ = Option.map _ _
      rw [show ((table.attach slot actorDigest workloadId).hold session slot).slots other =
        table.slots other from attach_slots_of_ne different]

theorem attach_detach (apart : table.managed session ≠ some slot) :
    (table.attach slot actorDigest workloadId).detach session =
      (table.detach session).attach slot actorDigest workloadId := by
  unfold detach
  rw [show (table.attach slot actorDigest workloadId).managed session = table.managed session
    from rfl]
  cases held : table.managed session with
  | none => rfl
  | some old =>
    have different : old ≠ slot := fun same => apart (same ▸ held)
    simp only [attach, change, Function.update_of_ne different, Function.update_of_ne different.symm]
    rw [Function.update_comm different]

/-- A session that has to bind again is attached to another record than the selected one. -/
theorem apart_of_rebound (attached : Attached table)
    (notOf : (table.recordOf session).any (·.isOf actorDigest workloadId) = false)
    (selectable : table.Selectable slot actorDigest workloadId) :
    table.managed session ≠ some slot := by
  intro held
  obtain ⟨record, isRecord, matching⟩ | unmatched := selectable
  · rw [recordOf, held, Option.bind_some, isRecord, Option.any_some, matching] at notOf
    cases notOf
  · exact attached.unheld (fun record isRecord => (unmatched record isRecord).2) session held

theorem attached_bind (attached : Attached table) (memory : Bool) (session : Nat)
    (actorDigest : Digest) (workloadId : CString) (createIfMissing : Bool) :
    Attached (table.bind memory session actorDigest workloadId createIfMissing).2 := by
  rw [bind]
  split
  · exact attached
  rename_i notOf
  split
  · exact attached
  split
  · exact attached
  rename_i slot selected
  have selectable : table.Selectable slot actorDigest workloadId := selectSlot_some selected
  have apart := apart_of_rebound attached (Bool.not_eq_true _ |>.mp notOf) selectable
  obtain ⟨detached, free⟩ := attached_detach attached session
  rw [attach_detach apart]
  refine attached_hold detached free ?_
  have same : (table.detach session).slots slot = table.slots slot := by
    rw [detach]
    split
    · rfl
    · rename_i old held
      exact change_slots_of_ne fun isOld => apart (isOld ▸ held)
  rw [Selectable, same]
  exact selectable

theorem attached_step (attached : Attached table) (event : TableEvent) :
    Attached (step event table) := by
  cases event with
  | create memory permitted session actorDigest request =>
    rw [step, createRequest]
    split
    · exact attached
    dsimp only
    split
    · exact attached
    · have bound := attached_bind attached memory session actorDigest request.workloadId true
      rw [create]
      split
      · exact attached_change bound fun _ => rfl
      · exact bound
  | request session actorDigest workloadId =>
    exact attached_bind attached false session actorDigest workloadId false
  | work slot call => exact attached_change attached fun _ => rfl
  | close session =>
    rw [step, close]
    split
    · exact attached
    · refine (attached_detach ?_ session).1
      exact attached_change attached fun _ => rfl

/-- In every run the sessions are attached to records that count them. -/
theorem attached_tableAt (events : List TableEvent) (index : Nat) :
    Attached (tableAt events index) := by
  refine Runs.always (motive := Attached) ?_ ?_ index
  · refine ⟨ReferenceCounts.finite_none, ?_, ?_⟩
    · intro session slot held
      cases held
    · intro slot count counted
      cases counted
  · exact fun _ event _ attached => attached_step attached event

/-! ## The end of a session -/

/-- What the end of a session does to a record. -/
theorem close_slots (table : ManagedTable) (session : Nat) (slot : Fin managedMaxRecords) :
    (table.close session).slots slot =
      if table.managed session = some slot then
        (table.slots slot).map fun record =>
          { record with
            attachments := record.attachments - 1
            workload := (record.workload.forceTerminate .disconnect).2 }
      else table.slots slot := by
  rw [close]
  cases held : table.managed session with
  | none => rw [if_neg (Option.some_ne_none slot).symm]
  | some own =>
    dsimp only
    rw [detach, show (table.change own _).managed session = some own from held]
    dsimp only
    by_cases same : slot = own
    · rw [if_pos (congrArg some same.symm), same, change_slots_self, change_slots_self,
        Option.map_map]
      rfl
    · rw [if_neg fun isOwn => same (Option.some.inj isOwn).symm, change_slots_of_ne same,
        change_slots_of_ne same]

theorem close_managed (table : ManagedTable) {session other : Nat} (different : other ≠ session) :
    (table.close session).managed other = table.managed other := by
  rw [close]
  split
  · rfl
  · rename_i own held
    rw [detach, show (table.change own _).managed session = some own from held]
    exact Function.update_of_ne different _ _

/-- The workload is running, or it is being cancelled. -/
def Active (workload : Workload) : Prop := workload.state = .running ∨ workload.state = .cancelling

/-- The end of a session changes its workload exactly if that is active. -/
theorem forceTerminate_self_iff (workload : Workload) :
    (workload.forceTerminate .disconnect).2 = workload ↔ ¬ Active workload := by
  rw [Workload.forceTerminate, Active]
  cases state : workload.state <;> simp [WorkloadState.terminal, stateForReason] <;>
    exact fun same => by
      have := congrArg Workload.state same
      rw [state] at this
      cases this

/-- A session that ends leaves the workloads of all other sessions as they are. -/
def ClosesApart (events : List TableEvent) : Prop :=
  ∀ index session, events[index]? = some (.close session) →
    ∀ other slot, other ≠ session → (tableAt events index).managed other = some slot →
      (tableAt events (index + 1)).managed other = some slot ∧
        ∃ before after, (tableAt events index).slots slot = some before ∧
          (tableAt events (index + 1)).slots slot = some after ∧
          after.actorDigest = before.actorDigest ∧ after.workload = before.workload

/-- The ends of sessions leave the others' workloads exactly in the runs in which none comes
while another session is attached to the same active workload.

Proof: a session that ends changes its own record alone, and that only by terminating an active
workload. The record of another session is always there. -/
theorem closes_apart_iff (events : List TableEvent) :
    ClosesApart events ↔ ∀ index session other slot record,
      events[index]? = some (.close session) → other ≠ session →
        (tableAt events index).managed session = some slot →
          (tableAt events index).managed other = some slot →
            (tableAt events index).slots slot = some record → ¬ Active record.workload := by
  have closed {index : Nat} {session : Nat} (isClose : events[index]? = some (.close session)) :
      tableAt events (index + 1) = (tableAt events index).close session :=
    Runs.reached_succ isClose
  constructor
  · intro apart index session other slot record isClose different held otherHeld isRecord
    obtain ⟨-, before, after, isBefore, isAfter, -, same⟩ :=
      apart index session isClose other slot different otherHeld
    rw [closed isClose, close_slots, if_pos held, isRecord] at isAfter
    obtain rfl := Option.some.inj (isRecord.symm.trans isBefore)
    obtain rfl := Option.some.inj isAfter
    exact (forceTerminate_self_iff record.workload).mp same
  · intro spared index session isClose other slot different otherHeld
    obtain ⟨record, isRecord⟩ := Option.ne_none_iff_exists'.mp
      ((attached_tableAt events index).occupied other slot otherHeld)
    refine ⟨?_, ?_⟩
    · rw [closed isClose, close_managed _ different]
      exact otherHeld
    · rw [closed isClose, close_slots, isRecord]
      by_cases held : (tableAt events index).managed session = some slot
      · rw [if_pos held]
        exact ⟨record, _, rfl, rfl, rfl, (forceTerminate_self_iff record.workload).mpr
          (spared index session other slot record isClose different held otherHeld isRecord)⟩
      · rw [if_neg held]
        exact ⟨record, record, rfl, rfl, rfl, rfl⟩

/-- A request for the workload `w`. -/
def sampleCreation (verified : Bool) : CreateRequest where
  workloadId := .literal "w"
  projectDigest := Workload.sampleWorkload.projectDigest
  capabilitiesDigest := Workload.sampleWorkload.capabilitiesDigest
  limits := Workload.oneArtifact
  sameRuntime := true
  verified := verified

/-- A session creates a workload that another one of its actor binds to. The workload is started,
and the first session ends. -/
def sharedWorkload : List TableEvent :=
  [.create true true 0 (.zero _) (sampleCreation true),
    .request 1 (.zero _) (.literal "w"),
    .work ⟨0, Nat.zero_lt_two⟩ .start,
    .close 0]

/-- The end of the first session terminates the workload that the second is attached to. -/
theorem shared_workload_terminated : ¬ ∀ events, ClosesApart events := by
  intro apart
  obtain ⟨-, before, after, isBefore, isAfter, -, same⟩ :=
    apart sharedWorkload 3 0 rfl 1 0 (by decide) (by decide +kernel)
  have running : ((tableAt sharedWorkload 3).slots 0).map (·.workload.state) = some .running := by
    decide +kernel
  have ended : ((tableAt sharedWorkload 4).slots 0).map (·.workload.state) ≠ some .running := by
    decide +kernel
  rw [isBefore, Option.map_some, ← same] at running
  rw [isAfter] at ended
  exact ended running

end ManagedTable

end PoisonedOS
