import PoisonedOS.Workloads.RejectedCreation

/-!
# The registry of managed workloads over its runs

A record stays with its actor and its workload while a session is attached to it, no two records
are of one actor and workload, and a record that nobody is attached to can be taken for another
workload. Two steps break this. A `CREATE` request whose checks fail clears the ended workload
that is there, and its identifier with it. A session that ends leaves a workload that was created
and never started as it is, since only an active one is terminated; when both records are left
so, no other workload can be attached.
-/

namespace PoisonedOS.ManagedTable

variable {table : ManagedTable} {session : Nat} {slot : Fin managedMaxRecords}
  {actorDigest : Digest} {workloadId : CString}

/-- A record stays what it is: it keeps its owner, and its workload is not cleared. -/
structure Kept (before after : ManagedRecord) : Prop where
  actor : after.actorDigest = before.actorDigest
  workload : after.workload.workloadId = before.workload.workloadId
  created : after.workload.projectDigest.isEmpty = true →
    before.workload.projectDigest.isEmpty = true

theorem Kept.refl (record : ManagedRecord) : Kept record record := ⟨rfl, rfl, id⟩

theorem Kept.trans {first second third : ManagedRecord} (kept : Kept first second)
    (again : Kept second third) : Kept first third :=
  ⟨again.actor.trans kept.actor, again.workload.trans kept.workload,
    fun empty => kept.created (again.created empty)⟩

/-- At most one record is of an actor and a workload. -/
def Unique (table : ManagedTable) : Prop :=
  ∀ slot other record twin, table.slots slot = some record → table.slots other = some twin →
    record.actorDigest = twin.actorDigest →
      record.workload.workloadId = twin.workload.workloadId → slot = other

/-- While no session is attached, an actor can attach to any workload. There is memory for the
record. -/
def Available (table : ManagedTable) : Prop :=
  (∀ session, table.managed session = none) → ∀ actorDigest workloadId,
    boundedWorkloadId workloadId = true →
      (table.selectSlot true actorDigest workloadId true).isSome = true

/-- What is asked of the registry in a run. -/
structure RegistryKept (events : List TableEvent) (index : Nat) : Prop where
  unique : Unique (tableAt events index)
  counted : ReferenceCounts.Counts (tableAt events index).counter (tableAt events index).managed
  attached : ∀ slot before, (tableAt events index).slots slot = some before →
    0 < before.attachments →
      ∃ after, (tableAt events (index + 1)).slots slot = some after ∧ Kept before after
  available : Available (tableAt events index)

/-- Nobody is attached to the record, and it cannot be taken. -/
def Stuck (table : ManagedTable) (slot : Fin managedMaxRecords) : Prop :=
  ∃ record, table.slots slot = some record ∧ record.attachments = 0 ∧
    record.workload.projectDigest.isEmpty = false ∧ record.workload.state.terminal = false

/-- The steps that the registry endures. A `CREATE` request of an ended workload does not fail
its checks. The last session of a workload that was created and never started does not end while
all other records are stuck. -/
def Endures (table : ManagedTable) : TableEvent → Prop
  | .create memory permitted session actorDigest request =>
    permitted = true →
      (table.bind memory session actorDigest request.workloadId true).1 = true →
        ∀ slot record, table.slots slot = some record →
          record.isOf actorDigest request.workloadId = true →
            record.workload.projectDigest.isEmpty = false →
              record.workload.state.terminal = true →
                ManagedScript.CreateRequest.workload request ≠ none
  | .close session => ∀ slot record, table.managed session = some slot →
      table.slots slot = some record → record.attachments = 1 →
        record.workload.projectDigest.isEmpty = false → record.workload.state = .queued →
          ∃ other, other ≠ slot ∧ ¬ Stuck table other
  | _ => True

/-! ## What a step does -/

theorem rel_before {before after : Option ManagedRecord} {record : ManagedRecord}
    (kept : Option.Rel Kept before after) (isBefore : before = some record) :
    ∃ final, after = some final ∧ Kept record final := by
  subst isBefore
  cases kept with
  | some kept => exact ⟨_, rfl, kept⟩

theorem rel_after {before after : Option ManagedRecord} {final : ManagedRecord}
    (kept : Option.Rel Kept before after) (isAfter : after = some final) :
    ∃ record, before = some record ∧ Kept record final := by
  subst isAfter
  cases kept with
  | some kept => exact ⟨_, rfl, kept⟩

/-- A table in which each record stays. -/
def Stays (table after : ManagedTable) : Prop :=
  ∀ slot, Option.Rel Kept (table.slots slot) (after.slots slot)

theorem Stays.refl (table : ManagedTable) : Stays table table := by
  intro slot
  cases table.slots slot with
  | none => exact .none
  | some record => exact .some (.refl record)

/-- A change of a record that keeps it. -/
theorem stays_change {edit : ManagedRecord → ManagedRecord}
    (kept : ∀ record, table.slots slot = some record → Kept record (edit record)) :
    Stays table (table.change slot edit) := by
  intro other
  by_cases same : other = slot
  · rw [same, change_slots_self]
    cases isRecord : table.slots slot with
    | none => exact .none
    | some record => exact .some (kept record isRecord)
  · rw [change_slots_of_ne same]
    exact Stays.refl table other

/-- A step keeps all records, or all but one that nobody is attached to. That one is taken for
an owner that has no record. -/
def Succeeds (table after : ManagedTable) : Prop :=
  Stays table after ∨ ∃ slot record,
    (∀ other, other ≠ slot → Option.Rel Kept (table.slots other) (after.slots other)) ∧
      (∀ before, table.slots slot = some before → before.attachments = 0) ∧
        after.slots slot = some record ∧ ∀ other before, table.slots other = some before →
          before.isOf record.actorDigest record.workload.workloadId = false

variable {after : ManagedTable}

theorem Succeeds.then {last : ManagedTable} (succeeds : Succeeds table after)
    (stays : Stays after last) : Succeeds table last := by
  have composed {first second third : Option ManagedRecord} (kept : Option.Rel Kept first second)
      (again : Option.Rel Kept second third) : Option.Rel Kept first third := by
    cases kept with
    | none => exact again
    | some kept =>
      cases again with
      | some again => exact .some (kept.trans again)
  obtain all | ⟨slot, record, others, free, taken, fresh⟩ := succeeds
  · exact .inl fun slot => composed (all slot) (stays slot)
  · obtain ⟨final, isFinal, kept⟩ := rel_before (stays slot) taken
    refine .inr ⟨slot, final, fun other different =>
      composed (others other different) (stays other), free, isFinal, ?_⟩
    rw [kept.actor, kept.workload]
    exact fresh

variable {createIfMissing : Bool}

/-- A record that is selected without being of the workload is selected because no record is. -/
theorem selectSlot_fresh {memory : Bool}
    (selected : table.selectSlot memory actorDigest workloadId createIfMissing = some slot)
    (unmatched : ∀ record, table.slots slot = some record →
      record.isOf actorDigest workloadId = false) {other : Fin managedMaxRecords}
    {before : ManagedRecord} (isBefore : table.slots other = some before) :
    before.isOf actorDigest workloadId = false := by
  rw [selectSlot] at selected
  split at selected
  · cases selected
  split at selected
  · rename_i found isFound
    split at selected
    · obtain rfl := Option.some.inj selected
      have isOf := List.find?_some isFound
      obtain ⟨record, isRecord, isOf⟩ := Option.any_eq_true _ _ |>.mp isOf
      rw [unmatched record isRecord] at isOf
      cases isOf
    · cases selected
  · rename_i notFound
    have notOf := List.find?_eq_none.mp notFound other (List.mem_finRange _)
    rw [isBefore] at notOf
    exact Bool.not_eq_true _ |>.mp notOf

/-- What the record of a slot is after a session has let go of its own. -/
theorem detach_slots (table : ManagedTable) (session : Nat) (slot : Fin managedMaxRecords) :
    (table.detach session).slots slot =
      if table.managed session = some slot then
        (table.slots slot).map fun record => { record with attachments := record.attachments - 1 }
      else table.slots slot := by
  rw [detach]
  cases held : table.managed session with
  | none => rw [if_neg (Option.some_ne_none slot).symm]
  | some own =>
    by_cases same : slot = own
    · rw [if_pos (congrArg some same.symm), same]
      exact change_slots_self _
    · rw [if_neg fun isOwn => same (Option.some.inj isOwn).symm]
      exact change_slots_of_ne same

theorem stays_detach (table : ManagedTable) (session : Nat) :
    Stays table (table.detach session) := by
  intro slot
  rw [detach_slots]
  split
  · cases table.slots slot with
    | none => exact .none
    | some record => exact .some ⟨rfl, rfl, id⟩
  · exact Stays.refl table slot

/-- A request is refused, or finds its session attached to its workload, or attaches it to the
selected record after it has let go of an ended one. -/
inductive Bound (table : ManagedTable) (memory : Bool) (session : Nat) (actorDigest : Digest)
    (workloadId : CString) (createIfMissing : Bool) : Bool × ManagedTable → Prop
  | refused : Bound table memory session actorDigest workloadId createIfMissing (false, table)
  | there (slot : Fin managedMaxRecords) (record : ManagedRecord)
      (held : table.managed session = some slot) (isRecord : table.slots slot = some record)
      (isOf : record.isOf actorDigest workloadId = true) :
      Bound table memory session actorDigest workloadId createIfMissing (true, table)
  | attached (slot : Fin managedMaxRecords)
      (selected : table.selectSlot memory actorDigest workloadId createIfMissing = some slot)
      (apart : table.managed session ≠ some slot)
      (ended : ∀ record, table.recordOf session = some record →
        record.workload.state.terminal = true) :
      Bound table memory session actorDigest workloadId createIfMissing
        (true, ((table.detach session).attach slot actorDigest workloadId).hold session slot)

theorem bind_bound (attached : Attached table) (memory : Bool) (session : Nat)
    (actorDigest : Digest) (workloadId : CString) (createIfMissing : Bool) :
    Bound table memory session actorDigest workloadId createIfMissing
      (table.bind memory session actorDigest workloadId createIfMissing) := by
  rw [bind]
  split
  · rename_i found
    obtain ⟨record, isRecord, isOf⟩ := Option.any_eq_true _ _ |>.mp found
    obtain ⟨slot, held, isSlot⟩ := Option.bind_eq_some_iff.mp isRecord
    exact .there slot record held isSlot isOf
  rename_i notOf
  split
  · exact .refused
  rename_i notLive
  split
  · exact .refused
  rename_i slot selected
  have apart := apart_of_rebound attached (Bool.not_eq_true _ |>.mp notOf)
    (selectSlot_some selected)
  rw [attach_detach apart]
  refine .attached slot selected apart fun record isRecord => ?_
  rw [isRecord, Option.any_some, Bool.not_eq_true', Bool.not_eq_false] at notLive
  exact notLive

/-- The record that is selected is left where it is by a session attached to another. -/
theorem detach_slots_apart (apart : table.managed session ≠ some slot) :
    (table.detach session).slots slot = table.slots slot := by
  rw [detach_slots, if_neg apart]

variable {bound : Bool × ManagedTable}

theorem Bound.succeeds {memory : Bool}
    (binds : Bound table memory session actorDigest workloadId createIfMissing bound) :
    Succeeds table bound.2 := by
  cases binds with
  | refused => exact .inl (.refl table)
  | there => exact .inl (.refl table)
  | attached slot selected apart =>
    have own := detach_slots_apart apart
    have others {other : Fin managedMaxRecords} (different : other ≠ slot) :
        Option.Rel Kept (table.slots other)
          (((table.detach session).attach slot actorDigest workloadId).slots other) := by
      rw [attach_slots_of_ne different]
      exact stays_detach table session other
    obtain ⟨record, isRecord, isOf⟩ | unmatched := selectSlot_some selected
    · refine .inl fun other => ?_
      by_cases same : other = slot
      · show Option.Rel Kept _ (((table.detach session).attach slot _ _).slots other)
        rw [same, attach_slots_self, own, isRecord]
        dsimp only
        rw [if_pos isOf]
        exact .some ⟨rfl, rfl, id⟩
      · exact others same
    · refine .inr ⟨slot, .first actorDigest workloadId, fun other => others, ?_, ?_, ?_⟩
      · exact fun before isBefore => (unmatched before isBefore).2
      · show ((table.detach session).attach slot _ _).slots slot = _
        rw [attach_slots_self, own]
        cases isRecord : table.slots slot with
        | none => rfl
        | some record =>
          dsimp only
          rw [(unmatched record isRecord).1, if_neg Bool.false_ne_true]
      · exact fun other before => selectSlot_fresh selected fun record isRecord =>
          (unmatched record isRecord).1

/-- Binding leaves no record stuck that was not. -/
theorem Bound.stuck {memory : Bool}
    (binds : Bound table memory session actorDigest workloadId createIfMissing bound)
    (stuck : Stuck bound.2 slot) : Stuck table slot := by
  cases binds with
  | refused => exact stuck
  | there => exact stuck
  | attached selected isSelected apart ended =>
    obtain ⟨record, isRecord, unattached, created, live⟩ := stuck
    have isAttached : ((table.detach session).attach selected _ _).slots slot = some record :=
      isRecord
    by_cases same : slot = selected
    · rw [same, attach_slots_self] at isAttached
      split at isAttached
      · split at isAttached
        · obtain rfl := Option.some.inj isAttached
          cases unattached
        · obtain rfl := Option.some.inj isAttached
          cases unattached
      · obtain rfl := Option.some.inj isAttached
        cases unattached
    · rw [attach_slots_of_ne same, detach_slots] at isAttached
      split at isAttached
      · rename_i held
        obtain ⟨before, isBefore, rfl⟩ := Option.map_eq_some_iff.mp isAttached
        have terminal := ended before (by rw [recordOf, held, Option.bind_some, isBefore])
        rw [live] at terminal
        cases terminal
      · exact ⟨record, isAttached, unattached, created, live⟩

/-- A bound session is attached to a record of its workload. It was there, or it is new and
nothing was created in it. -/
theorem Bound.held {memory : Bool}
    (binds : Bound table memory session actorDigest workloadId createIfMissing bound)
    (accepted : bound.1 = true) : ∃ slot record, bound.2.managed session = some slot ∧
      bound.2.slots slot = some record ∧ record.isOf actorDigest workloadId = true ∧
        (record.workload.projectDigest.isEmpty = true ∨ ∃ before,
          table.slots slot = some before ∧ before.isOf actorDigest workloadId = true ∧
            before.workload = record.workload) := by
  have first : (ManagedRecord.first actorDigest workloadId).isOf actorDigest workloadId = true := by
    simp [ManagedRecord.isOf, ManagedRecord.first, Workload.cleared]
  cases binds with
  | refused => cases accepted
  | there slot record held isRecord isOf =>
    exact ⟨slot, record, held, isRecord, isOf, .inr ⟨record, isRecord, isOf, rfl⟩⟩
  | attached slot selected apart =>
    have holds : (((table.detach session).attach slot actorDigest workloadId).hold session
        slot).managed session = some slot := Function.update_self _ _ _
    have own : (((table.detach session).attach slot actorDigest workloadId).hold session
        slot).slots slot = _ := attach_slots_self
    rw [detach_slots_apart apart] at own
    split at own
    · rename_i before isBefore
      split at own
      · rename_i isOf
        exact ⟨slot, _, holds, own, isOf, .inr ⟨before, isBefore, isOf, rfl⟩⟩
      · exact ⟨slot, _, holds, own, first, .inl CString.isEmpty_literal_empty⟩
    · exact ⟨slot, _, holds, own, first, .inl CString.isEmpty_literal_empty⟩

theorem created_workload {request : CreateRequest} {workload : Workload}
    (created : ManagedScript.CreateRequest.workload request = some workload) :
    workload.workloadId = request.workloadId ∧ workload.projectDigest.isEmpty = false := by
  rw [ManagedScript.CreateRequest.workload] at created
  split at created
  · cases created
  rw [Workload.init] at created
  split at created
  · cases created
  rename_i checks
  obtain rfl := Option.some.inj created
  refine ⟨rfl, CString.isEmpty_false_of_length ?_⟩
  simp only [Bool.or_eq_true, not_or, Bool.not_eq_true', Bool.not_eq_false] at checks
  have digest := checks.1.1.1.1.1.1.2
  rw [boundedDigest, Bool.and_eq_true, beq_iff_eq] at digest
  rw [digest.1]
  decide

/-- A `CREATE` request keeps the workload it names, unless that has ended and the checks fail. -/
theorem createOn_kept {record : ManagedRecord} {request : CreateRequest}
    (isOf : record.isOf actorDigest request.workloadId = true)
    (passes : record.workload.projectDigest.isEmpty = false →
      record.workload.state.terminal = true →
        ManagedScript.CreateRequest.workload request ≠ none) :
    Kept record { record with workload := (createOn record.workload request).2 } := by
  have named : record.workload.workloadId = request.workloadId := by
    rw [ManagedRecord.isOf, Bool.and_eq_true, beq_iff_eq, beq_iff_eq] at isOf
    exact isOf.2
  have replaced {workload : Workload}
      (created : ManagedScript.CreateRequest.workload request = some workload) :
      Kept record { record with workload := workload } := by
    obtain ⟨sameId, notEmpty⟩ := created_workload created
    refine ⟨rfl, sameId.trans named.symm, fun empty => ?_⟩
    rw [notEmpty] at empty
    cases empty
  rw [createOn]
  dsimp only
  split
  · split
    · exact .refl record
    · rename_i created
      exact replaced created
  rename_i digest
  split
  · exact .refl record
  split
  · exact .refl record
  rename_i ended
  split
  · rename_i failed
    refine absurd failed (passes (Bool.not_eq_true _ |>.mp digest) ?_)
    rw [Bool.not_eq_true', Bool.not_eq_false] at ended
    exact ended
  · rename_i created
    exact replaced created

/-- No call creates a workload or gives it another identifier. -/
theorem apply_same (call : WorkloadCall) (workload : Workload) :
    (call.apply workload).2.workloadId = workload.workloadId ∧
      (call.apply workload).2.projectDigest = workload.projectDigest := by
  obtain changes := Workload.apply_changes call workload
  generalize (call.apply workload).2 = after at changes
  cases changes <;> exact ⟨rfl, rfl⟩

theorem step_succeeds (attached : Attached table) (event : TableEvent)
    (endures : Endures table event) : Succeeds table (step event table) := by
  cases event with
  | create memory permitted session actorDigest request =>
    rw [step, createRequest]
    split
    · exact .inl (.refl table)
    rename_i isPermitted
    rw [Bool.not_eq_true', Bool.not_eq_false] at isPermitted
    dsimp only
    split
    · exact .inl (.refl table)
    rename_i accepted
    rw [Bool.not_eq_true', Bool.not_eq_false] at accepted
    have binds := bind_bound attached memory session actorDigest request.workloadId true
    obtain ⟨slot, record, held, isRecord, isOf, known⟩ := binds.held accepted
    refine binds.succeeds.then ?_
    rw [create_held held isRecord]
    refine stays_change fun found isFound => ?_
    obtain rfl := Option.some.inj (isRecord.symm.trans isFound)
    refine createOn_kept isOf fun digest ended => ?_
    obtain empty | ⟨before, isBefore, wasOf, same⟩ := known
    · rw [digest] at empty
      cases empty
    · rw [← same] at digest ended
      exact endures isPermitted accepted slot before isBefore wasOf digest ended
  | request session actorDigest workloadId =>
    exact (bind_bound attached false session actorDigest workloadId false).succeeds
  | work slot call =>
    refine .inl (stays_change fun record _ => ?_)
    obtain ⟨sameId, sameDigest⟩ := apply_same call record.workload
    exact ⟨rfl, sameId, fun empty => (congrArg CString.isEmpty sameDigest) ▸ empty⟩
  | close session =>
    refine .inl fun slot => ?_
    rw [step, close_slots]
    split
    · cases table.slots slot with
      | none => exact .none
      | some record =>
        obtain ⟨sameId, sameDigest⟩ := apply_same (.forceTerminate .disconnect) record.workload
        exact .some ⟨rfl, sameId, fun empty => (congrArg CString.isEmpty sameDigest) ▸ empty⟩
    · exact Stays.refl table slot

/-- A record that a step leaves stuck was stuck, or its last session ended before its workload
was started. -/
theorem step_stuck (attached : Attached table) (event : TableEvent)
    (stuck : Stuck (step event table) slot) :
    Stuck table slot ∨ ∃ session record, event = .close session ∧
      table.managed session = some slot ∧ table.slots slot = some record ∧
        record.attachments = 1 ∧ record.workload.projectDigest.isEmpty = false ∧
          record.workload.state = .queued := by
  cases event with
  | create memory permitted session actorDigest request =>
    rw [step, createRequest] at stuck
    split at stuck
    · exact .inl stuck
    dsimp only at stuck
    split at stuck
    · exact .inl stuck
    rename_i accepted
    rw [Bool.not_eq_true', Bool.not_eq_false] at accepted
    have binds := bind_bound attached memory session actorDigest request.workloadId true
    obtain ⟨own, record, held, isRecord, -, -⟩ := binds.held accepted
    rw [create_held held isRecord] at stuck
    refine .inl (binds.stuck ?_)
    obtain ⟨last, isLast, unattached, created, live⟩ := stuck
    by_cases same : slot = own
    · rw [same, change_slots_self, Option.map_eq_some_iff] at isLast
      obtain ⟨before, isBefore, rfl⟩ := isLast
      refine absurd held (Attached.unheld ?_ (fun record isRecord => ?_) session)
      · exact attached_bind attached memory session actorDigest request.workloadId true
      · rw [isBefore] at isRecord
        obtain rfl := Option.some.inj isRecord
        exact unattached
    · rw [change_slots_of_ne same] at isLast
      exact ⟨last, isLast, unattached, created, live⟩
  | request session actorDigest workloadId =>
    exact .inl ((bind_bound attached false session actorDigest workloadId false).stuck stuck)
  | work own call =>
    obtain ⟨last, isLast, unattached, created, live⟩ := stuck
    rw [step] at isLast
    by_cases same : slot = own
    · rw [same, change_slots_self, Option.map_eq_some_iff] at isLast
      obtain ⟨before, isBefore, rfl⟩ := isLast
      refine .inl ⟨before, same ▸ isBefore, unattached, ?_, ?_⟩
      · rw [← (apply_same call before.workload).2]
        exact created
      · refine Bool.not_eq_true _ |>.mp fun ended => ?_
        rw [Workload.apply_of_ended call ended, ended] at live
        cases live
    · rw [change_slots_of_ne same] at isLast
      exact .inl ⟨last, isLast, unattached, created, live⟩
  | close session =>
    obtain ⟨last, isLast, unattached, created, live⟩ := stuck
    rw [step, close_slots] at isLast
    split at isLast
    · rename_i held
      obtain ⟨before, isBefore, rfl⟩ := Option.map_eq_some_iff.mp isLast
      refine .inr ⟨session, before, rfl, held, isBefore, ?_, ?_, ?_⟩
      · have isCounter : table.counter slot = some before.attachments := by
          rw [counter, isBefore]
          rfl
        have positive := ReferenceCounts.references_pos attached.finite held
        rw [← attached.counted slot _ isCounter] at positive
        exact Nat.le_antisymm (Nat.sub_eq_zero_iff_le.mp unattached) positive
      · rw [← (apply_same (.forceTerminate .disconnect) before.workload).2]
        exact created
      · dsimp only at live
        rw [Workload.forceTerminate] at live
        cases state : before.workload.state <;> rw [state] at live <;>
          simp_all [WorkloadState.terminal, stateForReason]
    · exact .inl ⟨last, isLast, unattached, created, live⟩

/-! ## Runs -/

theorem Succeeds.unique (succeeds : Succeeds table after) (unique : Unique table) :
    Unique after := by
  obtain all | ⟨taken, final, others, -, isFinal, fresh⟩ := succeeds
  · intro slot other record twin isRecord isTwin actor workload
    obtain ⟨before, isBefore, kept⟩ := rel_after (all slot) isRecord
    obtain ⟨second, isSecond, again⟩ := rel_after (all other) isTwin
    exact unique slot other before second isBefore isSecond
      (kept.actor.symm.trans (actor.trans again.actor))
      (kept.workload.symm.trans (workload.trans again.workload))
  · have apart {other : Fin managedMaxRecords} {twin : ManagedRecord} (different : other ≠ taken)
        (isTwin : after.slots other = some twin) (actor : twin.actorDigest = final.actorDigest)
        (workload : twin.workload.workloadId = final.workload.workloadId) : False := by
      obtain ⟨before, isBefore, kept⟩ := rel_after (others other different) isTwin
      have notOf := fresh other before isBefore
      rw [ManagedRecord.isOf, ← actor, ← workload, kept.actor, kept.workload, beq_self_eq_true,
        beq_self_eq_true] at notOf
      cases notOf
    intro slot other record twin isRecord isTwin actor workload
    by_cases first : slot = taken
    · by_cases second : other = taken
      · rw [first, second]
      · rw [first, isFinal] at isRecord
        obtain rfl := Option.some.inj isRecord
        exact (apart second isTwin actor.symm workload.symm).elim
    · by_cases second : other = taken
      · rw [second, isFinal] at isTwin
        obtain rfl := Option.some.inj isTwin
        exact (apart first isRecord actor workload).elim
      · obtain ⟨before, isBefore, kept⟩ := rel_after (others slot first) isRecord
        obtain ⟨prior, isPrior, again⟩ := rel_after (others other second) isTwin
        exact unique slot other before prior isBefore isPrior
          (kept.actor.symm.trans (actor.trans again.actor))
          (kept.workload.symm.trans (workload.trans again.workload))

theorem Succeeds.kept (succeeds : Succeeds table after) {before : ManagedRecord}
    (isBefore : table.slots slot = some before) (attached : 0 < before.attachments) :
    ∃ record, after.slots slot = some record ∧ Kept before record := by
  have stays : Option.Rel Kept (table.slots slot) (after.slots slot) := by
    obtain all | ⟨taken, final, others, free, -, -⟩ := succeeds
    · exact all slot
    · refine others slot fun same => ?_
      rw [same] at isBefore
      exact absurd (free before isBefore) attached.ne'
  exact rel_before stays isBefore

/-- What the steps that the registry endures keep. -/
def Sound (table : ManagedTable) : Prop := Unique table ∧ ∃ slot, ¬ Stuck table slot

/-- If nobody is attached, a record that is not stuck can be selected. -/
theorem available_of_not_stuck (attached : Attached table) (unstuck : ¬ Stuck table slot) :
    Available table := by
  intro free actorDigest workloadId valid
  have unattached {other : Fin managedMaxRecords} {record : ManagedRecord}
      (isRecord : table.slots other = some record) : record.attachments = 0 := by
    have isCounter : table.counter other = some record.attachments := by
      rw [counter, isRecord]
      rfl
    rw [attached.counted other _ isCounter]
    refine ReferenceCounts.references_zero fun session held => ?_
    rw [free session] at held
    cases held
  rw [selectSlot, valid]
  simp only [Bool.not_true, Bool.false_eq_true, if_false]
  split
  · rename_i found isFound
    have isOf := List.find?_some isFound
    obtain ⟨record, isRecord, -⟩ := Option.any_eq_true _ _ |>.mp isOf
    rw [isRecord, Option.any_some, unattached isRecord]
    rfl
  · split
    · rename_i noReplacement
      have full := List.find?_eq_none.mp noReplacement slot (List.mem_finRange _)
      cases isRecord : table.slots slot with
      | none =>
        rw [isRecord] at full
        exact absurd rfl full
      | some record =>
        rw [isRecord, Option.all_some, ManagedRecord.replaceable, unattached isRecord,
          beq_self_eq_true, Bool.true_and, Bool.not_eq_true, Bool.or_eq_false_iff] at full
        exact absurd ⟨record, isRecord, unattached isRecord, full.1, full.2⟩ unstuck
    · rw [Bool.or_true]
      rfl

/-- Along a run whose steps the registry endures, each owner has one record, and not all records
are stuck.

Proof: a step takes a record only for an owner that has none, and only the end of a session can
leave a record stuck. -/
theorem sound_tableAt {events : List TableEvent}
    (endures : ∀ index event, events[index]? = some event → Endures (tableAt events index) event)
    (index : Nat) : Sound (tableAt events index) := by
  refine Runs.always (motive := Sound) ?_ ?_ index
  · refine ⟨?_, 0, ?_⟩
    · intro slot other record twin isRecord
      cases isRecord
    · rintro ⟨record, isRecord, -⟩
      cases isRecord
  · rintro index event taken ⟨unique, slot, notStuck⟩
    have attached := attached_tableAt events index
    refine ⟨(step_succeeds attached event (endures index event taken)).unique unique, ?_⟩
    by_contra none
    rw [not_exists_not] at none
    obtain was | ⟨session, record, rfl, held, isRecord, last, created, queued⟩ :=
      step_stuck attached event (none slot)
    · exact notStuck was
    · obtain ⟨other, different, free⟩ :=
        endures index _ taken slot record held isRecord last created queued
      obtain was | ⟨again, -, same, heldOther, -⟩ := step_stuck attached _ (none other)
      · exact free was
      · obtain rfl := TableEvent.close.inj same
        exact different (Option.some.inj (heldOther.symm.trans held))

/-- A run whose steps the registry endures keeps it at every state. -/
theorem registry_kept (events : List TableEvent)
    (endures : ∀ index event, events[index]? = some event → Endures (tableAt events index) event)
    (index : Nat) : RegistryKept events index := by
  obtain ⟨unique, slot, notStuck⟩ := sound_tableAt endures index
  have attached := attached_tableAt events index
  refine ⟨unique, attached.counted, ?_, available_of_not_stuck attached notStuck⟩
  intro slot before isBefore positive
  cases taken : events[index]? with
  | none =>
    have ended : tableAt events (index + 1) = tableAt events index := Runs.reached_end taken
    rw [ended]
    exact ⟨before, isBefore, .refl before⟩
  | some event =>
    have next : tableAt events (index + 1) = step event (tableAt events index) :=
      Runs.reached_succ taken
    rw [next]
    exact (step_succeeds attached event (endures index event taken)).kept isBefore positive

/-- Two workloads are created, and both sessions end before one is started. -/
def abandonedWorkloads : List TableEvent :=
  [.create true true 0 (.zero _) (sampleCreation true),
    .create true true 1 (.zero _) { sampleCreation true with workloadId := .literal "v" },
    .close 0, .close 1]

/-- No session is attached, and no other workload can be attached. -/
theorem abandoned_workloads_stay : ¬ ∀ events index, RegistryKept events index := by
  intro kept
  have attached := attached_tableAt abandonedWorkloads 4
  have counters : ∀ slot, (tableAt abandonedWorkloads 4).counter slot = some 0 := by decide +kernel
  have free : ∀ session, (tableAt abandonedWorkloads 4).managed session = none := by
    intro session
    refine Option.eq_none_iff_forall_ne_some.mpr fun slot held => ?_
    have positive := ReferenceCounts.references_pos attached.finite held
    rw [← attached.counted slot 0 (counters slot)] at positive
    exact absurd positive (Nat.lt_irrefl 0)
  have selected := (kept abandonedWorkloads 4).available free (.zero _) (.literal "u") (by decide)
  have none : (tableAt abandonedWorkloads 4).selectSlot true (.zero _) (.literal "u") true = none :=
    by decide +kernel
  rw [none] at selected
  cases selected

/-- A run in which a session attaches itself to a workload that another one created. -/
theorem registry_kept_shared :
    RegistryKept [.create true true 0 (.zero _) (sampleCreation true),
      .request 1 (.zero _) (.literal "w")] 2 := by
  refine registry_kept _ (fun index event taken => ?_) 2
  match index, taken with
  | 0, taken =>
    obtain rfl := Option.some.inj taken
    intro _ _ slot record isRecord
    cases isRecord
  | 1, taken =>
    obtain rfl := Option.some.inj taken
    trivial

end PoisonedOS.ManagedTable
