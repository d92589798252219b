import PoisonedOS.Workloads.ManagedTableLaws

/-!
# Rejected `CREATE` requests

A `CREATE` request binds its session to the record of the workload it names, and clears a record
whose workload is terminal, before it verifies the project and the limits. A request that is
rejected earlier changes nothing. One that is rejected later leaves its session attached to an
empty workload, which is queued, so that the session can bind to no other.
-/

namespace PoisonedOS

theorem createOn_rejected {workload : Workload} {request : CreateRequest}
    (rejected : (createOn workload request).1 = false) :
    (createOn workload request).2 =
      if workload.projectDigest.isEmpty || !workload.state.terminal then workload
      else .cleared (.literal "") := by
  revert rejected
  rw [createOn]
  dsimp only
  cases workload.projectDigest.isEmpty with
  | true =>
    rw [if_pos rfl, Bool.true_or, if_pos rfl]
    cases ManagedScript.CreateRequest.workload request with
    | none => exact fun _ => rfl
    | some created => exact fun accepted => Bool.noConfusion accepted
  | false =>
    rw [if_neg Bool.false_ne_true, Bool.false_or]
    cases ManagedScript.CreateRequest.repeats request workload with
    | true => exact fun accepted => Bool.noConfusion accepted
    | false =>
      rw [if_neg Bool.false_ne_true]
      cases !workload.state.terminal with
      | true => exact fun _ => rfl
      | false =>
        rw [if_neg Bool.false_ne_true, if_neg Bool.false_ne_true]
        cases ManagedScript.CreateRequest.workload request with
        | none => exact fun _ => rfl
        | some created => exact fun accepted => Bool.noConfusion accepted

namespace ManagedTable

variable {table : ManagedTable} {session : Nat} {slot : Fin managedMaxRecords}
  {record : ManagedRecord} {actorDigest : Digest} {request : CreateRequest}
  {memory permitted : Bool}

/-- A change of a record to itself. -/
theorem change_same {edit : ManagedRecord → ManagedRecord} (isRecord : table.slots slot = some record)
    (same : edit record = record) : table.change slot edit = table := by
  rw [change, isRecord, Option.map_some, same, ← isRecord, Function.update_eq_self]

theorem create_held (held : table.managed session = some slot)
    (isRecord : table.slots slot = some record) :
    table.create session request =
      ((createOn record.workload request).1,
        table.change slot fun record =>
          { record with workload := (createOn record.workload request).2 }) := by
  rw [create, recordOf, held, Option.bind_some, isRecord]

/-- The session's workload, and what the session can bind to and create, are what they were. -/
structure Preserves (before after : ManagedTable) (session : Nat) : Prop where
  managed : after.managed session = before.managed session
  record : after.recordOf session = before.recordOf session
  binds : ∀ memory actorDigest workloadId createIfMissing,
    (after.bind memory session actorDigest workloadId createIfMissing).1 =
      (before.bind memory session actorDigest workloadId createIfMissing).1
  creates : ∀ memory permitted actorDigest request,
    (after.createRequest memory permitted session actorDigest request).1 =
      (before.createRequest memory permitted session actorDigest request).1

/-- A request that binds its session to no other record and clears none: it is not permitted, or
its session stays with another workload, or there is no record for it, or its session is
attached to its record and the workload is none or not terminal. -/
def Spares (table : ManagedTable) (memory permitted : Bool) (session : Nat)
    (actorDigest : Digest) (request : CreateRequest) : Prop :=
  permitted = false ∨
    match table.recordOf session with
    | some record =>
      if record.isOf actorDigest request.workloadId then
        record.workload.projectDigest.isEmpty = true ∨ record.workload.state.terminal = false
      else
        record.workload.state.terminal = false ∨
          table.selectSlot memory actorDigest request.workloadId true = none
    | none => table.selectSlot memory actorDigest request.workloadId true = none

/-- A request that binds its session to another record moves the session, accepted or not.

Proof: nobody is attached to a record that is taken for another workload, and the record of the
session itself is not the one that was asked for. -/
theorem request_moves (attached : Attached table)
    (notOf : (table.recordOf session).any (·.isOf actorDigest request.workloadId) = false)
    (unbound : (table.recordOf session).any (fun record => !record.workload.state.terminal) = false)
    (selected : table.selectSlot memory actorDigest request.workloadId true = some slot) :
    (table.createRequest memory true session actorDigest request).2.managed session ≠
      table.managed session := by
  have bound : table.bind memory session actorDigest request.workloadId true =
      (true,
        ((table.attach slot actorDigest request.workloadId).detach session).hold session slot) := by
    rw [bind, notOf, unbound, selected, if_neg Bool.false_ne_true, if_neg Bool.false_ne_true]
  have taken : (table.createRequest memory true session actorDigest request).2.managed session =
      some slot := by
    rw [createRequest, bound, if_neg (by decide)]
    dsimp only
    rw [if_neg (by decide), create]
    split
    · exact Function.update_self _ _ _
    · exact Function.update_self _ _ _
  rw [taken]
  exact (apart_of_rebound attached notOf (selectSlot_some selected)).symm

/-- A request whose session stays with another workload, or finds no record, changes nothing. -/
theorem request_refused
    (refused : (table.bind memory session actorDigest request.workloadId true).1 = false) :
    (table.createRequest memory true session actorDigest request).2 = table := by
  rw [createRequest, if_neg (by decide)]
  dsimp only
  rw [refused]
  rfl

/-- A request whose session is attached to its record, in which it is rejected. -/
theorem request_held (held : table.managed session = some slot)
    (isRecord : table.slots slot = some record)
    (isOf : record.isOf actorDigest request.workloadId = true) :
    table.createRequest memory true session actorDigest request =
      ((createOn record.workload request).1,
        table.change slot fun record =>
          { record with workload := (createOn record.workload request).2 }) := by
  have isHeld : table.recordOf session = some record := by
    rw [recordOf, held, Option.bind_some, isRecord]
  rw [createRequest, if_neg (by decide), bind, isHeld, Option.any_some, isOf, if_pos rfl]
  exact create_held held isRecord

variable {events : List TableEvent} {index : Nat}

/-- A `CREATE` request that is rejected, in any state of any run, leaves its session's workload
and what the session can bind to and create exactly if it is one that binds to no other record
and clears none.

Proof: by cases on the record of the session. Binding moves the session to a record that it was
not attached to, and a workload that is terminal is not the empty one that replaces it. -/
theorem rejected_preserves_iff
    (rejected : ((tableAt events index).createRequest memory permitted session actorDigest
      request).1 = false) :
    Preserves (tableAt events index)
        ((tableAt events index).createRequest memory permitted session actorDigest request).2
        session ↔
      Spares (tableAt events index) memory permitted session actorDigest request := by
  have attached := attached_tableAt events index
  generalize tableAt events index = table at *
  have unchanged (same :
      (table.createRequest memory permitted session actorDigest request).2 = table) :
      Preserves table
        (table.createRequest memory permitted session actorDigest request).2 session := by
    rw [same]
    exact ⟨rfl, rfl, fun _ _ _ _ => rfl, fun _ _ _ _ => rfl⟩
  cases permitted with
  | false => exact iff_of_true (unchanged rfl) (.inl rfl)
  | true =>
    rw [Spares, or_iff_right Bool.noConfusion]
    cases isHeld : table.recordOf session with
    | none =>
      dsimp only
      cases selected : table.selectSlot memory actorDigest request.workloadId true with
      | none =>
        refine iff_of_true (unchanged (request_refused ?_)) rfl
        rw [bind, isHeld, selected]
        rfl
      | some slot =>
        refine iff_of_false (fun preserves => ?_) (Option.some_ne_none slot)
        refine request_moves attached ?_ ?_ selected preserves.managed
        · rw [isHeld, Option.any_none]
        · rw [isHeld, Option.any_none]
    | some record =>
      dsimp only
      cases isOf : record.isOf actorDigest request.workloadId with
      | false =>
        rw [if_neg Bool.false_ne_true]
        cases terminal : record.workload.state.terminal with
        | false =>
          refine iff_of_true (unchanged (request_refused ?_)) (.inl rfl)
          rw [bind, isHeld, Option.any_some, Option.any_some, isOf, terminal]
          rfl
        | true =>
          cases selected : table.selectSlot memory actorDigest request.workloadId true with
          | none =>
            refine iff_of_true (unchanged (request_refused ?_)) (.inr rfl)
            rw [bind, isHeld, Option.any_some, Option.any_some, isOf, terminal, selected]
            rfl
          | some slot =>
            refine iff_of_false (fun preserves => ?_) (by simp)
            refine request_moves attached ?_ ?_ selected preserves.managed
            · rw [isHeld, Option.any_some, isOf]
            · rw [isHeld, Option.any_some, terminal, Bool.not_true]
      | true =>
        rw [if_pos rfl]
        obtain ⟨slot, held, isRecord⟩ := Option.bind_eq_some_iff.mp isHeld
        rw [request_held held isRecord isOf] at rejected unchanged ⊢
        have left := createOn_rejected rejected
        by_cases spared : record.workload.projectDigest.isEmpty = true ∨
            record.workload.state.terminal = false
        · refine iff_of_true (unchanged (change_same isRecord ?_)) spared
          rw [left, if_pos]
          obtain empty | going := spared
          · rw [empty, Bool.true_or]
          · rw [going, Bool.not_false, Bool.or_true]
        · refine iff_of_false (fun preserves => spared (.inr ?_)) spared
          obtain ⟨full, terminal⟩ := not_or.mp spared
          have isAfter := preserves.record
          rw [isHeld, recordOf, show (table.change slot _).managed session = some slot from held,
            Option.bind_some, change_slots_self, isRecord, Option.map_some] at isAfter
          have same := congrArg ManagedRecord.workload (Option.some.inj isAfter)
          rw [left, if_neg (by simp [full, terminal])] at same
          exact (congrArg (fun workload => workload.state.terminal) same).symm

/-- A session that has created the workload `w`. -/
def createdWorkload : List TableEvent := [.create true true 0 (.zero _) (sampleCreation true)]

/-- The workload is queued, so that a request for another is rejected, and preserves it. -/
theorem queued_workload_preserved :
    Preserves (tableAt createdWorkload 1)
      ((tableAt createdWorkload 1).createRequest true true 0 (.zero _)
        { sampleCreation true with workloadId := .literal "v" }).2 0 := by
  refine (rejected_preserves_iff (by decide +kernel)).mpr (.inr ?_)
  have isHeld : (tableAt createdWorkload 1).recordOf 0 =
      some ⟨.zero _, 1, Workload.sampleWorkload⟩ := by
    rfl
  rw [isHeld]
  exact .inl rfl

/-- A project that does not verify leaves its session attached to an empty workload, and the
session can create no other. -/
theorem rejected_creation_binds : ¬ ∀ events index session actorDigest request memory permitted,
    ((tableAt events index).createRequest memory permitted session actorDigest request).1 = false →
      Preserves (tableAt events index)
        ((tableAt events index).createRequest memory permitted session actorDigest request).2
        session := by
  intro always
  have creates := (always [] 0 0 (.zero _) (sampleCreation false) true true
    (by decide +kernel)).creates true true (.zero _)
      { sampleCreation true with workloadId := .literal "v" }
  exact absurd creates (by decide +kernel)

end ManagedTable

end PoisonedOS
