import PoisonedOS.Tools.Ownership

/-!
# The record, the slots and the service

What a session keeps by itself: it has the slot of the command of its run, except while it
undoes a start or ends, and no other slot of the tools. And what the tool service keeps: its
run has a name and an endpoint, and without a run the endpoint is free, so that a run can be
started whenever there is none and the worker is idle.
-/

namespace PoisonedOS.ToolOwnership

open SlotTable (Distinct distinct_fresh findSlot_none firstSlot lookup_none place)
open ToolSystem (command startRun step step_transition)

/-! ## Slots -/

section Slots

variable {cancellations after : Cancellations} {commandId : UInt32} {context : SlotContext}

/-- A registered command is in a slot that was empty, under an id no other slot has. -/
theorem registered_slot (registered : registerCancellable cancellations commandId context =
    some after) : commandId ≠ 0 ∧
      (∀ slot record, cancellations slot = some record → record.commandId ≠ commandId) ∧
      ∃ slot, cancellations slot = none ∧
        after = place cancellations slot ⟨commandId, context⟩ := by
  simp only [registerCancellable] at registered
  split at registered
  · cases registered
  · rename_i known
    split at registered
    · cases registered
    · rename_i absent
      obtain ⟨slot, isFirst, rfl⟩ := Option.map_eq_some_iff.mp registered
      have vacant := (Fin.find?_eq_some_iff.mp isFirst).1
      rw [Option.not_isSome_iff_eq_none] at absent
      exact ⟨known, findSlot_none.mp absent, slot, Option.isNone_iff_eq_none.mp vacant,
        rfl⟩

theorem completed_slot (distinct : Distinct CancellationSlot.commandId cancellations)
    (known : commandId ≠ 0) {slot : Fin 4}
    (stored : cancellations slot = some ⟨commandId, context⟩) :
    completeCancellable cancellations commandId context =
      Function.update cancellations slot none := by
  simp only [completeCancellable, if_neg known]
  cases found : firstSlot cancellations (· == some ⟨commandId, context⟩) with
  | none =>
    have absent := Fin.find?_eq_none_iff.mp found slot
    rw [stored] at absent
    exact absurd absent (by simp)
  | some first =>
    have same := beq_iff_eq.mp (Fin.find?_eq_some_iff.mp found).1
    rw [distinct first slot _ _ same stored rfl]

/-- Completing a command changes nothing, or empties a slot with its context. -/
theorem completed_cases (cancellations : Cancellations) (commandId : UInt32)
    (context : SlotContext) :
    completeCancellable cancellations commandId context = cancellations ∨
      ∃ slot, cancellations slot = some ⟨commandId, context⟩ ∧
        completeCancellable cancellations commandId context =
          Function.update cancellations slot none := by
  simp only [completeCancellable]
  split
  · exact .inl rfl
  · cases found : firstSlot cancellations (· == some ⟨commandId, context⟩) with
    | none => exact .inl rfl
    | some slot =>
      exact .inr ⟨slot, beq_iff_eq.mp (Fin.find?_eq_some_iff.mp found).1, rfl⟩

/-- What a table holds after a slot was emptied, it held before in another slot. -/
theorem emptied_slot {emptied slot : Fin 4} {record : CancellationSlot}
    (stored : Function.update cancellations emptied none slot = some record) :
    slot ≠ emptied ∧ cancellations slot = some record := by
  by_cases same : slot = emptied
  · rw [same, Function.update_self] at stored
    cases stored
  · rw [Function.update_of_ne same] at stored
    exact ⟨same, stored⟩

theorem distinct_emptied (distinct : Distinct CancellationSlot.commandId cancellations)
    (emptied : Fin 4) :
    Distinct CancellationSlot.commandId (Function.update cancellations emptied none) :=
  fun first second left right storedLeft storedRight same =>
    distinct first second left right (emptied_slot storedLeft).2 (emptied_slot storedRight).2 same

theorem distinct_registered
    (distinct : Distinct CancellationSlot.commandId cancellations)
    (registered : registerCancellable cancellations commandId context = some after) :
    Distinct CancellationSlot.commandId after := by
  obtain ⟨-, other, slot, -, rfl⟩ := registered_slot registered
  refine distinct_fresh distinct ?_ slot
  exact lookup_none.mpr (findSlot_none.mpr other)

end Slots

/-! ## One session -/

/-- The stop that is asked for or waited for. -/
def RequestPhase.reason : RequestPhase → Option StopReason
  | .idle => none
  | .calling reason | .waiting reason => some reason

/-- The record will be dropped when the stop returns. -/
def RequestPhase.drops (phase : RequestPhase) : Bool := phase.reason.any StopReason.drops

namespace ToolSession

/-- The session has recorded a run, and is not about to forget it. -/
def guarded (session : ToolSession) : Bool := session.holds && !session.phase.drops

/-- The record, the slots and the request of a session agree. -/
structure Ordered (session : ToolSession) : Prop where
  requested : session.phase ≠ .idle → session.holds = true
  distinct : SlotTable.Distinct CancellationSlot.commandId session.cancellations
  registered : ∀ slot record, session.cancellations slot = some record →
    record.context = .tools → record.commandId = session.activeCommandId ∧ session.guarded = true
  slotted : session.guarded = true → session.activeCommandId ≠ 0 ∧
    ∃ slot, session.cancellations slot = some ⟨session.activeCommandId, .tools⟩
  cancelling : ∀ slot, session.phase.reason = some (.cancel slot) →
    session.cancellations slot = some ⟨session.activeCommandId, .tools⟩

variable {session : ToolSession}

theorem closed_ordered : closed.Ordered where
  requested := fun busy => absurd rfl busy
  distinct := fun _ _ _ _ stored => by cases stored
  registered := fun _ _ stored => by cases stored
  slotted := fun guarded => by cases guarded
  cancelling := fun _ isCancel => by cases isCancel

theorem fresh_ordered : fresh.Ordered :=
  ⟨closed_ordered.requested, closed_ordered.distinct, closed_ordered.registered,
    closed_ordered.slotted, closed_ordered.cancelling⟩

/-- A session in no request guards what it has recorded. -/
theorem guarded_idle (idle : session.phase = .idle) : session.guarded = session.holds := by
  simp [guarded, idle, RequestPhase.drops, RequestPhase.reason]

theorem uncancelled (idle : session.phase = .idle) (slot : Fin 4) :
    session.phase.reason ≠ some (.cancel slot) := by
  rw [idle]
  intro same
  cases same

/-- A request goes on without a change of who will drop the record. -/
theorem Ordered.move (ordered : session.Ordered) {phase : RequestPhase}
    (holds : phase ≠ .idle → session.holds = true) (drops : phase.drops = session.phase.drops)
    (cancelling : ∀ slot, phase.reason = some (.cancel slot) →
      session.cancellations slot = some ⟨session.activeCommandId, .tools⟩) :
    ({ session with phase } : ToolSession).Ordered := by
  have same : ({ session with phase } : ToolSession).guarded = session.guarded := by
    rw [guarded, guarded, ← drops]
    rfl
  refine ⟨holds, ordered.distinct, fun slot record stored isTools => ?_, fun guards => ?_,
    cancelling⟩
  · rw [same]
    exact ordered.registered slot record stored isTools
  · exact ordered.slotted (same.symm.trans guards)

/-- The slots change, those of the tools excepted. -/
theorem Ordered.with_slots (ordered : session.Ordered) (idle : session.phase = .idle)
    {cancellations : Cancellations}
    (distinct : Distinct CancellationSlot.commandId cancellations)
    (same : ∀ slot record, record.context = .tools →
      (cancellations slot = some record ↔ session.cancellations slot = some record)) :
    ({ session with cancellations } : ToolSession).Ordered := by
  refine ⟨ordered.requested, distinct, fun slot record stored isTools => ?_, fun guards => ?_,
    fun slot isCancel => absurd isCancel (uncancelled idle slot)⟩
  · exact ordered.registered slot record ((same slot record isTools).mp stored) isTools
  · obtain ⟨known, slot, stored⟩ := ordered.slotted guards
    exact ⟨known, slot, (same slot _ rfl).mpr stored⟩

theorem cleared_ordered (session : ToolSession) {cancellations : Cancellations}
    (distinct : Distinct CancellationSlot.commandId cancellations)
    (untooled : ∀ slot record, cancellations slot = some record → record.context ≠ .tools) :
    ({ session.cleared with cancellations } : ToolSession).Ordered where
  requested := fun busy => absurd rfl busy
  distinct := distinct
  registered := fun slot record stored isTools => absurd isTools (untooled slot record stored)
  slotted := fun guards => by cases guards
  cancelling := fun _ isCancel => by cases isCancel

/-- A session that is about to forget its record has no slot of the tools. -/
theorem Ordered.untooled (ordered : session.Ordered) (free : session.guarded = false)
    (slot : Fin 4) (record : CancellationSlot)
    (stored : session.cancellations slot = some record) : record.context ≠ .tools := by
  intro isTools
  rw [(ordered.registered slot record stored isTools).2] at free
  cases free

theorem Ordered.untooled_emptied (ordered : session.Ordered) {slot : Fin 4}
    (held : session.cancellations slot = some ⟨session.activeCommandId, .tools⟩)
    (other : Fin 4) (record : CancellationSlot)
    (stored : Function.update session.cancellations slot none other = some record) :
    record.context ≠ .tools := by
  intro isTools
  obtain ⟨apart, before⟩ := emptied_slot stored
  have same := (ordered.registered other record before isTools).1
  exact apart (ordered.distinct other slot record _ before held same)

/-- Completing the command of a guarded run empties its slot. -/
theorem Ordered.completed (ordered : session.Ordered) (guards : session.guarded = true) :
    ∃ slot, session.cancellations slot = some ⟨session.activeCommandId, .tools⟩ ∧
      completeCancellable session.cancellations session.activeCommandId .tools =
        Function.update session.cancellations slot none := by
  obtain ⟨known, slot, stored⟩ := ordered.slotted guards
  exact ⟨slot, stored, completed_slot ordered.distinct known stored⟩

/-- A request that has called its stop is over when the stop returns. -/
theorem Ordered.resolve (ordered : session.Ordered) {reason : StopReason}
    (asked : session.phase.reason = some reason) (stopped : Bool) :
    (session.resolve reason stopped).Ordered := by
  have busy : session.phase ≠ .idle := by
    intro idle
    rw [idle] at asked
    cases asked
  have holds := ordered.requested busy
  have drops : session.phase.drops = reason.drops := by rw [RequestPhase.drops, asked]; rfl
  have kept (keeps : reason.drops = false) :
      ({ session with phase := .idle } : ToolSession).Ordered :=
    ordered.move (fun other => absurd rfl other) (drops.trans keeps).symm
      (fun _ isCancel => by cases isCancel)
  cases reason with
  | undo =>
    have free : session.guarded = false := by simp [guarded, drops, StopReason.drops]
    exact cleared_ordered session ordered.distinct (ordered.untooled free)
  | stop =>
    cases stopped with
    | false => exact kept rfl
    | true =>
      have guards : session.guarded = true := by simp [guarded, drops, holds, StopReason.drops]
      obtain ⟨slot, held, completed⟩ := ordered.completed guards
      simp only [ToolSession.resolve, if_true, completed]
      exact cleared_ordered session (distinct_emptied ordered.distinct slot)
        (ordered.untooled_emptied held)
  | cancel slot =>
    cases stopped with
    | false => exact kept rfl
    | true =>
      have held := ordered.cancelling slot asked
      exact cleared_ordered session (distinct_emptied ordered.distinct slot)
        (ordered.untooled_emptied held)
  | close => exact closed_ordered

/-- The session ends, or goes on to the stop of its run. -/
theorem Ordered.free (ordered : session.Ordered) (idle : session.phase = .idle) :
    session.free.Ordered := by
  simp only [ToolSession.free]
  split
  · rename_i holds
    obtain ⟨slot, held, completed⟩ :=
      ordered.completed ((guarded_idle idle).trans holds)
    have untooled := ordered.untooled_emptied held
    rw [completed]
    exact ⟨fun _ => holds, distinct_emptied ordered.distinct slot,
      fun other record stored isTools => absurd isTools (untooled other record stored),
      fun guards => absurd guards (by simp [guarded, RequestPhase.drops, RequestPhase.reason,
        StopReason.drops]),
      fun _ isCancel => by cases isCancel⟩
  · exact closed_ordered

/-- A run is recorded, with or without a slot. -/
theorem Ordered.recorded (ordered : session.Ordered) (idle : session.phase = .idle)
    (unheld : session.holds = false) (input : ToolRun) (given : input.runId.isEmpty = false)
    (commandId : UInt32) (run : Nat) :
    ({ session.recorded input commandId run with phase := .calling .undo } :
        ToolSession).Ordered ∧
      ∀ cancellations, registerCancellable session.cancellations commandId .tools =
        some cancellations →
        ({ session.recorded input commandId run with cancellations } : ToolSession).Ordered := by
  have untooled := ordered.untooled ((guarded_idle idle).trans unheld)
  have holds : (!input.runId.isEmpty) = true := by rw [given]; rfl
  refine ⟨⟨fun _ => holds, ordered.distinct,
    fun slot record stored isTools => absurd isTools (untooled slot record stored),
    fun guards => absurd guards (by simp [guarded, RequestPhase.drops, RequestPhase.reason,
      StopReason.drops]), fun _ isCancel => by cases isCancel⟩, fun cancellations registered => ?_⟩
  have distinct := distinct_registered ordered.distinct registered
  obtain ⟨known, -, slot, -, rfl⟩ := registered_slot registered
  have guards : (!input.runId.isEmpty && !session.phase.drops) = true := by
    rw [holds, idle]
    rfl
  refine ⟨fun _ => holds, distinct, fun other record stored isTools => ?_,
    fun _ => ⟨known, slot, Function.update_self ..⟩,
    fun other isCancel => absurd isCancel (uncancelled idle other)⟩
  · change place session.cancellations slot ⟨commandId, .tools⟩ other = some record
      at stored
    by_cases same : other = slot
    · rw [same, place, Function.update_self] at stored
      cases stored
      exact ⟨rfl, guards⟩
    · rw [place, Function.update_of_ne same] at stored
      exact absurd isTools (untooled other record stored)

/-- A request that asks for a stop finds the record, and its slot where it is to be
emptied. -/
theorem Ordered.stopRequest (ordered : session.Ordered) (idle : session.phase = .idle)
    (input : ToolRun) (given : input.runId.isEmpty = false) :
    (session.stopRequest input).Ordered := by
  simp only [ToolSession.stopRequest]
  split
  · rename_i named
    have same := beq_iff_eq.mp (Bool.and_eq_true_iff.mp named).1
    have holds : session.holds = true := by rw [ToolSession.holds, same, given]; rfl
    exact ordered.move (fun _ => holds) (by rw [idle]; rfl) (fun _ isCancel => by cases isCancel)
  · exact ordered

theorem Ordered.cancelRequest (ordered : session.Ordered) (idle : session.phase = .idle)
    (target : UInt64) (accepted : Bool) : (session.cancelRequest target accepted).Ordered := by
  simp only [ToolSession.cancelRequest]
  split
  · exact ordered
  split
  · exact ordered
  · rename_i slot found
    simp only [slotCallback]
    split
    · exact ordered
    · rename_i commandId stored
      split
      · exact ordered
      · rename_i callback
        simp only [Bool.or_eq_true, bne_iff_ne, not_or, not_not, Bool.not_eq_true] at callback
        refine ordered.move (fun _ => by rw [ToolSession.holds, callback.2]; rfl)
          (by rw [idle]; rfl) (fun other isCancel => ?_)
        cases isCancel
        rw [stored, callback.1]
    · rename_i commandId stored
      split
      · refine ordered.with_slots idle (distinct_emptied ordered.distinct slot)
          (fun other record isTools => ?_)
        constructor
        · exact fun after => (emptied_slot after).2
        · intro before
          have apart : other ≠ slot := by
            rintro rfl
            rw [stored] at before
            cases before
            cases isTools
          rw [Function.update_of_ne apart, before]
      · exact ordered

theorem Ordered.registerWorkload (ordered : session.Ordered) (idle : session.phase = .idle)
    (commandId : UInt32) : (session.registerWorkload commandId).Ordered := by
  simp only [ToolSession.registerWorkload]
  split
  · exact ordered
  · rename_i cancellations registered
    have distinct := distinct_registered ordered.distinct registered
    obtain ⟨-, -, slot, vacant, rfl⟩ := registered_slot registered
    refine ordered.with_slots idle distinct (fun other record isTools => ?_)
    by_cases same : other = slot
    · rw [same, place, Function.update_self, vacant]
      constructor
      · intro stored
        cases stored
        cases isTools
      · intro stored
        cases stored
    · rw [place, Function.update_of_ne same]

theorem Ordered.completeWorkload (ordered : session.Ordered) (idle : session.phase = .idle)
    (commandId : UInt32) : (session.completeWorkload commandId).Ordered := by
  simp only [ToolSession.completeWorkload]
  obtain still | ⟨slot, stored, emptied⟩ :=
    completed_cases session.cancellations commandId .workload
  · rw [still]
    exact ordered
  · rw [emptied]
    refine ordered.with_slots idle (distinct_emptied ordered.distinct slot)
      (fun other record isTools => ⟨fun after => (emptied_slot after).2, fun before => ?_⟩)
    have apart : other ≠ slot := by
      rintro rfl
      rw [stored] at before
      cases before
      cases isTools
    rw [Function.update_of_ne apart, before]

end ToolSession

/-! ## The tool service -/

/-- The run that a caller in a stop asked to stop. -/
def stopOf : Caller → Option CString
  | .stopping runId | .idleSeen runId => some runId
  | _ => none

/-- What the tool service keeps between its active run, its endpoint and its worker. -/
structure Serves (system : ToolSystem) : Prop where
  settled : system.view.Settled
  registered : system.tools.active = true →
    system.app.registered = true ∧ system.tools.runId.isEmpty = false
  freed : system.tools.active = false → system.app.run.active = false

/-- The run of the tool service and the stops in progress are the same. -/
structure Unmoved (system after : ToolSystem) : Prop where
  active : after.tools.active = system.tools.active
  runId : after.tools.runId = system.tools.runId
  toolId : after.tools.toolId = system.tools.toolId
  started : after.started = system.started
  registered : after.app.registered = system.app.registered
  freed : after.app.run.active = true → system.app.run.active = true

namespace Serves

variable {system after : ToolSystem}

theorem unmoved (serves : Serves system) (same : Unmoved system after)
    (settled : after.view.Settled) : Serves after := by
  refine ⟨settled, fun active => ?_, fun inactive => ?_⟩
  · rw [same.registered, same.runId]
    exact serves.registered (same.active.symm.trans active)
  · cases busy : after.app.run.active with
    | false => rfl
    | true =>
      have freed := serves.freed (same.active.symm.trans inactive)
      rw [same.freed busy] at freed
      cases freed

theorem step_settled (serves : Serves system) (operation : ToolStep) :
    (system.step operation).1.view.Settled :=
  serves.settled.next (step_transition system operation)

end Serves

/-- The run of the tool service stays through every step that neither starts nor stops. -/
theorem work_unmoved (system : ToolSystem) (operation : ToolStep)
    (work : ∀ toolId runId caseId role, operation ≠ .start toolId runId caseId role)
    (unstopped : ∀ caller, operation ≠ .stopEnd caller) :
    Unmoved system (system.step operation).1 := by
  have still : Unmoved system system := ⟨rfl, rfl, rfl, rfl, rfl, id⟩
  cases operation with
  | start toolId runId caseId role => exact absurd rfl (work toolId runId caseId role)
  | stopEnd caller => exact absurd rfl (unstopped caller)
  | callback caller =>
    simp only [step]
    split
    · simp only [command]
      split
      · exact ⟨rfl, rfl, rfl, rfl, rfl, id⟩
      · split <;> exact ⟨rfl, rfl, rfl, rfl, rfl, id⟩
    · exact still
  | appCancel caller =>
    simp only [step]
    split
    · split
      · exact ⟨rfl, rfl, rfl, rfl, rfl, fun active => by cases active⟩
      · exact ⟨rfl, rfl, rfl, rfl, rfl, id⟩
    · exact still
  | publishEvent typed =>
    simp only [step, ToolSystem.publishEvent]
    split
    · split <;> exact ⟨rfl, rfl, rfl, rfl, rfl, id⟩
    · exact still
  | stopWait caller timedOut =>
    simp only [step]
    split
    · split
      · exact ⟨rfl, rfl, rfl, rfl, rfl, id⟩
      · split <;> exact ⟨rfl, rfl, rfl, rfl, rfl, id⟩
    · exact still
  | publishCapture captured =>
    simp only [step]
    split
    · split <;> exact ⟨rfl, rfl, rfl, rfl, rfl, id⟩
    · exact still
  | lookup | release | stopBegin | wake | take | adapterEffect | publishCheck | adapterReturn
      | done =>
    simp only [step, ToolSystem.take]
    split <;> first | exact still | exact ⟨rfl, rfl, rfl, rfl, rfl, id⟩

/-- A step of the worker or of a dispatch moves no caller, or one that is in no stop, and
out of idleness only by a lookup. -/
theorem work_callers (state : OwnedSystem) {operation : ToolStep}
    (admitted : state.admits operation = true) :
    (state.system.step operation).1.callers = state.system.callers ∨
      ∃ caller phase, (state.system.step operation).1.callers =
          Function.update state.system.callers caller phase ∧
        stopOf phase = none ∧ stopOf (state.system.callers caller) = none ∧
        (state.system.callers caller = .idle → state.ready caller = true) := by
  cases operation with
  | start | stopBegin | stopWait | stopEnd => cases admitted
  | lookup caller command =>
    simp only [step]
    split
    · rename_i free
      exact .inr ⟨caller, _, rfl, rfl, by rw [free.1]; rfl, fun _ => admitted⟩
    · exact .inl rfl
  | callback caller =>
    simp only [step]
    split
    · rename_i command found
      simp only [ToolSystem.command]
      split
      · exact .inr ⟨caller, _, rfl, rfl, by rw [found]; rfl, fun idle => by
          rw [found] at idle
          cases idle⟩
      · split <;> exact .inr ⟨caller, _, rfl, rfl, by rw [found]; rfl, fun idle => by
          rw [found] at idle
          cases idle⟩
    · exact .inl rfl
  | release caller =>
    simp only [step]
    split
    · rename_i found
      exact .inr ⟨caller, _, rfl, rfl, by rw [found]; rfl, fun idle => by
        rw [found] at idle
        cases idle⟩
    · exact .inl rfl
  | appCancel caller =>
    simp only [step]
    split
    · rename_i command found
      split <;> exact .inr ⟨caller, _, rfl, rfl, by rw [found]; rfl, fun idle => by
        rw [found] at idle
        cases idle⟩
    · exact .inl rfl
  | publishCapture captured =>
    simp only [step]
    split
    · split <;> exact .inl rfl
    · exact .inl rfl
  | publishEvent typed =>
    simp only [step, ToolSystem.publishEvent]
    split
    · split <;> exact .inl rfl
    · exact .inl rfl
  | wake | take | adapterEffect | publishCheck | adapterReturn | done =>
    simp only [step, ToolSystem.take]
    split <;> exact .inl rfl

variable {role : Role}

/-- A run that is started is active, with its endpoint, and there was none before. -/
theorem started_run {system : ToolSystem} {toolId runId caseId : CString}
    (started : starts system toolId runId caseId role = true) :
    system.tools.active = false ∧ runId.isEmpty = false ∧
      ∃ app, app.registered = true ∧ system.startRun toolId runId caseId role =
        { system with
          tools := system.tools.startedRun toolId runId caseId role
          app
          started := system.started + 1 } := by
  simp only [starts, Bool.and_eq_true, Bool.not_eq_true'] at started
  obtain ⟨⟨⟨⟨checked, inactive⟩, unpended⟩, free⟩, registers⟩ := started
  obtain ⟨app, registered⟩ := Option.isSome_iff_exists.mp registers
  have given : runId.isEmpty = false := by
    simp only [ToolsService.startChecks, boundedIdentifier, Bool.and_eq_true,
      Bool.not_eq_true'] at checked
    exact checked.1.1.2.1.1
  refine ⟨inactive, given, app, ?_, ?_⟩
  · simp only [AppService.endpointRegister] at registered
    split at registered
    · cases registered
    · cases registered
      rfl
  · simp [startRun, checked, inactive, unpended, free, registered]

/-- A run that is not started leaves the service inactive where it was, and keeps
everything else. -/
theorem unstarted_run {system : ToolSystem} {toolId runId caseId : CString}
    (refused : starts system toolId runId caseId role = false) :
    system.startRun toolId runId caseId role = system ∨
      (system.tools.active = false ∧ system.startRun toolId runId caseId role =
        { system with
          tools :=
            { system.tools.startedRun toolId runId caseId role with active := false } }) := by
  simp only [startRun]
  split
  · exact .inl rfl
  · rename_i passes
    simp only [Bool.or_eq_true, not_or, Bool.not_eq_true, Bool.not_eq_false'] at passes
    obtain ⟨⟨⟨checked, inactive⟩, unpended⟩, free⟩ := passes
    cases registered : system.app.endpointRegister toolsAppId runId with
    | none => exact .inr ⟨inactive, rfl⟩
    | some app =>
      rw [starts, checked, inactive, unpended, free, registered] at refused
      cases refused

/-- When nothing runs and nothing is left to do, every run that passes the checks is
started. -/
theorem Serves.startable {system : ToolSystem} (serves : Serves system)
    (inactive : system.tools.active = false) (unpended : system.tools.workPending = false)
    (free : system.tools.workerBusy = false) {toolId runId caseId : CString}
    (checked : ToolsService.startChecks toolId runId caseId role = true) :
    starts system toolId runId caseId role = true := by
  have named : boundedText toolsAppId appMaxText = true := by decide +kernel
  have bounded : boundedText runId appMaxText = true := by
    simp only [ToolsService.startChecks, boundedIdentifier, Bool.and_eq_true,
      decide_eq_true_eq] at checked
    have short := checked.1.1.2.1
    simp only [boundedText, Bool.and_eq_true, decide_eq_true_eq]
    exact ⟨short.1, Nat.lt_of_le_of_lt short.2 (by decide)⟩
  simp [starts, checked, inactive, unpended, free, AppService.endpointRegister,
    serves.freed inactive, named, bounded]

end PoisonedOS.ToolOwnership
