import PoisonedOS.Tools.Captures
import PoisonedOS.Tools.Isolation

/-!
# What the radio tools send

A capture belongs to the run that is active and to the last receive command it published, since
every receive command that changes anything drops the capture first, and a run ends only in the
section that drops both. So whatever is sent was captured in the same run, and the command that
sends it is the one the run has in use.
-/

namespace PoisonedOS

def lastReceived (run : Nat) : List CaptureEvent → Option RadioSignal
  | [] => none
  | .received number signal :: earlier =>
    if number = run then signal else lastReceived run earlier
  | _ :: earlier => lastReceived run earlier

/-- The capabilities a role needs for sending. -/
def sendingCapabilities : Capabilities :=
  capabilityControl ||| capabilityRadio ||| capabilityDestructive

/-- The policy allows a role to send at a frequency: the region of the device does, the active
profile is for this region, enables the tool, does not mask the capabilities, and restricts no
classroom but to its instructor. -/
structure PolicyReading.Permits (reading : PolicyReading) (role : Role) (frequency : UInt32) :
    Prop where
  role : CapabilitiesIn sendingCapabilities (roleCapabilities role)
  provisioned : reading.regionProvisioned = true
  region : reading.regionAllows frequency = true
  hardware : reading.hardwareSupports frequency = true
  profile : ∃ profile, reading.profile = some profile ∧
    (profile.radioRegion = .literal "device" ∨ reading.regionName = some profile.radioRegion) ∧
    (profile.enabledTools = [] ∨ CString.literal "sub-ghz.receive" ∈ profile.enabledTools) ∧
    (profile.capabilityMask.toUInt32 = 0 ∨
      CapabilitiesIn sendingCapabilities profile.capabilityMask.toUInt32) ∧
    (profile.classroomRestricted = true → profile.classroomPolicy = .literal "instructor")

def RadioSignal.Permitted (policy : PolicyReading) (role : Role) : RadioSignal → Prop
  | .infrared _ => True
  | .subGhz frequency _ => policy.Permits role frequency

/-- What is sent is the last signal that was captured and published in the run, in a run of a
role that may send it, for a command of the run that confirms it. -/
def CaptureEvent.Follows (earlier : List CaptureEvent) : CaptureEvent → Prop
  | .sent run payload policy signal =>
    lastReceived run earlier = some signal ∧
      (∃ role, .started run role ∈ earlier ∧
        CapabilitiesIn sendingCapabilities (roleCapabilities role) ∧
          signal.Permitted policy role) ∧
      (∃ commandId, .accepted run commandId payload ∈ earlier) ∧
        jsonBool payload (.literal "exact_confirmation") = some true
  | _ => True

def Lawful : List CaptureEvent → Prop
  | [] => True
  | event :: earlier => event.Follows earlier ∧ Lawful earlier

def CaptureSystem.Holds (system : CaptureSystem) (toolId : CString) (signal : RadioSignal) :
    Prop :=
  system.base.tools.active = true ∧ system.base.tools.toolId = toolId ∧
    lastReceived system.base.started system.history = some signal

/-- Only the run's own capture is sent, and no capture outlives its run. -/
structure CaptureSystem.Kept (system : CaptureSystem) : Prop where
  lawful : Lawful system.history
  infrared : ∀ result, system.infraredCapture = some result →
    system.Holds (.literal "infrared.receive") (.infrared result.load)
  subGhz : ∀ result, system.subGhzCapture = some result →
    system.Holds (.literal "sub-ghz.receive") (.subGhz result.frequency result.rawTimings)

/-! ## The policy -/

theorem capabilitiesIn_iff {held allowed : Capabilities} :
    CapabilitiesIn held allowed ↔ allowed &&& held = held := by
  rw [CapabilitiesIn, UInt32.and_comm]

/-- A role with the destructive capability has all that sending needs. -/
theorem destructive_sends {role : Role}
    (destructive : (roleCapabilities role &&& capabilityDestructive == 0) = false) :
    CapabilitiesIn sendingCapabilities (roleCapabilities role) := by
  revert destructive
  cases role <;> decide

variable {request : RadioRequest}

theorem permitted_of_livePolicy {role : Role} {reading : PolicyReading}
    (transmits : request.operation = .transmit)
    (live : subGhzLivePolicy request role reading = true) :
    reading.Permits role request.frequencyHz := by
  rw [subGhzLivePolicy] at live
  cases isProfile : reading.profile with
  | none =>
    rw [isProfile] at live
    cases live
  | some profile =>
    rw [isProfile, Option.any_some, subGhzPolicyAllows] at live
    simp only [transmits, PolicyReading.snapshot] at live
    split at live
    · cases live
    rename_i basic
    split at live
    · cases live
    rename_i capable
    split at live
    · cases live
    rename_i provided
    simp only [Bool.or_eq_true, Bool.not_eq_true', not_or, Bool.not_eq_false, beq_iff_eq] at basic
    simp only [Bool.or_eq_true, Bool.and_eq_true, bne_iff_ne, not_or, not_and, not_not,
      ← capabilitiesIn_iff] at capable
    simp only [Bool.and_eq_true, Bool.or_eq_true, Bool.not_eq_true', not_and, not_or,
      Bool.not_eq_false, beq_iff_eq, forall_const] at provided
    refine ⟨capable.1, provided.1, provided.2, basic.1.1, profile, isProfile, basic.1.2,
      ?_, ?_, ?_⟩
    · simpa [profileEnablesTool] using basic.2
    · exact or_iff_not_imp_left.mpr capable.2
    · intro restricted
      simpa [restricted] using live

/-! ## Executions -/

namespace CaptureSystem

variable {system : CaptureSystem} {around : Surroundings}

/-- Infrared sends the signal of the capture, for a request that confirms. -/
theorem infraredTransmit_some {signal : InfraredResult} {sent : InfraredSignal}
    (isSent : infraredTransmit around request signal = some sent) :
    request.exactConfirmation = true ∧ sent = signal.load := by
  rw [infraredTransmit] at isSent
  split at isSent
  · cases isSent
  rename_i valid
  simp only [Bool.or_eq_true, not_or, Bool.not_eq_true', Bool.not_eq_false, bne_iff_ne, not_not,
    infraredRequestValidate, Bool.and_eq_true] at valid
  rw [valid.2] at valid
  repeat' split at isSent
  all_goals cases isSent
  exact ⟨(Bool.and_eq_true_iff.mp valid.1.2).2, rfl⟩

theorem subGhzTransmit_some {signal : SubGhzResult} {sent : RadioSignal}
    (isSent : system.subGhzTransmit around request signal = some sent) :
    request.exactConfirmation = true ∧ sent = .subGhz signal.frequency signal.rawTimings ∧
      sent.Permitted around.policy system.base.tools.role := by
  rw [subGhzTransmit] at isSent
  split at isSent
  · cases isSent
  rename_i valid
  simp only [Bool.or_eq_true, not_or, Bool.not_eq_true', Bool.not_eq_false, bne_iff_ne, not_not,
    subGhzRequestValidate, Bool.and_eq_true] at valid
  obtain ⟨⟨⟨⟨-, granted⟩, transmits⟩, same⟩, -⟩ := valid
  rw [transmits] at granted
  split at isSent
  · cases isSent
  split at isSent
  · cases isSent
  split at isSent
  · cases isSent
  rename_i live
  simp only [Bool.not_eq_true', Bool.not_eq_false] at live
  cases isSent
  refine ⟨(Bool.and_eq_true_iff.mp granted).2, rfl, ?_⟩
  rw [RadioSignal.Permitted, same]
  exact permitted_of_livePolicy transmits live

/-- A command is pending or in use. -/
def InUse (base : ToolSystem) : Prop :=
  base.tools.workPending = true ∨ base.worker.runs = true

/-- What is kept, with what is known of the run and of the command in use. -/
structure Sound (system : CaptureSystem) : Prop extends system.Kept where
  settled : system.base.view.Settled
  run : system.base.tools.active = true →
    .started system.base.started system.base.tools.role ∈ system.history
  command : InUse system.base → .accepted system.base.started system.base.tools.pendingCommandId
    system.base.tools.pendingPayload ∈ system.history

variable {toolId : CString}

/-- The radio tools are two tools. -/
theorem other_tool (infrared : toolId = .literal "infrared.receive")
    (subGhz : toolId = .literal "sub-ghz.receive") : False :=
  absurd (infrared.symm.trans subGhz) (by decide)

/-- A service without the capture of infrared. -/
theorem Sound.infrared_dropped (sound : system.Sound) :
    Sound { system with infraredCapture := none } :=
  { sound with infrared := fun _ isCapture => by cases isCapture }

/-- A service without the capture of Sub-GHz. -/
theorem Sound.subGhz_dropped (sound : system.Sound) :
    Sound { system with subGhzCapture := none } :=
  { sound with subGhz := fun _ isCapture => by cases isCapture }

/-- Publishing the result of a receive command that has dropped the capture. -/
theorem Sound.publish (sound : system.Sound) (noInfrared : system.infraredCapture = none)
    (noSubGhz : system.subGhzCapture = none) (signal : Option RadioSignal) :
    (system.publish around signal).Sound := by
  rw [CaptureSystem.publish]
  split
  · exact
      { lawful := ⟨trivial, sound.lawful⟩
        infrared := fun _ isCapture => by cases noInfrared.symm.trans isCapture
        subGhz := fun _ isCapture => by cases noSubGhz.symm.trans isCapture
        settled := sound.settled
        run := fun active => List.mem_cons_of_mem _ (sound.run active)
        command := fun inUse => List.mem_cons_of_mem _ (sound.command inUse) }
  · exact sound

/-- What was published is what the run captured last. -/
theorem holds_publish {signal : RadioSignal} (active : system.base.tools.active = true)
    (isTool : system.base.tools.toolId = toolId) (published : around.published = true) :
    (system.publish around (some signal)).Holds toolId signal := by
  rw [CaptureSystem.publish, if_pos published]
  exact ⟨active, isTool, if_pos rfl⟩

/-- Sending what a capture holds, in a run of a role that may, for a command that confirms. -/
theorem Sound.send (sound : system.Sound) {signal : RadioSignal}
    (executing : system.base.worker.runs = true) (holds : system.Holds toolId signal)
    (able : CapabilitiesIn sendingCapabilities (roleCapabilities system.base.tools.role))
    (permitted : signal.Permitted around.policy system.base.tools.role)
    (confirmed : jsonBool system.base.tools.pendingPayload (.literal "exact_confirmation") =
      some true) : (system.send around signal).Sound where
  lawful := ⟨⟨holds.2.2, ⟨_, sound.run holds.1, able, permitted⟩,
    ⟨_, sound.command (.inr executing)⟩, confirmed⟩, sound.lawful⟩
  infrared := sound.infrared
  subGhz := sound.subGhz
  settled := sound.settled
  run active := List.mem_cons_of_mem _ (sound.run active)
  command inUse := List.mem_cons_of_mem _ (sound.command inUse)

theorem Sound.infraredReceive (sound : system.Sound)
    (active : system.base.tools.active = true)
    (isTool : system.base.tools.toolId = .literal "infrared.receive") :
    (system.executeInfraredReceive around).Sound := by
  have noSubGhz : system.subGhzCapture = none := by
    cases isCapture : system.subGhzCapture with
    | none => rfl
    | some result => exact (other_tool isTool (sound.subGhz result isCapture).2.1).elim
  have dropped := sound.infrared_dropped
  simp only [executeInfraredReceive]
  split
  · split
    · exact dropped.publish rfl noSubGhz none
    · split
      · exact dropped.publish rfl noSubGhz none
      · rename_i signal _
        split
        · rename_i published
          refine { dropped.publish rfl noSubGhz (some (.infrared signal)) with infrared := ?_ }
          rintro _ ⟨⟩
          rw [InfraredSignal.load_result]
          exact holds_publish active isTool published
        · exact dropped
  · exact sound

theorem Sound.infraredTransmit (sound : system.Sound)
    (executing : system.base.worker.runs = true) :
    (system.executeInfraredTransmit around).Sound := by
  rw [executeInfraredTransmit]
  split
  · rename_i signal confirmation isCapture isConfirmation
    split
    · exact sound
    · rename_i allowed
      simp only [Bool.or_eq_true, not_or, Bool.not_eq_true] at allowed
      split
      · rename_i sent isSent
        obtain ⟨confirmed, rfl⟩ := infraredTransmit_some isSent
        refine sound.send executing (sound.infrared signal isCapture)
          (destructive_sends allowed.1) trivial ?_
        rw [isConfirmation]
        exact congrArg some confirmed
      · exact sound
  · exact sound

theorem Sound.subGhzReceive (sound : system.Sound) (active : system.base.tools.active = true)
    (isTool : system.base.tools.toolId = .literal "sub-ghz.receive")
    (operation : RadioOperation) : (system.executeSubGhzReceive around operation).Sound := by
  have noInfrared : system.infraredCapture = none := by
    cases isCapture : system.infraredCapture with
    | none => rfl
    | some result => exact (other_tool (sound.infrared result isCapture).2.1 isTool).elim
  have dropped := sound.subGhz_dropped
  simp only [executeSubGhzReceive]
  split
  · split
    · exact dropped.publish noInfrared rfl none
    · split
      · exact dropped.publish noInfrared rfl none
      · rename_i result _
        split
        · rename_i published
          refine { dropped.publish noInfrared rfl
            (some (.subGhz result.frequency result.rawTimings)) with subGhz := ?_ }
          rintro _ ⟨⟩
          exact holds_publish active isTool (Bool.and_eq_true_iff.mp published).1
        · exact dropped.publish noInfrared rfl _
  · exact sound

theorem Sound.subGhzTransmit (sound : system.Sound)
    (executing : system.base.worker.runs = true) :
    (system.executeSubGhzTransmit around).Sound := by
  rw [executeSubGhzTransmit]
  split
  · rename_i signal confirmation isCapture isConfirmation
    split
    · exact sound
    · split
      · rename_i sent isSent
        obtain ⟨confirmed, rfl, permitted⟩ := subGhzTransmit_some isSent
        refine sound.send executing (sound.subGhz signal isCapture) permitted.role permitted ?_
        rw [isConfirmation]
        exact congrArg some confirmed
      · exact sound
  · exact sound

/-- Executing the command in use keeps everything. -/
theorem Sound.pending (sound : system.Sound) (executing : system.base.worker.runs = true) :
    (system.executePending around).Sound := by
  have active := (sound.settled.running executing).1
  simp only [executePending]
  split
  · rename_i isTool
    split
    · exact sound.infraredTransmit executing
    · exact sound.infraredReceive active (beq_iff_eq.mp isTool)
  · split
    · rename_i isTool
      split
      · exact sound.subGhzTransmit executing
      · exact sound.subGhzReceive active (beq_iff_eq.mp isTool) _
    · exact sound

/-! ## Steps of the callers and the worker -/

/-- The run and the command in use stay as they are, and nothing is seen of a run. -/
structure Calm (before : ToolSystem) (next : ToolSystem × List ToolObservation) : Prop where
  active : next.1.tools.active = before.tools.active
  toolId : next.1.tools.toolId = before.tools.toolId
  started : next.1.started = before.started
  role : next.1.tools.role = before.tools.role
  commandId : next.1.tools.pendingCommandId = before.tools.pendingCommandId
  payload : next.1.tools.pendingPayload = before.tools.pendingPayload
  inUse : InUse next.1 → InUse before
  queues : ∀ commandRun serviceRun, next.2 ≠ [.queued commandRun serviceRun]
  stops : ∀ run, next.2 ≠ [.stopped run]

/-- A run that stays keeps what is known of it. -/
theorem Sound.calm (sound : system.Sound) {next : ToolSystem × List ToolObservation}
    (calm : Calm system.base next) (settled : next.1.view.Settled) :
    Sound { system with base := next.1 } where
  lawful := sound.lawful
  infrared result isCapture := by
    obtain ⟨active, isTool, isLast⟩ := sound.infrared result isCapture
    exact ⟨calm.active.trans active, calm.toolId.trans isTool, calm.started ▸ isLast⟩
  subGhz result isCapture := by
    obtain ⟨active, isTool, isLast⟩ := sound.subGhz result isCapture
    exact ⟨calm.active.trans active, calm.toolId.trans isTool, calm.started ▸ isLast⟩
  settled := settled
  run active := by
    rw [calm.started, calm.role]
    exact sound.run (calm.active.symm.trans active)
  command inUse := by
    rw [calm.started, calm.commandId, calm.payload]
    exact sound.command (calm.inUse inUse)

theorem calm_step (base : ToolSystem) (operation : ToolStep)
    (noStart : ∀ toolId runId caseId role, operation ≠ .start toolId runId caseId role)
    (noCallback : ∀ caller, operation ≠ .callback caller)
    (noStop : ∀ caller, operation ≠ .stopEnd caller) : Calm base (base.step operation) := by
  cases operation with
  | start toolId runId caseId role => exact absurd rfl (noStart toolId runId caseId role)
  | callback caller => exact absurd rfl (noCallback caller)
  | stopEnd caller => exact absurd rfl (noStop caller)
  | take =>
    simp only [ToolSystem.step, ToolSystem.take]
    split
    · cases execute : base.tools.workPending && base.tools.active && !base.tools.cancelled with
      | true =>
        have pending := (Bool.and_eq_true_iff.mp (Bool.and_eq_true_iff.mp execute).1).1
        exact ⟨rfl, rfl, rfl, rfl, rfl, rfl, fun _ => .inl pending, by simp, by simp⟩
      | false => exact ⟨rfl, rfl, rfl, rfl, rfl, rfl, by simp [InUse, WorkerPhase.runs], by simp,
          by simp⟩
    · exact ⟨rfl, rfl, rfl, rfl, rfl, rfl, id, by simp, by simp⟩
  | _ =>
    simp only [ToolSystem.step, ToolSystem.publishEvent]
    repeat' split
    all_goals refine ⟨rfl, rfl, rfl, rfl, rfl, rfl, ?_, by simp, by simp⟩
    all_goals first | exact id | simp_all [InUse, WorkerPhase.runs]

/-- A start that is not refused finds no captures and no command in use, since these are there
only for an active run. -/
theorem Sound.restarted (sound : system.Sound) (inactive : system.base.tools.active = false)
    {base : ToolSystem} {events : List CaptureEvent} (settled : base.view.Settled)
    (same : InUse base → InUse system.base) (lawful : Lawful (events ++ system.history))
    (run : base.tools.active = true →
      .started base.started base.tools.role ∈ events ++ system.history) :
    Sound { system with base, history := events ++ system.history } where
  lawful := lawful
  infrared result isCapture := by
    cases (sound.infrared result isCapture).1.symm.trans inactive
  subGhz result isCapture := by
    cases (sound.subGhz result isCapture).1.symm.trans inactive
  settled := settled
  run := run
  command inUse := by
    obtain pending | running := same inUse
    · cases (sound.settled.pending pending).symm.trans inactive
    · cases (sound.settled.running running).1.symm.trans inactive

theorem Sound.start (sound : system.Sound) (toolId runId caseId : CString) (role : Role) :
    (system.step (.other (.start toolId runId caseId role))).Sound := by
  have settled := sound.settled.next
    (ToolSystem.step_transition system.base (.start toolId runId caseId role))
  revert settled
  simp only [step, ToolSystem.step, ToolSystem.startRun]
  split
  · intro settled
    simp only [eventsOf, Nat.lt_irrefl, if_false, List.nil_append]
    exact sound
  · rename_i free
    simp only [Bool.or_eq_true, not_or, Bool.not_eq_true] at free
    split
    · intro settled
      simp only [eventsOf, Nat.lt_irrefl, if_false]
      exact sound.restarted free.1.1.2 settled id sound.lawful fun active => by cases active
    · intro settled
      simp only [eventsOf, Nat.lt_succ_self, if_true]
      exact sound.restarted free.1.1.2 settled id ⟨trivial, sound.lawful⟩
        fun _ => List.mem_cons_self

theorem step_calm {operation : ToolStep} (calm : Calm system.base (system.base.step operation))
    (noReturn : operation ≠ .adapterReturn) :
    system.step (.other operation) = { system with base := (system.base.step operation).1 } := by
  have none : eventsOf system.base (system.base.step operation).1
      (system.base.step operation).2 = [] := by
    rw [eventsOf]
    · rw [if_neg (calm.started ▸ Nat.lt_irrefl _)]
    · exact calm.queues
  rw [step]
  · rw [none, List.nil_append]
    split
    · rename_i run isStopped
      exact absurd isStopped (calm.stops run)
    · rfl
  · exact noReturn

theorem Sound.of_calm (sound : system.Sound) {operation : ToolStep}
    (calm : Calm system.base (system.base.step operation))
    (noReturn : operation ≠ .adapterReturn) : (system.step (.other operation)).Sound := by
  rw [step_calm calm noReturn]
  exact sound.calm calm (sound.settled.next (ToolSystem.step_transition system.base operation))

theorem Sound.callback (sound : system.Sound) (caller : Nat) :
    (system.step (.other (.callback caller))).Sound := by
  have settled := sound.settled.next (ToolSystem.step_transition system.base (.callback caller))
  revert settled
  cases found : system.base.callers caller with
  | found command =>
    by_cases queues : system.base.tools.accepts command = true ∧ command.cancel = false
    · simp only [step, ToolSystem.step, found, ToolSystem.command, queues.1, queues.2,
        Bool.not_true, Bool.false_eq_true, if_false, eventsOf, List.singleton_append]
      intro settled
      exact
        { lawful := ⟨trivial, sound.lawful⟩
          infrared := sound.infrared
          subGhz := sound.subGhz
          settled := settled
          run := fun active => List.mem_cons_of_mem _ (sound.run active)
          command := fun _ => List.mem_cons_self }
    · have calm : Calm system.base (system.base.step (.callback caller)) := by
        simp only [ToolSystem.step, found, ToolSystem.command]
        repeat' split
        all_goals first
          | exact ⟨rfl, rfl, rfl, rfl, rfl, rfl, id, by simp, by simp⟩
          | simp_all
      exact fun _ => sound.of_calm calm (by simp)
  | _ =>
    have calm : Calm system.base (system.base.step (.callback caller)) := by
      simp only [ToolSystem.step, found]
      exact ⟨rfl, rfl, rfl, rfl, rfl, rfl, id, by simp, by simp⟩
    exact fun _ => sound.of_calm calm (by simp)

theorem Sound.stop (sound : system.Sound) (caller : Nat) :
    (system.step (.other (.stopEnd caller))).Sound := by
  have settled := sound.settled.next (ToolSystem.step_transition system.base (.stopEnd caller))
  revert settled
  by_cases stops : ∃ runId, system.base.callers caller = .idleSeen runId ∧
      (system.base.tools.active && system.base.tools.runId == runId &&
        !system.base.tools.workPending && !system.base.tools.workerBusy) = true
  · obtain ⟨runId, found, stops⟩ := stops
    simp only [step, ToolSystem.step, found, ToolSystem.stopEnd, stops, if_true, eventsOf,
      ToolSystem.move, Nat.lt_irrefl, if_false, List.nil_append]
    intro settled
    simp only [Bool.and_eq_true, Bool.not_eq_true'] at stops
    refine ⟨⟨sound.lawful, ?_, ?_⟩, settled, ?_, ?_⟩
    · exact fun _ isCapture => by cases isCapture
    · exact fun _ isCapture => by cases isCapture
    · exact fun active => by cases active
    · rintro (pending | running)
      · cases stops.1.2.symm.trans pending
      · cases (sound.settled.free stops.2).symm.trans running
  · have calm : Calm system.base (system.base.step (.stopEnd caller)) := by
      simp only [ToolSystem.step, ToolSystem.stopEnd]
      split
      · rename_i runId found
        rw [if_neg fun now => stops ⟨runId, found, now⟩]
        exact ⟨rfl, rfl, rfl, rfl, rfl, rfl, id, by simp, by simp⟩
      · exact ⟨rfl, rfl, rfl, rfl, rfl, rfl, id, by simp, by simp⟩
    exact fun _ => sound.of_calm calm (by simp)

@[simp] theorem publish_base (signal : Option RadioSignal) :
    (system.publish around signal).base = system.base := by
  rw [publish]
  split
  · rfl
  · rfl

/-- An execution only touches the captures. -/
theorem executePending_base (system : CaptureSystem) (around : Surroundings) :
    (system.executePending around).base = system.base := by
  simp only [executePending, executeInfraredTransmit, executeInfraredReceive, send,
    executeSubGhzTransmit, executeSubGhzReceive]
  repeat' split
  all_goals first | rfl | exact publish_base _

/-- Every step keeps what is known. -/
theorem Sound.next (sound : system.Sound) (taken : CaptureStep) : (system.step taken).Sound := by
  cases taken with
  | execute around =>
    rw [step]
    split
    · rename_i executing
      have pending : (system.executePending around).Sound :=
        sound.pending (by rw [executing]; rfl)
      have same := executePending_base system around
      have calm := calm_step system.base .adapterReturn (by simp) (by simp) (by simp)
      have settled := sound.settled.next (ToolSystem.step_transition system.base .adapterReturn)
      rw [← same] at calm settled ⊢
      exact pending.calm calm settled
    · exact sound
  | other operation =>
    cases operation with
    | start toolId runId caseId role => exact sound.start toolId runId caseId role
    | callback caller => exact sound.callback caller
    | stopEnd caller => exact sound.stop caller
    | adapterReturn => exact sound
    | _ =>
      refine sound.of_calm (calm_step system.base _ ?_ ?_ ?_) ?_
      all_goals simp

/-- The service after the first steps of a run. -/
def systemAt (steps : List CaptureStep) (index : Nat) : CaptureSystem :=
  Runs.reached (fun taken system => system.step taken) init steps index

/-- In every run only the run's own capture is sent, and no capture outlives its run.

Proof: every step keeps the invariant. A receive command drops the capture before it can publish,
and a run that starts finds no capture. -/
theorem captures_kept (steps : List CaptureStep) (index : Nat) : (systemAt steps index).Kept := by
  have sound : (systemAt steps index).Sound := by
    refine Runs.always (motive := CaptureSystem.Sound) ?_ ?_ index
    · refine ⟨⟨trivial, ?_, ?_⟩, ?_, ?_, ?_⟩
      · exact fun _ isCapture => by cases isCapture
      · exact fun _ isCapture => by cases isCapture
      · exact ToolSystem.settled_along [] 0
      · exact fun active => by cases active
      · rintro (pending | running)
        · cases pending
        · cases running
    · exact fun _ taken _ sound => sound.next taken
  exact sound.toKept

end CaptureSystem

end PoisonedOS
