import PoisonedOS.Tools.Service

/-!
# Isolation of tool runs

While a command is pending or an adapter runs, the service refuses to start and to stop,
so whatever an adapter does is done under the run in which its command was queued. And
after a stop nothing is done for the stopped run, in any interleaving.

But a dispatch looks its run up before it calls back, and the callback does not look
again. When another run was started in between, the command is queued for that run, or
cancels it, if it is a command of its tool; and a cancellation may in the same way reach
the application service only when another run is registered there. These are the only
ways in which a command is used under another run than its own.

What a step can do to the run, to the pending command and to the worker is listed once,
as transitions of a view of the system; every invariant is proved over that list.
-/

namespace PoisonedOS

def ToolObservation.Own : ToolObservation → Prop
  | .queued commandRun serviceRun => commandRun = serviceRun
  | .cancelled commandRun serviceRun => commandRun = serviceRun
  | .appCancelled commandRun serviceRun => commandRun = serviceRun
  | .began commandRun serviceRun _ => commandRun = serviceRun
  | .effect commandRun serviceRun _ => commandRun = serviceRun
  | .evidence commandRun serviceRun _ => commandRun = serviceRun
  | .result commandRun serviceRun _ => commandRun = serviceRun
  | .finished => True
  | .stopped _ => True

/-- The number of the run under which an adapter was seen at work. -/
def ToolObservation.run : ToolObservation → Option Nat
  | .began _ _ run => some run
  | .effect _ _ run => some run
  | .evidence _ _ run => some run
  | .result _ _ run => some run
  | _ => none

/-- An execution of an adapter begins. -/
def ToolObservation.isBegan : ToolObservation → Bool
  | .began _ _ _ => true
  | _ => false

/-- What isolation depends on. -/
@[ext] structure ToolView where
  active : Bool
  pending : Bool
  busy : Bool
  running : Bool
  runId : CString
  pendingRunId : CString
  started : Nat

open ToolObservation (Own isBegan)

namespace ToolView

/-- The changes of the view, with what is seen of them. A command that is used under
another run is used so only if the step is confused. -/
inductive Transition (confused : Prop) (view : ToolView) : ToolView → List ToolObservation → Prop
  where
  | quiet : Transition confused view view []
  | registered (runId : CString) (inactive : view.active = false) (unpended : view.pending = false)
      (free : view.busy = false) :
      Transition confused view
        { view with active := true, runId := runId, started := view.started + 1 } []
  | unregistered (runId : CString) (inactive : view.active = false)
      (unpended : view.pending = false) (free : view.busy = false) :
      Transition confused view { view with runId := runId } []
  | queued (commandRun : CString) (active : view.active = true) (unpended : view.pending = false)
      (free : view.busy = false) (strange : commandRun ≠ view.runId → confused) :
      Transition confused view { view with pending := true, pendingRunId := commandRun }
        [.queued commandRun view.runId]
  | cancelled (commandRun : CString) (strange : commandRun ≠ view.runId → confused) :
      Transition confused view view [.cancelled commandRun view.runId]
  | appCancelled (commandRun appRun : CString) (strange : commandRun ≠ appRun → confused) :
      Transition confused view view [.appCancelled commandRun appRun]
  | stopped (active : view.active = true) (unpended : view.pending = false)
      (free : view.busy = false) :
      Transition confused view { view with active := false, runId := .literal "" }
        [.stopped view.started]
  | began (active : view.active = true) (pending : view.pending = true)
      (idle : view.running = false) :
      Transition confused view { view with pending := false, busy := true, running := true }
        [.began view.pendingRunId view.runId view.started]
  | skipped (idle : view.running = false) :
      Transition confused view { view with pending := false, busy := false } []
  | worked (observation : ToolObservation) (running : view.running = true)
      (isWork : observation = .effect view.pendingRunId view.runId view.started ∨
        observation = .evidence view.pendingRunId view.runId view.started ∨
        observation = .result view.pendingRunId view.runId view.started) :
      Transition confused view view [observation]
  | returned (running : view.running = true) :
      Transition confused view { view with running := false } [.finished]
  | freed (idle : view.running = false) :
      Transition confused view { view with busy := false } []

/-- A command is pending or running for an active run only, and the worker says when it
is busy. -/
structure Settled (view : ToolView) : Prop where
  pending : view.pending = true → view.active = true
  running : view.running = true → view.active = true ∧ view.busy = true

/-- The command in use was dispatched for the run of the service. -/
def Matched (view : ToolView) : Prop :=
  view.pending = true ∨ view.running = true → view.pendingRunId = view.runId

/-- The run of this number has ended: a later one was started, or it is not active. -/
def Ended (view : ToolView) (run : Nat) : Prop :=
  run < view.started ∨ run = view.started ∧ view.active = false

variable {confused : Prop} {view after : ToolView} {seen : List ToolObservation}

theorem Transition.congr {other : ToolView} (moves : Transition confused view after seen)
    (same : other = after) : Transition confused view other seen := same ▸ moves

theorem Settled.idle (settled : view.Settled) (inactive : view.active = false) :
    view.pending = false ∧ view.running = false := by
  constructor
  · cases pending : view.pending with
    | false => rfl
    | true => exact absurd (settled.pending pending) (by simp [inactive])
  · cases running : view.running with
    | false => rfl
    | true => exact absurd (settled.running running).1 (by simp [inactive])

theorem Settled.free (settled : view.Settled) (free : view.busy = false) :
    view.running = false := by
  cases running : view.running with
  | false => rfl
  | true => exact absurd (settled.running running).2 (by simp [free])

theorem Settled.next (settled : view.Settled) (moves : Transition confused view after seen) :
    after.Settled := by
  cases moves with
  | quiet | cancelled | appCancelled | worked => exact settled
  | registered runId inactive unpended free =>
    have stopped := (settled.idle inactive).2
    exact ⟨fun _ => rfl, fun running => absurd (stopped.symm.trans running) (by simp)⟩
  | unregistered runId inactive unpended free => exact ⟨settled.pending, settled.running⟩
  | queued commandRun active unpended free strange => exact ⟨fun _ => active, settled.running⟩
  | stopped active unpended free =>
    have stopped := settled.free free
    exact ⟨fun pending => absurd (unpended.symm.trans pending) (by simp),
      fun running => absurd (stopped.symm.trans running) (by simp)⟩
  | began active pending idle => exact ⟨fun _ => active, fun _ => ⟨active, rfl⟩⟩
  | skipped idle =>
    exact ⟨fun pending => absurd pending (by simp),
      fun running => absurd (idle.symm.trans running) (by simp)⟩
  | returned running => exact ⟨settled.pending, fun running => absurd running (by simp)⟩
  | freed idle =>
    exact ⟨settled.pending, fun running => absurd (idle.symm.trans running) (by simp)⟩

/-- A transition that is not confused keeps the command in use with its run, and
everything seen of it is under the right run. -/
theorem Matched.next (matched : view.Matched) (settled : view.Settled)
    (moves : Transition confused view after seen) (clear : ¬ confused) :
    after.Matched ∧ ∀ observation ∈ seen, observation.Own := by
  have unused (pending : after.pending = false) (running : after.running = false) :
      after.Matched := by
    rintro (isPending | isRunning)
    · exact absurd (pending.symm.trans isPending) (by simp)
    · exact absurd (running.symm.trans isRunning) (by simp)
  have own {commandRun serviceRun : CString} (strange : commandRun ≠ serviceRun → confused) :
      commandRun = serviceRun := not_not.mp fun other => clear (strange other)
  cases moves with
  | quiet => exact ⟨matched, by simp⟩
  | registered runId inactive unpended free =>
    exact ⟨unused unpended (settled.idle inactive).2, by simp⟩
  | unregistered runId inactive unpended free =>
    exact ⟨unused unpended (settled.idle inactive).2, by simp⟩
  | queued commandRun active unpended free strange =>
    exact ⟨fun _ => own strange, by simpa [Own] using own strange⟩
  | cancelled commandRun strange =>
    exact ⟨matched, by simpa [Own] using own strange⟩
  | appCancelled commandRun appRun strange =>
    exact ⟨matched, by simpa [Own] using own strange⟩
  | stopped active unpended free =>
    exact ⟨unused unpended (settled.free free), by simp [Own]⟩
  | began active pending idle =>
    have same := matched (.inl pending)
    exact ⟨fun _ => same, by simpa [Own] using same⟩
  | skipped idle => exact ⟨unused rfl idle, by simp⟩
  | worked observation running isWork =>
    have same := matched (.inr running)
    refine ⟨matched, ?_⟩
    obtain rfl | rfl | rfl := isWork
    all_goals simpa [Own] using same
  | returned running =>
    exact ⟨fun _ => matched (.inr running), by simp [Own]⟩
  | freed idle => exact ⟨matched, by simp⟩

/-- A run that has ended stays ended. -/
theorem Ended.next {run : Nat} (ended : view.Ended run)
    (moves : Transition confused view after seen) : after.Ended run := by
  cases moves with
  | registered runId inactive unpended free =>
    obtain earlier | ⟨isLast, -⟩ := ended
    · exact .inl (Nat.lt_succ_of_lt earlier)
    · exact .inl (isLast ▸ Nat.lt_succ_self _)
  | stopped active unpended free =>
    obtain earlier | ⟨isLast, -⟩ := ended
    · exact .inl earlier
    · exact .inr ⟨isLast, rfl⟩
  | _ => exact ended

/-- An adapter is seen at work only for a run that has not ended. -/
theorem Settled.works (settled : view.Settled) (moves : Transition confused view after seen)
    {observation : ToolObservation} (member : observation ∈ seen) {run : Nat}
    (works : observation.run = some run) : ¬ view.Ended run := by
  have live (isRun : run = view.started) (active : view.active = true) : ¬ view.Ended run := by
    rintro (earlier | ⟨-, inactive⟩)
    · omega
    · exact absurd (active.symm.trans inactive) (by simp)
  cases moves with
  | quiet | registered | unregistered | skipped | freed => cases member
  | queued | cancelled | appCancelled | stopped | returned =>
    obtain rfl := List.mem_singleton.mp member
    cases works
  | began active pending idle =>
    obtain rfl := List.mem_singleton.mp member
    exact live (Option.some.inj works).symm active
  | worked known running isWork =>
    obtain rfl := List.mem_singleton.mp member
    have active := (settled.running running).1
    obtain rfl | rfl | rfl := isWork
    all_goals exact live (Option.some.inj works).symm active

/-- A stop ends the run it reports. -/
theorem Transition.ended (moves : Transition confused view after seen) {run : Nat}
    (member : ToolObservation.stopped run ∈ seen) : after.Ended run := by
  cases moves with
  | stopped active unpended free =>
    obtain rfl := ToolObservation.stopped.inj (List.mem_singleton.mp member)
    exact .inr ⟨rfl, rfl⟩
  | worked known running isWork =>
    obtain rfl := List.mem_singleton.mp member
    obtain isWork | isWork | isWork := isWork
    all_goals cases isWork
  | quiet | registered | unregistered | skipped | freed => cases member
  | queued | cancelled | appCancelled | began | returned =>
    cases List.mem_singleton.mp member

/-- What a transition begins and finishes is how the worker moves. -/
theorem Transition.counted (moves : Transition confused view after seen) :
    seen.countP isBegan + (if view.running then 1 else 0) =
      seen.count .finished + (if after.running then 1 else 0) := by
  cases moves with
  | began active pending idle => simp [isBegan, idle]
  | returned running => simp [isBegan, running]
  | worked known running isWork =>
    obtain rfl | rfl | rfl := isWork
    all_goals simp [isBegan]
  | _ => simp [isBegan]

end ToolView

namespace ToolSystem

/-- The view of the system. -/
def view (system : ToolSystem) : ToolView where
  active := system.tools.active
  pending := system.tools.workPending
  busy := system.tools.workerBusy
  running := system.worker.runs
  runId := system.tools.runId
  pendingRunId := system.pendingRunId
  started := system.started

/-- The step uses a command under another run than its own: the callback of a dispatch
is accepted by another run, or its cancellation reaches another run of the application
service. -/
def Confuses (system : ToolSystem) : ToolStep → Prop
  | .callback caller => ∃ command, system.callers caller = .found command ∧
      system.tools.accepts command = true ∧ command.runId ≠ system.tools.runId
  | .appCancel caller => ∃ command, system.callers caller = .cancelling command ∧
      system.app.cancels = true ∧ command.runId ≠ system.app.run.runId
  | _ => False

variable {system : ToolSystem}

open ToolView

/-- What an accepted command finds. -/
theorem accepts_free {tools : ToolsService} {command : AppCommand}
    (accepted : tools.accepts command = true) : tools.active = true ∧
      (command.cancel = false → tools.workPending = false ∧ tools.workerBusy = false) := by
  simp only [ToolsService.accepts, Bool.and_eq_true, Bool.or_eq_true, Bool.not_eq_true'] at accepted
  refine ⟨accepted.1.1.1, fun queues => ?_⟩
  obtain cancels | free := accepted.2
  · rw [queues] at cancels
    cases cancels
  · exact ⟨free.1.1, free.1.2⟩

theorem start_transition {confused : Prop} (toolId runId caseId : CString) (role : Role) :
    Transition confused system.view (system.startRun toolId runId caseId role).view [] := by
  simp only [startRun]
  by_cases refused : (!ToolsService.startChecks toolId runId caseId role || system.tools.active ||
      system.tools.workPending || system.tools.workerBusy) = true
  · rw [if_pos refused]
    exact .quiet
  · rw [if_neg refused]
    simp only [Bool.or_eq_true, not_or, Bool.not_eq_true] at refused
    obtain ⟨⟨⟨-, inactive⟩, unpended⟩, free⟩ := refused
    cases system.app.endpointRegister toolsAppId runId with
    | none =>
      have moves : Transition confused system.view { system.view with runId := runId } [] :=
        .unregistered runId inactive unpended free
      exact moves.congr (by ext1 <;> first | rfl | exact inactive.symm)
    | some app => exact .registered runId inactive unpended free

theorem command_transition {caller : Nat} {command : AppCommand}
    (found : system.callers caller = .found command) :
    Transition (system.Confuses (.callback caller)) system.view
      (system.command caller command).1.view (system.command caller command).2 := by
  simp only [ToolSystem.command]
  by_cases refused : (!system.tools.accepts command) = true
  · rw [if_pos refused]
    exact .quiet
  · rw [if_neg refused]
    have accepted : system.tools.accepts command = true := by simpa using refused
    have strange (other : command.runId ≠ system.tools.runId) :
        system.Confuses (.callback caller) := ⟨command, found, accepted, other⟩
    obtain ⟨active, free⟩ := accepts_free accepted
    cases cancel : command.cancel with
    | true => exact .cancelled _ strange
    | false => exact .queued _ active (free cancel).1 (free cancel).2 strange

theorem stop_transition {confused : Prop} (caller : Nat) (runId : CString) :
    Transition confused system.view (system.stopEnd caller runId).1.view
      (system.stopEnd caller runId).2 := by
  simp only [stopEnd]
  by_cases stops : (system.tools.active && system.tools.runId == runId &&
      !system.tools.workPending && !system.tools.workerBusy) = true
  · rw [if_pos stops]
    simp only [Bool.and_eq_true, Bool.not_eq_true'] at stops
    exact .stopped stops.1.1.1 stops.1.2 stops.2
  · rw [if_neg stops]
    exact .quiet

theorem take_transition {confused : Prop} (woken : system.worker = .woken) :
    Transition confused system.view system.take.1.view system.take.2 := by
  have idle : system.view.running = false := by rw [view, woken]; rfl
  simp only [take]
  cases execute : system.tools.workPending && system.tools.active && !system.tools.cancelled with
  | true =>
    simp only [Bool.and_eq_true] at execute
    exact .began execute.1.2 execute.1.1 idle
  | false =>
    have moves : Transition confused system.view
        { system.view with pending := false, busy := false } [] := .skipped idle
    exact moves.congr (by ext1 <;> first | rfl | exact idle.symm)

/-- Every step is a transition of the view. -/
theorem step_transition (system : ToolSystem) (operation : ToolStep) :
    Transition (system.Confuses operation) system.view (system.step operation).1.view
      (system.step operation).2 := by
  have running {phase : WorkerPhase} (isPhase : system.worker = phase) :
      system.view.running = phase.runs := by rw [view, isPhase]
  cases operation with
  | start toolId runId caseId role => exact start_transition toolId runId caseId role
  | lookup caller command =>
    simp only [step]
    split <;> exact .quiet
  | callback caller =>
    simp only [step]
    split
    · rename_i command found
      exact command_transition found
    · exact .quiet
  | release caller =>
    simp only [step]
    split <;> exact .quiet
  | appCancel caller =>
    simp only [step]
    split
    · rename_i command found
      split
      · rename_i cancels
        exact .appCancelled _ _ fun other => ⟨command, found, cancels, other⟩
      · exact .quiet
    · exact .quiet
  | stopBegin caller runId =>
    simp only [step]
    split <;> exact .quiet
  | stopWait caller timedOut =>
    simp only [step]
    split
    · split
      · exact .quiet
      · split <;> exact .quiet
    · exact .quiet
  | stopEnd caller =>
    simp only [step]
    split
    · exact stop_transition caller _
    · exact .quiet
  | wake =>
    simp only [step]
    split
    · rename_i waiting
      exact Transition.quiet.congr (by simp only [view, waiting.1]; rfl)
    · exact .quiet
  | take =>
    simp only [step]
    split
    · rename_i woken
      exact take_transition woken
    · exact .quiet
  | adapterEffect =>
    simp only [step]
    split
    · rename_i executing
      exact .worked _ (running executing) (.inl rfl)
    · exact .quiet
  | publishCheck =>
    simp only [step]
    split
    · rename_i executing
      exact Transition.quiet.congr (by simp only [view, executing.1]; rfl)
    · exact .quiet
  | publishCapture captured =>
    simp only [step]
    split
    · rename_i publishing
      have same (phase : WorkerPhase) (runs : phase.runs = true) :
          ({ system with worker := phase } : ToolSystem).view = system.view := by
        simp only [view, publishing, runs]
        rfl
      split
      · rw [same .captured rfl]
        exact .worked _ (running publishing) (.inr (.inl rfl))
      · exact Transition.quiet.congr (same .executing rfl)
    · exact .quiet
  | publishEvent typed =>
    simp only [step]
    split
    · rename_i captured
      simp only [publishEvent]
      have runs : WorkerPhase.executing.runs = system.worker.runs := by rw [captured]; rfl
      split
      · have moves : Transition (system.Confuses (.publishEvent typed)) system.view system.view
            [.result system.pendingRunId system.tools.runId system.started] :=
          .worked _ (running captured) (.inr (.inr rfl))
        exact moves.congr (by simp only [view, runs])
      · exact Transition.quiet.congr (by simp only [view, runs])
    · exact .quiet
  | adapterReturn =>
    simp only [step]
    split
    · rename_i executing
      exact .returned (running executing)
    · exact .quiet
  | done =>
    simp only [step]
    split
    · rename_i returned
      have idle := running returned
      have moves : Transition (system.Confuses .done) system.view
          { system.view with busy := false } [] := .freed idle
      exact moves.congr (by ext1 <;> first | rfl | exact idle.symm)
    · exact .quiet

/-- A step that confuses shows it. -/
theorem confuses_shown (operation : ToolStep) (confuses : system.Confuses operation) :
    ∃ observation ∈ (system.step operation).2, ¬ observation.Own := by
  cases operation with
  | callback caller =>
    obtain ⟨dispatched, found, accepted, other⟩ := confuses
    simp only [step, found, command, accepted, Bool.not_true, Bool.false_eq_true, if_false]
    split
    · exact ⟨_, List.mem_singleton_self _, other⟩
    · exact ⟨_, List.mem_singleton_self _, other⟩
  | appCancel caller =>
    obtain ⟨dispatched, found, cancels, other⟩ := confuses
    simp only [step, found, cancels, if_true]
    exact ⟨_, List.mem_singleton_self _, other⟩
  | _ => exact confuses.elim

/-- The system after the first steps of a run. -/
def systemAt (steps : List ToolStep) (index : Nat) : ToolSystem :=
  Runs.reached (fun operation system => (ToolSystem.step system operation).1) init steps index

/-- What is seen of one step of a run. -/
def observed (steps : List ToolStep) (index : Nat) : List ToolObservation :=
  match steps[index]? with
  | some operation => ((systemAt steps index).step operation).2
  | none => []

/-- What is seen of the first steps of a run. -/
def logAt (steps : List ToolStep) : Nat → List ToolObservation
  | 0 => []
  | index + 1 => logAt steps index ++ observed steps index

/-- The run keeps the tool runs apart. -/
structure Isolated (steps : List ToolStep) : Prop where
  /-- At most one execution has begun and not finished. -/
  exclusive : ∀ index,
    (logAt steps index).countP ToolObservation.isBegan ≤ (logAt steps index).count .finished + 1
  /-- Every command is queued, executed and used to cancel under its own run. -/
  own : ∀ index, ∀ observation ∈ observed steps index, observation.Own
  /-- A stopped run has no further effect and no further result. -/
  quiet : ∀ index run, .stopped run ∈ observed steps index → ∀ later, index < later →
    ∀ observation ∈ observed steps later, observation.run ≠ some run

variable {steps : List ToolStep} {index : Nat}

theorem systemAt_succ {operation : ToolStep} (taken : steps[index]? = some operation) :
    systemAt steps (index + 1) = ((systemAt steps index).step operation).1 :=
  Runs.reached_succ taken

/-- Along a run the view makes transitions, which are confused only where a step is. -/
theorem run_transition (steps : List ToolStep) (index : Nat) :
    Transition (∃ operation, steps[index]? = some operation ∧
        (systemAt steps index).Confuses operation)
      (systemAt steps index).view (systemAt steps (index + 1)).view (observed steps index) := by
  cases taken : steps[index]? with
  | none =>
    have still : systemAt steps (index + 1) = systemAt steps index := Runs.reached_end taken
    rw [still, observed, taken]
    exact .quiet
  | some operation =>
    rw [systemAt_succ taken, observed, taken]
    have same : (∃ other, some operation = some other ∧
        (systemAt steps index).Confuses other) ↔ (systemAt steps index).Confuses operation :=
      ⟨fun ⟨_, isOther, confuses⟩ => Option.some.inj isOther ▸ confuses,
        fun confuses => ⟨operation, rfl, confuses⟩⟩
    rw [propext same]
    exact step_transition _ operation

/-- The service is settled all along a run. -/
theorem settled_along (steps : List ToolStep) (index : Nat) :
    (systemAt steps index).view.Settled := by
  induction index with
  | zero => exact ⟨(absurd · Bool.false_ne_true), (absurd · Bool.false_ne_true)⟩
  | succ index ih => exact ih.next (run_transition steps index)

/-- The command in use is that of the run as long as no step confuses. -/
theorem matched_along (clear : ∀ index operation, steps[index]? = some operation →
    ¬ (systemAt steps index).Confuses operation) (index : Nat) :
    (systemAt steps index).view.Matched := by
  induction index with
  | zero =>
    rintro (pending | running)
    · exact absurd pending Bool.false_ne_true
    · exact absurd running Bool.false_ne_true
  | succ index ih =>
    exact (ih.next (settled_along steps index) (run_transition steps index)
      fun ⟨operation, taken, confuses⟩ => clear index operation taken confuses).1

/-- What has begun is what has finished, and what is running. -/
theorem counted_along (steps : List ToolStep) (index : Nat) :
    (logAt steps index).countP isBegan =
      (logAt steps index).count .finished +
        (if (systemAt steps index).view.running then 1 else 0) := by
  induction index with
  | zero => rfl
  | succ index ih =>
    have counted := (run_transition steps index).counted
    rw [logAt, List.countP_append, List.count_append]
    omega

/-- A run that has ended stays ended. -/
theorem ended_along {run : Nat} (ended : (systemAt steps index).view.Ended run) {later : Nat}
    (isLater : index ≤ later) : (systemAt steps later).view.Ended run := by
  induction later, isLater using Nat.le_induction with
  | base => exact ended
  | succ later isLater ih =>
    exact ih.next (run_transition steps later)

/-- Every interleaving isolates the tool runs exactly when no step confuses them. -/
theorem runs_isolated_iff (steps : List ToolStep) :
    Isolated steps ↔ ∀ index operation, steps[index]? = some operation →
      ¬ (systemAt steps index).Confuses operation := by
  constructor
  · intro isolated index operation taken confuses
    obtain ⟨observation, seen, strange⟩ := confuses_shown operation confuses
    refine strange (isolated.own index observation ?_)
    rw [observed, taken]
    exact seen
  · intro clear
    refine ⟨fun index => ?_, fun index observation seen => ?_, fun index run isStopped later
      isLater observation seen works => ?_⟩
    · rw [counted_along steps index]
      split <;> omega
    · exact ((matched_along clear index).next (settled_along steps index)
        (run_transition steps index)
        fun ⟨operation, taken, confuses⟩ => clear index operation taken confuses).2
          observation seen
    · have ended := ended_along ((run_transition steps index).ended isStopped) isLater
      exact (settled_along steps later).works (run_transition steps later) seen works ended

section LateCallback

/-- A command of the tool that reads NFC, for the first run. -/
def lateCommand : AppCommand where
  protocolVersion := 1
  appId := toolsAppId
  runId := .literal "first"
  commandId := .literal "nfc.detect"
  payloadJson := .literal ""
  cancel := false

/-- Between the lookup and the callback the run is stopped and another one started. -/
def lateCallback : List ToolStep :=
  [.start (.literal "nfc.read") (.literal "first") (.literal "case") .owner,
    .lookup 0 lateCommand,
    .stopBegin 1 (.literal "first"), .stopWait 1 false, .stopEnd 1,
    .start (.literal "nfc.read") (.literal "second") (.literal "case") .owner,
    .callback 0, .release 0, .wake, .take]

/-- The command of the first run is executed under the second. -/
theorem late_callback_executes : ¬ ∀ steps, Isolated steps := by
  intro always
  have own := (always lateCallback).own 9
    (.began (.literal "first") (.literal "second") 2) (by decide +kernel)
  have same : CString.literal "first" = CString.literal "second" := own
  exact absurd same (by decide)

end LateCallback

end ToolSystem

end PoisonedOS
