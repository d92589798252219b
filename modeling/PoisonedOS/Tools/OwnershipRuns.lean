import PoisonedOS.Tools.OwnershipLaws

/-!
# A tool run belongs to one session

At any time at most one session has recorded a run, and what it has recorded is the active
run of the tool service; the stop it calls is for that run, so no session can end another's.

What may fail is the converse. A session that undoes its start or ends forgets the run even
when the stop gave up, and then the run stays active without a session: nobody can stop it,
and no other run can be started. Every interleaving keeps the three places together exactly
when no such stop gives up.
-/

namespace PoisonedOS.ToolOwnership

/-! ## All sessions -/

/-- The stop waits for the worker. -/
def RequestPhase.waits : RequestPhase → Bool
  | .waiting _ => true
  | _ => false

/-- What a session has recorded is the active run, and its thread is where its request
is. -/
structure Follows (system : ToolSystem) (number : Nat) (session : ToolSession) : Prop where
  current : session.holds = true → session.opened = true ∧ system.tools.active = true ∧
    system.tools.runId = session.activeRunId ∧ system.tools.toolId = session.activeToolId ∧
    session.run = system.started
  calling : ∀ reason, session.phase = .calling reason → system.callers number = .idle
  stopping : stopOf (system.callers number) =
    if session.phase.waits then some session.activeRunId else none

/-- A request leaves the record, and waits for nothing. -/
structure KeepsRecord (session after : ToolSession) : Prop where
  opened : after.opened = session.opened
  runId : after.activeRunId = session.activeRunId
  toolId : after.activeToolId = session.activeToolId
  run : after.run = session.run
  waits : after.phase.waits = false

section Requests

variable {session after : ToolSession}

theorem KeepsRecord.holds (kept : KeepsRecord session after) : after.holds = session.holds := by
  rw [ToolSession.holds, kept.runId, ToolSession.holds]

theorem keepsRecord_refl (idle : session.phase = .idle) : KeepsRecord session session :=
  ⟨rfl, rfl, rfl, rfl, by rw [idle]; rfl⟩

theorem stopRequest_keeps (idle : session.phase = .idle) (input : ToolRun) :
    KeepsRecord session (session.stopRequest input) := by
  simp only [ToolSession.stopRequest]
  split
  · exact ⟨rfl, rfl, rfl, rfl, rfl⟩
  · exact keepsRecord_refl idle

theorem cancelRequest_keeps (idle : session.phase = .idle) (target : UInt64) (accepted : Bool) :
    KeepsRecord session (session.cancelRequest target accepted) := by
  have still := keepsRecord_refl idle
  simp only [ToolSession.cancelRequest]
  split
  · exact still
  split
  · exact still
  · simp only [ToolSession.slotCallback]
    split
    · exact still
    · split
      · exact still
      · exact ⟨rfl, rfl, rfl, rfl, rfl⟩
    · split
      · exact ⟨rfl, rfl, rfl, rfl, still.waits⟩
      · exact still

theorem registerWorkload_keeps (idle : session.phase = .idle) (commandId : UInt32) :
    KeepsRecord session (session.registerWorkload commandId) := by
  simp only [ToolSession.registerWorkload]
  split
  · exact keepsRecord_refl idle
  · exact ⟨rfl, rfl, rfl, rfl, (keepsRecord_refl idle).waits⟩

theorem completeWorkload_keeps (idle : session.phase = .idle) (commandId : UInt32) :
    KeepsRecord session (session.completeWorkload commandId) :=
  ⟨rfl, rfl, rfl, rfl, (keepsRecord_refl idle).waits⟩

/-- A valid request names a run. -/
theorem request_named {input : ToolRun} (valid : input.requestIsValid = true) :
    input.runId.isEmpty = false := by
  simp only [ToolRun.requestIsValid, toolRunIsBounded, Bool.and_eq_true, Bool.not_eq_true']
    at valid
  exact valid.1.1.1.1.1.1.2

end Requests

namespace OwnedSystem

/-- What every state keeps. -/
structure Coherent (state : OwnedSystem) : Prop where
  serves : Serves state.system
  ordered : ∀ number, (state.sessions number).Ordered
  follows : ∀ number, Follows state.system number (state.sessions number)
  single : ∀ first second, (state.sessions first).holds = true →
    (state.sessions second).holds = true → first = second

variable {state : OwnedSystem}

variable {number : Nat}

/-- The system moves, and one session with it. -/
theorem Coherent.with_session (coherent : state.Coherent) {session : ToolSession}
    {system : ToolSystem} (serves : Serves system) (ordered : session.Ordered)
    (follows : Follows system number session)
    (others : ∀ other, other ≠ number → Follows system other (state.sessions other))
    (alone : session.holds = true → ∀ other, other ≠ number → (state.sessions other).holds = false) :
    ({ state.change number session with system } : OwnedSystem).Coherent := by
  have atNumber : Function.update state.sessions number session number = session :=
    Function.update_self ..
  have atOther {other : Nat} (apart : other ≠ number) :
      Function.update state.sessions number session other = state.sessions other :=
    Function.update_of_ne apart ..
  refine ⟨serves, fun other => ?_, fun other => ?_, fun first second => ?_⟩
  · change (Function.update state.sessions number session other).Ordered
    by_cases same : other = number
    · rw [same, atNumber]
      exact ordered
    · rw [atOther same]
      exact coherent.ordered other
  · change Follows system other (Function.update state.sessions number session other)
    by_cases same : other = number
    · rw [same, atNumber]
      exact follows
    · rw [atOther same]
      exact others other same
  · change (Function.update state.sessions number session first).holds = true →
      (Function.update state.sessions number session second).holds = true → first = second
    by_cases isFirst : first = number <;> by_cases isSecond : second = number
    · exact fun _ _ => isFirst.trans isSecond.symm
    · rw [isFirst, atNumber, atOther isSecond]
      intro holds held
      rw [alone holds second isSecond] at held
      cases held
    · rw [isSecond, atNumber, atOther isFirst]
      intro held holds
      rw [alone holds first isFirst] at held
      cases held
    · rw [atOther isFirst, atOther isSecond]
      exact coherent.single first second

/-- What a session that handles no request is like. -/
theorem ready_session (ready : state.ready number = true) :
    (state.sessions number).opened = true ∧ (state.sessions number).phase = .idle ∧
      state.system.callers number = .idle := by
  simp only [OwnedSystem.ready, Bool.and_eq_true, decide_eq_true_eq] at ready
  exact ⟨ready.1.1, ready.1.2, ready.2⟩

/-- The system moves, and no session with it. -/
theorem Coherent.with_system (coherent : state.Coherent) {system : ToolSystem}
    (serves : Serves system)
    (follows : ∀ number, Follows system number (state.sessions number)) :
    ({ state with system } : OwnedSystem).Coherent :=
  ⟨serves, coherent.ordered, follows, coherent.single⟩

/-- The run stays, and the caller of a session with it. -/
theorem follows_unmoved {system after : ToolSystem} {session : ToolSession}
    (follows : Follows system number session) (unmoved : Unmoved system after)
    (caller : after.callers number = system.callers number) : Follows after number session := by
  refine ⟨fun holds => ?_, fun reason calls => ?_, ?_⟩
  · rw [unmoved.active, unmoved.runId, unmoved.toolId, unmoved.started]
    exact follows.current holds
  · rw [caller]
    exact follows.calling reason calls
  · rw [caller]
    exact follows.stopping

/-- What a step does to the run and to the records. -/
inductive Outcome (state : OwnedSystem) (operation : OwnedStep) (after : OwnedSystem) : Prop where
  | same (unmoved : Unmoved state.system after.system)
      (held : ∀ number, (after.sessions number).holds = (state.sessions number).holds)
  | inactive (before : state.system.tools.active = false)
      (later : after.system.tools.active = false)
  | started (number : Nat) (before : state.system.tools.active = false)
      (holds : (after.sessions number).holds = true)
  | forgotten (unmoved : Unmoved state.system after.system) (abandons : state.Abandons operation)
  | ended (number : Nat) (isEnd : operation = .stopEnd number)
      (held : (state.sessions number).holds = true)
      (later : after.system.tools.active = false)

theorem unmoved_refl (system : ToolSystem) : Unmoved system system :=
  ⟨rfl, rfl, rfl, rfl, rfl, id⟩

/-- A step that does nothing. -/
theorem Coherent.still (coherent : state.Coherent) (operation : OwnedStep) :
    state.Coherent ∧ Outcome state operation state :=
  ⟨coherent, .same (unmoved_refl _) fun _ => rfl⟩

/-- What a session records is kept by a change that keeps its run id. -/
theorem held_change {session : ToolSession} (same : session.holds = (state.sessions number).holds)
    (other : Nat) :
    (Function.update state.sessions number session other).holds =
      (state.sessions other).holds := by
  by_cases isNumber : other = number
  · rw [isNumber, Function.update_self, same]
  · rw [Function.update_of_ne isNumber]

theorem Coherent.work (coherent : state.Coherent) (operation : ToolStep) :
    (state.step (.work operation)).Coherent ∧
      Outcome state (.work operation) (state.step (.work operation)) := by
  simp only [OwnedSystem.step]
  split
  · rename_i admitted
    have unmoved : Unmoved state.system (state.system.step operation).1 :=
      work_unmoved state.system operation
        (fun _ _ _ _ isStart => by rw [isStart] at admitted; cases admitted)
        (fun _ isEnd => by rw [isEnd] at admitted; cases admitted)
    refine ⟨coherent.with_system (coherent.serves.unmoved unmoved
      (coherent.serves.step_settled operation)) (fun number => ?_), .same unmoved fun _ => rfl⟩
    have follows := coherent.follows number
    obtain still | ⟨caller, phase, moved, unstopping, stopless, leaves⟩ :=
      work_callers state admitted
    · exact follows_unmoved follows unmoved (by rw [still])
    · by_cases isCaller : number = caller
      · rw [← isCaller] at moved stopless leaves
        have at_ : (state.system.step operation).1.callers number = phase := by
          rw [moved, Function.update_self]
        refine ⟨fun holds => ?_, fun reason calls => ?_, ?_⟩
        · rw [unmoved.active, unmoved.runId, unmoved.toolId, unmoved.started]
          exact follows.current holds
        · have idle := (ready_session (leaves (follows.calling reason calls))).2.1
          rw [calls] at idle
          cases idle
        · rw [at_, unstopping]
          exact stopless.symm.trans follows.stopping
      · exact follows_unmoved follows unmoved (by rw [moved, Function.update_of_ne isCaller])
  · exact coherent.still _

/-- While no run is active no session has recorded one. -/
theorem Coherent.unheld (coherent : state.Coherent)
    (inactive : state.system.tools.active = false) (number : Nat) :
    (state.sessions number).holds = false := by
  cases holds : (state.sessions number).holds with
  | false => rfl
  | true =>
    have active := ((coherent.follows number).current holds).2.1
    rw [inactive] at active
    cases active

/-- A session that records nothing follows a system in which its caller stays. -/
theorem follows_unheld {system after : ToolSystem} {session : ToolSession}
    (follows : Follows system number session) (unheld : session.holds = false)
    (caller : after.callers number = system.callers number) : Follows after number session := by
  refine ⟨fun holds => ?_, fun reason calls => ?_, ?_⟩
  · rw [unheld] at holds
    cases holds
  · rw [caller]
    exact follows.calling reason calls
  · rw [caller]
    exact follows.stopping

theorem Coherent.startRequest (coherent : state.Coherent) (ready : state.ready number = true)
    (commandId : UInt32) (role : Role) (input : ToolRun) (operation : OwnedStep) :
    (state.startRequest number commandId role input).Coherent ∧
      Outcome state operation (state.startRequest number commandId role input) := by
  obtain ⟨opened, idle, callerIdle⟩ := ready_session ready
  have settled := coherent.serves.step_settled
    (.start input.toolId input.runId input.caseId role)
  simp only [ToolSystem.step] at settled
  simp only [OwnedSystem.startRequest]
  split
  · exact coherent.still _
  rename_i unheld
  rw [Bool.not_eq_true] at unheld
  split
  · rename_i refused
    rw [Bool.not_eq_true'] at refused
    obtain still | ⟨inactive, left⟩ := unstarted_run refused
    · rw [still]
      exact coherent.still _
    · rw [left] at settled ⊢
      refine ⟨coherent.with_system ⟨settled, (fun active => by cases active),
        fun _ => coherent.serves.freed inactive⟩ (fun other => ?_), .inactive inactive rfl⟩
      exact follows_unheld (coherent.follows other) (coherent.unheld inactive other) rfl
  · rename_i accepted
    rw [Bool.not_eq_true', Bool.not_eq_false] at accepted
    obtain ⟨inactive, given, app, registered, run⟩ := started_run accepted
    rw [run] at settled ⊢
    have serves : Serves { state.system with
        tools := state.system.tools.startedRun input.toolId input.runId input.caseId role
        app
        started := state.system.started + 1 } :=
      ⟨settled, fun _ => ⟨registered, given⟩, fun later => by cases later⟩
    obtain ⟨undone, kept⟩ := (coherent.ordered number).recorded idle unheld input given commandId
      (state.system.started + 1)
    have others (other : Nat) (_ : other ≠ number) : Follows { state.system with
        tools := state.system.tools.startedRun input.toolId input.runId input.caseId role
        app
        started := state.system.started + 1 } other (state.sessions other) :=
      follows_unheld (coherent.follows other) (coherent.unheld inactive other) rfl
    have holds : (!input.runId.isEmpty) = true := by rw [given]; rfl
    have alone (other : Nat) (_ : other ≠ number) := coherent.unheld inactive other
    cases slots : registerCancellable (state.sessions number).cancellations commandId .tools with
    | none =>
      refine ⟨coherent.with_session serves undone
        ⟨fun _ => ⟨opened, rfl, rfl, rfl, rfl⟩, fun _ _ => callerIdle, ?_⟩ others
        (fun _ => alone), .started number inactive ?_⟩
      · change stopOf (state.system.callers number) = none
        rw [callerIdle]
        rfl
      · simp only [OwnedSystem.change, Function.update_self]
        exact holds
    | some cancellations =>
      refine ⟨coherent.with_session serves (kept cancellations slots)
        ⟨fun _ => ⟨opened, rfl, rfl, rfl, rfl⟩, fun _ _ => callerIdle, ?_⟩ others
        (fun _ => alone), .started number inactive ?_⟩
      · change stopOf (state.system.callers number) =
          if (state.sessions number).phase.waits then some input.runId else none
        rw [callerIdle, idle]
        rfl
      · simp only [OwnedSystem.change, Function.update_self]
        exact holds

/-- What a session in a stop knows about it. -/
theorem Coherent.stop_current (coherent : state.Coherent) {reason : StopReason}
    (asked : (state.sessions number).phase.reason = some reason) :
    (state.sessions number).holds = true ∧ state.system.tools.active = true ∧
      state.system.tools.runId = (state.sessions number).activeRunId := by
  have holds : (state.sessions number).holds = true := by
    refine (coherent.ordered number).requested fun idle => ?_
    rw [idle] at asked
    cases asked
  have current := (coherent.follows number).current holds
  exact ⟨holds, current.2.1, current.2.2.1⟩

/-- What one session has recorded no other has. -/
theorem Coherent.alone (coherent : state.Coherent) (holds : (state.sessions number).holds = true)
    (other : Nat) (apart : other ≠ number) :
    (state.sessions other).holds = false := by
  cases held : (state.sessions other).holds with
  | false => rfl
  | true => exact absurd (coherent.single other number held holds) apart

theorem Coherent.stopBegin (coherent : state.Coherent) (number : Nat) (operation : OwnedStep) :
    (state.stopBegin number).Coherent ∧ Outcome state operation (state.stopBegin number) := by
  simp only [OwnedSystem.stopBegin]
  cases phase : (state.sessions number).phase with
  | idle => exact coherent.still operation
  | waiting reason => exact coherent.still operation
  | calling reason =>
    have asked : (state.sessions number).phase.reason = some reason := by rw [phase]; rfl
    obtain ⟨holds, active, named⟩ := coherent.stop_current asked
    have callerIdle := (coherent.follows number).calling reason phase
    have begins : (state.system.tools.active &&
        state.system.tools.runId == (state.sessions number).activeRunId) = true := by
      rw [active, named, beq_self_eq_true]
      rfl
    simp only [begins, if_true]
    have unmoved := work_unmoved state.system
      (.stopBegin number (state.sessions number).activeRunId) (fun _ _ _ _ same => by cases same)
      (fun _ same => by cases same)
    have callers : (state.system.step
        (.stopBegin number (state.sessions number).activeRunId)).1.callers =
          Function.update state.system.callers number
            (.stopping (state.sessions number).activeRunId) := by
      simp only [ToolSystem.step, callerIdle, active, named, true_and, if_true]
      rfl
    refine ⟨coherent.with_session (coherent.serves.unmoved unmoved
        (coherent.serves.step_settled _)) ?_ ⟨fun held => ?_, (fun _ same => by cases same), ?_⟩
        (fun other apart => ?_) (fun _ => coherent.alone holds), .same unmoved (held_change rfl)⟩
    · refine (coherent.ordered number).move (fun _ => holds) ?_ (fun slot isCancel => ?_)
      · rw [phase]
        rfl
      · exact (coherent.ordered number).cancelling slot (asked.trans isCancel)
    · rw [unmoved.active, unmoved.runId, unmoved.toolId, unmoved.started]
      exact (coherent.follows number).current held
    · rw [callers, Function.update_self]
      rfl
    · exact follows_unmoved (coherent.follows other) unmoved
        (by rw [callers, Function.update_of_ne apart])

/-- A stop that has returned leaves the record as it was, or erases it. -/
theorem resolve_cases (session : ToolSession) (reason : StopReason) (stopped : Bool) :
    ((session.resolve reason stopped).holds = false ∧
        (session.resolve reason stopped).phase = .idle ∧ (reason.drops || stopped) = true) ∨
      (reason.drops = false ∧ stopped = false ∧
        session.resolve reason stopped = { session with phase := .idle }) := by
  have erased : session.cleared.holds = false := by
    simp [ToolSession.holds, ToolSession.cleared]
  cases reason with
  | undo => exact .inl ⟨erased, rfl, rfl⟩
  | close => exact .inl ⟨by simp [ToolSession.resolve, ToolSession.holds, ToolSession.closed],
      rfl, rfl⟩
  | stop | cancel =>
    cases stopped with
    | false => exact .inr ⟨rfl, rfl, rfl⟩
    | true => exact .inl ⟨erased, rfl, rfl⟩

variable {operation : OwnedStep}

/-- A stop returns without having ended the run: what was asked for is over, and the record
is forgotten where the caller does not look at the result. -/
theorem Coherent.gives_up (coherent : state.Coherent) {reason : StopReason}
    (waits : (state.sessions number).phase = .waiting reason) {after : ToolSystem}
    (unmoved : Unmoved state.system after) (settled : after.view.Settled)
    (callers : after.callers = Function.update state.system.callers number .idle)
    (abandons : reason.drops = true → state.Abandons operation) :
    ({ state.change number ((state.sessions number).resolve reason false) with
        system := after } : OwnedSystem).Coherent ∧
      Outcome state operation
        { state.change number ((state.sessions number).resolve reason false) with
          system := after } := by
  have asked : (state.sessions number).phase.reason = some reason := by rw [waits]; rfl
  obtain ⟨holds, -, -⟩ := coherent.stop_current asked
  have ordered := (coherent.ordered number).resolve asked false
  have callerIdle : after.callers number = .idle := by rw [callers, Function.update_self]
  have others (other : Nat) (apart : other ≠ number) :=
    follows_unmoved (coherent.follows other) unmoved
      (by rw [callers, Function.update_of_ne apart])
  have serves := coherent.serves.unmoved unmoved settled
  obtain ⟨erased, idle, drops⟩ | ⟨-, -, kept⟩ :=
    resolve_cases (state.sessions number) reason false
  · refine ⟨coherent.with_session serves ordered
      ⟨fun held => ?_, fun _ _ => callerIdle, ?_⟩ others (fun held => ?_),
      .forgotten unmoved (abandons ((Bool.or_false _).symm.trans drops))⟩
    · rw [erased] at held
      cases held
    · rw [callerIdle, idle]
      rfl
    · rw [erased] at held
      cases held
  · rw [kept] at ordered ⊢
    refine ⟨coherent.with_session serves ordered
      ⟨fun held => ?_, fun _ _ => callerIdle, ?_⟩ others (fun _ => coherent.alone holds),
      .same unmoved (held_change rfl)⟩
    · rw [unmoved.active, unmoved.runId, unmoved.toolId, unmoved.started]
      exact (coherent.follows number).current held
    · rw [callerIdle]
      rfl

theorem Coherent.stopWait (coherent : state.Coherent) (number : Nat) (timedOut : Bool) :
    (state.stopWait number timedOut).Coherent ∧
      Outcome state (.stopWait number timedOut) (state.stopWait number timedOut) := by
  simp only [OwnedSystem.stopWait]
  cases phase : (state.sessions number).phase with
  | idle => exact coherent.still _
  | calling reason => exact coherent.still _
  | waiting reason =>
    dsimp only
    have follows := coherent.follows number
    have stopping := follows.stopping
    rw [phase, show (RequestPhase.waiting reason).waits = true from rfl, if_pos rfl] at stopping
    have unmoved := work_unmoved state.system (.stopWait number timedOut)
      (fun _ _ _ _ same => by cases same) (fun _ same => by cases same)
    have settled := coherent.serves.step_settled (.stopWait number timedOut)
    cases caller : state.system.callers number with
    | idle | found | queued | cancelling =>
      rw [caller] at stopping
      cases stopping
    | idleSeen runId =>
      have still : (state.system.step (.stopWait number timedOut)).1 = state.system := by
        simp only [ToolSystem.step, caller]
      rw [still, caller, if_neg (fun same => by cases same)]
      exact coherent.still _
    | stopping runId =>
      rw [caller] at stopping
      cases idleFlag : state.system.idleFlag with
      | true =>
        have seen : (state.system.step (.stopWait number timedOut)).1 =
            state.system.move number (.idleSeen runId) := by
          simp only [ToolSystem.step, caller, idleFlag, if_true]
        rw [seen] at unmoved settled ⊢
        have callers : (state.system.move number (.idleSeen runId)).callers =
            Function.update state.system.callers number (.idleSeen runId) := rfl
        rw [callers, Function.update_self, if_neg (fun same => by cases same)]
        refine ⟨coherent.with_system (coherent.serves.unmoved unmoved settled) (fun other => ?_),
          .same unmoved fun _ => rfl⟩
        by_cases same : other = number
        · rw [same]
          refine ⟨fun held => ?_, fun other calls => ?_, ?_⟩
          · exact follows.current held
          · rw [phase] at calls
            cases calls
          · rw [callers, Function.update_self, phase]
            exact stopping
        · exact follows_unmoved (coherent.follows other) unmoved
            (by rw [callers, Function.update_of_ne same])
      | false =>
        cases timedOut with
        | false =>
          have still : (state.system.step (.stopWait number false)).1 = state.system := by
            simp [ToolSystem.step, caller, idleFlag]
          rw [still, caller, if_neg (fun same => by cases same)]
          exact coherent.still _
        | true =>
          have left : (state.system.step (.stopWait number true)).1 =
              state.system.move number .idle := by
            simp [ToolSystem.step, caller, idleFlag]
          rw [left] at unmoved settled ⊢
          have callers : (state.system.move number .idle).callers =
              Function.update state.system.callers number .idle := rfl
          rw [callers, Function.update_self, if_pos rfl]
          exact coherent.gives_up phase unmoved settled callers
            fun drops => ⟨rfl, idleFlag, reason, runId, drops, phase, caller⟩

theorem Coherent.stopEnd (coherent : state.Coherent) (number : Nat) :
    (state.stopEnd number).Coherent ∧
      Outcome state (.stopEnd number) (state.stopEnd number) := by
  simp only [OwnedSystem.stopEnd]
  split
  · rename_i reason runId phase caller
    have asked : (state.sessions number).phase.reason = some reason := by rw [phase]; rfl
    obtain ⟨holds, active, named⟩ := coherent.stop_current asked
    have follows := coherent.follows number
    have stopping := follows.stopping
    rw [phase, caller] at stopping
    have isRun : runId = (state.sessions number).activeRunId := Option.some.inj stopping
    have settled := coherent.serves.step_settled (.stopEnd number)
    simp only [ToolSystem.step, caller] at settled
    simp only [ToolSystem.stopEnd] at settled ⊢
    split
    · rename_i stops
      rw [if_pos stops] at settled
      have registered := (coherent.serves.registered active).1
      have serves : Serves { state.system.move number .idle with
          tools := state.system.tools.stoppedRun
          app := state.system.app.endpointUnregister } := by
        refine ⟨settled, (fun active => by cases active), fun _ => ?_⟩
        simp only [AppService.endpointUnregister, registered, if_true]
        rfl
      have callers : (state.system.move number .idle).callers =
          Function.update state.system.callers number .idle := rfl
      obtain ⟨erased, idle, -⟩ : ((state.sessions number).resolve reason true).holds = false ∧
          ((state.sessions number).resolve reason true).phase = .idle ∧ True := by
        obtain ⟨erased, idle, -⟩ | ⟨-, unstopped, -⟩ :=
          resolve_cases (state.sessions number) reason true
        · exact ⟨erased, idle, trivial⟩
        · cases unstopped
      refine ⟨coherent.with_session serves ((coherent.ordered number).resolve asked true)
        ⟨fun held => ?_, fun _ _ => ?_, ?_⟩ (fun other apart => ?_) (fun held => ?_),
        .ended number rfl holds rfl⟩
      · rw [List.isEmpty_cons, Bool.not_false, erased] at held
        cases held
      · exact Function.update_self ..
      · simp only [List.isEmpty_cons, Bool.not_false, idle, callers, Function.update_self]
        rfl
      · exact follows_unheld (coherent.follows other) (coherent.alone holds other apart)
          (by simp only [callers, Function.update_of_ne apart])
      · rw [List.isEmpty_cons, Bool.not_false, erased] at held
        cases held
    · rename_i refused
      rw [if_neg refused] at settled
      have unmoved : Unmoved state.system (state.system.move number .idle) :=
        ⟨rfl, rfl, rfl, rfl, rfl, id⟩
      simp only [active, named, isRun, beq_self_eq_true, Bool.and_true, Bool.and_eq_true,
        Bool.not_eq_true', not_and_or, Bool.not_eq_false, Bool.true_and] at refused
      have abandons (drops : reason.drops = true) : state.Abandons (.stopEnd number) :=
        ⟨refused, reason, runId, drops, phase, caller⟩
      exact coherent.gives_up phase unmoved settled rfl abandons
  · exact coherent.still _

/-- A request is handled with the record as it is. -/
theorem Coherent.with_request (coherent : state.Coherent) {session : ToolSession}
    (ready : state.ready number = true) (ordered : session.Ordered)
    (kept : KeepsRecord (state.sessions number) session) (operation : OwnedStep) :
    (state.change number session).Coherent ∧
      Outcome state operation (state.change number session) := by
  obtain ⟨-, -, callerIdle⟩ := ready_session ready
  have holds : session.holds = (state.sessions number).holds := kept.holds
  refine ⟨coherent.with_session coherent.serves ordered
    ⟨fun held => ?_, fun _ _ => callerIdle, ?_⟩ (fun other _ => coherent.follows other)
    (fun held => coherent.alone (holds.symm.trans held)), .same (unmoved_refl _)
    (held_change holds)⟩
  · rw [kept.opened, kept.runId, kept.toolId, kept.run]
    exact (coherent.follows number).current (holds.symm.trans held)
  · rw [callerIdle, kept.waits]
    rfl

/-- A session that records nothing opens or closes. -/
theorem Coherent.with_unheld (coherent : state.Coherent) {session : ToolSession}
    (unheld : (state.sessions number).holds = false) (ordered : session.Ordered)
    (nothing : session.holds = false) (idle : session.phase = .idle) (operation : OwnedStep) :
    (state.change number session).Coherent ∧
      Outcome state operation (state.change number session) := by
  have rests : (state.sessions number).phase.waits = false := by
    cases phase : (state.sessions number).phase with
    | waiting reason =>
      have busy : (state.sessions number).phase ≠ .idle := by
        intro idle
        rw [phase] at idle
        cases idle
      have holds := (coherent.ordered number).requested busy
      rw [unheld] at holds
      cases holds
    | idle | calling => rfl
  refine ⟨coherent.with_session coherent.serves ordered ⟨fun held => ?_, fun reason calls => ?_,
    ?_⟩ (fun other _ => coherent.follows other) (fun held => ?_), .same (unmoved_refl _)
    (held_change (nothing.trans unheld.symm))⟩
  · rw [nothing] at held
    cases held
  · rw [idle] at calls
    cases calls
  · have stopping := (coherent.follows number).stopping
    rw [rests] at stopping
    rw [idle]
    exact stopping
  · rw [nothing] at held
    cases held

theorem Coherent.close (coherent : state.Coherent) (ready : state.ready number = true)
    (operation : OwnedStep) :
    (state.change number (state.sessions number).free).Coherent ∧
      Outcome state operation (state.change number (state.sessions number).free) := by
  have idle := (ready_session ready).2.1
  have ordered := (coherent.ordered number).free idle
  cases holds : (state.sessions number).holds with
  | false =>
    have ends : (state.sessions number).free = .closed := by
      rw [ToolSession.free, holds]
      rfl
    rw [ends] at ordered ⊢
    exact coherent.with_unheld holds ordered (by decide) rfl operation
  | true =>
    have kept : KeepsRecord (state.sessions number) (state.sessions number).free := by
      rw [ToolSession.free, if_pos holds]
      exact ⟨rfl, rfl, rfl, rfl, rfl⟩
    exact coherent.with_request ready ordered kept operation

/-- Every step keeps the sessions coherent, with one of the outcomes. -/
theorem Coherent.step (coherent : state.Coherent) (operation : OwnedStep) :
    (state.step operation).Coherent ∧ Outcome state operation (state.step operation) := by
  cases operation with
  | work operation => exact coherent.work operation
  | stopBegin number => exact coherent.stopBegin number _
  | stopWait number timedOut => exact coherent.stopWait number timedOut
  | stopEnd number => exact coherent.stopEnd number
  | openSession number =>
    simp only [OwnedSystem.step]
    split
    · exact coherent.still _
    · rename_i absent
      refine coherent.with_unheld ?_ ToolSession.fresh_ordered (by decide) rfl _
      cases holds : (state.sessions number).holds with
      | false => rfl
      | true => exact absurd ((coherent.follows number).current holds).1 absent
  | toolRun number commandId identity input =>
    simp only [OwnedSystem.step]
    split
    · rename_i ready
      have idle := (ready_session ready).2.1
      simp only [OwnedSystem.toolRun]
      split
      · exact coherent.still _
      split
      · exact coherent.still _
      rename_i valid
      split
      · exact coherent.startRequest ready commandId _ input _
      · rw [Bool.not_eq_true', Bool.not_eq_false] at valid
        exact coherent.with_request ready
          ((coherent.ordered number).stopRequest idle input (request_named valid))
          (stopRequest_keeps idle input) _
    · exact coherent.still _
  | cancelRequest number target accepted =>
    simp only [OwnedSystem.step]
    split
    · rename_i ready
      have idle := (ready_session ready).2.1
      exact coherent.with_request ready
        ((coherent.ordered number).cancelRequest idle target accepted)
        (cancelRequest_keeps idle target accepted) _
    · exact coherent.still _
  | close number =>
    simp only [OwnedSystem.step]
    split
    · rename_i ready
      exact coherent.close ready _
    · exact coherent.still _
  | registerWorkload number commandId =>
    simp only [OwnedSystem.step]
    split
    · rename_i ready
      have idle := (ready_session ready).2.1
      exact coherent.with_request ready ((coherent.ordered number).registerWorkload idle commandId)
        (registerWorkload_keeps idle commandId) _
    · exact coherent.still _
  | completeWorkload number commandId =>
    simp only [OwnedSystem.step]
    split
    · rename_i ready
      have idle := (ready_session ready).2.1
      exact coherent.with_request ready ((coherent.ordered number).completeWorkload idle commandId)
        (completeWorkload_keeps idle commandId) _
    · exact coherent.still _

/-! ## Runs -/

/-- An active run is recorded by a session. -/
def Clean (state : OwnedSystem) : Prop :=
  state.system.tools.active = true → ∃ number, (state.sessions number).holds = true

theorem closed_unheld : ¬ ToolSession.closed.holds = true := by decide

theorem init_coherent : init.Coherent where
  serves := ⟨⟨(absurd · Bool.false_ne_true), (absurd · Bool.false_ne_true)⟩,
    (absurd · Bool.false_ne_true), fun _ => rfl⟩
  ordered := fun _ => ToolSession.closed_ordered
  follows := fun _ => ⟨(absurd · closed_unheld), (fun _ same => by cases same), rfl⟩
  single := fun _ _ held => absurd held closed_unheld

/-- Only a stop that gives up loses the session of an active run. -/
theorem Clean.step (clean : state.Clean) {after : OwnedSystem}
    (outcome : Outcome state operation after) (kept : ¬ state.Abandons operation) :
    after.Clean := by
  intro active
  cases outcome with
  | same unmoved held =>
    obtain ⟨number, holds⟩ := clean (unmoved.active.symm.trans active)
    exact ⟨number, (held number).trans holds⟩
  | inactive before later =>
    rw [later] at active
    cases active
  | started number before holds => exact ⟨number, holds⟩
  | forgotten unmoved abandons => exact absurd abandons kept
  | ended number isEnd held later =>
    rw [later] at active
    cases active

/-- A stop that gives up leaves an active run that no session has recorded. -/
theorem Coherent.abandoned (coherent : state.Coherent) (abandons : state.Abandons operation) :
    (state.step operation).system.tools.active = true ∧
      ∀ number, ((state.step operation).sessions number).holds = false := by
  have forgets {number : Nat} {reason : StopReason} (drops : reason.drops = true)
      (phase : (state.sessions number).phase = .waiting reason) (other : Nat) :
      (Function.update state.sessions number
        ((state.sessions number).resolve reason false) other).holds = false := by
    have asked : (state.sessions number).phase.reason = some reason := by rw [phase]; rfl
    by_cases same : other = number
    · rw [same, Function.update_self]
      obtain ⟨erased, -, -⟩ | ⟨keeps, -, -⟩ :=
        resolve_cases (state.sessions number) reason false
      · exact erased
      · rw [drops] at keeps
        cases keeps
    · rw [Function.update_of_ne same]
      exact coherent.alone (coherent.stop_current asked).1 other same
  cases operation with
  | stopWait number timedOut =>
    obtain ⟨rfl, unready, reason, runId, drops, phase, caller⟩ := abandons
    have active := (coherent.stop_current (by rw [phase]; rfl)).2.1
    have left : (state.system.step (.stopWait number true)).1 =
        state.system.move number .idle := by
      simp [ToolSystem.step, caller, unready]
    have callerIdle : (state.system.move number .idle).callers number = .idle :=
      Function.update_self ..
    simp only [OwnedSystem.step, OwnedSystem.stopWait, phase, left, callerIdle, if_true]
    exact ⟨active, forgets drops phase⟩
  | stopEnd number =>
    obtain ⟨busy, reason, runId, drops, phase, caller⟩ := abandons
    have active := (coherent.stop_current (by rw [phase]; rfl)).2.1
    have refused : (state.system.tools.active && state.system.tools.runId == runId &&
        !state.system.tools.workPending && !state.system.tools.workerBusy) = false := by
      obtain pending | working := busy
      · rw [pending]
        simp
      · rw [working]
        simp
    simp only [OwnedSystem.step, OwnedSystem.stopEnd, phase, caller, ToolSystem.stopEnd, refused,
      Bool.false_eq_true, if_false]
    exact ⟨active, forgets drops phase⟩
  | _ => exact abandons.elim

/-- So an open session that has the run is missing. -/
theorem Coherent.unlawful (coherent : state.Coherent) (abandons : state.Abandons operation) :
    ¬ (state.step operation).Lawful := by
  intro lawful
  obtain ⟨active, forgotten⟩ := coherent.abandoned abandons
  obtain ⟨number, holders, -, -⟩ := lawful.owned active
  have named := ((coherent.step operation).1.serves.registered active).2
  have held := forgotten number
  rw [ToolSession.holds, ((holders number).mpr rfl).2, named] at held
  cases held

/-- While every active run is recorded the three places agree. -/
theorem Coherent.lawful (coherent : state.Coherent) (clean : state.Clean) : state.Lawful where
  owned := by
    intro active
    obtain ⟨number, holds⟩ := clean active
    obtain ⟨opened, -, named, tool, run⟩ := (coherent.follows number).current holds
    refine ⟨number, fun other => ⟨fun holder => ?_, fun same => ?_⟩, tool.symm, run⟩
    · have held : (state.sessions other).holds = true := by
        rw [ToolSession.holds, holder.2, (coherent.serves.registered active).2]
        rfl
      exact coherent.single other number held holds
    · rw [same]
      exact ⟨opened, named.symm⟩
  slotted := by
    intro active number holder keeps
    have held : (state.sessions number).holds = true := by
      rw [ToolSession.holds, holder.2, (coherent.serves.registered active).2]
      rfl
    have ordered := coherent.ordered number
    have guards : (state.sessions number).guarded = true := by
      obtain idle | ⟨reason, stays, phase | phase⟩ := keeps
      · exact (ToolSession.guarded_idle idle).trans held
      · simp [ToolSession.guarded, RequestPhase.drops, RequestPhase.reason, phase, held, stays]
      · simp [ToolSession.guarded, RequestPhase.drops, RequestPhase.reason, phase, held, stays]
    obtain ⟨-, slot, stored⟩ := ordered.slotted guards
    refine ⟨slot, stored, fun other record isOther concerns => ?_⟩
    have same : record.commandId = (state.sessions number).activeCommandId := by
      obtain isTools | same := concerns
      · exact (ordered.registered other record isOther isTools).1
      · exact same
    exact ordered.distinct other slot record _ isOther stored same
  startable := by
    intro unheld unpended free toolId runId caseId role checked
    have inactive : state.system.tools.active = false := by
      cases active : state.system.tools.active with
      | false => rfl
      | true =>
        obtain ⟨number, holds⟩ := clean active
        rw [unheld number] at holds
        cases holds
    exact coherent.serves.startable inactive unpended free checked

/-- A run is ended only by the stop of the session that has recorded it. -/
theorem Outcome.own (coherent : state.Coherent) {after : OwnedSystem}
    (outcome : Outcome state operation after) (ends : Ends state after) :
    ∃ number, operation = .stopEnd number ∧ state.Holder number ∧
      (state.sessions number).run = state.system.started := by
  obtain ⟨active, gone⟩ := ends
  cases outcome with
  | same unmoved held => exact absurd ⟨unmoved.active.trans active, unmoved.started⟩ gone
  | forgotten unmoved abandons =>
    exact absurd ⟨unmoved.active.trans active, unmoved.started⟩ gone
  | inactive before later =>
    rw [before] at active
    cases active
  | started number before holds =>
    rw [before] at active
    cases active
  | ended number isEnd held later =>
    obtain ⟨opened, -, named, -, run⟩ := (coherent.follows number).current held
    exact ⟨number, isEnd, ⟨opened, named.symm⟩, run⟩

variable {steps : List OwnedStep} {index : Nat}

theorem ownedAt_succ (taken : steps[index]? = some operation) :
    ownedAt steps (index + 1) = (ownedAt steps index).step operation :=
  Runs.reached_succ taken

/-- The sessions are coherent all along a run. -/
theorem coherent_along (steps : List OwnedStep) (index : Nat) : (ownedAt steps index).Coherent := by
  refine Runs.always (motive := OwnedSystem.Coherent) init_coherent ?_ index
  exact fun _ operation _ coherent => (coherent.step operation).1

/-- As long as no stop gives up, an active run is recorded by a session. -/
theorem clean_along (kept : ∀ index operation, steps[index]? = some operation →
    ¬ (ownedAt steps index).Abandons operation) (index : Nat) : (ownedAt steps index).Clean := by
  refine Runs.always (motive := OwnedSystem.Clean) (absurd · Bool.false_ne_true) ?_ index
  intro index operation taken clean
  exact clean.step ((coherent_along steps index).step operation).2 (kept index operation taken)

/-- In every interleaving an active run is that of exactly one open session with the slot of
its command, no stop ends a run of another session, and a run can be started whenever none is
recorded and the worker is idle, exactly when no session that undoes a start or ends gives up
its stop.

Proof: `Coherent.step` keeps the records with the run of the service, `Clean.step` every
active run with a record; and after a stop that gives up no session has the run that is
still active. -/
theorem runs_owned_iff (steps : List OwnedStep) :
    Owned steps ↔ ∀ index operation, steps[index]? = some operation →
      ¬ (ownedAt steps index).Abandons operation := by
  constructor
  · intro owned index operation taken abandons
    have coherent := coherent_along steps index
    refine (coherent.unlawful abandons) ?_
    rw [← ownedAt_succ taken]
    exact owned.lawful (index + 1)
  · intro kept
    refine ⟨fun index => (coherent_along steps index).lawful (clean_along kept index),
      fun index operation taken ends => ?_⟩
    exact ((coherent_along steps index).step operation).2.own (coherent_along steps index) ends

section BusyClose

/-- A start request for the tool that reads NFC. -/
def startNfc : ToolRun where
  toolId := .literal "nfc.read"
  toolVersion := .literal "builtin"
  runId := .literal "first"
  caseId := .literal "case"
  state := .literal "start"

/-- A command for the tool that reads NFC. -/
def detectNfc : AppCommand where
  protocolVersion := 1
  appId := toolsAppId
  runId := .literal "first"
  commandId := .literal "nfc.detect"
  payloadJson := .literal ""
  cancel := false

/-- A session starts a run, sends a command for it, and ends while the adapter is at work. -/
def busyClose : List OwnedStep :=
  [.openSession 0, .toolRun 0 7 (some .owner) startNfc,
    .work (.lookup 0 detectNfc), .work (.callback 0), .work (.release 0), .work .wake,
    .work .take, .close 0, .stopBegin 0, .stopWait 0 true]

/-- The run stays active without a session. -/
theorem busy_close_abandons : ¬ ∀ steps, Owned steps := by
  intro always
  have abandons : (ownedAt busyClose 9).Abandons (.stopWait 0 true) :=
    ⟨rfl, by decide +kernel, .close, .literal "first", rfl, by decide +kernel, by decide +kernel⟩
  refine (coherent_along busyClose 9).unlawful abandons ?_
  rw [← ownedAt_succ rfl]
  exact (always busyClose).lawful 10

end BusyClose

end OwnedSystem

end PoisonedOS.ToolOwnership
