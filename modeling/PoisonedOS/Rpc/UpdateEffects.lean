import PoisonedOS.Rpc.UpdateHistory

/-!
# What an update request does outside the engine

Processing a request may call two callbacks, with effects that cannot be taken back:
one arms the activation of the carried update, the other a return to an earlier
firmware. Here a request is processed together with the calls it makes, for any
callbacks; with the ones a session installs it is the processing of the engine.

An activation is armed only after the update was found awaiting confirmation. A
rollback is armed before the state of the update is looked at, so a request to roll
back an update that is still being received arms it and is then refused.
-/

namespace PoisonedOS

/-- A callback that was invoked, with its answer. -/
inductive UpdateCall where
  | activation (path : CString) (succeeded : Bool)
  | rollback (path : CString) (succeeded : Bool)
deriving DecidableEq

/-- The callbacks an engine holds, where they are installed. -/
structure UpdateCallbacks where
  activation : Option (UpdateEngine → CString → Bool)
  rollback : Option (UpdateEngine → CString → Bool)

/-- The callbacks of a session. -/
def UpdateCallbacks.installed (answers : UpdateAnswers) : UpdateCallbacks where
  activation := some fun engine path => engine.prepareUpdate path answers
  rollback := some fun _ path => answers.prepared path

namespace UpdateEngine

/-- The authorization `rpc_poison_content_update_activate` obtains, and the
confirmation it leaves. -/
def authorize (engine : UpdateEngine) (request : UpdateRequest) (context : Option RequestContext) :
    Bool × Confirmation :=
  if !engine.update.confirmationRequired then (true, engine.confirmation)
  else if !engine.confirmationMatches request context then (false, engine.confirmation)
  else
    match context with
    | none => (false, engine.confirmation)
    | some context =>
      let (result, confirmation) := engine.confirmation.approve context.sessionId context.role
        ⟨engine.confirmation.commandDigest, engine.confirmation.targetDigest,
          engine.confirmation.consequenceDigest⟩
        request.confirmationToken context.policyVersion context.nowMs context.physicalConfirmed
      (result == .ok, confirmation)

/-- The path an activation is armed with. -/
def activationPath (engine : UpdateEngine) : CString :=
  if engine.activationManifestPath.isEmpty then engine.manifestPath
  else engine.activationManifestPath

/-- The path a rollback is armed with. -/
def rollbackPath (engine : UpdateEngine) : CString :=
  if engine.update.state == .healthy then engine.previousKnownGoodManifestPath
  else engine.lastKnownGoodManifestPath

/-- `rpc_poison_content_update_activate` with the calls it makes. -/
def activateCalls (callbacks : UpdateCallbacks) (engine : UpdateEngine) (request : UpdateRequest)
    (context : Option RequestContext) : (Bool × UpdateEngine) × List UpdateCall :=
  let (authorized, confirmation) := engine.authorize request context
  let engine := { engine with confirmation }
  if !authorized then ((false, engine), [])
  else
    match engine.update.confirm authorized with
    | (false, update) => ((false, { engine with update }), [])
    | (true, update) =>
      let engine := { engine with update }
      match callbacks.activation with
      | none => ((false, engine), [])
      | some callback =>
        let path := engine.activationPath
        let succeeded := callback engine path
        if !succeeded then ((false, engine), [.activation path succeeded])
        else
          match update.transition .activating with
          | (false, update) => ((false, { engine with update }), [.activation path succeeded])
          | (true, update) =>
            ((true, { engine with update, confirmation := .zero }), [.activation path succeeded])

/-- The rollback branch of `rpc_poison_content_update_process` with the calls it
makes. -/
def rollbackCalls (callbacks : UpdateCallbacks) (engine : UpdateEngine) :
    (Bool × UpdateEngine) × List UpdateCall :=
  let toPrevious := engine.update.state == .healthy
  let path := engine.rollbackPath
  if path.isEmpty then ((false, engine), [])
  else
    match callbacks.rollback with
    | none => ((false, engine), [])
    | some callback =>
      let succeeded := callback engine path
      if !succeeded then ((false, engine), [.rollback path succeeded])
      else
        match engine.update.rollback with
        | (false, update) => ((false, { engine with update }), [.rollback path succeeded])
        | (true, update) =>
          let engine := { engine with update, acceptedDigest := update.previousDigest }
          ((true, if toPrevious then
            { engine with
              lastKnownGoodManifestPath := path
              previousKnownGoodManifestPath := engine.lastKnownGoodManifestPath }
            else engine), [.rollback path succeeded])

section Process

variable (sha256 : List UInt8 → Digest) (callbacks : UpdateCallbacks)

/-- The branches of `rpc_poison_content_update_process` with the calls they make. -/
def operateCalls (engine : UpdateEngine) (operation : UpdateOperation) (request : UpdateRequest)
    (context : Option RequestContext) (answers : UpdateAnswers) :
    (Bool × CString × UpdateEngine) × List UpdateCall :=
  match operation with
  | .activate =>
    let ((result, engine), calls) := engine.activateCalls callbacks request context
    ((result, .literal "activating", engine), calls)
  | .rollback =>
    let ((result, engine), calls) := engine.rollbackCalls callbacks
    ((result, .literal "rolled-back", engine), calls)
  | operation => (engine.operate sha256 operation request context answers, [])

/-- `rpc_poison_content_update_process` with the calls it makes. -/
def processCalls (engine : UpdateEngine) (request : UpdateRequest)
    (context : Option RequestContext) (answers : UpdateAnswers) :
    (Option UpdateStatus × UpdateEngine) × List UpdateCall :=
  match UpdateOperation.ofWire request.operation with
  | some .importUpdate =>
    match engine.importUpdate request answers with
    | (false, engine) => ((none, engine), [])
    | (true, engine) => ((some (engine.fillStatus (.literal "imported")), engine), [])
  | operation =>
    if !engine.idMatches request.updateId then ((none, engine), [])
    else
      match operation with
      | none => ((none, engine), [])
      | some operation =>
        match engine.operateCalls sha256 callbacks operation request context answers with
        | ((false, _, engine), calls) => ((none, engine), calls)
        | ((true, name, engine), calls) => ((some (engine.fillStatus name), engine), calls)

end Process

variable {engine : UpdateEngine} {request : UpdateRequest} {context : Option RequestContext}
  {answers : UpdateAnswers} {callbacks : UpdateCallbacks} {sha256 : List UInt8 → Digest}

theorem activateCalls_installed :
    (engine.activateCalls (.installed answers) request context).1 =
      engine.activate request context answers := by
  unfold activateCalls activate authorize
  generalize (if !engine.update.confirmationRequired then (true, engine.confirmation)
    else _ : Bool × Confirmation) = result
  obtain ⟨authorized, confirmation⟩ := result
  cases authorized with
  | false => rfl
  | true =>
    simp only [Bool.not_true, Bool.false_eq_true, if_false]
    generalize engine.update.confirm true = result
    obtain ⟨confirmed, update⟩ := result
    cases confirmed with
    | false => rfl
    | true =>
      simp only [UpdateCallbacks.installed, activationPath]
      generalize prepareUpdate _ _ answers = prepared
      cases prepared with
      | false => rfl
      | true =>
        simp only [Bool.not_true, Bool.false_eq_true, if_false]
        generalize update.transition .activating = result
        obtain ⟨activating, update⟩ := result
        cases activating <;> rfl

theorem rollbackCalls_installed :
    (engine.rollbackCalls (.installed answers)).1 = engine.rollback answers := by
  unfold rollbackCalls rollback
  simp only [UpdateCallbacks.installed, rollbackPath, beq_iff_eq]
  generalize (if engine.update.state = .healthy then engine.previousKnownGoodManifestPath
    else engine.lastKnownGoodManifestPath) = path
  cases path.isEmpty with
  | true => rfl
  | false =>
    cases answers.prepared path with
    | false => rfl
    | true =>
      simp only [Bool.not_true, Bool.or_self, Bool.false_eq_true, if_false]
      generalize engine.update.rollback = result
      obtain ⟨rolledBack, update⟩ := result
      cases rolledBack <;> rfl

def answered (result : (Bool × CString × UpdateEngine) × List UpdateCall) :
    (Option UpdateStatus × UpdateEngine) × List UpdateCall :=
  ((if result.1.1 then some (result.1.2.2.fillStatus result.1.2.1) else none, result.1.2.2),
    result.2)

open UpdateOperation (ofWire)

/-- A request about another update than the carried one does nothing. -/
theorem processCalls_of_unmatched (other : ofWire request.operation ≠
    some .importUpdate) (unmatched : engine.idMatches request.updateId = false) :
    engine.processCalls sha256 callbacks request context answers = ((none, engine), []) := by
  unfold processCalls
  generalize ofWire request.operation = operation at other
  rw [unmatched]
  cases operation with
  | none => rfl
  | some operation =>
    cases operation with
    | importUpdate => exact absurd rfl other
    | _ => rfl

/-- A request about the carried update is answered from its operation. -/
theorem processCalls_of_matched {operation : UpdateOperation}
    (named : ofWire request.operation = some operation)
    (other : operation ≠ .importUpdate) (matched : engine.idMatches request.updateId = true) :
    engine.processCalls sha256 callbacks request context answers =
      answered (engine.operateCalls sha256 callbacks operation request context answers) := by
  have read : ∀ result : (Bool × CString × UpdateEngine) × List UpdateCall,
      (match result with
        | ((false, _, engine), calls) => ((none, engine), calls)
        | ((true, name, engine), calls) => ((some (engine.fillStatus name), engine), calls)) =
      answered result := by
    rintro ⟨⟨succeeded, name, after⟩, calls⟩
    cases succeeded <;> rfl
  unfold processCalls
  rw [named, matched, ← read]
  cases operation with
  | importUpdate => exact absurd rfl other
  | inspect => rfl
  | stage => rfl
  | verify => rfl
  | activate => rfl
  | health => rfl
  | cancel => rfl
  | rollback => rfl
  | quarantine => rfl

/-- With the callbacks of a session the processing with its calls is that of the engine. -/
theorem processCalls_installed :
    (engine.processCalls sha256 (.installed answers) request context answers).1 =
      engine.process sha256 request context answers := by
  have operated (operation : UpdateOperation) :
      (engine.operateCalls sha256 (.installed answers) operation request context answers).1 =
        engine.operate sha256 operation request context answers := by
    cases operation with
    | activate => simp only [operateCalls, operate, ← activateCalls_installed]
    | rollback => simp only [operateCalls, operate, ← rollbackCalls_installed]
    | _ => rfl
  unfold processCalls process
  cases ofWire request.operation with
  | none => cases engine.idMatches request.updateId <;> rfl
  | some operation =>
    have same := operated operation
    cases operation with
    | importUpdate =>
      generalize engine.importUpdate request answers = result
      obtain ⟨imported, after⟩ := result
      cases imported <;> rfl
    | inspect | stage | verify | activate | health | cancel | rollback | quarantine =>
      cases engine.idMatches request.updateId with
      | false => rfl
      | true =>
        simp only [Bool.not_true, Bool.false_eq_true, if_false]
        rw [← same]
        generalize operateCalls _ _ _ _ _ _ _ = result
        obtain ⟨⟨succeeded, name, after⟩, calls⟩ := result
        cases succeeded <;> rfl

/-- A request without a known operation does nothing. -/
theorem processCalls_of_none (named : ofWire request.operation = none) :
    engine.processCalls sha256 callbacks request context answers = ((none, engine), []) := by
  unfold processCalls
  rw [named]
  cases engine.idMatches request.updateId <;> rfl

/-- Only the two operations with a callback make a call. -/
theorem processCalls_silent {operation : UpdateOperation}
    (named : ofWire request.operation = some operation)
    (notActivate : operation ≠ .activate) (notRollback : operation ≠ .rollback) :
    (engine.processCalls sha256 callbacks request context answers).2 = [] := by
  by_cases isImport : operation = .importUpdate
  · unfold processCalls
    rw [named, isImport]
    dsimp only
    generalize engine.importUpdate request answers = result
    obtain ⟨imported, after⟩ := result
    cases imported <;> rfl
  · cases matched : engine.idMatches request.updateId with
    | false =>
      rw [processCalls_of_unmatched (by simpa [named] using isImport) matched]
    | true =>
      rw [processCalls_of_matched named isImport matched, answered]
      cases operation with
      | activate => exact absurd rfl notActivate
      | rollback => exact absurd rfl notRollback
      | _ => rfl

/-- The engine as the activation callback sees it. -/
def armed (engine : UpdateEngine) (request : UpdateRequest) (context : Option RequestContext) :
    UpdateEngine :=
  { engine with
    confirmation := (engine.authorize request context).2
    update := { engine.update with confirmationAuthorized := true } }

/-- An activation without an authorization, of an update that is not awaiting one or
without a callback, makes no call and does not move the update. -/
theorem activateCalls_refused
    (refused : ¬ ((engine.authorize request context).1 = true ∧
      engine.update.state = .awaitingConfirmation ∧ callbacks.activation.isSome = true)) :
    (engine.activateCalls callbacks request context).2 = [] := by
  unfold activateCalls
  generalize engine.authorize request context = result at refused
  obtain ⟨authorized, confirmation⟩ := result
  cases authorized with
  | false => rfl
  | true =>
    dsimp only
    rw [if_neg (by decide)]
    cases isConfirmed : engine.update.confirm true with
    | mk confirmed update =>
      cases confirmed with
      | false => rfl
      | true =>
        cases installed : callbacks.activation with
        | none => rfl
        | some callback =>
          exfalso
          refine refused ⟨rfl, ?_, by rw [installed]; rfl⟩
          unfold ContentUpdate.confirm at isConfirmed
          split at isConfirmed
          · cases isConfirmed
          · rename_i awaiting
            simpa using awaiting

theorem activateCalls_accepted {callback : UpdateEngine → CString → Bool}
    (authorized : (engine.authorize request context).1 = true)
    (awaiting : engine.update.state = .awaitingConfirmation)
    (installed : callbacks.activation = some callback) :
    (engine.activateCalls callbacks request context).2 =
        [.activation engine.activationPath
          (callback (engine.armed request context) engine.activationPath)] ∧
      (callback (engine.armed request context) engine.activationPath = true →
        ((engine.activateCalls callbacks request context).1.2.update.state = .activating ↔
          engine.update.rollbackAvailable = true ∧
            engine.update.candidateDigest.isEmpty = false)) := by
  have confirms : engine.update.confirm true =
      (true, { engine.update with confirmationAuthorized := true }) := by
    simp [ContentUpdate.confirm, awaiting]
  unfold activateCalls armed
  generalize engine.authorize request context = result at authorized
  obtain ⟨isAuthorized, confirmation⟩ := result
  cases authorized
  dsimp only
  rw [if_neg (by decide), confirms, installed]
  dsimp only
  have samePath : (activationPath { engine with
      confirmation, update := { engine.update with confirmationAuthorized := true } }) =
      engine.activationPath := rfl
  rw [samePath]
  cases callback _ engine.activationPath with
  | false => exact ⟨rfl, fun impossible => Bool.noConfusion impossible⟩
  | true =>
    rw [if_neg (by decide), ContentUpdate.transition]
    by_cases ready : engine.update.rollbackAvailable = true ∧
      engine.update.candidateDigest.isEmpty = false
    · have allowed : ContentUpdate.allowed { engine.update with confirmationAuthorized := true }
          .activating = true := by
        simp [ContentUpdate.allowed, ContentUpdate.canActivate, awaiting, ready.1, ready.2]
      rw [if_pos allowed]
      exact ⟨rfl, fun _ => ⟨fun _ => ready, fun _ => rfl⟩⟩
    · have refused : ¬ ContentUpdate.allowed { engine.update with confirmationAuthorized := true }
          .activating = true := by
        intro allowed
        apply ready
        simp only [ContentUpdate.allowed, ContentUpdate.canActivate, awaiting, Bool.and_eq_true,
          Bool.not_eq_true', beq_self_eq_true, true_and] at allowed
        exact ⟨allowed.1.2, allowed.1.1⟩
      rw [if_neg refused]
      refine ⟨rfl, fun _ => ⟨fun activating => ?_, fun isReady => absurd isReady ready⟩⟩
      exact absurd (activating.symm.trans awaiting) (by decide)

/-- A rollback without a path or a callback makes no call. -/
theorem rollbackCalls_refused
    (refused : ¬ (engine.rollbackPath.isEmpty = false ∧ callbacks.rollback.isSome = true)) :
    (engine.rollbackCalls callbacks).2 = [] := by
  unfold rollbackCalls
  dsimp only
  cases isEmpty : engine.rollbackPath.isEmpty with
  | true => rfl
  | false =>
    cases installed : callbacks.rollback with
    | none => rfl
    | some callback => exact absurd ⟨isEmpty, by rw [installed]; rfl⟩ refused

theorem rollbackCalls_accepted {callback : UpdateEngine → CString → Bool}
    (path : engine.rollbackPath.isEmpty = false)
    (installed : callbacks.rollback = some callback) :
    (engine.rollbackCalls callbacks).2 =
        [.rollback engine.rollbackPath (callback engine engine.rollbackPath)] ∧
      (callback engine engine.rollbackPath = true →
        (engine.update.state ≠ .rolledBack ∧
            (engine.rollbackCalls callbacks).1.2.update.state = .rolledBack ↔
          engine.update.rollbackAvailable = true ∧ engine.update.previousDigest.isEmpty = false ∧
            (engine.update.state = .activating ∨ engine.update.state = .healthy))) := by
  unfold rollbackCalls
  dsimp only
  rw [path, installed]
  dsimp only
  cases callback engine engine.rollbackPath with
  | false => exact ⟨rfl, fun impossible => Bool.noConfusion impossible⟩
  | true =>
    rw [if_neg (by decide), if_neg (by decide)]
    by_cases ready : engine.update.rollbackAvailable = true ∧
      engine.update.previousDigest.isEmpty = false ∧
      (engine.update.state = .activating ∨ engine.update.state = .healthy)
    · obtain ⟨available, previous, live⟩ := ready
      have reverts : engine.update.rollback =
          (true, { engine.update with state := .rolledBack }) := by
        obtain state | state := live <;>
          simp [ContentUpdate.rollback, available, previous, state]
      have apart : engine.update.state ≠ .rolledBack := by
        obtain state | state := live <;> rw [state] <;> decide
      rw [reverts]
      refine ⟨rfl, fun _ => ⟨fun _ => ⟨available, previous, live⟩, fun _ => ⟨apart, ?_⟩⟩⟩
      dsimp only
      split <;> rfl
    · have refuses : engine.update.rollback = (false, engine.update) := by
        obtain refuses | ⟨live, reverts⟩ := engine.update.rollback_live
        · exact refuses
        · exfalso
          apply ready
          unfold ContentUpdate.rollback at reverts
          split at reverts
          · cases reverts
          · rename_i available
            simp only [Bool.or_eq_true, Bool.not_eq_true', not_or, Bool.not_eq_false,
              Bool.not_eq_true] at available
            exact ⟨available.1, available.2, live⟩
      rw [refuses]
      exact ⟨rfl, fun _ => ⟨fun moved => absurd moved.2 moved.1,
        fun isReady => absurd isReady ready⟩⟩

/-- A callback is invoked only where the call then moves the update, or the callback
itself failed. -/
structure EffectsMatch (before after : UpdateEngine) (calls : List UpdateCall) : Prop where
  activation : ∀ path succeeded, .activation path succeeded ∈ calls →
    succeeded = false ∨
      (before.update.state ≠ .activating ∧ after.update.state = .activating)
  rollback : ∀ path succeeded, .rollback path succeeded ∈ calls →
    succeeded = false ∨
      (before.update.state ≠ .rolledBack ∧ after.update.state = .rolledBack)

/-- An authorized activation is armed for an update that cannot be activated: it has no
rollback or no candidate. -/
def ActivationStrays (callbacks : UpdateCallbacks) (engine : UpdateEngine)
    (request : UpdateRequest) (context : Option RequestContext) : Prop :=
  UpdateOperation.ofWire request.operation = some .activate ∧
    engine.idMatches request.updateId = true ∧
    (engine.authorize request context).1 = true ∧
    engine.update.state = .awaitingConfirmation ∧
    (∃ callback, callbacks.activation = some callback ∧
      callback (engine.armed request context) engine.activationPath = true) ∧
    ¬ (engine.update.rollbackAvailable = true ∧ engine.update.candidateDigest.isEmpty = false)

/-- A rollback is armed for an update that cannot be rolled back: it is neither
activating nor healthy, or has no rollback or no previous digest. -/
def RollbackStrays (callbacks : UpdateCallbacks) (engine : UpdateEngine)
    (request : UpdateRequest) : Prop :=
  UpdateOperation.ofWire request.operation = some .rollback ∧
    engine.idMatches request.updateId = true ∧ engine.rollbackPath.isEmpty = false ∧
    (∃ callback, callbacks.rollback = some callback ∧
      callback engine engine.rollbackPath = true) ∧
    ¬ (engine.update.rollbackAvailable = true ∧ engine.update.previousDigest.isEmpty = false ∧
      (engine.update.state = .activating ∨ engine.update.state = .healthy))

variable {after : UpdateEngine}

/-- Without a call there is nothing to match. -/
theorem EffectsMatch.of_silent {calls : List UpdateCall} (silent : calls = []) :
    EffectsMatch engine after calls := by
  rw [silent]
  exact ⟨fun _ _ called => absurd called List.not_mem_nil,
    fun _ _ called => absurd called List.not_mem_nil⟩

/-- One call to activate matches when it failed or the update moved. -/
theorem effectsMatch_activation {path : CString} {succeeded : Bool} :
    EffectsMatch engine after [.activation path succeeded] ↔
      (succeeded = true → engine.update.state ≠ .activating ∧ after.update.state = .activating) := by
  constructor
  · intro matching isSuccess
    obtain failed | moved := matching.activation path succeeded List.mem_cons_self
    · rw [isSuccess] at failed
      cases failed
    · exact moved
  · intro moved
    refine ⟨fun other answer called => ?_, fun other answer called => ?_⟩
    · obtain ⟨rfl, rfl⟩ := UpdateCall.activation.inj (List.mem_singleton.mp called)
      cases answer with
      | false => exact .inl rfl
      | true => exact .inr (moved rfl)
    · exact absurd (List.mem_singleton.mp called) UpdateCall.noConfusion

/-- The same for one call to roll back. -/
theorem effectsMatch_rollback {path : CString} {succeeded : Bool} :
    EffectsMatch engine after [.rollback path succeeded] ↔
      (succeeded = true → engine.update.state ≠ .rolledBack ∧ after.update.state = .rolledBack) := by
  constructor
  · intro matching isSuccess
    obtain failed | moved := matching.rollback path succeeded List.mem_cons_self
    · rw [isSuccess] at failed
      cases failed
    · exact moved
  · intro moved
    refine ⟨fun other answer called => ?_, fun other answer called => ?_⟩
    · exact absurd (List.mem_singleton.mp called) UpdateCall.noConfusion
    · obtain ⟨rfl, rfl⟩ := UpdateCall.rollback.inj (List.mem_singleton.mp called)
      cases answer with
      | false => exact .inl rfl
      | true => exact .inr (moved rfl)

theorem activation_matches (named : ofWire request.operation = some .activate)
    (matched : engine.idMatches request.updateId = true) :
    EffectsMatch engine (engine.activateCalls callbacks request context).1.2
        (engine.activateCalls callbacks request context).2 ↔
      ¬ engine.ActivationStrays callbacks request context := by
  by_cases accepted : (engine.authorize request context).1 = true ∧
    engine.update.state = .awaitingConfirmation ∧ callbacks.activation.isSome = true
  · obtain ⟨authorized, awaiting, isInstalled⟩ := accepted
    obtain ⟨callback, installed⟩ := Option.isSome_iff_exists.mp isInstalled
    obtain ⟨calls, moves⟩ := activateCalls_accepted authorized awaiting installed
    have apart : engine.update.state ≠ .activating := by
      rw [awaiting]
      decide
    rw [calls, effectsMatch_activation]
    constructor
    · rintro moved ⟨-, -, -, -, ⟨other, otherInstalled, succeeded⟩, unready⟩
      obtain rfl := Option.some.inj (installed.symm.trans otherInstalled)
      exact unready ((moves succeeded).mp (moved succeeded).2)
    · intro straight succeeded
      refine ⟨apart, (moves succeeded).mpr ?_⟩
      by_contra unready
      exact straight
        ⟨named, matched, authorized, awaiting, ⟨callback, installed, succeeded⟩, unready⟩
  · refine iff_of_true (.of_silent (activateCalls_refused accepted)) ?_
    rintro ⟨-, -, authorized, awaiting, ⟨callback, installed, -⟩, -⟩
    exact accepted ⟨authorized, awaiting, by rw [installed]; rfl⟩

theorem rollback_matches (named : ofWire request.operation = some .rollback)
    (matched : engine.idMatches request.updateId = true) :
    EffectsMatch engine (engine.rollbackCalls callbacks).1.2 (engine.rollbackCalls callbacks).2 ↔
      ¬ engine.RollbackStrays callbacks request := by
  by_cases accepted : engine.rollbackPath.isEmpty = false ∧ callbacks.rollback.isSome = true
  · obtain ⟨path, isInstalled⟩ := accepted
    obtain ⟨callback, installed⟩ := Option.isSome_iff_exists.mp isInstalled
    obtain ⟨calls, moves⟩ := rollbackCalls_accepted path installed
    rw [calls, effectsMatch_rollback]
    constructor
    · rintro moved ⟨-, -, -, ⟨other, otherInstalled, succeeded⟩, unready⟩
      obtain rfl := Option.some.inj (installed.symm.trans otherInstalled)
      exact unready ((moves succeeded).mp (moved succeeded))
    · intro straight succeeded
      refine (moves succeeded).mpr ?_
      by_contra unready
      exact straight ⟨named, matched, path, ⟨callback, installed, succeeded⟩, unready⟩
  · refine iff_of_true (.of_silent (rollbackCalls_refused accepted)) ?_
    rintro ⟨-, -, path, ⟨callback, installed, -⟩, -⟩
    exact accepted ⟨path, by rw [installed]; rfl⟩

theorem effects_match_iff (sha256 : List UInt8 → Digest) (callbacks : UpdateCallbacks)
    (engine : UpdateEngine) (request : UpdateRequest) (context : Option RequestContext)
    (answers : UpdateAnswers) :
    EffectsMatch engine (engine.processCalls sha256 callbacks request context answers).1.2
        (engine.processCalls sha256 callbacks request context answers).2 ↔
      ¬ engine.ActivationStrays callbacks request context ∧
        ¬ engine.RollbackStrays callbacks request := by
  cases named : ofWire request.operation with
  | none =>
    refine iff_of_true (.of_silent (congrArg Prod.snd (processCalls_of_none named))) ⟨?_, ?_⟩
    · rintro ⟨isActivate, -⟩
      rw [named] at isActivate
      cases isActivate
    · rintro ⟨isRollback, -⟩
      rw [named] at isRollback
      cases isRollback
  | some operation =>
    have notActivation : operation ≠ .activate →
        ¬ engine.ActivationStrays callbacks request context := by
      rintro other ⟨isActivate, -⟩
      exact other (Option.some.inj (named.symm.trans isActivate))
    have notRollback : operation ≠ .rollback → ¬ engine.RollbackStrays callbacks request := by
      rintro other ⟨isRollback, -⟩
      exact other (Option.some.inj (named.symm.trans isRollback))
    by_cases isActivate : operation = .activate
    · subst isActivate
      rw [and_iff_left (notRollback (by decide))]
      cases matched : engine.idMatches request.updateId with
      | true =>
        rw [processCalls_of_matched named (by decide) matched]
        exact activation_matches named matched
      | false =>
        rw [processCalls_of_unmatched (by simp [named]) matched]
        refine iff_of_true (.of_silent rfl) ?_
        rintro ⟨-, isMatched, -⟩
        rw [matched] at isMatched
        cases isMatched
    · by_cases isRollback : operation = .rollback
      · subst isRollback
        rw [and_iff_right (notActivation (by decide))]
        cases matched : engine.idMatches request.updateId with
        | true =>
          rw [processCalls_of_matched named (by decide) matched]
          exact rollback_matches named matched
        | false =>
          rw [processCalls_of_unmatched (by simp [named]) matched]
          refine iff_of_true (.of_silent rfl) ?_
          rintro ⟨-, isMatched, -⟩
          rw [matched] at isMatched
          cases isMatched
      · exact iff_of_true (.of_silent (processCalls_silent named isActivate isRollback))
          ⟨notActivation isActivate, notRollback isRollback⟩

end UpdateEngine

end PoisonedOS
