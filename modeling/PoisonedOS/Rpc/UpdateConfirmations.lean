import PoisonedOS.Rpc.UpdateEffects

/-!
# Which confirmation an activation consumes

The engine holds one confirmation at a time. Verifying the carried update issues it, a
new import clears it, approving it uses it up, and no other request touches it or
changes which update is carried. So the confirmation that an activation has approved
was issued when this very update was verified.

A run here starts the engine as a device does: the state file is only read on a
restart, into a fresh engine.
-/

namespace PoisonedOS

namespace UpdateEngine

variable {engine after : UpdateEngine} {request : UpdateRequest}
  {context : Option RequestContext} {answers : UpdateAnswers} {sha256 : List UInt8 → Digest}

/-- A confirmation that is live afterwards was held before, for the same update. -/
def Keeps (engine after : UpdateEngine) : Prop :=
  after.confirmation.active = true →
    after.confirmation = engine.confirmation ∧ after.update.identity = engine.update.identity

theorem Keeps.of_same (confirmation : after.confirmation = engine.confirmation)
    (identity : after.update.identity = engine.update.identity) : Keeps engine after :=
  fun _ => ⟨confirmation, identity⟩

/-- The confirmation was issued in the context, with the token. -/
structure IssuedIn (context : RequestContext) (token : Token) (confirmation : Confirmation) :
    Prop where
  sessionId : confirmation.sessionId = context.sessionId
  role : confirmation.role = context.role
  policyVersion : confirmation.policyVersion = context.policyVersion
  token : confirmation.token = token
  physicalRequired : confirmation.physicalRequired = true
  expiresAtMs : confirmation.expiresAtMs = context.nowMs + updateConfirmationTtlMs.toUInt64

theorem issuedIn_of_issue {context : RequestContext} {digests : BoundDigests} {token : Token}
    {confirmation : Confirmation}
    (issued : Confirmation.issue context.sessionId context.role digests context.policyVersion
      context.nowMs updateConfirmationTtlMs true token = some confirmation) :
    IssuedIn context token confirmation := by
  obtain rfl := Confirmation.issue_some issued
  exact ⟨rfl, rfl, rfl, rfl, rfl, rfl⟩

theorem stage_confirmation : (engine.stage request).2.confirmation = engine.confirmation := by
  obtain ⟨update, same, -⟩ := @stage_cases engine request (fun _ => True) trivial
    (fun _ _ _ _ => trivial) (fun _ _ _ => trivial)
  rw [same]

/-- Of an import only the update it brings is without a confirmation. -/
theorem import_keeps : Keeps engine (engine.importUpdate request answers).2 := by
  obtain ⟨activation, verified⟩ :=
    verify_archive_engine engine answers request.manifestPath request.candidateDigest
  unfold importUpdate
  split
  · exact .of_same rfl rfl
  generalize engine.verifyArchive request.manifestPath request.candidateDigest answers = result
    at verified
  obtain ⟨archive, afterwards⟩ := result
  cases verified
  cases archive with
  | none => exact .of_same rfl rfl
  | some archive =>
    dsimp only
    cases updateContentType archive.contentType with
    | none => exact .of_same rfl rfl
    | some contentType =>
      dsimp only
      split
      · exact .of_same rfl rfl
      · split
        · exact fun live => Bool.noConfusion live
        · exact .of_same rfl rfl

/-- An approval uses the confirmation up, lets it expire or leaves it. -/
theorem approve_keeps (confirmation : Confirmation) (sessionId : UInt64) (role : Role)
    (digests : BoundDigests) (token : List UInt8) (policyVersion : UInt32) (nowMs : UInt64)
    (physicalConfirmed : Bool)
    (live : (confirmation.approve sessionId role digests token policyVersion nowMs
      physicalConfirmed).2.active = true) :
    (confirmation.approve sessionId role digests token policyVersion nowMs
      physicalConfirmed).2 = confirmation := by
  unfold Confirmation.approve at live ⊢
  split at live
  · rename_i dead
    rw [if_pos dead]
  rename_i unused
  rw [if_neg unused]
  split at live
  · cases live
  rename_i unexpired
  rw [if_neg unexpired]
  split at live
  · rename_i apart
    rw [if_pos apart]
  rename_i agreed
  rw [if_neg agreed]
  split at live
  · rename_i unconfirmed
    rw [if_pos unconfirmed]
  · cases live

theorem authorize_keeps (live : (engine.authorize request context).2.active = true) :
    (engine.authorize request context).2 = engine.confirmation := by
  unfold authorize at live ⊢
  split at live
  · rename_i unneeded
    rw [if_pos unneeded]
  rename_i needed
  rw [if_neg needed]
  split at live
  · rename_i mismatched
    rw [if_pos mismatched]
  rename_i matched
  rw [if_neg matched]
  cases context with
  | none => rfl
  | some context => exact approve_keeps _ _ _ _ _ _ _ _ live

theorem activate_keeps : Keeps engine (engine.activate request context answers).2 := by
  have identity := (engine.activate_carries request context answers).moves.1
  refine fun live => ⟨?_, identity⟩
  rw [← activateCalls_installed] at live ⊢
  have authorizes := @authorize_keeps engine request context
  unfold activateCalls at live ⊢
  generalize engine.authorize request context = result at authorizes live ⊢
  obtain ⟨authorized, confirmation⟩ := result
  cases authorized with
  | false => exact authorizes live
  | true =>
    simp only [Bool.not_true, Bool.false_eq_true, if_false] at live ⊢
    generalize engine.update.confirm true = result at live ⊢
    obtain ⟨confirmed, update⟩ := result
    cases confirmed with
    | false => exact authorizes live
    | true =>
      simp only [UpdateCallbacks.installed] at live ⊢
      generalize prepareUpdate _ _ answers = prepared at live ⊢
      cases prepared with
      | false => exact authorizes live
      | true =>
        simp only [Bool.not_true, Bool.false_eq_true, if_false] at live ⊢
        generalize update.transition .activating = result at live ⊢
        obtain ⟨activating, update⟩ := result
        cases activating with
        | false => exact authorizes live
        | true => cases live

theorem verify_keeps : Keeps engine (engine.verify sha256 request context answers).2 ∨
    ((engine.verify sha256 request context answers).1 = true ∧
      (engine.verify sha256 request context answers).2.update.identity = engine.update.identity ∧
      ∃ issuing, context = some issuing ∧ IssuedIn issuing answers.token
        (engine.verify sha256 request context answers).2.confirmation) := by
  have identity := (engine.verify_carries request context answers sha256).moves.1
  obtain ⟨activation, verified⟩ :=
    verify_archive_engine engine answers engine.manifestPath request.candidateDigest
  revert identity
  unfold verify
  split
  · exact fun identity => .inl (.of_same rfl identity)
  generalize engine.verifyArchive engine.manifestPath request.candidateDigest answers = result
    at verified
  obtain ⟨archive, afterwards⟩ := result
  cases verified
  cases archive with
  | none => exact fun identity => .inl (.of_same rfl identity)
  | some archive =>
    dsimp only
    split
    · exact fun identity => .inl (.of_same rfl identity)
    generalize engine.update.verifyPayload request.candidateDigest = result
    obtain ⟨isVerified, update⟩ := result
    cases isVerified with
    | false => exact fun identity => .inl (.of_same rfl identity)
    | true =>
      dsimp only
      generalize update.transition .awaitingConfirmation = result
      obtain ⟨awaiting, update⟩ := result
      cases awaiting with
      | false => exact fun identity => .inl (.of_same rfl identity)
      | true =>
        dsimp only
        split
        · exact fun identity => .inl (.of_same rfl identity)
        cases context with
        | none => exact fun identity => .inl (.of_same rfl identity)
        | some context =>
          dsimp only [Option.bind_some]
          split
          · rename_i confirmation isIssued
            intro identity
            refine .inr ⟨rfl, identity, context, rfl, ?_⟩
            split at isIssued
            · cases isIssued
            · exact issuedIn_of_issue isIssued
          · exact fun identity => .inl (.of_same rfl identity)

theorem operate_keeps (sha256 : List UInt8 → Digest) (engine : UpdateEngine)
    (operation : UpdateOperation) (request : UpdateRequest) (context : Option RequestContext)
    (answers : UpdateAnswers) :
    Keeps engine (engine.operate sha256 operation request context answers).2.2 ∨
      (operation = .verify ∧
        (engine.operate sha256 operation request context answers).1 = true ∧
        (engine.operate sha256 operation request context answers).2.2.update.identity =
          engine.update.identity ∧
        ∃ issuing, context = some issuing ∧ IssuedIn issuing answers.token
          (engine.operate sha256 operation request context answers).2.2.confirmation) := by
  cases operation with
  | inspect | importUpdate | health => exact .inl (.of_same rfl rfl)
  | stage => exact .inl (.of_same stage_confirmation (engine.stage_carries request).moves.1)
  | verify =>
    obtain keeps | issued := @verify_keeps engine request context answers sha256
    · exact .inl keeps
    · exact .inr ⟨rfl, issued⟩
  | activate => exact .inl activate_keeps
  | cancel => exact .inl (.of_same rfl engine.update.cancel_moves.1)
  | rollback =>
    obtain refused | ⟨-, -, -, kept, -, -, reverted⟩ := engine.rollback_cases answers
    · simp only [operate, refused]
      exact .inl (.of_same rfl rfl)
    · exact .inl (.of_same kept ((congrArg ContentUpdate.identity reverted).trans rfl))
  | quarantine =>
    refine .inl (.of_same rfl ?_)
    obtain refused | quarantined := engine.update.quarantine_cases
    · simp only [operate, refused]
    · simp only [operate, quarantined]
      rfl

theorem process_keeps (sha256 : List UInt8 → Digest) (engine : UpdateEngine)
    (request : UpdateRequest) (context : Option RequestContext) (answers : UpdateAnswers) :
    Keeps engine (engine.process sha256 request context answers).2 ∨
      (UpdateOperation.ofWire request.operation = some .verify ∧
        (engine.process sha256 request context answers).1.isSome = true ∧
        (engine.process sha256 request context answers).2.update.identity =
          engine.update.identity ∧
        ∃ issuing, context = some issuing ∧ IssuedIn issuing answers.token
          (engine.process sha256 request context answers).2.confirmation) := by
  unfold process
  generalize UpdateOperation.ofWire request.operation = operation
  split
  · have keeps := @import_keeps engine request answers
    generalize engine.importUpdate request answers = result at keeps
    obtain ⟨imported, after⟩ := result
    cases imported <;> exact .inl keeps
  · split
    · exact .inl (.of_same rfl rfl)
    · cases operation with
      | none => exact .inl (.of_same rfl rfl)
      | some operation =>
        have keeps := operate_keeps sha256 engine operation request context answers
        dsimp only
        generalize engine.operate sha256 operation request context answers = result at keeps
        obtain ⟨succeeded, name, after⟩ := result
        cases succeeded with
        | false => exact .inl (keeps.resolve_right fun issued => Bool.noConfusion issued.2.1)
        | true =>
          obtain keeps | ⟨isVerify, -, identity, issued⟩ := keeps
          · exact .inl keeps
          · exact .inr ⟨congrArg some isVerify, rfl, identity, issued⟩

end UpdateEngine

namespace ContentUpdate

/-- The update is not newly activating. -/
def Idles (before after : ContentUpdate) : Prop :=
  after.state = .activating → before.state = .activating

variable (update : ContentUpdate)

theorem Idles.refl : update.Idles update := id

theorem Idles.trans {first second third : ContentUpdate} (one : first.Idles second)
    (other : second.Idles third) : first.Idles third := fun activating => one (other activating)

theorem transition_idles {next : ContentUpdateState} (other : next ≠ .activating) :
    update.Idles (update.transition next).2 := by
  unfold transition
  split
  · exact fun activating => absurd activating other
  · exact .refl update

theorem receive_idles (bytes : UInt32) :
    update.Idles (update.receive bytes).2 := by
  unfold receive
  split <;> exact .refl _

theorem verify_payload_idles (digest : CString) :
    update.Idles (update.verifyPayload digest).2 := by
  unfold verifyPayload
  split
  · exact .refl update
  · split
    · exact update.transition_idles (by decide)
    · exact transition_idles { update with payloadVerified := true } (by decide)

theorem cancel_idles : update.Idles update.cancel.2 := by
  unfold cancel
  split
  any_goals exact .refl update
  split <;> exact fun activating => by cases activating

end ContentUpdate

namespace UpdateEngine

variable {engine after : UpdateEngine} {request : UpdateRequest}
  {context : Option RequestContext} {answers : UpdateAnswers} {sha256 : List UInt8 → Digest}

theorem stage_idles : engine.update.Idles (engine.stage request).2.update := by
  obtain ⟨update, same, idles⟩ := @stage_cases engine request engine.update.Idles (.refl _)
    (fun update state known before => before.trans (update.transition_idles
      (by rcases known with rfl | rfl <;> decide)))
    (fun update bytes before => before.trans (update.receive_idles bytes))
  rw [same]
  exact idles

theorem verify_idles :
    engine.update.Idles (engine.verify sha256 request context answers).2.update := by
  obtain ⟨activation, verified⟩ :=
    verify_archive_engine engine answers engine.manifestPath request.candidateDigest
  unfold verify
  split
  · exact .refl _
  generalize engine.verifyArchive engine.manifestPath request.candidateDigest answers = result
    at verified
  obtain ⟨archive, afterwards⟩ := result
  cases verified
  cases archive with
  | none => exact .refl _
  | some archive =>
    dsimp only
    split
    · exact .refl _
    have verifies := engine.update.verify_payload_idles request.candidateDigest
    generalize engine.update.verifyPayload request.candidateDigest = result at verifies
    obtain ⟨isVerified, update⟩ := result
    cases isVerified with
    | false => exact verifies
    | true =>
      have other : ContentUpdateState.awaitingConfirmation ≠ .activating := by decide
      have awaits := verifies.trans (update.transition_idles other)
      dsimp only
      generalize update.transition .awaitingConfirmation = result at awaits
      obtain ⟨awaiting, update⟩ := result
      cases awaiting with
      | false => exact awaits
      | true =>
        dsimp only
        split
        · exact awaits
        · split
          · exact awaits
          · exact fun activating => by cases activating

theorem import_idles : engine.update.Idles (engine.importUpdate request answers).2.update := by
  obtain ⟨-, -, activation, kept⟩ | ⟨-, imported, succeeded, -, -, -, isState, -⟩ :=
    engine.import_cases request answers
  · rw [kept]
    exact .refl _
  · rw [succeeded]
    intro activating
    rw [isState] at activating
    cases activating

theorem rollback_idles : engine.update.Idles (engine.rollback answers).2.update := by
  obtain refused | ⟨-, -, -, -, -, -, reverted⟩ := engine.rollback_cases answers
  · rw [refused]
    exact .refl _
  · rw [reverted]
    exact fun activating => by cases activating

/-- Only an activation makes an update activating. -/
theorem operate_idles (sha256 : List UInt8 → Digest) (engine : UpdateEngine)
    {operation : UpdateOperation} (other : operation ≠ .activate) (request : UpdateRequest)
    (context : Option RequestContext) (answers : UpdateAnswers) :
    engine.update.Idles
      (engine.operate sha256 operation request context answers).2.2.update := by
  cases operation with
  | inspect | importUpdate | health => exact .refl _
  | stage => exact stage_idles
  | verify => exact verify_idles
  | activate => exact absurd rfl other
  | cancel => exact engine.update.cancel_idles
  | rollback => exact rollback_idles
  | quarantine =>
    obtain refused | quarantined := engine.update.quarantine_cases
    · simp only [operate, refused]
      exact .refl _
    · simp only [operate, quarantined]
      exact fun activating => by cases activating

/-- An activation that is not authorized leaves the state. -/
theorem activate_idles (unauthorized : (engine.authorize request context).1 = false) :
    engine.update.Idles (engine.activate request context answers).2.update := by
  rw [← activateCalls_installed]
  unfold activateCalls
  generalize engine.authorize request context = result at unauthorized
  obtain ⟨authorized, confirmation⟩ := result
  cases unauthorized
  exact .refl _

theorem authorized_of_activating
    (before : engine.update.state ≠ .activating)
    (activating : (engine.process sha256 request context answers).2.update.state = .activating) :
    (engine.authorize request context).1 = true := by
  unfold process at activating
  generalize UpdateOperation.ofWire request.operation = operation at activating
  split at activating
  · have idles := @import_idles engine request answers
    generalize engine.importUpdate request answers = result at idles activating
    obtain ⟨imported, after⟩ := result
    cases imported <;> exact absurd (idles activating) before
  · split at activating
    · exact absurd activating before
    · cases operation with
      | none => exact absurd activating before
      | some operation =>
        have moved : (engine.operate sha256 operation request context answers).2.2.update.state =
            .activating := by
          dsimp only at activating
          generalize engine.operate sha256 operation request context answers = result
            at activating
          obtain ⟨succeeded, name, after⟩ := result
          cases succeeded <;> exact activating
        by_cases isActivate : operation = .activate
        · subst isActivate
          cases authorized : (engine.authorize request context).1 with
          | true => rfl
          | false => exact absurd (activate_idles authorized moved) before
        · exact absurd (operate_idles sha256 engine isActivate request context answers moved) before

/-- The update that becomes activating is the one that was carried. -/
theorem identity_of_activating
    (activating : (engine.process sha256 request context answers).2.update.state = .activating) :
    (engine.process sha256 request context answers).2.update.identity = engine.update.identity := by
  cases engine.process_effect request context answers sha256 with
  | carried carries => exact carries.moves.1
  | quarantined _ _ _ _ fixed _ => exact fixed
  | rolledBack _ _ _ _ _ _ reverted =>
    rw [reverted] at activating
    cases activating
  | imported _ _ _ _ _ isState _ _ =>
    rw [isState] at activating
    cases activating

/-- What an authorization of an update that asks for one means. -/
theorem approved_of_authorized (required : engine.update.confirmationRequired = true)
    (authorized : (engine.authorize request context).1 = true) :
    ∃ approving, context = some approving ∧ engine.confirmation.active = true ∧
      engine.confirmation.token.bytes = request.confirmationToken ∧
      engine.confirmation.sessionId = approving.sessionId ∧
      engine.confirmation.role = approving.role ∧
      engine.confirmation.policyVersion = approving.policyVersion ∧
      approving.nowMs < engine.confirmation.expiresAtMs ∧
      (engine.confirmation.physicalRequired = true → approving.physicalConfirmed = true) := by
  unfold authorize at authorized
  rw [required] at authorized
  simp only [Bool.not_true, Bool.false_eq_true, if_false] at authorized
  split at authorized
  · cases authorized
  cases context with
  | none => cases authorized
  | some approving =>
    obtain ⟨active, -, unexpired, session, role, policy, token, -, -, -, physical⟩ :=
      Confirmation.approve_ok (eq_of_beq authorized)
    exact ⟨approving, rfl, active, token, session, role, policy, unexpired, physical⟩

end UpdateEngine

namespace UpdateSystem

variable (system : UpdateSystem) (answers : BootAnswers)

theorem save_confirmation (saved : Bool) : (system.save saved).2.engine = system.engine := by
  obtain same | ⟨written, -⟩ := system.save_cases saved
  · rw [same]
  · rw [written]

/-- A restarted engine has no confirmation. -/
theorem restart_confirmation : (system.restart answers).engine.confirmation.active = false := by
  obtain ⟨loaded, loads, -⟩ := system.first_load answers.read
  unfold restart
  rw [loads]
  dsimp only
  split
  · unfold UpdateEngine.setLastKnownGood
    split
    · rename_i refused
      split at refused
      · cases refused
      · rfl
    · rename_i adopted
      split at adopted
      · cases adopted
        rw [save_confirmation]
        rfl
      · cases adopted
  · rfl

theorem settle_confirmation :
    (system.settle answers).2.engine.confirmation = system.engine.confirmation := by
  obtain ⟨engine, file⟩ := system
  obtain ⟨lastKnownGood, previousKnownGood, promotes⟩ :=
    promote_keeps engine engine.activationManifestPath answers.present
  have saves : ∀ result : Bool × UpdateEngine, result.2.confirmation = engine.confirmation →
      (if result.1 then ({ engine := result.2, file } : UpdateSystem).save answers.saved
        else (false, { engine, file })).2.engine.confirmation = engine.confirmation := by
    rintro ⟨reconciled, settled⟩ same
    cases reconciled with
    | false => rfl
    | true =>
      rw [if_pos rfl, save_confirmation]
      exact same
  have kept : (if engine.update.healthCompleted answers.marker then
      engine.promoteLastKnownGood engine.activationManifestPath answers.present
      else (false, engine)).2.confirmation = engine.confirmation := by
    split
    · rw [promotes]
    · rfl
  unfold settle
  dsimp only
  generalize (if engine.update.healthCompleted answers.marker then
    engine.promoteLastKnownGood engine.activationManifestPath answers.present
    else (false, engine)) = result at kept ⊢
  obtain ⟨healthy, promoted⟩ := result
  cases healthy with
  | true =>
    simp only [if_true]
    generalize promoted.update.reportHealth true = result
    obtain ⟨reported, update⟩ := result
    cases reported with
    | false => exact saves (false, _) kept
    | true => exact saves (true, _) kept
  | false =>
    simp only [Bool.false_eq_true, if_false]
    cases !promoted.lastKnownGoodManifestPath.isEmpty &&
        answers.prepared promoted.lastKnownGoodManifestPath with
    | true =>
      simp only [if_true]
      generalize promoted.update.reportHealth false = result
      obtain ⟨reverted, update⟩ := result
      cases reverted with
      | false => exact saves (false, _) kept
      | true => exact saves (true, _) kept
    | false => exact saves (true, _) kept

/-- Reconciliation keeps the confirmation and the update's identity. -/
theorem reconcile_keeps :
    UpdateEngine.Keeps system.engine (system.reconcileBoot answers).engine := by
  refine .of_same ?_ ?_
  · have settles := system.settle_confirmation answers
    unfold reconcileBoot
    split
    · rfl
    split
    · split
      · rfl
      · generalize system.settle answers = result at settles
        obtain ⟨settled, after⟩ := result
        cases settled with
        | false => rfl
        | true => exact settles
    · rfl
  · obtain same | ⟨-, engine, settles, -, settled⟩ := system.reconcile_cases answers
    · rw [same]
    · rw [settles]
      exact settled.fixed

end UpdateSystem

namespace UpdateStep

def processes (step : UpdateStep) (system : UpdateSystem) :
    Option (UpdateRequest × Option RequestContext × UpdateAnswers) :=
  match step with
  | .process request context answers => some (request, context, answers)
  | .handle request context answeredMs answers _ =>
    some (request, some (answeredContext system request context answeredMs), answers)
  | _ => none

section Runs

variable {sha256 : List UInt8 → Digest} {steps : List UpdateStep}

/-- An earlier step of the run verified the update with these fixed parts, in the
context, and the confirmation it issued has the token. -/
def VerifiedBefore (sha256 : List UInt8 → Digest) (steps : List UpdateStep) (index : Nat)
    (fixed : ContentUpdate.Identity) (issuing : RequestContext) (token : Token) : Prop :=
  ∃ earlier step request answers, earlier < index ∧ steps[earlier]? = some step ∧
    step.processes (systemAt sha256 steps earlier) = some (request, some issuing, answers) ∧
    UpdateOperation.ofWire request.operation = some .verify ∧
    ((systemAt sha256 steps earlier).engine.process sha256 request (some issuing)
      answers).1.isSome = true ∧
    (systemAt sha256 steps earlier).engine.update.identity = fixed ∧ answers.token = token

/-- A live confirmation was issued when the carried update was verified. -/
def Backed (sha256 : List UInt8 → Digest) (steps : List UpdateStep) (index : Nat)
    (engine : UpdateEngine) : Prop :=
  engine.confirmation.active = true → ∃ issuing,
    VerifiedBefore sha256 steps index engine.update.identity issuing engine.confirmation.token ∧
      UpdateEngine.IssuedIn issuing engine.confirmation.token engine.confirmation

variable {index : Nat}

theorem Backed.mono {engine : UpdateEngine} (backed : Backed sha256 steps index engine) :
    Backed sha256 steps (index + 1) engine := by
  intro active
  obtain ⟨issuing, ⟨earlier, step, request, answers, before, rest⟩, issued⟩ := backed active
  exact ⟨issuing, ⟨earlier, step, request, answers, by omega, rest⟩, issued⟩

theorem Backed.keeps {engine after : UpdateEngine} (backed : Backed sha256 steps index engine)
    (keeps : UpdateEngine.Keeps engine after) :
    Backed sha256 steps index after := by
  intro active
  obtain ⟨confirmation, identity⟩ := keeps active
  rw [confirmation] at active ⊢
  rw [identity]
  exact backed active

variable {step : UpdateStep}

/-- Processing a request keeps the confirmation backed, by itself where it issues one. -/
theorem Backed.processed {request : UpdateRequest} {context : Option RequestContext}
    {answers : UpdateAnswers}
    (backed : Backed sha256 steps index (systemAt sha256 steps index).engine)
    (taken : steps[index]? = some step)
    (processing : step.processes (systemAt sha256 steps index) = some (request, context, answers)) :
    Backed sha256 steps (index + 1)
      ((systemAt sha256 steps index).engine.process sha256 request context answers).2 := by
  obtain keeps | ⟨isVerify, succeeded, identity, issuing, rfl, issued⟩ :=
    UpdateEngine.process_keeps sha256 (systemAt sha256 steps index).engine request context answers
  · exact backed.mono.keeps keeps
  · intro _
    refine ⟨issuing, ⟨index, step, request, answers, index.lt_succ_self, taken, processing,
      isVerify, succeeded, identity.symm, issued.token.symm⟩, ?_⟩
    exact issued.token.symm ▸ issued

/-- Each step keeps the confirmation backed; a bare load is not among them. -/
theorem step_backed (taken : steps[index]? = some step) (fresh : ∀ read, step ≠ .load read)
    (backed : Backed sha256 steps index (systemAt sha256 steps index).engine) :
    Backed sha256 steps (index + 1) (step.apply sha256 (systemAt sha256 steps index)).engine := by
  cases step with
  | process request context answers => exact backed.processed taken rfl
  | handle request context answeredMs answers saved =>
    obtain ⟨same, -⟩ | ⟨isEngine, -, -⟩ :=
      handle_cases sha256 (systemAt sha256 steps index) request context answeredMs answers saved
    · rw [apply, same]
      exact backed.mono
    · rw [apply, isEngine]
      exact backed.processed taken rfl
  | save saved =>
    rw [apply, UpdateSystem.save_confirmation]
    exact backed.mono
  | load read => exact absurd rfl (fresh read)
  | configure hardwareTarget firmwareApi availableStorageBytes =>
    exact backed.mono.keeps (.of_same rfl rfl)
  | restart answers =>
    intro active
    rw [apply, UpdateSystem.restart_confirmation] at active
    cases active
  | reconcile answers => exact backed.mono.keeps (UpdateSystem.reconcile_keeps _ answers)

theorem run_backed (fresh : ∀ read, UpdateStep.load read ∉ steps) (index : Nat) :
    Backed sha256 steps index (systemAt sha256 steps index).engine := by
  refine Runs.along
    (motive := fun index (system : UpdateSystem) => Backed sha256 steps index system.engine)
    ?_ ?_ ?_ index
  · intro active
    cases active
  · intro index step taken backed
    refine step_backed taken ?_ backed
    rintro read rfl
    exact fresh read (List.mem_of_getElem? taken)
  · intro index _ backed
    exact backed.mono

/-- The update that becomes activating, where it asks for a confirmation, was verified
in the same session, role and policy version; the token was issued then, has not
expired and is physically confirmed. -/
def Approved (sha256 : List UInt8 → Digest) (steps : List UpdateStep) (index : Nat)
    (request : UpdateRequest) (context : Option RequestContext) (fixed : ContentUpdate.Identity) :
    Prop :=
  ∃ approving issuing token, context = some approving ∧
    VerifiedBefore sha256 steps index fixed issuing token ∧
    token.bytes = request.confirmationToken ∧ issuing.sessionId = approving.sessionId ∧
    issuing.role = approving.role ∧ issuing.policyVersion = approving.policyVersion ∧
    approving.nowMs.toNat < issuing.nowMs.toNat + updateConfirmationTtlMs.toNat ∧
    approving.physicalConfirmed = true

def ApprovedRun (sha256 : List UInt8 → Digest) (steps : List UpdateStep) : Prop :=
  ∀ index step request context answers, steps[index]? = some step →
    step.processes (systemAt sha256 steps index) = some (request, context, answers) →
    (systemAt sha256 steps index).engine.update.confirmationRequired = true →
    (systemAt sha256 steps index).engine.update.state ≠ .activating →
    (systemAt sha256 steps (index + 1)).engine.update.state = .activating →
    Approved sha256 steps index request context
      (systemAt sha256 steps (index + 1)).engine.update.identity

theorem approved_of_backed {engine : UpdateEngine} {request : UpdateRequest}
    {context : Option RequestContext} (backed : Backed sha256 steps index engine)
    (required : engine.update.confirmationRequired = true)
    (authorized : (engine.authorize request context).1 = true) :
    Approved sha256 steps index request context engine.update.identity := by
  obtain ⟨approving, isContext, active, token, session, role, policy, unexpired, physical⟩ :=
    UpdateEngine.approved_of_authorized required authorized
  obtain ⟨issuing, verified, issued⟩ := backed active
  rw [issued.expiresAtMs] at unexpired
  exact ⟨approving, issuing, engine.confirmation.token, isContext, verified, token,
    issued.sessionId.symm.trans session, issued.role.symm.trans role,
    issued.policyVersion.symm.trans policy, Confirmation.before_expiry unexpired,
    physical issued.physicalRequired⟩

theorem engine_of_processes {system : UpdateSystem} {request : UpdateRequest}
    {context : Option RequestContext} {answers : UpdateAnswers}
    (processing : step.processes system = some (request, context, answers)) :
    (step.apply sha256 system).engine = system.engine ∨
      (step.apply sha256 system).engine =
        (system.engine.process sha256 request context answers).2 := by
  cases step with
  | process stepRequest stepContext stepAnswers =>
    cases processing
    exact .inr rfl
  | handle stepRequest stepContext answeredMs stepAnswers saved =>
    cases processing
    obtain ⟨same, -⟩ | ⟨isEngine, -, -⟩ :=
      handle_cases sha256 system request stepContext answeredMs answers saved
    · exact .inl (congrArg UpdateSystem.engine same)
    · exact .inr isEngine
  | _ => cases processing

theorem run_approved (fresh : ∀ read, UpdateStep.load read ∉ steps) :
    ApprovedRun sha256 steps := by
  intro index step request context answers taken processing required before activating
  have backed : Backed sha256 steps index (systemAt sha256 steps index).engine :=
    run_backed fresh index
  have next : systemAt sha256 steps (index + 1) = step.apply sha256 (systemAt sha256 steps index) :=
    Runs.reached_succ taken
  rw [next] at activating ⊢
  obtain same | isProcessed := engine_of_processes processing
  · rw [same] at activating
    exact absurd activating before
  · rw [isProcessed] at activating ⊢
    have authorized := UpdateEngine.authorized_of_activating before activating
    have identity := UpdateEngine.identity_of_activating activating
    rw [identity]
    exact approved_of_backed backed required authorized

/-- Of every engine and request, for any callbacks, the effects match the state machine
unless an activation or a rollback strays; and along every run an activation that asks
for a confirmation is approved. -/
theorem side_effects_match (sha256 : List UInt8 → Digest) :
    (∀ (callbacks : UpdateCallbacks) (engine : UpdateEngine) (request : UpdateRequest)
      (context : Option RequestContext) (answers : UpdateAnswers),
      engine.EffectsMatch (engine.processCalls sha256 callbacks request context answers).1.2
          (engine.processCalls sha256 callbacks request context answers).2 ↔
        ¬ engine.ActivationStrays callbacks request context ∧
          ¬ engine.RollbackStrays callbacks request) ∧
    ∀ steps : List UpdateStep, (∀ read, .load read ∉ steps) → ApprovedRun sha256 steps :=
  ⟨UpdateEngine.effects_match_iff sha256, fun _ fresh => run_approved fresh⟩

end Runs

section Stray

def importedEngine : UpdateEngine := (systemAt firmwareDigest replacedFirmware 3).engine

/-- Everything outside the engine succeeds. -/
def preparedAnswers : UpdateAnswers where
  allocated := true
  archive := fun _ _ => none
  extracted := true
  present := fun _ => true
  prepared := fun _ => true
  armed := true
  token := .zero _

/-- A request to roll back the update that was just imported arms the rollback, and is
refused. -/
theorem rollback_armed_and_refused : ¬ ∀ sha256 callbacks (engine : UpdateEngine) request context
    answers, engine.EffectsMatch
      (engine.processCalls sha256 callbacks request context answers).1.2
      (engine.processCalls sha256 callbacks request context answers).2 := by
  intro always
  have matching := always firmwareDigest (.installed preparedAnswers) importedEngine
    (firmwareRequest 7 firstFirmware) none preparedAnswers
  have called : UpdateCall.rollback bootstrapLastKnownGoodPath true ∈
      (importedEngine.processCalls firmwareDigest (.installed preparedAnswers)
        (firmwareRequest 7 firstFirmware) none preparedAnswers).2 := by
    decide +kernel
  have unmoved : (importedEngine.processCalls firmwareDigest (.installed preparedAnswers)
      (firmwareRequest 7 firstFirmware) none preparedAnswers).1.2.update.state = .discovered := by
    decide +kernel
  obtain failed | ⟨-, rolledBack⟩ := matching.rollback _ _ called
  · cases failed
  · rw [unmoved] at rolledBack
    cases rolledBack

/-- The activation of the first release is approved, and takes place. -/
theorem firmware_activation_approved : ApprovedRun firmwareDigest replacedFirmware ∧
    (systemAt firmwareDigest replacedFirmware 6).engine.update.state = .activating := by
  refine ⟨(side_effects_match firmwareDigest).2 _ ?_, by decide +kernel⟩
  intro read isLoad
  simp [replacedFirmware, firmwareStep] at isLoad

end Stray

end UpdateStep

end PoisonedOS
