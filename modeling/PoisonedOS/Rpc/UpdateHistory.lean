import PoisonedOS.Library.Sha256
import PoisonedOS.Packages.Releases
import PoisonedOS.Rpc.ContentUpdates

/-!
# The content-update engine over whole runs

A run is any order of requests, saves, loads, restarts and boot reconciliations.
Three promises are about runs. The release floor never falls. The accepted
digest follows completed updates: it becomes the candidate of an activating update
whose completion marker is found, or goes back to the previous digest of an
update that completed. And an activating update is not lost: it ends healthy,
rolled back or quarantined.

Two things break them. An import takes the place of whatever update the engine
carries, also of one that is activating. And a load puts the file in the place
of the engine, so what was not saved, or cannot be read, is forgotten.
-/

namespace PoisonedOS

namespace ContentUpdate

/-- The update is between admission and activation. -/
def Underway (update : ContentUpdate) : Prop :=
  update.state = .discovered ∨ update.state = .receiving ∨ update.state = .staged ∨
    update.state = .verified ∨ update.state = .awaitingConfirmation

/-- What an operation short of a rollback does to the update: nothing to its
state, a move of an update underway that does not make it healthy, or the
quarantine of an activating one. -/
def Moves (before after : ContentUpdate) : Prop :=
  after.identity = before.identity ∧
    (after.state = before.state ∨ (before.Underway ∧ after.state ≠ .healthy))

variable (update : ContentUpdate)

theorem Moves.refl : update.Moves update := ⟨rfl, .inl rfl⟩

/-- Two moves in a row are one. -/
theorem Moves.trans {first second third : ContentUpdate} (one : first.Moves second)
    (other : second.Moves third) : first.Moves third := by
  refine ⟨other.1.trans one.1, ?_⟩
  rcases one.2 with same | ⟨underway, notHealthy⟩
  · rcases other.2 with same' | ⟨underway', notHealthy'⟩
    · exact .inl (same'.trans same)
    · refine .inr ⟨?_, notHealthy'⟩
      rw [Underway, same] at underway'
      exact underway'
  · rcases other.2 with same' | ⟨-, notHealthy'⟩
    · exact .inr ⟨underway, same' ▸ notHealthy⟩
    · exact .inr ⟨underway, notHealthy'⟩

/-- A transition other than a health report or a rollback leaves an update that is
underway, or none at all. -/
theorem transition_moves (next : ContentUpdateState) (notHealthy : next ≠ .healthy)
    (notBack : next ≠ .rolledBack) :
    update.Moves (update.transition next).2 := by
  unfold transition
  split
  · rename_i edge
    refine ⟨rfl, .inr ⟨?_, notHealthy⟩⟩
    cases isState : update.state <;> cases next <;> simp_all [allowed, Underway]
  · exact .refl update

/-- A successful transition arrives where it was asked to go. -/
theorem transition_state {update moved : ContentUpdate} {next : ContentUpdateState}
    (succeeded : update.transition next = (true, moved)) : moved.state = next := by
  unfold transition at succeeded
  split at succeeded
  · cases succeeded
    rfl
  · cases succeeded

theorem receive_moves (bytes : UInt32) :
    update.Moves (update.receive bytes).2 := by
  unfold receive
  split
  · exact .refl update
  · exact ⟨rfl, .inl rfl⟩

theorem verify_payload_moves (digest : CString) :
    update.Moves (update.verifyPayload digest).2 := by
  unfold verifyPayload
  split
  · exact .refl update
  · split
    · exact transition_moves update .quarantined (by decide) (by decide)
    · exact transition_moves { update with payloadVerified := true } .verified (by decide) (by decide)

theorem confirm_moves (exactConfirmation : Bool) :
    update.Moves (update.confirm exactConfirmation).2 := by
  unfold confirm
  split
  · exact .refl update
  · exact ⟨rfl, .inl rfl⟩

/-- A rollback that succeeds finds the update activating or healthy. -/
theorem rollback_live :
    update.rollback = (false, update) ∨
      ((update.state = .activating ∨ update.state = .healthy) ∧
        update.rollback = (true, { update with state := .rolledBack })) := by
  unfold rollback
  split
  · exact .inl rfl
  · split
    · exact .inl rfl
    · rename_i live
      simp only [Bool.and_eq_true, bne_iff_ne, ne_eq, not_and, not_not] at live
      exact .inr ⟨(em _).imp_right live, rfl⟩

/-- A quarantine is refused or arrives. -/
theorem quarantine_cases :
    update.quarantine = (false, update) ∨
      update.quarantine = (true, { update with state := .quarantined }) := by
  unfold quarantine
  split
  · exact .inl rfl
  · exact .inl rfl
  · exact .inl rfl
  · exact .inr rfl

theorem cancel_moves : update.Moves update.cancel.2 := by
  unfold cancel
  cases isState : update.state <;> dsimp only <;> (try split) <;>
    simp [Moves, Underway, identity, isState]

end ContentUpdate

/-- The engine carries an update that is activating. -/
def PersistedUpdate.InFlight (state : PersistedUpdate) : Prop :=
  state.active = true ∧ state.update.state = .activating

/-- The accepted digest and the floor are kept and the update at most moves. -/
structure PersistedUpdate.Carries (before after : PersistedUpdate) : Prop where
  active : after.active = before.active
  accepted : after.acceptedDigest = before.acceptedDigest
  highest : after.highestReleaseSequence = before.highestReleaseSequence
  moves : before.update.Moves after.update

namespace UpdateEngine

variable (engine : UpdateEngine) (request : UpdateRequest) (context : Option RequestContext)
  (answers : UpdateAnswers)

def importVerdict (archive : VerifiedArchive) (contentType : ContentUpdateType) :
    ContentUpdateAdmission :=
  let (manifest, environment) := engine.admission archive contentType
    (updateFufPathValid engine.lastKnownGoodManifestPath &&
      answers.present engine.lastKnownGoodManifestPath)
  (ContentUpdate.admitUpdate manifest environment).1

/-- The request and the environment pass every check of an import. -/
def importable : Bool :=
  answers.allocated &&
    (engine.verifyArchive request.manifestPath request.candidateDigest answers).1.any
      fun archive => (updateContentType archive.contentType).any fun contentType =>
        !(archive.archiveSha256 != request.candidateDigest ||
            (contentType == .firmware && archive.entrypoint != .literal "update.fuf") ||
            !updateManifestPathValid request.manifestPath || engine.hardwareTarget == 0 ||
            engine.firmwareApi == 0 || engine.availableStorageBytes == 0 ||
            engine.availableStorageBytes > 0xFFFFFFFF) &&
          engine.importVerdict answers archive contentType == .ok

/-- Archive verification sets the activation path alone. -/
theorem verify_archive_engine (path digest : CString) :
    ∃ activation, (engine.verifyArchive path digest answers).2 =
      { engine with activationManifestPath := activation } := by
  unfold verifyArchive
  split
  · exact ⟨_, rfl⟩
  · split
    · exact ⟨_, rfl⟩
    · split
      · dsimp only
        split <;> exact ⟨_, rfl⟩
      · exact ⟨_, rfl⟩

/-- An import passes its checks exactly when it is accepted. It then puts a new
update in the place of the one the engine carried. -/
theorem import_cases :
    (engine.importable request answers = false ∧
      (engine.importUpdate request answers).1 = false ∧
      ∃ activation, (engine.importUpdate request answers).2 =
        { engine with activationManifestPath := activation }) ∨
    (engine.importable request answers = true ∧
      ∃ imported, engine.importUpdate request answers = (true, imported) ∧
        imported.active = true ∧ imported.acceptedDigest = engine.acceptedDigest ∧
        imported.highestReleaseSequence = engine.highestReleaseSequence ∧
        imported.update.state = .discovered ∧
        imported.update.previousDigest = engine.acceptedDigest ∧
        engine.highestReleaseSequence < imported.update.sequence) := by
  obtain ⟨activation, verified⟩ :=
    verify_archive_engine engine answers request.manifestPath request.candidateDigest
  unfold importUpdate importable
  cases answers.allocated with
  | false => exact .inl ⟨rfl, rfl, _, rfl⟩
  | true =>
    generalize engine.verifyArchive request.manifestPath request.candidateDigest answers = result
      at verified ⊢
    obtain ⟨archive, afterwards⟩ := result
    cases verified
    cases archive with
    | none => exact .inl ⟨rfl, rfl, _, rfl⟩
    | some archive =>
      cases typed : updateContentType archive.contentType with
      | none => exact .inl ⟨by simp [typed], by simp [typed], _, by simp [typed]; rfl⟩
      | some contentType =>
        simp only [typed, Bool.not_true, Bool.false_eq_true, if_false, Option.any_some,
          Bool.true_and]
        split
        · rename_i refused
          exact .inl ⟨by rw [refused]; rfl, rfl, _, rfl⟩
        · rename_i passed
          rw [Bool.not_eq_true] at passed
          rw [passed, Bool.not_false, Bool.true_and]
          generalize isVerdict : ContentUpdate.admitUpdate _ _ = verdict
          have sameVerdict : engine.importVerdict answers archive contentType = verdict.1 := by
            rw [← isVerdict]
            rfl
          rw [sameVerdict]
          obtain ⟨verdict, stored⟩ := verdict
          cases verdict with
          | ok =>
            have newer := ContentUpdate.admit_newer isVerdict
            obtain ⟨update, rfl, -, shape⟩ := ContentUpdate.admit_ok isVerdict
            refine .inr ⟨rfl, _, rfl, rfl, rfl, rfl, ?_, ?_, ?_⟩
            · rw [shape]
            · rw [shape]
              rfl
            · rw [shape]
              exact newer
          | _ => exact .inl ⟨rfl, rfl, _, rfl⟩

/-- Archive verification carries the engine over. -/
theorem verify_archive_carries (path digest : CString) :
    engine.Carries (engine.verifyArchive path digest answers).2.toPersistedUpdate := by
  obtain ⟨activation, verified⟩ := verify_archive_engine engine answers path digest
  rw [verified]
  exact ⟨rfl, rfl, rfl, .refl _⟩

/-- Moving the update alone carries the engine over. -/
theorem carries_of_moves {engine : UpdateEngine} {update : ContentUpdate}
    (moves : engine.update.Moves update) :
    engine.Carries ({ engine with update } : UpdateEngine).toPersistedUpdate :=
  ⟨rfl, rfl, rfl, moves⟩

/-- Staging moves the update alone, by transitions and by what is received. -/
theorem stage_cases {motive : ContentUpdate → Prop} (start : motive engine.update)
    (moves : ∀ update state, state = .receiving ∨ state = .staged → motive update →
      motive (update.transition state).2)
    (receives : ∀ update bytes, motive update → motive (update.receive bytes).2) :
    ∃ update, (engine.stage request).2 = { engine with update } ∧ motive update := by
  have opens : motive (if engine.update.state == .discovered
      then engine.update.transition .receiving else (true, engine.update)).2 := by
    split
    · exact moves _ _ (.inl rfl) start
    · exact start
  unfold stage
  generalize (if engine.update.state == .discovered then engine.update.transition .receiving
    else (true, engine.update)) = result at opens
  obtain ⟨opened, update⟩ := result
  have received := receives update request.receivedBytes opens
  cases opened with
  | false => exact ⟨_, rfl, opens⟩
  | true =>
    simp only [Bool.not_true, Bool.false_eq_true, if_false]
    generalize update.receive request.receivedBytes = result at received
    obtain ⟨complete, update⟩ := result
    cases complete with
    | false => exact ⟨_, rfl, received⟩
    | true =>
      dsimp only
      split
      · exact ⟨_, rfl, moves _ _ (.inr rfl) received⟩
      · exact ⟨_, rfl, received⟩

theorem stage_carries : engine.Carries (engine.stage request).2.toPersistedUpdate := by
  obtain ⟨update, same, moved⟩ := @stage_cases engine request engine.update.Moves (.refl _)
    (fun update state known before => before.trans (update.transition_moves state
      (by rcases known with rfl | rfl <;> decide) (by rcases known with rfl | rfl <;> decide)))
    (fun update bytes before => before.trans (update.receive_moves bytes))
  rw [same]
  exact carries_of_moves moved

theorem verify_carries (sha256 : List UInt8 → Digest) :
    engine.Carries (engine.verify sha256 request context answers).2.toPersistedUpdate := by
  have archived := verify_archive_carries engine answers engine.manifestPath request.candidateDigest
  unfold verify
  split
  · exact ⟨rfl, rfl, rfl, .refl _⟩
  generalize engine.verifyArchive engine.manifestPath request.candidateDigest answers = result
    at archived
  obtain ⟨archive, afterwards⟩ := result
  cases archive with
  | none => exact archived
  | some archive =>
    dsimp only at archived ⊢
    split
    · exact archived
    have verifies := archived.moves.trans
      (afterwards.update.verify_payload_moves request.candidateDigest)
    generalize afterwards.update.verifyPayload request.candidateDigest = result at verifies
    obtain ⟨verified, update⟩ := result
    cases verified with
    | false => exact ⟨archived.active, archived.accepted, archived.highest, verifies⟩
    | true =>
      have awaits := verifies.trans
        (update.transition_moves .awaitingConfirmation (by decide) (by decide))
      generalize moved : update.transition .awaitingConfirmation = result at awaits
      obtain ⟨awaiting, update⟩ := result
      cases awaiting with
      | false =>
        simp only [moved]
        exact ⟨archived.active, archived.accepted, archived.highest, awaits⟩
      | true =>
        simp only [moved]
        split
        · exact ⟨archived.active, archived.accepted, archived.highest, awaits⟩
        · split
          · exact ⟨archived.active, archived.accepted, archived.highest, awaits⟩
          · refine ⟨archived.active, archived.accepted, archived.highest, awaits.trans ?_⟩
            have isState : update.state = .awaitingConfirmation := by
              have := ContentUpdate.transition_state moved
              exact this
            refine ⟨rfl, .inr ⟨.inr (.inr (.inr (.inr isState))), ?_⟩⟩
            exact ContentUpdateState.noConfusion

theorem activate_carries :
    engine.Carries (engine.activate request context answers).2.toPersistedUpdate := by
  unfold activate
  generalize (if !engine.update.confirmationRequired then (true, engine.confirmation)
    else _ : Bool × Confirmation) = result
  obtain ⟨authorized, confirmation⟩ := result
  cases authorized with
  | false => exact ⟨rfl, rfl, rfl, .refl _⟩
  | true =>
    have confirms := engine.update.confirm_moves true
    generalize isConfirmed : engine.update.confirm true = result at confirms
    obtain ⟨confirmed, update⟩ := result
    simp only [Bool.not_true, Bool.false_eq_true, if_false, isConfirmed]
    cases confirmed with
    | false => exact carries_of_moves confirms
    | true =>
      dsimp only
      generalize prepareUpdate _ _ answers = prepared
      cases prepared with
      | false => exact carries_of_moves confirms
      | true =>
        have activates := confirms.trans
          (update.transition_moves .activating (by decide) (by decide))
        generalize update.transition .activating = result at activates
        obtain ⟨activating, update⟩ := result
        cases activating <;> exact carries_of_moves activates

/-- A rollback request is refused and changes nothing, or it succeeds. -/
theorem rollback_cases :
    engine.rollback answers = (false, engine) ∨
    ((engine.rollback answers).1 = true ∧
      (engine.update.state = .activating ∨ engine.update.state = .healthy) ∧
      (engine.rollback answers).2.active = engine.active ∧
      (engine.rollback answers).2.confirmation = engine.confirmation ∧
      (engine.rollback answers).2.highestReleaseSequence = engine.highestReleaseSequence ∧
      (engine.rollback answers).2.acceptedDigest = engine.update.previousDigest ∧
      (engine.rollback answers).2.update = { engine.update with state := .rolledBack }) := by
  unfold rollback
  dsimp only
  generalize (if engine.update.state == .healthy then engine.previousKnownGoodManifestPath
    else engine.lastKnownGoodManifestPath) = path
  split
  · exact .inl rfl
  · rcases engine.update.rollback_live with refused | ⟨isLive, reverted⟩
    · rw [refused]
      exact .inl rfl
    · rw [reverted]
      refine .inr ⟨rfl, isLive, ?_⟩
      dsimp only
      split <;> exact ⟨rfl, rfl, rfl, rfl, rfl⟩

/-- What a request does to the engine, given its operation and whether it would
pass the checks of an import. -/
inductive Processed (engine : PersistedUpdate) (operation : Option UpdateOperation)
    (importable : Bool) (after : PersistedUpdate) : Prop
  | carried (carries : engine.Carries after)
  | quarantined (requested : operation = some .quarantine)
      (active : after.active = engine.active)
      (accepted : after.acceptedDigest = engine.acceptedDigest)
      (highest : after.highestReleaseSequence = engine.highestReleaseSequence)
      (fixed : after.update.identity = engine.update.identity)
      (isState : after.update.state = .quarantined)
  | rolledBack (requested : operation = some .rollback)
      (wasActive : engine.active = true)
      (live : engine.update.state = .activating ∨ engine.update.state = .healthy)
      (active : after.active = engine.active)
      (highest : after.highestReleaseSequence = engine.highestReleaseSequence)
      (accepted : after.acceptedDigest = engine.update.previousDigest)
      (reverted : after.update = { engine.update with state := .rolledBack })
  | imported (requested : operation = some .importUpdate)
      (passed : importable = true) (active : after.active = true)
      (accepted : after.acceptedDigest = engine.acceptedDigest)
      (highest : after.highestReleaseSequence = engine.highestReleaseSequence)
      (isState : after.update.state = .discovered)
      (previous : after.update.previousDigest = engine.acceptedDigest)
      (newer : engine.highestReleaseSequence < after.update.sequence)

/-- An operation on the update the engine carries is processed in one of these
ways. -/
theorem operate_effect (sha256 : List UInt8 → Digest) (operation : UpdateOperation)
    (active : engine.active = true) (importable : Bool) :
    Processed engine.toPersistedUpdate (some operation) importable
      (engine.operate sha256 operation request context answers).2.2.toPersistedUpdate := by
  have unchanged : engine.Carries engine.toPersistedUpdate := ⟨rfl, rfl, rfl, .refl _⟩
  cases operation with
  | inspect | importUpdate | health => exact .carried unchanged
  | stage => exact .carried (engine.stage_carries request)
  | verify => exact .carried (engine.verify_carries request context answers sha256)
  | activate => exact .carried (engine.activate_carries request context answers)
  | cancel => exact .carried (carries_of_moves engine.update.cancel_moves)
  | rollback =>
    rcases engine.rollback_cases answers with
      refused | ⟨-, live, same, -, highest, accepted, reverted⟩
    · simp only [operate, refused]
      exact .carried unchanged
    · exact .rolledBack rfl active live same highest accepted reverted
  | quarantine =>
    rcases engine.update.quarantine_cases with refused | quarantined
    · simp only [operate, refused]
      exact .carried unchanged
    · simp only [operate, quarantined]
      exact .quarantined rfl rfl rfl rfl rfl rfl

/-- A request is processed in one of these ways. -/
theorem process_effect (sha256 : List UInt8 → Digest) :
    Processed engine.toPersistedUpdate (UpdateOperation.ofWire request.operation)
      (engine.importable request answers)
      (engine.process sha256 request context answers).2.toPersistedUpdate := by
  have unchanged : engine.Carries engine.toPersistedUpdate := ⟨rfl, rfl, rfl, .refl _⟩
  unfold process
  generalize UpdateOperation.ofWire request.operation = operation
  split
  · rcases engine.import_cases request answers with
      ⟨-, failed, activation, kept⟩ |
        ⟨passed, imported, succeeded, active, accepted, highest, isState, previous, newer⟩
    · generalize engine.importUpdate request answers = result at failed kept
      obtain ⟨succeeded, after⟩ := result
      cases failed
      cases kept
      exact .carried ⟨rfl, rfl, rfl, .refl _⟩
    · rw [succeeded]
      exact .imported rfl passed active accepted highest isState previous newer
  · split
    · exact .carried unchanged
    · rename_i matched
      have active : engine.active = true := by
        simp only [idMatches, Bool.not_eq_true', Bool.and_eq_false_imp, not_forall] at matched
        exact matched.1
      cases operation with
      | none => exact .carried unchanged
      | some operation =>
        have effect := engine.operate_effect request context answers sha256 operation active
          (engine.importable request answers)
        dsimp only
        generalize engine.operate sha256 operation request context answers = result at effect ⊢
        obtain ⟨succeeded, name, after⟩ := result
        cases succeeded <;> exact effect

end UpdateEngine

namespace ContentUpdate

theorem report_healthy {update : ContentUpdate} (activating : update.state = .activating) :
    update.reportHealth true =
      (true, { update with
        state := .healthy
        healthReported := true }) := by
  simp [reportHealth, transition, allowed, activating]

/-- An unhealthy report that is accepted rolls the update back. -/
theorem report_unhealthy (update : ContentUpdate) :
    (update.reportHealth false).1 = false ∨
      update.reportHealth false =
        (true, { update with
          state := .rolledBack
          healthReported := true }) := by
  unfold reportHealth
  split
  · exact .inl rfl
  · rcases rollback_live { update with healthReported := true } with refused | ⟨-, reverted⟩
    · exact .inl (by simp [refused])
    · exact .inr (by simp [reverted])

end ContentUpdate

namespace UpdateSystem

/-- What boot reconciliation makes of an activating update it settles. -/
structure Settled (before : PersistedUpdate) (marker : Option HealthMarker)
    (after : PersistedUpdate) : Prop where
  active : after.active = before.active
  fixed : after.update.identity = before.update.identity
  outcome :
    (before.update.healthCompleted marker = true ∧ after.update.state = .healthy ∧
      after.acceptedDigest = before.update.candidateDigest ∧
      after.highestReleaseSequence = before.update.sequence) ∨
    ((after.update.state = .rolledBack ∨ after.update.state = .quarantined) ∧
      after.acceptedDigest = before.acceptedDigest ∧
      after.highestReleaseSequence = before.highestReleaseSequence)

variable (system : UpdateSystem) (answers : BootAnswers)

theorem promote_keeps (engine : UpdateEngine) (path : CString) (present : CString → Bool) :
    ∃ lastKnownGood previousKnownGood, (engine.promoteLastKnownGood path present).2 =
      { engine with
        lastKnownGoodManifestPath := lastKnownGood
        previousKnownGoodManifestPath := previousKnownGood } := by
  unfold UpdateEngine.promoteLastKnownGood UpdateEngine.setLastKnownGood
  split
  · rename_i refused
    split at refused
    · cases refused
    · cases refused
      exact ⟨_, _, rfl⟩
  · rename_i promoted
    split at promoted
    · cases promoted
      exact ⟨_, _, rfl⟩
    · cases promoted

/-- The file is kept, or written with what the engine has, which is then valid. -/
def Wrote (before after : UpdateSystem) : Prop :=
  after.file = before.file ∨
    (after.file = some after.engine.toPersistedUpdate ∧ after.engine.persistedValid = true)

/-- A save keeps the engine and writes it, or keeps everything. -/
theorem save_cases (saved : Bool) :
    system.save saved = (false, system) ∨
      (system.save saved =
          (true, { system with file := some system.engine.toPersistedUpdate }) ∧
        system.engine.persistedValid = true) := by
  unfold save
  split
  · rename_i written
    rw [Bool.and_eq_true] at written
    exact .inr ⟨rfl, written.1⟩
  · exact .inl rfl

/-- An activating update without a completion marker is rolled back where the last
known good firmware is prepared and quarantined otherwise. -/
theorem abandon_cases (engine : UpdateEngine) (lastKnownGood previousKnownGood : CString)
    (marker : Option HealthMarker) (prepared : Bool) :
    let promoted := { engine with
      lastKnownGoodManifestPath := lastKnownGood
      previousKnownGoodManifestPath := previousKnownGood }
    let abandoned :=
      if prepared then
        ((promoted.update.reportHealth false).1,
          { promoted with update := (promoted.update.reportHealth false).2 })
      else (true, { promoted with update := { promoted.update with state := .quarantined } })
    abandoned.1 = false ∨
      Settled engine.toPersistedUpdate marker abandoned.2.toPersistedUpdate := by
  cases prepared with
  | true =>
    rcases engine.update.report_unhealthy with refused | reverted
    · exact .inl refused
    · simp only [if_true, reverted]
      exact .inr ⟨rfl, rfl, .inr ⟨.inl rfl, rfl, rfl⟩⟩
  | false => exact .inr ⟨rfl, rfl, .inr ⟨.inr rfl, rfl, rfl⟩⟩

/-- Settling fails or saves a settled engine. -/
theorem settle_cases (activating : system.engine.update.state = .activating) :
    (system.settle answers).1 = false ∨
      ∃ engine : UpdateEngine, system.settle answers =
          (true, { engine, file := some engine.toPersistedUpdate }) ∧
        engine.persistedValid = true ∧
        Settled system.engine.toPersistedUpdate answers.marker engine.toPersistedUpdate := by
  obtain ⟨engine, file⟩ := system
  obtain ⟨lastKnownGood, previousKnownGood, promotes⟩ :=
    promote_keeps engine engine.activationManifestPath answers.present
  dsimp only at activating
  have saves : ∀ reconciled settled, (reconciled = false ∨
      Settled engine.toPersistedUpdate answers.marker (settled : UpdateEngine).toPersistedUpdate) →
      (if reconciled then ({ engine := settled, file } : UpdateSystem).save answers.saved
        else (false, { engine, file })).1 = false ∨
      ∃ after : UpdateEngine,
        (if reconciled then ({ engine := settled, file } : UpdateSystem).save answers.saved
          else (false, { engine, file })) =
          (true, { engine := after, file := some after.toPersistedUpdate }) ∧
        after.persistedValid = true ∧
        Settled engine.toPersistedUpdate answers.marker after.toPersistedUpdate := by
    intro reconciled settled outcome
    cases reconciled with
    | false => exact .inl rfl
    | true =>
      rcases save_cases { engine := settled, file } answers.saved with failed | ⟨written, valid⟩
      · exact .inl (by rw [if_pos rfl, failed])
      · refine .inr ⟨settled, by rw [if_pos rfl, written], valid, ?_⟩
        exact outcome.resolve_left Bool.noConfusion
  unfold settle
  dsimp only
  cases completed : engine.update.healthCompleted answers.marker with
  | true =>
    generalize engine.promoteLastKnownGood engine.activationManifestPath answers.present = result
      at promotes ⊢
    obtain ⟨healthy, promoted⟩ := result
    cases promotes
    cases healthy with
    | true =>
      simp only [if_true, ContentUpdate.report_healthy activating]
      exact saves true _ (.inr ⟨rfl, rfl, .inl ⟨completed, rfl, rfl, rfl⟩⟩)
    | false =>
      simp only [if_true, Bool.false_eq_true, if_false]
      exact saves _ _ (abandon_cases engine lastKnownGood previousKnownGood answers.marker _)
  | false =>
    simp only [Bool.false_eq_true, if_false]
    exact saves _ _ (abandon_cases engine engine.lastKnownGoodManifestPath
      engine.previousKnownGoodManifestPath answers.marker _)

/-- Boot reconciliation keeps the system or settles its activating update. -/
theorem reconcile_cases :
    system.reconcileBoot answers = system ∨
      (system.engine.InFlight ∧ ∃ engine : UpdateEngine,
        system.reconcileBoot answers = { engine, file := some engine.toPersistedUpdate } ∧
        engine.persistedValid = true ∧
        Settled system.engine.toPersistedUpdate answers.marker engine.toPersistedUpdate) := by
  unfold reconcileBoot
  split
  · exact .inl rfl
  · rename_i started
    have active : system.engine.active = true := by
      simp only [Bool.or_eq_true, not_or, Bool.not_eq_true', Bool.not_eq_false] at started
      exact started.1
    split
    · rename_i activating
      rw [beq_iff_eq] at activating
      split
      · exact .inl rfl
      · rcases system.settle_cases answers activating with
          failed | ⟨engine, settles, valid, settled⟩
        · refine .inl ?_
          generalize system.settle answers = result at failed
          obtain ⟨succeeded, after⟩ := result
          cases failed
          rfl
        · exact .inr ⟨⟨active, activating⟩, engine, by rw [settles], valid, settled⟩
    · exact .inl rfl

/-- The persisted state a restart goes on with: the file where it can be read, and
an engine without an update where not. -/
def resumed (read : Bool) : PersistedUpdate :=
  match system.file with
  | none => UpdateEngine.init.toPersistedUpdate
  | some file =>
    if read && file.persistedValid then file else UpdateEngine.init.toPersistedUpdate

theorem resumed_cases (read : Bool) :
    system.resumed read = UpdateEngine.init.toPersistedUpdate ∨
      ∃ file, system.file = some file ∧ (read && file.persistedValid) = true ∧
        system.resumed read = file := by
  unfold resumed
  cases stored : system.file with
  | none => exact .inl rfl
  | some file =>
    dsimp only
    split
    · rename_i readable
      exact .inr ⟨file, rfl, readable, rfl⟩
    · exact .inl rfl

/-- The part of a boot before reconciliation. -/
def restart : UpdateSystem :=
  let (_, started) := { system with engine := .init }.load answers.read
  if started.engine.lastKnownGoodManifestPath.isEmpty then
    match started.engine.setLastKnownGood bootstrapLastKnownGoodPath answers.present with
    | (false, _) => started
    | (true, engine) => ({ started with engine }.save answers.bootstrapSaved).2
  else started

end UpdateSystem

/-- Two persisted states carry the same update and grant the same. -/
structure PersistedUpdate.SameCore (before after : PersistedUpdate) : Prop where
  active : after.active = before.active
  update : after.update = before.update
  accepted : after.acceptedDigest = before.acceptedDigest
  highest : after.highestReleaseSequence = before.highestReleaseSequence

namespace UpdateSystem

variable (system : UpdateSystem) (answers : BootAnswers)

theorem set_last_known_good_core (engine : UpdateEngine) (path : CString)
    (present : CString → Bool) :
    engine.SameCore (engine.setLastKnownGood path present).2.toPersistedUpdate := by
  unfold UpdateEngine.setLastKnownGood
  split <;> exact ⟨rfl, rfl, rfl, rfl⟩

/-- A load that fails keeps the system. One that succeeds brings the file back. -/
theorem load_cases (read : Bool) :
    ((system.load read).2 = system ∧
        ∀ file, system.file = some file → (read && file.persistedValid) = false) ∨
      ∃ file, system.file = some file ∧ (read && file.persistedValid) = true ∧
        system.load read =
          (true, { system with engine := { system.engine with toPersistedUpdate := file } }) := by
  unfold load
  cases stored : system.file with
  | none => exact .inl ⟨rfl, fun file isFile => by cases isFile⟩
  | some file =>
    dsimp only
    cases readable : read && file.persistedValid with
    | true => exact .inr ⟨file, rfl, readable, rfl⟩
    | false =>
      refine .inl ⟨rfl, fun other isFile => ?_⟩
      cases isFile
      exact readable

/-- Adopting the bootstrap firmware keeps the core of the engine, and the file unless
it is saved. -/
theorem bootstrap_cases (started : UpdateSystem) :
    let bootstrapped :=
      if started.engine.lastKnownGoodManifestPath.isEmpty then
        match started.engine.setLastKnownGood bootstrapLastKnownGoodPath answers.present with
        | (false, _) => started
        | (true, engine) => ({ started with engine }.save answers.bootstrapSaved).2
      else started
    started.engine.SameCore bootstrapped.engine.toPersistedUpdate ∧
      started.Wrote bootstrapped := by
  have adopts := set_last_known_good_core started.engine bootstrapLastKnownGoodPath answers.present
  split
  · generalize started.engine.setLastKnownGood bootstrapLastKnownGoodPath answers.present = result
      at adopts
    obtain ⟨adopted, engine⟩ := result
    cases adopted with
    | false => exact ⟨⟨rfl, rfl, rfl, rfl⟩, .inl rfl⟩
    | true =>
      dsimp only
      rcases save_cases { started with engine } answers.bootstrapSaved with
        failed | ⟨written, valid⟩
      · rw [failed]
        exact ⟨adopts, .inl rfl⟩
      · rw [written]
        exact ⟨adopts, .inr ⟨rfl, valid⟩⟩
  · exact ⟨⟨rfl, rfl, rfl, rfl⟩, .inl rfl⟩

/-- The first load after power-up finds the resumed state, which carries no update
where it fails. -/
theorem first_load (read : Bool) :
    ∃ loaded, ({ system with engine := .init } : UpdateSystem).load read =
        (loaded, { system with engine := { UpdateEngine.init with
          toPersistedUpdate := system.resumed read } }) ∧
      (loaded = false → (system.resumed read).active = false) := by
  unfold load resumed
  cases system.file with
  | none => exact ⟨false, rfl, fun _ => rfl⟩
  | some file =>
    dsimp only
    split
    · exact ⟨true, rfl, Bool.noConfusion⟩
    · exact ⟨false, rfl, fun _ => rfl⟩

/-- A restart goes on with the resumed state. It keeps the file or saves to it what
it goes on with. -/
theorem restart_cases :
    (system.resumed answers.read).SameCore (system.restart answers).engine.toPersistedUpdate ∧
      system.Wrote (system.restart answers) := by
  obtain ⟨loaded, loads, -⟩ := system.first_load answers.read
  unfold restart
  rw [loads]
  exact bootstrap_cases answers { system with engine := { UpdateEngine.init with
    toPersistedUpdate := system.resumed answers.read } }

end UpdateSystem

/-- One step of a run. -/
inductive UpdateStep where
  | process (request : UpdateRequest) (context : Option RequestContext) (answers : UpdateAnswers)
  | handle (request : UpdateRequest) (context : RequestContext) (answeredMs : UInt64)
    (answers : UpdateAnswers) (saved : Bool)
  | save (saved : Bool)
  | load (read : Bool)
  | configure (hardwareTarget firmwareApi : UInt32) (availableStorageBytes : UInt64)
  | restart (answers : BootAnswers)
  | reconcile (answers : BootAnswers)

namespace UpdateStep

/-- The operation a step requests. -/
def requests : UpdateStep → Option UpdateOperation
  | .process request _ _ => UpdateOperation.ofWire request.operation
  | .handle request _ _ _ _ => UpdateOperation.ofWire request.operation
  | _ => none

section Runs

variable (sha256 : List UInt8 → Digest)

/-- The system after a step. -/
def apply (step : UpdateStep) (system : UpdateSystem) : UpdateSystem :=
  match step with
  | .process request context answers =>
    { system with engine := (system.engine.process sha256 request context answers).2 }
  | .handle request context answeredMs answers saved =>
    (system.handle sha256 request context answeredMs answers saved).2
  | .save saved => (system.save saved).2
  | .load read => (system.load read).2
  | .configure hardwareTarget firmwareApi availableStorageBytes =>
    { system with
      engine := system.engine.setEnvironment hardwareTarget firmwareApi availableStorageBytes }
  | .restart answers => system.restart answers
  | .reconcile answers => system.reconcileBoot answers

/-- The system after the first steps of a run on a new device. -/
def systemAt (steps : List UpdateStep) (index : Nat) : UpdateSystem :=
  Runs.reached (apply sha256) .init steps index

variable (steps : List UpdateStep)

/-- An update with these fixed parts was found complete earlier in the run: while it
was activating, reconciliation read its completion marker. -/
def CompletedBefore (index : Nat) (fixed : ContentUpdate.Identity) : Prop :=
  ∃ earlier answers, earlier < index ∧ steps[earlier]? = some (.reconcile answers) ∧
    (systemAt sha256 steps earlier).engine.InFlight ∧
    (systemAt sha256 steps earlier).engine.update.identity = fixed ∧
    (systemAt sha256 steps earlier).engine.update.healthCompleted answers.marker = true

/-- The three promises, of one step. -/
structure Lawful (index : Nat) (step : UpdateStep) (before after : PersistedUpdate) : Prop where
  floor : before.highestReleaseSequence ≤ after.highestReleaseSequence
  accepted : after.acceptedDigest = before.acceptedDigest ∨
    (∃ answers, step = .reconcile answers ∧ before.InFlight ∧
      before.update.healthCompleted answers.marker = true ∧
      after.acceptedDigest = before.update.candidateDigest) ∨
    (step.requests = some .rollback ∧ before.active = true ∧ before.update.state = .healthy ∧
      after.update.state = .rolledBack ∧ CompletedBefore sha256 steps index before.update.identity ∧
      after.acceptedDigest = before.update.previousDigest)
  activating : before.InFlight → after.active = true ∧
    after.update.identity = before.update.identity ∧
    (after.update.state = .activating ∨
      (∃ answers, step = .reconcile answers ∧
        ((after.update.state = .healthy ∧
            before.update.healthCompleted answers.marker = true) ∨
          after.update.state = .rolledBack ∨ after.update.state = .quarantined)) ∨
      (step.requests = some .rollback ∧ after.update.state = .rolledBack) ∨
      (step.requests = some .quarantine ∧ after.update.state = .quarantined))

end Runs

/-- What a restart or a load goes on with keeps what the engine had: its floor, its
accepted digest and its activating update. -/
structure Resumes (before resumed : PersistedUpdate) : Prop where
  floor : before.highestReleaseSequence ≤ resumed.highestReleaseSequence
  accepted : resumed.acceptedDigest = before.acceptedDigest
  activating : before.InFlight →
    resumed.InFlight ∧ resumed.update.identity = before.update.identity

/-- The step does not import onto an activating update, and does not go on with a
file that misses what the engine had. -/
def Safe (system : UpdateSystem) : UpdateStep → Prop
  | .process request _ answers => system.engine.InFlight →
    UpdateOperation.ofWire request.operation = some .importUpdate →
    system.engine.importable request answers = false
  | .handle request _ _ answers saved => system.engine.InFlight →
    UpdateOperation.ofWire request.operation = some .importUpdate →
    system.engine.importable request answers = true →
    ((system.engine.importUpdate request answers).2.persistedValid && saved) = false
  | .load read => ∀ file, system.file = some file → (read && file.persistedValid) = true →
    Resumes system.engine.toPersistedUpdate file
  | .restart answers => Resumes system.engine.toPersistedUpdate (system.resumed answers.read)
  | _ => True

/-- The invariant: an update in progress was admitted against the current accepted
digest and floor, and a healthy one was found complete. -/
structure Accounted (completed : ContentUpdate.Identity → Prop) (state : PersistedUpdate) :
    Prop where
  pending : state.active = true → state.update.Underway ∨ state.update.state = .activating →
    state.acceptedDigest = state.update.previousDigest ∧
      state.highestReleaseSequence < state.update.sequence
  healthy : state.active = true → state.update.state = .healthy → completed state.update.identity

namespace Accounted

variable {completed : ContentUpdate.Identity → Prop} {before after : PersistedUpdate}

theorem mono {more : ContentUpdate.Identity → Prop} (accounted : Accounted completed before)
    (still : ∀ fixed, completed fixed → more fixed) : Accounted more before :=
  ⟨accounted.pending, fun active healthy => still _ (accounted.healthy active healthy)⟩

theorem carries (accounted : Accounted completed before) (carries : before.Carries after) :
    Accounted completed after := by
  obtain ⟨sameActive, sameAccepted, sameHighest, fixed, moved⟩ := carries
  have samePrevious : after.update.previousDigest = before.update.previousDigest :=
    congrArg ContentUpdate.Identity.previousDigest fixed
  have sameSequence : after.update.sequence = before.update.sequence :=
    congrArg ContentUpdate.Identity.sequence fixed
  constructor
  · intro active inProgress
    rw [sameActive] at active
    rw [sameAccepted, samePrevious, sameHighest, sameSequence]
    rcases moved with sameState | ⟨underway, -⟩
    · rw [ContentUpdate.Underway, sameState] at inProgress
      exact accounted.pending active inProgress
    · exact accounted.pending active (.inl underway)
  · intro active healthy
    rw [sameActive] at active
    rcases moved with sameState | ⟨-, notHealthy⟩
    · rw [fixed]
      exact accounted.healthy active (sameState ▸ healthy)
    · exact absurd healthy notHealthy

theorem sameCore (accounted : Accounted completed before) (same : before.SameCore after) :
    Accounted completed after :=
  accounted.carries ⟨same.active, same.accepted, same.highest, same.update ▸ .refl _⟩

theorem of_ended
    (ended : after.update.state = .rolledBack ∨ after.update.state = .quarantined) :
    Accounted completed after := by
  constructor
  · intro _ inProgress
    rcases ended with isState | isState <;> simp [ContentUpdate.Underway, isState] at inProgress
  · intro _ healthy
    rcases ended with isState | isState <;> simp [isState] at healthy

theorem processed {operation : Option UpdateOperation} {importable : Bool}
    (accounted : Accounted completed before)
    (effect : UpdateEngine.Processed before operation importable after) :
    Accounted completed after := by
  cases effect with
  | carried carries => exact accounted.carries carries
  | quarantined _ _ _ _ _ isState => exact of_ended (.inr isState)
  | rolledBack _ _ _ _ _ _ reverted => exact of_ended (.inl (by rw [reverted]))
  | imported _ _ _ accepted highest isState previous newer =>
    constructor
    · intro _ _
      rw [accepted, previous, highest]
      exact ⟨rfl, newer⟩
    · intro _ healthy
      rw [isState] at healthy
      cases healthy

theorem settled {marker : Option HealthMarker}
    (settled : UpdateSystem.Settled before marker after)
    (completes : before.update.healthCompleted marker = true → completed before.update.identity) :
    Accounted completed after := by
  rcases settled.outcome with ⟨found, isHealthy, -, -⟩ | ⟨ended, -, -⟩
  · constructor
    · intro _ inProgress
      simp [ContentUpdate.Underway, isHealthy] at inProgress
    · intro _ _
      rw [settled.fixed]
      exact completes found
  · exact of_ended ended

end Accounted

section Runs

variable {sha256 : List UInt8 → Digest} {steps : List UpdateStep}

/-- The context a handled request is processed in. -/
def answeredContext (system : UpdateSystem) (request : UpdateRequest) (context : RequestContext)
    (answeredMs : UInt64) : RequestContext :=
  { context with
    nowMs := answeredMs
    physicalConfirmed :=
      system.engine.confirmationMatches request (some context) && context.physicalConfirmed }

variable (sha256) in
/-- A handled request keeps the system, or leaves the processed engine; an import
among them is saved. -/
theorem handle_cases (system : UpdateSystem) (request : UpdateRequest) (context : RequestContext)
    (answeredMs : UInt64) (answers : UpdateAnswers) (saved : Bool) :
    let processed := system.engine.process sha256 request
      (some (answeredContext system request context answeredMs)) answers
    let after := (system.handle sha256 request context answeredMs answers saved).2
    (after = system ∧ (UpdateOperation.ofWire request.operation = some .importUpdate →
        processed.1.isSome = true → (processed.2.persistedValid && saved) = false)) ∨
      (after.engine = processed.2 ∧ system.Wrote after ∧
        (UpdateOperation.ofWire request.operation = some .importUpdate →
          (processed.2.persistedValid && saved) = true)) := by
  unfold UpdateSystem.handle answeredContext
  dsimp only
  generalize system.engine.process sha256 request _ answers = result
  obtain ⟨status, engine⟩ := result
  cases status with
  | none => exact .inl ⟨rfl, fun _ => Bool.noConfusion⟩
  | some status =>
    dsimp only
    split
    · rename_i reading
      refine .inr ⟨rfl, .inl rfl, fun isImport => ?_⟩
      rw [isImport] at reading
      cases reading
    · unfold UpdateSystem.save
      dsimp only
      cases isSaved : engine.persistedValid && saved with
      | true =>
        rw [Bool.and_eq_true] at isSaved
        exact .inr ⟨rfl, .inr ⟨rfl, isSaved.1⟩, fun _ => rfl⟩
      | false => exact .inl ⟨rfl, fun _ _ => rfl⟩

variable (sha256 steps) in
/-- The invariant along a run, of the engine and of the file. -/
def RunAccounted (index : Nat) (system : UpdateSystem) : Prop :=
  Accounted (CompletedBefore sha256 steps index) system.engine.toPersistedUpdate ∧
    ∀ file, system.file = some file → Accounted (CompletedBefore sha256 steps index) file

/-- What was complete stays so. -/
theorem completed_succ (index : Nat) (fixed : ContentUpdate.Identity)
    (completed : CompletedBefore sha256 steps index fixed) :
    CompletedBefore sha256 steps (index + 1) fixed := by
  obtain ⟨earlier, answers, before, rest⟩ := completed
  exact ⟨earlier, answers, by omega, rest⟩

/-- The initial state carries no update. -/
theorem init_accounted (completed : ContentUpdate.Identity → Prop) :
    Accounted completed UpdateEngine.init.toPersistedUpdate :=
  ⟨fun active => Bool.noConfusion active, fun active => Bool.noConfusion active⟩

/-- What is written is what the engine has. -/
theorem accounted_of_file {index : Nat} {before after : UpdateSystem}
    (file : ∀ file, before.file = some file → Accounted (CompletedBefore sha256 steps index) file)
    (engine : Accounted (CompletedBefore sha256 steps index) after.engine.toPersistedUpdate)
    (wrote : before.Wrote after) : RunAccounted sha256 steps index after := by
  refine ⟨engine, fun stored isStored => ?_⟩
  rcases wrote with same | ⟨saved, -⟩
  · exact file stored (same ▸ isStored)
  · rw [saved, Option.some.injEq] at isStored
    exact isStored ▸ engine

/-- Each step keeps the invariant. -/
theorem step_accounted {index : Nat} {step : UpdateStep} (taken : steps[index]? = some step)
    (accounted : RunAccounted sha256 steps index
      (systemAt sha256 steps index)) :
    RunAccounted sha256 steps (index + 1)
      (step.apply sha256 (systemAt sha256 steps index)) := by
  have engine := accounted.1.mono (completed_succ index)
  have file := fun file stored => (accounted.2 file stored).mono (completed_succ index)
  generalize isSystem : systemAt sha256 steps index = system at engine file ⊢
  cases step with
  | process request context answers =>
    exact accounted_of_file file (engine.processed
      (system.engine.process_effect request context answers sha256)) (.inl rfl)
  | handle request context answeredMs answers saved =>
    have processed := system.engine.process_effect request
      (some (answeredContext system request context answeredMs)) answers sha256
    rcases handle_cases sha256 system request context answeredMs answers saved with
      ⟨same, -⟩ | ⟨isEngine, wrote, -⟩
    · rw [apply, same]
      exact ⟨engine, file⟩
    · refine accounted_of_file file ?_ ?_
      · rw [apply, isEngine]
        exact engine.processed processed
      · exact wrote
  | save saved =>
    rcases system.save_cases saved with failed | ⟨succeeded, valid⟩
    · rw [apply, failed]
      exact ⟨engine, file⟩
    · rw [apply, succeeded]
      exact accounted_of_file file engine (.inr ⟨rfl, valid⟩)
  | load read =>
    rcases system.load_cases read with ⟨failed, -⟩ | ⟨stored, isStored, -, loaded⟩
    · rw [apply, failed]
      exact ⟨engine, file⟩
    · rw [apply, loaded]
      exact accounted_of_file file (file stored isStored) (.inl rfl)
  | configure hardwareTarget firmwareApi availableStorageBytes =>
    exact accounted_of_file file engine (.inl rfl)
  | restart answers =>
    obtain ⟨same, wrote⟩ := system.restart_cases answers
    refine accounted_of_file file (Accounted.sameCore ?_ same) wrote
    rcases system.resumed_cases answers.read with isInit | ⟨stored, isStored, -, isResumed⟩
    · rw [isInit]
      exact init_accounted _
    · rw [isResumed]
      exact file stored isStored
  | reconcile answers =>
    rcases system.reconcile_cases answers with
      same | ⟨inFlight, after, reconciled, valid, settled⟩
    · rw [apply, same]
      exact ⟨engine, file⟩
    · rw [apply, reconciled]
      refine accounted_of_file file (Accounted.settled settled fun completes => ?_)
        (.inr ⟨rfl, valid⟩)
      exact ⟨index, answers, by omega, taken, by rwa [isSystem], by rw [isSystem],
        by rwa [isSystem]⟩

/-- Along every run the engine and the file are accounted for. -/
theorem run_accounted (index : Nat) :
    RunAccounted sha256 steps index (systemAt sha256 steps index) := by
  refine Runs.along (motive := RunAccounted sha256 steps) ?_ ?_ ?_ index
  · exact ⟨init_accounted _, fun file stored => by cases stored⟩
  · exact fun index step taken accounted => step_accounted taken accounted
  · rintro index - ⟨engine, file⟩
    exact ⟨engine.mono (completed_succ index),
      fun stored isStored => (file stored isStored).mono (completed_succ index)⟩

section Law

variable {index : Nat} {step : UpdateStep} {before after : PersistedUpdate}

/-- A step that keeps the core keeps all three promises. -/
theorem lawful_of_same (same : before.SameCore after) :
    Lawful sha256 steps index step before after where
  floor := same.highest ▸ UInt32.le_refl _
  accepted := .inl same.accepted
  activating := fun inFlight =>
    ⟨same.active ▸ inFlight.1, same.update ▸ rfl, .inl (same.update ▸ inFlight.2)⟩

/-- A processed request is lawful unless it imports onto an activating update. -/
theorem lawful_of_processed {importable : Bool}
    (accounted : Accounted (CompletedBefore sha256 steps index) before)
    (effect : UpdateEngine.Processed before step.requests importable after)
    (safe : before.InFlight → step.requests = some .importUpdate → importable = false) :
    Lawful sha256 steps index step before after := by
  cases effect with
  | carried carries =>
    refine ⟨carries.highest ▸ UInt32.le_refl _, .inl carries.accepted, fun inFlight => ?_⟩
    refine ⟨carries.active ▸ inFlight.1, carries.moves.1, .inl ?_⟩
    rcases carries.moves.2 with sameState | ⟨underway, -⟩
    · rw [sameState]
      exact inFlight.2
    · simp [ContentUpdate.Underway, inFlight.2] at underway
  | quarantined requested active accepted highest fixed isState =>
    exact ⟨highest ▸ UInt32.le_refl _, .inl accepted, fun inFlight =>
      ⟨active ▸ inFlight.1, fixed, .inr (.inr (.inr ⟨requested, isState⟩))⟩⟩
  | rolledBack requested wasActive live active highest accepted reverted =>
    have isState : after.update.state = .rolledBack := by rw [reverted]
    refine ⟨highest ▸ UInt32.le_refl _, ?_, fun inFlight =>
      ⟨active ▸ wasActive, by rw [reverted]; rfl, .inr (.inr (.inl ⟨requested, isState⟩))⟩⟩
    rcases live with activating | healthy
    · refine .inl ?_
      rw [accepted, (accounted.pending wasActive (.inr activating)).1]
    · exact .inr (.inr ⟨requested, wasActive, healthy, isState,
        accounted.healthy wasActive healthy, accepted⟩)
  | imported requested passed active accepted highest isState previous newer =>
    refine ⟨highest ▸ UInt32.le_refl _, .inl accepted, fun inFlight => ?_⟩
    rw [safe inFlight requested] at passed
    cases passed

/-- Settling an activating update is lawful. -/
theorem lawful_of_settled {answers : BootAnswers}
    (accounted : Accounted (CompletedBefore sha256 steps index) before)
    (inFlight : before.InFlight) (settled : UpdateSystem.Settled before answers.marker after) :
    Lawful sha256 steps index (.reconcile answers) before after := by
  obtain ⟨active, fixed, outcome⟩ := settled
  have newer := (accounted.pending inFlight.1 (.inr inFlight.2)).2
  rcases outcome with ⟨completed, healthy, accepted, highest⟩ | ⟨ended, accepted, highest⟩
  · refine ⟨?_, .inr (.inl ⟨answers, rfl, inFlight, completed, accepted⟩), fun _ => ?_⟩
    · rw [highest]
      exact UInt32.le_of_lt newer
    · exact ⟨active ▸ inFlight.1, fixed, .inr (.inl ⟨answers, rfl, .inl ⟨healthy, completed⟩⟩)⟩
  · exact ⟨highest ▸ UInt32.le_refl _, .inl accepted, fun _ =>
      ⟨active ▸ inFlight.1, fixed, .inr (.inl ⟨answers, rfl, .inr ended⟩)⟩⟩

/-- A step that replaces the engine by a resumed state is lawful exactly when that
keeps what the engine had. -/
theorem lawful_iff_resumes {resumed : PersistedUpdate} (same : resumed.SameCore after)
    (notReconcile : ∀ answers, step ≠ .reconcile answers) (noRequest : step.requests = none) :
    Lawful sha256 steps index step before after ↔ Resumes before resumed := by
  constructor
  · rintro ⟨floor, accepted, activating⟩
    refine ⟨same.highest ▸ floor, ?_, fun inFlight => ?_⟩
    · rcases accepted with kept | ⟨answers, isStep, -⟩ | ⟨requested, -⟩
      · exact same.accepted ▸ kept
      · exact absurd isStep (notReconcile answers)
      · rw [noRequest] at requested
        cases requested
    · obtain ⟨active, fixed, isState⟩ := activating inFlight
      rw [same.update] at fixed isState
      refine ⟨⟨same.active ▸ active, ?_⟩, fixed⟩
      rcases isState with kept | ⟨answers, isStep, -⟩ | ⟨requested, -⟩ | ⟨requested, -⟩
      · exact kept
      · exact absurd isStep (notReconcile answers)
      · rw [noRequest] at requested
        cases requested
      · rw [noRequest] at requested
        cases requested
  · rintro ⟨floor, accepted, activating⟩
    refine ⟨same.highest ▸ floor, .inl (same.accepted.trans accepted), fun inFlight => ?_⟩
    obtain ⟨⟨active, isState⟩, fixed⟩ := activating inFlight
    exact ⟨same.active ▸ active, same.update ▸ fixed, .inl (same.update ▸ isState)⟩

/-- An import onto an activating update breaks the law. -/
theorem not_lawful_of_replaced (inFlight : before.InFlight)
    (requested : step.requests = some .importUpdate) (isState : after.update.state = .discovered) :
    ¬ Lawful sha256 steps index step before after := by
  intro lawful
  rcases (lawful.activating inFlight).2.2 with
    kept | ⟨answers, isStep, -⟩ | ⟨requests, -⟩ | ⟨requests, -⟩
  · rw [isState] at kept
    cases kept
  · rw [isStep] at requested
    cases requested
  · rw [requested] at requests
    cases requests
  · rw [requested] at requests
    cases requests

variable (sha256) in
/-- An import that passes its checks replaces the update. -/
theorem process_imports (engine : UpdateEngine) (request : UpdateRequest)
    (context : Option RequestContext) (answers : UpdateAnswers)
    (requested : UpdateOperation.ofWire request.operation = some .importUpdate)
    (passed : engine.importable request answers = true) :
    (engine.process sha256 request context answers).1.isSome = true ∧
      (engine.process sha256 request context answers).2 = (engine.importUpdate request answers).2 ∧
      (engine.process sha256 request context answers).2.update.state = .discovered := by
  rcases engine.import_cases request answers with
    ⟨refused, -⟩ | ⟨-, imported, succeeded, -, -, -, isState, -⟩
  · rw [refused] at passed
    cases passed
  · unfold UpdateEngine.process
    rw [requested]
    dsimp only
    rw [succeeded]
    exact ⟨rfl, rfl, isState⟩

/-- A step taken in a run keeps the promises exactly when it is safe. -/
theorem lawful_iff_safe (step : UpdateStep) (system : UpdateSystem)
    (accounted : RunAccounted sha256 steps index system) :
    Lawful sha256 steps index step system.engine.toPersistedUpdate
      (step.apply sha256 system).engine.toPersistedUpdate ↔ step.Safe system := by
  obtain ⟨engine, file⟩ := accounted
  cases step with
  | process request context answers =>
    have effect := system.engine.process_effect request context answers sha256
    constructor
    · intro lawful inFlight requested
      by_contra passed
      rw [Bool.not_eq_false] at passed
      obtain ⟨-, -, isState⟩ :=
        process_imports sha256 system.engine request context answers requested passed
      exact absurd lawful (not_lawful_of_replaced inFlight (by exact requested) isState)
    · exact fun safe => lawful_of_processed engine effect safe
  | handle request context answeredMs answers saved =>
    have effect := system.engine.process_effect request
      (some (answeredContext system request context answeredMs)) answers sha256
    have imports := process_imports sha256 system.engine request
      (some (answeredContext system request context answeredMs)) answers
    rw [apply]
    rcases handle_cases sha256 system request context answeredMs answers saved with
      ⟨same, unsaved⟩ | ⟨isEngine, -, isSaved⟩
    · rw [same]
      refine iff_of_true (lawful_of_same ⟨rfl, rfl, rfl, rfl⟩) fun inFlight requested passed => ?_
      obtain ⟨answered, sameEngine, -⟩ := imports requested passed
      rw [← sameEngine]
      exact unsaved requested answered
    · rw [isEngine]
      constructor
      · intro lawful inFlight requested passed
        obtain ⟨-, -, isState⟩ := imports requested passed
        exact absurd lawful (not_lawful_of_replaced inFlight requested isState)
      · intro safe
        refine lawful_of_processed engine effect fun inFlight requested => ?_
        by_contra passed
        rw [Bool.not_eq_false] at passed
        obtain ⟨-, sameEngine, -⟩ := imports requested passed
        have refused := safe inFlight requested passed
        rw [← sameEngine, isSaved requested] at refused
        cases refused
  | save saved =>
    refine iff_of_true (lawful_of_same ?_) trivial
    rcases system.save_cases saved with failed | ⟨succeeded, -⟩
    · rw [apply, failed]
      exact ⟨rfl, rfl, rfl, rfl⟩
    · rw [apply, succeeded]
      exact ⟨rfl, rfl, rfl, rfl⟩
  | load read =>
    rcases system.load_cases read with ⟨failed, refused⟩ | ⟨stored, isStored, readable, loaded⟩
    · rw [apply, failed]
      refine iff_of_true (lawful_of_same ⟨rfl, rfl, rfl, rfl⟩) fun stored isStored readable => ?_
      rw [refused stored isStored] at readable
      cases readable
    · rw [apply, loaded]
      refine (lawful_iff_resumes ⟨rfl, rfl, rfl, rfl⟩ (by simp) rfl).trans ?_
      constructor
      · rintro resumes other isOther -
        rw [isStored, Option.some.injEq] at isOther
        exact isOther ▸ resumes
      · exact fun safe => safe stored isStored readable
  | configure hardwareTarget firmwareApi availableStorageBytes =>
    exact iff_of_true (lawful_of_same ⟨rfl, rfl, rfl, rfl⟩) trivial
  | restart answers =>
    exact lawful_iff_resumes (system.restart_cases answers).1 (by simp) rfl
  | reconcile answers =>
    refine iff_of_true ?_ trivial
    rcases system.reconcile_cases answers with same | ⟨inFlight, after, reconciled, -, settled⟩
    · rw [apply, same]
      exact lawful_of_same ⟨rfl, rfl, rfl, rfl⟩
    · rw [apply, reconciled]
      exact lawful_of_settled engine inFlight settled

end Law

/-- Every step of the run keeps the promises. -/
def LawfulRun (sha256 : List UInt8 → Digest) (steps : List UpdateStep) : Prop :=
  ∀ index step, steps[index]? = some step →
    Lawful sha256 steps index step (systemAt sha256 steps index).engine.toPersistedUpdate
      (systemAt sha256 steps (index + 1)).engine.toPersistedUpdate

/-- One step of a run keeps the promises exactly when it is safe. -/
theorem lawful_at_iff {index : Nat} {step : UpdateStep} (taken : steps[index]? = some step) :
    Lawful sha256 steps index step (systemAt sha256 steps index).engine.toPersistedUpdate
        (systemAt sha256 steps (index + 1)).engine.toPersistedUpdate ↔
      step.Safe (systemAt sha256 steps index) := by
  have next : systemAt sha256 steps (index + 1) =
      step.apply sha256 (systemAt sha256 steps index) := Runs.reached_succ taken
  rw [next]
  exact lawful_iff_safe step _ (run_accounted index)

/-- A run keeps the promises exactly when each of its steps is safe. -/
theorem lawful_run_iff (sha256 : List UInt8 → Digest) (steps : List UpdateStep) :
    LawfulRun sha256 steps ↔
      ∀ index (step : UpdateStep), steps[index]? = some step →
        step.Safe (systemAt sha256 steps index) :=
  ⟨fun lawful index step taken => (lawful_at_iff taken).mp (lawful index step taken),
    fun safe index step taken => (lawful_at_iff taken).mpr (safe index step taken)⟩

end Runs

section Replacement

def firmwareArchive (digit : UInt8) (nonzero : digit ≠ 0) (releaseSequence : UInt32) :
    VerifiedArchive where
  contentType := .literal "firmware"
  packageId := .literal "firmware"
  version := .literal "1"
  firmwareApi := .literal "1"
  entrypoint := .literal "update.fuf"
  contentSha256 := .literal ""
  signingKeyId := .literal "key"
  archiveSha256 := ⟨List.replicate 64 digit, by simp [nonzero.symm]⟩
  capabilityMask := 0
  archiveBytes := 10
  releaseSequence
  capabilities := []
  payloads := [⟨.literal "update.fuf", .literal "", 10⟩]

/-- The first release. -/
def firstFirmware : VerifiedArchive := firmwareArchive 49 (by decide) 1

/-- The second release. -/
def secondFirmware : VerifiedArchive := firmwareArchive 50 (by decide) 2

def firmwareRequest (operation : UInt32) (archive : VerifiedArchive) : UpdateRequest where
  operation
  updateId := archive.packageId
  manifestPath := .literal "/ext/update/firmware.poison"
  candidateDigest := archive.archiveSha256
  receivedBytes := 10
  confirmationToken := List.replicate 16 7
  healthy := false

/-- The handled request, where everything outside the engine succeeds. -/
def firmwareStep (operation : UInt32) (archive : VerifiedArchive) : UpdateStep :=
  .handle (firmwareRequest operation archive) ⟨1, .owner, 1, 1000, true⟩ 2000
    { allocated := true
      archive := fun _ _ => some archive
      extracted := true
      present := fun _ => true
      prepared := fun _ => true
      armed := true
      token := ⟨List.replicate 16 7, by simp [confirmationTokenBytes]⟩ } true

/-- The first release is imported, staged, verified and activated. Before it reports
its health the second one is imported. -/
def replacedFirmware : List UpdateStep :=
  [.restart ⟨true, fun _ => true, true, true, true, none, fun _ => true, true⟩,
    .configure 1 1 1000, firmwareStep 1 firstFirmware, firmwareStep 2 firstFirmware,
    firmwareStep 3 firstFirmware, firmwareStep 4 firstFirmware, firmwareStep 1 secondFirmware]

/-- SHA-256 itself, for the concrete run. -/
def firmwareDigest (message : List UInt8) : Digest :=
  ⟨Sha256.digest message, Sha256.length_digest message⟩

/-- The import of the second release replaces the activating first one. -/
theorem import_replaces_activating : ¬ ∀ sha256 steps, LawfulRun sha256 steps := by
  intro always
  have inFlight : (systemAt firmwareDigest replacedFirmware 6).engine.InFlight :=
    ⟨by decide +kernel, by decide +kernel⟩
  have replaced : (systemAt firmwareDigest replacedFirmware (6 + 1)).engine.update.state =
      .discovered := by
    decide +kernel
  have taken : replacedFirmware[6]? = some (firmwareStep 1 secondFirmware) := rfl
  exact not_lawful_of_replaced inFlight rfl replaced
    (always firmwareDigest replacedFirmware 6 _ taken)

end Replacement

end UpdateStep

end PoisonedOS
