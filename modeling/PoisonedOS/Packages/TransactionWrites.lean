import PoisonedOS.Library.Runs
import PoisonedOS.Library.Writes
import PoisonedOS.Packages.Transaction

/-!
# The package transaction, write by write

A call on a package transaction makes several inner transitions and may stop
between them. Here each call is a traced program whose images are the
transactions in memory after each of its writes; its value and its final state
are those of the function it stands for.

What each write may do holds at every intermediate point of every run, for any
order of calls and any arguments.
-/

namespace PoisonedOS

/-- `poison_package_rollback`. -/
def PackageTransaction.rollback (transaction : PackageTransaction) : Bool × PackageTransaction :=
  if transaction.rollbackState == transaction.state || transaction.state == .removed then
    (false, transaction)
  else if transaction.initialized && transaction.contentUpdate.state != .rolledBack then
    match transaction.contentUpdate.rollback with
    | (false, update) => (false, { transaction with contentUpdate := update })
    | (true, update) =>
      (true, { transaction with contentUpdate := update, state := transaction.rollbackState })
  else (true, { transaction with state := transaction.rollbackState })

namespace ContentUpdate

open Traced

/-- The writes of `poison_content_update_verify_payload`. -/
def verifyPayloadWrites (actualDigest : CString) : Traced ContentUpdate Bool := do
  let update ← observe id
  branch (update.state != .staged || !boundedDigest actualDigest) (pure false) do
    branch (update.candidateDigest != actualDigest)
      (do
        let _ ← once (·.transition .quarantined)
        pure false)
      (do
        let _ ← write ({ · with payloadVerified := true })
        once (·.transition .verified))

/-- The writes of `poison_content_update_report_health`. -/
def reportHealthWrites (healthy : Bool) : Traced ContentUpdate Bool := do
  let update ← observe id
  branch (update.state != .activating) (pure false) do
    let _ ← write ({ · with healthReported := true })
    branch healthy (once (·.transition .healthy)) (once rollback)

end ContentUpdate

namespace PackageTransaction

open Traced

/-- A function called on the nested update. -/
def onUpdate (program : Traced ContentUpdate Bool) : Traced PackageTransaction Bool :=
  focus (·.contentUpdate) (fun contentUpdate transaction => { transaction with contentUpdate })
    program

/-- The writes of `poison_package_receive` once the update is open. -/
def takeWrites (bytes : UInt32) : Traced PackageTransaction Bool := do
  let received ← onUpdate (once (·.receive bytes))
  let complete ← observe fun transaction =>
    transaction.contentUpdate.receivedBytes == transaction.contentUpdate.contentBytes
  branch (received && complete)
    (do
      let staged ← onUpdate (once (·.transition .staged))
      onlyIf staged (write ({ · with state := .staged })) false)
    (pure received)

/-- The writes of `poison_package_receive`. -/
def receiveWrites (bytes : UInt32) : Traced PackageTransaction Bool := do
  let transaction ← observe id
  branch (!transaction.initialized) (pure false) do
    let opened ← onlyIf (transaction.contentUpdate.state == .discovered)
      (onUpdate (once (·.transition .receiving))) true
    onlyIf opened (takeWrites bytes) false

/-- The writes of `poison_package_verify_payload`. -/
def verifyPayloadWrites (digest : CString) : Traced PackageTransaction Bool := do
  let transaction ← observe id
  branch (!transaction.initialized || transaction.state != .staged) (pure false) do
    let verified ← onUpdate (ContentUpdate.verifyPayloadWrites digest)
    let _ ← write ({ · with state := if verified then .verified else .quarantined })
    pure verified

/-- The writes of `poison_package_activate` once the update awaits confirmation. -/
def commitWrites (exactConfirmation : Bool) : Traced PackageTransaction Bool := do
  let confirmed ← onUpdate (once (·.confirm exactConfirmation))
  onlyIf confirmed (onUpdate (once (·.transition .activating))) false

/-- The writes of `poison_package_activate`. -/
def activateWrites (exactConfirmation : Bool) : Traced PackageTransaction Bool := do
  let transaction ← observe id
  branch (!transaction.initialized || transaction.state != .verified) (pure false) do
    let awaiting ← onlyIf (transaction.contentUpdate.state == .verified)
      (onUpdate (once (·.transition .awaitingConfirmation))) true
    let waits ← observe (·.contentUpdate.state == .awaitingConfirmation)
    onlyIf (awaiting && waits) (commitWrites exactConfirmation) false

/-- The writes of `poison_package_report_health`. -/
def reportHealthWrites (healthy : Bool) : Traced PackageTransaction Bool := do
  let transaction ← observe id
  branch (!transaction.initialized) (pure false) do
    let reported ← onUpdate (ContentUpdate.reportHealthWrites healthy)
    onlyIf reported
      (write fun transaction =>
        { transaction with state := if healthy then .active else transaction.rollbackState }) false

/-- The writes of `poison_package_rollback`. -/
def rollbackWrites : Traced PackageTransaction Bool := do
  let transaction ← observe id
  branch (transaction.rollbackState == transaction.state || transaction.state == .removed)
    (pure false) do
    let reverted ← onlyIf
      (transaction.initialized && transaction.contentUpdate.state != .rolledBack)
      (onUpdate (once ContentUpdate.rollback)) true
    onlyIf reverted (write fun transaction =>
      { transaction with state := transaction.rollbackState }) false

end PackageTransaction

/-- A call on a package transaction. -/
inductive TransactionCall where
  | receive (bytes : UInt32)
  | verifyPayload (digest : CString)
  | activate (exactConfirmation : Bool)
  | reportHealth (healthy : Bool)
  | rollback
deriving DecidableEq

namespace TransactionCall

/-- The function that is called. -/
def apply (call : TransactionCall) (transaction : PackageTransaction) :
    Bool × PackageTransaction :=
  match call with
  | .receive bytes => transaction.receive bytes
  | .verifyPayload digest => transaction.verifyPayload digest
  | .activate exactConfirmation => transaction.activate exactConfirmation
  | .reportHealth healthy => transaction.reportHealth healthy
  | .rollback => transaction.rollback

/-- The writes of a call. -/
def writes : TransactionCall → Traced PackageTransaction Bool
  | .receive bytes => PackageTransaction.receiveWrites bytes
  | .verifyPayload digest => PackageTransaction.verifyPayloadWrites digest
  | .activate exactConfirmation => PackageTransaction.activateWrites exactConfirmation
  | .reportHealth healthy => PackageTransaction.reportHealthWrites healthy
  | .rollback => PackageTransaction.rollbackWrites

end TransactionCall

section Agreement

open Traced

/-- The writes of the nested verification belong to it. -/
theorem ContentUpdate.verify_payload_traced (digest : CString) (update : ContentUpdate) :
    (verifyPayloadWrites digest update).value = (update.verifyPayload digest).1 ∧
      (verifyPayloadWrites digest update).final = (update.verifyPayload digest).2 := by
  simp only [verifyPayloadWrites, bind_run, observe_run, id_eq, verifyPayload]
  cases update.state != .staged || !boundedDigest digest with
  | true => exact ⟨rfl, rfl⟩
  | false => cases update.candidateDigest != digest <;> exact ⟨rfl, rfl⟩

/-- The writes of the nested health report belong to it. -/
theorem ContentUpdate.report_health_traced (healthy : Bool) (update : ContentUpdate) :
    (reportHealthWrites healthy update).value = (update.reportHealth healthy).1 ∧
      (reportHealthWrites healthy update).final = (update.reportHealth healthy).2 := by
  simp only [reportHealthWrites, bind_run, observe_run, id_eq, reportHealth]
  cases update.state != .activating with
  | true => exact ⟨rfl, rfl⟩
  | false => cases healthy <;> exact ⟨rfl, rfl⟩

namespace PackageTransaction

/-- What follows the opening of an update. -/
theorem take_traced (bytes : UInt32) (transaction : PackageTransaction) :
    ((takeWrites bytes transaction).value, (takeWrites bytes transaction).final) =
      match transaction.contentUpdate.receive bytes with
      | (false, update) => (false, { transaction with contentUpdate := update })
      | (true, update) =>
        if update.receivedBytes == update.contentBytes then
          match update.transition .staged with
          | (false, update) => (false, { transaction with contentUpdate := update })
          | (true, update) => (true, { transaction with contentUpdate := update, state := .staged })
        else (true, { transaction with contentUpdate := update }) := by
  simp only [takeWrites, bind_run, observe_run, onUpdate, focus_run, once_run]
  cases transaction.contentUpdate.receive bytes with
  | mk received update =>
    cases received with
    | false => rfl
    | true =>
      cases complete : update.receivedBytes == update.contentBytes with
      | false => simp [complete]
      | true =>
        simp only [complete, Bool.and_self, branch_true, bind_run, focus_run, once_run, if_true]
        cases update.transition .staged with
        | mk staged moved => cases staged <;> rfl

theorem receive_traced (bytes : UInt32) (transaction : PackageTransaction) :
    (receiveWrites bytes transaction).value = (transaction.receive bytes).1 ∧
      (receiveWrites bytes transaction).final = (transaction.receive bytes).2 := by
  obtain ⟨state, rollbackState, protectedPackage, initialized, update⟩ := transaction
  simp only [receiveWrites, bind_run, observe_run, id_eq, receive, onUpdate]
  cases initialized with
  | false => exact ⟨rfl, rfl⟩
  | true =>
    simp only [Bool.not_true, branch_false, Bool.false_eq_true, if_false, bind_run]
    cases update.state == .discovered with
    | false =>
      exact Prod.ext_iff.mp (take_traced bytes
        ⟨state, rollbackState, protectedPackage, true, update⟩)
    | true =>
      simp only [onlyIf_true, focus_run, once_run, if_true]
      cases update.transition .receiving with
      | mk opened moved =>
        cases opened with
        | false => exact ⟨rfl, rfl⟩
        | true =>
          exact Prod.ext_iff.mp (take_traced bytes
            ⟨state, rollbackState, protectedPackage, true, moved⟩)

theorem verify_payload_traced (digest : CString) (transaction : PackageTransaction) :
    (verifyPayloadWrites digest transaction).value = (transaction.verifyPayload digest).1 ∧
      (verifyPayloadWrites digest transaction).final = (transaction.verifyPayload digest).2 := by
  have traced := ContentUpdate.verify_payload_traced digest transaction.contentUpdate
  simp only [verifyPayloadWrites, verifyPayload, onUpdate, bind_run, observe_run, id_eq]
  cases !transaction.initialized || transaction.state != .staged with
  | true => exact ⟨rfl, rfl⟩
  | false =>
    simp only [branch_false, Bool.false_eq_true, if_false, bind_run, focus_run, write_run,
      pure_run, traced.1, traced.2, and_self]

theorem report_health_traced (healthy : Bool) (transaction : PackageTransaction) :
    (reportHealthWrites healthy transaction).value = (transaction.reportHealth healthy).1 ∧
      (reportHealthWrites healthy transaction).final = (transaction.reportHealth healthy).2 := by
  obtain ⟨state, rollbackState, protectedPackage, initialized, update⟩ := transaction
  have traced := ContentUpdate.report_health_traced healthy update
  simp only [reportHealthWrites, reportHealth, onUpdate, bind_run, observe_run, id_eq]
  cases initialized with
  | false => exact ⟨rfl, rfl⟩
  | true =>
    simp only [Bool.not_true, Bool.false_eq_true, if_false, branch_false, bind_run, focus_run,
      traced.1, traced.2]
    generalize update.reportHealth healthy = result
    obtain ⟨reported, update⟩ := result
    cases reported <;> exact ⟨rfl, rfl⟩

theorem rollback_traced (transaction : PackageTransaction) :
    (rollbackWrites transaction).value = transaction.rollback.1 ∧
      (rollbackWrites transaction).final = transaction.rollback.2 := by
  simp only [rollbackWrites, rollback, onUpdate, bind_run, observe_run, id_eq]
  cases transaction.rollbackState == transaction.state || transaction.state == .removed with
  | true => exact ⟨rfl, rfl⟩
  | false =>
    cases transaction.initialized && transaction.contentUpdate.state != .rolledBack with
    | false => exact ⟨rfl, rfl⟩
    | true =>
      simp only [branch_false, bind_run, onlyIf_true, focus_run, once_run, Bool.false_eq_true,
        if_false, if_true]
      generalize transaction.contentUpdate.rollback = result
      obtain ⟨reverted, update⟩ := result
      cases reverted <;> exact ⟨rfl, rfl⟩

/-- What follows where the update awaits confirmation. -/
theorem commit_traced (exactConfirmation : Bool) (transaction : PackageTransaction) :
    ((commitWrites exactConfirmation transaction).value,
        (commitWrites exactConfirmation transaction).final) =
      match transaction.contentUpdate.confirm exactConfirmation with
      | (false, update) => (false, { transaction with contentUpdate := update })
      | (true, update) =>
        let (activated, update) := update.transition .activating
        (activated, { transaction with contentUpdate := update }) := by
  simp only [commitWrites, bind_run, onUpdate, focus_run, once_run]
  cases transaction.contentUpdate.confirm exactConfirmation with
  | mk confirmed update => cases confirmed <;> rfl

theorem activate_traced (exactConfirmation : Bool) (transaction : PackageTransaction) :
    (activateWrites exactConfirmation transaction).value =
        (transaction.activate exactConfirmation).1 ∧
      (activateWrites exactConfirmation transaction).final =
        (transaction.activate exactConfirmation).2 := by
  obtain ⟨state, rollbackState, protectedPackage, initialized, update⟩ := transaction
  simp only [activateWrites, activate, onUpdate, bind_run, observe_run, id_eq]
  cases !initialized || state != .verified with
  | true => exact ⟨rfl, rfl⟩
  | false =>
    simp only [branch_false, Bool.false_eq_true, if_false, bind_run, observe_run]
    have commits := fun update : ContentUpdate => Prod.ext_iff.mp (commit_traced exactConfirmation
      ⟨state, rollbackState, protectedPackage, initialized, update⟩)
    cases update.state == .verified with
    | false =>
      cases waits : update.state == .awaitingConfirmation with
      | false => simp [waits, bne]
      | true =>
        simp only [waits, onlyIf_false, onlyIf_true, Bool.and_self, bne, Bool.not_true,
          Bool.or_self, Bool.false_eq_true, if_false]
        exact commits update
    | true =>
      simp only [onlyIf_true, focus_run, once_run, if_true]
      cases update.transition .awaitingConfirmation with
      | mk awaiting moved =>
        cases awaiting with
        | false => exact ⟨rfl, rfl⟩
        | true =>
          cases waits : moved.state == .awaitingConfirmation with
          | false => simp [waits, bne]
          | true =>
            simp only [waits, onlyIf_true, Bool.and_self, bne, Bool.not_true, Bool.or_self,
              Bool.false_eq_true, if_false]
            exact commits moved

end PackageTransaction

/-- The writes of a call belong to it. -/
theorem TransactionCall.writes_apply (call : TransactionCall) (transaction : PackageTransaction) :
    (call.writes transaction).value = (call.apply transaction).1 ∧
      (call.writes transaction).final = (call.apply transaction).2 := by
  cases call with
  | receive bytes => exact PackageTransaction.receive_traced bytes transaction
  | verifyPayload digest => exact PackageTransaction.verify_payload_traced digest transaction
  | activate exactConfirmation =>
    exact PackageTransaction.activate_traced exactConfirmation transaction
  | reportHealth healthy => exact PackageTransaction.report_health_traced healthy transaction
  | rollback => exact PackageTransaction.rollback_traced transaction

end Agreement

/-- The update has ended without becoming healthy. -/
def ContentUpdate.Ended (update : ContentUpdate) : Prop :=
  update.state = .rolledBack ∨ update.state = .quarantined

/-- All bytes have been received. -/
def ContentUpdate.Complete (update : ContentUpdate) : Prop :=
  update.receivedBytes = update.contentBytes

def ContentUpdate.PastReception (update : ContentUpdate) : Prop :=
  update.state = .staged ∨ update.state = .verified ∨ update.state = .awaitingConfirmation ∨
    update.state = .activating ∨ update.state = .healthy

namespace PackageTransaction

/-- What holds of a transaction at every moment. -/
structure Sound (transaction : PackageTransaction) : Prop where
  admitted : ContentUpdate.Admitted transaction.contentUpdate.identity
  bounded : transaction.contentUpdate.receivedBytes ≤ transaction.contentUpdate.contentBytes
  complete : transaction.contentUpdate.PastReception → transaction.contentUpdate.Complete
  staged : transaction.state = .staged → transaction.contentUpdate.Complete

/-- What a write of a call may do. -/
structure Lawful (call : TransactionCall) (before after : PackageTransaction) : Prop where
  identity : after.contentUpdate.identity = before.contentUpdate.identity
  verified : after.contentUpdate.state = .verified → before.contentUpdate.state ≠ .verified →
    call = .verifyPayload before.contentUpdate.candidateDigest
  activating : after.contentUpdate.state = .activating →
    before.contentUpdate.state ≠ .activating →
    before.contentUpdate.state = .awaitingConfirmation ∧
      before.contentUpdate.rollbackAvailable = true ∧
      (before.contentUpdate.confirmationRequired = true →
        before.contentUpdate.confirmationAuthorized = true ∧ call = .activate true)
  healthy : after.contentUpdate.state = .healthy → before.contentUpdate.state ≠ .healthy →
    before.contentUpdate.state = .activating ∧
      before.contentUpdate.healthReported = true ∧ call = .reportHealth true
  ended : before.contentUpdate.Ended → after.contentUpdate.state = before.contentUpdate.state
  packageVerified : after.state = .verified → before.state ≠ .verified →
    call = .verifyPayload before.contentUpdate.candidateDigest
  packageQuarantined : before.state = .quarantined → after.state = .quarantined

/-- What holds of a transaction between two calls. -/
structure Settled (transaction : PackageTransaction) : Prop where
  sound : transaction.Sound
  initialized : transaction.initialized = true
  staged : transaction.state = .staged → transaction.contentUpdate.state = .staged
  quarantined : transaction.state = .quarantined →
    transaction.contentUpdate.state = .staged ∨ transaction.contentUpdate.state = .quarantined
  returns : transaction.rollbackState ≠ .staged ∧ transaction.rollbackState ≠ .verified ∧
    transaction.rollbackState ≠ .quarantined

variable {transaction : PackageTransaction} {call : TransactionCall}

variable {update : ContentUpdate}

/-- A write of the nested update that leaves its state alone. -/
theorem lawful_flag (identity : update.identity = transaction.contentUpdate.identity)
    (state : update.state = transaction.contentUpdate.state) :
    Lawful call transaction { transaction with contentUpdate := update } where
  identity := identity
  verified isNow was := absurd (state.symm.trans isNow) was
  activating isNow was := absurd (state.symm.trans isNow) was
  healthy isNow was := absurd (state.symm.trans isNow) was
  ended _ := state
  packageVerified isNow was := absurd isNow was
  packageQuarantined was := was

theorem Sound.flag (sound : transaction.Sound)
    (identity : update.identity = transaction.contentUpdate.identity)
    (state : update.state = transaction.contentUpdate.state)
    (received : update.receivedBytes = transaction.contentUpdate.receivedBytes) :
    Sound { transaction with contentUpdate := update } := by
  have sized : update.contentBytes = transaction.contentUpdate.contentBytes :=
    congrArg ContentUpdate.Identity.contentBytes identity
  constructor
  · rw [identity]
    exact sound.admitted
  · rw [received, sized]
    exact sound.bounded
  · simp only [ContentUpdate.PastReception, ContentUpdate.Complete, state, received, sized]
    exact sound.complete
  · simp only [ContentUpdate.Complete, received, sized]
    exact sound.staged

/-- An inner transition is lawful by its guard and by what the call was given. -/
theorem lawful_transition {next : ContentUpdateState}
    (edge : transaction.contentUpdate.allowed next = true)
    (verified : next = .verified → call = .verifyPayload transaction.contentUpdate.candidateDigest)
    (activating : next = .activating →
      transaction.contentUpdate.confirmationRequired = true → call = .activate true)
    (healthy : next = .healthy → call = .reportHealth true) :
    Lawful call transaction
      { transaction with contentUpdate := { transaction.contentUpdate with state := next } } where
  identity := rfl
  verified isNow _ := verified isNow
  activating isNow _ := by
    dsimp only at isNow
    subst isNow
    cases state : transaction.contentUpdate.state <;>
      simp only [ContentUpdate.allowed, state, Bool.false_eq_true] at edge
    simp only [ContentUpdate.canActivate, Bool.and_eq_true, Bool.or_eq_true,
      Bool.not_eq_true'] at edge
    refine ⟨rfl, edge.1.2, fun required => ⟨?_, activating rfl required⟩⟩
    exact edge.2.resolve_left (by simp [required])
  healthy isNow _ := by
    dsimp only at isNow
    subst isNow
    cases state : transaction.contentUpdate.state <;>
      simp only [ContentUpdate.allowed, state, Bool.false_eq_true] at edge
    exact ⟨rfl, edge, healthy rfl⟩
  ended hasEnded := by
    obtain state | state := hasEnded <;>
      cases next <;> simp [ContentUpdate.allowed, state] at edge
  packageVerified isNow was := absurd isNow was
  packageQuarantined was := was

variable {next : ContentUpdateState}

theorem Sound.transition (sound : transaction.Sound)
    (edge : transaction.contentUpdate.allowed next = true) :
    Sound { transaction with contentUpdate := { transaction.contentUpdate with state := next } } := by
  refine ⟨sound.admitted, sound.bounded, fun past => ?_, sound.staged⟩
  have sized : transaction.contentUpdate.contentBytes ≠ 0 := sound.admitted.sized
  have complete := sound.complete
  cases state : transaction.contentUpdate.state <;>
    cases next <;>
      simp_all [ContentUpdate.allowed, ContentUpdate.PastReception, ContentUpdate.Complete]

/-- A write of the lifecycle state. -/
theorem lawful_lifecycle {next : PackageState}
    (verified : next = .verified →
      call = .verifyPayload transaction.contentUpdate.candidateDigest)
    (quarantined : transaction.state = .quarantined → next = .quarantined) :
    Lawful call transaction { transaction with state := next } where
  identity := rfl
  verified isNow was := absurd isNow was
  activating isNow was := absurd isNow was
  healthy isNow was := absurd isNow was
  ended _ := rfl
  packageVerified isNow _ := verified isNow
  packageQuarantined was := quarantined was

theorem Sound.lifecycle {next : PackageState} (sound : transaction.Sound)
    (staged : next = .staged → transaction.contentUpdate.Complete) :
    Sound { transaction with state := next } :=
  ⟨sound.admitted, sound.bounded, sound.complete, staged⟩

/-- A rollback of the nested update. -/
theorem lawful_rollback
    (live : transaction.contentUpdate.state = .activating ∨
      transaction.contentUpdate.state = .healthy) :
    Lawful call transaction { transaction with
      contentUpdate := { transaction.contentUpdate with state := .rolledBack } } where
  identity := rfl
  verified isNow := by cases isNow
  activating isNow := by cases isNow
  healthy isNow := by cases isNow
  ended hasEnded := by
    obtain state | state := live <;>
      obtain ended | ended := hasEnded <;> rw [state] at ended <;> cases ended
  packageVerified isNow was := absurd isNow was
  packageQuarantined was := was

theorem Sound.rollback (sound : transaction.Sound) :
    Sound { transaction with
      contentUpdate := { transaction.contentUpdate with state := .rolledBack } } := by
  refine ⟨sound.admitted, sound.bounded, ?_, sound.staged⟩
  simp [ContentUpdate.PastReception]

/-- A lawful program keeps the transaction sound. -/
def LawfulWrites (call : TransactionCall) (program : Traced PackageTransaction Bool)
    (transaction : PackageTransaction) : Prop :=
  Traced.Effects (Lawful call) Sound program transaction

open Traced

/-- Lawful writes of the nested update. -/
def LawfulUpdate (call : TransactionCall) (transaction : PackageTransaction)
    (program : Traced ContentUpdate Bool) (update : ContentUpdate) : Prop :=
  Traced.Effects
    (fun before after => Lawful call { transaction with contentUpdate := before }
      { transaction with contentUpdate := after })
    (fun contentUpdate => Sound { transaction with contentUpdate }) program update

theorem LawfulUpdate.onUpdate {program : Traced ContentUpdate Bool}
    (lawful : LawfulUpdate call transaction program transaction.contentUpdate) :
    LawfulWrites call (onUpdate program) transaction :=
  Effects.focus rfl lawful

/-- An inner transition, attempted. -/
theorem transition_update (sound : Sound { transaction with contentUpdate := update })
    (verified : next = .verified → call = .verifyPayload update.candidateDigest)
    (activating : next = .activating → update.confirmationRequired = true → call = .activate true)
    (healthy : next = .healthy → call = .reportHealth true) :
    LawfulUpdate call transaction (once (·.transition next)) update := by
  refine Effects.once ?_ ?_
  · intro refused
    unfold ContentUpdate.transition at refused ⊢
    split at refused
    · cases refused
    · rename_i noEdge
      rw [if_neg noEdge]
  · intro taken
    unfold ContentUpdate.transition at taken ⊢
    split at taken
    · rename_i edge
      rw [if_pos edge]
      exact ⟨@lawful_transition { transaction with contentUpdate := update } _ _ edge verified
        activating healthy, sound.transition edge⟩
    · cases taken

theorem transition_writes (sound : transaction.Sound)
    (verified : next = .verified → call = .verifyPayload transaction.contentUpdate.candidateDigest)
    (activating : next = .activating →
      transaction.contentUpdate.confirmationRequired = true → call = .activate true)
    (healthy : next = .healthy → call = .reportHealth true) :
    LawfulWrites call (onUpdate (once (·.transition next))) transaction :=
  (transition_update sound verified activating healthy).onUpdate

theorem receive_bytes_writes (bytes : UInt32) (sound : transaction.Sound)
    (apart : transaction.contentUpdate.state = .receiving → transaction.state ≠ .staged) :
    LawfulWrites call (onUpdate (once (·.receive bytes))) transaction := by
  refine Effects.focus rfl (Effects.once ?_ ?_)
  · intro refused
    obtain same | ⟨-, -, added⟩ := ContentUpdate.receive_cases transaction.contentUpdate bytes
    · rw [same]
    · rw [added] at refused
      cases refused
  · intro taken
    obtain same | ⟨receiving, fits, added⟩ :=
      ContentUpdate.receive_cases transaction.contentUpdate bytes
    · rw [same] at taken
      cases taken
    · rw [added]
      refine ⟨lawful_flag rfl rfl, sound.admitted, fits, ?_, fun staged =>
        absurd staged (apart receiving)⟩
      simp [ContentUpdate.PastReception, receiving]

theorem confirm_writes (exactConfirmation : Bool) (sound : transaction.Sound) :
    LawfulWrites call (onUpdate (once (·.confirm exactConfirmation))) transaction := by
  refine Effects.focus rfl (Effects.once ?_ ?_)
  · intro refused
    unfold ContentUpdate.confirm at refused ⊢
    split at refused
    · rename_i guarded
      rw [if_pos guarded]
    · cases refused
  · intro taken
    unfold ContentUpdate.confirm at taken ⊢
    split at taken
    · cases taken
    · rename_i passed
      rw [if_neg passed]
      exact ⟨lawful_flag rfl rfl, sound.flag rfl rfl rfl⟩

/-- A rollback of the nested update, attempted. -/
theorem rollback_update (sound : Sound { transaction with contentUpdate := update }) :
    LawfulUpdate call transaction (once ContentUpdate.rollback) update := by
  obtain ⟨-, refused⟩ | ⟨live, reverted⟩ := ContentUpdate.rollback_cases sound.admitted
  · refine Effects.once (fun _ => by rw [refused]) fun taken => ?_
    rw [refused] at taken
    cases taken
  · refine Effects.once (fun stopped => ?_) fun _ => ?_
    · rw [reverted] at stopped
      cases stopped
    · rw [reverted]
      exact ⟨@lawful_rollback { transaction with contentUpdate := update } _ live,
        sound.rollback⟩

/-- An attempted inner transition leaves the lifecycle state alone, and the update
where it was or where it should go. -/
theorem opened_final (condition : Bool) (next : ContentUpdateState) :
    (onlyIf condition (onUpdate (once (·.transition next))) true transaction).final.state =
        transaction.state ∧
      ((onlyIf condition (onUpdate (once (·.transition next))) true
          transaction).final.contentUpdate.state = transaction.contentUpdate.state ∨
        condition = true ∧ (onlyIf condition (onUpdate (once (·.transition next))) true
          transaction).final.contentUpdate.state = next) := by
  cases condition with
  | false => exact ⟨rfl, .inl rfl⟩
  | true =>
    refine ⟨rfl, ?_⟩
    simp only [onlyIf_true, onUpdate, focus_run, once_run, ContentUpdate.transition]
    split
    · exact .inr ⟨trivial, rfl⟩
    · exact .inl rfl

/-- A reception that succeeds found the update receiving and leaves the lifecycle
state where it was. -/
theorem received_final {bytes : UInt32}
    (received : (onUpdate (once (·.receive bytes)) transaction).value = true) :
    transaction.contentUpdate.state = .receiving ∧
      (onUpdate (once (·.receive bytes)) transaction).final.state = transaction.state := by
  simp only [onUpdate, focus_run, once_run] at received ⊢
  obtain refused | ⟨receiving, -, -⟩ :=
    ContentUpdate.receive_cases transaction.contentUpdate bytes
  · rw [refused] at received
    cases received
  · exact ⟨receiving, trivial⟩

/-- The writes of a reception once the update is open. -/
theorem take_lawful (bytes : UInt32) (sound : transaction.Sound)
    (apart : transaction.contentUpdate.state = .receiving →
      transaction.state ≠ .staged ∧ transaction.state ≠ .quarantined) :
    LawfulWrites (.receive bytes) (takeWrites bytes) transaction := by
  have receives : LawfulWrites (.receive bytes) (onUpdate (once (·.receive bytes))) transaction :=
    receive_bytes_writes bytes sound fun receiving => (apart receiving).1
  refine Effects.andThen receives (Effects.observing ?_)
  have receivedSound := receives.final sound
  have receivedStates := @received_final transaction bytes
  generalize onUpdate (once (·.receive bytes)) transaction = received at *
  refine Effects.branch (fun finished => ?_) fun _ => Effects.pure _
  rw [Bool.and_eq_true, beq_iff_eq] at finished
  obtain ⟨receiving, sameState⟩ := receivedStates finished.1
  have stages : LawfulWrites (.receive bytes) (onUpdate (once (·.transition .staged)))
      received.final :=
    transition_writes receivedSound
      ContentUpdateState.noConfusion ContentUpdateState.noConfusion ContentUpdateState.noConfusion
  refine Effects.andThen stages (Effects.onlyIf fun _ => Effects.write ?_ ?_)
  · refine lawful_lifecycle PackageState.noConfusion fun quarantined => ?_
    exact absurd (sameState.symm.trans quarantined) (apart receiving).2
  · refine (stages.final receivedSound).lifecycle fun _ => ?_
    simp only [onUpdate, focus_run, once_run, ContentUpdate.transition]
    split <;> exact finished.2

/-- While bytes arrive the package is neither staged nor quarantined. -/
theorem Settled.arriving (settled : transaction.Settled)
    (arriving : transaction.contentUpdate.state = .discovered ∨
      transaction.contentUpdate.state = .receiving) :
    transaction.state ≠ .staged ∧ transaction.state ≠ .quarantined := by
  constructor
  · intro staged
    have isStaged := settled.staged staged
    obtain state | state := arriving <;> rw [state] at isStaged <;> cases isStaged
  · intro quarantined
    obtain isState | isState := settled.quarantined quarantined <;>
      obtain state | state := arriving <;> rw [state] at isState <;> cases isState

/-- Every write of a call between two settled states is lawful. -/
theorem receive_lawful (settled : transaction.Settled) (bytes : UInt32) :
    LawfulWrites (.receive bytes) (receiveWrites bytes) transaction := by
  refine Effects.observingState (Effects.branch (fun _ => Effects.pure _) fun _ => ?_)
  have opens : LawfulWrites (.receive bytes)
      (onlyIf (transaction.contentUpdate.state == .discovered)
        (onUpdate (once (·.transition .receiving))) true) transaction :=
    Effects.onlyIf fun _ => transition_writes settled.sound
      ContentUpdateState.noConfusion ContentUpdateState.noConfusion ContentUpdateState.noConfusion
  refine Effects.andThen opens ?_
  have openedSound := opens.final settled.sound
  have openedStates := @opened_final transaction
    (transaction.contentUpdate.state == .discovered) .receiving
  generalize (onlyIf (transaction.contentUpdate.state == .discovered)
    (onUpdate (once (·.transition .receiving))) true transaction) = opened at *
  have apart : opened.final.contentUpdate.state = .receiving →
      opened.final.state ≠ .staged ∧ opened.final.state ≠ .quarantined := by
    intro receiving
    rw [openedStates.1]
    have arriving : transaction.contentUpdate.state = .discovered ∨
        transaction.contentUpdate.state = .receiving := by
      obtain same | ⟨discovered, -⟩ := openedStates.2
      · exact .inr (same.symm.trans receiving)
      · exact .inl (by simpa using discovered)
    exact settled.arriving arriving
  exact Effects.onlyIf fun _ => take_lawful bytes openedSound apart

theorem confirmed_exactly {exactConfirmation : Bool}
    (confirmed : (onUpdate (once (·.confirm exactConfirmation)) transaction).value = true)
    (required : (onUpdate (once (·.confirm exactConfirmation))
      transaction).final.contentUpdate.confirmationRequired = true) :
    exactConfirmation = true := by
  simp only [onUpdate, focus_run, once_run, ContentUpdate.confirm] at confirmed required
  split at confirmed
  · cases confirmed
  · rename_i passed
    rw [if_neg passed] at required
    simp only [Bool.or_eq_true, not_or, Bool.and_eq_true, not_and, Bool.not_eq_true',
      Bool.not_eq_false] at passed
    exact passed.2 required

theorem commit_lawful (exactConfirmation : Bool) (sound : transaction.Sound) :
    LawfulWrites (.activate exactConfirmation) (commitWrites exactConfirmation) transaction := by
  have confirms : LawfulWrites (.activate exactConfirmation)
      (onUpdate (once (·.confirm exactConfirmation))) transaction :=
    confirm_writes exactConfirmation sound
  refine Effects.andThen confirms (Effects.onlyIf fun confirmed => ?_)
  refine transition_writes (confirms.final sound)
    ContentUpdateState.noConfusion (fun _ required => ?_) ContentUpdateState.noConfusion
  rw [confirmed_exactly confirmed required]

theorem activate_lawful (settled : transaction.Settled) (exactConfirmation : Bool) :
    LawfulWrites (.activate exactConfirmation) (activateWrites exactConfirmation) transaction := by
  refine Effects.observingState (Effects.branch (fun _ => Effects.pure _) fun _ => ?_)
  have awaits : LawfulWrites (.activate exactConfirmation)
      (onlyIf (transaction.contentUpdate.state == .verified)
        (onUpdate (once (·.transition .awaitingConfirmation))) true) transaction :=
    Effects.onlyIf fun _ => transition_writes settled.sound
      ContentUpdateState.noConfusion ContentUpdateState.noConfusion ContentUpdateState.noConfusion
  refine Effects.andThen awaits (Effects.observing (Effects.onlyIf fun _ => ?_))
  exact commit_lawful exactConfirmation (awaits.final settled.sound)

/-- The writes of the nested verification. -/
theorem verify_update_lawful {digest : CString} (sound : transaction.Sound) :
    LawfulUpdate (.verifyPayload digest) transaction (ContentUpdate.verifyPayloadWrites digest)
      transaction.contentUpdate := by
  refine Effects.observingState (Effects.branch (fun _ => Effects.pure _) fun _ => ?_)
  refine Effects.branch (fun _ => ?_) fun same => ?_
  · exact Effects.andThen (transition_update sound ContentUpdateState.noConfusion
      ContentUpdateState.noConfusion ContentUpdateState.noConfusion) (Effects.pure _)
  · have isCandidate : transaction.contentUpdate.candidateDigest = digest := by simpa using same
    refine Effects.andThen (Effects.write (lawful_flag rfl rfl) (sound.flag rfl rfl rfl)) ?_
    exact transition_update (sound.flag rfl rfl rfl)
      (fun _ => congrArg TransactionCall.verifyPayload isCandidate.symm)
      ContentUpdateState.noConfusion ContentUpdateState.noConfusion

/-- What a nested verification that succeeds was given. -/
theorem verified_candidate {verified : ContentUpdate} {digest : CString}
    (succeeded : update.verifyPayload digest = (true, verified)) :
    update.candidateDigest = digest ∧ verified.candidateDigest = digest := by
  unfold ContentUpdate.verifyPayload at succeeded
  split at succeeded
  · cases succeeded
  · split at succeeded
    · cases succeeded
    · rename_i same
      have isCandidate : update.candidateDigest = digest := by simpa using same
      refine ⟨isCandidate, ?_⟩
      unfold ContentUpdate.transition at succeeded
      split at succeeded
      · cases succeeded
        exact isCandidate
      · cases succeeded

theorem verify_payload_lawful (settled : transaction.Settled) (digest : CString) :
    LawfulWrites (.verifyPayload digest) (verifyPayloadWrites digest) transaction := by
  refine Effects.observingState (Effects.branch (fun _ => Effects.pure _) fun admitted => ?_)
  have isStaged : transaction.state = .staged := by
    rw [settled.initialized] at admitted
    simpa using admitted
  have verifies := (@verify_update_lawful _ digest settled.sound).onUpdate
  have verifiedSound := verifies.final settled.sound
  refine Effects.andThen verifies (Effects.andThen (Effects.write ?_ ?_) (Effects.pure _))
  · refine lawful_lifecycle (fun isVerified => ?_) fun quarantined => ?_
    · have traced := ContentUpdate.verify_payload_traced digest transaction.contentUpdate
      simp only [onUpdate, focus_run, traced.1, traced.2] at isVerified ⊢
      cases result : transaction.contentUpdate.verifyPayload digest with
      | mk verified update =>
        rw [result] at isVerified
        cases verified with
        | false => cases isVerified
        | true => rw [(verified_candidate result).2]
    · exact absurd (isStaged.symm.trans quarantined) PackageState.noConfusion
  · exact verifiedSound.lifecycle fun staged => by
      split at staged <;> cases staged

theorem report_health_lawful (settled : transaction.Settled) (healthy : Bool) :
    LawfulWrites (.reportHealth healthy) (reportHealthWrites healthy) transaction := by
  refine Effects.observingState (Effects.branch (fun _ => Effects.pure _) fun _ => ?_)
  have reports : LawfulWrites (.reportHealth healthy)
      (onUpdate (ContentUpdate.reportHealthWrites healthy)) transaction := by
    refine LawfulUpdate.onUpdate (Effects.observingState
      (Effects.branch (fun _ => Effects.pure _) fun _ => ?_))
    refine Effects.andThen
      (Effects.write (lawful_flag rfl rfl) (settled.sound.flag rfl rfl rfl)) ?_
    refine Effects.branch (fun isHealthy => ?_) fun _ => ?_
    · exact transition_update (settled.sound.flag rfl rfl rfl) ContentUpdateState.noConfusion
        ContentUpdateState.noConfusion fun _ => by rw [isHealthy]
    · exact rollback_update (settled.sound.flag rfl rfl rfl)
  refine Effects.andThen reports (Effects.onlyIf fun reported => Effects.write ?_ ?_)
  · refine lawful_lifecycle (fun isVerified => ?_) fun quarantined => ?_
    · cases healthy with
      | true => cases isVerified
      | false => exact absurd isVerified settled.returns.2.1
    · have traced := ContentUpdate.report_health_traced healthy transaction.contentUpdate
      simp only [onUpdate, focus_run, traced.1] at reported
      obtain isState | isState := settled.quarantined quarantined <;>
        simp [ContentUpdate.reportHealth, isState] at reported
  · refine (reports.final settled.sound).lifecycle fun staged => ?_
    cases healthy with
    | true => cases staged
    | false => exact absurd staged settled.returns.1

theorem rollback_lawful (settled : transaction.Settled) :
    LawfulWrites .rollback rollbackWrites transaction := by
  refine Effects.observingState (Effects.branch (fun _ => Effects.pure _) fun _ => ?_)
  have reverts : LawfulWrites .rollback
      (onlyIf (transaction.initialized && transaction.contentUpdate.state != .rolledBack)
        (onUpdate (once ContentUpdate.rollback)) true) transaction :=
    Effects.onlyIf fun _ => (rollback_update settled.sound).onUpdate
  have sameState : (onlyIf (transaction.initialized &&
      transaction.contentUpdate.state != .rolledBack)
      (onUpdate (once ContentUpdate.rollback)) true transaction).final.state =
      transaction.state := by
    cases transaction.initialized && transaction.contentUpdate.state != .rolledBack <;> rfl
  have sameReturn : (onlyIf (transaction.initialized &&
      transaction.contentUpdate.state != .rolledBack)
      (onUpdate (once ContentUpdate.rollback)) true transaction).final.rollbackState =
      transaction.rollbackState := by
    cases transaction.initialized && transaction.contentUpdate.state != .rolledBack <;> rfl
  refine Effects.andThen reverts (Effects.onlyIf fun reverted => Effects.write ?_ ?_)
  · refine lawful_lifecycle (fun isVerified => ?_) fun quarantined => ?_
    · exact absurd (sameReturn.symm.trans isVerified) settled.returns.2.1
    · rw [sameState] at quarantined
      have ended : transaction.contentUpdate.state ≠ .rolledBack ∧
          ¬ (transaction.contentUpdate.state = .activating ∨
            transaction.contentUpdate.state = .healthy) := by
        obtain isState | isState := settled.quarantined quarantined <;> simp [isState]
      obtain ⟨-, refused⟩ | ⟨live, -⟩ := ContentUpdate.rollback_cases settled.sound.admitted
      · have attempted : (transaction.initialized &&
            transaction.contentUpdate.state != .rolledBack) = true := by
          simp [settled.initialized, ended.1]
        rw [attempted] at reverted
        simp [onUpdate, refused] at reverted
      · exact absurd live ended.2
  · refine (reverts.final settled.sound).lifecycle fun staged => ?_
    exact absurd (sameReturn.symm.trans staged) settled.returns.1

theorem call_lawful (settled : transaction.Settled) (call : TransactionCall) :
    LawfulWrites call call.writes transaction := by
  cases call with
  | receive bytes => exact receive_lawful settled bytes
  | verifyPayload digest => exact verify_payload_lawful settled digest
  | activate exactConfirmation => exact activate_lawful settled exactConfirmation
  | reportHealth healthy => exact report_health_lawful settled healthy
  | rollback => exact rollback_lawful settled

/-- An activation writes the nested update of a verified package, or nothing. -/
theorem activate_update (transaction : PackageTransaction) (exactConfirmation : Bool) :
    (transaction.activate exactConfirmation).2 = transaction ∨
      (transaction.state = .verified ∧ ∃ update,
        (transaction.activate exactConfirmation).2 =
          { transaction with contentUpdate := update }) := by
  unfold activate
  cases guarded : !transaction.initialized || transaction.state != .verified with
  | true => exact .inl rfl
  | false =>
    rw [Bool.or_eq_false_iff] at guarded
    refine .inr ⟨by simpa using guarded.2, ?_⟩
    simp only [Bool.false_eq_true, if_false]
    generalize (if transaction.contentUpdate.state == .verified then
      transaction.contentUpdate.transition .awaitingConfirmation
      else (true, transaction.contentUpdate)) = opened
    obtain ⟨awaiting, update⟩ := opened
    dsimp only
    split
    · exact ⟨_, rfl⟩
    · cases update.confirm exactConfirmation with
      | mk confirmed update => cases confirmed <;> exact ⟨_, rfl⟩

/-- A rollback that succeeds takes the package to its remembered state. -/
theorem rollback_update_state (sound : transaction.Sound) :
    transaction.rollback.2 = transaction ∨ ∃ update, transaction.rollback.2 =
      { transaction with contentUpdate := update, state := transaction.rollbackState } := by
  unfold rollback
  split
  · exact .inl rfl
  · split
    · obtain ⟨-, refused⟩ | ⟨-, reverted⟩ := ContentUpdate.rollback_cases sound.admitted
      · rw [refused]
        exact .inl rfl
      · rw [reverted]
        exact .inr ⟨_, rfl⟩
    · exact .inr ⟨_, rfl⟩

/-- A call leaves a settled transaction settled. -/
theorem Settled.apply (settled : transaction.Settled) (call : TransactionCall) :
    (call.apply transaction).2.Settled := by
  have lawful := call_lawful settled call
  have sound := lawful.final settled.sound
  rw [(call.writes_apply transaction).2] at sound
  have admitted := settled.sound.admitted
  cases call with
  | receive bytes =>
    obtain same | ⟨isState, same⟩ | ⟨isState, -, same⟩ | ⟨isState, -, same⟩ :=
      receive_cases settled.initialized bytes
    all_goals
      simp only [TransactionCall.apply, same] at sound ⊢
    · exact settled
    · have apart := settled.arriving (.inl isState)
      exact ⟨sound, settled.initialized, fun staged => absurd staged apart.1,
        fun quarantined => absurd quarantined apart.2, settled.returns⟩
    · have apart := settled.arriving isState
      exact ⟨sound, settled.initialized, fun staged => absurd staged apart.1,
        fun quarantined => absurd quarantined apart.2, settled.returns⟩
    · exact ⟨sound, settled.initialized, fun _ => rfl, fun _ => .inl rfl, settled.returns⟩
  | verifyPayload digest =>
    obtain ⟨-, same⟩ | ⟨isStaged, -, same⟩ | ⟨-, -, -, same⟩ | ⟨-, -, -, same⟩ :=
      verify_payload_cases settled.initialized digest
    all_goals
      simp only [TransactionCall.apply, same] at sound ⊢
    · exact settled
    · exact ⟨sound, settled.initialized, PackageState.noConfusion,
        fun _ => .inl (settled.staged isStaged), settled.returns⟩
    · exact ⟨sound, settled.initialized, PackageState.noConfusion, fun _ => .inr rfl,
        settled.returns⟩
    · exact ⟨sound, settled.initialized, PackageState.noConfusion, PackageState.noConfusion,
        settled.returns⟩
  | activate exactConfirmation =>
    obtain same | ⟨isVerified, update, same⟩ := activate_update transaction exactConfirmation
    all_goals
      simp only [TransactionCall.apply, same] at sound ⊢
    · exact settled
    · exact ⟨sound, settled.initialized,
        fun staged => absurd (isVerified.symm.trans staged) PackageState.noConfusion,
        fun quarantined => absurd (isVerified.symm.trans quarantined) PackageState.noConfusion,
        settled.returns⟩
  | reportHealth healthy =>
    obtain ⟨-, same⟩ | ⟨isState, same⟩ :=
      report_health_cases settled.initialized admitted healthy
    all_goals
      simp only [TransactionCall.apply, same] at sound ⊢
    · exact settled
    · refine ⟨sound, settled.initialized, fun staged => ?_, fun quarantined => ?_,
        settled.returns⟩
      · cases healthy with
        | true => cases staged
        | false => exact absurd staged settled.returns.1
      · cases healthy with
        | true => cases quarantined
        | false => exact absurd quarantined settled.returns.2.2
  | rollback =>
    obtain same | ⟨update, same⟩ := rollback_update_state settled.sound
    all_goals
      simp only [TransactionCall.apply, same] at sound ⊢
    · exact settled
    · exact ⟨sound, settled.initialized, fun staged => absurd staged settled.returns.1,
        fun quarantined => absurd quarantined settled.returns.2.2, settled.returns⟩

/-- A transaction that was begun is settled. -/
theorem begun_settled {manifest : ContentUpdateManifest} {environment : ContentUpdateEnvironment}
    {previousState : PackageState} {protectedPackage : Bool}
    (begun : begin manifest environment previousState protectedPackage =
      (.ok, some transaction)) : transaction.Settled := by
  obtain ⟨update, admitted, isSome, previous⟩ := begin_ok begun
  obtain ⟨same, isUpdate, fixed, shape⟩ := ContentUpdate.admit_ok admitted
  cases isUpdate
  cases isSome
  have discovered : update.state = .discovered := by rw [shape]
  have nothing : update.receivedBytes = 0 := by rw [shape]
  have notStaged : previousState ≠ .staged ∧ previousState ≠ .verified ∧
      previousState ≠ .quarantined := by
    obtain state | state | state | state := previous <;> simp [state]
  refine ⟨⟨fixed, ?_, ?_, ?_⟩, rfl, ?_, ?_, notStaged⟩
  · rw [nothing]
    exact UInt32.zero_le
  · simp [ContentUpdate.PastReception, discovered]
  · exact fun staged => absurd staged notStaged.1
  · exact fun staged => absurd staged notStaged.1
  · exact fun quarantined => absurd quarantined notStaged.2.2

/-- A run of calls, write by write. -/
def runWrites : List TransactionCall → Traced PackageTransaction Unit
  | [] => pure ()
  | call :: rest => do
    let _ ← call.writes
    runWrites rest

/-- The transaction after the first calls of a run. -/
def afterCalls (calls : List TransactionCall) (transaction : PackageTransaction) (index : Nat) :
    PackageTransaction :=
  Runs.reached (fun call transaction => (call.apply transaction).2) transaction calls index

theorem afterCalls_settled (settled : transaction.Settled) (calls : List TransactionCall)
    (index : Nat) : (afterCalls calls transaction index).Settled :=
  Runs.always (motive := PackageTransaction.Settled) settled
    (fun _ call _ before => before.apply call) index

/-- The writes of a run end where its calls do. -/
theorem runWrites_final (calls : List TransactionCall) (transaction : PackageTransaction) :
    (runWrites calls transaction).final =
      calls.foldl (fun transaction call => (call.apply transaction).2) transaction := by
  induction calls generalizing transaction with
  | nil => rfl
  | cons call rest ih =>
    rw [List.foldl_cons, ← (call.writes_apply transaction).2, ← ih]
    rfl

theorem run_lawful (settled : transaction.Settled) (calls : List TransactionCall) :
    Traced.Effects (fun before after => ∃ call ∈ calls, Lawful call before after) Sound
      (runWrites calls) transaction := by
  induction calls generalizing transaction with
  | nil => exact Effects.pure ()
  | cons call rest ih =>
    have first := call_lawful settled call
    have others := ih (settled.apply call)
    rw [← (call.writes_apply transaction).2] at others
    refine Effects.andThen (first.weaken ?_) (others.weaken ?_)
    · exact fun _ _ lawful => ⟨call, List.mem_cons_self, lawful⟩
    · rintro _ _ ⟨other, member, lawful⟩
      exact ⟨other, List.mem_cons_of_mem _ member, lawful⟩

/-- What has ended stays as it ended. -/
def KeepsEnd (before after : PackageTransaction) : Prop :=
  before.contentUpdate.Ended → after.contentUpdate.state = before.contentUpdate.state

theorem KeepsEnd.trans {first second third : PackageTransaction} (one : KeepsEnd first second)
    (other : KeepsEnd second third) : KeepsEnd first third := by
  intro ended
  have same := one ended
  have stillEnded : second.contentUpdate.Ended := by
    unfold ContentUpdate.Ended
    rw [same]
    exact ended
  exact (other stillEnded).trans same

instance : IsTrans PackageTransaction KeepsEnd := ⟨fun _ _ _ => KeepsEnd.trans⟩

/-- Along every run of calls on a begun transaction, at every intermediate moment:
the transaction is sound, an update that was quarantined or rolled back stays so, and
each write is one that its call may make. -/
theorem transaction_safe {manifest : ContentUpdateManifest}
    {environment : ContentUpdateEnvironment} {previousState : PackageState}
    {protectedPackage : Bool} (begun : begin manifest environment previousState
      protectedPackage = (.ok, some transaction)) (calls : List TransactionCall) :
    (∀ moment ∈ transaction :: (runWrites calls transaction).images, moment.Sound) ∧
      (transaction :: (runWrites calls transaction).images).Pairwise KeepsEnd ∧
      (∀ index call, calls[index]? = some call →
        (afterCalls calls transaction index ::
          (call.writes (afterCalls calls transaction index)).images).IsChain (Lawful call)) ∧
      (runWrites calls transaction).final =
        calls.foldl (fun transaction call => (call.apply transaction).2) transaction := by
  have settled := begun_settled begun
  have effects := run_lawful settled calls
  refine ⟨?_, ?_, ?_, runWrites_final calls transaction⟩
  · intro moment member
    obtain same | written := List.mem_cons.mp member
    · rw [same]
      exact settled.sound
    · exact effects.holds moment written
  · refine List.isChain_iff_pairwise.mp (effects.chain.imp ?_)
    rintro before after ⟨call, -, lawful⟩
    exact lawful.ended
  · intro index call _
    exact (call_lawful (afterCalls_settled settled calls index) call).chain

def sampleUpdateManifest : ContentUpdateManifest where
  contentType := .resource
  updateId := .literal "demo"
  candidateDigest := .ofBytes (List.replicate 64 97)
  previousDigest := .ofBytes (List.replicate 64 98)
  hardwareTarget := 1
  minimumApi := 1
  maximumApi := 1
  releaseSequence := 1
  contentBytes := 10
  signatureValid := true
  signerRevoked := false
  rollbackAvailable := true
  protectedTarget := false

/-- The transaction that is begun for the manifest. -/
def sampleTransaction : PackageTransaction where
  state := .installed
  rollbackState := .installed
  protectedPackage := false
  initialized := true
  contentUpdate := {
    updateId := .literal "demo"
    candidateDigest := .ofBytes (List.replicate 64 97)
    previousDigest := .ofBytes (List.replicate 64 98)
    state := .discovered
    contentType := .resource
    sequence := 1
    contentBytes := 10
    receivedBytes := 0
    rollbackAvailable := true
    confirmationRequired := true
    confirmationAuthorized := false
    payloadVerified := false
    healthReported := false }

/-- A run that ends rolled back, with a chunk and an activation that are refused. -/
def sampleCalls : List TransactionCall :=
  [.receive 4, .receive 0xFFFFFFFF, .receive 6, .verifyPayload (.ofBytes (List.replicate 64 97)),
    .activate false, .activate true, .reportHealth false, .receive 1]

theorem sample_transaction_safe :
    (runWrites sampleCalls sampleTransaction).images.length = 14 ∧
      (sampleTransaction :: (runWrites sampleCalls sampleTransaction).images).Pairwise KeepsEnd :=
  ⟨by decide +kernel,
    (transaction_safe
      (show begin sampleUpdateManifest ⟨1, 1, 0, 10⟩ .installed false =
        (.ok, some sampleTransaction) by decide +kernel) sampleCalls).2.1⟩

end PackageTransaction

end PoisonedOS
