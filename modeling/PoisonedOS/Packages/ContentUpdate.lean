import PoisonedOS.Library.Text

/-!
# The content-update state machine

One content update moves from discovery over reception, staging, verification
and confirmation to activation, and ends healthy, rolled back or quarantined.
Each function takes the update it would modify in place and returns its result
together with the update it leaves behind, because several of them change the
update and still report failure.

A successful step changes the state, the received byte count and the three
progress flags only. The digests, the identifier, the type and the declared
sizes are fixed by `begin` and `admitUpdate`.
-/

namespace PoisonedOS

/-- `PoisonContentUpdateState`, in the order of the source. -/
inductive ContentUpdateState where
  | discovered
  | receiving
  | staged
  | verified
  | awaitingConfirmation
  | activating
  | healthy
  | rolledBack
  | quarantined
deriving DecidableEq, Repr

/-- `PoisonContentUpdateType` without its counting sentinel, which no modelled
caller passes. -/
inductive ContentUpdateType where
  | application
  | firmware
  | lesson
  | toolData
  | theme
  | fontIcon
  | menu
  | resource
  | uiPack
deriving DecidableEq, Repr

/-- `PoisonContentUpdateAdmission`. -/
inductive ContentUpdateAdmission where
  | ok
  | invalid
  | tampered
  | wrongTarget
  | incompatibleApi
  | downgrade
  | revokedSigner
  | insufficientStorage
  | missingRollback
deriving DecidableEq, Repr

/-- `PoisonContentUpdateManifest`. -/
structure ContentUpdateManifest where
  contentType : ContentUpdateType
  updateId : CString
  candidateDigest : CString
  previousDigest : CString
  hardwareTarget : UInt32
  minimumApi : UInt32
  maximumApi : UInt32
  releaseSequence : UInt32
  contentBytes : UInt32
  signatureValid : Bool
  signerRevoked : Bool
  rollbackAvailable : Bool
  protectedTarget : Bool

/-- `PoisonContentUpdateEnvironment`. -/
structure ContentUpdateEnvironment where
  hardwareTarget : UInt32
  firmwareApi : UInt32
  highestReleaseSequence : UInt32
  availableStorageBytes : UInt32

/-- `PoisonContentUpdate`. -/
structure ContentUpdate where
  updateId : CString
  candidateDigest : CString
  previousDigest : CString
  state : ContentUpdateState
  contentType : ContentUpdateType
  sequence : UInt32
  contentBytes : UInt32
  receivedBytes : UInt32
  rollbackAvailable : Bool
  confirmationRequired : Bool
  confirmationAuthorized : Bool
  payloadVerified : Bool
  healthReported : Bool
deriving DecidableEq

/-- `POISON_CONTENT_UPDATE_MAX_ID`, the buffer size with its terminator. -/
def contentUpdateMaxId : Nat := 64

/-- `POISON_CONTENT_UPDATE_MAX_DIGEST`, the buffer size with its terminator. -/
def contentUpdateMaxDigest : Nat := 65

/-- Exactly the lower-case hexadecimal rendering of 32 bytes. -/
def boundedDigest (value : CString) : Bool :=
  value.length == contentUpdateMaxDigest - 1 && value.bytes.all isLowerHex

/-- A lower-case letter or digit, then letters, digits and `.`, `-`, `_`, short
enough for the identifier buffer. -/
def boundedId (value : CString) : Bool :=
  match value.bytes with
  | [] => false
  | head :: rest =>
    decide (value.length < contentUpdateMaxId) && (isLower head || isDigit head) &&
      rest.all fun byte => isLower byte || isDigit byte || byte == 46 || byte == 45 || byte == 95

namespace ContentUpdate

/-- `poison_content_update_requires_confirmation`. -/
def requiresConfirmation (contentType : ContentUpdateType) (protectedTarget : Bool) : Bool :=
  protectedTarget || contentType == .firmware || contentType == .resource

/-- `poison_content_update_begin`: the update it initializes, or `none` when it
refuses and leaves the caller's update alone. The identifier and both digests
fit their buffers by the checks, so the copies keep them whole. -/
def begin (updateId candidateDigest previousDigest : CString) (sequence : UInt32) :
    Option ContentUpdate :=
  if !boundedId updateId || !boundedDigest candidateDigest || !boundedDigest previousDigest ||
      sequence == 0 then
    none
  else
    some {
      updateId, candidateDigest, previousDigest
      state := .discovered
      contentType := .application
      sequence
      contentBytes := 0
      receivedBytes := 0
      rollbackAvailable := true
      confirmationRequired := false
      confirmationAuthorized := false
      payloadVerified := false
      healthReported := false }

/-- `poison_content_update_admit`: its verdict and, for `ok`, the update it
initializes. -/
def admitUpdate (manifest : ContentUpdateManifest) (environment : ContentUpdateEnvironment) :
    ContentUpdateAdmission × Option ContentUpdate :=
  if manifest.hardwareTarget == 0 || manifest.minimumApi == 0 ||
      manifest.maximumApi < manifest.minimumApi || manifest.contentBytes == 0 ||
      environment.hardwareTarget == 0 || environment.firmwareApi == 0 ||
      !boundedId manifest.updateId || !boundedDigest manifest.candidateDigest ||
      !boundedDigest manifest.previousDigest ||
      manifest.candidateDigest == manifest.previousDigest then
    (.invalid, none)
  else if !manifest.signatureValid then (.tampered, none)
  else if manifest.signerRevoked then (.revokedSigner, none)
  else if manifest.hardwareTarget != environment.hardwareTarget then (.wrongTarget, none)
  else if environment.firmwareApi < manifest.minimumApi ||
      environment.firmwareApi > manifest.maximumApi then
    (.incompatibleApi, none)
  else if manifest.releaseSequence ≤ environment.highestReleaseSequence then (.downgrade, none)
  else if manifest.contentBytes > environment.availableStorageBytes then
    (.insufficientStorage, none)
  else if !manifest.rollbackAvailable then (.missingRollback, none)
  else
    match begin manifest.updateId manifest.candidateDigest manifest.previousDigest
        manifest.releaseSequence with
    | none => (.invalid, none)
    | some update =>
      (.ok, some { update with
        contentType := manifest.contentType
        contentBytes := manifest.contentBytes
        rollbackAvailable := manifest.rollbackAvailable
        confirmationRequired :=
          requiresConfirmation manifest.contentType manifest.protectedTarget })

/-- `poison_content_update_can_activate`. -/
def canActivate (update : ContentUpdate) : Bool :=
  update.state == .awaitingConfirmation && !update.candidateDigest.isEmpty &&
    update.rollbackAvailable && (!update.confirmationRequired || update.confirmationAuthorized)

/-- The edges `poison_content_update_transition` allows, with their guards. -/
def allowed (update : ContentUpdate) (next : ContentUpdateState) : Bool :=
  match update.state, next with
  | .discovered, .receiving => true
  | .receiving, .staged =>
    update.contentBytes == 0 || update.receivedBytes == update.contentBytes
  | .receiving, .quarantined => true
  | .staged, .verified => update.contentBytes == 0 || update.payloadVerified
  | .staged, .quarantined => true
  | .verified, .awaitingConfirmation => true
  | .awaitingConfirmation, .activating => canActivate update
  | .activating, .healthy => update.healthReported
  | .activating, .rolledBack => true
  | _, _ => false

/-- `poison_content_update_transition`. -/
def transition (update : ContentUpdate) (next : ContentUpdateState) : Bool × ContentUpdate :=
  if allowed update next then (true, { update with state := next }) else (false, update)

/-- `poison_content_update_receive`. -/
def receive (update : ContentUpdate) (bytes : UInt32) : Bool × ContentUpdate :=
  if update.state != .receiving || bytes == 0 || update.contentBytes == 0 ||
      update.receivedBytes > update.contentBytes ||
      bytes > update.contentBytes - update.receivedBytes then
    (false, update)
  else
    (true, { update with receivedBytes := update.receivedBytes + bytes })

/-- `poison_content_update_verify_payload`. A digest of the right shape that is
not the candidate's quarantines the update. -/
def verifyPayload (update : ContentUpdate) (actualDigest : CString) : Bool × ContentUpdate :=
  if update.state != .staged || !boundedDigest actualDigest then (false, update)
  else if update.candidateDigest != actualDigest then
    (false, (transition update .quarantined).2)
  else
    transition { update with payloadVerified := true } .verified

/-- `poison_content_update_confirm`. -/
def confirm (update : ContentUpdate) (exactConfirmation : Bool) : Bool × ContentUpdate :=
  if update.state != .awaitingConfirmation ||
      (update.confirmationRequired && !exactConfirmation) then
    (false, update)
  else
    (true, { update with confirmationAuthorized := true })

/-- `poison_content_update_rollback`. -/
def rollback (update : ContentUpdate) : Bool × ContentUpdate :=
  if !update.rollbackAvailable || update.previousDigest.isEmpty then (false, update)
  else if update.state != .activating && update.state != .healthy then (false, update)
  else (true, { update with state := .rolledBack })

/-- `poison_content_update_cancel`. -/
def cancel (update : ContentUpdate) : Bool × ContentUpdate :=
  match update.state with
  | .activating | .healthy | .rolledBack | .quarantined => (false, update)
  | _ =>
    if !update.rollbackAvailable then (false, { update with state := .quarantined })
    else (true, { update with state := .rolledBack })

/-- `poison_content_update_report_health`. The report itself is recorded even
when the rollback it asks for is refused. -/
def reportHealth (update : ContentUpdate) (healthy : Bool) : Bool × ContentUpdate :=
  if update.state != .activating then (false, update)
  else
    let reported := { update with healthReported := true }
    if healthy then transition reported .healthy else rollback reported

/-- The part of an update that only `begin` and `admitUpdate` write. -/
structure Identity where
  updateId : CString
  candidateDigest : CString
  previousDigest : CString
  contentType : ContentUpdateType
  sequence : UInt32
  contentBytes : UInt32
  rollbackAvailable : Bool
  confirmationRequired : Bool
deriving DecidableEq

/-- The fixed part of an update. -/
def identity (update : ContentUpdate) : Identity where
  updateId := update.updateId
  candidateDigest := update.candidateDigest
  previousDigest := update.previousDigest
  contentType := update.contentType
  sequence := update.sequence
  contentBytes := update.contentBytes
  rollbackAvailable := update.rollbackAvailable
  confirmationRequired := update.confirmationRequired

/-- What `admitUpdate` guarantees of an admitted update, and every later step keeps:
the facts a persisted record is checked for. -/
structure Admitted (fixed : Identity) : Prop where
  identified : boundedId fixed.updateId = true
  candidate : boundedDigest fixed.candidateDigest = true
  previous : boundedDigest fixed.previousDigest = true
  distinct : fixed.candidateDigest ≠ fixed.previousDigest
  sequenced : fixed.sequence ≠ 0
  sized : fixed.contentBytes ≠ 0
  revertible : fixed.rollbackAvailable = true

/-- A digest of the right shape is a non-empty string. -/
theorem bounded_digest_nonempty {value : CString} (bounded : boundedDigest value = true) :
    value.isEmpty = false := by
  apply CString.isEmpty_false_of_length
  simp only [boundedDigest, contentUpdateMaxDigest, Bool.and_eq_true, beq_iff_eq] at bounded
  omega

/-- Admission yields a fresh update in `discovered` with the manifest's data. -/
theorem admit_ok {manifest : ContentUpdateManifest} {environment : ContentUpdateEnvironment}
    {stored : Option ContentUpdate} (admitted : admitUpdate manifest environment = (.ok, stored)) :
    ∃ update, stored = some update ∧ Admitted update.identity ∧
      update = {
        updateId := manifest.updateId
        candidateDigest := manifest.candidateDigest
        previousDigest := manifest.previousDigest
        state := .discovered
        contentType := manifest.contentType
        sequence := manifest.releaseSequence
        contentBytes := manifest.contentBytes
        receivedBytes := 0
        rollbackAvailable := true
        confirmationRequired :=
          requiresConfirmation manifest.contentType manifest.protectedTarget
        confirmationAuthorized := false
        payloadVerified := false
        healthReported := false } := by
  unfold admitUpdate at admitted
  split at admitted
  · simp at admitted
  rename_i wellFormed
  iterate 6
    split at admitted
    · simp at admitted
  split at admitted
  · simp at admitted
  rename_i available
  cases begun : begin manifest.updateId manifest.candidateDigest manifest.previousDigest
      manifest.releaseSequence with
  | none => simp [begun] at admitted
  | some fresh =>
    simp only [begun, Prod.mk.injEq, true_and] at admitted
    simp only [begin] at begun
    split at begun
    · simp at begun
    rename_i nonzero
    simp only [Option.some.injEq] at begun
    subst begun
    simp only [Bool.or_eq_true, not_or, Bool.not_eq_true', Bool.not_eq_false, beq_iff_eq,
      decide_eq_true_eq] at wellFormed nonzero available
    refine ⟨_, admitted.symm, ⟨?_, ?_, ?_, ?_, ?_, ?_, ?_⟩, ?_⟩
    all_goals simp_all [identity]

/-- Reception within the declared size adds the bytes and stays within it. -/
theorem receive_cases (update : ContentUpdate) (bytes : UInt32) :
    receive update bytes = (false, update) ∨
    (update.state = .receiving ∧ update.receivedBytes + bytes ≤ update.contentBytes ∧
      receive update bytes =
        (true, { update with receivedBytes := update.receivedBytes + bytes })) := by
  unfold receive
  split
  · exact .inl rfl
  · rename_i accepted
    simp only [Bool.or_eq_true, not_or, bne_iff_ne, ne_eq, not_not, beq_iff_eq,
      decide_eq_true_eq, gt_iff_lt, UInt32.not_lt] at accepted
    obtain ⟨⟨⟨⟨receiving, -⟩, -⟩, within⟩, fits⟩ := accepted
    refine .inr ⟨receiving, ?_, rfl⟩
    rw [UInt32.le_iff_toNat_le] at within fits ⊢
    rw [UInt32.toNat_sub_of_le _ _ (UInt32.le_iff_toNat_le.mpr within)] at fits
    have := update.contentBytes.toNat_lt
    rw [UInt32.toNat_add, Nat.mod_eq_of_lt (by omega)]
    omega

/-- An admitted update rolls back exactly while activating or healthy. -/
theorem rollback_cases {update : ContentUpdate} (admitted : Admitted update.identity) :
    (¬ (update.state = .activating ∨ update.state = .healthy) ∧
      update.rollback = (false, update)) ∨
    ((update.state = .activating ∨ update.state = .healthy) ∧
      update.rollback = (true, { update with state := .rolledBack })) := by
  have nonempty : update.previousDigest.isEmpty = false := bounded_digest_nonempty admitted.previous
  have revertible : update.rollbackAvailable = true := admitted.revertible
  by_cases live : update.state = .activating ∨ update.state = .healthy
  · refine .inr ⟨live, ?_⟩
    rcases live with state | state <;> simp [rollback, nonempty, revertible, state]
  · refine .inl ⟨live, ?_⟩
    rw [not_or] at live
    simp [rollback, nonempty, revertible, live.1, live.2]

end ContentUpdate

end PoisonedOS
