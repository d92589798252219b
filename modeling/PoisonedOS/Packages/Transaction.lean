import PoisonedOS.Packages.ContentUpdate

/-!
# The package transaction

A package's lifecycle state runs beside the content update that carries its new
archive. `rollbackState` remembers the lifecycle state a failed or reverted step
returns to. The lifecycle state and the nested update state are written by
different functions, and not every pair of them that can be written belongs
together: a package stays `active` while its next update is still discovered or
receiving.

A record in use always holds an initialized transaction, so the flag is kept and
checked as in the source, and every reachable transaction has it set.
-/

namespace PoisonedOS

/-- `PoisonPackageState`, in the order of the source. -/
inductive PackageState where
  | installed
  | staged
  | verified
  | active
  | disabled
  | quarantined
  | removed
deriving DecidableEq, Repr

/-- The seven lifecycle states. -/
theorem PackageState.eq_cases (state : PackageState) :
    state = .installed ∨ state = .staged ∨ state = .verified ∨ state = .active ∨
      state = .disabled ∨ state = .quarantined ∨ state = .removed := by
  cases state <;> decide

/-- `PoisonPackageTransaction`. -/
structure PackageTransaction where
  state : PackageState
  rollbackState : PackageState
  protectedPackage : Bool
  initialized : Bool
  contentUpdate : ContentUpdate
deriving DecidableEq

namespace PackageTransaction

/-- The lifecycle edges of the static function `allowed`. -/
def allowed (current next : PackageState) : Bool :=
  match current, next with
  | .installed, .staged => true
  | .removed, .staged => true
  | .staged, .verified => true
  | .staged, .quarantined => true
  | .verified, .active => true
  | .active, .disabled => true
  | .active, .removed => true
  | .disabled, .active => true
  | .disabled, .removed => true
  | .quarantined, .removed => true
  | _, _ => false

/-- `poison_package_transaction_begin`: its verdict and, for `ok`, the
transaction it initializes. -/
def begin (manifest : ContentUpdateManifest) (environment : ContentUpdateEnvironment)
    (previousState : PackageState) (protectedPackage : Bool) :
    ContentUpdateAdmission × Option PackageTransaction :=
  if manifest.contentType == .firmware ||
      (previousState != .installed && previousState != .active &&
        previousState != .disabled && previousState != .removed) then
    (.invalid, none)
  else
    match ContentUpdate.admitUpdate manifest environment with
    | (.ok, some update) =>
      (.ok, some {
        state := previousState
        rollbackState := previousState
        protectedPackage
        initialized := true
        contentUpdate := update })
    | (admission, _) => (admission, none)

/-- `poison_package_receive`. A refused chunk can still have moved a discovered
update to `receiving`. -/
def receive (transaction : PackageTransaction) (bytes : UInt32) : Bool × PackageTransaction :=
  if !transaction.initialized then (false, transaction)
  else
    let (opened, update) :=
      if transaction.contentUpdate.state == .discovered then
        transaction.contentUpdate.transition .receiving
      else
        (true, transaction.contentUpdate)
    if !opened then (false, { transaction with contentUpdate := update })
    else
      match update.receive bytes with
      | (false, update) => (false, { transaction with contentUpdate := update })
      | (true, update) =>
        if update.receivedBytes == update.contentBytes then
          match update.transition .staged with
          | (false, update) => (false, { transaction with contentUpdate := update })
          | (true, update) => (true, { transaction with contentUpdate := update, state := .staged })
        else
          (true, { transaction with contentUpdate := update })

/-- `poison_package_verify_payload`. -/
def verifyPayload (transaction : PackageTransaction) (digest : CString) :
    Bool × PackageTransaction :=
  if !transaction.initialized || transaction.state != .staged then (false, transaction)
  else
    let (verified, update) := transaction.contentUpdate.verifyPayload digest
    (verified, { transaction with
      contentUpdate := update
      state := if verified then .verified else .quarantined })

/-- `poison_package_activate`. -/
def activate (transaction : PackageTransaction) (exactConfirmation : Bool) :
    Bool × PackageTransaction :=
  if !transaction.initialized || transaction.state != .verified then (false, transaction)
  else
    let (awaiting, update) :=
      if transaction.contentUpdate.state == .verified then
        transaction.contentUpdate.transition .awaitingConfirmation
      else
        (true, transaction.contentUpdate)
    if !awaiting || update.state != .awaitingConfirmation then
      (false, { transaction with contentUpdate := update })
    else
      match update.confirm exactConfirmation with
      | (false, update) => (false, { transaction with contentUpdate := update })
      | (true, update) =>
        let (activated, update) := update.transition .activating
        (activated, { transaction with contentUpdate := update })

/-- `poison_package_report_health`. -/
def reportHealth (transaction : PackageTransaction) (healthy : Bool) :
    Bool × PackageTransaction :=
  if !transaction.initialized then (false, transaction)
  else
    match transaction.contentUpdate.reportHealth healthy with
    | (false, update) => (false, { transaction with contentUpdate := update })
    | (true, update) =>
      (true, { transaction with
        contentUpdate := update
        state := if healthy then .active else transaction.rollbackState })

/-- `poison_package_transition`. -/
def transition (transaction : PackageTransaction) (next : PackageState) :
    Bool × PackageTransaction :=
  if (transaction.protectedPackage && next == .removed) || !allowed transaction.state next ||
      ((next == .staged || next == .verified || next == .active) &&
        (!transaction.initialized ||
          (next == .staged && transaction.contentUpdate.state != .staged) ||
          (next == .verified && transaction.contentUpdate.state != .verified) ||
          (next == .active && transaction.contentUpdate.state != .healthy))) then
    (false, transaction)
  else
    (true, { transaction with rollbackState := transaction.state, state := next })

/-- What a begun transaction looks like: the previous lifecycle state, twice,
around a freshly admitted update. -/
theorem begin_ok {manifest : ContentUpdateManifest} {environment : ContentUpdateEnvironment}
    {previousState : PackageState} {protectedPackage : Bool}
    {stored : Option PackageTransaction}
    (begun : begin manifest environment previousState protectedPackage = (.ok, stored)) :
    ∃ update, ContentUpdate.admitUpdate manifest environment = (.ok, some update) ∧
      stored = some {
        state := previousState
        rollbackState := previousState
        protectedPackage
        initialized := true
        contentUpdate := update } ∧
      (previousState = .installed ∨ previousState = .active ∨ previousState = .disabled ∨
        previousState = .removed) := by
  unfold begin at begun
  split at begun
  · simp at begun
  · rename_i admissible
    split at begun
    · rename_i update admitted
      simp only [Prod.mk.injEq, true_and] at begun
      refine ⟨update, admitted, begun.symm, ?_⟩
      cases previousState <;> simp_all
    · rename_i admission stored notOk admitted
      simp only [Prod.mk.injEq] at begun
      obtain ⟨isOk, -⟩ := begun
      subst isOk
      obtain ⟨update, isSome, -⟩ := ContentUpdate.admit_ok admitted
      exact absurd isSome (notOk update rfl)

variable {transaction : PackageTransaction}

/-- A begun transaction's update has just been discovered. -/
theorem begin_discovered {manifest : ContentUpdateManifest} {environment : ContentUpdateEnvironment}
    {previousState : PackageState} {protectedPackage : Bool}
    (begun : begin manifest environment previousState protectedPackage = (.ok, some transaction)) :
    transaction.contentUpdate.state = .discovered := by
  obtain ⟨update, admitted, isSome, -⟩ := begin_ok begun
  obtain ⟨same, isUpdate, -, shape⟩ := ContentUpdate.admit_ok admitted
  cases isUpdate
  cases isSome
  rw [shape]

/-- What receiving a chunk can do: nothing, open a discovered update, add the
chunk, or add the last chunk and stage the package. -/
theorem receive_cases (initialized : transaction.initialized = true) (bytes : UInt32) :
    let update := transaction.contentUpdate
    transaction.receive bytes = (false, transaction) ∨
    (update.state = .discovered ∧
      transaction.receive bytes =
        (false, { transaction with contentUpdate := { update with state := .receiving } })) ∨
    ((update.state = .discovered ∨ update.state = .receiving) ∧
      update.receivedBytes + bytes ≤ update.contentBytes ∧
      transaction.receive bytes =
        (true, { transaction with contentUpdate := { update with
          state := .receiving
          receivedBytes := update.receivedBytes + bytes } })) ∨
    ((update.state = .discovered ∨ update.state = .receiving) ∧
      update.receivedBytes + bytes = update.contentBytes ∧
      transaction.receive bytes =
        (true, { transaction with
          state := .staged
          contentUpdate := { update with
            state := .staged
            receivedBytes := update.receivedBytes + bytes } })) := by
  obtain ⟨state, rollbackState, protectedPackage, _, update⟩ := transaction
  simp only at initialized
  subst initialized
  simp only [receive, Bool.not_true, Bool.false_eq_true, if_false]
  by_cases discovered : update.state = .discovered
  · -- The chunk meets an update that this call has just opened.
    have opened : update.transition .receiving = (true, { update with state := .receiving }) := by
      simp [ContentUpdate.transition, ContentUpdate.allowed, discovered]
    simp only [discovered, beq_self_eq_true, if_true, opened]
    rcases ContentUpdate.receive_cases { update with state := .receiving } bytes with
      refused | ⟨-, fits, added⟩
    · exact .inr (.inl ⟨trivial, by simp [refused]⟩)
    · simp only [added, Bool.not_true, Bool.false_eq_true, if_false]
      split
      · rename_i complete
        refine .inr (.inr (.inr ⟨.inl trivial, by simpa using complete, ?_⟩))
        simp [ContentUpdate.transition, ContentUpdate.allowed, complete]
      · exact .inr (.inr (.inl ⟨.inl trivial, fits, rfl⟩))
  · have closed : (update.state == .discovered) = false := by simpa using discovered
    simp only [closed, Bool.not_true, Bool.false_eq_true, if_false]
    rcases ContentUpdate.receive_cases update bytes with refused | ⟨receiving, fits, added⟩
    · exact .inl (by simp [refused])
    · simp only [added]
      split
      · rename_i complete
        refine .inr (.inr (.inr ⟨.inr receiving, by simpa using complete, ?_⟩))
        simp [ContentUpdate.transition, ContentUpdate.allowed, receiving, complete]
      · exact .inr (.inr (.inl ⟨.inr receiving, fits, by rw [← receiving]⟩))

/-- What verifying a payload can do. A staged package always leaves `staged`; its
update follows only when it was staged too. -/
theorem verify_payload_cases (initialized : transaction.initialized = true) (digest : CString) :
    let update := transaction.contentUpdate
    (transaction.state ≠ .staged ∧ transaction.verifyPayload digest = (false, transaction)) ∨
    (transaction.state = .staged ∧ (update.state ≠ .staged ∨ boundedDigest digest = false) ∧
      transaction.verifyPayload digest = (false, { transaction with state := .quarantined })) ∨
    (transaction.state = .staged ∧ update.state = .staged ∧ update.candidateDigest ≠ digest ∧
      transaction.verifyPayload digest =
        (false, { transaction with
          state := .quarantined
          contentUpdate := { update with state := .quarantined } })) ∨
    (transaction.state = .staged ∧ update.state = .staged ∧ update.candidateDigest = digest ∧
      transaction.verifyPayload digest =
        (true, { transaction with
          state := .verified
          contentUpdate := { update with state := .verified, payloadVerified := true } })) := by
  intro update
  have unfolded : transaction.verifyPayload digest =
      if transaction.state = .staged then
        ((update.verifyPayload digest).1, { transaction with
          contentUpdate := (update.verifyPayload digest).2
          state := if (update.verifyPayload digest).1 then .verified else .quarantined })
      else (false, transaction) := by
    by_cases staged : transaction.state = .staged <;>
      simp [verifyPayload, initialized, staged, update]
  by_cases staged : transaction.state = .staged
  · rw [unfolded, if_pos staged]
    by_cases admissible : update.state = .staged ∧ boundedDigest digest = true
    · obtain ⟨updateStaged, bounded⟩ := admissible
      by_cases same : update.candidateDigest = digest
      · refine .inr (.inr (.inr ⟨staged, updateStaged, same, ?_⟩))
        simp [ContentUpdate.verifyPayload, updateStaged, bounded, same, ContentUpdate.transition,
          ContentUpdate.allowed]
      · refine .inr (.inr (.inl ⟨staged, updateStaged, same, ?_⟩))
        simp [ContentUpdate.verifyPayload, updateStaged, bounded, same, ContentUpdate.transition,
          ContentUpdate.allowed]
    · have refused : update.verifyPayload digest = (false, update) := by
        unfold ContentUpdate.verifyPayload
        rw [if_pos]
        by_cases updateStaged : update.state = .staged
        · simpa [updateStaged] using fun bounded => admissible ⟨updateStaged, bounded⟩
        · simp [updateStaged]
      refine .inr (.inl ⟨staged, ?_, by simp [refused, update]⟩)
      by_cases updateStaged : update.state = .staged
      · exact .inr (Bool.eq_false_iff.mpr fun bounded => admissible ⟨updateStaged, bounded⟩)
      · exact .inl updateStaged
  · exact .inl ⟨staged, by rw [unfolded, if_neg staged]⟩

/-- What activation can do to an admitted update: begin activating a verified
package whose update is verified or awaits confirmation, or nothing. -/
theorem activate_cases (initialized : transaction.initialized = true)
    (admitted : ContentUpdate.Admitted transaction.contentUpdate.identity) :
    let update := transaction.contentUpdate
    (¬ (transaction.state = .verified ∧
        (update.state = .verified ∨ update.state = .awaitingConfirmation)) ∧
      transaction.activate true = (false, transaction)) ∨
    (transaction.state = .verified ∧
      (update.state = .verified ∨ update.state = .awaitingConfirmation) ∧
      transaction.activate true =
        (true, { transaction with contentUpdate := { update with
          state := .activating
          confirmationAuthorized := true } })) := by
  obtain ⟨state, rollbackState, protectedPackage, _, update⟩ := transaction
  simp only at initialized admitted ⊢
  subst initialized
  have nonempty : update.candidateDigest.isEmpty = false :=
    ContentUpdate.bounded_digest_nonempty admitted.candidate
  have revertible : update.rollbackAvailable = true := admitted.revertible
  by_cases verified : state = .verified
  · by_cases ready : update.state = .verified ∨ update.state = .awaitingConfirmation
    · refine .inr ⟨verified, ready, ?_⟩
      rcases ready with isVerified | isAwaiting
      · simp [activate, verified, isVerified, ContentUpdate.transition,
          ContentUpdate.allowed, ContentUpdate.confirm, ContentUpdate.canActivate, nonempty,
          revertible]
      · simp [activate, verified, isAwaiting, ContentUpdate.transition,
          ContentUpdate.allowed, ContentUpdate.confirm, ContentUpdate.canActivate, nonempty,
          revertible]
    · refine .inl ⟨fun both => ready both.2, ?_⟩
      rw [not_or] at ready
      simp [activate, verified, ready.1, ready.2]
  · refine .inl ⟨fun both => verified both.1, ?_⟩
    simp [activate, verified]

/-- What a health report can do to an admitted update: settle an activating one,
or nothing. -/
theorem report_health_cases (initialized : transaction.initialized = true)
    (admitted : ContentUpdate.Admitted transaction.contentUpdate.identity) (healthy : Bool) :
    let update := transaction.contentUpdate
    (update.state ≠ .activating ∧ transaction.reportHealth healthy = (false, transaction)) ∨
    (update.state = .activating ∧
      transaction.reportHealth healthy =
        (true, { transaction with
          state := if healthy then .active else transaction.rollbackState
          contentUpdate := { update with
            state := if healthy then .healthy else .rolledBack
            healthReported := true } })) := by
  obtain ⟨state, rollbackState, protectedPackage, _, update⟩ := transaction
  simp only at initialized admitted ⊢
  subst initialized
  have nonempty : update.previousDigest.isEmpty = false :=
    ContentUpdate.bounded_digest_nonempty admitted.previous
  have revertible : update.rollbackAvailable = true := admitted.revertible
  by_cases activating : update.state = .activating
  · refine .inr ⟨activating, ?_⟩
    cases healthy <;>
      simp [reportHealth, ContentUpdate.reportHealth, activating,
        ContentUpdate.transition, ContentUpdate.allowed, ContentUpdate.rollback, nonempty,
        revertible]
  · refine .inl ⟨activating, ?_⟩
    simp [reportHealth, ContentUpdate.reportHealth, activating]

/-- What a lifecycle transition can do: take an allowed edge and remember where
it came from, or nothing. -/
theorem transition_cases (transaction : PackageTransaction) (next : PackageState) :
    transaction.transition next = (false, transaction) ∨
    (allowed transaction.state next = true ∧
      (next = .removed → transaction.protectedPackage = false) ∧
      (next = .active → transaction.contentUpdate.state = .healthy) ∧
      transaction.transition next =
        (true, { transaction with rollbackState := transaction.state, state := next })) := by
  unfold transition
  split
  · exact .inl rfl
  · rename_i passed
    simp only [Bool.or_eq_true, not_or, Bool.and_eq_true, not_and, Bool.not_eq_true',
      Bool.not_eq_false, beq_iff_eq, bne_iff_ne, ne_eq, not_not] at passed
    refine .inr ⟨passed.1.2, ?_, ?_, rfl⟩
    · intro isRemoved
      exact Bool.eq_false_iff.mpr fun isProtected => passed.1.1 isProtected isRemoved
    · intro isActive
      exact (passed.2 (.inr isActive)).2 isActive

end PackageTransaction

end PoisonedOS
