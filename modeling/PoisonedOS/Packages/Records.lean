import PoisonedOS.Packages.Persistence

/-!
# What an operation keeps of a record

`Sound` is the invariant of a record over every operation: the persistence
conditions, the facts of admission, and how the record's two digests follow its
content update. It is stronger than the persistence check, which says nothing of
the previous digest before a rollback.

One step breaks it. A rejected verification writes `quarantined` into the update
without looking at the update's state, and a record whose update had been rolled
back then no longer carries the digest its state calls for.
-/

namespace PoisonedOS

open RecordOperation (apply)

namespace PackageRecord

/-- The invariant of a stored record. -/
structure Sound (record : PackageRecord) : Prop where
  typed : packageContentTypeParse record.contentType =
    some record.transaction.contentUpdate.contentType
  identified : packageIdValid record.packageId = true
  versioned : packageTextValid record.version packageVersionMax = true
  digested : boundedDigest record.digest = true
  previousDigested : boundedDigest record.previousDigest = true
  signed : packageTextValid record.signingKeyId packageSigningKeyMax = true
  located : packageManifestPathValid record.manifestPath = true
  entered : packageEntrypointValid record.entrypoint = true
  previousVersioned : record.previousVersion.isEmpty = true ∨
    packageTextValid record.previousVersion packageVersionMax = true
  initialized : record.transaction.initialized = true
  named : record.transaction.contentUpdate.updateId = record.packageId
  admitted : ContentUpdate.Admitted record.transaction.contentUpdate.identity
  received : record.transaction.contentUpdate.receivedBytes ≤
    record.transaction.contentUpdate.contentBytes
  current : record.transaction.contentUpdate.state ≠ .rolledBack →
    record.digest = record.transaction.contentUpdate.candidateDigest ∧
      record.previousDigest = record.transaction.contentUpdate.previousDigest
  reverted : record.transaction.contentUpdate.state = .rolledBack →
    record.digest = record.transaction.contentUpdate.previousDigest

variable {record : PackageRecord}

/-- A sound record passes the persistence check. -/
theorem Sound.persistable (sound : record.Sound) :
    record.Persistable where
  typed := sound.typed
  identified := sound.identified
  versioned := sound.versioned
  digested := sound.digested
  previousDigested := sound.previousDigested
  signed := sound.signed
  located := sound.located
  entered := sound.entered
  initialized := sound.initialized
  named := sound.named
  digestAgrees := by
    split
    · exact sound.reverted ‹_›
    · exact (sound.current ‹_›).1
  sequenced := sound.admitted.sequenced
  sized := sound.admitted.sized
  received := sound.received
  previousVersioned := sound.previousVersioned

/-- A change of the transaction keeps soundness when it leaves the fixed part of
the update alone, keeps reception in bounds and neither enters nor leaves the
rolled-back state. -/
theorem Sound.of_transaction (sound : record.Sound) {transaction : PackageTransaction}
    (initialized : transaction.initialized = true)
    (fixed : transaction.contentUpdate.identity = record.transaction.contentUpdate.identity)
    (received : transaction.contentUpdate.receivedBytes ≤ transaction.contentUpdate.contentBytes)
    (settled : transaction.contentUpdate.state = .rolledBack ↔
      record.transaction.contentUpdate.state = .rolledBack) :
    { record with transaction }.Sound := by
  have sameId := congrArg ContentUpdate.Identity.updateId fixed
  have sameCandidate := congrArg ContentUpdate.Identity.candidateDigest fixed
  have samePrevious := congrArg ContentUpdate.Identity.previousDigest fixed
  have sameType := congrArg ContentUpdate.Identity.contentType fixed
  simp only [ContentUpdate.identity] at sameId sameCandidate samePrevious sameType
  exact {
    typed := by rw [sameType]; exact sound.typed
    identified := sound.identified
    versioned := sound.versioned
    digested := sound.digested
    previousDigested := sound.previousDigested
    signed := sound.signed
    located := sound.located
    entered := sound.entered
    previousVersioned := sound.previousVersioned
    initialized
    named := sameId.trans sound.named
    admitted := by rw [fixed]; exact sound.admitted
    received
    current := fun notReverted => by
      rw [sameCandidate, samePrevious]
      exact sound.current fun reverted => notReverted (settled.mpr reverted)
    reverted := fun reverted => by
      rw [samePrevious]
      exact sound.reverted (settled.mp reverted) }

theorem Sound.quarantine_both (sound : record.Sound)
    (notReverted : record.transaction.contentUpdate.state ≠ .rolledBack) :
    record.quarantineBoth.Sound :=
  sound.of_transaction sound.initialized rfl sound.received (by simp [notReverted])

/-- An accepted unhealthy report names the previous version and digest again. -/
theorem Sound.unhealthy (sound : record.Sound)
    (activating : record.transaction.contentUpdate.state = .activating) :
    (record.reportHealth false).record.Sound ∧ (record.reportHealth false).result = true := by
  have notReverted : record.transaction.contentUpdate.state ≠ .rolledBack := by
    rw [activating]; decide
  have nonempty : record.previousDigest.isEmpty = false :=
    ContentUpdate.bounded_digest_nonempty sound.previousDigested
  rcases PackageTransaction.report_health_cases sound.initialized sound.admitted false with
    ⟨otherwise, -⟩ | ⟨-, reported⟩
  · exact absurd activating otherwise
  · unfold reportHealth
    rw [reported]
    simp only [nonempty, Bool.false_eq_true, if_false, and_true]
    exact {
      typed := sound.typed
      identified := sound.identified
      versioned := by
        cases retained : record.previousVersion.isEmpty with
        | true => simpa only [if_true] using sound.versioned
        | false =>
          simpa only [Bool.false_eq_true, if_false] using
            sound.previousVersioned.resolve_left (by simp [retained])
      digested := sound.previousDigested
      previousDigested := sound.previousDigested
      signed := sound.signed
      located := sound.located
      entered := sound.entered
      previousVersioned := sound.previousVersioned
      initialized := sound.initialized
      named := sound.named
      admitted := sound.admitted
      received := sound.received
      current := fun impossible => absurd rfl impossible
      reverted := fun _ => (sound.current notReverted).2 }

/-- What rolling a record back can do: exchange version and digest with the
previous ones of a live package whose update can still be reverted, or nothing. -/
theorem rollback_cases (admitted : ContentUpdate.Admitted record.transaction.contentUpdate.identity)
    (exactConfirmation : Bool) :
    record.rollback exactConfirmation = ⟨false, record, false⟩ ∨
    (exactConfirmation = true ∧ record.previousVersion.isEmpty = false ∧
      (record.transaction.state = .active ∨ record.transaction.state = .disabled) ∧
      (record.transaction.contentUpdate.state = .activating ∨
        record.transaction.contentUpdate.state = .healthy) ∧
      record.rollback exactConfirmation =
        ⟨true, { record with
          version := record.previousVersion
          digest := record.previousDigest
          previousVersion := record.version
          previousDigest := record.digest
          transaction := { record.transaction with
            contentUpdate := { record.transaction.contentUpdate with state := .rolledBack }
            state := .active } }, true⟩) := by
  unfold rollback
  split
  · exact .inl rfl
  rename_i passed
  simp only [Bool.or_eq_true, not_or, Bool.not_eq_true', Bool.not_eq_false, Bool.and_eq_true,
    bne_iff_ne, Bool.not_eq_true, not_and, ne_eq, not_not] at passed
  obtain ⟨⟨⟨confirmed, retained⟩, -⟩, live⟩ := passed
  rcases ContentUpdate.rollback_cases admitted with ⟨-, refused⟩ | ⟨revertible, reverted⟩
  · rw [refused]
    exact .inl rfl
  · rw [reverted]
    exact .inr ⟨confirmed, retained, Classical.or_iff_not_imp_left.mpr live, revertible, rfl⟩

def moved (record : PackageRecord) (state : PackageState) (contentUpdate : ContentUpdate) :
    PackageRecord :=
  { record with transaction := { record.transaction with state, contentUpdate } }

/-- The content update of a record. -/
abbrev update (record : PackageRecord) : ContentUpdate := record.transaction.contentUpdate

/-- What an operation can do to a record. -/
inductive Effect (record : PackageRecord) : RecordOperation → RecordStep → Prop where
  | same {operation : RecordOperation} {changed : Bool} :
      Effect record operation ⟨false, record, changed⟩
  | opened {bytes : UInt32} (discovered : record.update.state = .discovered) :
      Effect record (.receive bytes) ⟨false, record.moved record.transaction.state
        { record.update with state := .receiving }, false⟩
  | added {bytes : UInt32}
      (fresh : record.update.state = .discovered ∨ record.update.state = .receiving)
      (fits : record.update.receivedBytes + bytes ≤ record.update.contentBytes) :
      Effect record (.receive bytes) ⟨true, record.moved record.transaction.state
        { record.update with
          state := .receiving, receivedBytes := record.update.receivedBytes + bytes }, true⟩
  | completed {bytes : UInt32}
      (fresh : record.update.state = .discovered ∨ record.update.state = .receiving)
      (whole : record.update.receivedBytes + bytes = record.update.contentBytes) :
      Effect record (.receive bytes) ⟨true, record.moved .staged { record.update with
        state := .staged, receivedBytes := record.update.receivedBytes + bytes }, true⟩
  | refused {digest : CString} :
      Effect record (.verify digest false) ⟨false, record.quarantineBoth, true⟩
  | rejected {digest : CString} (staged : record.transaction.state = .staged) :
      Effect record (.verify digest true) ⟨false, record.moved .quarantined record.update, true⟩
  | mismatched {digest : CString} (staged : record.transaction.state = .staged)
      (updated : record.update.state = .staged) :
      Effect record (.verify digest true) ⟨false, record.moved .quarantined
        { record.update with state := .quarantined }, true⟩
  | verified {digest : CString} (staged : record.transaction.state = .staged)
      (updated : record.update.state = .staged) :
      Effect record (.verify digest true) ⟨true, record.moved .verified
        { record.update with state := .verified, payloadVerified := true }, true⟩
  | activated {exactConfirmation : Bool} (verified : record.transaction.state = .verified)
      (ready : record.update.state = .verified ∨ record.update.state = .awaitingConfirmation) :
      Effect record (.activate exactConfirmation) ⟨true, record.moved record.transaction.state
        { record.update with state := .activating, confirmationAuthorized := true }, true⟩
  | healthy (activating : record.update.state = .activating) :
      Effect record (.reportHealth true) ⟨true, record.moved .active
        { record.update with state := .healthy, healthReported := true }, true⟩
  | unhealthy (activating : record.update.state = .activating) :
      Effect record (.reportHealth false) ⟨true,
        { record.moved record.transaction.rollbackState { record.update with
            state := .rolledBack, healthReported := true } with
          version :=
            if record.previousVersion.isEmpty then record.version else record.previousVersion
          digest :=
            if record.previousDigest.isEmpty then record.digest else record.previousDigest }, true⟩
  | toggled {enabled exactConfirmation : Bool}
      (edge : PackageTransaction.allowed record.transaction.state
        (if enabled then .active else .disabled) = true)
      (settled : enabled = true → record.update.state = .healthy) :
      Effect record (.setEnabled enabled exactConfirmation) ⟨true, { record with
        transaction := { record.transaction with
          rollbackState := record.transaction.state
          state := if enabled then .active else .disabled } }, true⟩
  | removed (edge : PackageTransaction.allowed record.transaction.state .removed = true)
      (unprotected : record.transaction.protectedPackage = false) :
      Effect record (.remove true) ⟨true, { record with
        transaction := { record.transaction with
          rollbackState := record.transaction.state
          state := .removed } }, true⟩
  | swapped (retained : record.previousVersion.isEmpty = false)
      (live : record.transaction.state = .active ∨ record.transaction.state = .disabled)
      (revertible : record.update.state = .activating ∨ record.update.state = .healthy) :
      Effect record (.rollback true) ⟨true,
        { record.moved .active { record.update with state := .rolledBack } with
          version := record.previousVersion
          digest := record.previousDigest
          previousVersion := record.version
          previousDigest := record.digest }, true⟩
  | quarantined (present : record.transaction.state ≠ .removed) :
      Effect record .quarantine ⟨true, record.moved .quarantined record.update, true⟩

/-- Every operation on a record that an admitted import has begun has one of these effects. -/
theorem effect (initialized : record.transaction.initialized = true)
    (admitted : ContentUpdate.Admitted record.transaction.contentUpdate.identity)
    (operation : RecordOperation) :
    Effect record operation (operation.apply record) := by
  cases operation with
  | receive bytes =>
    simp only [apply, receive]
    rcases PackageTransaction.receive_cases initialized bytes with
      unchanged | ⟨discovered, opened⟩ | ⟨fresh, fits, added⟩ | ⟨fresh, whole, completed⟩
    · rw [unchanged]
      exact .same
    · rw [opened]
      exact .opened discovered
    · rw [added]
      exact .added fresh fits
    · rw [completed]
      exact .completed fresh whole
  | verify digest payloadVerified =>
    cases payloadVerified with
    | false => exact .refused
    | true =>
      simp only [apply, verify, Bool.not_true, Bool.false_eq_true, if_false]
      rcases PackageTransaction.verify_payload_cases initialized digest with
        ⟨-, unchanged⟩ | ⟨staged, -, rejected⟩ | ⟨staged, updated, -, mismatched⟩ |
          ⟨staged, updated, -, verified⟩
      · rw [unchanged]
        exact .same
      · rw [rejected]
        exact .rejected staged
      · rw [mismatched]
        exact .mismatched staged updated
      · rw [verified]
        exact .verified staged updated
  | activate exactConfirmation =>
    simp only [apply, activate]
    split
    · exact .same
    · rcases PackageTransaction.activate_cases initialized admitted with
        ⟨-, unchanged⟩ | ⟨verified, ready, activated⟩
      · rw [unchanged]
        exact .same
      · rw [activated]
        exact .activated verified ready
  | reportHealth healthy =>
    simp only [apply, reportHealth]
    rcases PackageTransaction.report_health_cases initialized admitted healthy with
      ⟨-, unchanged⟩ | ⟨activating, reported⟩
    · rw [unchanged]
      exact .same
    · rw [reported]
      cases healthy with
      | true => exact .healthy activating
      | false => exact .unhealthy activating
  | setEnabled enabled exactConfirmation =>
    simp only [apply, setEnabled]
    split
    · exact .same
    · rcases PackageTransaction.transition_cases record.transaction
        (if enabled then .active else .disabled) with unchanged | ⟨edge, -, settled, toggled⟩
      · rw [unchanged]
        exact .same
      · rw [toggled]
        refine .toggled edge fun enabled => settled ?_
        rw [if_pos enabled]
  | remove exactConfirmation =>
    simp only [apply, remove]
    split
    · exact .same
    next passed =>
      obtain ⟨rfl, unprotected⟩ : exactConfirmation = true ∧
          record.transaction.protectedPackage = false := by simpa using passed
      rcases PackageTransaction.transition_cases record.transaction .removed with
        unchanged | ⟨edge, -, -, removed⟩
      · rw [unchanged]
        exact .same
      · rw [removed]
        exact .removed edge unprotected
  | rollback exactConfirmation =>
    rcases rollback_cases admitted exactConfirmation with
      unchanged | ⟨rfl, retained, live, revertible, swapped⟩
    · rw [apply, unchanged]
      exact .same
    · rw [apply, swapped]
      exact .swapped retained live revertible
  | quarantine =>
    simp only [apply, quarantine]
    split
    · exact .same
    next present => exact .quarantined fun removed => present (by rw [removed]; rfl)

/-- An operation keeps soundness unless it rejects the verification of a record
whose update has been rolled back. -/
theorem Sound.step (sound : record.Sound) (operation : RecordOperation)
    (permitted : ∀ digest, operation = .verify digest false →
      record.transaction.contentUpdate.state ≠ .rolledBack) :
    (operation.apply record).record.Sound := by
  have effect := effect sound.initialized sound.admitted operation
  generalize operation.apply record = step at effect ⊢
  cases effect with
  | same => exact sound
  | opened discovered =>
    exact sound.of_transaction sound.initialized rfl sound.received (by simp [discovered])
  | added fresh fits =>
    refine sound.of_transaction sound.initialized rfl fits ?_
    rcases fresh with state | state <;> simp [state]
  | completed fresh whole =>
    refine sound.of_transaction sound.initialized rfl (UInt32.le_of_eq whole) ?_
    rcases fresh with state | state <;> simp [state]
  | refused => exact sound.quarantine_both (permitted _ rfl)
  | rejected staged => exact sound.of_transaction sound.initialized rfl sound.received Iff.rfl
  | mismatched staged updated =>
    exact sound.of_transaction sound.initialized rfl sound.received (by simp [updated])
  | verified staged updated =>
    exact sound.of_transaction sound.initialized rfl sound.received (by simp [updated])
  | activated verified ready =>
    refine sound.of_transaction sound.initialized rfl sound.received ?_
    rcases ready with state | state <;> simp [state]
  | healthy activating =>
    exact sound.of_transaction sound.initialized rfl sound.received (by simp [activating])
  | unhealthy activating =>
    have kept := (sound.unhealthy activating).1
    rcases PackageTransaction.report_health_cases sound.initialized sound.admitted false with
      ⟨otherwise, -⟩ | ⟨-, reported⟩
    · exact absurd activating otherwise
    · rw [reportHealth, reported] at kept
      exact kept
  | toggled edge settled =>
    exact sound.of_transaction sound.initialized rfl sound.received Iff.rfl
  | removed edge unprotected =>
    exact sound.of_transaction sound.initialized rfl sound.received Iff.rfl
  | swapped retained live revertible =>
    have notReverted : record.transaction.contentUpdate.state ≠ .rolledBack := by
      rcases revertible with state | state <;> rw [state] <;> decide
    exact {
      typed := sound.typed
      identified := sound.identified
      versioned := sound.previousVersioned.resolve_left (by simp [retained])
      digested := sound.previousDigested
      previousDigested := sound.digested
      signed := sound.signed
      located := sound.located
      entered := sound.entered
      previousVersioned := .inr sound.versioned
      initialized := sound.initialized
      named := sound.named
      admitted := sound.admitted
      received := sound.received
      current := fun impossible => absurd rfl impossible
      reverted := fun _ => (sound.current notReverted).2 }
  | quarantined present =>
    exact sound.of_transaction sound.initialized rfl sound.received Iff.rfl

/-- Every operation leaves the identifier alone. -/
theorem apply_package_id (operation : RecordOperation) (record : PackageRecord) :
    (operation.apply record).record.packageId = record.packageId := by
  cases operation with
  | receive bytes => rfl
  | verify digest payloadVerified => cases payloadVerified <;> rfl
  | activate exactConfirmation =>
    simp only [apply, activate]
    split <;> rfl
  | reportHealth healthy =>
    simp only [apply, reportHealth]
    split
    · rfl
    · split <;> rfl
  | setEnabled enabled exactConfirmation =>
    simp only [apply, setEnabled]
    split <;> rfl
  | remove exactConfirmation =>
    simp only [apply, remove]
    split <;> rfl
  | rollback exactConfirmation =>
    simp only [apply, rollback]
    split
    · rfl
    · split <;> rfl
  | quarantine =>
    simp only [apply, quarantine]
    split <;> rfl

/-- An admitted import onto nothing or onto a sound live record writes a sound
record. -/
theorem sound_of_import {package : PackageImport} {updateType : ContentUpdateType}
    {previous : Option PackageRecord} {transaction : PackageTransaction}
    (checked : package.check = some updateType)
    (previousSound : ∀ record, previous = some record → record.Sound)
    (begun : PackageTransaction.begin (package.admission updateType previous).1
      (package.admission updateType previous).2 package.previousState
      package.protectedPackage = (.ok, some transaction)) :
    (package.record previous transaction).Sound := by
  obtain ⟨update, admitted, isSome, -⟩ := PackageTransaction.begin_ok begun
  obtain ⟨same, storedSame, fixed, shape⟩ := ContentUpdate.admit_ok admitted
  cases Option.some.inj storedSame
  cases Option.some.inj isSome
  subst shape
  unfold PackageImport.check at checked
  split at checked
  · cases checked
  split at checked
  · cases checked
  rename_i parsedType parsed
  split at checked
  · cases checked
  rename_i passed
  cases checked
  simp only [Bool.or_eq_true, not_or, Bool.not_eq_true', Bool.not_eq_false, packageDigestValid,
    Bool.false_and, Bool.false_or] at passed
  obtain ⟨⟨⟨⟨⟨⟨⟨⟨⟨⟨⟨identified, versioned⟩, signed⟩, digested⟩, -⟩, located⟩, entered⟩, -⟩, -⟩,
    -⟩, -⟩, -⟩ := passed
  exact {
    typed := parsed
    identified, versioned, digested, signed, located, entered
    previousDigested := fixed.previous
    previousVersioned := by
      cases previous with
      | none => exact .inl CString.isEmpty_literal_empty
      | some record => exact .inr (previousSound record rfl).versioned
    initialized := rfl
    named := rfl
    admitted := fixed
    received := UInt32.zero_le
    current := fun _ => ⟨rfl, rfl⟩
    reverted := by
      intro impossible
      cases impossible }

end PackageRecord

end PoisonedOS
