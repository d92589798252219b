import PoisonedOS.Packages.Releases

/-!
# Where a failed or reverted update returns to

A record names the release its package returns to, and its rollback state names
the state. Both are meant to be those the package had before the update: a
release that was reported healthy, enabled or disabled as it was.

They are, unless one of four things happens that the manager does not prevent:
updating a record whose own update is still being received, disabling a package
while its update is being received, rolling back a package that was disabled when
its update was activated, and an unhealthy report that meets a package removed
from quarantine.
-/

namespace PoisonedOS

/-- The package can be used or enabled. -/
def PackageState.Live (state : PackageState) : Prop := state = .active ∨ state = .disabled

open PackageTransaction (activate_cases allowed begin begin_discovered begin_ok)
open PackageState (Live)

namespace PackageRecord

/-- The update has not yet been settled by a health report, a rollback or a
rejection. -/
def Pending (record : PackageRecord) : Prop :=
  record.transaction.contentUpdate.state ≠ .healthy ∧
    record.transaction.contentUpdate.state ≠ .rolledBack ∧
    record.transaction.contentUpdate.state ≠ .quarantined

/-- What a record says of the past: which releases ran, the state the package was
last in use with, and the one before its latest activation. -/
structure Returns (ran : CString → CString → Prop) (lastInUse beforeActivation : PackageState → Prop)
    (record : PackageRecord) : Prop where
  coherent : record.Coherent
  versioned : record.version.isEmpty = false
  digested : boundedDigest record.digest = true
  previousDigested : boundedDigest record.previousDigest = true
  previous : record.previousVersion.isEmpty = false →
    ran record.previousVersion record.previousDigest
  healthy : record.transaction.contentUpdate.state = .healthy → ran record.version record.digest
  reverted : record.transaction.contentUpdate.state = .rolledBack →
    record.transaction.state.Live → ran record.version record.digest
  first : record.previousVersion.isEmpty = true → record.Pending →
    ¬ record.transaction.state.Live ∧ ¬ record.transaction.rollbackState.Live
  update : record.previousVersion.isEmpty = false → record.Pending →
    record.transaction.rollbackState ≠ .removed
  steady : record.transaction.state.Live → record.Arriving →
    record.transaction.state = record.transaction.rollbackState
  last : record.previousVersion.isEmpty = false → record.Pending →
    record.transaction.rollbackState.Live → lastInUse record.transaction.rollbackState
  activated : record.previousVersion.isEmpty = false →
    record.transaction.contentUpdate.state = .activating →
    record.transaction.rollbackState.Live → beforeActivation record.transaction.rollbackState

/-- How the past of a record grows by a step that leaves `next`. -/
structure Grows (record next : PackageRecord)
    (ran ran' : CString → CString → Prop) (lastInUse lastInUse' : PackageState → Prop)
    (beforeActivation beforeActivation' : PackageState → Prop) : Prop where
  ran : ∀ version digest, ran version digest → ran' version digest
  idle : ∀ state, lastInUse state → ¬ next.transaction.state.Live → lastInUse' state
  left : record.transaction.state.Live → ¬ next.transaction.state.Live →
    lastInUse' record.transaction.state
  used : next.transaction.state.Live → lastInUse' next.transaction.state
  still : record.transaction.contentUpdate.state = .activating →
    ∀ state, beforeActivation state → beforeActivation' state

namespace Returns

variable {record : PackageRecord} {ran ran' : CString → CString → Prop}
  {lastInUse lastInUse' beforeActivation beforeActivation' : PackageState → Prop}

section Operations

variable (returns : record.Returns ran lastInUse beforeActivation)
include returns

/-- A step of reception, verification or quarantine keeps what a record says of
the past: the update goes on or is given up, the rollback state stays, and the
package stays in its state or goes out of use. -/
theorem proceed {transaction : PackageTransaction}
    (coherent : { record with transaction }.Coherent)
    (grows : record.Grows { record with transaction } ran ran' lastInUse lastInUse'
      beforeActivation beforeActivation')
    (sameReturn : transaction.rollbackState = record.transaction.rollbackState)
    (leaves : transaction.state = record.transaction.state ∨ ¬ transaction.state.Live)
    (goesOn : transaction.contentUpdate.state = record.transaction.contentUpdate.state ∨
      (transaction.contentUpdate.state ≠ .healthy ∧ transaction.contentUpdate.state ≠ .rolledBack ∧
        transaction.contentUpdate.state ≠ .activating ∧
        ({ record with transaction }.Pending → record.Pending)))
    (arriving : { record with transaction }.Arriving → record.Arriving) :
    { record with transaction }.Returns ran' lastInUse' beforeActivation' := by
  have pending : { record with transaction }.Pending → record.Pending := by
    rcases goesOn with same | ⟨-, -, -, pending⟩
    · intro now
      simpa only [Pending, same] using now
    · exact pending
  have stays : transaction.state.Live → transaction.state = record.transaction.state :=
    fun isLive => leaves.resolve_right fun left => left isLive
  exact {
    coherent
    versioned := returns.versioned
    digested := returns.digested
    previousDigested := returns.previousDigested
    previous := fun retained => grows.ran _ _ (returns.previous retained)
    healthy := by
      intro now
      rcases goesOn with same | ⟨notHealthy, -⟩
      · exact grows.ran _ _ (returns.healthy (same.symm.trans now))
      · exact absurd now notHealthy
    reverted := by
      intro now isLive
      rcases goesOn with same | ⟨-, notReverted, -⟩
      · exact grows.ran _ _ (returns.reverted (same.symm.trans now) (stays isLive ▸ isLive))
      · exact absurd now notReverted
    first := by
      intro fresh now
      obtain ⟨notLive, neverLive⟩ := returns.first fresh (pending now)
      exact ⟨fun isLive => notLive (stays isLive ▸ isLive), by rw [sameReturn]; exact neverLive⟩
    update := by
      intro retained now
      rw [sameReturn]
      exact returns.update retained (pending now)
    steady := by
      intro isLive now
      rw [stays isLive, sameReturn]
      exact returns.steady (stays isLive ▸ isLive) (arriving now)
    last := by
      intro retained now returnsLive
      rw [sameReturn] at returnsLive ⊢
      by_cases isLive : transaction.state.Live
      · -- A live package is still receiving its update, and in the state it returns to.
        have isArriving : { record with transaction }.Arriving := by
          rcases coherent.live isLive with arriving | healthy | reverted
          · exact arriving
          · exact absurd healthy now.1
          · exact absurd reverted now.2.1
        rw [← returns.steady (stays isLive ▸ isLive) (arriving isArriving), ← stays isLive]
        exact grows.used isLive
      · exact grows.idle _ (returns.last retained (pending now) returnsLive) isLive
    activated := by
      intro retained now returnsLive
      rw [sameReturn] at returnsLive ⊢
      rcases goesOn with same | ⟨-, -, notActivating, -⟩
      · have activating := same.symm.trans now
        exact grows.still activating _ (returns.activated retained activating returnsLive)
      · exact absurd now notActivating }

/-- A record that a step leaves alone still says the truth. -/
theorem unchanged
    (grows : record.Grows record ran ran' lastInUse lastInUse' beforeActivation
      beforeActivation') : record.Returns ran' lastInUse' beforeActivation' :=
  returns.proceed returns.coherent grows rfl (.inl rfl) (.inl rfl) id

variable {step : RecordStep}

/-- Enabling and disabling keep what a record says of the past, unless a package is disabled
while its update is being received. -/
theorem setEnabled {enabled : Bool} (exactConfirmation : Bool)
    (effect : Effect record (.setEnabled enabled exactConfirmation) step)
    (coherentAfter : step.record.Coherent)
    (grows : record.Grows step.record ran ran' lastInUse lastInUse' beforeActivation
      beforeActivation') (undisturbed : enabled = false → step.result = true → ¬ record.Arriving) :
    step.record.Returns ran' lastInUse' beforeActivation' := by
  cases effect with
  | same => exact returns.unchanged grows
  | toggled edge settled =>
    have live := returns.coherent.live
    cases returns
    have states := record.transaction.state.eq_cases
    cases grows
    cases enabled <;> simp only [if_true, Bool.false_eq_true, if_false] at * <;>
      constructor <;> grind [allowed, Pending, Arriving, Live]

/-- A removed package was last live in the state it was removed from. -/
theorem remove {exactConfirmation : Bool} (effect : Effect record (.remove exactConfirmation) step)
    (coherentAfter : step.record.Coherent)
    (grows : record.Grows step.record ran ran' lastInUse lastInUse' beforeActivation
      beforeActivation') :
    step.record.Returns ran' lastInUse' beforeActivation' := by
  cases effect with
  | same => exact returns.unchanged grows
  | removed edge unprotected =>
    have live := returns.coherent.live
    cases returns
    have states := record.transaction.state.eq_cases
    cases grows
    constructor <;> grind [allowed, Pending, Arriving, Live]

/-- A healthy report makes the release one that ran, and an unhealthy one returns to a
release that did. -/
theorem reportHealth {healthyNow : Bool} (effect : Effect record (.reportHealth healthyNow) step)
    (coherentAfter : step.record.Coherent)
    (grows : record.Grows step.record ran ran' lastInUse lastInUse' beforeActivation
      beforeActivation')
    (reported : healthyNow = true → record.transaction.contentUpdate.state = .activating →
      ran' record.version record.digest) :
    step.record.Returns ran' lastInUse' beforeActivation' := by
  have kept := returns
  have live := returns.coherent.live
  cases returns
  cases effect with
  | same => exact kept.unchanged grows
  | healthy activating =>
    have ranNow := reported rfl activating
    cases grows
    constructor <;> grind [moved, Pending, Arriving, Live]
  | unhealthy activating =>
    have nonempty : record.previousDigest.isEmpty = false :=
      ContentUpdate.bounded_digest_nonempty kept.previousDigested
    cases grows
    constructor <;> grind [moved, Pending, Arriving, Live]

/-- An operation keeps what a record says of the past, unless it disables the
package while its update is being received. -/
theorem apply (operation : RecordOperation)
    (grows : record.Grows (operation.apply record).record ran ran' lastInUse lastInUse'
      beforeActivation beforeActivation')
    (reported : operation = .reportHealth true →
      record.transaction.contentUpdate.state = .activating → ran' record.version record.digest)
    (activated : ∀ exactConfirmation, operation = .activate exactConfirmation →
      (operation.apply record).result = true →
      ∀ state, lastInUse state → beforeActivation' state)
    (undisturbed : ∀ exactConfirmation, operation = .setEnabled false exactConfirmation →
      (operation.apply record).result = true → ¬ record.Arriving) :
    (operation.apply record).record.Returns ran' lastInUse' beforeActivation' := by
  have kept := returns
  have coherentAfter := returns.coherent.apply operation
  have effect := PackageRecord.effect returns.coherent.begun.initialized
    returns.coherent.begun.admitted operation
  generalize operation.apply record = step at grows activated undisturbed coherentAfter effect ⊢
  cases effect with
  | same => exact kept.unchanged grows
  | opened discovered =>
    refine kept.proceed coherentAfter grows rfl (.inl rfl) (.inr ?_) fun _ => .inl discovered
    simp [Pending, discovered]
  | added fresh =>
    refine kept.proceed coherentAfter grows rfl (.inl rfl) (.inr ?_) fun _ => fresh
    rcases fresh with state | state <;> simp [Pending, state]
  | completed fresh =>
    refine kept.proceed coherentAfter grows rfl (.inr ?_) (.inr ?_) fun _ => fresh
    · simp [Live]
    · rcases fresh with state | state <;> simp [Pending, state]
  | refused | mismatched =>
    refine kept.proceed coherentAfter grows rfl (.inr ?_) (.inr ?_) ?_
    · simp [Live]
    · simp [Pending]
    · simp [Arriving]
  | rejected | quarantined =>
    refine kept.proceed coherentAfter grows rfl (.inr ?_) (.inl rfl) id
    simp [Live]
  | verified isStaged updated =>
    refine kept.proceed coherentAfter grows rfl (.inr ?_) (.inr ?_) ?_
    · simp [Live]
    · simp [Pending, updated]
    · simp [Arriving]
  | activated isVerified ready =>
    have fresh := activated _ rfl rfl
    have live := returns.coherent.live
    cases returns
    cases grows
    constructor <;> grind [moved, Pending, Arriving, Live]
  | healthy activating =>
    exact kept.reportHealth (.healthy activating) coherentAfter grows fun _ => reported rfl
  | unhealthy activating =>
    exact kept.reportHealth (.unhealthy activating) coherentAfter grows (by rintro ⟨⟩)
  | toggled edge settled =>
    rename_i enabled exactConfirmation
    refine kept.setEnabled exactConfirmation (.toggled edge settled) coherentAfter grows ?_
    rintro rfl
    exact undisturbed exactConfirmation rfl
  | removed edge unprotected =>
    exact kept.remove (.removed edge unprotected) coherentAfter grows
  | swapped retained isLive revertible =>
    have live := returns.coherent.live
    cases returns
    cases grows
    constructor <;> grind [moved, Pending, Arriving, Live]

end Operations

theorem failed_target (returns : record.Returns ran lastInUse beforeActivation)
    (retained : record.previousVersion.isEmpty = false)
    (activating : record.transaction.contentUpdate.state = .activating)
    (released : record.transaction.rollbackState ≠ .quarantined) :
    ran (record.reportHealth false).record.version (record.reportHealth false).record.digest ∧
      beforeActivation (record.reportHealth false).record.transaction.state := by
  have pending : record.Pending := by
    rw [Pending, activating]
    decide
  have isLive : record.transaction.rollbackState.Live := by
    have notRemoved := returns.update retained pending
    have possible := returns.coherent.returns
    grind [Live]
  have nonempty : record.previousDigest.isEmpty = false :=
    ContentUpdate.bounded_digest_nonempty returns.previousDigested
  rcases returns.coherent.begun.report_health_cases false with
    ⟨settled, -⟩ | ⟨-, -, moved, version, digest, -, -⟩
  · exact absurd activating settled
  · rw [moved, version, digest, retained, nonempty]
    exact ⟨returns.previous retained, returns.activated retained activating isLive⟩

/-- So does boot recovery. -/
theorem recover (returns : record.Returns ran lastInUse beforeActivation) (answer : Bool)
    (grows : record.Grows (record.recover answer) ran ran' lastInUse lastInUse' beforeActivation
      beforeActivation') :
    (record.recover answer).Returns ran' lastInUse' beforeActivation' := by
  rcases returns.coherent.begun.recover_cases answer with
    ⟨unchanged, -⟩ | ⟨-, -, quarantined⟩ | ⟨-, -, -, reported⟩
  · rw [unchanged] at grows ⊢
    exact returns.unchanged grows
  · rw [quarantined] at grows ⊢
    refine returns.apply (.verify (.literal "") false) grows ?_ ?_ ?_
    · rintro ⟨⟩
    · rintro _ ⟨⟩
    · rintro _ ⟨⟩
  · rw [reported] at grows ⊢
    refine returns.apply (.reportHealth false) grows ?_ ?_ ?_
    · rintro ⟨⟩
    · rintro _ ⟨⟩
    · rintro _ ⟨⟩

end Returns

variable {package : PackageImport} {updateType : ContentUpdateType}

/-- An import that passes its checks has a version. -/
theorem version_of_check (checked : package.check = some updateType) :
    package.version.isEmpty = false := by
  unfold PackageImport.check at checked
  split at checked
  · cases checked
  split at checked
  · cases checked
  split at checked
  · cases checked
  rename_i passed
  simp only [Bool.or_eq_true, not_or, Bool.not_eq_true', Bool.not_eq_false, packageTextValid,
    Bool.and_eq_true] at passed
  exact passed.1.1.1.1.1.1.1.1.1.1.2.1

variable {transaction : PackageTransaction}

/-- A first installation says nothing of the past. -/
theorem returns_of_installation {ran : CString → CString → Prop}
    {lastInUse beforeActivation : PackageState → Prop} (checked : package.check = some updateType)
    (installs : package.installs = true)
    (begun : begin (package.admission updateType none).1
      (package.admission updateType none).2 package.previousState
      package.protectedPackage = (.ok, some transaction)) :
    (package.record none transaction).Returns ran lastInUse beforeActivation := by
  have isRemoved : package.previousState = .removed := PackageImport.installs_removed installs
  have coherent := coherent_of_import begun (by rw [isRemoved]; decide)
  obtain ⟨update, admitted, isSome, -⟩ := begin_ok begun
  obtain ⟨same, isUpdate, fixed, shape⟩ := ContentUpdate.admit_ok admitted
  cases isUpdate
  cases isSome
  have candidate := fixed.candidate
  have previous := fixed.previous
  rw [shape] at candidate previous
  have discovered : update.state = .discovered := by rw [shape]
  have absent : (CString.literal "").isEmpty = true := CString.isEmpty_literal_empty
  refine ⟨coherent, version_of_check checked, candidate, previous, ?_, ?_, ?_, ?_, ?_, ?_, ?_, ?_⟩ <;>
    simp only [PackageImport.record, Option.map_none, Option.getD_none] <;>
    grind [Live]

/-- An update of a package in use names the release in use, unless that one is
still being received. -/
theorem Returns.updated {record : PackageRecord} {ran ran' : CString → CString → Prop}
    {lastInUse lastInUse' beforeActivation beforeActivation' : PackageState → Prop}
    (returns : record.Returns ran lastInUse beforeActivation)
    (checked : package.check = some updateType) (updates : package.updates record = true)
    (present : record.transaction.state ≠ .removed)
    (begun : begin (package.admission updateType (some record)).1
      (package.admission updateType (some record)).2 package.previousState
      package.protectedPackage = (.ok, some transaction)) (settled : ¬ record.Arriving)
    (ranOn : ∀ version digest, ran version digest → ran' version digest)
    (used : (package.record (some record) transaction).transaction.state.Live →
      lastInUse' (package.record (some record) transaction).transaction.state) :
    (package.record (some record) transaction).Returns ran' lastInUse' beforeActivation' := by
  have isState : record.transaction.state = package.previousState :=
    PackageImport.updates_state updates
  have coherent := coherent_of_import begun (by rw [← isState]; exact returns.coherent.notInstalled)
  obtain ⟨update, admitted, isSome, admissible⟩ := begin_ok begun
  obtain ⟨same, isUpdate, fixed, shape⟩ := ContentUpdate.admit_ok admitted
  cases isUpdate
  cases isSome
  have candidate := fixed.candidate
  have previous := fixed.previous
  rw [shape] at candidate previous
  have discovered : update.state = .discovered := by rw [shape]
  have isLive : record.transaction.state.Live := by
    rw [← isState] at admissible
    have notInstalled := returns.coherent.notInstalled
    grind [Live]
  have versioned := returns.versioned
  have ranPrevious : ran record.version record.digest := by
    rcases returns.coherent.live isLive with arriving | healthy | reverted
    · exact absurd arriving settled
    · exact returns.healthy healthy
    · exact returns.reverted reverted isLive
  refine ⟨coherent, version_of_check checked, candidate, previous, ?_, ?_, ?_, ?_, ?_, ?_, ?_, ?_⟩ <;>
    simp only [PackageImport.record, Option.map_some, Option.getD_some] at used ⊢ <;>
    grind [Live]

end PackageRecord

namespace ManagerOperation

section Histories

variable (operations : List ManagerOperation)

def RanHealthy (index : Nat) (packageId version digest : CString) : Prop :=
  ∃ earlier record, earlier < index ∧ ReportedHealthy operations earlier packageId record ∧
    record.version = version ∧ record.digest = digest

/-- The package is live at the index, in the state. -/
def LiveAt (index : Nat) (packageId : CString) (state : PackageState) : Prop :=
  state.Live ∧ ∃ record, (managerAt operations index).find packageId = some record ∧
    record.transaction.state = state

def LastInUse (index : Nat) (packageId : CString) (state : PackageState) : Prop :=
  ∃ live, live ≤ index ∧ LiveAt operations live packageId state ∧
    ∀ later, live < later → later ≤ index → ∀ other, ¬ LiveAt operations later packageId other

def AcceptedOn (index : Nat) (packageId : CString) (operation : RecordOperation) : Prop :=
  operations[index]? = some (.onRecord packageId operation) ∧
    accepted (.onRecord packageId operation) (managerAt operations index) = true

/-- The state is the one the package was last live in before its latest
activation. -/
def BeforeActivation (index : Nat) (packageId : CString) (state : PackageState) : Prop :=
  ∃ activation, activation < index ∧
    (∃ exactConfirmation, AcceptedOn operations activation packageId
      (.activate exactConfirmation)) ∧
    (∀ later, activation < later → later < index → ∀ exactConfirmation,
      ¬ AcceptedOn operations later packageId (.activate exactConfirmation)) ∧
    LastInUse operations activation packageId state

/-- The step at the index ends the record's activation by a failed health report:
the one of the interface, or the one boot recovery makes. -/
def FailsHealth (index : Nat) (packageId : CString) (record next : PackageRecord) : Prop :=
  (managerAt operations index).find packageId = some record ∧
    (managerAt operations (index + 1)).find packageId = some next ∧
    record.transaction.contentUpdate.state = .activating ∧
    next.transaction.contentUpdate.state = .rolledBack

/-- The step at the index is an accepted rollback. -/
def RollsBack (index : Nat) (packageId : CString) (record next : PackageRecord) : Prop :=
  (managerAt operations index).find packageId = some record ∧
    (managerAt operations (index + 1)).find packageId = some next ∧
    ∃ exactConfirmation, AcceptedOn operations index packageId (.rollback exactConfirmation)

/-- A release named as previous ran, and an accepted rollback or a failed health
report returns to one that ran, in the state the package was last live in before
its update was activated. -/
structure ReturnsHealthy : Prop where
  named : ∀ index packageId record, (managerAt operations index).find packageId = some record →
    record.previousVersion.isEmpty = false →
    RanHealthy operations index packageId record.previousVersion record.previousDigest
  rolledBack : ∀ index packageId record next, RollsBack operations index packageId record next →
    RanHealthy operations index packageId next.version next.digest ∧
      BeforeActivation operations index packageId next.transaction.state
  failed : ∀ index packageId record next, FailsHealth operations index packageId record next →
    record.previousVersion.isEmpty = false →
    RanHealthy operations index packageId next.version next.digest ∧
      BeforeActivation operations index packageId next.transaction.state

/-- None of the four things happens that leave a record with a wrong past. -/
structure Undisturbed : Prop where
  received : ∀ index package record, AcceptedImport operations index package →
    (managerAt operations index).find package.packageId = some record →
    record.transaction.state ≠ .removed → ¬ record.Arriving
  steady : ∀ index packageId record exactConfirmation,
    AcceptedOn operations index packageId (.setEnabled false exactConfirmation) →
    (managerAt operations index).find packageId = some record → ¬ record.Arriving
  enabled : ∀ index packageId exactConfirmation,
    AcceptedOn operations index packageId (.rollback exactConfirmation) →
    BeforeActivation operations index packageId .active
  released : ∀ index packageId record next, FailsHealth operations index packageId record next →
    record.transaction.rollbackState ≠ .quarantined

end Histories

variable {operations : List ManagerOperation} {index : Nat} {packageId : CString}

theorem accepted_on_record {manager : PackageManager} {operation : RecordOperation}
    {record : PackageRecord} (found : manager.find packageId = some record) :
    accepted (.onRecord packageId operation) manager = (operation.apply record).result := by
  rw [accepted, PackageManager.on_record_result, found, Option.any_some]

/-- The past of a package grows by every step. -/
theorem grows_of_step {record next : PackageRecord}
    (found : (managerAt operations index).find packageId = some record)
    (foundNext : (managerAt operations (index + 1)).find packageId = some next) :
    record.Grows next
      (RanHealthy operations index packageId) (RanHealthy operations (index + 1) packageId)
      (LastInUse operations index packageId) (LastInUse operations (index + 1) packageId)
      (BeforeActivation operations index packageId)
      (BeforeActivation operations (index + 1) packageId) := by
  have idle : ∀ state, LastInUse operations index packageId state →
      ¬ next.transaction.state.Live → LastInUse operations (index + 1) packageId state := by
    rintro state ⟨live, within, liveAt, last⟩ notLive
    refine ⟨live, by omega, liveAt, ?_⟩
    intro later after upTo other otherLive
    rcases Nat.lt_or_ge index later with beyond | upToIndex
    · obtain rfl : later = index + 1 := by omega
      obtain ⟨isLive, current, isCurrent, isState⟩ := otherLive
      rw [foundNext] at isCurrent
      cases isCurrent
      exact notLive (isState ▸ isLive)
    · exact last later after upToIndex other otherLive
  refine ⟨?_, idle, ?_, ?_, ?_⟩
  · rintro version digest ⟨earlier, ranRecord, before, reported⟩
    exact ⟨earlier, ranRecord, by omega, reported⟩
  · intro isLive notLive
    refine idle _ ⟨index, Nat.le_refl index, ⟨isLive, record, found, rfl⟩, ?_⟩ notLive
    intro later after upTo
    omega
  · intro isLive
    refine ⟨index + 1, Nat.le_refl _, ⟨isLive, next, foundNext, rfl⟩, ?_⟩
    intro later after upTo
    omega
  · rintro activating state ⟨activation, before, wasAccepted, latest, last⟩
    refine ⟨activation, by omega, wasAccepted, ?_, last⟩
    intro later after upTo exactConfirmation again
    rcases Nat.lt_or_ge later index with strictlyBefore | atIndex
    · exact latest later after strictlyBefore exactConfirmation again
    · obtain rfl : later = index := by omega
      have begun := ((manager_at_keyed operations later).found found).1
      have isAccepted := again.2
      rw [accepted_on_record found, RecordOperation.apply, PackageRecord.activate] at isAccepted
      split at isAccepted
      · cases isAccepted
      · rcases activate_cases begun.initialized begun.admitted with
          ⟨-, unchanged⟩ | ⟨-, ready, -⟩
        · rw [unchanged] at isAccepted
          cases isAccepted
        · rw [activating] at ready
          rcases ready with impossible | impossible <;> cases impossible

/-- An accepted activation is the latest one. -/
theorem before_activation_of_accepted {exactConfirmation : Bool} {state : PackageState}
    (isAccepted : AcceptedOn operations index packageId (.activate exactConfirmation))
    (last : LastInUse operations index packageId state) :
    BeforeActivation operations (index + 1) packageId state := by
  refine ⟨index, Nat.lt_succ_self index, ⟨exactConfirmation, isAccepted⟩, ?_, last⟩
  intro later after upTo
  omega

/-- Along an undisturbed run every record tells the truth about its package.

Proof: by induction on the run. A package in use has run its release, since only
settled packages are updated, so the release it names as previous ran; and its
rollback state is the one it was last live in until the update is settled. -/
theorem run_returns (undisturbed : Undisturbed operations) (packageId : CString) (index : Nat) :
    ∀ record, (managerAt operations index).find packageId = some record →
      record.Returns (RanHealthy operations index packageId)
        (LastInUse operations index packageId) (BeforeActivation operations index packageId) := by
  induction index with
  | zero =>
    intro record found
    rw [manager_at_zero, PackageManager.find_init] at found
    cases found
  | succ index ih =>
    intro next foundNext
    cases taken : operations[index]? with
    | none =>
      have found := foundNext
      rw [manager_at_end taken] at found
      exact (ih next found).unchanged (grows_of_step found foundNext)
    | some operation =>
      have stepped := effect (manager_at_keyed operations index) operation packageId
      rw [← manager_at_succ taken, foundNext] at stepped
      generalize isBefore : (managerAt operations index).find packageId = before at stepped
      generalize isAccepted : operation.accepted (managerAt operations index) = result at stepped
      cases stepped with
      | kept _ _ _ =>
        exact (ih next isBefore).unchanged (grows_of_step isBefore foundNext)
      | installed package updateType _ transaction named checked installs absent begun =>
        exact PackageRecord.returns_of_installation checked installs begun
      | updated package updateType record transaction named checked updates present begun =>
        subst named
        have grows := grows_of_step isBefore foundNext
        refine (ih record isBefore).updated checked updates present begun ?_
          grows.ran grows.used
        exact undisturbed.received index package record ⟨taken, isAccepted⟩ isBefore present
      | applied operation record =>
        refine (ih record isBefore).apply operation
          (grows_of_step isBefore foundNext) ?_ ?_ ?_
        · rintro rfl activating
          have begun := ((manager_at_keyed operations index).found isBefore).1
          rcases begun.report_health_cases true with ⟨settled, -⟩ | ⟨-, healthy, -⟩
          · exact absurd activating settled
          · refine ⟨index, record, Nat.lt_succ_self index, ⟨taken, ?_, isBefore⟩, rfl, rfl⟩
            rw [isAccepted]
            exact healthy
        · rintro exactConfirmation rfl activated state last
          exact before_activation_of_accepted ⟨taken, isAccepted.trans activated⟩ last
        · rintro exactConfirmation rfl disabled
          exact undisturbed.steady index packageId record exactConfirmation
            ⟨taken, isAccepted.trans disabled⟩ isBefore
      | recovered answers _ answer record =>
        exact (ih record isBefore).recover answer
          (grows_of_step isBefore foundNext)

/-- What an accepted rollback of a record in the table leaves. -/
theorem rolls_back_cases {record next : PackageRecord}
    (rollsBack : RollsBack operations index packageId record next) :
    record.previousVersion.isEmpty = false ∧ next.version = record.previousVersion ∧
      next.digest = record.previousDigest ∧ next.transaction.state = .active := by
  obtain ⟨found, foundNext, exactConfirmation, taken, isAccepted⟩ := rollsBack
  have begun := ((manager_at_keyed operations index).found found).1
  rw [accepted_on_record found] at isAccepted
  rw [manager_at_succ taken, apply, PackageManager.find_on_record _ _
    (PackageRecord.apply_package_id _), if_pos rfl, found, Option.map_some] at foundNext
  cases foundNext
  rcases PackageRecord.rollback_cases begun.admitted exactConfirmation with
    unchanged | ⟨-, retained, -, -, swapped⟩
  · rw [RecordOperation.apply, unchanged] at isAccepted
    cases isAccepted
  · rw [RecordOperation.apply, swapped]
    exact ⟨retained, rfl, rfl, rfl⟩

/-- A failed health report is one of the interface or one of boot recovery, and
leaves what an unhealthy report leaves. -/
theorem fails_health_cases {record next : PackageRecord}
    (fails : FailsHealth operations index packageId record next) :
    (operations[index]? = some (.onRecord packageId (.reportHealth false)) ∨
      ∃ answers, operations[index]? = some (.recover answers)) ∧
    next = (record.reportHealth false).record := by
  obtain ⟨found, foundNext, activating, back⟩ := fails
  have coherent := run_coherent operations index packageId record found
  cases taken : operations[index]? with
  | none =>
    rw [manager_at_end taken, found] at foundNext
    cases foundNext
    rw [activating] at back
    cases back
  | some operation =>
    have stepped := effect (manager_at_keyed operations index) operation packageId
    rw [← manager_at_succ taken, foundNext, found] at stepped
    generalize operation.accepted (managerAt operations index) = result at stepped
    cases stepped with
    | kept _ _ _ =>
      rw [activating] at back
      cases back
    | installed package updateType _ transaction named checked installs absent begun =>
      rw [PackageImport.record, begin_discovered begun] at back
      cases back
    | updated package updateType _ transaction named checked updates present begun =>
      rw [PackageImport.record, begin_discovered begun] at back
      cases back
    | applied operation _ =>
      obtain rfl := coherent.unhealthy_of_reverted operation activating back
      exact ⟨.inl rfl, rfl⟩
    | recovered answers _ answer _ =>
      rcases coherent.begun.recover_cases answer with
        ⟨unchanged, -⟩ | ⟨-, -, quarantined⟩ | ⟨-, -, -, reported⟩
      · rw [unchanged, activating] at back
        cases back
      · rw [quarantined] at back
        cases back
      · exact ⟨.inr ⟨answers, rfl⟩, reported⟩

/-- In an undisturbed run a rollback target is a release that ran, and returning
to it restores the state the package was last live in before the update. -/
theorem undisturbed_returns_healthy (undisturbed : Undisturbed operations) :
    ReturnsHealthy operations where
  named := fun index packageId record found =>
    (run_returns undisturbed packageId index record found).previous
  rolledBack := by
    intro index packageId record next rollsBack
    have returns := run_returns undisturbed packageId index record rollsBack.1
    obtain ⟨retained, version, digest, active⟩ := rolls_back_cases rollsBack
    rw [version, digest, active]
    obtain ⟨exactConfirmation, isAccepted⟩ := rollsBack.2.2
    exact ⟨returns.previous retained,
      undisturbed.enabled index packageId exactConfirmation isAccepted⟩
  failed := by
    intro index packageId record next fails retained
    have returns := run_returns undisturbed packageId index record fails.1
    rw [(fails_health_cases fails).2]
    exact returns.failed_target retained fails.2.2.1
      (undisturbed.released index packageId record next fails)

def updatedAndRolledBack : List ManagerOperation :=
  healthyInstallation sampleImport ++ healthyInstallation sampleUpdate ++
    [.onRecord sampleImport.packageId (.rollback true)]

/-- A package is live in the state its record has, if in any. -/
theorem live_at_iff {state other : PackageState}
    (current : ((managerAt operations index).find packageId).map (·.transaction.state) =
      some state) : LiveAt operations index packageId other ↔ other = state ∧ state.Live := by
  obtain ⟨record, found, isState⟩ := Option.map_eq_some_iff.mp current
  constructor
  · rintro ⟨isLive, _, isFound, rfl⟩
    rw [found] at isFound
    cases isFound
    exact ⟨isState, isState ▸ isLive⟩
  · rintro ⟨rfl, isLive⟩
    exact ⟨isLive, record, found, isState⟩

/-- Nothing disturbs that run, and the package returns to its first release. -/
theorem sample_returns_healthy :
    Undisturbed updatedAndRolledBack ∧ ReturnsHealthy updatedAndRolledBack := by
  have positions (index : Nat) (operation : ManagerOperation)
      (taken : updatedAndRolledBack[index]? = some operation) :
      index = 0 ∨ index = 1 ∨ index = 2 ∨ index = 3 ∨ index = 4 ∨ index = 5 ∨ index = 6 ∨
        index = 7 ∨ index = 8 ∨ index = 9 ∨ index = 10 := by
    have within : index < 11 := (List.getElem?_eq_some_iff.mp taken).1
    omega
  have undisturbed : Undisturbed updatedAndRolledBack := by
    constructor
    · rintro index package record ⟨taken, -⟩ found -
      obtain rfl | rfl | rfl | rfl | rfl | rfl | rfl | rfl | rfl | rfl | rfl := positions _ _ taken
      · cases found
      iterate 4 cases taken
      · cases taken
        have healthy : ((managerAt updatedAndRolledBack 5).find sampleUpdate.packageId).map
            (·.transaction.contentUpdate.state) = some .healthy := by decide +kernel
        rw [found, Option.map_some, Option.some.injEq] at healthy
        rw [PackageRecord.Arriving, healthy]
        decide
      all_goals cases taken
    · rintro index other record exactConfirmation ⟨taken, -⟩
      have among := List.mem_of_getElem? taken
      simp [updatedAndRolledBack, healthyInstallation] at among
    · rintro index other exactConfirmation ⟨taken, -⟩
      obtain rfl | rfl | rfl | rfl | rfl | rfl | rfl | rfl | rfl | rfl | rfl := positions _ _ taken
      iterate 10 cases taken
      cases taken
      have active : ((managerAt updatedAndRolledBack 6).find sampleImport.packageId).map
          (·.transaction.state) = some .active := by decide +kernel
      have staged : ((managerAt updatedAndRolledBack 7).find sampleImport.packageId).map
          (·.transaction.state) = some .staged := by decide +kernel
      have verified : ((managerAt updatedAndRolledBack 8).find sampleImport.packageId).map
          (·.transaction.state) = some .verified := by decide +kernel
      refine ⟨8, by decide, ⟨true, rfl, by decide +kernel⟩, ?_, 6, by decide,
        (live_at_iff active).mpr ⟨rfl, .inl rfl⟩, ?_⟩
      · intro later after upTo exactConfirmation again
        obtain rfl : later = 9 := by omega
        cases again.1
      · intro later after upTo state isLive
        obtain rfl | rfl : later = 7 ∨ later = 8 := by omega
        · exact absurd ((live_at_iff staged).mp isLive).2 (by simp [PackageState.Live])
        · exact absurd ((live_at_iff verified).mp isLive).2 (by simp [PackageState.Live])
    · intro index other record next fails
      rcases (fails_health_cases fails).1 with taken | ⟨answers, taken⟩ <;>
        have among := List.mem_of_getElem? taken <;>
        simp [updatedAndRolledBack, healthyInstallation] at among
  exact ⟨undisturbed, undisturbed_returns_healthy undisturbed⟩

/-- A release that is imported onto an update still being received. -/
def hastyUpdate : PackageImport :=
  { sampleUpdate with
    version := .literal "3"
    previousVersion := sampleUpdate.version
    candidateDigest := ⟨List.replicate 64 51, by decide⟩
    previousDigest := sampleUpdate.candidateDigest
    releaseSequence := 3 }

/-- The sample package runs, its update is not even received, and the next import
names that update as the release to return to. -/
theorem unfinished_update_named_previous : ¬ ∀ operations, ReturnsHealthy operations := by
  intro always
  let operations : List ManagerOperation := healthyInstallation sampleImport ++
    [.importPackage sampleUpdate, .importPackage hastyUpdate]
  have named : ((managerAt operations 7).find sampleImport.packageId).map
      (·.previousVersion) = some sampleUpdate.version := by decide +kernel
  obtain ⟨record, found, previousVersion⟩ := Option.map_eq_some_iff.mp named
  have retained : record.previousVersion.isEmpty = false := by rw [previousVersion]; decide
  obtain ⟨earlier, ran, before, ⟨taken, -, isRan⟩, version, -⟩ :=
    (always operations).named 7 sampleImport.packageId record found retained
  obtain rfl | rfl | rfl | rfl | rfl | rfl | rfl : earlier = 0 ∨ earlier = 1 ∨ earlier = 2 ∨
      earlier = 3 ∨ earlier = 4 ∨ earlier = 5 ∨ earlier = 6 := by omega
  iterate 4 cases taken
  · have first : ((managerAt operations 4).find sampleImport.packageId).map
        (·.version) = some sampleImport.version := by decide +kernel
    rw [isRan, Option.map_some, Option.some.injEq, version, previousVersion] at first
    revert first
    decide
  all_goals cases taken

end ManagerOperation

end PoisonedOS
