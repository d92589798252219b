import PoisonedOS.Rpc.Managers

/-!
# What is confirmed and what is activated

A confirmation binds the fields of the request it was issued for. An activation
acts on the record that is stored under the package's identifier. The two meet
only where the request repeats what the stored record says: the record's digest,
version and capabilities come from the archive of the last accepted import, and
nothing compares them with the request.

Along every interleaving of sessions, a record that can still be activated
carries the fields of its last import. So an activation does what was confirmed
exactly when the request the token was issued for names that archive.
-/

namespace PoisonedOS

/-- An update that has ended without success; no operation leaves this state. -/
def ContentUpdate.ended (update : ContentUpdate) : Bool :=
  update.state == .rolledBack || update.state == .quarantined

/-- The request names the archive: the fields its token is bound to are the
archive's. -/
structure PackageOperationRequest.Names (request : PackageOperationRequest)
    (archive : VerifiedArchive) : Prop where
  digest : request.candidateDigest = archive.archiveSha256
  version : request.version = archive.version
  capabilityMask : request.capabilityMask = archive.capabilityMask

/-- The request describes the record: the fields its token is bound to are the
record's. -/
structure PackageOperationRequest.Describes (request : PackageOperationRequest)
    (record : PackageRecord) : Prop where
  digest : request.candidateDigest = record.digest
  version : request.version = record.version
  capabilityMask : request.capabilityMask = record.capabilityMask

namespace PackageRecord

/-- The record has what the archive says. -/
structure Carries (record : PackageRecord) (archive : VerifiedArchive) : Prop where
  digest : record.digest = archive.archiveSha256
  version : record.version = archive.version
  capabilityMask : record.capabilityMask = archive.capabilityMask

variable {record : PackageRecord}

theorem Carries.describes_iff {archive : VerifiedArchive} (carries : record.Carries archive)
    (request : PackageOperationRequest) :
    request.Describes record ↔ request.Names archive := by
  constructor
  · rintro ⟨digest, version, capabilityMask⟩
    exact ⟨digest.trans carries.digest, version.trans carries.version,
      capabilityMask.trans carries.capabilityMask⟩
  · rintro ⟨digest, version, capabilityMask⟩
    exact ⟨digest.trans carries.digest.symm, version.trans carries.version.symm,
      capabilityMask.trans carries.capabilityMask.symm⟩

theorem Sound.activate_accepted (sound : record.Sound)
    (accepted : ((RecordOperation.activate true).apply record).result = true) :
    record.transaction.contentUpdate.ended = false ∧
      ((RecordOperation.activate true).apply record).record.transaction.contentUpdate.state =
        .activating := by
  simp only [RecordOperation.apply, activate, Bool.not_true, Bool.and_false, Bool.false_eq_true,
    if_false] at accepted ⊢
  rcases PackageTransaction.activate_cases sound.initialized sound.admitted with
    ⟨-, unchanged⟩ | ⟨-, ready, activated⟩
  · rw [unchanged] at accepted
    cases accepted
  · rw [activated]
    refine ⟨?_, rfl⟩
    rcases ready with state | state <;> simp [ContentUpdate.ended, state]

/-- `after` says of the package what `before` said, unless its update has ended. -/
def KeepsIdentity (before after : PackageRecord) : Prop :=
  after.transaction.contentUpdate.ended = true ∨
  (before.transaction.contentUpdate.ended = false ∧ after.digest = before.digest ∧
    after.version = before.version ∧ after.capabilityMask = before.capabilityMask)

/-- A change of the transaction that does not revive an ended update keeps the
identity. -/
theorem keeps_identity_of_transaction (record : PackageRecord) {transaction : PackageTransaction}
    (ended : record.transaction.contentUpdate.ended = true →
      transaction.contentUpdate.ended = true) :
    record.KeepsIdentity { record with transaction } := by
  cases before : record.transaction.contentUpdate.ended with
  | true => exact .inl (ended before)
  | false => exact .inr ⟨before, rfl, rfl, rfl⟩

theorem keeps_identity_refl (record : PackageRecord) : record.KeepsIdentity record :=
  record.keeps_identity_of_transaction id

/-- A change of the transaction from an update that has not ended keeps the
identity. -/
theorem keeps_identity_of_running (record : PackageRecord) {transaction : PackageTransaction}
    (running : record.transaction.contentUpdate.ended = false) :
    record.KeepsIdentity { record with transaction } := by
  refine record.keeps_identity_of_transaction fun ended => ?_
  rw [running] at ended
  cases ended

/-- Every operation keeps the identity. -/
theorem Sound.apply_keeps_identity (sound : record.Sound) (operation : RecordOperation) :
    record.KeepsIdentity (operation.apply record).record := by
  have effect := effect sound.initialized sound.admitted operation
  generalize operation.apply record = step at effect ⊢
  cases effect with
  | same => exact record.keeps_identity_refl
  | refused | mismatched | unhealthy | swapped => exact .inl rfl
  | rejected | toggled | removed | quarantined => exact record.keeps_identity_of_transaction id
  | opened discovered =>
    exact record.keeps_identity_of_running (by simp [ContentUpdate.ended, discovered])
  | added fresh | completed fresh =>
    refine record.keeps_identity_of_running ?_
    rcases fresh with state | state <;> simp [ContentUpdate.ended, state]
  | verified staged updated =>
    exact record.keeps_identity_of_running (by simp [ContentUpdate.ended, updated])
  | activated verified ready =>
    refine record.keeps_identity_of_running ?_
    rcases ready with state | state <;> simp [ContentUpdate.ended, state]
  | healthy activating =>
    exact record.keeps_identity_of_running (by simp [ContentUpdate.ended, activating])

end PackageRecord

namespace ManagerEffect

variable {packages : RpcPackages} {request : PackageOperationRequest}
  {verified : Option VerifiedArchive} {result : Bool} {before after : PackageManager}

def Imports (request : PackageOperationRequest) (result : Bool) (packageId : CString) : Prop :=
  PackageOperation.ofWire request.operation = some .importArchive ∧ result = true ∧
    request.packageId = packageId

/-- What a request leaves under an identifier: the record that was there with its
identity kept, or the record of an import. -/
theorem find_cases (effect : ManagerEffect packages request verified result before after)
    (sound : before.Sound) {packageId : CString} {record : PackageRecord}
    (found : after.find packageId = some record) :
    (¬ Imports request result packageId ∧
      ∃ prior, before.find packageId = some prior ∧ prior.KeepsIdentity record) ∨
    (Imports request result packageId ∧
      ∃ archive, verified = some archive ∧ record.Carries archive) := by
  cases effect with
  | kept same refused =>
    rw [same] at found
    refine .inl ⟨?_, record, found, record.keeps_identity_refl⟩
    rintro ⟨decoded, accepted, -⟩
    rw [refused decoded] at accepted
    cases accepted
  | applied operation isApplied persisted other =>
    have foreign : ¬ Imports request result packageId := fun imports => other imports.1
    rw [isApplied, PackageManager.find_on_record before request.packageId
      (PackageRecord.apply_package_id operation)] at found
    split at found
    · rename_i own
      obtain ⟨prior, isPrior, isRecord⟩ := Option.map_eq_some_iff.mp found
      rw [own, ← isRecord]
      refine .inl ⟨own ▸ foreign, prior, isPrior, ?_⟩
      exact (sound.found isPrior).1.apply_keeps_identity operation
    · exact .inl ⟨foreign, record, found, record.keeps_identity_refl⟩
  | imported archive previousState decoded accepted isVerified isImported =>
    rcases before.import_cases (packages.importOf request archive previousState) with
      unchanged | ⟨_, slot, previous, transaction, -, chosen, -, written⟩
    · rw [unchanged] at isImported
      cases isImported
    rw [written, Prod.mk.injEq] at isImported
    rw [← isImported.2] at found
    rcases PackageManager.find_import sound.distinct chosen transaction packageId with
      ⟨own, isImport⟩ | ⟨foreign, same⟩ | ⟨-, absent, -⟩
    · rw [isImport] at found
      cases found
      exact .inr ⟨⟨decoded, accepted, own.symm⟩, archive, isVerified, rfl, rfl, rfl⟩
    · rw [same] at found
      exact .inl ⟨fun imports => foreign imports.2.2.symm, record, found,
        record.keeps_identity_refl⟩
    · rw [absent] at found
      cases found

end ManagerEffect

namespace PackageSystem

variable {Tree : Type} (sha256 : List UInt8 → Digest)
  (extract : Option (List UInt8) → VerifiedArchive → Traced (Option Tree) Bool)
  (system : PackageSystem Tree) (calls : List PackageCall)

/-- The result of a call of the sequence. -/
def resultAt (index : Nat) (call : PackageCall) : Bool :=
  (outcome sha256 extract (before sha256 extract system calls index) call).value.result

def ImportsAt (packageId : CString) (index : Nat) (call : PackageCall) : Prop :=
  calls[index]? = some call ∧
    ManagerEffect.Imports call.request (resultAt sha256 extract system calls index call) packageId

def LastImport (packageId : CString) (index : Nat) (archive : VerifiedArchive) : Prop :=
  ∃ earlier < index, ∃ importer,
    ImportsAt sha256 extract system calls packageId earlier importer ∧
    importer.verified = some archive ∧
    ∀ between, earlier < between → between < index →
      ∀ other, ¬ ImportsAt sha256 extract system calls packageId between other

/-- The confirmation that waits in a session at a call was issued for the request
by an earlier call of the session. -/
def IssuedFor (session index : Nat) (bound : PackageOperationRequest) : Prop :=
  ∃ earlier < index, ∃ issuer, calls[earlier]? = some issuer ∧ issuer.session = session ∧
    (bound = issuer.request ∨
      (PackageOperation.ofWire issuer.request.operation = some .verify ∧
        bound = { issuer.request with operation := PackageOperation.activate.toWire })) ∧
    ((before sha256 extract system calls earlier).sessions session).issueConfirmation sha256 bound
      issuer.context issuer.environment.token =
        (true, (before sha256 extract system calls (earlier + 1)).sessions session) ∧
    (before sha256 extract system calls index).sessions session =
      (before sha256 extract system calls (earlier + 1)).sessions session

variable {sha256 extract system calls}

theorem record_carries (standard : system.Standard)
    (empty : system.device.manager = .init) (packageId : CString) (index : Nat)
    {record : PackageRecord}
    (found : (before sha256 extract system calls index).device.manager.find packageId =
      some record)
    (running : record.transaction.contentUpdate.ended = false) :
    ∃ archive, LastImport sha256 extract system calls packageId index archive ∧
      record.Carries archive := by
  induction index generalizing record with
  | zero =>
    simp only [before, List.take_zero, run_nil, empty, PackageManager.find_init] at found
    cases found
  | succ index ih =>
    have carry : ∀ prior : PackageRecord,
        (before sha256 extract system calls index).device.manager.find packageId = some prior →
        prior.KeepsIdentity record →
        (∀ other, ¬ ImportsAt sha256 extract system calls packageId index other) →
        ∃ archive, LastImport sha256 extract system calls packageId (index + 1) archive ∧
          record.Carries archive := by
      intro prior isPrior keeps idle
      rcases keeps with ended | ⟨runningPrior, digest, version, capabilityMask⟩
      · rw [running] at ended
        cases ended
      obtain ⟨archive, ⟨earlier, isEarlier, importer, imports, isArchive, since⟩, carries⟩ :=
        ih isPrior runningPrior
      refine ⟨archive, ⟨earlier, by omega, importer, imports, isArchive, ?_⟩, digest.trans
        carries.digest, version.trans carries.version, capabilityMask.trans carries.capabilityMask⟩
      intro between isAfter isBefore other
      by_cases last : between = index
      · rw [last]
        exact idle other
      · exact since between isAfter (by omega) other
    cases present : calls[index]? with
    | none =>
      rw [before_end present] at found
      refine carry record found record.keeps_identity_refl fun other imports => ?_
      have impossible := present.symm.trans imports.1
      cases impossible
    | some call =>
      have own : ∀ other, ImportsAt sha256 extract system calls packageId index other →
          other = call := fun other imports => Option.some.inj (imports.1.symm.trans present)
      have soundBefore : (before sha256 extract system calls index).device.manager.Sound :=
        run_sound standard (empty ▸ PackageManager.init_sound) _
      rw [before_succ present] at found
      rcases (RpcPackages.process_manager sha256 extract _ call.verified call.context
          call.environment (standard.run (calls.take index) call.session) _).find_cases soundBefore
          found with ⟨idle, prior, isPrior, keeps⟩ | ⟨imports, archive, isArchive, carries⟩
      · refine carry prior isPrior keeps fun other importsToo => idle ?_
        rw [own other importsToo] at importsToo
        exact importsToo.2
      · exact ⟨archive, ⟨index, by omega, call, ⟨present, imports⟩, isArchive,
          fun between isAfter isBefore => by omega⟩, carries⟩

/-- There is one last import. -/
theorem LastImport.unique {packageId : CString} {index : Nat} {archive other : VerifiedArchive}
    (last : LastImport sha256 extract system calls packageId index archive)
    (lastToo : LastImport sha256 extract system calls packageId index other) : archive = other := by
  obtain ⟨first, isFirst, importer, imports, isArchive, since⟩ := last
  obtain ⟨second, isSecond, importerToo, importsToo, isOther, sinceToo⟩ := lastToo
  rcases lt_trichotomy first second with earlier | same | later
  · exact absurd importsToo (since second earlier isSecond importerToo)
  · subst same
    have sameCall : importer = importerToo :=
      Option.some.inj (imports.1.symm.trans importsToo.1)
    rw [sameCall, isOther] at isArchive
    exact (Option.some.inj isArchive).symm
  · exact absurd imports (sinceToo first later isFirst importer)

/-- What waits for approval in a session was issued by an earlier call of it. -/
theorem confirmation_issued {session : Nat}
    (idle : (system.sessions session).confirmationActive = false) (index : Nat)
    (active : ((before sha256 extract system calls index).sessions session).confirmationActive =
      true) :
    ∃ bound, IssuedFor sha256 extract system calls session index bound := by
  induction index with
  | zero =>
    simp only [before, List.take_zero, run_nil] at active
    rw [idle] at active
    cases active
  | succ index ih =>
    have carry : (before sha256 extract system calls (index + 1)).sessions session =
          (before sha256 extract system calls index).sessions session →
        ∃ bound, IssuedFor sha256 extract system calls session (index + 1) bound := by
      intro same
      rw [same] at active
      obtain ⟨bound, earlier, isEarlier, issuer, present, own, requested, issuance, kept⟩ :=
        ih active
      exact ⟨bound, earlier, by omega, issuer, present, own, requested, issuance,
        same.trans kept⟩
    cases present : calls[index]? with
    | none => exact carry (by rw [before_end present])
    | some call =>
      have next : before sha256 extract system calls (index + 1) =
          step sha256 extract (before sha256 extract system calls index) call :=
        before_succ present
      by_cases own : session = call.session
      · subst own
        have stepped := RpcPackages.process_step sha256 extract call.verified call.context
          call.environment ((before sha256 extract system calls index).sessions call.session)
          call.request (before sha256 extract system calls index).device
        have after : (before sha256 extract system calls (index + 1)).sessions call.session =
            (outcome sha256 extract (before sha256 extract system calls index)
              call).value.packages := by
          rw [next, step_own]
        rcases stepped.cases with ⟨same, -⟩ | ⟨bound, requested, issuance, -⟩ | ⟨-, -, cleared, -⟩
        · exact carry (after.trans same)
        · exact ⟨bound, index, by omega, call, present, rfl, requested,
            issuance.trans (congrArg (Prod.mk true) after.symm), rfl⟩
        · rw [after.trans cleared] at active
          cases active
      · exact carry (by rw [next, step_other _ own])

/-- A successful activation moves the record it found to activating and keeps its
identity. -/
theorem activation_moves (standard : system.Standard) (sound : system.device.manager.Sound)
    {call : PackageCall}
    (decoded : PackageOperation.ofWire call.request.operation = some .activate)
    (succeeded : (outcome sha256 extract system call).value.result = true) :
    ∃ prior moved, system.device.manager.find call.request.packageId = some prior ∧
      (step sha256 extract system call).device.manager.find call.request.packageId = some moved ∧
      prior.transaction.contentUpdate.ended = false ∧
      moved.transaction.contentUpdate.state = .activating ∧ prior.KeepsIdentity moved := by
  let motion : Motion Tree :=
    { move := PackageStorage.activate .default call.request.packageId
      operation := .activate true
      revert := PackageStorage.reportHealth .default call.request.packageId false
      undo := PackageStorage.reportHealth .default call.request.packageId false }
  obtain ⟨named, allocated, given⟩ :=
    RpcPackages.processed_accepted (standard call.session) decoded succeeded
  have simulated := RpcPackages.simulates_motion extract call.verified (standard call.session)
    decoded named allocated system.device
    (Eq.refl (some motion) : call.request.motion _ .activate = some motion) given
  obtain ⟨-, accepted, -, final⟩ := Motion.run_succeeded (simulated.value.symm.trans succeeded)
  obtain ⟨prior, found, result⟩ := (Option.any_eq_true _ _).mp accepted
  have sameCell : (step sha256 extract system call).device.cell call.request.packageId = _ :=
    simulated.final.trans final
  have isMoved := congrArg PackageCell.record sameCell
  have priorSound := (sound.found found).1
  obtain ⟨running, activating⟩ := priorSound.activate_accepted result
  refine ⟨prior, _, found, isMoved.trans (congrArg (Option.map _) found), running, activating,
    priorSound.apply_keeps_identity (.activate true)⟩

/-- In every run of any number of sessions, a successful activation moves a record
to activating, and the token it used was issued for a request about the same
package. That request describes the record exactly when it names the archive of
the last accepted import of the package.

Proof: the record's update had not ended, so the record carries the last import,
and activating it keeps its identity. -/
theorem activated_as_confirmed_iff (profiles : Nat → SessionProfile)
    (sha256 : List UInt8 → Digest)
    (extract : Option (List UInt8) → VerifiedArchive → Traced (Option Tree) Bool)
    (calls : List PackageCall) (index : Nat) (user : PackageCall)
    (present : calls[index]? = some user)
    (decoded : PackageOperation.ofWire user.request.operation = some .activate)
    (succeeded : resultAt sha256 extract (start profiles) calls index user = true) :
    (∃ bound, IssuedFor sha256 extract (start profiles) calls user.session index bound) ∧
    (∃ archive, LastImport sha256 extract (start profiles) calls user.request.packageId index
      archive) ∧
    ∃ moved, (before sha256 extract (start profiles) calls (index + 1)).device.manager.find
        user.request.packageId = some moved ∧
      moved.transaction.contentUpdate.state = .activating ∧
      ∀ bound archive,
        IssuedFor sha256 extract (start profiles) calls user.session index bound →
        LastImport sha256 extract (start profiles) calls user.request.packageId index archive →
        bound.packageId = user.request.packageId ∧
          (bound.Describes moved ↔ bound.Names archive) := by
  have standard : (start profiles : PackageSystem Tree).Standard := start_standard profiles
  have standardThen : (before sha256 extract (start profiles) calls index).Standard :=
    standard.run (calls.take index)
  have sound : (before sha256 extract (start profiles) calls index).device.manager.Sound :=
    run_sound standard PackageManager.init_sound _
  -- The session used the confirmation that was waiting in it.
  obtain ⟨active, samePackage⟩ :
      ((before sha256 extract (start profiles) calls index).sessions
        user.session).confirmationActive = true ∧
      ((before sha256 extract (start profiles) calls index).sessions
        user.session).confirmationPackageId = user.request.packageId := by
    have needed : RpcPackages.needsConfirmation user.request = true := by
      rw [RpcPackages.needsConfirmation, decoded]
      rfl
    rcases (RpcPackages.process_step sha256 extract user.verified user.context user.environment
        ((before sha256 extract (start profiles) calls index).sessions user.session) user.request
        (before sha256 extract (start profiles) calls index).device).cases with
      ⟨-, failed⟩ | ⟨-, -, -, failed⟩ | ⟨-, -, -, matched, -⟩
    · exact absurd succeeded (by rw [resultAt, outcome, failed needed]; decide)
    · exact absurd succeeded (by rw [resultAt, outcome, failed needed]; decide)
    · exact RpcPackages.matches_active matched
  obtain ⟨prior, moved, found, isMoved, running, activating, keeps⟩ :=
    activation_moves standardThen sound decoded succeeded
  obtain ⟨archive, last, carries⟩ := record_carries standard rfl user.request.packageId index found
    running
  have movedCarries : moved.Carries archive := by
    rcases keeps with ended | ⟨-, digest, version, capabilityMask⟩
    · simp [ContentUpdate.ended, activating] at ended
    · exact ⟨digest.trans carries.digest, version.trans carries.version,
        capabilityMask.trans carries.capabilityMask⟩
  refine ⟨confirmation_issued rfl index active, ⟨archive, last⟩, moved, ?_, activating, ?_⟩
  · rw [before_succ present]
    exact isMoved
  · intro bound other issuedFor lastToo
    obtain ⟨_, _, _, _, _, _, issuance, kept⟩ := issuedFor
    obtain ⟨-, -, -, cached, -⟩ := RpcPackages.issue_accepted issuance
    rw [kept, cached] at samePackage
    rw [lastToo.unique last]
    exact ⟨samePackage, movedCarries.describes_iff bound⟩

section Mislabelled

/-- A verification of the first version of `demo` that calls it by another one,
and the activation with the token it returned. -/
def mislabelledActivation : List PackageCall :=
  let archive := demoArchive (.literal "1.0.0") (demoDigest 49) 1
  [demoCall (demoRequest .importArchive []) (some archive), demoCall (demoRequest .stage []) none,
    demoCall { demoRequest .verify [] with version := .literal "9.9.9" } (some archive),
    demoCall { demoRequest .activate demoToken with version := .literal "9.9.9" } none]

theorem demo_activated_as_confirmed :
    ∃ moved, (before Session.sha256Digest demoExtract (start demoProfile) demoInstallation
        4).device.manager.find (.literal "demo") = some moved ∧
      moved.transaction.contentUpdate.state = .activating ∧
      (demoRequest .activate []).Describes moved := by
  obtain ⟨-, -, moved, found, activating, exactly⟩ := activated_as_confirmed_iff
    demoProfile Session.sha256Digest demoExtract demoInstallation 3
    (demoCall (demoRequest .activate demoToken) none) rfl (by decide) (by decide +kernel)
  have issuedFor : IssuedFor Session.sha256Digest demoExtract (start demoProfile) demoInstallation 0
      3 (demoRequest .activate []) :=
    ⟨2, by decide, _, rfl, rfl, .inr ⟨by decide, rfl⟩, by decide +kernel, rfl⟩
  have last : LastImport Session.sha256Digest demoExtract (start demoProfile) demoInstallation
      (.literal "demo") 3 (demoArchive (.literal "1.0.0") (demoDigest 49) 1) := by
    refine ⟨0, by decide, _, ⟨rfl, by decide, by decide +kernel, rfl⟩, rfl, ?_⟩
    rintro between isAfter isBefore other ⟨present, decoded, -⟩
    obtain rfl | rfl : between = 1 ∨ between = 2 := by omega
    · cases present
      exact absurd decoded (by decide)
    · cases present
      exact absurd decoded (by decide)
  exact ⟨moved, found, activating, (exactly _ _ issuedFor last).2.mpr ⟨rfl, rfl, rfl⟩⟩

/-- The activation succeeds, its token was issued for version 9.9.9, and the
record it activates is version 1.0.0. -/
theorem mislabelled_activation_not_as_confirmed :
    let bound := { demoRequest .activate [] with version := .literal "9.9.9" }
    let user := demoCall { demoRequest .activate demoToken with version := .literal "9.9.9" } none
    mislabelledActivation[3]? = some user ∧
      resultAt Session.sha256Digest demoExtract (start demoProfile) mislabelledActivation 3 user =
        true ∧
      IssuedFor Session.sha256Digest demoExtract (start demoProfile) mislabelledActivation 0 3
        bound ∧
      ∃ moved, (before Session.sha256Digest demoExtract (start demoProfile) mislabelledActivation
          4).device.manager.find (.literal "demo") = some moved ∧
        moved.version = .literal "1.0.0" ∧ ¬ bound.Describes moved := by
  intro bound user
  have version : ((before Session.sha256Digest demoExtract (start demoProfile)
      mislabelledActivation 4).device.manager.find (.literal "demo")).map (·.version) =
        some (.literal "1.0.0") := by decide +kernel
  obtain ⟨moved, found, isVersion⟩ := Option.map_eq_some_iff.mp version
  refine ⟨rfl, by decide +kernel,
    ⟨2, by decide, _, rfl, rfl, .inr ⟨by decide, rfl⟩, by decide +kernel, rfl⟩,
    moved, found, isVersion, fun describes => ?_⟩
  have impossible := describes.version
  rw [isVersion] at impossible
  exact absurd impossible (by decide)

end Mislabelled

end PackageSystem

end PoisonedOS
