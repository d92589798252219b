import PoisonedOS.Archive.Builder
import PoisonedOS.Audit.Chain
import PoisonedOS.Packages.Agreement
import PoisonedOS.Packages.Extraction
import PoisonedOS.Rpc.Atomicity
import PoisonedOS.Rpc.Managers

/-!
# Records and directories agree along runs

Sessions send requests through the request handler, which verifies the archive of
an import or a verification before it is processed. While every save succeeds,
records and directories agree in every state a run reaches, as long as no step
is one of seven the code lets through: an unhealthy report the manager refuses
after the active tree has gone, an unhealthy report whose undo resurrects a
quarantined tree, an update imported over one that has not been received, a
refused removal that has dropped the rollback tree of an activating update, the
reception of an update for a package that has been taken out of use, a request
that moves the directories of another package, whose identifier is the same name
on the volume, and the unpacking of payloads that take each other's place.
-/

namespace PoisonedOS

namespace PackageOperationRequest

variable {Tree : Type}

/-- The step is none of those that let a record and its directories part: the
condition on the request, the record it finds and the directories. -/
def AgreesWhen (request : PackageOperationRequest) (record : PackageRecord)
    (directories : Directories Tree) : PackageOperation → Prop
  | .stage =>
    record.transaction.state = .quarantined ∨ record.transaction.state = .removed →
      record.transaction.rollbackState ≠ .removed →
      record.transaction.contentUpdate.state = .discovered ∨
        record.transaction.contentUpdate.state = .receiving →
      record.transaction.contentUpdate.receivedBytes + request.receivedBytes ≠
        record.transaction.contentUpdate.contentBytes
  | .health =>
    request.healthy = false →
      (record.transaction.contentUpdate.state = .activating → directories.active = none →
        directories.quarantine = none) ∧
      (record.transaction.contentUpdate.state ≠ .activating → directories.active ≠ none →
        record.transaction.state = .quarantined ∨ record.transaction.state = .removed)
  | .remove =>
    record.transaction.contentUpdate.state = .activating →
      record.transaction.rollbackState ≠ .removed → directories.active ≠ none →
      directories.rollback = none
  | _ => True

end PackageOperationRequest

/-- The operation reaches the directories. A healthy report only looks whether there is an
active tree. -/
def PackageOperationRequest.moves (request : PackageOperationRequest) : PackageOperation → Bool
  | .verify | .activate | .remove | .rollback | .quarantine => true
  | .health => !request.healthy
  | _ => false

namespace PackageCell

variable {Tree : Type}

/-- No exchange was left halfway, and the record, if any, agrees with the
directories. -/
structure Agrees (unpacked : CString → Tree → Prop) (cell : PackageCell Tree) : Prop where
  exchanged : cell.directories.swap = none
  record : ∀ record, cell.record = some record → record.Agrees unpacked cell.directories

/-- Agreement does not concern the saved record. -/
theorem Agrees.congr {unpacked : CString → Tree → Prop} {cell other : PackageCell Tree}
    (agrees : cell.Agrees unpacked) (record : other.record = cell.record)
    (directories : other.directories = cell.directories) : other.Agrees unpacked :=
  ⟨by rw [directories]; exact agrees.exchanged,
    by rw [record, directories]; exact agrees.record⟩

end PackageCell

open PackageExtraction (Separate Written archivedPayloads archivedPayloads_perm extract
  extract_written)
open PackageStorage (activate_run quarantine_run remove_run reportHealth report_health_run_healthy
  report_health_run_unhealthy restoreRemoved restore_removed_run rollback_run stage withPaths
  with_paths_default with_paths_placed)

section Motions

variable {Tree : Type} {unpacked : CString → Tree → Prop} {request : PackageOperationRequest}
  {operation : PackageOperation} {motion : Motion Tree} {cell : PackageCell Tree}

/-- A valid identifier has all its paths. -/
theorem PackageStorage.placed_of_valid {packageId : CString}
    (valid : packageIdValid packageId = true) : PackageStorage.Placed .default packageId := by
  intro slot
  rw [StorageLayout.default_path_isSome]
  exact valid

/-- Without a valid identifier a storage function touches nothing. -/
theorem PackageStorage.with_paths_invalid {packageId : CString}
    (invalid : packageIdValid packageId = false) {slots : List DirectorySlot} (nonempty : slots ≠ [])
    (body : Traced (Directories Tree) Bool) :
    withPaths .default packageId slots body = pure false := by
  rw [with_paths_default slots nonempty body, invalid]
  rfl

/-- A motion's two moves leave no exchange halfway. -/
theorem PackageOperationRequest.motion_exchanged {prior : Option PackageRecord}
    (isMotion : request.motion prior operation = some motion) {directories : Directories Tree}
    (exchanged : directories.swap = none) :
    (motion.move directories).final.swap = none ∧
      (motion.revert (motion.move directories).final).final.swap = none := by
  cases valid : packageIdValid request.packageId with
  | false =>
    have refused : ∀ slots body, slots ≠ [] →
        withPaths .default request.packageId slots body =
          (pure false : Traced (Directories Tree) Bool) := fun slots body nonempty =>
      PackageStorage.with_paths_invalid valid nonempty body
    cases operation <;> cases isMotion <;>
      simp [Motion.recordOnly, PackageStorage.activate, reportHealth,
        PackageStorage.remove, restoreRemoved, PackageStorage.rollback,
        PackageStorage.quarantine, refused, exchanged]
  | true =>
    have placed := PackageStorage.placed_of_valid valid
    obtain ⟨active, candidate, rollback, quarantine, swap⟩ := directories
    cases exchanged
    cases operation with
    | inspect => cases isMotion
    | importArchive => cases isMotion
    | verify => cases isMotion
    | stage => cases isMotion; exact ⟨rfl, rfl⟩
    | disable => cases isMotion; exact ⟨rfl, rfl⟩
    | enable => cases isMotion; exact ⟨rfl, rfl⟩
    | activate =>
      cases isMotion
      cases active <;> cases candidate <;> cases rollback <;> cases quarantine <;>
        simp [activate_run placed, report_health_run_unhealthy placed]
    | health =>
      cases isMotion
      cases request.healthy <;> cases active <;> cases rollback <;> cases quarantine <;>
        simp [report_health_run_healthy placed,
          report_health_run_unhealthy placed]
    | remove =>
      cases isMotion
      cases active <;> cases rollback <;>
        simp [remove_run placed, restore_removed_run placed]
    | rollback =>
      cases isMotion
      cases active <;> cases rollback <;> simp [rollback_run placed]
    | quarantine =>
      cases isMotion
      cases prior <;> cases active <;> cases candidate <;>
        simp [quarantine_run placed]

/-- What agreement after a motion comes to: the record it leaves agrees with the
directories it leaves. -/
theorem PackageOperationRequest.motion_agrees_of {prior : Option PackageRecord}
    (isMotion : request.motion prior operation = some motion) (agrees : cell.Agrees unpacked)
    (unmoved : ∀ record, cell.record = some record →
      (motion.move cell.directories).value = false →
        record.Agrees unpacked (motion.move cell.directories).final)
    (refused : ∀ record, cell.record = some record →
      (motion.move cell.directories).value = true →
      (motion.operation.apply record).result = false →
        (motion.operation.apply record).record.Agrees unpacked
          (motion.revert (motion.move cell.directories).final).final)
    (accepted : ∀ record, cell.record = some record →
      (motion.move cell.directories).value = true →
      (motion.operation.apply record).result = true →
        (motion.operation.apply record).record.Agrees unpacked
          (motion.move cell.directories).final) :
    (motion.run true cell).final.Agrees unpacked := by
  obtain ⟨moveExchanged, revertExchanged⟩ := motion_exchanged isMotion agrees.exchanged
  rcases motion.run_true_cases cell with
    ⟨moved, record, directories⟩ | ⟨moved, result, record, directories⟩ |
      ⟨moved, result, record, directories⟩
  · refine ⟨by rw [directories]; exact moveExchanged, fun after isAfter => ?_⟩
    rw [record] at isAfter
    rw [directories]
    exact unmoved after isAfter moved
  · refine ⟨by rw [directories]; exact revertExchanged, fun after isAfter => ?_⟩
    rw [record] at isAfter
    obtain ⟨before, found, rfl⟩ := Option.map_eq_some_iff.mp isAfter
    rw [directories]
    exact refused before found moved (by simpa [PackageCell.accepts, found] using result)
  · refine ⟨by rw [directories]; exact moveExchanged, fun after isAfter => ?_⟩
    rw [record] at isAfter
    obtain ⟨before, found, rfl⟩ := Option.map_eq_some_iff.mp isAfter
    rw [directories]
    exact accepted before found moved (by simpa [PackageCell.accepts, found] using result)

section Kinds

variable (agrees : cell.Agrees unpacked)
  (sound : ∀ record, cell.record = some record →
    record.Sound ∧ PackageStorage.Placed .default request.packageId)
include agrees sound

/-- An activation keeps agreement. -/
theorem PackageOperationRequest.activate_agrees
    (isMotion : request.motion cell.record .activate = some motion) :
    (motion.run true cell).final.Agrees unpacked := by
  obtain ⟨_, stored, active, candidate, rollback, quarantine, swap⟩ := cell
  refine motion_agrees_of isMotion agrees ?_ ?_ ?_ <;> cases isMotion <;>
    intro record found moved <;> obtain ⟨recordSound, placed⟩ := sound record found <;>
    have agreed := agrees.record record found
  · cases candidate with
    | none => simpa [activate_run placed] using agreed
    | some candidate => cases active <;> simp [activate_run placed] at moved
  · intro refused
    cases candidate with
    | none => simp [activate_run placed] at moved
    | some candidate =>
      cases active <;>
        simpa [activate_run placed,
          report_health_run_unhealthy placed] using
          agreed.activate_refused recordSound refused (some candidate)
  · intro accepted
    cases candidate with
    | none => simp [activate_run placed] at moved
    | some candidate =>
      cases active <;>
        simpa [activate_run placed] using
          agreed.activate_accepted recordSound accepted

/-- A removal keeps agreement unless it drops a rollback tree that is needed. -/
theorem PackageOperationRequest.remove_agrees
    (isMotion : request.motion cell.record .remove = some motion)
    (permitted : ∀ record, cell.record = some record →
      request.AgreesWhen record cell.directories .remove) :
    (motion.run true cell).final.Agrees unpacked := by
  obtain ⟨_, stored, active, candidate, rollback, quarantine, swap⟩ := cell
  refine motion_agrees_of isMotion agrees ?_ ?_ ?_ <;> cases isMotion <;>
    intro record found moved <;> obtain ⟨recordSound, placed⟩ := sound record found <;>
    have agreed := agrees.record record found
  · cases active with
    | none => simpa [remove_run placed] using agreed
    | some active => simp [remove_run placed] at moved
  · intro refused
    have same := PackageRecord.refused_unchanged (.inr (.inl rfl)) refused
    cases active with
    | none => simp [remove_run placed] at moved
    | some active =>
      have kept := agreed.without_rollback fun activating installed =>
        permitted record found activating installed (by simp)
      simpa [remove_run placed, restore_removed_run placed, same]
        using kept
  · intro accepted
    cases active with
    | none => simp [remove_run placed] at moved
    | some active =>
      simpa [remove_run placed] using agreed.remove_accepted accepted

/-- A rollback keeps agreement. -/
theorem PackageOperationRequest.rollback_agrees
    (isMotion : request.motion cell.record .rollback = some motion) :
    (motion.run true cell).final.Agrees unpacked := by
  have exchanged := agrees.exchanged
  obtain ⟨_, stored, active, candidate, rollback, quarantine, swap⟩ := cell
  cases exchanged
  refine motion_agrees_of isMotion agrees ?_ ?_ ?_ <;> cases isMotion <;>
    intro record found moved <;> obtain ⟨recordSound, placed⟩ := sound record found <;>
    have agreed := agrees.record record found
  · cases active <;> cases rollback <;> simp [rollback_run placed] at moved ⊢ <;>
      exact agreed
  · intro refused
    have same := PackageRecord.refused_unchanged (.inr (.inr (.inl rfl))) refused
    cases active <;> cases rollback <;> simp [rollback_run placed] at moved ⊢
    rw [same]
    exact agreed
  · intro accepted
    cases active <;> cases rollback <;> simp [rollback_run placed] at moved ⊢
    exact agreed.rollback_accepted recordSound accepted

/-- A quarantine keeps agreement. -/
theorem PackageOperationRequest.quarantine_agrees
    (isMotion : request.motion cell.record .quarantine = some motion) :
    (motion.run true cell).final.Agrees unpacked := by
  obtain ⟨prior, stored, active, candidate, rollback, quarantine, swap⟩ := cell
  refine motion_agrees_of isMotion agrees ?_ ?_ ?_ <;> cases isMotion <;>
    intro record found moved <;> obtain ⟨recordSound, placed⟩ := sound record found <;>
    have agreed := agrees.record record found <;> cases found
  · cases active <;> cases candidate <;> simp [quarantine_run placed] at moved ⊢
    exact agreed
  · intro refused
    have same := PackageRecord.refused_unchanged (.inr (.inr (.inr rfl))) refused
    rw [same]
    have removed : record.transaction.state = .removed := by
      by_contra other
      simp [RecordOperation.apply, PackageRecord.quarantine, other] at refused
    refine agreed.out_of_use (.inr removed) fun activating => ?_
    obtain ⟨-, isVerified | ⟨isQuarantined, -⟩⟩ := agreed.activating activating
    · rw [removed] at isVerified
      cases isVerified
    · rw [removed] at isQuarantined
      cases isQuarantined
  · intro accepted
    cases active <;> cases candidate <;> simp [quarantine_run placed] at moved ⊢ <;>
      exact agreed.quarantine_accepted accepted (by simp)

/-- A health report keeps agreement unless it is an unhealthy one that finds no
activating update or no active tree. -/
theorem PackageOperationRequest.health_agrees
    (isMotion : request.motion cell.record .health = some motion)
    (permitted : ∀ record, cell.record = some record →
      request.AgreesWhen record cell.directories .health) :
    (motion.run true cell).final.Agrees unpacked := by
  obtain ⟨prior, stored, active, candidate, rollback, quarantine, swap⟩ := cell
  cases healthy : request.healthy with
  | true =>
    refine motion_agrees_of isMotion agrees ?_ ?_ ?_ <;> cases isMotion <;>
      intro record found moved <;> obtain ⟨recordSound, placed⟩ := sound record found <;>
      have agreed := agrees.record record found <;>
      simp only [healthy, report_health_run_healthy placed] at moved ⊢
    · exact agreed
    · intro refused
      rw [PackageRecord.refused_unchanged (.inl rfl) refused]
      exact agreed
    · intro accepted
      cases active with
      | none => cases moved
      | some active => exact agreed.healthy_accepted recordSound accepted
  | false =>
    refine motion_agrees_of isMotion agrees ?_ ?_ ?_ <;> cases isMotion <;>
      intro record found moved <;> obtain ⟨recordSound, placed⟩ := sound record found <;>
      have agreed := agrees.record record found <;>
      obtain ⟨resurrects, displaces⟩ := permitted record found healthy <;>
      simp only [healthy] at moved ⊢
    · cases active with
      | none =>
        cases quarantine with
        | none => cases rollback <;>
            simpa [report_health_run_unhealthy placed] using agreed
        | some quarantine =>
          have settled : record.transaction.contentUpdate.state ≠ .activating := by
            intro activating
            cases resurrects activating rfl
          cases rollback <;> simpa [report_health_run_unhealthy placed] using
            agreed.of_inactive settled (some quarantine) none
      | some active =>
        cases rollback <;> simp [report_health_run_unhealthy placed] at moved
    · intro refused
      obtain ⟨settled, same⟩ := PackageRecord.unhealthy_refused recordSound refused
      rw [same]
      cases active with
      | none => cases rollback <;> cases quarantine <;>
          simp [report_health_run_unhealthy placed] at moved
      | some active =>
        exact agreed.out_of_use (displaces settled (by simp)) (absurd · settled)
    · intro accepted
      cases active with
      | none => cases rollback <;> cases quarantine <;>
          simp [report_health_run_unhealthy placed] at moved
      | some active =>
        cases rollback <;> simpa [report_health_run_unhealthy placed] using
          agreed.unhealthy_accepted recordSound accepted (some active)

end Kinds

/-- Every motion keeps agreement where its condition holds. -/
theorem PackageOperationRequest.motion_agrees
    (isMotion : request.motion cell.record operation = some motion)
    (agrees : cell.Agrees unpacked)
    (sound : ∀ record, cell.record = some record →
      record.Sound ∧ PackageStorage.Placed .default request.packageId)
    (permitted : ∀ record, cell.record = some record →
      request.AgreesWhen record cell.directories operation) :
    (motion.run true cell).final.Agrees unpacked := by
  cases operation with
  | inspect => cases isMotion
  | importArchive => cases isMotion
  | verify => cases isMotion
  | activate => exact activate_agrees agrees sound isMotion
  | health => exact health_agrees agrees sound isMotion permitted
  | remove => exact remove_agrees agrees sound isMotion permitted
  | rollback => exact rollback_agrees agrees sound isMotion
  | quarantine => exact quarantine_agrees agrees sound isMotion
  | stage =>
    have keeps : ∀ record, cell.record = some record →
        ((RecordOperation.receive request.receivedBytes).apply record).record.Agrees unpacked
          cell.directories := fun record found =>
      (agrees.record record found).receive (sound record found).1 _ (permitted record found)
    refine motion_agrees_of isMotion agrees ?_ ?_ ?_ <;> cases isMotion
    · intro record found moved
      cases moved
    · exact fun record found _ _ => keeps record found
    · exact fun record found _ _ => keeps record found
  | disable =>
    refine motion_agrees_of isMotion agrees ?_ ?_ ?_ <;> cases isMotion
    · intro record found moved
      cases moved
    · exact fun record found _ _ => (agrees.record record found).setEnabled false
    · exact fun record found _ _ => (agrees.record record found).setEnabled false
  | enable =>
    refine motion_agrees_of isMotion agrees ?_ ?_ ?_ <;> cases isMotion
    · intro record found moved
      cases moved
    · exact fun record found _ _ => (agrees.record record found).setEnabled true
    · exact fun record found _ _ => (agrees.record record found).setEnabled true

/-- An operation that does not reach the directories leaves them. -/
theorem PackageOperationRequest.motion_unmoved {prior : Option PackageRecord}
    (isMotion : request.motion prior operation = some motion)
    (unmoved : request.moves operation = false) :
    (motion.run true cell).final.directories = cell.directories := by
  have still : (motion.move cell.directories).final = cell.directories →
      (motion.revert cell.directories).final = cell.directories →
      (motion.run true cell).final.directories = cell.directories := by
    intro moved reverted
    rcases motion.run_true_cases cell with
      ⟨-, -, directories⟩ | ⟨-, -, -, directories⟩ | ⟨-, -, -, directories⟩
    · exact directories.trans moved
    · exact directories.trans (by rw [moved, reverted])
    · exact directories.trans moved
  cases operation with
  | stage | disable | enable =>
    cases isMotion
    exact still rfl rfl
  | inspect | importArchive => cases isMotion
  | health =>
    have healthy : request.healthy = true := by simpa [PackageOperationRequest.moves] using unmoved
    cases isMotion
    refine still ?_ rfl
    rw [healthy]
    cases valid : packageIdValid request.packageId with
    | false =>
      rw [reportHealth, PackageStorage.with_paths_invalid valid (List.cons_ne_nil _ _)]
      rfl
    | true =>
      exact congrArg Run.final (report_health_run_healthy (PackageStorage.placed_of_valid valid) _)
  | verify | activate | remove | rollback | quarantine => cases unmoved

end Motions

variable {packageId : CString}

/-- A verification keeps agreement when a successful extraction leaves a tree of the
archive with the digest. -/
theorem Verification.run_agrees {Tree : Type} {unpacked : CString → Tree → Prop}
    {cell : PackageCell Tree} {verification : Verification Tree}
    (quarantines : verification.quarantine = PackageStorage.quarantine .default packageId)
    (agrees : cell.Agrees unpacked)
    (sound : ∀ record, cell.record = some record →
      record.Sound ∧ PackageStorage.Placed .default packageId)
    (known : verification.extraction.isSome = true → cell.record.isSome = true)
    (extracts : ∀ extraction record, verification.extraction = some extraction →
      cell.record = some record → ∃ extracted,
        (extraction record cell.directories).final =
          { cell.directories with candidate := extracted } ∧
        ((extraction record cell.directories).value = true →
          extracted.isSome = true ∧ HoldsAtMost unpacked verification.digest extracted)) :
    (verification.run true cell).final.Agrees unpacked := by
  obtain ⟨isRecord, isDirectories⟩ := verification.run_true cell
  cases found : cell.record with
  | none =>
    cases isExtraction : verification.extraction with
    | some extraction =>
      have impossible := known (by rw [isExtraction]; rfl)
      rw [found] at impossible
      cases impossible
    | none =>
      refine agrees.congr ?_ ?_
      · rw [isRecord]
        simp [Verification.extract, isExtraction, PackageCell.applied, found]
      · rw [isDirectories]
        simp [Verification.extract, isExtraction]
  | some record =>
    obtain ⟨recordSound, placed⟩ := sound record found
    have agreed := agrees.record record found
    have exchanged := agrees.exchanged
    cases isExtraction : verification.extraction with
    | none =>
      simp only [Verification.extract, isExtraction, Traced.pure_run, Option.isSome_none,
        Bool.and_false, Bool.false_eq_true, if_false] at isRecord isDirectories
      refine ⟨by rw [isDirectories]; exact exchanged, fun after isAfter => ?_⟩
      rw [isRecord, PackageCell.applied, found] at isAfter
      cases isAfter
      exact agreed.verify_rejected _ _
    | some extraction =>
      obtain ⟨extracted, left, succeeds⟩ := extracts extraction record isExtraction found
      obtain ⟨_, stored, active, candidate, rollback, quarantine, swap⟩ := cell
      cases found
      simp only [Verification.extract, isExtraction, PackageCell.storage, Traced.focus_run,
        PackageCell.applied, PackageCell.accepts, PackageCell.place, left, Option.isSome_some,
        Bool.and_true, quarantines, Option.any_some, Option.map_some] at isRecord isDirectories
      cases unpacks : (extraction record ⟨active, candidate, rollback, quarantine, swap⟩).value with
      | false =>
        rw [unpacks] at isRecord isDirectories
        refine ⟨?_, fun after isAfter => ?_⟩
        · rw [isDirectories]
          cases extracted <;> cases active <;>
            simpa [RecordOperation.apply, PackageRecord.verify,
              quarantine_run placed] using exchanged
        · rw [isRecord] at isAfter
          cases isAfter
          exact agreed.verify_rejected _ _
      | true =>
        rw [unpacks] at isRecord isDirectories
        obtain ⟨present, holds⟩ := succeeds unpacks
        obtain ⟨tree, rfl⟩ := Option.isSome_iff_exists.mp present
        cases result : ((RecordOperation.verify verification.digest true).apply record).result with
        | false =>
          simp only [result, Bool.not_false, if_true, quarantine_run placed]
            at isDirectories
          refine ⟨by rw [isDirectories]; exact exchanged, fun after isAfter => ?_⟩
          rw [isRecord] at isAfter
          cases isAfter
          rw [isDirectories]
          exact (agreed.without_candidate (some tree)).verify_refused recordSound _ result
        | true =>
          simp only [result, Bool.not_true, Bool.false_eq_true, if_false] at isDirectories
          refine ⟨by rw [isDirectories]; exact exchanged, fun after isAfter => ?_⟩
          rw [isRecord] at isAfter
          cases isAfter
          rw [isDirectories]
          exact agreed.verify_accepted recordSound result holds

/-- The archive the request handler verifies and passes on: for an import the one
at the path of the request, for a verification the one at the path of the record,
which must be signed with the record's key. -/
def PackageOperationRequest.verifiedFor
    (verifyArchive : List UInt8 → CString → Option CString → Option VerifiedArchive)
    (request : PackageOperationRequest) (archives : CString → Option (List UInt8))
    (installed : Option PackageRecord) : Option VerifiedArchive :=
  let verification (path : Option CString) : Option VerifiedArchive :=
    match path.bind archives with
    | none => none
    | some bytes =>
      (verifyArchive bytes request.candidateDigest (installed.map (·.version))).filter fun verified =>
        verified.packageId == request.packageId && verified.archiveSha256 == request.candidateDigest
  match PackageOperation.ofWire request.operation with
  | some .importArchive => verification (some request.manifestPath)
  | some .verify =>
    (verification (installed.map (·.manifestPath))).filter fun verified =>
      installed.any fun record => verified.signingKeyId == record.signingKeyId
  | _ => none

/-- The files are exactly the payloads of a verified archive with the digest. -/
def Unpacked (sha256 : List UInt8 → Digest) (names : CString → Option CString)
    (verifyArchive : List UInt8 → CString → Option CString → Option VerifiedArchive)
    (digest : CString) (tree : FileTree) : Prop :=
  ∃ bytes expected installed archive found,
    verifyArchive bytes expected installed = some archive ∧
    PackageArchive.hexEncode (sha256 bytes) = digest ∧
    archivedPayloads bytes archive.payloads = some found ∧
    (found.map ArchivedPayload.path).Perm (archive.payloads.map PayloadDescriptor.path) ∧
    Written names tree found

namespace PackageSystem

variable (sha256 : List UInt8 → Digest) (names : CString → Option CString)
  (verifyArchive : List UInt8 → CString → Option CString → Option VerifiedArchive)

/-- The call comes from the request handler, and the manager its operation leaves
can be saved. -/
structure Handled (system : PackageSystem FileTree) (call : PackageCall) : Prop where
  verified : call.verified = call.request.verifiedFor verifyArchive call.environment.archives
    (system.device.manager.find call.request.packageId)
  saved : (((system.sessions call.session).operate sha256 (extract names sha256) call.request
    call.verified call.context call.environment system.device).final.manager.persistedValid &&
      call.environment.saved) = true

/-- The call is none of those that let a record and its directories part. -/
structure AgreesWhen (system : PackageSystem FileTree) (call : PackageCall) : Prop where
  /-- Of the record it finds. One of the calls is an import that updates a live record whose own
  update is not received. -/
  own : ∀ record, system.device.manager.find call.request.packageId = some record →
    ∀ operation, PackageOperation.ofWire call.request.operation = some operation →
    (system.sessions call.session).authorized sha256 call.request call.context
      call.environment.token operation = true →
    call.request.AgreesWhen record (system.device.directories call.request.packageId) operation ∧
    (operation = .importArchive →
      record.transaction.state = .active ∨ record.transaction.state = .disabled →
      record.transaction.contentUpdate.state = .discovered ∨
        record.transaction.contentUpdate.state = .receiving →
      ∀ archive previousState, call.verified = some archive →
        PackageState.ofWire call.request.previousState = some previousState →
        ((system.sessions call.session).importOf call.request archive previousState).updates
          record = false)
  /-- The directories it moves are not those of another package. -/
  alone : ∀ operation, PackageOperation.ofWire call.request.operation = some operation →
    (system.sessions call.session).authorized sha256 call.request call.context
      call.environment.token operation = true → call.request.moves operation = true →
    ∀ other record, system.device.manager.find other = some record →
      other.directoryName = call.request.packageId.directoryName →
      other = call.request.packageId
  /-- The payloads it unpacks do not clash. -/
  separate : PackageOperation.ofWire call.request.operation = some .verify →
    ∀ archive record bytes found, call.verified = some archive →
      system.device.manager.find call.request.packageId = some record →
      call.environment.archives record.manifestPath = some bytes →
      archivedPayloads bytes archive.payloads = some found → Separate names found

structure Agreed (system : PackageSystem FileTree) : Prop where
  standard : system.Standard
  sound : system.device.manager.Sound
  cells : ∀ packageId, (system.device.cell packageId).Agrees (Unpacked sha256 names verifyArchive)

variable {sha256 names verifyArchive} {system : PackageSystem FileTree} {call : PackageCall}

/-- A program that simulates one keeping its own package's agreement keeps that
of all packages, if no other one has the same directories or these stay. -/
theorem cells_of_simulates {Tree : Type} {unpacked : CString → Tree → Prop}
    {device : Device Tree} {program : Traced (Device Tree) Bool}
    {model : Traced (PackageCell Tree) Bool}
    (simulates : Device.Simulates packageId device program model)
    (agrees : ∀ other, (device.cell other).Agrees unpacked)
    (alone : (model (device.cell packageId)).final.directories =
        (device.cell packageId).directories ∨
      ∀ other record, device.manager.find other = some record →
        other.directoryName = packageId.directoryName → other = packageId)
    (own : (model (device.cell packageId)).final.Agrees unpacked) (other : CString) :
    ((program device).final.cell other).Agrees unpacked := by
  by_cases same : other = packageId
  · rw [same, simulates.final]
    exact own
  have kept := simulates.finalFramed.record other same
  by_cases apart : other.directoryName = packageId.directoryName
  · have shared (some : Device Tree) :
        (some.cell other).directories = (some.cell packageId).directories :=
      congrArg some.volume apart
    have left : ((program device).final.cell other).directories =
        (model (device.cell packageId)).final.directories := by
      rw [shared, simulates.final]
    rcases alone with still | alone
    · exact (agrees other).congr kept (left.trans (still.trans (shared device).symm))
    · refine ⟨left ▸ own.exchanged, fun record found => ?_⟩
      rw [kept] at found
      exact absurd (alone other record found apart) same
  · exact (agrees other).congr kept (simulates.finalFramed.directories other apart)

/-- Only a request that is not refused at once has to be considered. -/
theorem Agreed.of_accepted (agreed : system.Agreed sha256 names verifyArchive)
    (accepted : call.request.packageId.isEmpty = false → call.environment.allocated = true →
      ((outcome sha256 (extract names sha256) system call).final.cell packageId).Agrees
        (Unpacked sha256 names verifyArchive)) :
    ((outcome sha256 (extract names sha256) system call).final.cell packageId).Agrees
      (Unpacked sha256 names verifyArchive) := by
  have unchanged : RpcPackages.processed sha256 (extract names sha256)
        (system.sessions call.session) call.request call.verified call.context call.environment
        system.device = ⟨false, system.device, []⟩ →
      ((outcome sha256 (extract names sha256) system call).final.cell packageId).Agrees
        (Unpacked sha256 names verifyArchive) := by
    intro ran
    have same : (outcome sha256 (extract names sha256) system call).final = system.device :=
      congrArg Run.final ran
    rw [same]
    exact agreed.cells packageId
  cases named : call.request.packageId.isEmpty with
  | true => exact unchanged (RpcPackages.processed_refused (.inl named) system.device)
  | false =>
    cases allocated : call.environment.allocated with
    | false =>
      refine unchanged (RpcPackages.processed_refused (.inr ?_) system.device)
      rw [(agreed.standard call.session).persistence, allocated]
      rfl
    | true => exact accepted named allocated

theorem Agreed.placed (agreed : system.Agreed sha256 names verifyArchive) (packageId : CString) :
    ∀ record, (system.device.cell packageId).record = some record →
      record.Sound ∧ PackageStorage.Placed .default packageId := by
  intro record found
  obtain ⟨recordSound, sameId⟩ := agreed.sound.found found
  exact ⟨recordSound, PackageStorage.placed_of_valid (sameId ▸ recordSound.identified)⟩

/-- Processing a motion keeps agreement. -/
theorem Agreed.motion (agreed : system.Agreed sha256 names verifyArchive)
    (handled : system.Handled sha256 names verifyArchive call)
    (permitted : system.AgreesWhen sha256 names call) {operation : PackageOperation}
    (decoded : PackageOperation.ofWire call.request.operation = some operation)
    {motion : Motion FileTree}
    (isMotion : call.request.motion (system.device.manager.find call.request.packageId) operation =
      some motion) (packageId : CString) :
    ((outcome sha256 (extract names sha256) system call).final.cell packageId).Agrees
      (Unpacked sha256 names verifyArchive) := by
  refine agreed.of_accepted fun named allocated => ?_
  cases given : (system.sessions call.session).authorized sha256 call.request call.context
    call.environment.token operation with
  | false =>
    have same : (outcome sha256 (extract names sha256) system call).final = system.device :=
      congrArg Run.final (RpcPackages.processed_unauthorized decoded given system.device)
    rw [same]
    exact agreed.cells packageId
  | true =>
    have operated := congrArg Run.final (RpcPackages.operate_motion (extract names sha256)
      call.verified (agreed.standard call.session) decoded system.device isMotion given)
    have saved := handled.saved
    simp only [Traced.reading_run] at operated
    rw [operated] at saved
    have simulated := RpcPackages.simulates_attempted_motion (extract names sha256) call.verified
      (agreed.standard call.session) decoded named allocated system.device isMotion given
    rw [saved] at simulated
    refine cells_of_simulates simulated agreed.cells ?_ ?_ packageId
    · cases moves : call.request.moves operation with
      | false => exact .inl (PackageOperationRequest.motion_unmoved isMotion moves)
      | true => exact .inr (permitted.alone operation decoded given moves)
    · refine PackageOperationRequest.motion_agrees isMotion (agreed.cells _) (agreed.placed _) ?_
      intro record found
      exact (permitted.own record found operation decoded given).1

/-- What the handler passes on for a verification. -/
theorem verified_for_verify {request : PackageOperationRequest}
    {archives : CString → Option (List UInt8)} {installed : Option PackageRecord}
    {archive : VerifiedArchive}
    (decoded : PackageOperation.ofWire request.operation = some .verify)
    (isVerified : request.verifiedFor verifyArchive archives installed = some archive) :
    ∃ record bytes, installed = some record ∧ archives record.manifestPath = some bytes ∧
      verifyArchive bytes request.candidateDigest (some record.version) = some archive ∧
      archive.packageId = request.packageId ∧ archive.archiveSha256 = request.candidateDigest := by
  simp only [PackageOperationRequest.verifiedFor, decoded, Option.filter_eq_some_iff,
    Option.any_eq_true, beq_iff_eq] at isVerified
  obtain ⟨read, record, rfl, -⟩ := isVerified
  simp only [Option.map_some, Option.bind_some] at read
  cases stored : archives record.manifestPath with
  | none => simp [stored] at read
  | some bytes =>
    simp only [stored, Option.filter_eq_some_iff, Bool.and_eq_true, beq_iff_eq] at read
    exact ⟨record, bytes, rfl, stored, read.1, read.2.1, read.2.2⟩

/-- Processing a verification keeps agreement. -/
theorem Agreed.verification (agreed : system.Agreed sha256 names verifyArchive)
    (handled : system.Handled sha256 names verifyArchive call)
    (permitted : system.AgreesWhen sha256 names call)
    (decoded : PackageOperation.ofWire call.request.operation = some .verify)
    (packageId : CString) :
    ((outcome sha256 (extract names sha256) system call).final.cell packageId).Agrees
      (Unpacked sha256 names verifyArchive) := by
  have given : ∀ archive, call.verified = some archive → _ := fun archive isVerified =>
    verified_for_verify decoded (handled.verified.symm.trans isVerified)
  refine agreed.of_accepted fun named allocated => ?_
  have simulated := RpcPackages.simulates_verification sha256 (extract names sha256) call.context
    (agreed.standard call.session) (fun archive isVerified =>
      (given archive isVerified).choose_spec.choose_spec.2.2.2.1) decoded named allocated
    system.device
  simp only [handled.saved] at simulated
  refine cells_of_simulates simulated agreed.cells
    (.inr (permitted.alone .verify decoded rfl rfl)) ?_ packageId
  refine Verification.run_agrees rfl (agreed.cells _) (agreed.placed _) ?_ ?_
  · intro passed
    obtain ⟨archive, isVerified⟩ := Option.isSome_iff_exists.mp
      (by simpa [RpcPackages.verification] using passed)
    obtain ⟨record, -, found, -⟩ := given archive isVerified
    exact Option.isSome_iff_exists.mpr ⟨record, found⟩
  · intro extraction record isExtraction found
    obtain ⟨archive, isVerified, rfl⟩ := Option.map_eq_some_iff.mp isExtraction
    obtain ⟨installed, bytes, isInstalled, stored, isArchive, -, digest⟩ := given archive isVerified
    cases found.symm.trans isInstalled
    have placed := (agreed.placed _ record found).2
    simp only [stage, with_paths_placed placed, Traced.focus_run]
    refine ⟨_, rfl, fun succeeded => ?_⟩
    obtain ⟨file, unpacked, next, isFile, isDigest, isUnpacked, isNext, written⟩ :=
      extract_written succeeded
    obtain rfl := Option.some.inj (stored.symm.trans isFile)
    refine ⟨by rw [isNext]; rfl, fun tree isTree => ?_⟩
    obtain rfl := Option.some.inj (isNext.symm.trans isTree)
    exact ⟨bytes, _, _, archive, unpacked, isArchive, isDigest.trans digest, isUnpacked,
      archivedPayloads_perm isUnpacked, written (permitted.separate decoded archive record bytes
        unpacked isVerified found stored isUnpacked)⟩

/-- The record of a begun import agrees with the directories, unless it updates a live record that
is not settled. -/
theorem import_record_agrees {Tree : Type} {unpacked : CString → Tree → Prop}
    {directories : Directories Tree} {manager : PackageManager} {package : PackageImport}
    {updateType : ContentUpdateType} {slot : Fin packageMaxRecords} {previous : Option PackageRecord}
    {transaction : PackageTransaction}
    (chosen : manager.importSlot package = some (slot, previous))
    (begun : PackageTransaction.begin (package.admission updateType previous).1
      (package.admission updateType previous).2 package.previousState package.protectedPackage =
        (.ok, some transaction))
    (agrees : ∀ prior, manager.find package.packageId = some prior →
      prior.Agrees unpacked directories)
    (settled : ∀ prior, manager.find package.packageId = some prior →
      prior.transaction.state = .active ∨ prior.transaction.state = .disabled →
      prior.transaction.contentUpdate.state = .discovered ∨
        prior.transaction.contentUpdate.state = .receiving → package.updates prior = false) :
    (package.record previous transaction).Agrees unpacked directories := by
  obtain ⟨update, admitted, isTransaction, begins⟩ := PackageTransaction.begin_ok begun
  cases isTransaction
  obtain ⟨admission, isSome, -, shape⟩ := ContentUpdate.admit_ok admitted
  cases isSome
  have discovered : update.state = .discovered := by rw [shape]
  rcases PackageManager.import_slot_cases chosen with
    ⟨prior, isPrior, -, -, ⟨inUse, updates, rfl⟩ | ⟨-, installs, rfl⟩⟩ | ⟨-, installs, rfl, -⟩
  · have agreedPrior := agrees prior isPrior
    have sameState : prior.transaction.state = package.previousState :=
      PackageImport.updates_state updates
    have isLive : prior.transaction.state = .active ∨ prior.transaction.state = .disabled := by
      rw [sameState] at inUse ⊢
      rcases begins with installed | active | disabled | isRemoved
      · exact absurd (sameState.trans installed) agreedPrior.begun
      · exact .inl active
      · exact .inr disabled
      · exact absurd isRemoved inUse
    refine PackageRecord.agrees_of_update agreedPrior discovered isLive
      ⟨sameState.symm, sameState.symm⟩ ?_
    rw [← not_or]
    intro pending
    exact absurd (updates.symm.trans (settled prior isPrior isLive pending)) (by decide)
  · exact PackageRecord.agrees_of_installation (PackageImport.installs_removed installs) discovered _
  · exact PackageRecord.agrees_of_installation (PackageImport.installs_removed installs) discovered _

/-- Processing an import keeps agreement. -/
theorem Agreed.import (agreed : system.Agreed sha256 names verifyArchive)
    (permitted : system.AgreesWhen sha256 names call)
    (decoded : PackageOperation.ofWire call.request.operation = some .importArchive)
    (packageId : CString) :
    ((outcome sha256 (extract names sha256) system call).final.cell packageId).Agrees
      (Unpacked sha256 names verifyArchive) := by
  have given : (system.sessions call.session).authorized sha256 call.request call.context
      call.environment.token .importArchive = true := rfl
  rcases RpcPackages.import_cases sha256 (extract names sha256) call.verified call.context
      call.environment (agreed.standard call.session) decoded system.device with
    unchanged | ⟨archive, previousState, after, isVerified, -, -, decodedState, isImported,
      saved | unsaved⟩
  · have same : (outcome sha256 (extract names sha256) system call).final = system.device :=
      congrArg Run.final unchanged
    rw [same]
    exact agreed.cells packageId
  · have same : (outcome sha256 (extract names sha256) system call).final =
        { system.device with manager := after, stored := some after } := congrArg Run.final saved.2
    rw [same]
    let package := (system.sessions call.session).importOf call.request archive previousState
    rcases system.device.manager.import_cases package with
      refused | ⟨updateType, slot, previous, transaction, -, chosen, begun, written⟩
    · cases refused.symm.trans isImported
    obtain ⟨-, rfl⟩ := Prod.mk.inj (written.symm.trans isImported)
    have agrees := agreed.cells packageId
    refine ⟨agrees.exchanged, fun record found => ?_⟩
    rcases PackageManager.find_import agreed.sound.distinct chosen transaction packageId with
      ⟨own, isImport⟩ | ⟨-, kept⟩ | ⟨-, absent, -⟩
    · cases isImport.symm.trans found
      rw [own]
      exact import_record_agrees chosen begun (agreed.cells _).record
        fun prior isPrior isLive pending =>
          (permitted.own prior isPrior .importArchive decoded given).2 rfl isLive pending archive
            previousState isVerified decodedState
    · exact agrees.record record (kept.symm.trans found)
    · cases absent.symm.trans found
  · have same : (outcome sha256 (extract names sha256) system call).final = system.device :=
      congrArg Run.final unsaved.2
    rw [same]
    exact agreed.cells packageId

/-- A handled call that is none of the seven keeps agreement. -/
theorem Agreed.step (agreed : system.Agreed sha256 names verifyArchive)
    (handled : system.Handled sha256 names verifyArchive call)
    (permitted : system.AgreesWhen sha256 names call) :
    (step sha256 (extract names sha256) system call).Agreed sha256 names verifyArchive := by
  refine ⟨agreed.standard.step call, ?_, fun packageId => ?_⟩
  · exact (RpcPackages.process_manager sha256 (extract names sha256)
      (system.sessions call.session) call.verified call.context call.environment
      (agreed.standard call.session) system.device).sound agreed.sound
  have idle : ∀ outcomeOf : OperationOutcome,
      (system.sessions call.session).operate sha256 (extract names sha256) call.request
        call.verified call.context call.environment system.device =
          ⟨outcomeOf, system.device, []⟩ →
      ((PackageSystem.step sha256 (extract names sha256) system call).device.cell packageId).Agrees
        (Unpacked sha256 names verifyArchive) := by
    intro outcomeOf operated
    obtain ⟨result, -, ran⟩ := RpcPackages.processed_idle operated
    have same : (PackageSystem.step sha256 (extract names sha256) system call).device =
        system.device := congrArg Run.final ran
    rw [same]
    exact agreed.cells packageId
  cases decoded : PackageOperation.ofWire call.request.operation with
  | none =>
    exact idle ⟨false, .invalid, system.sessions call.session⟩
      (by simp only [RpcPackages.operate, decoded, Traced.pure_run])
  | some operation =>
    cases operation with
    | inspect =>
      exact idle ((system.sessions call.session).named .inspected .notFound
          (system.device.manager.find call.request.packageId).isSome)
        (by simp only [RpcPackages.operate, decoded, RpcPackages.processInspect, Traced.bind_run,
          Traced.observe_run, Traced.pure_run, List.append_nil])
    | importArchive => exact agreed.import permitted decoded packageId
    | verify => exact agreed.verification handled permitted decoded packageId
    | _ => exact agreed.motion handled permitted decoded rfl packageId

/-- Nothing installed agrees with nothing stored. -/
theorem start_agreed (profiles : Nat → SessionProfile) :
    (start profiles : PackageSystem FileTree).Agreed sha256 names verifyArchive where
  standard := start_standard profiles
  sound := PackageManager.init_sound
  cells := by
    refine fun packageId => ⟨rfl, fun record found => ?_⟩
    simp [Device.cell, start, Device.empty] at found

/-- In every run of handled calls none of which is one of the seven, whenever the
manager reports a package active, its active directory holds exactly the payloads of
a verified archive with the record's digest.

Proof: agreement holds at the start and is kept by every such call. -/
theorem active_content_in_place (profiles : Nat → SessionProfile) (sha256 : List UInt8 → Digest)
    (names : CString → Option CString)
    (verifyArchive : List UInt8 → CString → Option CString → Option VerifiedArchive)
    (calls : List PackageCall)
    (handled : ∀ index call, calls[index]? = some call →
      (before sha256 (extract names sha256) (start profiles) calls index).Handled sha256 names
        verifyArchive call)
    (permitted : ∀ index call, calls[index]? = some call →
      (before sha256 (extract names sha256) (start profiles) calls index).AgreesWhen sha256 names
        call) (index : Nat) :
    let device := (before sha256 (extract names sha256) (start profiles) calls index).device
    ∀ packageId contentType record, device.manager.find packageId = some record →
      device.manager.activeContent packageId contentType = true →
      Holds (Unpacked sha256 names verifyArchive) record.digest
        (device.directories packageId).active := by
  have agreed : ∀ index, (before sha256 (extract names sha256) (start profiles) calls
      index).Agreed sha256 names verifyArchive := by
    intro index
    induction index with
    | zero => exact start_agreed profiles
    | succ index ih =>
      cases present : calls[index]? with
      | none =>
        rw [before_end present]
        exact ih
      | some call =>
        rw [before_succ present]
        exact ih.step (handled index call present)
          (permitted index call present)
  intro device packageId contentType record found isActive
  have agrees := ((agreed index).cells packageId).record record found
  simp only [PackageManager.activeContent, found, Option.any_some, PackageRecord.activeContent,
    Bool.and_eq_true, Bool.or_eq_true, beq_iff_eq] at isActive
  rcases agrees.live (.inl isActive.1.2) with ⟨-, holds, -⟩ | ⟨pending, -⟩
  · exact holds
  · rcases isActive.2 with settled | settled <;> rcases pending with state | state <;>
      cases settled.symm.trans state

section Demo

open PackageBuilder (chars storedZip)

/-- An archive of `demo` with two payloads. -/
def demoFile : List UInt8 :=
  storedZip [(chars "manifest.json", [123, 125]), (chars "main.js", [49]), (chars "lib/a.js", [50])]

def demoFileDigest : CString :=
  .literal "75a6c9e70ff3cd4077627e84ad99c3175eddc521abb18d212ae2c8b3cd9da53c"

def demoFileArchive : VerifiedArchive :=
  { demoArchive (.literal "1.0.0") demoFileDigest 1 with
    archiveBytes := demoFile.length.toUInt32
    payloads := [⟨.literal "main.js", PackageArchive.hexEncode (sha256Of [49]), 1⟩,
      ⟨.literal "lib/a.js", PackageArchive.hexEncode (sha256Of [50]), 1⟩] }

/-- A verification that knows this archive only. -/
def demoVerifyArchive (bytes : List UInt8) (expected : CString) (_ : Option CString) :
    Option VerifiedArchive :=
  if bytes = demoFile ∧ expected = demoFileDigest then some demoFileArchive else none

/-- The volume folds case. -/
def demoNames (path : CString) : Option CString := some path.folded

def demoFileCall (operation : PackageOperation) (token : List UInt8) (healthy : Bool)
    (verified : Option VerifiedArchive) : PackageCall :=
  let request := demoRequest operation token
  let call := demoCall { request with
    candidateDigest := demoFileDigest
    receivedBytes := demoFile.length.toUInt32
    contentBytes := demoFile.length.toUInt32
    healthy := healthy } verified
  { call with environment := { call.environment with archives := fun _ => some demoFile } }

/-- Install the archive. -/
def demoFileInstallation : List PackageCall :=
  [demoFileCall .importArchive [] false (some demoFileArchive),
    demoFileCall .stage [] false none,
    demoFileCall .verify [] false (some demoFileArchive),
    demoFileCall .activate demoToken false none,
    demoFileCall .health [] true none]

/-- Of a list of calls it can be computed whether they come from the handler and are saved. -/
theorem handled_of_all {profiles : Nat → SessionProfile} {calls : List PackageCall}
    (all : ∀ index : Fin calls.length,
      let system := before sha256 (extract names sha256) (start profiles) calls index
      let call := calls[index]
      call.verified = call.request.verifiedFor verifyArchive call.environment.archives
        (system.device.manager.find call.request.packageId) ∧
      (((system.sessions call.session).operate sha256 (extract names sha256) call.request
        call.verified call.context call.environment system.device).final.manager.persistedValid &&
          call.environment.saved) = true)
    (index : Nat) (call : PackageCall) (present : calls[index]? = some call) :
    (before sha256 (extract names sha256) (start profiles) calls index).Handled sha256 names
      verifyArchive call := by
  obtain ⟨bounded, rfl⟩ := List.getElem?_eq_some_iff.mp present
  obtain ⟨verified, saved⟩ := all ⟨index, bounded⟩
  exact ⟨verified, saved⟩

theorem demo_handled (index : Nat) (call : PackageCall)
    (present : demoFileInstallation[index]? = some call) :
    (before sha256Of (extract demoNames sha256Of) (start demoProfile) demoFileInstallation
      index).Handled sha256Of demoNames demoVerifyArchive call :=
  handled_of_all (by decide +kernel) index call present

/-- No other package is ever recorded. -/
theorem demo_alone (index : Nat) (bounded : index < 6) (other : CString) (record : PackageRecord)
    (found : (before sha256Of (extract demoNames sha256Of) (start demoProfile) demoFileInstallation
      index).device.manager.find other = some record) : other = .literal "demo" := by
  have named : ∀ index : Fin 6, ∀ slot, (((before sha256Of (extract demoNames sha256Of)
      (start demoProfile) demoFileInstallation index).device.manager.records slot).all
        (·.packageId == .literal "demo")) = true := by decide +kernel
  obtain ⟨slot, -, stored, keyed⟩ := SlotTable.lookup_stored found
  have isDemo := named ⟨index, bounded⟩ slot
  rw [stored, Option.all_some, beq_iff_eq] at isDemo
  exact keyed.symm.trans isDemo

/-- None of them is one of the seven: the package is first installed, it is the only one, the
payloads have names of their own, and the only report is healthy. -/
theorem demo_agrees_when (index : Nat) (call : PackageCall)
    (present : demoFileInstallation[index]? = some call) :
    (before sha256Of (extract demoNames sha256Of) (start demoProfile) demoFileInstallation
      index).AgreesWhen sha256Of demoNames call := by
  have bounded : index < 5 := (List.getElem?_eq_some_iff.mp present).choose
  have which : index = 0 ∨ index = 1 ∨ index = 2 ∨ index = 3 ∨ index = 4 := by omega
  have about : call.request.packageId = .literal "demo" := by
    obtain rfl | rfl | rfl | rfl | rfl := which
    all_goals
      cases present
      rfl
  refine ⟨?_, fun _ _ _ _ other record found _ => ?_, ?_⟩
  · intro record found operation decoded _
    obtain rfl | rfl | rfl | rfl | rfl := which
    · cases present
      have absent : (before sha256Of (extract demoNames sha256Of) (start demoProfile)
        demoFileInstallation 0).device.manager.find (.literal "demo") = none := by decide +kernel
      cases absent.symm.trans found
    · cases present
      cases decoded
      refine ⟨fun _ installed => ?_, fun isImport => by cases isImport⟩
      have returns : ((before sha256Of (extract demoNames sha256Of) (start demoProfile)
          demoFileInstallation 1).device.manager.find (.literal "demo")).map
            (·.transaction.rollbackState) = some .removed := by decide +kernel
      exact absurd (Option.some.inj ((congrArg (Option.map _) found).symm.trans returns)) installed
    · cases present
      cases decoded
      exact ⟨trivial, fun isImport => by cases isImport⟩
    · cases present
      cases decoded
      exact ⟨trivial, fun isImport => by cases isImport⟩
    · cases present
      cases decoded
      exact ⟨fun unhealthy => (by cases unhealthy), fun isImport => (by cases isImport)⟩
  · rw [about]
    exact demo_alone index (by omega) other record found
  · intro decoded archive record bytes found isVerified _ stored isFound
    obtain rfl | rfl | rfl | rfl | rfl := which
    · cases present
      cases decoded
    · cases present
      cases decoded
    · cases present
      cases isVerified
      cases stored
      have walked : archivedPayloads demoFile demoFileArchive.payloads =
          some [⟨.literal "main.js", [49]⟩, ⟨.literal "lib/a.js", [50]⟩] := by decide +kernel
      cases walked.symm.trans isFound
      exact ⟨by decide +kernel, by decide +kernel⟩
    · cases present
      cases decoded
    · cases present
      cases decoded

/-- After the installation of `demo` the general result says what its active
directory holds. -/
theorem demo_active_content_in_place :
    ∃ record, (before sha256Of (extract demoNames sha256Of) (start demoProfile)
        demoFileInstallation 5).device.manager.find (.literal "demo") = some record ∧
      record.digest = demoFileDigest ∧
      Holds (Unpacked sha256Of demoNames demoVerifyArchive) record.digest
        ((before sha256Of (extract demoNames sha256Of) (start demoProfile) demoFileInstallation
          5).device.directories (.literal "demo")).active := by
  have reached : let device := (before sha256Of (extract demoNames sha256Of) (start demoProfile)
        demoFileInstallation 5).device
      (device.manager.find (.literal "demo")).map (·.digest) = some demoFileDigest ∧
        device.manager.activeContent (.literal "demo") (.literal "application") = true := by
    decide +kernel
  obtain ⟨record, found, isDigest⟩ := Option.map_eq_some_iff.mp reached.1
  exact ⟨record, found, isDigest, active_content_in_place demoProfile sha256Of demoNames
    demoVerifyArchive demoFileInstallation demo_handled demo_agrees_when 5 (.literal "demo")
    (.literal "application") record found reached.2⟩

def unhealthyReport : List PackageCall :=
  demoFileInstallation ++ [demoFileCall .health [] false none]

/-- After it the manager still reports the package active, and its active directory
is gone. -/
theorem unhealthy_report_not_in_place :
    (∀ index call, unhealthyReport[index]? = some call →
      (before sha256Of (extract demoNames sha256Of) (start demoProfile) unhealthyReport
        index).Handled sha256Of demoNames demoVerifyArchive call) ∧
    let device := (before sha256Of (extract demoNames sha256Of) (start demoProfile) unhealthyReport
      6).device
    ∃ record, device.manager.find (.literal "demo") = some record ∧
      device.manager.activeContent (.literal "demo") (.literal "application") = true ∧
      ¬ Holds (Unpacked sha256Of demoNames demoVerifyArchive) record.digest
        (device.directories (.literal "demo")).active := by
  have reached : let device := (before sha256Of (extract demoNames sha256Of) (start demoProfile)
        unhealthyReport 6).device
      (device.manager.find (.literal "demo")).isSome = true ∧
        device.manager.activeContent (.literal "demo") (.literal "application") = true ∧
        (device.directories (.literal "demo")).active = none := by decide +kernel
  obtain ⟨present, isActive, gone⟩ := reached
  obtain ⟨record, found⟩ := Option.isSome_iff_exists.mp present
  refine ⟨handled_of_all (by decide +kernel), record, found, isActive, ?_⟩
  rw [gone]
  exact not_holds_none

end Demo

end PackageSystem

end PoisonedOS
