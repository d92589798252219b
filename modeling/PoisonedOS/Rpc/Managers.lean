import PoisonedOS.Packages.Lifecycle
import PoisonedOS.Rpc.System

/-!
# What a request does to the manager

A request leaves the manager as it was, applies one operation to the record of
its own package, or makes one import. An operation that counts a generation stays
only if the manager it leaves can be persisted; otherwise the manager from before
the request is brought back. Soundness of the manager is therefore an invariant
of every run of the request handler: the one operation that would break it is
taken back, because the broken manager cannot be saved.
-/

namespace PoisonedOS

open PackageOperation (inspect ofWire)

/-- How a request with a result can change the manager. -/
inductive ManagerEffect (packages : RpcPackages) (request : PackageOperationRequest)
    (verified : Option VerifiedArchive) (result : Bool) (before after : PackageManager) : Prop where
  | kept (same : after = before)
      (refused : PackageOperation.ofWire request.operation = some .importArchive → result = false)
  | applied (operation : RecordOperation)
      (isApplied : after = (before.onRecord request.packageId operation.apply).2)
      (persisted : ∀ digest payloadVerified, operation = .verify digest payloadVerified →
        (before.find request.packageId).isSome = true → after.persistedValid = true)
      (other : PackageOperation.ofWire request.operation ≠ some .importArchive)
  | imported (archive : VerifiedArchive) (previousState : PackageState)
      (decoded : PackageOperation.ofWire request.operation = some .importArchive)
      (accepted : result = true) (isVerified : verified = some archive)
      (isImported : before.importPackage (packages.importOf request archive previousState) =
        (true, after))

namespace RpcPackages

variable {Tree : Type} {sha256 : List UInt8 → Digest}
  {extract : Option (List UInt8) → VerifiedArchive → Traced (Option Tree) Bool}
  {packages : RpcPackages} {request : PackageOperationRequest}
  {verified : Option VerifiedArchive} {context : Option RequestContext}
  {environment : Environment}

/-- Committing keeps the changed manager or brings the previous one back. -/
theorem commit_manager (previous : PackageManager) (outcome : OperationOutcome)
    (device : Device Tree) :
    (commit request environment previous outcome device).final.manager =
      if (saveChanged request environment previous outcome device).value then device.manager
      else previous := by
  have saves : (saveChanged request environment previous outcome device).final.manager =
      device.manager := by
    simp only [saveChanged, Traced.bind_run, Traced.observe_run]
    cases outcome.packages.persistenceEnabled &&
      previous.generation != device.manager.generation &&
      request.operation != inspect.toWire with
    | false => rfl
    | true =>
      simp only [Traced.onlyIf_true, Device.saveState, Traced.effect_run]
      split <;> rfl
  simp only [commit, Traced.bind_run, Traced.observe_run, Traced.pure_run]
  cases (saveChanged request environment previous outcome device).value with
  | true => simpa using saves
  | false => simp [restorePrevious]

theorem save_changed_persisted {previous : PackageManager} {outcome : OperationOutcome}
    {device : Device Tree} (standard : outcome.packages.Standard)
    (generation : (previous.generation != device.manager.generation) = true)
    (mutating : request.operation ≠ inspect.toWire)
    (kept : (saveChanged request environment previous outcome device).value = true) :
    device.manager.persistedValid = true := by
  have differs : (request.operation != inspect.toWire) = true := by
    simpa using mutating
  simp only [saveChanged, Traced.bind_run, Traced.observe_run, standard.persistence, generation,
    differs, Bool.and_self, Traced.onlyIf_true] at kept
  cases permitted : device.manager.persistedValid && environment.saved with
  | true => exact (Bool.and_eq_true_iff.mp permitted).1
  | false =>
    rw [Device.save_state_refused permitted] at kept
    cases kept

/-- The effect of an attempt on the manager: none, or its operation. -/
theorem attempt_manager (packageId : CString) (motion : Motion Tree) (device : Device Tree) :
    (Device.attempt packageId motion device).final.manager = device.manager ∨
    (Device.attempt packageId motion device).final.manager =
      (device.manager.onRecord packageId motion.operation.apply).2 := by
  cases moved : (Device.storage packageId motion.move device).value with
  | false => exact .inl (by simp [Device.attempt, moved])
  | true => exact .inr (by simp [Device.attempt, moved])

variable (sha256 extract packages verified context environment) in
theorem verify_manager (decoded : ofWire request.operation = some .verify)
    (device : Device Tree) :
    (packages.operate sha256 extract request verified context environment device).final.manager =
      (device.manager.onRecord request.packageId (RecordOperation.verify request.candidateDigest
        (packages.extractCandidate extract request verified environment device).value).apply).2 := by
  have storing : ∀ (condition : Bool) (current : Device Tree),
      (Traced.onlyIf condition (packages.onStorage request PackageStorage.quarantine) true
        current).final.manager = current.manager := by
    intro condition current
    unfold onStorage
    split
    · exact Device.only_if_storage_manager _ _ _ _
    · cases condition <;> rfl
  simp only [operate, decoded, processVerify, Traced.bind_run, Traced.pure_run, storing,
    Device.managed_manager, extract_candidate_manager]
  rfl

variable (sha256 extract packages verified context environment) in
/-- The manager after a request: as it was, or as the operation left it, and then
it can be persisted if the operation counted a generation. -/
theorem process_manager_operated (standard : packages.Standard) (device : Device Tree) :
    let operated := packages.operate sha256 extract request verified context environment device
    let after := (packages.process sha256 extract request verified context environment
      device).final.manager
    after = device.manager ∨ (after = operated.final.manager ∧
      ((device.manager.generation != after.generation) = true →
        request.operation ≠ inspect.toWire → after.persistedValid = true)) := by
  intro operated after
  rcases process_run sha256 extract packages request verified context environment device with
    ⟨-, ran⟩ | ⟨-, ran⟩ | ⟨-, -, ran⟩
  · exact .inl (congrArg (fun run => run.final.manager) ran)
  · exact .inl (congrArg (fun run => run.final.manager) ran)
  have committed : after = (commit request environment device.manager operated.value
      operated.final).final.manager := congrArg (fun run => run.final.manager) ran
  rw [commit_manager] at committed
  cases kept : (saveChanged request environment device.manager operated.value
      operated.final).value with
  | false =>
    rw [kept] at committed
    exact .inl committed
  | true =>
    rw [kept] at committed
    refine .inr ⟨committed, fun generation mutating => ?_⟩
    rw [committed] at generation ⊢
    have standardAfter : operated.value.packages.Standard := standard.confirmation_step
      (operate_step sha256 extract verified context environment packages request device)
    exact save_changed_persisted standardAfter generation mutating kept

variable (sha256 extract packages verified context environment) in
/-- The effect of a motion. -/
theorem process_motion_manager (standard : packages.Standard) {operation : PackageOperation}
    (decoded : ofWire request.operation = some operation) (device : Device Tree)
    {motion : Motion Tree}
    (isMotion : request.motion (device.manager.find request.packageId) operation = some motion) :
    let run := packages.process sha256 extract request verified context environment device
    ManagerEffect packages request verified run.value.result device.manager run.final.manager := by
  intro run
  have other : ofWire request.operation ≠ some .importArchive := by
    rw [decoded]
    intro impossible
    cases impossible
    cases isMotion
  cases given : packages.authorized sha256 request context environment.token operation with
  | false =>
    have refused : processed sha256 extract packages request verified context environment device =
        ⟨false, device, []⟩ := processed_unauthorized decoded given device
    exact .kept (congrArg (fun run => run.final.manager) refused) (absurd · other)
  | true =>
    have operated : (packages.operate sha256 extract request verified context environment
        device).final = (Device.attempt request.packageId motion device).final :=
      congrArg Run.final (operate_motion extract verified standard decoded device isMotion given)
    rcases process_manager_operated sha256 extract packages verified context environment standard
      device with same | ⟨changed, -⟩
    · exact .kept same (absurd · other)
    · rw [operated] at changed
      rcases attempt_manager request.packageId motion device with same | applied
      · exact .kept (changed.trans same) (absurd · other)
      · refine .applied motion.operation (changed.trans applied) ?_ other
        intro digest payloadVerified isVerify
        exact absurd isVerify (PackageOperationRequest.motion_not_verify isMotion digest
          payloadVerified)

variable (sha256 extract packages verified context environment) in
/-- The effect of a request on the manager. -/
theorem process_manager (standard : packages.Standard) (device : Device Tree) :
    let run := packages.process sha256 extract request verified context environment device
    ManagerEffect packages request verified run.value.result device.manager run.final.manager := by
  intro run
  cases decoded : ofWire request.operation with
  | none =>
    have other : ofWire request.operation ≠ some .importArchive := by simp [decoded]
    rcases process_manager_operated sha256 extract packages verified context environment standard
      device with same | ⟨changed, -⟩
    · exact .kept same (absurd · other)
    · simp only [operate, decoded, Traced.pure_run] at changed
      exact .kept changed (absurd · other)
  | some operation =>
    cases operation with
    | inspect =>
      have other : ofWire request.operation ≠ some .importArchive := by
        simp [decoded]
      rcases process_manager_operated sha256 extract packages verified context environment standard
        device with same | ⟨changed, -⟩
      · exact .kept same (absurd · other)
      · simp only [operate, decoded, processInspect, Traced.bind_run, Traced.observe_run,
          Traced.pure_run] at changed
        exact .kept changed (absurd · other)
    | importArchive =>
      rcases import_cases _ _ _ _ _ standard decoded device with
        unchanged | ⟨archive, previousState, after, isVerified, -, -, -, isImported, saved | unsaved⟩
      · exact .kept (congrArg (fun run => run.final.manager) unchanged)
          fun _ => congrArg Run.value unchanged
      · have same := congrArg (fun run => run.final.manager) saved.2
        exact .imported archive previousState decoded (congrArg Run.value saved.2) isVerified
          (isImported.trans (congrArg (Prod.mk true) same.symm))
      · exact .kept (congrArg (fun run => run.final.manager) unsaved.2)
          fun _ => congrArg Run.value unsaved.2
    | verify =>
      have other : ofWire request.operation ≠ some .importArchive := by
        simp [decoded]
      rcases process_manager_operated sha256 extract packages verified context environment standard
        device with same | ⟨changed, persisted⟩
      · exact .kept same (absurd · other)
      · rw [verify_manager sha256 extract packages verified context environment decoded] at changed
        refine .applied _ changed (fun digest payloadVerified _ found => ?_) other
        refine persisted ?_ (wire_ne_inspect (by decide) decoded)
        obtain ⟨record, isFound⟩ := Option.isSome_iff_exists.mp found
        rw [changed, PackageManager.on_record_generation, isFound]
        cases (packages.extractCandidate extract request verified environment device).value <;>
          simp [RecordOperation.apply, PackageRecord.verify]
    | _ =>
      exact process_motion_manager sha256 extract packages verified context environment standard
        decoded device rfl

end RpcPackages

theorem ManagerEffect.cases_operation {packages : RpcPackages} {request : PackageOperationRequest}
    {verified : Option VerifiedArchive} {result : Bool} {before after : PackageManager}
    (effect : ManagerEffect packages request verified result before after)
    (sound : before.Sound) : after = before ∨
      ∃ operation : ManagerOperation, operation.Permitted before ∧
        after = operation.apply before := by
  cases effect with
  | kept same refused => exact .inl same
  | applied operation isApplied persisted other =>
    refine .inr ⟨.onRecord request.packageId operation, ?_, isApplied⟩
    cases operation with
    | verify digest payloadVerified =>
      cases payloadVerified with
      | true => trivial
      | false =>
        intro record found
        have valid := persisted digest false rfl (by rw [found]; rfl)
        rw [isApplied] at valid
        exact (ManagerOperation.step_persisted_iff sound
          (.onRecord request.packageId (.verify digest false))).mp valid record found
    | _ => trivial
  | imported archive previousState decoded accepted isVerified isImported =>
    exact .inr ⟨.importPackage _, trivial, (congrArg Prod.snd isImported).symm⟩

theorem ManagerEffect.sound {packages : RpcPackages} {request : PackageOperationRequest}
    {verified : Option VerifiedArchive} {result : Bool} {before after : PackageManager}
    (effect : ManagerEffect packages request verified result before after)
    (sound : before.Sound) : after.Sound := by
  rcases effect.cases_operation sound with same | ⟨operation, permitted, applied⟩
  · exact same ▸ sound
  · exact applied ▸ ManagerOperation.step_sound sound operation permitted

namespace PackageSystem

variable {Tree : Type} {sha256 : List UInt8 → Digest}
  {extract : Option (List UInt8) → VerifiedArchive → Traced (Option Tree) Bool}
  {system : PackageSystem Tree}

/-- The manager is sound throughout a run. -/
theorem run_sound (standard : system.Standard) (sound : system.device.manager.Sound)
    (calls : List PackageCall) : (run sha256 extract system calls).device.manager.Sound := by
  induction calls generalizing system with
  | nil => exact sound
  | cons call rest ih =>
    refine ih (standard.step call) ?_
    exact (RpcPackages.process_manager sha256 extract (system.sessions call.session) call.verified
      call.context call.environment (standard call.session) system.device).sound sound

variable (sha256 extract) in
theorem run_operations {system : PackageSystem Tree} (standard : system.Standard)
    (sound : system.device.manager.Sound) (calls : List PackageCall) :
    ∃ operations, ManagerOperation.RunPermitted operations system.device.manager ∧
      ManagerOperation.run operations system.device.manager =
        (run sha256 extract system calls).device.manager := by
  induction calls generalizing system with
  | nil => exact ⟨[], trivial, rfl⟩
  | cons call calls ih =>
    have effect : ManagerEffect (system.sessions call.session) call.request call.verified
        (outcome sha256 extract system call).value.result system.device.manager
        (step sha256 extract system call).device.manager :=
      RpcPackages.process_manager sha256 extract (system.sessions call.session) call.verified
        call.context call.environment (standard call.session) system.device
    obtain ⟨operations, permitted, isRun⟩ :=
      ih (standard.step call) (effect.sound sound)
    rcases effect.cases_operation sound with same | ⟨operation, isPermitted, applied⟩
    · rw [same] at permitted isRun
      exact ⟨operations, permitted, isRun⟩
    · rw [applied] at permitted isRun
      exact ⟨operation :: operations, ⟨isPermitted, permitted⟩, isRun⟩

/-- **The request handler keeps to the manager's interface and below its defect.** The manager that
any requests from any sessions lead to is one that permitted operations lead to. So it is always
saved and loaded back as it was, and its records are coherent. -/
theorem requests_refine_operations (profiles : Nat → SessionProfile) (calls : List PackageCall) :
    let manager := (run sha256 extract (start profiles : PackageSystem Tree) calls).device.manager
    (∃ operations, ManagerOperation.RunPermitted operations .init ∧
      ManagerOperation.run operations .init = manager) ∧
    ManagerOperation.Persists manager ∧
    ∀ packageId record, manager.find packageId = some record → record.Coherent := by
  intro manager
  have standard : (start profiles : PackageSystem Tree).Standard := start_standard profiles
  obtain ⟨operations, permitted, isRun⟩ :=
    run_operations sha256 extract standard PackageManager.init_sound calls
  have reached : ManagerOperation.managerAt operations operations.length = manager := by
    rw [ManagerOperation.managerAt, List.take_length]
    exact isRun
  refine ⟨⟨operations, permitted, isRun⟩, ?_, ?_⟩
  · rw [ManagerOperation.persists_iff]
    exact (run_sound standard PackageManager.init_sound calls).persisted_valid
  · exact reached ▸ ManagerOperation.run_coherent operations operations.length

end PackageSystem

end PoisonedOS
