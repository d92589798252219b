import PoisonedOS.Audit.Chain
import PoisonedOS.Rpc.Managers

/-!
# What a request leaves alone

A request is about one package. Of a package whose directories have another name it leaves these
as they are, on every image of the storage that a crash could leave, and the record with one
exception: an import that finds no free slot may take that of a removed package, which is then
forgotten.
-/

namespace PoisonedOS

namespace Device

variable {Tree : Type} {packageId other : CString} {first second third : Device Tree}

/-- A package is as it was, or it was removed and is forgotten. -/
structure Spares (packageId : CString) (before after : Device Tree) : Prop where
  directories : after.directories packageId = before.directories packageId
  record : after.manager.find packageId = before.manager.find packageId ∨
    after.manager.find packageId = none ∧ ∃ record, before.manager.find packageId = some record ∧
      record.transaction.state = .removed
  stored : (after.cell packageId).stored = (before.cell packageId).stored ∨
    (after.cell packageId).stored = (before.cell packageId).record ∨
      (after.cell packageId).stored = none

theorem Spares.refl (device : Device Tree) : Spares packageId device device :=
  ⟨rfl, .inl rfl, .inl rfl⟩

theorem Spares.trans (early : Spares packageId first second)
    (late : Spares packageId second third) : Spares packageId first third where
  directories := late.directories.trans early.directories
  record := by
    rcases late.record with kept | ⟨lost, record, found, removed⟩
    · rw [kept]
      exact early.record
    · rcases early.record with same | ⟨gone, -⟩
      · exact .inr ⟨lost, record, same.symm.trans found, removed⟩
      · cases gone.symm.trans found
  stored := by
    rcases late.stored with kept | saved | lost
    · rw [kept]
      exact early.stored
    · rw [saved]
      rcases early.record with same | ⟨gone, -⟩
      · exact .inr (.inl same)
      · exact .inr (.inr gone)
    · exact .inr (.inr lost)

theorem Frame.spares (framed : Frame packageId first second)
    (apart : other.directoryName ≠ packageId.directoryName) : Spares other first second where
  directories := framed.directories other apart
  record := .inl (framed.record other (ne_of_apply_ne CString.directoryName apart))
  stored := (framed.stored other (ne_of_apply_ne CString.directoryName apart)).imp_right .inl

def SparedBy {α : Type} (packageId : CString) (before : Device Tree)
    (run : Run (Device Tree) α) : Prop :=
  Spares packageId before run.final ∧ ∀ image ∈ run.images, Spares packageId before image

/-- A program that shows in the cell of one package only spares the others. -/
theorem Simulates.spares {program : Traced (Device Tree) Bool}
    {model : Traced (PackageCell Tree) Bool}
    (simulates : Simulates packageId first program model)
    (apart : other.directoryName ≠ packageId.directoryName) :
    SparedBy other first (program first) :=
  ⟨simulates.finalFramed.spares apart, fun image among =>
    (simulates.imagesFramed image among).spares apart⟩

end Device

namespace RpcPackages

open Device (SparedBy Spares)

variable {Tree : Type} {sha256 : List UInt8 → Digest}
  {extract : Option (List UInt8) → VerifiedArchive → Traced (Option Tree) Bool}
  {packages : RpcPackages} {request : PackageOperationRequest}
  {verified : Option VerifiedArchive} {context : Option RequestContext}
  {environment : Environment} {device : Device Tree} {packageId : CString}

/-- An import spares all other packages: the saved manager is the changed one, or the old one is
brought back. -/
theorem import_spares (standard : packages.Standard) (sound : device.manager.Sound)
    (apart : packageId ≠ request.packageId)
    (decoded : PackageOperation.ofWire request.operation = some .importArchive) :
    SparedBy packageId device
      (processed sha256 extract packages request verified context environment device) := by
  rcases import_cases sha256 extract verified context environment standard decoded device with
    unchanged | ⟨archive, previousState, after, -, -, -, -, isImported, ended⟩
  · rw [unchanged]
    exact ⟨.refl _, nofun⟩
  have record : after.find packageId = device.manager.find packageId ∨
      after.find packageId = none ∧ ∃ forgotten, device.manager.find packageId = some forgotten ∧
        forgotten.transaction.state = .removed := by
    rcases device.manager.import_cases (packages.importOf request archive previousState) with
      refused | ⟨updateType, slot, previous, transaction, -, chosen, begun, written⟩
    · cases refused.symm.trans isImported
    · obtain ⟨-, rfl⟩ := Prod.mk.inj (written.symm.trans isImported)
      exact ((PackageManager.find_import sound.distinct chosen transaction packageId).resolve_left
        fun same => apart same.1).imp And.right And.right
  rcases ended with ⟨-, ran⟩ | ⟨-, ran⟩
  · have spared : Spares packageId device { device with manager := after, stored := some after } :=
      ⟨rfl, record, .inr (record.imp id And.left)⟩
    rw [ran]
    exact ⟨spared, List.forall_mem_singleton.mpr spared⟩
  · rw [ran]
    exact ⟨.refl _, List.forall_mem_singleton.mpr ⟨rfl, record, .inl rfl⟩⟩

variable (sha256 extract) in
/-- Every request spares the packages of other names than its own, if the archive that a
verification unpacks is one of its own package. -/
theorem processed_spares (standard : packages.Standard) (sound : device.manager.Sound)
    (apart : packageId.directoryName ≠ request.packageId.directoryName)
    (own : PackageOperation.ofWire request.operation = some .verify →
      ∀ archive, verified = some archive → archive.packageId = request.packageId) :
    SparedBy packageId device
      (processed sha256 extract packages request verified context environment device) := by
  have idle {result : Bool} (ran : processed sha256 extract packages request verified context
      environment device = ⟨result, device, []⟩) : SparedBy packageId device
        (processed sha256 extract packages request verified context environment device) := by
    rw [ran]
    exact ⟨.refl _, nofun⟩
  have unsaved (outcome : OperationOutcome) (operated : packages.operate sha256 extract request
      verified context environment device = ⟨outcome, device, []⟩) :=
    idle (processed_idle operated).choose_spec.2
  cases named : request.packageId.isEmpty with
  | true => exact idle (processed_refused (.inl named) device)
  | false =>
  cases allocated : environment.allocated with
  | false =>
    refine idle (processed_refused (.inr ?_) device)
    rw [standard.persistence, allocated]
    rfl
  | true =>
  cases decoded : PackageOperation.ofWire request.operation with
  | none =>
    exact unsaved ⟨false, .invalid, packages⟩ (by simp only [operate, decoded, Traced.pure_run])
  | some operation =>
    cases operation with
    | inspect =>
      exact unsaved (packages.named .inspected .notFound
          (device.manager.find request.packageId).isSome)
        (by simp only [operate, decoded, processInspect, Traced.bind_run, Traced.observe_run,
          Traced.pure_run, List.append_nil])
    | importArchive =>
      exact import_spares standard sound (ne_of_apply_ne CString.directoryName apart) decoded
    | verify =>
      exact (simulates_verification sha256 extract context standard (own decoded) decoded named
        allocated device).spares apart
    | _ =>
      cases given : packages.authorized sha256 request context environment.token _ with
      | false => exact idle (processed_unauthorized decoded given device)
      | true =>
        exact (simulates_attempted_motion extract verified standard decoded named allocated device
          rfl given).spares apart

end RpcPackages

namespace PackageSystem

open Device (SparedBy Spares)

variable {Tree : Type}

/-- **Packages are isolated from each other.** After any run of requests from any sessions, more
requests that are all about packages of other names leave a package's directories as they are, on
every image of the storage on the way, and its record unless it is removed and its slot is given
away. Where an archive is passed on to be unpacked, the handler has found it to be of the request's package.

Proof: requests of a sound and standard system spare the package one by one, and both are kept. -/
theorem packages_isolated (sha256 : List UInt8 → Digest)
    (extract : Option (List UInt8) → VerifiedArchive → Traced (Option Tree) Bool)
    (profiles : Nat → SessionProfile) (earlier calls : List PackageCall) (packageId : CString)
    (others : ∀ call ∈ calls,
      packageId.directoryName ≠ call.request.packageId.directoryName)
    (own : ∀ call ∈ calls, PackageOperation.ofWire call.request.operation = some .verify →
      ∀ archive, call.verified = some archive → archive.packageId = call.request.packageId) :
    let system := run sha256 extract (start profiles) earlier
    Spares packageId system.device (run sha256 extract system calls).device ∧
      ∀ index call, calls[index]? = some call → SparedBy packageId system.device
        (outcome sha256 extract (before sha256 extract system calls index) call) := by
  intro system
  have standard : system.Standard := (start_standard profiles).run earlier
  have sound : system.device.manager.Sound :=
    run_sound (start_standard profiles) PackageManager.init_sound earlier
  generalize system = system at standard sound
  induction calls generalizing system with
  | nil => exact ⟨.refl _, nofun⟩
  | cons call calls ih =>
    rw [List.forall_mem_cons] at others own
    have spared : SparedBy packageId system.device (outcome sha256 extract system call) :=
      RpcPackages.processed_spares sha256 extract (standard call.session) sound others.1 own.1
    obtain ⟨later, images⟩ := ih others.2 own.2 (step sha256 extract system call)
      (standard.step call) (run_sound standard sound [call])
    refine ⟨spared.1.trans later, fun index other present => ?_⟩
    cases index with
    | zero =>
      cases present
      exact spared
    | succ index =>
      have after := images index other present
      exact ⟨spared.1.trans after.1, fun image among => spared.1.trans (after.2 image among)⟩

/-- The installation of one package spares another one. -/
theorem other_isolated :
    let installed := run sha256Of demoExtract (start demoProfile) demoInstallation
    Spares (.literal "other") (start demoProfile : PackageSystem CString).device installed.device ∧
      ∀ index call, demoInstallation[index]? = some call → SparedBy (.literal "other")
        (start demoProfile : PackageSystem CString).device (outcome sha256Of demoExtract
          (before sha256Of demoExtract (start demoProfile) demoInstallation index) call) :=
  packages_isolated sha256Of demoExtract demoProfile [] demoInstallation (.literal "other")
    (by decide) (by decide)

end PackageSystem

end PoisonedOS
