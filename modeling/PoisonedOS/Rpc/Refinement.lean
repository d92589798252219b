import PoisonedOS.Library.Simulation
import PoisonedOS.Packages.Cell
import PoisonedOS.Rpc.OneTime

/-!
# Requests refine cell steps

A request shows in the cell of its own package as one cell step, and leaves every
other package's record and directories alone; another package is saved along when
the state file is written. The one exception is an import that takes the slot of
a removed package, which is then forgotten.

The refinement is for sessions as the service sets them up: storage and
persistence on, the default layout.
-/

namespace PoisonedOS

open Traced (bind_run effect_run focus_run observe_run onlyIf pure_run reading reading_run silent
  silent_run)

namespace Device

variable {Tree : Type}

/-- The cell of a package. -/
def cell (packageId : CString) (device : Device Tree) : PackageCell Tree where
  record := device.manager.find packageId
  stored := device.stored.bind (·.find packageId)
  directories := device.directories packageId

/-- The other packages are as they were, or saved along. Their directories are other ones unless
they have the same name. -/
structure Frame (packageId : CString) (before after : Device Tree) : Prop where
  record : ∀ other, other ≠ packageId → (after.cell other).record = (before.cell other).record
  directories : ∀ other, other.directoryName ≠ packageId.directoryName →
    (after.cell other).directories = (before.cell other).directories
  stored : ∀ other, other ≠ packageId → (after.cell other).stored = (before.cell other).stored ∨
    (after.cell other).stored = (before.cell other).record

theorem Frame.refl (packageId : CString) (device : Device Tree) : Frame packageId device device :=
  ⟨fun _ _ => rfl, fun _ _ => rfl, fun _ _ => .inl rfl⟩

theorem Frame.trans {packageId : CString} (first second third : Device Tree)
    (early : Frame packageId first second) (late : Frame packageId second third) :
    Frame packageId first third where
  record := fun other apart => (late.record other apart).trans (early.record other apart)
  directories := fun other apart =>
    (late.directories other apart).trans (early.directories other apart)
  stored := by
    intro other apart
    rcases late.stored other apart with kept | synced
    · rw [kept]
      exact early.stored other apart
    · exact .inr (synced.trans (early.record other apart))

/-- The simulation of device programs by programs on one package's cell. -/
abbrev Simulates (packageId : CString) (device : Device Tree) (program : Traced (Device Tree) Bool)
    (model : Traced (PackageCell Tree) Bool) : Prop :=
  Traced.Simulates (cell packageId) (Frame packageId) device program model

variable {packageId : CString}

@[simp] theorem set_directories_cell (directories : Directories Tree) (device : Device Tree) :
    (device.setDirectories packageId directories).cell packageId =
      { device.cell packageId with directories } := by
  simp [cell, Device.directories, setDirectories]

/-- Changing one package's directories frames the others. -/
theorem set_directories_frame (directories : Directories Tree) (device : Device Tree) :
    Frame packageId device (device.setDirectories packageId directories) := by
  refine ⟨fun _ _ => rfl, fun other apart => ?_, fun _ _ => .inl rfl⟩
  simp [cell, Device.directories, setDirectories, Function.update_of_ne apart]

/-- A storage function of the package simulates itself. -/
theorem simulates_storage (packageId : CString) (program : Traced (Directories Tree) Bool)
    (device : Device Tree) :
    Simulates packageId device (storage packageId program) (PackageCell.storage program) where
  value := rfl
  final := set_directories_cell _ device
  images := by
    simp only [storage, PackageCell.storage, focus_run, List.map_map]
    exact List.map_congr_left fun directories _ => set_directories_cell directories device
  finalFramed := set_directories_frame _ device
  imagesFramed := by
    intro image among
    simp only [storage, focus_run, List.mem_map] at among
    obtain ⟨directories, -, rfl⟩ := among
    exact set_directories_frame directories device

theorem simulates_managed (packageId : CString) (operation : RecordOperation)
    (device : Device Tree) :
    Simulates packageId device
      (managed fun manager => manager.onRecord packageId operation.apply)
      (PackageCell.managed operation) where
  value := device.manager.on_record_result packageId operation.apply
  final := by
    have found := device.manager.find_on_record packageId
      (PackageRecord.apply_package_id operation) packageId
    rw [if_pos rfl] at found
    simp only [managed, PackageCell.managed, PackageCell.applied, silent_run, cell, found,
      Device.directories]
  images := rfl
  finalFramed := by
    refine ⟨fun other apart => ?_, fun _ _ => rfl, fun _ _ => .inl rfl⟩
    have found := device.manager.find_on_record packageId
      (PackageRecord.apply_package_id operation) other
    rw [if_neg apart] at found
    exact found
  imagesFramed := by
    intro image among
    cases among

variable {device : Device Tree}

/-- A save that succeeds stores the manager. -/
theorem save_state_accepted {saved : Bool}
    (permitted : (device.manager.persistedValid && saved) = true) :
    saveState saved device = ⟨true, { device with stored := some device.manager },
      [{ device with stored := some device.manager }]⟩ := by
  simp only [saveState, effect_run, permitted, if_true]

/-- A save that fails changes nothing. -/
theorem save_state_refused {saved : Bool}
    (refused : (device.manager.persistedValid && saved) = false) :
    saveState saved device = ⟨false, device, [device]⟩ := by
  simp only [saveState, effect_run, refused, Bool.false_eq_true, if_false]

/-- Saving the manager simulates saving the record. -/
theorem simulates_save (packageId : CString) (saved : Bool) (device : Device Tree) :
    Simulates packageId device (saveState saved)
      (PackageCell.save (device.manager.persistedValid && saved)) := by
  cases permitted : device.manager.persistedValid && saved with
  | false =>
    have refused := save_state_refused permitted
    constructor
    · rw [refused]; rfl
    · rw [refused]; rfl
    · rw [refused]; rfl
    · rw [refused]; exact Frame.refl packageId device
    · intro image among
      rw [refused, List.mem_singleton] at among
      rw [among]
      exact Frame.refl packageId device
  | true =>
    have accepted := save_state_accepted permitted
    have framed : Frame packageId device { device with stored := some device.manager } :=
      ⟨fun _ _ => rfl, fun _ _ => rfl, fun _ _ => .inr rfl⟩
    constructor
    · rw [accepted]; rfl
    · rw [accepted]; rfl
    · rw [accepted]; rfl
    · rw [accepted]; exact framed
    · intro image among
      rw [accepted, List.mem_singleton] at among
      rw [among]
      exact framed

/-- Bringing an earlier manager back simulates writing the earlier record, when
the two managers differ in no other package. -/
theorem simulates_restore (packageId : CString) (previous : PackageManager)
    (device : Device Tree) (others : ∀ other, other ≠ packageId →
      previous.find other = device.manager.find other) :
    Simulates packageId device
      (silent fun device => (true, { device with manager := previous }))
      (PackageCell.write (previous.find packageId)) where
  value := rfl
  final := rfl
  images := rfl
  finalFramed := ⟨others, fun _ _ => rfl, fun _ _ => .inl rfl⟩
  imagesFramed := by
    intro image among
    cases among

/-- The attempt of a motion on the device. -/
def attempt (packageId : CString) (motion : Motion Tree) : Traced (Device Tree) Bool := do
  let moved ← storage packageId motion.move
  let result ← Traced.onlyIf moved
    (managed fun manager => manager.onRecord packageId motion.operation.apply) false
  let _ ← Traced.onlyIf (moved && !result) (storage packageId motion.revert) true
  return result

/-- The attempt simulates the attempt on the cell. -/
theorem simulates_attempt (packageId : CString) (motion : Motion Tree) (device : Device Tree) :
    Simulates packageId device (attempt packageId motion) motion.attempt := by
  unfold attempt Motion.attempt
  refine Traced.Simulates.andThen Frame.trans (simulates_storage packageId motion.move device) ?_
  refine Traced.Simulates.andThen Frame.trans
    (.onlyIf (Frame.refl packageId) _ false fun _ =>
      simulates_managed packageId motion.operation _) ?_
  refine Traced.Simulates.andThen Frame.trans
    (.onlyIf (Frame.refl packageId) _ true fun _ =>
      simulates_storage packageId motion.revert _) ?_
  exact .done (Frame.refl packageId) _

/-- Storage functions leave the manager alone. -/
@[simp] theorem storage_manager (program : Traced (Directories Tree) Bool) (device : Device Tree) :
    (storage packageId program device).final.manager = device.manager := rfl

/-- Nor do they when they run under a condition. -/
@[simp] theorem only_if_storage_manager (condition : Bool) (program : Traced (Directories Tree) Bool)
    (otherwise : Bool) (device : Device Tree) :
    (onlyIf condition (storage packageId program) otherwise device).final.manager =
      device.manager := by
  cases condition <;> rfl

@[simp] theorem managed_manager (operation : PackageManager → Bool × PackageManager)
    (device : Device Tree) :
    (managed operation device).final.manager = (operation device.manager).2 := rfl

/-- An attempt counts one generation when it is accepted and none otherwise,
provided its operation does. -/
theorem attempt_generation {motion : Motion Tree}
    (counts : ∀ record, (motion.operation.apply record).counted =
      (motion.operation.apply record).result) (device : Device Tree) :
    (device.manager.generation != (attempt packageId motion device).final.manager.generation) =
      (attempt packageId motion device).value := by
  have counted := device.manager.on_record_generation packageId motion.operation.apply
  have result := device.manager.on_record_result packageId motion.operation.apply
  simp only [counts, ← result] at counted
  simp only [attempt, bind_run, pure_run]
  cases moved : (storage packageId motion.move device).value with
  | false => simp
  | true =>
    cases accepted : (device.manager.onRecord packageId motion.operation.apply).1 with
    | false =>
      rw [accepted] at counted
      simp [managed, accepted, counted]
    | true =>
      rw [accepted] at counted
      simp [managed, accepted, counted]

/-- A storage function that does nothing does nothing to the device. -/
@[simp] theorem storage_pure (result : Bool) (device : Device Tree) :
    storage packageId (pure result) device = ⟨result, device, []⟩ := by
  simp [storage, setDirectories, Device.directories]

/-- A move that there is nothing to take back by. -/
@[simp] theorem only_if_storage_pure (condition : Bool) (device : Device Tree) :
    onlyIf condition (storage packageId (pure true)) true device = ⟨true, device, []⟩ := by
  cases condition <;> simp

/-- The attempt of a motion of the record alone is the operation. -/
theorem attempt_record_only (operation : RecordOperation) (device : Device Tree) :
    attempt packageId (.recordOnly operation) device =
      managed (fun manager => manager.onRecord packageId operation.apply) device := by
  simp [attempt, Motion.recordOnly]

end Device

namespace RpcPackages

/-- A session as the service sets it up. -/
structure Standard (packages : RpcPackages) : Prop where
  storage : packages.storageEnabled = true
  persistence : packages.persistenceEnabled = true
  layout : packages.storageLayout = .default

theorem init_standard (hardwareTarget firmwareApiMajor firmwareApiMinor : UInt32)
    (availableStorageBytes : UInt64) :
    (init hardwareTarget firmwareApiMajor firmwareApiMinor availableStorageBytes).Standard :=
  ⟨rfl, rfl, rfl⟩

variable {Tree : Type} {sha256 : List UInt8 → Digest}
  {extract : Option (List UInt8) → VerifiedArchive → Traced (Option Tree) Bool}
  {packages : RpcPackages} {request : PackageOperationRequest}
  {verified : Option VerifiedArchive} {context : Option RequestContext}
  {environment : Environment}

/-- No step of the confirmation state touches the settings. -/
theorem Standard.confirmation_step (standard : packages.Standard) {token : Token}
    {after : RpcPackages} {result : Bool}
    (step : ConfirmationStep sha256 packages request context token after result) :
    after.Standard := by
  cases step with
  | kept => exact standard
  | issued bound _ _ _ _ issuance =>
    unfold issueConfirmation at issuance
    split at issuance
    · cases issuance
    split at issuance
    · cases issuance
    split at issuance
    · cases issuance
    cases issuance
    exact ⟨standard.storage, standard.persistence, standard.layout⟩
  | used => exact ⟨standard.storage, standard.persistence, standard.layout⟩

/-- The result of a request, without its status and the session's state. -/
def processed (sha256 : List UInt8 → Digest)
    (extract : Option (List UInt8) → VerifiedArchive → Traced (Option Tree) Bool)
    (packages : RpcPackages) (request : PackageOperationRequest)
    (verified : Option VerifiedArchive) (context : Option RequestContext)
    (environment : Environment) : Traced (Device Tree) Bool :=
  Traced.reading ProcessOutcome.result
    (packages.process sha256 extract request verified context environment)

variable (request environment) in
/-- Committing the outcome of an operation simulates settling the cell, when the
manager has changed in the request's own package only. -/
theorem simulates_commit {previous : PackageManager} {outcome : OperationOutcome}
    (device : Device Tree) (standard : outcome.packages.Standard) {changed : Bool}
    (generation : (previous.generation != device.manager.generation) = changed)
    (mutating : changed = true → request.operation ≠ PackageOperation.inspect.toWire)
    (others : ∀ other, other ≠ request.packageId →
      previous.find other = device.manager.find other)
    {undo : Traced (PackageCell Tree) Bool}
    (undone : ∀ device : Device Tree, Device.Simulates request.packageId device
      (outcome.packages.undo request previous) undo) :
    Device.Simulates request.packageId device
      (reading ProcessOutcome.result (commit request environment previous outcome))
      (PackageCell.settle (previous.find request.packageId) changed
        (device.manager.persistedValid && environment.saved) outcome.result undo) := by
  have saves : Device.Simulates request.packageId device
      (saveChanged request environment previous outcome)
      (onlyIf changed
        (PackageCell.save (device.manager.persistedValid && environment.saved)) true) := by
    refine Traced.Simulates.congr (.onlyIf (Device.Frame.refl _) changed true fun _ =>
      Device.simulates_save request.packageId environment.saved device) ?_ rfl
    have condition : (outcome.packages.persistenceEnabled &&
        previous.generation != device.manager.generation &&
        request.operation != PackageOperation.inspect.toWire) = changed := by
      rw [standard.persistence, generation, Bool.true_and]
      cases isChanged : changed with
      | false => rfl
      | true => simpa using mutating isChanged
    simp only [saveChanged, bind_run, observe_run, List.nil_append, condition]
  have undoes : Device.Simulates request.packageId
      (saveChanged request environment previous outcome device).final
      (onlyIf (outcome.result && outcome.packages.storageEnabled)
        (outcome.packages.undo request previous) true)
      (onlyIf outcome.result undo true) := by
    rw [standard.storage, Bool.and_true]
    exact .onlyIf (Device.Frame.refl _) _ true fun _ => undone _
  have restores : Device.Simulates request.packageId
      (saveChanged request environment previous outcome device).final
      (restorePrevious request previous outcome) (do
        let _ ← onlyIf outcome.result undo true
        PackageCell.write (previous.find request.packageId)) := by
    refine Traced.Simulates.andThen Device.Frame.trans undoes
      (Device.simulates_restore _ previous _ fun other apart => ?_)
    have kept := (Device.Frame.trans _ _ _ saves.finalFramed undoes.finalFramed).record other apart
    exact (others other apart).trans kept.symm
  have whole : Device.Simulates request.packageId device (do
        let saved ← saveChanged request environment previous outcome
        let _ ← onlyIf (!saved) (restorePrevious request previous outcome) true
        return saved && outcome.result)
      (PackageCell.settle (previous.find request.packageId) changed
        (device.manager.persistedValid && environment.saved) outcome.result undo) := by
    refine Traced.Simulates.andThen Device.Frame.trans saves ?_
    exact Traced.Simulates.andThen Device.Frame.trans
      (.onlyIf (Device.Frame.refl _) _ true fun _ => restores) (.done (Device.Frame.refl _) _)
  refine whole.congr ?_ rfl
  simp only [commit, reading_run, bind_run, observe_run, pure_run,
    List.append_nil]

variable (sha256 extract packages verified context) in
/-- A request that names a package and can be undone simulates its operation's
part followed by the commit's. -/
theorem simulates_process {device : Device Tree} (named : request.packageId.isEmpty = false)
    (allocated : environment.allocated = true)
    {model : Traced (PackageCell Tree) Bool} (modelNext : Bool → Traced (PackageCell Tree) Bool)
    (attempted : Device.Simulates request.packageId device
      (reading OperationOutcome.result
        (packages.operate sha256 extract request verified context environment)) model)
    (committed :
      let operated := packages.operate sha256 extract request verified context environment device
      Device.Simulates request.packageId operated.final
        (reading ProcessOutcome.result
          (commit request environment device.manager operated.value))
        (modelNext operated.value.result)) :
    Device.Simulates request.packageId device
      (processed sha256 extract packages request verified context environment)
      (model >>= modelNext) := by
  have whole : Device.Simulates request.packageId device (do
        let _ ← reading OperationOutcome.result
          (packages.operate sha256 extract request verified context environment)
        reading ProcessOutcome.result (commit request environment device.manager
          (packages.operate sha256 extract request verified context environment device).value))
      (model >>= modelNext) :=
    Traced.Simulates.andThen Device.Frame.trans attempted committed
  refine whole.congr ?_ rfl
  rcases process_run sha256 extract packages request verified context environment device with
    ⟨isEmpty, -⟩ | ⟨exhausted, -⟩ | ⟨-, -, ran⟩
  · rw [named] at isEmpty
    cases isEmpty
  · rw [allocated] at exhausted
    simp at exhausted
  · simp only [processed, reading_run, ran, bind_run]

end RpcPackages

end PoisonedOS
