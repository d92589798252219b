import PoisonedOS.Packages.Directories
import PoisonedOS.Packages.Table
import PoisonedOS.Vfs.VolumeNames

/-!
# The device and its recovery

At boot the manager is loaded from its state file and every record that is not
removed is reconciled with the directories it finds. A record whose directories
cannot be reconciled is quarantined in both of its states, and an activating one
is reported unhealthy.

The device is the volatile manager, the manager the state file holds and the
directories of every package. Packages whose identifiers are one name on the
volume share their directories. Saving is one durable effect; changes of the
volatile manager leave no image.
-/

namespace PoisonedOS

universe u

/-- What a package operation or a boot can change. The state file is
represented by the manager it loads as. -/
structure Device (Tree : Type u) where
  manager : PackageManager
  stored : Option PackageManager
  /-- The directories under the name they have on the volume. -/
  volume : CString → Directories Tree

namespace Device

variable {Tree : Type u}

/-- A device on which nothing was ever installed. -/
def empty : Device Tree := ⟨.init, none, fun _ => .empty⟩

/-- The directories that the paths of a package lead to. -/
def directories (device : Device Tree) (packageId : CString) : Directories Tree :=
  device.volume packageId.directoryName

/-- Replace one package's directories. -/
def setDirectories (packageId : CString) (directories : Directories Tree) (device : Device Tree) :
    Device Tree :=
  { device with volume := Function.update device.volume packageId.directoryName directories }

def storage (packageId : CString) (program : Traced (Directories Tree) Bool) :
    Traced (Device Tree) Bool :=
  Traced.focus (fun device => device.directories packageId) (setDirectories packageId) program

def managed (operation : PackageManager → Bool × PackageManager) : Traced (Device Tree) Bool :=
  Traced.silent fun device =>
    ((operation device.manager).1, { device with manager := (operation device.manager).2 })

/-- `poison_packages_save_state`, given whether the storage calls succeed. -/
def saveState (saved : Bool) : Traced (Device Tree) Bool :=
  Traced.effect fun device =>
    if device.manager.persistedValid && saved then
      (true, { device with stored := some device.manager })
    else (false, device)

end Device

namespace PackageRecord

/-- The update is between activation and its health report. -/
def activating (record : PackageRecord) : Bool :=
  record.transaction.contentUpdate.state == .activating

end PackageRecord

namespace PackageManager

/-- What recovery does to the manager for one slot, given what the storage layer
answered for its record. The result is whether the manager changed. -/
def recoverSlot (manager : PackageManager) (slot : Fin packageMaxRecords) (answer : Bool) :
    Bool × PackageManager :=
  match manager.records slot with
  | none => (false, manager)
  | some record =>
    if record.transaction.state == .removed then (false, manager)
    else if !answer then (true, (manager.store slot record.quarantineBoth).count)
    else if record.activating then
      match manager.reportHealth record.packageId false with
      | (true, reported) => (true, reported)
      | (false, refused) =>
        (true, match refused.records slot with
          | none => refused
          | some left => (refused.store slot left.quarantineBoth).count)
    else (false, manager)

def recoverSlots (manager : PackageManager) (answers : Fin packageMaxRecords → Bool) :
    PackageManager :=
  (List.finRange packageMaxRecords).foldl
    (fun current slot => (current.recoverSlot slot (answers slot)).2) manager

end PackageManager

end PoisonedOS
