import PoisonedOS.Packages.Manager

/-!
# Where packages are stored

A layout names two directory trees: the active root, with one directory for each
installed package, and the managed root, with the candidate, rollback,
quarantine and swap directories of each package beneath its identifier. A layout
can only be built from two valid, different roots.

A package's directory path is refused when its identifier is not valid or the
path is too long. Under the default layout the length never matters.
-/

namespace PoisonedOS

/-- `poison_package_storage_root_valid`. -/
def storageRootValid (path : CString) : Bool :=
  path.bytes.head? == some 47 && decide (1 < path.length) &&
    decide (path.length ≤ packageManifestPathMax) && !path.contains (.literal "..") &&
    !path.hasByte 92 && path.bytes.getLast? != some 47

/-- `PoisonPackageStorageLayout` with the checks of
`poison_package_storage_layout_init`. -/
structure StorageLayout where
  managedRoot : CString
  activeRoot : CString
  managedValid : storageRootValid managedRoot = true
  activeValid : storageRootValid activeRoot = true
  apart : managedRoot ≠ activeRoot
deriving DecidableEq

/-- `POISON_PACKAGE_MANAGED_ROOT`. -/
def packageManagedRoot : CString := .literal "/ext/apps/.poison-managed"

/-- `POISON_PACKAGE_ACTIVE_ROOT`. -/
def packageActiveRoot : CString := .literal "/ext/apps/PoisonedOS"

/-- `poison_package_storage_layout_default`. -/
def StorageLayout.default : StorageLayout where
  managedRoot := packageManagedRoot
  activeRoot := packageActiveRoot
  managedValid := by decide
  activeValid := by decide
  apart := by decide

/-- The five directories of one package. -/
inductive DirectorySlot where
  | active
  | candidate
  | rollback
  | quarantine
  | swap
deriving DecidableEq, Repr

/-- The last path component of a managed directory; the active directory has
none. -/
def DirectorySlot.leaf : DirectorySlot → Option CString
  | .active => none
  | .candidate => some (.literal "candidate")
  | .rollback => some (.literal "rollback")
  | .quarantine => some (.literal "quarantine")
  | .swap => some (.literal "swap")

/-- Path components joined by `/`. -/
def joinPath (parent child : CString) : CString where
  bytes := parent.bytes ++ 47 :: child.bytes
  noNul := by
    intro stored
    rcases List.mem_append.mp stored with inParent | inChild
    · exact parent.noNul inParent
    · rcases List.mem_cons.mp inChild with isSlash | inRest
      · exact absurd isSlash (by decide)
      · exact child.noNul inRest

/-- `poison_package_storage_path`. -/
def packageStoragePath (root packageId : CString) (leaf : Option CString) : Option CString :=
  if !storageRootValid root || !packageIdValid packageId then none
  else
    let path := match leaf with
      | some leaf => joinPath (joinPath root packageId) leaf
      | none => joinPath root packageId
    if path.length ≤ packageManifestPathMax then some path else none

namespace StorageLayout

def path (layout : StorageLayout) (packageId : CString) (slot : DirectorySlot) : Option CString :=
  packageStoragePath (if slot = .active then layout.activeRoot else layout.managedRoot) packageId
    slot.leaf

theorem join_path_length (parent child : CString) :
    (joinPath parent child).length = parent.length + 1 + child.length := by
  simp only [joinPath, CString.length, List.length_append, List.length_cons]
  omega

/-- Under the default layout a path exists exactly for a valid identifier: the
longest one has 100 characters. -/
theorem default_path_isSome (packageId : CString) (slot : DirectorySlot) :
    (default.path packageId slot).isSome = packageIdValid packageId := by
  cases valid : packageIdValid packageId with
  | false => simp [path, packageStoragePath, valid]
  | true =>
    have bounded : packageId.length ≤ 64 := by
      simp only [packageIdValid, packageTextValid, packageIdMax, Bool.and_eq_true] at valid
      exact of_decide_eq_true valid.1.2
    have managed : packageManagedRoot.length = 25 := by decide
    have active : packageActiveRoot.length = 20 := by decide
    have candidate : (CString.literal "candidate").length = 9 := by decide
    have rollback : (CString.literal "rollback").length = 8 := by decide
    have quarantine : (CString.literal "quarantine").length = 10 := by decide
    have swap : (CString.literal "swap").length = 4 := by decide
    have managedValid : storageRootValid packageManagedRoot = true := default.managedValid
    have activeValid : storageRootValid packageActiveRoot = true := default.activeValid
    cases slot <;>
      simp [path, packageStoragePath, DirectorySlot.leaf, default, valid, managedValid,
        activeValid, join_path_length, packageManifestPathMax, managed, active, candidate,
        rollback, quarantine, swap] <;> omega

end StorageLayout

end PoisonedOS
