import PoisonedOS.Archive.Authorities
import PoisonedOS.Library.PairMarks
import PoisonedOS.Library.SortedInsertion
import PoisonedOS.Packages.Persistence

/-!
# The package catalog

The catalog lists package releases from several sources. Records are kept sorted by
identifier, version, source and path, and no two agree in all of these. Releases of the
same identifier and version with different digests are marked as conflicting when the later
one is added. A source that is gone takes its records out of what can be installed.

The catalog of the device's own packages is made from the package manager: one record for
each package that is not removed, and one for the release it can be rolled back to.
-/

namespace PoisonedOS

/-- `POISON_PACKAGE_CATALOG_MAX_RECORDS`. -/
def catalogMaxRecords : Nat := 32

/-- `POISON_PACKAGE_CATALOG_MAX_ID`. -/
def catalogMaxId : Nat := 64

/-- `POISON_PACKAGE_CATALOG_MAX_VERSION`. -/
def catalogMaxVersion : Nat := 32

/-- `POISON_PACKAGE_CATALOG_MAX_SIGNER`. -/
def catalogMaxSigner : Nat := 64

/-- `POISON_PACKAGE_CATALOG_MAX_DIGEST`. -/
def catalogMaxDigest : Nat := 64

/-- `POISON_PACKAGE_CATALOG_MAX_SOURCE`. -/
def catalogMaxSource : Nat := 256

/-- `PoisonPackageCatalogSource`, in the order of the source. -/
inductive CatalogSource where
  | deviceStorage
  | bundledRelease
  | importedFile
  | localRepository
deriving DecidableEq, Repr

/-- `PoisonPackageCatalogFreshness`. -/
inductive CatalogFreshness where
  | unknown
  | fresh
  | stale
  | missing
deriving DecidableEq, Repr

/-- `PoisonPackageCatalogState`. -/
inductive CatalogState where
  | installed
  | staged
  | available
  | incompatible
  | disabled
  | quarantined
  | revoked
  | rollbackCandidate
deriving DecidableEq, Repr

/-- `PoisonPackageCatalogRecord`. -/
structure CatalogRecord where
  id : CString
  version : CString
  signer : CString
  digest : CString
  sourcePath : CString
  source : CatalogSource
  freshness : CatalogFreshness
  state : CatalogState
  capabilityMask : UInt64
  compatible : Bool
  verified : Bool
  signerRevoked : Bool
  conflicted : Bool
deriving DecidableEq

/-- The value of a source's enumerator. -/
def CatalogSource.rank : CatalogSource → Nat
  | .deviceStorage => 0
  | .bundledRelease => 1
  | .importedFile => 2
  | .localRepository => 3

/-- `strcmp`. -/
def textCompare (left right : CString) : Ordering := compare left.bytes right.bytes

/-- The static function `nonempty_bounded` for a field of a capacity. -/
def nonemptyBounded (value : CString) (capacity : Nat) : Bool :=
  !value.isEmpty && decide (value.length < capacity)

/-- The static function `digest_valid`. -/
def catalogDigestValid (digest : CString) : Bool :=
  digest.length == catalogMaxDigest && digest.bytes.all isLowerHex

/-- The static function `record_compare`. -/
def recordCompare (left right : CatalogRecord) : Ordering :=
  (textCompare left.id right.id).then <|
    (textCompare left.version right.version).then <|
      (compare left.source.rank right.source.rank).then <|
        textCompare left.sourcePath right.sourcePath

/-- One record is listed before another. -/
def recordBefore (left right : CatalogRecord) : Bool := recordCompare left right == .lt

namespace CatalogRecord

/-- The checks of an added record's own fields. -/
def admissible (record : CatalogRecord) : Bool :=
  nonemptyBounded record.id (catalogMaxId + 1) &&
    nonemptyBounded record.version (catalogMaxVersion + 1) &&
    nonemptyBounded record.signer (catalogMaxSigner + 1) &&
    nonemptyBounded record.sourcePath (catalogMaxSource + 1) &&
    catalogDigestValid record.digest &&
    (record.signerRevoked == (record.state == .revoked)) &&
    !(record.signerRevoked && record.verified)

/-- The two records are of one release at one place. -/
def sameEntry (current record : CatalogRecord) : Bool :=
  current.id == record.id && current.version == record.version &&
    current.source == record.source && current.sourcePath == record.sourcePath

/-- The two records are of one release with different contents. -/
def conflicts (first second : CatalogRecord) : Bool :=
  first.id == second.id && first.version == second.version && first.digest != second.digest

/-- Set a record's conflict mark. -/
def flag (record : CatalogRecord) : CatalogRecord := { record with conflicted := true }

def markMissing (record : CatalogRecord) : CatalogRecord :=
  { record with
    freshness := .missing
    state := if record.state == .available then .quarantined else record.state }

/-- The record is of the source at the path. -/
def isFrom (source : CatalogSource) (sourcePath : CString) (record : CatalogRecord) : Bool :=
  record.source == source && record.sourcePath == sourcePath

end CatalogRecord

/-- `PoisonPackageCatalog`: the records up to `count`. -/
structure PackageCatalog where
  records : List CatalogRecord
  fits : records.length ≤ catalogMaxRecords
  generation : UInt32

namespace PackageCatalog

/-- `poison_package_catalog_init`. -/
def init : PackageCatalog := ⟨[], Nat.zero_le _, 0⟩

/-- The records with one more in its place, and all conflicting pairs marked. -/
def recordsWith (records : List CatalogRecord) (record : CatalogRecord) : List CatalogRecord :=
  PairMarks.markPairs CatalogRecord.conflicts CatalogRecord.flag
    (SortedInsertion.insertItem recordBefore record records)

theorem length_recordsWith (records : List CatalogRecord) (record : CatalogRecord) :
    (recordsWith records record).length = records.length + 1 := by
  rw [recordsWith, PairMarks.length_markPairs, SortedInsertion.length_insertItem]

/-- `poison_package_catalog_add`: whether the record is accepted, and the catalog. -/
def add (catalog : PackageCatalog) (record : CatalogRecord) : Bool × PackageCatalog :=
  if room : catalog.records.length < catalogMaxRecords then
    if !record.admissible || catalog.records.any (·.sameEntry record) then (false, catalog)
    else (true, { catalog with
      records := recordsWith catalog.records record
      fits := by
        rw [length_recordsWith]
        exact room })
  else (false, catalog)

/-- `poison_package_catalog_mark_source_missing`: whether a record changed, and the
catalog. -/
def markSourceMissing (catalog : PackageCatalog) (source : CatalogSource)
    (sourcePath : CString) : Bool × PackageCatalog :=
  (catalog.records.any (CatalogRecord.isFrom source sourcePath),
    { catalog with
      records := catalog.records.map fun record =>
        if record.isFrom source sourcePath then record.markMissing else record
      fits := by
        rw [List.length_map]
        exact catalog.fits })

end PackageCatalog

/-! ## The catalog of the device -/

/-- `poison_package_catalog_signer_revoked`. -/
def catalogSignerRevoked (authorities : Option AuthorityStore) (signer : CString) : Bool :=
  authorities.any fun store => (List.finRange authorityMax).any fun index =>
    (store.authorities index).any fun authority => authority.revoked && authority.keyId == signer

/-- `poison_package_catalog_state_from_transaction`. -/
def catalogState : PackageState → Option CatalogState
  | .installed | .active => some .installed
  | .staged | .verified => some .staged
  | .disabled => some .disabled
  | .quarantined => some .quarantined
  | .removed => none

/-- `poison_package_catalog_copy_text` into a buffer of a capacity. -/
def catalogText (text : CString) (capacity : Nat) : Option CString :=
  if nonemptyBounded text capacity then some text else none

/-- The record of a package's release. -/
def currentRecord (authorities : Option AuthorityStore) (package : PackageRecord) :
    Option CatalogRecord :=
  match catalogState package.transaction.state, catalogText package.packageId (catalogMaxId + 1),
    catalogText package.version (catalogMaxVersion + 1),
    catalogText package.signingKeyId (catalogMaxSigner + 1),
    catalogText package.digest (catalogMaxDigest + 1),
    catalogText package.manifestPath (catalogMaxSource + 1) with
  | some state, some id, some version, some signer, some digest, some sourcePath =>
    let revoked := catalogSignerRevoked authorities package.signingKeyId
    some {
      id, version, signer, digest, sourcePath
      source := .deviceStorage
      freshness := .fresh
      state := if revoked then .revoked else state
      capabilityMask := package.capabilityMask
      compatible := true
      verified := !revoked && (package.transaction.contentUpdate.payloadVerified ||
        package.transaction.state == .verified || package.transaction.state == .active ||
        package.transaction.state == .disabled)
      signerRevoked := revoked
      conflicted := false }
  | _, _, _, _, _, _ => none

/-- The path of a package's rollback copy. -/
def rollbackSource (packageId : CString) : CString :=
  ((CString.literal "/ext/apps/.poison-managed/").append packageId).append (.literal "/rollback")

def rollbackRecord (package : PackageRecord) (current : CatalogRecord) : Option CatalogRecord :=
  match catalogText package.previousVersion (catalogMaxVersion + 1),
    catalogText package.previousDigest (catalogMaxDigest + 1) with
  | some version, some digest =>
    if (rollbackSource package.packageId).length ≥ catalogMaxSource + 1 then none
    else some { current with
      version, digest
      sourcePath := rollbackSource package.packageId
      state := if current.signerRevoked then .revoked else .rollbackCandidate
      verified := !current.signerRevoked
      conflicted := false }
  | _, _ => none

namespace PackageCatalog

/-- The records of one package are added. -/
def addPackage (authorities : Option AuthorityStore) (catalog : PackageCatalog)
    (package : PackageRecord) : Option PackageCatalog :=
  if !package.transaction.initialized || package.transaction.state == .removed then some catalog
  else
    match currentRecord authorities package with
    | none => none
    | some current =>
      match catalog.add current with
      | (false, _) => none
      | (true, added) =>
        if package.previousVersion.isEmpty || !catalogDigestValid package.previousDigest then
          some added
        else
          match rollbackRecord package current with
          | none => none
          | some rollback =>
            match added.add rollback with
            | (false, _) => none
            | (true, both) => some both

/-- `poison_package_catalog_from_manager`. -/
def fromManager (manager : PackageManager) (authorities : Option AuthorityStore) :
    Option PackageCatalog :=
  (List.finRange packageMaxRecords).foldlM
    (fun catalog slot =>
      (manager.records slot).elim (some catalog) (catalog.addPackage authorities))
    { init with generation := manager.generation }

end PackageCatalog

end PoisonedOS
