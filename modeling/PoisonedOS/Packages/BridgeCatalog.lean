import PoisonedOS.Library.KeyedList
import PoisonedOS.Packages.CatalogLaws

/-!
# The package catalog of the bridge

The bridge keeps its own catalog of package releases, for up to 512 records from any number of
devices and repositories. It is a map from identifier, version, source and path to the record
with these, so that its contents are the records, sorted by them.

A catalog is cached as the JSON text of its records, and is built again from such a text by
adding the records one by one.
-/

namespace PoisonedOS

open SortedInsertion (Sorted)

/-- `MAX_RECORDS`. -/
def bridgeMaxRecords : Nat := 512

/-- `MAX_TEXT`. -/
def bridgeMaxText : Nat := 256

/-- `CatalogRecord` of the bridge, whose texts are the bytes of their UTF-8 form. -/
structure BridgeRecord where
  id : List UInt8
  version : List UInt8
  signer : List UInt8
  digest : List UInt8
  source : CatalogSource
  sourcePath : List UInt8
  freshness : CatalogFreshness
  state : CatalogState
  verified : Bool
  signerRevoked : Bool
  conflicted : Bool
  compatible : Bool
  capabilityMask : UInt64
deriving DecidableEq

/-- `CatalogKey`. -/
structure CatalogKey where
  id : List UInt8
  version : List UInt8
  source : CatalogSource
  sourcePath : List UInt8
deriving DecidableEq

/-- The derived order of keys: by the first field in which they differ. -/
def CatalogKey.cmp (left right : CatalogKey) : Ordering :=
  (compare left.id right.id).then <|
    (compare left.version right.version).then <|
      (compare left.source.rank right.source.rank).then <|
        compare left.sourcePath right.sourcePath

instance : Ord CatalogKey := ⟨CatalogKey.cmp⟩

namespace BridgeRecord

/-- The key that a record is stored under. -/
def key (record : BridgeRecord) : CatalogKey :=
  ⟨record.id, record.version, record.source, record.sourcePath⟩

/-- `validate`. -/
def validate (record : BridgeRecord) : Except String Unit :=
  if record.id.isEmpty || decide (record.id.length > bridgeMaxText) ||
      record.version.isEmpty || decide (record.version.length > bridgeMaxText) ||
      record.signer.isEmpty || decide (record.signer.length > bridgeMaxText) ||
      record.sourcePath.isEmpty || decide (record.sourcePath.length > bridgeMaxText) then
    .error "invalid catalog text"
  else if record.digest.length != 64 || !record.digest.all isLowerHex then
    .error "invalid package digest"
  else if (record.signerRevoked != (record.state == .revoked)) ||
      record.signerRevoked && record.verified then
    .error "inconsistent revoked signer state"
  else .ok ()

/-- The two records are of one release. -/
def sameRelease (first second : BridgeRecord) : Bool :=
  first.id == second.id && first.version == second.version

/-- The two records are of one release with different contents. -/
def clashes (first second : BridgeRecord) : Bool :=
  first.sameRelease second && first.digest != second.digest

def missing (record : BridgeRecord) : BridgeRecord :=
  { record with
    freshness := .missing
    state := if record.state == .available then .quarantined else record.state }

/-- The record without its conflict mark. -/
def unmarked (record : BridgeRecord) : BridgeRecord := { record with conflicted := false }

end BridgeRecord

/-- `PackageCatalog` of the bridge: the records in the order of their keys. -/
structure BridgeCatalog where
  records : List BridgeRecord
deriving DecidableEq

/-- What `serde_json` does with a list of records. -/
structure CatalogJson where
  toVec : List BridgeRecord → Except String (List UInt8)
  fromSlice : List UInt8 → Except String (List BridgeRecord)

namespace BridgeCatalog

open BridgeRecord

/-- `PackageCatalog::default`. -/
def empty : BridgeCatalog := ⟨[]⟩

def marked (records : List BridgeRecord) (record : BridgeRecord) : List BridgeRecord :=
  records.map fun current =>
    if current.clashes record then { current with conflicted := true } else current

/-- The records with an added record. -/
def withRecord (records : List BridgeRecord) (record : BridgeRecord) : List BridgeRecord :=
  SortedInsertion.insertItem (KeyedList.before key)
    { record with
      conflicted := !((marked records record).filter (·.sameRelease record)).all
        (·.digest == record.digest) }
    (marked records record)

/-- `PackageCatalog::add`. -/
def add (catalog : BridgeCatalog) (record : BridgeRecord) : Except String BridgeCatalog :=
  match record.validate with
  | .error message => .error message
  | .ok () =>
    if catalog.records.any (·.key == record.key) then .error "duplicate catalog source"
    else if catalog.records.length ≥ bridgeMaxRecords then .error "catalog capacity exceeded"
    else .ok ⟨withRecord catalog.records record⟩

def missingWhere (condition : BridgeRecord → Bool) (catalog : BridgeCatalog) : BridgeCatalog :=
  ⟨catalog.records.map fun record => if condition record then record.missing else record⟩

/-- `PackageCatalog::mark_source_missing`: whether a record changed, and the catalog. -/
def markSourceMissing (catalog : BridgeCatalog) (source : CatalogSource) (sourcePath : List UInt8) :
    Bool × BridgeCatalog :=
  let affected (record : BridgeRecord) :=
    record.source == source && record.sourcePath == sourcePath
  (catalog.records.any affected, catalog.missingWhere affected)

/-- `PackageCatalog::reconcile_source_paths`: how many records changed, and the catalog. -/
def reconcileSourcePaths (catalog : BridgeCatalog) (source : CatalogSource)
    (availablePaths : List (List UInt8)) : Nat × BridgeCatalog :=
  let affected (record : BridgeRecord) :=
    record.source == source && !availablePaths.any (· == record.sourcePath)
  (catalog.records.countP affected, catalog.missingWhere affected)

/-- The loop of `from_cached_json`. -/
def addAll (catalog : BridgeCatalog) : List BridgeRecord → Except String BridgeCatalog
  | [] => .ok catalog
  | record :: rest =>
    match catalog.add record with
    | .error message => .error message
    | .ok added => added.addAll rest

/-- `PackageCatalog::cached_json`. -/
def cachedJson (json : CatalogJson) (catalog : BridgeCatalog) : Except String (List UInt8) :=
  json.toVec catalog.records

/-- `PackageCatalog::from_cached_json`. -/
def fromCachedJson (json : CatalogJson) (bytes : List UInt8) : Except String BridgeCatalog :=
  match json.fromSlice bytes with
  | .error message => .error message
  | .ok records => empty.addAll records

/-- The catalogs that are reached by the operations. -/
inductive Reached (json : CatalogJson) : BridgeCatalog → Prop where
  | empty : Reached json empty
  | add {catalog added : BridgeCatalog} {record : BridgeRecord} : Reached json catalog →
      catalog.add record = .ok added → Reached json added
  | markSourceMissing {catalog : BridgeCatalog} (source : CatalogSource)
      (sourcePath : List UInt8) : Reached json catalog →
      Reached json (catalog.markSourceMissing source sourcePath).2
  | reconcileSourcePaths {catalog : BridgeCatalog} (source : CatalogSource)
      (availablePaths : List (List UInt8)) : Reached json catalog →
      Reached json (catalog.reconcileSourcePaths source availablePaths).2
  | fromCachedJson {bytes : List UInt8} {catalog : BridgeCatalog} :
      fromCachedJson json bytes = .ok catalog → Reached json catalog

/-- A record is added if it can be. -/
def offer (catalog : BridgeCatalog) (record : BridgeRecord) : BridgeCatalog :=
  match catalog.add record with
  | .error _ => catalog
  | .ok added => added

/-- Records are added one after the other, as far as they can be. -/
def offerAll (catalog : BridgeCatalog) (records : List BridgeRecord) : BridgeCatalog :=
  records.foldl offer catalog

/-- The records that are accepted. -/
def accepted (catalog : BridgeCatalog) : List BridgeRecord → List BridgeRecord
  | [] => []
  | record :: rest =>
    match catalog.add record with
    | .error _ => catalog.accepted rest
    | .ok added => record :: added.accepted rest

end BridgeCatalog

/-! ## The order of keys -/

theorem keyCmp_eq : CatalogKey.cmp =
    compareLex (compareOn CatalogKey.id)
      (compareLex (compareOn CatalogKey.version)
        (compareLex (compareOn fun key => key.source.rank) (compareOn CatalogKey.sourcePath))) :=
  rfl

instance : Std.TransOrd CatalogKey := by
  show Std.TransCmp CatalogKey.cmp
  rw [keyCmp_eq]
  infer_instance

instance : Std.LawfulEqOrd CatalogKey where
  compare_self := Std.ReflCmp.compare_self
  eq_of_compare {left right} same := by
    change left.cmp right = .eq at same
    rw [CatalogKey.cmp, Ordering.then_eq_eq, Ordering.then_eq_eq, Ordering.then_eq_eq,
      Std.LawfulEqOrd.compare_eq_iff_eq, Std.LawfulEqOrd.compare_eq_iff_eq,
      Nat.compare_eq_eq, Std.LawfulEqOrd.compare_eq_iff_eq] at same
    obtain ⟨id, version, rank, sourcePath⟩ := same
    cases left
    cases right
    exact (CatalogKey.mk.injEq ..).mpr ⟨id, version, rank_injective rank, sourcePath⟩

namespace BridgeRecord

/-- A change that leaves the keys keeps records sorted. -/
theorem sorted_map {records : List BridgeRecord} (change : BridgeRecord → BridgeRecord)
    (kept : ∀ record, (change record).key = record.key)
    (sorted : Sorted (KeyedList.before key) records) :
    Sorted (KeyedList.before key) (records.map change) := by
  refine List.pairwise_map.mpr (sorted.imp fun {left right} early => ?_)
  rw [KeyedList.before, kept, kept]
  exact early

theorem clashes_iff {record other : BridgeRecord} : record.clashes other = true ↔
    other.id = record.id ∧ other.version = record.version ∧ other.digest ≠ record.digest := by
  simp only [clashes, sameRelease, Bool.and_eq_true, beq_iff_eq, bne_iff_ne, ne_eq, and_assoc]
  rw [eq_comm, eq_comm (a := record.version), eq_comm (a := record.digest)]

theorem clashes_comm (first second : BridgeRecord) :
    first.clashes second = second.clashes first := by
  rw [Bool.eq_iff_iff, clashes_iff, clashes_iff, eq_comm, eq_comm (a := second.version),
    ne_comm]

theorem clashes_self (record : BridgeRecord) : record.clashes record = false := by
  rw [clashes, bne_self_eq_false, Bool.and_false]

end BridgeRecord

/-! ## Reached catalogs -/

/-- What holds of the records of a reached catalog. -/
structure BridgeCatalogued (records : List BridgeRecord) : Prop where
  sorted : Sorted (KeyedList.before BridgeRecord.key) records
  marked : ∀ record ∈ records, record.conflicted = records.any record.clashes
  valid : ∀ record ∈ records, record.validate = .ok ()
  few : records.length ≤ bridgeMaxRecords

namespace BridgeCatalog

open BridgeRecord

/-- A record is added exactly if it is valid, has a new key and there is room. -/
theorem add_ok_iff {catalog added : BridgeCatalog} {record : BridgeRecord} :
    catalog.add record = .ok added ↔
      record.validate = .ok () ∧ (∀ other ∈ catalog.records, other.key ≠ record.key) ∧
        catalog.records.length < bridgeMaxRecords ∧
        added = ⟨withRecord catalog.records record⟩ := by
  rw [add]
  cases valid : record.validate with
  | error message => simp
  | ok _ =>
    have fresh : catalog.records.any (·.key == record.key) = true ↔
        ¬ ∀ other ∈ catalog.records, other.key ≠ record.key := by
      simp
    dsimp only
    split
    · rename_i known
      have notFresh := fresh.mp known
      constructor
      · intro impossible
        cases impossible
      · rintro ⟨-, isFresh, -⟩
        exact absurd isFresh notFresh
    · rename_i unknown
      have isFresh := Decidable.not_not.mp (mt fresh.mpr unknown)
      split
      · rename_i full
        constructor
        · intro impossible
          cases impossible
        · rintro ⟨-, -, room, -⟩
          omega
      · rename_i room
        rw [Except.ok.injEq]
        constructor
        · intro same
          exact ⟨rfl, isFresh, Nat.lt_of_not_le room, same.symm⟩
        · rintro ⟨-, -, -, same⟩
          exact same.symm

theorem marked_perm_unmarked (records : List BridgeRecord) (record : BridgeRecord) :
    (marked records record).map unmarked = records.map unmarked := by
  rw [marked, List.map_map]
  refine List.map_congr_left fun current _ => ?_
  rw [Function.comp_apply]
  split <;> rfl

/-- Without the marks, an addition adds the record. -/
theorem withRecord_unmarked (records : List BridgeRecord) (record : BridgeRecord) :
    ((withRecord records record).map unmarked).Perm
      (record.unmarked :: records.map unmarked) := by
  have inserted := (SortedInsertion.insertItem_perm (KeyedList.before key)
    { record with
      conflicted := !((marked records record).filter (·.sameRelease record)).all
        (·.digest == record.digest) } (marked records record)).map unmarked
  rw [List.map_cons, marked_perm_unmarked] at inserted
  exact inserted

end BridgeCatalog

end PoisonedOS
