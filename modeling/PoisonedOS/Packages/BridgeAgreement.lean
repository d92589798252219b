import PoisonedOS.Library.Decimal
import PoisonedOS.Packages.BridgeCatalogLaws

/-!
# The two package catalogs

The firmware's catalog has smaller limits than the bridge's, and its texts have no NUL. On
records within its limits the two catalogs do the same: they check the same fields, compare
texts by their bytes, and mark the same conflicts.

Both catalogs are determined by the records they accepted. So it is enough that each record is
accepted by both or by none.
-/

namespace PoisonedOS

namespace BridgeRecord

/-- The record as the firmware keeps it. -/
def toFirmware (record : BridgeRecord) : CatalogRecord where
  id := .ofBytes record.id
  version := .ofBytes record.version
  signer := .ofBytes record.signer
  digest := .ofBytes record.digest
  sourcePath := .ofBytes record.sourcePath
  source := record.source
  freshness := record.freshness
  state := record.state
  capabilityMask := record.capabilityMask
  compatible := record.compatible
  verified := record.verified
  signerRevoked := record.signerRevoked
  conflicted := record.conflicted

/-- A text that fits the firmware's buffer of a capacity. -/
structure FitsBuffer (text : List UInt8) (capacity : Nat) : Prop where
  noNul : (0 : UInt8) ∉ text
  short : text.length ≤ capacity

/-- The texts of the record keep the firmware's limits. -/
structure WithinFirmware (record : BridgeRecord) : Prop where
  id : FitsBuffer record.id catalogMaxId
  version : FitsBuffer record.version catalogMaxVersion
  signer : FitsBuffer record.signer catalogMaxSigner
  digest : FitsBuffer record.digest catalogMaxDigest
  sourcePath : FitsBuffer record.sourcePath catalogMaxSource

variable {capacity : Nat}

theorem FitsBuffer.bytes {text : List UInt8} (fits : FitsBuffer text capacity) :
    (CString.ofBytes text).bytes = text :=
  CString.ofBytes_bytes fits.noNul

theorem FitsBuffer.nonemptyBounded {text : List UInt8} (fits : FitsBuffer text capacity) :
    PoisonedOS.nonemptyBounded (.ofBytes text) (capacity + 1) = !text.isEmpty := by
  rw [PoisonedOS.nonemptyBounded, CString.isEmpty, CString.length, fits.bytes,
    decide_eq_true (Nat.lt_succ_of_le fits.short), Bool.and_true]

theorem FitsBuffer.beq {left right : List UInt8} (leftFits : FitsBuffer left capacity)
    (rightFits : FitsBuffer right capacity) :
    (CString.ofBytes left == CString.ofBytes right) = (left == right) := by
  rw [Bool.eq_iff_iff, beq_iff_eq, beq_iff_eq]
  constructor
  · intro same
    rw [← leftFits.bytes, same, rightFits.bytes]
  · exact congrArg _

theorem FitsBuffer.compare {left right : List UInt8} (leftFits : FitsBuffer left capacity)
    (rightFits : FitsBuffer right capacity) :
    textCompare (.ofBytes left) (.ofBytes right) = Ord.compare left right := by
  rw [textCompare, leftFits.bytes, rightFits.bytes]

variable {record other : BridgeRecord}

/-- What the bridge's check asks. -/
theorem validate_iff : record.validate = .ok () ↔
    (!record.id.isEmpty && !record.version.isEmpty && !record.signer.isEmpty &&
      !record.sourcePath.isEmpty) = true ∧
    (decide (record.id.length ≤ bridgeMaxText) && decide (record.version.length ≤ bridgeMaxText) &&
      decide (record.signer.length ≤ bridgeMaxText) &&
      decide (record.sourcePath.length ≤ bridgeMaxText)) = true ∧
    (record.digest.length == 64 && record.digest.all isLowerHex) = true ∧
    (record.signerRevoked == (record.state == .revoked)) = true ∧
    (record.signerRevoked && record.verified) = false := by
  rw [validate]
  split
  · rename_i text
    constructor
    · intro impossible
      cases impossible
    · rintro ⟨nonempty, short, -⟩
      simp only [Bool.and_eq_true, Bool.not_eq_true', decide_eq_true_eq] at nonempty short
      simp [nonempty] at text
      omega
  rename_i text
  simp only [Bool.or_eq_true, decide_eq_true_eq, not_or, Bool.not_eq_true, Nat.not_lt,
    gt_iff_lt] at text
  split
  · rename_i digest
    constructor
    · intro impossible
      cases impossible
    · rintro ⟨-, -, valid, -⟩
      rw [Bool.and_eq_true] at valid
      rw [bne, valid.1, valid.2] at digest
      cases digest
  rename_i digest
  split
  · rename_i revoked
    constructor
    · intro impossible
      cases impossible
    · rintro ⟨-, -, -, agrees, unverified⟩
      rw [bne, agrees, unverified] at revoked
      cases revoked
  · simp_all

/-- The two checks are the same. -/
theorem admissible_toFirmware (within : record.WithinFirmware) :
    record.toFirmware.admissible = true ↔ record.validate = .ok () := by
  have idShort : record.id.length ≤ bridgeMaxText := within.id.short.trans (by decide)
  have versionShort : record.version.length ≤ bridgeMaxText :=
    within.version.short.trans (by decide)
  have signerShort : record.signer.length ≤ bridgeMaxText := within.signer.short.trans (by decide)
  have sourcePathShort : record.sourcePath.length ≤ bridgeMaxText := within.sourcePath.short
  rw [validate_iff, CatalogRecord.admissible]
  simp only [toFirmware, within.id.nonemptyBounded, within.version.nonemptyBounded,
    within.signer.nonemptyBounded, within.sourcePath.nonemptyBounded, catalogDigestValid,
    CString.length, within.digest.bytes, idShort, versionShort, signerShort, sourcePathShort,
    decide_true, Bool.and_true, true_and, Bool.and_eq_true, Bool.not_eq_true', catalogMaxDigest,
    and_assoc]

theorem sameEntry_toFirmware (within : record.WithinFirmware)
    (otherWithin : other.WithinFirmware) :
    record.toFirmware.sameEntry other.toFirmware = decide (record.key = other.key) := by
  rw [CatalogRecord.sameEntry]
  simp only [toFirmware, within.id.beq otherWithin.id, within.version.beq otherWithin.version,
    within.sourcePath.beq otherWithin.sourcePath]
  rw [Bool.eq_iff_iff]
  simp only [Bool.and_eq_true, beq_iff_eq, decide_eq_true_eq, key, CatalogKey.mk.injEq, and_assoc]

theorem conflicts_toFirmware (within : record.WithinFirmware)
    (otherWithin : other.WithinFirmware) :
    record.toFirmware.conflicts other.toFirmware = record.clashes other := by
  simp only [CatalogRecord.conflicts, toFirmware, within.id.beq otherWithin.id,
    within.version.beq otherWithin.version, bne, within.digest.beq otherWithin.digest, clashes,
    sameRelease]

theorem before_toFirmware (within : record.WithinFirmware) (otherWithin : other.WithinFirmware) :
    recordBefore record.toFirmware other.toFirmware = KeyedList.before key record other := by
  simp only [recordBefore, recordCompare, toFirmware, within.id.compare otherWithin.id,
    within.version.compare otherWithin.version,
    within.sourcePath.compare otherWithin.sourcePath]
  rfl

theorem WithinFirmware.unmarked (within : record.WithinFirmware) : record.unmarked.WithinFirmware :=
  ⟨within.id, within.version, within.signer, within.digest, within.sourcePath⟩

end BridgeRecord

namespace BridgeCatalog

open BridgeRecord

theorem catalogued_toFirmware {records : List BridgeRecord} (catalogued : BridgeCatalogued records)
    (within : ∀ record ∈ records, record.WithinFirmware) :
    Catalogued (records.map toFirmware) := by
  constructor
  · refine List.pairwise_map.mpr ?_
    refine catalogued.sorted.imp_of_mem fun {left right} isLeft isRight early => ?_
    rw [before_toFirmware (within left isLeft) (within right isRight)]
    exact early
  · intro changed inside
    obtain ⟨record, isRecord, rfl⟩ := List.mem_map.mp inside
    rw [List.any_map]
    refine (catalogued.marked record isRecord).trans ?_
    rw [Bool.eq_iff_iff, List.any_eq_true, List.any_eq_true]
    refine exists_congr fun other => and_congr_right fun isOther => ?_
    rw [Function.comp_apply, conflicts_toFirmware (within record isRecord) (within other isOther)]

/-- The two catalogs hold the same records. -/
structure Agrees (bridge : BridgeCatalog) (firmware : PackageCatalog) : Prop where
  records : bridge.records.map toFirmware = firmware.records
  bridgeCatalogued : BridgeCatalogued bridge.records
  firmwareCatalogued : Catalogued firmware.records
  within : ∀ record ∈ bridge.records, record.WithinFirmware

/-- Whether the bridge accepts a record. -/
def accepts (catalog : BridgeCatalog) (record : BridgeRecord) : Bool :=
  match catalog.add record with
  | .error _ => false
  | .ok _ => true

/-- A record is accepted by both catalogs or by none, and they still hold the same.

Proof: the bridge's new records, as the firmware keeps them, and the firmware's are two
catalogs of the firmware with the same records. -/
theorem Agrees.add {bridge : BridgeCatalog} {firmware : PackageCatalog}
    (agrees : Agrees bridge firmware) {record : BridgeRecord} (within : record.WithinFirmware)
    (isUnmarked : record.conflicted = false) (room : bridge.records.length < catalogMaxRecords) :
    bridge.accepts record = (firmware.add record.toFirmware).1 ∧
      Agrees (bridge.offer record) (firmware.add record.toFirmware).2 := by
  have fresh : (∀ other ∈ bridge.records, other.key ≠ record.key) ↔
      ∀ other ∈ firmware.records, other.sameEntry record.toFirmware = false := by
    rw [← agrees.records, List.forall_mem_map]
    refine forall_congr' fun other => forall_congr' fun inside => ?_
    rw [sameEntry_toFirmware (agrees.within other inside) within, decide_eq_false_iff_not]
  have firmwareRoom : firmware.records.length < catalogMaxRecords := by
    rw [← agrees.records, List.length_map]
    exact room
  have unmarkedAgain : record.toFirmware.conflicted = false := isUnmarked
  rw [accepts, offer]
  cases isAdded : bridge.add record with
  | error message =>
    obtain refused | ⟨-, passes, isFresh, -⟩ := firmware.add_cases record.toFirmware
    · rw [refused]
      exact ⟨rfl, agrees⟩
    · have isOk := add_ok_iff.mpr ⟨(admissible_toFirmware within).mp passes, fresh.mpr isFresh,
        room.trans (by decide), rfl⟩
      rw [isAdded] at isOk
      cases isOk
  | ok added =>
    have after := catalogued_add agrees.bridgeCatalogued isAdded
    obtain ⟨valid, isFresh, -, rfl⟩ := add_ok_iff.mp isAdded
    obtain ⟨firmwareAfter, isAfter, records⟩ := PackageCatalog.add_ok firmwareRoom
      ((admissible_toFirmware within).mpr valid) (fresh.mp isFresh)
    rw [isAfter]
    have allWithin : ∀ other ∈ withRecord bridge.records record, other.WithinFirmware := by
      intro other inside
      have isUnmarked := (withRecord_unmarked bridge.records record).mem_iff.mp
        (List.mem_map_of_mem (f := unmarked) inside)
      have unmarkedWithin : other.unmarked.WithinFirmware := by
        obtain new | old := List.mem_cons.mp isUnmarked
        · rw [new]
          exact within.unmarked
        · obtain ⟨current, isCurrent, same⟩ := List.mem_map.mp old
          rw [← same]
          exact (agrees.within current isCurrent).unmarked
      exact ⟨unmarkedWithin.id, unmarkedWithin.version, unmarkedWithin.signer,
        unmarkedWithin.digest, unmarkedWithin.sourcePath⟩
    have afterCatalogued : Catalogued firmwareAfter.records := by
      rw [records]
      exact PackageCatalog.catalogued_recordsWith agrees.firmwareCatalogued unmarkedAgain
        (fresh.mp isFresh)
    refine ⟨rfl, ?_, after, afterCatalogued, allWithin⟩
    refine (catalogued_toFirmware after allWithin).eq_of_perm afterCatalogued ?_
    have bare : CatalogRecord.bare ∘ toFirmware = toFirmware ∘ unmarked := rfl
    have firmwarePerm := bare_recordsWith firmware.records unmarkedAgain
    have bridgePerm := (withRecord_unmarked bridge.records record).map toFirmware
    have isBare : record.unmarked.toFirmware = record.toFirmware := by
      rw [unmarked, ← isUnmarked]
    rw [List.map_map, List.map_cons, List.map_map, isBare] at bridgePerm
    rw [← agrees.records, List.map_map, bare] at firmwarePerm
    rw [List.map_map, bare, records, ← agrees.records]
    exact bridgePerm.trans firmwarePerm.symm

theorem length_offer_le (catalog : BridgeCatalog) (record : BridgeRecord) :
    (catalog.offer record).records.length ≤ catalog.records.length + 1 := by
  rw [offer]
  cases isAdded : catalog.add record with
  | error message => exact Nat.le_succ _
  | ok added =>
    obtain ⟨-, -, -, rfl⟩ := add_ok_iff.mp isAdded
    exact (length_withRecord _ _).le

/-- The catalogs agree after any records within the firmware's limits. -/
theorem agrees_offerAll {records : List BridgeRecord}
    (within : ∀ record ∈ records, record.WithinFirmware ∧ record.conflicted = false)
    (few : records.length ≤ catalogMaxRecords) :
    Agrees (empty.offerAll records)
        (CatalogOperation.run ((records.map toFirmware).map .add)) ∧
      (empty.offerAll records).records.length ≤ records.length := by
  induction records using List.reverseRecOn with
  | nil =>
    refine ⟨⟨rfl, catalogued_empty, ⟨List.Pairwise.nil, ?_⟩, ?_⟩, Nat.le_refl _⟩
    · exact fun _ inside => absurd inside List.not_mem_nil
    · exact fun _ inside => absurd inside List.not_mem_nil
  | append_singleton records record ih =>
    rw [List.length_append, List.length_singleton] at few
    obtain ⟨agrees, length⟩ := ih
      (fun other inside => within other (List.mem_append_left _ inside)) (by omega)
    obtain ⟨here, isUnmarked⟩ := within record (List.mem_append_right _ List.mem_cons_self)
    have step := (agrees.add here isUnmarked (by omega)).2
    have longer := length_offer_le (empty.offerAll records) record
    rw [offerAll, List.foldl_append, ← offerAll, List.map_append, List.map_append,
      CatalogOperation.run, List.foldl_append, ← CatalogOperation.run, List.length_append,
      List.length_singleton]
    exact ⟨step, longer.trans (Nat.succ_le_succ length)⟩

/-- What holds of the bridge's catalogs, when the JSON text of the records is read back. -/
structure Laws (json : CatalogJson) (catalog : BridgeCatalog) : Prop where
  marked : ∀ record ∈ catalog.records, (record.conflicted = true ↔ ∃ other ∈ catalog.records,
    other.id = record.id ∧ other.version = record.version ∧ other.digest ≠ record.digest)
  ordered : ∀ first second : List BridgeRecord,
    ((catalog.accepted first).Perm (catalog.accepted second) →
        catalog.offerAll first = catalog.offerAll second) ∧
      (first.Perm second → catalog.accepted first = first → catalog.accepted second = second)
  reloaded : ∀ bytes, catalog.cachedJson json = .ok bytes →
    json.fromSlice bytes = .ok catalog.records → fromCachedJson json bytes = .ok catalog

/-- The laws of the bridge's catalog, and its agreement with the firmware's.

Proof: a reached catalog is sorted, exactly marked and valid, and so it is determined by the
accepted records. The firmware's catalog of the same records has the same invariant. -/
theorem bridge_catalog_laws (json : CatalogJson) :
    (∀ catalog, Reached json catalog → Laws json catalog) ∧
      ∀ records : List BridgeRecord, records.length ≤ catalogMaxRecords →
        (∀ record ∈ records, record.WithinFirmware ∧ record.conflicted = false) →
        (empty.offerAll records).records.map toFirmware =
            (CatalogOperation.run ((records.map toFirmware).map .add)).records ∧
          ∀ index record, records[index]? = some record →
            (empty.offerAll (records.take index)).accepts record =
              ((CatalogOperation.run (((records.take index).map toFirmware).map .add)).add
                record.toFirmware).1 := by
  constructor
  · intro catalog reached
    have catalogued := reached.catalogued
    constructor
    · intro record inside
      rw [catalogued.marked record inside, List.any_eq_true]
      simp only [clashes_iff]
    · exact offerAll_perm catalogued
    · intro bytes _ read
      rw [fromCachedJson, read]
      exact addAll_records catalogued
  · intro records few within
    refine ⟨(agrees_offerAll within few).1.records, fun index record isRecord => ?_⟩
    obtain ⟨here, isUnmarked⟩ := within record (List.mem_of_getElem? isRecord)
    have bounded := (List.getElem?_eq_some_iff.mp isRecord).1
    have shorter : (records.take index).length = index := by
      rw [List.length_take]
      omega
    obtain ⟨agrees, length⟩ := agrees_offerAll
      (fun other inside => within other (List.mem_of_mem_take inside))
      (shorter.le.trans (by omega))
    exact (agrees.add here isUnmarked (by omega)).1

/-! ## A catalog with a conflict and a missing source -/

def sourceName : CatalogSource → String
  | .deviceStorage => "DeviceStorage"
  | .bundledRelease => "BundledRelease"
  | .importedFile => "ImportedFile"
  | .localRepository => "LocalRepository"

def freshnessName : CatalogFreshness → String
  | .unknown => "Unknown"
  | .fresh => "Fresh"
  | .stale => "Stale"
  | .missing => "Missing"

def stateName : CatalogState → String
  | .installed => "Installed"
  | .staged => "Staged"
  | .available => "Available"
  | .incompatible => "Incompatible"
  | .disabled => "Disabled"
  | .quarantined => "Quarantined"
  | .revoked => "Revoked"
  | .rollbackCandidate => "RollbackCandidate"

def quoted (text : List UInt8) : List UInt8 := 34 :: text ++ [34]

def boolText (value : Bool) : List UInt8 :=
  (CString.literal (if value then "true" else "false")).bytes

/-- The members of a record, in the order of its fields. -/
def members (record : BridgeRecord) : List (String × List UInt8) :=
  [("id", quoted record.id), ("version", quoted record.version), ("signer", quoted record.signer),
    ("digest", quoted record.digest),
    ("source", quoted (CString.literal (sourceName record.source)).bytes),
    ("source_path", quoted record.sourcePath),
    ("freshness", quoted (CString.literal (freshnessName record.freshness)).bytes),
    ("state", quoted (CString.literal (stateName record.state)).bytes),
    ("verified", boolText record.verified), ("signer_revoked", boolText record.signerRevoked),
    ("conflicted", boolText record.conflicted), ("compatible", boolText record.compatible),
    ("capability_mask", Decimal.digits record.capabilityMask.toNat)]

/-- The JSON text of records whose texts need no escapes. -/
def renderRecords (records : List BridgeRecord) : List UInt8 :=
  91 :: [44].intercalate (records.map fun record =>
    123 :: [44].intercalate ((members record).map fun member =>
      quoted (CString.literal member.1).bytes ++ 58 :: member.2) ++ [125]) ++ [93]

/-- Records are written as they are, and the text of some records is read. -/
def knownJson (known : List BridgeRecord) : CatalogJson where
  toVec records := .ok (renderRecords records)
  fromSlice bytes :=
    if bytes == renderRecords known then .ok known else .error "unknown text"

theorem knownJson_reads (known : List BridgeRecord) :
    (knownJson known).fromSlice (renderRecords known) = .ok known :=
  if_pos (beq_self_eq_true _)

theorem cachedJson_knownJson (catalog : BridgeCatalog) (known : List BridgeRecord) :
    catalog.cachedJson (knownJson known) = .ok (renderRecords catalog.records) :=
  rfl

def sampleRelease (id path : String) (digit : UInt8) (source : CatalogSource) : BridgeRecord where
  id := (CString.literal id).bytes
  version := (CString.literal "1.0.0").bytes
  signer := (CString.literal "poison-release").bytes
  digest := List.replicate 64 digit
  source
  sourcePath := (CString.literal path).bytes
  freshness := .fresh
  state := .available
  verified := true
  signerRevoked := false
  conflicted := false
  compatible := true
  capabilityMask := 3

/-- Two releases of one package and version with other contents, and another package. -/
def sampleReleases : List BridgeRecord :=
  [sampleRelease "tool" "https://packages" 97 .localRepository,
    sampleRelease "demo" "/ext/demo" 98 .deviceStorage,
    sampleRelease "demo" "/ext/import" 99 .importedFile]

/-- The catalog of these, one of whose sources is missing since. -/
def sampleCatalog : BridgeCatalog :=
  ((empty.offerAll sampleReleases).markSourceMissing .localRepository
    (CString.literal "https://packages").bytes).2

theorem Reached.offer {json : CatalogJson} {catalog : BridgeCatalog}
    (reached : Reached json catalog) (record : BridgeRecord) :
    Reached json (catalog.offer record) := by
  rw [BridgeCatalog.offer]
  cases isAdded : catalog.add record with
  | error message => exact reached
  | ok added => exact reached.add isAdded

theorem Reached.offerAll {json : CatalogJson} {catalog : BridgeCatalog}
    (reached : Reached json catalog) (records : List BridgeRecord) :
    Reached json (catalog.offerAll records) :=
  List.foldlRecOn records BridgeCatalog.offer reached fun _ reached record _ =>
    reached.offer record

/-- The catalog has a conflict and a missing source; it is built again from its text, and in
every order of its releases; and the firmware's catalog of the releases is the same. -/
theorem sample_catalog_reloaded :
    sampleCatalog.records.map (fun record => (record.conflicted, record.state)) =
        [(true, .available), (true, .available), (false, .quarantined)] ∧
      fromCachedJson (knownJson sampleCatalog.records) (renderRecords sampleCatalog.records) =
        .ok sampleCatalog ∧
      empty.offerAll sampleReleases = empty.offerAll sampleReleases.reverse ∧
      (empty.offerAll sampleReleases).records.map toFirmware =
        (CatalogOperation.run ((sampleReleases.map toFirmware).map .add)).records := by
  obtain ⟨laws, agreement⟩ := bridge_catalog_laws (knownJson sampleCatalog.records)
  have reached : Reached (knownJson sampleCatalog.records) sampleCatalog :=
    (Reached.empty.offerAll sampleReleases).markSourceMissing _ _
  refine ⟨by decide +kernel, ?_, ?_, ?_⟩
  · exact (laws sampleCatalog reached).reloaded _ (cachedJson_knownJson _ _) (knownJson_reads _)
  · refine ((laws empty .empty).ordered sampleReleases sampleReleases.reverse).1 ?_
    decide +kernel
  · refine (agreement sampleReleases (by decide) ?_).1
    intro record inside
    simp only [sampleReleases, List.mem_cons, List.not_mem_nil, or_false] at inside
    obtain rfl | rfl | rfl := inside
    all_goals
      exact ⟨⟨⟨by decide, by decide⟩, ⟨by decide, by decide⟩, ⟨by decide, by decide⟩,
        ⟨by decide, by decide⟩, ⟨by decide, by decide⟩⟩, rfl⟩

end BridgeCatalog

end PoisonedOS
