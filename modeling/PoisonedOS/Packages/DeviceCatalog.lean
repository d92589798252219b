import PoisonedOS.Packages.CatalogLaws

/-!
# The catalog of the device's packages

Every manager that may be saved has a catalog. What the persistence check asks of a package
is what the catalog asks of its records, the two records of a package lie at different
paths, and two packages have different identifiers.
-/

namespace PoisonedOS

open CatalogRecord

/-- The bound of a package's text is that of its catalog field. -/
theorem nonemptyBounded_eq (text : CString) (maximum : Nat) :
    nonemptyBounded text (maximum + 1) = packageTextValid text maximum := by
  rw [nonemptyBounded, packageTextValid, decide_eq_decide.mpr Nat.lt_succ_iff]

theorem catalogText_of_valid {text : CString} {maximum : Nat}
    (valid : packageTextValid text maximum = true) :
    catalogText text (maximum + 1) = some text := by
  rw [catalogText, nonemptyBounded_eq, if_pos valid]

theorem textValid_of_digest {digest : CString} (valid : catalogDigestValid digest = true) :
    packageTextValid digest catalogMaxDigest = true := by
  rw [catalogDigestValid, Bool.and_eq_true, beq_iff_eq] at valid
  have positive : 0 < digest.length := by
    rw [valid.1]
    decide
  rw [packageTextValid, CString.isEmpty_false_of_length positive, valid.1]
  rfl

theorem catalogState_isSome {state : PackageState} (present : state ≠ .removed) :
    ∃ listed, catalogState state = some listed ∧ listed ≠ .revoked := by
  cases state with
  | removed => exact absurd rfl present
  | _ => exact ⟨_, rfl, fun equal => by cases equal⟩

variable {package : PackageRecord}

/-- A package that may be saved has a record which passes the catalog's checks. -/
theorem currentRecord_some (persistable : package.Persistable)
    (present : package.transaction.state ≠ .removed) (authorities : Option AuthorityStore) :
    ∃ current, currentRecord authorities package = some current ∧ current.admissible = true ∧
      current.id = package.packageId ∧ current.sourcePath = package.manifestPath := by
  obtain ⟨listed, isListed, notRevoked⟩ := catalogState_isSome present
  have identified := persistable.identified
  have located := persistable.located
  have digested : catalogDigestValid package.digest = true := persistable.digested
  rw [packageIdValid, Bool.and_eq_true] at identified
  rw [packageManifestPathValid, Bool.and_eq_true, Bool.and_eq_true, Bool.and_eq_true] at located
  have id := catalogText_of_valid identified.1
  have version := catalogText_of_valid persistable.versioned
  have signer := catalogText_of_valid persistable.signed
  have digest := catalogText_of_valid (textValid_of_digest digested)
  have sourcePath := catalogText_of_valid located.1.1.1
  rw [currentRecord, isListed]
  change catalogText package.packageId (catalogMaxId + 1) = _ at id
  change catalogText package.version (catalogMaxVersion + 1) = _ at version
  change catalogText package.signingKeyId (catalogMaxSigner + 1) = _ at signer
  change catalogText package.manifestPath (catalogMaxSource + 1) = _ at sourcePath
  rw [id, version, signer, digest, sourcePath]
  refine ⟨_, rfl, ?_, rfl, rfl⟩
  have idBounded : nonemptyBounded package.packageId (catalogMaxId + 1) = true :=
    (nonemptyBounded_eq _ _).trans identified.1
  have versionBounded : nonemptyBounded package.version (catalogMaxVersion + 1) = true :=
    (nonemptyBounded_eq _ _).trans persistable.versioned
  have signerBounded : nonemptyBounded package.signingKeyId (catalogMaxSigner + 1) = true :=
    (nonemptyBounded_eq _ _).trans persistable.signed
  have pathBounded : nonemptyBounded package.manifestPath (catalogMaxSource + 1) = true :=
    (nonemptyBounded_eq _ _).trans located.1.1.1
  rw [admissible, idBounded, versionBounded, signerBounded, pathBounded, digested]
  cases catalogSignerRevoked authorities package.signingKeyId with
  | true => rfl
  | false =>
    have other : (listed == CatalogState.revoked) = false := beq_eq_false_iff_ne.mpr notRevoked
    simp [other]

/-- The path of a rollback copy fits. -/
theorem rollbackSource_bounded {packageId : CString} (valid : packageIdValid packageId = true) :
    nonemptyBounded (rollbackSource packageId) (catalogMaxSource + 1) = true := by
  rw [packageIdValid, Bool.and_eq_true, packageTextValid, Bool.and_eq_true,
    decide_eq_true_eq] at valid
  have short : packageId.length ≤ 64 := valid.1.2
  have length : (rollbackSource packageId).length = 26 + packageId.length + 9 := by
    simp only [rollbackSource, CString.append, CString.length, List.length_append]
    rfl
  rw [nonemptyBounded, CString.isEmpty_false_of_length (by omega), length]
  have bound : catalogMaxSource + 1 = 257 := rfl
  simp only [Bool.not_false, Bool.true_and, decide_eq_true_eq]
  omega

/-- A rollback copy does not lie where manifests are staged. -/
theorem manifestPath_ne {path : CString} (valid : packageManifestPathValid path = true)
    (packageId : CString) : path ≠ rollbackSource packageId := by
  rintro rfl
  rw [packageManifestPathValid, Bool.and_eq_true, Bool.and_eq_true, Bool.and_eq_true] at valid
  have staged := valid.1.1.2
  have apart : (rollbackSource packageId).startsWith (.literal "/ext/apps/.staging/") = false := rfl
  rw [apart] at staged
  cases staged

theorem rollbackRecord_some (persistable : package.Persistable) {current : CatalogRecord}
    (passes : current.admissible = true) (previous : package.previousVersion.isEmpty = false)
    (digested : catalogDigestValid package.previousDigest = true) :
    ∃ rollback, rollbackRecord package current = some rollback ∧ rollback.admissible = true ∧
      rollback.id = current.id ∧ rollback.sourcePath = rollbackSource package.packageId := by
  have versioned : packageTextValid package.previousVersion packageVersionMax = true :=
    persistable.previousVersioned.resolve_left (Bool.eq_false_iff.mp previous)
  have version : catalogText package.previousVersion (catalogMaxVersion + 1) = _ :=
    catalogText_of_valid versioned
  have digest := catalogText_of_valid (textValid_of_digest digested)
  have bounded := rollbackSource_bounded persistable.identified
  have short : ¬(rollbackSource package.packageId).length ≥ catalogMaxSource + 1 := by
    rw [nonemptyBounded, Bool.and_eq_true, decide_eq_true_eq] at bounded
    omega
  rw [rollbackRecord, version, digest]
  dsimp only
  rw [if_neg short]
  refine ⟨_, rfl, ?_, rfl, rfl⟩
  have versionBounded : nonemptyBounded package.previousVersion (catalogMaxVersion + 1) = true :=
    (nonemptyBounded_eq _ _).trans versioned
  simp only [admissible, Bool.and_eq_true] at passes
  obtain ⟨⟨⟨⟨⟨⟨id, -⟩, signer⟩, -⟩, -⟩, -⟩, -⟩ := passes
  rw [admissible, id, versionBounded, signer, bounded, digested]
  cases current.signerRevoked with
  | true => rfl
  | false => rfl

namespace PackageCatalog

/-- The records after an addition are those before and the added one, up to their marks. -/
theorem mem_recordsWith {records : List CatalogRecord} {record item : CatalogRecord}
    (inside : item ∈ recordsWith records record) :
    ∃ prior ∈ record :: records, prior.id = item.id ∧ prior.sourcePath = item.sourcePath := by
  rw [recordsWith_eq] at inside
  obtain ⟨prior, isPrior, rfl⟩ := List.mem_map.mp inside
  refine ⟨prior, (SortedInsertion.insertItem_perm _ _ _).mem_iff.mp isPrior, ?_⟩
  cases (SortedInsertion.insertItem recordBefore record records).any prior.conflicts with
  | true => exact ⟨rfl, rfl⟩
  | false => exact ⟨rfl, rfl⟩

/-- A record is added that agrees with none in both identifier and path. -/
theorem add_apart {catalog : PackageCatalog} {record : CatalogRecord}
    (room : catalog.records.length < catalogMaxRecords) (passes : record.admissible = true)
    (apart : ∀ other ∈ catalog.records, other.id = record.id →
      other.sourcePath ≠ record.sourcePath) :
    ∃ after, catalog.add record = (true, after) ∧
      after.records = recordsWith catalog.records record := by
  refine add_ok room passes fun other inside => ?_
  rw [sameEntry, Bool.eq_false_iff]
  intro same
  simp only [Bool.and_eq_true, beq_iff_eq] at same
  exact apart other inside same.1.1.1 same.2

/-- What the records of one package leave of the catalog. -/
structure Extended (catalog after : PackageCatalog) (packageId : CString) : Prop where
  bounded : after.records.length ≤ catalog.records.length + 2
  ids : ∀ record ∈ after.records, record.id = packageId ∨
    ∃ prior ∈ catalog.records, prior.id = record.id

/-- The records of a package are added to a catalog of other packages that has room for
two.

Proof: the package's own record is of a new identifier. After it, the record of the release
before differs from it in its path, and from all others in its identifier. -/
theorem addPackage_some {catalog : PackageCatalog} (persistable : package.Persistable)
    (room : catalog.records.length + 2 ≤ catalogMaxRecords)
    (fresh : ∀ other ∈ catalog.records, other.id ≠ package.packageId)
    (authorities : Option AuthorityStore) :
    ∃ after, catalog.addPackage authorities package = some after ∧
      Extended catalog after package.packageId := by
  rw [addPackage, persistable.initialized]
  split
  · exact ⟨catalog, rfl, Nat.le_add_right _ _, fun record inside => .inr ⟨record, inside, rfl⟩⟩
  rename_i passed
  have present : package.transaction.state ≠ .removed := by
    intro removed
    rw [removed] at passed
    exact passed rfl
  obtain ⟨current, isCurrent, passes, sameId, samePath⟩ :=
    currentRecord_some persistable present authorities
  obtain ⟨added, isAdded, records⟩ := add_apart (by omega) passes
    fun other inside same => absurd (same.trans sameId) (fresh other inside)
  have addedLength : added.records.length = catalog.records.length + 1 := by
    rw [records, length_recordsWith]
  have addedIds (record : CatalogRecord) (inside : record ∈ added.records) :
      (record.id = package.packageId ∧ record.sourcePath = package.manifestPath) ∨
        ∃ prior ∈ catalog.records, prior.id = record.id := by
    rw [records] at inside
    obtain ⟨prior, isPrior, id, sourcePath⟩ := mem_recordsWith inside
    obtain rfl | old := List.mem_cons.mp isPrior
    · exact .inl ⟨id.symm.trans sameId, sourcePath.symm.trans samePath⟩
    · exact .inr ⟨prior, old, id⟩
  rw [isCurrent]
  dsimp only
  rw [isAdded]
  dsimp only
  split
  · exact ⟨added, rfl, by omega, fun record inside => (addedIds record inside).imp_left And.left⟩
  rename_i hasPrevious
  rw [Bool.or_eq_true, not_or, Bool.not_eq_true, Bool.not_eq_true',
    Bool.not_eq_false] at hasPrevious
  obtain ⟨rollback, isRollback, rollbackPasses, rollbackId, rollbackPath⟩ :=
    rollbackRecord_some persistable passes hasPrevious.1 hasPrevious.2
  have stillRoom : added.records.length < catalogMaxRecords := by omega
  obtain ⟨both, isBoth, bothRecords⟩ := add_apart stillRoom rollbackPasses (by
    intro other inside same
    rw [rollbackPath]
    obtain ⟨-, atManifest⟩ | ⟨prior, old, id⟩ := addedIds other inside
    · rw [atManifest]
      exact manifestPath_ne persistable.located _
    · exact absurd ((id.trans same).trans (rollbackId.trans sameId)) (fresh prior old))
  rw [isRollback]
  dsimp only
  rw [isBoth]
  refine ⟨both, rfl, ?_, ?_⟩
  · rw [bothRecords, length_recordsWith]
    omega
  · intro record inside
    rw [bothRecords] at inside
    obtain ⟨prior, isPrior, id, -⟩ := mem_recordsWith inside
    obtain rfl | old := List.mem_cons.mp isPrior
    · exact .inl (id.symm.trans (rollbackId.trans sameId))
    · obtain ⟨same, -⟩ | ⟨first, isFirst, firstId⟩ := addedIds prior old
      · exact .inl (id.symm.trans same)
      · exact .inr ⟨first, isFirst, firstId.trans id⟩

/-- Every manager that may be saved has a catalog.

Proof: by induction on the slots that are left. Each takes at most two records, and the
catalog holds identifiers of packages in earlier slots alone. -/
theorem fromManager_isSome {manager : PackageManager} (valid : manager.persistedValid = true)
    (authorities : Option AuthorityStore) : (fromManager manager authorities).isSome = true := by
  obtain ⟨persistable, distinct⟩ := manager.persisted_valid_iff.mp valid
  suffices onwards : ∀ (slots : List (Fin packageMaxRecords)) (catalog : PackageCatalog),
      slots.Nodup → catalog.records.length + 2 * slots.length ≤ catalogMaxRecords →
      (∀ slot ∈ slots, ∀ package, manager.records slot = some package →
        ∀ other ∈ catalog.records, other.id ≠ package.packageId) →
      (slots.foldlM (fun catalog slot => (manager.records slot).elim (some catalog)
        (catalog.addPackage authorities)) catalog).isSome = true from
    onwards _ _ (List.nodup_finRange _)
      (show 0 + 2 * (List.finRange packageMaxRecords).length ≤ catalogMaxRecords by decide)
      fun _ _ _ _ record inside => absurd inside List.not_mem_nil
  intro slots
  induction slots with
  | nil => exact fun _ _ _ _ => rfl
  | cons slot rest ih =>
    intro catalog nodup room fresh
    obtain ⟨notLater, restNodup⟩ := List.nodup_cons.mp nodup
    have restFresh (later : Fin packageMaxRecords) (isLater : later ∈ rest) :=
      fresh later (List.mem_cons_of_mem _ isLater)
    rw [List.length_cons] at room
    rw [List.foldlM_cons]
    cases stored : manager.records slot with
    | none => exact ih catalog restNodup (by omega) restFresh
    | some package =>
      obtain ⟨after, isAfter, extended⟩ := addPackage_some (persistable slot package stored)
        (by omega) (fresh slot List.mem_cons_self package stored) authorities
      have bounded := extended.bounded
      rw [Option.elim_some, isAfter]
      refine ih after restNodup (by omega) ?_
      intro later isLater other isOther record inside same
      obtain own | ⟨prior, isPrior, id⟩ := extended.ids record inside
      · have equal : slot = later := distinct slot later package other stored isOther
          (own.symm.trans same)
        exact notLater (equal ▸ isLater)
      · exact restFresh later isLater other isOther prior isPrior (id.trans same)

end PackageCatalog

/-- After additions of unmarked records and marks of missing sources on the empty catalog,
the records are strictly sorted, no two are of one release at one place, and a record is
marked as conflicting exactly where the catalog has the same release with another digest.
A refused addition changes nothing. At most as many records as fit, of different entries,
give the same catalog in every order. Every manager that may be saved has a catalog.

Proof: each operation keeps the catalog sorted and exactly marked, and such a catalog is
determined by its records without their marks. These are the added records that pass their
checks, in every order. -/
theorem catalog_laws :
    (∀ operations : List CatalogOperation,
      (∀ record, .add record ∈ operations → record.conflicted = false) →
        let records := (CatalogOperation.run operations).records
        records.Pairwise (fun first second =>
          recordCompare first second = .lt ∧ first.sameEntry second = false) ∧
        ∀ record ∈ records, record.conflicted = true ↔ ∃ other ∈ records,
          other.id = record.id ∧ other.version = record.version ∧ other.digest ≠ record.digest) ∧
    (∀ (catalog after : PackageCatalog) (record : CatalogRecord),
      catalog.add record = (false, after) → after = catalog) ∧
    (∀ first second : List CatalogRecord, first.Perm second →
      first.length ≤ catalogMaxRecords →
      first.Pairwise (fun left right => left.sameEntry right = false) →
      (∀ record ∈ first, record.conflicted = false) →
        (CatalogOperation.run (first.map .add)).records =
          (CatalogOperation.run (second.map .add)).records) ∧
    ∀ (manager : PackageManager) (authorities : Option AuthorityStore),
      manager.persistedValid = true →
        (PackageCatalog.fromManager manager authorities).isSome = true := by
  refine ⟨?_, ?_, ?_, fun manager authorities valid =>
    PackageCatalog.fromManager_isSome valid authorities⟩
  · intro operations unmarked
    have allUnmarked : ∀ operation ∈ operations, operation.Unmarked := by
      intro operation inside
      cases operation with
      | add record => exact unmarked record inside
      | markSourceMissing source sourcePath => exact trivial
    have catalogued := CatalogOperation.catalogued_run allUnmarked
    constructor
    · refine catalogued.sorted.imp fun {first second} early => ?_
      have less := recordBefore_iff.mp early
      refine ⟨less, Bool.eq_false_iff.mpr fun same => ?_⟩
      rw [recordCompare_eq_iff.mpr same] at less
      cases less
    · intro record inside
      rw [catalogued.marked record inside, List.any_eq_true]
      simp only [conflicts_iff]
  · intro catalog after record refused
    obtain same | ⟨-, -, -, added, isAdded, -⟩ := catalog.add_cases record
    · exact (congrArg Prod.snd (same.symm.trans refused)).symm
    · rw [isAdded] at refused
      cases congrArg Prod.fst refused
  · intro first second same fits different unmarked
    exact run_perm same ⟨fits, different, unmarked⟩

end PoisonedOS
