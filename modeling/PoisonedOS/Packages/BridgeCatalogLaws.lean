import PoisonedOS.Packages.BridgeCatalog

/-!
# Laws of the bridge's catalog

A reached catalog is sorted, its conflict marks are exact and its records are valid. It is
determined by the records that were accepted, whatever their order, and so it is built again
from its own cached text.

The firmware's catalog and the bridge's agree wherever the firmware's limits are kept: both
hold the same records in the same order, with the same marks.
-/

namespace PoisonedOS

open SortedInsertion (Sorted)

namespace BridgeCatalog

open BridgeRecord

/-! ## Exact marks -/

theorem any_clashes_map (change : BridgeRecord → BridgeRecord)
    (kept : ∀ record other : BridgeRecord, record.clashes (change other) = record.clashes other)
    (records : List BridgeRecord) (record : BridgeRecord) :
    (records.map change).any record.clashes = records.any record.clashes := by
  rw [List.any_map]
  exact congrArg (records.any ·) (funext fun other => kept record other)

/-- A mark is left by an addition where the added record clashes. -/
theorem any_clashes_marked (records : List BridgeRecord) (record item : BridgeRecord) :
    (marked records record).any item.clashes = records.any item.clashes := by
  refine any_clashes_map _ (fun first other => ?_) records item
  split <;> rfl

theorem added_conflicted (records : List BridgeRecord) (record : BridgeRecord) :
    (!((marked records record).filter (·.sameRelease record)).all (·.digest == record.digest)) =
      records.any record.clashes := by
  rw [← any_clashes_marked records record, List.not_all_eq_any_not, List.any_filter]
  refine congrArg ((marked records record).any ·) (funext fun other => ?_)
  rw [clashes_comm, clashes]
  rfl

variable {catalog : BridgeCatalog} {record : BridgeRecord}

/-- An added record with a new key keeps the catalog sorted and exactly marked. -/
theorem catalogued_add {added : BridgeCatalog} (catalogued : BridgeCatalogued catalog.records)
    (isAdded : catalog.add record = .ok added) :
    BridgeCatalogued added.records := by
  obtain ⟨valid, fresh, room, rfl⟩ := add_ok_iff.mp isAdded
  have sorted : Sorted (KeyedList.before key) (marked catalog.records record) := by
    refine sorted_map _ (fun current => ?_) catalogued.sorted
    split <;> rfl
  have perm := SortedInsertion.insertItem_perm (KeyedList.before key)
    { record with conflicted := catalog.records.any record.clashes }
    (marked catalog.records record)
  have isMarked {item : BridgeRecord} (inside : item ∈ marked catalog.records record) :
      ∃ current ∈ catalog.records,
        item = if current.clashes record then { current with conflicted := true } else current := by
    obtain ⟨current, isCurrent, rfl⟩ := List.mem_map.mp inside
    exact ⟨current, isCurrent, rfl⟩
  rw [withRecord, added_conflicted]
  constructor
  · refine SortedInsertion.insertItem_sorted KeyedList.before_chained sorted fun other inside => ?_
    obtain ⟨current, isCurrent, rfl⟩ := isMarked inside
    refine KeyedList.before_or fun same => fresh current isCurrent (Eq.trans ?_ same.symm)
    split <;> rfl
  · intro item inside
    rw [perm.any_eq, List.any_cons, any_clashes_marked]
    obtain rfl | old := List.mem_cons.mp (perm.mem_iff.mp inside)
    · change catalog.records.any record.clashes =
        (record.clashes record || catalog.records.any record.clashes)
      rw [clashes_self, Bool.false_or]
    · obtain ⟨current, isCurrent, rfl⟩ := isMarked old
      have before := catalogued.marked current isCurrent
      split
      · rename_i clash
        change true = (current.clashes record || catalog.records.any current.clashes)
        rw [clash, Bool.true_or]
      · rename_i peaceful
        change current.conflicted = (current.clashes record || catalog.records.any current.clashes)
        rw [Bool.not_eq_true _ |>.mp peaceful, Bool.false_or, before]
  · intro item inside
    obtain rfl | old := List.mem_cons.mp (perm.mem_iff.mp inside)
    · exact valid
    · obtain ⟨current, isCurrent, rfl⟩ := isMarked old
      have isValid := catalogued.valid current isCurrent
      split
      · exact isValid
      · exact isValid
  · rw [perm.length_eq, List.length_cons, marked, List.length_map]
    exact room

/-- Records that lose their source stay valid. -/
theorem validate_missing (valid : record.validate = .ok ()) :
    record.missing.validate = .ok () := by
  have revoked : (record.missing.state == .revoked) = (record.state == .revoked) := by
    rw [missing]
    cases record.state <;> rfl
  unfold validate at valid ⊢
  rw [revoked]
  exact valid

theorem catalogued_missingWhere (catalogued : BridgeCatalogued catalog.records)
    (condition : BridgeRecord → Bool) :
    BridgeCatalogued (catalog.missingWhere condition).records := by
  constructor
  · refine sorted_map _ (fun record => ?_) catalogued.sorted
    split <;> rfl
  · intro changed inside
    obtain ⟨record, isRecord, rfl⟩ := List.mem_map.mp inside
    have isMarked := catalogued.marked record isRecord
    change _ = (List.map _ _).any _
    rw [any_clashes_map _ (fun first other => by split <;> rfl)]
    split
    · exact isMarked
    · exact isMarked
  · intro changed inside
    obtain ⟨record, isRecord, rfl⟩ := List.mem_map.mp inside
    split
    · exact validate_missing (catalogued.valid record isRecord)
    · exact catalogued.valid record isRecord
  · rw [missingWhere, List.length_map]
    exact catalogued.few

theorem catalogued_empty : BridgeCatalogued empty.records where
  sorted := List.Pairwise.nil
  marked := fun _ inside => absurd inside List.not_mem_nil
  valid := fun _ inside => absurd inside List.not_mem_nil
  few := Nat.zero_le _

variable {records : List BridgeRecord}

theorem catalogued_addAll {loaded : BridgeCatalog} (catalogued : BridgeCatalogued catalog.records)
    (isLoaded : catalog.addAll records = .ok loaded) : BridgeCatalogued loaded.records := by
  induction records generalizing catalog with
  | nil =>
    cases isLoaded
    exact catalogued
  | cons record rest ih =>
    rw [addAll] at isLoaded
    cases isAdded : catalog.add record with
    | error message =>
      rw [isAdded] at isLoaded
      cases isLoaded
    | ok added =>
      rw [isAdded] at isLoaded
      exact ih (catalogued_add catalogued isAdded) isLoaded

/-- Every reached catalog is sorted, exactly marked and valid. -/
theorem Reached.catalogued {json : CatalogJson} (reached : Reached json catalog) :
    BridgeCatalogued catalog.records := by
  induction reached with
  | empty => exact catalogued_empty
  | add _ isAdded ih => exact catalogued_add ih isAdded
  | markSourceMissing source sourcePath _ ih =>
    exact catalogued_missingWhere ih _
  | reconcileSourcePaths source availablePaths _ ih =>
    exact catalogued_missingWhere ih _
  | @fromCachedJson bytes catalog isLoaded =>
    rw [BridgeCatalog.fromCachedJson] at isLoaded
    split at isLoaded
    · cases isLoaded
    · exact catalogued_addAll catalogued_empty isLoaded

/-! ## Orders of addition -/

theorem eq_marked (catalogued : BridgeCatalogued records) :
    records = (records.map unmarked).map fun record =>
      { record with conflicted := (records.map unmarked).any record.clashes } := by
  have any (record : BridgeRecord) : (records.map unmarked).any record.unmarked.clashes =
      records.any record.clashes := any_clashes_map unmarked (fun _ _ => rfl) records record
  rw [List.map_map]
  refine (List.map_id _).symm.trans (List.map_congr_left fun record inside => ?_)
  rw [Function.comp_apply, any, ← catalogued.marked record inside]
  rfl

theorem eq_of_perm {first second : BridgeCatalog} (firstCatalogued : BridgeCatalogued first.records)
    (secondCatalogued : BridgeCatalogued second.records)
    (same : (first.records.map unmarked).Perm (second.records.map unmarked)) : first = second := by
  have unmarkedEqual := Sorted.eq_of_perm KeyedList.before_chained
    (fun _ => KeyedList.before_self rfl)
    (sorted_map unmarked (fun _ => rfl) firstCatalogued.sorted)
    (sorted_map unmarked (fun _ => rfl) secondCatalogued.sorted) same
  have records : first.records = second.records := by
    refine (eq_marked firstCatalogued).trans (Eq.trans ?_ (eq_marked secondCatalogued).symm)
    rw [unmarkedEqual]
  cases first
  cases second
  exact congrArg mk records

theorem offerAll_unmarked (records : List BridgeRecord)
    (catalogued : BridgeCatalogued catalog.records) :
    BridgeCatalogued (catalog.offerAll records).records ∧
      ((catalog.offerAll records).records.map unmarked).Perm
        ((catalog.accepted records).map unmarked ++ catalog.records.map unmarked) := by
  induction records generalizing catalog with
  | nil => exact ⟨catalogued, List.Perm.refl _⟩
  | cons record rest ih =>
    rw [offerAll, List.foldl_cons, offer, accepted, ← offerAll]
    cases isAdded : catalog.add record with
    | error message => exact ih catalogued
    | ok added =>
      obtain ⟨after, perm⟩ := ih (catalogued_add catalogued isAdded)
      refine ⟨after, perm.trans ?_⟩
      obtain ⟨-, -, -, rfl⟩ := add_ok_iff.mp isAdded
      rw [List.map_cons, List.cons_append]
      exact ((withRecord_unmarked catalog.records record).append_left _).trans List.perm_middle

/-- All records can be added: they are valid and new, and there is room for them. -/
structure Admits (catalog : BridgeCatalog) (records : List BridgeRecord) : Prop where
  valid : ∀ record ∈ records, record.validate = .ok ()
  different : records.Pairwise fun first second => first.key ≠ second.key
  fresh : ∀ record ∈ records, ∀ other ∈ catalog.records, other.key ≠ record.key
  room : catalog.records.length + records.length ≤ bridgeMaxRecords

theorem Admits.of_perm {first second : List BridgeRecord} (admits : catalog.Admits first)
    (same : first.Perm second) : catalog.Admits second where
  valid := fun record inside => admits.valid record (same.mem_iff.mpr inside)
  different := admits.different.perm same fun other => other.symm
  fresh := fun record inside => admits.fresh record (same.mem_iff.mpr inside)
  room := same.length_eq ▸ admits.room

theorem length_accepted_le (catalog : BridgeCatalog) (records : List BridgeRecord) :
    (catalog.accepted records).length ≤ records.length := by
  induction records generalizing catalog with
  | nil => exact Nat.le_refl _
  | cons record rest ih =>
    rw [accepted]
    split
    · exact Nat.le_succ_of_le (ih catalog)
    · exact Nat.succ_le_succ (ih _)

/-- The keys after an addition. -/
theorem mem_withRecord_key {other : BridgeRecord} (inside : other ∈ withRecord records record) :
    other.key = record.key ∨ ∃ current ∈ records, other.key = current.key := by
  have isUnmarked := (withRecord_unmarked records record).mem_iff.mp
    (List.mem_map_of_mem (f := unmarked) inside)
  obtain new | old := List.mem_cons.mp isUnmarked
  · exact .inl (show other.unmarked.key = record.unmarked.key by rw [new])
  · obtain ⟨current, isCurrent, same⟩ := List.mem_map.mp old
    exact .inr ⟨current, isCurrent, show other.unmarked.key = current.unmarked.key by rw [same]⟩

theorem length_withRecord (records : List BridgeRecord) (record : BridgeRecord) :
    (withRecord records record).length = records.length + 1 := by
  rw [withRecord, SortedInsertion.length_insertItem, marked, List.length_map]

/-- Records are all accepted exactly if the catalog admits them.

Proof: by induction on the records. A record that is refused is missing from the accepted
ones, and one that is accepted adds its key and takes one place. -/
theorem accepted_all_iff (catalog : BridgeCatalog) (records : List BridgeRecord)
    (few : catalog.records.length ≤ bridgeMaxRecords) :
    catalog.accepted records = records ↔ catalog.Admits records := by
  induction records generalizing catalog with
  | nil =>
    refine iff_of_true rfl ⟨?_, List.Pairwise.nil, ?_, few⟩
    · exact fun _ inside => absurd inside List.not_mem_nil
    · exact fun _ inside => absurd inside List.not_mem_nil
  | cons record rest ih =>
    rw [accepted]
    cases isAdded : catalog.add record with
    | error message =>
      have shorter := length_accepted_le catalog rest
      constructor
      · intro same
        dsimp only at same
        rw [same, List.length_cons] at shorter
        omega
      · rintro ⟨valid, -, fresh, room⟩
        rw [List.length_cons] at room
        have isOk := add_ok_iff.mpr ⟨valid record List.mem_cons_self,
          fresh record List.mem_cons_self, by omega, rfl⟩
        rw [isAdded] at isOk
        cases isOk
    | ok added =>
      obtain ⟨valid, fresh, room, rfl⟩ := add_ok_iff.mp isAdded
      have length := length_withRecord catalog.records record
      have later := ih ⟨withRecord catalog.records record⟩
        (by rw [length]; exact room)
      dsimp only
      rw [List.cons.injEq, later]
      constructor
      · rintro ⟨-, ⟨valids, different, freshes, rooms⟩⟩
        have keys (other : BridgeRecord) (inside : other ∈ rest)
            (current : BridgeRecord) (isCurrent : current ∈ record :: catalog.records) :
            current.key ≠ other.key := by
          have isUnmarked := (withRecord_unmarked catalog.records record).mem_iff.mpr
            (List.mem_map_of_mem (f := unmarked) isCurrent)
          obtain ⟨stored, isStored, same⟩ := List.mem_map.mp isUnmarked
          have different := freshes other inside stored isStored
          have isKey : stored.unmarked.key = current.unmarked.key := by rw [same]
          exact fun equal => different (isKey.trans equal)
        constructor
        · exact List.forall_mem_cons.mpr ⟨valid, valids⟩
        · refine List.pairwise_cons.mpr ⟨?_, different⟩
          exact fun other inside => keys other inside record List.mem_cons_self
        · refine List.forall_mem_cons.mpr ⟨fresh, fun other inside current isCurrent => ?_⟩
          exact keys other inside current (List.mem_cons_of_mem _ isCurrent)
        · rw [length] at rooms
          rw [List.length_cons]
          omega
      · rintro ⟨valids, different, freshes, rooms⟩
        obtain ⟨apart, rest⟩ := List.pairwise_cons.mp different
        refine ⟨rfl, fun other inside => valids other (List.mem_cons_of_mem _ inside), rest, ?_, ?_⟩
        · intro other inside current isCurrent
          obtain same | ⟨old, isOld, same⟩ := mem_withRecord_key isCurrent
          · rw [same]
            exact apart other inside
          · rw [same]
            exact freshes other (List.mem_cons_of_mem _ inside) old isOld
        · rw [List.length_cons] at rooms
          rw [length]
          omega

/-- The same accepted records give the same catalog, and a list that is accepted whole is
accepted whole in every order. -/
theorem offerAll_perm (catalogued : BridgeCatalogued catalog.records)
    (first second : List BridgeRecord) :
    ((catalog.accepted first).Perm (catalog.accepted second) →
        catalog.offerAll first = catalog.offerAll second) ∧
      (first.Perm second → catalog.accepted first = first → catalog.accepted second = second) := by
  constructor
  · intro same
    obtain ⟨firstCatalogued, firstPerm⟩ := offerAll_unmarked first catalogued
    obtain ⟨secondCatalogued, secondPerm⟩ := offerAll_unmarked second catalogued
    refine eq_of_perm firstCatalogued secondCatalogued (firstPerm.trans ?_)
    exact ((same.map unmarked).append_right _).trans secondPerm.symm
  · intro same whole
    have admits := (accepted_all_iff catalog first catalogued.few).mp whole
    exact (accepted_all_iff catalog second catalogued.few).mpr (admits.of_perm same)

/-! ## The cached text -/

theorem addAll_of_accepted (whole : catalog.accepted records = records) :
    catalog.addAll records = .ok (catalog.offerAll records) := by
  induction records generalizing catalog with
  | nil => rfl
  | cons record rest ih =>
    rw [accepted] at whole
    rw [addAll, offerAll, List.foldl_cons, offer, ← offerAll]
    cases isAdded : catalog.add record with
    | error message =>
      have shorter := length_accepted_le catalog rest
      rw [isAdded] at whole
      dsimp only at whole
      rw [whole, List.length_cons] at shorter
      omega
    | ok added =>
      rw [isAdded] at whole
      exact ih (List.cons.inj whole).2

theorem addAll_records (catalogued : BridgeCatalogued catalog.records) :
    empty.addAll catalog.records = .ok catalog := by
  have whole : empty.accepted catalog.records = catalog.records := by
    refine (accepted_all_iff _ _ (Nat.zero_le _)).mpr ⟨catalogued.valid,
      List.pairwise_map.mp (KeyedList.nodup_keys catalogued.sorted), ?_, ?_⟩
    · exact fun _ _ _ inside => absurd inside List.not_mem_nil
    · rw [empty, List.length_nil, Nat.zero_add]
      exact catalogued.few
  obtain ⟨after, perm⟩ := offerAll_unmarked catalog.records catalogued_empty
  rw [addAll_of_accepted whole, eq_of_perm after catalogued]
  rw [whole, empty, List.map_nil, List.append_nil] at perm
  exact perm

end BridgeCatalog

end PoisonedOS
