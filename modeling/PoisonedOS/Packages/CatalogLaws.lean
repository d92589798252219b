import PoisonedOS.Packages.Catalog

/-!
# Laws of the package catalog

The catalog is always sorted, with no two records of one release at one place, and its
conflict marks are exact: nothing unmarks a record and nothing removes one. It is therefore
determined by the records that were accepted, in whatever order they came.
-/

namespace PoisonedOS

open SortedInsertion (Sorted)

section Order

theorem recordCompare_eq : recordCompare =
    compareLex (fun left right => textCompare left.id right.id)
      (compareLex (fun left right => textCompare left.version right.version)
        (compareLex (compareOn fun record => record.source.rank)
          fun left right => textCompare left.sourcePath right.sourcePath)) := rfl

instance : Std.TransCmp recordCompare := by
  have text (field : CatalogRecord → CString) :
      Std.TransCmp fun left right => textCompare (field left) (field right) :=
    inferInstanceAs (Std.TransCmp (compareOn fun record => (field record).bytes))
  have id := text CatalogRecord.id
  have version := text CatalogRecord.version
  have sourcePath := text CatalogRecord.sourcePath
  rw [recordCompare_eq]
  infer_instance

theorem textCompare_eq_iff {left right : CString} :
    textCompare left right = .eq ↔ left = right := by
  rw [textCompare, Std.LawfulEqCmp.compare_eq_iff_eq]
  exact ⟨CString.ext, congrArg CString.bytes⟩

theorem rank_injective {left right : CatalogSource} (same : left.rank = right.rank) :
    left = right := by
  cases left <;> cases right <;> first | rfl | cases same

/-- The order does not tell two records apart exactly where they are of one release at one
place. -/
theorem recordCompare_eq_iff {left right : CatalogRecord} :
    recordCompare left right = .eq ↔ left.sameEntry right = true := by
  have ranks : compare left.source.rank right.source.rank = .eq ↔ left.source = right.source := by
    rw [Nat.compare_eq_eq]
    exact ⟨rank_injective, congrArg _⟩
  rw [recordCompare, Ordering.then_eq_eq, Ordering.then_eq_eq, Ordering.then_eq_eq,
    textCompare_eq_iff, textCompare_eq_iff, textCompare_eq_iff, ranks, CatalogRecord.sameEntry]
  simp only [Bool.and_eq_true, beq_iff_eq, and_assoc]

theorem recordBefore_iff {left right : CatalogRecord} :
    recordBefore left right = true ↔ recordCompare left right = .lt := beq_iff_eq

theorem recordBefore_chained : SortedInsertion.Chained recordBefore := by
  intro first second third early late
  rw [recordBefore_iff] at early late ⊢
  exact Std.TransCmp.lt_trans early late

theorem recordBefore_irreflexive (record : CatalogRecord) : recordBefore record record = false := by
  have same : recordCompare record record = .eq := Std.ReflCmp.compare_self
  rw [recordBefore, same]
  rfl

/-- A record of another entry is before or after. -/
theorem recordBefore_or {left right : CatalogRecord} (other : right.sameEntry left = false) :
    recordBefore left right = true ∨ recordBefore right left = true := by
  rw [recordBefore_iff, recordBefore_iff]
  cases order : recordCompare left right with
  | lt => exact .inl rfl
  | gt => exact .inr (Std.OrientedCmp.lt_of_gt order)
  | eq =>
    rw [recordCompare_eq_iff.mp (Std.OrientedCmp.eq_symm order)] at other
    cases other

/-- A change that leaves release and place keeps a list sorted. -/
theorem sorted_map_records {records : List CatalogRecord} (change : CatalogRecord → CatalogRecord)
    (kept : ∀ left right, recordCompare (change left) (change right) = recordCompare left right)
    (sorted : Sorted recordBefore records) : Sorted recordBefore (records.map change) := by
  refine List.pairwise_map.mpr (sorted.imp fun {left right} early => ?_)
  rw [recordBefore, kept]
  exact early

end Order

namespace CatalogRecord

/-- Marking conflicts is lawful. -/
theorem flag_lawful : PairMarks.Lawful conflicts flag where
  symmetric first second := by
    rw [conflicts, conflicts, Bool.beq_comm, Bool.beq_comm (a := first.version), bne_comm]
  irreflexive record := by
    rw [conflicts, bne_self_eq_false, Bool.and_false]
  marked _ _ := rfl
  once _ := rfl

/-- The record without its conflict mark. -/
def bare (record : CatalogRecord) : CatalogRecord := { record with conflicted := false }

theorem conflicts_iff {record other : CatalogRecord} : record.conflicts other = true ↔
    other.id = record.id ∧ other.version = record.version ∧ other.digest ≠ record.digest := by
  simp only [conflicts, Bool.and_eq_true, beq_iff_eq, bne_iff_ne, ne_eq, and_assoc]
  rw [eq_comm, eq_comm (a := record.version), eq_comm (a := record.digest)]

end CatalogRecord

/-- What holds of the records of a reached catalog. -/
structure Catalogued (records : List CatalogRecord) : Prop where
  sorted : Sorted recordBefore records
  marked : ∀ record ∈ records, record.conflicted = records.any record.conflicts

namespace PackageCatalog

open CatalogRecord

/-- The added record is put in its place, and each record is marked that conflicts with
one. -/
theorem recordsWith_eq (records : List CatalogRecord) (record : CatalogRecord) :
    let placed := SortedInsertion.insertItem recordBefore record records
    recordsWith records record =
      placed.map fun item => PairMarks.markIf flag (placed.any item.conflicts) item :=
  flag_lawful.markPairs_eq _

theorem markIf_bare (condition : Bool) (record : CatalogRecord) :
    (PairMarks.markIf flag condition record).bare = record.bare := by
  cases condition <;> rfl

theorem markIf_conflicted (condition : Bool) (record : CatalogRecord) :
    (PairMarks.markIf flag condition record).conflicted = (condition || record.conflicted) := by
  cases condition <;> rfl

theorem any_conflicts_map (change : CatalogRecord → CatalogRecord)
    (kept : ∀ record other : CatalogRecord,
      record.conflicts (change other) = record.conflicts other)
    (records : List CatalogRecord) (record : CatalogRecord) :
    (records.map change).any record.conflicts = records.any record.conflicts := by
  rw [List.any_map]
  exact congrArg (records.any ·) (funext fun other => kept record other)

variable {record : CatalogRecord}

/-- An added record of a new entry, without a mark, keeps the catalog sorted and exactly
marked. A mark that stands was right before, and one that is missing is set. -/
theorem catalogued_recordsWith {records : List CatalogRecord} (catalogued : Catalogued records)
    (unmarked : record.conflicted = false)
    (fresh : ∀ other ∈ records, other.sameEntry record = false) :
    Catalogued (recordsWith records record) := by
  have placed := SortedInsertion.insertItem_sorted recordBefore_chained catalogued.sorted
    fun other inside => recordBefore_or (fresh other inside)
  have perm := SortedInsertion.insertItem_perm recordBefore record records
  rw [recordsWith_eq]
  generalize SortedInsertion.insertItem recordBefore record records = items at placed perm ⊢
  constructor
  · refine List.pairwise_map.mpr (placed.imp fun {left right} early => ?_)
    cases items.any left.conflicts <;> cases items.any right.conflicts <;> exact early
  · intro changed inside
    obtain ⟨item, isItem, rfl⟩ := List.mem_map.mp inside
    have right (first other : CatalogRecord) : first.conflicts
        (PairMarks.markIf flag (items.any other.conflicts) other) = first.conflicts other :=
      flag_lawful.markIf_right _ _ _
    have left : (PairMarks.markIf flag (items.any item.conflicts) item).conflicts =
        item.conflicts := funext fun other => flag_lawful.markIf_left _ _ _
    rw [any_conflicts_map _ right, left, markIf_conflicted, Bool.or_eq_left_iff_imp]
    intro marked
    obtain rfl | old := List.mem_cons.mp (perm.mem_iff.mp isItem)
    · rw [unmarked] at marked
      cases marked
    · rw [catalogued.marked item old, List.any_eq_true] at marked
      obtain ⟨other, isOther, conflict⟩ := marked
      exact List.any_eq_true.mpr
        ⟨other, perm.mem_iff.mpr (List.mem_cons_of_mem _ isOther), conflict⟩

/-- A record is added exactly where there is room, its fields pass their checks and it is of
a new entry. -/
theorem add_cases (catalog : PackageCatalog) (record : CatalogRecord) :
    catalog.add record = (false, catalog) ∨
      (catalog.records.length < catalogMaxRecords ∧ record.admissible = true ∧
        (∀ other ∈ catalog.records, other.sameEntry record = false) ∧
        ∃ after, catalog.add record = (true, after) ∧
          after.records = recordsWith catalog.records record) := by
  rw [add]
  split
  · rename_i room
    split
    · exact .inl rfl
    · rename_i passes
      rw [Bool.or_eq_true, not_or, Bool.not_eq_true', Bool.not_eq_false, Bool.not_eq_true,
        List.any_eq_false] at passes
      exact .inr ⟨room, passes.1,
        fun other inside => Bool.not_eq_true _ ▸ passes.2 other inside, _, rfl, rfl⟩
  · exact .inl rfl

variable {catalog : PackageCatalog}

/-- A record that can be added is. -/
theorem add_ok (room : catalog.records.length < catalogMaxRecords)
    (passes : record.admissible = true)
    (fresh : ∀ other ∈ catalog.records, other.sameEntry record = false) :
    ∃ after, catalog.add record = (true, after) ∧
      after.records = recordsWith catalog.records record := by
  have none : catalog.records.any (·.sameEntry record) = false :=
    List.any_eq_false.mpr fun other inside => by rw [fresh other inside]; exact Bool.false_ne_true
  rw [add, dif_pos room, passes, none]
  exact ⟨_, rfl, rfl⟩

/-- Marking a source as missing changes freshness and state alone. -/
theorem catalogued_markSourceMissing (catalogued : Catalogued catalog.records)
    (source : CatalogSource) (sourcePath : CString) :
    Catalogued (catalog.markSourceMissing source sourcePath).2.records := by
  have left (record : CatalogRecord) : (if record.isFrom source sourcePath = true then
      record.markMissing else record).conflicts = record.conflicts := by
    split <;> rfl
  have right (record other : CatalogRecord) : record.conflicts
      (if other.isFrom source sourcePath = true then other.markMissing else other) =
        record.conflicts other := by
    split <;> rfl
  constructor
  · refine sorted_map_records _ (fun first second => ?_) catalogued.sorted
    split <;> split <;> rfl
  · intro changed inside
    obtain ⟨record, isRecord, rfl⟩ := List.mem_map.mp inside
    change _ = (List.map _ _).any _
    rw [any_conflicts_map _ right, left, ← catalogued.marked record isRecord]
    split <;> rfl

end PackageCatalog

/-- An operation on a catalog. -/
inductive CatalogOperation where
  | add (record : CatalogRecord)
  | markSourceMissing (source : CatalogSource) (sourcePath : CString)

namespace CatalogOperation

/-- The catalog after an operation. -/
def apply (catalog : PackageCatalog) : CatalogOperation → PackageCatalog
  | .add record => (catalog.add record).2
  | .markSourceMissing source sourcePath => (catalog.markSourceMissing source sourcePath).2

/-- The catalog after operations on the empty one. -/
def run (operations : List CatalogOperation) : PackageCatalog := operations.foldl apply .init

def Unmarked : CatalogOperation → Prop
  | .add record => record.conflicted = false
  | .markSourceMissing _ _ => True

theorem catalogued_apply {catalog : PackageCatalog} (catalogued : Catalogued catalog.records)
    {operation : CatalogOperation} (unmarked : operation.Unmarked) :
    Catalogued (operation.apply catalog).records := by
  cases operation with
  | add record =>
    obtain refused | ⟨-, -, fresh, after, added, records⟩ := catalog.add_cases record
    · rw [apply, refused]
      exact catalogued
    · rw [apply, added, records]
      exact PackageCatalog.catalogued_recordsWith catalogued unmarked fresh
  | markSourceMissing source sourcePath =>
    exact PackageCatalog.catalogued_markSourceMissing catalogued source sourcePath

/-- Every reached catalog is sorted and exactly marked. -/
theorem catalogued_run {operations : List CatalogOperation}
    (unmarked : ∀ operation ∈ operations, operation.Unmarked) :
    Catalogued (run operations).records := by
  suffices onwards : ∀ (operations : List CatalogOperation) (catalog : PackageCatalog),
      (∀ operation ∈ operations, operation.Unmarked) → Catalogued catalog.records →
        Catalogued (operations.foldl apply catalog).records from
    onwards operations .init unmarked
      ⟨List.Pairwise.nil, fun record inside => absurd inside List.not_mem_nil⟩
  intro operations
  induction operations with
  | nil => exact fun catalog _ catalogued => catalogued
  | cons operation rest ih =>
    intro catalog unmarked catalogued
    exact ih _
      (fun other inside => unmarked other (List.mem_cons_of_mem _ inside))
      (catalogued_apply catalogued (unmarked operation List.mem_cons_self))

end CatalogOperation

section Orders

open CatalogRecord PackageCatalog

variable {records : List CatalogRecord}

/-- The records without their marks determine an exactly marked catalog. -/
theorem Catalogued.eq_marked (catalogued : Catalogued records) :
    records = (records.map bare).map fun record =>
      PairMarks.markIf flag ((records.map bare).any record.conflicts) record := by
  have any (record : CatalogRecord) : (records.map bare).any record.bare.conflicts =
      records.any record.conflicts := any_conflicts_map bare (fun _ _ => rfl) records record
  rw [List.map_map]
  refine (List.map_id _).symm.trans (List.map_congr_left fun record inside => ?_)
  rw [Function.comp_apply, any, ← catalogued.marked record inside]
  cases marked : record.conflicted with
  | true =>
    change record = { record with conflicted := true }
    rw [← marked]
  | false =>
    change record = { record with conflicted := false }
    rw [← marked]

/-- Two exactly marked catalogs of the same records are the same list. -/
theorem Catalogued.eq_of_perm {first second : List CatalogRecord}
    (firstCatalogued : Catalogued first) (secondCatalogued : Catalogued second)
    (same : (first.map bare).Perm (second.map bare)) : first = second := by
  have bareEqual := Sorted.eq_of_perm recordBefore_chained recordBefore_irreflexive
    (sorted_map_records bare (fun _ _ => rfl) firstCatalogued.sorted)
    (sorted_map_records bare (fun _ _ => rfl) secondCatalogued.sorted) same
  rw [firstCatalogued.eq_marked, secondCatalogued.eq_marked, bareEqual]

/-- Without the marks, an addition adds the record. -/
theorem bare_recordsWith (records : List CatalogRecord) {record : CatalogRecord}
    (unmarked : record.conflicted = false) :
    ((recordsWith records record).map bare).Perm (record :: records.map bare) := by
  have isBare : record.bare = record := by rw [bare, ← unmarked]
  have marks : (recordsWith records record).map bare =
      (SortedInsertion.insertItem recordBefore record records).map bare := by
    rw [recordsWith_eq, List.map_map]
    exact List.map_congr_left fun item _ => markIf_bare _ item
  rw [marks, ← isBare, ← List.map_cons, isBare]
  exact (SortedInsertion.insertItem_perm recordBefore record records).map bare

/-- Different entries without marks, no more than fit, in the order in which they are
added. -/
structure Addable (records : List CatalogRecord) : Prop where
  fits : records.length ≤ catalogMaxRecords
  different : records.Pairwise fun first second => first.sameEntry second = false
  unmarked : ∀ record ∈ records, record.conflicted = false

theorem Addable.of_perm {first second : List CatalogRecord} (addable : Addable first)
    (same : first.Perm second) : Addable second where
  fits := same.length_eq ▸ addable.fits
  different := addable.different.perm same fun {left right} other => by
    rw [sameEntry, Bool.beq_comm, Bool.beq_comm (a := right.version),
      Bool.beq_comm (a := right.source), Bool.beq_comm (a := right.sourcePath)]
    exact other
  unmarked := fun record inside => addable.unmarked record (same.mem_iff.mpr inside)

/-- The records that are in the catalog after additions are those that pass their checks.

Proof: by induction on the additions that are left. What is in the catalog comes from those
before, so a record is never of an old entry, and there is room for all. -/
theorem bare_run (addable : Addable records) :
    ((CatalogOperation.run (records.map .add)).records.map bare).Perm
      (records.filter admissible) := by
  suffices onwards : ∀ (rest done : List CatalogRecord) (catalog : PackageCatalog),
      Addable (done ++ rest) → (catalog.records.map bare).Perm (done.filter admissible) →
        (((rest.map CatalogOperation.add).foldl CatalogOperation.apply catalog).records.map
          bare).Perm ((done ++ rest).filter admissible) from
    onwards records [] .init addable (List.Perm.refl _)
  intro rest
  induction rest with
  | nil =>
    intro done catalog _ added
    rw [List.append_nil]
    exact added
  | cons record rest ih =>
    intro done catalog addable added
    have whole : done ++ record :: rest = (done ++ [record]) ++ rest := by simp
    have next (after : PackageCatalog)
        (afterAdded : (after.records.map bare).Perm ((done ++ [record]).filter admissible)) :=
      ih (done ++ [record]) after (whole ▸ addable) afterAdded
    have isBefore (other : CatalogRecord) (inside : other ∈ catalog.records) :
        other.bare ∈ done :=
      (List.mem_filter.mp (added.mem_iff.mp (List.mem_map_of_mem inside))).1
    have fresh (other : CatalogRecord) (inside : other ∈ catalog.records) :
        other.sameEntry record = false :=
      (List.pairwise_append.mp addable.different).2.2 _ (isBefore other inside) record
        List.mem_cons_self
    have room : catalog.records.length < catalogMaxRecords := by
      have fits := addable.fits
      have count := added.length_eq
      have fewer := List.length_filter_le admissible done
      rw [List.length_map] at count
      rw [List.length_append, List.length_cons] at fits
      omega
    rw [whole, List.map_cons, List.foldl_cons]
    refine next _ ?_
    cases passes : record.admissible with
    | true =>
      obtain ⟨after, isAfter, records⟩ := add_ok room passes fresh
      have unmarked := addable.unmarked record
        (List.mem_append_right _ List.mem_cons_self)
      rw [CatalogOperation.apply, isAfter, records, List.filter_append]
      have alone : [record].filter admissible = [record] := by simp [passes]
      rw [alone]
      exact ((bare_recordsWith _ unmarked).trans (added.cons record)).trans
        (List.perm_append_singleton _ _).symm
    | false =>
      obtain refused | ⟨-, passed, -⟩ := catalog.add_cases record
      · have alone : [record].filter admissible = [] := by simp [passes]
        rw [CatalogOperation.apply, refused, List.filter_append, alone, List.append_nil]
        exact added
      · rw [passed] at passes
        cases passes

/-- In whatever order records are added, the catalog is the same. -/
theorem run_perm {first second : List CatalogRecord} (same : first.Perm second)
    (addable : Addable first) :
    (CatalogOperation.run (first.map .add)).records =
      (CatalogOperation.run (second.map .add)).records := by
  have unmarked {records : List CatalogRecord} (addable : Addable records) :
      ∀ operation ∈ records.map CatalogOperation.add, operation.Unmarked := by
    intro operation inside
    obtain ⟨record, isRecord, rfl⟩ := List.mem_map.mp inside
    exact addable.unmarked record isRecord
  have other := addable.of_perm same
  refine (CatalogOperation.catalogued_run (unmarked addable)).eq_of_perm
    (CatalogOperation.catalogued_run (unmarked other)) ?_
  exact ((bare_run addable).trans (same.filter _)).trans (bare_run other).symm

end Orders

end PoisonedOS
