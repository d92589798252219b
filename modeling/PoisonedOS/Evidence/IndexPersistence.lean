import PoisonedOS.Evidence.Index

/-!
# Persistence of the evidence index

What is written comes back: all lengths and texts, in the order of the identifiers. But a
persisted index is the loaded one only where the table has no rows of other identifiers, a
failure leaves the table as it was only where all that was written before was in it already,
and the store takes a record of the index only where SQLite works, the texts have no NUL and
there is room.
-/

namespace PoisonedOS

open SortedInsertion (Sorted)

namespace EvidenceIndex

theorem rebuild_eq {index : EvidenceIndex} {records : List IndexedEvidence}
    (valid : ∀ record ∈ records, record.valid = true) :
    ∃ rebuilt, index.rebuild records = .ok rebuilt ∧
      rebuilt.records = KeyedList.putAll IndexedEvidence.evidenceId records index.records := by
  induction records generalizing index with
  | nil => exact ⟨index, rfl, rfl⟩
  | cons record rest ih =>
    rw [rebuild, upsert, dif_pos (valid record List.mem_cons_self)]
    exact ih fun other inside => valid other (List.mem_cons_of_mem _ inside)

end EvidenceIndex

namespace EvidenceTable

open KeyedList

open EvidenceRow (key record)

/-- The records of a table are sorted. -/
theorem sorted_records (table : EvidenceTable) :
    Sorted (before IndexedEvidence.evidenceId) (table.rows.map record) :=
  List.pairwise_map.mpr table.sorted

/-- A table is loaded as the index of all its rows. -/
theorem loadSqlite_eq (table : EvidenceTable) (index : EvidenceIndex) :
    table.loadSqlite = .ok index ↔ table.rows.map EvidenceRow.record = index.records := by
  have valid : ∀ record ∈ table.rows.map EvidenceRow.record, record.valid = true :=
    List.forall_mem_map.mpr table.valid
  obtain ⟨rebuilt, isRebuilt, records⟩ := @EvidenceIndex.rebuild_eq .empty _ valid
  have same : rebuilt.records = table.rows.map EvidenceRow.record := by
    refine eq_of_mem_iff rebuilt.sorted table.sorted_records fun record => ?_
    rw [records, mem_putAll (nodup_keys table.sorted_records), EvidenceIndex.empty]
    simp
  rw [loadSqlite, loadAll_eq]
  dsimp only
  rw [isRebuilt, Except.ok.injEq, ← same]
  exact ⟨congrArg _, EvidenceIndex.eq_of_records⟩

/-- The rows of records. -/
def rowsOf (records : List IndexedEvidence) : List EvidenceRow := records.filterMap (·.row)

variable {record : IndexedEvidence} {row : EvidenceRow}

theorem key_of_row (isRow : record.row = some row) :
    row.key = record.evidenceId := by
  rw [← record_of_row isRow]
  rfl

theorem keys_rowsOf_sublist (records : List IndexedEvidence) :
    ((rowsOf records).map key).Sublist (records.map IndexedEvidence.evidenceId) := by
  induction records with
  | nil => exact List.Sublist.refl _
  | cons record rest ih =>
    rw [rowsOf, List.filterMap_cons, ← rowsOf, List.map_cons]
    cases isRow : record.row with
    | none => exact ih.cons _
    | some row =>
      dsimp only
      rw [List.map_cons, key_of_row isRow]
      exact ih.cons_cons _

/-- The records that have no row yet. -/
def unwritten (table : EvidenceTable) (records : List IndexedEvidence) : List IndexedEvidence :=
  records.filter fun record => !has EvidenceRow.key record.evidenceId table.rows

/-- The whole list can be written: SQLite works, no text has a NUL, and the rows that are new
fit. -/
structure WritesAll (table : EvidenceTable) (fault : IndexedEvidence → Option String)
    (records : List IndexedEvidence) : Prop where
  works : ∀ record ∈ records, fault record = none
  nulFree : ∀ record ∈ records, record.NulFree
  room : table.rows.length + (table.unwritten records).length ≤ storeMaxRecords

/-- A row of a new record is not among the later ones. -/
theorem has_written {table written : EvidenceTable} {other : IndexedEvidence}
    (isRow : record.row = some row) (rows : written.rows = put key row table.rows)
    (apart : other.evidenceId ≠ record.evidenceId) :
    has key other.evidenceId written.rows =
      has key other.evidenceId table.rows := by
  rw [Bool.eq_iff_iff, has_iff, has_iff, rows, mem_keys_put, key_of_row isRow,
    or_iff_right apart]

theorem unwritten_written {table written : EvidenceTable} (isRow : record.row = some row)
    (rows : written.rows = put key row table.rows) {rest : List IndexedEvidence}
    (apart : ∀ other ∈ rest, other.evidenceId ≠ record.evidenceId) :
    written.unwritten rest = table.unwritten rest := by
  refine List.filter_congr fun other inside => ?_
  rw [has_written isRow rows (apart other inside)]

/-- A write that the store can do. -/
theorem upsert_ok_of {table : EvidenceTable} {fault : Option String} (isValid : record.valid = true)
    (writes : table.Writes fault record) :
    ∃ written, table.upsert fault record = .ok written := by
  obtain ⟨row, isRow⟩ := row_isSome_iff.mpr writes.nulFree
  refine ⟨table.insert row ?_ ?_, (upsert_ok_iff isValid).mpr ⟨writes, row, isRow, rfl⟩⟩
  · rw [record_of_row isRow]
    exact isValid
  · rw [key_of_row isRow]
    exact writes.room

/-- All records are written exactly if all can be, and then their rows are put.

Proof: by induction on the records. The write of the first one takes a place if its row is
new, and does not change which of the others are new. -/
theorem persist_ok_iff {table : EvidenceTable} {fault : IndexedEvidence → Option String}
    {records : List IndexedEvidence}
    (different : (records.map IndexedEvidence.evidenceId).Nodup)
    (valid : ∀ record ∈ records, record.valid = true) :
    ((table.persist fault records).1 = .ok () ↔ table.WritesAll fault records) ∧
      ((table.persist fault records).1 = .ok () → (table.persist fault records).2.rows =
        putAll key (rowsOf records) table.rows) := by
  induction records generalizing table with
  | nil =>
    refine ⟨iff_of_true rfl ⟨?_, ?_, table.few⟩, fun _ => rfl⟩
    · exact fun _ inside => absurd inside List.not_mem_nil
    · exact fun _ inside => absurd inside List.not_mem_nil
  | cons record rest ih =>
    rw [List.map_cons, List.nodup_cons] at different
    obtain ⟨isValid, restValid⟩ := List.forall_mem_cons.mp valid
    have apart : ∀ other ∈ rest, other.evidenceId ≠ record.evidenceId := fun other inside same =>
      different.1 (List.mem_map.mpr ⟨other, inside, same⟩)
    have count : (table.unwritten (record :: rest)).length =
        (if has key record.evidenceId table.rows then 0 else 1) +
          (table.unwritten rest).length := by
      rw [unwritten, List.filter_cons, ← unwritten]
      cases has key record.evidenceId table.rows with
      | true => simp
      | false => simp [Nat.add_comm]
    rw [persist]
    cases isWritten : table.upsert (fault record) record with
    | error message =>
      constructor
      · constructor
        · intro impossible
          cases impossible
        · rintro ⟨works, nulFree, room⟩
          have isRoom : table.Room record.evidenceId := by
            rw [count] at room
            rw [Room]
            cases known : has key record.evidenceId table.rows with
            | true => exact .inr rfl
            | false =>
              rw [known, if_neg Bool.false_ne_true] at room
              exact .inl (by omega)
          obtain ⟨written, isOk⟩ := upsert_ok_of isValid ⟨works record List.mem_cons_self,
            nulFree record List.mem_cons_self, isRoom⟩
          rw [isWritten] at isOk
          cases isOk
      · intro impossible
        cases impossible
    | ok written =>
      obtain ⟨⟨works, nulFree, room⟩, row, isRow, rows⟩ := (upsert_ok_iff isValid).mp isWritten
      have length : written.rows.length + (written.unwritten rest).length =
          table.rows.length + (table.unwritten (record :: rest)).length := by
        rw [unwritten_written isRow rows apart, count, rows, length_put table.sorted,
          key_of_row isRow]
        split <;> omega
      have all : rowsOf (record :: rest) = row :: rowsOf rest := by
        rw [rowsOf, List.filterMap_cons_some isRow, ← rowsOf]
      obtain ⟨later, laterRows⟩ := @ih written different.2 restValid
      dsimp only
      rw [all, putAll, List.foldl_cons, ← rows, ← putAll, later]
      refine ⟨⟨?_, ?_⟩, fun writes => laterRows (later.mpr writes)⟩
      · rintro ⟨restWorks, restFree, restRoom⟩
        exact ⟨List.forall_mem_cons.mpr ⟨works, restWorks⟩,
          List.forall_mem_cons.mpr ⟨nulFree, restFree⟩, length ▸ restRoom⟩
      · rintro ⟨allWork, allFree, allRoom⟩
        exact ⟨(List.forall_mem_cons.mp allWork).2, (List.forall_mem_cons.mp allFree).2,
          length ▸ allRoom⟩

/-- Rows of other identifiers stay. -/
theorem mem_persist {table : EvidenceTable} {fault : IndexedEvidence → Option String}
    {records : List IndexedEvidence} (valid : ∀ record ∈ records, record.valid = true)
    {row : EvidenceRow} (inside : row ∈ table.rows)
    (apart : ∀ record ∈ records, record.evidenceId ≠ row.key) :
    row ∈ (table.persist fault records).2.rows := by
  induction records generalizing table with
  | nil => exact inside
  | cons record rest ih =>
    rw [persist]
    cases isWritten : table.upsert (fault record) record with
    | error message => exact inside
    | ok written =>
      obtain ⟨-, stored, isRow, rows⟩ :=
        (upsert_ok_iff (valid record List.mem_cons_self)).mp isWritten
      refine ih (fun other isOther => valid other (List.mem_cons_of_mem _ isOther))
        ?_ fun other isOther => apart other (List.mem_cons_of_mem _ isOther)
      rw [rows, mem_put, key_of_row isRow]
      exact .inr ⟨inside, (apart record List.mem_cons_self).symm⟩

/-- All that stands before the first record that is refused is in the table already. -/
def StopsUnchanged (table : EvidenceTable) (fault : IndexedEvidence → Option String)
    (records : List IndexedEvidence) : Prop :=
  ∃ done record rest, records = done ++ record :: rest ∧
    (∀ other ∈ done, fault other = none ∧ ∃ row ∈ table.rows, other.row = some row) ∧
    ¬ table.Writes (fault record) record

/-- A failure leaves the table as it was exactly if nothing new was written before it.

Proof: by induction on the records. The row of a record that is written stays to the end, so
it must have been there, and then its write changes nothing. -/
theorem persist_unchanged_iff {table after : EvidenceTable}
    {fault : IndexedEvidence → Option String} {records : List IndexedEvidence} {message : String}
    (different : (records.map IndexedEvidence.evidenceId).Nodup)
    (valid : ∀ record ∈ records, record.valid = true)
    (failed : table.persist fault records = (.error message, after)) :
    after = table ↔ table.StopsUnchanged fault records := by
  induction records generalizing table with
  | nil => cases failed
  | cons record rest ih =>
    rw [List.map_cons, List.nodup_cons] at different
    obtain ⟨isValid, restValid⟩ := List.forall_mem_cons.mp valid
    have apart : ∀ other ∈ rest, other.evidenceId ≠ record.evidenceId := fun other inside same =>
      different.1 (List.mem_map.mpr ⟨other, inside, same⟩)
    rw [persist] at failed
    cases isWritten : table.upsert (fault record) record with
    | error reason =>
      rw [isWritten] at failed
      obtain ⟨-, rfl⟩ := Prod.mk.inj failed
      refine iff_of_true rfl ⟨[], record, rest, rfl, ?_, fun writes => ?_⟩
      · exact fun _ inside => absurd inside List.not_mem_nil
      · obtain ⟨written, isOk⟩ := upsert_ok_of isValid writes
        rw [isWritten] at isOk
        cases isOk
    | ok written =>
      obtain ⟨writes, row, isRow, rows⟩ := (upsert_ok_iff isValid).mp isWritten
      rw [isWritten] at failed
      dsimp only at failed
      have later := ih different.2 restValid failed
      have stays : row ∈ after.rows := by
        have here : row ∈ written.rows := by
          rw [rows, mem_put]
          exact .inl rfl
        have kept := @mem_persist written fault rest restValid row here fun other inside => by
          rw [key_of_row isRow]
          exact apart other inside
        rw [failed] at kept
        exact kept
      have same (inside : row ∈ table.rows) : written = table := by
        refine eq_of_rows ?_
        rw [rows, put_of_mem table.sorted inside]
      constructor
      · rintro rfl
        obtain ⟨done, refusedRecord, others, rfl, before, refused⟩ := by
          rw [same stays] at later
          exact later.mp rfl
        refine ⟨record :: done, refusedRecord, others, rfl, ?_, refused⟩
        exact List.forall_mem_cons.mpr ⟨⟨writes.works, row, stays, isRow⟩, before⟩
      · rintro ⟨done, refusedRecord, others, parts, before, refused⟩
        cases done with
        | nil =>
          obtain ⟨rfl, -⟩ := List.cons.inj parts
          exact absurd writes refused
        | cons first done =>
          obtain ⟨rfl, rfl⟩ := List.cons.inj parts
          obtain ⟨⟨-, old, isOld, isItsRow⟩, beforeRest⟩ := List.forall_mem_cons.mp before
          obtain rfl := Option.some.inj (isRow.symm.trans isItsRow)
          have isSame := same isOld
          rw [isSame] at later
          exact later.mpr ⟨done, refusedRecord, others, rfl, beforeRest, refused⟩

end EvidenceTable

/-- What the store promises of an index that is persisted to a table, where calls of SQLite may
fail, and of a record that is written. -/
structure StoreKept (index : EvidenceIndex) (table : EvidenceTable)
    (fault : IndexedEvidence → Option String) (record : IndexedEvidence)
    (recordFault : Option String) : Prop where
  loaded : ∀ after, table.persist fault index.records = (.ok (), after) →
    after.loadSqlite = .ok index
  unchanged : ∀ message after, table.persist fault index.records = (.error message, after) →
    after = table
  accepted : (∃ written, table.upsert recordFault record = .ok written) ↔
    ∃ updated, index.upsert record = .ok updated

namespace EvidenceTable

open KeyedList

variable {table : EvidenceTable} {fault : IndexedEvidence → Option String}

/-- Proof: the rows after the writes are those of the index and the old ones with other
identifiers. -/
theorem loaded_iff {index : EvidenceIndex} :
    (∀ after, table.persist fault index.records = (.ok (), after) →
        after.loadSqlite = .ok index) ↔
      (table.WritesAll fault index.records →
        ∀ row ∈ table.rows, ∃ record ∈ index.records, record.evidenceId = row.key) := by
  have different := nodup_keys index.sorted
  have rowsDifferent := different.sublist (keys_rowsOf_sublist index.records)
  have written := @persist_ok_iff table fault _ different index.valid
  constructor
  · intro loaded writes row inside
    by_contra missing
    have apart : ∀ record ∈ index.records, record.evidenceId ≠ row.key :=
      fun record isRecord same => missing ⟨record, isRecord, same⟩
    have isOk := written.1.mpr writes
    have stays := @mem_persist table fault _ index.valid row inside apart
    rw [(loadSqlite_eq _ _).mp (loaded _ (Prod.ext isOk rfl)) |>.symm] at apart
    exact apart row.record (List.mem_map_of_mem stays) rfl
  · intro covered after persisted
    rw [persisted] at written
    have writes := written.1.mp rfl
    have rows : after.rows = _ := written.2 rfl
    rw [loadSqlite_eq]
    refine eq_of_mem_iff after.sorted_records index.sorted fun record => ?_
    simp only [List.mem_map, rows, mem_putAll rowsDifferent]
    constructor
    · rintro ⟨row, isRow | ⟨old, apart⟩, rfl⟩
      · obtain ⟨record, isRecord, itsRow⟩ := List.mem_filterMap.mp isRow
        rw [record_of_row itsRow]
        exact isRecord
      · obtain ⟨record, isRecord, same⟩ := covered writes row old
        obtain ⟨own, itsRow⟩ := row_isSome_iff.mpr (writes.nulFree record isRecord)
        refine absurd ⟨own, List.mem_filterMap.mpr ⟨record, isRecord, itsRow⟩, ?_⟩ apart
        rw [key_of_row itsRow, same]
    · intro isRecord
      obtain ⟨row, itsRow⟩ := row_isSome_iff.mpr (writes.nulFree record isRecord)
      exact ⟨row, .inl (List.mem_filterMap.mpr ⟨record, isRecord, itsRow⟩), record_of_row itsRow⟩

theorem unchanged_iff {index : EvidenceIndex} :
    (∀ message after, table.persist fault index.records = (.error message, after) →
        after = table) ↔
      table.WritesAll fault index.records ∨ table.StopsUnchanged fault index.records := by
  have different := nodup_keys index.sorted
  have written := (@persist_ok_iff table fault _ different index.valid).1
  cases persisted : table.persist fault index.records with
  | mk result after =>
    rw [persisted] at written
    cases result with
    | ok _ =>
      refine iff_of_true (fun message other failed => ?_) (.inl (written.mp rfl))
      cases failed
    | error message =>
      have notAll : ¬ table.WritesAll fault index.records := fun writes => by
        cases written.mpr writes
      rw [or_iff_right notAll, ← persist_unchanged_iff different index.valid persisted]
      constructor
      · intro unchanged
        exact unchanged message after rfl
      · intro same reason other failed
        rw [← (Prod.mk.inj failed).2, same]

theorem accepted_iff {index : EvidenceIndex} {table : EvidenceTable} {record : IndexedEvidence}
    {fault : Option String} :
    ((∃ written, table.upsert fault record = .ok written) ↔
        ∃ updated, index.upsert record = .ok updated) ↔
      (record.valid = true → table.Writes fault record) := by
  rw [EvidenceIndex.upsert]
  by_cases isValid : record.valid = true
  · rw [dif_pos isValid]
    constructor
    · intro same _
      obtain ⟨written, isWritten⟩ := same.mpr ⟨_, rfl⟩
      exact ((upsert_ok_iff isValid).mp isWritten).1
    · intro writes
      exact iff_of_true (upsert_ok_of isValid (writes isValid)) ⟨_, rfl⟩
  · rw [dif_neg isValid, upsert, dif_neg isValid]
    refine iff_of_true (iff_of_false ?_ ?_) fun valid => absurd valid isValid
    · rintro ⟨written, impossible⟩
      cases impossible
    · rintro ⟨updated, impossible⟩
      cases impossible

end EvidenceTable

/-- The store keeps its promises exactly where an index that is written in full covers the rows
of the table, a failure comes before anything new, and a valid record can be written. -/
theorem evidence_store_iff (index : EvidenceIndex) (table : EvidenceTable)
    (fault : IndexedEvidence → Option String) (record : IndexedEvidence)
    (recordFault : Option String) :
    StoreKept index table fault record recordFault ↔
      (table.WritesAll fault index.records →
        ∀ row ∈ table.rows, ∃ record ∈ index.records, record.evidenceId = row.key) ∧
      (table.WritesAll fault index.records ∨ table.StopsUnchanged fault index.records) ∧
      (record.valid = true → table.Writes recordFault record) := by
  rw [← EvidenceTable.loaded_iff, ← EvidenceTable.unchanged_iff,
    ← @EvidenceTable.accepted_iff index]
  constructor
  · rintro ⟨loaded, unchanged, accepted⟩
    exact ⟨loaded, unchanged, accepted⟩
  · rintro ⟨loaded, unchanged, accepted⟩
    exact ⟨loaded, unchanged, accepted⟩

/-- The row of a removed record is loaded again, and a record with a NUL is indexed but not
stored. -/
theorem removed_record_loaded :
    (∃ written, EvidenceTable.empty.upsert none
        ⟨[101], [99], List.replicate 64 97, 3, [], [47]⟩ = .ok written ∧
      ¬ StoreKept .empty written (fun _ => none)
        ⟨[101], [99], List.replicate 64 97, 3, [], [47]⟩ none) ∧
      ¬ StoreKept .empty .empty (fun _ => none)
        ⟨[101], [0], List.replicate 64 97, 3, [], [47]⟩ none := by
  constructor
  · refine ⟨_, rfl, fun kept => ?_⟩
    have loaded := kept.loaded _ rfl
    rw [EvidenceTable.loadSqlite_eq] at loaded
    cases loaded
  · intro kept
    obtain ⟨written, impossible⟩ := kept.accepted.mpr ⟨_, rfl⟩
    cases impossible

end PoisonedOS
