import PoisonedOS.Library.KeyedList
import PoisonedOS.Library.Text

/-!
# The evidence index of the bridge and its store

The index maps evidence identifiers to records. It is persisted by writing its records into a
table of the same key, one statement after the other, and loaded by reading all rows in the
order of their key.

A write replaces the row with the record's identifier. Rows of other identifiers stay, and a
write that fails leaves what was written before it.
-/

namespace PoisonedOS

open SortedInsertion (Sorted)

/-- `MAX_RECORDS` of the store. -/
def storeMaxRecords : Nat := 10000

/-- `IndexedEvidence`, whose texts are the bytes of their UTF-8 form. -/
structure IndexedEvidence where
  evidenceId : List UInt8
  caseId : List UInt8
  contentSha256 : List UInt8
  contentLength : UInt64
  mediaType : List UInt8
  sourcePath : List UInt8
deriving DecidableEq

/-- A row of the table. -/
structure EvidenceRow where
  evidenceId : CString
  caseId : CString
  contentSha256 : CString
  contentLength : Int64
  mediaType : CString
  sourcePath : CString
deriving DecidableEq

/-- `is_digest`. -/
def isEvidenceDigest (value : List UInt8) : Bool := value.length == 64 && value.all isLowerHex

namespace IndexedEvidence

def valid (record : IndexedEvidence) : Bool :=
  !record.evidenceId.isEmpty && isEvidenceDigest record.contentSha256 &&
    record.sourcePath.head? == some 47

/-- The texts that are bound to the statement, each through `CString::new`. -/
def texts (record : IndexedEvidence) : List (List UInt8) :=
  [record.evidenceId, record.caseId, record.contentSha256, record.mediaType, record.sourcePath]

/-- No text has a NUL. -/
def NulFree (record : IndexedEvidence) : Prop := ∀ text ∈ record.texts, (0 : UInt8) ∉ text

instance (record : IndexedEvidence) : Decidable record.NulFree :=
  inferInstanceAs (Decidable (∀ text ∈ record.texts, (0 : UInt8) ∉ text))

/-- The values that are bound to the statement. -/
def row (record : IndexedEvidence) : Option EvidenceRow :=
  if free : record.NulFree then
    some {
      evidenceId := ⟨record.evidenceId, free _ (by simp [texts])⟩
      caseId := ⟨record.caseId, free _ (by simp [texts])⟩
      contentSha256 := ⟨record.contentSha256, free _ (by simp [texts])⟩
      contentLength := record.contentLength.toInt64
      mediaType := ⟨record.mediaType, free _ (by simp [texts])⟩
      sourcePath := ⟨record.sourcePath, free _ (by simp [texts])⟩ }
  else none

end IndexedEvidence

/-- The record that is read from a row. -/
def EvidenceRow.record (row : EvidenceRow) : IndexedEvidence where
  evidenceId := row.evidenceId.bytes
  caseId := row.caseId.bytes
  contentSha256 := row.contentSha256.bytes
  contentLength := row.contentLength.toUInt64
  mediaType := row.mediaType.bytes
  sourcePath := row.sourcePath.bytes

/-- The primary key of a row. -/
def EvidenceRow.key (row : EvidenceRow) : List UInt8 := row.evidenceId.bytes

/-- `EvidenceIndex`. -/
structure EvidenceIndex where
  records : List IndexedEvidence
  sorted : Sorted (KeyedList.before IndexedEvidence.evidenceId) records
  valid : ∀ record ∈ records, record.valid = true

/-- The table of `SqliteEvidenceStore`, its rows in the order of their primary key. -/
structure EvidenceTable where
  rows : List EvidenceRow
  sorted : Sorted (KeyedList.before EvidenceRow.key) rows
  valid : ∀ row ∈ rows, row.record.valid = true
  few : rows.length ≤ storeMaxRecords

namespace EvidenceIndex

/-- `EvidenceIndex::default`. -/
def empty : EvidenceIndex where
  records := []
  sorted := List.Pairwise.nil
  valid := fun _ inside => absurd inside List.not_mem_nil

/-- `EvidenceIndex::upsert`. -/
def upsert (index : EvidenceIndex) (record : IndexedEvidence) : Except String EvidenceIndex :=
  if isValid : record.valid = true then
    .ok {
      records := KeyedList.put IndexedEvidence.evidenceId record index.records
      sorted := KeyedList.sorted_put index.sorted record
      valid := by
        intro other inside
        obtain rfl | ⟨old, -⟩ := KeyedList.mem_put.mp inside
        · exact isValid
        · exact index.valid other old }
  else .error "invalid evidence record"

/-- The loop of `EvidenceIndex::rebuild`. -/
def rebuild (index : EvidenceIndex) : List IndexedEvidence → Except String EvidenceIndex
  | [] => .ok index
  | record :: rest =>
    match index.upsert record with
    | .error message => .error message
    | .ok added => added.rebuild rest

end EvidenceIndex

theorem EvidenceIndex.eq_of_records {first second : EvidenceIndex}
    (same : first.records = second.records) : first = second := by
  cases first
  cases second
  cases same
  rfl

theorem EvidenceTable.eq_of_rows {first second : EvidenceTable} (same : first.rows = second.rows) :
    first = second := by
  cases first
  cases second
  cases same
  rfl

/-! ## Rows -/

/-- A row holds all of its record. -/
theorem record_of_row {record : IndexedEvidence} {row : EvidenceRow}
    (isRow : record.row = some row) : row.record = record := by
  rw [IndexedEvidence.row] at isRow
  split at isRow
  · obtain rfl := Option.some.inj isRow
    rw [EvidenceRow.record, UInt64.toUInt64_toInt64]
  · cases isRow

theorem row_isSome_iff {record : IndexedEvidence} :
    (∃ row, record.row = some row) ↔ record.NulFree := by
  rw [IndexedEvidence.row]
  split
  · rename_i free
    exact iff_of_true ⟨_, rfl⟩ free
  · rename_i notFree
    refine iff_of_false ?_ notFree
    rintro ⟨row, impossible⟩
    cases impossible

namespace EvidenceTable

/-- The table that `SqliteEvidenceStore::open` creates. -/
def empty : EvidenceTable where
  rows := []
  sorted := List.Pairwise.nil
  valid := fun _ inside => absurd inside List.not_mem_nil
  few := Nat.zero_le _

/-- `SqliteEvidenceStore::load_all`. -/
def loadAll (table : EvidenceTable) : Except String (List IndexedEvidence) :=
  if table.rows.length > storeMaxRecords then .error "evidence index capacity exceeded"
  else .ok (table.rows.map EvidenceRow.record)

/-- `INSERT` with `ON CONFLICT(evidence_id) DO UPDATE`. -/
def insert (table : EvidenceTable) (row : EvidenceRow) (isValid : row.record.valid = true)
    (room : table.rows.length < storeMaxRecords ∨
      KeyedList.has EvidenceRow.key row.key table.rows = true) : EvidenceTable where
  rows := KeyedList.put EvidenceRow.key row table.rows
  sorted := KeyedList.sorted_put table.sorted row
  valid := by
    intro other inside
    obtain rfl | ⟨old, -⟩ := KeyedList.mem_put.mp inside
    · exact isValid
    · exact table.valid other old
  few := by
    have few := table.few
    rw [KeyedList.length_put table.sorted]
    split
    · exact few
    · rename_i unknown
      exact room.resolve_right unknown

/-- `SqliteEvidenceStore::get` in what was loaded. -/
def get (records : List IndexedEvidence) (evidenceId : List UInt8) : Option IndexedEvidence :=
  records.find? fun record => record.evidenceId == evidenceId

theorem get_eq_none_iff (table : EvidenceTable) (evidenceId : List UInt8) :
    get (table.rows.map EvidenceRow.record) evidenceId = none ↔
      KeyedList.has EvidenceRow.key evidenceId table.rows = false := by
  rw [get, List.find?_eq_none, KeyedList.has, List.any_eq_false, List.forall_mem_map]
  simp only [beq_iff_eq]
  rfl

theorem loadAll_eq (table : EvidenceTable) :
    table.loadAll = .ok (table.rows.map EvidenceRow.record) := by
  rw [loadAll, if_neg (Nat.not_lt.mpr table.few)]

/-- There is room for a record: another row, or one of its own. -/
def Room (table : EvidenceTable) (evidenceId : List UInt8) : Prop :=
  table.rows.length < storeMaxRecords ∨
    KeyedList.has EvidenceRow.key evidenceId table.rows = true

theorem room_iff {table : EvidenceTable} {records : List IndexedEvidence}
    (isLoaded : table.loadAll = .ok records) (evidenceId : List UInt8) :
    table.Room evidenceId ↔
      ¬ (records.length ≥ storeMaxRecords ∧ get records evidenceId = none) := by
  rw [loadAll_eq, Except.ok.injEq] at isLoaded
  rw [← isLoaded, get_eq_none_iff, List.length_map, Room, not_and_or, Bool.not_eq_false]
  exact or_congr (Nat.not_le.symm) Iff.rfl

/-- `SqliteEvidenceStore::upsert`, where a call of SQLite may fail with a message. -/
def upsert (table : EvidenceTable) (fault : Option String) (record : IndexedEvidence) :
    Except String EvidenceTable :=
  if isValid : record.valid = true then
    match fault with
    | some message => .error message
    | none =>
      match isLoaded : table.loadAll with
      | .error message => .error message
      | .ok records =>
        if full : records.length ≥ storeMaxRecords ∧ get records record.evidenceId = none then
          .error "evidence index capacity exceeded"
        else
          match isRow : record.row with
          | none => .error "invalid evidence text"
          | some row =>
            have same := record_of_row isRow
            .ok (table.insert row (same ▸ isValid)
              ((room_iff isLoaded row.key).mpr (by rw [← same] at full; exact full)))
  else .error "invalid evidence record"

/-- `EvidenceIndex::persist_sqlite`, with the failing call of each record's write: the result, and
the table. -/
def persist (fault : IndexedEvidence → Option String) (table : EvidenceTable) :
    List IndexedEvidence → Except String Unit × EvidenceTable
  | [] => (.ok (), table)
  | record :: rest =>
    match table.upsert (fault record) record with
    | .error message => (.error message, table)
    | .ok written => written.persist fault rest

/-- `EvidenceIndex::load_sqlite`. -/
def loadSqlite (table : EvidenceTable) : Except String EvidenceIndex :=
  match table.loadAll with
  | .error message => .error message
  | .ok records => EvidenceIndex.empty.rebuild records

/-- What the write of a record asks of the store. -/
structure Writes (table : EvidenceTable) (fault : Option String) (record : IndexedEvidence) :
    Prop where
  works : fault = none
  nulFree : record.NulFree
  room : table.Room record.evidenceId

/-- The record is written exactly if the store can. -/
theorem upsert_ok_iff {table written : EvidenceTable} {fault : Option String}
    {record : IndexedEvidence} (isValid : record.valid = true) :
    table.upsert fault record = .ok written ↔
      table.Writes fault record ∧ ∃ row, record.row = some row ∧
        written.rows = KeyedList.put EvidenceRow.key row table.rows := by
  rw [upsert, dif_pos isValid]
  cases fault with
  | some message =>
    constructor
    · intro impossible
      cases impossible
    · rintro ⟨⟨impossible, -, -⟩, -⟩
      cases impossible
  | none =>
    dsimp only
    split
    · rename_i message isLoaded
      rw [loadAll_eq] at isLoaded
      cases isLoaded
    rename_i records isLoaded
    have room := room_iff isLoaded record.evidenceId
    split
    · rename_i full
      constructor
      · intro impossible
        cases impossible
      · rintro ⟨⟨-, -, isRoom⟩, -⟩
        exact absurd full (room.mp isRoom)
    rename_i notFull
    split
    · rename_i noRow
      constructor
      · intro impossible
        cases impossible
      · rintro ⟨-, row, isRow, -⟩
        rw [noRow] at isRow
        cases isRow
    · rename_i row isRow
      rw [Except.ok.injEq]
      constructor
      · rintro rfl
        exact ⟨⟨rfl, row_isSome_iff.mp ⟨row, isRow⟩, room.mpr notFull⟩, row, isRow, rfl⟩
      · rintro ⟨-, other, isOther, rows⟩
        obtain rfl := Option.some.inj (isRow.symm.trans isOther)
        exact eq_of_rows rows.symm

end EvidenceTable

end PoisonedOS
