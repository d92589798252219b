import PoisonedOS.Library.Runs
import PoisonedOS.Vfs.Confinement

/-!
# The journal of a storage operation

A record is prepared for one operation, advanced through its states, and resolved by its
last state or by a recovery. While it is active it carries what it was prepared with.

The path is normalized straight into the record's buffer, before all arguments are checked.
So a preparation that is refused can leave bytes of its path in a record that is not active.
-/

namespace PoisonedOS

/-- `POISON_VFS_OPERATION_ID_MAX`. -/
def vfsOperationIdMax : Nat := 64

/-- Bytes written to the beginning of a buffer. -/
def FixedBytes.overwrite {size : Nat} (buffer : FixedBytes size) (bytes : List UInt8) :
    FixedBytes size where
  bytes := (bytes ++ buffer.bytes.drop bytes.length).take size
  sized := by
    rw [List.length_take, List.length_append, List.length_drop, buffer.sized]
    omega

/-- A terminator written into a buffer. -/
def FixedBytes.terminate {size : Nat} (buffer : FixedBytes size) (position : Nat) :
    FixedBytes size where
  bytes := buffer.bytes.set position 0
  sized := by rw [List.length_set, buffer.sized]

/-- The copying loop of `poison_vfs_normalize_path`: whether it goes through, and all that it
writes. -/
def collapseWritten : List UInt8 → Bool → List UInt8 → Bool × List UInt8
  | [], _, output => (true, output)
  | byte :: rest, previousSeparator, output =>
    if !vfsIsValidByte byte then (false, output)
    else if byte == slash && previousSeparator then collapseWritten rest true output
    else if output.length ≥ vfsPathMax then (false, output)
    else collapseWritten rest (byte == slash) (output ++ [byte])

/-- `poison_vfs_normalize_path` with the buffer it writes to. -/
def vfsNormalizeInto (input : CString) (buffer : FixedBytes (vfsPathMax + 1)) :
    Bool × FixedBytes (vfsPathMax + 1) :=
  if input.bytes.head? != some slash || decide (input.length > vfsPathMax) then (false, buffer)
  else
    let copied := collapseWritten input.bytes false []
    let written := buffer.overwrite copied.2
    if !copied.1 then (false, written)
    else
      let output := trimSeparators copied.2
      (segmentsAllowed [] output.tail, written.terminate output.length)

/-- The bytes that normalization leaves at the beginning of its buffer. -/
def vfsWritten (input : CString) : List UInt8 :=
  if input.bytes.head? != some slash || decide (input.length > vfsPathMax) then []
  else
    let copied := collapseWritten input.bytes false []
    let output := trimSeparators copied.2
    if copied.1 then output ++ 0 :: copied.2.drop (output.length + 1) else copied.2

/-- `PoisonVfsJournalState`. -/
inductive JournalState where
  | prepared
  | dataSynced
  | metadataCommitted
  | complete
deriving DecidableEq, Repr

/-- The value of a state's enumerator. -/
def JournalState.number : JournalState → Nat
  | .prepared => 0
  | .dataSynced => 1
  | .metadataCommitted => 2
  | .complete => 3

/-- The arguments of a preparation. -/
structure JournalOperation where
  operationId : CString
  path : CString
  expectedSize : UInt64
  oldDigest : Digest
  newDigest : Digest

/-- `PoisonVfsJournalRecord`. -/
structure JournalRecord where
  active : Bool
  operationId : CString
  path : FixedBytes (vfsPathMax + 1)
  state : JournalState
  expectedSize : UInt64
  oldDigest : Digest
  newDigest : Digest
deriving DecidableEq

/-- `PoisonVfsRecoveryResult`. -/
inductive RecoveryResult where
  | noop
  | rollback
  | complete
deriving DecidableEq, Repr

namespace JournalRecord

/-- `poison_vfs_journal_init`. -/
def init : JournalRecord :=
  ⟨false, .literal "", .zero _, .prepared, 0, .zero _, .zero _⟩

/-- `poison_vfs_journal_prepare`. -/
def prepare (record : JournalRecord) (operation : JournalOperation) : Bool × JournalRecord :=
  if record.active || decide (operation.operationId.length > vfsOperationIdMax) then (false, record)
  else
    let normalized := vfsNormalizeInto operation.path record.path
    if !normalized.1 then (false, { record with path := normalized.2 })
    else if operation.operationId.length == 0 ||
        decide (operation.operationId.length > vfsOperationIdMax) then
      (false, { record with path := normalized.2 })
    else
      (true, {
        active := true
        operationId := operation.operationId
        path := (vfsNormalizeInto operation.path (.zero _)).2
        state := .prepared
        expectedSize := operation.expectedSize
        oldDigest := operation.oldDigest
        newDigest := operation.newDigest })

/-- `poison_vfs_journal_advance`. -/
def advance (record : JournalRecord) (nextState : JournalState) : Bool × JournalRecord :=
  if !record.active || nextState.number != record.state.number + 1 then (false, record)
  else (true, { record with state := nextState, active := nextState != .complete })

/-- `poison_vfs_journal_validate`. -/
def validate (record : JournalRecord) : Bool :=
  record.active && !record.operationId.isEmpty &&
    vfsNormalizePath (.ofBytes record.path.bytes) == some (.ofBytes record.path.bytes)

/-- `poison_vfs_recover`. -/
def recover (record : JournalRecord) : RecoveryResult × JournalRecord :=
  if !record.active then (.noop, record)
  else if record.state == .metadataCommitted then
    (.complete, { record with state := .complete, active := false })
  else (.rollback, { record with active := false })

end JournalRecord

/-- A call on a record. -/
inductive JournalCall where
  | prepare (operation : JournalOperation)
  | advance (nextState : JournalState)
  | recover

def JournalCall.step (call : JournalCall) (record : JournalRecord) : Bool × JournalRecord :=
  match call with
  | .prepare operation => record.prepare operation
  | .advance nextState => record.advance nextState
  | .recover => (record.recover.1 != .noop, record.recover.2)

/-! ## Normalization in place -/

theorem collapseSeparators_eq (input : List UInt8) (previousSeparator : Bool)
    (output : List UInt8) :
    collapseSeparators input previousSeparator output =
      if (collapseWritten input previousSeparator output).1 then
        some (collapseWritten input previousSeparator output).2
      else none := by
  induction input generalizing previousSeparator output with
  | nil => rfl
  | cons byte rest ih =>
    rw [collapseSeparators, collapseWritten]
    split
    · rfl
    split
    · exact ih true output
    split
    · rfl
    · exact ih _ _

theorem length_collapseWritten {input output : List UInt8} {previousSeparator : Bool}
    (fits : output.length ≤ vfsPathMax) :
    (collapseWritten input previousSeparator output).2.length ≤ vfsPathMax := by
  induction input generalizing previousSeparator output with
  | nil => exact fits
  | cons byte rest ih =>
    rw [collapseWritten]
    split
    · exact fits
    split
    · exact ih fits
    split
    · exact fits
    · rename_i room
      refine ih ?_
      rw [List.length_append, List.length_singleton]
      omega

variable (input : CString)

/-- The buffer makes no difference to what is accepted. -/
theorem normalizeInto_fst (buffer : FixedBytes (vfsPathMax + 1)) :
    (vfsNormalizeInto input buffer).1 = (vfsNormalizePath input).isSome := by
  rw [vfsNormalizeInto, vfsNormalizePath, collapseSeparators_eq]
  split
  · rfl
  generalize collapseWritten input.bytes false [] = copied
  obtain ⟨through, written⟩ := copied
  cases through with
  | false => simp only [Bool.not_false, Bool.false_eq_true, if_true, if_false, Option.isSome_none]
  | true =>
    simp only [Bool.not_true, Bool.false_eq_true, if_true, if_false]
    cases segmentsAllowed [] (trimSeparators written).tail with
    | false => rfl
    | true => rfl

/-- What comes after a terminator is not part of the text. -/
theorem ofBytes_terminated_at (output rest : List UInt8) :
    CString.ofBytes (output ++ 0 :: rest) = CString.ofBytes output := by
  ext1
  induction output with
  | nil => rfl
  | cons byte output ih =>
    simp only [CString.ofBytes, List.cons_append, List.takeWhile_cons] at ih ⊢
    rw [ih]

theorem bytes_overwrite {size : Nat} (buffer : FixedBytes size) {bytes : List UInt8}
    (fits : bytes.length ≤ size) :
    (buffer.overwrite bytes).bytes = bytes ++ buffer.bytes.drop bytes.length := by
  refine List.take_of_length_le ?_
  rw [List.length_append, List.length_drop, buffer.sized]
  omega

/-- A buffer is as it was exactly if it began with what is written to it. -/
theorem overwrite_eq_iff {size : Nat} (buffer : FixedBytes size) {bytes : List UInt8}
    (fits : bytes.length ≤ size) : buffer.overwrite bytes = buffer ↔ bytes <+: buffer.bytes := by
  rw [FixedBytes.mk.injEq, bytes_overwrite buffer fits]
  constructor
  · intro same
    exact ⟨_, same⟩
  · rintro ⟨rest, begins⟩
    rw [← begins, List.drop_left]

theorem length_vfsWritten : (vfsWritten input).length ≤ vfsPathMax + 1 := by
  have fits := @length_collapseWritten input.bytes [] false (Nat.zero_le _)
  have trimmed := (trimSeparators_append (collapseWritten input.bytes false []).2).length_le
  rw [vfsWritten]
  split
  · exact Nat.zero_le _
  dsimp only
  split
  · rw [List.length_append, List.length_cons, List.length_drop]
    omega
  · omega

/-- All that normalization does to its buffer. -/
theorem normalizeInto_snd (buffer : FixedBytes (vfsPathMax + 1)) :
    (vfsNormalizeInto input buffer).2 = buffer.overwrite (vfsWritten input) := by
  have fits := @length_collapseWritten input.bytes [] false (Nat.zero_le _)
  have room := length_vfsWritten input
  rw [vfsWritten] at room
  rw [vfsNormalizeInto, vfsWritten]
  split
  · exact ((overwrite_eq_iff buffer (Nat.zero_le _)).mpr (List.nil_prefix)).symm
  rename_i entered
  rw [if_neg entered] at room
  generalize collapseWritten input.bytes false [] = copied at fits room ⊢
  obtain ⟨through, collapsed⟩ := copied
  cases through with
  | false => rfl
  | true =>
    replace fits : collapsed.length ≤ vfsPathMax := fits
    simp only [Bool.not_true, Bool.false_eq_true, if_true, if_false] at room ⊢
    obtain ⟨tail, isCollapsed⟩ := trimSeparators_append collapsed
    generalize trimSeparators collapsed = output at isCollapsed room ⊢
    subst isCollapsed
    rw [FixedBytes.mk.injEq, bytes_overwrite buffer room]
    show (buffer.overwrite (output ++ tail)).bytes.set _ 0 = _
    rw [bytes_overwrite buffer (by omega), List.append_assoc,
      List.set_append_right _ _ (Nat.le_refl _), Nat.sub_self, List.append_assoc]
    congr 1
    cases tail with
    | nil =>
      have isRest : buffer.bytes.drop output.length ≠ [] := by
        rw [Ne, List.drop_eq_nil_iff, buffer.sized]
        rw [List.append_nil] at fits
        omega
      obtain ⟨first, rest, isRest⟩ := List.exists_cons_of_ne_nil isRest
      have after : buffer.bytes.drop (output.length + 1) = rest := by
        rw [← List.drop_drop, isRest, List.drop_one, List.tail_cons]
      simp [isRest, after]
    | cons byte tail =>
      simp only [List.cons_append, List.set_cons_zero, List.length_append, List.length_cons,
        List.drop_append, List.length_drop]
      simp

/-- An accepted path stands in the buffer in its normal form. -/
theorem ofBytes_normalizeInto {input normal : CString}
    (normalized : vfsNormalizePath input = some normal) (buffer : FixedBytes (vfsPathMax + 1)) :
    CString.ofBytes (vfsNormalizeInto input buffer).2.bytes = normal := by
  rw [normalizeInto_snd, bytes_overwrite buffer (length_vfsWritten input)]
  rw [vfsNormalizePath, collapseSeparators_eq] at normalized
  rw [vfsWritten]
  split at normalized
  · cases normalized
  rename_i entered
  rw [if_neg entered]
  generalize collapseWritten input.bytes false [] = copied at normalized ⊢
  obtain ⟨through, collapsed⟩ := copied
  cases through with
  | false => simp at normalized
  | true =>
    simp only [if_true] at normalized ⊢
    split at normalized
    · obtain rfl := Option.some.inj normalized
      rw [List.append_assoc, List.cons_append, ofBytes_terminated_at]
    · cases normalized

end PoisonedOS
