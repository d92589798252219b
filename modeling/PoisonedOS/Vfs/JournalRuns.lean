import PoisonedOS.Vfs.Journal

/-!
# Runs of the journal

An operation is opened by the preparation that is accepted and resolved by its last advance
or by a recovery. The record is active exactly between the two, which is why no operation
is resolved twice and none is opened over another.

A refused preparation keeps the record unless it reaches normalization on an inactive
record. Then the bytes that normalization writes are left in it.
-/

namespace PoisonedOS

namespace JournalRecord

/-- The record holds what was prepared. -/
structure Carries (record : JournalRecord) (operation : JournalOperation) : Prop where
  operationId : record.operationId = operation.operationId
  path : vfsNormalizePath operation.path = some (.ofBytes record.path.bytes)
  expectedSize : record.expectedSize = operation.expectedSize
  oldDigest : record.oldDigest = operation.oldDigest
  newDigest : record.newDigest = operation.newDigest

/-- The preparation is refused after its path was normalized into the record. -/
structure Spoiled (record : JournalRecord) (operation : JournalOperation) : Prop where
  inactive : record.active = false
  short : operation.operationId.length ≤ vfsOperationIdMax
  refused : operation.operationId.length = 0 ∨ vfsNormalizePath operation.path = none
  changed : ¬ vfsWritten operation.path <+: record.path.bytes

variable {record : JournalRecord} {operation : JournalOperation}

/-- What an accepted preparation asks and does. -/
theorem prepare_accepted (accepted : (record.prepare operation).1 = true) :
    record.active = false ∧ operation.operationId.length ≠ 0 ∧
      (record.prepare operation).2.active = true ∧
      (record.prepare operation).2.state = .prepared ∧
      (record.prepare operation).2.Carries operation := by
  rw [prepare] at accepted ⊢
  split at accepted
  · cases accepted
  rename_i entered
  rw [if_neg entered]
  dsimp only at accepted ⊢
  split at accepted
  · cases accepted
  rename_i normalized
  rw [if_neg normalized]
  split at accepted
  · cases accepted
  rename_i named
  rw [if_neg named]
  simp only [Bool.or_eq_true, not_or, Bool.not_eq_true, beq_eq_false_iff_ne] at entered named
  refine ⟨entered.1, named.1, rfl, rfl, ⟨rfl, ?_, rfl, rfl, rfl⟩⟩
  simp only [Bool.not_eq_true', Bool.not_eq_false, normalizeInto_fst] at normalized
  obtain ⟨normal, isNormal⟩ := Option.isSome_iff_exists.mp normalized
  rw [ofBytes_normalizeInto isNormal, isNormal]

/-- A refused preparation writes to the path of an inactive record, or does nothing. -/
theorem prepare_refused (refused : (record.prepare operation).1 = false) :
    (record.prepare operation).2 = record ∨
      record.active = false ∧ operation.operationId.length ≤ vfsOperationIdMax ∧
      (operation.operationId.length = 0 ∨ vfsNormalizePath operation.path = none) ∧
      (record.prepare operation).2 =
        { record with path := record.path.overwrite (vfsWritten operation.path) } := by
  rw [prepare] at refused ⊢
  split at refused
  · rename_i early
    rw [if_pos early]
    exact Or.inl rfl
  rename_i entered
  rw [if_neg entered]
  dsimp only at refused ⊢
  rw [normalizeInto_fst, normalizeInto_snd] at refused ⊢
  simp only [Bool.or_eq_true, not_or, Bool.not_eq_true, decide_eq_false_iff_not,
    Nat.not_lt] at entered
  refine Or.inr ⟨entered.1, entered.2, ?_⟩
  split at refused
  · rename_i abnormal
    rw [if_pos abnormal]
    refine ⟨Or.inr ?_, rfl⟩
    simpa using abnormal
  rename_i normalized
  rw [if_neg normalized]
  split at refused
  · rename_i unnamed
    rw [if_pos unnamed]
    refine ⟨Or.inl ?_, rfl⟩
    simpa [Nat.not_lt.mpr entered.2] using unnamed
  · cases refused

/-- A refused preparation keeps the record exactly if it does not spoil it. -/
theorem prepare_kept_iff (refused : (record.prepare operation).1 = false) :
    (record.prepare operation).2 = record ↔ ¬ record.Spoiled operation := by
  have fits := length_vfsWritten operation.path
  constructor
  · intro kept spoiled
    rw [prepare] at kept refused
    have entered : ¬ (record.active || decide (operation.operationId.length > vfsOperationIdMax)) =
        true := by
      simp [spoiled.inactive, spoiled.short]
    rw [if_neg entered] at kept refused
    dsimp only at kept refused
    have path : (vfsNormalizeInto operation.path record.path).2 = record.path := by
      split at kept
      · exact congrArg JournalRecord.path kept
      split at kept
      · exact congrArg JournalRecord.path kept
      · rename_i normalized named
        rw [if_neg normalized, if_neg named] at refused
        cases refused
    rw [normalizeInto_snd, overwrite_eq_iff _ fits] at path
    exact spoiled.changed path
  · intro unspoiled
    obtain kept | ⟨inactive, short, reason, written⟩ := prepare_refused refused
    · exact kept
    · have begins : vfsWritten operation.path <+: record.path.bytes := by
        by_contra changed
        exact unspoiled ⟨inactive, short, reason, changed⟩
      rw [written, (overwrite_eq_iff _ fits).mpr begins]

theorem validate_of_carries (active : record.active = true) (carries : record.Carries operation)
    (named : operation.operationId.length ≠ 0) : record.validate = true := by
  have nonempty : record.operationId.isEmpty = false := by
    rw [carries.operationId, Bool.eq_false_iff]
    intro unnamed
    exact named (List.length_eq_zero_iff.mpr (List.isEmpty_iff.mp unnamed))
  rw [validate, active, nonempty, normalized_again carries.path, beq_self_eq_true]
  rfl

end JournalRecord

namespace JournalCall

/-- The record before a call of a run. -/
def recordAt (calls : List JournalCall) (index : Nat) : JournalRecord :=
  Runs.reached (fun call record => (call.step record).2) JournalRecord.init calls index

/-- A call of a run that does something. -/
def Accepted (calls : List JournalCall) (index : Nat) (call : JournalCall) : Prop :=
  calls[index]? = some call ∧ (call.step (recordAt calls index)).1 = true

/-- An operation is opened. -/
def OpensAt (calls : List JournalCall) (index : Nat) : Prop :=
  ∃ operation, Accepted calls index (.prepare operation)

/-- The operation is resolved, by its last advance or by a recovery. -/
def ResolvesAt (calls : List JournalCall) (index : Nat) : Prop :=
  Accepted calls index (.advance .complete) ∨ Accepted calls index .recover

/-- The advances of an operation, in their order, up to a state that an active record is in. -/
def Advanced (calls : List JournalCall) (opened index : Nat) : JournalState → Prop
  | .prepared => True
  | .dataSynced => ∃ synced, opened < synced ∧ synced < index ∧
      Accepted calls synced (.advance .dataSynced)
  | .metadataCommitted => ∃ synced committed, opened < synced ∧ synced < committed ∧
      committed < index ∧ Accepted calls synced (.advance .dataSynced) ∧
      Accepted calls committed (.advance .metadataCommitted)
  | .complete => False

/-- The operation that was opened at one call is still active before another. -/
structure Open (calls : List JournalCall) (opened index : Nat) (operation : JournalOperation) :
    Prop where
  opens : Accepted calls opened (.prepare operation)
  before : opened < index
  active : ∀ later, opened < later → later ≤ index → (recordAt calls later).active = true
  carries : (recordAt calls index).Carries operation
  advanced : Advanced calls opened index (recordAt calls index).state

/-- What the journal promises of its runs. -/
structure Kept (calls : List JournalCall) : Prop where
  valid : ∀ index, (recordAt calls index).active = true → (recordAt calls index).validate = true
  carried : ∀ index, (recordAt calls index).active = true →
    ∃ opened operation, Accepted calls opened (.prepare operation) ∧ opened < index ∧
      (∀ later, opened < later → later ≤ index → (recordAt calls later).active = true) ∧
      (recordAt calls index).Carries operation
  unchanged : ∀ index call, calls[index]? = some call →
    (call.step (recordAt calls index)).1 = false →
      (call.step (recordAt calls index)).2 = recordAt calls index
  completed : ∀ index, calls[index]? = some .recover →
    (recordAt calls index).recover.1 = .complete →
      ∃ opened synced committed, opened < synced ∧ synced < committed ∧ committed < index ∧
        OpensAt calls opened ∧ Accepted calls synced (.advance .dataSynced) ∧
        Accepted calls committed (.advance .metadataCommitted) ∧
        ∀ between, opened < between → between < index → ¬ ResolvesAt calls between
  once : ∀ first second, first < second → ResolvesAt calls first → ResolvesAt calls second →
    ∃ opened, first < opened ∧ opened < second ∧ OpensAt calls opened
  closed : ∀ first second, first < second → OpensAt calls first → OpensAt calls second →
    ∃ resolved, first < resolved ∧ resolved < second ∧ ResolvesAt calls resolved

variable {calls : List JournalCall} {index : Nat} {call : JournalCall}

theorem recordAt_succ (taken : calls[index]? = some call) :
    recordAt calls (index + 1) = (call.step (recordAt calls index)).2 :=
  Runs.reached_succ taken

theorem recordAt_end (ended : calls[index]? = none) :
    recordAt calls (index + 1) = recordAt calls index :=
  Runs.reached_end ended

/-- A refused call keeps an active record. -/
theorem step_refused {record : JournalRecord} (active : record.active = true)
    (refused : (call.step record).1 = false) : (call.step record).2 = record := by
  cases call with
  | prepare operation =>
    obtain kept | ⟨inactive, -⟩ := JournalRecord.prepare_refused refused
    · exact kept
    · rw [active] at inactive
      cases inactive
  | advance nextState =>
    simp only [step, JournalRecord.advance] at refused ⊢
    split at refused
    · rename_i early
      rw [if_pos early]
    · cases refused
  | recover =>
    simp only [step, JournalRecord.recover, active] at refused ⊢
    split at refused
    · rename_i impossible
      cases impossible
    · split at refused <;> cases refused

/-- What an accepted advance asks and does. -/
theorem advance_accepted {record : JournalRecord} {nextState : JournalState}
    (accepted : (record.advance nextState).1 = true) :
    record.active = true ∧ nextState.number = record.state.number + 1 ∧
      (record.advance nextState).2 =
        { record with state := nextState, active := nextState != .complete } := by
  rw [JournalRecord.advance] at accepted ⊢
  split at accepted
  · cases accepted
  · rename_i entered
    rw [if_neg entered]
    simp only [Bool.or_eq_true, not_or, Bool.not_eq_true', Bool.not_eq_false, bne_iff_ne,
      Decidable.not_not] at entered
    exact ⟨entered.1, entered.2, rfl⟩

/-- What a recovery that is no noop asks and does. -/
theorem recover_accepted {record : JournalRecord}
    (accepted : (JournalCall.recover.step record).1 = true) :
    record.active = true ∧ record.recover.2.active = false := by
  simp only [step, JournalRecord.recover] at accepted ⊢
  split at accepted
  · cases accepted
  · rename_i active
    rw [if_neg active]
    refine ⟨by simpa using active, ?_⟩
    split <;> rfl

/-- A call makes an inactive record active exactly if it opens an operation. -/
theorem opensAt_iff : OpensAt calls index ↔
    (recordAt calls index).active = false ∧ (recordAt calls (index + 1)).active = true := by
  constructor
  · rintro ⟨operation, taken, accepted⟩
    obtain ⟨inactive, -, active, -⟩ := JournalRecord.prepare_accepted accepted
    rw [recordAt_succ taken]
    exact ⟨inactive, active⟩
  · rintro ⟨inactive, active⟩
    cases taken : calls[index]? with
    | none =>
      rw [recordAt_end taken, inactive] at active
      cases active
    | some call =>
      rw [recordAt_succ taken] at active
      cases call with
      | prepare operation =>
        refine ⟨operation, taken, ?_⟩
        by_contra notAccepted
        rw [Bool.not_eq_true] at notAccepted
        obtain kept | ⟨-, -, -, written⟩ := JournalRecord.prepare_refused notAccepted
        · rw [step, kept, inactive] at active
          cases active
        · rw [step, written, inactive] at active
          cases active
      | advance nextState =>
        simp [step, JournalRecord.advance, inactive] at active
      | recover =>
        simp [step, JournalRecord.recover, inactive] at active

/-- A call makes an active record inactive exactly if it resolves the operation. -/
theorem resolvesAt_iff : ResolvesAt calls index ↔
    (recordAt calls index).active = true ∧ (recordAt calls (index + 1)).active = false := by
  constructor
  · rintro (⟨taken, accepted⟩ | ⟨taken, accepted⟩)
    · obtain ⟨active, -, advanced⟩ := advance_accepted accepted
      rw [recordAt_succ taken, step, advanced]
      exact ⟨active, rfl⟩
    · rw [recordAt_succ taken]
      exact recover_accepted accepted
  · rintro ⟨active, inactive⟩
    cases taken : calls[index]? with
    | none =>
      rw [recordAt_end taken, active] at inactive
      cases inactive
    | some call =>
      rw [recordAt_succ taken] at inactive
      have accepted : (call.step (recordAt calls index)).1 = true := by
        by_contra notAccepted
        rw [Bool.not_eq_true] at notAccepted
        rw [step_refused active notAccepted, active] at inactive
        cases inactive
      cases call with
      | prepare operation =>
        have opened := (JournalRecord.prepare_accepted accepted).2.2.1
        rw [step, opened] at inactive
        cases inactive
      | advance nextState =>
        rw [step, (advance_accepted accepted).2.2] at inactive
        obtain rfl : nextState = .complete := by simpa using inactive
        exact Or.inl ⟨taken, accepted⟩
      | recover => exact Or.inr ⟨taken, accepted⟩

/-- What holds at one place of a run and not at a later one stops at some call between. -/
theorem exists_stop (holds : Nat → Prop) {first second : Nat} (ordered : first ≤ second)
    (before : holds first) (after : ¬ holds second) :
    ∃ place, first ≤ place ∧ place < second ∧ holds place ∧ ¬ holds (place + 1) := by
  induction second, ordered using Nat.le_induction with
  | base => exact absurd before after
  | succ second ordered ih =>
    by_cases still : holds second
    · exact ⟨second, ordered, Nat.lt_succ_self _, still, after⟩
    · obtain ⟨place, above, below, stops⟩ := ih still
      exact ⟨place, above, Nat.lt_succ_of_lt below, stops⟩

variable {opened : Nat}

theorem Advanced.later {state : JournalState} (advanced : Advanced calls opened index state) :
    Advanced calls opened (index + 1) state := by
  cases state with
  | prepared => trivial
  | dataSynced =>
    obtain ⟨synced, after, before, accepted⟩ := advanced
    exact ⟨synced, after, Nat.lt_succ_of_lt before, accepted⟩
  | metadataCommitted =>
    obtain ⟨synced, committed, after, between, before, accepted⟩ := advanced
    exact ⟨synced, committed, after, between, Nat.lt_succ_of_lt before, accepted⟩
  | complete => exact advanced

/-- An operation whose record stands still is open one call later. -/
theorem Open.still {operation : JournalOperation} (isOpen : Open calls opened index operation)
    (same : recordAt calls (index + 1) = recordAt calls index) :
    Open calls opened (index + 1) operation where
  opens := isOpen.opens
  before := Nat.lt_succ_of_lt isOpen.before
  active := by
    intro later after upTo
    obtain earlier | rfl := Nat.le_succ_iff.mp upTo
    · exact isOpen.active later after earlier
    · rw [same]
      exact isOpen.active index isOpen.before (Nat.le_refl _)
  carries := same ▸ isOpen.carries
  advanced := same ▸ isOpen.advanced.later

/-- An advance short of the last one keeps the operation open. -/
theorem Open.advance {operation : JournalOperation} {nextState : JournalState}
    (isOpen : Open calls opened index operation)
    (accepted : Accepted calls index (.advance nextState)) (short : nextState ≠ .complete) :
    Open calls opened (index + 1) operation := by
  have after := recordAt_succ accepted.1
  obtain ⟨-, number, advanced⟩ := advance_accepted accepted.2
  rw [step, advanced] at after
  constructor
  · exact isOpen.opens
  · exact Nat.lt_succ_of_lt isOpen.before
  · intro later afterOpened upTo
    obtain earlier | rfl := Nat.le_succ_iff.mp upTo
    · exact isOpen.active later afterOpened earlier
    · rw [after]
      exact bne_iff_ne.mpr short
  · obtain ⟨operationId, path, expectedSize, oldDigest, newDigest⟩ := isOpen.carries
    rw [after]
    exact ⟨operationId, path, expectedSize, oldDigest, newDigest⟩
  · have before := isOpen.advanced
    have isAfter := isOpen.before
    rw [after]
    generalize (recordAt calls index).state = state at number before
    cases nextState with
    | prepared => cases state <;> cases number
    | dataSynced => exact ⟨index, isAfter, Nat.lt_succ_self _, accepted⟩
    | metadataCommitted =>
      cases state with
      | dataSynced =>
        obtain ⟨synced, afterOpened, below, syncedAt⟩ := before
        exact ⟨synced, index, afterOpened, below, Nat.lt_succ_self _, syncedAt, accepted⟩
      | prepared => cases number
      | metadataCommitted => cases number
      | complete => cases number
    | complete => exact absurd rfl short

/-- An active record belongs to the operation that was opened last.

Proof: by induction on the calls. A refused call leaves an active record alone, an accepted
preparation opens an operation, an advance extends the one that is open, and a recovery
leaves no active record. -/
theorem open_of_active (active : (recordAt calls index).active = true) :
    ∃ opened operation, Open calls opened index operation := by
  induction index with
  | zero => cases active
  | succ index ih =>
    cases taken : calls[index]? with
    | none =>
      have same := recordAt_end taken
      rw [same] at active
      obtain ⟨opened, operation, isOpen⟩ := ih active
      exact ⟨opened, operation, isOpen.still same⟩
    | some call =>
      have after := recordAt_succ taken
      cases answer : (call.step (recordAt calls index)).1 with
      | false =>
        by_cases wasActive : (recordAt calls index).active = true
        · obtain ⟨opened, operation, isOpen⟩ := ih wasActive
          rw [step_refused wasActive answer] at after
          exact ⟨opened, operation, isOpen.still after⟩
        · obtain ⟨operation, taken', accepted⟩ := opensAt_iff.mpr
            ⟨Bool.eq_false_iff.mpr wasActive, active⟩
          obtain rfl := Option.some.inj (taken.symm.trans taken')
          rw [answer] at accepted
          cases accepted
      | true =>
        cases call with
        | prepare operation =>
          obtain ⟨-, -, -, state, carries⟩ := JournalRecord.prepare_accepted answer
          refine ⟨index, operation, ⟨taken, answer⟩, Nat.lt_succ_self _, ?_, after ▸ carries, ?_⟩
          · intro later afterOpened upTo
            obtain rfl : later = index + 1 := by omega
            exact active
          · rw [after]
            show Advanced calls index (index + 1) ((recordAt calls index).prepare operation).2.state
            rw [state]
            trivial
        | advance nextState =>
          obtain ⟨wasActive, -, advanced⟩ := advance_accepted answer
          obtain ⟨opened, operation, isOpen⟩ := ih wasActive
          refine ⟨opened, operation, isOpen.advance ⟨taken, answer⟩ ?_⟩
          rw [after, step, advanced] at active
          exact bne_iff_ne.mp active
        | recover =>
          rw [after, step, (recover_accepted answer).2] at active
          cases active

/-- No operation is resolved while one is open. -/
theorem Open.unresolved {operation : JournalOperation} (isOpen : Open calls opened index operation)
    {between : Nat} (after : opened < between) (before : between < index) :
    ¬ ResolvesAt calls between := by
  intro resolves
  have active := isOpen.active (between + 1) (Nat.lt_succ_of_lt after) before
  rw [(resolvesAt_iff.mp resolves).2] at active
  cases active

/-- The journal keeps its promises exactly in the runs that spoil no record.

Proof: everything but the refused calls rests on the operation that an active record belongs
to, and on the record being active from its opening to its resolution. A refused call keeps
the record unless it spoils it. -/
theorem journal_kept_iff (calls : List JournalCall) :
    Kept calls ↔ ∀ index operation, calls[index]? = some (.prepare operation) →
      ¬ (recordAt calls index).Spoiled operation := by
  constructor
  · intro kept index operation taken spoiled
    have refused : ((recordAt calls index).prepare operation).1 = false := by
      by_contra notRefused
      rw [Bool.not_eq_false] at notRefused
      obtain ⟨-, named, -, -, carries⟩ := JournalRecord.prepare_accepted notRefused
      obtain unnamed | abnormal := spoiled.refused
      · exact named unnamed
      · rw [carries.path] at abnormal
        cases abnormal
    exact (JournalRecord.prepare_kept_iff refused).mp
      (kept.unchanged index (.prepare operation) taken refused) spoiled
  · intro unspoiled
    constructor
    · intro index active
      obtain ⟨opened, operation, isOpen⟩ := open_of_active active
      exact JournalRecord.validate_of_carries active isOpen.carries
        (JournalRecord.prepare_accepted isOpen.opens.2).2.1
    · intro index active
      obtain ⟨opened, operation, isOpen⟩ := open_of_active active
      exact ⟨opened, operation, isOpen.opens, isOpen.before, isOpen.active, isOpen.carries⟩
    · intro index call taken refused
      by_cases active : (recordAt calls index).active = true
      · exact step_refused active refused
      cases call with
      | prepare operation =>
        exact (JournalRecord.prepare_kept_iff refused).mpr (unspoiled index operation taken)
      | advance nextState => simp [step, JournalRecord.advance, active]
      | recover => simp [step, JournalRecord.recover, active]
    · intro index taken complete
      have active : (recordAt calls index).active = true := by
        by_contra inactive
        rw [JournalRecord.recover, if_pos (by simp [inactive])] at complete
        cases complete
      have committed : (recordAt calls index).state = .metadataCommitted := by
        by_contra other
        simp [JournalRecord.recover, active, other] at complete
      obtain ⟨opened, operation, isOpen⟩ := open_of_active active
      have advanced := isOpen.advanced
      rw [committed] at advanced
      obtain ⟨synced, committed, after, between, before, syncedAt, committedAt⟩ := advanced
      exact ⟨opened, synced, committed, after, between, before, ⟨operation, isOpen.opens⟩,
        syncedAt, committedAt, fun _ => isOpen.unresolved⟩
    · intro first second ordered resolves resolvesAgain
      obtain ⟨place, above, below, inactive, active⟩ := exists_stop
        (fun index => (recordAt calls index).active = false) ordered
        (resolvesAt_iff.mp resolves).2 (by simp [(resolvesAt_iff.mp resolvesAgain).1])
      exact ⟨place, above, below, opensAt_iff.mpr ⟨inactive, Bool.not_eq_false _ |>.mp active⟩⟩
    · intro first second ordered opens opensAgain
      obtain ⟨place, above, below, active, inactive⟩ := exists_stop
        (fun index => (recordAt calls index).active = true) ordered
        (opensAt_iff.mp opens).2 (by simp [(opensAt_iff.mp opensAgain).1])
      exact ⟨place, above, below, resolvesAt_iff.mpr ⟨active, Bool.eq_false_iff.mpr inactive⟩⟩

/-- A preparation without an operation id leaves its path in the record. -/
theorem unnamed_preparation_spoils :
    ¬ Kept [.prepare ⟨.literal "", .literal "/a", 0, .zero _, .zero _⟩] := by
  intro kept
  have same := kept.unchanged 0 _ rfl rfl
  refine (JournalRecord.prepare_kept_iff rfl).mp same ⟨rfl, by decide, Or.inl rfl, ?_⟩
  decide

end JournalCall

end PoisonedOS
