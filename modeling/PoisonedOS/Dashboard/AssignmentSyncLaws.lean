import PoisonedOS.Dashboard.AssignmentSync

/-!
# Laws of syncing assignments

The merge joins two records of a key: the later one stays, with the progress of both. Joining is
associative, but it commutes only where records of one revision agree, and changes a record whose
digests are not a sorted set. The queue does not join, so that a record it drops takes its
progress with it.

A key that a device holds twice stays there twice.
-/

namespace PoisonedOS.Dashboard

open KeyedJoin (lookup absorb absorbAll lookup_some lookup_none lookup_mem perm_iff_lookup)
open KeyedList (before)
open SortedInsertion (Sorted)

theorem mem_sortedSet {digest : JsText} {digests : List JsText} :
    digest ∈ sortedSet digests ↔ digest ∈ digests := by
  have each (items : List JsText) :
      digest ∈ KeyedList.putAll id digests items ↔ digest ∈ digests ∨ digest ∈ items := by
    induction digests generalizing items with
    | nil => simp [KeyedList.putAll]
    | cons first rest ih =>
      rw [KeyedList.putAll, List.foldl_cons, ← KeyedList.putAll, ih,
        KeyedList.mem_put, List.mem_cons]
      by_cases same : digest = first
      · simp [same]
      · simp [same]
  rw [sortedSet, each, or_iff_left List.not_mem_nil]

theorem sorted_sortedSet (digests : List JsText) : Sorted (before id) (sortedSet digests) := by
  have each (items : List JsText) (sorted : Sorted (before id) items) :
      Sorted (before id) (KeyedList.putAll id digests items) := by
    induction digests generalizing items with
    | nil => exact sorted
    | cons first rest ih =>
      exact ih _ (KeyedList.sorted_put sorted first)
  exact each [] List.Pairwise.nil

/-- The same digests give the same list. -/
theorem sortedSet_congr {first second : List JsText}
    (same : ∀ digest, digest ∈ first ↔ digest ∈ second) :
    sortedSet first = sortedSet second := by
  refine KeyedList.eq_of_mem_iff (sorted_sortedSet _) (sorted_sortedSet _) fun digest => ?_
  rw [mem_sortedSet, mem_sortedSet, same]

/-- Progress in one lesson of one learner. -/
structure LessonProgress.SameScope (first second : LessonProgress) : Prop where
  learnerId : first.learnerId = second.learnerId
  lessonId : first.lessonId = second.lessonId
  lessonVersion : first.lessonVersion = second.lessonVersion

theorem joinProgress_assoc (first second third : LessonProgress) :
    joinProgress (joinProgress first second) third =
      joinProgress first (joinProgress second third) := by
  have digests : sortedSet (sortedSet (first.evidenceDigests ++ second.evidenceDigests) ++
        third.evidenceDigests) =
      sortedSet (first.evidenceDigests ++
        sortedSet (second.evidenceDigests ++ third.evidenceDigests)) := by
    refine sortedSet_congr fun digest => ?_
    simp only [List.mem_append, mem_sortedSet, or_assoc]
  simp only [joinProgress, digests, Nat.max_assoc, Bool.or_assoc]

theorem joinProgress_comm {first second : LessonProgress} (scope : first.SameScope second) :
    joinProgress first second = joinProgress second first := by
  have digests : sortedSet (first.evidenceDigests ++ second.evidenceDigests) =
      sortedSet (second.evidenceDigests ++ first.evidenceDigests) := by
    refine sortedSet_congr fun digest => ?_
    simp only [List.mem_append, or_comm]
  simp only [joinProgress, digests, scope.learnerId, scope.lessonId, scope.lessonVersion,
    Nat.max_comm, Bool.or_comm]

theorem joinProgress_self_iff {progress : LessonProgress} :
    joinProgress progress progress = progress ↔ Sorted (before id) progress.evidenceDigests := by
  constructor
  · intro same
    rw [← congrArg LessonProgress.evidenceDigests same]
    exact sorted_sortedSet _
  · intro sorted
    have digests : sortedSet (progress.evidenceDigests ++ progress.evidenceDigests) =
        progress.evidenceDigests := by
      refine KeyedList.eq_of_mem_iff (sorted_sortedSet _) sorted fun digest => ?_
      rw [mem_sortedSet, List.mem_append, or_self]
    rw [joinProgress, digests, Nat.max_self, Bool.or_self]

namespace AssignmentSyncRecord

/-- Two records of one learner's assignment. -/
structure Matched (first second : AssignmentSyncRecord) : Prop where
  learnerId : first.assignment.learnerId = second.assignment.learnerId
  lessonId : first.assignment.lessonId = second.assignment.lessonId
  scope : ∀ one other, first.progress = some one → second.progress = some other →
    one.SameScope other

/-- A record has all steps, digests and the completion of another one. -/
def Covers (kept other : AssignmentSyncRecord) : Prop :=
  ∀ progress, other.progress = some progress → ∃ whole, kept.progress = some whole ∧
    progress.completedSteps ≤ whole.completedSteps ∧
      (∀ digest ∈ progress.evidenceDigests, digest ∈ whole.evidenceDigests) ∧
        (progress.complete = true → whole.complete = true)

/-- The later record, the first one of equal ones, with the progress of both. -/
def joined (first second : AssignmentSyncRecord) : AssignmentSyncRecord :=
  { (if second.revision > first.revision then second else first) with
    progress := Option.merge joinProgress first.progress second.progress }

variable {first second : AssignmentSyncRecord}

theorem covers_self (record : AssignmentSyncRecord) : record.Covers record :=
  fun progress isProgress => ⟨progress, isProgress, Nat.le_refl _, fun _ inside => inside, id⟩

theorem joined_covers (first second : AssignmentSyncRecord) :
    (joined first second).Covers first ∧ (joined first second).Covers second := by
  constructor
  · intro progress isProgress
    cases other : second.progress with
    | none =>
      refine ⟨progress, ?_, Nat.le_refl _, fun _ inside => inside, id⟩
      rw [joined, isProgress, other]
      rfl
    | some more =>
      refine ⟨joinProgress progress more, ?_, Nat.le_max_left _ _, ?_, ?_⟩
      · rw [joined, isProgress, other]
        rfl
      · exact fun digest inside => mem_sortedSet.mpr (List.mem_append_left _ inside)
      · exact fun complete => Bool.or_eq_true_iff.mpr (.inl complete)
  · intro progress isProgress
    cases other : first.progress with
    | none =>
      refine ⟨progress, ?_, Nat.le_refl _, fun _ inside => inside, id⟩
      rw [joined, isProgress, other]
      rfl
    | some more =>
      refine ⟨joinProgress more progress, ?_, Nat.le_max_right _ _, ?_, ?_⟩
      · rw [joined, isProgress, other]
        rfl
      · exact fun digest inside => mem_sortedSet.mpr (List.mem_append_right _ inside)
      · exact fun complete => Bool.or_eq_true_iff.mpr (.inr complete)

theorem joined_key (first second : AssignmentSyncRecord)
    (same : recordKey first = recordKey second) :
    recordKey (joined first second) = recordKey second := by
  rw [joined, recordKey]
  split
  · rfl
  · exact same

theorem joined_valid (firstValid : first.valid = true) (secondValid : second.valid = true) :
    (joined first second).valid = true := by
  rw [joined]
  split
  · exact secondValid
  · exact firstValid

theorem joined_assoc (first second third : AssignmentSyncRecord) :
    joined (joined first second) third = joined first (joined second third) := by
  have progress : Option.merge joinProgress
        (Option.merge joinProgress first.progress second.progress) third.progress =
      Option.merge joinProgress first.progress
        (Option.merge joinProgress second.progress third.progress) := by
    cases first.progress <;> cases second.progress <;> cases third.progress <;>
      simp only [Option.merge, joinProgress_assoc]
  simp only [joined, progress]
  by_cases late : second.revision > first.revision
  · by_cases later : third.revision > second.revision
    · simp [late, later, Nat.lt_trans late later]
    · simp [late, later]
  · by_cases later : third.revision > second.revision
    · by_cases latest : third.revision > first.revision
      · simp [late, later, latest]
      · simp [late, later, latest]
    · have latest : ¬ third.revision > first.revision := by omega
      simp [late, later, latest]

/-- Joining commutes where the records differ in their revisions, or in nothing but progress. -/
theorem joined_comm_iff (matched : first.Matched second) :
    joined first second = joined second first ↔
      (first.revision = second.revision → { first with progress := second.progress } = second) := by
  have progress : Option.merge joinProgress first.progress second.progress =
      Option.merge joinProgress second.progress first.progress := by
    cases one : first.progress with
    | none => cases second.progress <;> rfl
    | some left =>
      cases other : second.progress with
      | none => rfl
      | some right =>
        exact congrArg some (joinProgress_comm (matched.scope left right one other))
  rw [joined, joined, progress]
  obtain earlier | same | later := Nat.lt_trichotomy first.revision second.revision
  · rw [if_pos earlier, if_neg (Nat.lt_asymm earlier)]
    exact iff_of_true rfl fun same => absurd same (Nat.ne_of_lt earlier)
  · rw [same, if_neg (Nat.lt_irrefl _), if_neg (Nat.lt_irrefl _)]
    obtain ⟨firstId, firstWorkspace, firstAssignment, firstProgress, firstRevision⟩ := first
    obtain ⟨secondId, secondWorkspace, secondAssignment, secondProgress, secondRevision⟩ := second
    simp only [mk.injEq, true_and, and_true, forall_const]
    exact ⟨fun all => ⟨all.1, all.2.1, all.2.2.1⟩, fun all => ⟨all.1, all.2.1, all.2.2, same⟩⟩
  · rw [if_neg (Nat.lt_asymm later), if_pos later]
    exact iff_of_true rfl fun same => absurd same.symm (Nat.ne_of_lt later)

/-- Joining a record with itself changes nothing where its digests are a sorted set. -/
theorem joined_self_iff (record : AssignmentSyncRecord) :
    joined record record = record ↔ ∀ progress, record.progress = some progress →
      Sorted (before id) progress.evidenceDigests := by
  obtain ⟨assignmentId, workspaceId, assignment, progress, revision⟩ := record
  cases progress with
  | none => simp [joined, Option.merge]
  | some progress => simp [joined, Option.merge, joinProgress_self_iff]

end AssignmentSyncRecord

open AssignmentSyncRecord

theorem mergedProgress_ok_iff {first second result : Option LessonProgress} :
    mergedProgress first second = .ok result ↔
      (∀ one other, first = some one → second = some other → one.SameScope other) ∧
        result = Option.merge joinProgress first second := by
  cases first with
  | none =>
    rw [mergedProgress, Except.ok.injEq, eq_comm]
    cases second <;> simp [Option.merge]
  | some one =>
    cases second with
    | none => simp [mergedProgress, Option.merge, eq_comm]
    | some other =>
      rw [mergedProgress, mergeAssignmentProgress]
      split
      · rename_i conflict
        refine iff_of_false (fun isResult => by cases isResult) fun matched => ?_
        obtain ⟨learner, lesson, version⟩ := matched.1 one other rfl rfl
        simp [learner, lesson, version] at conflict
      · rename_i apart
        simp only [Bool.or_eq_true, bne_iff_ne, not_or, not_not] at apart
        constructor
        · intro isResult
          refine ⟨?_, (Except.ok.inj isResult).symm⟩
          rintro left right ⟨⟩ ⟨⟩
          exact ⟨apart.1.1, apart.1.2, apart.2⟩
        · rintro ⟨-, rfl⟩
          rfl

/-- A record is merged exactly if it is valid and matches the record of its key. It is joined
then. -/
theorem mergeRecord_ok_iff {merged next : List AssignmentSyncRecord}
    {record : AssignmentSyncRecord} :
    mergeRecord merged record = .ok next ↔ record.valid = true ∧
      (∀ current, lookup recordKey merged (recordKey record) = some current →
        current.Matched record) ∧ next = absorb recordKey joined merged record := by
  rw [mergeRecord, absorb, lookup]
  cases record.valid with
  | false => exact iff_of_false (fun isMerged => by cases isMerged) (fun all => by cases all.1)
  | true =>
    rw [if_neg (by decide), eq_self_iff_true, true_and]
    cases merged.find? fun item => recordKey item == recordKey record with
    | none =>
      refine ⟨fun isMerged => ⟨(fun current found => by cases found), ?_⟩, fun both => ?_⟩
      · exact (Except.ok.inj isMerged).symm
      · exact congrArg Except.ok both.2.symm
    | some current =>
      simp only [Option.some.injEq, forall_eq']
      split
      · rename_i conflict
        refine iff_of_false (fun isMerged => by cases isMerged) fun both => ?_
        simp [both.1.learnerId, both.1.lessonId] at conflict
      · rename_i apart
        simp only [Bool.or_eq_true, bne_iff_ne, not_or, not_not] at apart
        have shape (progress : Option LessonProgress)
            (isProgress : progress = Option.merge joinProgress current.progress record.progress) :
            (if record.revision > current.revision then { record with progress }
              else { current with progress }) = joined current record := by
          rw [isProgress, joined]
          split
          · rfl
          · rfl
        constructor
        · intro isMerged
          cases step : mergedProgress current.progress record.progress with
          | error message =>
            rw [step] at isMerged
            cases isMerged
          | ok progress =>
            obtain ⟨scope, isProgress⟩ := mergedProgress_ok_iff.mp step
            rw [step] at isMerged
            refine ⟨⟨apart.1, apart.2, scope⟩, ?_⟩
            rw [← shape progress isProgress]
            exact (Except.ok.inj isMerged).symm
        · rintro ⟨matched, rfl⟩
          rw [mergedProgress_ok_iff.mpr ⟨matched.scope, rfl⟩, ← shape _ rfl]
          rfl

/-- All records that are merged are joined. -/
theorem foldlM_ok {first incoming merged : List AssignmentSyncRecord}
    (isMerged : incoming.foldlM mergeRecord first = .ok merged) :
    merged = absorbAll recordKey joined first incoming := by
  induction incoming generalizing first with
  | nil => exact (Except.ok.inj isMerged).symm
  | cons record rest ih =>
    rw [List.foldlM_cons] at isMerged
    cases step : mergeRecord first record with
    | error message =>
      rw [step] at isMerged
      cases isMerged
    | ok next =>
      rw [step] at isMerged
      rw [absorbAll, List.foldl_cons, ← (mergeRecord_ok_iff.mp step).2.2]
      exact ih isMerged

/-- Records with different keys that are valid and match those with their keys are merged. -/
theorem foldlM_matched {first incoming : List AssignmentSyncRecord}
    (different : (incoming.map recordKey).Nodup) (valid : ∀ record ∈ incoming, record.valid = true)
    (matched : ∀ record ∈ incoming, ∀ current,
      lookup recordKey first (recordKey record) = some current → current.Matched record) :
    incoming.foldlM mergeRecord first = .ok (absorbAll recordKey joined first incoming) := by
  induction incoming generalizing first with
  | nil => rfl
  | cons record rest ih =>
    rw [List.map_cons, List.nodup_cons] at different
    rw [List.foldlM_cons, mergeRecord_ok_iff.mpr ⟨valid record List.mem_cons_self,
      matched record List.mem_cons_self, rfl⟩]
    refine ih different.2
      (fun other inside => valid other (List.mem_cons_of_mem _ inside)) ?_
    intro other inside current isCurrent
    rw [KeyedJoin.lookup_absorb joined_key, if_neg] at isCurrent
    · exact matched other (List.mem_cons_of_mem _ inside) current isCurrent
    · exact fun same => different.1 (same ▸ List.mem_map_of_mem inside)

/-! ## What devices end with -/

section Merge

variable (localeLe : JsText → JsText → Bool) {first incoming : List AssignmentSyncRecord}

variable {localeLe} in
/-- What a merge returns holds the joined records. -/
theorem merge_perm {merged : List AssignmentSyncRecord}
    (isMerged : mergeAssignmentSync localeLe first incoming = .ok merged) :
    merged.Perm (absorbAll recordKey joined first incoming) := by
  rw [mergeAssignmentSync] at isMerged
  cases all : incoming.foldlM mergeRecord first with
  | error message =>
    rw [all] at isMerged
    cases isMerged
  | ok records =>
    rw [all] at isMerged
    rw [← Except.ok.inj isMerged, ← foldlM_ok all]
    exact List.mergeSort_perm _ _

theorem merge_ok (firstOnce : (first.map recordKey).Nodup)
    (once : (incoming.map recordKey).Nodup) (valid : ∀ record ∈ incoming, record.valid = true)
    (matched : ∀ one ∈ first, ∀ other ∈ incoming, recordKey one = recordKey other →
      one.Matched other) :
    ∃ merged, mergeAssignmentSync localeLe first incoming = .ok merged ∧
      (merged.map recordKey).Nodup ∧ ∀ wanted, lookup recordKey merged wanted =
        Option.merge joined (lookup recordKey first wanted) (lookup recordKey incoming wanted) := by
  have all := foldlM_matched once valid fun record inside current isCurrent =>
    matched current (lookup_some isCurrent).1 record inside (lookup_some isCurrent).2
  obtain ⟨merged, isMerged⟩ :
      ∃ merged, mergeAssignmentSync localeLe first incoming = .ok merged := by
    rw [mergeAssignmentSync, all]
    exact ⟨_, rfl⟩
  have same := merge_perm isMerged
  have different : ((absorbAll recordKey joined first incoming).map recordKey).Nodup :=
    KeyedJoin.nodup_absorbAll joined_key firstOnce
  refine ⟨_, isMerged, (same.map recordKey).nodup_iff.mpr different, fun wanted => ?_⟩
  rw [(perm_iff_lookup ((same.map recordKey).nodup_iff.mpr different) different).mp same,
    KeyedJoin.lookup_absorbAll joined_key once]

end Merge

/-- The records that are held somewhere. -/
def Held (lists : List AssignmentSyncRecord → Prop) (record : AssignmentSyncRecord) : Prop :=
  ∃ list, lists list ∧ record ∈ list

/-- Valid records, in which a key has one scope. -/
structure Scoped (lists : List AssignmentSyncRecord → Prop) : Prop where
  valid : ∀ record, Held lists record → record.valid = true
  matched : ∀ first second, Held lists first → Held lists second →
    recordKey first = recordKey second → first.Matched second

def Carries (results inputs : List AssignmentSyncRecord) : Prop :=
  ∀ input ∈ inputs, ∃ record ∈ results, recordKey record = recordKey input ∧ record.Covers input

def SameRecords (first second : Except String (List AssignmentSyncRecord)) : Prop :=
  ∃ left right, first = .ok left ∧ second = .ok right ∧ left.Perm right

/-- Nothing is lost, each key is there once, and the order of syncing does not matter. -/
structure SyncLaws (localeLe : JsText → JsText → Bool)
    (lists : List AssignmentSyncRecord → Prop) : Prop where
  enqueued : ∀ queue record, lists queue → Held lists record →
    ∃ queued, enqueueAssignmentSync queue record = .ok queued ∧ Carries queued (record :: queue)
  merged : ∀ first second, lists first → lists second →
    ∃ merged, mergeAssignmentSync localeLe first second = .ok merged ∧
      (merged.map recordKey).Nodup ∧ Carries merged (first ++ second)
  commutative : ∀ first second, lists first → lists second →
    SameRecords (mergeAssignmentSync localeLe first second)
      (mergeAssignmentSync localeLe second first)
  associative : ∀ first second third, lists first → lists second → lists third →
    SameRecords
      (mergeAssignmentSync localeLe first second >>= (mergeAssignmentSync localeLe · third))
      (mergeAssignmentSync localeLe second third >>= mergeAssignmentSync localeLe first)
  idempotent : ∀ list, lists list → SameRecords (mergeAssignmentSync localeLe list list) (.ok list)

/-- No list holds a key twice, digests are sorted sets, records of one key and revision differ in
nothing but progress, and no record has progress that a later one, or another one of its
revision, lacks. -/
structure Agreed (lists : List AssignmentSyncRecord → Prop) : Prop where
  once : ∀ list, lists list → (list.map recordKey).Nodup
  sorted : ∀ record, Held lists record → ∀ progress, record.progress = some progress →
    Sorted (before id) progress.evidenceDigests
  assigned : ∀ first second, Held lists first → Held lists second →
    recordKey first = recordKey second → first.revision = second.revision →
      { first with progress := second.progress } = second
  covered : ∀ first second, Held lists first → Held lists second →
    recordKey first = recordKey second → first.revision ≤ second.revision → second.Covers first

section Queue

variable {queue : List AssignmentSyncRecord} {item record : AssignmentSyncRecord}

theorem enqueue_new (valid : record.valid = true)
    (absent : ¬ recordKey record ∈ queue.map recordKey) :
    enqueueAssignmentSync queue record = .ok (queue ++ [record]) := by
  have missing : (queue.findIdx? fun item => recordKey item == recordKey record) = none := by
    rw [List.findIdx?_eq_none_iff]
    intro item inside
    exact beq_eq_false_iff_ne.mpr fun same => absent (same ▸ List.mem_map_of_mem inside)
  rw [enqueueAssignmentSync, valid, missing]
  rfl

/-- A record with a known key takes the place of an earlier revision. -/
theorem enqueue_known (once : (queue.map recordKey).Nodup) (valid : record.valid = true)
    (inside : item ∈ queue) (same : recordKey item = recordKey record) :
    ∃ existing : Nat, queue[existing]? = some item ∧ enqueueAssignmentSync queue record =
      .ok (if item.revision ≥ record.revision then queue else queue.set existing record) := by
  cases found : queue.findIdx? fun item => recordKey item == recordKey record with
  | none =>
    have other := List.findIdx?_eq_none_iff.mp found item inside
    rw [same, beq_self_eq_true] at other
    cases other
  | some existing =>
    obtain ⟨bound, isKey, -⟩ := List.findIdx?_eq_some_iff_getElem.mp found
    have isItem : queue[existing] = item := List.inj_on_of_nodup_map once (List.getElem_mem bound)
      inside ((beq_iff_eq.mp isKey).trans same.symm)
    have here : queue[existing]? = some item := by
      rw [List.getElem?_eq_getElem bound, isItem]
    refine ⟨existing, here, ?_⟩
    rw [enqueueAssignmentSync, valid, if_neg (by decide), found]
    dsimp only
    simp only [here, Option.any_some, decide_eq_true_eq]
    exact (apply_ite Except.ok _ _ _).symm

end Queue

theorem joined_matched {first second third : AssignmentSyncRecord} (one : first.Matched third)
    (other : second.Matched third) : (joined first second).Matched third := by
  refine ⟨?_, ?_, ?_⟩
  · rw [joined]
    split
    · exact other.learnerId
    · exact one.learnerId
  · rw [joined]
    split
    · exact other.lessonId
    · exact one.lessonId
  · intro progress last isProgress isLast
    rw [joined] at isProgress
    cases isFirst : first.progress with
    | none =>
      cases isSecond : second.progress with
      | none =>
        rw [isFirst, isSecond] at isProgress
        cases isProgress
      | some more =>
        rw [isFirst, isSecond] at isProgress
        obtain rfl := Option.some.inj isProgress
        exact other.scope more last isSecond isLast
    | some before =>
      have scope := one.scope before last isFirst isLast
      rw [isFirst] at isProgress
      cases isSecond : second.progress with
      | none =>
        rw [isSecond] at isProgress
        obtain rfl := Option.some.inj isProgress
        exact scope
      | some more =>
        rw [isSecond] at isProgress
        obtain rfl := Option.some.inj isProgress
        exact ⟨scope.learnerId, scope.lessonId, scope.lessonVersion⟩

theorem AssignmentSyncRecord.Matched.symm {first second : AssignmentSyncRecord}
    (matched : first.Matched second) : second.Matched first where
  learnerId := matched.learnerId.symm
  lessonId := matched.lessonId.symm
  scope one other isOne isOther := by
    have scope := matched.scope other one isOther isOne
    exact ⟨scope.learnerId.symm, scope.lessonId.symm, scope.lessonVersion.symm⟩

section Laws

variable {localeLe : JsText → JsText → Bool} {lists : List AssignmentSyncRecord → Prop}
  {first second merged : List AssignmentSyncRecord}

/-- What holds of the records of both lists, and of two that are joined, holds of the merged
ones. -/
theorem merged_all {holds : AssignmentSyncRecord → Prop} (once : (merged.map recordKey).Nodup)
    (joins : ∀ wanted, lookup recordKey merged wanted =
      Option.merge joined (lookup recordKey first wanted) (lookup recordKey second wanted))
    (firstHolds : ∀ record ∈ first, holds record) (secondHolds : ∀ record ∈ second, holds record)
    (closed : ∀ one other, recordKey one = recordKey other → holds one → holds other →
      holds (joined one other)) : ∀ record ∈ merged, holds record := by
  intro record inside
  have found := lookup_mem once inside
  rw [joins] at found
  cases one : lookup recordKey first (recordKey record) with
  | none =>
    rw [one, Option.merge_none_left] at found
    exact secondHolds record (lookup_some found).1
  | some left =>
    cases other : lookup recordKey second (recordKey record) with
    | none =>
      rw [one, other] at found
      obtain rfl := Option.some.inj found
      exact firstHolds _ (lookup_some one).1
    | some right =>
      rw [one, other] at found
      rw [← Option.some.inj found]
      exact closed left right ((lookup_some one).2.trans (lookup_some other).2.symm)
        (firstHolds left (lookup_some one).1) (secondHolds right (lookup_some other).1)

/-- Lists that are held are merged key by key. -/
theorem Scoped.merge (fits : Scoped lists) (once : ∀ list, lists list → (list.map recordKey).Nodup)
    (localeLe : JsText → JsText → Bool) (isFirst : lists first) (isSecond : lists second) :
    ∃ merged, mergeAssignmentSync localeLe first second = .ok merged ∧
      (merged.map recordKey).Nodup ∧ ∀ wanted, lookup recordKey merged wanted =
        Option.merge joined (lookup recordKey first wanted) (lookup recordKey second wanted) :=
  merge_ok localeLe (once first isFirst) (once second isSecond)
    (fun record inside => fits.valid record ⟨second, isSecond, inside⟩)
    fun one oneInside other otherInside =>
      fits.matched one other ⟨first, isFirst, oneInside⟩ ⟨second, isSecond, otherInside⟩

/-- The laws ask for agreement. -/
theorem SyncLaws.agreed (laws : SyncLaws localeLe lists) (fits : Scoped lists) :
    Agreed lists := by
  have once : ∀ list, lists list → (list.map recordKey).Nodup := by
    intro list isList
    obtain ⟨merged, isMerged, once, -⟩ := laws.merged list list isList isList
    exact (((merge_perm isMerged).map recordKey).nodup_iff.mp once).sublist
      (KeyedJoin.sublist_absorbAll joined_key)
  constructor
  · exact once
  · rintro record ⟨list, isList, inside⟩
    obtain ⟨merged, isMerged, different, joins⟩ := fits.merge once localeLe isList isList
    obtain ⟨left, right, isLeft, isRight, same⟩ := laws.idempotent list isList
    obtain rfl := Except.ok.inj (isMerged.symm.trans isLeft)
    obtain rfl := Except.ok.inj isRight
    have kept := (perm_iff_lookup different (once _ isList)).mp same (recordKey record)
    rw [joins, lookup_mem (once _ isList) inside] at kept
    exact (joined_self_iff record).mp (Option.some.inj kept)
  · rintro one other ⟨first, isFirst, oneInside⟩ ⟨second, isSecond, otherInside⟩ sameKey
    obtain ⟨merged, isMerged, different, joins⟩ := fits.merge once localeLe isFirst isSecond
    obtain ⟨back, isBack, backDifferent, backJoins⟩ := fits.merge once localeLe isSecond isFirst
    obtain ⟨left, right, isLeft, isRight, same⟩ := laws.commutative first second isFirst isSecond
    obtain rfl := Except.ok.inj (isMerged.symm.trans isLeft)
    obtain rfl := Except.ok.inj (isBack.symm.trans isRight)
    have found := (perm_iff_lookup different backDifferent).mp same (recordKey other)
    rw [joins, backJoins, lookup_mem (once _ isSecond) otherInside, ← sameKey,
      lookup_mem (once _ isFirst) oneInside] at found
    exact (joined_comm_iff (fits.matched one other ⟨first, isFirst, oneInside⟩
      ⟨second, isSecond, otherInside⟩ sameKey)).mp (Option.some.inj found)
  · rintro one other isOne ⟨queue, isQueue, otherInside⟩ sameKey earlier
    obtain ⟨existing, -, isQueued⟩ :=
      enqueue_known (once queue isQueue) (fits.valid one isOne) otherInside sameKey.symm
    obtain ⟨queued, isKept, carries⟩ := laws.enqueued queue one isQueue isOne
    rw [if_pos earlier] at isQueued
    obtain rfl := Except.ok.inj (isQueued.symm.trans isKept)
    obtain ⟨record, inside, isKey, covers⟩ := carries one List.mem_cons_self
    rwa [List.inj_on_of_nodup_map (once _ isQueue) inside otherInside (isKey.trans sameKey)]
      at covers

/-- Where the records agree, the queue keeps all progress. -/
theorem Agreed.enqueued (agreed : Agreed lists) (fits : Scoped lists)
    {queue : List AssignmentSyncRecord} {record : AssignmentSyncRecord} (isQueue : lists queue)
    (isHeld : Held lists record) :
    ∃ queued, enqueueAssignmentSync queue record = .ok queued ∧
      Carries queued (record :: queue) := by
  have valid := fits.valid record isHeld
  by_cases known : recordKey record ∈ queue.map recordKey
  · obtain ⟨item, inside, sameKey⟩ := List.mem_map.mp known
    obtain ⟨existing, here, isQueued⟩ :=
      enqueue_known (agreed.once queue isQueue) valid inside sameKey
    have isItem : Held lists item := ⟨queue, isQueue, inside⟩
    have placed := List.mem_set (List.getElem?_eq_some_iff.mp here).1 record
    refine ⟨_, isQueued, fun input isInput => ?_⟩
    obtain rfl | old := List.mem_cons.mp isInput
    · split
      · rename_i stale
        exact ⟨item, inside, sameKey, agreed.covered input item isHeld isItem sameKey.symm stale⟩
      · exact ⟨input, placed, rfl, covers_self input⟩
    · split
      · exact ⟨input, old, rfl, covers_self input⟩
      · rename_i newer
        by_cases isOld : input = item
        · rw [isOld]
          exact ⟨record, placed, sameKey.symm,
            agreed.covered item record isItem isHeld sameKey (Nat.le_of_not_le newer)⟩
        · obtain ⟨place, isPlace⟩ := List.getElem?_of_mem old
          refine ⟨input, List.mem_of_getElem? ((List.getElem?_set_ne ?_).trans isPlace), rfl,
            covers_self input⟩
          rintro rfl
          exact isOld (Option.some.inj (isPlace.symm.trans here))
  · refine ⟨_, enqueue_new valid known, fun input isInput => ⟨input, ?_, rfl, covers_self input⟩⟩
    rw [List.mem_append, List.mem_singleton, or_comm]
    exact List.mem_cons.mp isInput

/-- Merging keeps all progress. -/
theorem merged_carries (firstOnce : (first.map recordKey).Nodup)
    (secondOnce : (second.map recordKey).Nodup)
    (joins : ∀ wanted, lookup recordKey merged wanted =
      Option.merge joined (lookup recordKey first wanted) (lookup recordKey second wanted)) :
    Carries merged (first ++ second) := by
  intro input inside
  have found := joins (recordKey input)
  obtain isFirst | isSecond := List.mem_append.mp inside
  · rw [lookup_mem firstOnce isFirst] at found
    cases other : lookup recordKey second (recordKey input) with
    | none =>
      rw [other] at found
      exact ⟨input, (lookup_some found).1, rfl, covers_self input⟩
    | some right =>
      rw [other] at found
      exact ⟨_, (lookup_some found).1, (lookup_some found).2, (joined_covers input right).1⟩
  · rw [lookup_mem secondOnce isSecond] at found
    cases one : lookup recordKey first (recordKey input) with
    | none =>
      rw [one] at found
      exact ⟨input, (lookup_some found).1, rfl, covers_self input⟩
    | some left =>
      rw [one] at found
      exact ⟨_, (lookup_some found).1, (lookup_some found).2, (joined_covers left input).2⟩

/-- Merging three lists is associative.

Proof: what is found for a key is joined associatively. The records of a merged list are valid and
match the third list's, since joining keeps both. -/
theorem Agreed.associative (agreed : Agreed lists) (fits : Scoped lists)
    {third : List AssignmentSyncRecord} (isFirst : lists first) (isSecond : lists second)
    (isThird : lists third) :
    SameRecords
      (mergeAssignmentSync localeLe first second >>= (mergeAssignmentSync localeLe · third))
      (mergeAssignmentSync localeLe second third >>= mergeAssignmentSync localeLe first) := by
  have matched {left right : List AssignmentSyncRecord} (isLeft : lists left)
      (isRight : lists right) : ∀ one ∈ left, ∀ other ∈ right,
        recordKey one = recordKey other → one.Matched other :=
    fun one oneInside other otherInside => fits.matched one other ⟨left, isLeft, oneInside⟩ ⟨right, isRight, otherInside⟩
  obtain ⟨left, isLeft, leftOnce, leftJoins⟩ := fits.merge agreed.once localeLe isFirst isSecond
  obtain ⟨right, isRight, rightOnce, rightJoins⟩ :=
    fits.merge agreed.once localeLe isSecond isThird
  have leftMatched : ∀ one ∈ left, ∀ other ∈ third, recordKey one = recordKey other →
      one.Matched other := by
    refine merged_all leftOnce leftJoins (matched isFirst isThird) (matched isSecond isThird) ?_
    intro one other sameKey oneHolds otherHolds last inside isKey
    rw [joined_key _ _ sameKey] at isKey
    exact joined_matched (oneHolds last inside (sameKey.trans isKey)) (otherHolds last inside isKey)
  have rightMatched : ∀ other ∈ right, ∀ one ∈ first, recordKey one = recordKey other →
      one.Matched other := by
    refine merged_all rightOnce rightJoins
      (fun other otherInside one oneInside =>
        matched isFirst isSecond one oneInside other otherInside)
      (fun other otherInside one oneInside =>
        matched isFirst isThird one oneInside other otherInside) ?_
    intro one other sameKey oneHolds otherHolds last inside isKey
    rw [joined_key _ _ sameKey] at isKey
    exact (joined_matched (oneHolds last inside (isKey.trans sameKey.symm)).symm
      (otherHolds last inside isKey).symm).symm
  have rightValid : ∀ record ∈ right, record.valid = true :=
    merged_all rightOnce rightJoins (fun record inside => fits.valid record ⟨_, isSecond, inside⟩)
      (fun record inside => fits.valid record ⟨_, isThird, inside⟩)
      fun _ _ _ oneValid otherValid => joined_valid oneValid otherValid
  obtain ⟨one, isOne, oneOnce, oneJoins⟩ := merge_ok localeLe leftOnce
    (agreed.once third isThird) (fun record inside => fits.valid record ⟨third, isThird, inside⟩)
    leftMatched
  obtain ⟨other, isOther, otherOnce, otherJoins⟩ := merge_ok localeLe
    (agreed.once first isFirst) rightOnce rightValid fun one oneInside other otherInside =>
      rightMatched other otherInside one oneInside
  rw [isLeft, isRight]
  refine ⟨one, other, isOne, isOther, (perm_iff_lookup oneOnce otherOnce).mpr fun wanted => ?_⟩
  rw [oneJoins, leftJoins, otherJoins, rightJoins]
  cases lookup recordKey first wanted <;> cases lookup recordKey second wanted <;>
    cases lookup recordKey third wanted <;> simp only [Option.merge, joined_assoc]

/-- The laws hold exactly for lists whose records agree.

Proof: both sides are seen by looking keys up. A merge finds the joined records, and joining
commutes, and is idempotent, exactly where the records agree. -/
theorem assignments_synced_iff (fits : Scoped lists) :
    SyncLaws localeLe lists ↔ Agreed lists := by
  refine ⟨fun laws => laws.agreed fits, fun agreed => ?_⟩
  constructor
  · exact fun queue record isQueue isHeld => agreed.enqueued fits isQueue isHeld
  · intro first second isFirst isSecond
    obtain ⟨merged, isMerged, different, joins⟩ := fits.merge agreed.once localeLe isFirst isSecond
    exact ⟨merged, isMerged, different,
      merged_carries (agreed.once first isFirst) (agreed.once second isSecond) joins⟩
  · intro first second isFirst isSecond
    obtain ⟨merged, isMerged, different, joins⟩ := fits.merge agreed.once localeLe isFirst isSecond
    obtain ⟨back, isBack, backDifferent, backJoins⟩ :=
      fits.merge agreed.once localeLe isSecond isFirst
    refine ⟨merged, back, isMerged, isBack,
      (perm_iff_lookup different backDifferent).mpr fun wanted => ?_⟩
    rw [joins, backJoins]
    cases isOne : lookup recordKey first wanted with
    | none => cases lookup recordKey second wanted <;> rfl
    | some one =>
      cases isOther : lookup recordKey second wanted with
      | none => rfl
      | some other =>
        have oneHeld : Held lists one := ⟨first, isFirst, (lookup_some isOne).1⟩
        have otherHeld : Held lists other := ⟨second, isSecond, (lookup_some isOther).1⟩
        have sameKey := (lookup_some isOne).2.trans (lookup_some isOther).2.symm
        have matched := fits.matched one other oneHeld otherHeld sameKey
        exact congrArg some ((joined_comm_iff matched).mpr
          (agreed.assigned one other oneHeld otherHeld sameKey))
  · exact fun first second third isFirst isSecond isThird =>
      agreed.associative fits isFirst isSecond isThird
  · intro list isList
    obtain ⟨merged, isMerged, different, joins⟩ := fits.merge agreed.once localeLe isList isList
    refine ⟨merged, list, isMerged, rfl,
      (perm_iff_lookup different (agreed.once list isList)).mpr fun wanted => ?_⟩
    rw [joins]
    cases found : lookup recordKey list wanted with
    | none => rfl
    | some record =>
      exact congrArg some ((joined_self_iff record).mpr
        (agreed.sorted record ⟨list, isList, (lookup_some found).1⟩))

end Laws

def sampleAssignment (revision completedSteps : Nat) : AssignmentSyncRecord where
  assignmentId := [97]
  workspaceId := [99]
  assignment := ⟨[115], [108], none, none⟩
  progress := some ⟨[115], [108], 1, completedSteps, [], false⟩
  revision := revision

theorem scoped_samples {lists : List AssignmentSyncRecord → Prop}
    (samples : ∀ record, Held lists record → ∃ revision completedSteps,
      1 ≤ revision ∧ record = sampleAssignment revision completedSteps) : Scoped lists := by
  constructor
  · intro record isHeld
    obtain ⟨revision, completedSteps, positive, rfl⟩ := samples record isHeld
    exact decide_eq_true positive
  · intro first second isFirst isSecond _
    obtain ⟨_, _, _, rfl⟩ := samples first isFirst
    obtain ⟨_, _, _, rfl⟩ := samples second isSecond
    refine ⟨rfl, rfl, ?_⟩
    rintro _ _ ⟨⟩ ⟨⟩
    exact ⟨rfl, rfl, rfl⟩

/-- An assignment whose progress grows with its revision. -/
def growingRecord (assignment revision : Fin 3) : AssignmentSyncRecord where
  assignmentId := [97 + .ofNat assignment]
  workspaceId := [99]
  assignment := ⟨[115], [108], none, none⟩
  progress := some ⟨[115], [108], 1, revision,
    (List.range revision).map fun step => [48 + .ofNat step], decide (2 ≤ revision.val)⟩
  revision := revision + 1

/-- The lists of devices that have seen some of three revisions of three assignments: a revision
may be missing, stale or the same on two devices. -/
def growingLists (list : List AssignmentSyncRecord) : Prop :=
  (list.map recordKey).Nodup ∧
    ∀ record ∈ list, ∃ assignment revision, record = growingRecord assignment revision

theorem growing_held {record : AssignmentSyncRecord} (held : Held growingLists record) :
    ∃ assignment revision, record = growingRecord assignment revision :=
  have ⟨_, listed, inside⟩ := held
  listed.2 record inside

theorem growing_key : ∀ assignment other revision later : Fin 3,
    recordKey (growingRecord assignment revision) = recordKey (growingRecord other later) →
      assignment = other := by
  decide

theorem growing_scoped : Scoped growingLists := by
  have valid : ∀ assignment revision, (growingRecord assignment revision).valid = true := by decide
  constructor
  · intro record held
    obtain ⟨assignment, revision, rfl⟩ := growing_held held
    exact valid assignment revision
  · intro first second isFirst isSecond _
    obtain ⟨_, _, rfl⟩ := growing_held isFirst
    obtain ⟨_, _, rfl⟩ := growing_held isSecond
    refine ⟨rfl, rfl, ?_⟩
    rintro _ _ ⟨⟩ ⟨⟩
    exact ⟨rfl, rfl, rfl⟩

example : [growingRecord 2 2, growingRecord 0 0, growingRecord 1 2].foldlM mergeRecord
    [growingRecord 0 1, growingRecord 1 0] =
      .ok [growingRecord 0 1, growingRecord 1 2, growingRecord 2 2] := by
  decide

/-- Such devices sync in any order. -/
theorem growing_assignments_synced :
    SyncLaws (fun left right => (compare left right).isLE) growingLists := by
  refine (assignments_synced_iff growing_scoped).mpr ⟨fun list listed => listed.1, ?_, ?_, ?_⟩
  · have sorted : ∀ revision : Fin 3, Sorted (before id)
        ((List.range revision).map fun step => [48 + UInt16.ofNat step]) := by
      unfold Sorted
      decide
    intro record held progress isProgress
    obtain ⟨assignment, revision, rfl⟩ := growing_held held
    obtain rfl := Option.some.inj isProgress
    exact sorted revision
  · intro first second isFirst isSecond sameKey sameRevision
    obtain ⟨assignment, revision, rfl⟩ := growing_held isFirst
    obtain ⟨other, again, rfl⟩ := growing_held isSecond
    obtain rfl := growing_key _ _ _ _ sameKey
    obtain rfl := Fin.ext (Nat.succ.inj sameRevision)
    rfl
  · intro first second isFirst isSecond sameKey earlier
    obtain ⟨assignment, revision, rfl⟩ := growing_held isFirst
    obtain ⟨other, later, rfl⟩ := growing_held isSecond
    have steps : revision.val ≤ later := Nat.le_of_succ_le_succ earlier
    intro progress isProgress
    obtain rfl := Option.some.inj isProgress
    refine ⟨_, rfl, steps, fun digest inside => ?_, fun complete => ?_⟩
    · obtain ⟨step, early, rfl⟩ := List.mem_map.mp inside
      rw [List.mem_range] at early
      exact List.mem_map_of_mem (List.mem_range.mpr (by omega))
    · rw [decide_eq_true_eq] at complete ⊢
      omega

/-- A later revision without progress takes the place of an earlier one in the queue, and its
steps are lost. -/
theorem queued_progress_lost : ¬ ∀ localeLe lists, Scoped lists → SyncLaws localeLe lists := by
  intro always
  have fits : Scoped fun list => list = [sampleAssignment 1 5] ∨ list = [sampleAssignment 2 0] := by
    refine scoped_samples ?_
    rintro record ⟨_, rfl | rfl, inside⟩
    · exact ⟨1, 5, by decide, List.mem_singleton.mp inside⟩
    · exact ⟨2, 0, by decide, List.mem_singleton.mp inside⟩
  obtain ⟨queued, isQueued, carries⟩ := (always (fun _ _ => true) _ fits).enqueued
    [sampleAssignment 1 5] (sampleAssignment 2 0) (.inl rfl)
    ⟨_, .inr rfl, List.mem_singleton_self _⟩
  obtain rfl : [sampleAssignment 2 0] = queued := Except.ok.inj isQueued
  obtain ⟨record, inside, -, covers⟩ := carries (sampleAssignment 1 5) (by simp)
  obtain rfl := List.mem_singleton.mp inside
  obtain ⟨whole, isWhole, steps, -⟩ := covers _ rfl
  obtain rfl := Option.some.inj isWhole
  exact absurd steps (by decide)

end PoisonedOS.Dashboard
