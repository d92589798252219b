import PoisonedOS.Dashboard.AssignmentSync
import PoisonedOS.Library.Numbered
import PoisonedOS.Library.Runs

/-!
# The store of project revisions

The revisions of a project are kept in the memory of the page and in a database. A revision is
saved under the number after the latest one in memory; when a project is loaded, the numbers in
the database must be those from one on, and the memory is filled again. A reload of the page
empties the memory.

The memory is written before the database, so that a revision stays there whose writing failed.
While the memory has no revision of a project, any number is accepted, whatever the database has.

A store without a database is modelled too. The records of the database are listed in the order
in which they were written; the order of its keys cannot be seen after sorting.
-/

namespace PoisonedOS.Dashboard

open Numbered

/-- `ProjectRevision`. A file is a path and a source. -/
structure ProjectRevision (Manifest : Type) where
  id : JsText
  projectId : JsText
  revision : Int
  digest : JsText
  manifest : Manifest
  files : List (JsText × JsText)

variable {Manifest : Type}

namespace ProjectRevision

/-- `Number.MAX_SAFE_INTEGER`. -/
def maxSafeInteger : Int := 9007199254740991

/-- `DIGEST`: 64 lower-case hexadecimal digits. -/
def digestValid (digest : JsText) : Bool :=
  decide (digest.length = 64) && digest.all fun unit =>
    (48 ≤ unit && unit ≤ 57) || (97 ≤ unit && unit ≤ 102)

/-- The check of one file in `validateRevision`. -/
def fileValid (file : JsText × JsText) : Bool :=
  !file.1.isEmpty && decide (¬ [46, 46] <:+: file.1) && decide (file.2.length ≤ 1024 * 1024)

/-- `validateRevision`. -/
def isValid (value : ProjectRevision Manifest) : Bool :=
  !value.projectId.isEmpty && decide (1 ≤ value.revision) &&
    decide (value.revision ≤ maxSafeInteger) && digestValid value.digest &&
    value.files.all fileValid

end ProjectRevision

/-- `MEMORY`, where a project that is not there has no revisions, and the records of the database.
The database may be unavailable. -/
structure RevisionStore (Manifest : Type) where
  available : Bool
  memory : JsText → List (ProjectRevision Manifest)
  database : List (ProjectRevision Manifest)

/-- What a save returns; it may throw. -/
inductive SaveResult (Manifest : Type) where
  | saved (value : ProjectRevision Manifest)
  | conflict (expectedRevision actualRevision : Int)
  | thrown

namespace RevisionStore

variable (store : RevisionStore Manifest)

/-- `put` of a record, whose key is its `id`. -/
def put (value : ProjectRevision Manifest) : RevisionStore Manifest :=
  { store with database := store.database.filter (fun record => record.id ≠ value.id) ++ [value] }

/-- The map after `MEMORY.set`. -/
def set (projectId : JsText) (revisions : List (ProjectRevision Manifest)) :
    RevisionStore Manifest :=
  { store with memory := Function.update store.memory projectId revisions }

/-- The number that the latest revision in memory leaves for the next one. -/
def expected (projectId : JsText) : Option Int :=
  (store.memory projectId).getLast?.map fun latest => latest.revision + 1

/-- The revision passes the checks of a save. -/
def enters (value : ProjectRevision Manifest) : Bool :=
  value.isValid && (store.expected value.projectId).all (· == value.revision)

/-- `saveProjectRevision`, where one of the operations on the database may fail. -/
def saveProjectRevision (value : ProjectRevision Manifest) (fails : Bool) :
    SaveResult Manifest × RevisionStore Manifest :=
  if !value.isValid then (.thrown, store)
  else if !store.enters value then
    (.conflict ((store.expected value.projectId).getD 0) value.revision, store)
  else
    let kept := store.set value.projectId (store.memory value.projectId ++ [value])
    if !store.available then (.saved value, kept)
    else if fails then (.thrown, kept)
    else (.saved value, kept.put value)

/-- The numbers of the revisions are those from one on. -/
def inSequence (revisions : List (ProjectRevision Manifest)) : Bool :=
  revisions.zipIdx.all fun entry => entry.1.revision == entry.2 + 1

/-- `loadProjectRevisions`, which throws or returns the revisions. -/
def loadProjectRevisions (projectId : JsText) (fails : Bool) :
    Option (List (ProjectRevision Manifest)) × RevisionStore Manifest :=
  if projectId.isEmpty then (none, store)
  else if !store.available then (some (store.memory projectId), store)
  else if fails then (none, store)
  else
    let records := store.database.filter fun record => record.projectId = projectId
    let revisions := records.insertionSort fun left right => left.revision ≤ right.revision
    if !records.all ProjectRevision.isValid || !inSequence revisions then (none, store)
    else if revisions.isEmpty then (some (store.memory projectId), store)
    else (some revisions, store.set projectId revisions)

/-- The page is loaded again. -/
def reload : RevisionStore Manifest := { store with memory := fun _ => [] }

end RevisionStore

/-! ## Runs -/

/-- What happens to the store. An operation on the database may fail in a save or a load. -/
inductive RevisionEvent (Manifest : Type) where
  | save (value : ProjectRevision Manifest) (fails : Bool)
  | load (projectId : JsText) (fails : Bool)
  | reload

/-- The store, and the revisions that were accepted so far. -/
structure RevisionHistory (Manifest : Type) where
  store : RevisionStore Manifest
  accepted : List (ProjectRevision Manifest)

namespace RevisionHistory

/-- The store at first. -/
def start (available : Bool) : RevisionHistory Manifest := ⟨⟨available, fun _ => [], []⟩, []⟩

/-- One event. -/
def step (event : RevisionEvent Manifest) (history : RevisionHistory Manifest) :
    RevisionHistory Manifest :=
  match event with
  | .save value fails =>
    let saved := history.store.saveProjectRevision value fails
    match saved.1 with
    | .saved revision => ⟨saved.2, history.accepted ++ [revision]⟩
    | _ => ⟨saved.2, history.accepted⟩
  | .load projectId fails =>
    ⟨(history.store.loadProjectRevisions projectId fails).2, history.accepted⟩
  | .reload => ⟨history.store.reload, history.accepted⟩

def acceptedOf (history : RevisionHistory Manifest) (projectId : JsText) :
    List (ProjectRevision Manifest) :=
  history.accepted.filter fun value => value.projectId = projectId

end RevisionHistory

/-- The history before an event of a run. -/
def historyAt (available : Bool) (events : List (RevisionEvent Manifest)) (index : Nat) :
    RevisionHistory Manifest :=
  Runs.reached RevisionHistory.step (.start available) events index

/-- What is asked of the store along a run. A load whose own operation fails cannot succeed. -/
structure Durable (available : Bool) (events : List (RevisionEvent Manifest)) : Prop where
  loads : ∀ index projectId, events[index]? = some (.load projectId false) → projectId ≠ [] →
    ((historyAt available events index).store.loadProjectRevisions projectId false).1 =
      some ((historyAt available events index).acceptedOf projectId)
  throws : ∀ index value fails, events[index]? = some (.save value fails) →
    ((historyAt available events index).store.saveProjectRevision value fails).1 = .thrown →
    (historyAt available events (index + 1)).store = (historyAt available events index).store
  unique : ∀ index, ∀ value ∈ (historyAt available events index).accepted,
    ∀ other, other ∈ (historyAt available events index).accepted ∨
        other ∈ (historyAt available events index).store.memory value.projectId ∨
        other ∈ (historyAt available events index).store.database →
      other.projectId = value.projectId → other.revision = value.revision → other = value

/-- An event after which the promise may be broken: a save that passes the checks while an
operation on the database fails or its number is not the next one of the project, and a reload
that loses revisions because there is no database. -/
def RevisionHistory.Endangers (history : RevisionHistory Manifest) :
    RevisionEvent Manifest → Prop
  | .save value fails => history.store.enters value = true ∧
      (history.store.available = true ∧ fails = true ∨
        value.revision ≠ (history.acceptedOf value.projectId).length + 1)
  | .load _ _ => False
  | .reload => history.store.available = false ∧ history.accepted ≠ []

instance (history : RevisionHistory Manifest) (event : RevisionEvent Manifest) :
    Decidable (history.Endangers event) :=
  match event with
  | .save value fails => inferInstanceAs (Decidable (history.store.enters value = true ∧
      (history.store.available = true ∧ fails = true ∨
        value.revision ≠ (history.acceptedOf value.projectId).length + 1)))
  | .load _ _ => inferInstanceAs (Decidable False)
  | .reload =>
    inferInstanceAs (Decidable (history.store.available = false ∧ history.accepted ≠ []))

def DistinctIds (events : List (RevisionEvent Manifest)) : Prop :=
  ∀ left leftFails right rightFails, .save left leftFails ∈ events →
    .save right rightFails ∈ events → left.id = right.id → left = right

/-! ## What a run keeps -/

/-- What holds in each state: the accepted revisions of a project are numbered, the memory has the
latest of them, and the database all. -/
structure Kept (events : List (RevisionEvent Manifest)) (history : RevisionHistory Manifest) :
    Prop where
  numbered : ∀ projectId, IsNumbered ProjectRevision.revision (history.acceptedOf projectId)
  cached : ∀ projectId, history.store.memory projectId <:+ history.acceptedOf projectId
  whole : history.store.available = false →
    ∀ projectId, history.store.memory projectId = history.acceptedOf projectId
  stored : history.store.database = if history.store.available then history.accepted else []
  valid : ∀ value ∈ history.accepted, value.isValid = true
  saved : ∀ value ∈ history.accepted, ∃ fails, .save value fails ∈ events

variable {events : List (RevisionEvent Manifest)} {history : RevisionHistory Manifest}
  {value : ProjectRevision Manifest} {projectId : JsText}

theorem acceptedOf_concat (store : RevisionStore Manifest)
    (accepted : List (ProjectRevision Manifest)) (value : ProjectRevision Manifest)
    (projectId : JsText) :
    RevisionHistory.acceptedOf ⟨store, accepted ++ [value]⟩ projectId =
      RevisionHistory.acceptedOf ⟨store, accepted⟩ projectId ++
        if value.projectId = projectId then [value] else [] := by
  rw [RevisionHistory.acceptedOf, List.filter_append]
  split
  · rename_i same
    rw [List.filter_cons_of_pos (by simpa using same), List.filter_nil]
    rfl
  · rename_i other
    rw [List.filter_cons_of_neg (by simpa using other), List.filter_nil]
    rfl

theorem kept_start (available : Bool) (events : List (RevisionEvent Manifest)) :
    Kept events (.start available) where
  numbered := fun _ => isNumbered_nil
  cached := fun _ => List.nil_suffix
  whole := fun _ _ => rfl
  stored := by cases available <;> rfl
  valid := fun _ isValue => absurd isValue List.not_mem_nil
  saved := fun _ isValue => absurd isValue List.not_mem_nil

theorem Kept.accept {fails : Bool} (kept : Kept events history) (distinct : DistinctIds events)
    (isEvent : .save value fails ∈ events) (valid : value.isValid = true)
    (next : value.revision = (history.acceptedOf value.projectId).length + 1)
    {after : RevisionStore Manifest}
    (available : after.available = history.store.available)
    (memory : after.memory = Function.update history.store.memory value.projectId
      (history.store.memory value.projectId ++ [value]))
    (database : after.database = if history.store.available then
      history.store.database.filter (fun record => record.id ≠ value.id) ++ [value]
      else history.store.database) :
    Kept events ⟨after, history.accepted ++ [value]⟩ := by
  have fresh : ∀ record ∈ history.accepted, record.id ≠ value.id := by
    intro record isRecord same
    obtain ⟨recordFails, isSave⟩ := kept.saved record isRecord
    obtain rfl := distinct record recordFails value fails isSave isEvent same
    have bounded := number_le (kept.numbered record.projectId)
      (List.mem_filter.mpr ⟨isRecord, by simp⟩)
    omega
  refine ⟨fun projectId => ?_, fun projectId => ?_, fun absent projectId => ?_, ?_, ?_, ?_⟩
  · rw [acceptedOf_concat]
    split
    · rename_i same
      subst same
      exact isNumbered_concat (kept.numbered _) next
    · rw [List.append_nil]
      exact kept.numbered projectId
  · rw [acceptedOf_concat, memory]
    by_cases same : value.projectId = projectId
    · subst same
      rw [if_pos rfl, Function.update_self]
      exact (List.suffix_append_self_iff).mpr (kept.cached _)
    · rw [if_neg same, List.append_nil, Function.update_of_ne (Ne.symm same)]
      exact kept.cached projectId
  · rw [available] at absent
    rw [acceptedOf_concat, memory]
    by_cases same : value.projectId = projectId
    · subst same
      rw [if_pos rfl, Function.update_self, kept.whole absent]
      rfl
    · rw [if_neg same, List.append_nil, Function.update_of_ne (Ne.symm same)]
      exact kept.whole absent projectId
  · rw [available, database, kept.stored]
    split
    · rw [List.filter_eq_self.mpr fun record isRecord => by simpa using fresh record isRecord]
    · rfl
  · intro other isOther
    obtain earlier | last := List.mem_append.mp isOther
    · exact kept.valid other earlier
    · rw [List.mem_singleton.mp last]
      exact valid
  · intro other isOther
    obtain earlier | last := List.mem_append.mp isOther
    · exact kept.saved other earlier
    · rw [List.mem_singleton.mp last]
      exact ⟨fails, isEvent⟩

/-- A load that reads the database finds the accepted revisions. -/
theorem Kept.load (kept : Kept events history) (projectId : JsText) (fails : Bool) :
    history.store.loadProjectRevisions projectId fails = (none, history.store) ∧
        (projectId = [] ∨ fails = true) ∨
      (history.store.loadProjectRevisions projectId fails).1 =
          some (history.acceptedOf projectId) ∧
        ((history.store.loadProjectRevisions projectId fails).2 = history.store ∨
          history.store.available = true ∧
            (history.store.loadProjectRevisions projectId fails).2 =
              history.store.set projectId (history.acceptedOf projectId)) := by
  rw [RevisionStore.loadProjectRevisions]
  split
  · rename_i unnamed
    exact .inl ⟨rfl, .inl (List.isEmpty_iff.mp unnamed)⟩
  split
  · rename_i absent
    refine .inr ⟨?_, .inl rfl⟩
    dsimp only
    rw [kept.whole (by simpa using absent)]
  split
  · rename_i failed
    exact .inl ⟨rfl, .inr failed⟩
  rename_i available _
  have available : history.store.available = true := by simpa using available
  have database : history.store.database = history.accepted := by
    rw [kept.stored, if_pos available]
  have read : (history.accepted.filter fun record => record.projectId = projectId) =
      history.acceptedOf projectId := rfl
  have sorted : (history.acceptedOf projectId).insertionSort
      (fun left right => left.revision ≤ right.revision) = history.acceptedOf projectId :=
    (pairwise_le (kept.numbered projectId)).insertionSort_eq
  have valid : (history.acceptedOf projectId).all ProjectRevision.isValid = true :=
    List.all_eq_true.mpr fun record isRecord => kept.valid record (List.mem_filter.mp isRecord).1
  have sequence : RevisionStore.inSequence (history.acceptedOf projectId) = true := by
    refine List.all_eq_true.mpr fun entry isEntry => beq_iff_eq.mpr ?_
    exact kept.numbered projectId entry.2 entry.1 (List.mem_zipIdx_iff_getElem?.mp isEntry)
  simp only [database, read, sorted, valid, sequence, Bool.not_true, Bool.or_self,
    Bool.false_eq_true, if_false]
  refine .inr ?_
  cases found : history.acceptedOf projectId with
  | nil =>
    have suffix := kept.cached projectId
    rw [found, List.suffix_nil] at suffix
    exact ⟨by simp [suffix], .inl rfl⟩
  | cons first rest => exact ⟨rfl, .inr ⟨available, rfl⟩⟩

/-- The same revisions in memory as were accepted. -/
theorem Kept.fill (kept : Kept events history) (projectId : JsText) :
    Kept events ⟨history.store.set projectId (history.acceptedOf projectId),
      history.accepted⟩ where
  numbered := kept.numbered
  cached := by
    intro other
    rw [RevisionStore.set]
    dsimp only
    by_cases same : other = projectId
    · subst same
      rw [Function.update_self]
      exact List.suffix_rfl
    · rw [Function.update_of_ne same]
      exact kept.cached other
  whole := by
    intro absent other
    by_cases same : other = projectId
    · subst same
      exact Function.update_self other _ history.store.memory
    · exact (Function.update_of_ne same _ history.store.memory).trans (kept.whole absent other)
  stored := kept.stored
  valid := kept.valid
  saved := kept.saved

/-- Each event that does not endanger the promise keeps what holds.

Proof: a save that passes the checks has the next number and is written to both places; a load
fills the memory with the accepted revisions; a reload empties the memory. -/
theorem Kept.step (kept : Kept events history) (distinct : DistinctIds events)
    {event : RevisionEvent Manifest} (isEvent : event ∈ events)
    (safe : ¬ history.Endangers event) : Kept events (history.step event) := by
  cases event with
  | save value fails =>
    rw [RevisionHistory.step, RevisionStore.saveProjectRevision]
    by_cases valid : value.isValid = true
    · rw [valid]
      cases enters : history.store.enters value with
      | false => exact kept
      | true =>
        rw [RevisionHistory.Endangers, not_and] at safe
        obtain ⟨unfailed, next⟩ := not_or.mp (safe enters)
        have next := not_not.mp next
        cases available : history.store.available with
        | false =>
          simp only [Bool.not_true, Bool.not_false, Bool.false_eq_true, if_false, if_true]
          exact kept.accept distinct isEvent valid next rfl rfl (by rw [available]; rfl)
        | true =>
          have unfailed : fails = false := by simpa [available] using unfailed
          simp only [unfailed, Bool.not_true, Bool.false_eq_true, if_false]
          exact kept.accept distinct isEvent valid next rfl rfl (by rw [available]; rfl)
    · rw [Bool.not_eq_true] at valid
      rw [valid]
      exact kept
  | load projectId fails =>
    rw [RevisionHistory.step]
    obtain ⟨same, -⟩ | ⟨-, same | ⟨-, filled⟩⟩ := kept.load projectId fails
    · rw [same]
      exact kept
    · rw [same]
      exact kept
    · rw [filled]
      exact kept.fill projectId
  | reload =>
    refine ⟨kept.numbered, fun projectId => List.nil_suffix, fun absent projectId => ?_,
      kept.stored, kept.valid, kept.saved⟩
    have none : history.accepted = [] := not_not.mp fun some => safe ⟨absent, some⟩
    rw [RevisionHistory.acceptedOf, RevisionHistory.step, none]
    rfl

section Runs

variable {available : Bool}

theorem kept_along (distinct : DistinctIds events)
    (safe : ∀ index event, events[index]? = some event →
      ¬ (historyAt available events index).Endangers event) (index : Nat) :
    Kept events (historyAt available events index) :=
  Runs.always (motive := Kept events) (kept_start available events)
    (fun index event taken kept => kept.step distinct (List.mem_of_getElem? taken)
      (safe index event taken)) index

/-- The store keeps its promise in each run of which no event endangers it.

Proof: in each state the memory has the latest of the accepted revisions and the database all. -/
theorem revisions_durable (available : Bool) (events : List (RevisionEvent Manifest))
    (distinct : DistinctIds events) (safe : ∀ index event, events[index]? = some event →
      ¬ (historyAt available events index).Endangers event) : Durable available events := by
  have kept := kept_along distinct safe
  refine ⟨fun index projectId _ named => ?_, fun index value fails taken thrown => ?_,
    fun index value isValue other isOther sameProject sameNumber => ?_⟩
  · obtain ⟨-, unnamed | failed⟩ | ⟨found, -⟩ := (kept index).load projectId false
    · exact absurd unnamed named
    · cases failed
    · exact found
  · have harmless := safe index _ taken
    have advanced : historyAt available events (index + 1) =
        (historyAt available events index).step (.save value fails) := Runs.reached_succ taken
    rw [advanced, RevisionHistory.step, thrown]
    dsimp only
    rw [RevisionStore.saveProjectRevision] at thrown ⊢
    split
    · rfl
    rename_i valid
    rw [if_neg valid] at thrown
    split
    · rfl
    rename_i enters
    rw [if_neg enters] at thrown
    split
    · rename_i absent
      rw [if_pos absent] at thrown
      cases thrown
    rename_i present
    rw [if_neg present] at thrown
    split
    · rename_i failed
      exact absurd ⟨by simpa using enters, .inl ⟨by simpa using present, failed⟩⟩ harmless
    · rename_i unfailed
      rw [if_neg unfailed] at thrown
      cases thrown
  · have accepted : other ∈ (historyAt available events index).accepted := by
      obtain isAccepted | cached | stored := isOther
      · exact isAccepted
      · exact (List.mem_filter.mp (((kept index).cached _).subset cached)).1
      · rw [(kept index).stored] at stored
        split at stored
        · exact stored
        · cases stored
    exact eq_of_number ((kept index).numbered value.projectId)
      (List.mem_filter.mpr ⟨accepted, by simpa using sameProject⟩)
      (List.mem_filter.mpr ⟨isValue, by simp⟩) sameNumber

end Runs

def sampleRevision (id : UInt16) (revision : Int) : ProjectRevision Unit where
  id := [id]
  projectId := [112]
  revision
  digest := List.replicate 64 48
  manifest := ()
  files := []

/-- Two revisions are saved and loaded with a reload between them. -/
def sampleRevisionEvents : List (RevisionEvent Unit) :=
  [.save (sampleRevision 1 1) false, .reload, .load [112] false, .save (sampleRevision 2 2) false,
    .reload, .load [112] false]

/-- Both are found. -/
theorem sampleRevisionEvents_durable : Durable true sampleRevisionEvents := by
  refine revisions_durable true sampleRevisionEvents ?_ ?_
  · intro left leftFails right rightFails isLeft isRight same
    simp only [sampleRevisionEvents, List.mem_cons, RevisionEvent.save.injEq, reduceCtorEq,
      false_or, List.not_mem_nil, or_false] at isLeft isRight
    obtain ⟨rfl, -⟩ | ⟨rfl, -⟩ := isLeft <;> obtain ⟨rfl, -⟩ | ⟨rfl, -⟩ := isRight
    · rfl
    · exact absurd same (by decide)
    · exact absurd same (by decide)
    · rfl
  · intro index event taken
    have safe : ∀ index < 6, ∀ event ∈ sampleRevisionEvents[index]?,
        ¬ (historyAt true sampleRevisionEvents index).Endangers event := by
      decide +kernel
    exact safe index (List.getElem?_eq_some_iff.mp taken).1 event taken

/-- The writing of a revision fails; the memory keeps it all the same. -/
theorem failed_save_remembered : ¬ ∀ available (events : List (RevisionEvent Unit)),
    DistinctIds events → Durable available events := by
  intro durable
  have distinct : DistinctIds [.save (sampleRevision 1 1) true] := by
    intro left leftFails right rightFails isLeft isRight _
    cases List.mem_singleton.mp isLeft
    cases List.mem_singleton.mp isRight
    rfl
  have unchanged := (durable true _ distinct).throws 0 _ _ rfl rfl
  have remembered := congrArg (fun store => (store.memory [112]).length) unchanged
  exact absurd remembered (by decide +kernel)

end PoisonedOS.Dashboard
