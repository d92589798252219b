import PoisonedOS.Library.KeyedJoin
import PoisonedOS.Library.KeyedList

/-!
# Syncing assignments

The records of a learner's assignments are kept in a queue and merged with those of other
devices. Records of one workspace and assignment are one record; the newer revision counts,
and the progress of both is joined.

Texts are UTF-16 units. The comparison of `localeCompare` is a parameter.
-/

namespace PoisonedOS.Dashboard

/-- A string, by its UTF-16 units. -/
abbrev JsText := List UInt16

/-- `LessonProgress`. -/
structure LessonProgress where
  learnerId : JsText
  lessonId : JsText
  lessonVersion : Nat
  completedSteps : Nat
  evidenceDigests : List JsText
  complete : Bool
deriving DecidableEq

/-- `LearnerAssignment`. -/
structure LearnerAssignment where
  learnerId : JsText
  lessonId : JsText
  dueAt : Option JsText
  progress : Option LessonProgress
deriving DecidableEq

/-- `AssignmentSyncRecord`. -/
structure AssignmentSyncRecord where
  assignmentId : JsText
  workspaceId : JsText
  assignment : LearnerAssignment
  progress : Option LessonProgress
  revision : Nat
deriving DecidableEq

/-- `boundedId`: one to 64 lower-case letters, digits, dots, underscores and hyphens. -/
def boundedId (value : JsText) : Bool :=
  decide (1 ≤ value.length) && decide (value.length ≤ 64) && value.all fun unit =>
    (97 ≤ unit && unit ≤ 122) || (48 ≤ unit && unit ≤ 57) || unit == 46 || unit == 95 || unit == 45

/-- The check of an incoming record. -/
def AssignmentSyncRecord.valid (record : AssignmentSyncRecord) : Bool :=
  boundedId record.assignmentId && boundedId record.workspaceId && decide (1 ≤ record.revision)

/-- `recordKey`. -/
def recordKey (record : AssignmentSyncRecord) : JsText :=
  record.workspaceId ++ 58 :: record.assignmentId

/-- `enqueueAssignmentSync`. -/
def enqueueAssignmentSync (queue : List AssignmentSyncRecord) (record : AssignmentSyncRecord) :
    Except String (List AssignmentSyncRecord) :=
  if !record.valid then .error "invalid assignment sync record"
  else
    match queue.findIdx? fun item => recordKey item == recordKey record with
    | none => .ok (queue ++ [record])
    | some existing =>
      if (queue[existing]?).any fun item => decide (item.revision ≥ record.revision) then .ok queue
      else .ok (queue.set existing record)

/-- The digests of a `Set`, sorted. -/
def sortedSet (digests : List JsText) : List JsText := KeyedList.putAll id digests []

/-- The progress that `mergeAssignmentProgress` returns. -/
def joinProgress (first second : LessonProgress) : LessonProgress :=
  { first with
    completedSteps := max first.completedSteps second.completedSteps
    evidenceDigests := sortedSet (first.evidenceDigests ++ second.evidenceDigests)
    complete := first.complete || second.complete }

/-- `mergeAssignmentProgress`. -/
def mergeAssignmentProgress (first second : LessonProgress) : Except String LessonProgress :=
  if first.learnerId != second.learnerId || first.lessonId != second.lessonId ||
      first.lessonVersion != second.lessonVersion then
    .error "progress scope conflict"
  else .ok (joinProgress first second)

/-- The progress of two records in `mergeAssignmentSync`. -/
def mergedProgress : Option LessonProgress → Option LessonProgress →
    Except String (Option LessonProgress)
  | some first, some second => (mergeAssignmentProgress first second).map some
  | some first, none => .ok (some first)
  | none, second => .ok second

/-- The body of the loop in `mergeAssignmentSync`. -/
def mergeRecord (merged : List AssignmentSyncRecord) (record : AssignmentSyncRecord) :
    Except String (List AssignmentSyncRecord) :=
  if !record.valid then .error "invalid assignment sync record"
  else
    match merged.find? fun item => recordKey item == recordKey record with
    | none => .ok (merged ++ [record])
    | some current =>
      if current.assignment.learnerId != record.assignment.learnerId ||
          current.assignment.lessonId != record.assignment.lessonId then
        .error "assignment scope conflict"
      else do
        let progress ← mergedProgress current.progress record.progress
        let next := if record.revision > current.revision then { record with progress }
          else { current with progress }
        .ok (merged.map fun item => if recordKey item == recordKey record then next else item)

/-- `mergeAssignmentSync`, with the order of keys that `localeCompare` gives. -/
def mergeAssignmentSync (localeLe : JsText → JsText → Bool)
    (first incoming : List AssignmentSyncRecord) : Except String (List AssignmentSyncRecord) := do
  let merged ← incoming.foldlM mergeRecord first
  .ok (merged.mergeSort fun left right => localeLe (recordKey left) (recordKey right))

end PoisonedOS.Dashboard
