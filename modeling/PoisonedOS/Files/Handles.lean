import PoisonedOS.Files.Effects
import PoisonedOS.Library.Sha256

/-!
# The handles of the sessions

Every session that writes holds its temporary file open, and no two hold the same one. A
request leaves the open files of the other sessions as they are: it creates files only where
there is none, and its clean-up removes no open file. So every transfer agrees with the
storage in every state a run reaches, whatever the clean-ups remove.
-/

namespace PoisonedOS

open FileStore (close create fileExists remove write)

namespace FileTransfer

variable {sha256 : List UInt8 → Digest} {transfer : FileTransfer} {store : FileStore}
  {role : Option Role} {hasNext : Bool} {answers : FileAnswers} {request : FileRequest}
  {result : Bool × FileTransfer × FileStore} {path : CString}

/-- An accepted begin had no active transfer. -/
theorem beginChecks_inactive {operationId digest : CString} {size : Nat} {found : CString × Digest}
    (checked : transfer.beginChecks role hasNext operationId path size digest = some found) :
    transfer.active = false := by
  cases active : transfer.active with
  | false => rfl
  | true =>
    cases role with
    | none => cases checked
    | some role =>
      simp only [beginChecks, active, Bool.or_true, Bool.true_or, if_true] at checked
      cases checked

/-- A chunk that is accepted belongs to an active transfer. -/
theorem chunkChecks_active {operationId digest : CString} {data : List UInt8}
    {chunkDigest : Digest}
    (checked : transfer.chunkChecks sha256 role hasNext operationId data digest =
      some chunkDigest) : transfer.active = true := by
  cases active : transfer.active with
  | true => rfl
  | false =>
    simp only [chunkChecks, active, Bool.not_false, Bool.or_true, Bool.true_or, if_true] at checked
    cases checked

/-- So does a complete. -/
theorem completeChecks_active {operationId digest : CString} {size : Nat}
    (checked : transfer.completeChecks sha256 role hasNext operationId size digest = true) :
    transfer.active = true := by
  simp only [completeChecks, Bool.and_eq_true] at checked
  exact checked.1.1.1.1.1.1.2

/-- An open file is not removed. -/
theorem remove_others (other : CString) (removed : Bool) (opened : store.opened path = true) :
    (store.remove other removed).files path = store.files path ∧
      (store.remove other removed).opened path = true := by
  simp only [remove]
  split
  · exact ⟨rfl, opened⟩
  · rename_i closed
    have differ : path ≠ other := by
      rintro rfl
      simp [opened] at closed
    exact ⟨Function.update_of_ne differ _ _, opened⟩

/-- The clean-up leaves open files alone. -/
theorem removeTemporary_others (transfer : FileTransfer) (answers : FileAnswers)
    (opened : store.opened path = true) :
    (transfer.removeTemporary store answers).files path = store.files path ∧
      (transfer.removeTemporary store answers).opened path = true := by
  simp only [removeTemporary]
  split
  · exact ⟨rfl, opened⟩
  · exact remove_others _ _ opened

/-- Closing its own file leaves the files of others open. -/
theorem closeFile_others (opened : store.opened path = true)
    (other : ¬ (transfer.file = true ∧ path = transfer.temporaryPath)) :
    (transfer.closeFile store).opened path = true := by
  simp only [closeFile]
  split
  · rename_i file
    exact (Function.update_of_ne (fun same => other ⟨file, same⟩) _ _).trans opened
  · exact opened

/-- A reset leaves the open files of others alone. -/
theorem reset_others (opened : store.opened path = true)
    (other : ¬ (transfer.file = true ∧ path = transfer.temporaryPath)) :
    (transfer.reset store answers).2.files path = store.files path ∧
      (transfer.reset store answers).2.opened path = true := by
  obtain ⟨files, stillOpen⟩ := removeTemporary_others transfer answers
    (closeFile_others opened other)
  exact ⟨files.trans (congrFun closeFile_files path), stillOpen⟩

/-- A copy to the target leaves the open files of others alone. -/
theorem copiedStore_others (answers : FileAnswers) (opened : store.opened path = true)
    (other : ¬ (transfer.file = true ∧ path = transfer.temporaryPath))
    (differ : path ≠ transfer.targetPath) :
    (transfer.copiedStore store answers).files path = store.files path ∧
      (transfer.copiedStore store answers).opened path = true :=
  ⟨Function.update_of_ne differ _ _, closeFile_others opened other⟩

/-- The open files of the other sessions keep their bytes and stay open. -/
theorem Effect.others (backed : transfer.Backed store)
    (effect : Effect sha256 transfer store role hasNext answers request result)
    (opened : store.opened path = true) (present : store.fileExists path = true)
    (other : ¬ (transfer.file = true ∧ path = transfer.temporaryPath)) :
    result.2.2.files path = store.files path ∧ result.2.2.opened path = true := by
  have apart {created : CString} (absent : store.fileExists created = false) :
      path ≠ created := by
    rintro rfl
    exact absurd (present.symm.trans absent) (by simp)
  cases effect with
  | listed | replays | retried | skipped | replayed => exact ⟨rfl, opened⟩
  | refused => exact reset_others opened other
  | blocked operationId path' size digest target expected replayOnly checked mode blocked =>
    have idle := backed.inactive (beginChecks_inactive checked)
    have file : (transfer.named operationId target).file = false := by rw [idle]; rfl
    exact reset_others opened fun own => absurd (own.1.symm.trans file) (by simp)
  | creates operationId path' size digest target expected checked mode absent =>
    exact ⟨Function.update_of_ne (apart absent) _ _,
      (Function.update_of_ne (apart absent) _ _).trans opened⟩
  | wrote operationId offset data digest chunkDigest checked fresh next writes =>
    have file := backed.file_of_writing (chunkChecks_active checked) writes
    exact ⟨Function.update_of_ne (fun same => other ⟨file, same⟩) _ _, opened⟩
  | shortened operationId offset data digest chunkDigest checked writes =>
    have file := backed.file_of_writing (chunkChecks_active checked) writes
    have written : (store.write transfer.temporaryPath (data.take answers.written)).files path =
        store.files path := Function.update_of_ne (fun same => other ⟨file, same⟩) _ _
    rw [← written]
    exact reset_others opened other
  | completed operationId size digest finishes copied moved =>
    have file := backed.file_of_writing (completeChecks_active finishes.checked) finishes.writes
    obtain ⟨files, stillOpen⟩ := copiedStore_others answers opened other (apart finishes.absent)
    exact ⟨(Function.update_of_ne (fun same => other ⟨file, same⟩) _ _).trans files, stillOpen⟩
  | halfRenamed operationId size digest finishes failed =>
    obtain ⟨files, stillOpen⟩ := copiedStore_others answers opened other (apart finishes.absent)
    obtain ⟨same, still⟩ := removeTemporary_others transfer answers stillOpen
    exact ⟨same.trans files, still⟩

/-- A transfer that is begun agrees with a storage that has its new file open, if it writes. -/
theorem started_backed (isIdle : transfer = idle) {operationId target : CString} {replayOnly : Bool}
    {size : Nat} {expected : Digest}
    (writes : replayOnly = false → store.files (target.append fileTransferSuffix) = some [] ∧
      store.opened (target.append fileTransferSuffix) = true) :
    ((transfer.named operationId target).started replayOnly size expected).Backed store := by
  rw [isIdle]
  have opened (file : (!replayOnly) = true) := writes (by simpa using file)
  exact {
    inactive := fun active => by cases active
    named := fun _ => rfl
    handle := fun _ => rfl
    counted := rfl
    fits := Nat.zero_le _
    stored := fun file => (opened file).1
    held := fun file => (opened file).2 }

/-- A transfer that takes a chunk agrees with a storage that has its bytes, if it writes. -/
theorem Backed.took (backed : transfer.Backed store) (active : transfer.active = true)
    {offset : Nat} {data : List UInt8} {digest : Digest}
    (isNext : transfer.isNext offset data = true) {after : FileStore}
    (writes : transfer.file = true →
      after.files transfer.temporaryPath = some (transfer.hashed ++ data) ∧
        after.opened transfer.temporaryPath = true) :
    (transfer.took offset data digest).Backed after := by
  simp only [FileTransfer.isNext, Bool.and_eq_true, decide_eq_true_eq] at isNext
  have fits := backed.fits
  exact {
    inactive := fun inactive => absurd (active.symm.trans inactive) (by simp)
    named := backed.named
    handle := backed.handle
    counted := by simp only [FileTransfer.took, List.length_append, backed.counted]
    fits := by simp only [FileTransfer.took]; omega
    stored := fun file => (writes file).1
    held := fun file => (writes file).2 }

/-- The transfer a request leaves agrees with the storage it leaves. -/
theorem Effect.backed (backed : transfer.Backed store)
    (effect : Effect sha256 transfer store role hasNext answers request result) :
    result.2.1.Backed result.2.2 := by
  cases effect with
  | listed | retried => exact backed
  | refused | blocked | shortened | replayed | completed | halfRenamed => exact idle_backed _
  | replays operationId path size digest target expected checked mode absent =>
    exact started_backed (backed.inactive (beginChecks_inactive checked)) fun writes => by
      cases writes
  | creates operationId path size digest target expected checked mode absent =>
    exact started_backed (backed.inactive (beginChecks_inactive checked)) fun _ =>
      ⟨Function.update_self _ _ _, Function.update_self _ _ _⟩
  | skipped operationId offset data digest chunkDigest checked fresh next replay =>
    exact backed.took (chunkChecks_active checked) next fun held =>
      absurd ((backed.file_of_replay replay).symm.trans held) (by simp)
  | wrote operationId offset data digest chunkDigest checked fresh next writes =>
    refine backed.took (chunkChecks_active checked) next fun file => ⟨?_, backed.held file⟩
    simp only [write, Function.update_self, backed.stored file, Option.map_some]

/-- The temporary file a request leaves open is the one it found open, or a new one. -/
theorem Effect.file_cases
    (effect : Effect sha256 transfer store role hasNext answers request result)
    (file : result.2.1.file = true) :
    (transfer.file = true ∧ result.2.1.temporaryPath = transfer.temporaryPath) ∨
      store.fileExists result.2.1.temporaryPath = false := by
  cases effect with
  | listed | retried | skipped | wrote => exact .inl ⟨file, rfl⟩
  | refused | blocked | shortened | replayed | completed | halfRenamed => cases file
  | replays => cases file
  | creates operationId path size digest target expected checked mode absent => exact .inr absent

end FileTransfer

/-- The answers of the storage to an event. -/
def FileEvent.answers : FileEvent → FileAnswers
  | .request _ _ _ _ answers => answers
  | .ended _ answers => answers

namespace FileService

def serviceAt (sha256 : List UInt8 → Digest) (files : CString → Option (List UInt8))
    (events : List FileEvent) (index : Nat) : FileService :=
  Runs.reached (fun event service => service.step sha256 event) (init files) events index

/-- The transfers hold their own files. -/
structure Sound (service : FileService) : Prop where
  backed : ∀ session, (service.sessions session).Backed service.store
  distinct : ∀ session other, (service.sessions session).file = true →
    (service.sessions other).file = true → (service.sessions session).temporaryPath =
      (service.sessions other).temporaryPath → session = other

variable {sha256 : List UInt8 → Digest} {files : CString → Option (List UInt8)}
  {events : List FileEvent} {service : FileService} {event : FileEvent} {index : Nat}

open FileTransfer

/-- A session that ends is reset like one whose complete is refused. -/
theorem Sound.effect (sha256 : List UInt8 → Digest) (sound : service.Sound) (event : FileEvent) :
    ∃ role hasNext request result,
      Effect sha256 (service.sessions event.session) service.store role hasNext event.answers
        request result ∧ result.2 = (service.outcome sha256 event).2 := by
  cases event with
  | request session role hasNext request answers =>
    exact ⟨role, hasNext, request, _, handle_effect (sound.backed session) request, rfl⟩
  | ended session answers =>
    exact ⟨none, true, .transferComplete (.literal "") 0 (.literal ""), (false, _),
      .refused _ (.inl rfl), rfl⟩

/-- A step leaves the storage of its outcome. -/
theorem step_store : (service.step sha256 event).store = (service.outcome sha256 event).2.2 := rfl

/-- A step leaves its session the transfer of its outcome. -/
theorem step_session :
    (service.step sha256 event).sessions event.session = (service.outcome sha256 event).2.1 :=
  Function.update_self _ _ _

theorem step_other {other : Nat} (different : other ≠ event.session) :
    (service.step sha256 event).sessions other = service.sessions other :=
  Function.update_of_ne different _ _

/-- The open files and the transfers stay together in every step, whatever it removes. -/
theorem Sound.step (sha256 : List UInt8 → Digest) (sound : service.Sound) (event : FileEvent) :
    (service.step sha256 event).Sound := by
  obtain ⟨role, hasNext, request, result, effect, isResult⟩ := sound.effect sha256 event
  have mine := sound.backed event.session
  have transfers : (service.step sha256 event).sessions event.session = result.2.1 := by
    rw [step_session, ← isResult]
  have stores : (service.step sha256 event).store = result.2.2 := by
    rw [step_store, ← isResult]
  have apart {other : Nat} (different : other ≠ event.session)
      (file : (service.sessions other).file = true) :
      ¬ ((service.sessions event.session).file = true ∧
        (service.sessions other).temporaryPath =
          (service.sessions event.session).temporaryPath) :=
    fun same => different (sound.distinct other event.session file same.1 same.2)
  have present {other : Nat} (file : (service.sessions other).file = true) :
      service.store.fileExists (service.sessions other).temporaryPath = true := by
    rw [fileExists, (sound.backed other).stored file]
    rfl
  have fresh (file : result.2.1.file = true) {other : Nat} (different : other ≠ event.session)
      (otherFile : (service.sessions other).file = true) :
      result.2.1.temporaryPath ≠ (service.sessions other).temporaryPath := by
    intro same
    obtain ⟨held, isOld⟩ | absent := effect.file_cases file
    · exact apart different otherFile ⟨held, same.symm.trans isOld⟩
    · rw [same] at absent
      exact absurd ((present otherFile).symm.trans absent) (by simp)
  refine ⟨fun session => ?_, fun session other => ?_⟩
  · by_cases same : session = event.session
    · rw [same, transfers, stores]
      exact effect.backed mine
    · rw [step_other same, stores]
      refine (sound.backed session).of_agree fun file => ?_
      have held := (sound.backed session).held file
      obtain ⟨kept, stillOpen⟩ := effect.others mine held (present file) (apart same file)
      exact ⟨kept, stillOpen.trans held.symm⟩
  · by_cases isMine : session = event.session <;> by_cases isOther : other = event.session
    · intro _ _ _
      exact isMine.trans isOther.symm
    · rw [isMine, transfers, step_other isOther]
      intro file otherFile same
      exact absurd same (fresh file isOther otherFile)
    · rw [isOther, transfers, step_other isMine]
      intro otherFile file same
      exact absurd same.symm (fresh file isMine otherFile)
    · rw [step_other isMine, step_other isOther]
      exact sound.distinct session other

/-- At the start nobody holds a file. -/
theorem init_sound : (init files).Sound where
  backed _ := idle_backed _
  distinct _ _ file := by cases file

/-- The next state of a run is a step further. -/
theorem serviceAt_succ (taken : events[index]? = some event) :
    serviceAt sha256 files events (index + 1) =
      (serviceAt sha256 files events index).step sha256 event :=
  Runs.reached_succ taken

/-- All along a run the transfers hold their own files. -/
theorem run_sound (sha256 : List UInt8 → Digest) (files : CString → Option (List UInt8))
    (events : List FileEvent) (index : Nat) : (serviceAt sha256 files events index).Sound := by
  refine Runs.always (motive := FileService.Sound) init_sound ?_ index
  exact fun index event _ sound => sound.step sha256 event

end FileService

end PoisonedOS
