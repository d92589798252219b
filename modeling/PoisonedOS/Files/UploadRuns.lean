import PoisonedOS.Files.UploadLaws
import PoisonedOS.Library.Sha256

/-!
# Uploads one after the other

What an upload leaves at the device decides what becomes of the next one. It is refused
exactly when the one before left its transfer open, when its target is too long for the
temporary name, or when there is a file under that name.
-/

namespace PoisonedOS.FileUpload

open ContentDigest (deviceText)

variable {sha256 : List UInt8 → Digest} {role : Role} {maxRetries : Nat}
  {request : UploadRequest} {course : Course} {device : Device}

/-- The upload leaves a transfer open: the one that was open before and of which the device
hears nothing, or its own, which was taken and does not end at the device. -/
def LeavesOpen (sha256 : List UInt8 → Digest) (role : Role) (maxRetries : Nat)
    (request : UploadRequest) (course : Course) (device : Device) : Prop :=
  if course.starting = .lost ∨ vfsPathMax < (deviceText request.path).length then
    device.transfer.active = true
  else
    device.transfer.active = false ∧ Admissible sha256 role device.store request ∧
      ¬ course.Delivers maxRetries request

/-- An upload that is taken and ends at the device leaves no transfer open. -/
theorem not_leavesOpen {target : CString} {replay : Bool}
    (admits : Admits sha256 role device.store request target replay)
    (delivered : course.Delivers maxRetries request) :
    ¬ LeavesOpen sha256 role maxRetries request course device := by
  obtain ⟨resolved, resolves, -⟩ := admits.resolves
  rw [LeavesOpen, if_neg (not_or.mpr ⟨by rw [delivered.starting]; decide,
    Nat.not_lt.mpr (decoded_of_resolves resolves)⟩)]
  exact fun leaves => leaves.2.2 delivered

/-- When an outcome leaves a transfer open. -/
theorem Outcome.active_iff {result : Except UploadError TransferProgress × Device}
    (outcome : Outcome sha256 role maxRetries request course device result) :
    result.2.transfer.active = true ↔
      LeavesOpen sha256 role maxRetries request course device := by
  cases outcome with
  | unheard silent => rw [LeavesOpen, if_pos silent]
  | refused arrived readable refused left =>
    rw [LeavesOpen, if_neg (not_or.mpr ⟨arrived, Nat.not_lt.mpr readable⟩)]
    constructor
    · intro active
      cases active
    · rintro ⟨inactive, admissible, -⟩
      rcases refused with active | inadmissible
      · rw [active] at inactive
        cases inactive
      · exact absurd admissible inadmissible
  | stopped target replay arrived inactive admits undelivered error count =>
    obtain ⟨resolved, resolves, -⟩ := admits.resolves
    rw [LeavesOpen, if_neg (not_or.mpr ⟨arrived, Nat.not_lt.mpr (decoded_of_resolves resolves)⟩)]
    exact ⟨fun _ => ⟨inactive, ⟨target, replay, admits⟩, undelivered⟩, fun _ => rfl⟩
  | unconfirmed _ _ _ admits delivered =>
    exact iff_of_false Bool.false_ne_true (not_leavesOpen admits delivered)
  | resolved _ _ _ admits delivered =>
    exact iff_of_false Bool.false_ne_true (not_leavesOpen admits delivered)

/-- No outcome leaves a record without a transfer that is not blank. -/
theorem Outcome.settled {result : Except UploadError TransferProgress × Device}
    (settled : Settled device)
    (outcome : Outcome sha256 role maxRetries request course device result) :
    Settled result.2 := by
  cases outcome with
  | unheard => exact settled
  | refused => exact fun _ => rfl
  | stopped => exact fun inactive => by cases inactive
  | unconfirmed => exact fun _ => rfl
  | resolved => exact fun _ => rfl

/-- An upload that the dashboard does not accept sends nothing. -/
theorem upload_unaccepted (unaccepted : request.accepted sha256 = false) :
    device.after sha256 role maxRetries request course = device := by
  rw [Device.after, Device.upload]
  cases valid : request.valid with
  | false => rfl
  | true =>
    have digest : (sha256Hex sha256 request.data != request.expectedSha256) = true := by
      rw [UploadRequest.accepted, valid, Bool.true_and] at unaccepted
      rw [bne, unaccepted]
      rfl
    simp only [digest, Bool.not_true, Bool.false_eq_true, if_false, if_true]

/-- The device keeps a blank record while no transfer is open. -/
theorem Reached.settled (reached : Reached sha256 role maxRetries device) : Settled device := by
  induction reached with
  | fresh files => exact fun _ => rfl
  | uploaded reached request course ih =>
    cases accepted : request.accepted sha256 with
    | false =>
      rw [upload_unaccepted accepted]
      exact ih
    | true =>
      have outcome := upload_outcome role maxRetries course accepted ih
      exact outcome.settled ih
  | changed reached files kept ih => exact ih

/-- A resolved target holds the data unless other bytes were found there. -/
theorem finished_target {target : CString} {replay : Bool} {store : FileStore}
    (admits : Admits sha256 role store request target replay) :
    (request.finished store target replay).files target = some request.data ↔
      ∀ content, store.files target = some content → content = request.data := by
  cases replay with
  | true =>
    obtain ⟨content, found, -⟩ := admits.found
    rw [UploadRequest.finished, if_pos rfl, found]
    constructor
    · intro same other stored
      exact (Option.some.inj stored).symm.trans (Option.some.inj same)
    · intro same
      rw [same content rfl]
  | false =>
    have absent : store.files target = none := admits.found
    rw [UploadRequest.finished, if_neg Bool.false_ne_true, absent]
    simp [Function.update_of_ne (FileTransfer.suffixed_ne target).symm]

/-- An upload that resolves ends at the target of its path, which holds the data unless
other bytes of its size and hash were found there. -/
theorem resolved_target (accepted : request.accepted sha256 = true) (settled : Settled device)
    (resolves : device.resolves sha256 role maxRetries request course = true) :
    ∃ resolved, vfsResolvePath (deviceText request.path) role .write = some resolved ∧
      ((device.after sha256 role maxRetries request course).store.files resolved.backingPath =
          some request.data ↔
        ∀ content, device.store.files resolved.backingPath = some content →
          content = request.data) := by
  rw [Device.resolves] at resolves
  rw [Device.after]
  have outcome := upload_outcome role maxRetries course accepted settled
  generalize device.upload sha256 role maxRetries request course = result at outcome resolves ⊢
  cases outcome with
  | unheard => cases resolves
  | refused => cases resolves
  | stopped => cases resolves
  | unconfirmed => cases resolves
  | resolved target replay inactive admits =>
    obtain ⟨resolved, found, rfl⟩ := admits.resolves
    exact ⟨resolved, found, finished_target admits⟩

/-- Nothing stops an undisturbed upload at the device. -/
theorem undisturbed_delivers : undisturbed.Delivers maxRetries request where
  starting := rfl
  chunks _ _ := ⟨rfl, 0, Nat.zero_le _, rfl⟩
  finishing := by decide

/-- An undisturbed upload to a path without a file resolves exactly when no transfer is open
and the temporary name is free and not too long. -/
theorem undisturbed_iff (accepted : request.accepted sha256 = true) (settled : Settled device)
    {resolved : VfsResolvedPath}
    (found : vfsResolvePath (deviceText request.path) role .write = some resolved)
    (absent : device.store.files resolved.backingPath = none) :
    device.resolves sha256 role maxRetries request undisturbed = true ↔
      ¬ device.transfer.active = true ∧
        resolved.backingPath.length + fileTransferSuffix.length ≤ vfsPathMax ∧
        device.store.files (resolved.backingPath.append fileTransferSuffix) = none := by
  rw [Device.resolves]
  have outcome := upload_outcome role maxRetries undisturbed accepted settled
  have delivers : undisturbed.Delivers maxRetries request := undisturbed_delivers
  generalize device.upload sha256 role maxRetries request undisturbed = result at outcome
  cases outcome with
  | unheard silent =>
    rcases silent with lost | long
    · cases lost
    · exact absurd (decoded_of_resolves found) (Nat.not_le.mpr long)
  | refused arrived readable refused left =>
    refine ⟨(fun fails => by cases fails), ?_⟩
    rintro ⟨inactive, fits, temporary⟩
    rcases refused with active | inadmissible
    · exact absurd active inactive
    · exact absurd ⟨resolved.backingPath, false, ⟨resolved, found, rfl⟩, fits, temporary, absent⟩
        inadmissible
  | stopped _ _ _ _ _ undelivered => exact absurd delivers undelivered
  | unconfirmed _ _ _ _ _ missed => cases missed
  | resolved target replay inactive admits =>
    obtain ⟨same, again, rfl⟩ := admits.resolves
    obtain rfl : same = resolved := Option.some.inj (again.symm.trans found)
    exact ⟨fun _ => ⟨by rw [inactive]; decide, admits.fits, admits.temporary⟩, fun _ => rfl⟩

/-- An upload that resolves leaves its data at the target of its path, unless there were
other bytes of the same size and hash. After one that does not resolve, an undisturbed
upload to a path without a file resolves exactly when no transfer was left open, its target
is not too long for the temporary name, and there is no file under that name.

Proof: `upload_outcome` lists the ways an upload ends, and a device that uploads lead to has
a blank record whenever no transfer is open. -/
theorem uploads_end_to_end (reached : Reached sha256 role maxRetries device)
    (accepted : request.accepted sha256 = true) :
    (device.resolves sha256 role maxRetries request course = true →
      ∃ resolved, vfsResolvePath (deviceText request.path) role .write = some resolved ∧
        ((device.after sha256 role maxRetries request course).store.files resolved.backingPath =
            some request.data ↔
          ∀ content, device.store.files resolved.backingPath = some content →
            content = request.data)) ∧
    (device.resolves sha256 role maxRetries request course = false →
      ∀ next : UploadRequest, next.accepted sha256 = true →
      ∀ resolved, vfsResolvePath (deviceText next.path) role .write = some resolved →
      (device.after sha256 role maxRetries request course).store.files resolved.backingPath =
        none →
      ((device.after sha256 role maxRetries request course).resolves sha256 role maxRetries next
          undisturbed = true ↔
        ¬ LeavesOpen sha256 role maxRetries request course device ∧
          resolved.backingPath.length + fileTransferSuffix.length ≤ vfsPathMax ∧
          (device.after sha256 role maxRetries request course).store.files
            (resolved.backingPath.append fileTransferSuffix) = none)) := by
  have settled := reached.settled
  refine ⟨resolved_target accepted settled, ?_⟩
  intro failed next nextAccepted resolved found absent
  have outcome := upload_outcome role maxRetries course accepted settled
  have left := (reached.uploaded request course).settled
  rw [undisturbed_iff nextAccepted left found absent, Device.after, outcome.active_iff]

/-- An empty note. -/
def emptyNote : UploadRequest where
  operationId := chars "note-1"
  path := chars "/cases/note.txt"
  data := []
  expectedSha256 :=
    chars "e3b0c44298fc1c149afbf4c8996fb92427ae41e4649b934ca495991b7852b855"

/-- The hash of no bytes, and nothing for others. -/
def emptyDigest (data : List UInt8) : Digest :=
  if data.isEmpty then
    ⟨[0xe3, 0xb0, 0xc4, 0x42, 0x98, 0xfc, 0x1c, 0x14, 0x9a, 0xfb, 0xf4, 0xc8, 0x99, 0x6f, 0xb9,
      0x24, 0x27, 0xae, 0x41, 0xe4, 0x64, 0x9b, 0x93, 0x4c, 0xa4, 0x95, 0x99, 0x1b, 0x78, 0x52,
      0xb8, 0x55], rfl⟩
  else .zero _

/-- The answer to the begin is lost. -/
def unansweredBegin : Course := { undisturbed with starting := .unanswered }

/-- A device without files. -/
def emptyDevice : Device := ⟨.idle, ⟨fun _ => none, fun _ => false⟩⟩

theorem emptyNote_accepted : emptyNote.accepted emptyDigest = true := by decide +kernel

/-- Where the note goes. -/
def noteTarget : VfsResolvedPath :=
  ⟨.cases, false, .literal "/cases/note.txt", .literal "/ext/cases/note.txt"⟩

theorem emptyNote_resolves :
    vfsResolvePath (deviceText emptyNote.path) .owner .write = some noteTarget := by
  decide +kernel

/-- SHA-256 itself, for the notes. -/
def noteDigest (data : List UInt8) : Digest := ⟨Sha256.digest data, Sha256.length_digest data⟩

/-- 600 bytes, which take two chunks. -/
def noteData : List UInt8 := (List.range 600).map UInt8.ofNat

def longNote : UploadRequest where
  operationId := chars "note-2"
  path := chars "/cases/note.txt"
  data := noteData
  expectedSha256 := sha256Hex noteDigest noteData

theorem longNote_accepted : longNote.accepted noteDigest = true := by decide +kernel

/-- The first chunk is lost once, and once the answer to the second. -/
def retried : Course :=
  { undisturbed with
    chunk := fun index attempt =>
      if attempt == 0 then if index == 0 then .lost else .unanswered else .answered }

/-- The begin is lost. -/
def lostBegin : Course := { undisturbed with starting := .lost }

theorem after_lostBegin (device : Device) (request : UploadRequest) :
    device.after sha256 role maxRetries request lostBegin = device := by
  rw [Device.after, Device.upload]
  split
  · rfl
  · split <;> rfl

theorem resolves_lostBegin (device : Device) (request : UploadRequest) :
    device.resolves sha256 role maxRetries request lostBegin = false := by
  rw [Device.resolves, Device.upload]
  split
  · rfl
  · split <;> rfl

/-- An upload of two chunks, each sent twice, leaves its data; and after one whose begin was lost
the next upload resolves. -/
theorem uploads_end_to_end_note :
    (emptyDevice.after noteDigest .owner 3 longNote retried).store.files noteTarget.backingPath =
        some longNote.data ∧
      emptyDevice.resolves noteDigest .owner 3 longNote lostBegin = false ∧
      (emptyDevice.after noteDigest .owner 3 longNote lostBegin).resolves noteDigest .owner 3
        longNote undisturbed = true := by
  have resolves : vfsResolvePath (deviceText longNote.path) .owner .write = some noteTarget := by
    decide +kernel
  have fresh : Reached noteDigest .owner 3 emptyDevice := .fresh fun _ => none
  have failed : emptyDevice.resolves noteDigest .owner 3 longNote lostBegin = false :=
    resolves_lostBegin emptyDevice longNote
  refine ⟨?_, failed, ?_⟩
  · obtain ⟨resolved, found, holds⟩ :=
      (uploads_end_to_end fresh longNote_accepted).1
        (show emptyDevice.resolves noteDigest .owner 3 longNote retried = true by decide +kernel)
    obtain rfl : resolved = noteTarget := Option.some.inj (found.symm.trans resolves)
    exact holds.mpr fun content stored => by cases stored
  · have law := (uploads_end_to_end fresh longNote_accepted).2 failed longNote
      longNote_accepted noteTarget resolves
    rw [after_lostBegin] at law ⊢
    refine (law rfl).mpr ⟨?_, by decide +kernel, rfl⟩
    rw [LeavesOpen, if_pos (.inl rfl)]
    decide

/-- The answer to the begin of an upload is lost, and the upload fails. The next upload is
not disturbed and fails as well, and only the one after it resolves. -/
theorem unanswered_begin_blocks :
    Reached emptyDigest .owner 3 emptyDevice ∧ emptyNote.accepted emptyDigest = true ∧
      emptyDevice.resolves emptyDigest .owner 3 emptyNote unansweredBegin = false ∧
      vfsResolvePath (deviceText emptyNote.path) .owner .write = some noteTarget ∧
      (emptyDevice.after emptyDigest .owner 3 emptyNote unansweredBegin).store.files
        noteTarget.backingPath = none ∧
      (emptyDevice.after emptyDigest .owner 3 emptyNote unansweredBegin).resolves emptyDigest
        .owner 3 emptyNote undisturbed = false ∧
      ((emptyDevice.after emptyDigest .owner 3 emptyNote unansweredBegin).after emptyDigest
        .owner 3 emptyNote undisturbed).resolves emptyDigest .owner 3 emptyNote undisturbed =
        true := by
  refine ⟨.fresh _, emptyNote_accepted, ?_, emptyNote_resolves, ?_, ?_, ?_⟩
  · decide +kernel
  · decide +kernel
  · decide +kernel
  · decide +kernel

end PoisonedOS.FileUpload
