import PoisonedOS.Audit.Chain
import PoisonedOS.Evidence.Capture
import PoisonedOS.Vfs.Confinement
import PoisonedOS.Workloads.Limits
import PoisonedOS.Workloads.ProjectSource

/-!
# Requests to finalize an artifact

A running workload writes files into the artifacts directory of its project. A request names such
a file with its size and digest; the artifact is begun under its identifier, and committed when
the file is found to be as announced and evidence of it, where that is asked for, was captured.

The artifact is begun before anything is compared, and a begun artifact stays, marked as partial,
when the commit is refused. The allowance of artifacts is used up by it. Likewise the size is
compared with the allowance of bytes before it is compared with the file.
-/

namespace PoisonedOS

open Workload

/-! ## The request -/

/-- The fields of a `FINALIZE_ARTIFACT` request; it is plain if the fields of the other operations
are empty. -/
structure FinalizeRequest where
  workloadId : CString
  plain : Bool
  artifactId : CString
  artifactPath : CString
  artifactSize : UInt64
  artifactSha256 : CString
  evidenceRequested : Bool
  evidenceId : CString
  caseId : CString

/-- What the record of a managed workload says besides the workload itself. -/
structure ManagedArtifacts where
  entrypoint : CString
  evidenceRequested : Bool

/-- What the storage answers to a request. -/
structure FinalizeAnswers extends CommitAnswers where
  caseExists : CString → Bool

/-- `poison_workload_artifact_file_matches` of a file that is not written meanwhile. -/
def artifactFileMatches (sha256 : List UInt8 → Digest) (files : CString → Option (List UInt8))
    (path : CString) (expectedSize : UInt64) (expectedSha256 : Digest) : Bool :=
  match files path with
  | none => false
  | some content => content.length == expectedSize.toNat && sha256 content == expectedSha256

theorem artifactFileMatches_iff {sha256 : List UInt8 → Digest}
    {files : CString → Option (List UInt8)} {path : CString} {expectedSize : UInt64}
    {expectedSha256 : Digest} :
    artifactFileMatches sha256 files path expectedSize expectedSha256 = true ↔
      ∃ content, files path = some content ∧ content.length = expectedSize.toNat ∧
        sha256 content = expectedSha256 := by
  rw [artifactFileMatches]
  cases files path with
  | none => simp
  | some content => simp

/-- The answers of a storage with these files. -/
def CommitAnswers.ofFiles (sha256 : List UInt8 → Digest) (files : CString → Option (List UInt8))
    (captured : Bool) : CommitAnswers :=
  ⟨artifactFileMatches sha256 files, captured⟩

/-- `POISON_WORKLOAD_RPC_MAX_ARTIFACT_BYTES`. -/
def maxArtifactBytes : UInt64 := 8 * 1024 * 1024

namespace FinalizeRequest

/-- `rpc_poison_workload_request_is_valid` and `rpc_poison_workload_artifact_request_valid`. -/
def isValid (request : FinalizeRequest) (role : Role) : Bool :=
  !request.workloadId.isEmpty && decide (request.workloadId.length < workloadMaxId) &&
    request.plain && !request.artifactId.isEmpty && decide (request.artifactSize > 0) &&
    decide (request.artifactSize ≤ maxArtifactBytes) && hexDigestValid request.artifactSha256 &&
    (if request.evidenceRequested then
      evidenceIdValidate request.evidenceId && evidenceIdValidate request.caseId
    else request.evidenceId.isEmpty && request.caseId.isEmpty) &&
    match vfsResolvePath request.artifactPath role .read with
    | none => false
    | some artifact =>
      artifact.vfsNamespace == .scripts && artifact.backingPath.contains (.literal "/artifacts/")

end FinalizeRequest

def artifactRoot (entrypoint : CString) : Option (List UInt8) :=
  match splitAtWord (CString.literal "/versions/").bytes entrypoint.bytes with
  | none => none
  | some (before, digest) =>
    if decide (digest.length < 65) || digest[64]? != some 47 then none
    else some (before ++ (CString.literal "/versions/").bytes ++ digest.take 64)

/-- `rpc_poison_workload_artifact_within_project`. -/
def artifactWithinProject (entrypoint artifactPath : CString) : Bool :=
  match artifactRoot entrypoint with
  | none => false
  | some root =>
    (root ++ (CString.literal "/artifacts/").bytes).isPrefixOf artifactPath.bytes

namespace Workload

variable (workload : Workload) (request : FinalizeRequest)

/-- The end of `rpc_poison_workload_finalize_artifact`. -/
def finalizeAt (path : CString) (digest : Digest) (answers : CommitAnswers) : Bool × Workload :=
  let begun := workload.artifactBegin request.artifactId path
  if !begun.1 then begun
  else begun.2.artifactCommit request.artifactId request.artifactSize digest
    request.evidenceRequested request.evidenceId answers

/-- `rpc_poison_workload_finalize_artifact` of a request that is checked first. The session is
attached to the workload and may make such requests. -/
def finalizeRequest (managed : ManagedArtifacts) (role : Role) (answers : FinalizeAnswers) :
    Bool × Workload :=
  if !request.isValid role || workload.workloadId != request.workloadId ||
      workload.state != .running || (request.evidenceRequested && !managed.evidenceRequested) ||
      (request.evidenceRequested && !answers.caseExists request.caseId) then
    (false, workload)
  else
    match vfsResolvePath request.artifactPath role .read with
    | none => (false, workload)
    | some resolved =>
      if !artifactWithinProject managed.entrypoint resolved.backingPath then (false, workload)
      else
        match hexDecode request.artifactSha256 with
        | none => (false, workload)
        | some digest =>
          workload.finalizeAt request resolved.backingPath digest answers.toCommitAnswers

/-! ## What is asked -/

/-- A request that gets as far as beginning its artifact. -/
structure Admits (managed : ManagedArtifacts) (role : Role) (answers : FinalizeAnswers)
    (resolved : VfsResolvedPath) (digest : Digest) : Prop where
  valid : request.isValid role = true
  named : workload.workloadId = request.workloadId
  running : workload.state = .running
  evidence : request.evidenceRequested = true →
    managed.evidenceRequested = true ∧ answers.caseExists request.caseId = true
  resolves : vfsResolvePath request.artifactPath role .read = some resolved
  within : artifactWithinProject managed.entrypoint resolved.backingPath = true
  decoded : hexDecode request.artifactSha256 = some digest

/-- The artifact as it is begun. -/
def begunArtifact (artifactId path : CString) : WorkloadArtifact :=
  { WorkloadArtifact.zero with artifactId, path }

/-- The workload with an artifact begun. -/
def withBegun (artifactId path : CString) : Workload :=
  { workload with artifacts := workload.artifacts ++ [begunArtifact artifactId path] }

/-- The allowance of artifacts is used up. -/
def UsedUp : Prop :=
  workloadMaxArtifacts ≤ workload.artifacts.length ∨
    workload.limits.artifacts.toNat ≤ workload.artifacts.length

/-- The size is beyond what is left of the allowance of bytes. -/
def Oversized : Prop :=
  workload.limits.artifactBytes.toNat <
    workload.usage.artifactBytes.toNat + request.artifactSize.toNat

/-- What a request may leave that got as far as beginning its artifact and was rejected: it counts
nothing, its artifact may stay as begun, and the workload may have ended for an allowance. If the
artifact is there, the workload is as before, unless it is partial and the size beyond the
allowance. -/
structure Refused (path : CString) (after : Workload) : Prop where
  usage : after.usage = workload.usage
  artifacts : after.artifacts = workload.artifacts ∨
    workload.findArtifact request.artifactId = none ∧
      after.artifacts = workload.artifacts ++ [begunArtifact request.artifactId path]
  state : after.state = workload.state ∧ after.terminalReason = workload.terminalReason ∨
    after.state = .failed ∧ after.terminalReason = .artifactLimit ∧
      (workload.findArtifact request.artifactId = none ∧ workload.UsedUp ∨
        workload.Oversized request)
  kept : ∀ artifact, workload.findArtifact request.artifactId = some artifact →
    artifact.state ≠ .isPartial ∨ artifact.path ≠ path ∨ ¬ workload.Oversized request →
      after = workload

/-- The artifact is committed as the request says. -/
structure CommittedAs (path : CString) (digest : Digest) (artifact : WorkloadArtifact) : Prop where
  path : artifact.path = path
  size : artifact.size = request.artifactSize
  sha256 : artifact.sha256 = digest
  state : artifact.state = if request.evidenceRequested then .evidence else .project

end Workload

/-- What happens to a workload: the calls of its script and its session, and requests to finalize
an artifact. -/
inductive ArtifactEvent where
  | call (call : WorkloadCall)
  | finalize (request : FinalizeRequest) (role : Role) (answers : FinalizeAnswers)

namespace ArtifactEvent

/-- One event. -/
def step (managed : ManagedArtifacts) (event : ArtifactEvent) (workload : Workload) : Workload :=
  match event with
  | .call made => (made.apply workload).2
  | .finalize request role answers => (workload.finalizeRequest request managed role answers).2

def Observes (event : ArtifactEvent) (path : CString) (size : UInt64) (digest : Digest) : Prop :=
  match event with
  | .call (WorkloadCall.artifactCommit _ _ _ _ _ answers) => answers.fileMatches path size digest = true
  | .finalize _ _ answers => answers.fileMatches path size digest = true
  | _ => False

end ArtifactEvent

/-- The workload before an event of a run. -/
def artifactsAt (managed : ManagedArtifacts) (start : Workload) (events : List ArtifactEvent)
    (index : Nat) : Workload :=
  Runs.reached (ArtifactEvent.step managed) start events index

/-- What is asked of the requests in a run. -/
structure Finalization (managed : ManagedArtifacts) (start : Workload)
    (events : List ArtifactEvent) : Prop where
  accepted : ∀ index request role answers,
    events[index]? = some (.finalize request role answers) →
    ((artifactsAt managed start events index).finalizeRequest request managed role answers).1 =
      true →
    ∃ resolved digest artifact root rest,
      vfsResolvePath request.artifactPath role .read = some resolved ∧
      artifactRoot managed.entrypoint = some root ∧
      resolved.backingPath.bytes = root ++ (CString.literal "/artifacts/").bytes ++ rest ∧
      NormalForm resolved.logicalPath ∧ hexDecode request.artifactSha256 = some digest ∧
      (artifactsAt managed start events (index + 1)).findArtifact request.artifactId =
        some artifact ∧
      CommittedAs request resolved.backingPath digest artifact ∧
      ∃ earlier event, earlier ≤ index ∧ events[earlier]? = some event ∧
        event.Observes resolved.backingPath request.artifactSize digest ∧
        (artifactsAt managed start events earlier).findArtifact request.artifactId ≠
          some artifact ∧
        (artifactsAt managed start events (earlier + 1)).findArtifact request.artifactId =
          some artifact
  rejected : ∀ index request role answers,
    events[index]? = some (.finalize request role answers) →
    ((artifactsAt managed start events index).finalizeRequest request managed role answers).1 =
      false →
    artifactsAt managed start events (index + 1) = artifactsAt managed start events index ∨
      ∃ resolved digest,
        Admits (artifactsAt managed start events index) request managed role answers resolved
          digest ∧
        Refused (artifactsAt managed start events index) request resolved.backingPath
          (artifactsAt managed start events (index + 1))
  steady : ∀ first count, (∀ index, first ≤ index → index < first + count →
    ∃ request role answers artifact, events[index]? = some (.finalize request role answers) ∧
      ((artifactsAt managed start events index).finalizeRequest request managed role answers).1 =
        false ∧
      (artifactsAt managed start events index).findArtifact request.artifactId = some artifact ∧
      (artifact.state ≠ .isPartial ∨
        ¬ (artifactsAt managed start events index).Oversized request)) →
    artifactsAt managed start events (first + count) = artifactsAt managed start events first

/-! ## One request -/

namespace Workload

variable {workload : Workload} {request : FinalizeRequest} {managed : ManagedArtifacts}
  {role : Role} {answers : FinalizeAnswers} {path : CString} {digest : Digest}

/-- A request is turned down as it stands, or its artifact is begun. -/
theorem finalizeRequest_cases (workload : Workload) (request : FinalizeRequest)
    (managed : ManagedArtifacts) (role : Role) (answers : FinalizeAnswers) :
    workload.finalizeRequest request managed role answers = (false, workload) ∨
      ∃ resolved digest, Admits workload request managed role answers resolved digest ∧
        workload.finalizeRequest request managed role answers =
          workload.finalizeAt request resolved.backingPath digest answers.toCommitAnswers := by
  rw [finalizeRequest]
  split
  · exact .inl rfl
  rename_i entered
  simp only [Bool.or_eq_true, Bool.not_eq_true', not_or, Bool.not_eq_false, bne_iff_ne, ne_eq,
    Classical.not_not, Bool.and_eq_true, not_and] at entered
  obtain ⟨⟨⟨⟨valid, named⟩, running⟩, evidence⟩, onCase⟩ := entered
  cases resolves : vfsResolvePath request.artifactPath role .read with
  | none => exact .inl rfl
  | some resolved =>
    dsimp only
    split
    · exact .inl rfl
    rename_i within
    cases decoded : hexDecode request.artifactSha256 with
    | none => exact .inl rfl
    | some digest =>
      refine .inr ⟨resolved, digest, ⟨valid, named, running, ?_, resolves, ?_, decoded⟩, rfl⟩
      · exact fun requested => ⟨by simpa using evidence requested, by simpa using onCase requested⟩
      · simpa using within

theorem committed_of_finalizeAt
    (succeeded : (workload.finalizeAt request path digest answers.toCommitAnswers).1 = true) :
    ∃ artifact, (workload.finalizeAt request path digest answers.toCommitAnswers).2.findArtifact
      request.artifactId = some artifact ∧ CommittedAs request path digest artifact := by
  rw [finalizeAt] at succeeded ⊢
  cases begun : (workload.artifactBegin request.artifactId path).1 with
  | false =>
    rw [begun] at succeeded
    exact absurd begun (by simpa using succeeded)
  | true =>
    rw [begun] at succeeded
    simp only [Bool.not_true, Bool.false_eq_true, if_false] at succeeded ⊢
    obtain ⟨-, -, earlier, found, samePath⟩ := begun_of_artifactBegin begun
    obtain ⟨-, -, artifact, isArtifact, state, size, sha256, -⟩ :=
      committed_of_artifactCommit succeeded
    obtain ⟨later, isLater, keeps⟩ := ((apply_changes (.artifactCommit request.artifactId
      request.artifactSize digest request.evidenceRequested request.evidenceId
        answers.toCommitAnswers) (workload.artifactBegin request.artifactId path).2).retains
          found).path
    obtain rfl := Option.some.inj (isLater.symm.trans isArtifact)
    exact ⟨later, isArtifact, keeps.trans samePath, size, sha256, state⟩

/-- The workload ended for an allowance. -/
theorem forceTerminate_artifactLimit (running : workload.state = .running) :
    (workload.forceTerminate .artifactLimit).2 =
      { workload with terminalReason := .artifactLimit, state := .failed } := by
  simp [forceTerminate, running, WorkloadState.terminal, stateForReason]

/-- A commit that is refused changes nothing, or ends the workload for a partial artifact whose
size is beyond the allowance. -/
theorem artifactCommit_refused {artifactId evidenceId : CString} {expectedSize : UInt64}
    {expectedSha256 : Digest} {evidenceRequested : Bool} {given : CommitAnswers}
    (refused : (workload.artifactCommit artifactId expectedSize expectedSha256 evidenceRequested
      evidenceId given).1 = false) :
    (workload.artifactCommit artifactId expectedSize expectedSha256 evidenceRequested evidenceId
        given).2 = workload ∨
      (∃ artifact, workload.findArtifact artifactId = some artifact ∧
        artifact.state = .isPartial) ∧
      workload.limits.artifactBytes.toNat <
        workload.usage.artifactBytes.toNat + expectedSize.toNat ∧
      (workload.artifactCommit artifactId expectedSize expectedSha256 evidenceRequested evidenceId
        given).2 = (workload.forceTerminate .artifactLimit).2 := by
  by_cases entered : (workload.state != .running || expectedSize == 0 ||
    decide (expectedSize > 0xFFFFFFFF)) = true
  · rw [artifactCommit, if_pos entered]
    exact .inl rfl
  rw [artifactCommit, if_neg entered] at refused ⊢
  simp only [Bool.or_eq_true, decide_eq_true_eq, not_or, gt_iff_lt,
    UInt64.lt_iff_toNat_lt] at entered
  cases found : workload.findArtifact artifactId with
  | none => exact .inl rfl
  | some artifact =>
    simp only [found] at refused ⊢
    split
    · exact .inl rfl
    rename_i isPartial
    rw [if_neg isPartial] at refused
    split
    · rename_i large
      have narrow := Nat.not_lt.mp entered.2
      exact .inr ⟨⟨artifact, rfl, by simpa using isPartial⟩, (bytes_over_iff narrow).mp large, rfl⟩
    rename_i fits
    rw [if_neg fits] at refused
    split
    · exact .inl rfl
    rename_i matching
    rw [if_neg matching] at refused
    split
    · exact .inl rfl
    rename_i kept
    rw [if_neg kept] at refused
    cases refused

/-- What a begin does: nothing where it is refused or the artifact is there with the path, and
otherwise the artifact is added, or the workload ends for the allowance. -/
theorem artifactBegin_cases (workload : Workload) (artifactId path : CString) :
    workload.artifactBegin artifactId path = (false, workload) ∨
      (∃ artifact, workload.findArtifact artifactId = some artifact ∧ artifact.path = path ∧
        workload.artifactBegin artifactId path = (true, workload)) ∨
      workload.findArtifact artifactId = none ∧ (workload.UsedUp ∧
          workload.artifactBegin artifactId path =
            (false, (workload.forceTerminate .artifactLimit).2) ∨
        workload.artifactBegin artifactId path = (true, workload.withBegun artifactId path)) := by
  rw [artifactBegin]
  split
  · exact .inl rfl
  cases found : workload.findArtifact artifactId with
  | some artifact =>
    dsimp only
    by_cases same : artifact.path = path
    · exact .inr (.inl ⟨artifact, rfl, same, by rw [beq_iff_eq.mpr same]⟩)
    · exact .inl (by rw [beq_eq_false_iff_ne.mpr same])
  | none =>
    dsimp only
    split
    · rename_i full
      refine .inr (.inr ⟨rfl, .inl ⟨?_, rfl⟩⟩)
      simpa [UsedUp] using full
    · exact .inr (.inr ⟨rfl, .inr rfl⟩)

/-- A request that was rejected after its artifact could be begun.

Proof: the begin is refused, or it leaves the workload as it is or with the artifact added; the
commit changes nothing after that or ends the workload. -/
theorem refused_of_finalizeAt (running : workload.state = .running)
    (refused : (workload.finalizeAt request path digest answers.toCommitAnswers).1 = false) :
    Refused workload request path
      (workload.finalizeAt request path digest answers.toCommitAnswers).2 := by
  rw [finalizeAt] at refused ⊢
  obtain begins | ⟨artifact, found, samePath, begins⟩ | ⟨absent, ⟨full, begins⟩ | begins⟩ :=
    artifactBegin_cases workload request.artifactId path
  · rw [begins]
    exact ⟨rfl, .inl rfl, .inl ⟨rfl, rfl⟩, fun _ _ _ => rfl⟩
  · rw [begins] at refused ⊢
    simp only [Bool.not_true, Bool.false_eq_true, if_false] at refused ⊢
    obtain same | ⟨⟨again, isAgain, isPartial⟩, large, ends⟩ := artifactCommit_refused refused
    · rw [same]
      exact ⟨rfl, .inl rfl, .inl ⟨rfl, rfl⟩, fun _ _ _ => rfl⟩
    · rw [ends, forceTerminate_artifactLimit running]
      refine ⟨rfl, .inl rfl, .inr ⟨rfl, rfl, .inr large⟩, fun other isOther harmless => ?_⟩
      obtain rfl := Option.some.inj (isOther.symm.trans found)
      obtain rfl := Option.some.inj (isOther.symm.trans isAgain)
      obtain settled | apart | fits := harmless
      · exact absurd isPartial settled
      · exact absurd samePath apart
      · exact absurd large fits
  · rw [begins, forceTerminate_artifactLimit running]
    refine ⟨rfl, .inl rfl, .inr ⟨rfl, rfl, .inl ⟨absent, full⟩⟩, fun other isOther _ => ?_⟩
    rw [absent] at isOther
    cases isOther
  · rw [begins] at refused ⊢
    simp only [Bool.not_true, Bool.false_eq_true, if_false] at refused ⊢
    have unfound (after : Workload) : ∀ artifact,
        workload.findArtifact request.artifactId = some artifact →
        artifact.state ≠ .isPartial ∨ artifact.path ≠ path ∨ ¬ workload.Oversized request →
          after = workload := by
      intro artifact found
      rw [absent] at found
      cases found
    obtain same | ⟨-, large, ends⟩ := artifactCommit_refused refused
    · rw [same]
      exact ⟨rfl, .inr ⟨absent, rfl⟩, .inl ⟨rfl, rfl⟩, unfound _⟩
    · have terminates := @forceTerminate_artifactLimit
        (workload.withBegun request.artifactId path) running
      rw [ends, terminates]
      exact ⟨rfl, .inr ⟨absent, rfl⟩, .inr ⟨rfl, rfl, .inr large⟩, unfound _⟩

/-- A request that is turned down. -/
theorem finalizeRequest_refused
    (refused : (workload.finalizeRequest request managed role answers).1 = false) :
    (workload.finalizeRequest request managed role answers).2 = workload ∨
      ∃ resolved digest, Admits workload request managed role answers resolved digest ∧
        Refused workload request resolved.backingPath
          (workload.finalizeRequest request managed role answers).2 := by
  obtain same | ⟨resolved, digest, admits, same⟩ :=
    finalizeRequest_cases workload request managed role answers
  · exact .inl (by rw [same])
  · rw [same] at refused ⊢
    exact .inr ⟨resolved, digest, admits, refused_of_finalizeAt admits.running refused⟩

/-! ## Where a committed artifact comes from -/

/-- A call that is no commit leaves the artifacts, or adds one that is partial. -/
theorem artifacts_of_call {call : WorkloadCall}
    (other : ∀ artifactId size sha256 requested evidenceId given,
      call ≠ .artifactCommit artifactId size sha256 requested evidenceId given) :
    (call.apply workload).2.artifacts = workload.artifacts ∨ ∃ artifact : WorkloadArtifact,
      artifact.state = .isPartial ∧
        (call.apply workload).2.artifacts = workload.artifacts ++ [artifact] := by
  have ended (workload : Workload) (reason : TerminalReason) :
      (workload.forceTerminate reason).2.artifacts = workload.artifacts := by
    rw [forceTerminate]
    split
    · rfl
    split <;> rfl
  cases call with
  | start =>
    simp only [WorkloadCall.apply, Workload.start]
    split <;> exact .inl rfl
  | account increment limitReason =>
    simp only [WorkloadCall.apply, account]
    split
    · exact .inl rfl
    split
    · exact .inl (ended _ _)
    · exact .inl rfl
  | appendConsole consoleType text =>
    simp only [WorkloadCall.apply, appendConsole]
    split
    · exact .inl rfl
    split
    · split <;> exact .inl rfl
    · exact .inl rfl
  | artifactBegin artifactId path =>
    simp only [WorkloadCall.apply, artifactBegin]
    split
    · exact .inl rfl
    cases workload.findArtifact artifactId with
    | some existing => exact .inl rfl
    | none =>
      dsimp only
      split
      · exact .inl (ended _ _)
      · exact .inr ⟨begunArtifact artifactId path, rfl, rfl⟩
  | artifactCommit artifactId size sha256 requested evidenceId given =>
    exact absurd rfl (other _ _ _ _ _ _)
  | finalizeArtifact requested =>
    simp only [WorkloadCall.apply, finalizeArtifact]
    split
    · exact .inl rfl
    · exact .inr ⟨.zero, rfl, rfl⟩
  | requestCancel =>
    simp only [WorkloadCall.apply, requestCancel]
    split <;> exact .inl rfl
  | finish success =>
    simp only [WorkloadCall.apply, finish]
    split <;> exact .inl rfl
  | forceTerminate reason => exact .inl (ended _ _)

/-- A committed artifact that was not there as it is was found to be as it says. -/
theorem observed_of_call {call : WorkloadCall} {artifactId : CString}
    {artifact : WorkloadArtifact}
    (found : (call.apply workload).2.findArtifact artifactId = some artifact)
    (settled : artifact.state ≠ .isPartial)
    (fresh : workload.findArtifact artifactId ≠ some artifact) :
    (ArtifactEvent.call call).Observes artifact.path artifact.size artifact.sha256 := by
  by_cases isCommit : ∃ artifactId size sha256 requested evidenceId given,
    call = .artifactCommit artifactId size sha256 requested evidenceId given
  · obtain ⟨committedId, size, sha256, requested, evidenceId, given, rfl⟩ := isCommit
    simp only [WorkloadCall.apply] at found
    obtain same | ends | ⟨earlier, commits⟩ := artifactCommit_cases workload committedId size
      sha256 requested evidenceId given
    · rw [same] at found
      exact absurd found fresh
    · rw [ends, findArtifact, forceTerminate] at found
      refine absurd ?_ fresh
      split at found
      · exact found
      split at found <;> exact found
    · rw [artifactCommit_of_commits commits] at found
      have named := findArtifact_id commits.found
      by_cases same : committedId = artifactId
      · subst same named
        have replaced := @find_replaced _ (committedArtifact earlier size sha256 requested
          evidenceId) _ commits.found
        obtain rfl := Option.some.inj (replaced.symm.trans found)
        exact commits.fileMatches
      · have kept := @find_replaceArtifact workload.artifacts (committedArtifact earlier size
          sha256 requested evidenceId) artifactId fun equal => same (named.symm.trans equal)
        exact absurd (kept.symm.trans found) fresh
  · have other : ∀ artifactId size sha256 requested evidenceId given,
        call ≠ .artifactCommit artifactId size sha256 requested evidenceId given :=
      fun _ _ _ _ _ _ equal => isCommit ⟨_, _, _, _, _, _, equal⟩
    refine absurd ?_ fresh
    obtain same | ⟨added, isPartial, grown⟩ := artifacts_of_call other
    · rw [findArtifact, same] at found
      exact found
    · rw [findArtifact, grown, List.find?_append] at found
      cases before : workload.artifacts.find? (·.artifactId == artifactId) with
      | some earlier =>
        rw [before, Option.some_or] at found
        rw [findArtifact, before, found]
      | none =>
        rw [before, Option.none_or] at found
        obtain rfl := List.mem_singleton.mp (List.mem_of_find?_eq_some found)
        exact absurd isPartial settled

end Workload

namespace ArtifactEvent

variable {managed : ManagedArtifacts} {workload : Workload}

/-- The same of every event: a request is a begin and a commit. -/
theorem observed_of_step {event : ArtifactEvent} {artifactId : CString}
    {artifact : WorkloadArtifact}
    (found : (event.step managed workload).findArtifact artifactId = some artifact)
    (settled : artifact.state ≠ .isPartial)
    (fresh : workload.findArtifact artifactId ≠ some artifact) :
    event.Observes artifact.path artifact.size artifact.sha256 := by
  cases event with
  | call call => exact observed_of_call found settled fresh
  | finalize request role answers =>
    rw [step] at found
    obtain same | ⟨resolved, digest, -, same⟩ :=
      finalizeRequest_cases workload request managed role answers
    · rw [same] at found
      exact absurd found fresh
    rw [same, finalizeAt] at found
    have begins := @observed_of_call workload
      (.artifactBegin request.artifactId resolved.backingPath) artifactId artifact
    split at found
    · exact (begins found settled fresh).elim
    · by_cases begun : (workload.artifactBegin request.artifactId
        resolved.backingPath).2.findArtifact artifactId = some artifact
      · exact (begins begun settled fresh).elim
      · exact @observed_of_call _ (.artifactCommit request.artifactId request.artifactSize digest
          request.evidenceRequested request.evidenceId answers.toCommitAnswers) _ _ found settled
            begun

end ArtifactEvent

/-! ## Runs -/

section Runs

variable {managed : ManagedArtifacts} {start : Workload} {events : List ArtifactEvent}
  {index : Nat}

theorem artifactsAt_succ {event : ArtifactEvent} (taken : events[index]? = some event) :
    artifactsAt managed start events (index + 1) =
      event.step managed (artifactsAt managed start events index) :=
  Runs.reached_succ taken

/-- Each committed artifact was committed at an event of the run, when the storage found the file
to be as it says. -/
theorem committed_along (empty : start.artifacts = []) (index : Nat) :
    ∀ artifactId artifact,
      (artifactsAt managed start events index).findArtifact artifactId = some artifact →
      artifact.state ≠ .isPartial →
      ∃ earlier event, earlier < index ∧ events[earlier]? = some event ∧
        event.Observes artifact.path artifact.size artifact.sha256 ∧
        (artifactsAt managed start events earlier).findArtifact artifactId ≠ some artifact ∧
        (artifactsAt managed start events (earlier + 1)).findArtifact artifactId =
          some artifact := by
  induction index with
  | zero =>
    intro artifactId artifact found _
    rw [artifactsAt, Runs.reached_zero, findArtifact, empty] at found
    cases found
  | succ index ih =>
    intro artifactId artifact found settled
    by_cases before :
        (artifactsAt managed start events index).findArtifact artifactId = some artifact
    · obtain ⟨earlier, event, past, rest⟩ := ih artifactId artifact before settled
      exact ⟨earlier, event, Nat.lt_succ_of_lt past, rest⟩
    · cases taken : events[index]? with
      | none =>
        rw [artifactsAt, Runs.reached_end taken] at found
        exact absurd found before
      | some event =>
        refine ⟨index, event, Nat.lt_succ_self index, taken, ?_, before, found⟩
        rw [artifactsAt_succ taken] at found
        exact ArtifactEvent.observed_of_step found settled before

theorem artifactWithinProject_eq_true {entrypoint path : CString}
    (within : artifactWithinProject entrypoint path = true) :
    ∃ root rest, artifactRoot entrypoint = some root ∧
      path.bytes = root ++ (CString.literal "/artifacts/").bytes ++ rest := by
  rw [artifactWithinProject] at within
  cases isRoot : artifactRoot entrypoint with
  | none =>
    rw [isRoot] at within
    cases within
  | some root =>
    rw [isRoot] at within
    obtain ⟨rest, same⟩ := List.isPrefixOf_iff_prefix.mp within
    exact ⟨root, rest, rfl, same.symm⟩

/-- In every run the requests do what is asked.

Proof: what is accepted leaves the artifact committed with the path it was begun with, and a
committed artifact was committed at an event of the run. What is rejected has changed nothing
before the artifact is begun. -/
theorem artifacts_finalized {workloadId projectDigest capabilitiesDigest : CString}
    {limits : WorkloadUsage}
    (initialized : Workload.init workloadId projectDigest capabilitiesDigest limits = some start)
    (managed : ManagedArtifacts) (events : List ArtifactEvent) :
    Finalization managed start events := by
  have empty : start.artifacts = [] := by
    rw [Workload.init] at initialized
    split at initialized
    · cases initialized
    · obtain rfl := Option.some.inj initialized
      rfl
  refine ⟨fun index request role answers taken succeeded => ?_,
    fun index request role answers taken refused => ?_, fun first count harmless => ?_⟩
  · obtain same | ⟨resolved, digest, admits, same⟩ := finalizeRequest_cases
      (artifactsAt managed start events index) request managed role answers
    · rw [same] at succeeded
      cases succeeded
    rw [same] at succeeded
    obtain ⟨artifact, found, committed⟩ := committed_of_finalizeAt succeeded
    rw [← same] at found
    have after : (artifactsAt managed start events (index + 1)).findArtifact request.artifactId =
        some artifact := by
      rw [artifactsAt_succ taken]
      exact found
    have settled : artifact.state ≠ .isPartial := by
      rw [committed.state]
      split <;> exact ArtifactState.noConfusion
    obtain ⟨root, rest, isRoot, placed⟩ := artifactWithinProject_eq_true admits.within
    obtain ⟨earlier, event, past, isEvent, observed, before, afterwards⟩ :=
      committed_along empty (index + 1) request.artifactId artifact after settled
    rw [committed.path, committed.size, committed.sha256] at observed
    obtain ⟨_, resolves⟩ := resolves_of_resolved admits.resolves
    exact ⟨resolved, digest, artifact, root, rest, admits.resolves, isRoot, placed,
      normalForm_of_normalized resolves.normalized, admits.decoded, after, committed, earlier,
      event, Nat.lt_succ_iff.mp past, isEvent, observed, before, afterwards⟩
  · rw [artifactsAt_succ taken]
    exact finalizeRequest_refused refused
  · induction count with
    | zero => rfl
    | succ count ih =>
      have earlier := ih fun index later within =>
        harmless index later (by omega)
      rw [← earlier]
      obtain ⟨request, role, answers, artifact, taken, refused, found, settled⟩ :=
        harmless (first + count) (by omega) (by omega)
      rw [← Nat.add_assoc, artifactsAt_succ taken]
      obtain same | ⟨resolved, digest, -, left⟩ := finalizeRequest_refused refused
      · exact same
      · exact left.kept artifact found (settled.imp_right .inr)

end Runs

def sampleManagedArtifacts : ManagedArtifacts where
  entrypoint := .literal ("/ext/scripts/p/versions/00000000000000000000000000000000" ++
    "00000000000000000000000000000000/main.js")
  evidenceRequested := false

def sampleFinalizeRequest : FinalizeRequest where
  workloadId := .literal "w"
  plain := true
  artifactId := .literal "a"
  artifactPath := .literal ("/scripts/p/versions/00000000000000000000000000000000" ++
    "00000000000000000000000000000000/artifacts/a")
  artifactSize := 8
  artifactSha256 :=
    .literal "c7c5c1d70c5dec4416ab6158afd0b223ef40c29b1dc1f97ed9428b94d4cadb1c"
  evidenceRequested := false
  evidenceId := .literal ""
  caseId := .literal ""

/-- A storage with the same file at every path, or with none. -/
def sampleFinalizeAnswers (file : Option (List UInt8)) : FinalizeAnswers :=
  ⟨.ofFiles sha256Of (fun _ => file) true, fun _ => true⟩

def sampleArtifact : List UInt8 := [97, 114, 116, 105, 102, 97, 99, 116]

/-- The script starts, and the request is made. -/
def sampleArtifactEvents (file : Option (List UInt8)) : List ArtifactEvent :=
  [.call .start, .finalize sampleFinalizeRequest .owner (sampleFinalizeAnswers file)]

/-- The file is as the request says, which is accepted. -/
theorem sample_finalized :
    (finalizeRequest (artifactsAt sampleManagedArtifacts sampleWorkload
      (sampleArtifactEvents (some sampleArtifact)) 1) sampleFinalizeRequest sampleManagedArtifacts
        .owner (sampleFinalizeAnswers (some sampleArtifact))).1 = true ∧
      Finalization sampleManagedArtifacts sampleWorkload
        (sampleArtifactEvents (some sampleArtifact)) :=
  ⟨by decide +kernel, artifacts_finalized sample_initialized _ _⟩

/-- There is no file, and the request leaves a partial artifact. -/
theorem mismatch_leaves_artifact : ¬ ∀ workloadId projectDigest capabilitiesDigest limits start
    managed events index request role answers,
    Workload.init workloadId projectDigest capabilitiesDigest limits = some start →
    events[index]? = some (.finalize request role answers) →
    (finalizeRequest (artifactsAt managed start events index) request managed role answers).1 =
      false →
    (∀ path size digest, answers.fileMatches path size digest = false) →
    (artifactsAt managed start events (index + 1)).artifacts =
      (artifactsAt managed start events index).artifacts := by
  intro unchanged
  have same := unchanged _ _ _ _ sampleWorkload sampleManagedArtifacts (sampleArtifactEvents none)
    1 sampleFinalizeRequest .owner (sampleFinalizeAnswers none) sample_initialized rfl
    (by decide +kernel) fun _ _ _ => rfl
  exact absurd same (by decide +kernel)

end PoisonedOS
