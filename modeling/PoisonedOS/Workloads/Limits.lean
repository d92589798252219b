import PoisonedOS.Workloads.Workload
import PoisonedOS.Library.Runs

/-!
# The limits of a workload

Along a run of calls three things are meant to hold: no counter passes its limit,
what was committed stays, and a workload that ended is never touched again. The
last two always hold. The first has one gap. Beginning an artifact compares the
number of artifacts with the limit and finalizing one compares the counter, but
committing an artifact advances the counter without comparing it.

So the counters stay within their limits exactly in the runs in which no commit
finds the counter of artifacts at its limit.
-/

namespace PoisonedOS

/-- The thirteen counters of `PoisonWorkloadUsage`. -/
inductive Counter where
  | heapBytes
  | sourceBytes
  | modules
  | parserDepth
  | stackDepth
  | fuel
  | callbacks
  | timers
  | openHandles
  | logs
  | artifacts
  | wallMs
  | artifactBytes
deriving DecidableEq, Repr

/-- The value of one counter. -/
def WorkloadUsage.count (usage : WorkloadUsage) : Counter → Nat
  | .heapBytes => usage.heapBytes.toNat
  | .sourceBytes => usage.sourceBytes.toNat
  | .modules => usage.modules.toNat
  | .parserDepth => usage.parserDepth.toNat
  | .stackDepth => usage.stackDepth.toNat
  | .fuel => usage.fuel.toNat
  | .callbacks => usage.callbacks.toNat
  | .timers => usage.timers.toNat
  | .openHandles => usage.openHandles.toNat
  | .logs => usage.logs.toNat
  | .artifacts => usage.artifacts.toNat
  | .wallMs => usage.wallMs.toNat
  | .artifactBytes => usage.artifactBytes.toNat

/-- Adding the increment would pass a limit. -/
def WorkloadUsage.Exceeds (usage increment limits : WorkloadUsage) : Prop :=
  ∃ counter, limits.count counter < usage.count counter + increment.count counter

theorem exceeds_iff {current increment maximum : UInt32} :
    exceeds current increment maximum = true ↔
      maximum.toNat < current.toNat + increment.toNat := by
  simp only [exceeds, Bool.or_eq_true, decide_eq_true_eq, gt_iff_lt, UInt32.lt_iff_toNat_lt]
  by_cases large : maximum.toNat < increment.toNat
  · simp only [large, true_or, true_iff]
    omega
  · have fits : increment ≤ maximum := UInt32.le_iff_toNat_le.mpr (by omega)
    rw [UInt32.toNat_sub_of_le _ _ fits]
    omega

theorem exceeds16_iff {current increment maximum : UInt16} :
    exceeds16 current increment maximum = true ↔
      maximum.toNat < current.toNat + increment.toNat := by
  simp only [exceeds16, Bool.or_eq_true, decide_eq_true_eq, gt_iff_lt, UInt16.lt_iff_toNat_lt]
  by_cases large : maximum.toNat < increment.toNat
  · simp only [large, true_or, true_iff]
    omega
  · have fits : increment ≤ maximum := UInt16.le_iff_toNat_le.mpr (by omega)
    rw [UInt16.toNat_sub_of_le _ _ fits]
    omega

variable {increment limits : WorkloadUsage}

/-- The comparisons of the source notice every counter that would pass its limit. -/
theorem WorkloadUsage.over_iff {usage : WorkloadUsage} :
    usage.over increment limits = true ↔ usage.Exceeds increment limits := by
  simp only [WorkloadUsage.over, Bool.or_eq_true, exceeds_iff, exceeds16_iff]
  constructor
  · intro found
    rcases found with (((((((((((passed | passed) | passed) | passed) | passed) | passed) |
      passed) | passed) | passed) | passed) | passed) | passed) | passed
    exacts [⟨.heapBytes, passed⟩, ⟨.sourceBytes, passed⟩, ⟨.modules, passed⟩,
      ⟨.parserDepth, passed⟩, ⟨.stackDepth, passed⟩, ⟨.fuel, passed⟩, ⟨.callbacks, passed⟩,
      ⟨.timers, passed⟩, ⟨.openHandles, passed⟩, ⟨.logs, passed⟩, ⟨.artifacts, passed⟩,
      ⟨.wallMs, passed⟩, ⟨.artifactBytes, passed⟩]
  · rintro ⟨counter, passed⟩
    cases counter <;> simp only [WorkloadUsage.count] at passed <;> simp only [passed, true_or,
      or_true]

/-- A sum that stays within a 32-bit limit does not wrap. -/
theorem toNat_add_of_le {current increment maximum : UInt32}
    (fits : current.toNat + increment.toNat ≤ maximum.toNat) :
    (current + increment).toNat = current.toNat + increment.toNat := by
  have bounded := maximum.toNat_lt
  rw [UInt32.toNat_add]
  exact Nat.mod_eq_of_lt (by omega)

/-- The same for 16 bits. -/
theorem toNat_add16_of_le {current increment maximum : UInt16}
    (fits : current.toNat + increment.toNat ≤ maximum.toNat) :
    (current + increment).toNat = current.toNat + increment.toNat := by
  have bounded := maximum.toNat_lt
  rw [UInt16.toNat_add]
  exact Nat.mod_eq_of_lt (by omega)

/-- What no comparison stops is added counter by counter. -/
theorem WorkloadUsage.count_add {usage : WorkloadUsage} (fits : ¬ usage.Exceeds increment limits)
    (counter : Counter) :
    (usage.add increment).count counter = usage.count counter + increment.count counter := by
  have bounded : usage.count counter + increment.count counter ≤ limits.count counter := by
    by_contra passed
    exact fits ⟨counter, by omega⟩
  cases counter with
  | modules | parserDepth | stackDepth | callbacks | timers | openHandles | artifacts =>
    exact toNat_add16_of_le bounded
  | _ => exact toNat_add_of_le bounded

namespace Workload

variable {workload : Workload}

/-- Every counter is at most its limit. -/
def WithinLimits (workload : Workload) : Prop :=
  ∀ counter, workload.usage.count counter ≤ workload.limits.count counter

/-- The workload has ended. -/
def Ended (workload : Workload) : Prop := workload.state.terminal = true

/-- The commit gets as far as advancing the counters. -/
structure Commits (workload : Workload) (artifactId : CString) (expectedSize : UInt64)
    (expectedSha256 : Digest) (evidenceRequested : Bool) (answers : CommitAnswers)
    (artifact : WorkloadArtifact) : Prop where
  running : workload.state = .running
  nonzero : expectedSize ≠ 0
  narrow : expectedSize.toNat ≤ 0xFFFFFFFF
  found : workload.findArtifact artifactId = some artifact
  isPartial : artifact.state = .isPartial
  fits : workload.usage.artifactBytes.toNat + expectedSize.toNat ≤
    workload.limits.artifactBytes.toNat
  fileMatches : answers.fileMatches artifact.path expectedSize expectedSha256 = true
  captured : evidenceRequested = true → answers.captured = true

end Workload

/-- A commit takes effect on a workload whose artifacts are all used up. At the largest
16-bit limit the counter wraps round instead of passing it. -/
def WorkloadCall.Overruns (call : WorkloadCall) (workload : Workload) : Prop :=
  match call with
  | .artifactCommit artifactId expectedSize expectedSha256 evidenceRequested _ answers =>
    (∃ artifact, workload.Commits artifactId expectedSize expectedSha256 evidenceRequested answers
      artifact) ∧ workload.usage.artifacts = workload.limits.artifacts ∧
      workload.limits.artifacts ≠ 0xFFFF
  | _ => False

namespace Workload

variable {workload : Workload}

def committedArtifact (artifact : WorkloadArtifact) (expectedSize : UInt64)
    (expectedSha256 : Digest) (evidenceRequested : Bool) (evidenceId : CString) :
    WorkloadArtifact :=
  { artifact with
    evidenceId := if evidenceRequested then evidenceId else artifact.evidenceId
    state := if evidenceRequested then .evidence else .project
    size := expectedSize
    sha256 := expectedSha256 }

/-- The workload after a commit. -/
def afterCommit (workload : Workload) (artifact : WorkloadArtifact) (expectedSize : UInt64)
    (expectedSha256 : Digest) (evidenceRequested : Bool) (evidenceId : CString) : Workload :=
  { workload with
    artifacts := replaceArtifact workload.artifacts
      (committedArtifact artifact expectedSize expectedSha256 evidenceRequested evidenceId)
    usage := { workload.usage with
      artifacts := workload.usage.artifacts + 1
      artifactBytes := workload.usage.artifactBytes + expectedSize.toUInt32 } }

/-- The comparisons of the artifact's size, in one inequality. -/
theorem bytes_over_iff {current maximum : UInt32} {size : UInt64}
    (narrow : size.toNat ≤ 0xFFFFFFFF) :
    (decide (size.toUInt32 > maximum) || decide (current > maximum - size.toUInt32)) = true ↔
      maximum.toNat < current.toNat + size.toNat := by
  have kept : size.toUInt32.toNat = size.toNat := by
    rw [UInt64.toNat_toUInt32]
    exact Nat.mod_eq_of_lt (by omega)
  have compared := @exceeds_iff current size.toUInt32 maximum
  rwa [exceeds, kept] at compared

variable {artifactId evidenceId : CString} {expectedSize : UInt64} {expectedSha256 : Digest}
  {evidenceRequested : Bool} {answers : CommitAnswers} {artifact : WorkloadArtifact}

theorem artifactCommit_of_commits
    (commits : workload.Commits artifactId expectedSize expectedSha256 evidenceRequested answers
      artifact) :
    workload.artifactCommit artifactId expectedSize expectedSha256 evidenceRequested evidenceId
        answers =
      (true, workload.afterCommit artifact expectedSize expectedSha256 evidenceRequested
        evidenceId) := by
  have wide : ¬ expectedSize > 0xFFFFFFFF := by
    rw [gt_iff_lt, UInt64.lt_iff_toNat_lt]
    exact Nat.not_lt.mpr commits.narrow
  have fits := (bytes_over_iff commits.narrow).not.mpr (Nat.not_lt.mpr commits.fits)
  have kept : ¬ (evidenceRequested && !answers.captured) = true := by
    cases evidenceRequested with
    | false => exact Bool.false_ne_true
    | true => simp [commits.captured rfl]
  simp only [artifactCommit, commits.running, commits.found, commits.isPartial,
    commits.fileMatches, wide, fits, kept, afterCommit, committedArtifact, bne_self_eq_false, beq_eq_false_iff_ne.mpr
    commits.nonzero, decide_false, Bool.or_false, Bool.false_eq_true, if_false, Bool.not_true]

/-- A commit changes nothing, ends the workload, or takes effect. -/
theorem artifactCommit_cases (workload : Workload) (artifactId : CString) (expectedSize : UInt64)
    (expectedSha256 : Digest) (evidenceRequested : Bool) (evidenceId : CString)
    (answers : CommitAnswers) :
    (workload.artifactCommit artifactId expectedSize expectedSha256 evidenceRequested evidenceId
        answers).2 = workload ∨
      (workload.artifactCommit artifactId expectedSize expectedSha256 evidenceRequested evidenceId
        answers).2 = (workload.forceTerminate .artifactLimit).2 ∨
      ∃ artifact, workload.Commits artifactId expectedSize expectedSha256 evidenceRequested answers
        artifact := by
  by_cases entered : (workload.state != .running || expectedSize == 0 ||
    decide (expectedSize > 0xFFFFFFFF)) = true
  · rw [artifactCommit, if_pos entered]
    exact .inl rfl
  rw [artifactCommit, if_neg entered]
  cases found : workload.findArtifact artifactId with
  | none => exact .inl rfl
  | some artifact =>
    simp only
    split
    · exact .inl rfl
    rename_i isPartial
    split
    · exact .inr (.inl rfl)
    rename_i fits
    split
    · exact .inl rfl
    rename_i matching
    split
    · exact .inl rfl
    rename_i kept
    simp only [Bool.or_eq_true, bne_iff_ne, ne_eq, beq_iff_eq, decide_eq_true_eq, not_or,
      Classical.not_not, gt_iff_lt, UInt64.lt_iff_toNat_lt] at entered
    obtain ⟨⟨running, nonzero⟩, narrow⟩ := entered
    have narrow := Nat.not_lt.mp narrow
    refine .inr (.inr ⟨artifact, ⟨running, nonzero, narrow, found, by simpa using isPartial, ?_,
      by simpa using matching, fun requested => ?_⟩⟩)
    · exact Nat.not_lt.mp ((bytes_over_iff narrow).not.mp fits)
    · cases captured : answers.captured with
      | true => rfl
      | false => exact absurd (by rw [requested, captured]; rfl) kept

/-- What a call can do to a workload. -/
inductive Changes (call : WorkloadCall) (workload : Workload) : Workload → Prop
  | nothing : Changes call workload workload
  | moved (state : WorkloadState) (terminalReason : TerminalReason) :
      Changes call workload { workload with state, terminalReason }
  | accounted (increment : WorkloadUsage)
      (fits : ¬ workload.usage.Exceeds increment workload.limits) :
      Changes call workload { workload with usage := workload.usage.add increment }
  | written (console : List ConsoleFrame) (nextConsoleSequence : UInt64) (logs : UInt32)
      (state : WorkloadState) (terminalReason : TerminalReason)
      (bounded : logs ≤ workload.limits.logs) :
      Changes call workload { workload with
        console, nextConsoleSequence, state, terminalReason
        usage := { workload.usage with logs } }
  | began (artifact : WorkloadArtifact) :
      Changes call workload { workload with artifacts := workload.artifacts ++ [artifact] }
  | finalized (bounded : workload.usage.artifacts < workload.limits.artifacts) :
      Changes call workload { workload with
        artifacts := workload.artifacts ++ [.zero]
        usage := { workload.usage with artifacts := workload.usage.artifacts + 1 } }
  | committed (artifactId : CString) (artifact : WorkloadArtifact) (expectedSize : UInt64)
      (expectedSha256 : Digest) (evidenceRequested : Bool) (evidenceId : CString)
      (answers : CommitAnswers)
      (commits : workload.Commits artifactId expectedSize expectedSha256 evidenceRequested answers
        artifact)
      (overruns : workload.usage.artifacts = workload.limits.artifacts →
        workload.limits.artifacts ≠ 0xFFFF → call.Overruns workload) :
      Changes call workload (workload.afterCommit artifact expectedSize expectedSha256
        evidenceRequested evidenceId)

theorem forceTerminate_changes (call : WorkloadCall) (workload : Workload)
    (reason : TerminalReason) : Changes call workload (workload.forceTerminate reason).2 := by
  rw [forceTerminate]
  split
  · exact .nothing
  split
  · exact .nothing
  · exact .moved _ _

theorem account_changes (call : WorkloadCall) (workload : Workload) (increment : WorkloadUsage)
    (limitReason : TerminalReason) :
    Changes call workload (workload.account increment limitReason).2 := by
  rw [account]
  split
  · exact .nothing
  split
  · exact forceTerminate_changes call workload _
  · rename_i fits
    exact .accounted increment fun exceeds => fits (WorkloadUsage.over_iff.mpr exceeds)

/-- Room for the bytes of a text, in one inequality. -/
theorem logs_of_not_full {text : CString} (room : ¬ workload.consoleFull text = true) :
    workload.usage.logs + UInt32.ofNat (consoleStored text).length ≤ workload.limits.logs := by
  simp only [consoleFull, Bool.or_eq_true, not_or] at room
  obtain ⟨⟨-, small⟩, fits⟩ := room
  have compared := (@exceeds_iff workload.usage.logs (UInt32.ofNat (consoleStored text).length)
    workload.limits.logs).not.mp
  simp only [exceeds, Bool.or_eq_true, not_or] at compared
  have bounded := Nat.not_lt.mp (compared ⟨small, fits⟩)
  rw [UInt32.le_iff_toNat_le, toNat_add_of_le bounded]
  exact bounded

theorem appendConsole_changes (call : WorkloadCall) (workload : Workload)
    (consoleType : ConsoleType) (text : CString) :
    Changes call workload (workload.appendConsole consoleType text).2 := by
  rw [appendConsole]
  split
  · exact .nothing
  split
  · simp only
    split
    · exact .written _ _ _ _ _ (UInt32.le_refl _)
    · exact .written workload.console workload.nextConsoleSequence _ _ _ (UInt32.le_refl _)
  · rename_i room
    exact .written _ _ _ workload.state workload.terminalReason (logs_of_not_full room)

theorem artifactBegin_changes (call : WorkloadCall) (workload : Workload)
    (artifactId projectPath : CString) :
    Changes call workload (workload.artifactBegin artifactId projectPath).2 := by
  rw [artifactBegin]
  split
  · exact .nothing
  cases workload.findArtifact artifactId with
  | some existing => exact .nothing
  | none =>
    simp only
    split
    · exact forceTerminate_changes call workload _
    · exact .began _

theorem finalizeArtifact_changes (call : WorkloadCall) (workload : Workload)
    (evidenceRequested : Bool) :
    Changes call workload (workload.finalizeArtifact evidenceRequested).2 := by
  rw [finalizeArtifact]
  split
  · exact .nothing
  · rename_i admitted
    simp only [Bool.or_eq_true, not_or, decide_eq_true_eq, ge_iff_le] at admitted
    exact .finalized (UInt16.not_le.mp admitted.2)

theorem apply_changes (call : WorkloadCall) (workload : Workload) :
    Changes call workload (call.apply workload).2 := by
  cases call with
  | start =>
    simp only [WorkloadCall.apply, start]
    split
    · exact .nothing
    · exact .moved _ workload.terminalReason
  | requestCancel =>
    simp only [WorkloadCall.apply, requestCancel]
    split
    · exact .nothing
    · exact .moved _ workload.terminalReason
  | finish success =>
    simp only [WorkloadCall.apply, finish]
    split
    · exact .nothing
    · exact .moved _ _
  | account increment limitReason => exact account_changes _ workload increment limitReason
  | appendConsole consoleType text => exact appendConsole_changes _ workload consoleType text
  | artifactBegin artifactId path => exact artifactBegin_changes _ workload artifactId path
  | finalizeArtifact requested => exact finalizeArtifact_changes _ workload requested
  | forceTerminate reason => exact forceTerminate_changes _ workload reason
  | artifactCommit artifactId size sha256 requested evidenceId answers =>
    simp only [WorkloadCall.apply]
    obtain same | ended | ⟨artifact, commits⟩ :=
      artifactCommit_cases workload artifactId size sha256 requested evidenceId answers
    · rw [same]
      exact .nothing
    · rw [ended]
      exact forceTerminate_changes _ workload _
    · rw [artifactCommit_of_commits commits]
      exact .committed artifactId artifact size sha256 requested evidenceId answers commits
        fun used below => ⟨⟨artifact, commits⟩, used, below⟩

variable {after : Workload}

theorem WithinLimits.of_counters (within : workload.WithinLimits)
    (limits : after.limits = workload.limits)
    (each : ∀ counter, after.usage.count counter = workload.usage.count counter ∨
      after.usage.count counter ≤ workload.limits.count counter) : after.WithinLimits := by
  intro counter
  rw [limits]
  obtain same | bounded := each counter
  · rw [same]
    exact within counter
  · exact bounded

/-- One more artifact fits, or the counter wraps round. -/
theorem next_artifact_le {used limit : UInt16} (within : used ≤ limit)
    (below : used = limit → limit = 0xFFFF) : (used + 1).toNat ≤ limit.toNat := by
  by_cases full : used = limit
  · rw [full, below full]
    decide
  · have strictly : used.toNat < limit.toNat := by
      have bounded := UInt16.le_iff_toNat_le.mp within
      have apart : used.toNat ≠ limit.toNat := fun same => full (UInt16.toNat.inj same)
      omega
    rw [@toNat_add16_of_le used 1 limit strictly]
    exact strictly

variable {call : WorkloadCall}

/-- A call that does not overrun the artifacts keeps every counter within its limit. -/
theorem Changes.within (changes : Changes call workload after) (within : workload.WithinLimits)
    (contained : ¬ call.Overruns workload) : after.WithinLimits := by
  cases changes with
  | nothing => exact within
  | moved state terminalReason => exact within.of_counters rfl fun _ => .inl rfl
  | began artifact => exact within.of_counters rfl fun _ => .inl rfl
  | accounted increment fits =>
    intro counter
    have added := WorkloadUsage.count_add fits counter
    have bounded : ¬ workload.limits.count counter <
        workload.usage.count counter + increment.count counter :=
      fun passed => fits ⟨counter, passed⟩
    change (workload.usage.add increment).count counter ≤ workload.limits.count counter
    omega
  | written console nextConsoleSequence logs state terminalReason bounded =>
    refine within.of_counters rfl fun counter => ?_
    cases counter with
    | logs => exact .inr (UInt32.le_iff_toNat_le.mp bounded)
    | _ => exact .inl rfl
  | finalized bounded =>
    refine within.of_counters rfl fun counter => ?_
    cases counter with
    | artifacts =>
      exact .inr (next_artifact_le (UInt16.le_of_lt bounded)
        fun full => absurd full (UInt16.ne_of_lt bounded))
    | _ => exact .inl rfl
  | committed artifactId artifact expectedSize expectedSha256 evidenceRequested evidenceId answers
      commits overruns =>
    refine within.of_counters rfl fun counter => ?_
    cases counter with
    | artifacts =>
      refine .inr (next_artifact_le (UInt16.le_iff_toNat_le.mpr (within .artifacts)) fun full => ?_)
      by_contra below
      exact contained (overruns full below)
    | artifactBytes =>
      have kept : expectedSize.toUInt32.toNat = expectedSize.toNat := by
        rw [UInt64.toNat_toUInt32]
        exact Nat.mod_eq_of_lt (by have := commits.narrow; omega)
      have bounded := commits.fits
      right
      change (workload.usage.artifactBytes + expectedSize.toUInt32).toNat ≤
        workload.limits.artifactBytes.toNat
      rw [@toNat_add_of_le _ _ workload.limits.artifactBytes (by omega)]
      omega
    | _ => exact .inl rfl

/-- A commit that overruns the artifacts leaves the counter past its limit. -/
theorem not_within_of_overruns (overruns : call.Overruns workload) :
    ¬ (call.apply workload).2.WithinLimits := by
  cases call with
  | artifactCommit artifactId size sha256 requested evidenceId answers =>
    obtain ⟨⟨artifact, commits⟩, used, below⟩ := overruns
    intro within
    have counted := within .artifacts
    simp only [WorkloadCall.apply, artifactCommit_of_commits commits, afterCommit,
      WorkloadUsage.count, used] at counted
    have apart : workload.limits.artifacts.toNat ≠ 0xFFFF :=
      fun same => below (UInt16.toNat.inj same)
    have bounded := workload.limits.artifacts.toNat_lt
    rw [UInt16.toNat_add, Nat.mod_eq_of_lt (by simp; omega)] at counted
    simp at counted
  | _ => exact absurd overruns id

/-- No call reaches a workload that ended. -/
theorem apply_of_ended (call : WorkloadCall) (ended : workload.Ended) :
    (call.apply workload).2 = workload := by
  have apart : ∀ state, state.terminal = false → (workload.state != state) = true := by
    intro state live
    rw [bne_iff_ne]
    intro same
    rw [Ended, same, live] at ended
    cases ended
  have queued := apart .queued rfl
  have running := apart .running rfl
  have cancelling := apart .cancelling rfl
  have isTerminal : workload.state.terminal = true := ended
  cases call <;> simp only [WorkloadCall.apply, start, account, appendConsole, artifactBegin,
    artifactCommit, finalizeArtifact, requestCancel, finish, forceTerminate, queued, running,
    cancelling, isTerminal, Bool.true_or, Bool.or_true, Bool.and_self, if_true]

/-- Writing one artifact leaves the others where they were found. -/
theorem find_replaceArtifact {artifacts : List WorkloadArtifact} {artifact : WorkloadArtifact}
    {artifactId : CString} (other : artifact.artifactId ≠ artifactId) :
    (replaceArtifact artifacts artifact).find? (·.artifactId == artifactId) =
      artifacts.find? (·.artifactId == artifactId) := by
  induction artifacts with
  | nil => rfl
  | cons first rest ih =>
    by_cases here : (first.artifactId == artifact.artifactId) = true
    · have away : (first.artifactId == artifactId) = false := by
        rw [eq_of_beq here]
        exact beq_eq_false_iff_ne.mpr other
      rw [replaceArtifact, if_pos here, List.find?_cons_of_neg (by simpa using other),
        List.find?_cons_of_neg (by simp [away])]
    · rw [replaceArtifact, if_neg here, List.find?_cons, List.find?_cons, ih]

/-- The written artifact is found in the place of the one it replaces. -/
theorem find_replaced {artifacts : List WorkloadArtifact} {artifact existing : WorkloadArtifact}
    (found : artifacts.find? (·.artifactId == artifact.artifactId) = some existing) :
    (replaceArtifact artifacts artifact).find? (·.artifactId == artifact.artifactId) =
      some artifact := by
  induction artifacts with
  | nil => cases found
  | cons first rest ih =>
    by_cases here : (first.artifactId == artifact.artifactId) = true
    · rw [replaceArtifact, if_pos here, List.find?_cons_of_pos (by simp)]
    · have skipped : (first.artifactId == artifact.artifactId) = false := by simpa using here
      simp only [List.find?_cons, skipped] at found
      rw [replaceArtifact, if_neg here, List.find?_cons, skipped]
      exact ih found

/-- The artifact found first has the identifier it was looked up by. -/
theorem findArtifact_id (found : workload.findArtifact artifactId = some artifact) :
    artifact.artifactId = artifactId :=
  eq_of_beq (@List.find?_some _ (WorkloadArtifact.artifactId · == artifactId) _ _ found)

/-- What the artifact of an identifier keeps: its path, and everything once committed. -/
structure Retains (artifactId : CString) (artifact : WorkloadArtifact) (after : Workload) :
    Prop where
  path : ∃ later, after.findArtifact artifactId = some later ∧ later.path = artifact.path
  whole : artifact.state ≠ .isPartial → after.findArtifact artifactId = some artifact

/-- An artifact that was begun stays, with its path, and one that was committed stays
as it is. -/
theorem Changes.retains (changes : Changes call workload after)
    (found : workload.findArtifact artifactId = some artifact) :
    Retains artifactId artifact after := by
  have same : ∀ {other : Workload}, other.findArtifact artifactId = some artifact →
      Retains artifactId artifact other := fun still => ⟨⟨artifact, still, rfl⟩, fun _ => still⟩
  have appended : ∀ added, (workload.artifacts ++ added).find? (·.artifactId == artifactId) =
      some artifact := by
    intro added
    rw [List.find?_append, show workload.artifacts.find? (·.artifactId == artifactId) = some artifact
      from found, Option.some_or]
  cases changes with
  | nothing => exact same found
  | moved state terminalReason => exact same found
  | accounted increment fits => exact same found
  | written console nextConsoleSequence logs state terminalReason bounded => exact same found
  | began added => exact same (appended [added])
  | finalized bounded => exact same (appended [.zero])
  | committed committedId committed size sha256 requested evidenceId answers commits overruns =>
    have committedName := findArtifact_id commits.found
    by_cases here : committedId = artifactId
    · subst here
      have isCommitted : artifact = committed := Option.some.inj (found.symm.trans commits.found)
      subst isCommitted
      refine ⟨?_, fun settled => absurd commits.isPartial settled⟩
      subst committedName
      exact ⟨_, @find_replaced _ (committedArtifact artifact size sha256 requested evidenceId) _
        found, rfl⟩
    · have other : (committedArtifact committed size sha256 requested evidenceId).artifactId ≠
          artifactId := fun sameName => here (committedName.symm.trans sameName)
      exact same ((find_replaceArtifact other).trans found)

/-- An account call that would pass a limit ends a running workload. -/
theorem account_of_exceeds {limitReason : TerminalReason} (running : workload.state = .running)
    (exceeds : workload.usage.Exceeds increment workload.limits) :
    (workload.account increment limitReason).2.Ended ∧
      (workload.account increment limitReason).2.usage = workload.usage := by
  have passes := WorkloadUsage.over_iff.mpr exceeds
  have live : WorkloadState.running.terminal = false := rfl
  have ends : ∀ reason : TerminalReason, (stateForReason reason).terminal = true := by
    intro reason
    cases reason <;> rfl
  have named : ∀ reason : TerminalReason,
      ((if reason == .none then .fuelLimit else reason : TerminalReason) == .none) = false := by
    intro reason
    cases reason <;> rfl
  simp only [account, running, passes, bne_self_eq_false, Bool.false_eq_true, if_false, if_true,
    forceTerminate, named, live, Bool.or_self, Bool.false_and, Ended, ends, and_self]

/-- A text without room for its bytes ends a running workload, and fills the counter. -/
theorem appendConsole_of_exceeds {consoleType : ConsoleType} {text : CString}
    (running : workload.state = .running)
    (exceeds : workload.limits.logs.toNat < workload.usage.logs.toNat +
      (UInt32.ofNat (consoleStored text).length).toNat) :
    (workload.appendConsole consoleType text).2.Ended ∧
      (workload.appendConsole consoleType text).2.usage =
        { workload.usage with logs := workload.limits.logs } := by
  have full : workload.consoleFull text = true := by
    have compared := exceeds_iff.mpr exceeds
    rw [PoisonedOS.exceeds] at compared
    rw [consoleFull, Bool.or_assoc, compared, Bool.or_true]
  have live : workload.state.terminal = false := by
    rw [running]
    rfl
  rw [appendConsole, live, full]
  exact ⟨rfl, rfl⟩

/-- What a begin that succeeded leaves under its identifier. -/
theorem begun_of_artifactBegin {projectPath : CString}
    (succeeded : (workload.artifactBegin artifactId projectPath).1 = true) :
    artifactIdValid artifactId = true ∧ artifactPathValid projectPath = true ∧
      ∃ artifact, (workload.artifactBegin artifactId projectPath).2.findArtifact artifactId =
        some artifact ∧ artifact.path = projectPath := by
  rw [artifactBegin] at succeeded ⊢
  split at succeeded
  · cases succeeded
  rename_i admitted
  rw [if_neg admitted]
  simp only [Bool.or_eq_true, Bool.not_eq_true', not_or, Bool.not_eq_false] at admitted
  refine ⟨admitted.1.2, admitted.2, ?_⟩
  cases found : workload.findArtifact artifactId with
  | some existing =>
    simp only [found] at succeeded
    exact ⟨existing, found, eq_of_beq succeeded⟩
  | none =>
    simp only [found] at succeeded ⊢
    split at succeeded
    · cases succeeded
    rename_i room
    rw [if_neg room]
    refine ⟨{ WorkloadArtifact.zero with artifactId, path := projectPath }, ?_, rfl⟩
    have absent : workload.artifacts.find? (·.artifactId == artifactId) = none := found
    simp only [findArtifact, List.find?_append, absent, Option.none_or, List.find?_cons, beq_self_eq_true]

/-- What a commit that succeeded leaves under its identifier. -/
theorem committed_of_artifactCommit
    (succeeded : (workload.artifactCommit artifactId expectedSize expectedSha256 evidenceRequested
      evidenceId answers).1 = true) :
    expectedSize ≠ 0 ∧ ¬ expectedSize > 0xFFFFFFFF ∧ ∃ artifact,
      (workload.artifactCommit artifactId expectedSize expectedSha256 evidenceRequested evidenceId
        answers).2.findArtifact artifactId = some artifact ∧
      artifact.state = (if evidenceRequested then .evidence else .project) ∧
      artifact.size = expectedSize ∧ artifact.sha256 = expectedSha256 ∧
      (evidenceRequested = true → artifact.evidenceId = evidenceId) := by
  by_cases entered : (workload.state != .running || expectedSize == 0 ||
    decide (expectedSize > 0xFFFFFFFF)) = true
  · rw [artifactCommit, if_pos entered] at succeeded
    cases succeeded
  rw [artifactCommit, if_neg entered] at succeeded ⊢
  simp only [Bool.or_eq_true, beq_iff_eq, decide_eq_true_eq, not_or] at entered
  refine ⟨entered.1.2, entered.2, ?_⟩
  cases found : workload.findArtifact artifactId with
  | none =>
    rw [found] at succeeded
    cases succeeded
  | some artifact =>
    simp only [found] at succeeded ⊢
    split at succeeded
    · rename_i settled
      rw [if_pos settled]
      simp only [Bool.and_eq_true, beq_iff_eq, Bool.or_eq_true, Bool.not_eq_true'] at succeeded
      obtain ⟨⟨⟨size, digest⟩, state⟩, evidence⟩ := succeeded
      refine ⟨artifact, found, state, size, digest, fun requested => ?_⟩
      obtain plain | same := evidence
      · rw [requested] at plain
        cases plain
      · exact same
    rename_i unsettled
    rw [if_neg unsettled]
    split at succeeded
    · cases succeeded
    rename_i fits
    rw [if_neg fits]
    split at succeeded
    · cases succeeded
    rename_i matching
    rw [if_neg matching]
    split at succeeded
    · cases succeeded
    rename_i kept
    rw [if_neg kept]
    have named := findArtifact_id found
    subst named
    refine ⟨committedArtifact artifact expectedSize expectedSha256 evidenceRequested evidenceId,
      @find_replaced _ (committedArtifact artifact expectedSize expectedSha256 evidenceRequested
        evidenceId) _ found, rfl, rfl, rfl, fun requested => ?_⟩
    rw [committedArtifact, requested]
    rfl

/-- A begin answered as before: its artifact stands with the path it names. -/
theorem artifactBegin_again {projectPath : CString} (running : workload.state = .running)
    (named : artifactIdValid artifactId = true) (placed : artifactPathValid projectPath = true)
    (found : workload.findArtifact artifactId = some artifact)
    (path : artifact.path = projectPath) :
    workload.artifactBegin artifactId projectPath = (true, workload) := by
  simp only [artifactBegin, running, named, placed, found, path, bne_self_eq_false, Bool.not_true,
    Bool.or_self, Bool.false_eq_true, if_false, beq_self_eq_true]

/-- A commit answered as before: its artifact stands with the content it names. -/
theorem artifactCommit_again (running : workload.state = .running) (nonzero : expectedSize ≠ 0)
    (narrow : ¬ expectedSize > 0xFFFFFFFF)
    (found : workload.findArtifact artifactId = some artifact)
    (state : artifact.state = (if evidenceRequested then .evidence else .project))
    (size : artifact.size = expectedSize) (digest : artifact.sha256 = expectedSha256)
    (evidence : evidenceRequested = true → artifact.evidenceId = evidenceId) :
    workload.artifactCommit artifactId expectedSize expectedSha256 evidenceRequested evidenceId
      answers = (true, workload) := by
  have settled : ((if evidenceRequested then .evidence else .project : ArtifactState) !=
      .isPartial) = true := by
    cases evidenceRequested <;> rfl
  have recorded : (!evidenceRequested || artifact.evidenceId == evidenceId) = true := by
    cases evidenceRequested with
    | false => rfl
    | true => rw [evidence rfl, beq_self_eq_true, Bool.or_true]
  simp only [artifactCommit, running, found, settled, recorded, state, size, digest,
    beq_eq_false_iff_ne.mpr nonzero, decide_eq_false narrow, bne_self_eq_false, Bool.or_self,
    Bool.false_eq_true, if_false, if_true, beq_self_eq_true, Bool.and_self]

/-- The workload after the first calls of a run. -/
def workloadAt (start : Workload) (calls : List WorkloadCall) (index : Nat) : Workload :=
  Runs.reached (fun (call : WorkloadCall) workload => (call.apply workload).2) start calls index

/-- What the limits of a workload promise along a run. -/
structure Bounded (start : Workload) (calls : List WorkloadCall) : Prop where
  within : ∀ index, (workloadAt start calls index).WithinLimits
  account : ∀ index increment limitReason,
    calls[index]? = some (.account increment limitReason) →
    (workloadAt start calls index).state = .running →
    (workloadAt start calls index).usage.Exceeds increment
      (workloadAt start calls index).limits →
    (workloadAt start calls (index + 1)).Ended ∧
      (workloadAt start calls (index + 1)).usage = (workloadAt start calls index).usage
  console : ∀ index consoleType text,
    calls[index]? = some (.appendConsole consoleType text) →
    (workloadAt start calls index).state = .running →
    (workloadAt start calls index).limits.logs.toNat <
      (workloadAt start calls index).usage.logs.toNat +
        (UInt32.ofNat (consoleStored text).length).toNat →
    (workloadAt start calls (index + 1)).Ended ∧
      (workloadAt start calls (index + 1)).usage =
        { (workloadAt start calls index).usage with
          logs := (workloadAt start calls index).limits.logs }
  repeatedBegin : ∀ earlier later artifactId projectPath,
    calls[earlier]? = some (.artifactBegin artifactId projectPath) →
    ((workloadAt start calls earlier).artifactBegin artifactId projectPath).1 = true →
    earlier < later → (workloadAt start calls later).state = .running →
    (workloadAt start calls later).artifactBegin artifactId projectPath =
      (true, workloadAt start calls later)
  repeatedCommit : ∀ earlier later artifactId expectedSize expectedSha256 evidenceRequested
      evidenceId answers again,
    calls[earlier]? = some (.artifactCommit artifactId expectedSize expectedSha256
      evidenceRequested evidenceId answers) →
    ((workloadAt start calls earlier).artifactCommit artifactId expectedSize expectedSha256
      evidenceRequested evidenceId answers).1 = true →
    earlier < later → (workloadAt start calls later).state = .running →
    (workloadAt start calls later).artifactCommit artifactId expectedSize expectedSha256
      evidenceRequested evidenceId again = (true, workloadAt start calls later)
  settled : ∀ index later, index ≤ later → (workloadAt start calls index).Ended →
    workloadAt start calls later = workloadAt start calls index

variable {start : Workload} {calls : List WorkloadCall}

theorem workloadAt_succ {index : Nat} {call : WorkloadCall} (taken : calls[index]? = some call) :
    workloadAt start calls (index + 1) = (call.apply (workloadAt start calls index)).2 :=
  Runs.reached_succ taken

theorem init_within {workloadId projectDigest capabilitiesDigest : CString}
    (initialized : init workloadId projectDigest capabilitiesDigest limits = some start) :
    start.WithinLimits := by
  rw [init] at initialized
  split at initialized
  · cases initialized
  · obtain rfl := Option.some.inj initialized
    intro counter
    cases counter <;> exact Nat.zero_le _

/-- An ended workload stays as it is. -/
theorem settled_along {index : Nat} (ended : (workloadAt start calls index).Ended) (later : Nat) :
    workloadAt start calls (index + later) = workloadAt start calls index := by
  refine Runs.onward (motive := (· = workloadAt start calls index)) (Nat.le_add_right ..) rfl ?_
  intro later call _ _ same
  rw [same, apply_of_ended call ended]

/-- What an identifier stands for is retained along the rest of a run. -/
theorem retained_along {index : Nat}
    (found : (workloadAt start calls index).findArtifact artifactId = some artifact) (later : Nat) :
    Retains artifactId artifact (workloadAt start calls (index + later)) := by
  refine Runs.onward (motive := Retains artifactId artifact) (Nat.le_add_right ..)
    ⟨⟨artifact, found, rfl⟩, fun _ => found⟩ ?_
  intro later call _ _ retained
  have changes := apply_changes call (workloadAt start calls later)
  obtain ⟨current, currentFound, samePath⟩ := retained.path
  obtain ⟨next, nextFound, nextPath⟩ := (changes.retains currentFound).path
  exact ⟨⟨next, nextFound, nextPath.trans samePath⟩,
    fun settled => (changes.retains (retained.whole settled)).whole settled⟩

/-- In a run without an overrun every counter stays within its limit. -/
theorem within_along (within : start.WithinLimits)
    (contained : ∀ index call, calls[index]? = some call →
      ¬ WorkloadCall.Overruns call (workloadAt start calls index)) (index : Nat) :
    (workloadAt start calls index).WithinLimits :=
  Runs.always (motive := WithinLimits) within
    (fun index call taken kept => (apply_changes call _).within kept (contained index call taken))
    index

/-- Whatever the calls, what was answered once is answered the same again, a call that
would pass a limit ends the workload, and what ended stays as it is. The counters stay
within their limits exactly when no commit finds the artifacts used up. -/
theorem limits_kept_iff {workloadId projectDigest capabilitiesDigest : CString}
    {limits : WorkloadUsage}
    (initialized : init workloadId projectDigest capabilitiesDigest limits = some start)
    (calls : List WorkloadCall) :
    Bounded start calls ↔ ∀ index call, calls[index]? = some call →
      ¬ WorkloadCall.Overruns call (workloadAt start calls index) := by
  constructor
  · intro bounded index call taken overruns
    have within := bounded.within (index + 1)
    rw [workloadAt_succ taken] at within
    exact not_within_of_overruns overruns within
  · intro contained
    refine ⟨within_along (init_within initialized) contained, ?_, ?_, ?_, ?_, ?_⟩
    · intro index increment limitReason taken running exceeds
      rw [workloadAt_succ taken]
      exact account_of_exceeds running exceeds
    · intro index consoleType text taken running exceeds
      rw [workloadAt_succ taken]
      exact appendConsole_of_exceeds running exceeds
    · intro earlier later artifactId projectPath taken succeeded after running
      obtain ⟨named, placed, artifact, found, path⟩ := begun_of_artifactBegin succeeded
      obtain ⟨gap, rfl⟩ := Nat.exists_eq_add_of_le after
      have left := @workloadAt_succ start calls earlier _ taken
      rw [WorkloadCall.apply] at left
      rw [← left] at found
      obtain ⟨standing, stands, samePath⟩ := (retained_along found gap).path
      exact artifactBegin_again running named placed stands (samePath.trans path)
    · intro earlier later artifactId expectedSize expectedSha256 evidenceRequested evidenceId
        answers again taken succeeded after running
      obtain ⟨nonzero, narrow, artifact, found, state, size, digest, evidence⟩ :=
        committed_of_artifactCommit succeeded
      obtain ⟨gap, rfl⟩ := Nat.exists_eq_add_of_le after
      have left := @workloadAt_succ start calls earlier _ taken
      rw [WorkloadCall.apply] at left
      rw [← left] at found
      have settled : artifact.state ≠ .isPartial := by
        rw [state]
        cases evidenceRequested <;> exact ArtifactState.noConfusion
      have stands := (retained_along found gap).whole settled
      exact artifactCommit_again running nonzero narrow stands state size digest evidence
    · intro index later after ended
      obtain ⟨gap, rfl⟩ := Nat.exists_eq_add_of_le after
      exact settled_along ended gap

section Overrun

/-- Limits that admit one artifact. -/
def oneArtifact : WorkloadUsage :=
  { WorkloadUsage.zero with
    heapBytes := 1, sourceBytes := 1, modules := 1, fuel := 1, wallMs := 1
    artifacts := 1, artifactBytes := 16 }

theorem zero_digits_terminated : (0 : UInt8) ∉ List.replicate 64 48 := by
  decide

/-- A queued workload with these limits. -/
def sampleWorkload : Workload where
  workloadId := .literal "w"
  projectDigest := ⟨List.replicate 64 48, zero_digits_terminated⟩
  capabilitiesDigest := ⟨List.replicate 64 48, zero_digits_terminated⟩
  state := .queued
  terminalReason := .none
  limits := oneArtifact
  usage := .zero
  console := []
  nextConsoleSequence := 1
  artifacts := []

def accountedThenCommitted : List WorkloadCall :=
  [.start, .account { WorkloadUsage.zero with artifacts := 1 } .artifactLimit,
    .artifactBegin (.literal "a") (.literal "/ext/scripts/p/artifacts/a"),
    .artifactCommit (.literal "a") 8 (.zero _) false (.literal "") ⟨fun _ _ _ => true, true⟩]

theorem sample_initialized :
    init (.literal "w") sampleWorkload.projectDigest sampleWorkload.capabilitiesDigest oneArtifact =
      some sampleWorkload := by
  decide +kernel

/-- The commit counts a second artifact where the limit is one. -/
theorem commit_passes_limit : ¬ ∀ workloadId projectDigest capabilitiesDigest limits start calls,
    init workloadId projectDigest capabilitiesDigest limits = some start →
    Bounded start calls := by
  intro always
  have within := (always _ _ _ _ _ accountedThenCommitted sample_initialized).within 4 .artifacts
  have counted : (workloadAt sampleWorkload accountedThenCommitted 4).usage.artifacts = 2 := by
    decide +kernel
  have limited : (workloadAt sampleWorkload accountedThenCommitted 4).limits.artifacts = 1 := by
    decide +kernel
  simp only [WorkloadUsage.count, counted, limited] at within
  exact absurd within (by decide)

/-- Without the account call the artifact is the only one counted. -/
theorem commit_within_limit :
    Bounded sampleWorkload [.start, .artifactBegin (.literal "a")
      (.literal "/ext/scripts/p/artifacts/a"), .artifactCommit (.literal "a") 8 (.zero _) false
      (.literal "") ⟨fun _ _ _ => true, true⟩] := by
  refine (limits_kept_iff sample_initialized _).mpr fun index call taken overruns => ?_
  match index, taken with
  | 0, taken =>
    obtain rfl := Option.some.inj taken
    exact overruns
  | 1, taken =>
    obtain rfl := Option.some.inj taken
    exact overruns
  | 2, taken =>
    obtain rfl := Option.some.inj taken
    exact absurd overruns.2.1 (by decide +kernel)

end Overrun

end Workload

end PoisonedOS
