import PoisonedOS.Workloads.Limits

/-!
# The console of a workload

The console is a stream of numbered frames. The numbers have no gaps, the last frame that
fits says that the limit was reached and ends the workload, and nothing follows an end.

How a workload ended is told twice, by its state and by a reason. Finishing and terminating
map reasons to states independently, and they disagree about a crash: a workload that
finishes without success has crashed, one that is terminated because of a crash has failed.
-/

namespace PoisonedOS

open WorkloadCall (apply)

/-- The state that a reason stands for, where the workload's own end is the measure. -/
def TerminalReason.reported : TerminalReason → WorkloadState
  | .crash => .crashed
  | reason => stateForReason reason

theorem TerminalReason.reported_eq {reason : TerminalReason} (other : reason ≠ .crash) :
    stateForReason reason = reason.reported := by
  cases reason with
  | crash => exact absurd rfl other
  | _ => rfl

def WorkloadCall.Misreports (call : WorkloadCall) (workload : Workload) : Prop :=
  match call with
  | .forceTerminate reason =>
    reason = .crash ∧ (workload.state = .running ∨ workload.state = .cancelling)
  | .account increment limitReason =>
    limitReason = .crash ∧ workload.state = .running ∧
      workload.usage.Exceeds increment workload.limits
  | _ => False

namespace Workload

variable {workload : Workload}

/-- The frames of the console are numbered from one on, without gaps, and fit. -/
structure Streamed (workload : Workload) : Prop where
  numbered : workload.console.map (·.sequence.toNat) = List.range' 1 workload.console.length
  next : workload.nextConsoleSequence.toNat = workload.console.length + 1
  bounded : workload.console.length ≤ workloadMaxConsoleFrames
  room : ¬ workload.Ended → workload.console.length < workloadMaxConsoleFrames
  logs : workload.usage.logs ≤ workload.limits.logs

/-- No frame was written. -/
structure Unwritten (workload after : Workload) : Prop where
  console : after.console = workload.console
  next : after.nextConsoleSequence = workload.nextConsoleSequence

theorem forceTerminate_unwritten (workload : Workload) (reason : TerminalReason) :
    Unwritten workload (workload.forceTerminate reason).2 := by
  rw [forceTerminate]
  split
  · exact ⟨rfl, rfl⟩
  split
  · exact ⟨rfl, rfl⟩
  · exact ⟨rfl, rfl⟩

variable {call : WorkloadCall}

/-- Only one call writes to the console. -/
theorem apply_unwritten (other : ∀ consoleType text, call ≠ .appendConsole consoleType text)
    (workload : Workload) :
    Unwritten workload (call.apply workload).2 := by
  cases call with
  | appendConsole consoleType text => exact absurd rfl (other consoleType text)
  | start =>
    simp only [apply, start]
    split
    · exact ⟨rfl, rfl⟩
    · exact ⟨rfl, rfl⟩
  | requestCancel =>
    simp only [apply, requestCancel]
    split
    · exact ⟨rfl, rfl⟩
    · exact ⟨rfl, rfl⟩
  | finish success =>
    simp only [apply, finish]
    split
    · exact ⟨rfl, rfl⟩
    · exact ⟨rfl, rfl⟩
  | finalizeArtifact requested =>
    simp only [apply, finalizeArtifact]
    split
    · exact ⟨rfl, rfl⟩
    · exact ⟨rfl, rfl⟩
  | forceTerminate reason => exact forceTerminate_unwritten workload reason
  | account increment limitReason =>
    simp only [apply, account]
    split
    · exact ⟨rfl, rfl⟩
    split
    · exact forceTerminate_unwritten workload _
    · exact ⟨rfl, rfl⟩
  | artifactBegin artifactId path =>
    simp only [apply, artifactBegin]
    split
    · exact ⟨rfl, rfl⟩
    cases workload.findArtifact artifactId with
    | some existing => exact ⟨rfl, rfl⟩
    | none =>
      dsimp only
      split
      · exact forceTerminate_unwritten workload _
      · exact ⟨rfl, rfl⟩
  | artifactCommit artifactId size sha256 requested evidenceId answers =>
    simp only [apply]
    obtain same | ended | ⟨artifact, commits⟩ :=
      artifactCommit_cases workload artifactId size sha256 requested evidenceId answers
    · rw [same]
      exact ⟨rfl, rfl⟩
    · rw [ended]
      exact forceTerminate_unwritten workload _
    · rw [artifactCommit_of_commits commits]
      exact ⟨rfl, rfl⟩

/-- No call takes the bytes of the console past their limit. -/
theorem Changes.logs {after : Workload} (changes : Changes call workload after)
    (within : workload.usage.logs ≤ workload.limits.logs) :
    after.usage.logs ≤ after.limits.logs := by
  cases changes with
  | nothing => exact within
  | moved state reason => exact within
  | began artifact => exact within
  | finalized bounded => exact within
  | committed _ _ _ _ _ _ _ _ _ => exact within
  | written console next logs state reason bounded => exact bounded
  | accounted increment fits =>
    have counted := WorkloadUsage.count_add fits .logs
    have small : ¬ workload.limits.count .logs <
        workload.usage.count .logs + increment.count .logs := fun above => fits ⟨.logs, above⟩
    rw [UInt32.le_iff_toNat_le]
    change (workload.usage.add increment).count .logs ≤ workload.limits.count .logs
    omega

/-- A frame more, with the next number. -/
theorem numbered_concat {console : List ConsoleFrame} {frame : ConsoleFrame} {next : UInt64}
    (numbered : console.map (·.sequence.toNat) = List.range' 1 console.length)
    (isNext : next.toNat = console.length + 1) (bounded : console.length < workloadMaxConsoleFrames)
    (sequence : frame.sequence = next) :
    (console ++ [frame]).map (·.sequence.toNat) = List.range' 1 (console ++ [frame]).length ∧
      (next + 1).toNat = (console ++ [frame]).length + 1 := by
  have most : workloadMaxConsoleFrames = 32 := rfl
  constructor
  · rw [List.map_append, numbered, List.length_append, List.length_singleton, List.range'_concat,
      List.map_singleton, sequence, isNext, Nat.one_mul, Nat.add_comm 1]
  · rw [List.length_append, List.length_singleton, UInt64.toNat_add, isNext]
    exact Nat.mod_eq_of_lt (by simp; omega)

/-- The frame that says that the limit was reached. -/
def limitFrame (sequence : UInt64) : ConsoleFrame :=
  ⟨sequence, .truncation, .literal "[output limit reached]"⟩

/-- A call that does not fit writes the limit frame and ends the workload. -/
theorem appendConsole_full (streamed : workload.Streamed) (running : ¬ workload.Ended)
    (consoleType : ConsoleType) {text : CString} (full : workload.consoleFull text = true) :
    (workload.appendConsole consoleType text).2 = { workload with
      console := workload.console ++ [limitFrame workload.nextConsoleSequence]
      nextConsoleSequence := workload.nextConsoleSequence + 1
      usage := { workload.usage with logs := workload.limits.logs }
      terminalReason := .logLimit
      state := .failed } := by
  have live : workload.state.terminal = false := Bool.eq_false_iff.mpr running
  simp only [appendConsole, live, full, streamed.room running, Bool.false_eq_true, if_false,
    if_true, limitFrame]

/-- Every call keeps the console in order. -/
theorem Streamed.step (streamed : workload.Streamed) (call : WorkloadCall) :
    (call.apply workload).2.Streamed := by
  have logs := (apply_changes call workload).logs streamed.logs
  by_cases ended : workload.Ended
  · rw [apply_of_ended call ended]
    exact streamed
  by_cases writes : ∃ consoleType text, call = .appendConsole consoleType text
  · obtain ⟨consoleType, text, rfl⟩ := writes
    have room := streamed.room ended
    rw [apply] at logs ⊢
    by_cases full : workload.consoleFull text = true
    · rw [appendConsole_full streamed ended consoleType full] at logs ⊢
      obtain ⟨numbered, next⟩ := @numbered_concat _ (limitFrame workload.nextConsoleSequence) _
        streamed.numbered streamed.next room rfl
      refine ⟨numbered, next, ?_, fun running => absurd rfl running, logs⟩
      rw [List.length_append, List.length_singleton]
      exact room
    · have live : workload.state.terminal = false := Bool.eq_false_iff.mpr ended
      rw [appendConsole, live, if_neg Bool.false_ne_true, if_neg full] at logs ⊢
      obtain ⟨numbered, next⟩ := @numbered_concat _ ⟨workload.nextConsoleSequence, if decide
        (text.length > workloadMaxConsoleText) then .truncation else consoleType,
        consoleStored text⟩ _ streamed.numbered streamed.next room rfl
      have notLast : ¬ workload.console.length ≥ workloadMaxConsoleFrames - 1 := by
        intro last
        rw [consoleFull, decide_eq_true last] at full
        exact full rfl
      have grown : (workload.console ++ [(⟨workload.nextConsoleSequence, if decide
          (text.length > workloadMaxConsoleText) then .truncation else consoleType,
          consoleStored text⟩ : ConsoleFrame)]).length < workloadMaxConsoleFrames := by
        rw [List.length_append, List.length_singleton]
        omega
      exact ⟨numbered, next, Nat.le_of_lt grown, fun _ => grown, logs⟩
  · have unwritten := apply_unwritten (fun consoleType text same =>
      writes ⟨consoleType, text, same⟩) workload
    refine ⟨?_, ?_, ?_, fun _ => ?_, logs⟩
    · rw [unwritten.console]
      exact streamed.numbered
    · rw [unwritten.next, unwritten.console]
      exact streamed.next
    · rw [unwritten.console]
      exact streamed.bounded
    · rw [unwritten.console]
      exact streamed.room ended

/-! ## State and reason -/

/-- The state of an ended workload is the one that its reason stands for. -/
def Agreed (workload : Workload) : Prop :=
  workload.Ended → workload.state = workload.terminalReason.reported

theorem forceTerminate_agreed (agreed : workload.Agreed) {reason : TerminalReason}
    (other : reason = .crash → ¬ (workload.state = .running ∨ workload.state = .cancelling)) :
    (workload.forceTerminate reason).2.Agreed := by
  rw [forceTerminate]
  split
  · exact agreed
  split
  · exact agreed
  · rename_i active
    intro _
    refine TerminalReason.reported_eq fun crash => other crash ?_
    rw [Bool.and_eq_true, bne_iff_ne, bne_iff_ne, not_and_or, not_not, not_not] at active
    exact active

/-- A call that does not misreport a crash keeps state and reason in agreement. -/
theorem Agreed.step (agreed : workload.Agreed) (proper : ¬ call.Misreports workload) :
    (call.apply workload).2.Agreed := by
  cases call with
  | start =>
    simp only [apply, start]
    split
    · exact agreed
    · exact fun ended => absurd ended Bool.false_ne_true
  | requestCancel =>
    simp only [apply, requestCancel]
    split
    · exact agreed
    · exact fun ended => absurd ended Bool.false_ne_true
  | finish success =>
    simp only [apply, finish]
    split
    · exact agreed
    · cases success with
      | true => exact fun _ => rfl
      | false => exact fun _ => rfl
  | finalizeArtifact requested =>
    simp only [apply, finalizeArtifact]
    split
    · exact agreed
    · exact agreed
  | forceTerminate reason =>
    exact forceTerminate_agreed agreed fun crash active => proper ⟨crash, active⟩
  | account increment limitReason =>
    simp only [apply, account]
    split
    · exact agreed
    rename_i running
    rw [bne_iff_ne, not_not] at running
    split
    · rename_i passed
      refine forceTerminate_agreed agreed fun crash => ?_
      cases limitReason with
      | crash => exact absurd ⟨rfl, running, WorkloadUsage.over_iff.mp passed⟩ proper
      | _ => cases crash
    · exact agreed
  | appendConsole consoleType text =>
    simp only [apply, appendConsole]
    split
    · exact agreed
    split
    · exact fun _ => rfl
    · exact agreed
  | artifactBegin artifactId path =>
    simp only [apply, artifactBegin]
    split
    · exact agreed
    cases workload.findArtifact artifactId with
    | some existing => exact agreed
    | none =>
      dsimp only
      split
      · exact forceTerminate_agreed agreed fun crash => by cases crash
      · exact agreed
  | artifactCommit artifactId size sha256 requested evidenceId answers =>
    simp only [apply]
    obtain same | ended | ⟨artifact, commits⟩ :=
      artifactCommit_cases workload artifactId size sha256 requested evidenceId answers
    · rw [same]
      exact agreed
    · rw [ended]
      exact forceTerminate_agreed agreed fun crash => by cases crash
    · rw [artifactCommit_of_commits commits]
      exact agreed

/-- A misreported crash leaves a workload that has failed because of a crash. -/
theorem not_agreed_of_misreports (misreports : call.Misreports workload) :
    ¬ (call.apply workload).2.Agreed := by
  have terminated {reason : TerminalReason} (crash : reason = .crash)
      (active : workload.state = .running ∨ workload.state = .cancelling) :
      ¬ (workload.forceTerminate reason).2.Agreed := by
    subst crash
    intro agreed
    obtain running | cancelling := active
    · simp only [forceTerminate, running] at agreed
      cases agreed rfl
    · simp only [forceTerminate, cancelling] at agreed
      cases agreed rfl
  cases call with
  | forceTerminate reason => exact terminated misreports.1 misreports.2
  | account increment limitReason =>
    obtain ⟨rfl, running, exceeds⟩ := misreports
    have above := WorkloadUsage.over_iff.mpr exceeds
    simp only [apply, account, running, above, bne_self_eq_false, Bool.false_eq_true,
      if_false, if_true]
    exact terminated rfl (.inl running)
  | _ => exact misreports.elim

/-- What the console of a workload promises along a run. -/
structure ConsoleKept (start : Workload) (calls : List WorkloadCall) : Prop where
  numbered : ∀ index, (workloadAt start calls index).console.map (·.sequence.toNat) =
    List.range' 1 (workloadAt start calls index).console.length
  next : ∀ index, (workloadAt start calls index).nextConsoleSequence.toNat =
    (workloadAt start calls index).console.length + 1
  bounded : ∀ index, (workloadAt start calls index).console.length ≤ workloadMaxConsoleFrames
  limited : ∀ index consoleType text, calls[index]? = some (.appendConsole consoleType text) →
    ¬ (workloadAt start calls index).Ended →
    workloadMaxConsoleFrames - 1 ≤ (workloadAt start calls index).console.length ∨
      (workloadAt start calls index).limits.logs.toNat <
        (workloadAt start calls index).usage.logs.toNat +
          (UInt32.ofNat (consoleStored text).length).toNat →
    (workloadAt start calls (index + 1)).console = (workloadAt start calls index).console ++
        [limitFrame (workloadAt start calls index).nextConsoleSequence] ∧
      (workloadAt start calls (index + 1)).Ended
  silent : ∀ index later, index ≤ later → (workloadAt start calls index).Ended →
    (workloadAt start calls later).console = (workloadAt start calls index).console
  logs : ∀ index,
    (workloadAt start calls index).usage.logs ≤ (workloadAt start calls index).limits.logs
  agreed : ∀ index, (workloadAt start calls index).Ended →
    (workloadAt start calls index).state =
      (workloadAt start calls index).terminalReason.reported

theorem consoleFull_of_exceeds {text : CString}
    (exceeds : workloadMaxConsoleFrames - 1 ≤ workload.console.length ∨
      workload.limits.logs.toNat <
        workload.usage.logs.toNat + (UInt32.ofNat (consoleStored text).length).toNat) :
    workload.consoleFull text = true := by
  rw [consoleFull, Bool.or_assoc, Bool.or_eq_true, decide_eq_true_eq]
  exact exceeds.imp_right exceeds_iff.mpr

variable {start : Workload} {calls : List WorkloadCall}

theorem init_streamed {workloadId projectDigest capabilitiesDigest : CString}
    {limits : WorkloadUsage}
    (initialized : init workloadId projectDigest capabilitiesDigest limits = some start) :
    start.Streamed ∧ ¬ start.Ended := by
  rw [init] at initialized
  split at initialized
  · cases initialized
  · obtain rfl := Option.some.inj initialized
    exact ⟨⟨rfl, rfl, Nat.zero_le _, fun _ => Nat.zero_lt_succ 31, UInt32.zero_le⟩, Bool.false_ne_true⟩

/-- Whatever the calls, the frames are numbered without gaps and fit, the call that does not
fit adds one limit frame and ends the workload, and nothing follows an end. State and reason
agree in all ended workloads exactly when no crash is reported by terminating a workload.

Proof: every call keeps the console in order, and every call but those that misreport a
crash keeps state and reason in agreement. A misreported crash leaves them apart. -/
theorem console_kept_iff {workloadId projectDigest capabilitiesDigest : CString}
    {limits : WorkloadUsage}
    (initialized : init workloadId projectDigest capabilitiesDigest limits = some start)
    (calls : List WorkloadCall) :
    ConsoleKept start calls ↔ ∀ index call, calls[index]? = some call →
      ¬ WorkloadCall.Misreports call (workloadAt start calls index) := by
  obtain ⟨initial, running⟩ := init_streamed initialized
  have streamed (index : Nat) : (workloadAt start calls index).Streamed :=
    Runs.always (motive := Streamed) initial (fun index call taken kept => kept.step call) index
  constructor
  · intro kept index call taken misreports
    have agreed := kept.agreed (index + 1)
    rw [workloadAt_succ taken] at agreed
    exact not_agreed_of_misreports misreports agreed
  · intro proper
    have agreed (index : Nat) : (workloadAt start calls index).Agreed :=
      Runs.always (motive := Agreed) (fun ended => absurd ended running)
        (fun index call taken kept => kept.step (proper index call taken)) index
    refine ⟨fun index => (streamed index).numbered, fun index => (streamed index).next,
      fun index => (streamed index).bounded, ?_, ?_, fun index => (streamed index).logs, agreed⟩
    · intro index consoleType text taken unended exceeds
      rw [workloadAt_succ taken, WorkloadCall.apply, appendConsole_full (streamed index) unended
        consoleType (consoleFull_of_exceeds exceeds)]
      exact ⟨rfl, rfl⟩
    · intro index later after ended
      obtain ⟨gap, rfl⟩ := Nat.exists_eq_add_of_le after
      rw [settled_along ended gap]

/-- A workload that writes to its console and finishes without success keeps all promises. -/
theorem finished_kept : ConsoleKept sampleWorkload
    [.start, .appendConsole .stdout (.literal "ready"), .appendConsole .stderr (.literal "stop"),
      .finish false] := by
  refine (console_kept_iff sample_initialized _).mpr fun index call taken misreports => ?_
  have isCall := List.mem_of_getElem? taken
  simp only [List.mem_cons, List.not_mem_nil, or_false] at isCall
  obtain rfl | rfl | rfl | rfl := isCall
  all_goals exact misreports

/-- The reason does not tell the state: a crash is reported as crashed by finishing and as
failed by terminating. -/
theorem crash_reported_twice : ¬ ∃ stateOf : TerminalReason → WorkloadState,
    ∀ calls index, (workloadAt sampleWorkload calls index).Ended →
      (workloadAt sampleWorkload calls index).state =
        stateOf (workloadAt sampleWorkload calls index).terminalReason := by
  rintro ⟨stateOf, agrees⟩
  have finished : WorkloadState.crashed = stateOf .crash :=
    agrees [.start, .finish false] 2 rfl
  have terminated : WorkloadState.failed = stateOf .crash :=
    agrees [.start, .forceTerminate .crash] 2 rfl
  cases finished.trans terminated.symm

end Workload

end PoisonedOS
