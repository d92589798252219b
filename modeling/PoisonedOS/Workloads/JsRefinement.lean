import PoisonedOS.Workloads.JsAccounting

/-!
# The limits of a script and those of its workload

A workload allows nothing of a resource whose limit is zero, and ends with the reason of the
resource that was exceeded. The script that runs for it takes zero for no limit, and the text
of the reason for the wall time is not among those that the workload knows. Where no call
meets one of these two, the script keeps to the limits of the workload.
-/

namespace PoisonedOS

namespace Workload

/-! ## The end of a workload -/

theorem workloadJsLimitReason_text (resource : JsResource) :
    workloadJsLimitReason (some resource.reason.text) = resource.terminalReason := by
  cases resource <;> decide +kernel

theorem workloadJsLimitReason_wallTime :
    workloadJsLimitReason (some JsLimitReason.wallTime.text) = .none := by
  decide +kernel

theorem terminalReason_ne_none (resource : JsResource) : resource.terminalReason ≠ .none := by
  cases resource <;> decide

variable {limits : JsLimits}

theorem afterScript_triggered {workload : Workload} (given : limits.reason ≠ .none)
    (error : Option MjsError) :
    workload.afterScript limits error = workload.jsEvent .error (some limits.reason.text) := by
  have triggered : limits.triggered = true := bne_iff_ne.mpr given
  simp only [afterScript, JsLimits.lastEvents, triggered, if_true, List.foldl_cons,
    List.foldl_nil]

theorem forceTerminate_running {workload : Workload} (running : workload.state = .running)
    {reason : TerminalReason} (given : reason ≠ .none) :
    (workload.forceTerminate reason).2 =
      { workload with terminalReason := reason, state := stateForReason reason } := by
  have unset : (reason == .none) = false := beq_eq_false_iff_ne.mpr given
  have goes : (workload.state != .running && workload.state != .cancelling) = false := by
    rw [running]
    rfl
  rw [forceTerminate, unset, running]
  rw [running] at goes
  rw [goes]
  rfl

theorem afterScript_resource {workload : Workload} (running : workload.state = .running)
    {resource : JsResource} (given : limits.reason = resource.reason) (error : Option MjsError) :
    (workload.afterScript limits error).terminalReason = resource.terminalReason ∧
      (workload.afterScript limits error).state = stateForReason resource.terminalReason := by
  have some : limits.reason ≠ .none := by
    rw [given]
    exact JsLimits.reason_ne_none resource
  have found : (resource.terminalReason != .none) = true :=
    bne_iff_ne.mpr (terminalReason_ne_none resource)
  have active : (workload.state != .cancelling) = true := by rw [running]; rfl
  rw [afterScript_triggered some, given, jsEvent]
  simp only [active, if_true, workloadJsLimitReason_text, found,
    forceTerminate_running running (terminalReason_ne_none resource), and_self]

/-- What is written to the console ends a workload by its own limit, if at all. -/
theorem appendConsole_reason {workload : Workload} (running : workload.state = .running)
    (consoleType : ConsoleType) (text : CString) :
    (workload.appendConsole consoleType text).2.state = .running ∨
      (workload.appendConsole consoleType text).2.state = .failed ∧
        (workload.appendConsole consoleType text).2.terminalReason = .logLimit := by
  have active : workload.state.terminal = false := by
    rw [running]
    rfl
  rw [appendConsole, active]
  simp only [Bool.false_eq_true, if_false]
  split
  · exact .inr ⟨rfl, rfl⟩
  · exact .inl running

theorem afterScript_wallTime {workload : Workload} (running : workload.state = .running)
    (given : limits.reason = .wallTime) (error : Option MjsError) :
    (workload.afterScript limits error).terminalReason ≠ .timeout := by
  have some : limits.reason ≠ .none := by
    rw [given]
    decide
  have active : (workload.state != .cancelling) = true := by rw [running]; rfl
  rw [afterScript_triggered some, given, jsEvent]
  simp only [active, if_true, workloadJsLimitReason_wallTime, bne_self_eq_false,
    Bool.false_eq_true, if_false, Option.getD_some]
  rcases appendConsole_reason running .stderr JsLimitReason.wallTime.text with
    still | ⟨failed, reason⟩
  · simp [finish, still]
  · simp [finish, failed, reason]

/-! ## A run -/

def scriptLimits (workload : Workload) (startTick : UInt32) (calls : List JsLimits.Call)
    (index : Nat) : JsLimits :=
  Runs.reached JsLimits.step (JsLimits.init workload.jsLimitsConfig startTick) calls index

/-- The script keeps the limits of its workload: no counter passes its limit, the first call
that would pass one and all later ones are refused, and the workload ends with the reason of a
limit that this call would have passed. -/
structure KeepsLimits (workload : Workload) (startTick : UInt32) (calls : List JsLimits.Call) :
    Prop where
  bounded : ∀ index, (workload.scriptLimits startTick calls index).WithinBounds workload.limits
  timely : ∀ index elapsedTicks, calls[index]? = some (.poll elapsedTicks) →
    (workload.scriptLimits startTick calls index).refused (.poll elapsedTicks) = false →
    JsLimits.elapsedMs elapsedTicks ≤ workload.limits.wallMs.toNat
  refuses : ∀ index call reason, calls[index]? = some call →
    (workload.scriptLimits startTick calls index).Passes workload.limits call reason →
    ∀ later other, index ≤ later → calls[later]? = some other →
      (workload.scriptLimits startTick calls later).refused other = true
  ends : ∀ index call reason, calls[index]? = some call →
    (workload.scriptLimits startTick calls index).Passes workload.limits call reason →
    (∀ earlier other reason, earlier < index → calls[earlier]? = some other →
      ¬ (workload.scriptLimits startTick calls earlier).Passes workload.limits other reason) →
    ∀ error, ∃ terminal,
      (workload.scriptLimits startTick calls index).Passes workload.limits call terminal ∧
      (workload.afterScript (workload.scriptLimits startTick calls calls.length)
        error).terminalReason = terminal ∧
      (workload.afterScript (workload.scriptLimits startTick calls calls.length)
        error).state = stateForReason terminal

def MeetsNoDifference (workload : Workload) (startTick : UInt32) (calls : List JsLimits.Call) :
    Prop :=
  ∀ index call, calls[index]? = some call →
    (workload.scriptLimits startTick calls index).reason = .none →
    (workload.scriptLimits startTick calls index).Agrees workload.limits call

variable {workload : Workload} {startTick : UInt32} {calls : List JsLimits.Call}

variable {index : Nat}

theorem scriptLimits_succ {call : JsLimits.Call} (taken : calls[index]? = some call) :
    workload.scriptLimits startTick calls (index + 1) =
      JsLimits.step call (workload.scriptLimits startTick calls index) :=
  Runs.reached_succ taken

/-- A reason that was found stays. -/
theorem scriptLimits_stays (given : (workload.scriptLimits startTick calls index).reason ≠ .none)
    {later : Nat} (order : index ≤ later) :
    workload.scriptLimits startTick calls later =
      workload.scriptLimits startTick calls index := by
  refine Runs.onward (motive := (· = workload.scriptLimits startTick calls index)) order rfl ?_
  intro later call _ _ same
  rw [same]
  exact (JsLimits.triggered_step given call).2

theorem scriptLimits_madeFor (made : (JsLimits.init workload.jsLimitsConfig startTick).MadeFor
    workload.limits) (index : Nat) :
    (workload.scriptLimits startTick calls index).MadeFor workload.limits := by
  refine Runs.always (motive := fun limits => JsLimits.MadeFor limits workload.limits) made ?_ index
  exact fun index call taken kept => kept.step call

theorem scriptLimits_within (made : (JsLimits.init workload.jsLimitsConfig startTick).MadeFor
    workload.limits) (none : workload.MeetsNoDifference startTick calls) (index : Nat) :
    (workload.scriptLimits startTick calls index).WithinBounds workload.limits := by
  refine Runs.always (motive := fun limits => JsLimits.WithinBounds limits workload.limits) ?_ ?_
    index
  · intro resource
    cases resource <;> exact Nat.zero_le _
  · intro index call taken bounded
    by_cases untriggered : (workload.scriptLimits startTick calls index).reason = .none
    · rcases JsLimits.step_agrees (scriptLimits_madeFor made index) bounded
        untriggered (none index call taken untriggered) with
        ⟨-, resource, -, -, same⟩ | ⟨-, -, -, within⟩
      · exact fun other => (congrArg (·.count other) same).trans_le (bounded other)
      · exact within
    · exact (JsLimits.triggered_step untriggered call).2 ▸ bounded

/-- Before the first call that would pass a limit there is no reason to refuse one. -/
theorem scriptLimits_untriggered
    (made : (JsLimits.init workload.jsLimitsConfig startTick).MadeFor workload.limits)
    (none : workload.MeetsNoDifference startTick calls)
    (earlier : ∀ earlier other reason, earlier < index → calls[earlier]? = some other →
      ¬ (workload.scriptLimits startTick calls earlier).Passes workload.limits other reason) :
    (workload.scriptLimits startTick calls index).reason = .none := by
  induction index with
  | zero => rfl
  | succ index ih =>
    have untriggered := ih fun earlier' other reason order =>
      earlier earlier' other reason (Nat.lt_succ_of_lt order)
    cases taken : calls[index]? with
    | none =>
      rw [scriptLimits, Runs.reached_end taken]
      exact untriggered
    | some call =>
      rw [scriptLimits_succ taken]
      rcases JsLimits.step_agrees (scriptLimits_madeFor made index)
        (scriptLimits_within made none index) untriggered (none index call taken untriggered) with
        ⟨-, resource, passes, -, -⟩ | ⟨-, -, same, -⟩
      · exact absurd passes (earlier index call _ (Nat.lt_succ_self index) taken)
      · exact same

/-- **A run that meets no difference keeps the limits.** -/
theorem MeetsNoDifference.keeps (running : workload.state = .running)
    (made : (JsLimits.init workload.jsLimitsConfig startTick).MadeFor workload.limits)
    (none : workload.MeetsNoDifference startTick calls) :
    workload.KeepsLimits startTick calls where
  bounded := scriptLimits_within made none
  timely index elapsedTicks taken accepted := by
    by_cases untriggered : (workload.scriptLimits startTick calls index).reason = .none
    · rcases JsLimits.step_agrees (scriptLimits_madeFor made index)
        (scriptLimits_within made none index) untriggered (none index _ taken untriggered) with
        ⟨refused, -⟩ | ⟨-, nothing, -, -⟩
      · rw [refused] at accepted
        cases accepted
      · exact Nat.le_of_not_lt fun late => nothing _ (.wallTime late)
    · rw [(JsLimits.triggered_step untriggered _).1] at accepted
      cases accepted
  refuses index call reason taken passes later other order takenLater := by
    by_cases untriggered : (workload.scriptLimits startTick calls index).reason = .none
    · rcases JsLimits.step_agrees (scriptLimits_madeFor made index)
        (scriptLimits_within made none index) untriggered (none index call taken untriggered) with
        ⟨refused, -⟩ | ⟨-, nothing, -, -⟩
      · rcases Nat.eq_or_lt_of_le order with rfl | order
        · rw [taken] at takenLater
          cases takenLater
          exact refused
        · have given := JsLimits.refused_step refused
          rw [← scriptLimits_succ taken] at given
          rw [scriptLimits_stays given order]
          exact (JsLimits.triggered_step given other).1
      · exact absurd passes (nothing reason)
    · rw [scriptLimits_stays untriggered order]
      exact (JsLimits.triggered_step untriggered other).1
  ends index call reason taken passes earlier error := by
    have untriggered := scriptLimits_untriggered made none earlier
    rcases JsLimits.step_agrees (scriptLimits_madeFor made index)
      (scriptLimits_within made none index) untriggered (none index call taken untriggered) with
      ⟨-, resource, passed, same, -⟩ | ⟨-, nothing, -, -⟩
    · refine ⟨resource.terminalReason, passed, ?_⟩
      rw [← scriptLimits_succ taken] at same
      have given : (workload.scriptLimits startTick calls (index + 1)).reason ≠ .none := by
        rw [same]
        exact JsLimits.reason_ne_none resource
      have inside : index + 1 ≤ calls.length := (List.getElem?_eq_some_iff.mp taken).1
      rw [scriptLimits_stays given inside]
      exact afterScript_resource running same error
    · exact absurd passes (nothing reason)

/-- **A run that keeps the limits meets no difference.** -/
theorem KeepsLimits.meetsNoDifference (running : workload.state = .running)
    (made : (JsLimits.init workload.jsLimitsConfig startTick).MadeFor workload.limits)
    (keeps : workload.KeepsLimits startTick calls) :
    workload.MeetsNoDifference startTick calls := by
  intro index call taken untriggered
  by_contra differs
  rcases JsLimits.step_disagrees (scriptLimits_madeFor made index) (keeps.bounded index)
    untriggered differs with exceeded | ⟨timed, passes, only⟩
  · rw [← scriptLimits_succ taken] at exceeded
    exact exceeded (keeps.bounded (index + 1))
  · have earlier : ∀ earlier other reason, earlier < index → calls[earlier]? = some other →
        ¬ (workload.scriptLimits startTick calls earlier).Passes workload.limits other reason := by
      intro earlier other reason order takenEarlier passed
      have refused := keeps.refuses earlier other reason takenEarlier passed earlier other
        (Nat.le_refl _) takenEarlier
      have given := JsLimits.refused_step refused
      rw [← scriptLimits_succ takenEarlier] at given
      rw [scriptLimits_stays given order] at untriggered
      exact given untriggered
    obtain ⟨terminal, passed, reason, -⟩ := keeps.ends index call _ taken passes earlier none
    rw [only terminal passed] at reason
    rw [← scriptLimits_succ taken] at timed
    have given : (workload.scriptLimits startTick calls (index + 1)).reason ≠ .none := by
      rw [timed]
      decide
    have inside : index + 1 ≤ calls.length := (List.getElem?_eq_some_iff.mp taken).1
    rw [scriptLimits_stays given inside] at reason
    exact afterScript_wallTime running timed none reason

/-- The limits of a client that are valid are those the script's limits are made for. -/
theorem madeFor_of_valid {input : PbWorkloadLimits} (valid : input.valid = true)
    (limits : workload.limits = input.limits) :
    (JsLimits.init workload.jsLimitsConfig startTick).MadeFor workload.limits := by
  simp only [PbWorkloadLimits.valid, Bool.and_eq_true, decide_eq_true_eq, gt_iff_lt,
    UInt32.lt_iff_toNat_lt, UInt32.le_iff_toNat_le] at valid
  have fuel : workload.limits.fuel = input.fuel := by rw [limits]; rfl
  have wallMs : workload.limits.wallMs = input.wallMs := by rw [limits]; rfl
  simp only [UInt32.reduceToNat] at valid
  refine ⟨workload.bound_jsLimitsConfig, rfl, ?_, ?_, ?_⟩
  · rw [fuel]
    omega
  · rw [fuel]
    omega
  · rw [wallMs]
    omega

/-- **The script of a workload keeps its limits exactly when no call meets a difference between
them**: while nothing was refused, every call is stopped by a limit that is not zero, or adds
nothing to a resource whose limit is zero and finds the wall time not over. -/
theorem script_limits_kept_iff (workload : Workload) (input : PbWorkloadLimits)
    (running : workload.state = .running) (valid : input.valid = true)
    (limits : workload.limits = input.limits) (startTick : UInt32) (calls : List JsLimits.Call) :
    workload.KeepsLimits startTick calls ↔ workload.MeetsNoDifference startTick calls :=
  ⟨fun keeps => keeps.meetsNoDifference running (madeFor_of_valid valid limits),
    fun none => none.keeps running (madeFor_of_valid valid limits)⟩

/-- Limits without a callback and a second of time. -/
def sampleScriptLimits : PbWorkloadLimits where
  heapBytes := 1024
  sourceBytes := 1024
  modules := 1
  parserDepth := 8
  stackDepth := 8
  fuel := 1000
  callbacks := 0
  timers := 0
  openHandles := 0
  logs := 100
  artifacts := 0
  wallMs := 1000
  artifactBytes := 0

/-- A workload that runs a script with the limits. -/
def sampleScript : Workload where
  workloadId := .literal "sample"
  projectDigest := .literal ""
  capabilitiesDigest := .literal ""
  state := .running
  terminalReason := .none
  limits := sampleScriptLimits.limits
  usage := .zero
  console := []
  nextConsoleSequence := 1
  artifacts := []

/-- A script that writes within its log limit, is polled in time, and passes the log limit. -/
def sampleScriptCalls : List JsLimits.Call :=
  [.account { logs := 60, fuel := 5 }, .poll 500, .account { logs := 60 }, .account { fuel := 5 }]

/-- It keeps its limits, and its workload ends with the limit that it has passed. -/
theorem script_limits_kept_sample :
    sampleScript.KeepsLimits 0 sampleScriptCalls ∧
      (sampleScript.afterScript (sampleScript.scriptLimits 0 sampleScriptCalls 4)
        none).terminalReason = .logLimit := by
  refine ⟨(script_limits_kept_iff sampleScript sampleScriptLimits rfl (by decide) rfl 0
    sampleScriptCalls).mpr fun index call taken unended => ?_, by decide +kernel⟩
  have bounded := (List.getElem?_eq_some_iff.mp taken).1
  obtain rfl | rfl | rfl | rfl : index = 0 ∨ index = 1 ∨ index = 2 ∨ index = 3 := by
    change index < 4 at bounded
    omega
  · obtain rfl := Option.some.inj taken
    refine .inr fun resource => ?_
    cases resource <;> decide
  · obtain rfl := Option.some.inj taken
    exact .inr (by decide)
  · obtain rfl := Option.some.inj taken
    exact .inl ⟨.log, by decide, by decide +kernel⟩
  · exact absurd unended (by decide +kernel)

/-- A callback is allowed where the limit allows none, and a workload whose time is over ends
as crashed. -/
theorem callback_without_limit :
    ¬ sampleScript.KeepsLimits 0 [.account { callbacks := 1 }] ∧
      ¬ sampleScript.KeepsLimits 0 [.poll 1001] := by
  refine ⟨fun keeps => ?_, fun keeps => ?_⟩
  · exact absurd (keeps.bounded 1 .callback) (by decide)
  · have late : (sampleScript.scriptLimits 0 [.poll 1001] 0).Passes sampleScript.limits
        (.poll 1001) .timeout := .wallTime (by decide)
    obtain ⟨terminal, passes, reason, -⟩ := keeps.ends 0 _ _ rfl late
      (fun earlier other reason order => absurd order (Nat.not_lt_zero _)) none
    have crashed : (sampleScript.afterScript (sampleScript.scriptLimits 0 [.poll 1001] 1)
        none).terminalReason = .crash := by decide +kernel
    have same : terminal = .crash := reason.symm.trans crashed
    subst same
    cases passes

end Workload

end PoisonedOS
