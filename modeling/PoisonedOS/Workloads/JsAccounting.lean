import PoisonedOS.Workloads.JsLimits

/-!
# What one call of a script takes

Eleven resources are counted in one way each. A call is stopped by the first limit that is not
zero and would be passed; otherwise all of its counts are taken. A poll takes fuel and then
looks at the time.
-/

namespace PoisonedOS

/-- The eleven resources that are counted. -/
inductive JsResource where
  | heap
  | source
  | module
  | parser
  | stack
  | fuel
  | callback
  | timer
  | handle
  | log
  | artifact
deriving DecidableEq, Repr

namespace JsResource

/-- The reason of a resource in the script. -/
def reason : JsResource → JsLimitReason
  | .heap => .heap
  | .source => .source
  | .module => .module
  | .parser => .parser
  | .stack => .stack
  | .fuel => .fuel
  | .callback => .callback
  | .timer => .timer
  | .handle => .handle
  | .log => .log
  | .artifact => .artifact

/-- The reason of a resource in the workload. -/
def terminalReason : JsResource → TerminalReason
  | .heap => .heapLimit
  | .source => .sourceLimit
  | .module => .moduleLimit
  | .parser => .parserLimit
  | .stack => .stackLimit
  | .fuel => .fuelLimit
  | .callback => .callbackLimit
  | .timer => .timerLimit
  | .handle => .handleLimit
  | .log => .logLimit
  | .artifact => .artifactLimit

/-- The counter of a resource in the workload. -/
def counter : JsResource → Counter
  | .heap => .heapBytes
  | .source => .sourceBytes
  | .module => .modules
  | .parser => .parserDepth
  | .stack => .stackDepth
  | .fuel => .fuel
  | .callback => .callbacks
  | .timer => .timers
  | .handle => .openHandles
  | .log => .logs
  | .artifact => .artifacts

end JsResource

/-- The value of one counter. -/
def JsLimitsUsage.count (usage : JsLimitsUsage) : JsResource → Nat
  | .heap => usage.heapBytes.toNat
  | .source => usage.sourceBytes.toNat
  | .module => usage.modules.toNat
  | .parser => usage.parserDepth.toNat
  | .stack => usage.stackDepth.toNat
  | .fuel => usage.fuel.toNat
  | .callback => usage.callbacks.toNat
  | .timer => usage.timers.toNat
  | .handle => usage.openHandles.toNat
  | .log => usage.logs.toNat
  | .artifact => usage.artifacts.toNat

/-- Where one counter wraps. -/
def JsResource.size : JsResource → Nat
  | .heap | .source | .fuel | .log => 4294967296
  | _ => 65536

theorem JsLimitsUsage.count_add (usage increment : JsLimitsUsage) (resource : JsResource) :
    (usage.add increment).count resource =
      (usage.count resource + increment.count resource) % resource.size := by
  cases resource with
  | heap | source | fuel | log => exact UInt32.toNat_add _ _
  | _ => exact UInt16.toNat_add _ _

theorem JsLimitsUsage.count_lt (usage : JsLimitsUsage) (resource : JsResource) :
    usage.count resource < resource.size := by
  cases resource with
  | heap | source | fuel | log => exact UInt32.toNat_lt _
  | _ => exact UInt16.toNat_lt _

theorem WorkloadUsage.count_lt (usage : WorkloadUsage) (resource : JsResource) :
    usage.count resource.counter < resource.size := by
  cases resource with
  | heap | source | fuel | log => exact UInt32.toNat_lt _
  | _ => exact UInt16.toNat_lt _

/-- What fits a limit is added without wrapping. -/
theorem JsLimitsUsage.count_add_of_le {usage increment : JsLimitsUsage} {bounds : WorkloadUsage}
    {resource : JsResource}
    (fits : usage.count resource + increment.count resource ≤ bounds.count resource.counter) :
    (usage.add increment).count resource =
      usage.count resource + increment.count resource := by
  rw [JsLimitsUsage.count_add]
  exact Nat.mod_eq_of_lt (Nat.lt_of_le_of_lt fits (bounds.count_lt resource))

/-- The limit of one counter. -/
def JsLimitsConfig.bound (config : JsLimitsConfig) : JsResource → Nat
  | .heap => config.heapBytes.toNat
  | .source => config.sourceBytes.toNat
  | .module => config.modules.toNat
  | .parser => config.parserDepth.toNat
  | .stack => config.stackDepth.toNat
  | .fuel => config.fuelLimit.toNat
  | .callback => config.callbacks.toNat
  | .timer => config.timers.toNat
  | .handle => config.openHandles.toNat
  | .log => config.logs.toNat
  | .artifact => config.artifacts.toNat

/-- The script is given the limits of its workload. -/
theorem Workload.bound_jsLimitsConfig (workload : Workload) (resource : JsResource) :
    workload.jsLimitsConfig.bound resource = workload.limits.count resource.counter := by
  cases resource <;> rfl

namespace JsLimits

/-- A limit that is not zero stops the increment. -/
def Stops (limits : JsLimits) (increment : JsLimitsUsage) (resource : JsResource) : Prop :=
  limits.config.bound resource ≠ 0 ∧
    limits.config.bound resource < limits.usage.count resource + increment.count resource

theorem stops32_iff {current increment maximum : UInt32} :
    (maximum != 0 && exceeds current increment maximum) = true ↔
      maximum.toNat ≠ 0 ∧ maximum.toNat < current.toNat + increment.toNat := by
  rw [Bool.and_eq_true, exceeds_iff, bne_iff_ne, ne_eq, ← UInt32.toNat_inj]
  rfl

theorem stops16_iff {current increment maximum : UInt16} :
    (maximum != 0 && exceeds16 current increment maximum) = true ↔
      maximum.toNat ≠ 0 ∧ maximum.toNat < current.toNat + increment.toNat := by
  rw [Bool.and_eq_true, exceeds16_iff, bne_iff_ne, ne_eq, ← UInt16.toNat_inj]
  rfl

/-- The comparison of one resource. -/
def stopping (limits : JsLimits) (increment : JsLimitsUsage) : JsResource → Bool
  | .heap => limits.config.heapBytes != 0 &&
      exceeds limits.usage.heapBytes increment.heapBytes limits.config.heapBytes
  | .source => limits.config.sourceBytes != 0 &&
      exceeds limits.usage.sourceBytes increment.sourceBytes limits.config.sourceBytes
  | .module => limits.config.modules != 0 &&
      exceeds16 limits.usage.modules increment.modules limits.config.modules
  | .parser => limits.config.parserDepth != 0 &&
      exceeds16 limits.usage.parserDepth increment.parserDepth limits.config.parserDepth
  | .stack => limits.config.stackDepth != 0 &&
      exceeds16 limits.usage.stackDepth increment.stackDepth limits.config.stackDepth
  | .fuel => limits.config.fuelLimit != 0 &&
      exceeds limits.usage.fuel increment.fuel limits.config.fuelLimit
  | .callback => limits.config.callbacks != 0 &&
      exceeds16 limits.usage.callbacks increment.callbacks limits.config.callbacks
  | .timer => limits.config.timers != 0 &&
      exceeds16 limits.usage.timers increment.timers limits.config.timers
  | .handle => limits.config.openHandles != 0 &&
      exceeds16 limits.usage.openHandles increment.openHandles limits.config.openHandles
  | .log => limits.config.logs != 0 &&
      exceeds limits.usage.logs increment.logs limits.config.logs
  | .artifact => limits.config.artifacts != 0 &&
      exceeds16 limits.usage.artifacts increment.artifacts limits.config.artifacts

theorem stopping_iff (limits : JsLimits) (increment : JsLimitsUsage) (resource : JsResource) :
    limits.stopping increment resource = true ↔ limits.Stops increment resource := by
  cases resource with
  | module => exact stops16_iff
  | parser => exact stops16_iff
  | stack => exact stops16_iff
  | callback => exact stops16_iff
  | timer => exact stops16_iff
  | handle => exact stops16_iff
  | artifact => exact stops16_iff
  | heap => exact stops32_iff
  | source => exact stops32_iff
  | fuel => exact stops32_iff
  | log => exact stops32_iff

def firstReason (exceeded : JsResource → Bool) : List JsResource → JsLimitReason
  | [] => .none
  | resource :: resources =>
    if exceeded resource then resource.reason else firstReason exceeded resources

theorem firstReason_cases (exceeded : JsResource → Bool) (resources : List JsResource) :
    (∃ resource, exceeded resource = true ∧ firstReason exceeded resources = resource.reason) ∨
      (∀ resource ∈ resources, exceeded resource = false) ∧
        firstReason exceeded resources = .none := by
  induction resources with
  | nil => exact .inr ⟨(fun _ inside => nomatch inside), rfl⟩
  | cons resource resources ih =>
    rw [firstReason]
    cases found : exceeded resource with
    | true => exact .inl ⟨resource, found, rfl⟩
    | false =>
      rcases ih with later | ⟨none, same⟩
      · exact .inl later
      · refine .inr ⟨fun other inside => ?_, same⟩
        rcases List.mem_cons.mp inside with rfl | inside
        · exact found
        · exact none other inside

/-- The order of the comparisons. -/
def resources : List JsResource :=
  [.heap, .source, .module, .parser, .stack, .fuel, .callback, .timer, .handle, .log, .artifact]

theorem mem_resources (resource : JsResource) : resource ∈ resources := by
  cases resource <;> decide

theorem exceededReason_cases (limits : JsLimits) (increment : JsLimitsUsage) :
    (∃ resource, limits.Stops increment resource ∧
        limits.exceededReason increment = resource.reason) ∨
      ((∀ resource, ¬ limits.Stops increment resource) ∧
        limits.exceededReason increment = .none) := by
  have ordered : limits.exceededReason increment =
      firstReason (limits.stopping increment) resources := rfl
  rw [ordered]
  rcases firstReason_cases (limits.stopping increment) resources with
    ⟨resource, found, same⟩ | ⟨none, same⟩
  · exact .inl ⟨resource, (stopping_iff limits increment resource).mp found, same⟩
  · refine .inr ⟨fun resource stops => ?_, same⟩
    have found := (stopping_iff limits increment resource).mpr stops
    rw [none resource (mem_resources resource)] at found
    cases found

theorem reason_ne_none (resource : JsResource) : resource.reason ≠ .none := by
  cases resource <;> decide

theorem account_cases {limits : JsLimits} (untriggered : limits.reason = .none)
    (increment : JsLimitsUsage) :
    (∃ resource, limits.Stops increment resource ∧
        limits.account increment = (false, { limits with reason := resource.reason })) ∨
      ((∀ resource, ¬ limits.Stops increment resource) ∧
        limits.account increment =
          (true, { limits with usage := limits.usage.add increment })) := by
  rw [account, untriggered]
  rcases limits.exceededReason_cases increment with ⟨resource, stops, same⟩ | ⟨none, same⟩
  · refine .inl ⟨resource, stops, ?_⟩
    have given : (resource.reason != .none) = true := bne_iff_ne.mpr (reason_ne_none resource)
    simp only [bne_self_eq_false, Bool.false_eq_true, if_false, same, given, if_true]
  · refine .inr ⟨none, ?_⟩
    simp only [bne_self_eq_false, Bool.false_eq_true, if_false, same]

/-! ## Calls of a run -/

/-- A call that the running script makes. A poll comes so many ticks after the start. -/
inductive Call where
  | account (increment : JsLimitsUsage)
  | poll (elapsedTicks : UInt32)

/-- A call that was made is refused. -/
def refused (limits : JsLimits) : Call → Bool
  | .account increment => !(limits.account increment).1
  | .poll elapsedTicks => (limits.poll (limits.startTick + elapsedTicks) kernelTickFrequency).1

/-- What a call leaves. -/
def step : Call → JsLimits → JsLimits
  | .account increment, limits => (limits.account increment).2
  | .poll elapsedTicks, limits =>
    (limits.poll (limits.startTick + elapsedTicks) kernelTickFrequency).2

/-- The time of a poll in milliseconds. -/
def elapsedMs (elapsedTicks : UInt32) : Nat := elapsedTicks.toNat * 1000 / 1000

/-- A call would pass a limit of the workload. -/
inductive Passes (limits : JsLimits) (bounds : WorkloadUsage) : Call → TerminalReason → Prop where
  | counter {increment : JsLimitsUsage} (resource : JsResource)
      (passed : bounds.count resource.counter <
        limits.usage.count resource + increment.count resource) :
      Passes limits bounds (.account increment) resource.terminalReason
  | fuel {elapsedTicks : UInt32} (passed : bounds.fuel.toNat < limits.usage.fuel.toNat + 1) :
      Passes limits bounds (.poll elapsedTicks) .fuelLimit
  | wallTime {elapsedTicks : UInt32} (passed : bounds.wallMs.toNat < elapsedMs elapsedTicks) :
      Passes limits bounds (.poll elapsedTicks) .timeout

/-- A call meets no difference between the two: it adds nothing to a resource whose limit is
zero, and the time is not over, unless another limit stops it. -/
def Agrees (limits : JsLimits) (bounds : WorkloadUsage) : Call → Prop
  | .account increment =>
    (∃ resource : JsResource, bounds.count resource.counter ≠ 0 ∧
      bounds.count resource.counter <
        limits.usage.count resource + increment.count resource) ∨
    ∀ resource : JsResource, bounds.count resource.counter = 0 → increment.count resource = 0
  | .poll elapsedTicks =>
    bounds.fuel.toNat < limits.usage.fuel.toNat + 1 ∨
      elapsedMs elapsedTicks ≤ bounds.wallMs.toNat

def WithinBounds (limits : JsLimits) (bounds : WorkloadUsage) : Prop :=
  ∀ resource : JsResource, limits.usage.count resource ≤ bounds.count resource.counter

/-- The limits were made for this workload. -/
structure MadeFor (limits : JsLimits) (bounds : WorkloadUsage) : Prop where
  bound : ∀ resource : JsResource, limits.config.bound resource = bounds.count resource.counter
  wallTime : limits.config.wallTimeMs = bounds.wallMs
  fuel : 0 < bounds.fuel.toNat
  fuelRange : bounds.fuel.toNat < 4294967295
  wallMs : 0 < bounds.wallMs.toNat

/-- A poll takes nothing but fuel. -/
theorem count_fuel {resource : JsResource} (other : resource ≠ .fuel) :
    JsLimitsUsage.count { fuel := 1 } resource = 0 := by
  cases resource with
  | fuel => exact absurd rfl other
  | _ => rfl

/-- What a poll finds. -/
theorem poll_cases {bounds : WorkloadUsage} {limits : JsLimits} (made : limits.MadeFor bounds)
    (within : limits.WithinBounds bounds) (untriggered : limits.reason = .none)
    (elapsedTicks : UInt32) :
    limits.poll (limits.startTick + elapsedTicks) kernelTickFrequency =
      if bounds.fuel.toNat < limits.usage.fuel.toNat + 1 then
        (true, { limits with reason := .fuel })
      else if bounds.wallMs.toNat < elapsedMs elapsedTicks then
        (true, { limits with
          usage := limits.usage.add { fuel := 1 }
          reason := .wallTime })
      else (false, { limits with usage := limits.usage.add { fuel := 1 } }) := by
  have fuelBound : limits.usage.fuel.toNat ≤ bounds.fuel.toNat := within .fuel
  have configured : limits.config.fuelLimit.toNat = bounds.fuel.toNat := made.bound .fuel
  have belowMax : ¬ limits.usage.fuel = 0xFFFFFFFF := by
    intro full
    have range := made.fuelRange
    rw [full] at fuelBound
    simp only [UInt32.reduceToNat] at fuelBound
    omega
  rw [poll, untriggered]
  simp only [bne_self_eq_false, Bool.false_eq_true, if_false, if_neg belowMax]
  rcases account_cases untriggered { fuel := 1 } with ⟨resource, stops, same⟩ | ⟨none, same⟩
  · rw [same]
    simp only [Bool.not_false, if_true]
    have passed := stops.2
    rw [made.bound] at passed
    have used := within resource
    cases resource with
    | fuel =>
      have spent : bounds.fuel.toNat < limits.usage.fuel.toNat + 1 := passed
      rw [if_pos spent]
      rfl
    | _ => exact absurd passed (Nat.not_lt.mpr used)
  · have fits : ¬ bounds.fuel.toNat < limits.usage.fuel.toNat + 1 := by
      intro spent
      refine none .fuel ⟨?_, ?_⟩
      · rw [made.bound]
        exact Nat.ne_of_gt made.fuel
      · rw [made.bound]
        exact spent
    have room : limits.usage.count .fuel + JsLimitsUsage.count { fuel := 1 } .fuel ≤
        bounds.count JsResource.fuel.counter := Nat.le_of_not_lt fits
    have counted : (limits.usage.add { fuel := 1 }).fuel.toNat = limits.usage.fuel.toNat + 1 :=
      JsLimitsUsage.count_add_of_le room
    have notOver : ¬ (limits.usage.add { fuel := 1 }).fuel > limits.config.fuelLimit := by
      rw [gt_iff_lt, UInt32.lt_iff_toNat_lt, counted, configured]
      exact fits
    have timed : (limits.config.wallTimeMs != 0 && kernelTickFrequency != 0) = true := by
      rw [made.wallTime, Bool.and_eq_true]
      refine ⟨?_, by decide⟩
      rw [bne_iff_ne, ne_eq, ← UInt32.toNat_inj]
      exact Nat.ne_of_gt made.wallMs
    have ticks : limits.startTick + elapsedTicks - limits.startTick = elapsedTicks := by
      rw [UInt32.add_comm, UInt32.add_sub_cancel]
    have late : elapsedTicks.toUInt64 * 1000 / kernelTickFrequency.toUInt64 >
        limits.config.wallTimeMs.toUInt64 ↔ bounds.wallMs.toNat < elapsedMs elapsedTicks := by
      have range := elapsedTicks.toNat_lt
      have frequency : kernelTickFrequency.toUInt64.toNat = 1000 := by decide
      rw [gt_iff_lt, UInt64.lt_iff_toNat_lt, made.wallTime, UInt64.toNat_div, UInt64.toNat_mul,
        frequency, UInt32.toNat_toUInt64, UInt32.toNat_toUInt64, elapsedMs]
      simp only [UInt64.reduceToNat]
      rw [Nat.mod_eq_of_lt (by omega)]
    rw [same, if_neg fits]
    simp only [Bool.not_true, Bool.false_eq_true, if_false, notOver, decide_false, Bool.and_false,
      timed, if_true, ticks, late, untriggered]

/-- Once there is a reason every call is refused and nothing changes. -/
theorem triggered_step {limits : JsLimits} (given : limits.reason ≠ .none) (call : Call) :
    limits.refused call = true ∧ step call limits = limits := by
  have set : (limits.reason != .none) = true := bne_iff_ne.mpr given
  cases call with
  | account increment =>
    simp only [refused, step, account, set, if_true, Bool.not_false, and_self]
  | poll elapsedTicks => simp only [refused, step, poll, set, if_true, and_self]

theorem account_config (limits : JsLimits) (increment : JsLimitsUsage) :
    (limits.account increment).2.config = limits.config := by
  rw [account]
  split
  · rfl
  · dsimp only
    split <;> rfl

theorem step_config (limits : JsLimits) (call : Call) :
    (step call limits).config = limits.config := by
  cases call with
  | account increment => exact limits.account_config increment
  | poll elapsedTicks =>
    rw [step, poll]
    split
    · rfl
    · dsimp only
      generalize ({ fuel := if limits.usage.fuel = 0xFFFFFFFF then 0 else 1 } : JsLimitsUsage) =
        increment
      have kept := limits.account_config increment
      split
      · exact kept
      split
      · exact kept
      split
      · split
        · exact kept
        · exact kept
      · exact kept

theorem MadeFor.step {bounds : WorkloadUsage} {limits : JsLimits} (made : limits.MadeFor bounds)
    (call : Call) : (JsLimits.step call limits).MadeFor bounds where
  bound resource := by rw [step_config]; exact made.bound resource
  wallTime := by rw [step_config]; exact made.wallTime
  fuel := made.fuel
  fuelRange := made.fuelRange
  wallMs := made.wallMs

variable {bounds : WorkloadUsage} {limits : JsLimits}

/-- What was taken fits, where nothing is added to a resource whose limit is zero. -/
theorem WithinBounds.add (within : limits.WithinBounds bounds) (made : limits.MadeFor bounds)
    {increment : JsLimitsUsage} (none : ∀ resource, ¬ limits.Stops increment resource)
    (zero : ∀ resource : JsResource,
      bounds.count resource.counter = 0 → increment.count resource = 0) (resource : JsResource) :
    limits.usage.count resource + increment.count resource ≤ bounds.count resource.counter := by
  by_cases free : bounds.count resource.counter = 0
  · rw [zero resource free]
    exact within resource
  · refine Nat.le_of_not_lt fun passed => none resource ⟨?_, ?_⟩
    · rw [made.bound]
      exact free
    · rw [made.bound]
      exact passed

variable {call : Call}

/-- **A call that agrees is refused for a limit of the workload that it would pass, or passes
none and is taken.** -/
theorem step_agrees (made : limits.MadeFor bounds) (within : limits.WithinBounds bounds)
    (untriggered : limits.reason = .none) (agrees : limits.Agrees bounds call) :
    (limits.refused call = true ∧ ∃ resource : JsResource,
      limits.Passes bounds call resource.terminalReason ∧
        (step call limits).reason = resource.reason ∧
        (step call limits).usage = limits.usage) ∨
    (limits.refused call = false ∧ (∀ reason, ¬ limits.Passes bounds call reason) ∧
      (step call limits).reason = .none ∧ (step call limits).WithinBounds bounds) := by
  cases call with
  | account increment =>
    rcases account_cases untriggered increment with ⟨resource, stops, same⟩ | ⟨none, same⟩
    · refine .inl ⟨?_, resource, .counter resource ?_, ?_, ?_⟩
      · rw [refused, same]
        rfl
      · have passed := stops.2
        rw [made.bound] at passed
        exact passed
      · rw [step, same]
      · rw [step, same]
    · have zero : ∀ resource : JsResource,
          bounds.count resource.counter = 0 → increment.count resource = 0 := by
        rcases agrees with ⟨resource, limited, passed⟩ | zero
        · exact absurd ⟨by rw [made.bound]; exact limited, by rw [made.bound]; exact passed⟩
            (none resource)
        · exact zero
      have fits := within.add made none zero
      refine .inr ⟨?_, ?_, ?_, ?_⟩
      · rw [refused, same]
        rfl
      · intro reason passes
        cases passes with
        | counter resource passed => exact absurd passed (Nat.not_lt.mpr (fits resource))
      · rw [step, same]
        exact untriggered
      · intro resource
        rw [step, same]
        exact le_of_eq_of_le (JsLimitsUsage.count_add_of_le (fits resource)) (fits resource)
  | poll elapsedTicks =>
    have found := poll_cases made within untriggered elapsedTicks
    by_cases spent : bounds.fuel.toNat < limits.usage.fuel.toNat + 1
    · rw [if_pos spent] at found
      refine .inl ⟨?_, .fuel, .fuel spent, ?_, ?_⟩
      · rw [refused, found]
      · rw [step, found]
        rfl
      · rw [step, found]
    · have early : elapsedMs elapsedTicks ≤ bounds.wallMs.toNat := by
        rcases agrees with passed | early
        · exact absurd passed spent
        · exact early
      rw [if_neg spent, if_neg (Nat.not_lt.mpr early)] at found
      refine .inr ⟨?_, ?_, ?_, ?_⟩
      · rw [refused, found]
      · intro reason passes
        cases passes with
        | fuel passed => exact spent passed
        | wallTime passed => exact absurd passed (Nat.not_lt.mpr early)
      · rw [step, found]
        exact untriggered
      · intro resource
        rw [step, found]
        have fits : limits.usage.count resource + JsLimitsUsage.count { fuel := 1 } resource ≤
            bounds.count resource.counter := by
          by_cases burnt : resource = .fuel
          · subst burnt
            exact Nat.le_of_not_lt spent
          · rw [count_fuel burnt]
            exact within resource
        exact le_of_eq_of_le (JsLimitsUsage.count_add_of_le fits) fits

/-- **A call that does not agree** takes a counter over a limit of zero, or is refused for the
wall time with a reason that the workload does not know. -/
theorem step_disagrees (made : limits.MadeFor bounds) (within : limits.WithinBounds bounds)
    (untriggered : limits.reason = .none) (differs : ¬ limits.Agrees bounds call) :
    ¬ (step call limits).WithinBounds bounds ∨
      (step call limits).reason = .wallTime ∧ limits.Passes bounds call .timeout ∧
        ∀ reason, limits.Passes bounds call reason → reason = .timeout := by
  cases call with
  | account increment =>
    simp only [Agrees, not_or, not_exists, not_and, not_forall] at differs
    obtain ⟨unlimited, resource, zero, added⟩ := differs
    refine .inl fun bounded => added ?_
    rcases account_cases untriggered increment with ⟨other, stops, same⟩ | ⟨none, same⟩
    · have limited := stops.1
      have passed := stops.2
      rw [made.bound] at limited passed
      exact absurd passed (unlimited other limited)
    · have counted := bounded resource
      have used := within resource
      have range := increment.count_lt resource
      rw [step, same, zero] at counted
      simp only [JsLimitsUsage.count_add] at counted
      rw [zero] at used
      rw [Nat.le_zero.mp used, Nat.zero_add, Nat.mod_eq_of_lt range] at counted
      exact Nat.le_zero.mp counted
  | poll elapsedTicks =>
    simp only [Agrees, not_or, not_le] at differs
    obtain ⟨spent, late⟩ := differs
    have found := poll_cases made within untriggered elapsedTicks
    rw [if_neg spent, if_pos late] at found
    refine .inr ⟨?_, .wallTime late, ?_⟩
    · rw [step, found]
    · intro reason passes
      cases passes with
      | fuel passed => exact absurd passed spent
      | wallTime passed => rfl

/-- A call that is refused leaves a reason. -/
theorem refused_step (isRefused : limits.refused call = true) :
    (step call limits).reason ≠ .none := by
  have account_reason (increment : JsLimitsUsage) (stopped : (limits.account increment).1 = false) :
      (limits.account increment).2.reason ≠ .none := by
    rw [account] at stopped ⊢
    split
    · rename_i given
      exact bne_iff_ne.mp given
    · rename_i untriggered
      rw [if_neg untriggered] at stopped
      dsimp only at stopped ⊢
      split
      · rename_i given
        exact bne_iff_ne.mp given
      · rename_i none
        rw [if_neg none] at stopped
        cases stopped
  cases call with
  | account increment =>
    rw [refused, Bool.not_eq_true'] at isRefused
    exact account_reason increment isRefused
  | poll elapsedTicks =>
    rw [refused] at isRefused
    rw [step]
    rw [poll] at isRefused ⊢
    split
    · rename_i given
      exact bne_iff_ne.mp given
    rename_i untriggered
    rw [if_neg untriggered] at isRefused
    dsimp only at isRefused ⊢
    generalize ({ fuel := if limits.usage.fuel = 0xFFFFFFFF then 0 else 1 } : JsLimitsUsage) =
      increment at isRefused ⊢
    split
    · rename_i stopped
      exact account_reason increment (by rw [Bool.not_eq_true'] at stopped; exact stopped)
    rename_i taken
    rw [if_neg taken] at isRefused
    split
    · exact fun same => nomatch same
    rename_i fits
    rw [if_neg fits] at isRefused
    split
    · rename_i timed
      rw [if_pos timed] at isRefused
      split
      · exact fun same => nomatch same
      · rename_i early
        rw [if_neg early] at isRefused
        cases isRefused
    · rename_i untimed
      rw [if_neg untimed] at isRefused
      cases isRefused

end JsLimits

end PoisonedOS
