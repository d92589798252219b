import Mathlib.Algebra.Order.BigOperators.Group.List
import Mathlib.Algebra.Order.Group.Nat
import PoisonedOS.Workloads.JsRefinement
import PoisonedOS.Workloads.ModuleCache

/-!
# What the modules of a script cost

No source is ever found, so what is loaded are native modules. While none of them is asked for
again, the two counters follow the loaded modules; a module that is asked for again breaks the
accounting at once.

The limits that the dashboard derives from a project admit all of its other executable members
and one native module beside them.
-/

namespace PoisonedOS

open JsLimitsUsage (count count_add)

namespace JsLimits

variable {limits next : JsLimits} {increment : JsLimitsUsage} {resource : JsResource}

/-- No limit stops an increment that is taken. -/
theorem taken_eq (admitted : limits.taken increment = some next) :
    (∀ resource, ¬ limits.Stops increment resource) ∧
      next = { limits with usage := limits.usage.add increment } := by
  by_cases untriggered : limits.reason = .none
  · rcases account_cases untriggered increment with ⟨resource, -, refused⟩ | ⟨free, taken⟩
    · rw [JsLimits.taken, refused] at admitted
      cases admitted
    · rw [JsLimits.taken, taken] at admitted
      cases admitted
      exact ⟨free, rfl⟩
  · rw [JsLimits.taken, account, if_pos (bne_iff_ne.mpr untriggered)] at admitted
    cases admitted

theorem config_taken (admitted : limits.taken increment = some next) :
    next.config = limits.config := by
  rw [(taken_eq admitted).2]

theorem bound_lt (config : JsLimitsConfig) (resource : JsResource) :
    config.bound resource < resource.size := by
  cases resource with
  | heap | source | fuel | log => exact UInt32.toNat_lt _
  | _ => exact UInt16.toNat_lt _

/-- Where there is a limit, what is taken fits it. -/
theorem count_taken_le (admitted : limits.taken increment = some next)
    (bounded : limits.config.bound resource ≠ 0) :
    limits.usage.count resource + increment.count resource ≤ limits.config.bound resource := by
  have free := (taken_eq admitted).1 resource
  rw [Stops] at free
  omega

/-- Where there is a limit, what is taken is added. -/
theorem count_taken (admitted : limits.taken increment = some next)
    (bounded : limits.config.bound resource ≠ 0) :
    next.usage.count resource = limits.usage.count resource + increment.count resource := by
  have fits := count_taken_le admitted bounded
  have range := bound_lt limits.config resource
  rw [(taken_eq admitted).2, count_add]
  exact Nat.mod_eq_of_lt (by omega)

/-- An increment within every limit is taken. -/
theorem taken_of_fits (untriggered : limits.reason = .none)
    (fits : ∀ resource,
      limits.usage.count resource + increment.count resource ≤ limits.config.bound resource) :
    limits.taken increment = some { limits with usage := limits.usage.add increment } := by
  rcases account_cases untriggered increment with ⟨resource, stops, -⟩ | ⟨-, taken⟩
  · exact absurd (fits resource) (Nat.not_le_of_lt stops.2)
  · rw [JsLimits.taken, taken]

/-- Increments whose sums are within every limit are taken one after the other. -/
theorem taken_all {increments : List JsLimitsUsage} {limits : JsLimits}
    (untriggered : limits.reason = .none)
    (fits : ∀ resource, limits.usage.count resource +
      (increments.map fun increment => increment.count resource).sum ≤
        limits.config.bound resource) :
    (increments.foldlM JsLimits.taken limits).isSome = true := by
  induction increments generalizing limits with
  | nil => rfl
  | cons increment increments ih =>
    have first : limits.taken increment =
        some { limits with usage := limits.usage.add increment } :=
      taken_of_fits untriggered fun resource => by
        have := fits resource
        rw [List.map_cons, List.sum_cons] at this
        omega
    rw [List.foldlM_cons, first]
    refine ih untriggered fun resource => ?_
    have whole := fits resource
    rw [List.map_cons, List.sum_cons] at whole
    have range := bound_lt limits.config resource
    have added := count_add limits.usage increment resource
    rw [Nat.mod_eq_of_lt (by omega)] at added
    simp only [added]
    omega

theorem sum_le_of_taken {increments : List JsLimitsUsage} {limits : JsLimits}
    (within : limits.usage.count resource ≤ limits.config.bound resource)
    (bounded : limits.config.bound resource ≠ 0)
    (taken : (increments.foldlM JsLimits.taken limits).isSome = true) :
    limits.usage.count resource +
      (increments.map fun increment => increment.count resource).sum ≤
        limits.config.bound resource := by
  induction increments generalizing limits with
  | nil => exact within
  | cons increment increments ih =>
    rw [List.foldlM_cons] at taken
    cases first : limits.taken increment with
    | none =>
      rw [first] at taken
      cases taken
    | some next =>
      rw [first] at taken
      have fits := count_taken_le first bounded
      have added := count_taken first bounded
      have rest := ih (by rw [added, config_taken first]; exact fits)
        (by rw [config_taken first]; exact bounded) taken
      rw [config_taken first, added] at rest
      rw [List.map_cons, List.sum_cons]
      omega

end JsLimits

namespace ModuleCache

namespace JsModules

variable {state next : JsModules} {outside : Outside}

/-- What is counted leaves the modules alone. -/
theorem accounted_eq {increment : JsLimitsUsage} (counted : state.accounted increment = some next) :
    ∃ limits, state.limits.taken increment = some limits ∧ next = { state with limits } := by
  obtain ⟨limits, admitted, same⟩ := Option.map_eq_some_iff.mp counted
  exact ⟨limits, admitted, same.symm⟩

variable {name : CString}

theorem findLoaded_none (missing : state.findLoaded name = none) :
    name ∉ state.modules.map LoadedModule.name := by
  intro inside
  obtain ⟨module, loaded, same⟩ := List.mem_map.mp inside
  have other := List.find?_eq_none.mp missing module loaded
  rw [same, beq_self_eq_true] at other
  exact other rfl

variable {module : LoadedModule}

theorem findLoaded_some (found : state.findLoaded name = some module) :
    module ∈ state.modules ∧ module.name = name :=
  ⟨List.mem_of_find?_eq_some found,
    eq_of_beq (List.find?_some (p := fun module : LoadedModule => module.name == name) found)⟩

/-! ## Sources

None of the three ways leads to a source, so all that is ever loaded is native. -/

theorem sourceResolve_none (state : JsModules) (name base : List UInt8) (outside : Outside) :
    state.sourceResolve name base outside = none := by
  rw [sourceResolve]
  split
  · rfl
  cases accepted : normalizeSourceRequest (.ofBytes base) (.ofBytes name) with
  | none => rfl
  | some normalized =>
    rw [Option.bind_some, source_not_found accepted]
    rfl

theorem lockedRequest_none (state : JsModules) (outside : Outside) :
    state.lockedRequest outside = none := by
  have lettered : (CString.literal "poison-js.lock").bytes.any (· != 47) = true := by decide
  rw [lockedRequest, resolveProjectPath_eq, lettered, Bool.or_true, if_pos rfl]
  rfl

variable {target : Target}

theorem requireTarget_native {name : List UInt8}
    (resolved : state.requireTarget name outside = some target) :
    ∃ plugin, target = .native plugin := by
  obtain ⟨-, resolved⟩ := Option.ite_none_left_eq_some.mp resolved
  simp only [sourceResolve_none, lockedRequest_none] at resolved
  split at resolved
  · cases resolved
  · split at resolved
    · cases resolved
    · cases resolved
    · exact ⟨_, (Option.some.inj resolved).symm⟩

variable {event : ModuleEvent}

/-- What a call leads to is native. -/
theorem target_native (event : ModuleEvent) (resolved : event.target state = some target) :
    ∃ plugin, target = .native plugin := by
  cases event with
  | require name outside => exact requireTarget_native resolved
  | requireFrom name base outside =>
    simp only [ModuleEvent.target, requireFromTarget, sourceResolve_none, lockedRequest_none]
      at resolved
    split at resolved
    · cases resolved
    · split at resolved
      · cases resolved
      · cases resolved
      · exact requireTarget_native resolved
  | finish exports => cases resolved
  | elsewhere increment => cases resolved

/-- A native module is counted, whether it is there or made. -/
theorem nativeRequire_cases (loaded : state.nativeRequire name outside = some next) :
    ∃ limits, state.limits.taken { modules := 1 } = some limits ∧
      ((∃ module ∈ state.modules, module.name = name ∧ module.source.isSome = false ∧
        next = { state with
          limits, returned := state.returned ++ [(.native (deslashed name), module.exports)] }) ∨
      (name ∉ state.modules.map LoadedModule.name ∧ ∃ object,
        next = { state with
          limits
          modules := ⟨name, none, object⟩ :: state.modules
          returned := state.returned ++ [(.native (deslashed name), object)] })) := by
  rw [nativeRequire] at loaded
  obtain ⟨-, loaded⟩ := Option.ite_none_left_eq_some.mp loaded
  obtain ⟨counted, admitted, rest⟩ := Option.bind_eq_some_iff.mp loaded
  obtain ⟨limits, taken, rfl⟩ := accounted_eq admitted
  refine ⟨limits, taken, ?_⟩
  cases found : findLoaded { state with limits } name with
  | some module =>
    rw [found] at rest
    obtain ⟨native, same⟩ := Option.ite_none_left_eq_some.mp rest
    obtain ⟨inside, named⟩ := findLoaded_some found
    exact .inl ⟨module, inside, named, Bool.eq_false_iff.mpr native, (Option.some.inj same).symm⟩
  | none =>
    rw [found] at rest
    obtain ⟨object, -, same⟩ := Option.map_eq_some_iff.mp rest
    exact .inr ⟨findLoaded_none found, object, same.symm⟩

/-! ## The accounting -/

/-- The counters follow the loaded modules, each of which is there once, and a module has always
been given as the same exports. -/
structure Accounted (entrySize : Nat) (state : JsModules) : Prop where
  once : (state.modules.map LoadedModule.name).Nodup
  counted : state.limits.usage.modules.toNat = state.keys.dedup.length
  sourced : state.limits.usage.sourceBytes.toNat = entrySize + state.sourceSizes.sum
  same : ∀ key exports other, (key, exports) ∈ state.returned → (key, other) ∈ state.returned →
    exports = other

/-- A call for a module that is loaded costs nothing. -/
def Free (state : JsModules) (event : ModuleEvent) (next : JsModules) : Prop :=
  ∀ target, event.target state = some target → target.key ∈ state.keys →
    next.limits = state.limits

def AccountedRun (entrySize : Nat) : JsModules → List ModuleEvent → Prop
  | state, [] => state.Accounted entrySize
  | state, event :: events =>
    state.Accounted entrySize ∧ ∀ next, state.perform event = some next →
      state.Free event next ∧ AccountedRun entrySize next events

/-- No loaded module is asked for. -/
def Meets (state : JsModules) (event : ModuleEvent) : Prop :=
  ∀ name, event.target state = some (.native name) →
    ModuleKey.native (deslashed name) ∉ state.keys

def MeetsRun : JsModules → List ModuleEvent → Prop
  | _, [] => True
  | state, event :: events =>
    ∀ next, state.perform event = some next → state.Meets event ∧ MeetsRun next events

/-- What the accounting rests on: there are limits for both counters, all loaded modules are native
and no two of them the same, and what was returned are their exports. -/
structure Clean (entrySize : Nat) (state : JsModules) : Prop where
  sourceBound : state.limits.config.bound .source ≠ 0
  moduleBound : state.limits.config.bound .module ≠ 0
  native : ∀ module ∈ state.modules, module.source = none
  idle : state.executing = []
  names : (state.modules.map LoadedModule.name).Nodup
  keys : state.keys.Nodup
  counted : state.limits.usage.count .module = state.modules.length
  sourced : state.limits.usage.count .source = entrySize
  returned : ∀ key exports, (key, exports) ∈ state.returned →
    ∃ module ∈ state.modules, module.key = key ∧ module.exports = exports

variable {entrySize : Nat}

namespace Clean

variable (clean : state.Clean entrySize)
include clean

theorem same_key {first second : LoadedModule} (left : first ∈ state.modules)
    (right : second ∈ state.modules) (same : first.key = second.key) : first = second :=
  List.inj_on_of_nodup_map clean.keys left right same

theorem accounted : state.Accounted entrySize where
  once := clean.names
  counted := by
    rw [clean.keys.dedup, JsModules.keys, List.length_map]
    exact clean.counted
  sourced := by
    have none : state.sourceSizes = [] := List.filterMap_eq_nil_iff.mpr clean.native
    rw [none, List.sum_nil, Nat.add_zero]
    exact clean.sourced
  same := by
    intro key exports other given again
    obtain ⟨first, left, keyed, rfl⟩ := clean.returned key exports given
    obtain ⟨second, right, sameKey, rfl⟩ := clean.returned key other again
    rw [clean.same_key left right (keyed.trans sameKey.symm)]

/-- An increment of neither sources nor modules. -/
theorem elsewhere {increment : JsLimitsUsage} {limits : JsLimits}
    (taken : state.limits.taken increment = some limits) (source : increment.count .source = 0)
    (module : increment.count .module = 0) : Clean entrySize { state with limits } := by
  refine { clean with sourceBound := ?_, moduleBound := ?_, counted := ?_, sourced := ?_ }
  · rw [JsLimits.config_taken taken]
    exact clean.sourceBound
  · rw [JsLimits.config_taken taken]
    exact clean.moduleBound
  · rw [JsLimits.count_taken taken clean.moduleBound, module]
    exact clean.counted
  · rw [JsLimits.count_taken taken clean.sourceBound, source]
    exact clean.sourced

theorem insert {limits : JsLimits} {object : MjsValue}
    (taken : state.limits.taken { modules := 1 } = some limits)
    (missing : name ∉ state.modules.map LoadedModule.name)
    (fresh : ModuleKey.native (deslashed name) ∉ state.keys) :
    Clean entrySize { state with limits, modules := ⟨name, none, object⟩ :: state.modules } where
  sourceBound := by
    rw [JsLimits.config_taken taken]
    exact clean.sourceBound
  moduleBound := by
    rw [JsLimits.config_taken taken]
    exact clean.moduleBound
  native := List.forall_mem_cons.mpr ⟨rfl, clean.native⟩
  idle := clean.idle
  names := List.nodup_cons.mpr ⟨missing, clean.names⟩
  keys := List.nodup_cons.mpr ⟨fresh, clean.keys⟩
  counted := by
    rw [JsLimits.count_taken taken clean.moduleBound, clean.counted, List.length_cons]
    rfl
  sourced := by
    rw [JsLimits.count_taken taken clean.sourceBound, clean.sourced]
    rfl
  returned := by
    intro key exports given
    obtain ⟨loaded, earlier, named⟩ := clean.returned key exports given
    exact ⟨loaded, List.mem_cons_of_mem _ earlier, named⟩

/-- The exports of a loaded module are returned. -/
theorem return_loaded {key : ModuleKey} (inside : module ∈ state.modules)
    (keyed : module.key = key) :
    Clean entrySize { state with returned := state.returned ++ [(key, module.exports)] } := by
  refine { clean with returned := ?_ }
  intro other exports given
  rcases List.mem_append.mp given with earlier | last
  · exact clean.returned other exports earlier
  · cases List.mem_singleton.mp last
    exact ⟨module, inside, keyed, rfl⟩

end Clean

theorem key_of_native (native : module.source.isSome = false) :
    module.key = .native (deslashed module.name) := by
  rw [LoadedModule.key, native, if_neg Bool.false_ne_true]

/-- A native module that is not loaded keeps the accounting, and one that is breaks it. -/
theorem Clean.native_step (clean : state.Clean entrySize)
    (loaded : state.nativeRequire name outside = some next) :
    (ModuleKey.native (deslashed name) ∉ state.keys → next.Clean entrySize) ∧
      (next.Accounted entrySize → ModuleKey.native (deslashed name) ∉ state.keys) := by
  obtain ⟨limits, taken, rest⟩ := nativeRequire_cases loaded
  have counted := JsLimits.count_taken taken clean.moduleBound
  rw [clean.counted] at counted
  change limits.usage.modules.toNat = state.modules.length + 1 at counted
  have all : state.keys.dedup.length = state.modules.length := by
    rw [clean.keys.dedup, JsModules.keys, List.length_map]
  rcases rest with ⟨module, inside, rfl, native, rfl⟩ | ⟨missing, object, rfl⟩
  · have known : ModuleKey.native (deslashed module.name) ∈ state.keys :=
      List.mem_map.mpr ⟨module, inside, key_of_native native⟩
    refine ⟨fun fresh => absurd known fresh, fun accounted => ?_⟩
    have same : limits.usage.modules.toNat = state.keys.dedup.length := accounted.counted
    omega
  · refine ⟨fun fresh => ?_, fun accounted known => ?_⟩
    · have inserted : Clean entrySize { state with
          limits, modules := ⟨name, none, object⟩ :: state.modules } :=
        clean.insert taken missing fresh
      exact inserted.return_loaded (List.mem_cons_self ..) rfl
    · have same : limits.usage.modules.toNat =
          (ModuleKey.native (deslashed name) :: state.keys).dedup.length := accounted.counted
      rw [List.dedup_cons_of_mem known] at same
      omega

/-- A call that succeeds leads to a native module, or something else is counted: no source is
being executed that could end. -/
theorem perform_cases (idle : state.executing = []) (performed : state.perform event = some next) :
    (∃ name outside, event.target state = some (.native name) ∧
      state.nativeRequire name outside = some next) ∨
    ∃ increment limits, event = .elsewhere increment ∧ increment.sourceBytes = 0 ∧
      increment.modules = 0 ∧ state.limits.taken increment = some limits ∧
      next = { state with limits } := by
  cases event with
  | require name outside =>
    obtain ⟨target, resolved, loaded⟩ := Option.bind_eq_some_iff.mp performed
    obtain ⟨plugin, rfl⟩ := target_native (.require name outside) resolved
    exact .inl ⟨plugin, outside, resolved, loaded⟩
  | requireFrom name base outside =>
    obtain ⟨target, resolved, loaded⟩ := Option.bind_eq_some_iff.mp performed
    obtain ⟨plugin, rfl⟩ := target_native (.requireFrom name base outside) resolved
    exact .inl ⟨plugin, outside, resolved, loaded⟩
  | finish exports =>
    rw [perform, finish, idle] at performed
    cases performed
  | elsewhere increment =>
    obtain ⟨nothing, counted⟩ := Option.ite_none_right_eq_some.mp performed
    obtain ⟨source, module⟩ := Bool.and_eq_true_iff.mp nothing
    obtain ⟨limits, taken, same⟩ := accounted_eq counted
    exact .inr ⟨increment, limits, rfl, eq_of_beq source, eq_of_beq module, taken, same⟩

/-- An event that succeeds keeps the accounting if it is one of these, and breaks it if not. -/
theorem Clean.step (clean : state.Clean entrySize) (performed : state.perform event = some next) :
    (state.Meets event → next.Clean entrySize ∧ state.Free event next) ∧
      (next.Accounted entrySize → state.Meets event) := by
  rcases perform_cases clean.idle performed with
    ⟨name, outside, resolved, loaded⟩ | ⟨increment, limits, rfl, source, module, taken, rfl⟩
  · obtain ⟨kept, fresh⟩ := clean.native_step loaded
    constructor
    · intro meets
      refine ⟨kept (meets name resolved), fun target same known => ?_⟩
      rw [resolved] at same
      cases same
      exact absurd known (meets name resolved)
    · intro accounted other same
      rw [resolved] at same
      cases same
      exact fresh accounted
  · refine ⟨fun _ => ⟨clean.elsewhere taken ?_ ?_, fun target resolved => nomatch resolved⟩,
      fun _ name resolved => nomatch resolved⟩
    · rw [count, source]
      rfl
    · rw [count, module]
      rfl

/-- A run is accounted exactly when all of its events are of these. -/
theorem Clean.run (clean : state.Clean entrySize) (events : List ModuleEvent) :
    AccountedRun entrySize state events ↔ MeetsRun state events := by
  induction events generalizing state with
  | nil => exact ⟨fun _ => trivial, fun _ => clean.accounted⟩
  | cons event events ih =>
    constructor
    · intro run next performed
      obtain ⟨free, rest⟩ := run.2 next performed
      have accounted : next.Accounted entrySize := by
        cases events with
        | nil => exact rest
        | cons event events => exact rest.1
      have meets := (clean.step performed).2 accounted
      exact ⟨meets, (ih ((clean.step performed).1 meets).1).mp rest⟩
    · intro run
      refine ⟨clean.accounted, fun next performed => ?_⟩
      obtain ⟨meets, rest⟩ := run next performed
      obtain ⟨kept, free⟩ := (clean.step performed).1 meets
      exact ⟨free, (ih kept).mpr rest⟩

/-- A script begins without modules. -/
theorem start_clean {config : JsLimitsConfig} {startTick : UInt32} {root entryBase : CString}
    {size : UInt32} (source : config.bound .source ≠ 0) (module : config.bound .module ≠ 0)
    (started : start config startTick root entryBase size = some state) :
    state.Clean size.toNat := by
  obtain ⟨limits, taken, rfl⟩ := accounted_eq started
  refine {
    sourceBound := ?_
    moduleBound := ?_
    native := fun module loaded => nomatch loaded
    idle := rfl
    names := List.nodup_nil
    keys := List.nodup_nil
    counted := ?_
    sourced := ?_
    returned := fun key exports given => nomatch given }
  · rw [JsLimits.config_taken taken]
    exact source
  · rw [JsLimits.config_taken taken]
    exact module
  · rw [JsLimits.count_taken taken module]
    rfl
  · rw [JsLimits.count_taken taken source]
    simp only [JsLimits.init, count]
    simp

end JsModules

/-! ## The limits of a deployed project -/

/-- The limits of a request that was accepted are those of the script. -/
theorem bounds_of_valid {workload : Workload} {input : PbWorkloadLimits}
    (valid : input.valid = true) (limits : workload.limits = input.limits) :
    (workload.jsLimitsConfig.bound .source = input.sourceBytes.toNat ∧
        0 < input.sourceBytes.toNat) ∧
      workload.jsLimitsConfig.bound .module = input.modules.toNat ∧ 0 < input.modules.toNat := by
  simp only [PbWorkloadLimits.valid, Bool.and_eq_true, decide_eq_true_eq] at valid
  have source : (0 : UInt32) < input.sourceBytes := by tauto
  have some : (0 : UInt32) < input.modules := by tauto
  have few : input.modules ≤ 32 := by tauto
  rw [UInt32.lt_iff_toNat_lt] at source some
  rw [UInt32.le_iff_toNat_le] at few
  refine ⟨⟨?_, source⟩, ?_, some⟩
  · rw [workload.bound_jsLimitsConfig, limits]
    rfl
  · rw [workload.bound_jsLimitsConfig, limits]
    exact (UInt32.toNat_toUInt16 _).trans (Nat.mod_eq_of_lt (Nat.lt_of_le_of_lt few (by decide)))

section Deployment

variable {files : List PackagedFile} {entry : PackagedFile} {input : PbWorkloadLimits}

/-- The increments of a project with its entry script, summed. -/
theorem sum_increments (deployed : Deployed files entry input) (natives : List CString)
    (resource : JsResource) :
    count { sourceBytes := .ofNat entry.size } resource +
      ((increments files entry natives).map fun increment => increment.count resource).sum =
      match resource with
      | .source => input.sourceBytes.toNat
      | .module => input.modules.toNat - 1 + natives.length
      | _ => 0 := by
  have whole : (executableFiles files).Perm (entry :: (executableFiles files).erase entry) :=
    List.perm_cons_erase deployed.packaged
  have sizes := (whole.map PackagedFile.size).sum_nat
  rw [← deployed.sourceBytes, List.map_cons, List.sum_cons] at sizes
  have range := UInt32.toNat_lt input.sourceBytes
  have one : ((executableFiles files).erase entry).length = input.modules.toNat - 1 := by
    rw [List.length_erase_of_mem deployed.packaged, deployed.modules]
  rw [increments, List.map_append, List.map_map, List.map_map, List.sum_append]
  generalize (executableFiles files).erase entry = others at sizes one
  have natural : (natives.map fun _ => 1).sum = natives.length := by
    rw [List.map_const', List.sum_const_nat, Nat.mul_one]
  cases resource with
  | source =>
    have each : ∀ file ∈ others, (UInt32.ofNat file.size).toNat = file.size := by
      intro file inside
      have part := List.le_sum_of_mem (List.mem_map_of_mem (f := PackagedFile.size) inside)
      exact Nat.mod_eq_of_lt (by omega)
    have first : (UInt32.ofNat entry.size).toNat = entry.size := Nat.mod_eq_of_lt (by omega)
    have rest : (others.map fun file => (UInt32.ofNat file.size).toNat) =
        others.map PackagedFile.size := List.map_congr_left each
    have none : (natives.map fun _ => (0 : Nat)).sum = 0 := by simp
    simp only [Function.comp_def, PackagedFile.increment, count, first, rest]
    simp only [UInt32.toNat_zero, none]
    omega
  | module =>
    have others_one : (others.map fun _ => 1).sum = others.length := by
      rw [List.map_const', List.sum_const_nat, Nat.mul_one]
    simp only [Function.comp_def, PackagedFile.increment, count, UInt16.toNat_one,
      UInt16.toNat_zero, natural, others_one]
    omega
  | _ => simp [Function.comp_def, PackagedFile.increment, count]

/-- The limits of a project admit the whole of it and one native module. -/
theorem enough_iff {workload : Workload} (valid : input.valid = true)
    (limits : workload.limits = input.limits) (startTick : UInt32)
    (deployed : Deployed files entry input) (natives : List CString) :
    Enough workload.jsLimitsConfig startTick files entry natives ↔ natives.length ≤ 1 := by
  obtain ⟨source, module⟩ := bounds_of_valid valid limits
  have total := sum_increments deployed natives
  have unused : ∀ resource,
      (JsLimits.init workload.jsLimitsConfig startTick).usage.count resource = 0 := by
    intro resource
    cases resource <;> rfl
  constructor
  · rintro ⟨begun, taken, every⟩
    have bound : (JsLimits.init workload.jsLimitsConfig startTick).config.bound .module =
        input.modules.toNat := module.1
    have bounded : (JsLimits.init workload.jsLimitsConfig startTick).config.bound .module ≠ 0 := by
      omega
    have counted := JsLimits.count_taken taken bounded
    have fits := JsLimits.count_taken_le taken bounded
    rw [← JsLimits.config_taken taken] at bound fits
    rw [← counted] at fits
    have within := JsLimits.sum_le_of_taken fits (by omega) (every _ (List.Perm.refl _))
    rw [counted, unused, Nat.zero_add, total .module, bound] at within
    simp only at within
    omega
  · intro few
    have fits : ∀ resource,
        count { sourceBytes := .ofNat entry.size } resource +
          ((increments files entry natives).map fun increment => increment.count resource).sum ≤
            workload.jsLimitsConfig.bound resource := by
      intro resource
      rw [total resource]
      cases resource with
      | source => exact source.1.ge
      | module =>
        rw [module.1]
        have := module.2
        simp only
        omega
      | _ => exact Nat.zero_le _
    refine ⟨_, JsLimits.taken_of_fits rfl fun resource => ?_, fun order same => ?_⟩
    · have := fits resource
      rw [unused]
      simp only [JsLimits.init]
      omega
    · refine JsLimits.taken_all rfl fun resource => ?_
      have := fits resource
      have range := JsLimits.bound_lt workload.jsLimitsConfig resource
      rw [count_add, unused, Nat.zero_add, Nat.mod_eq_of_lt (by omega),
        (same.map _).sum_nat]
      exact this

end Deployment

/-- **The modules of a managed script are accounted exactly in the runs that ask for no loaded
native module; and the limits of a deployed project are enough for all of it exactly with at most
one native module.**

Proof: no way to a source succeeds, so a call leads to a native module. The counters follow the
loaded modules after an event exactly if it asks for none of them; by induction on the run. The limit for modules counts the entry script,
which is not counted when it begins. -/
theorem module_accounting_iff (workload : Workload) (input : PbWorkloadLimits)
    (valid : input.valid = true) (limits : workload.limits = input.limits) (startTick : UInt32) :
    (∀ (root entryBase : CString) (entrySize : UInt32) (state : JsModules),
      JsModules.start workload.jsLimitsConfig startTick root entryBase entrySize = some state →
      ∀ events, state.AccountedRun entrySize.toNat events ↔ state.MeetsRun events) ∧
    ∀ (files : List PackagedFile) (entry : PackagedFile), Deployed files entry input →
      ∀ natives, Enough workload.jsLimitsConfig startTick files entry natives ↔
        natives.length ≤ 1 := by
  obtain ⟨source, module⟩ := bounds_of_valid valid limits
  refine ⟨fun root entryBase entrySize state started events => ?_,
    fun files entry deployed natives => enough_iff valid limits startTick deployed natives⟩
  exact (JsModules.start_clean (by omega) (by omega) started).run events

/-! ## A native module that is asked for twice -/

/-- A place where native modules are there and nothing is locked. -/
def sampleOutside : Outside where
  files := fun _ _ => none
  locked := none
  verified := true
  initial := 0
  allowed := true
  native := some 1

def sampleRequire (name : String) : ModuleEvent := .require (bytesOf name) sampleOutside

/-- The limits of a project of two scripts. -/
def sampleLimits : PbWorkloadLimits :=
  { Workload.sampleScriptLimits with sourceBytes := 3, modules := 2 }

/-- The workload of the sample project. -/
def sampleModules : Workload := { Workload.sampleScript with limits := sampleLimits.limits }

/-- The script of the sample project, once it has begun. -/
def sampleStart : JsModules where
  root := .literal "/ext"
  entryBase := .literal ""
  limits := {
    config := sampleModules.jsLimitsConfig
    usage := { sourceBytes := 1 }
    startTick := 0
    reason := .none }
  modules := []
  executing := []
  returned := []

/-- The scripts of the sample project. -/
def sampleFiles : List PackagedFile := [⟨bytesOf "main.js", 1⟩, ⟨bytesOf "other.js", 2⟩]

theorem target_gui (state : JsModules) :
    (sampleRequire "gui").target state = some (.native (.literal "gui")) := by
  simp only [sampleRequire, ModuleEvent.target, JsModules.requireTarget,
    JsModules.lockedRequest_none]
  rfl

theorem target_gpio (state : JsModules) :
    (sampleRequire "gpio").target state = some (.native (.literal "gpio")) := by
  simp only [sampleRequire, ModuleEvent.target, JsModules.requireTarget,
    JsModules.lockedRequest_none]
  rfl

/-- Two native modules that are asked for once are accounted, one that is asked for twice is not;
and the limits of two scripts leave room for one native module, not for two. -/
theorem module_accounting_sample :
    sampleStart.AccountedRun 1 [sampleRequire "gpio", sampleRequire "gui"] ∧
      ¬ sampleStart.AccountedRun 1 [sampleRequire "gpio", sampleRequire "gpio"] ∧
      Enough sampleModules.jsLimitsConfig 0 sampleFiles ⟨bytesOf "main.js", 1⟩
        [.literal "gpio"] ∧
      ¬ Enough sampleModules.jsLimitsConfig 0 sampleFiles ⟨bytesOf "main.js", 1⟩
        [.literal "gpio", .literal "gui"] := by
  obtain ⟨runs, enough⟩ := module_accounting_iff sampleModules sampleLimits (by decide) rfl 0
  have run := runs (.literal "/ext") (.literal "") 1 sampleStart rfl
  have limits := enough sampleFiles ⟨bytesOf "main.js", 1⟩
    ⟨by decide +kernel, by decide +kernel, by decide +kernel⟩
  have keys : (sampleStart.perform (sampleRequire "gpio")).map JsModules.keys =
      some [.native (.literal "gpio")] := by
    decide +kernel
  obtain ⟨next, performed, loaded⟩ := Option.map_eq_some_iff.mp keys
  refine ⟨(run _).mpr ?_, fun accounted => ?_, (limits _).mpr (by decide), fun enough => ?_⟩
  · intro other same
    obtain rfl := Option.some.inj (performed.symm.trans same)
    refine ⟨fun name _ => List.not_mem_nil, fun last again => ⟨fun name target => ?_, trivial⟩⟩
    rw [target_gui] at target
    cases target
    rw [loaded]
    decide +kernel
  · have twice : ((sampleStart.perform (sampleRequire "gpio")).bind fun state =>
        state.perform (sampleRequire "gpio")).isSome = true := by
      decide +kernel
    rw [performed, Option.bind_some] at twice
    obtain ⟨last, again⟩ := Option.isSome_iff_exists.mp twice
    have fresh := ((((run _).mp accounted) next performed).2 last again).1 _ (target_gpio next)
    rw [loaded] at fresh
    exact fresh (by decide +kernel)
  · exact absurd ((limits _).mp enough) (by decide)

/-- The second call for a native module is counted again. -/
theorem repeated_native_counted :
    ¬ sampleStart.AccountedRun 1 [sampleRequire "gpio", sampleRequire "gpio"] := by
  intro accounted
  have twice : ((sampleStart.perform (sampleRequire "gpio")).bind fun state =>
      (state.perform (sampleRequire "gpio")).map fun state =>
        (state.limits.usage.modules.toNat, state.keys.dedup.length)) = some (2, 1) := by
    decide +kernel
  obtain ⟨first, performed, twice⟩ := Option.bind_eq_some_iff.mp twice
  obtain ⟨second, again, values⟩ := Option.map_eq_some_iff.mp twice
  have last := ((accounted.2 first performed).2.2 second again).2.counted
  rw [Prod.mk.injEq] at values
  omega

end ModuleCache

end PoisonedOS
