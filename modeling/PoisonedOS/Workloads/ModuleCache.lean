import Mathlib.Algebra.GroupWithZero.Nat
import Mathlib.Data.List.Dedup
import PoisonedOS.Workloads.JsAccounting
import PoisonedOS.Workloads.ProjectSource

/-!
# Modules of a managed script

A script asks for a module by a name. The name leads to a source of the project, directly, as a
shim of a built-in or over the lock, or to a native module. All three ways to a source, and the way
to the lock, go over the resolution of a path, which refuses them. A source that was loaded would be
found before anything is counted. A native module is counted before it is looked for, so that it
costs again each time; and since it is found by its spelling, a module in a folder, which has two,
is loaded twice.

The dashboard asks for as many modules as the project has scripts. The script that is started is
not counted among the modules, so there is room for one native module.

What a call meets outside is given with it: the files, what the lock says, whether a source is
read and verified, and what the constructor of a native module makes.
-/

namespace PoisonedOS

/-- An increment that is admitted. -/
def JsLimits.taken (limits : JsLimits) (increment : JsLimitsUsage) : Option JsLimits :=
  match limits.account increment with
  | (false, _) => none
  | (true, limits) => some limits

namespace ModuleCache

/-- A value of the interpreter. -/
abbrev MjsValue := Nat

/-- What a module is, however it was spelled. -/
inductive ModuleKey where
  | source (relative : CString)
  | native (plugin : CString)
deriving DecidableEq

/-- `JsModuleData`, with the size that was counted for a source. -/
structure LoadedModule where
  name : CString
  source : Option Nat
  exports : MjsValue

def deslashed (name : CString) : CString :=
  .ofBytes (name.bytes.flatMap fun byte => if byte == 47 then [95, 95] else [byte])

/-- The identity of a loaded module. -/
def LoadedModule.key (module : LoadedModule) : ModuleKey :=
  if module.source.isSome then .source module.name else .native (deslashed module.name)

/-- A module once the source of this name has left its exports. -/
def LoadedModule.leaving (relative : CString) (exports : MjsValue) (module : LoadedModule) :
    LoadedModule :=
  if module.name == relative then { module with exports } else module

/-- `JsModules`, with the limits of the script, the sources that are being executed, the innermost
first, and what calls have returned. -/
structure JsModules where
  root : CString
  entryBase : CString
  limits : JsLimits
  modules : List LoadedModule
  executing : List CString
  returned : List (ModuleKey × MjsValue)

/-- What a call meets outside. -/
structure Outside where
  files : Nat → ProjectFiles
  /-- What the lock says, where it is read and verified. -/
  locked : Option CString
  /-- The source was read, verified and wrapped. -/
  verified : Bool
  /-- The object that a source begins with as its exports. -/
  initial : MjsValue
  /-- `js_capability_module_allowed`. -/
  allowed : Bool
  /-- The object of a native module that is there. -/
  native : Option MjsValue

/-- Where a name leads. -/
inductive Target where
  | source (relative : CString) (size : Nat)
  | native (name : CString)

def Target.key : Target → ModuleKey
  | .source relative _ => .source relative
  | .native name => .native (deslashed name)

/-- The shims of built-ins. -/
def builtins : List (String × String) :=
  [("assert", "assert.js"), ("buffer", "buffer.js"), ("crypto", "crypto.js"),
    ("events", "events.js"), ("fs", "fs.js"), ("http", "http.js"), ("https", "http.js"),
    ("net", "net.js"), ("os", "os.js"), ("path", "path.js"), ("process", "process.js"),
    ("promise", "promise.js"), ("querystring", "querystring.js"), ("stream", "stream.js"),
    ("string_decoder", "string_decoder.js"), ("timers", "timers.js"), ("tls", "tls.js"),
    ("url", "url.js"), ("util", "util.js")]

/-- The bytes of a literal. -/
def bytesOf (text : String) : List UInt8 := (CString.literal text).bytes

/-- `js_builtin_resolve_source`. -/
def builtinResolve (request : List UInt8) : Option CString :=
  let request :=
    if decide (5 < request.length) && (bytesOf "node:").isPrefixOf request then request.drop 5
    else request
  (builtins.find? fun builtin => bytesOf builtin.1 == request).map fun builtin =>
    (CString.literal "_poison/node/").append (.literal builtin.2)

/-- A request for a source of the project. -/
def isSourceRequest (name : List UInt8) : Bool :=
  (bytesOf "./").isPrefixOf name || (bytesOf "../").isPrefixOf name

/-- The name of a native module without the initial part that may be left out. -/
def withoutVendor (name : List UInt8) : List UInt8 :=
  if (bytesOf "@flipperdevices/fz-sdk/").isPrefixOf name then
    name.drop (bytesOf "@flipperdevices/fz-sdk/").length
  else name

namespace JsModules

/-- `js_source_resolve`. A zero byte is refused as every control byte is. -/
def sourceResolve (state : JsModules) (name base : List UInt8) (outside : Outside) :
    Option Target :=
  if name.contains 0 || base.contains 0 then none
  else
    (normalizeSourceRequest (.ofBytes base) (.ofBytes name)).bind fun normalized =>
      (resolveCandidates outside.files state.root 0 (sourceCandidates normalized)).map
        fun (relative, _, size) => .source relative size

/-- `js_source_locked_request`: the path of the lock is resolved before it is read. -/
def lockedRequest (state : JsModules) (outside : Outside) : Option CString :=
  (resolveProjectPath state.root (.literal "poison-js.lock")).bind fun _ => outside.locked

/-- The target of `js_module_require`. -/
def requireTarget (state : JsModules) (name : List UInt8) (outside : Outside) : Option Target :=
  if name.isEmpty || decide (128 ≤ name.length) then none
  else if isSourceRequest name then state.sourceResolve name state.entryBase.bytes outside
  else
    match builtinResolve name, state.lockedRequest outside with
    | some relative, _ => state.sourceResolve relative.bytes [] outside
    | none, some relative => state.sourceResolve relative.bytes [] outside
    | none, none => some (.native (.ofBytes (withoutVendor name)))

/-- The target of `js_module_require_from`. -/
def requireFromTarget (state : JsModules) (name base : List UInt8) (outside : Outside) :
    Option Target :=
  if isSourceRequest name then state.sourceResolve name base outside
  else
    match builtinResolve name, state.lockedRequest outside with
    | some relative, _ => state.sourceResolve relative.bytes [] outside
    | none, some relative => state.sourceResolve relative.bytes [] outside
    | none, none => state.requireTarget name outside

/-- `js_find_loaded_module`. -/
def findLoaded (state : JsModules) (name : CString) : Option LoadedModule :=
  state.modules.find? fun module => module.name == name

/-- `js_thread_account`. -/
def accounted (state : JsModules) (increment : JsLimitsUsage) : Option JsModules :=
  (state.limits.taken increment).map fun limits => { state with limits }

/-- The rest of `js_source_require`. A source that is not loaded begins to be executed. -/
def sourceRequire (state : JsModules) (relative : CString) (size : Nat) (outside : Outside) :
    Option JsModules :=
  match state.findLoaded relative with
  | some module =>
    if module.source.isSome then
      some { state with returned := state.returned ++ [(.source relative, module.exports)] }
    else none
  | none =>
    (state.accounted { sourceBytes := .ofNat size, modules := 1 }).bind fun state =>
      if outside.verified then
        some { state with
          modules := ⟨relative, some size, outside.initial⟩ :: state.modules
          executing := relative :: state.executing }
      else none

/-- The rest of `js_module_require`. -/
def nativeRequire (state : JsModules) (name : CString) (outside : Outside) : Option JsModules :=
  if !outside.allowed then none
  else
    (state.accounted { modules := 1 }).bind fun state =>
      match state.findLoaded name with
      | some module =>
        if module.source.isSome then none
        else some { state with
          returned := state.returned ++ [(.native (deslashed name), module.exports)] }
      | none =>
        outside.native.map fun object => { state with
          modules := ⟨name, none, object⟩ :: state.modules
          returned := state.returned ++ [(.native (deslashed name), object)] }

/-- What follows once the target is known. -/
def load (state : JsModules) (outside : Outside) : Target → Option JsModules
  | .source relative size => state.sourceRequire relative size outside
  | .native name => state.nativeRequire name outside

/-- The end of `js_source_require`: the source was executed and leaves its exports. -/
def finish (state : JsModules) (exports : MjsValue) : Option JsModules :=
  match state.executing with
  | [] => none
  | relative :: executing =>
    some { state with
      executing
      modules := state.modules.map (LoadedModule.leaving relative exports)
      returned := state.returned ++ [(.source relative, exports)] }

end JsModules

/-- A call of the script, the end of a source that it executes, or what else is counted and
leaves sources and modules alone. -/
inductive ModuleEvent where
  | require (name : List UInt8) (outside : Outside)
  | requireFrom (name base : List UInt8) (outside : Outside)
  | finish (exports : MjsValue)
  | elsewhere (increment : JsLimitsUsage)

/-- The target of a call. -/
def ModuleEvent.target (state : JsModules) : ModuleEvent → Option Target
  | .require name outside => state.requireTarget name outside
  | .requireFrom name base outside => state.requireFromTarget name base outside
  | _ => none

namespace JsModules

/-- An event that succeeds. -/
def perform (state : JsModules) : ModuleEvent → Option JsModules
  | .require name outside => (state.requireTarget name outside).bind (state.load outside)
  | .requireFrom name base outside =>
    (state.requireFromTarget name base outside).bind (state.load outside)
  | .finish exports => state.finish exports
  | .elsewhere increment =>
    if increment.sourceBytes == 0 && increment.modules == 0 then state.accounted increment
    else none

/-- The modules of a script that begins. The entry script is counted as a source and not as a
module. -/
def start (config : JsLimitsConfig) (startTick : UInt32) (root entryBase : CString)
    (entrySize : UInt32) : Option JsModules :=
  accounted ⟨root, entryBase, .init config startTick, [], [], []⟩ { sourceBytes := entrySize }

/-- The identities of the loaded modules. -/
def keys (state : JsModules) : List ModuleKey := state.modules.map LoadedModule.key

/-- The sizes of the loaded sources. -/
def sourceSizes (state : JsModules) : List Nat := state.modules.filterMap LoadedModule.source

end JsModules

/-! ## What the dashboard asks for -/

/-- A file of a packaged project, by its path and the bytes of its source. -/
structure PackagedFile where
  path : List UInt8
  size : Nat
deriving DecidableEq

/-- A file that the pattern of `deployAndRunJavaScript` matches. -/
def PackagedFile.executable (file : PackagedFile) : Bool :=
  [".js", ".mjs", ".cjs"].any fun suffix => (bytesOf suffix).isSuffixOf file.path

/-- `executableFiles`. -/
def executableFiles (files : List PackagedFile) : List PackagedFile :=
  files.filter PackagedFile.executable

/-- The limits that `deployAndRunJavaScript` derives from the sources. -/
structure Deployed (files : List PackagedFile) (entry : PackagedFile) (limits : PbWorkloadLimits) :
    Prop where
  packaged : entry ∈ executableFiles files
  sourceBytes : limits.sourceBytes.toNat = ((executableFiles files).map PackagedFile.size).sum
  modules : limits.modules.toNat = (executableFiles files).length

/-- What is counted for a source. -/
def PackagedFile.increment (file : PackagedFile) : JsLimitsUsage :=
  { sourceBytes := .ofNat file.size, modules := 1 }

/-- What is counted when the other executable members and the native modules are loaded once. -/
def increments (files : List PackagedFile) (entry : PackagedFile) (natives : List CString) :
    List JsLimitsUsage :=
  ((executableFiles files).erase entry).map PackagedFile.increment ++
    natives.map fun _ => { modules := 1 }

/-- The limits admit the entry script and, in any order, everything else once. -/
def Enough (config : JsLimitsConfig) (startTick : UInt32) (files : List PackagedFile)
    (entry : PackagedFile) (natives : List CString) : Prop :=
  ∃ limits, (JsLimits.init config startTick).taken { sourceBytes := .ofNat entry.size } =
      some limits ∧
    ∀ order : List JsLimitsUsage, order.Perm (increments files entry natives) →
      (order.foldlM JsLimits.taken limits).isSome = true

end ModuleCache

end PoisonedOS
