import PoisonedOS.Rpc.Confirmation
import PoisonedOS.Library.Hex
import PoisonedOS.Library.Segments

/-!
# The sources of a managed project

A managed script runs from a project directory that is named by the digest of its
`project.json`. The members that it lists are verified before the script starts; then the entry
script is read to be executed, and modules are read and verified one by one as the script asks
for them. Others may write to the directory between any two accesses: each access has its own
state of the files, and no relation between these states is assumed.

The JSON parser is a parameter, and so is SHA-256. A file that cannot be read is not there.
-/

namespace PoisonedOS

/-- `JS_PROJECT_PATH_MAX`. -/
def jsProjectPathMax : Nat := 256

/-- `JS_PROJECT_MANIFEST_MAX_BYTES`. -/
def jsProjectManifestMaxBytes : Nat := 32 * 1024

/-- `JS_PROJECT_MAX_MEMBERS`. -/
def jsProjectMaxMembers : Nat := 33

/-- The files by their paths. -/
abbrev ProjectFiles := CString → Option (List UInt8)

/-- An entry of `files` in a `project.json`. -/
structure ProjectMember where
  path : CString
  sha256 : CString
  bytes : Nat
deriving DecidableEq

/-- The header of a `project.json`. -/
structure ProjectHeader where
  format : Nat
  runtime : CString
  entrypoint : CString
  dependencies : CString

/-- The header of a `poison-js.lock`. -/
structure LockHeader where
  schema : CString
  runtime : CString
  entrypoint : CString

/-- What the JSON parser finds in a text. -/
structure ProjectJson where
  header : List UInt8 → Option ProjectHeader
  /-- An element of `files`, if there is one, and its fields if they are there. -/
  member : List UInt8 → Nat → Option (Option ProjectMember)
  lock : List UInt8 → Option LockHeader

/-! ## Paths -/

/-- A text before the first occurrence of a word, and after it. -/
def splitAtWord (word : List UInt8) : List UInt8 → Option (List UInt8 × List UInt8)
  | [] => if word.isEmpty then some ([], []) else none
  | byte :: rest =>
    if word.isPrefixOf (byte :: rest) then some ([], (byte :: rest).drop word.length)
    else (splitAtWord word rest).map fun parts => (byte :: parts.1, parts.2)

/-- What stands after the last `byte`. -/
def afterLast (byte : UInt8) (text : List UInt8) : Option (List UInt8) :=
  if text.contains byte then some (text.reverse.takeWhile (· != byte)).reverse else none

/-- `js_project_hex_digest_valid`. -/
def hexDigestValid (digest : CString) : Bool :=
  digest.length == 64 && digest.bytes.all isLowerHex

/-- `js_modules_project_root_from_script`. -/
def projectRootFromScript (scriptPath : CString) : Option CString :=
  match splitAtWord (CString.literal "/versions/").bytes scriptPath.bytes with
  | none => none
  | some (before, digest) =>
    let root := before ++ (CString.literal "/versions/").bytes ++ digest.take 64
    if decide (digest.length < 64) || !(digest.take 64).all isLowerHex ||
        !(digest[64]? == none || digest[64]? == some 47) || decide (root.length ≥ jsProjectPathMax)
    then none
    else some (.ofBytes root)

/-- A path in a directory. -/
def CString.within (root relative : CString) : CString :=
  (root.append (.literal "/")).append relative

/-- `js_modules_member_from_script`. -/
def memberFromScript (scriptPath root : CString) : Option CString :=
  let lead := root.append (.literal "/")
  let relative := scriptPath.bytes.drop lead.length
  if scriptPath.startsWith lead && !relative.isEmpty && decide (relative.length < jsProjectPathMax)
  then some (.ofBytes relative)
  else none

/-- A segment that no path may have. -/
def segmentRefused (segment : List UInt8) : Bool :=
  segment.isEmpty || segment == [46] || segment == [46, 46]

/-- `js_project_relative_path_valid`. -/
def relativePathValid (path : CString) : Bool :=
  !path.isEmpty && path.bytes.head? != some 47 && decide (path.length < jsProjectPathMax) &&
    !path.hasByte 92 && path.bytes.all (fun byte => decide (32 ≤ byte) && byte != 127) &&
    (path.bytes.splitOn 47).all (!segmentRefused ·)

/-- `js_modules_resolve_project_path` in a managed runtime. The terminator is one of the bytes that
are compared with the control bytes. -/
def resolveProjectPath (root path : CString) : Option CString :=
  let relative := path.bytes.dropWhile (· == 47)
  if root.isEmpty then none
  else if relative.isEmpty then some root
  else if (relative ++ [0]).any (fun byte => byte == 92 || decide (byte < 32)) ||
      (relative.splitOn 47).any segmentRefused ||
      decide (root.length + 1 + relative.length ≥ jsProjectPathMax) then none
  else some (root.within (.ofBytes relative))

/-- Only the root itself is resolved: the terminator of any other path is refused. -/
theorem resolveProjectPath_eq (root path : CString) :
    resolveProjectPath root path =
      if root.isEmpty || path.bytes.any (· != 47) then none else some root := by
  have separators : (path.bytes.dropWhile (· == 47)).isEmpty = !path.bytes.any (· != 47) := by
    rw [List.not_any_eq_all_not, Bool.eq_iff_iff, List.isEmpty_iff, List.dropWhile_eq_nil_iff]
    simp
  have terminated : ((path.bytes.dropWhile (· == 47) ++ [0]).any
      fun byte => byte == 92 || decide (byte < 32)) = true := by
    simp
  rw [resolveProjectPath, separators, terminated]
  cases root.isEmpty <;> cases path.bytes.any (· != 47) <;> rfl

/-- The segments that `js_modules_normalize_source_request` goes through; what follows a last `/`
is not looked at when it is empty. -/
def requestSegments (combined : List UInt8) : List (List UInt8) :=
  if combined.getLast? == some 47 then (combined.splitOn 47).dropLast else combined.splitOn 47

def normalizeSegments (kept : List (List UInt8)) :
    List (List UInt8) → Option (List (List UInt8))
  | [] => some kept
  | segment :: rest =>
    if segment.isEmpty || segment.any (fun byte => decide (byte < 32) || byte == 127 || byte == 92)
    then none
    else if segment == [46] then normalizeSegments kept rest
    else if segment == [46, 46] then
      if kept.isEmpty then none else normalizeSegments kept.dropLast rest
    else if decide (([47].intercalate (kept ++ [segment])).length ≥ jsProjectPathMax) then none
    else normalizeSegments (kept ++ [segment]) rest

/-- `js_modules_normalize_source_request`. -/
def normalizeSourceRequest (base request : CString) : Option CString :=
  if request.isEmpty || request.bytes.head? == some 47 ||
      decide (base.length + (if base.isEmpty then 0 else 1) + request.length ≥ jsProjectPathMax)
  then none
  else
    let combined := if base.isEmpty then request.bytes else (base.within request).bytes
    match normalizeSegments [] (requestSegments combined) with
    | none => none
    | some kept => if kept.isEmpty then none else some (.ofBytes ([47].intercalate kept))

/-- `js_source_suffix`. -/
def sourceSuffix (path : CString) : Bool :=
  match afterLast 46 path.bytes with
  | none => false
  | some extension =>
    extension == (CString.literal "js").bytes || extension == (CString.literal "mjs").bytes ||
      extension == (CString.literal "cjs").bytes

/-! ## Reading and verifying -/

section Reading

variable (sha256 : List UInt8 → Digest) (json : ProjectJson)

/-- `js_project_digest_hex` of a content. -/
def sha256Text (content : List UInt8) : CString := .ofBytes (hexBytes (sha256 content).bytes)

/-- `js_project_file_sha256`. -/
def projectFileSha256 (files : ProjectFiles) (path : CString) (expectedSize : Nat) :
    Option CString :=
  match files path with
  | none => none
  | some content =>
    if content.length == expectedSize then some (sha256Text sha256 content) else none

/-- A file whose size was seen is opened and so many bytes are read. -/
def readSize (files : ProjectFiles) (path : CString) (size : Nat) : Option (List UInt8) :=
  match files path with
  | none => none
  | some content => if size ≤ content.length then some (content.take size) else none

/-- `js_project_read_bounded`. -/
def readBounded (seen read : ProjectFiles) (path : CString) (maximum : Nat) :
    Option (List UInt8) :=
  match seen path with
  | none => none
  | some content =>
    if decide (content.length > maximum) then none else readSize read path content.length

/-- `js_project_manifest_load`: the root and the manifest. Its file is looked at for its size,
read, and hashed. -/
def manifestLoad (storage : Nat → ProjectFiles) (scriptPath expectedDigest : CString) :
    Option (CString × List UInt8) :=
  match projectRootFromScript scriptPath with
  | none => none
  | some root =>
    let path := root.within (.literal "project.json")
    if !hexDigestValid expectedDigest || afterLast 47 root.bytes != some expectedDigest.bytes ||
        decide (path.length ≥ jsProjectPathMax) then none
    else
      match readBounded (storage 0) (storage 1) path jsProjectManifestMaxBytes with
      | none => none
      | some manifest =>
        if projectFileSha256 sha256 (storage 2) path manifest.length == some expectedDigest then
          some (root, manifest)
        else none

/-- The elements of `files`, as far as there are any. -/
def projectMembers (manifest : List UInt8) : List (Option ProjectMember) :=
  (((List.range jsProjectMaxMembers).map (json.member manifest)).takeWhile Option.isSome).filterMap
    id

/-- An element with all fields, each of them valid. -/
def memberParsed : Option ProjectMember → Bool
  | none => false
  | some member =>
    decide (member.bytes ≤ 0xFFFFFFFF) && relativePathValid member.path &&
      hexDigestValid member.sha256

/-- `js_project_member_descriptor`. -/
def memberDescriptor (manifest : List UInt8) (wanted : CString) : Option ProjectMember :=
  let members := projectMembers json manifest
  if !members.all memberParsed || (json.member manifest jsProjectMaxMembers).isSome then none
  else
    match members.reduceOption.filter fun member => member.path == wanted with
    | [member] => some member
    | _ => none

/-- `js_project_member_file_valid`: the size of the member. -/
def memberFileValid (files : ProjectFiles) (root : CString) (manifest : List UInt8)
    (relative : CString) : Option Nat :=
  match memberDescriptor json manifest relative with
  | none => none
  | some member =>
    if relativePathValid relative &&
        decide ((root.within relative).length < jsProjectPathMax) &&
        projectFileSha256 sha256 files (root.within relative) member.bytes == some member.sha256
    then some member.bytes
    else none

/-- The check of one element of `files` in `js_modules_verify_managed_project`. -/
def memberVerified (files : ProjectFiles) (root : CString) (manifest : List UInt8)
    (element : Option ProjectMember) : Bool :=
  match element with
  | none => false
  | some member =>
    memberParsed element && member.path != .literal "project.json" &&
      memberFileValid sha256 json files root manifest member.path == some member.bytes

/-- The check of `poison-js.lock`, once it is known to be a member. -/
def lockVerified (seen read : ProjectFiles) (root entrypoint : CString) : Bool :=
  let path := root.within (.literal "poison-js.lock")
  if decide (path.length ≥ jsProjectPathMax) then false
  else
    match readBounded seen read path jsProjectManifestMaxBytes with
    | none => false
    | some content =>
      match json.lock content with
      | none => false
      | some lock =>
        lock.schema == .literal "poison.javascript.lock/v1" &&
          lock.runtime == .literal "poison-mjs-1" && lock.entrypoint == entrypoint

/-- The header names the runtime, the lock file and an entry script. -/
def headerValid (header : ProjectHeader) : Bool :=
  header.format == 1 && header.runtime == .literal "poison-mjs-1" &&
    header.dependencies == .literal "poison-js.lock" && relativePathValid header.entrypoint

/-- `js_modules_verify_managed_project`: the manifest is loaded, then every member is hashed and
the lock file read. -/
def verifyManagedProject (storage : Nat → ProjectFiles) (scriptPath projectDigest : CString)
    (sourceBytes moduleCount : Nat) : Bool :=
  match manifestLoad sha256 storage scriptPath projectDigest with
  | none => false
  | some (root, manifest) =>
    match json.header manifest with
    | none => false
    | some header =>
      let elements := projectMembers json manifest
      let members := elements.reduceOption
      let sources := members.filter fun member => sourceSuffix member.path
      let bytes := (sources.map ProjectMember.bytes).sum
      headerValid header && memberFromScript scriptPath root == some header.entrypoint &&
        (elements.zipIdx.all fun element =>
          memberVerified sha256 json (storage (3 + element.2)) root manifest element.1) &&
        decide (bytes ≤ 0xFFFFFFFF) &&
        members.any (fun member => member.path == .literal "poison-js.lock") &&
        lockVerified json (storage 36) (storage 37) root header.entrypoint &&
        members.any (fun member => member.path == header.entrypoint) &&
        (sourceBytes == 0 || sourceBytes == bytes) &&
        (moduleCount == 0 || moduleCount == sources.length)

/-- `js_project_member_data_valid`. -/
def memberDataValid (storage : Nat → ProjectFiles) (root relative : CString)
    (data : List UInt8) : Bool :=
  match afterLast 47 root.bytes with
  | none => false
  | some digest =>
    match manifestLoad sha256 storage root (.ofBytes digest) with
    | none => false
    | some (_, manifest) =>
      match memberDescriptor json manifest relative with
      | none => false
      | some member => member.bytes == data.length && sha256Text sha256 data == member.sha256

end Reading

/-! ## The managed runtime -/

/-- The runtime of a script, with the source texts it has executed. -/
structure ManagedRuntime where
  root : CString
  loaded : List CString
  executed : List (List UInt8)

/-- What a script asks for: a module, relative to a base, or `load` of a path. -/
inductive SourceCall where
  /-- `accounted` says whether the limits admit the module. -/
  | require (name base : CString) (accounted : Bool) (storage : Nat → ProjectFiles)
  /-- `known` says whether the interpreter has executed this file before. -/
  | load (path : CString) (known : Bool) (files : ProjectFiles)

/-- The paths that `js_source_resolve` tries. -/
def sourceCandidates (normalized : CString) : List CString :=
  if sourceSuffix normalized then [normalized]
  else [normalized, normalized.append (.literal ".js"), normalized.append (.literal "/index.js")]

/-- `js_source_resolve` of the candidates from one of them on: the relative and the absolute path
and the size. Each is looked at in its own state of the files. -/
def resolveCandidates (storage : Nat → ProjectFiles) (root : CString) :
    Nat → List CString → Option (CString × CString × Nat)
  | _, [] => none
  | index, relative :: rest =>
    match resolveProjectPath root relative with
    | none => resolveCandidates storage root (index + 1) rest
    | some absolute =>
      if decide (relative.length ≥ jsProjectPathMax) then
        resolveCandidates storage root (index + 1) rest
      else
        match storage index absolute with
        | none => resolveCandidates storage root (index + 1) rest
        | some content =>
          if content.length ≤ 256 * 1024 then some (relative, absolute, content.length)
          else resolveCandidates storage root (index + 1) rest

/-! ## No source is found

The request of a source is never resolved: what it is normalized to begins with a letter, and of
such a path not even the terminator is accepted. -/

/-- A text that does not begin with a separator and is not empty. -/
def Lettered (text : List UInt8) : Prop :=
  ∃ first rest, text = first :: rest ∧ first ≠ 47 ∧ first ≠ 0

theorem normalizeSegments_lettered {segments kept final : List (List UInt8)}
    (genuine : ∀ segment ∈ segments, (47 : UInt8) ∉ segment)
    (lettered : ∀ segment ∈ kept, Lettered segment)
    (normalized : normalizeSegments kept segments = some final) :
    ∀ segment ∈ final, Lettered segment := by
  induction segments generalizing kept with
  | nil =>
    obtain rfl := Option.some.inj normalized
    exact lettered
  | cons segment rest ih =>
    have later {next : List (List UInt8)} (lettered : ∀ segment ∈ next, Lettered segment) :=
      ih (fun part isPart => genuine part (List.mem_cons_of_mem _ isPart)) lettered
    rw [normalizeSegments] at normalized
    split at normalized
    · cases normalized
    rename_i plain
    split at normalized
    · exact later lettered normalized
    split at normalized
    · split at normalized
      · cases normalized
      · exact later (fun part isPart => lettered part (List.mem_of_mem_dropLast isPart)) normalized
    split at normalized
    · cases normalized
    refine later (fun part isPart => ?_) normalized
    obtain old | new := List.mem_append.mp isPart
    · exact lettered part old
    rw [List.mem_singleton.mp new]
    cases segment with
    | nil => exact absurd rfl plain
    | cons first others =>
      refine ⟨first, others, rfl, ?_, ?_⟩
      · rintro rfl
        exact genuine _ List.mem_cons_self List.mem_cons_self
      · rintro rfl
        exact plain rfl

theorem normalizeSourceRequest_lettered {base request normalized : CString}
    (accepted : normalizeSourceRequest base request = some normalized) :
    Lettered normalized.bytes := by
  obtain ⟨-, found⟩ := Option.ite_none_left_eq_some.mp accepted
  dsimp only at found
  generalize (if base.isEmpty then request.bytes else (base.within request).bytes) = combined
    at found
  cases segmented : normalizeSegments [] (requestSegments combined) with
  | none =>
    rw [segmented] at found
    cases found
  | some kept =>
    rw [segmented] at found
    obtain ⟨inhabited, same⟩ := Option.ite_none_left_eq_some.mp found
    obtain rfl := Option.some.inj same
    have lettered := normalizeSegments_lettered (fun segment isSegment => ?_) (by simp) segmented
    · cases kept with
      | nil => exact absurd rfl inhabited
      | cons segment rest =>
        obtain ⟨first, others, rfl, apart, full⟩ := lettered segment List.mem_cons_self
        have leads : ∃ tail, [47].intercalate ((first :: others) :: rest) = first :: tail := by
          cases rest <;> exact ⟨_, rfl⟩
        obtain ⟨tail, leads⟩ := leads
        refine ⟨first, tail.takeWhile (· != 0), ?_, apart, full⟩
        rw [leads, CString.ofBytes]
        simp [full]
    · rw [requestSegments] at isSegment
      split at isSegment
      · exact Segments.separator_not_mem (List.mem_of_mem_dropLast isSegment)
      · exact Segments.separator_not_mem isSegment

theorem resolveCandidates_none {storage : Nat → ProjectFiles} {root : CString} {index : Nat}
    {candidates : List CString}
    (unresolved : ∀ relative ∈ candidates, resolveProjectPath root relative = none) :
    resolveCandidates storage root index candidates = none := by
  induction candidates generalizing index with
  | nil => rfl
  | cons relative rest ih =>
    rw [resolveCandidates, unresolved relative List.mem_cons_self]
    exact ih fun other isOther => unresolved other (List.mem_cons_of_mem _ isOther)

/-- No candidate for the source that a request asks for is found. -/
theorem source_not_found {base request normalized : CString}
    (accepted : normalizeSourceRequest base request = some normalized)
    (storage : Nat → ProjectFiles) (root : CString) :
    resolveCandidates storage root 0 (sourceCandidates normalized) = none := by
  obtain ⟨first, rest, begins, apart, -⟩ := normalizeSourceRequest_lettered accepted
  refine resolveCandidates_none fun relative isCandidate => ?_
  have led : first ∈ relative.bytes := by
    rw [sourceCandidates] at isCandidate
    split at isCandidate
    · rw [List.mem_singleton.mp isCandidate, begins]
      exact List.mem_cons_self
    · simp only [List.mem_cons, List.not_mem_nil, or_false] at isCandidate
      obtain rfl | rfl | rfl := isCandidate <;> simp [CString.append, begins]
  have letter : relative.bytes.any (· != 47) = true :=
    List.any_eq_true.mpr ⟨first, led, bne_iff_ne.mpr apart⟩
  rw [resolveProjectPath_eq, letter, Bool.or_true, if_pos rfl]

/-- A source text as the interpreter sees it: it ends at the first NUL byte. -/
def executedText (content : List UInt8) : List UInt8 := (CString.ofBytes content).bytes

section Running

variable (sha256 : List UInt8 → Digest) (json : ProjectJson)

/-- `js_source_require`: the source that was read and verified is executed in a wrapper, into
which it is copied as a string. -/
def sourceRequire (runtime : ManagedRuntime) (name base : CString) (accounted : Bool)
    (storage : Nat → ProjectFiles) : ManagedRuntime :=
  match normalizeSourceRequest base name with
  | none => runtime
  | some normalized =>
    match resolveCandidates storage runtime.root 0 (sourceCandidates normalized) with
    | none => runtime
    | some (relative, absolute, size) =>
      if runtime.loaded.contains relative || !accounted then runtime
      else
        match readSize (storage 3) absolute size with
        | none => runtime
        | some source =>
          if memberDataValid sha256 json (fun index => storage (4 + index)) runtime.root relative
              source then
            { runtime with
              loaded := relative :: runtime.loaded
              executed := runtime.executed ++ [executedText source] }
          else runtime

/-- `mjs_exec_file`. -/
def execFile (runtime : ManagedRuntime) (files : ProjectFiles) (path : CString) :
    ManagedRuntime :=
  match files path with
  | none => runtime
  | some content =>
    { runtime with executed := runtime.executed ++ [executedText content] }

/-- A call of the script. `load` is among the globals of the interpreter. -/
def SourceCall.step (call : SourceCall) (runtime : ManagedRuntime) : ManagedRuntime :=
  match call with
  | .require name base accounted storage =>
    sourceRequire sha256 json runtime name base accounted storage
  | .load path known files => if known then runtime else execFile runtime files path

/-- The run of a managed workload. -/
structure ManagedRun where
  scriptPath : CString
  projectDigest : CString
  sourceBytes : Nat
  moduleCount : Nat
  /-- The files while the workload is created. -/
  creation : Nat → ProjectFiles
  /-- The files while the runtime starts. -/
  start : Nat → ProjectFiles
  /-- The limits admit the entry script. -/
  accounted : Bool
  /-- The files when the entry script is read to be executed. -/
  entry : ProjectFiles
  calls : List SourceCall

/-- `js_modules_create` in a managed runtime: the root, if it starts. -/
def modulesCreate (storage : Nat → ProjectFiles) (scriptPath : CString) : Option CString :=
  match projectRootFromScript scriptPath with
  | none => none
  | some root =>
    match afterLast 47 root.bytes with
    | none => none
    | some digest =>
      if (memberFromScript scriptPath root).isSome &&
          verifyManagedProject sha256 json storage scriptPath (.ofBytes digest) 0 0 then some root
      else none

/-- The source texts that a managed workload executes, from its creation on. -/
def ManagedRun.executed (run : ManagedRun) : List (List UInt8) :=
  if !verifyManagedProject sha256 json run.creation run.scriptPath run.projectDigest
      run.sourceBytes run.moduleCount then []
  else
    match modulesCreate sha256 json run.start run.scriptPath with
    | none => []
    | some root =>
      if !run.accounted then []
      else
        (run.calls.foldl (fun runtime call => call.step sha256 json runtime)
          (execFile ⟨root, [], []⟩ run.entry run.scriptPath)).executed

end Running

end PoisonedOS
