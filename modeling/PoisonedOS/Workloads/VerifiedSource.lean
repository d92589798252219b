import Mathlib.Data.List.ReduceOption
import PoisonedOS.Library.Decimal
import PoisonedOS.Library.Sha256
import PoisonedOS.Workloads.ProjectSource

/-!
# Executed source and verified source

What the manifest of a project lists was verified when the script starts. Of a module that the
script asks for nothing is executed, since its path is not resolved. The text of the entry script
is the verified one where it is not written between its verification and its execution, no
manifest is written between being read and being hashed, and it contains no NUL byte; `load`
executes any file.
-/

namespace PoisonedOS

/-- A text is the content of a member that the `project.json` with this digest lists. -/
def VerifiedSource (sha256 : List UInt8 → Digest) (json : ProjectJson) (projectDigest : CString)
    (text : List UInt8) : Prop :=
  ∃ manifest index member, sha256Text sha256 manifest = projectDigest ∧
    json.member manifest index = some (some member) ∧ member.sha256 = sha256Text sha256 text

section Verification

variable {sha256 : List UInt8 → Digest} {json : ProjectJson} {storage : Nat → ProjectFiles}
  {scriptPath projectDigest root relative : CString} {manifest : List UInt8}

def ManifestKept (read hashed : ProjectFiles) (root : CString) : Prop :=
  read (root.within (.literal "project.json")) = hashed (root.within (.literal "project.json"))

variable {files : ProjectFiles}

theorem projectFileSha256_some {path digest : CString} {size : Nat}
    (hashed : projectFileSha256 sha256 files path size = some digest) :
    ∃ content, files path = some content ∧ content.length = size ∧
      sha256Text sha256 content = digest := by
  rw [projectFileSha256] at hashed
  cases stored : files path with
  | none =>
    rw [stored] at hashed
    cases hashed
  | some content =>
    simp only [stored] at hashed
    split at hashed
    · rename_i sized
      exact ⟨content, rfl, beq_iff_eq.mp sized, Option.some.inj hashed⟩
    · cases hashed

theorem readSize_some {path : CString} {size : Nat} {read : List UInt8}
    (isRead : readSize files path size = some read) :
    ∃ content, files path = some content ∧ read = content.take size ∧ read.length = size := by
  rw [readSize] at isRead
  cases stored : files path with
  | none =>
    rw [stored] at isRead
    cases isRead
  | some content =>
    simp only [stored] at isRead
    split at isRead
    · rename_i enough
      obtain rfl := Option.some.inj isRead
      exact ⟨content, rfl, rfl, List.length_take_of_le enough⟩
    · cases isRead

/-- A manifest is loaded from the directory that its digest names. -/
theorem manifestLoad_some
    (loaded : manifestLoad sha256 storage scriptPath projectDigest = some (root, manifest)) :
    projectRootFromScript scriptPath = some root ∧
      afterLast 47 root.bytes = some projectDigest.bytes ∧
      (ManifestKept (storage 1) (storage 2) root → sha256Text sha256 manifest = projectDigest) := by
  rw [manifestLoad] at loaded
  cases found : projectRootFromScript scriptPath with
  | none =>
    rw [found] at loaded
    cases loaded
  | some place =>
    simp only [found] at loaded
    split at loaded
    · cases loaded
    rename_i named
    simp only [Bool.or_eq_true, not_or, bne_iff_ne, ne_eq, Classical.not_not] at named
    split at loaded
    · cases loaded
    rename_i content read
    split at loaded
    · rename_i hashed
      rw [Option.some.injEq, Prod.mk.injEq] at loaded
      obtain ⟨rfl, rfl⟩ := loaded
      refine ⟨rfl, named.1.2, fun kept => ?_⟩
      obtain ⟨whole, stored, sized, digest⟩ := projectFileSha256_some (beq_iff_eq.mp hashed)
      rw [readBounded] at read
      split at read
      · cases read
      split at read
      · cases read
      obtain ⟨opened, storedToo, rfl, length⟩ := readSize_some read
      rw [kept, stored] at storedToo
      obtain rfl := Option.some.inj storedToo
      rw [← digest, List.take_of_length_le (by omega)]
    · cases loaded

theorem mem_projectMembers {index : Nat} {element : Option ProjectMember}
    (listed : (projectMembers json manifest)[index]? = some element) :
    ∃ place, json.member manifest place = some element := by
  have inside := List.mem_of_getElem? listed
  rw [projectMembers, List.mem_filterMap] at inside
  obtain ⟨found, taken, rfl⟩ := inside
  have made := (List.takeWhile_prefix _).subset taken
  obtain ⟨place, -, same⟩ := List.mem_map.mp made
  exact ⟨place, same⟩

/-- The descriptor of a member is one that the manifest lists, under its path. -/
theorem memberDescriptor_some {member : ProjectMember}
    (described : memberDescriptor json manifest relative = some member) :
    member.path = relative ∧ ∃ place, json.member manifest place = some (some member) := by
  simp only [memberDescriptor] at described
  split at described
  · cases described
  split at described
  · rename_i found only
    obtain rfl := Option.some.inj described
    have inside : found ∈ (projectMembers json manifest).reduceOption.filter
        fun member => member.path == relative := by
      rw [only]
      exact List.mem_cons_self
    obtain ⟨listed, named⟩ := List.mem_filter.mp inside
    rw [List.reduceOption_mem_iff] at listed
    obtain ⟨index, bound, same⟩ := List.getElem_of_mem listed
    exact ⟨beq_iff_eq.mp named,
      mem_projectMembers (List.getElem?_eq_some_iff.mpr ⟨bound, same⟩)⟩
  · cases described

/-- A member of a script's directory has the path of the script. -/
theorem memberFromScript_within
    (isMember : memberFromScript scriptPath root = some relative) :
    root.within relative = scriptPath := by
  rw [memberFromScript] at isMember
  split at isMember
  · rename_i valid
    simp only [Bool.and_eq_true, CString.startsWith] at valid
    obtain ⟨rest, same⟩ := List.isPrefixOf_iff_prefix.mp valid.1.1
    obtain rfl := Option.some.inj isMember
    have free : (0 : UInt8) ∉ scriptPath.bytes.drop (root.append (.literal "/")).length :=
      fun inside => scriptPath.noNul (List.mem_of_mem_drop inside)
    refine CString.ext ?_
    change (root.append (.literal "/")).bytes ++ (CString.ofBytes _).bytes = scriptPath.bytes
    rw [CString.ofBytes_bytes free, ← same, CString.length, List.drop_left]
  · cases isMember

theorem memberVerified_listed {member : ProjectMember}
    (verified : memberVerified sha256 json files root manifest (some member) = true) :
    ∃ content index listed, files (root.within member.path) = some content ∧
      json.member manifest index = some (some listed) ∧
      listed.sha256 = sha256Text sha256 content := by
  simp only [memberVerified, Bool.and_eq_true, beq_iff_eq] at verified
  have valid := verified.2
  rw [memberFileValid] at valid
  split at valid
  · cases valid
  rename_i described found
  split at valid
  · rename_i hashed
    simp only [Bool.and_eq_true, beq_iff_eq] at hashed
    obtain ⟨content, stored, -, digest⟩ := projectFileSha256_some hashed.2
    obtain ⟨-, index, listed⟩ := memberDescriptor_some found
    exact ⟨content, index, described, stored, listed, digest.symm⟩
  · cases valid

/-- The entry script of a verified project is a member, and what it was when it was verified is
listed. -/
theorem verifyManagedProject_entry {sourceBytes moduleCount : Nat}
    (verified : verifyManagedProject sha256 json storage scriptPath projectDigest sourceBytes
      moduleCount = true) :
    ∃ root manifest index member content place listed,
      manifestLoad sha256 storage scriptPath projectDigest = some (root, manifest) ∧
      (projectMembers json manifest)[index]? = some (some member) ∧
      root.within member.path = scriptPath ∧
      storage (3 + index) scriptPath = some content ∧
      json.member manifest place = some (some listed) ∧
      listed.sha256 = sha256Text sha256 content := by
  rw [verifyManagedProject] at verified
  split at verified
  · cases verified
  rename_i root manifest loaded
  split at verified
  · cases verified
  rename_i header isHeader
  simp only [Bool.and_eq_true, beq_iff_eq, List.all_eq_true, List.any_eq_true] at verified
  obtain ⟨⟨⟨⟨⟨⟨⟨⟨-, script⟩, all⟩, -⟩, -⟩, -⟩, entry⟩, -⟩, -⟩ := verified
  obtain ⟨member, inside, named⟩ := entry
  rw [List.reduceOption_mem_iff] at inside
  obtain ⟨index, bound, same⟩ := List.getElem_of_mem inside
  have listed : (projectMembers json manifest)[index]? = some (some member) :=
    List.getElem?_eq_some_iff.mpr ⟨bound, same⟩
  have path := memberFromScript_within script
  rw [← named] at path
  have checked := all (some member, index) (by
    rw [List.mem_zipIdx_iff_getElem?]
    exact listed)
  obtain ⟨content, place, found, stored, isListed, digest⟩ := memberVerified_listed checked
  rw [path] at stored
  exact ⟨root, manifest, index, member, content, place, found, loaded, listed, path, stored,
    isListed, digest⟩

end Verification

/-! ## Runs -/

theorem executedText_of_free {content : List UInt8} (free : (0 : UInt8) ∉ content) :
    executedText content = content :=
  CString.ofBytes_bytes free

/-- A module that is asked for is not executed. -/
theorem sourceRequire_eq (sha256 : List UInt8 → Digest) (json : ProjectJson)
    (runtime : ManagedRuntime) (name base : CString) (accounted : Bool)
    (storage : Nat → ProjectFiles) :
    sourceRequire sha256 json runtime name base accounted storage = runtime := by
  rw [sourceRequire]
  cases accepted : normalizeSourceRequest base name with
  | none => rfl
  | some normalized =>
    dsimp only
    rw [source_not_found accepted storage runtime.root]

/-- A call of the script finds no file over `load` that it has not executed before. -/
def SourceCall.Undisturbed : SourceCall → Prop
  | .require _ _ _ _ => True
  | .load path known files => known = true ∨ files path = none

section Runs

variable (sha256 : List UInt8 → Digest) (json : ProjectJson)

/-- Nobody writes to the entry script between its verification and its execution, nor to a manifest
between its being read and being hashed; it contains no NUL byte, and the script does not load
other files. -/
structure ManagedRun.Undisturbed (run : ManagedRun) : Prop where
  manifest : ∀ root, projectRootFromScript run.scriptPath = some root →
    ManifestKept (run.start 1) (run.start 2) root
  entry : ∀ root manifest index member,
    manifestLoad sha256 run.start run.scriptPath run.projectDigest = some (root, manifest) →
    (projectMembers json manifest)[index]? = some (some member) →
    root.within member.path = run.scriptPath →
    run.start (3 + index) run.scriptPath = run.entry run.scriptPath
  free : ∀ content, run.entry run.scriptPath = some content → (0 : UInt8) ∉ content
  calls : ∀ call ∈ run.calls, call.Undisturbed

variable {sha256 json} {runtime : ManagedRuntime} {projectDigest : CString}

/-- A script whose source texts were all verified. -/
def ManagedRuntime.Sound (sha256 : List UInt8 → Digest) (json : ProjectJson)
    (projectDigest : CString) (runtime : ManagedRuntime) : Prop :=
  ∀ text ∈ runtime.executed, VerifiedSource sha256 json projectDigest text

theorem ManagedRuntime.Sound.step (sound : runtime.Sound sha256 json projectDigest)
    {call : SourceCall} (undisturbed : call.Undisturbed) :
    (call.step sha256 json runtime).Sound sha256 json projectDigest := by
  cases call with
  | require name base accounted storage =>
    rw [SourceCall.step, sourceRequire_eq]
    exact sound
  | load path known files =>
    rw [SourceCall.step]
    split
    · exact sound
    · rename_i unknown
      rw [execFile, undisturbed.resolve_left unknown]
      exact sound

theorem ManagedRun.entry_verified {run : ManagedRun} (undisturbed : run.Undisturbed sha256 json)
    (root : CString) {sourceBytes moduleCount : Nat}
    (verified : verifyManagedProject sha256 json run.start run.scriptPath run.projectDigest
      sourceBytes moduleCount = true) :
    (execFile ⟨root, [], []⟩ run.entry run.scriptPath).Sound sha256 json run.projectDigest := by
  obtain ⟨place, manifest, index, member, content, position, listed, loaded, isMember, path, stored,
    isListed, digest⟩ := verifyManagedProject_entry verified
  have kept := undisturbed.entry place manifest index member loaded isMember path
  rw [stored] at kept
  have hashed := (manifestLoad_some loaded).2.2
    (undisturbed.manifest place (manifestLoad_some loaded).1)
  intro text executed
  rw [execFile, ← kept] at executed
  obtain rfl := List.mem_singleton.mp executed
  rw [executedText_of_free (undisturbed.free content kept.symm)]
  exact ⟨manifest, position, listed, hashed, isListed, digest⟩

/-- Every source text that such a run executes was verified.

Proof: the entry script was verified when the runtime started and is executed as it was then; by
induction on the calls nothing else is executed. -/
theorem executed_verified (sha256 : List UInt8 → Digest) (json : ProjectJson) (run : ManagedRun)
    (undisturbed : run.Undisturbed sha256 json) (text : List UInt8)
    (executed : text ∈ run.executed sha256 json) :
    VerifiedSource sha256 json run.projectDigest text := by
  rw [ManagedRun.executed] at executed
  split at executed
  · cases executed
  rename_i created
  rw [Bool.not_eq_true', Bool.not_eq_false] at created
  -- The workload was created for the digest that names the directory.
  obtain ⟨root, manifest, -, -, -, -, -, loaded, -⟩ := verifyManagedProject_entry created
  obtain ⟨rooted, named, -⟩ := manifestLoad_some loaded
  split at executed
  · cases executed
  rename_i place made
  split at executed
  · cases executed
  simp only [modulesCreate, rooted, named] at made
  split at made
  · rename_i started
    obtain rfl := Option.some.inj made
    rw [Bool.and_eq_true] at started
    have digest : CString.ofBytes run.projectDigest.bytes = run.projectDigest :=
      CString.ext (CString.ofBytes_bytes run.projectDigest.noNul)
    rw [digest] at started
    have sound := List.foldlRecOn
      (motive := fun runtime : ManagedRuntime => runtime.Sound sha256 json run.projectDigest)
      run.calls (fun runtime call => call.step sha256 json runtime)
      (run.entry_verified undisturbed root started.2)
      fun runtime sound call called => sound.step (undisturbed.calls call called)
    exact sound text executed
  · cases made

end Runs

/-! ## A project -/

/-- SHA-256 itself. -/
def projectSha256 (content : List UInt8) : Digest :=
  ⟨Sha256.digest content, Sha256.length_digest content⟩

/-- A member of a content. -/
def ProjectMember.of (path : String) (content : List UInt8) : ProjectMember :=
  ⟨.literal path, sha256Text projectSha256 content, content.length⟩

/-- An entry of `files` as it is written. -/
def ProjectMember.render (member : ProjectMember) : List UInt8 :=
  (CString.literal "\x7b\"path\":\"").bytes ++ member.path.bytes ++
    (CString.literal "\",\"sha256\":\"").bytes ++ member.sha256.bytes ++
    (CString.literal "\",\"bytes\":").bytes ++ Decimal.digits member.bytes ++
    (CString.literal "\x7d").bytes

/-- A `poison-js.lock`. -/
def sampleLockJson : List UInt8 :=
  (CString.literal "\x7b\"schema\":\"poison.javascript.lock/v1\",").bytes ++
    (CString.literal "\"runtime\":\"poison-mjs-1\",").bytes ++
    (CString.literal "\"entrypoint\":\"main.js\",\"dependencies\":[]\x7d").bytes

/-- The members of a project with an entry script and a lock file. -/
def sampleMembers (entry : List UInt8) : List ProjectMember :=
  [.of "main.js" entry, .of "poison-js.lock" sampleLockJson]

/-- Its `project.json`. -/
def sampleProjectJson (entry : List UInt8) : List UInt8 :=
  (CString.literal "\x7b\"format\":1,\"runtime\":\"poison-mjs-1\",").bytes ++
    (CString.literal "\"entrypoint\":\"main.js\",").bytes ++
    (CString.literal "\"dependencies\":\"poison-js.lock\",\"files\":[").bytes ++
    [44].intercalate ((sampleMembers entry).map ProjectMember.render) ++
    (CString.literal "]\x7d").bytes

/-- What the parser finds in these two texts. -/
def sampleJson (entry : List UInt8) : ProjectJson where
  header text :=
    if text = sampleProjectJson entry then
      some ⟨1, .literal "poison-mjs-1", .literal "main.js", .literal "poison-js.lock"⟩
    else none
  member text index :=
    if text = sampleProjectJson entry then (sampleMembers entry)[index]?.map some else none
  lock text :=
    if text = sampleLockJson then
      some ⟨.literal "poison.javascript.lock/v1", .literal "poison-mjs-1", .literal "main.js"⟩
    else none

def sampleRoot (entry : List UInt8) : CString :=
  (CString.literal "/ext/scripts/p/versions/").append
    (sha256Text projectSha256 (sampleProjectJson entry))

/-- The files of the project, with a content of the entry script. -/
def sampleFiles (entry written : List UInt8) : ProjectFiles := fun path =>
  if path = (sampleRoot entry).within (.literal "project.json") then some (sampleProjectJson entry)
  else if path = (sampleRoot entry).within (.literal "main.js") then some written
  else if path = (sampleRoot entry).within (.literal "poison-js.lock") then some sampleLockJson
  else none

/-- A run of the project whose entry script is written before it is executed. -/
def sampleRun (entry written : List UInt8) (calls : List SourceCall) : ManagedRun where
  scriptPath := (sampleRoot entry).within (.literal "main.js")
  projectDigest := sha256Text projectSha256 (sampleProjectJson entry)
  sourceBytes := entry.length
  moduleCount := 1
  creation _ := sampleFiles entry entry
  start _ := sampleFiles entry entry
  accounted := true
  entry := sampleFiles entry written
  calls

/-- The script asks for a module and for a file that is not there. -/
def sampleCalls : List SourceCall :=
  [.require (.literal "./main.js") (.literal "") true fun _ => sampleFiles [49, 59] [49, 59],
    .load (.literal "/ext/x.js") false fun _ => none]

/-- The entry script is executed as it was listed, and nothing else is. -/
theorem entry_verified_sample :
    (sampleRun [49, 59] [49, 59] sampleCalls).executed projectSha256 (sampleJson [49, 59]) =
        [[49, 59]] ∧
      VerifiedSource projectSha256 (sampleJson [49, 59])
        (sha256Text projectSha256 (sampleProjectJson [49, 59])) [49, 59] := by
  have executed : (sampleRun [49, 59] [49, 59] sampleCalls).executed projectSha256
      (sampleJson [49, 59]) = [[49, 59]] := by
    decide +kernel
  have stored : sampleFiles [49, 59] [49, 59] ((sampleRoot [49, 59]).within (.literal "main.js")) =
      some [49, 59] := by
    decide +kernel
  have undisturbed :
      (sampleRun [49, 59] [49, 59] sampleCalls).Undisturbed projectSha256 (sampleJson [49, 59]) :=
    { manifest := fun _ _ => rfl
      entry := fun _ _ _ _ _ _ _ => rfl
      free := fun content found => by
        simp only [sampleRun] at found
        rw [stored, Option.some.injEq] at found
        rw [← found]
        decide
      calls := fun call called => by
        rcases List.mem_pair.mp called with rfl | rfl
        · trivial
        · exact .inr rfl }
  refine ⟨executed, executed_verified projectSha256 (sampleJson [49, 59])
    (sampleRun [49, 59] [49, 59] sampleCalls) undisturbed [49, 59] ?_⟩
  rw [executed]
  exact List.mem_cons_self

theorem not_verified {entry text : List UInt8}
    (differs : ∀ member ∈ sampleMembers entry, member.sha256 ≠ sha256Text projectSha256 text) :
    ¬ VerifiedSource projectSha256 (sampleJson entry)
      (sha256Text projectSha256 (sampleProjectJson entry)) text := by
  rintro ⟨manifest, index, member, -, listed, digest⟩
  simp only [sampleJson] at listed
  split at listed
  · obtain ⟨found, isMember, same⟩ := Option.map_eq_some_iff.mp listed
    obtain rfl := Option.some.inj same
    exact differs found (List.mem_of_getElem? isMember) digest
  · cases listed

/-- A call of `load` for a file of no project. -/
def sampleLoad : SourceCall :=
  .load (.literal "/ext/x.js") false fun _ => some [98, 97, 100, 59]

/-- The entry script is replaced between its verification and its execution; it is executed up to
its NUL byte; and `load` executes a file of no project. -/
theorem unverified_source :
    (¬ ∀ text ∈ (sampleRun [49, 59] [98, 97, 100, 59] []).executed projectSha256
        (sampleJson [49, 59]),
      VerifiedSource projectSha256 (sampleJson [49, 59])
        (sha256Text projectSha256 (sampleProjectJson [49, 59])) text) ∧
    (¬ ∀ text ∈ (sampleRun [49, 0, 50] [49, 0, 50] []).executed projectSha256
        (sampleJson [49, 0, 50]),
      VerifiedSource projectSha256 (sampleJson [49, 0, 50])
        (sha256Text projectSha256 (sampleProjectJson [49, 0, 50])) text) ∧
    ¬ ∀ text ∈ (sampleRun [49, 59] [49, 59] [sampleLoad]).executed projectSha256
        (sampleJson [49, 59]),
      VerifiedSource projectSha256 (sampleJson [49, 59])
        (sha256Text projectSha256 (sampleProjectJson [49, 59])) text := by
  have replaced : (sampleRun [49, 59] [98, 97, 100, 59] []).executed projectSha256
      (sampleJson [49, 59]) = [[98, 97, 100, 59]] := by
    decide +kernel
  have cut : (sampleRun [49, 0, 50] [49, 0, 50] []).executed projectSha256
      (sampleJson [49, 0, 50]) = [[49]] := by
    decide +kernel
  have loaded : (sampleRun [49, 59] [49, 59] [sampleLoad]).executed projectSha256
      (sampleJson [49, 59]) = [[49, 59], [98, 97, 100, 59]] := by
    decide +kernel
  rw [replaced, cut, loaded]
  refine ⟨fun always => ?_, fun always => ?_, fun always => ?_⟩
  · exact not_verified (by decide +kernel) (always _ List.mem_cons_self)
  · exact not_verified (by decide +kernel) (always _ List.mem_cons_self)
  · exact not_verified (by decide +kernel) (always _ (List.mem_cons_of_mem _ List.mem_cons_self))

end PoisonedOS
