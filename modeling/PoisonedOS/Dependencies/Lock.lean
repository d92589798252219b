import PoisonedOS.Archive.Builder
import PoisonedOS.Dependencies.Graph

/-!
# Dependency locks

A lock names the vendored dependencies of a project, with their files and digests. The dashboard
reads it with `validateJavaScriptLock`, which checks each value that `JSON.parse` made of it and
returns a lock made of the checked values. That lock is printed again.

What is read of a lock that was made so is that lock: each check is one of what is in it.
-/

namespace PoisonedOS.DependencyLock

open PackageBuilder (chars isDigest textLe hexdigest)

/-! ## Values -/

/-- What `JSON.parse` makes of a text. A number is known by the integer that it is, if any; the
keys of an object are distinct. -/
inductive Document where
  | null
  | bool (value : Bool)
  | number (integral : Option Int)
  | text (value : List Char)
  | array (elements : List Document)
  | object (members : List (String × Document))

/-- The value is a text. -/
def isText (text : List Char) : Document → Bool
  | .text value => value == text
  | _ => false

/-- A string. -/
def textOf : Document → Option (List Char)
  | .text value => some value
  | _ => none

/-- `exactKeys`. -/
def exactKeys (members : List (String × Document)) (keys : List String) : Bool :=
  members.length == keys.length && keys.all fun key => (members.lookup key).isSome

/-! ## Names, paths and digests -/

/-- A lower-case letter or a digit. -/
def isLowerOrDigit (letter : Char) : Bool := letter.isLower || letter.isDigit

/-- `[a-z0-9][a-z0-9._-]*`. -/
def isNamePart : List Char → Bool
  | [] => false
  | first :: rest =>
    isLowerOrDigit first && rest.all fun letter => isLowerOrDigit letter || letter ∈ chars "._-"

/-- `NAME`. -/
def isName (text : List Char) : Bool :=
  match text.splitOn '/' with
  | [name] => isNamePart name
  | ['@' :: scope, name] => isNamePart scope && isNamePart name
  | _ => false

def isWord (others : List Char) : List Char → Bool
  | [] => false
  | first :: rest =>
    first.isAlphanum && decide (rest.length ≤ 127) &&
      rest.all fun letter => letter.isAlphanum || letter ∈ others

/-- `[A-Za-z0-9@_+-][A-Za-z0-9@._+-]*`. -/
def isSegment : List Char → Bool
  | [] => false
  | first :: rest =>
    (first.isAlphanum || first ∈ chars "@_+-") &&
      rest.all fun letter => letter.isAlphanum || letter ∈ chars "@._+-"

/-- The suffixes of files that can be run. -/
def executableSuffixes : List (List Char) := [".js", ".mjs", ".cjs"].map chars

/-- The text ends with one of the suffixes. -/
def endsWithOne (suffixes : List (List Char)) (text : List Char) : Bool :=
  suffixes.any fun suffix => suffix.isSuffixOf text

/-- The last segment of `SOURCE_PATH`: a segment before a suffix. -/
def isSourceName (name : List Char) : Bool :=
  (executableSuffixes ++ [".ts", ".json"].map chars).any fun suffix =>
    suffix.isSuffixOf name && isSegment (name.take (name.length - suffix.length))

/-- `safeSourcePath`. A path that `SOURCE_PATH` takes is ASCII, of as many units as characters. -/
def safeSourcePath (path : List Char) : Bool :=
  decide (path.length ≤ 160) && (path.splitOn '/').dropLast.all isSegment &&
    ((path.splitOn '/').getLast?).any isSourceName &&
    (path.splitOn '/').all fun segment => segment != chars "." && segment != chars ".."

/-- The value of a character of base64. -/
def base64Value (letter : Char) : Option Nat :=
  if letter.isUpper then some (letter.toNat - 65)
  else if letter.isLower then some (letter.toNat - 71)
  else if letter.isDigit then some (letter.toNat + 4)
  else if letter = '+' then some 62
  else if letter = '/' then some 63
  else none

/-- `atob` of texts whose last group has three characters and `=`. -/
def decodeBase64 : List Char → Option (List UInt8)
  | [first, second, third, '='] => do
    let a ← base64Value first
    let b ← base64Value second
    let c ← base64Value third
    return [UInt8.ofNat (a * 4 + b / 16), UInt8.ofNat (b % 16 * 16 + c / 4)]
  | first :: second :: third :: fourth :: rest => do
    let a ← base64Value first
    let b ← base64Value second
    let c ← base64Value third
    let d ← base64Value fourth
    let later ← decodeBase64 rest
    return UInt8.ofNat (a * 4 + b / 16) :: UInt8.ofNat (b % 16 * 16 + c / 4) ::
      UInt8.ofNat (c % 4 * 64 + d) :: later
  | _ => none

/-- `integrityBytes`: the digest after `sha256-`, in 43 characters of base64 and `=`. -/
def integrityBytes (value : List Char) : Option (List UInt8) :=
  if (chars "sha256-").isPrefixOf value && (value.drop 7).length == 44 then
    (decodeBase64 (value.drop 7)).filter fun decoded => decoded.length == 32
  else none

/-! ## The lock -/

/-- `JavaScriptDependencyFile`. -/
structure DependencyFile where
  path : List Char
  sha256 : List Char
  bytes : Nat

/-- `JavaScriptDependency`; the source is kept as it was read. -/
structure Dependency where
  name : List Char
  version : List Char
  main : List Char
  integrity : List Char
  source : Document
  license : List Char
  dependencies : List (List Char)
  files : List DependencyFile

/-- `JavaScriptLock`. -/
structure JavaScriptLock where
  entrypoint : List Char
  dependencies : List Dependency
  allow : Option (List (List Char))

/-- `SCHEMA`. -/
def schema : List Char := chars "poison.javascript.lock/v1"

/-- `RUNTIME`. -/
def runtime : List Char := chars "poison-mjs-1"

/-- The one module that may be allowed. -/
def nativeSdk : List Char := chars "@flipperdevices/fz-sdk"

/-- `MAX_DEPENDENCIES` and `MAX_FILES`. -/
def maxEntries : Nat := 256

/-- `MAX_FILE_BYTES`. -/
def maxFileBytes : Nat := 256 * 1024

/-- `LOCK_KEYS`. -/
def lockKeys : List String := ["dependencies", "entrypoint", "runtime", "schema"]

/-- `DEPENDENCY_KEYS`. -/
def dependencyKeys : List String :=
  ["dependencies", "files", "integrity", "license", "main", "name", "runtime", "source", "version"]

/-- `FILE_KEYS`. -/
def fileKeys : List String := ["bytes", "path", "sha256"]

mutual

/-- `String(source)` is one of the sources. The string of an array joins those of its elements
with commas, and no source has a comma. -/
def sourceIncluded : Document → Bool
  | .text value => (["registry", "workspace", "bundled"].map chars).contains value
  | .array elements => onlySourceIncluded elements
  | _ => false

def onlySourceIncluded : List Document → Bool
  | [element] => sourceIncluded element
  | _ => false

end

def DependencyFile.isValid (paths : List (List Char)) (file : DependencyFile) : Bool :=
  safeSourcePath file.path && !paths.contains file.path && isDigest file.sha256 &&
    decide (file.bytes ≤ maxFileBytes)

def Dependency.isValid (names : List (List Char)) (dependency : Dependency) : Bool :=
  isName dependency.name && !names.contains dependency.name &&
    isWord (chars "._+-") dependency.version && sourceIncluded dependency.source &&
    isWord (chars ".()+- ") dependency.license &&
    decide (dependency.dependencies.length ≤ maxEntries) && dependency.dependencies.all isName &&
    decide dependency.dependencies.Nodup && decide (1 ≤ dependency.files.length) &&
    decide (dependency.files.length ≤ maxEntries) &&
    (integrityBytes dependency.integrity).isSome && safeSourcePath dependency.main &&
    endsWithOne executableSuffixes dependency.main &&
    (dependency.files.map DependencyFile.path).contains dependency.main

/-- The checks of a lock besides those of its dependencies. -/
def JavaScriptLock.isValid (lock : JavaScriptLock) : Bool :=
  safeSourcePath lock.entrypoint && endsWithOne executableSuffixes lock.entrypoint &&
    decide (lock.dependencies.length ≤ maxEntries) &&
    lock.allow.all (fun allow => decide (allow.length ≤ 32) && allow.all (· == nativeSdk)) &&
    decide ((lock.dependencies.map fun dependency => dependency.files.length).sum ≤ maxEntries) &&
    validateGraph (lock.dependencies.map fun dependency =>
      ⟨dependency.name, dependency.dependencies⟩)

/-! ## Reading -/

/-- A file of a dependency. -/
def fileOf (paths : List (List Char)) : Document → Option DependencyFile
  | .object members =>
    match members.lookup "path", members.lookup "sha256", members.lookup "bytes" with
    | some (.text path), some (.text sha256), some (.number (some bytes)) =>
      let file : DependencyFile := ⟨path, sha256, bytes.toNat⟩
      if exactKeys members fileKeys && decide (0 ≤ bytes) && file.isValid paths then some file
      else none
    | _, _, _ => none
  | _ => none

/-- The files of a dependency. -/
def filesOf (paths : List (List Char)) : List Document → Option (List DependencyFile)
  | [] => some []
  | candidate :: candidates =>
    match fileOf paths candidate with
    | none => none
    | some file => (filesOf (file.path :: paths) candidates).map (file :: ·)

/-- A dependency, after those with these names. -/
def dependencyOf (names : List (List Char)) : Document → Option Dependency
  | .object members => do
    let name ← (members.lookup "name").bind textOf
    let version ← (members.lookup "version").bind textOf
    let main ← (members.lookup "main").bind textOf
    let integrity ← (members.lookup "integrity").bind textOf
    let source ← members.lookup "source"
    let license ← (members.lookup "license").bind textOf
    let dependencies ← (members.lookup "dependencies").bind textsOf
    let files ← (members.lookup "files").bind fun
      | .array candidates => filesOf [] candidates
      | _ => none
    let dependency : Dependency :=
      { name, version, main, integrity, source, license, dependencies, files }
    if exactKeys members dependencyKeys && (members.lookup "runtime").any (isText runtime) &&
        dependency.isValid names then
      some dependency
    else none
  | _ => none
where
  /-- The strings of an array. -/
  textsOf : Document → Option (List (List Char))
    | .array elements => elements.mapM textOf
    | _ => none

/-- The dependencies of a lock. -/
def dependenciesOf (names : List (List Char)) : List Document → Option (List Dependency)
  | [] => some []
  | candidate :: candidates =>
    match dependencyOf names candidate with
    | none => none
    | some dependency =>
      (dependenciesOf (dependency.name :: names) candidates).map (dependency :: ·)

/-- The allowed modules, if there are any. -/
def allowOf : Option Document → Option (Option (List (List Char)))
  | none => some none
  | some (.array elements) => (elements.mapM textOf).map some
  | some _ => none

/-- The rest of `validateJavaScriptLock`, with what was parsed. -/
def lockOf : Document → Option JavaScriptLock
  | .object members => do
    let entrypoint ← (members.lookup "entrypoint").bind textOf
    let allow ← allowOf (members.lookup "allow")
    let dependencies ← (members.lookup "dependencies").bind fun
      | .array candidates => dependenciesOf [] candidates
      | _ => none
    let lock : JavaScriptLock := { entrypoint, dependencies, allow }
    if lockKeys.all (fun key => (members.lookup key).isSome) &&
        members.all (fun member => ("allow" :: lockKeys).contains member.1) &&
        (members.lookup "schema").any (isText schema) &&
        (members.lookup "runtime").any (isText runtime) && lock.isValid then
      some lock
    else none
  | _ => none

/-! ## What is printed -/

/-- A file as it is printed. -/
def DependencyFile.document (file : DependencyFile) : Document :=
  .object [("path", .text file.path), ("sha256", .text file.sha256),
    ("bytes", .number (some file.bytes))]

/-- A dependency as it is printed. -/
def Dependency.document (dependency : Dependency) : Document :=
  .object [("name", .text dependency.name), ("version", .text dependency.version),
    ("main", .text dependency.main), ("integrity", .text dependency.integrity),
    ("source", dependency.source), ("license", .text dependency.license),
    ("runtime", .text runtime), ("dependencies", .array (dependency.dependencies.map .text)),
    ("files", .array (dependency.files.map DependencyFile.document))]

/-- The lock that `validateJavaScriptLock` returns. -/
def JavaScriptLock.document (lock : JavaScriptLock) : Document :=
  .object ([("schema", .text schema), ("runtime", .text runtime),
    ("entrypoint", .text lock.entrypoint),
    ("dependencies", .array (lock.dependencies.map Dependency.document))] ++
    lock.allow.toList.map fun allow => ("allow", .array (allow.map .text)))

/-! ## Reading what is printed -/

theorem mapM_textOf (texts : List (List Char)) :
    texts.mapM (textOf ∘ Document.text) = some texts := by
  induction texts with
  | nil => rfl
  | cons text texts ih =>
    rw [List.mapM_cons, ih]
    rfl

theorem fileOf_document (paths : List (List Char)) (file : DependencyFile) :
    fileOf paths file.document = if file.isValid paths then some file else none := by
  simp [fileOf, DependencyFile.document, exactKeys, fileKeys, List.lookup_cons, List.lookup_nil]

theorem isValid_of_fileOf {paths : List (List Char)} {document : Document} {file : DependencyFile}
    (read : fileOf paths document = some file) : file.isValid paths = true := by
  rw [fileOf.eq_def] at read
  split at read
  · split at read
    · dsimp only at read
      split at read
      · rename_i checked
        obtain rfl := Option.some.inj read
        exact (Bool.and_eq_true _ _ ▸ checked).2
      · cases read
    · cases read
  · cases read

/-- Files that were read are read again. -/
theorem filesOf_documents {paths : List (List Char)} {candidates : List Document}
    {files : List DependencyFile} (read : filesOf paths candidates = some files) :
    filesOf paths (files.map DependencyFile.document) = some files := by
  induction candidates generalizing paths files with
  | nil =>
    obtain rfl := Option.some.inj read
    rfl
  | cons candidate candidates ih =>
    rw [filesOf] at read
    split at read
    · cases read
    rename_i file isFile
    obtain ⟨others, isOthers, rfl⟩ := Option.map_eq_some_iff.mp read
    rw [List.map_cons, filesOf, fileOf_document, if_pos (isValid_of_fileOf isFile)]
    dsimp only
    rw [ih isOthers]
    rfl

variable {names : List (List Char)}

theorem dependencyOf_document {dependency : Dependency}
    (files : filesOf [] (dependency.files.map DependencyFile.document) = some dependency.files) :
    dependencyOf names dependency.document =
      if dependency.isValid names then some dependency else none := by
  simp [dependencyOf, dependencyOf.textsOf, Dependency.document, exactKeys, dependencyKeys,
    List.lookup_cons, List.lookup_nil, textOf, mapM_textOf, files, isText]

/-- What is known of a dependency that was read. -/
theorem read_dependency {document : Document} {dependency : Dependency}
    (read : dependencyOf names document = some dependency) :
    dependency.isValid names = true ∧
      filesOf [] (dependency.files.map DependencyFile.document) = some dependency.files := by
  rw [dependencyOf.eq_def] at read
  split at read
  · simp only [Option.bind_eq_bind, Option.bind_eq_some_iff] at read
    obtain ⟨name, -, version, -, main, -, integrity, -, source, -, license, -, dependencies, -,
      files, isFiles, checked⟩ := read
    split at checked
    · rename_i valid
      obtain rfl := Option.some.inj checked
      obtain ⟨candidates, -, found⟩ := isFiles
      refine ⟨(Bool.and_eq_true _ _ ▸ valid).2, ?_⟩
      split at found
      · exact filesOf_documents found
      · cases found
    · cases checked
  · cases read

/-- Dependencies that were read are read again. -/
theorem dependenciesOf_documents {candidates : List Document} {dependencies : List Dependency}
    (read : dependenciesOf names candidates = some dependencies) :
    dependenciesOf names (dependencies.map Dependency.document) = some dependencies := by
  induction candidates generalizing names dependencies with
  | nil =>
    obtain rfl := Option.some.inj read
    rfl
  | cons candidate candidates ih =>
    rw [dependenciesOf] at read
    split at read
    · cases read
    rename_i dependency isDependency
    obtain ⟨others, isOthers, rfl⟩ := Option.map_eq_some_iff.mp read
    obtain ⟨valid, files⟩ := read_dependency isDependency
    rw [List.map_cons, dependenciesOf, dependencyOf_document files, if_pos valid]
    dsimp only
    rw [ih isOthers]
    rfl

theorem lockOf_documents {lock : JavaScriptLock}
    (dependencies : dependenciesOf [] (lock.dependencies.map Dependency.document) =
      some lock.dependencies) :
    lockOf lock.document = if lock.isValid then some lock else none := by
  obtain ⟨entrypoint, others, allow⟩ := lock
  cases allow with
  | none =>
    simp [lockOf, JavaScriptLock.document, lockKeys, List.lookup_cons, List.lookup_nil, textOf, isText, allowOf,
      dependencies]
  | some allow =>
    simp [lockOf, JavaScriptLock.document, lockKeys, List.lookup_cons, List.lookup_nil, textOf, isText, allowOf,
      dependencies, mapM_textOf]

/-- A lock that was read is read again from what it is printed as. -/
theorem lockOf_document {document : Document} {lock : JavaScriptLock}
    (read : lockOf document = some lock) : lockOf lock.document = some lock := by
  rw [lockOf.eq_def] at read
  split at read
  · simp only [Option.bind_eq_bind, Option.bind_eq_some_iff] at read
    obtain ⟨entrypoint, -, allow, -, dependencies, ⟨candidates, -, found⟩, checked⟩ := read
    split at checked
    · rename_i valid
      obtain rfl := Option.some.inj checked
      have again : dependenciesOf [] (dependencies.map Dependency.document) =
          some dependencies := by
        split at found
        · exact dependenciesOf_documents found
        · cases found
      rw [lockOf_documents again, if_pos (Bool.and_eq_true _ _ ▸ valid).2]
    · cases checked
  · cases read

end PoisonedOS.DependencyLock
