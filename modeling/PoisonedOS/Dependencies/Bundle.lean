import PoisonedOS.Dependencies.Lock
import PoisonedOS.Rpc.Confirmation

/-!
# Importing vendored dependencies

The dashboard imports the files of the dependencies that a lock names. Each is compared with its
digest, those of a package together with the integrity of the dependency, and decoded to text; the
texts and the lock, as it was read, become files of the project. Before a project is deployed they
are encoded and imported again.

The decoder leaves out a byte order mark at the front, so that a file with one is not encoded to
the bytes that were compared. All other files are, and the printed lock is read as it was.

`JSON.parse`, `JSON.stringify` and SHA-256 are parameters.
-/

namespace PoisonedOS.DependencyLock

open PackageBuilder (chars textLe hexdigest)

/-- `JSON.parse` and `JSON.stringify(_, null, 2)`. -/
structure JsonCodec where
  parse : List Char → Option Document
  stringify : Document → List Char

/-- `DependencyImportFile`. -/
structure ImportFile where
  path : List Char
  data : List UInt8

/-- The files of a project, as a record of texts by paths in the order in which they came. -/
abbrev ProjectRecord := List (List Char × List Char)

def assign (record : ProjectRecord) (path text : List Char) : ProjectRecord :=
  if (record.map Prod.fst).contains path then
    record.map fun entry => if entry.1 = path then (path, text) else entry
  else record ++ [(path, text)]

/-- `MAX_TOTAL_BYTES`. -/
def maxTotalBytes : Nat := 4 * 1024 * 1024

/-- The path of the lock. -/
def lockPath : List Char := chars "poison-js.lock"

/-- What paths of vendored files start with. -/
def vendorFolder : List Char := chars "vendor/"

/-- The path of a vendored file. -/
def vendorPath (dependency : Dependency) (file : DependencyFile) : List Char :=
  vendorFolder ++ (dependency.name ++ '/' :: dependency.version ++ '/' :: file.path)

/-- The dependencies by their names. -/
def sortedDependencies (lock : JavaScriptLock) : List Dependency :=
  lock.dependencies.insertionSort fun left right => textLe left.name right.name = true

/-- The files of a dependency by their paths. -/
def sortedFiles (dependency : Dependency) : List DependencyFile :=
  dependency.files.insertionSort fun left right => textLe left.path right.path = true

/-- The paths of the files of a dependency. -/
def vendorPaths (dependency : Dependency) : List (List Char) :=
  (sortedFiles dependency).map (vendorPath dependency)

/-- The paths that are expected. -/
def expectedPaths (lock : JavaScriptLock) : List (List Char) :=
  (sortedDependencies lock).flatMap vendorPaths

/-- The bytes of a file. -/
def read (files : List ImportFile) (path : List Char) : Option (List UInt8) :=
  (files.find? fun file => file.path = path).map ImportFile.data

/-- `decode` of a fatal decoder of UTF-8, which leaves out a byte order mark. -/
def decodeText (data : List UInt8) : Option (List Char) :=
  (Unicode.decodeUtf8 data).map Unicode.dropMark

/-- What the loops of an import carry. -/
structure ImportState where
  totalBytes : Nat
  chunks : List UInt8
  imported : ProjectRecord

section Import

variable (codec : JsonCodec) (sha256 : List UInt8 → Digest) (files : List ImportFile)

/-- `validateJavaScriptLock`. -/
def validateJavaScriptLock (source : List Char) : Option JavaScriptLock :=
  (codec.parse source).bind lockOf

/-- One file of a dependency. -/
def importFile (dependency : Dependency) (state : ImportState) (descriptor : DependencyFile) :
    Option ImportState :=
  match read files (vendorPath dependency descriptor) with
  | none => none
  | some data =>
    if data.length ≠ descriptor.bytes ∨ hexdigest (sha256 data).bytes ≠ descriptor.sha256 ∨
        maxTotalBytes < state.totalBytes + data.length then
      none
    else
      (decodeText data).map fun text =>
        { totalBytes := state.totalBytes + data.length
          chunks := state.chunks ++ Unicode.utf8 descriptor.path ++ 0 :: data
          imported := assign state.imported (vendorPath dependency descriptor) text }

/-- The files of a dependency and its integrity. -/
def importPackage (state : ImportState) (dependency : Dependency) : Option ImportState :=
  ((sortedFiles dependency).foldlM (importFile sha256 files dependency)
    { state with chunks := [] }).filter fun state =>
      some (sha256 state.chunks).bytes == integrityBytes dependency.integrity

/-- `importDependencyBundle`. -/
def importDependencyBundle (lockSource : List Char) : Option ProjectRecord :=
  match validateJavaScriptLock codec lockSource with
  | none => none
  | some lock =>
    if !files.all (fun file => safeSourcePath file.path) ||
        !decide (files.map ImportFile.path).Nodup then
      none
    else
      match (sortedDependencies lock).foldlM (importPackage sha256 files) ⟨0, [], []⟩ with
      | none => none
      | some state =>
        if files.length != (expectedPaths lock).dedup.length ||
            files.any (fun file => !(expectedPaths lock).contains file.path) then
          none
        else some (assign state.imported lockPath (codec.stringify lock.document ++ ['\n']))

/-- The vendored files of a record, encoded. -/
def encoded (record : ProjectRecord) : List ImportFile :=
  (record.filter fun entry => vendorFolder.isPrefixOf entry.1).map fun entry =>
    ⟨entry.1, Unicode.utf8 entry.2⟩

/-- `verifyProjectDependencies`, which may throw. -/
def verifyProjectDependencies (lockSource : Option (List Char)) (record : ProjectRecord) : Bool :=
  match lockSource with
  | none => false
  | some lockSource => (importDependencyBundle codec sha256 (encoded record) lockSource).isSome

/-- An import is stable: what it returns is verified, and imported again to the same record. -/
structure Stable (record : ProjectRecord) : Prop where
  verified : verifyProjectDependencies codec sha256 (record.lookup lockPath) record = true
  again : (record.lookup lockPath).bind (importDependencyBundle codec sha256 (encoded record)) =
    some record

end Import

/-- The bytes begin with a byte order mark. -/
def Marked (data : List UInt8) : Prop := [0xEF, 0xBB, 0xBF] <+: data

instance (data : List UInt8) : Decidable (Marked data) :=
  inferInstanceAs (Decidable ([0xEF, 0xBB, 0xBF] <+: data))

/-! ## Texts and bytes -/

variable {data : List UInt8}

theorem utf8_of_decoded {text : List Char} (decoded : Unicode.decodeUtf8 data = some text) :
    Unicode.utf8 text = data := by
  rw [Unicode.decodeUtf8, Option.map_eq_some_iff] at decoded
  obtain ⟨letters, found, rfl⟩ := decoded
  have valid : data.toByteArray.utf8Decode?.isSome = true := by rw [found]; rfl
  have same := @ByteArray.utf8Encode_get_utf8Decode? data.toByteArray valid
  simp only [found, Option.get_some] at same
  have bytes := congrArg (fun array => array.data.toList) same
  simpa [List.utf8Encode, Unicode.utf8] using bytes

theorem utf8_mark : Unicode.utf8 [Unicode.byteOrderMark] = [0xEF, 0xBB, 0xBF] := by
  decide +kernel

/-- Without a mark the text encodes the bytes it was decoded from. -/
theorem utf8_of_decodeText {text : List Char} (decoded : decodeText data = some text)
    (unmarked : ¬ Marked data) :
    Unicode.utf8 text = data := by
  rw [decodeText, Option.map_eq_some_iff] at decoded
  obtain ⟨whole, found, rfl⟩ := decoded
  have bytes := utf8_of_decoded found
  rw [Unicode.dropMark_eq_self.mpr, bytes]
  intro head
  cases whole with
  | nil => cases head
  | cons first rest =>
    obtain rfl := Option.some.inj head
    refine unmarked ⟨Unicode.utf8 rest, ?_⟩
    rw [← bytes, ← utf8_mark]
    rfl

/-- With a mark the text encodes fewer bytes. -/
theorem length_of_decodeText {text : List Char} (decoded : decodeText data = some text)
    (marked : Marked data) :
    (Unicode.utf8 text).length < data.length := by
  obtain ⟨rest, rfl⟩ := marked
  rw [decodeText, Option.map_eq_some_iff] at decoded
  obtain ⟨whole, found, rfl⟩ := decoded
  have bytes := utf8_of_decoded found
  have apart : ([0xEF, 0xBB, 0xBF] ++ rest : List UInt8).toByteArray =
      [Unicode.byteOrderMark].utf8Encode ++ rest.toByteArray := by
    rw [List.toByteArray_append, ← utf8_mark]
    rfl
  rw [Unicode.decodeUtf8, apart, ByteArray.utf8Decode?_utf8Encode_singleton_append,
    Option.map_map, Option.map_eq_some_iff] at found
  obtain ⟨letters, -, rfl⟩ := found
  have isMarked : (Array.toList ∘ fun letters => #[Unicode.byteOrderMark] ++ letters) letters =
      Unicode.byteOrderMark :: letters.toList := by
    simp
  rw [isMarked] at bytes ⊢
  rw [← bytes, Unicode.dropMark, if_pos rfl, Unicode.utf8_cons, List.length_append,
    String.length_utf8EncodeChar]
  have positive := Unicode.byteOrderMark.utf8Size_pos
  omega

/-! ## Records -/

variable {record : ProjectRecord} {path other text : List Char}

theorem keys_assign : (assign record path text).map Prod.fst =
    if (record.map Prod.fst).contains path then record.map Prod.fst
    else record.map Prod.fst ++ [path] := by
  rw [assign]
  split
  · rw [List.map_map]
    refine List.map_congr_left fun entry _ => ?_
    by_cases same : entry.1 = path
    · simp [same]
    · simp [same]
  · rw [List.map_append]
    rfl

theorem mem_assign {entry : List Char × List Char} (isEntry : entry ∈ assign record path text) :
    entry = (path, text) ∨ entry ∈ record := by
  rw [assign] at isEntry
  split at isEntry
  · obtain ⟨before, isBefore, rfl⟩ := List.mem_map.mp isEntry
    by_cases same : before.1 = path
    · exact .inl (if_pos same)
    · exact .inr (by rw [if_neg same]; exact isBefore)
  · exact (List.mem_append.mp isEntry).symm.imp_left List.mem_singleton.mp

/-! ## What an import has found -/

section Import

variable {codec : JsonCodec} {sha256 : List UInt8 → Digest} {files : List ImportFile}
  {paths : List (List Char)} {dependency : Dependency}

/-- The texts of the record are those of the files with these paths. -/
structure Recorded (files : List ImportFile) (paths : List (List Char)) (record : ProjectRecord) :
    Prop where
  keys : ∀ path, path ∈ record.map Prod.fst ↔ path ∈ paths
  distinct : (record.map Prod.fst).Nodup
  texts : ∀ entry ∈ record, ∃ data, read files entry.1 = some data ∧ decodeText data = some entry.2

def Sized (files : List ImportFile) (dependency : Dependency) : Prop :=
  ∀ descriptor ∈ sortedFiles dependency, ∃ data,
    read files (vendorPath dependency descriptor) = some data ∧ data.length = descriptor.bytes

theorem Recorded.assign (recorded : Recorded files paths record)
    (found : read files path = some data) (decoded : decodeText data = some text) :
    Recorded files (paths ++ [path]) (assign record path text) := by
  refine ⟨fun other => ?_, ?_, fun entry isEntry => ?_⟩
  · rw [keys_assign, List.mem_append, List.mem_singleton]
    split
    · rename_i there
      rw [recorded.keys]
      refine ⟨.inl, fun either => either.elim id ?_⟩
      rintro rfl
      exact (recorded.keys _).mp (List.contains_iff_mem.mp there)
    · rw [List.mem_append, List.mem_singleton, recorded.keys]
  · rw [keys_assign]
    split
    · exact recorded.distinct
    · rename_i absent
      exact List.nodup_append.mpr ⟨recorded.distinct, List.nodup_singleton _,
        fun one isOne two isTwo same => absent (List.contains_iff_mem.mpr
          (List.mem_singleton.mp isTwo ▸ same ▸ isOne))⟩
  · obtain rfl | before := mem_assign isEntry
    · exact ⟨data, found, decoded⟩
    · exact recorded.texts entry before

variable {state : ImportState}

theorem importFile_some {next : ImportState} {descriptor : DependencyFile}
    (imports : importFile sha256 files dependency state descriptor = some next) :
    ∃ data text, read files (vendorPath dependency descriptor) = some data ∧
      data.length = descriptor.bytes ∧ decodeText data = some text ∧
      next.imported = assign state.imported (vendorPath dependency descriptor) text := by
  rw [importFile] at imports
  split at imports
  · cases imports
  rename_i data found
  split at imports
  · cases imports
  rename_i checked
  obtain ⟨text, decoded, rfl⟩ := Option.map_eq_some_iff.mp imports
  exact ⟨data, text, found, not_not.mp (not_or.mp checked).1, decoded, rfl⟩

/-- The loop over the files of a dependency. -/
theorem importFiles_some {descriptors : List DependencyFile} {next : ImportState}
    (imports : descriptors.foldlM (importFile sha256 files dependency) state = some next)
    (recorded : Recorded files paths state.imported) :
    Recorded files (paths ++ descriptors.map (vendorPath dependency)) next.imported ∧
      ∀ descriptor ∈ descriptors, ∃ data,
        read files (vendorPath dependency descriptor) = some data ∧
          data.length = descriptor.bytes := by
  induction descriptors generalizing state paths with
  | nil =>
    obtain rfl := Option.some.inj imports
    rw [List.map_nil, List.append_nil]
    exact ⟨recorded, fun _ isFile => absurd isFile List.not_mem_nil⟩
  | cons descriptor rest ih =>
    rw [List.foldlM_cons] at imports
    obtain ⟨middle, first, later⟩ := Option.bind_eq_some_iff.mp imports
    obtain ⟨data, text, found, size, decoded, imported⟩ := importFile_some first
    have assigned := recorded.assign found decoded
    rw [← imported] at assigned
    obtain ⟨whole, sizes⟩ := ih later assigned
    rw [List.map_cons, List.append_cons]
    exact ⟨whole, List.forall_mem_cons.mpr ⟨⟨data, found, size⟩, sizes⟩⟩

/-- The loop over the dependencies. -/
theorem importPackages_some {dependencies : List Dependency} {next : ImportState}
    (imports : dependencies.foldlM (importPackage sha256 files) state = some next)
    (recorded : Recorded files paths state.imported) :
    Recorded files (paths ++ dependencies.flatMap vendorPaths) next.imported ∧
      ∀ dependency ∈ dependencies, Sized files dependency := by
  induction dependencies generalizing state paths with
  | nil =>
    obtain rfl := Option.some.inj imports
    rw [List.flatMap_nil, List.append_nil]
    exact ⟨recorded, fun _ isDependency => absurd isDependency List.not_mem_nil⟩
  | cons dependency rest ih =>
    rw [List.foldlM_cons] at imports
    obtain ⟨middle, first, later⟩ := Option.bind_eq_some_iff.mp imports
    have packaged := (Option.filter_eq_some_iff.mp first).1
    obtain ⟨here, sizes⟩ := importFiles_some packaged recorded
    obtain ⟨whole, others⟩ := ih later here
    rw [List.append_assoc] at whole
    exact ⟨whole, List.forall_mem_cons.mpr ⟨sizes, others⟩⟩

theorem importPackages_congr {dependencies : List Dependency} {others : List ImportFile}
    (same : ∀ path ∈ dependencies.flatMap vendorPaths, read others path = read files path) :
    dependencies.foldlM (importPackage sha256 others) state =
      dependencies.foldlM (importPackage sha256 files) state := by
  have inner {dependency : Dependency} {descriptors : List DependencyFile} {state : ImportState}
      (same : ∀ descriptor ∈ descriptors, read others (vendorPath dependency descriptor) =
        read files (vendorPath dependency descriptor)) :
      descriptors.foldlM (importFile sha256 others dependency) state =
        descriptors.foldlM (importFile sha256 files dependency) state := by
    induction descriptors generalizing state with
    | nil => rfl
    | cons descriptor rest ih =>
      obtain ⟨here, later⟩ := List.forall_mem_cons.mp same
      rw [List.foldlM_cons, List.foldlM_cons, importFile, importFile, here]
      exact congrArg _ (funext fun next => ih later)
  induction dependencies generalizing state with
  | nil => rfl
  | cons dependency rest ih =>
    have here : importPackage sha256 others state dependency =
        importPackage sha256 files state dependency := by
      rw [importPackage, importPackage, inner fun descriptor isDescriptor => same _
        (List.mem_flatMap.mpr ⟨dependency, List.mem_cons_self, List.mem_map_of_mem isDescriptor⟩)]
    rw [List.foldlM_cons, List.foldlM_cons, here]
    refine congrArg _ (funext fun next => ih fun path isPath => same path ?_)
    exact List.mem_append_right _ isPath

theorem read_of_nodup {file : ImportFile} (distinct : (files.map ImportFile.path).Nodup)
    (isFile : file ∈ files) : read files file.path = some file.data := by
  rw [read, Option.map_eq_some_iff]
  cases found : files.find? fun other => other.path = file.path with
  | none => exact absurd (decide_eq_true rfl) (List.find?_eq_none.mp found file isFile)
  | some other =>
    refine ⟨other, rfl, ?_⟩
    rw [List.inj_on_of_nodup_map distinct (List.mem_of_find?_eq_some found) isFile
      (by simpa using List.find?_some found)]

theorem read_some (found : read files path = some data) :
    ∃ file ∈ files, file.path = path ∧ file.data = data := by
  obtain ⟨file, isFile, rfl⟩ := Option.map_eq_some_iff.mp found
  exact ⟨file, List.mem_of_find?_eq_some isFile, by simpa using List.find?_some isFile, rfl⟩

/-- What is known of an import that was accepted. -/
structure Imports (codec : JsonCodec) (sha256 : List UInt8 → Digest) (files : List ImportFile)
    (lock : JavaScriptLock) (state : ImportState) : Prop where
  safe : ∀ file ∈ files, safeSourcePath file.path = true
  distinct : (files.map ImportFile.path).Nodup
  found : (sortedDependencies lock).foldlM (importPackage sha256 files) ⟨0, [], []⟩ = some state
  expected : ∀ path, path ∈ files.map ImportFile.path ↔ path ∈ expectedPaths lock

theorem importDependencyBundle_iff {lockSource : List Char} {lock : JavaScriptLock}
    (isLock : validateJavaScriptLock codec lockSource = some lock) :
    importDependencyBundle codec sha256 files lockSource = some record ↔
      ∃ state, Imports codec sha256 files lock state ∧
        record = assign state.imported lockPath (codec.stringify lock.document ++ ['\n']) := by
  have isEmpty : Recorded files [] ([] : ProjectRecord) :=
    ⟨fun _ => Iff.rfl, List.nodup_nil, fun _ isEntry => absurd isEntry List.not_mem_nil⟩
  rw [importDependencyBundle, isLock]
  dsimp only
  constructor
  · intro accepted
    split at accepted
    · cases accepted
    rename_i checked
    simp only [Bool.or_eq_true, Bool.not_eq_true', not_or, Bool.not_eq_false, List.all_eq_true,
      decide_eq_true_eq] at checked
    split at accepted
    · cases accepted
    rename_i state found
    split at accepted
    · cases accepted
    rename_i inventory
    refine ⟨state, ⟨checked.1, checked.2, found, fun path => ⟨fun isKey => ?_, fun isPath => ?_⟩⟩,
      (Option.some.inj accepted).symm⟩
    · obtain ⟨file, isFile, rfl⟩ := List.mem_map.mp isKey
      by_contra absent
      exact inventory (Bool.or_eq_true _ _ ▸ .inr (List.any_eq_true.mpr
        ⟨file, isFile, by simpa using absent⟩))
    · obtain ⟨dependency, isDependency, isPath⟩ := List.mem_flatMap.mp isPath
      obtain ⟨descriptor, isDescriptor, rfl⟩ := List.mem_map.mp isPath
      obtain ⟨data, reads, -⟩ := (importPackages_some found isEmpty).2 dependency isDependency
        descriptor isDescriptor
      obtain ⟨file, isFile, same, -⟩ := read_some reads
      exact List.mem_map.mpr ⟨file, isFile, same⟩
  · rintro ⟨state, imports, rfl⟩
    have length : files.length = (expectedPaths lock).dedup.length := by
      rw [← List.length_map ImportFile.path]
      refine ((List.perm_ext_iff_of_nodup imports.distinct (List.nodup_dedup _)).mpr ?_).length_eq
      exact fun path => (imports.expected path).trans List.mem_dedup.symm
    have contained : files.any (fun file => !(expectedPaths lock).contains file.path) = false := by
      refine List.any_eq_false.mpr fun file isFile => ?_
      simpa using (imports.expected _).mp (List.mem_map_of_mem isFile)
    rw [if_neg (by simpa using ⟨imports.safe, imports.distinct⟩), imports.found]
    dsimp only
    rw [if_neg (by rw [length, contained, bne_self_eq_false]; decide)]

/-! ## Importing again -/

theorem vendor_of_expected {lock : JavaScriptLock} (isPath : path ∈ expectedPaths lock) :
    vendorFolder.isPrefixOf path = true := by
  obtain ⟨dependency, -, isPath⟩ := List.mem_flatMap.mp isPath
  obtain ⟨descriptor, -, rfl⟩ := List.mem_map.mp isPath
  exact List.isPrefixOf_iff_prefix.mpr ⟨_, rfl⟩

theorem lock_not_vendor : vendorFolder.isPrefixOf lockPath = false := by decide +kernel

/-- An import that was accepted is stable exactly if none of its files begins with a byte order
mark.

Proof: what is printed of a lock is read as the lock. So the import is made again with the bytes
that the texts encode, which are those of the files but for the marks. -/
theorem reimport_iff (codec : JsonCodec) (sha256 : List UInt8 → Digest) {files : List ImportFile}
    {lockSource : List Char} {record : ProjectRecord}
    (accepted : importDependencyBundle codec sha256 files lockSource = some record)
    (printed : ∀ lock, validateJavaScriptLock codec lockSource = some lock →
      codec.parse (codec.stringify lock.document ++ ['\n']) = some lock.document) :
    Stable codec sha256 record ↔ ∀ file ∈ files, ¬ Marked file.data := by
  cases isLock : validateJavaScriptLock codec lockSource with
  | none =>
    rw [importDependencyBundle, isLock] at accepted
    cases accepted
  | some lock =>
  obtain ⟨state, imports, rfl⟩ := (importDependencyBundle_iff isLock).mp accepted
  obtain ⟨recorded, sized⟩ := importPackages_some imports.found
    (⟨fun _ => Iff.rfl, List.nodup_nil, fun _ isEntry => absurd isEntry List.not_mem_nil⟩ :
      Recorded files [] [])
  rw [List.nil_append] at recorded
  generalize lockText : codec.stringify lock.document ++ ['\n'] = text at *
  have isRead : validateJavaScriptLock codec text = some lock := by
    have parsed := printed lock isLock
    rw [lockText] at parsed
    obtain ⟨document, -, isDocument⟩ := Option.bind_eq_some_iff.mp isLock
    rw [validateJavaScriptLock, parsed, Option.bind_some, lockOf_document isDocument]
  have apart : lockPath ∉ state.imported.map Prod.fst := fun isKey =>
    absurd (vendor_of_expected ((recorded.keys _).mp isKey)) (by simp [lock_not_vendor])
  have appended : assign state.imported lockPath text = state.imported ++ [(lockPath, text)] := by
    rw [assign, if_neg (mt List.contains_iff_mem.mp apart)]
  have files_eq : encoded (assign state.imported lockPath text) =
      state.imported.map fun entry => ⟨entry.1, Unicode.utf8 entry.2⟩ := by
    rw [encoded, appended, List.filter_append, List.filter_eq_self.mpr fun entry isEntry =>
      vendor_of_expected ((recorded.keys _).mp (List.mem_map_of_mem isEntry)),
      List.filter_cons_of_neg (by simp [lock_not_vendor]), List.filter_nil, List.append_nil]
  have looked : (assign state.imported lockPath text).lookup lockPath = some text := by
    have absent : state.imported.lookup lockPath = none := by
      refine List.lookup_eq_none_iff.mpr fun entry isEntry => bne_iff_ne.mpr fun same => apart ?_
      rw [same]
      exact List.mem_map_of_mem isEntry
    rw [appended, List.lookup_append, absent, Option.none_or, List.lookup_cons_self]
  have paths : (encoded (assign state.imported lockPath text)).map ImportFile.path =
      state.imported.map Prod.fst := by
    rw [files_eq, List.map_map]
    rfl
  constructor
  · intro stable file isFile marked
    have verified := stable.verified
    rw [looked, verifyProjectDependencies, Option.isSome_iff_exists] at verified
    obtain ⟨_, again⟩ := verified
    obtain ⟨_, others, -⟩ := (importDependencyBundle_iff isRead).mp again
    have isPath := (imports.expected _).mp (List.mem_map_of_mem isFile)
    obtain ⟨dependency, isDependency, isPath⟩ := List.mem_flatMap.mp isPath
    obtain ⟨descriptor, isDescriptor, isPath⟩ := List.mem_map.mp isPath
    obtain ⟨data, reads, size⟩ := sized dependency isDependency descriptor isDescriptor
    obtain ⟨bytes, encodes, sameSize⟩ := (importPackages_some others.found
      (⟨fun _ => Iff.rfl, List.nodup_nil, fun _ isEntry => absurd isEntry List.not_mem_nil⟩ :
        Recorded _ [] [])).2 dependency isDependency descriptor isDescriptor
    rw [isPath] at reads encodes
    rw [read_of_nodup imports.distinct isFile] at reads
    obtain rfl := Option.some.inj reads
    obtain ⟨other, isOther, samePath, rfl⟩ := read_some encodes
    rw [files_eq] at isOther
    obtain ⟨entry, isEntry, rfl⟩ := List.mem_map.mp isOther
    obtain ⟨whole, readsWhole, decoded⟩ := recorded.texts entry isEntry
    have samePath : entry.1 = file.path := samePath
    have sameSize : (Unicode.utf8 entry.2).length = descriptor.bytes := sameSize
    rw [samePath, read_of_nodup imports.distinct isFile] at readsWhole
    obtain rfl := Option.some.inj readsWhole
    have shorter := length_of_decodeText decoded marked
    omega
  · intro unmarked
    have same : ∀ path ∈ expectedPaths lock,
        read (encoded (assign state.imported lockPath text)) path = read files path := by
      intro path isPath
      obtain ⟨entry, isEntry, rfl⟩ := List.mem_map.mp ((recorded.keys path).mpr isPath)
      obtain ⟨data, reads, decoded⟩ := recorded.texts entry isEntry
      obtain ⟨file, isFile, -, rfl⟩ := read_some reads
      rw [reads, ← utf8_of_decodeText decoded (unmarked file isFile)]
      have there : (⟨entry.1, Unicode.utf8 entry.2⟩ : ImportFile) ∈
          encoded (assign state.imported lockPath text) := by
        rw [files_eq]
        exact List.mem_map_of_mem isEntry
      exact read_of_nodup (paths ▸ recorded.distinct) there
    have again : importDependencyBundle codec sha256
        (encoded (assign state.imported lockPath text)) text =
          some (assign state.imported lockPath text) := by
      refine (importDependencyBundle_iff isRead).mpr ⟨state, ⟨fun file isFile => ?_,
        paths ▸ recorded.distinct, (importPackages_congr same).trans imports.found,
        fun path => by rw [paths]; exact recorded.keys path⟩, by rw [lockText]⟩
      have isPath := (recorded.keys file.path).mp (paths ▸ List.mem_map_of_mem isFile)
      obtain ⟨original, isOriginal, samePath⟩ := List.mem_map.mp ((imports.expected _).mpr isPath)
      exact samePath ▸ imports.safe original isOriginal
    exact ⟨by rw [looked, verifyProjectDependencies, again]; rfl, by
      rw [looked, Option.bind_some, again]⟩

end Import

/-! ## A package of one file -/

/-- The digit one, after a byte order mark or not. -/
def sampleData (marked : Bool) : List UInt8 :=
  if marked then [0xEF, 0xBB, 0xBF, 49] else [49]

/-- The digests of the file and of the package. -/
def sampleSha256 (marked : Bool) (data : List UInt8) : Digest :=
  match marked, data == sampleData marked with
  | false, true => ⟨[107, 134, 178, 115, 255, 52, 252, 225, 157, 107, 128, 78, 255, 90, 63, 87, 71,
      173, 164, 234, 162, 47, 29, 73, 192, 30, 82, 221, 183, 135, 91, 75], by decide⟩
  | false, false => ⟨[254, 186, 126, 123, 75, 14, 177, 135, 166, 51, 180, 45, 96, 123, 200, 133,
      233, 184, 209, 175, 79, 255, 203, 38, 241, 1, 86, 191, 78, 247, 2, 164], by decide⟩
  | true, true => ⟨[90, 189, 182, 23, 95, 130, 15, 10, 195, 216, 100, 127, 187, 31, 122, 11, 204,
      145, 117, 122, 120, 42, 138, 20, 85, 112, 148, 76, 166, 160, 12, 150], by decide⟩
  | true, false => ⟨[184, 51, 9, 95, 163, 219, 125, 194, 165, 173, 82, 46, 4, 99, 58, 236, 205, 66,
      32, 38, 63, 246, 21, 67, 205, 81, 38, 91, 210, 70, 58, 226], by decide⟩

def sampleIntegrity (marked : Bool) : String :=
  if marked then "sha256-uDMJX6PbfcKlrVIuBGM67M1CICY/9hVDzVEmW9JGOuI="
  else "sha256-/rp+e0sOsYemM7QtYHvIhem40a9P/8sm8QFWv073AqQ="

def sampleLock (marked : Bool) : JavaScriptLock where
  entrypoint := chars "m.js"
  dependencies := [{
    name := ['a']
    version := ['1']
    main := chars "m.js"
    integrity := chars (sampleIntegrity marked)
    source := .text (chars "bundled")
    license := chars "MIT"
    dependencies := []
    files := [⟨chars "m.js", hexdigest (sampleSha256 marked (sampleData marked)).bytes,
      (sampleData marked).length⟩] }]
  allow := none

def sampleText (marked : Bool) : List Char :=
  chars "\x7b\n  \"schema\": \"poison.javascript.lock/v1\",\n  \"runtime\": \"poison-mjs-1\"," ++
  chars "\n  \"entrypoint\": \"m.js\",\n  \"dependencies\": [\n    \x7b\n      \"name\": \"a\"," ++
  chars "\n      \"version\": \"1\",\n      \"main\": \"m.js\",\n      \"integrity\": \"" ++
  chars (sampleIntegrity marked) ++ chars "\",\n      \"source\": \"bundled\"," ++
  chars "\n      \"license\": \"MIT\",\n      \"runtime\": \"poison-mjs-1\"," ++
  chars "\n      \"dependencies\": [],\n      \"files\": [\n        \x7b" ++
  chars "\n          \"path\": \"m.js\",\n          \"sha256\": \"" ++
  hexdigest (sampleSha256 marked (sampleData marked)).bytes ++ chars "\",\n          \"bytes\": " ++
  [Nat.digitChar (sampleData marked).length] ++
  chars "\n        \x7d\n      ]\n    \x7d\n  ]\n\x7d"

/-- One value is read and printed. -/
def codecOf (text : List Char) (document : Document) : JsonCodec where
  parse given := if given = text ++ ['\n'] then some document else none
  stringify _ := text

theorem codecOf_parse (text : List Char) (document : Document) :
    (codecOf text document).parse (text ++ ['\n']) = some document :=
  if_pos rfl

theorem validated_codecOf (text : List Char) (document : Document) :
    validateJavaScriptLock (codecOf text document) (text ++ ['\n']) = lockOf document := by
  rw [validateJavaScriptLock, codecOf_parse, Option.bind_some]

theorem sample_read (marked : Bool) :
    lockOf (sampleLock marked).document = some (sampleLock marked) := by
  have files : ∀ file ∈ (sampleLock marked).dependencies.flatMap Dependency.files,
      file.isValid [] = true := by
    cases marked <;> decide +kernel
  have dependencies : ∀ dependency ∈ (sampleLock marked).dependencies,
      dependency.isValid [] = true := by
    cases marked <;> decide +kernel
  have valid : (sampleLock marked).isValid = true := by
    cases marked <;> decide +kernel
  rw [lockOf_documents, if_pos valid]
  simp only [sampleLock, List.flatMap_cons, List.flatMap_nil, List.append_nil, List.mem_singleton,
    forall_eq] at files dependencies
  simp only [sampleLock, List.map_cons, List.map_nil, dependenciesOf]
  rw [dependencyOf_document, if_pos dependencies]
  · rfl
  · simp only [List.map_cons, List.map_nil, filesOf, fileOf_document, if_pos files]
    rfl

def sampleImport (marked : Bool) : Option ProjectRecord :=
  importDependencyBundle (codecOf (sampleText marked) (sampleLock marked).document)
    (sampleSha256 marked) [⟨chars "vendor/a/1/m.js", sampleData marked⟩]
    (sampleText marked ++ ['\n'])

theorem sample_imported (marked : Bool) : (sampleImport marked).isSome = true := by
  cases marked <;> decide +kernel

/-- Without the mark the import is stable. -/
theorem sample_stable : ∃ record, sampleImport false = some record ∧
    Stable (codecOf (sampleText false) (sampleLock false).document) (sampleSha256 false)
      record := by
  obtain ⟨record, accepted⟩ := Option.isSome_iff_exists.mp (sample_imported false)
  refine ⟨record, accepted,
    (reimport_iff _ _ accepted fun lock isLock => ?_).mpr (by decide +kernel)⟩
  rw [validated_codecOf, sample_read] at isLock
  obtain rfl := Option.some.inj isLock
  exact codecOf_parse _ _

/-- An import of a file with the byte order mark is not stable. -/
theorem marked_file_unstable : ¬ ∀ codec sha256 files lockSource record,
    importDependencyBundle codec sha256 files lockSource = some record →
    (∀ lock, validateJavaScriptLock codec lockSource = some lock →
      codec.parse (codec.stringify lock.document ++ ['\n']) = some lock.document) →
    Stable codec sha256 record := by
  intro stable
  obtain ⟨record, accepted⟩ := Option.isSome_iff_exists.mp (sample_imported true)
  have verified := (stable _ _ _ _ _ accepted fun lock isLock => by
    rw [validated_codecOf, sample_read] at isLock
    obtain rfl := Option.some.inj isLock
    exact codecOf_parse _ _).verified
  have refused : ∀ record ∈ sampleImport true, verifyProjectDependencies
      (codecOf (sampleText true) (sampleLock true).document) (sampleSha256 true)
        (record.lookup lockPath) record = false := by
    decide +kernel
  rw [refused record accepted] at verified
  cases verified

end PoisonedOS.DependencyLock
