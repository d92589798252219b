import Mathlib.Data.List.Perm.Subperm
import PoisonedOS.Archive.Verify
import PoisonedOS.Library.Traced
import PoisonedOS.Packages.Layout
import PoisonedOS.Vfs.FileTree
import PoisonedOS.Vfs.VolumeNames

/-!
# Unpacking an archive

The payloads of a verified archive are written below a directory, which is emptied first. Each
is written to a file of its name with a suffix, and this file is renamed. A payload is lost when
one that comes later has the same name on the volume, or has it with the suffix. Where no two
clash, the directory holds exactly the payloads after an extraction that succeeds.
-/

namespace PoisonedOS

/-- A payload as the archive has it. -/
structure ArchivedPayload where
  path : CString
  content : List UInt8
deriving DecidableEq

namespace PackageExtraction

open PackageArchive (field hexEncode readExact)

/-- The path a payload is written to first. -/
def stagingPath (path : CString) : CString := path.append (.literal ".partial")

/-- The directories above a file. -/
def parents (path : CString) : List CString :=
  ((List.range path.length).filter fun index => path.bytes[index]? == some 47).map fun index =>
    .ofBytes (path.bytes.take index)

section Records

variable (file : List UInt8) (payloads : List PayloadDescriptor)

/-- What the walk over the archive finds at a position. -/
inductive FoundRecord where
  | ended
  | refused
  | manifest (next : Nat)
  | payload (payload : ArchivedPayload) (next : Nat)

/-- One round of the loop in `poison_package_extract_verified_archive`, up to the writing. -/
def nextRecord (extracted : List ArchivedPayload) (position : Nat) : FoundRecord :=
  match readExact file position 4 with
  | none => .ended
  | some signature =>
    if field signature 0 4 = zipCentralHeader then .ended
    else if field signature 0 4 ≠ zipLocalHeader then .refused
    else
      match readExact file (position + 4) 26 with
      | none => .refused
      | some header =>
        let flags := field header 2 2
        let compression := field header 4 2
        let compressed := field header 14 4
        let uncompressed := field header 18 4
        let nameLength := field header 22 2
        let extraLength := field header 24 2
        if flags != 0 || compression != 0 || compressed != uncompressed || nameLength == 0 ||
            decide (nameLength > packagePayloadPathMax) || decide (extraLength > 1024) then
          .refused
        else
          match readExact file (position + 30) nameLength with
          | none => .refused
          | some name =>
            let path := CString.ofBytes name
            -- A seek stops at the end of the file.
            let dataOffset := min (position + 30 + nameLength + extraLength) file.length
            if !PackageManifest.pathValid path then .refused
            else if path = manifestName then
              .manifest (min (dataOffset + uncompressed) file.length)
            else
              match payloads.find? (·.path == path) with
              | none => .refused
              | some payload =>
                if extracted.any (·.path == path) || payload.size.toNat != uncompressed then
                  .refused
                else
                  match readExact file dataOffset uncompressed with
                  | none => .refused
                  | some content => .payload ⟨path, content⟩ (dataOffset + uncompressed)

/-- The payloads the walk comes to, in their order. Every round goes on by a header at least. -/
def records : Nat → Nat → List ArchivedPayload → Option (List ArchivedPayload)
  | 0, _, _ => none
  | rounds + 1, position, extracted =>
    match nextRecord file payloads extracted position with
    | .ended => some extracted
    | .refused => none
    | .manifest next => records rounds next extracted
    | .payload payload next => records rounds next (extracted ++ [payload])

/-- The payloads of an archive, if the walk comes to all that are declared. -/
def archivedPayloads : Option (List ArchivedPayload) :=
  (records file payloads (file.length + 1) 0 []).filter fun found =>
    found.length == payloads.length

end Records

section Extraction

variable (names : CString → Option CString)

/-- `poison_package_extract_member` below a directory with a path of the given length. -/
def extractMember (rootLength : Nat) (tree : FileTree) (payload : ArchivedPayload) :
    Bool × FileTree :=
  if rootLength + 1 + (stagingPath payload.path).length > packagePayloadPathMax then (false, tree)
  else
    let (made, grown) := tree.makeDirectories names (parents payload.path)
    if !made then (false, grown)
    else
      match names (stagingPath payload.path), names payload.path with
      | some staged, some destination =>
        let (written, staging) := grown.rewrite staged payload.content
        if !written then (false, staging)
        else
          let (moved, placed) := staging.renameFile staged destination
          if moved then (true, placed) else (false, placed.put staged none)
      | _, _ => (false, grown)

/-- The extraction of one payload into a directory. -/
def extractInto (rootLength : Nat) (payload : ArchivedPayload) : Traced (Option FileTree) Bool :=
  Traced.effect fun directory =>
    match directory with
    | none => (false, none)
    | some tree =>
      let (extracted, next) := extractMember names rootLength tree payload
      (extracted, some next)

/-- The loop of `poison_package_extract_verified_archive`: the payloads it has extracted. -/
def extractLoop (file : List UInt8) (payloads : List PayloadDescriptor) (rootLength : Nat) :
    Nat → Nat → List ArchivedPayload →
      Traced (Option FileTree) (Option (List ArchivedPayload))
  | 0, _, _ => pure none
  | rounds + 1, position, extracted =>
    match nextRecord file payloads extracted position with
    | .ended => pure (some extracted)
    | .refused => pure none
    | .manifest next => extractLoop file payloads rootLength rounds next extracted
    | .payload payload next => do
      let succeeded ← extractInto names rootLength payload
      Traced.onlyIf succeeded
        (extractLoop file payloads rootLength rounds next (extracted ++ [payload])) none

variable (sha256 : List UInt8 → Digest)

/-- What is done while the archive is open. -/
def extractFile (file : List UInt8) (verified : VerifiedArchive) (rootLength : Nat) :
    Traced (Option FileTree) Bool :=
  if file.length != verified.archiveBytes.toNat ||
      hexEncode (sha256 file) != verified.archiveSha256 then
    pure false
  else do
    -- `storage_simply_remove_recursive`, then `poison_package_mkdir_tree`.
    let _ ← Traced.effect fun _ => (true, none)
    let made ← Traced.effect fun _ =>
      if verified.packageId.directoryName.isEmpty then (false, none) else (true, some .empty)
    let extracted ← Traced.onlyIf made
      (extractLoop names file verified.payloads rootLength (file.length + 1) 0 []) none
    return extracted.any fun extracted => extracted.length == verified.payloads.length

/-- `poison_package_extract_verified_archive`. -/
def extractVerifiedArchive (archive : Option (List UInt8)) (verified : VerifiedArchive)
    (destinationRoot : CString) : Traced (Option FileTree) Bool :=
  if verified.payloads.isEmpty ||
      decide (verified.payloads.length > PackageManifest.packagePayloadMax) ||
      destinationRoot.bytes.head? != some 47 || decide (destinationRoot.length > 160) then
    pure false
  else do
    let ok ← match archive with
      | none => pure false
      | some file => extractFile names sha256 file verified destinationRoot.length
    let _ ← Traced.onlyIf (!ok) (Traced.effect fun _ => (true, none)) true
    return ok

/-- The extraction that `poison_package_storage_stage` asks for. -/
def extract (archive : Option (List UInt8)) (verified : VerifiedArchive) :
    Traced (Option FileTree) Bool :=
  match StorageLayout.default.path verified.packageId .candidate with
  | none => pure false
  | some candidate => extractVerifiedArchive names sha256 archive verified candidate

end Extraction

/-! ## What an extraction leaves -/

/-- No payload has the name of one before it, with the suffix or without, or is renamed to the
name it is written to. -/
structure Separate (names : CString → Option CString) (payloads : List ArchivedPayload) : Prop where
  apart : payloads.Pairwise fun earlier later =>
    names later.path ≠ names earlier.path ∧ names (stagingPath later.path) ≠ names earlier.path
  staged : ∀ payload ∈ payloads, names (stagingPath payload.path) ≠ names payload.path

/-- The files are exactly the payloads. -/
structure Written (names : CString → Option CString) (tree : FileTree)
    (payloads : List ArchivedPayload) : Prop where
  named : ∀ payload ∈ payloads, (names payload.path).isSome = true
  exact : ∀ name content, tree.file name = some content ↔
    ∃ payload ∈ payloads, names payload.path = some name ∧ payload.content = content

variable {names : CString → Option CString} {sha256 : List UInt8 → Digest} {file : List UInt8}
  {payloads : List PayloadDescriptor} {rootLength : Nat} {tree : FileTree}
  {payload : ArchivedPayload} {extracted found : List ArchivedPayload}

theorem extractMember_true {next : FileTree}
    (succeeds : extractMember names rootLength tree payload = (true, next)) :
    ∃ staged destination, names (stagingPath payload.path) = some staged ∧
      names payload.path = some destination ∧
      let grown := (tree.makeDirectories names (parents payload.path)).2
      (grown.rewrite staged payload.content).1 = true ∧
        (grown.rewrite staged payload.content).2.renameFile staged destination = (true, next) := by
  simp only [extractMember] at succeeds
  split at succeeds
  · cases succeeds
  split at succeeds
  · cases succeeds
  split at succeeds
  · rename_i staged destination isStaged isDestination
    refine ⟨staged, destination, isStaged, isDestination, ?_⟩
    split at succeeds
    · cases succeeds
    · rename_i written
      simp only [Bool.not_eq_true', Bool.not_eq_false] at written
      refine ⟨written, ?_⟩
      split at succeeds
      · rename_i moved
        exact Prod.ext moved (Prod.mk.inj succeeds).2
      · cases succeeds
  · cases succeeds

/-- A payload with two free names of its own becomes one file, and no other file is touched. -/
theorem file_extractMember {next : FileTree} {staged destination : CString}
    (succeeds : extractMember names rootLength tree payload = (true, next))
    (isStaged : names (stagingPath payload.path) = some staged)
    (isDestination : names payload.path = some destination) (own : staged ≠ destination)
    (freeStaged : tree.file staged = none) (freeDestination : tree.file destination = none)
    (name : CString) :
    next.file name = if name = destination then some payload.content else tree.file name := by
  obtain ⟨first, second, isFirst, isSecond, rewritten, moved⟩ := extractMember_true succeeds
  cases isStaged.symm.trans isFirst
  cases isDestination.symm.trans isSecond
  obtain ⟨held, untouched⟩ := FileTree.file_rewrite rewritten
  have grown (name : CString) : (tree.makeDirectories names (parents payload.path)).2.file name =
      tree.file name := FileTree.file_makeDirectories _
  have before : ((tree.makeDirectories names (parents payload.path)).2.rewrite staged
      payload.content).2.file destination = none := by
    rw [FileTree.file_congr (untouched destination own.symm), grown, freeDestination]
  obtain ⟨atDestination, atStaged, elsewhere⟩ :=
    FileTree.file_renameFile own held before (congrArg Prod.fst moved)
  rw [moved] at atDestination atStaged elsewhere
  by_cases isNew : name = destination
  · rw [if_pos isNew, isNew, atDestination]
  rw [if_neg isNew]
  by_cases isOld : name = staged
  · rw [isOld, atStaged, freeStaged]
  · rw [FileTree.file_congr (elsewhere name isOld isNew), FileTree.file_congr (untouched name isOld),
      grown]

/-- One more payload is one more file. -/
theorem Written.extractMember (written : Written names tree extracted)
    (separate : Separate names (extracted ++ [payload])) {next : FileTree}
    (succeeds : extractMember names rootLength tree payload = (true, next)) :
    Written names next (extracted ++ [payload]) := by
  obtain ⟨staged, destination, isStaged, isDestination, -⟩ := extractMember_true succeeds
  have apart := (List.pairwise_append.mp separate.apart).2.2
  have own : staged ≠ destination := fun same =>
    separate.staged payload (List.mem_append_right _ List.mem_cons_self)
      (isStaged.trans (same ▸ isDestination.symm))
  -- Neither of its two names is that of a file that was there before.
  have free {name : CString} (differ : ∀ earlier ∈ extracted, names earlier.path ≠ some name) :
      tree.file name = none := by
    cases held : tree.file name with
    | none => rfl
    | some content =>
      obtain ⟨earlier, inside, isName, -⟩ := (written.exact name content).mp held
      exact absurd isName (differ earlier inside)
  have freeDestination := free fun earlier inside same =>
    (apart earlier inside payload List.mem_cons_self).1 (isDestination.trans same.symm)
  have freeStaged := free fun earlier inside same =>
    (apart earlier inside payload List.mem_cons_self).2 (isStaged.trans same.symm)
  have files := file_extractMember succeeds isStaged isDestination own freeStaged freeDestination
  constructor
  · intro one among
    rcases List.mem_append.mp among with inside | last
    · exact written.named one inside
    · rw [List.mem_singleton.mp last, isDestination]
      rfl
  · intro name content
    rw [files]
    by_cases isNew : name = destination
    · rw [if_pos isNew, Option.some.injEq]
      constructor
      · rintro rfl
        exact ⟨payload, List.mem_append_right _ List.mem_cons_self, isNew ▸ isDestination, rfl⟩
      · rintro ⟨one, among, isName, rfl⟩
        rcases List.mem_append.mp among with inside | last
        · refine absurd ?_ (apart one inside payload List.mem_cons_self).1
          rw [isName, isDestination, isNew]
        · rw [List.mem_singleton.mp last]
    · rw [if_neg isNew, written.exact]
      constructor
      · rintro ⟨one, inside, rest⟩
        exact ⟨one, List.mem_append_left _ inside, rest⟩
      · rintro ⟨one, among, isName, isContent⟩
        rcases List.mem_append.mp among with inside | last
        · exact ⟨one, inside, isName, isContent⟩
        · rw [List.mem_singleton.mp last, isDestination] at isName
          exact absurd (Option.some.inj isName).symm isNew

theorem Separate.before (separate : Separate names found) (before : extracted <+: found) :
    Separate names extracted :=
  ⟨separate.apart.sublist before.sublist, fun one inside =>
    separate.staged one (before.subset inside)⟩

/-- The loop comes to the payloads of the walk, and writes them. -/
theorem extractLoop_written {rounds position : Nat}
    (written : Separate names extracted → Written names tree extracted)
    (looped : (extractLoop names file payloads rootLength rounds position extracted
      (some tree)).value = some found) :
    records file payloads rounds position extracted = some found ∧
      ∃ next, (extractLoop names file payloads rootLength rounds position extracted
          (some tree)).final = some next ∧
        (Separate names found → Written names next found) := by
  induction rounds generalizing position extracted tree with
  | zero => cases looped
  | succ rounds ih =>
    simp only [extractLoop, records] at looped ⊢
    cases isNext : nextRecord file payloads extracted position with
    | ended =>
      simp only [isNext] at looped ⊢
      cases looped
      exact ⟨rfl, tree, rfl, written⟩
    | refused =>
      simp only [isNext] at looped
      cases looped
    | manifest next =>
      simp only [isNext] at looped ⊢
      exact ih written looped
    | payload payload next =>
      simp only [isNext, Traced.bind_run, extractInto, Traced.effect_run] at looped ⊢
      cases succeeds : (extractMember names rootLength tree payload).1 with
      | false =>
        simp only [succeeds] at looped
        cases looped
      | true =>
        simp only [succeeds, Traced.onlyIf_true] at looped ⊢
        refine ih (fun separate => ?_) looped
        exact (written (separate.before (List.prefix_append _ _))).extractMember separate
          (Prod.ext succeeds rfl)

theorem extractFile_written {verified : VerifiedArchive} {before : Option FileTree}
    (succeeds : (extractFile names sha256 file verified rootLength before).value = true) :
    hexEncode (sha256 file) = verified.archiveSha256 ∧
    ∃ found next, archivedPayloads file verified.payloads = some found ∧
      (extractFile names sha256 file verified rootLength before).final = some next ∧
      (Separate names found → Written names next found) := by
  have start : Separate names [] → Written names .empty [] := fun _ =>
    ⟨by simp, fun name content => by simp⟩
  unfold extractFile at succeeds ⊢
  split at succeeds
  · cases succeeds
  rename_i fresh
  rw [if_neg fresh]
  simp only [Bool.or_eq_true, bne_iff_ne, ne_eq, not_or, not_not] at fresh
  refine ⟨fresh.2, ?_⟩
  simp only [Traced.bind_run, Traced.effect_run, Traced.pure_run] at succeeds ⊢
  cases unnamed : verified.packageId.directoryName.isEmpty with
  | true =>
    simp only [unnamed, if_true, Traced.onlyIf_false] at succeeds
    cases succeeds
  | false =>
    simp only [unnamed, Bool.false_eq_true, if_false, Traced.onlyIf_true,
      Option.any_eq_true] at succeeds ⊢
    obtain ⟨found, looped, counted⟩ := succeeds
    obtain ⟨walked, next, isNext, written⟩ := extractLoop_written start looped
    exact ⟨found, next, Option.filter_eq_some_iff.mpr ⟨walked, counted⟩, isNext, written⟩

/-- **What a successful extraction leaves**: the files of the payloads the archive has, where
these do not clash. -/
theorem extract_written {archive : Option (List UInt8)} {verified : VerifiedArchive}
    {before : Option FileTree} (succeeds : (extract names sha256 archive verified before).value =
      true) :
    ∃ file found next, archive = some file ∧ hexEncode (sha256 file) = verified.archiveSha256 ∧
      archivedPayloads file verified.payloads = some found ∧
      (extract names sha256 archive verified before).final = some next ∧
      (Separate names found → Written names next found) := by
  unfold extract at succeeds ⊢
  cases isCandidate : StorageLayout.default.path verified.packageId .candidate with
  | none =>
    rw [isCandidate] at succeeds
    cases succeeds
  | some candidate =>
  simp only [isCandidate, extractVerifiedArchive] at succeeds ⊢
  split at succeeds
  · cases succeeds
  rename_i admitted
  rw [if_neg admitted]
  cases archive with
  | none => cases succeeds
  | some file =>
    simp only [Traced.bind_run, Traced.pure_run] at succeeds ⊢
    obtain ⟨digest, found, next, isFound, isNext, written⟩ := extractFile_written succeeds
    refine ⟨file, found, next, rfl, digest, isFound, ?_, written⟩
    rw [succeeds, Bool.not_true, Traced.onlyIf_false]
    exact isNext

/-! ## The payloads of an archive -/

theorem nextRecord_payload {position next : Nat}
    (isNext : nextRecord file payloads extracted position = .payload payload next) :
    payload.path ∈ payloads.map PayloadDescriptor.path ∧
      payload.path ∉ extracted.map ArchivedPayload.path := by
  unfold nextRecord at isNext
  split at isNext
  · cases isNext
  split at isNext
  · cases isNext
  split at isNext
  · cases isNext
  split at isNext
  · cases isNext
  dsimp only at isNext
  split at isNext
  · cases isNext
  split at isNext
  · cases isNext
  split at isNext
  · cases isNext
  split at isNext
  · cases isNext
  split at isNext
  · cases isNext
  rename_i declared isDeclared
  split at isNext
  · cases isNext
  rename_i fresh
  split at isNext
  · cases isNext
  cases isNext
  rw [Bool.or_eq_true, not_or, List.any_eq_true] at fresh
  refine ⟨List.mem_map.mpr ⟨declared, List.mem_of_find?_eq_some isDeclared, ?_⟩, fun among => ?_⟩
  · simpa using List.find?_some isDeclared
  · obtain ⟨earlier, inside, same⟩ := List.mem_map.mp among
    exact fresh.1 ⟨earlier, inside, beq_iff_eq.mpr same⟩

/-- The walk comes to no path twice, and only to paths that are declared. -/
theorem records_declared {rounds position : Nat}
    (walked : records file payloads rounds position extracted = some found)
    (distinct : (extracted.map ArchivedPayload.path).Nodup)
    (declared : ∀ path ∈ extracted.map ArchivedPayload.path,
      path ∈ payloads.map PayloadDescriptor.path) :
    (found.map ArchivedPayload.path).Nodup ∧ ∀ path ∈ found.map ArchivedPayload.path,
      path ∈ payloads.map PayloadDescriptor.path := by
  induction rounds generalizing position extracted with
  | zero => cases walked
  | succ rounds ih =>
    simp only [records] at walked
    split at walked
    · exact Option.some.inj walked ▸ ⟨distinct, declared⟩
    · cases walked
    · exact ih walked distinct declared
    · rename_i payload next isNext
      obtain ⟨isDeclared, isNew⟩ := nextRecord_payload isNext
      refine ih walked ?_ ?_
      · rw [List.map_append, List.map_singleton, List.nodup_append]
        refine ⟨distinct, List.nodup_singleton _, fun path inside other last same => ?_⟩
        rw [same, List.mem_singleton.mp last] at inside
        exact isNew inside
      · intro path among
        rw [List.map_append, List.mem_append] at among
        rcases among with inside | last
        · exact declared path inside
        · exact List.mem_singleton.mp last ▸ isDeclared

/-- The payloads of an archive are the declared ones. -/
theorem archivedPayloads_perm (isFound : archivedPayloads file payloads = some found) :
    (found.map ArchivedPayload.path).Perm (payloads.map PayloadDescriptor.path) := by
  obtain ⟨walked, counted⟩ := Option.filter_eq_some_iff.mp isFound
  obtain ⟨distinct, declared⟩ := records_declared walked List.nodup_nil (by simp)
  refine (List.subperm_of_subset distinct declared).perm_of_length_le ?_
  simp only [beq_iff_eq] at counted
  simp only [List.length_map, counted, Nat.le_refl]

end PackageExtraction

end PoisonedOS
