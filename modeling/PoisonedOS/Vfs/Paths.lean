import PoisonedOS.Rpc.Confirmation

/-!
# Logical and backing paths

A logical path is normalized once: runs of separators become one, trailing ones are
dropped, and a path with a segment `.` or `..` is refused. Its first segment names a
namespace, and what follows is put under that namespace's prefix on the storage.
Permission to write is decided from the namespace named, by a flag and the role.
-/

namespace PoisonedOS

/-- `PoisonVfsNamespace` without its counting sentinel. -/
inductive VfsNamespace where
  | system
  | config
  | profiles
  | apps
  | scripts
  | workloads
  | cases
  | evidence
  | lessons
  | exports
  | internal
  | external
deriving DecidableEq, Repr

/-- `PoisonVfsOperation`. -/
inductive VfsOperation where
  | read
  | write
deriving DecidableEq, Repr

/-- `PoisonVfsNamespaceInfo`. -/
structure VfsNamespaceInfo where
  name : CString
  vfsNamespace : VfsNamespace
  backingPrefix : CString
  readOnly : Bool
deriving DecidableEq

/-- `PoisonVfsResolvedPath`. -/
structure VfsResolvedPath where
  vfsNamespace : VfsNamespace
  readOnly : Bool
  logicalPath : CString
  backingPath : CString
deriving DecidableEq

/-- `POISON_VFS_PATH_MAX`. -/
def vfsPathMax : Nat := 256

/-- `namespace_info`. -/
def namespaceInfo : List VfsNamespaceInfo :=
  [⟨.literal "system", .system, .literal "/int/system", true⟩,
    ⟨.literal "config", .config, .literal "/int/config", false⟩,
    ⟨.literal "profiles", .profiles, .literal "/int/config/profiles", false⟩,
    ⟨.literal "apps", .apps, .literal "/ext/apps", false⟩,
    ⟨.literal "scripts", .scripts, .literal "/ext/scripts", false⟩,
    ⟨.literal "workloads", .workloads, .literal "/ext/workloads", false⟩,
    ⟨.literal "cases", .cases, .literal "/ext/cases", false⟩,
    ⟨.literal "evidence", .evidence, .literal "/ext/evidence", false⟩,
    ⟨.literal "lessons", .lessons, .literal "/ext/lessons", false⟩,
    ⟨.literal "exports", .exports, .literal "/ext/exports", false⟩,
    ⟨.literal "int", .internal, .literal "/int", false⟩,
    ⟨.literal "ext", .external, .literal "/ext", false⟩]

/-- `'/'`. -/
def slash : UInt8 := 47

/-- `poison_vfs_is_valid_byte`. -/
def vfsIsValidByte (byte : UInt8) : Bool := byte ≥ 0x20 && byte != 0x7F && byte != 92

/-- The copying loop of `poison_vfs_normalize_path`, after some output. -/
def collapseSeparators : List UInt8 → Bool → List UInt8 → Option (List UInt8)
  | [], _, output => some output
  | byte :: rest, previousSeparator, output =>
    if !vfsIsValidByte byte then none
    else if byte == slash && previousSeparator then collapseSeparators rest true output
    else if output.length ≥ vfsPathMax then none
    else collapseSeparators rest (byte == slash) (output ++ [byte])

/-- The trimming loop, on the output read from its end. -/
def trimReversed : List UInt8 → List UInt8
  | [] => []
  | [byte] => [byte]
  | byte :: next :: rest =>
    if byte == slash then trimReversed (next :: rest) else byte :: next :: rest

/-- The trimming loop. -/
def trimSeparators (output : List UInt8) : List UInt8 := (trimReversed output.reverse).reverse

/-- The test of one segment. -/
def segmentAllowed (segment : List UInt8) : Bool :=
  !segment.isEmpty && segment != [46] && segment != [46, 46]

/-- The loop over the segments, within a segment whose first bytes are known. -/
def segmentsAllowed : List UInt8 → List UInt8 → Bool
  | segment, [] => segment.isEmpty || segmentAllowed segment
  | segment, byte :: rest =>
    if byte == slash then segmentAllowed segment && segmentsAllowed [] rest
    else segmentsAllowed (segment ++ [byte]) rest

/-- `poison_vfs_normalize_path`. -/
def vfsNormalizePath (input : CString) : Option CString :=
  if input.bytes.head? != some slash || decide (input.length > vfsPathMax) then none
  else
    match collapseSeparators input.bytes false [] with
    | none => none
    | some collapsed =>
      let output := trimSeparators collapsed
      if segmentsAllowed [] output.tail then some (.ofBytes output) else none

/-- `poison_vfs_find_namespace`: the name is what stands before the second separator. -/
def vfsFindNamespace (normalized : CString) : Option VfsNamespaceInfo :=
  namespaceInfo.find? fun info =>
    info.name.bytes == normalized.bytes.tail.takeWhile (· != slash)

/-- `poison_vfs_role_can_write` for a role below the counting sentinel. -/
def vfsRoleCanWrite (role : Role) (vfsNamespace : VfsNamespace) : Bool :=
  if role == .observer then false
  else if vfsNamespace == .system || vfsNamespace == .internal || vfsNamespace == .external then
    role == .owner
  else true

/-- What follows the name of the namespace, without its separator. -/
def vfsSuffix (normalized : CString) : CString where
  bytes :=
    match normalized.bytes.tail.dropWhile (· != slash) with
    | [] => []
    | _ :: suffix => suffix
  noNul := by
    intro stored
    apply normalized.noNul
    have kept : ∀ byte ∈ normalized.bytes.tail.dropWhile (· != slash), byte ∈ normalized.bytes :=
      fun byte isKept => List.mem_of_mem_tail ((List.dropWhile_suffix _).subset isKept)
    generalize normalized.bytes.tail.dropWhile (· != slash) = rest at stored kept
    cases rest with
    | nil => cases stored
    | cons head suffix => exact kept 0 (List.mem_cons_of_mem head stored)

def vfsBackingPath (backingPrefix suffix : CString) : CString :=
  if suffix.isEmpty then backingPrefix else (backingPrefix.append (.literal "/")).append suffix

/-- `poison_vfs_resolve_path`. -/
def vfsResolvePath (logicalPath : CString) (role : Role) (operation : VfsOperation) :
    Option VfsResolvedPath :=
  match vfsNormalizePath logicalPath with
  | none => none
  | some normalized =>
    match vfsFindNamespace normalized with
    | none => none
    | some info =>
      if operation == .write && (info.readOnly || !vfsRoleCanWrite role info.vfsNamespace) then none
      else
        let suffix := vfsSuffix normalized
        let backing := vfsBackingPath info.backingPrefix suffix
        if backing.length > vfsPathMax then none
        else
          some {
            vfsNamespace := info.vfsNamespace
            readOnly := info.readOnly
            logicalPath := normalized
            backingPath := backing }

end PoisonedOS
