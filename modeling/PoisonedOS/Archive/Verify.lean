import Mathlib.Data.List.Lex
import Mathlib.Data.List.Sort
import PoisonedOS.Archive.Manifest

/-!
# Verification of an archive

An archive is a stored zip file. The verification walks its local records, the first of
which is the manifest, and then its central directory, and checks each record of the
directory against the local record of its name. Then it parses the manifest, and hashes the
members that the manifest declares.

The file is the list of its bytes; reads within it succeed, and the checks keep every seek
within it.
-/

namespace PoisonedOS

/-- `POISON_PACKAGE_ARCHIVE_MAX_BYTES`. -/
def packageArchiveMaxBytes : Nat := 4 * 1024 * 1024

/-- `ZIP_LOCAL_HEADER`. -/
def zipLocalHeader : Nat := 0x04034b50

/-- `ZIP_CENTRAL_HEADER`. -/
def zipCentralHeader : Nat := 0x02014b50

/-- `ZIP_END_HEADER`. -/
def zipEndHeader : Nat := 0x06054b50

/-- `ZIP_MEMBER_MAX`. -/
def zipMemberMax : Nat := PackageManifest.packagePayloadMax + 1

/-- The name of the manifest. -/
def manifestName : CString := .literal "manifest.json"

/-- `PoisonZipMember`. -/
structure ZipMember where
  path : CString
  localOffset : Nat
  dataOffset : Nat
  size : Nat
  crc32 : Nat
  centralSeen : Bool
deriving DecidableEq

namespace PackageArchive

/-- `poison_zip_u16` or `poison_zip_u32` of a field in a header. -/
def field (header : List UInt8) (offset width : Nat) : Nat :=
  fromLittleEndian ((header.drop offset).take width)

/-- `poison_file_read_exact`. -/
def readExact (file : List UInt8) (position length : Nat) : Option (List UInt8) :=
  if position + length ≤ file.length then some ((file.drop position).take length) else none

/-- `poison_package_hex_encode`. -/
def hexEncode (digest : Digest) : CString := CString.ofBytes (hexBytes digest.bytes)

/-- `poison_package_find_member`. -/
def findMember (members : List ZipMember) (path : CString) : Option ZipMember :=
  members.find? (·.path == path)

/-- What the walk over the local records has found: the members, the manifest and the place
of the central directory. -/
structure LocalRecords where
  members : List ZipMember
  manifest : List UInt8
  centralOffset : Nat
deriving DecidableEq

def localRecord (file : List UInt8) (members : List ZipMember) (localOffset : Nat) :
    Except ArchiveError (ZipMember × Nat) :=
  match readExact file (localOffset + 4) 26 with
  | none => .error .io
  | some header =>
    let flags := field header 2 2
    let compression := field header 4 2
    let crc32 := field header 10 4
    let compressed := field header 14 4
    let uncompressed := field header 18 4
    let nameLength := field header 22 2
    let extraLength := field header 24 2
    let position := localOffset + 30
    if flags != 0 || compression != 0 || compressed != uncompressed ||
        compressed == 0xffffffff || nameLength == 0 ||
        decide (nameLength > packagePayloadPathMax) || decide (extraLength > 1024) ||
        decide (position + nameLength + extraLength + compressed > file.length) then
      .error .invalid
    else
      match readExact file position nameLength with
      | none => .error .io
      | some name =>
        let path := CString.ofBytes name
        let dataOffset := position + nameLength + extraLength
        if !PackageManifest.pathValid path || (findMember members path).isSome then
          .error .invalid
        else
          .ok
            ({ path, localOffset, dataOffset, size := uncompressed, crc32, centralSeen := false },
              dataOffset + uncompressed)

def localLoop (file : List UInt8) : Nat → List ZipMember → List UInt8 → Nat →
    Except ArchiveError LocalRecords
  | 0, _, _, _ => .error .invalid
  | rounds + 1, members, manifest, position =>
    match readExact file position 4 with
    | none => .error .invalid
    | some signature =>
      if field signature 0 4 = zipCentralHeader then
        if position = 0 || members.isEmpty || manifest.isEmpty then .error .invalid
        else .ok { members, manifest, centralOffset := position }
      else if field signature 0 4 ≠ zipLocalHeader || members.length ≥ zipMemberMax then
        .error .invalid
      else
        match localRecord file members position with
        | .error error => .error error
        | .ok (member, next) =>
          if members.isEmpty then
            if member.path ≠ manifestName || member.size = 0 ||
                member.size > packageManifestMaxBytes then
              .error .invalid
            else
              localLoop file rounds [member] ((file.drop member.dataOffset).take member.size) next
          else localLoop file rounds (members ++ [member]) manifest next

/-- One record of the central directory after its signature: the member it is about and the
place after it. -/
def centralRecord (file : List UInt8) (members : List ZipMember) (position : Nat) :
    Except ArchiveError (ZipMember × Nat) :=
  match readExact file (position + 4) 42 with
  | none => .error .io
  | some header =>
    let flags := field header 4 2
    let compression := field header 6 2
    let crc32 := field header 12 4
    let compressed := field header 16 4
    let uncompressed := field header 20 4
    let nameLength := field header 24 2
    let extraLength := field header 26 2
    let commentLength := field header 28 2
    let disk := field header 30 2
    let localOffset := field header 38 4
    let position := position + 46
    if flags != 0 || compression != 0 || compressed != uncompressed || disk != 0 ||
        nameLength == 0 || decide (nameLength > packagePayloadPathMax) ||
        decide (position + nameLength + extraLength + commentLength > file.length) then
      .error .invalid
    else
      match readExact file position nameLength with
      | none => .error .io
      | some name =>
        match findMember members (CString.ofBytes name) with
        | none => .error .invalid
        | some member =>
          if member.centralSeen || member.localOffset != localOffset ||
              member.size != uncompressed || member.crc32 != crc32 then
            .error .invalid
          else .ok (member, position + nameLength + extraLength + commentLength)

def endRecord (file : List UInt8) (memberCount centralOffset centralCount position : Nat) :
    Option ArchiveError :=
  match readExact file (position + 4) 18 with
  | none => some .invalid
  | some ending =>
    if field ending 0 2 != 0 || field ending 2 2 != 0 || field ending 4 2 != memberCount ||
        field ending 6 2 != memberCount || field ending 12 4 != centralOffset ||
        field ending 16 2 != 0 || position + 22 != file.length || centralCount != memberCount then
      some .invalid
    else none

/-- The loop over the central directory, with the number of rounds left. It also ends where
less than a signature is left of the file. -/
def centralLoop (file : List UInt8) (centralOffset : Nat) : Nat → List ZipMember → Nat → Nat →
    Except ArchiveError Unit
  | 0, _, _, _ => .error .invalid
  | rounds + 1, members, centralCount, position =>
    match readExact file position 4 with
    | none => .ok ()
    | some signature =>
      if field signature 0 4 = zipEndHeader then
        match endRecord file members.length centralOffset centralCount position with
        | some error => .error error
        | none => .ok ()
      else if field signature 0 4 ≠ zipCentralHeader || centralCount ≥ members.length then
        .error .invalid
      else
        match centralRecord file members position with
        | .error error => .error error
        | .ok (member, next) =>
          let seen := members.map fun other =>
            if other.path = member.path then { other with centralSeen := true } else other
          centralLoop file centralOffset rounds seen (centralCount + 1) next

/-- `strcmp(left, right) <= 0`. -/
def pathLe (left right : PayloadDescriptor) : Bool :=
  decide (left.path.bytes.map UInt8.toNat ≤ right.path.bytes.map UInt8.toNat)

/-- The data of a member. -/
def memberData (file : List UInt8) (member : ZipMember) : List UInt8 :=
  (file.drop member.dataOffset).take member.size

section Verify

variable (sha256 : List UInt8 → Digest)

/-- One payload in `poison_package_verify_members`: what it adds to the hash of the
content. -/
def verifyPayload (file : List UInt8) (members : List ZipMember) (payload : PayloadDescriptor) :
    Option (List UInt8) :=
  match findMember members payload.path with
  | none => none
  | some member =>
    if member.size != payload.size.toNat then none
    else
      let content := memberData file member
      if hexEncode (sha256 content) != payload.sha256 then none
      else some (payload.path.terminated ++ content)

/-- `poison_package_verify_members`. -/
def verifyMembers (file : List UInt8) (members : List ZipMember) (verified : VerifiedArchive) :
    Bool :=
  members.length == verified.payloads.length + 1 &&
    (members.head?.map ZipMember.path == some manifestName) &&
    match (verified.payloads.insertionSort fun left right => pathLe left right = true).mapM
        (verifyPayload sha256 file members) with
    | none => false
    | some contents => hexEncode (sha256 contents.flatten) == verified.contentSha256

variable (rendering : VerifiedArchive → List UInt8)
variable (signatureOk : FixedBytes 65 → List UInt8 → List UInt8 → Bool)

/-- The walk over the records, and the parse of the manifest. -/
def verifyRecords (file : List UInt8) (authorities : List PackageAuthority)
    (firmwareApiMajor firmwareApiMinor : UInt32) (installedVersion : Option CString) :
    Except ArchiveError (LocalRecords × VerifiedArchive) := do
  let records ← localLoop file (zipMemberMax + 1) [] [] 0
  centralLoop file records.centralOffset (zipMemberMax + 1) records.members 0 records.centralOffset
  let verified ← PackageManifest.parseManifest rendering signatureOk records.manifest authorities
    firmwareApiMajor firmwareApiMinor installedVersion
  pure (records, verified)

/-- `poison_package_verify_archive`. -/
def verifyArchive (file : Option (List UInt8)) (expectedArchiveSha256 : CString)
    (authorities : List PackageAuthority) (firmwareApiMajor firmwareApiMinor : UInt32)
    (installedVersion : Option CString) : Except ArchiveError VerifiedArchive :=
  if !PackageManifest.hexDigestValid expectedArchiveSha256 then .error .invalid
  else
    match file with
    | none => .error .io
    | some file =>
      if file.length == 0 || decide (file.length > packageArchiveMaxBytes) then .error .invalid
      else if hexEncode (sha256 file) != expectedArchiveSha256 then .error .digestMismatch
      else
        match verifyRecords rendering signatureOk file authorities firmwareApiMajor
            firmwareApiMinor installedVersion with
        | .error error => .error error
        | .ok (records, verified) =>
          let verified :=
            { verified with
              archiveSha256 := expectedArchiveSha256
              archiveBytes := UInt32.ofNat file.length }
          if verifyMembers sha256 file records.members verified then .ok verified
          else .error .digestMismatch

end Verify

end PackageArchive

end PoisonedOS
