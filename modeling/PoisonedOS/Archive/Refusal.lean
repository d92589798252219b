import PoisonedOS.Archive.Builder
import PoisonedOS.Archive.Canonical
import PoisonedOS.Archive.Verify

/-!
# The builder and the device

Every archive the builder writes is refused by the device: its manifest is canonical JSON,
and what the device prints to compare it with is not JSON at all. A firmware package of the
device's own tests shows it, with its signature.
-/

namespace PoisonedOS

namespace PackageArchive

/-- What is walked over and parsed has gone through every part. -/
theorem verifyRecords_parts {rendering : VerifiedArchive → List UInt8}
    {signatureOk : FixedBytes 65 → List UInt8 → List UInt8 → Bool} {file : List UInt8}
    {authorities : List PackageAuthority} {firmwareApiMajor firmwareApiMinor : UInt32}
    {installedVersion : Option CString} {records : LocalRecords} {verified : VerifiedArchive}
    (walked : verifyRecords rendering signatureOk file authorities firmwareApiMajor
      firmwareApiMinor installedVersion = .ok (records, verified)) :
    localLoop file (zipMemberMax + 1) [] [] 0 = .ok records ∧
      centralLoop file records.centralOffset (zipMemberMax + 1) records.members 0
        records.centralOffset = .ok () ∧
      PackageManifest.parseManifest rendering signatureOk records.manifest authorities
        firmwareApiMajor firmwareApiMinor installedVersion = .ok verified := by
  simp only [verifyRecords, bind, Except.bind] at walked
  split at walked
  · cases walked
  · rename_i found isFound
    split at walked
    · cases walked
    · rename_i directory
      split at walked
      · cases walked
      · rename_i parsed
        cases walked
        exact ⟨isFound, directory, parsed⟩

/-- Whatever an archive holds and whoever signed it, it is not accepted. -/
theorem verifyArchive_refuses (sha256 : List UInt8 → Digest)
    (signatureOk : FixedBytes 65 → List UInt8 → List UInt8 → Bool) (file : Option (List UInt8))
    (expectedArchiveSha256 : CString) (authorities : List PackageAuthority)
    (firmwareApiMajor firmwareApiMinor : UInt32) (installedVersion : Option CString)
    (verified : VerifiedArchive) :
    verifyArchive sha256 PackageManifest.canonicalRendering signatureOk file expectedArchiveSha256
      authorities firmwareApiMajor firmwareApiMinor installedVersion ≠ .ok verified := by
  intro accepted
  simp only [verifyArchive] at accepted
  split at accepted
  · cases accepted
  · split at accepted
    · cases accepted
    · split at accepted
      · cases accepted
      · split at accepted
        · cases accepted
        · split at accepted
          · cases accepted
          · rename_i records parsed walked
            exact PackageManifest.parseManifest_refuses _ _ _ _ _ _ _
              (verifyRecords_parts walked).2.2

end PackageArchive

namespace PackageBuilder

def Accepts (sha256 : List UInt8 → Digest)
    (signatureOk : FixedBytes 65 → List UInt8 → List UInt8 → Bool) (built : BuiltManifest)
    (archive : List UInt8) (authorities : List PackageAuthority)
    (firmwareApiMajor firmwareApiMinor : UInt32) (installedVersion : Option CString) : Prop :=
  ∃ verified, PackageArchive.verifyArchive sha256 PackageManifest.canonicalRendering signatureOk
      (some archive) (PackageArchive.hexEncode (sha256 archive)) authorities firmwareApiMajor
      firmwareApiMinor installedVersion = .ok verified ∧
    verified.packageId.bytes = utf8 built.id ∧ verified.version.bytes = utf8 built.version ∧
    verified.entrypoint.bytes = utf8 built.entrypoint ∧
    verified.contentSha256.bytes = utf8 built.contentSha256 ∧
    verified.capabilities.map CString.bytes = built.capabilities.map utf8 ∧
    verified.payloads.map (fun payload => (payload.path.bytes, payload.size.toNat)) =
      built.payloads.map fun payload => (utf8 payload.path, payload.size)

/-- A manifest that is signed by a known authority that is not revoked, for a firmware and an
installed version that allow it. -/
structure Shippable (signatureOk : FixedBytes 65 → List UInt8 → List UInt8 → Bool)
    (items : List (List Char × PyValue)) (authorities : List PackageAuthority)
    (firmwareApiMajor firmwareApiMinor : UInt32) (installedVersion : Option CString) : Prop where
  signed : ∃ keyId signature authority, getText items "signingKeyId" = some keyId ∧
    getText items "signature" = some signature ∧
    PackageManifest.findAuthorityAny authorities (CString.ofBytes (utf8 keyId)) = some authority ∧
    authority.revoked = false ∧
    signatureOk authority.publicKey
      (canonicalJson (.dict (items.filter fun item => item.1 ≠ chars "signature")))
      (Json.b64dec (utf8 signature)) = true
  compatible : ∃ requirement, getText items "firmwareApi" = some requirement ∧
    PackageManifest.firmwareApiCompatible (CString.ofBytes (utf8 requirement)) firmwareApiMajor
      firmwareApiMinor = true
  allowed : ∃ version, getText items "version" = some version ∧
    ∀ installed, installedVersion = some installed → ∃ new old,
      PackageManifest.semverParse (CString.ofBytes (utf8 version)) = some new ∧
      PackageManifest.semverParse installed = some old ∧
      PackageManifest.semverLess new old = false

/-- Nothing the builder builds is accepted, however it is signed. -/
theorem built_refused {sha256 : List UInt8 → Digest}
    {signatureOk : FixedBytes 65 → List UInt8 → List UInt8 → Bool}
    {payloadRoot : List Char → Option (List UInt8)} {manifest : PyValue} {built : BuiltManifest}
    {archive : List UInt8}
    (_ : build (fun data => (sha256 data).bytes) payloadRoot manifest = some (built, archive))
    (authorities : List PackageAuthority) (firmwareApiMajor firmwareApiMinor : UInt32)
    (installedVersion : Option CString) :
    ¬ Accepts sha256 signatureOk built archive authorities firmwareApiMajor firmwareApiMinor
      installedVersion := by
  rintro ⟨verified, accepted, -⟩
  exact PackageArchive.verifyArchive_refuses _ _ _ _ _ _ _ _ _ accepted

section Firmware

/-- The manifest of the firmware package. -/
def firmwareItems : List (List Char × PyValue) :=
  [(chars "capabilities", .list []),
    (chars "contentSha256",
      .str (chars "906acc0c0944add77b5fdda5b61f93ad4f358fc1bb3f6c905910f9c56d015224")),
    (chars "contentType", .str (chars "firmware")),
    (chars "entrypoint", .str (chars "update.fuf")),
    (chars "firmwareApi", .str (chars ">=88.0.0 <89.0.0")),
    (chars "id", .str (chars "org.poison.firmware-test")),
    (chars "packageFormat", .int 1),
    (chars "payloads", .list [.dict
      [(chars "path", .str (chars "update.fuf")),
        (chars "sha256",
          .str (chars "933d70b1b1d01a18b928a976396cd1e0f9b531a6b5c96246e2f2c7cb6d4c8471")),
        (chars "size", .int 16)]]),
    (chars "releaseSequence", .int 2),
    (chars "signature", .str (chars ("MEUCIQC3UbFK4i+/mpK9BbgPARH5UmIsbz6hVXhKDnRT49HJ4AIg" ++
      "eBFIngIzWtGVkAi4crulAj4h71y/pShMcZAHVU83BYs="))),
    (chars "signingKeyId", .str (chars "firmware-test-1")),
    (chars "version", .str (chars "2.0.0"))]

/-- The one payload of the firmware archive. -/
def firmwarePayload (path : List Char) : Option (List UInt8) :=
  if path = chars "update.fuf" then some (utf8 (chars "signed firmware\n")) else none

/-- The key that signed the archive. -/
def firmwareKey : FixedBytes 65 where
  bytes := 4 ::
    (Sha256.bigEndian 32 0x7026752d4620fea40264e13a0a8c22cc29fb5cdfd7b68fa8f996b7b35425d512 ++
      Sha256.bigEndian 32 0xb5e6fbe1bb065a5cca14a9d4e09c815e0cc7938691220ed5e19e0ba41b9550e9)
  sized := by simp [Sha256.length_bigEndian]

/-- SHA-256. -/
def packageSha256 (data : List UInt8) : Digest := ⟨Sha256.digest data, Sha256.length_digest data⟩

theorem firmware_built : (build (fun data => (packageSha256 data).bytes) firmwarePayload
    (.dict firmwareItems)).map (fun built => built.2.length) = some 776 := by
  decide +kernel

/-- The verification of the archive's signature. -/
def firmwareSignatureOk (key : FixedBytes 65) (message signature : List UInt8) : Bool :=
  key == firmwareKey &&
    message == canonicalJson (.dict (firmwareItems.filter fun item => item.1 ≠ chars "signature")) &&
    signature == Json.b64dec (utf8 ((getText firmwareItems "signature").getD []))

/-- The authority that signed the archive. -/
def firmwareAuthority : PackageAuthority := ⟨true, false, .literal "firmware-test-1", firmwareKey⟩

theorem firmware_shippable :
    Shippable firmwareSignatureOk firmwareItems [firmwareAuthority] 88 46 none where
  signed := ⟨_, _, firmwareAuthority, rfl, rfl, by decide +kernel, rfl, by decide +kernel⟩
  compatible := ⟨_, rfl, by decide +kernel⟩
  allowed := ⟨_, rfl, fun _ installed => nomatch installed⟩

/-- The firmware package is built, and the device refuses it. -/
theorem firmware_refused : ¬ ∀ (sha256 : List UInt8 → Digest)
    (signatureOk : FixedBytes 65 → List UInt8 → List UInt8 → Bool)
    (payloadRoot : List Char → Option (List UInt8)) (items : List (List Char × PyValue))
    (built : BuiltManifest) (archive : List UInt8),
    build (fun data => (sha256 data).bytes) payloadRoot (.dict items) = some (built, archive) →
    ∀ authorities firmwareApiMajor firmwareApiMinor installedVersion,
      Shippable signatureOk items authorities firmwareApiMajor firmwareApiMinor installedVersion →
      Accepts sha256 signatureOk built archive authorities firmwareApiMajor firmwareApiMinor
        installedVersion := by
  intro always
  obtain ⟨⟨built, archive⟩, isBuilt, -⟩ := Option.map_eq_some_iff.mp firmware_built
  obtain ⟨verified, accepted, -⟩ :=
    always _ _ _ _ _ _ isBuilt _ _ _ _ firmware_shippable
  exact PackageArchive.verifyArchive_refuses _ _ _ _ _ _ _ _ _ accepted

/-- It is refused under every authority. -/
theorem firmware_refused_always : ∃ built archive,
    build (fun data => (packageSha256 data).bytes) firmwarePayload (.dict firmwareItems) =
      some (built, archive) ∧
    ∀ authorities, ¬ Accepts packageSha256 firmwareSignatureOk built archive authorities 88 46
      none := by
  obtain ⟨⟨built, archive⟩, isBuilt, -⟩ := Option.map_eq_some_iff.mp firmware_built
  exact ⟨built, archive, isBuilt, fun authorities => built_refused isBuilt authorities 88 46 none⟩

end Firmware

end PackageBuilder

end PoisonedOS
