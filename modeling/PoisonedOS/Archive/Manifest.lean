import PoisonedOS.Archive.Json
import PoisonedOS.Archive.Verified
import PoisonedOS.Session.Policy

/-!
# The manifest of a package

`poison_package_parse_manifest` reads the fields of a manifest with the JSON library, checks
them, finds the authority that signed it, and takes the signature out of the text. What is
left must be the canonical rendering of the fields that were read, and it is what the
signature is verified over.

The rendering is a parameter of the parse, so that a reader can see what depends on it: the
code prints it with `json_printf`, and that is `canonicalRendering`. The signature
verification of the microcontroller's library is a parameter too.
-/

namespace PoisonedOS

/-- `PoisonPackageArchiveResult` other than `Ok`. -/
inductive ArchiveError where
  | invalid
  | io
  | digestMismatch
  | unknownSigner
  | signatureInvalid
  | revokedSigner
  | incompatible
  | downgrade
deriving DecidableEq, Repr

/-- `PoisonPackageAuthority`. -/
structure PackageAuthority where
  active : Bool
  revoked : Bool
  keyId : CString
  publicKey : FixedBytes 65
deriving DecidableEq

/-- `POISON_PACKAGE_PAYLOAD_PATH_MAX`. -/
def packagePayloadPathMax : Nat := 256

/-- `POISON_PACKAGE_MANIFEST_MAX_BYTES`. -/
def packageManifestMaxBytes : Nat := 4096

namespace PackageManifest

/-- `POISON_PACKAGE_PAYLOAD_MAX`. -/
def packagePayloadMax : Nat := 32

/-- `poison_package_hex_digest_valid`. -/
def hexDigestValid (value : CString) : Bool := value.length == 64 && value.bytes.all isLowerHex

/-- `poison_package_copy_bounded`. -/
def copyBounded (capacity : Nat) (input : Option CString) : Option CString :=
  input.filter fun value => !value.isEmpty && decide (value.length < capacity)

/-- `poison_package_path_valid`. -/
def pathValid (path : CString) : Bool :=
  !path.isEmpty && path.bytes.head? != some 47 && !path.hasByte 92 &&
    decide (path.length ≤ packagePayloadPathMax) &&
    (path.bytes.splitOn 47).all (fun segment => segment ∉ [[], [46], [46, 46]]) &&
    path.bytes.all (32 ≤ ·)

/-- `poison_package_supported_content_type`. -/
def supportedContentType (value : CString) : Bool :=
  value ∈ ["application", "firmware", "lesson", "tool-data", "theme", "font", "icon", "font-icon",
    "menu", "resource", "ui-pack"].map CString.literal

/-- `%lu` of `sscanf`: the number and what follows it. -/
def scanLong (text : List UInt8) : Option (Nat × List UInt8) :=
  let start := text.dropWhile Json.isSpaceC
  let negative := start.head? == some 45
  let unsigned := if negative || start.head? == some 43 then start.tail else start
  if (unsigned.takeWhile isDigit).isEmpty then none
  else some (Json.ulong 10 negative (unsigned.takeWhile isDigit), unsigned.dropWhile isDigit)

/-- A literal byte of a format of `sscanf`. -/
def scanByte (byte : UInt8) (text : List UInt8) : Option (List UInt8) :=
  if text.head? = some byte then some text.tail else none

/-- `"%lu.%lu.%lu"`. -/
def scanTriple (text : List UInt8) : Option ((Nat × Nat × Nat) × List UInt8) := do
  let (major, text) ← scanLong text
  let (minor, text) ← scanLong (← scanByte 46 text)
  let (patch, text) ← scanLong (← scanByte 46 text)
  pure ((major, minor, patch), text)

/-- `poison_package_semver_parse`, and `semantic_version` of the verification. -/
def semverParse (value : CString) : Option (Nat × Nat × Nat) :=
  match scanTriple value.bytes with
  | some (version, []) => some version
  | _ => none

/-- `poison_package_semver_compare` is negative. -/
def semverLess (left right : Nat × Nat × Nat) : Bool :=
  left.1 < right.1 || (left.1 == right.1 &&
    (left.2.1 < right.2.1 || (left.2.1 == right.2.1 && left.2.2 < right.2.2)))

/-- `">=%lu.%lu.%lu <%lu.%lu.%lu"`. -/
def scanRange (text : List UInt8) : Option (((Nat × Nat × Nat) × (Nat × Nat × Nat)) × List UInt8) :=
  do
  let (minimum, text) ← scanTriple (← scanByte 61 (← scanByte 62 text))
  let (maximum, text) ← scanTriple (← scanByte 60 (text.dropWhile Json.isSpaceC))
  pure ((minimum, maximum), text)

/-- `poison_package_firmware_api_compatible`. -/
def firmwareApiCompatible (requirement : CString) (currentMajor currentMinor : UInt32) : Bool :=
  let current := (currentMajor.toNat, currentMinor.toNat, 0)
  currentMajor != 0 &&
    match scanRange requirement.bytes with
    | some ((lower, upper), []) => !semverLess current lower && semverLess current upper
    | _ =>
      match semverParse requirement with
      | none => false
      | some exact => current == exact

/-- The outcomes of `poison_package_verify_manifest` for a signer that is not revoked. -/
inductive VerifyResult where
  | ok
  | invalid
  | downgrade
deriving DecidableEq, Repr

/-- `poison_package_verify_manifest` for a signer that is not revoked. -/
def verifyManifest (packageId version entrypoint contentSha256 signingKeyId : CString)
    (installedVersion : Option CString) : VerifyResult :=
  if packageId.isEmpty || version.isEmpty || entrypoint.isEmpty || signingKeyId.isEmpty ||
      entrypoint.bytes.head? == some 47 || entrypoint.contains (CString.literal "..") then
    .invalid
  else
    match semverParse version with
    | none => .invalid
    | some parsed =>
      if !hexDigestValid contentSha256 then .invalid
      else
        match installedVersion with
        | none => .ok
        | some installed =>
          match semverParse installed with
          | none => .invalid
          | some other => if semverLess parsed other then .downgrade else .ok

/-- The bits of a capability, by its name. -/
def capabilityBit (capability : CString) : Option UInt64 :=
  let is (name : String) : Bool := capability == CString.literal name
  let starts (lead : String) : Bool := capability.startsWith (CString.literal lead)
  if is "status" || is "device.status.read" || starts "device.read" then some 1
  else if is "control" || starts "ui." || starts "runtime." || starts "notification." ||
      starts "crypto." || starts "compute." then
    some 2
  else if is "launch" || is "device.app.run" || starts "app." then some 4
  else if is "files" || starts "storage." then some 8
  else if is "evidence" || starts "evidence." then some 16
  else if is "radio" || starts "radio." || starts "nfc." || starts "lf-rfid." ||
      starts "ibutton." || starts "infrared." || starts "sub-ghz." || starts "gpio." ||
      starts "serial." || starts "ble." then
    some 32
  else if is "native" || starts "native." || starts "badusb." || starts "usb-hid." then some 64
  else if is "destructive" then some 128
  else none

/-- `poison_package_capability_name`: the bits it adds to the mask. -/
def capabilityName (capability : CString) : Option UInt64 :=
  let has (part : String) : Bool := capability.contains (CString.literal part)
  if capability.isEmpty || decide (capability.length > 64) then none
  else
    (capabilityBit capability).map fun bit =>
      if has ".write" || has ".transmit" || has ".emulate" || has ".execute" || has ".flash" ||
          has ".delete" || has ".remove" then
        bit ||| 128
      else bit

/-- The first place of a text in another one: what is before it and what is after. -/
def splitFirst (needle : List UInt8) : List UInt8 → Option (List UInt8 × List UInt8)
  | [] => if needle = [] then some ([], []) else none
  | byte :: rest =>
    if needle.isPrefixOf (byte :: rest) then some ([], (byte :: rest).drop needle.length)
    else (splitFirst needle rest).map fun (before, after) => (byte :: before, after)

/-- `,"signature":"`. -/
def signatureMarker : List UInt8 := (CString.literal ",\"signature\":\"").bytes

/-- A character of Base64. -/
def isBase64 (byte : UInt8) : Bool :=
  isUpper byte || isLower byte || isDigit byte || byte == 43 || byte == 47 || byte == 61

/-- `poison_package_canonical_unsigned`. The search ends at a zero byte. -/
def canonicalUnsigned (manifest : List UInt8) : Option (List UInt8) :=
  let length := manifest.length
  if length < 3 || length > packageManifestMaxBytes || manifest.head? != some 123 ||
      manifest.drop (length - 2) != [125, 10] then
    none
  else
    let text := manifest.takeWhile (· != 0)
    match splitFirst signatureMarker text with
    | none => none
    | some (before, value) =>
      if (splitFirst signatureMarker value).isSome then none
      else
        let signature := value.takeWhile (· != 34)
        match value.dropWhile (· != 34) with
        | 34 :: 44 :: rest =>
          if before.length + signatureMarker.length + signature.length + 2 < length &&
              signature.all isBase64 then
            some (before ++ 44 :: rest ++ manifest.drop text.length)
          else none
        | _ => none

/-- `poison_package_find_authority_any`. -/
def findAuthorityAny (authorities : List PackageAuthority) (keyId : CString) :
    Option PackageAuthority :=
  authorities.find? fun authority => authority.active && authority.keyId == keyId

/-- The capabilities as `json_printf` prints them. -/
def renderCapabilities (capabilities : List CString) : List UInt8 :=
  ((capabilities.map fun capability =>
    Json.printf (CString.literal "%Q") [.text capability]).intersperse
      (Json.printf (CString.literal ",") [])).flatten

/-- The payloads as `json_printf` prints them. -/
def renderPayloads (payloads : List PayloadDescriptor) : List UInt8 :=
  ((payloads.map fun payload =>
    Json.printf (CString.literal "\x7b\"path\":%Q,\"sha256\":%Q,\"size\":%lu\x7d")
      [.text payload.path, .text payload.sha256, .unsigned payload.size.toNat]).intersperse
        (Json.printf (CString.literal ",") [])).flatten

/-- What `poison_package_manifest_is_canonical` prints. -/
def canonicalRendering (verified : VerifiedArchive) : List UInt8 :=
  Json.printf (CString.literal "\x7b\"capabilities\":[") [] ++
    renderCapabilities verified.capabilities ++
    Json.printf (CString.literal ("],\"contentSha256\":%Q,\"contentType\":%Q,\"entrypoint\":%Q," ++
        "\"firmwareApi\":%Q,\"id\":%Q,\"packageFormat\":1,\"payloads\":["))
      [.text verified.contentSha256, .text verified.contentType, .text verified.entrypoint,
        .text verified.firmwareApi, .text verified.packageId] ++
    renderPayloads verified.payloads ++
    Json.printf (CString.literal ("],\"releaseSequence\":%lu,\"signingKeyId\":%Q," ++
        "\"version\":%Q\x7d\n"))
      [.unsigned verified.releaseSequence.toNat, .text verified.signingKeyId,
        .text verified.version]

/-- What `json_scanf` reads of a manifest. -/
structure Scanned where
  conversions : Nat
  packageFormat : Nat
  contentType : Option CString
  packageId : Option CString
  version : Option CString
  firmwareApi : Option CString
  entrypoint : Option CString
  contentSha256 : Option CString
  signingKeyId : Option CString
  releaseSequence : Nat
  signature : List UInt8

/-- The format of `poison_package_parse_manifest`. -/
def scanned (events : List JsonEvent) : Scanned :=
  let packageFormat := Json.scanUnsigned events (CString.literal ".packageFormat")
  let contentType := Json.scanText events (CString.literal ".contentType")
  let packageId := Json.scanText events (CString.literal ".id")
  let version := Json.scanText events (CString.literal ".version")
  let firmwareApi := Json.scanText events (CString.literal ".firmwareApi")
  let entrypoint := Json.scanText events (CString.literal ".entrypoint")
  let contentSha256 := Json.scanText events (CString.literal ".contentSha256")
  let signingKeyId := Json.scanText events (CString.literal ".signingKeyId")
  let releaseSequence := Json.scanUnsigned events (CString.literal ".releaseSequence")
  let signature := Json.scanBase64 events (CString.literal ".signature")
  { conversions := packageFormat.1 + contentType.1 + packageId.1 + version.1 + firmwareApi.1 +
      entrypoint.1 + contentSha256.1 + signingKeyId.1 + releaseSequence.1 + signature.1
    packageFormat := packageFormat.2.getD 0
    contentType := contentType.2
    packageId := packageId.2
    version := version.2
    firmwareApi := firmwareApi.2
    entrypoint := entrypoint.2
    contentSha256 := contentSha256.2
    signingKeyId := signingKeyId.2
    releaseSequence := releaseSequence.2.getD 0
    signature := signature.2.getD [] }

/-- The first checks of `poison_package_parse_manifest`, and the fields they copy. -/
def Scanned.fields (scanned : Scanned) : Option VerifiedArchive :=
  if scanned.conversions != 10 || scanned.packageFormat != 1 || scanned.releaseSequence == 0 then
    none
  else do
    let contentType ← copyBounded 33 (scanned.contentType.filter supportedContentType)
    let packageId ← copyBounded 65 scanned.packageId
    let version ← copyBounded 33 scanned.version
    let firmwareApi ← copyBounded 65 scanned.firmwareApi
    let entrypoint ← copyBounded 257 scanned.entrypoint
    let contentSha256 ← copyBounded 65 scanned.contentSha256
    let signingKeyId ← copyBounded 65 scanned.signingKeyId
    if !pathValid entrypoint || !hexDigestValid contentSha256 || scanned.signature.isEmpty ||
        decide (scanned.signature.length > 80) then
      none
    else
      some
        { contentType, packageId, version, firmwareApi, entrypoint, contentSha256, signingKeyId
          archiveSha256 := .literal ""
          capabilityMask := 0
          archiveBytes := 0
          releaseSequence := UInt32.ofNat scanned.releaseSequence
          capabilities := []
          payloads := [] }

/-- One element of the payloads, read from its own text. -/
def payloadOf (token : JsonEvent) : Option PayloadDescriptor :=
  match token.type, token.value with
  | .objectEnd, some text =>
    let events := Json.walk text
    let path := Json.scanText events (CString.literal ".path")
    let sha256 := Json.scanText events (CString.literal ".sha256")
    let size := Json.scanUnsigned events (CString.literal ".size")
    if path.1 + sha256.1 + size.1 != 3 then none
    else do
      let path ← copyBounded 257 (path.2.filter pathValid)
      let sha256 ← copyBounded 65 (sha256.2.filter hexDigestValid)
      some { path, sha256, size := UInt32.ofNat (size.2.getD 0) }
  | _, _ => none

/-- The loop over the payloads, with those that were read and the number of rounds left. -/
def payloadLoop (events : List JsonEvent) (prior : List PayloadDescriptor) :
    Nat → Option (List PayloadDescriptor)
  | 0 => some prior
  | rounds + 1 =>
    match Json.arrayElem events (CString.literal ".payloads") prior.length with
    | none => some prior
    | some token =>
      match payloadOf token with
      | none => none
      | some payload =>
        if prior.any (·.path == payload.path) then none
        else payloadLoop events (prior ++ [payload]) rounds

/-- The payloads of a manifest, and the checks of them. -/
def payloads (events : List JsonEvent) (entrypoint : CString) : Option (List PayloadDescriptor) :=
  (payloadLoop events [] packagePayloadMax).filter fun payloads =>
    !payloads.isEmpty &&
      (Json.arrayElem events (CString.literal ".payloads") packagePayloadMax).isNone &&
      payloads.any (·.path == entrypoint)

/-- One element of the capabilities. -/
def capabilityOf (token : JsonEvent) : Option CString :=
  match token.type, token.value with
  | .string, some text =>
    if text.isEmpty || decide (text.length > 64) then none
    else
      (Json.unescape (text.length + 1) text).bind fun decoded =>
        if decoded.isEmpty || decide (decoded.length > 64) then none
        else some (CString.ofBytes decoded)
  | _, _ => none

def capabilityLoop (events : List JsonEvent) (prior : List CString) (mask : UInt64) :
    Nat → Option (List CString × UInt64)
  | 0 => some (prior, mask)
  | rounds + 1 =>
    match Json.arrayElem events (CString.literal ".capabilities") prior.length with
    | none => some (prior, mask)
    | some token =>
      match capabilityOf token with
      | none => none
      | some capability =>
        match capabilityName capability with
        | none => none
        | some bits =>
          if prior.contains capability then none
          else capabilityLoop events (prior ++ [capability]) (mask ||| bits) rounds

section Parse

variable (rendering : VerifiedArchive → List UInt8)
variable (signatureOk : FixedBytes 65 → List UInt8 → List UInt8 → Bool)

/-- The last part of `poison_package_parse_manifest`: the authority, the canonical form and
the signature. -/
def signed (manifest signature : List UInt8) (authorities : List PackageAuthority)
    (verified : VerifiedArchive) : Except ArchiveError VerifiedArchive :=
  match findAuthorityAny authorities verified.signingKeyId with
  | none => .error .unknownSigner
  | some authority =>
    if authority.revoked then .error .revokedSigner
    else
      match canonicalUnsigned manifest with
      | none => .error .invalid
      | some unsigned =>
        if rendering verified != unsigned ||
            decide (unsigned.length > packageManifestMaxBytes) then
          .error .invalid
        else if signatureOk authority.publicKey unsigned signature then .ok verified
        else .error .signatureInvalid

/-- `poison_package_parse_manifest`. -/
def parseManifest (manifest : List UInt8) (authorities : List PackageAuthority)
    (firmwareApiMajor firmwareApiMinor : UInt32) (installedVersion : Option CString) :
    Except ArchiveError VerifiedArchive :=
  let events := Json.walk manifest
  match (scanned events).fields with
  | none => .error .invalid
  | some fields =>
    if verifyManifest fields.packageId fields.version fields.entrypoint fields.contentSha256
        fields.signingKeyId installedVersion = .downgrade then
      .error .downgrade
    else if !firmwareApiCompatible fields.firmwareApi firmwareApiMajor firmwareApiMinor then
      .error .incompatible
    else
      match payloads events fields.entrypoint, capabilityLoop events [] 0 32 with
      | some payloads, some (capabilities, capabilityMask) =>
        signed rendering signatureOk manifest (scanned events).signature authorities
          { fields with payloads, capabilities, capabilityMask }
      | _, _ => .error .invalid

end Parse

end PackageManifest

end PoisonedOS
