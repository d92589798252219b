import Mathlib.Data.List.Lex
import Mathlib.Data.List.Sort
import PoisonedOS.Library.Bytes
import PoisonedOS.Library.Sha256

/-!
# The builder of packages

`build_package.py` reads a manifest, validates it, compares the digests of the payload files
with it, and writes the manifest and the payloads into a stored zip file. Python's strings
are lists of characters, and its dictionaries lists of items; `json.dumps` and `zipfile` are
modelled by what they write here. A function that raises has no result.
-/

namespace PoisonedOS

/-- A value `json.loads` returns. A number with a point or an exponent is known by its text,
and by the integer it equals, if any. -/
inductive PyValue where
  | none
  | bool (value : Bool)
  | int (value : Int)
  | float (integral : Option Int) (text : List Char)
  | str (text : List Char)
  | list (values : List PyValue)
  | dict (items : List (List Char × PyValue))

namespace PackageBuilder

/-- The characters of a literal. -/
def chars (text : String) : List Char := text.toList

/-- `"".join` with a separator. -/
def join (separator : List Char) (parts : List (List Char)) : List Char :=
  (parts.intersperse separator).flatten

/-- `str` of an integer. -/
def intText (value : Int) : List Char :=
  match value with
  | .ofNat number => Nat.toDigits 10 number
  | .negSucc number => '-' :: Nat.toDigits 10 (number + 1)

/-- The escapes of `json.dumps` that does not ensure ASCII. -/
def escapeChar (character : Char) : List Char :=
  if character = '"' then chars "\\\""
  else if character = '\\' then chars "\\\\"
  else if character.toNat = 10 then chars "\\n"
  else if character.toNat = 13 then chars "\\r"
  else if character.toNat = 9 then chars "\\t"
  else if character.toNat = 12 then chars "\\f"
  else if character.toNat = 8 then chars "\\b"
  else if character.toNat < 32 then
    chars "\\u00" ++ [Nat.digitChar (character.toNat / 16), Nat.digitChar (character.toNat % 16)]
  else [character]

/-- A string in quotation marks. -/
def quoted (text : List Char) : List Char := '"' :: text.flatMap escapeChar ++ ['"']

/-- The order of keys and paths, by code points. -/
def textLe (left right : List Char) : Bool :=
  decide (left.map Char.toNat ≤ right.map Char.toNat)

mutual

/-- `json.dumps` with sorted keys and without spaces. -/
def dumps : PyValue → List Char
  | .none => chars "null"
  | .bool value => chars (if value then "true" else "false")
  | .int value => intText value
  | .float _ text => text
  | .str text => quoted text
  | .list values => '[' :: join [','] (dumpsList values) ++ [']']
  | .dict items =>
    let sorted := (dumpsItems items).insertionSort fun left right => textLe left.1 right.1 = true
    Char.ofNat 123 :: join [','] (sorted.map fun (key, value) => quoted key ++ ':' :: value) ++
      [Char.ofNat 125]

def dumpsList : List PyValue → List (List Char)
  | [] => []
  | value :: rest => dumps value :: dumpsList rest

def dumpsItems : List (List Char × PyValue) → List (List Char × List Char)
  | [] => []
  | item :: rest => dumpsItem item :: dumpsItems rest

def dumpsItem : List Char × PyValue → List Char × List Char
  | (key, value) => (key, dumps value)

end

/-- `.encode("utf-8")`. -/
def utf8 (text : List Char) : List UInt8 := text.flatMap String.utf8EncodeChar

/-- `canonical_json`. -/
def canonicalJson (value : PyValue) : List UInt8 := utf8 (dumps value ++ ['\n'])

/-- `manifest.get(key)`. -/
def get (items : List (List Char × PyValue)) (key : String) : Option PyValue :=
  (items.find? fun item => item.1 = chars key).map Prod.snd

/-- The string under a key. -/
def getText (items : List (List Char × PyValue)) (key : String) : Option (List Char) :=
  match get items key with
  | some (.str text) => some text
  | _ => none

/-- The integer under a key. A boolean is not one. -/
def getInt (items : List (List Char × PyValue)) (key : String) : Option Int :=
  match get items key with
  | some (.int value) => some value
  | _ => none

/-- The list under a key. -/
def getList (items : List (List Char × PyValue)) (key : String) : Option (List PyValue) :=
  match get items key with
  | some (.list values) => some values
  | _ => none

/-- `ALLOWED_TYPES`. -/
def allowedTypes : List (List Char) :=
  ["application", "firmware", "lesson", "tool-data", "theme", "font", "icon", "font-icon", "menu",
    "resource", "ui-pack"].map chars

/-- `REQUIRED_FIELDS`. -/
def requiredFields : List (List Char) :=
  ["packageFormat", "contentType", "id", "version", "firmwareApi", "payloads", "entrypoint",
    "capabilities", "contentSha256", "signingKeyId", "releaseSequence"].map chars

/-- `PAYLOAD_FIELDS`. -/
def payloadFields : List (List Char) := ["path", "sha256", "size"].map chars

/-- `MANIFEST_MAX_BYTES`. -/
def manifestMaxBytes : Nat := 4096

/-- `ARCHIVE_MAX_BYTES`. -/
def archiveMaxBytes : Nat := 4 * 1024 * 1024

/-- `UINT32_MAX`. -/
def uint32Max : Nat := 0xFFFFFFFF

/-- `[a-z0-9]`. -/
def isLowerOrDigit (character : Char) : Bool :=
  ('a' ≤ character && character ≤ 'z') || ('0' ≤ character && character ≤ '9')

/-- `IDENTIFIER`. -/
def isIdentifier (text : List Char) : Bool :=
  match text with
  | [] => false
  | first :: rest =>
    isLowerOrDigit first && decide (rest.length ≤ 63) &&
      rest.all fun character => isLowerOrDigit character || character ∈ ['.', '_', '-']

/-- `_digest`. -/
def isDigest (text : List Char) : Bool :=
  text.length == 64 && text.all (· ∈ chars "0123456789abcdef")

/-- `int` of decimal digits. -/
def intOf (digits : List Char) : Nat :=
  digits.foldl (fun value digit => value * 10 + (digit.toNat - 48)) 0

/-- `_semantic_version`. -/
def isSemanticVersion (text : List Char) : Bool :=
  let parts := text.splitOn '.'
  decide (text.length ≤ 32) && parts.length == 3 &&
    parts.all fun part => !part.isEmpty && part.all Char.isDigit && decide (intOf part ≤ uint32Max)

/-- `_firmware_api`. -/
def isFirmwareApi (text : List Char) : Bool :=
  decide (text.length ≤ 64) &&
    match text.splitOn ' ' with
    | [version] => isSemanticVersion version
    | ['>' :: '=' :: lower, '<' :: upper] => isSemanticVersion lower && isSemanticVersion upper
    | _ => false

/-- `_path`. -/
def isPath (text : List Char) : Bool :=
  !text.isEmpty && decide (text.length ≤ 256) && text.head? != some '/' &&
    text.all (fun character => character.toNat < 128 && character.toNat ≥ 32 && character ≠ '\\') &&
    (text.splitOn '/').all fun segment => segment ∉ [[], ['.'], ['.', '.']]

/-- `_capability`. -/
def isCapability (text : List Char) : Bool :=
  let exact := ["status", "device.status.read", "control", "launch", "device.app.run", "files",
    "evidence", "radio", "native", "destructive"].map chars
  let prefixes := ["device.read", "ui.", "runtime.", "notification.", "crypto.", "compute.", "app.",
    "storage.", "evidence.", "radio.", "nfc.", "lf-rfid.", "ibutton.", "infrared.", "sub-ghz.",
    "gpio.", "serial.", "ble.", "native.", "badusb.", "usb-hid."].map chars
  decide (1 ≤ text.length) && decide (text.length ≤ 64) &&
    (exact.contains text || prefixes.any fun lead => lead.isPrefixOf text)

/-- A character of Base64 other than the padding. -/
def isBase64Char (character : Char) : Bool := character.isAlphanum || character ∈ ['+', '/']

/-- The length of `base64.b64decode(text, validate=True)`. -/
def base64Length (text : List Char) : Option Nat :=
  let body := text.takeWhile isBase64Char
  let padding := text.dropWhile isBase64Char
  if text.length % 4 = 0 ∧ padding ∈ [[], ['='], ['=', '=']] then
    some (text.length / 4 * 3 - padding.length)
  else if body.isEmpty ∧ padding.isEmpty then some 0
  else none

/-- A payload of a valid manifest. -/
structure BuiltPayload where
  path : List Char
  sha256 : List Char
  size : Nat
deriving DecidableEq

def payloadOf (paths : List (List Char)) (value : PyValue) : Option BuiltPayload :=
  match value with
  | .dict items => do
    let path ← getText items "path"
    let sha256 ← getText items "sha256"
    let size ← getInt items "size"
    if items.length = 3 ∧ (items.map Prod.fst).all payloadFields.contains ∧ isPath path ∧
        path ∉ paths ∧ isDigest sha256 ∧ 0 ≤ size ∧ size ≤ uint32Max then
      some { path, sha256, size := size.toNat }
    else none
  | _ => none

/-- The loop over the payloads, with those before. -/
def payloadsOf (prior : List BuiltPayload) : List PyValue → Option (List BuiltPayload)
  | [] => some prior
  | value :: rest =>
    match payloadOf (prior.map BuiltPayload.path) value with
    | none => none
    | some payload => payloadsOf (prior ++ [payload]) rest

/-- The fields of a valid manifest that the device reports. -/
structure BuiltManifest where
  id : List Char
  version : List Char
  entrypoint : List Char
  contentSha256 : List Char
  capabilities : List (List Char)
  payloads : List BuiltPayload
deriving DecidableEq

/-- The value is the number 1, and not `True`. -/
def isOne : PyValue → Bool
  | .int value => value == 1
  | .float (some value) _ => value == 1
  | _ => false

/-- The texts of a list of texts. -/
def textsOf : List PyValue → Option (List (List Char))
  | [] => some []
  | .str text :: rest => (textsOf rest).map (text :: ·)
  | _ => none

/-- The signature of a manifest may be missing. -/
def signatureValid (items : List (List Char × PyValue)) : Bool :=
  match get items "signature" with
  | none => true
  | some (.str text) =>
    decide (text.length ≤ 512) &&
      (base64Length text).any fun length => decide (1 ≤ length) && decide (length ≤ 80)
  | _ => false

/-- The bytes of the archive that `validate_manifest` expects. -/
def expectedBytes (manifest : PyValue) (payloads : List BuiltPayload) : Nat :=
  (payloads.map BuiltPayload.size).sum + (canonicalJson manifest).length + 22 +
    ((chars "manifest.json" :: payloads.map BuiltPayload.path).map fun name =>
      76 + 2 * name.length).sum

/-- `validate_manifest`. -/
def validateManifest (manifest : PyValue) : Option BuiltManifest :=
  match manifest with
  | .dict items => do
    let contentType ← getText items "contentType"
    let id ← getText items "id"
    let version ← getText items "version"
    let firmwareApi ← getText items "firmwareApi"
    let signingKeyId ← getText items "signingKeyId"
    let entrypoint ← getText items "entrypoint"
    let contentSha256 ← getText items "contentSha256"
    let releaseSequence ← getInt items "releaseSequence"
    let payloads ← payloadsOf [] (← getList items "payloads")
    let capabilities ← textsOf (← getList items "capabilities")
    if (items.map Prod.fst).Nodup ∧ requiredFields.all (items.map Prod.fst).contains ∧
        (items.map Prod.fst).all (fun key => requiredFields.contains key || key = chars "signature") ∧
        (get items "packageFormat").any isOne ∧ allowedTypes.contains contentType ∧
        isIdentifier id ∧ isSemanticVersion version ∧ isFirmwareApi firmwareApi ∧
        isIdentifier signingKeyId ∧ 1 ≤ payloads.length ∧ payloads.length ≤ 32 ∧
        entrypoint ∈ payloads.map BuiltPayload.path ∧
        1 ≤ releaseSequence ∧ releaseSequence ≤ uint32Max ∧ isDigest contentSha256 ∧
        capabilities.length ≤ 32 ∧ capabilities.all isCapability ∧ capabilities.Nodup ∧
        signatureValid items ∧ (canonicalJson manifest).length ≤ manifestMaxBytes ∧
        expectedBytes manifest payloads ≤ archiveMaxBytes then
      some { id, version, entrypoint, contentSha256, capabilities, payloads }
    else none
  | _ => none

/-- One step of CRC-32. -/
def crcStep (crc : Nat) : Nat := if crc % 2 = 1 then crc / 2 ^^^ 0xedb88320 else crc / 2

/-- CRC-32. -/
def crc32 (data : List UInt8) : Nat :=
  data.foldl (fun crc byte => Nat.iterate crcStep 8 (crc ^^^ byte.toNat)) 0xffffffff ^^^ 0xffffffff

/-- The fields of a header, with their widths. -/
def header (fields : List (Nat × Nat)) : List UInt8 :=
  fields.flatMap fun (width, value) => littleEndian width value

/-- A local record. -/
def localRecord (name : List Char) (data : List UInt8) : List UInt8 :=
  header [(4, 0x04034b50), (2, 20), (2, 0), (2, 0), (2, 0), (2, 33), (4, crc32 data),
    (4, data.length), (4, data.length), (2, (utf8 name).length), (2, 0)] ++ utf8 name ++ data

/-- A record of the central directory. -/
def centralRecord (name : List Char) (data : List UInt8) (offset : Nat) : List UInt8 :=
  header [(4, 0x02014b50), (1, 20), (1, 3), (2, 20), (2, 0), (2, 0), (2, 0), (2, 33),
    (4, crc32 data), (4, data.length), (4, data.length), (2, (utf8 name).length), (2, 0), (2, 0),
    (2, 0), (2, 0), (4, 0o100644 * 2 ^ 16), (4, offset)] ++ utf8 name

def records : Nat → List (List Char × List UInt8) → List UInt8 × List UInt8
  | _, [] => ([], [])
  | offset, (name, data) :: rest =>
    let localPart := localRecord name data
    let following := records (offset + localPart.length) rest
    (localPart ++ following.1, centralRecord name data offset ++ following.2)

/-- `zipfile.ZipFile` with the members stored. -/
def storedZip (members : List (List Char × List UInt8)) : List UInt8 :=
  let (localPart, central) := records 0 members
  localPart ++ central ++
    header [(4, 0x06054b50), (2, 0), (2, 0), (2, members.length), (2, members.length),
      (4, central.length), (4, localPart.length), (2, 0)]

/-- A digest in hexadecimal. -/
def hexdigest (digest : List UInt8) : List Char :=
  digest.flatMap fun byte => [Nat.digitChar (byte.toNat / 16), Nat.digitChar (byte.toNat % 16)]

/-- The payloads by their paths. -/
def sortedPayloads (payloads : List BuiltPayload) : List BuiltPayload :=
  payloads.insertionSort fun left right => textLe left.path right.path = true

section Build

variable (sha256 : List UInt8 → List UInt8) (payloadRoot : List Char → Option (List UInt8))

/-- One payload in `content_digest`: its file, if it is as declared. -/
def payloadData (payload : BuiltPayload) : Option (List UInt8) :=
  (payloadRoot payload.path).filter fun data =>
    data.length == payload.size && hexdigest (sha256 data) == payload.sha256

/-- `content_digest`. -/
def contentDigest (payloads : List BuiltPayload) : Option (List Char) :=
  ((sortedPayloads payloads).mapM fun payload =>
    (payloadData sha256 payloadRoot payload).map fun data => utf8 payload.path ++ 0 :: data).map
      fun contents => hexdigest (sha256 contents.flatten)

/-- `build`: the manifest as it was validated, and the bytes of the archive. -/
def build (manifest : PyValue) : Option (BuiltManifest × List UInt8) := do
  let valid ← validateManifest manifest
  let digest ← contentDigest sha256 payloadRoot valid.payloads
  let members ← (sortedPayloads valid.payloads).mapM fun payload =>
    (payloadRoot payload.path).map fun data => (payload.path, data)
  let archive := storedZip ((chars "manifest.json", canonicalJson manifest) :: members)
  if digest = valid.contentSha256 ∧ archive.length ≤ archiveMaxBytes then some (valid, archive)
  else none

end Build

end PackageBuilder

end PoisonedOS
