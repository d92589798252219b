import PoisonedOS.Archive.Builder
import PoisonedOS.Archive.Verify
import PoisonedOS.Library.TextOrder

/-!
# Bundles that are served

A package of content type `ui-pack` is served as a bundle. The device hashes the installed
files before it serves them, and the dashboard hashes what it received before it shows it.
Both compare the hash with the content digest of the manifest, which the archive was checked
against when it was installed and which the builder computed.

The installed files are a function of their full path; reads of a file succeed.
-/

namespace PoisonedOS

/-! ## The device -/

namespace JsBundle

/-- `POISON_JS_BUNDLE_MAX_PATH`. -/
def maxPath : Nat := 256

/-- `poison_js_bundle_path_valid`. -/
def pathValid (path : CString) : Bool :=
  !path.isEmpty && path.bytes.head? != some 47 && decide (path.length ≤ maxPath) &&
    ((path.bytes.splitOn 47).all fun segment =>
      segment != [] && segment != [46] && segment != [46, 46]) &&
    path.bytes.all fun byte => 32 ≤ byte && byte != 127 && byte != 92

/-- `poison_js_bundle_active_path`. -/
def activePath (activeRoot relativePath : CString) : Option CString :=
  if !pathValid relativePath then none
  else
    let path := (activeRoot.append (.literal "/")).append relativePath
    if path.length ≤ maxPath then some path else none

variable (sha256 : List UInt8 → Digest) (installed : CString → Option (List UInt8))

/-- One asset in `poison_js_bundle_verify_active_payloads`: what it adds to the hash of the
content. -/
def assetContent (activeRoot : CString) (asset : PayloadDescriptor) : Option (List UInt8) :=
  match activePath activeRoot asset.path with
  | none => none
  | some path =>
    match installed path with
    | none => none
    | some data =>
      if data.length != asset.size.toNat then none
      else if PackageArchive.hexEncode (sha256 data) != asset.sha256 then none
      else some (asset.path.terminated ++ data)

/-- The content digest in `poison_js_bundle_verify_active_payloads`. The paths of the assets are
distinct, so it does not matter how they are sorted. -/
def contentDigest (activeRoot : CString) (assets : List PayloadDescriptor) : Option CString :=
  ((assets.insertionSort fun left right => PackageArchive.pathLe left right = true).mapM
    (assetContent sha256 installed activeRoot)).map fun contents =>
      PackageArchive.hexEncode (sha256 contents.flatten)

/-- `poison_js_bundle_verify_active_payloads`. -/
def verifyActivePayloads (activeRoot : CString) (assets : List PayloadDescriptor)
    (declared : CString) : Bool :=
  contentDigest sha256 installed activeRoot assets == some declared

end JsBundle

/-! ## The dashboard -/

namespace BundleVerifier

/-- `ServedBundleAsset`. -/
structure ServedBundleAsset where
  path : List Char
  sha256 : List Char
  size : Nat
deriving DecidableEq

variable (sha256 : List UInt8 → Digest) (files : List Char → Option (List UInt8))

/-- `sha256`, as lower-case hexadecimal text. -/
def digestText (bytes : List UInt8) : List Char :=
  PackageBuilder.hexdigest (sha256 bytes).bytes

/-- The file of an asset is as the metadata has it. -/
def assetMatches (asset : ServedBundleAsset) : Bool :=
  match files asset.path with
  | none => false
  | some content =>
    content.length == asset.size && digestText sha256 content == asset.sha256

/-- The comparison of two paths: `<` on strings goes by their UTF-16 units. -/
def unitLe (left right : ServedBundleAsset) : Bool :=
  decide (Unicode.utf16 left.path ≤ Unicode.utf16 right.path)

/-- What is hashed: the assets by their paths. -/
def orderedContent (assets : List ServedBundleAsset) : List UInt8 :=
  (assets.insertionSort fun left right => unitLe left right = true).flatMap fun asset =>
    Unicode.utf8 asset.path ++ 0 :: (files asset.path).getD []

/-- The content digest in `verifyServedBundle`, where every asset is as the metadata has it. -/
def contentDigest (assets : List ServedBundleAsset) : Option (List Char) :=
  if assets.all (assetMatches sha256 files) then
    some (digestText sha256 (orderedContent files assets))
  else none

end BundleVerifier

end PoisonedOS
