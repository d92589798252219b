import PoisonedOS.Library.Text

/-!
# Verified archives

The description of an archive that archive verification fills in and that
import, staging and extraction read.
-/

namespace PoisonedOS

/-- `PoisonPackagePayloadDescriptor`. -/
structure PayloadDescriptor where
  path : CString
  sha256 : CString
  size : UInt32
deriving DecidableEq

/-- `PoisonPackageVerifiedArchive`; the two counts are the lengths of the lists. -/
structure VerifiedArchive where
  contentType : CString
  packageId : CString
  version : CString
  firmwareApi : CString
  entrypoint : CString
  contentSha256 : CString
  signingKeyId : CString
  archiveSha256 : CString
  capabilityMask : UInt64
  archiveBytes : UInt32
  releaseSequence : UInt32
  capabilities : List CString
  payloads : List PayloadDescriptor
deriving DecidableEq

end PoisonedOS
