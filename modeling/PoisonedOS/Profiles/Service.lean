import PoisonedOS.Profiles.Profile
import PoisonedOS.Library.Runs
import Mathlib.Logic.Function.Basic

/-!
# Previewing and applying profiles

All sessions share one store with the active profile and the one previewed last. A
preview validates a profile, puts it in the store and issues a confirmation of the
session, bound to the hash of the profile. An apply takes the profile from the store,
shows it to whoever stands at the device, has the confirmation approved and makes the
profile the active one.

Each handler runs as one step. The clock, the random token, the answer at the device and
the storage are the environment's.
-/

namespace PoisonedOS

/-- `PoisonProfileStore`. -/
structure ProfileStore where
  active : Profile
  preview : Profile
  previewValid : Bool
deriving DecidableEq

/-- `RpcPoisonProfiles`. -/
structure ProfileSession where
  confirmation : Confirmation
  previewId : CString
deriving DecidableEq

/-- The context `memset` leaves. -/
def ProfileSession.zero : ProfileSession := ⟨.zero, .literal ""⟩

/-- `poison_profile_preview`. -/
def profilePreview (environment : ProfileEnvironment) (store : ProfileStore) (profile : Profile)
    (roleCapabilityMask : UInt64) : Option ProfileStore :=
  if profileValidate environment profile roleCapabilityMask then
    some { store with preview := profile, previewValid := true }
  else none

/-- `poison_profile_apply`. -/
def profileApply (store : ProfileStore) : Option ProfileStore :=
  if store.previewValid then some { store with active := store.preview, previewValid := false }
  else none

/-- `poison_profiles_apply_global`: the candidate is saved, which validates it again for
every capability, before it becomes the store. -/
def profilesApplyGlobal (environment : ProfileEnvironment) (store : ProfileStore) (stored : Bool) :
    Option ProfileStore :=
  match profileApply store with
  | none => none
  | some candidate =>
    if profileValidate environment candidate.active 0xFFFFFFFFFFFFFFFF && stored then
      some candidate
    else none

/-- `rpc_poison_profile_digest`. -/
def profileDigest (sha256 : List UInt8 → Digest) (profile : Profile) (domain : CString) :
    Digest := sha256 (domain.terminated ++ profile.image)

/-- `rpc_poison_profile_digests`. -/
def profileDigests (sha256 : List UInt8 → Digest) (profile : Profile) : BoundDigests where
  command := profileDigest sha256 profile (.literal "profile.apply.command.v1")
  target := profileDigest sha256 profile (.literal "profile.apply.target.v1")
  consequence := profileDigest sha256 profile (.literal "profile.apply.consequence.v1")

/-- A digit of `%X`. -/
def upperHexDigit (value : Nat) : UInt8 := UInt8.ofNat (if value < 10 then 48 + value else 55 + value)

/-- `%08lX` of a 32-bit word. -/
def upperHex (value : UInt32) : List UInt8 :=
  (List.range 8).map fun place => upperHexDigit (value.toNat / 16 ^ (7 - place) % 16)

/-- The text of the dialog, where `unsigned long` has 32 bits. -/
def profileDialogText (profileId version : CString) (capabilityMask : UInt64) : List UInt8 :=
  profileId.bytes ++ (CString.literal "\nVersion ").bytes ++ version.bytes ++
    (CString.literal "\nCaps ").bytes ++ upperHex capabilityMask.toUInt32

/-- Who is asked at the device: the callback of the session, or the dialog. -/
inductive ProfileApprover where
  | callback (answer : CString → CString → UInt64 → Bool)
  | dialog (answer : List UInt8 → Bool)

/-- `rpc_session_request_profile_confirmation`. -/
def ProfileApprover.request (approver : ProfileApprover) (profileId version : CString)
    (capabilityMask : UInt64) : Bool :=
  match approver with
  | .callback answer => answer profileId version capabilityMask
  | .dialog answer => answer (profileDialogText profileId version capabilityMask)

/-- A preview request and what its handler reads: whether a secure dispatch is active and
of which session and role, the device, the clock and the token drawn. -/
structure ProfilePreviewRequest where
  session : Nat
  hasNext : Bool
  dispatchActive : Bool
  identity : Option (UInt64 × Role)
  message : ProfileMessage
  environment : ProfileEnvironment
  nowMs : UInt64
  token : Token

/-- An apply request and what its handler reads. -/
structure ProfileApplyRequest where
  session : Nat
  hasNext : Bool
  dispatchActive : Bool
  identity : Option (UInt64 × Role)
  profileId : CString
  confirmationToken : CString
  confirmationTokenBytes : List UInt8
  approver : ProfileApprover
  approvalNowMs : UInt64
  environment : ProfileEnvironment
  stored : Bool

/-- The policy version of profile confirmations. -/
def profilePolicyVersion : UInt32 := 1

/-- `rpc_poison_profile_apply_is_bounded`. -/
def profileApplyIsBounded (profileId confirmationToken : CString) : Bool :=
  !profileId.isEmpty && decide (profileId.length < 65) && decide (confirmationToken.length < 129)

namespace ProfileSession

variable (sha256 : List UInt8 → Digest) (session : ProfileSession) (store : ProfileStore)

/-- `rpc_poison_profile_preview_process`: whether the profile was previewed, and what is
left. -/
def previewProcess (request : ProfilePreviewRequest) : Bool × ProfileSession × ProfileStore :=
  if request.hasNext || !request.dispatchActive then (false, session, store)
  else
    match request.identity, profileFromPb request.message with
    | some (sessionId, role), some profile =>
      match profilePreview request.environment store profile (roleCapabilities role).toUInt64 with
      | none => (false, session, store)
      | some previewed =>
        match Confirmation.issue sessionId role (profileDigests sha256 profile)
            profilePolicyVersion request.nowMs confirmationMaxTtlMs true request.token with
        | none => (false, session, previewed)
        | some issued => (true, ⟨issued, profile.id⟩, previewed)
    | _, _ => (false, session, store)

/-- `prepared`: the identity of the session, when the apply is for the previewed
profile. -/
def prepare (request : ProfileApplyRequest) : Option (UInt64 × Role) :=
  if profileApplyIsBounded request.profileId request.confirmationToken &&
      request.confirmationToken.isEmpty &&
      request.confirmationTokenBytes.length == confirmationTokenBytes &&
      request.profileId == session.previewId && store.previewValid &&
      store.preview.id == request.profileId then
    request.identity
  else none

/-- `rpc_poison_profile_apply_process`: whether the profile was applied, and what is
left. -/
def applyProcess (request : ProfileApplyRequest) : Bool × ProfileSession × ProfileStore :=
  if request.hasNext || !request.dispatchActive then (false, session, store)
  else
    let refused : Bool × ProfileSession × ProfileStore :=
      (false, { session with previewId := .literal "" }, store)
    match session.prepare store request with
    | none => refused
    | some (sessionId, role) =>
      if !request.approver.request store.preview.id store.preview.version
          store.preview.capabilityMask then
        refused
      else
        match session.confirmation.approve sessionId role (profileDigests sha256 store.preview)
            request.confirmationTokenBytes profilePolicyVersion request.approvalNowMs true with
        | (.ok, approved) =>
          match profilesApplyGlobal request.environment store request.stored with
          | none => (false, ⟨approved, .literal ""⟩, store)
          | some applied => (true, ⟨approved, .literal ""⟩, applied)
        | (_, confirmation) => (false, ⟨confirmation, .literal ""⟩, store)

end ProfileSession

/-- What happens to the service: a request, or a session ends and its context is
freed. -/
inductive ProfileEvent where
  | preview (request : ProfilePreviewRequest)
  | apply (request : ProfileApplyRequest)
  | ended (session : Nat)

/-- The session an event is of. -/
def ProfileEvent.session : ProfileEvent → Nat
  | .preview request => request.session
  | .apply request => request.session
  | .ended session => session

/-- The contexts of all sessions and the store they share. -/
structure ProfileSystem where
  sessions : Nat → ProfileSession
  store : ProfileStore

namespace ProfileSystem

variable (sha256 : List UInt8 → Digest) (system : ProfileSystem)

def init (active preview : Profile) : ProfileSystem where
  sessions := fun _ => .zero
  store := ⟨active, preview, false⟩

/-- One event, on the context of its session. -/
def outcome (event : ProfileEvent) : Bool × ProfileSession × ProfileStore :=
  let session := system.sessions event.session
  match event with
  | .preview request => session.previewProcess sha256 system.store request
  | .apply request => session.applyProcess sha256 system.store request
  | .ended _ => (true, .zero, system.store)

/-- The system after one event. -/
def step (event : ProfileEvent) : ProfileSystem :=
  let (_, session, store) := system.outcome sha256 event
  { sessions := Function.update system.sessions event.session session
    store }

end ProfileSystem

end PoisonedOS
