import PoisonedOS.Session.Handshake
import PoisonedOS.Session.Resume

/-!
# The pairing system of an RPC session

Each RPC session has a handshake, the token it gave its client, and three flags:
whether the registry was ready, whether the client of the last hello is one the
registry knows under the same role and name, and whether the session was counted
for its client. The handlers of the pairing messages and of a resume work on these,
on the registry and on the resume slots.

Whether a write of the registry is saved and what the user answers are arguments.
The random source of a token may fail.
-/

namespace PoisonedOS

/-- `RpcPoisonSystem`, without the pointers to what all sessions share. -/
structure PoisonSystem where
  handshake : PairingHandshake
  resumeToken : ResumeToken
  resumeIssued : Bool
  pairingStoreReady : Bool
  trustedIdentity : Bool
  identitySessionCounted : Bool
deriving DecidableEq

/-- `poison_pairing_registry_find` of a registry that was initialized. -/
def PairingDevice.registryFind (device : PairingDevice) (keyDigest : Digest) :
    Option PairingRecord :=
  if device.registry.ready then device.registry.store.find keyDigest else none

/-- What becomes of a write of the registry while the device stays on. -/
def savedOutcome (saved : Bool) : WriteOutcome := if saved then .complete else .refused

/-- `PB_Poison_ResumeRequest`. -/
structure ResumeRequest where
  sessionId : UInt64
  resumeToken : List UInt8
  lastReceivedSequence : UInt64
deriving DecidableEq

namespace PoisonSystem

/-- `rpc_system_poison_alloc`. -/
def alloc (device : PairingDevice) : PoisonSystem where
  handshake := .zero
  resumeToken := .zero _
  resumeIssued := false
  pairingStoreReady := device.registry.ready
  trustedIdentity := false
  identitySessionCounted := false

/-- Replace the secure session. -/
def setSession (system : PoisonSystem) (session : PoisonSession) : PoisonSystem :=
  { system with handshake := { system.handshake with session } }

/-- `poison_session_revoke` of the secure session. -/
def revoke (system : PoisonSystem) : PoisonSystem :=
  system.setSession system.handshake.session.revoke

/-- `rpc_poison_identity_allowed`. -/
def identityAllowed (system : PoisonSystem) (device : PairingDevice) : Bool :=
  system.pairingStoreReady &&
    (device.registryFind system.handshake.session.clientIdentityDigest).isSome

/-- A client is trusted whose record has the role and the name it asks for. -/
def trusts (device : PairingDevice) (handshake : PairingHandshake) : Bool :=
  (device.registryFind handshake.clientIdentityDigest).any fun record =>
    record.role == handshake.requestedRole && record.clientName == handshake.clientName

section Handlers

variable (crypto : SessionCrypto) (authenticate : PairingDiskBody → Digest)

/-- `rpc_poison_count_identity_session`. -/
def countIdentitySession (system : PoisonSystem) (device : PairingDevice) :
    Bool × PoisonSystem × PairingDevice :=
  if system.identitySessionCounted then (false, system, device)
  else
    match device.registrySessionOpen authenticate
        system.handshake.session.clientIdentityDigest with
    | (true, device) => (true, { system with identitySessionCounted := true }, device)
    | (false, device) => (false, system, device)

/-- `rpc_poison_pairing_hello_process`: the challenge, if there is one. -/
def helloProcess (system : PoisonSystem) (device : PairingDevice) (hello : PairingHello)
    (nowMs : UInt64) (entropy : PairingEntropy) : Option PairingChallenge × PoisonSystem :=
  if !system.pairingStoreReady then (none, system)
  else
    match pairingBegin crypto system.handshake hello nowMs entropy with
    | (none, handshake) => (none, { system with handshake })
    | (some challenge, handshake) =>
      (some challenge, { system with handshake, trustedIdentity := trusts device handshake })

/-- The last part of `rpc_poison_pairing_confirm_process`: the session of a completed
handshake is counted, or revoked. -/
def countOrRevoke (system : PoisonSystem) (device : PairingDevice) :
    Bool × PoisonSystem × PairingDevice :=
  match system.countIdentitySession authenticate device with
  | (true, system, device) => (true, system, device)
  | (false, system, device) => (false, system.revoke, device)

/-- `rpc_poison_pairing_confirm_process`: whether the client is paired. The user is
asked unless the client is trusted. -/
def confirmProcess (system : PoisonSystem) (device : PairingDevice) (confirm : PairingConfirm)
    (nowMs : UInt64) (answer saved : Bool) : Bool × PoisonSystem × PairingDevice :=
  if !system.handshake.pending then (false, system, device)
  else
    let deviceApproved := system.trustedIdentity || answer
    match pairingComplete crypto system.handshake confirm nowMs deviceApproved with
    | (false, handshake) => (false, { system with handshake }, device)
    | (true, handshake) =>
      let system := { system with handshake }
      if system.trustedIdentity then system.countOrRevoke authenticate device
      else
        match device.registryAdd authenticate handshake.clientIdentityDigest handshake.clientName
            handshake.requestedRole (savedOutcome saved) with
        | (.returned true, device) => system.countOrRevoke authenticate device
        | (_, device) => (false, system.revoke, device)

/-- `rpc_poison_resume_request_process` outside a secure dispatch: whether a stored
session is resumed. -/
def resumeProcess (system : PoisonSystem) (device : PairingDevice) (slots : ResumeSlots)
    (request : ResumeRequest) (nowMs : UInt64) (rotatedToken : Option ResumeToken) :
    Bool × PoisonSystem × PairingDevice × ResumeSlots :=
  match rotatedToken, FixedBytes.ofList? 32 request.resumeToken with
  | some rotated, some token =>
    match takeResume crypto slots request.sessionId token request.lastReceivedSequence nowMs with
    | (none, slots) => (false, system, device, slots)
    | (some session, slots) =>
      let system := system.setSession session
      if !system.identityAllowed device then (false, system.revoke, device, slots)
      else
        match system.countIdentitySession authenticate device with
        | (false, system, device) => (false, system.revoke, device, slots)
        | (true, system, device) =>
          (true, { system with resumeToken := rotated, resumeIssued := true }, device, slots)
  | _, _ => (false, system, device, slots)

/-- `rpc_poison_resume_request_process` inside a secure dispatch: the token a client
gets for its session. -/
def issueToken (system : PoisonSystem) (device : PairingDevice) (request : ResumeRequest)
    (token : Option ResumeToken) : Bool × PoisonSystem :=
  match token with
  | none => (false, system)
  | some token =>
    if system.identityAllowed device && request.resumeToken.isEmpty &&
        system.handshake.session.state == .active &&
        system.handshake.session.sessionId == request.sessionId &&
        decide (system.handshake.session.nextTxSequence < lastSequence) then
      (true, { system with resumeToken := token, resumeIssued := true })
    else (false, system)

/-- `rpc_system_poison_free`: what the session leaves behind. -/
def free (system : PoisonSystem) (device : PairingDevice) (slots : ResumeSlots)
    (nowMs : UInt64) : PairingDevice × ResumeSlots :=
  let slots :=
    if system.resumeIssued && system.handshake.session.state == .active then
      (storeResume crypto slots system.handshake.session system.resumeToken nowMs).2
    else slots
  let device :=
    if system.identitySessionCounted then
      device.registrySessionClose authenticate system.handshake.session.clientIdentityDigest
    else device
  (device, slots)

end Handlers

end PoisonSystem

end PoisonedOS
