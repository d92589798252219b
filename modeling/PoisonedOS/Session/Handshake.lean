import PoisonedOS.Pairing.Store
import PoisonedOS.Session.Policy
import PoisonedOS.Session.Session

/-!
# The pairing handshake

A hello names the client's keys, its name, and the role and the capabilities it
asks for. The device answers with a fresh key, a nonce and a session number, and
hashes all of it into a transcript. A confirm that carries the transcript, its
code and the client's signature completes the handshake: the session gets its
directional keys and becomes active.

The random values a hello draws are arguments, and so is the time.
-/

namespace PoisonedOS

/-- `POISON_PAIRING_TTL_MS`. -/
def pairingTtlMs : UInt64 := 60000

/-- The protocol version of sessions. -/
def sessionProtocolVersion : UInt32 := 2

/-- `PB_Poison_PairingHello`. -/
structure PairingHello where
  protocolVersion : UInt32
  clientEphemeralPublicKey : List UInt8
  clientIdentityPublicKey : List UInt8
  clientNonce : List UInt8
  clientName : CString
  requestedRole : UInt32
  requestedCapabilities : Capabilities
deriving DecidableEq

/-- `PB_Poison_PairingChallenge`; `identity_trusted` is set by the RPC service. -/
structure PairingChallenge where
  protocolVersion : UInt32
  deviceEphemeralPublicKey : PublicKey
  deviceNonce : FixedBytes 32
  confirmationCode : CString
  transcriptDigest : Digest
  expiresAtMs : UInt64
  sessionId : UInt64
deriving DecidableEq

/-- `PB_Poison_PairingConfirm`. -/
structure PairingConfirm where
  transcriptDigest : List UInt8
  confirmationCode : CString
  clientIdentitySignature : List UInt8
  physicalConfirmation : Bool
deriving DecidableEq

/-- `PoisonPairingHandshake`. -/
structure PairingHandshake where
  session : PoisonSession
  devicePrivateKey : PrivateKey
  devicePublicKey : PublicKey
  clientPublicKey : PublicKey
  clientIdentityPublicKey : PublicKey
  clientIdentityDigest : Digest
  clientNonce : FixedBytes 32
  deviceNonce : FixedBytes 32
  transcriptDigest : Digest
  confirmationCode : CString
  clientName : CString
  requestedRole : Role
  requestedCapabilities : Capabilities
  expiresAtMs : UInt64
  pending : Bool
deriving DecidableEq

/-- The random values a hello draws. The generation of a key pair may fail. -/
structure PairingEntropy where
  keypair : Option (PrivateKey × PublicKey)
  deviceNonce : FixedBytes 32
  sessionId : UInt64
deriving DecidableEq

/-- The handshake `memset` leaves, with the session initialized. -/
def PairingHandshake.zero : PairingHandshake where
  session := .init
  devicePrivateKey := .zero _
  devicePublicKey := .zero _
  clientPublicKey := .zero _
  clientIdentityPublicKey := .zero _
  clientIdentityDigest := .zero _
  clientNonce := .zero _
  deviceNonce := .zero _
  transcriptDigest := .zero _
  confirmationCode := CString.ofBytes []
  clientName := CString.ofBytes []
  requestedRole := .owner
  requestedCapabilities := 0
  expiresAtMs := 0
  pending := false

/-- A byte string of the size a field wants. -/
def FixedBytes.ofList? (size : Nat) (bytes : List UInt8) : Option (FixedBytes size) :=
  if sized : bytes.length = size then some ⟨bytes, sized⟩ else none

/-- The fields of a hello whose sizes were checked, and its role. -/
structure CheckedHello where
  ephemeralKey : PublicKey
  identityKey : PublicKey
  nonce : FixedBytes 32
  role : Role
deriving DecidableEq

/-- The checks of `poison_pairing_begin`. -/
def PairingHello.checked (hello : PairingHello) (nowMs : UInt64) : Option CheckedHello :=
  if hello.protocolVersion != sessionProtocolVersion then none
  else
    match FixedBytes.ofList? 65 hello.clientEphemeralPublicKey,
        FixedBytes.ofList? 32 hello.clientNonce,
        FixedBytes.ofList? 65 hello.clientIdentityPublicKey,
        roles[hello.requestedRole.toNat]? with
    | some ephemeralKey, some nonce, some identityKey, some role =>
      if ephemeralKey.bytes.head? != some 4 || identityKey.bytes.head? != some 4 ||
          !nonce.bytes.any (· != 0) || hello.clientName.isEmpty ||
          decide (hello.clientName.length > pairingNameMax) ||
          (hello.requestedCapabilities &&& ~~~allCapabilities) != 0 ||
          decide (lastSequence - nowMs < pairingTtlMs) then
        none
      else some { ephemeralKey, identityKey, nonce, role }
    | _, _, _, _ => none

/-- What `poison_pairing_transcript` hashes. -/
def PairingHello.transcript (hello : PairingHello) (handshake : PairingHandshake) : List UInt8 :=
  encodeU32 hello.protocolVersion ++ hello.clientEphemeralPublicKey ++
    hello.clientIdentityPublicKey ++ hello.clientName.terminated ++
    encodeU32 hello.requestedRole ++ encodeU32 hello.requestedCapabilities ++
    hello.clientNonce ++ handshake.devicePublicKey.bytes ++ handshake.deviceNonce.bytes ++
    encodeU64 handshake.expiresAtMs ++ encodeU64 handshake.session.sessionId

/-- `"%06lu"` of a number below a million. -/
def sixDigits (value : Nat) : CString :=
  CString.ofBytes ([100000, 10000, 1000, 100, 10, 1].map fun unit =>
    48 + UInt8.ofNat (value / unit % 10))

/-- The code the user compares: the digest's first four bytes modulo a million. -/
def confirmationCodeOf (digest : Digest) : CString :=
  sixDigits (fromLittleEndian (digest.bytes.take 4).reverse % 1000000)

theorem FixedBytes.ofList?_bytes {size : Nat} {bytes : List UInt8} {array : FixedBytes size}
    (made : FixedBytes.ofList? size bytes = some array) : array.bytes = bytes := by
  unfold FixedBytes.ofList? at made
  split at made
  · cases made
    rfl
  · cases made

/-- The checked fields are those of the hello. -/
theorem PairingHello.checked_fields {hello : PairingHello} {nowMs : UInt64}
    {checked : CheckedHello} (passed : hello.checked nowMs = some checked) :
    checked.identityKey.bytes = hello.clientIdentityPublicKey ∧
      roles[hello.requestedRole.toNat]? = some checked.role := by
  unfold PairingHello.checked at passed
  split at passed
  · cases passed
  · split at passed
    · rename_i ephemeralKey nonce identityKey role _ _ madeIdentity known
      split at passed
      · cases passed
      · cases passed
        exact ⟨FixedBytes.ofList?_bytes madeIdentity, known⟩
    · cases passed

section Pairing

variable (crypto : SessionCrypto)

/-- `poison_pairing_transcript`. -/
def pairingTranscript (hello : PairingHello) (handshake : PairingHandshake) : Option Digest :=
  let transcript := hello.transcript handshake
  if transcript.length > 384 then none else crypto.sha256 transcript

/-- `poison_session_revoke` of the handshake's session, with the private key
cleared. -/
def PairingHandshake.abandon (handshake : PairingHandshake) : PairingHandshake :=
  { handshake with session := handshake.session.revoke, devicePrivateKey := .zero _ }

/-- `poison_pairing_begin`. -/
def pairingBegin (handshake : PairingHandshake) (hello : PairingHello) (nowMs : UInt64)
    (entropy : PairingEntropy) : Option PairingChallenge × PairingHandshake :=
  match hello.checked nowMs with
  | none => (none, handshake)
  | some checked =>
    match PoisonSession.init.beginNegotiation sessionProtocolVersion, entropy.keypair with
    | .error _, _ => (none, .zero)
    | .ok negotiating, none => (none, { PairingHandshake.zero with session := negotiating })
    | .ok negotiating, some (devicePrivateKey, devicePublicKey) =>
      let keyed : PairingHandshake :=
        { PairingHandshake.zero with
          session := negotiating
          devicePrivateKey
          devicePublicKey
          clientPublicKey := checked.ephemeralKey
          clientIdentityPublicKey := checked.identityKey }
      match crypto.sha256 checked.identityKey.bytes with
      | none => (none, keyed.abandon)
      | some clientIdentityDigest =>
        let sessionId := if entropy.sessionId == 0 then 1 else entropy.sessionId
        let drawn : PairingHandshake :=
          { keyed with
            session := { negotiating with sessionId }
            clientIdentityDigest
            clientNonce := checked.nonce
            deviceNonce := entropy.deviceNonce
            clientName := hello.clientName
            requestedRole := checked.role
            requestedCapabilities := hello.requestedCapabilities
            expiresAtMs := nowMs + pairingTtlMs }
        match drawn.session.beginConfirmation sessionId with
        | .error _ => (none, drawn.abandon)
        | .ok confirming =>
          let confirmed := { drawn with session := confirming }
          match pairingTranscript crypto hello confirmed with
          | none => (none, confirmed.abandon)
          | some transcriptDigest =>
            let confirmationCode := confirmationCodeOf transcriptDigest
            (some
              { protocolVersion := sessionProtocolVersion
                deviceEphemeralPublicKey := devicePublicKey
                deviceNonce := entropy.deviceNonce
                confirmationCode
                transcriptDigest
                expiresAtMs := confirmed.expiresAtMs
                sessionId },
              { confirmed with transcriptDigest, confirmationCode, pending := true })

/-- The checks of `poison_pairing_complete`. -/
def PairingHandshake.confirmedBy (handshake : PairingHandshake) (confirm : PairingConfirm)
    (nowMs : UInt64) (devicePhysicalConfirmation : Bool) : Bool :=
  handshake.pending && decide (nowMs < handshake.expiresAtMs) &&
    confirm.transcriptDigest == handshake.transcriptDigest.bytes &&
    confirm.confirmationCode == handshake.confirmationCode &&
    !confirm.clientIdentitySignature.isEmpty &&
    crypto.verify handshake.clientIdentityPublicKey handshake.transcriptDigest
      confirm.clientIdentitySignature &&
    confirm.physicalConfirmation && devicePhysicalConfirmation

/-- `"poison-rpc-v2"`, the label of the derived keys. -/
def sessionKeyLabel : List UInt8 := (CString.literal "poison-rpc-v2").bytes

/-- The directional keys a handshake agrees on. -/
def PairingHandshake.directionalKeys (handshake : PairingHandshake) :
    Option (SessionKey × SessionKey) :=
  (crypto.sharedSecret handshake.devicePrivateKey handshake.clientPublicKey).bind fun secret =>
    crypto.hkdf (handshake.clientNonce.bytes ++ handshake.deviceNonce.bytes) secret
      (sessionKeyLabel ++ handshake.transcriptDigest.bytes)

/-- The session a handshake's keys make active. -/
def PairingHandshake.activated (handshake : PairingHandshake) (keys : SessionKey × SessionKey) :
    Except SessionError PoisonSession := do
  let keyed ← handshake.session.setDirectionalKeys keys.1 keys.2
  let confirmed ← keyed.confirm true
  confirmed.activate

/-- `poison_pairing_complete`. -/
def pairingComplete (handshake : PairingHandshake) (confirm : PairingConfirm) (nowMs : UInt64)
    (devicePhysicalConfirmation : Bool) : Bool × PairingHandshake :=
  if !handshake.confirmedBy crypto confirm nowMs devicePhysicalConfirmation then
    (false, { handshake.abandon with pending := false })
  else
    let policy := policyEvaluate handshake.requestedRole handshake.requestedCapabilities
      false true 1
    let keys := if policy.allowed then handshake.directionalKeys crypto else none
    match keys.map handshake.activated with
    | some (.ok active) =>
      (true,
        { handshake with
          session :=
            { active with
              role := handshake.requestedRole
              grantedCapabilities := policy.granted
              clientIdentityDigest := handshake.clientIdentityDigest }
          devicePrivateKey := .zero _
          pending := false })
    | _ => (false, { handshake.abandon with pending := false })

def PairingHandshake.completed (handshake : PairingHandshake) (keys : SessionKey × SessionKey) :
    PairingHandshake :=
  { handshake with
    session :=
      { handshake.session with
        state := .active
        nextTxSequence := 0
        nextRxSequence := 0
        physicalConfirmation := true
        receiveKey := keys.1
        transmitKey := keys.2
        directionalKeysSet := true
        role := handshake.requestedRole
        grantedCapabilities := handshake.requestedCapabilities
        clientIdentityDigest := handshake.clientIdentityDigest }
    devicePrivateKey := .zero _
    pending := false }

/-- The handshake after a confirm failed. -/
def PairingHandshake.failed (handshake : PairingHandshake) : PairingHandshake :=
  { handshake.abandon with pending := false }

/-- What holds of a handshake that completes. -/
structure Completes (handshake : PairingHandshake) (confirm : PairingConfirm) (nowMs : UInt64)
    (devicePhysicalConfirmation : Bool) (keys : SessionKey × SessionKey) : Prop where
  checked : handshake.confirmedBy crypto confirm nowMs devicePhysicalConfirmation = true
  pending : handshake.pending = true
  unexpired : nowMs < handshake.expiresAtMs
  signed : crypto.verify handshake.clientIdentityPublicKey handshake.transcriptDigest
    confirm.clientIdentitySignature = true
  approved : devicePhysicalConfirmation = true
  allowed : (policyEvaluate handshake.requestedRole handshake.requestedCapabilities
    false true 1).allowed = true
  confirming : handshake.session.state = .confirming
  derived : handshake.directionalKeys crypto = some keys

variable (handshake : PairingHandshake)

open PairingHandshake (abandon activated completed confirmedBy failed)

/-- Only a session that waits for its confirmation becomes active. -/
theorem activated_cases (keys : SessionKey × SessionKey) :
    (∃ error, handshake.activated keys = .error error) ∨
      (handshake.session.state = .confirming ∧
        handshake.activated keys = .ok
          { handshake.session with
            state := .active
            nextTxSequence := 0
            nextRxSequence := 0
            physicalConfirmation := true
            receiveKey := keys.1
            transmitKey := keys.2
            directionalKeysSet := true }) := by
  cases confirming : handshake.session.state == .confirming with
  | false =>
    refine .inl ⟨.invalid, ?_⟩
    simp [activated, PoisonSession.setDirectionalKeys, bne, confirming, bind,
      Except.bind]
  | true =>
    refine .inr ⟨by simpa using confirming, ?_⟩
    simp [activated, PoisonSession.setDirectionalKeys, PoisonSession.confirm,
      PoisonSession.activate, bne, confirming, bind, Except.bind]

theorem pairingComplete_cases (confirm : PairingConfirm) (nowMs : UInt64)
    (devicePhysicalConfirmation : Bool) :
    (∃ keys, pairingComplete crypto handshake confirm nowMs devicePhysicalConfirmation =
      (true, handshake.completed keys) ∧
      Completes crypto handshake confirm nowMs devicePhysicalConfirmation keys) ∨
    pairingComplete crypto handshake confirm nowMs devicePhysicalConfirmation =
      (false, handshake.failed) := by
  unfold pairingComplete
  split
  · exact .inr rfl
  · rename_i unrefused
    have checked : handshake.confirmedBy crypto confirm nowMs devicePhysicalConfirmation = true := by
      simpa using unrefused
    have parts := checked
    simp only [confirmedBy, Bool.and_eq_true, decide_eq_true_eq] at parts
    obtain ⟨⟨⟨⟨⟨⟨⟨pending, unexpired⟩, -⟩, -⟩, -⟩, signed⟩, -⟩, approved⟩ := parts
    cases allowed : (policyEvaluate handshake.requestedRole handshake.requestedCapabilities
        false true 1).allowed with
    | false => exact .inr (by simp [allowed, failed])
    | true =>
      cases derived : handshake.directionalKeys crypto with
      | none => exact .inr (by simp [allowed, failed])
      | some keys =>
        obtain ⟨error, refused⟩ | ⟨confirming, active⟩ := activated_cases handshake keys
        · exact .inr (by simp [allowed, refused, failed])
        · refine .inl ⟨keys, ?_, checked, pending, unexpired, signed, approved, allowed,
            confirming, derived⟩
          simp [allowed, active, completed,
            policyEvaluate_granted allowed]

/-- What a hello that is answered has set up. -/
structure Begins (hello : PairingHello) (nowMs : UInt64) (entropy : PairingEntropy)
    (challenge : PairingChallenge) (next : PairingHandshake) : Prop where
  checked : ∃ checked, hello.checked nowMs = some checked ∧
    next.clientIdentityPublicKey = checked.identityKey ∧ next.requestedRole = checked.role
  identity : crypto.sha256 next.clientIdentityPublicKey.bytes = some next.clientIdentityDigest
  transcribed : pairingTranscript crypto hello next = some next.transcriptDigest
  name : next.clientName = hello.clientName
  requested : next.requestedCapabilities = hello.requestedCapabilities
  pending : next.pending = true
  unkeyed : next.session.directionalKeysSet = false
  confirming : next.session.state = .confirming
  numbered : next.session.sessionId ≠ 0

/-- A hello is refused and changes nothing, fails and leaves no session, or starts a
handshake. -/
theorem pairingBegin_cases (hello : PairingHello) (nowMs : UInt64) (entropy : PairingEntropy) :
    pairingBegin crypto handshake hello nowMs entropy = (none, handshake) ∨
    (∃ next, pairingBegin crypto handshake hello nowMs entropy = (none, next) ∧
      next.session.directionalKeysSet = false ∧ next.session.state ≠ .active ∧
      next.session.state ≠ .confirming) ∨
    (∃ challenge next, pairingBegin crypto handshake hello nowMs entropy =
      (some challenge, next) ∧ Begins crypto hello nowMs entropy challenge next) := by
  unfold pairingBegin
  cases checked : hello.checked nowMs with
  | none => exact .inl rfl
  | some values =>
    refine .inr ?_
    have negotiating : PoisonSession.init.beginNegotiation sessionProtocolVersion =
        .ok { PoisonSession.init with
          protocolVersion := sessionProtocolVersion, state := .negotiating } := by decide
    rw [negotiating]
    cases entropy.keypair with
    | none => exact .inl ⟨_, rfl, rfl, by simp, by simp⟩
    | some keypair =>
      dsimp only
      cases identity : crypto.sha256 values.identityKey.bytes with
      | none => exact .inl ⟨_, rfl, rfl, by simp [abandon,
          PoisonSession.revoke], by simp [abandon, PoisonSession.revoke]⟩
      | some digest =>
        dsimp only
        have numbered : (if entropy.sessionId == 0 then 1 else entropy.sessionId) ≠ 0 := by
          split
          · decide
          · rename_i nonzero
            simpa using nonzero
        generalize (if entropy.sessionId == 0 then 1 else entropy.sessionId) = sessionId at numbered
        unfold PoisonSession.beginConfirmation
        rw [if_neg (by simpa using numbered)]
        simp only [bne_self_eq_false, Bool.false_eq_true, ↓reduceIte]
        cases transcribed : pairingTranscript crypto hello _ with
        | none => exact .inl ⟨_, rfl, rfl, by simp [abandon,
            PoisonSession.revoke], by simp [abandon, PoisonSession.revoke]⟩
        | some transcriptDigest =>
          exact .inr ⟨_, _, rfl, ⟨values, checked, rfl, rfl⟩, identity, transcribed, rfl, rfl, rfl,
            rfl, rfl, numbered⟩

end Pairing

/-- An array of equal bytes. -/
def FixedBytes.fill (size : Nat) (byte : UInt8) : FixedBytes size :=
  ⟨List.replicate size byte, List.length_replicate⟩

/-- An uncompressed point whose coordinates are equal bytes. -/
def samplePoint (byte : UInt8) : PublicKey :=
  ⟨4 :: List.replicate 64 byte, congrArg (· + 1) List.length_replicate⟩

/-- A hello of a client that is told by its identity's byte. -/
def sampleHello (identity nonce : UInt8) (role : UInt32) (capabilities : Capabilities) :
    PairingHello where
  protocolVersion := sessionProtocolVersion
  clientEphemeralPublicKey := (samplePoint nonce).bytes
  clientIdentityPublicKey := (samplePoint identity).bytes
  clientNonce := List.replicate 32 nonce
  clientName := CString.literal "laptop"
  requestedRole := role
  requestedCapabilities := capabilities

def sampleEntropy (byte : UInt8) : PairingEntropy where
  keypair := some (.fill _ byte, samplePoint byte)
  deviceNonce := .fill _ byte
  sessionId := byte.toUInt64

def sampleConfirm (handshake : PairingHandshake) : PairingConfirm where
  transcriptDigest := handshake.transcriptDigest.bytes
  confirmationCode := handshake.confirmationCode
  clientIdentitySignature :=
    (sampleDigest 32
      (handshake.clientIdentityPublicKey.bytes ++ handshake.transcriptDigest.bytes)).bytes
  physicalConfirmation := true

def sampleHandshake (hello : PairingHello) (nowMs : UInt64) (byte : UInt8) : PairingHandshake :=
  (pairingBegin .sample .zero hello nowMs (sampleEntropy byte)).2

end PoisonedOS
