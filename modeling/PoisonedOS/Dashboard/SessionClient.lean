import Mathlib.Data.Nat.Digits.Lemmas
import PoisonedOS.Library.Hkdf
import PoisonedOS.Session.Handshake

/-!
# The session client of the dashboard

The client composes a hello from the user's options, checks the device's challenge against
its own transcript, derives the two keys of the session with WebCrypto and confirms. Its
nonces and authenticated headers are computed from the session number of the challenge.

The random values of the client and the primitives of WebCrypto are parameters. Texts are
given by their UTF-8 bytes.
-/

namespace PoisonedOS

/-- What the client uses of WebCrypto. Its private key stays inside. -/
structure WebCrypto where
  digest : List UInt8 → Digest
  hmac : List UInt8 → List UInt8 → Digest
  sign : List UInt8 → List UInt8
  deriveBits : PrivateKey → List UInt8 → Option (FixedBytes 32)

/-- `PairingOptions`; the answer of `approve` is given. -/
structure PairingOptions where
  clientName : List UInt8
  requestedRole : Int
  requestedCapabilities : Int
  approve : Bool
deriving DecidableEq

/-- The client's part of a handshake: its options, its keys and its nonce. -/
structure ClientPairing where
  options : PairingOptions
  ephemeralPrivate : PrivateKey
  clientPublic : PublicKey
  identityPublic : PublicKey
  clientNonce : FixedBytes 32
deriving DecidableEq

/-- What of the `SessionClient` a handshake sets. -/
structure SessionClient where
  sessionId : UInt64
  transmitKey : List UInt8
  receiveKey : List UInt8
deriving DecidableEq

namespace SessionClient

/-- `PROTOCOL_VERSION`. -/
def protocolVersion : UInt32 := 2

/-- `encodeU32`, with `setUint32` most significant byte first. -/
def encodeU32 (value : UInt32) : List UInt8 :=
  [value >>> 24, value >>> 16, value >>> 8, value].map UInt32.toUInt8

/-- `encodeU64`, with `setBigUint64`. -/
def encodeU64 (value : UInt64) : List UInt8 :=
  [value >>> 56, value >>> 48, value >>> 40, value >>> 32, value >>> 24, value >>> 16,
    value >>> 8, value].map UInt64.toUInt8

/-- `getUint32`, most significant byte first. -/
def getUint32 (bytes : List UInt8) : Nat :=
  (bytes.take 4).foldl (fun value byte => value * 256 + byte.toNat) 0

/-- `String` of a number. -/
def decimal (value : Nat) : List UInt8 :=
  if value = 0 then [48] else (Nat.digits 10 value).reverse.map fun digit => 48 + UInt8.ofNat digit

/-- `padStart`. -/
def padStart (width : Nat) (fill : UInt8) (text : List UInt8) : List UInt8 :=
  List.replicate (width - text.length) fill ++ text

/-- The regular expression `^\d{6}$`. -/
def isSixDigits (text : List UInt8) : Bool := text.length == 6 && text.all isDigit

/-- The checks of `connect` before the transport is used. -/
def optionsValid (options : PairingOptions) : Bool :=
  !(options.clientName.length == 0 || decide (options.clientName.length > 32) ||
    options.clientName.contains 0) &&
  !(decide (options.requestedRole < 0) || decide (options.requestedRole ≥ 5) ||
    decide (options.requestedCapabilities < 0) || decide (options.requestedCapabilities > 0xff))

/-- The hello `connect` writes. -/
def hello (pairing : ClientPairing) : PairingHello where
  protocolVersion := protocolVersion
  clientEphemeralPublicKey := pairing.clientPublic.bytes
  clientIdentityPublicKey := pairing.identityPublic.bytes
  clientNonce := pairing.clientNonce.bytes
  clientName := CString.ofBytes pairing.options.clientName
  requestedRole := UInt32.ofInt pairing.options.requestedRole
  requestedCapabilities := UInt32.ofInt pairing.options.requestedCapabilities

/-- The shape of a challenge. -/
def challengeValid (challenge : PairingChallenge) : Bool :=
  !(challenge.protocolVersion != protocolVersion || challenge.sessionId == 0 ||
    challenge.deviceEphemeralPublicKey.bytes.length != 65 ||
    challenge.deviceEphemeralPublicKey.bytes.head? != some 4 ||
    challenge.deviceNonce.bytes.length != 32 || challenge.deviceNonce.bytes.all (· == 0) ||
    challenge.transcriptDigest.bytes.length != 32 ||
    !isSixDigits challenge.confirmationCode.bytes)

/-- The transcript the client puts together. -/
def transcript (pairing : ClientPairing) (challenge : PairingChallenge) : List UInt8 :=
  encodeU32 protocolVersion ++ pairing.clientPublic.bytes ++ pairing.identityPublic.bytes ++
    (pairing.options.clientName ++ [0]) ++
    encodeU32 (UInt32.ofInt pairing.options.requestedRole) ++
    encodeU32 (UInt32.ofInt pairing.options.requestedCapabilities) ++
    pairing.clientNonce.bytes ++ challenge.deviceEphemeralPublicKey.bytes ++
    challenge.deviceNonce.bytes ++ encodeU64 challenge.expiresAtMs ++
    encodeU64 challenge.sessionId

/-- The code the client expects for a transcript. -/
def expectedCode (digest : Digest) : List UInt8 :=
  padStart 6 48 (decimal (getUint32 digest.bytes % 1000000))

section Client

variable (web : WebCrypto)

/-- The digest of the transcript. -/
def transcriptDigest (pairing : ClientPairing) (challenge : PairingChallenge) : Digest :=
  web.digest (transcript pairing challenge)

/-- `deriveDirectionalKeys`. -/
def deriveDirectionalKeys (pairing : ClientPairing) (challenge : PairingChallenge) :
    Option SessionClient :=
  (web.deriveBits pairing.ephemeralPrivate challenge.deviceEphemeralPublicKey.bytes).map
    fun sharedSecret =>
      let material := Hkdf.derive (fun key message => (web.hmac key message).bytes)
        (pairing.clientNonce.bytes ++ challenge.deviceNonce.bytes) sharedSecret.bytes
        ((CString.literal "poison-rpc-v2").bytes ++ (transcriptDigest web pairing challenge).bytes)
        64
      { sessionId := challenge.sessionId
        transmitKey := material.take 32
        receiveKey := material.drop 32 }

/-- What `connect` does with a challenge: the confirm it writes, and the session. -/
def confirmChallenge (pairing : ClientPairing) (challenge : PairingChallenge)
    (identityTrusted : Bool) : Option (PairingConfirm × SessionClient) :=
  if !challengeValid challenge then none
  else if transcriptDigest web pairing challenge != challenge.transcriptDigest ||
      expectedCode (transcriptDigest web pairing challenge) !=
        challenge.confirmationCode.bytes then
    none
  else
    match deriveDirectionalKeys web pairing challenge with
    | none => none
    | some client =>
      if !identityTrusted && !pairing.options.approve then none
      else
        some
          ({ transcriptDigest := challenge.transcriptDigest.bytes
             confirmationCode := challenge.confirmationCode
             clientIdentitySignature := web.sign (transcript pairing challenge)
             physicalConfirmation := true },
            client)

end Client

/-- `sessionAad`. -/
def sessionAad (client : SessionClient) (sequence acknowledgement : UInt64)
    (channel : List UInt8) : List UInt8 :=
  encodeU32 protocolVersion ++ encodeU64 client.sessionId ++ encodeU64 sequence ++
    encodeU64 acknowledgement ++ (channel ++ [0])

/-- `sessionIv`. -/
def sessionIv (client : SessionClient) (sequence : UInt64) : List UInt8 :=
  encodeU32 (client.sessionId >>> 32).toUInt32 ++ encodeU64 sequence

end SessionClient

end PoisonedOS
