import PoisonedOS.Rpc.Confirmation

/-!
# Secure sessions

A session is two directional keys, an identifier and a sequence number for each
direction. A record is sealed under the transmit key with the next sequence
number, and opened under the receive key where it carries the number expected.
The nonce and the authenticated header are computed from the session on both
sides.

The AES-GCM engine and the other primitives are parameters: they are functions of
the microcontroller's library, and a call of one may fail. Pointers are never
NULL in the calls of the RPC service, and those checks are left out.
-/

namespace PoisonedOS

/-- `POISON_SESSION_KEY_BYTES`. -/
def sessionKeyBytes : Nat := 32

/-- `POISON_SESSION_CHANNEL_MAX`. -/
def sessionChannelMax : Nat := 32

/-- `POISON_SESSION_PAYLOAD_MAX`. -/
def sessionPayloadMax : Nat := 1024

/-- `UINT64_MAX`. -/
def lastSequence : UInt64 := 0xFFFFFFFFFFFFFFFF

/-- A directional key. -/
abbrev SessionKey := FixedBytes sessionKeyBytes

/-- A P-256 public key, uncompressed. -/
abbrev PublicKey := FixedBytes 65

/-- A P-256 private key. -/
abbrev PrivateKey := FixedBytes 32

/-- The tag of a record. -/
abbrev AuthenticationTag := FixedBytes 16

/-- The functions of `rpc_poison_crypto.c`. A failure is `none`. The two halves of
the derived key material are the device's receive and transmit keys. -/
structure SessionCrypto where
  sha256 : List UInt8 → Option Digest
  verify : PublicKey → Digest → List UInt8 → Bool
  sharedSecret : PrivateKey → PublicKey → Option (FixedBytes 32)
  hkdf : List UInt8 → FixedBytes 32 → List UInt8 → Option (SessionKey × SessionKey)
  gcmEncrypt : SessionKey → List UInt8 → List UInt8 → List UInt8 →
    Option (List UInt8 × AuthenticationTag)
  gcmDecrypt : SessionKey → List UInt8 → List UInt8 → List UInt8 → AuthenticationTag →
    Option (List UInt8)

/-- A checksum of the length of a hash. -/
def sampleDigest (size : Nat) (bytes : List UInt8) : FixedBytes size where
  bytes := littleEndian size
    (bytes.foldl (fun sum byte => (sum * 257 + byte.toNat + 1) % 256 ^ size) 7)
  sized := by simp

/-- Functions of the right types for concrete runs: checksums stand for the hash,
the signature and the tag, and the nonces are the derived keys. -/
def SessionCrypto.sample : SessionCrypto where
  sha256 bytes := some (sampleDigest _ bytes)
  verify key digest signature := signature == (sampleDigest 32 (key.bytes ++ digest.bytes)).bytes
  sharedSecret secret _ := some secret
  hkdf salt _ label :=
    some (sampleDigest _ (salt ++ label), sampleDigest _ (label ++ salt))
  gcmEncrypt key iv aad plaintext :=
    some (plaintext, sampleDigest _ (key.bytes ++ iv ++ aad ++ plaintext))
  gcmDecrypt key iv aad ciphertext tag :=
    if tag == sampleDigest _ (key.bytes ++ iv ++ aad ++ ciphertext) then some ciphertext else none

/-- `PoisonSessionState`. -/
inductive SessionState where
  | unpaired
  | negotiating
  | confirming
  | active
  | closing
  | revoked
deriving DecidableEq, Repr

/-- `PoisonSessionResult` other than `Ok`. -/
inductive SessionError where
  | invalid
  | state
  | replay
  | gap
  | sequenceWrap
deriving DecidableEq, Repr

/-- `PoisonSession`. -/
structure PoisonSession where
  state : SessionState
  protocolVersion : UInt32
  sessionId : UInt64
  nextTxSequence : UInt64
  nextRxSequence : UInt64
  physicalConfirmation : Bool
  receiveKey : SessionKey
  transmitKey : SessionKey
  directionalKeysSet : Bool
  role : Role
  grantedCapabilities : UInt32
  clientIdentityDigest : Digest
deriving DecidableEq

/-- `poison_session_encode_u32`: most significant byte first. -/
def encodeU32 (value : UInt32) : List UInt8 := (bytes32 value).reverse

/-- `poison_session_encode_u64`. -/
def encodeU64 (value : UInt64) : List UInt8 := (bytes64 value).reverse

@[simp] theorem length_encodeU32 (value : UInt32) : (encodeU32 value).length = 4 := by
  simp [encodeU32, bytes32]

@[simp] theorem length_encodeU64 (value : UInt64) : (encodeU64 value).length = 8 := by
  simp [encodeU64, bytes64]

/-- A leading 32-bit field determines its value and what follows it. -/
theorem encodeU32_append_injective {left right : UInt32} {tail rest : List UInt8}
    (same : encodeU32 left ++ tail = encodeU32 right ++ rest) : left = right ∧ tail = rest := by
  obtain ⟨sameField, sameTail⟩ := List.append_inj same (by simp)
  have sameBytes := List.reverse_injective sameField
  refine ⟨?_, sameTail⟩
  exact (@bytes32_append_injective left right [] [] (by simpa using sameBytes)).1

/-- A leading 64-bit field determines its value and what follows it. -/
theorem encodeU64_append_injective {left right : UInt64} {tail rest : List UInt8}
    (same : encodeU64 left ++ tail = encodeU64 right ++ rest) : left = right ∧ tail = rest := by
  obtain ⟨sameField, sameTail⟩ := List.append_inj same (by simp)
  have sameBytes := List.reverse_injective sameField
  refine ⟨?_, sameTail⟩
  exact (@bytes64_append_injective left right [] [] (by simpa using sameBytes)).1

/-- What a call of `poison_session_encrypt_tx` hands back. -/
structure SealedPayload where
  sequence : UInt64
  ciphertext : List UInt8
  tag : AuthenticationTag
deriving DecidableEq

namespace PoisonSession

/-- `poison_session_init`. -/
def init : PoisonSession where
  state := .unpaired
  protocolVersion := 0
  sessionId := 0
  nextTxSequence := 0
  nextRxSequence := 0
  physicalConfirmation := false
  receiveKey := .zero _
  transmitKey := .zero _
  directionalKeysSet := false
  role := .owner
  grantedCapabilities := 0
  clientIdentityDigest := .zero _

/-- `poison_session_begin_negotiation`. -/
def beginNegotiation (session : PoisonSession) (protocolVersion : UInt32) :
    Except SessionError PoisonSession :=
  if protocolVersion != 2 then .error .invalid
  else if session.state != .unpaired then .error .state
  else .ok { session with protocolVersion, state := .negotiating }

/-- `poison_session_begin_confirmation`. -/
def beginConfirmation (session : PoisonSession) (sessionId : UInt64) :
    Except SessionError PoisonSession :=
  if sessionId == 0 then .error .invalid
  else if session.state != .negotiating then .error .state
  else .ok { session with sessionId, state := .confirming }

/-- `poison_session_confirm`. -/
def confirm (session : PoisonSession) (physicalConfirmation : Bool) :
    Except SessionError PoisonSession :=
  if session.state != .confirming then .error .state
  else if !physicalConfirmation then .error .invalid
  else .ok { session with physicalConfirmation := true }

/-- `poison_session_activate`. -/
def activate (session : PoisonSession) : Except SessionError PoisonSession :=
  if session.state != .confirming || !session.physicalConfirmation then .error .state
  else .ok { session with nextTxSequence := 0, nextRxSequence := 0, state := .active }

/-- `poison_session_set_directional_keys`. -/
def setDirectionalKeys (session : PoisonSession) (receiveKey transmitKey : SessionKey) :
    Except SessionError PoisonSession :=
  if session.state != .confirming then .error .invalid
  else .ok { session with receiveKey, transmitKey, directionalKeysSet := true }

/-- `poison_session_set_authentication_key`: both directions have one key. -/
def setAuthenticationKey (session : PoisonSession) (key : SessionKey) :
    Except SessionError PoisonSession :=
  session.setDirectionalKeys key key

/-- `poison_session_build_aad`: the authenticated header, with the channel and its
terminator last. -/
def buildAad (session : PoisonSession) (sequence acknowledgement : UInt64) (channel : CString) :
    Option (List UInt8) :=
  if channel.length == 0 || decide (channel.length > sessionChannelMax) then none
  else some (encodeU32 session.protocolVersion ++ (encodeU64 session.sessionId ++
    (encodeU64 sequence ++ (encodeU64 acknowledgement ++ channel.terminated))))

/-- `poison_session_build_iv`: the upper half of the session's number, then the
sequence number. -/
def buildIv (session : PoisonSession) (sequence : UInt64) : List UInt8 :=
  encodeU32 (session.sessionId >>> 32).toUInt32 ++ encodeU64 sequence

/-- `poison_session_reserve_tx`. -/
def reserveTx (session : PoisonSession) : Except SessionError (UInt64 × PoisonSession) :=
  if session.state != .active then .error .state
  else if session.nextTxSequence == lastSequence then .error .sequenceWrap
  else .ok (session.nextTxSequence,
    { session with nextTxSequence := session.nextTxSequence + 1 })

/-- `poison_session_accept_rx`. -/
def acceptRx (session : PoisonSession) (sequence : UInt64) : Except SessionError PoisonSession :=
  if session.state != .active then .error .state
  else if sequence < session.nextRxSequence then .error .replay
  else if sequence > session.nextRxSequence then .error .gap
  else if session.nextRxSequence == lastSequence then .error .sequenceWrap
  else .ok { session with nextRxSequence := session.nextRxSequence + 1 }

/-- `poison_session_revoke`. -/
def revoke (session : PoisonSession) : PoisonSession :=
  { session with
    state := .revoked
    physicalConfirmation := false
    sessionId := 0
    nextTxSequence := 0
    nextRxSequence := 0
    receiveKey := .zero _
    transmitKey := .zero _
    directionalKeysSet := false }

section Records

variable (crypto : SessionCrypto)

/-- `poison_session_encrypt_tx`. The sequence number is taken before the header is
built, so a call that fails later has used it up. -/
def encryptTx (session : PoisonSession) (acknowledgement : UInt64) (channel : CString)
    (plaintext : List UInt8) : Except SessionError SealedPayload × PoisonSession :=
  if decide (plaintext.length > sessionPayloadMax) || session.state != .active ||
      !session.directionalKeysSet then
    (.error .invalid, session)
  else
    match session.reserveTx with
    | .error error => (.error error, session)
    | .ok (sequence, session) =>
      match session.buildAad sequence acknowledgement channel with
      | none => (.error .invalid, session)
      | some aad =>
        match crypto.gcmEncrypt session.transmitKey (session.buildIv sequence) aad plaintext with
        | none => (.error .invalid, session)
        | some (ciphertext, tag) => (.ok { sequence, ciphertext, tag }, session)

/-- `poison_session_decrypt_rx`. -/
def decryptRx (session : PoisonSession) (sequence acknowledgement : UInt64) (channel : CString)
    (ciphertext : List UInt8) (tag : AuthenticationTag) :
    Except SessionError (List UInt8) × PoisonSession :=
  if decide (ciphertext.length > sessionPayloadMax) || session.state != .active ||
      !session.directionalKeysSet then
    (.error .invalid, session)
  else if sequence < session.nextRxSequence then (.error .replay, session)
  else if sequence > session.nextRxSequence then (.error .gap, session)
  else
    match session.buildAad sequence acknowledgement channel with
    | none => (.error .invalid, session)
    | some aad =>
      match crypto.gcmDecrypt session.receiveKey (session.buildIv sequence) aad ciphertext tag with
      | none => (.error .invalid, session)
      | some plaintext =>
        match session.acceptRx sequence with
        | .error error => (.error error, session)
        | .ok accepted => (.ok plaintext, accepted)

end Records

/-- The header determines the session's number, both sequence numbers and the
channel. -/
theorem buildAad_injective {left right : PoisonSession}
    {leftSequence leftAcknowledgement rightSequence rightAcknowledgement : UInt64}
    {leftChannel rightChannel : CString} {aad : List UInt8}
    (built : left.buildAad leftSequence leftAcknowledgement leftChannel = some aad)
    (rebuilt : right.buildAad rightSequence rightAcknowledgement rightChannel = some aad) :
    left.sessionId = right.sessionId ∧ leftSequence = rightSequence ∧
      leftAcknowledgement = rightAcknowledgement ∧ leftChannel = rightChannel := by
  unfold buildAad at built rebuilt
  split at built
  · cases built
  · split at rebuilt
    · cases rebuilt
    · have same := (Option.some.inj built).trans (Option.some.inj rebuilt).symm
      obtain ⟨-, afterVersion⟩ := encodeU32_append_injective same
      obtain ⟨sameId, afterId⟩ := encodeU64_append_injective afterVersion
      obtain ⟨sameSequence, afterSequence⟩ := encodeU64_append_injective afterId
      obtain ⟨sameAcknowledgement, channels⟩ := encodeU64_append_injective afterSequence
      have sameChannel := (@CString.terminated_append_injective leftChannel rightChannel [] []
        (by simpa using channels)).1
      exact ⟨sameId, sameSequence, sameAcknowledgement, sameChannel⟩

/-- What a successful seal has done: it took the next number, which is not the
last, and advanced the session past it. -/
structure Sealed (crypto : SessionCrypto) (session : PoisonSession) (acknowledgement : UInt64)
    (channel : CString) (plaintext : List UInt8) (payload : SealedPayload)
    (sent : PoisonSession) : Prop where
  live : session.state = .active
  keyed : session.directionalKeysSet = true
  numbered : payload.sequence = session.nextTxSequence
  bounded : session.nextTxSequence.toNat < lastSequence.toNat
  advanced : sent = { session with nextTxSequence := session.nextTxSequence + 1 }
  encrypted : ∃ aad, session.buildAad payload.sequence acknowledgement channel = some aad ∧
    crypto.gcmEncrypt session.transmitKey (session.buildIv payload.sequence) aad plaintext =
      some (payload.ciphertext, payload.tag)

/-- A number that may still be taken has a successor. -/
theorem lt_last_of_ne {sequence : UInt64} (notLast : (sequence == lastSequence) = false) :
    sequence.toNat < lastSequence.toNat := by
  have different : sequence ≠ lastSequence := by simpa using notLast
  have bounded := sequence.toNat_lt
  have distinct : sequence.toNat ≠ lastSequence.toNat :=
    fun same => different (UInt64.toNat.inj same)
  have last : lastSequence.toNat = 2 ^ 64 - 1 := by decide
  omega

theorem toNat_succ {sequence : UInt64} (bounded : sequence.toNat < lastSequence.toNat) :
    (sequence + 1).toNat = sequence.toNat + 1 := by
  have last : lastSequence.toNat = 2 ^ 64 - 1 := by decide
  rw [UInt64.toNat_add, UInt64.toNat_one]
  exact Nat.mod_eq_of_lt (by omega)

/-- A number is reserved where the counter is not at its end. -/
theorem reserveTx_cases (session : PoisonSession) :
    (∃ error, session.reserveTx = .error error) ∨
      (session.nextTxSequence.toNat < lastSequence.toNat ∧
        session.reserveTx = .ok (session.nextTxSequence,
          { session with nextTxSequence := session.nextTxSequence + 1 })) := by
  unfold reserveTx
  split
  · exact .inl ⟨_, rfl⟩
  · split
    · exact .inl ⟨_, rfl⟩
    · rename_i notLast
      exact .inr ⟨lt_last_of_ne (by simpa using notLast), rfl⟩

/-- The expected number is accepted where the counter is not at its end. -/
theorem acceptRx_expected (session : PoisonSession) :
    (∃ error, session.acceptRx session.nextRxSequence = .error error) ∨
      (session.nextRxSequence.toNat < lastSequence.toNat ∧
        session.acceptRx session.nextRxSequence =
          .ok { session with nextRxSequence := session.nextRxSequence + 1 }) := by
  unfold acceptRx
  simp only [UInt64.lt_irrefl, ↓reduceIte]
  split
  · exact .inl ⟨_, rfl⟩
  · split
    · exact .inl ⟨_, rfl⟩
    · rename_i notLast
      exact .inr ⟨lt_last_of_ne (by simpa using notLast), rfl⟩

/-- Every call of `encryptTx` either seals, or leaves the keys alone and fails with
the counter where it was or one further. -/
theorem encryptTx_cases (crypto : SessionCrypto) (session : PoisonSession)
    (acknowledgement : UInt64) (channel : CString) (plaintext : List UInt8) :
    (∃ payload sent, session.encryptTx crypto acknowledgement channel plaintext =
      (.ok payload, sent) ∧
      Sealed crypto session acknowledgement channel plaintext payload sent) ∨
    (∃ error, session.encryptTx crypto acknowledgement channel plaintext = (.error error, session)) ∨
    (∃ error, session.encryptTx crypto acknowledgement channel plaintext =
      (.error error, { session with nextTxSequence := session.nextTxSequence + 1 }) ∧
      session.nextTxSequence.toNat < lastSequence.toNat) := by
  unfold encryptTx
  split
  · exact .inr (.inl ⟨_, rfl⟩)
  · rename_i guarded
    simp only [Bool.or_eq_true, not_or, Bool.not_eq_true, bne_eq_false_iff_eq,
      Bool.not_eq_false'] at guarded
    obtain ⟨error, refused⟩ | ⟨bounded, reserved⟩ := session.reserveTx_cases
    · rw [refused]
      exact .inr (.inl ⟨_, rfl⟩)
    · rw [reserved]
      dsimp only
      cases header : PoisonSession.buildAad
          { session with nextTxSequence := session.nextTxSequence + 1 } session.nextTxSequence
          acknowledgement channel with
      | none => exact .inr (.inr ⟨_, rfl, bounded⟩)
      | some aad =>
        dsimp only
        cases encrypted : crypto.gcmEncrypt session.transmitKey
            (PoisonSession.buildIv { session with nextTxSequence := session.nextTxSequence + 1 }
              session.nextTxSequence) aad plaintext with
        | none => exact .inr (.inr ⟨_, rfl, bounded⟩)
        | some output =>
          exact .inl ⟨_, _, rfl, guarded.1.2, guarded.2, rfl, bounded, rfl, aad, header, encrypted⟩

/-- What a successful opening has done: the record carried the expected number, the
engine accepted it under the header built here, and the session expects the next
number. -/
structure Opened (crypto : SessionCrypto) (session : PoisonSession)
    (sequence acknowledgement : UInt64) (channel : CString) (ciphertext : List UInt8)
    (tag : AuthenticationTag) (plaintext : List UInt8) (received : PoisonSession) : Prop where
  live : session.state = .active
  keyed : session.directionalKeysSet = true
  numbered : sequence = session.nextRxSequence
  bounded : session.nextRxSequence.toNat < lastSequence.toNat
  advanced : received = { session with nextRxSequence := session.nextRxSequence + 1 }
  decrypted : ∃ aad, session.buildAad sequence acknowledgement channel = some aad ∧
    crypto.gcmDecrypt session.receiveKey (session.buildIv sequence) aad ciphertext tag =
      some plaintext

/-- Every call of `decryptRx` either opens the record or leaves the session as it
was. -/
theorem decryptRx_cases (crypto : SessionCrypto) (session : PoisonSession)
    (sequence acknowledgement : UInt64) (channel : CString) (ciphertext : List UInt8)
    (tag : AuthenticationTag) :
    (∃ plaintext received,
      session.decryptRx crypto sequence acknowledgement channel ciphertext tag =
        (.ok plaintext, received) ∧
      Opened crypto session sequence acknowledgement channel ciphertext tag plaintext received) ∨
    (∃ error, session.decryptRx crypto sequence acknowledgement channel ciphertext tag =
      (.error error, session)) := by
  unfold decryptRx
  split
  · exact .inr ⟨_, rfl⟩
  · rename_i guarded
    simp only [Bool.or_eq_true, not_or, Bool.not_eq_true, bne_eq_false_iff_eq,
      Bool.not_eq_false'] at guarded
    split
    · exact .inr ⟨_, rfl⟩
    · rename_i notBefore
      split
      · exact .inr ⟨_, rfl⟩
      · rename_i notAfter
        have numbered : sequence = session.nextRxSequence :=
          UInt64.le_antisymm (UInt64.not_lt.mp notAfter) (UInt64.not_lt.mp notBefore)
        subst numbered
        cases header : session.buildAad session.nextRxSequence acknowledgement channel with
        | none => exact .inr ⟨_, rfl⟩
        | some aad =>
          dsimp only
          cases decrypted : crypto.gcmDecrypt session.receiveKey
              (session.buildIv session.nextRxSequence) aad ciphertext tag with
          | none => exact .inr ⟨_, rfl⟩
          | some plaintext =>
            dsimp only
            obtain ⟨error, refused⟩ | ⟨bounded, accepted⟩ := session.acceptRx_expected
            · rw [refused]
              exact .inr ⟨_, rfl⟩
            · rw [accepted]
              exact .inl ⟨_, _, rfl, guarded.1.2, guarded.2, rfl, bounded, rfl, aad, header,
                decrypted⟩

end PoisonSession

end PoisonedOS
