import Mathlib.Data.List.GetD
import PoisonedOS.Dashboard.SessionClient
import PoisonedOS.Session.KeySchedule
import PoisonedOS.Library.Sha256

/-!
# Agreement of the dashboard and the device

A handshake that both sides accept has one transcript: the client and the device put the
same fields in the same order and the same encoding, so they compute the same digest, the
same code, the same nonces and the same authenticated headers.

Their keys differ. The client's salt is its nonce and the device's nonce, but the device
extracts with the client's nonce alone. So the two key schedules agree only where
HMAC-SHA256 collides.
-/

namespace PoisonedOS

namespace SessionClient

/-- Both sides write a word with its most significant byte first. -/
theorem encodeU32_eq (value : UInt32) : encodeU32 value = PoisonedOS.encodeU32 value := by
  simp only [encodeU32, PoisonedOS.encodeU32, bytes32, littleEndian, List.map_cons, List.map_nil,
    List.reverse_cons, List.reverse_nil, List.nil_append, List.cons_append, Nat.div_div_eq_div_mul,
    List.cons.injEq, and_true]
  refine ⟨?_, ?_, ?_, ?_⟩
  all_goals
    apply UInt8.toNat.inj
    simp [Nat.shiftRight_eq_div_pow]

/-- And a double word. -/
theorem encodeU64_eq (value : UInt64) : encodeU64 value = PoisonedOS.encodeU64 value := by
  simp only [encodeU64, PoisonedOS.encodeU64, bytes64, littleEndian, List.map_cons, List.map_nil,
    List.reverse_cons, List.reverse_nil, List.nil_append, List.cons_append, Nat.div_div_eq_div_mul,
    List.cons.injEq, and_true]
  refine ⟨?_, ?_, ?_, ?_, ?_, ?_, ?_, ?_⟩
  all_goals
    apply UInt8.toNat.inj
    simp [Nat.shiftRight_eq_div_pow]

/-- Both sides read the first word of a digest alike. -/
theorem getUint32_eq (bytes : List UInt8) :
    getUint32 bytes = fromLittleEndian (bytes.take 4).reverse := by
  rw [getUint32]
  induction bytes.take 4 using List.reverseRecOn with
  | nil => rfl
  | append_singleton front byte ih =>
    rw [List.foldl_append, List.reverse_append, List.foldl_cons, List.foldl_nil,
      ih, List.reverse_singleton, List.singleton_append, fromLittleEndian]
    omega

/-- The digit of a number at a position, as text. -/
def digitAt (value position : Nat) : UInt8 := 48 + UInt8.ofNat (value / 10 ^ position % 10)

/-- A list filled up with what stands for zero is read at every position. -/
theorem map_filled (digits : List Nat) (text : Nat → UInt8) {width : Nat}
    (fits : digits.length ≤ width) :
    digits.map text ++ List.replicate (width - digits.length) (text 0) =
      (List.range width).map fun position => text (digits.getD position 0) := by
  apply List.ext_getElem
  · simp only [List.length_append, List.length_map, List.length_replicate, List.length_range]
    omega
  · intro position _ _
    simp only [List.getElem_append, List.length_map, List.getElem_map, List.getElem_replicate,
      List.getElem_range]
    by_cases within : position < digits.length
    · rw [dif_pos within, List.getD_eq_getElem _ _ within]
    · rw [dif_neg within, List.getD_eq_default _ _ (Nat.le_of_not_lt within)]

/-- A padded number is its digits, highest first. -/
theorem padStart_decimal {width value : Nat} (fits : value < 10 ^ (width + 1)) :
    padStart (width + 1) 48 (decimal value) =
      ((List.range (width + 1)).map (digitAt value)).reverse := by
  have filled : ∃ digits : List Nat, digits.length ≤ width + 1 ∧
      (∀ position, digits.getD position 0 = value / 10 ^ position % 10) ∧
      decimal value = (digits.map fun digit => 48 + UInt8.ofNat digit).reverse := by
    by_cases isZero : value = 0
    · refine ⟨[0], by simp, fun position => ?_, ?_⟩
      · cases position with
        | zero => simp [isZero]
        | succ position => simp [isZero]
      · rw [decimal, if_pos isZero]
        rfl
    · refine ⟨Nat.digits 10 value, ?_, fun position => Nat.getD_digits value position (by decide),
        ?_⟩
      · exact (Nat.digits_length_le_iff (by decide) value).mpr fits
      · rw [decimal, if_neg isZero, List.map_reverse]
  obtain ⟨digits, short, isDigit, isDecimal⟩ := filled
  have same := map_filled digits (fun digit => 48 + UInt8.ofNat digit) short
  simp only [isDigit] at same
  rw [padStart, isDecimal, List.length_reverse, List.length_map]
  have reversed := congrArg List.reverse same
  rw [List.reverse_append, List.reverse_replicate] at reversed
  exact reversed

/-- The code the client expects is the code of the device. -/
theorem expectedCode_eq (digest : Digest) :
    expectedCode digest = (confirmationCodeOf digest).bytes := by
  have bounded : fromLittleEndian (digest.bytes.take 4).reverse % 1000000 < 10 ^ (5 + 1) :=
    Nat.mod_lt _ (by decide)
  rw [expectedCode, getUint32_eq, padStart_decimal bounded, confirmationCodeOf]
  generalize fromLittleEndian (digest.bytes.take 4).reverse % 1000000 = value
  have digits : ((List.range (5 + 1)).map (digitAt value)).reverse =
      [100000, 10000, 1000, 100, 10, 1].map fun unit => 48 + UInt8.ofNat (value / unit % 10) := by
    simp [List.range_succ, digitAt]
  have printed : ∀ byte ∈ [100000, 10000, 1000, 100, 10, 1].map fun unit =>
      48 + UInt8.ofNat (value / unit % 10), (byte != 0) = true := by
    intro byte member
    obtain ⟨unit, -, rfl⟩ := List.mem_map.mp member
    have small : value / unit % 10 < 10 := Nat.mod_lt _ (by decide)
    interval_cases value / unit % 10 <;> decide
  rw [digits, sixDigits]
  exact (List.takeWhile_eq_self_iff.mpr printed).symm

end SessionClient

/-- An array is its bytes. -/
theorem FixedBytes.eq_of_bytes {size : Nat} {left right : FixedBytes size}
    (same : left.bytes = right.bytes) : left = right := by
  cases left
  cases right
  cases same
  rfl

/-- What a device that answers a hello has set up, and what it says of it. -/
structure Answers (crypto : SessionCrypto) (hello : PairingHello) (entropy : PairingEntropy)
    (challenge : PairingChallenge) (begun : PairingHandshake) : Prop where
  keypair : entropy.keypair = some (begun.devicePrivateKey, begun.devicePublicKey)
  clientKey : begun.clientPublicKey.bytes = hello.clientEphemeralPublicKey
  clientNonce : begun.clientNonce.bytes = hello.clientNonce
  version : hello.protocolVersion = sessionProtocolVersion
  sessionVersion : begun.session.protocolVersion = sessionProtocolVersion
  transcribed : crypto.sha256 (hello.transcript begun) = some begun.transcriptDigest
  code : begun.confirmationCode = confirmationCodeOf begun.transcriptDigest
  publicKey : challenge.deviceEphemeralPublicKey = begun.devicePublicKey
  deviceNonce : challenge.deviceNonce = begun.deviceNonce
  digest : challenge.transcriptDigest = begun.transcriptDigest
  challengeCode : challenge.confirmationCode = begun.confirmationCode
  expires : challenge.expiresAtMs = begun.expiresAtMs
  sessionId : challenge.sessionId = begun.session.sessionId

variable {hello : PairingHello}

theorem PairingHello.checked_values {nowMs : UInt64} {checked : CheckedHello}
    (passed : hello.checked nowMs = some checked) :
    checked.ephemeralKey.bytes = hello.clientEphemeralPublicKey ∧
      checked.nonce.bytes = hello.clientNonce ∧
      hello.protocolVersion = sessionProtocolVersion := by
  unfold PairingHello.checked at passed
  split at passed
  · cases passed
  · rename_i sameVersion
    split at passed
    · rename_i ephemeralKey nonce identityKey role madeEphemeral madeNonce _ _
      split at passed
      · cases passed
      · cases passed
        exact ⟨FixedBytes.ofList?_bytes madeEphemeral, FixedBytes.ofList?_bytes madeNonce,
          by simpa using sameVersion⟩
    · cases passed

/-- A transcript that fits is hashed. -/
theorem pairingTranscript_hashes {crypto : SessionCrypto} {handshake : PairingHandshake}
    {digest : Digest} (transcribed : pairingTranscript crypto hello handshake = some digest) :
    crypto.sha256 (hello.transcript handshake) = some digest := by
  simp only [pairingTranscript] at transcribed
  split at transcribed
  · cases transcribed
  · exact transcribed

/-- A device that answers sets the handshake up as its challenge says. -/
theorem pairingBegin_answers {crypto : SessionCrypto} {handshake begun : PairingHandshake}
    {nowMs : UInt64} {entropy : PairingEntropy} {challenge : PairingChallenge}
    (answered : pairingBegin crypto handshake hello nowMs entropy = (some challenge, begun)) :
    Answers crypto hello entropy challenge begun := by
  unfold pairingBegin at answered
  cases checked : hello.checked nowMs with
  | none =>
    rw [checked] at answered
    cases answered
  | some values =>
    obtain ⟨ephemeralKey, nonce, version⟩ := PairingHello.checked_values checked
    have negotiating : PoisonSession.init.beginNegotiation sessionProtocolVersion =
        .ok { PoisonSession.init with
          protocolVersion := sessionProtocolVersion, state := .negotiating } := by decide
    rw [checked, negotiating] at answered
    cases drawn : entropy.keypair with
    | none =>
      rw [drawn] at answered
      cases answered
    | some keypair =>
      rw [drawn] at answered
      dsimp only at answered
      cases identity : crypto.sha256 values.identityKey.bytes with
      | none =>
        rw [identity] at answered
        cases answered
      | some digest =>
        rw [identity] at answered
        dsimp only at answered
        have numbered : (if entropy.sessionId == 0 then 1 else entropy.sessionId) ≠ 0 := by
          split
          · decide
          · rename_i nonzero
            simpa using nonzero
        generalize (if entropy.sessionId == 0 then 1 else entropy.sessionId) = sessionId
          at numbered answered
        unfold PoisonSession.beginConfirmation at answered
        rw [if_neg (by simpa using numbered)] at answered
        simp only [bne_self_eq_false, Bool.false_eq_true, ↓reduceIte] at answered
        split at answered
        · cases answered
        · rename_i transcriptDigest transcribed
          cases answered
          exact ⟨drawn, ephemeralKey, nonce, version, rfl, pairingTranscript_hashes transcribed, rfl,
            rfl, rfl, rfl, rfl, rfl, rfl⟩

/-- A handshake of a client and a device. -/
structure PairingRun where
  pairing : ClientPairing
  handshake : PairingHandshake
  helloMs : UInt64
  entropy : PairingEntropy
  identityTrusted : Bool
  confirmMs : UInt64
  devicePhysicalConfirmation : Bool

/-- What the two sides end with. -/
structure PairingEnd where
  challenge : PairingChallenge
  begun : PairingHandshake
  confirm : PairingConfirm
  client : SessionClient
  completed : PairingHandshake

/-- The library of the device computes SHA-256 and HMAC-SHA256 as WebCrypto does, and both
agree on the secret of two key pairs. -/
structure SamePrimitives (crypto : SessionCrypto)
    (hmac : List UInt8 → List UInt8 → Option Digest) (web : WebCrypto)
    (publicOf : PrivateKey → PublicKey) : Prop where
  sha256 : Computes crypto.sha256 web.digest
  hmac : ∀ key, Computes (hmac key) (web.hmac key)
  ecdh : ∀ device client secret bits,
    crypto.sharedSecret device (publicOf client) = some secret →
    web.deriveBits client (publicOf device).bytes = some bits → secret = bits

namespace PairingRun

variable (run : PairingRun)

/-- Both sides draw key pairs. -/
structure Keyed (publicOf : PrivateKey → PublicKey) : Prop where
  client : run.pairing.clientPublic = publicOf run.pairing.ephemeralPrivate
  device : ∀ privateKey publicKey, run.entropy.keypair = some (privateKey, publicKey) →
    publicKey = publicOf privateKey

/-- Both sides accept the handshake. -/
structure Accepted (crypto : SessionCrypto) (web : WebCrypto) (ends : PairingEnd) : Prop where
  options : SessionClient.optionsValid run.pairing.options = true
  answered : pairingBegin crypto run.handshake (SessionClient.hello run.pairing) run.helloMs
    run.entropy = (some ends.challenge, ends.begun)
  confirmed : SessionClient.confirmChallenge web run.pairing ends.challenge run.identityTrusted =
    some (ends.confirm, ends.client)
  completed : pairingComplete crypto ends.begun ends.confirm run.confirmMs
    run.devicePhysicalConfirmation = (true, ends.completed)

/-- Both sides have computed the same. -/
structure SidesAgree (web : WebCrypto) (ends : PairingEnd) : Prop where
  digest : ends.begun.transcriptDigest =
    SessionClient.transcriptDigest web run.pairing ends.challenge
  code : ends.begun.confirmationCode.bytes =
    SessionClient.expectedCode (SessionClient.transcriptDigest web run.pairing ends.challenge)
  receives : ends.completed.session.receiveKey.bytes = ends.client.transmitKey
  transmits : ends.completed.session.transmitKey.bytes = ends.client.receiveKey
  iv : ∀ sequence, ends.completed.session.buildIv sequence = ends.client.sessionIv sequence
  aad : ∀ sequence acknowledgement channel, channel.bytes ≠ [] →
    channel.length ≤ sessionChannelMax →
    ends.completed.session.buildAad sequence acknowledgement channel =
      some (ends.client.sessionAad sequence acknowledgement channel.bytes)

/-- HMAC-SHA256 collides under the client's nonce and the whole salt, or twice under the
two extracted keys. -/
def HmacCollides (web : WebCrypto) (ends : PairingEnd) : Prop :=
  let mac := fun key message => (web.hmac key message).bytes
  let nonce := run.pairing.clientNonce.bytes
  let salt := nonce ++ ends.challenge.deviceNonce.bytes
  let info := sessionKeyLabel ++
    (SessionClient.transcriptDigest web run.pairing ends.challenge).bytes
  ∃ secret, web.deriveBits run.pairing.ephemeralPrivate
      ends.challenge.deviceEphemeralPublicKey.bytes = some secret ∧
    (Hkdf.Collides mac nonce salt secret.bytes ∨
      (Hkdf.Collides mac (mac nonce secret.bytes) (mac salt secret.bytes) (info ++ [1]) ∧
        Hkdf.Collides mac (mac nonce secret.bytes) (mac salt secret.bytes)
          (Hkdf.block mac (mac nonce secret.bytes) info 1 ++ info ++ [2])))

def exchange (crypto : SessionCrypto) (web : WebCrypto) : Option PairingEnd :=
  if SessionClient.optionsValid run.pairing.options then
    match pairingBegin crypto run.handshake (SessionClient.hello run.pairing) run.helloMs
        run.entropy with
    | (none, _) => none
    | (some challenge, begun) =>
      match SessionClient.confirmChallenge web run.pairing challenge run.identityTrusted with
      | none => none
      | some (confirm, client) =>
        match pairingComplete crypto begun confirm run.confirmMs run.devicePhysicalConfirmation with
        | (false, _) => none
        | (true, completed) => some { challenge, begun, confirm, client, completed }
  else none

variable {run} {crypto : SessionCrypto} {web : WebCrypto} {ends : PairingEnd}

/-- A handshake that goes through is accepted by both sides. -/
theorem exchange_accepted (through : run.exchange crypto web = some ends) :
    run.Accepted crypto web ends := by
  unfold exchange at through
  split at through
  · rename_i options
    split at through
    · cases through
    · rename_i challenge begun answered
      split at through
      · cases through
      · rename_i confirm client confirmed
        split at through
        · cases through
        · rename_i completed isCompleted
          cases through
          exact ⟨options, answered, confirmed, isCompleted⟩
  · cases through

/-- The client's name is on the wire as it is. -/
theorem Accepted.clientName (accepted : run.Accepted crypto web ends) :
    (SessionClient.hello run.pairing).clientName.bytes = run.pairing.options.clientName := by
  have valid := accepted.options
  simp only [SessionClient.optionsValid, Bool.and_eq_true, Bool.not_eq_true', Bool.or_eq_false_iff]
    at valid
  have noNul : (0 : UInt8) ∉ run.pairing.options.clientName := by
    simpa using valid.1.2
  apply List.takeWhile_eq_self_iff.mpr
  intro byte member
  rw [bne_iff_ne]
  rintro rfl
  exact noNul member

/-- Both sides put one transcript together. -/
theorem Accepted.transcript (accepted : run.Accepted crypto web ends) :
    (SessionClient.hello run.pairing).transcript ends.begun =
      SessionClient.transcript run.pairing ends.challenge := by
  have answers := pairingBegin_answers accepted.answered
  rw [SessionClient.transcript, PairingHello.transcript, CString.terminated, accepted.clientName,
    answers.publicKey, answers.deviceNonce, answers.expires, answers.sessionId]
  simp only [SessionClient.encodeU32_eq, SessionClient.encodeU64_eq]
  rfl

/-- A confirmed challenge has the right shape, and the client has derived its keys. -/
theorem Accepted.derived (accepted : run.Accepted crypto web ends) :
    SessionClient.challengeValid ends.challenge = true ∧
      SessionClient.deriveDirectionalKeys web run.pairing ends.challenge = some ends.client := by
  have confirmed := accepted.confirmed
  simp only [SessionClient.confirmChallenge] at confirmed
  split at confirmed
  · cases confirmed
  · rename_i valid
    split at confirmed
    · cases confirmed
    · split at confirmed
      · cases confirmed
      · rename_i client isClient
        split at confirmed
        · cases confirmed
        · have sameClient := (Prod.mk.inj (Option.some.inj confirmed)).2
          exact ⟨by simpa using valid, isClient.trans (congrArg some sameClient)⟩

/-- A challenge whose device nonce is zero is refused. -/
theorem Accepted.deviceNonce (accepted : run.Accepted crypto web ends) :
    ends.challenge.deviceNonce.bytes ≠ List.replicate 32 0 := by
  intro isZero
  have valid := accepted.derived.1
  simp only [SessionClient.challengeValid, isZero] at valid
  simp at valid

/-- The two salts are different keys. -/
theorem Accepted.salts (accepted : run.Accepted crypto web ends) :
    Hkdf.paddedKey run.pairing.clientNonce.bytes ≠
      Hkdf.paddedKey (run.pairing.clientNonce.bytes ++ ends.challenge.deviceNonce.bytes) := by
  intro same
  have nonce := run.pairing.clientNonce.sized
  have device := ends.challenge.deviceNonce.sized
  simp only [Hkdf.paddedKey, List.length_append, nonce, device, List.append_assoc] at same
  have isZero := (List.append_inj same rfl).2
  rw [Nat.sub_self, List.replicate_zero, List.append_nil] at isZero
  exact accepted.deviceNonce isZero.symm

/-- Without any check, both sides have one digest. -/
theorem Accepted.digest {hmac : List UInt8 → List UInt8 → Option Digest}
    {publicOf : PrivateKey → PublicKey} (same : SamePrimitives crypto hmac web publicOf)
    (accepted : run.Accepted (crypto.withDerivation hmac) web ends) :
    ends.begun.transcriptDigest =
      SessionClient.transcriptDigest web run.pairing ends.challenge := by
  have answers := pairingBegin_answers accepted.answered
  rw [SessionClient.transcriptDigest, ← accepted.transcript]
  exact same.sha256 _ _ answers.transcribed

/-- The device's session is that of the handshake, under the keys it derived. -/
theorem Accepted.device (accepted : run.Accepted crypto web ends) :
    ∃ keys, ends.begun.directionalKeys crypto = some keys ∧
      ends.completed = ends.begun.completed keys := by
  obtain ⟨keys, completed, completes⟩ | failed := pairingComplete_cases crypto ends.begun
    ends.confirm run.confirmMs run.devicePhysicalConfirmation
  · have isCompleted := completed.symm.trans accepted.completed
    exact ⟨keys, completes.derived, (Prod.mk.inj isCompleted).2.symm⟩
  · have isFailed := failed.symm.trans accepted.completed
    cases isFailed

/-- The client's keys are the two blocks of the key extracted with the whole salt. -/
theorem Accepted.clientKeys (accepted : run.Accepted crypto web ends) :
    ∃ secret, web.deriveBits run.pairing.ephemeralPrivate
        ends.challenge.deviceEphemeralPublicKey.bytes = some secret ∧
      let mac := fun key message => (web.hmac key message).bytes
      let salt := run.pairing.clientNonce.bytes ++ ends.challenge.deviceNonce.bytes
      let info := sessionKeyLabel ++
        (SessionClient.transcriptDigest web run.pairing ends.challenge).bytes
      ends.client.sessionId = ends.challenge.sessionId ∧
        ends.client.transmitKey = Hkdf.block mac (mac salt secret.bytes) info 1 ∧
        ends.client.receiveKey = Hkdf.block mac (mac salt secret.bytes) info 2 := by
  obtain ⟨secret, shared, isClient⟩ := Option.map_eq_some_iff.mp accepted.derived.2
  have sized := macs_sized web.hmac
  have two := Hkdf.expand_two sized
    (web.hmac (run.pairing.clientNonce.bytes ++ ends.challenge.deviceNonce.bytes)
      secret.bytes).bytes
    (sessionKeyLabel ++ (SessionClient.transcriptDigest web run.pairing ends.challenge).bytes)
  have first := Hkdf.length_block sized
    (web.hmac (run.pairing.clientNonce.bytes ++ ends.challenge.deviceNonce.bytes)
      secret.bytes).bytes
    (sessionKeyLabel ++ (SessionClient.transcriptDigest web run.pairing ends.challenge).bytes) 0
  refine ⟨secret, shared, ?_, ?_, ?_⟩
  · rw [← isClient]
  · rw [← isClient]
    exact (congrArg (List.take 32) two).trans (List.take_left' first)
  · rw [← isClient]
    exact (congrArg (List.drop 32) two).trans (List.drop_left' first)

/-- Nonces and headers agree in every accepted handshake. -/
theorem Accepted.headers (accepted : run.Accepted crypto web ends) :
    (∀ sequence, ends.completed.session.buildIv sequence = ends.client.sessionIv sequence) ∧
      ∀ sequence acknowledgement channel, channel.bytes ≠ [] →
        channel.length ≤ sessionChannelMax →
        ends.completed.session.buildAad sequence acknowledgement channel =
          some (ends.client.sessionAad sequence acknowledgement channel.bytes) := by
  have answers := pairingBegin_answers accepted.answered
  obtain ⟨keys, -, isCompleted⟩ := accepted.device
  obtain ⟨secret, -, clientId, -⟩ := accepted.clientKeys
  have sessionId : ends.client.sessionId = ends.completed.session.sessionId := by
    rw [clientId, answers.sessionId, isCompleted]
    rfl
  have version : ends.completed.session.protocolVersion = sessionProtocolVersion := by
    rw [isCompleted]
    exact answers.sessionVersion
  constructor
  · intro sequence
    rw [SessionClient.sessionIv, SessionClient.encodeU32_eq, SessionClient.encodeU64_eq, sessionId]
    rfl
  · intro sequence acknowledgement channel unempty short
    have positive : channel.length ≠ 0 := fun isEmpty =>
      unempty (List.eq_nil_of_length_eq_zero isEmpty)
    have accepts : ¬ (channel.length == 0 || decide (channel.length > sessionChannelMax)) =
        true := by
      simp only [Bool.or_eq_true, beq_iff_eq, decide_eq_true_eq, not_or]
      exact ⟨positive, Nat.not_lt_of_le short⟩
    rw [PoisonSession.buildAad, if_neg accepts, version, SessionClient.sessionAad, sessionId]
    simp only [SessionClient.encodeU32_eq, SessionClient.encodeU64_eq, List.append_assoc]
    rfl

end PairingRun

/-- In every handshake that both sides accept, they agree exactly when HMAC-SHA256
collides on the two salts or on the keys extracted with them. -/
theorem pairing_agrees_iff {crypto : SessionCrypto}
    {hmac : List UInt8 → List UInt8 → Option Digest} {web : WebCrypto}
    {publicOf : PrivateKey → PublicKey} (same : SamePrimitives crypto hmac web publicOf)
    {run : PairingRun} (keyed : run.Keyed publicOf) {ends : PairingEnd}
    (accepted : run.Accepted (crypto.withDerivation hmac) web ends) :
    run.SidesAgree web ends ↔ run.HmacCollides web ends := by
  have answers := pairingBegin_answers accepted.answered
  have digest := accepted.digest same
  obtain ⟨keys, derived, isCompleted⟩ := accepted.device
  obtain ⟨secret, shared, isReceive, isTransmit⟩ := directionalKeys_blocks same.hmac derived
  obtain ⟨bits, derivedBits, -, clientTransmit, clientReceive⟩ := accepted.clientKeys
  have isBits : secret = bits := by
    have clientPublic : ends.begun.clientPublicKey = publicOf run.pairing.ephemeralPrivate := by
      rw [← keyed.client]
      exact FixedBytes.eq_of_bytes answers.clientKey
    have devicePublic := keyed.device _ _ answers.keypair
    rw [clientPublic] at shared
    rw [answers.publicKey, devicePublic] at derivedBits
    exact same.ecdh _ _ _ _ shared derivedBits
  have nonce : ends.begun.clientNonce.bytes = run.pairing.clientNonce.bytes := answers.clientNonce
  have info : ends.begun.info = sessionKeyLabel ++
      (SessionClient.transcriptDigest web run.pairing ends.challenge).bytes := by
    rw [PairingHandshake.info, digest]
  rw [nonce, info, isBits] at isReceive isTransmit
  have keySized : (web.hmac run.pairing.clientNonce.bytes bits.bytes).bytes.length =
      (web.hmac (run.pairing.clientNonce.bytes ++ ends.challenge.deviceNonce.bytes)
        bits.bytes).bytes.length :=
    (macs_sized web.hmac _ _).trans (macs_sized web.hmac _ _).symm
  have receiveKey : ends.completed.session.receiveKey = keys.1 := by
    rw [isCompleted]
    rfl
  have transmitKey : ends.completed.session.transmitKey = keys.2 := by
    rw [isCompleted]
    rfl
  rw [← receiveKey] at isReceive
  rw [← transmitKey] at isTransmit
  constructor
  · intro agrees
    have blocks := And.intro
      (isReceive.symm.trans (agrees.receives.trans clientTransmit))
      (isTransmit.symm.trans (agrees.transmits.trans clientReceive))
    refine ⟨bits, derivedBits, ?_⟩
    obtain sameKey | collides := (Hkdf.expand_eq_iff keySized _).mp blocks
    · exact .inl ⟨accepted.salts, sameKey⟩
    · exact .inr collides
  · rintro ⟨other, derivedOther, collides⟩
    have isOther : bits = other := Option.some.inj (derivedBits.symm.trans derivedOther)
    rw [← isOther] at collides
    obtain ⟨sameReceive, sameTransmit⟩ :=
      (Hkdf.expand_eq_iff keySized _).mpr (collides.imp_left And.right)
    obtain ⟨iv, aad⟩ := accepted.headers
    refine ⟨digest, ?_, ?_, ?_, iv, aad⟩
    · rw [answers.code, SessionClient.expectedCode_eq, digest]
    · exact isReceive.trans (sameReceive.trans clientTransmit.symm)
    · exact isTransmit.trans (sameTransmit.trans clientReceive.symm)

section Laptop

/-- An uncompressed point. -/
def curvePoint (x y : Nat) : PublicKey where
  bytes := 4 :: (Sha256.bigEndian 32 x ++ Sha256.bigEndian 32 y)
  sized := by simp [Sha256.length_bigEndian]

/-- A number of 32 bytes. -/
def scalar (value : Nat) : FixedBytes 32 := ⟨Sha256.bigEndian 32 value, Sha256.length_bigEndian 32 _⟩

def laptopPublic : PublicKey :=
  curvePoint 0x7cf27b188d034f7e8a52380304b51ac3c08969e277f21b35a60b48fc47669978
    0x07775510db8ed040293d9ac69f7430dbba7dade63ce982299e04b79d227873d1

/-- The public key of 3. -/
def devicePublic : PublicKey :=
  curvePoint 0x5ecbe4d1a6330a44c8f7ef951d4bf165e6c6b721efada985fb41661bc6e7fd6c
    0x8734640c4998ff7e374b06ce1a64a2ecd82ab036384fb83d9a79b127a27d5032

def laptopIdentity : PublicKey :=
  curvePoint 0x8e533b6fa0bf7b4625bb30667c01fb607ef9f8b8a80fef5b300628703187b2a3
    0x73eb1dbde03318366d069f83a6f5900053c73633cb041b21c55e1a86c1f400b4

/-- The secret of 2 and 3. -/
def laptopSecret : FixedBytes 32 :=
  scalar 0xb01a172a76a4602c92d3242cb897dde3024c740debb215b4c6b0aae93c2291a9

/-- A signature of the transcript by 7. -/
def laptopSignature : List UInt8 :=
  Sha256.bigEndian 32 0x3ed113b7883b4c590638379db0c21cda16742ed0255048bf433391d374bc21d1 ++
    Sha256.bigEndian 32 0x80497e4d64c15f473a2b3a350bf7d2bdc0c949b8a1de4ba8ba27aed4c7716b1a

/-- The public keys of the two ephemeral keys. -/
def laptopPublicOf (key : PrivateKey) : PublicKey :=
  if key = scalar 3 then devicePublic else laptopPublic

/-- The device's library, with what it answers in this handshake. -/
def laptopCrypto : SessionCrypto :=
  { SessionCrypto.sample with
    sha256 := fun bytes => some ⟨Sha256.digest bytes, Sha256.length_digest bytes⟩
    verify := fun key digest signature =>
      key == laptopIdentity &&
        digest == scalar 0xcb70e3519ab0019d5451faf7ae57443174c3f334fa1467764e1e26136b913d74 &&
        signature == laptopSignature
    sharedSecret := fun key publicKey =>
      if key = scalar 3 ∧ publicKey = laptopPublic then some laptopSecret else none }

/-- The HMAC of the device's library. -/
def laptopHmac (key message : List UInt8) : Option Digest :=
  some ⟨Sha256.hmac key message, Sha256.length_hmac key message⟩

def laptopWeb : WebCrypto where
  digest bytes := ⟨Sha256.digest bytes, Sha256.length_digest bytes⟩
  hmac key message := ⟨Sha256.hmac key message, Sha256.length_hmac key message⟩
  sign _ := laptopSignature
  deriveBits key publicKey :=
    if key = scalar 2 ∧ publicKey = devicePublic.bytes then some laptopSecret else none

/-- A laptop asks for the status, and is approved on both sides. -/
def laptopRun : PairingRun where
  pairing :=
    { options := ⟨(CString.literal "laptop").bytes, 0, 1, true⟩
      ephemeralPrivate := scalar 2
      clientPublic := laptopPublic
      identityPublic := laptopIdentity
      clientNonce := .fill 32 1 }
  handshake := .zero
  helloMs := 1000
  entropy := ⟨some (scalar 3, devicePublic), .fill 32 2, 77⟩
  identityTrusted := false
  confirmMs := 2000
  devicePhysicalConfirmation := true

/-- The handshake goes through, and the keys are different. -/
theorem laptop_exchange : (laptopRun.exchange (laptopCrypto.withDerivation laptopHmac)
    laptopWeb).any (fun ends =>
      ends.completed.session.receiveKey.bytes != ends.client.transmitKey) = true := by
  decide +kernel

/-- Both libraries compute the same in this handshake. -/
theorem laptop_primitives : SamePrimitives laptopCrypto laptopHmac laptopWeb laptopPublicOf where
  sha256 _ _ called := (Option.some.inj called).symm
  hmac _ _ _ called := (Option.some.inj called).symm
  ecdh device client secret bits shared derived := by
    simp only [laptopCrypto] at shared
    simp only [laptopWeb] at derived
    split at shared
    · split at derived
      · exact (Option.some.inj shared).symm.trans (Option.some.inj derived)
      · cases derived
    · cases shared

theorem laptop_keyed : laptopRun.Keyed laptopPublicOf where
  client := by decide +kernel
  device privateKey publicKey drawn := by
    have isPair := Option.some.inj drawn
    rw [← (Prod.mk.inj isPair).1, ← (Prod.mk.inj isPair).2]
    decide +kernel

theorem laptop_keys_differ : ∃ ends,
    laptopRun.Accepted (laptopCrypto.withDerivation laptopHmac) laptopWeb ends ∧
      ends.completed.session.receiveKey.bytes ≠ ends.client.transmitKey := by
  obtain ⟨ends, through, differ⟩ := (Option.any_eq_true _ _).mp laptop_exchange
  exact ⟨ends, PairingRun.exchange_accepted through, bne_iff_ne.mp differ⟩

/-- What the laptop sends, the device cannot open. -/
theorem laptop_disagrees : ¬ ∀ (crypto : SessionCrypto)
    (hmac : List UInt8 → List UInt8 → Option Digest) (web : WebCrypto)
    (publicOf : PrivateKey → PublicKey), SamePrimitives crypto hmac web publicOf →
    ∀ run : PairingRun, run.Keyed publicOf → ∀ ends,
      run.Accepted (crypto.withDerivation hmac) web ends → run.SidesAgree web ends := by
  intro always
  obtain ⟨ends, accepted, differ⟩ := laptop_keys_differ
  exact differ (always _ _ _ _ laptop_primitives _ laptop_keyed ends accepted).receives

/-- The laptop and the device agree only under a collision. -/
theorem laptop_agrees_iff : ∃ ends,
    laptopRun.Accepted (laptopCrypto.withDerivation laptopHmac) laptopWeb ends ∧
      (laptopRun.SidesAgree laptopWeb ends ↔ laptopRun.HmacCollides laptopWeb ends) := by
  obtain ⟨ends, accepted, -⟩ := laptop_keys_differ
  exact ⟨ends, accepted, pairing_agrees_iff laptop_primitives laptop_keyed accepted⟩

end Laptop

end PoisonedOS
