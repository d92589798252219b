import PoisonedOS.Library.Hkdf
import PoisonedOS.Session.Handshake

/-!
# The key schedule of the device

`poison_crypto_hkdf_sha256` extracts a key from the shared secret and expands it block by
block. It is HKDF, except for its salt: whatever the length of the salt, the extraction
reads 32 bytes of it.

HMAC-SHA256 is a parameter, and a call of it may fail.
-/

namespace PoisonedOS

/-- `POISON_CRYPTO_MAX_KDF_BYTES`. -/
def cryptoMaxKdfBytes : Nat := 64

section Derivation

variable (hmac : List UInt8 → List UInt8 → Option Digest)

/-- The loop of `poison_crypto_hkdf_sha256`, over the number of its rounds: what remains to
be produced, the previous block and the counter. -/
def hkdfLoop (key info : List UInt8) : Nat → Nat → List UInt8 → UInt8 → Option (List UInt8)
  | 0, _, _, _ => some []
  | rounds + 1, remaining, previous, counter =>
    if remaining = 0 then some []
    else
      match hmac key ((if counter > 1 then previous else []) ++ info ++ [counter]) with
      | none => none
      | some block =>
        let copyLength := min remaining Hkdf.blockBytes
        if counter == 255 && decide (remaining - copyLength > 0) then none
        else
          (hkdfLoop key info rounds (remaining - copyLength) block.bytes (counter + 1)).map
            (block.bytes.take copyLength ++ ·)

/-- `poison_crypto_hkdf_sha256`. A salt that is not empty must have 32 bytes to read. -/
def hkdfSha256 (salt inputKeyMaterial info : List UInt8) (outputLength : Nat) :
    Option (List UInt8) :=
  if outputLength == 0 || decide (outputLength > cryptoMaxKdfBytes) ||
      decide (info.length > 255) then
    none
  else
    match hmac (if salt.isEmpty then List.replicate 32 0 else salt.take 32) inputKeyMaterial with
    | none => none
    | some key =>
      hkdfLoop hmac key.bytes info ((outputLength + Hkdf.blockBytes - 1) / Hkdf.blockBytes)
        outputLength (List.replicate 32 0) 1

/-- The two keys in 64 bytes of material. -/
def splitKeys (material : List UInt8) : Option (SessionKey × SessionKey) :=
  match FixedBytes.ofList? sessionKeyBytes (material.take sessionKeyBytes),
      FixedBytes.ofList? sessionKeyBytes (material.drop sessionKeyBytes) with
  | some receiveKey, some transmitKey => some (receiveKey, transmitKey)
  | _, _ => none

/-- The functions of `rpc_poison_crypto.c` with the derivation over this code. -/
def SessionCrypto.withDerivation (crypto : SessionCrypto) : SessionCrypto :=
  { crypto with
    hkdf := fun salt secret info =>
      (hkdfSha256 hmac salt secret.bytes info (2 * sessionKeyBytes)).bind splitKeys }

variable {hmac} {mac : List UInt8 → List UInt8 → Digest}

/-- The code of a successful call is the code. -/
def Computes {Input : Type} (call : Input → Option Digest) (function : Input → Digest) : Prop :=
  ∀ input digest, call input = some digest → digest = function input

theorem macs_sized (mac : List UInt8 → List UInt8 → Digest) :
    Hkdf.Sized fun key message => (mac key message).bytes :=
  fun key message => (mac key message).sized

theorem hkdfLoop_blocks (computes : ∀ key, Computes (hmac key) (mac key))
    {key info : List UInt8} {rounds : Nat} (number : Nat) {remaining : Nat}
    {previous output : List UInt8}
    (chained : 0 < number → previous = Hkdf.block (fun key message => (mac key message).bytes)
      key info number)
    (counted : number + rounds ≤ 255)
    (produced : hkdfLoop hmac key info rounds remaining previous (UInt8.ofNat (number + 1)) =
      some output) :
    output = (Hkdf.blocksAfter (fun key message => (mac key message).bytes) key info number
      rounds).take remaining := by
  induction rounds generalizing number remaining previous output with
  | zero =>
    rw [Hkdf.blocksAfter, List.take_nil]
    exact (Option.some.inj produced).symm
  | succ rounds ih =>
    simp only [hkdfLoop] at produced
    by_cases finished : remaining = 0
    · rw [if_pos finished] at produced
      rw [finished, List.take_zero]
      exact (Option.some.inj produced).symm
    · rw [if_neg finished] at produced
      have chain : (if UInt8.ofNat (number + 1) > 1 then previous else []) =
          Hkdf.block (fun key message => (mac key message).bytes) key info number := by
        have value : (UInt8.ofNat (number + 1)).toNat = number + 1 := by
          rw [UInt8.toNat_ofNat']
          omega
        rcases Nat.eq_zero_or_pos number with isFirst | later
        · have notLater : ¬ UInt8.ofNat (number + 1) > 1 := by
            rw [isFirst]
            decide
          rw [if_neg notLater, isFirst, Hkdf.block]
        · have isLater : UInt8.ofNat (number + 1) > 1 := by
            rw [gt_iff_lt, UInt8.lt_iff_toNat_lt, value]
            exact Nat.lt_add_of_pos_left later
          rw [if_pos isLater, chained later]
      rw [chain] at produced
      cases called : hmac key (Hkdf.block (fun key message => (mac key message).bytes) key info
          number ++ info ++ [UInt8.ofNat (number + 1)]) with
      | none =>
        rw [called] at produced
        cases produced
      | some digest =>
        rw [called] at produced
        have isBlock : digest.bytes = Hkdf.block (fun key message => (mac key message).bytes) key
            info (number + 1) := congrArg FixedBytes.bytes (computes key _ _ called)
        simp only at produced
        split at produced
        · cases produced
        · obtain ⟨rest, isRest, isOutput⟩ := Option.map_eq_some_iff.mp produced
          have next : UInt8.ofNat (number + 1) + 1 = UInt8.ofNat (number + 1 + 1) :=
            (UInt8.ofNat_add (number + 1) 1).symm
          rw [next] at isRest
          have isTail := ih (number + 1) (fun _ => isBlock) (by omega) isRest
          rw [Hkdf.take_blocksAfter (macs_sized mac), ← isBlock, ← isTail, isOutput]

/-- What the device derives is HKDF with the first 32 bytes of the salt. -/
theorem hkdfSha256_eq (computes : ∀ key, Computes (hmac key) (mac key))
    {salt inputKeyMaterial info output : List UInt8} {outputLength : Nat}
    (salted : salt ≠ [])
    (derived : hkdfSha256 hmac salt inputKeyMaterial info outputLength = some output) :
    output = Hkdf.derive (fun key message => (mac key message).bytes) (salt.take 32)
      inputKeyMaterial info outputLength := by
  simp only [hkdfSha256] at derived
  split at derived
  · cases derived
  · rename_i bounded
    have few : outputLength ≤ cryptoMaxKdfBytes := by
      by_contra many
      exact bounded (by simp [Nat.lt_of_not_le many])
    have unempty : salt.isEmpty = false := by
      cases salt with
      | nil => exact absurd rfl salted
      | cons first rest => rfl
    simp only [unempty, Bool.false_eq_true, if_false] at derived
    cases called : hmac (salt.take 32) inputKeyMaterial with
    | none =>
      rw [called] at derived
      cases derived
    | some key =>
      rw [called] at derived
      have rounds : (outputLength + Hkdf.blockBytes - 1) / Hkdf.blockBytes ≤ 255 := by
        rw [cryptoMaxKdfBytes] at few
        rw [Hkdf.blockBytes]
        omega
      have isOutput := hkdfLoop_blocks computes 0
        (fun later => absurd later (Nat.lt_irrefl 0)) (by omega) derived
      rw [isOutput, computes _ _ _ called]
      rfl

/-- The keys are the two halves. -/
theorem splitKeys_bytes {material : List UInt8} {keys : SessionKey × SessionKey}
    (split : splitKeys material = some keys) :
    keys.1.bytes = material.take sessionKeyBytes ∧
      keys.2.bytes = material.drop sessionKeyBytes := by
  unfold splitKeys at split
  split at split
  · rename_i receiveKey transmitKey isReceive isTransmit
    cases split
    exact ⟨FixedBytes.ofList?_bytes isReceive, FixedBytes.ofList?_bytes isTransmit⟩
  · cases split

/-- The label and the transcript of a handshake. -/
def PairingHandshake.info (handshake : PairingHandshake) : List UInt8 :=
  sessionKeyLabel ++ handshake.transcriptDigest.bytes

/-- The keys of a handshake are the two blocks of the key extracted with the client's
nonce. The device's nonce is the part of the salt that is not read. -/
theorem directionalKeys_blocks {crypto : SessionCrypto}
    (computes : ∀ key, Computes (hmac key) (mac key)) {handshake : PairingHandshake}
    {keys : SessionKey × SessionKey}
    (derived : handshake.directionalKeys (crypto.withDerivation hmac) = some keys) :
    ∃ secret, crypto.sharedSecret handshake.devicePrivateKey handshake.clientPublicKey =
        some secret ∧
      keys.1.bytes = Hkdf.block (fun key message => (mac key message).bytes)
        (mac handshake.clientNonce.bytes secret.bytes).bytes handshake.info 1 ∧
      keys.2.bytes = Hkdf.block (fun key message => (mac key message).bytes)
        (mac handshake.clientNonce.bytes secret.bytes).bytes handshake.info 2 := by
  obtain ⟨secret, shared, expanded⟩ := Option.bind_eq_some_iff.mp derived
  refine ⟨secret, shared, ?_⟩
  obtain ⟨material, isMaterial, split⟩ := Option.bind_eq_some_iff.mp expanded
  have nonceSized := handshake.clientNonce.sized
  have salted : handshake.clientNonce.bytes ++ handshake.deviceNonce.bytes ≠ [] := by
    intro isEmpty
    have length := congrArg List.length isEmpty
    rw [List.length_append, nonceSized] at length
    simp at length
  have salt : (handshake.clientNonce.bytes ++ handshake.deviceNonce.bytes).take 32 =
      handshake.clientNonce.bytes := by
    rw [List.take_append_of_le_length (Nat.le_of_eq nonceSized.symm),
      List.take_of_length_le (Nat.le_of_eq nonceSized)]
  have sized := macs_sized mac
  have isBlocks := hkdfSha256_eq computes salted isMaterial
  rw [salt, Hkdf.derive] at isBlocks
  have isTwo := isBlocks.trans (Hkdf.expand_two sized _ _)
  obtain ⟨isReceive, isTransmit⟩ := splitKeys_bytes split
  have first := Hkdf.length_block sized (mac handshake.clientNonce.bytes secret.bytes).bytes
    handshake.info 0
  constructor
  · rw [isReceive, isTwo]
    exact List.take_left' first
  · rw [isTransmit, isTwo]
    exact List.drop_left' first

end Derivation

end PoisonedOS
