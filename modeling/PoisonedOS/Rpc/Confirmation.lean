import PoisonedOS.Library.Bytes
import PoisonedOS.Library.Text

/-!
# One-time confirmations

A confirmation binds three digests, a session, a role and a policy version to a
random token for a bounded time. Approving it consumes it. The random generator
is the environment's: the token an issue draws is an argument.
-/

namespace PoisonedOS

/-- `POISON_CONFIRMATION_DIGEST_BYTES`. -/
def confirmationDigestBytes : Nat := 32

/-- `POISON_CONFIRMATION_TOKEN_BYTES`. -/
def confirmationTokenBytes : Nat := 16

/-- `POISON_CONFIRMATION_MAX_TTL_MS`. -/
def confirmationMaxTtlMs : UInt32 := 60000

/-- A byte array of fixed size. -/
structure FixedBytes (size : Nat) where
  bytes : List UInt8
  sized : bytes.length = size
deriving DecidableEq

/-- The array `memset` leaves. -/
def FixedBytes.zero (size : Nat) : FixedBytes size := ⟨List.replicate size 0, by simp⟩

/-- The output of SHA-256. -/
abbrev Digest := FixedBytes confirmationDigestBytes

/-- A confirmation token. -/
abbrev Token := FixedBytes confirmationTokenBytes

/-- `PoisonRole` without its counting sentinel. -/
inductive Role where
  | owner
  | operator
  | instructor
  | student
  | observer
deriving DecidableEq, Repr

/-- `PoisonConfirmationResult`. -/
inductive ConfirmationResult where
  | ok
  | invalid
  | expired
  | replay
  | mismatch
deriving DecidableEq, Repr

/-- `PoisonConfirmation`. -/
structure Confirmation where
  active : Bool
  physicalRequired : Bool
  consumed : Bool
  sessionId : UInt64
  role : Role
  commandDigest : Digest
  targetDigest : Digest
  consequenceDigest : Digest
  token : Token
  policyVersion : UInt32
  expiresAtMs : UInt64
deriving DecidableEq

/-- `RpcPoisonPackagesRequestContext`; `RpcPoisonContentUpdateRequestContext` has
the same fields. -/
structure RequestContext where
  sessionId : UInt64
  role : Role
  policyVersion : UInt32
  nowMs : UInt64
  physicalConfirmed : Bool
deriving DecidableEq

/-- The three digests a confirmation binds. -/
structure BoundDigests where
  command : Digest
  target : Digest
  consequence : Digest
deriving DecidableEq

/-- `poison_confirmation_digest_valid`: some byte is not zero. -/
def confirmationDigestValid (digest : Digest) : Bool := digest.bytes.any (· != 0)

namespace Confirmation

/-- The confirmation `memset` leaves. -/
def zero : Confirmation where
  active := false
  physicalRequired := false
  consumed := false
  sessionId := 0
  role := .owner
  commandDigest := .zero _
  targetDigest := .zero _
  consequenceDigest := .zero _
  token := .zero _
  policyVersion := 0
  expiresAtMs := 0

/-- `poison_confirmation_issue`, with the token it draws: the confirmation it
writes, or `none` when its arguments are invalid. -/
def issue (sessionId : UInt64) (role : Role) (digests : BoundDigests) (policyVersion : UInt32)
    (nowMs : UInt64) (ttlMs : UInt32) (physicalRequired : Bool) (token : Token) :
    Option Confirmation :=
  if sessionId == 0 || !confirmationDigestValid digests.command ||
      !confirmationDigestValid digests.target || !confirmationDigestValid digests.consequence ||
      ttlMs == 0 || ttlMs > confirmationMaxTtlMs ||
      0xFFFFFFFFFFFFFFFF - nowMs < ttlMs.toUInt64 then
    none
  else
    some {
      active := true
      physicalRequired
      consumed := false
      sessionId, role
      commandDigest := digests.command
      targetDigest := digests.target
      consequenceDigest := digests.consequence
      token, policyVersion
      expiresAtMs := nowMs + ttlMs.toUInt64 }

/-- `poison_confirmation_approve`: its result and the confirmation it leaves. -/
def approve (confirmation : Confirmation) (sessionId : UInt64) (role : Role)
    (digests : BoundDigests) (token : List UInt8) (policyVersion : UInt32) (nowMs : UInt64)
    (physicalConfirmed : Bool) : ConfirmationResult × Confirmation :=
  if !confirmation.active || confirmation.consumed then (.replay, confirmation)
  else if nowMs ≥ confirmation.expiresAtMs then
    (.expired, { confirmation with active := false })
  else if confirmation.sessionId != sessionId || confirmation.role != role ||
      confirmation.policyVersion != policyVersion || confirmation.token.bytes != token ||
      confirmation.commandDigest != digests.command ||
      confirmation.targetDigest != digests.target ||
      confirmation.consequenceDigest != digests.consequence then
    (.mismatch, confirmation)
  else if confirmation.physicalRequired && !physicalConfirmed then (.mismatch, confirmation)
  else (.ok, { confirmation with consumed := true, active := false })

variable {sessionId nowMs : UInt64} {role : Role} {digests : BoundDigests} {policyVersion : UInt32}

/-- What an issued confirmation holds. -/
theorem issue_some {ttlMs : UInt32} {physicalRequired : Bool} {token : Token}
    {issued : Confirmation}
    (accepted : issue sessionId role digests policyVersion nowMs ttlMs physicalRequired token =
      some issued) :
    issued = {
      active := true
      physicalRequired
      consumed := false
      sessionId, role
      commandDigest := digests.command
      targetDigest := digests.target
      consequenceDigest := digests.consequence
      token, policyVersion
      expiresAtMs := nowMs + ttlMs.toUInt64 } := by
  unfold issue at accepted
  split at accepted
  · cases accepted
  · exact (Option.some.inj accepted).symm

/-- What is used before its expiry is used within its lifetime, also where the
sum wraps. -/
theorem before_expiry {issuedMs : UInt64} {ttlMs : UInt32}
    (unexpired : nowMs < issuedMs + ttlMs.toUInt64) :
    nowMs.toNat < issuedMs.toNat + ttlMs.toNat := by
  have inNat := UInt64.lt_iff_toNat_lt.mp unexpired
  rw [UInt64.toNat_add, UInt32.toNat_toUInt64] at inNat
  exact lt_of_lt_of_le inNat (Nat.mod_le _ _)

/-- An approval is given only to a live confirmation, before it expires, for the
same session, role, policy version, token and digests, and with the physical
confirmation it requires. -/
theorem approve_ok {confirmation : Confirmation} {token : List UInt8} {physicalConfirmed : Bool}
    (approved : (confirmation.approve sessionId role digests token policyVersion nowMs
      physicalConfirmed).1 = .ok) :
    confirmation.active = true ∧ confirmation.consumed = false ∧
      nowMs < confirmation.expiresAtMs ∧ confirmation.sessionId = sessionId ∧
      confirmation.role = role ∧ confirmation.policyVersion = policyVersion ∧
      confirmation.token.bytes = token ∧ confirmation.commandDigest = digests.command ∧
      confirmation.targetDigest = digests.target ∧
      confirmation.consequenceDigest = digests.consequence ∧
      (confirmation.physicalRequired = true → physicalConfirmed = true) := by
  unfold approve at approved
  split at approved
  · simp at approved
  rename_i live
  split at approved
  · simp at approved
  rename_i unexpired
  split at approved
  · simp at approved
  rename_i agreed
  split at approved
  · simp at approved
  rename_i physical
  simp only [Bool.or_eq_true, not_or, Bool.not_eq_true', Bool.not_eq_false, Bool.not_eq_true,
    ge_iff_le, UInt64.not_le, bne_iff_ne, ne_eq, not_not, Bool.and_eq_true, not_and]
    at live unexpired agreed physical
  obtain ⟨⟨⟨⟨⟨⟨session, roleSame⟩, policy⟩, tokenSame⟩, command⟩, target⟩, consequence⟩ := agreed
  exact ⟨live.1, live.2, unexpired, session, roleSame, policy, tokenSame, command, target,
    consequence, physical⟩

/-- After a probe that was approved as physically confirmed, the real approval
either succeeds or leaves the confirmation as it is. -/
theorem approve_after_probe {confirmation : Confirmation} {token : List UInt8}
    (probed : (confirmation.approve sessionId role digests token policyVersion nowMs true).1 = .ok)
    (physicalConfirmed : Bool) :
    (confirmation.approve sessionId role digests token policyVersion nowMs physicalConfirmed).1 =
        .ok ∨
      confirmation.approve sessionId role digests token policyVersion nowMs physicalConfirmed =
        (.mismatch, confirmation) := by
  unfold approve at probed ⊢
  split at probed
  · cases probed
  rename_i live
  split at probed
  · cases probed
  rename_i unexpired
  split at probed
  · cases probed
  rename_i agreed
  rw [if_neg live, if_neg unexpired, if_neg agreed]
  split
  · exact .inr rfl
  · exact .inl rfl

end Confirmation

end PoisonedOS
