import PoisonedOS.Library.Buffers
import PoisonedOS.Library.Sha256
import PoisonedOS.Rpc.Confirmation

/-!
# The audit chain

Security relevant decisions are appended to a chain of events. Each event carries the
digest of the one before it and its own digest over all its fields; the chain keeps the
last digest, the next event's number and a ring of the sixteen latest events.

An event is refused when its digests are zero, its texts are not printable or too long,
or its metadata contains one of five words that might announce a secret. SHA-256 is a
parameter.
-/

namespace PoisonedOS

/-- SHA-256 itself, where the parameter has to be given a value. -/
def sha256Of (message : List UInt8) : Digest :=
  ⟨Sha256.digest message, Sha256.length_digest message⟩

/-- `POISON_AUDIT_TEXT_MAX`. -/
def auditTextMax : Nat := 32

/-- `POISON_AUDIT_METADATA_MAX`. -/
def auditMetadataMax : Nat := 160

/-- `POISON_AUDIT_RING_SIZE`. -/
def auditRingSize : Nat := 16

/-- `PoisonAuditDecision`. -/
inductive AuditDecision where
  | denied
  | allowed
  | expired
  | revoked
deriving DecidableEq, Repr

/-- The number of a decision. -/
def AuditDecision.number : AuditDecision → UInt8
  | .denied => 0
  | .allowed => 1
  | .expired => 2
  | .revoked => 3

/-- `PoisonAuditEvent` up to its digest. -/
structure AuditEventBody where
  eventId : UInt64
  priorDigest : Digest
  actorDigest : Digest
  action : CString
  resource : CString
  decision : AuditDecision
  timestampMs : UInt64
  correlationId : Digest
  safeMetadata : CString
deriving DecidableEq

/-- `PoisonAuditEvent`. -/
structure AuditEvent extends AuditEventBody where
  digest : Digest
deriving DecidableEq

/-- The bytes of a zeroed event before its digest. The decision takes one byte; it is
followed by the padding before the next field of eight bytes. -/
def AuditEventBody.image (event : AuditEventBody) : List UInt8 :=
  bytes64 event.eventId ++ (event.priorDigest.bytes ++ (event.actorDigest.bytes ++
    (textBuffer (auditTextMax + 1) event.action ++ (textBuffer (auditTextMax + 1) event.resource ++
    (event.decision.number :: (List.replicate 5 0 ++ (bytes64 event.timestampMs ++
    (event.correlationId.bytes ++ textBuffer (auditMetadataMax + 1) event.safeMetadata))))))))

/-- `PoisonAuditChain`. A slot of the ring that was never written is `none`; its event
number would be 0, which no event has. -/
structure AuditChain where
  nextEventId : UInt64
  lastDigest : Digest
  events : Fin auditRingSize → Option AuditEvent
  eventCount : Nat
  writeIndex : Fin auditRingSize

/-- `audit_digest_valid`. -/
def auditDigestValid (digest : Digest) : Bool := digest.bytes.any (· != 0)

/-- `' '..'~'`. -/
def isPrintable (byte : UInt8) : Bool := 0x20 ≤ byte && byte ≤ 0x7e

/-- `audit_text_valid`. -/
def auditTextValid (value : CString) (maxLength : Nat) : Bool :=
  !value.isEmpty && decide (value.length ≤ maxLength) && value.bytes.all isPrintable

/-- The words no metadata contains. -/
def auditForbidden : List CString :=
  [.literal "key", .literal "secret", .literal "token", .literal "payload", .literal "private"]

/-- `audit_metadata_safe`. -/
def auditMetadataSafe (metadata : CString) : Bool :=
  !auditForbidden.any metadata.contains && auditTextValid metadata auditMetadataMax

namespace AuditChain

/-- `poison_audit_init`. -/
def init : AuditChain where
  nextEventId := 1
  lastDigest := .zero _
  events := fun _ => none
  eventCount := 0
  writeIndex := ⟨0, by decide⟩

/-- The next slot of the ring. -/
def nextIndex (index : Fin auditRingSize) : Fin auditRingSize :=
  ⟨(index.val + 1) % auditRingSize, Nat.mod_lt _ (by decide)⟩

/-- The chain with one more event. -/
def push (chain : AuditChain) (event : AuditEvent) : AuditChain where
  nextEventId := chain.nextEventId + 1
  lastDigest := event.digest
  events := Function.update chain.events chain.writeIndex (some event)
  eventCount := if chain.eventCount < auditRingSize then chain.eventCount + 1
    else chain.eventCount
  writeIndex := nextIndex chain.writeIndex

/-- The checks on what is appended. -/
def acceptable (actorDigest : Digest) (action resource : CString) (correlationId : Digest)
    (safeMetadata : CString) : Bool :=
  auditDigestValid actorDigest && auditTextValid action auditTextMax &&
    auditTextValid resource auditTextMax && auditDigestValid correlationId &&
    auditMetadataSafe safeMetadata

variable (sha256 : List UInt8 → Digest)

/-- `poison_audit_append`. The event appended is returned with the chain. -/
def append (chain : AuditChain) (actorDigest : Digest) (action resource : CString)
    (decision : AuditDecision) (timestampMs : UInt64) (correlationId : Digest)
    (safeMetadata : CString) : Option (AuditEvent × AuditChain) :=
  if chain.nextEventId == 0 ||
      !acceptable actorDigest action resource correlationId safeMetadata then
    none
  else
    let body : AuditEventBody :=
      { eventId := chain.nextEventId, priorDigest := chain.lastDigest, actorDigest, action,
        resource, decision, timestampMs, correlationId, safeMetadata }
    let event : AuditEvent := { body with digest := sha256 body.image }
    some (event, chain.push event)

variable {sha256} {chain : AuditChain} {actorDigest correlationId : Digest}
  {action resource safeMetadata : CString} {decision : AuditDecision} {timestampMs : UInt64}

/-- What an accepted append leaves: the event of these fields, linked to the one before it. -/
theorem append_accepted (sha256 : List UInt8 → Digest) (decision : AuditDecision)
    (timestampMs : UInt64) (counter : chain.nextEventId ≠ 0)
    (accepted : acceptable actorDigest action resource correlationId safeMetadata = true) :
    ∃ event, chain.append sha256 actorDigest action resource decision timestampMs correlationId
        safeMetadata = some (event, chain.push event) ∧
      event.toAuditEventBody = ⟨chain.nextEventId, chain.lastDigest, actorDigest, action, resource,
        decision, timestampMs, correlationId, safeMetadata⟩ ∧
      event.digest = sha256 event.image := by
  have started : (chain.nextEventId == 0) = false := by simpa using counter
  simp only [append, started, accepted, Bool.not_true, Bool.or_self, Bool.false_eq_true,
    ↓reduceIte]
  exact ⟨_, rfl, rfl, rfl⟩

/-- An append that went through met the checks and left its event. -/
theorem append_some {event : AuditEvent} {next : AuditChain}
    (appended : chain.append sha256 actorDigest action resource decision timestampMs correlationId
      safeMetadata = some (event, next)) :
    chain.nextEventId ≠ 0 ∧
      acceptable actorDigest action resource correlationId safeMetadata = true ∧
      event.toAuditEventBody = ⟨chain.nextEventId, chain.lastDigest, actorDigest, action, resource,
        decision, timestampMs, correlationId, safeMetadata⟩ ∧
      next = chain.push event := by
  simp only [append] at appended
  split at appended
  · cases appended
  · rename_i checked
    simp only [Bool.or_eq_true, beq_iff_eq, Bool.not_eq_true', not_or, Bool.not_eq_false]
      at checked
    cases appended
    exact ⟨checked.1, checked.2, rfl, rfl⟩

/-- An append whose fields are not acceptable is refused. -/
theorem append_refused
    (refused : acceptable actorDigest action resource correlationId safeMetadata = false) :
    chain.append sha256 actorDigest action resource decision timestampMs correlationId
      safeMetadata = none := by
  simp only [append, refused, Bool.not_false, Bool.or_true, ↓reduceIte]

end AuditChain

end PoisonedOS
