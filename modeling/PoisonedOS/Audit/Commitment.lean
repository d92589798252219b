import Mathlib.Data.List.Chain
import PoisonedOS.Audit.ReadBack

/-!
# What the audit chain commits to

The counter and the last digest of the device's chain determine every event that was ever appended,
those that the ring has dropped included, as long as the hash function does not collide on their
images: the image of an event determines the event, its texts lying in buffers of fixed size.

On the other end the dashboard trusts nothing that it is sent. What it accepts is a chain without
gaps, whatever the responses were.
-/

namespace PoisonedOS

open HashChain

/-- Arrays of one size are determined with what follows them. -/
theorem FixedBytes.append_injective {size : Nat} {left right : FixedBytes size}
    {tail rest : List UInt8} (same : left.bytes ++ tail = right.bytes ++ rest) :
    left = right ∧ tail = rest := by
  obtain ⟨sameBytes, sameTail⟩ := List.append_inj same (left.sized.trans right.sized.symm)
  cases left
  cases right
  cases sameBytes
  exact ⟨rfl, sameTail⟩

/-- Different decisions have different numbers. -/
theorem AuditDecision.number_injective {left right : AuditDecision}
    (same : left.number = right.number) : left = right := by
  cases left <;> cases right <;> first | rfl | cases same

namespace AuditEventBody

/-- The image determines the event, where its texts have room in their buffers. -/
theorem image_injective {left right : AuditEventBody}
    (leftFits : left.action.length ≤ auditTextMax ∧ left.resource.length ≤ auditTextMax ∧
      left.safeMetadata.length ≤ auditMetadataMax)
    (rightFits : right.action.length ≤ auditTextMax ∧ right.resource.length ≤ auditTextMax ∧
      right.safeMetadata.length ≤ auditMetadataMax)
    (same : left.image = right.image) : left = right := by
  rw [image, image] at same
  obtain ⟨eventId, same⟩ := bytes64_append_injective same
  obtain ⟨priorDigest, same⟩ := FixedBytes.append_injective same
  obtain ⟨actorDigest, same⟩ := FixedBytes.append_injective same
  obtain ⟨action, same⟩ := textBuffer_append_injective (Nat.lt_succ_of_le leftFits.1)
    (Nat.lt_succ_of_le rightFits.1) same
  obtain ⟨resource, same⟩ := textBuffer_append_injective (Nat.lt_succ_of_le leftFits.2.1)
    (Nat.lt_succ_of_le rightFits.2.1) same
  obtain ⟨decision, same⟩ := List.cons.inj same
  obtain ⟨timestampMs, same⟩ := bytes64_append_injective (List.append_cancel_left same)
  obtain ⟨correlationId, same⟩ := FixedBytes.append_injective same
  obtain ⟨safeMetadata, -⟩ := textBuffer_append_injective (Nat.lt_succ_of_le leftFits.2.2)
    (Nat.lt_succ_of_le rightFits.2.2) (congrArg (· ++ []) same)
  have sameDecision := AuditDecision.number_injective decision
  cases left
  cases right
  simp_all only

end AuditEventBody

namespace AuditHistory

variable {sha256 : List UInt8 → Digest}

/-- Each event carries the digest of its image, and its texts fit. -/
theorem sealed_ofRequests (sha256 : List UInt8 → Digest) (requests : List AuditRequest) :
    ∀ event ∈ (ofRequests sha256 requests).events, event.digest = sha256 event.image := by
  induction requests using List.reverseRecOn with
  | nil => simp [ofRequests, start]
  | append_singleton requests request ih =>
    rw [ofRequests, List.foldl_append]
    show ∀ event ∈ ((ofRequests sha256 requests).append sha256 request).events, _
    rw [append]
    split
    · exact ih
    · rename_i event next appended
      rw [AuditChain.append] at appended
      split at appended
      · cases appended
      · cases appended
        intro event isEvent
        obtain old | new := List.mem_append.mp isEvent
        · exact ih event old
        · rw [List.mem_singleton.mp new]

/-- **The counter and the last digest of a chain stand for its whole history.** Histories that
agree in both have the same events, or two of their events collide under the hash function. -/
theorem digest_commits (sha256 : List UInt8 → Digest) (left right : List AuditRequest)
    (counter : (ofRequests sha256 left).chain.nextEventId =
      (ofRequests sha256 right).chain.nextEventId)
    (digest : (ofRequests sha256 left).chain.lastDigest =
      (ofRequests sha256 right).chain.lastDigest) :
    (ofRequests sha256 left).events = (ofRequests sha256 right).events ∨
      ∃ first ∈ (ofRequests sha256 left).events, ∃ second ∈ (ofRequests sha256 right).events,
        first.image ≠ second.image ∧ sha256 first.image = sha256 second.image := by
  have leftRecorded := recorded_ofRequests sha256 left
  have rightRecorded := recorded_ofRequests sha256 right
  refine or_iff_not_imp_right.mpr fun noCollision => ?_
  have counted : (ofRequests sha256 left).events.length =
      (ofRequests sha256 right).events.length := by
    have leftBounded := leftRecorded.bounded
    have rightBounded := rightRecorded.bounded
    rw [leftRecorded.counter, rightRecorded.counter] at counter
    have numbers := congrArg UInt64.toNat counter
    rw [UInt64.toNat_ofNat', UInt64.toNat_ofNat'] at numbers
    omega
  refine leftRecorded.linked.eq_of_lastLink rightRecorded.linked ?_ counted
    (leftRecorded.last.symm.trans (digest.trans rightRecorded.last))
  intro first isFirst second isSecond sameDigest
  have sameImage : first.image = second.image := by
    by_contra different
    refine noCollision ⟨first, isFirst, second, isSecond, different, ?_⟩
    rw [← sealed_ofRequests sha256 left first isFirst,
      ← sealed_ofRequests sha256 right second isSecond, sameDigest]
  have fits {history : AuditHistory} (recorded : history.Recorded) {event : AuditEvent}
      (inside : event ∈ history.events) : event.action.length ≤ auditTextMax ∧
        event.resource.length ≤ auditTextMax ∧ event.safeMetadata.length ≤ auditMetadataMax := by
    have printable := recorded.printable event inside
    simp only [auditTextValid, Bool.and_eq_true, decide_eq_true_eq] at printable
    exact ⟨printable.1.1.2, printable.2.1.1.2, printable.2.2.1.2⟩
  have sameBody := AuditEventBody.image_injective (fits leftRecorded isFirst)
    (fits rightRecorded isSecond) sameImage
  cases first
  cases second
  exact congrArg₂ AuditEvent.mk sameBody sameDigest

/-- An append that was refused leaves no trace. -/
theorem refusal_commits :
    let left := ofRequests sha256Of [pairing]
    let right := ofRequests sha256Of [pairing, { pairing with action := .literal "" }]
    left.events = right.events ∨ ∃ first ∈ left.events, ∃ second ∈ right.events,
      first.image ≠ second.image ∧ sha256Of first.image = sha256Of second.image :=
  digest_commits sha256Of [pairing] [pairing, { pairing with action := .literal "" }] rfl rfl

end AuditHistory

namespace AuditClient

/-- An event comes right after another one. -/
def Event.Follows (event next : Event) : Prop :=
  next.eventId = event.eventId + 1 ∧ next.priorDigest = event.digest

structure Event.WellFormed (event : Event) : Prop where
  digests : isDigest event.priorDigest = true ∧ isDigest event.digest = true ∧
    isDigest event.actorDigest = true ∧ isDigest event.correlationId = true
  texts : printable event.action 32 = true ∧ printable event.resource 32 = true ∧
    printable event.safeMetadata 64 = true

/-- The sequences that are let through are the chains of well-formed events that start where they
are expected to. -/
theorem verifyAuditSequence_ok_iff {events : List Event} {previousDigest : List UInt8}
    {expectedId : Nat} : verifyAuditSequence events previousDigest expectedId = .ok () ↔
      (∀ first ∈ events.head?, first.eventId = expectedId ∧ first.priorDigest = previousDigest) ∧
        events.IsChain Event.Follows ∧ ∀ event ∈ events, event.WellFormed := by
  induction events generalizing previousDigest expectedId with
  | nil => simp [verifyAuditSequence]
  | cons event events ih =>
    rw [verifyAuditSequence, List.forall_mem_cons, List.isChain_cons]
    simp only [List.head?_cons, Option.mem_def, Option.some.injEq, forall_eq']
    split
    · rename_i gap
      exact iff_of_false (by simp) fun all => gap all.1.1
    split
    · rename_i malformed
      refine iff_of_false (by simp) fun all => ?_
      obtain ⟨prior, own, actor, correlation⟩ := all.2.2.1.digests
      simp [prior, own, actor, correlation] at malformed
    split
    · rename_i other
      exact iff_of_false (by simp) fun all => other all.1.2
    split
    · rename_i malformed
      refine iff_of_false (by simp) fun all => ?_
      obtain ⟨action, resource, metadata⟩ := all.2.2.1.texts
      simp [action, resource, metadata] at malformed
    · rename_i numbered digests continues texts
      simp only [ne_eq, not_not, Bool.or_eq_true, Bool.not_eq_true', not_or, Bool.not_eq_false]
        at numbered digests continues texts
      have formed : event.WellFormed := ⟨⟨digests.1.1.1, digests.1.1.2, digests.1.2, digests.2⟩,
        texts.1.1, texts.1.2, texts.2⟩
      rw [ih, ← numbered]
      constructor
      · rintro ⟨next, chain, others⟩
        exact ⟨⟨rfl, continues⟩, ⟨next, chain⟩, formed, others⟩
      · rintro ⟨-, ⟨next, chain⟩, -, others⟩
        exact ⟨next, chain, others⟩

/-- What a snapshot that was accepted stands for. -/
structure Snapshot.Chained (snapshot : Snapshot) (afterEventId : UInt64) : Prop where
  chain : snapshot.events.IsChain Event.Follows
  wellFormed : ∀ event ∈ snapshot.events, event.WellFormed
  advances : ∀ last ∈ snapshot.events.getLast?, last.eventId < snapshot.nextEventId
  begins : snapshot.truncated = false → ∀ first ∈ snapshot.events.head?,
    first.eventId = afterEventId.toNat + 1 ∧ first.priorDigest = zeroDigest
  ends : snapshot.truncated = false →
    snapshot.lastDigest = snapshot.events.getLast?.elim zeroDigest (·.digest) ∧
      snapshot.nextEventId = snapshot.events.getLast?.elim 0 (·.eventId) + 1
  verified : snapshot.verified = true → snapshot.truncated = false ∧ afterEventId = 0

/-- **Whatever a device sends, what is read is a chain of well-formed events**, and unless it says
that something was left out it starts after the requested event and ends with the receipt. -/
theorem read_chained {afterEventId : UInt64} {maxEvents : Nat} {responses : List AuditResponse}
    {snapshot : Snapshot} (isRead : read afterEventId maxEvents responses = .ok snapshot) :
    snapshot.Chained afterEventId := by
  simp only [read, bind, Except.bind, pure, Except.pure, throw, throwThe,
    MonadExceptOf.throw] at isRead
  split at isRead
  · cases isRead
  split at isRead
  · cases isRead
  rename_i collected isCollected
  obtain ⟨events, receipt⟩ := collected
  cases receipt with
  | none => cases isRead
  | some receipt =>
    dsimp only at isRead
    split at isRead
    · cases isRead
    split at isRead
    · cases isRead
    rename_i checked
    split at isRead
    · cases isRead
    rename_i advances
    split at isRead
    · cases isRead
    rename_i fits
    cases isRead
    obtain ⟨starts, chain, wellFormed⟩ := verifyAuditSequence_ok_iff.mp checked
    constructor
    · exact chain
    · exact wellFormed
    · intro last isLast
      rw [isLast] at advances
      simpa using advances
    · intro whole
      replace whole : receipt.truncated = false := whole
      rw [whole] at starts
      exact starts
    · intro whole
      replace whole : receipt.truncated = false := whole
      simpa [whole] using fits
    · intro verified
      simpa using verified

/-- An event with some digest, after the event with another one. -/
def sampleEvent (eventId prior digest : Nat) : AuditEventMessage :=
  ⟨.ofNat eventId, List.replicate 32 (.ofNat prior), List.replicate 32 8, .literal "pair",
    .literal "client", 1, 10, List.replicate 32 7, .literal "role=operator",
    List.replicate 32 (.ofNat digest)⟩

/-- Three events of which each names the digest of the one before it, and a receipt that goes with
them, are accepted. The events are refused when the last one names the digest of the first. -/
theorem events_chained_sample :
    let begun : List AuditResponse :=
      [⟨true, true, .event (sampleEvent 1 0 4)⟩, ⟨true, true, .event (sampleEvent 2 4 5)⟩]
    let receipt : AuditResponse := ⟨true, false, .snapshotEnd ⟨4, List.replicate 32 6, false⟩⟩
    (∃ snapshot, read 0 16 (begun ++ [⟨true, true, .event (sampleEvent 3 5 6)⟩, receipt]) =
        .ok snapshot ∧ snapshot.events.length = 3 ∧ snapshot.Chained 0) ∧
      ∀ snapshot, read 0 16 (begun ++ [⟨true, true, .event (sampleEvent 3 4 6)⟩, receipt]) ≠
        .ok snapshot := by
  intro begun receipt
  constructor
  · exact ⟨_, rfl, rfl, @read_chained 0 16
      (begun ++ [⟨true, true, .event (sampleEvent 3 5 6)⟩, receipt]) _ rfl⟩
  · intro snapshot isRead
    cases isRead

end AuditClient

end PoisonedOS
