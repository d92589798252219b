import PoisonedOS.Audit.ReadBack

/-!
# The ring of audit events

The ring holds the latest events of a history, and a snapshot leaves nothing out without
saying so. Both are statements about positions in the history, since an event's number is
one more than its position.

The counter of the chain can run out. It is zero after 2^64 - 1 events, and from then on a
snapshot is empty, because no number is below the next one.
-/

namespace PoisonedOS

/-- `poison_audit_snapshot` with its check of the capacity: for another one nothing is filled
in. -/
def AuditChain.snapshotRequested (chain : AuditChain) (afterEventId : UInt64)
    (eventCapacity : Nat) : Option Snapshot :=
  if eventCapacity == 0 || decide (eventCapacity > auditRingSize) then none
  else some (chain.snapshot afterEventId eventCapacity)

namespace AuditHistory

variable {history : AuditHistory} {afterEventId : UInt64} {eventCapacity : Nat}

/-- What the ring and its snapshots promise. -/
structure RingKept (sha256 : List UInt8 → Digest) (history : AuditHistory)
    (afterEventId : UInt64) (eventCapacity : Nat) : Prop where
  held : ∀ event, (∃ slot, history.chain.events slot = some event) ↔ event ∈ history.retained
  count : history.chain.eventCount = min history.events.length auditRingSize
  linked : LinkedEvents 0 (.zero _) history.events
  next : history.chain.nextEventId = UInt64.ofNat (history.events.length + 1)
  refused : ∀ request : AuditRequest, history.chain.append sha256 request.actorDigest
    request.action request.resource request.decision request.timestampMs request.correlationId
      request.safeMetadata = none → (history.append sha256 request).chain = history.chain
  events : ∀ snapshot, history.chain.snapshotRequested afterEventId eventCapacity = some snapshot →
    snapshot.events = (history.unread afterEventId).take eventCapacity
  truncated : ∀ snapshot,
    history.chain.snapshotRequested afterEventId eventCapacity = some snapshot →
      (snapshot.truncated = true ↔ ∃ event ∈ history.events,
        afterEventId < event.eventId ∧ event ∉ snapshot.events)

/-- Every slot holds an event of the history that is among the latest.

Proof: once the ring is full, the latest events fill all its slots, so that none is left for
an older one. -/
theorem held_iff (recorded : history.Recorded) (event : AuditEvent) :
    (∃ slot, history.chain.events slot = some event) ↔ event ∈ history.retained := by
  have size : auditRingSize = 16 := rfl
  constructor
  · rintro ⟨slot, held⟩
    rw [retained]
    by_cases few : history.events.length ≤ auditRingSize
    · rw [Nat.sub_eq_zero_of_le few, List.drop_zero]
      exact recorded.held slot event held
    · -- the latest position that is stored in the slot
      let index := history.events.length - 1 - (history.events.length - 1 - slot.val) % 16
      have slotBound : slot.val < 16 := slot.isLt
      have within : index < history.events.length := by
        simp only [index]
        omega
      have latest : history.events.length ≤ index + auditRingSize := by
        simp only [index]
        omega
      have isSlot : slotOf index = slot := by
        apply Fin.ext
        simp only [slotOf, index, size]
        omega
      have stored := recorded.stored index _ (List.getElem?_eq_getElem within) latest
      rw [isSlot, held, Option.some.injEq] at stored
      rw [stored]
      refine List.mem_of_getElem? (i := index - (history.events.length - auditRingSize)) ?_
      rw [List.getElem?_drop, Nat.add_sub_cancel' (by omega), List.getElem?_eq_getElem within]
  · intro kept
    obtain ⟨offset, stored⟩ := List.mem_iff_getElem?.mp kept
    rw [retained, List.getElem?_drop] at stored
    exact ⟨_, recorded.stored _ event stored (by omega)⟩

theorem mem_part_iff (recorded : history.Recorded) {index : Nat} {event : AuditEvent}
    (stored : history.events[index]? = some event) (first count : Nat) :
    event ∈ (history.events.drop first).take count ↔ first ≤ index ∧ index < first + count := by
  constructor
  · intro inside
    obtain ⟨offset, isEvent⟩ := List.mem_iff_getElem?.mp inside
    have below : offset < count := by
      by_contra beyond
      rw [List.getElem?_take, if_neg beyond] at isEvent
      cases isEvent
    rw [List.getElem?_take_of_lt below, List.getElem?_drop] at isEvent
    have number := recorded.linked.number_eq stored
    have same := recorded.linked.number_eq isEvent
    omega
  · rintro ⟨above, below⟩
    refine List.mem_of_getElem? (i := index - first) ?_
    rw [List.getElem?_take_of_lt (by omega), List.getElem?_drop, Nat.add_sub_cancel' above, stored]

/-- Something above the number is left out exactly if it has left the ring or there are more
events than asked for. -/
theorem truncated_iff (recorded : history.Recorded) (afterEventId : UInt64)
    (eventCapacity : Nat) :
    history.Truncated afterEventId eventCapacity ↔
      ∃ event ∈ history.events, afterEventId < event.eventId ∧
        event ∉ (history.unread afterEventId).take eventCapacity := by
  have length : (history.unread afterEventId).length =
      history.events.length - history.unreadFrom afterEventId := by
    rw [unread_drop recorded, List.length_drop]
  have from_eq : history.unreadFrom afterEventId =
      max (history.events.length - auditRingSize) afterEventId.toNat := rfl
  have above {index : Nat} {event : AuditEvent} (stored : history.events[index]? = some event) :
      afterEventId < event.eventId ↔ afterEventId.toNat ≤ index := by
    have number := recorded.linked.number_eq stored
    rw [UInt64.lt_iff_toNat_lt]
    omega
  have omitted (index : Nat) (within : index < history.events.length)
      (unread : afterEventId.toNat ≤ index)
      (apart : ¬ (history.unreadFrom afterEventId ≤ index ∧
        index < history.unreadFrom afterEventId + eventCapacity)) :
      ∃ event ∈ history.events, afterEventId < event.eventId ∧
        event ∉ (history.unread afterEventId).take eventCapacity := by
    have stored := List.getElem?_eq_getElem within
    refine ⟨_, List.getElem_mem within, (above stored).mpr unread, ?_⟩
    rw [unread_drop recorded, mem_part_iff recorded stored]
    exact apart
  rw [Truncated, length]
  constructor
  · rintro (missing | more)
    · exact omitted afterEventId.toNat (by omega) (Nat.le_refl _) (by omega)
    · exact omitted (history.unreadFrom afterEventId + eventCapacity) (by omega) (by omega)
        (by omega)
  · rintro ⟨event, inside, unread, absent⟩
    obtain ⟨index, stored⟩ := List.mem_iff_getElem?.mp inside
    have within := (List.getElem?_eq_some_iff.mp stored).1
    rw [above stored] at unread
    rw [unread_drop recorded, mem_part_iff recorded stored] at absent
    omega

/-- The snapshot of a chain whose counter has run out is empty. -/
theorem snapshot_wrapped (recorded : history.Recorded)
    (wrapped : ¬ history.events.length + 1 < 2 ^ 64) (afterEventId : UInt64)
    (eventCapacity : Nat) :
    (history.chain.snapshot afterEventId eventCapacity).events = [] ∧
      (history.chain.snapshot afterEventId eventCapacity).truncated =
        decide (afterEventId.toNat < 2 ^ 64 - 17) := by
  rw [(snapshot_run_out recorded wrapped afterEventId eventCapacity).2]
  exact ⟨rfl, rfl⟩

theorem snapshotRequested_eq {chain : AuditChain} (positive : 1 ≤ eventCapacity)
    (fits : eventCapacity ≤ auditRingSize) :
    chain.snapshotRequested afterEventId eventCapacity =
      some (chain.snapshot afterEventId eventCapacity) := by
  rw [AuditChain.snapshotRequested, beq_eq_false_iff_ne.mpr (Nat.pos_iff_ne_zero.mp positive),
    decide_eq_false (Nat.not_lt.mpr fits)]
  rfl

/-- After 2^64 - 1 events a snapshot is right for the last number alone. -/
theorem not_ringKept_wrapped {sha256 : List UInt8 → Digest} (recorded : history.Recorded)
    (wrapped : ¬ history.events.length + 1 < 2 ^ 64) (positive : 1 ≤ eventCapacity)
    (fits : eventCapacity ≤ auditRingSize) (notLast : afterEventId.toNat ≠ 2 ^ 64 - 1) :
    ¬ history.RingKept sha256 afterEventId eventCapacity := by
  intro kept
  have none := kept.events _ (snapshotRequested_eq positive fits)
  rw [(snapshot_wrapped recorded wrapped afterEventId eventCapacity).1] at none
  have empty := congrArg List.length none
  rw [unread_drop recorded, List.length_nil, List.length_take, List.length_drop,
    unreadFrom] at empty
  have size : auditRingSize = 16 := rfl
  have bounded := recorded.bounded
  have small := afterEventId.toNat_lt
  omega

theorem ringKept_of (sha256 : List UInt8 → Digest) (recorded : history.Recorded)
    (right : ∀ snapshot,
      history.chain.snapshotRequested afterEventId eventCapacity = some snapshot →
        snapshot.events = (history.unread afterEventId).take eventCapacity ∧
          (snapshot.truncated = true ↔ history.Truncated afterEventId eventCapacity)) :
    history.RingKept sha256 afterEventId eventCapacity where
  held := held_iff recorded
  count := recorded.count
  linked := recorded.linked
  next := recorded.counter
  refused request none := by rw [append, none]
  events snapshot requested := (right snapshot requested).1
  truncated snapshot requested := by
    rw [(right snapshot requested).1, (right snapshot requested).2]
    exact truncated_iff recorded afterEventId eventCapacity

/-- Appends that are all accepted give as many events. -/
theorem length_ofRequests (sha256 : List UInt8 → Digest) {request : AuditRequest}
    (accepted : AuditChain.acceptable request.actorDigest request.action request.resource
      request.correlationId request.safeMetadata = true) {count : Nat} (bounded : count < 2 ^ 64) :
    (ofRequests sha256 (List.replicate count request)).events.length = count := by
  induction count with
  | zero => rfl
  | succ count ih =>
    have before := ih (by omega)
    have recorded := recorded_ofRequests sha256 (List.replicate count request)
    have step : ofRequests sha256 (List.replicate (count + 1) request) =
        (ofRequests sha256 (List.replicate count request)).append sha256 request := by
      rw [List.replicate_succ', ofRequests, List.foldl_append]
      rfl
    have counter : (ofRequests sha256 (List.replicate count request)).chain.nextEventId ≠ 0 := by
      intro zero
      have number := congrArg UInt64.toNat (recorded.counter.symm.trans zero)
      rw [before, UInt64.toNat_ofNat_of_lt' bounded] at number
      cases number
    obtain ⟨event, appended, -⟩ :=
      AuditChain.append_accepted sha256 request.decision request.timestampMs counter accepted
    rw [step, append, appended]
    exact (List.length_append ..).trans (congrArg (· + 1) before)

end AuditHistory

open AuditHistory in
/-- Along every history of appends the ring holds the latest events, and a snapshot has the
oldest unread ones and tells exactly if it leaves something out, unless the counter has run
out: then a snapshot is empty, which is right only if there is no higher number.

Proof: what the ring and the snapshot hold is known by position. A number is above another
exactly if its position is at or after it, so something is left out if it is before the ring
or after what was asked for. -/
theorem audit_ring_iff (sha256 : List UInt8 → Digest) (requests : List AuditRequest)
    (afterEventId : UInt64) (eventCapacity : Nat) :
    (ofRequests sha256 requests).RingKept sha256 afterEventId eventCapacity ↔
      (ofRequests sha256 requests).events.length + 1 < 2 ^ 64 ∨
        afterEventId.toNat = 2 ^ 64 - 1 ∨ eventCapacity = 0 ∨ auditRingSize < eventCapacity := by
  have recorded := recorded_ofRequests sha256 requests
  generalize ofRequests sha256 requests = history at recorded
  constructor
  · intro kept
    by_contra apart
    obtain ⟨wrapped, notLast, positive, fits⟩ : _ ∧ _ ∧ _ ∧ _ := by
      simpa only [not_or] using apart
    exact not_ringKept_wrapped recorded wrapped (Nat.pos_of_ne_zero positive)
      (Nat.not_lt.mp fits) notLast kept
  · intro condition
    refine ringKept_of sha256 recorded fun snapshot requested => ?_
    rw [AuditChain.snapshotRequested] at requested
    split at requested
    · cases requested
    rename_i capacity
    simp only [Bool.or_eq_true, beq_iff_eq, decide_eq_true_eq, not_or] at capacity
    obtain rfl := Option.some.inj requested
    by_cases short : history.events.length + 1 < 2 ^ 64
    · rw [snapshot_eq recorded short afterEventId eventCapacity, Truncated, Bool.or_eq_true,
        decide_eq_true_eq, decide_eq_true_eq]
      exact ⟨rfl, Iff.rfl⟩
    · have last := (condition.resolve_left short).resolve_right
        (not_or.mpr ⟨capacity.1, capacity.2⟩)
      obtain ⟨none, whole⟩ := snapshot_wrapped recorded short afterEventId eventCapacity
      have length := recorded.bounded
      have nothing : history.unread afterEventId = [] := by
        rw [unread_drop recorded, List.drop_eq_nil_iff, unreadFrom, last]
        omega
      refine ⟨by rw [none, nothing, List.take_nil], ?_⟩
      rw [whole, last, Truncated, nothing, last, decide_eq_true_eq, List.length_nil]
      omega

open AuditHistory in
/-- After 2^64 - 1 events a snapshot of what follows the last but one is empty and whole. -/
theorem ring_exhausted : ¬ ∀ (requests : List AuditRequest) (afterEventId : UInt64),
    (ofRequests sha256Of requests).RingKept sha256Of afterEventId 16 := by
  intro always
  have accepted : AuditChain.acceptable pairing.actorDigest pairing.action pairing.resource
      pairing.correlationId pairing.safeMetadata = true := by decide +kernel
  obtain ⟨count, all⟩ : ∃ count : Nat, count + 1 = 2 ^ 64 := ⟨2 ^ 64 - 1, rfl⟩
  have length := length_ofRequests sha256Of accepted (show count < 2 ^ 64 by omega)
  refine not_ringKept_wrapped (recorded_ofRequests sha256Of (List.replicate count pairing)) ?_
    (show 1 ≤ 16 by decide) (Nat.le_refl 16) ?_ (always _ 0xFFFFFFFFFFFFFFFE)
  · rw [length, all]
    exact Nat.lt_irrefl _
  · decide

end PoisonedOS
