import PoisonedOS.Audit.History
import PoisonedOS.Library.Hex

/-!
# Reading the audit chain

The device answers a snapshot request with one message for each event and a receipt. The
dashboard collects them, checks that the events follow each other, and compares the receipt
with the events.

Where the checks start is known on the two sides from different data: the device has the
ring, the dashboard the request and the receipt.
-/

namespace PoisonedOS

open HashChain

/-- `PB_Poison_AuditEvent`; the decision is its number. -/
structure AuditEventMessage where
  eventId : UInt64
  priorDigest : List UInt8
  actorDigest : List UInt8
  action : CString
  resource : CString
  decision : UInt8
  timestampMs : UInt64
  correlationId : List UInt8
  safeMetadata : CString
  digest : List UInt8
deriving DecidableEq

/-- `PB_Poison_AuditSnapshotEnd`. -/
structure AuditSnapshotEnd where
  nextEventId : UInt64
  lastDigest : List UInt8
  truncated : Bool
deriving DecidableEq

/-- The content of a response. -/
inductive AuditContent where
  | event (event : AuditEventMessage)
  | snapshotEnd (receipt : AuditSnapshotEnd)
  | empty
deriving DecidableEq

/-- A response to a snapshot request. -/
structure AuditResponse where
  accepted : Bool
  hasNext : Bool
  content : AuditContent
deriving DecidableEq

/-- The message of an event. -/
def AuditEvent.message (event : AuditEvent) : AuditEventMessage where
  eventId := event.eventId
  priorDigest := event.priorDigest.bytes
  actorDigest := event.actorDigest.bytes
  action := event.action
  resource := event.resource
  decision := event.decision.number
  timestampMs := event.timestampMs
  correlationId := event.correlationId.bytes
  safeMetadata := event.safeMetadata
  digest := event.digest.bytes

/-- The receipt of a snapshot. -/
def AuditChain.Snapshot.receipt (snapshot : AuditChain.Snapshot) : AuditSnapshotEnd :=
  ⟨snapshot.nextEventId, snapshot.lastDigest.bytes, snapshot.truncated⟩

/-- `rpc_poison_audit_snapshot_process` in an active secure session: the messages sent. -/
def auditSnapshotProcess (chain : AuditChain) (afterEventId : UInt64) (maxEvents : Nat) :
    List AuditResponse :=
  if maxEvents == 0 || auditRingSize < maxEvents then [⟨false, false, .empty⟩]
  else
    let snapshot := chain.snapshot afterEventId maxEvents
    snapshot.events.map (fun event => ⟨true, true, .event event.message⟩) ++
      [⟨true, false, .snapshotEnd snapshot.receipt⟩]

namespace AuditClient

/-- The codes of `AuditClientError`. -/
inductive Error where
  | gap
  | digest
  | invalid
deriving DecidableEq, Repr

/-- `AuditEvent` of the dashboard. Digests are hexadecimal texts; numbers are big integers
made of unsigned ones, so never negative. -/
structure Event where
  eventId : Nat
  priorDigest : List UInt8
  actorDigest : List UInt8
  action : CString
  resource : CString
  decision : AuditDecision
  timestampMs : Nat
  correlationId : List UInt8
  safeMetadata : CString
  digest : List UInt8
deriving DecidableEq

/-- `AuditSnapshot`. -/
structure Snapshot where
  events : List Event
  truncated : Bool
  verified : Bool
  nextEventId : Nat
  lastDigest : List UInt8
deriving DecidableEq

/-- `"00".repeat(32)`. -/
def zeroDigest : List UInt8 := List.replicate 64 48

/-- `isDigest`. -/
def isDigest (value : List UInt8) : Bool := value.length == 64 && value.all isLowerHex

/-- `printable`. -/
def printable (value : CString) (maximum : Nat) : Bool :=
  decide (0 < value.length) && decide (value.length ≤ maximum) && value.bytes.all isPrintable

/-- `hex`. -/
def hex (value : List UInt8) : Except Error (List UInt8) :=
  if value.length = 32 then .ok (hexBytes value) else .error .invalid

/-- `verifyAuditSequence`, from the number and the digest it expects on. -/
def verifyAuditSequence : List Event → List UInt8 → Nat → Except Error Unit
  | [], _, _ => .ok ()
  | event :: events, previousDigest, expectedId =>
    if event.eventId ≠ expectedId then .error .gap
    else if !isDigest event.priorDigest || !isDigest event.digest || !isDigest event.actorDigest ||
        !isDigest event.correlationId then .error .invalid
    else if event.priorDigest ≠ previousDigest then .error .digest
    else if !printable event.action 32 || !printable event.resource 32 ||
        !printable event.safeMetadata 64 then .error .invalid
    else verifyAuditSequence events event.digest (expectedId + 1)

/-- `decisions`. -/
def decisions (number : UInt8) : Option AuditDecision :=
  [AuditDecision.denied, .allowed, .expired, .revoked][number.toNat]?

/-- The event of a message. -/
def eventOf (message : AuditEventMessage) : Except Error Event := do
  match decisions message.decision with
  | none => .error .invalid
  | some decision =>
    let priorDigest ← hex message.priorDigest
    let actorDigest ← hex message.actorDigest
    let correlationId ← hex message.correlationId
    let digest ← hex message.digest
    return { eventId := message.eventId.toNat, priorDigest, actorDigest, action := message.action,
             resource := message.resource, decision, timestampMs := message.timestampMs.toNat,
             correlationId, safeMetadata := message.safeMetadata, digest }

/-- The loop over the responses. The receipt is accepted as the last response only, so
nothing follows it. -/
def collect : List AuditResponse → Except Error (List Event × Option AuditSnapshotEnd)
  | [] => .ok ([], none)
  | response :: responses =>
    if !response.accepted then .error .invalid
    else
      match response.content with
      | .event message =>
        if !response.hasNext then .error .invalid
        else do
          let event ← eventOf message
          let (events, receipt) ← collect responses
          return (event :: events, receipt)
      | .snapshotEnd receipt =>
        if !response.hasNext && responses.isEmpty then .ok ([], some receipt) else .error .invalid
      | .empty => .error .invalid

/-- `AuditClient.read`, given the responses its request is answered with. -/
def read (afterEventId : UInt64) (maxEvents : Nat) (responses : List AuditResponse) :
    Except Error Snapshot := do
  if maxEvents < 1 || 16 < maxEvents then throw .invalid
  let (events, receipt) ← collect responses
  match receipt with
  | none => throw .invalid
  | some receipt =>
    let lastDigest ← hex receipt.lastDigest
    let first := if receipt.truncated then events.head? else none
    let initialEventId := first.elim (afterEventId.toNat + 1) (·.eventId)
    let initialDigest := first.elim zeroDigest (·.priorDigest)
    verifyAuditSequence events initialDigest initialEventId
    if events.getLast?.any fun event => receipt.nextEventId.toNat ≤ event.eventId then throw .gap
    let expectedLastDigest := events.getLast?.elim zeroDigest (·.digest)
    if !receipt.truncated && (lastDigest != expectedLastDigest ||
        receipt.nextEventId.toNat != events.getLast?.elim 0 (·.eventId) + 1) then throw .digest
    return { events, truncated := receipt.truncated
             verified := !receipt.truncated && afterEventId == 0
             nextEventId := receipt.nextEventId.toNat, lastDigest }

end AuditClient

def AuditEvent.shown (event : AuditEvent) : AuditClient.Event where
  eventId := event.eventId.toNat
  priorDigest := hexBytes event.priorDigest.bytes
  actorDigest := hexBytes event.actorDigest.bytes
  action := event.action
  resource := event.resource
  decision := event.decision
  timestampMs := event.timestampMs.toNat
  correlationId := hexBytes event.correlationId.bytes
  safeMetadata := event.safeMetadata
  digest := hexBytes event.digest.bytes

namespace AuditHistory

/-- The stream for a request is accepted, and what is read is the oldest retained events
above the number, as many as asked for, with the chain's next number and last digest; it is
called verified only when it is the whole chain. -/
def ReadsBack (history : AuditHistory) (afterEventId : UInt64) (maxEvents : Nat) : Prop :=
  ∃ snapshot, AuditClient.read afterEventId maxEvents
      (auditSnapshotProcess history.chain afterEventId maxEvents) = .ok snapshot ∧
    snapshot.events = ((history.unread afterEventId).take maxEvents).map AuditEvent.shown ∧
    snapshot.nextEventId = history.chain.nextEventId.toNat ∧
    snapshot.lastDigest = hexBytes history.chain.lastDigest.bytes ∧
    (snapshot.verified = true → snapshot.events = history.events.map AuditEvent.shown)

/-- When a read works: the counter has not run out, no event read has metadata over 64
characters, and the read starts at the beginning of the chain or does not reach its end. A
read that neither starts at the beginning nor leaves anything out works only on an empty
chain, or after an event whose digest is zero. -/
structure Readable (history : AuditHistory) (afterEventId : UInt64) (maxEvents : Nat) : Prop where
  counting : history.events.length + 1 < 2 ^ 64
  metadata : ∀ event ∈ (history.unread afterEventId).take maxEvents,
    event.safeMetadata.length ≤ 64
  position : history.events = [] ∨ afterEventId = 0 ∨
    afterEventId.toNat < history.events.length - auditRingSize ∨
    maxEvents < (history.unread afterEventId).length ∨
    (afterEventId.toNat < history.events.length ∧
      lastEventDigest (.zero _) (history.events.take afterEventId.toNat) = .zero _)

end AuditHistory

open AuditEvent (message shown)

namespace AuditClient

/-- A digest of the device is read as its hexadecimal text. -/
theorem hex_digest (digest : Digest) : hex digest.bytes = .ok (hexBytes digest.bytes) := by
  simp only [hex, show digest.bytes.length = 32 from digest.sized, ↓reduceIte]

/-- That text is a digest. -/
theorem isDigest_hexBytes (digest : Digest) : isDigest (hexBytes digest.bytes) = true := by
  simp only [isDigest, Hex.length_hexBytes, Hex.hexBytes_lower, digest.sized,
    confirmationDigestBytes, Nat.reduceMul, BEq.rfl, Bool.and_self]

/-- Different digests have different texts. -/
theorem hexBytes_digest {left right : Digest} :
    hexBytes left.bytes = hexBytes right.bytes ↔ left = right := by
  constructor
  · intro same
    cases left
    cases right
    simp only [FixedBytes.mk.injEq]
    exact Hex.hexBytes_injective same
  · rintro rfl
    rfl

theorem zeroDigest_eq : zeroDigest = hexBytes (FixedBytes.zero confirmationDigestBytes).bytes := by
  decide

theorem decisions_number (decision : AuditDecision) :
    decisions decision.number = some decision := by
  cases decision <;> rfl

/-- The message of an event is read as the event. -/
theorem eventOf_message (event : AuditEvent) : eventOf event.message = .ok event.shown := by
  simp only [eventOf, message, decisions_number, hex_digest]
  rfl

theorem collect_stream (events : List AuditEvent) (receipt : AuditSnapshotEnd) :
    collect (events.map (fun event => ⟨true, true, .event event.message⟩) ++
      [⟨true, false, .snapshotEnd receipt⟩]) = .ok (events.map shown, some receipt) := by
  induction events with
  | nil => rfl
  | cons event events ih =>
    simp only [List.map_cons, List.cons_append, collect, Bool.not_true, Bool.false_eq_true,
      ↓reduceIte, eventOf_message, ih]
    rfl

/-- A text the chain accepted is printable for the dashboard up to its limit. -/
theorem printable_valid {value : CString} {limit : Nat} (valid : auditTextValid value limit = true)
    (maximum : Nat) : printable value maximum = decide (value.length ≤ maximum) := by
  simp only [auditTextValid, Bool.and_eq_true, Bool.not_eq_true', decide_eq_true_eq] at valid
  obtain ⟨⟨nonempty, -⟩, letters⟩ := valid
  have positive : 0 < value.length := by
    rw [CString.length, List.length_pos_iff]
    intro empty
    rw [(CString.isEmpty_iff value).mpr empty] at nonempty
    cases nonempty
  simp only [printable, positive, decide_true, letters, Bool.true_and, Bool.and_true]

/-- The checks of the dashboard on linked events: they pass exactly when they start where the
events do and no metadata is too long. -/
theorem verify_shown {base : Nat} {before : Digest} {events : List AuditEvent}
    (linked : LinkedEvents base before events)
    (texts : ∀ event ∈ events, auditTextValid event.action auditTextMax = true ∧
      auditTextValid event.resource auditTextMax = true ∧
      auditTextValid event.safeMetadata auditMetadataMax = true)
    (previous : Digest) (expected : Nat) :
    verifyAuditSequence (events.map shown) (hexBytes previous.bytes) expected = .ok () ↔
      events = [] ∨ (expected = base + 1 ∧ previous = before ∧
        ∀ event ∈ events, event.safeMetadata.length ≤ 64) := by
  induction events generalizing base before previous expected with
  | nil => simp [verifyAuditSequence]
  | cons event events ih =>
    obtain ⟨number, prior, rest⟩ := linked
    obtain ⟨action, resource, metadata⟩ := texts event List.mem_cons_self
    have actionFits : event.action.length ≤ 32 := by
      simp only [auditTextValid, Bool.and_eq_true, decide_eq_true_eq] at action
      exact action.1.2
    have resourceFits : event.resource.length ≤ 32 := by
      simp only [auditTextValid, Bool.and_eq_true, decide_eq_true_eq] at resource
      exact resource.1.2
    have further := ih rest
      (fun other inside => texts other (List.mem_cons_of_mem event inside)) event.digest
      (expected + 1)
    simp only [List.map_cons, verifyAuditSequence, shown, number, prior,
      isDigest_hexBytes, hexBytes_digest, printable_valid action, printable_valid resource,
      printable_valid metadata, actionFits, resourceFits, decide_true, Bool.not_true,
      Bool.or_self, Bool.false_eq_true, ↓reduceIte, Bool.false_or, Bool.not_eq_true',
      decide_eq_false_iff_not, not_le, ne_eq, reduceCtorEq, false_or, List.forall_mem_cons]
    by_cases numbered : base + 1 = expected
    swap
    · simp [numbered, Ne.symm numbered]
    by_cases continues : before = previous
    swap
    · simp [numbered, continues, Ne.symm continues]
    by_cases long : 64 < event.safeMetadata.length
    · simp [numbered, continues, long, Nat.not_le.mpr long]
    subst numbered continues
    simp only [not_true_eq_false, ↓reduceIte, long, true_and, Nat.not_lt.mp long]
    refine further.trans ⟨?_, fun short => .inr ⟨rfl, rfl, short⟩⟩
    rintro (rfl | ⟨-, -, short⟩)
    · simp
    · exact short

variable (event : Option AuditEvent)

/-- The predecessor shown for an event, or the text of zeros. -/
theorem elim_priorDigest :
    (event.map shown).elim zeroDigest (·.priorDigest) =
      hexBytes (event.elim (FixedBytes.zero _) (·.priorDigest)).bytes := by
  cases event with
  | none => exact zeroDigest_eq
  | some event => rfl

theorem elim_digest :
    (event.map shown).elim zeroDigest (·.digest) =
      hexBytes (event.elim (FixedBytes.zero _) (·.digest)).bytes := by
  cases event with
  | none => exact zeroDigest_eq
  | some event => rfl

/-- The number shown for an event, or another one. -/
theorem elim_eventId (other : Nat) :
    (event.map shown).elim other (·.eventId) =
      event.elim other (·.eventId.toNat) := by
  cases event <;> rfl

/-- The dashboard reads a snapshot when the checks on its events pass from where they are
started, the receipt's number is above the last event's, and a receipt that leaves nothing
out fits the last event. -/
theorem read_stream {maxEvents : Nat} (positive : 1 ≤ maxEvents) (bounded : maxEvents ≤ 16)
    {chain : AuditChain} {afterEventId : UInt64} {events : List AuditEvent} {truncated : Bool}
    (shape : chain.snapshot afterEventId maxEvents =
      ⟨events, truncated, chain.nextEventId, chain.lastDigest⟩) (result : Snapshot) :
    read afterEventId maxEvents (auditSnapshotProcess chain afterEventId maxEvents) = .ok result ↔
      verifyAuditSequence (events.map shown)
        (hexBytes ((if truncated then events.head? else none).elim (FixedBytes.zero _)
          (·.priorDigest)).bytes)
        ((if truncated then events.head? else none).elim (afterEventId.toNat + 1)
          (·.eventId.toNat)) = .ok () ∧
      (∀ event ∈ events.getLast?, event.eventId.toNat < chain.nextEventId.toNat) ∧
      (truncated = false →
        chain.lastDigest = events.getLast?.elim (.zero _) (·.digest) ∧
        chain.nextEventId.toNat = events.getLast?.elim 0 (·.eventId.toNat) + 1) ∧
      result = ⟨events.map shown, truncated, !truncated && afterEventId == 0,
        chain.nextEventId.toNat, hexBytes chain.lastDigest.bytes⟩ := by
  have notZero : ¬ maxEvents < 1 := by omega
  have notOver : ¬ 16 < maxEvents := by omega
  have requested : (maxEvents == 0) = false := by simpa using (show maxEvents ≠ 0 by omega)
  have within : ¬ auditRingSize < maxEvents := notOver
  have head : (if truncated then (events.map shown).head? else none) =
      (if truncated then events.head? else none).map shown := by
    cases truncated <;> simp
  have above : ((events.getLast?.map shown).any fun event =>
      decide (chain.nextEventId.toNat ≤ event.eventId)) = true ↔
      ¬ ∀ event ∈ events.getLast?, event.eventId.toNat < chain.nextEventId.toNat := by
    cases events.getLast? with
    | none => simp
    | some last => simp [shown]
  have receipt : (!truncated && (hexBytes chain.lastDigest.bytes !=
      hexBytes (events.getLast?.elim (FixedBytes.zero _) (·.digest)).bytes ||
      chain.nextEventId.toNat != events.getLast?.elim 0 (·.eventId.toNat) + 1)) = true ↔
      ¬ (truncated = false → chain.lastDigest = events.getLast?.elim (.zero _) (·.digest) ∧
        chain.nextEventId.toNat = events.getLast?.elim 0 (·.eventId.toNat) + 1) := by
    cases truncated with
    | true => simp
    | false => simp [hexBytes_digest, imp_iff_not_or]
  simp only [read, auditSnapshotProcess, notZero, notOver, requested, within, decide_false,
    Bool.or_self, Bool.false_eq_true, ↓reduceIte, collect_stream, shape,
    AuditChain.Snapshot.receipt, bind, Except.bind, hex_digest, pure, Except.pure, throw,
    throwThe, MonadExceptOf.throw, head, elim_priorDigest, elim_eventId, List.getLast?_map,
    elim_digest, above, receipt]
  cases checked : verifyAuditSequence (events.map shown)
      (hexBytes ((if truncated then events.head? else none).elim (FixedBytes.zero _)
        (·.priorDigest)).bytes)
      ((if truncated then events.head? else none).elim (afterEventId.toNat + 1)
        (·.eventId.toNat)) with
  | error failure => simp
  | ok passed =>
    have done : (Except.ok passed : Except Error Unit) = .ok () := rfl
    by_cases advances : ∀ event ∈ events.getLast?,
      event.eventId.toNat < chain.nextEventId.toNat
    swap
    · rw [if_pos advances]
      exact ⟨fun failed => (by cases failed), fun passed => absurd passed.2.1 advances⟩
    by_cases fits : truncated = false →
        chain.lastDigest = events.getLast?.elim (.zero _) (·.digest) ∧
        chain.nextEventId.toNat = events.getLast?.elim 0 (·.eventId.toNat) + 1
    swap
    · rw [if_neg (not_not_intro advances), if_pos fits]
      exact ⟨fun failed => (by cases failed), fun passed => absurd passed.2.2.1 fits⟩
    rw [if_neg (not_not_intro advances), if_neg (not_not_intro fits), Except.ok.injEq]
    exact ⟨fun same => ⟨done, advances, fits, same.symm⟩, fun passed => passed.2.2.2.symm⟩

end AuditClient

namespace AuditHistory

variable {history : AuditHistory} {afterEventId : UInt64} {maxEvents : Nat}

/-- Where the unread events start among all events. -/
def unreadFrom (history : AuditHistory) (afterEventId : UInt64) : Nat :=
  max (history.events.length - auditRingSize) afterEventId.toNat

/-- The unread events are all events from there on. -/
theorem unread_drop (recorded : history.Recorded) (afterEventId : UInt64) :
    history.unread afterEventId = history.events.drop (history.unreadFrom afterEventId) := by
  have linked := recorded.linked.drop
    (show history.events.length - auditRingSize ≤ history.events.length by omega)
  have above := linked.filter_above afterEventId.toNat
  rw [unread, retained]
  refine Eq.trans above ?_
  rw [List.drop_drop]
  congr 1
  simp only [unreadFrom]
  omega

/-- The events read are linked from there on. -/
theorem taken_linked (recorded : history.Recorded) (maxEvents : Nat)
    (within : history.unreadFrom afterEventId ≤ history.events.length) :
    LinkedEvents (history.unreadFrom afterEventId)
      (lastEventDigest (.zero _) (history.events.take (history.unreadFrom afterEventId)))
      ((history.unread afterEventId).take maxEvents) := by
  have linked := (recorded.linked.drop within).take maxEvents
  rw [Nat.zero_add] at linked
  rw [unread_drop recorded]
  exact linked

/-- An event read is one of the chain. -/
theorem mem_of_taken (recorded : history.Recorded) {event : AuditEvent}
    (taken : event ∈ (history.unread afterEventId).take maxEvents) : event ∈ history.events := by
  rw [unread_drop recorded] at taken
  exact List.mem_of_mem_drop (List.mem_of_mem_take taken)

/-- The number of an event is at most the number of events. -/
theorem eventId_le (recorded : history.Recorded) {event : AuditEvent}
    (stored : event ∈ history.events) : event.eventId.toNat ≤ history.events.length := by
  obtain ⟨index, within, isEvent⟩ := List.mem_iff_getElem.mp stored
  have number := recorded.linked.number_eq
    (show history.events[index]? = some event by rw [List.getElem?_eq_getElem within, isEvent])
  omega

/-- The snapshot leaves something out. -/
def Truncated (history : AuditHistory) (afterEventId : UInt64) (maxEvents : Nat) : Prop :=
  afterEventId.toNat < history.events.length - auditRingSize ∨
    maxEvents < (history.unread afterEventId).length

/-- A snapshot that leaves something out has an event. -/
theorem Truncated.taken (recorded : history.Recorded) (positive : 1 ≤ maxEvents)
    (truncated : history.Truncated afterEventId maxEvents) :
    history.unreadFrom afterEventId < history.events.length ∧
      (history.unread afterEventId).take maxEvents ≠ [] := by
  have length : (history.unread afterEventId).length =
      history.events.length - history.unreadFrom afterEventId := by
    rw [unread_drop recorded, List.length_drop]
  have inside : history.unreadFrom afterEventId < history.events.length := by
    cases truncated with
    | inl missing =>
      have size : auditRingSize = 16 := rfl
      simp only [unreadFrom]
      omega
    | inr more => omega
  refine ⟨inside, fun empty => ?_⟩
  have none := congrArg List.length empty
  rw [List.length_take, length, List.length_nil] at none
  omega

/-- The last event read comes before the chain's next number. -/
theorem taken_advances (recorded : history.Recorded)
    (short : history.events.length + 1 < 2 ^ 64) (afterEventId : UInt64) (maxEvents : Nat) :
    ∀ event ∈ ((history.unread afterEventId).take maxEvents).getLast?,
      event.eventId.toNat < history.chain.nextEventId.toNat := by
  intro event last
  have next := (counters_toNat recorded short).1
  have number := eventId_le recorded (mem_of_taken recorded (List.mem_of_getLast? last))
  omega

/-- The texts of the events read are those the chain accepted. -/
theorem taken_printable (recorded : history.Recorded) (afterEventId : UInt64)
    (maxEvents : Nat) :
    ∀ event ∈ (history.unread afterEventId).take maxEvents,
      auditTextValid event.action auditTextMax = true ∧
      auditTextValid event.resource auditTextMax = true ∧
      auditTextValid event.safeMetadata auditMetadataMax = true :=
  fun event taken => recorded.printable event (mem_of_taken recorded taken)

theorem readsBack_truncated (recorded : history.Recorded)
    (short : history.events.length + 1 < 2 ^ 64) (positive : 1 ≤ maxEvents)
    (bounded : maxEvents ≤ 16) (truncated : history.Truncated afterEventId maxEvents) :
    history.ReadsBack afterEventId maxEvents ↔
      ∀ event ∈ (history.unread afterEventId).take maxEvents,
        event.safeMetadata.length ≤ 64 := by
  obtain ⟨inside, nonempty⟩ := truncated.taken recorded positive
  have linked := taken_linked recorded maxEvents inside.le
  have shape := snapshot_eq recorded short afterEventId maxEvents
  have flag : (decide (afterEventId.toNat < history.events.length - auditRingSize) ||
      decide (maxEvents < (history.unread afterEventId).length)) = true := by
    rw [Bool.or_eq_true, decide_eq_true_eq, decide_eq_true_eq]
    exact truncated
  rw [flag] at shape
  have texts := taken_printable recorded afterEventId maxEvents
  have advances := taken_advances recorded short afterEventId maxEvents
  have reads := AuditClient.read_stream positive bounded shape
  have checks : AuditClient.verifyAuditSequence
      (((history.unread afterEventId).take maxEvents).map shown)
      (hexBytes ((((history.unread afterEventId).take maxEvents).head?).elim (FixedBytes.zero _)
        (·.priorDigest)).bytes)
      ((((history.unread afterEventId).take maxEvents).head?).elim (afterEventId.toNat + 1)
        (·.eventId.toNat)) = .ok () ↔
      ∀ event ∈ (history.unread afterEventId).take maxEvents, event.safeMetadata.length ≤ 64 := by
    cases taken : (history.unread afterEventId).take maxEvents with
    | nil => exact absurd taken nonempty
    | cons first rest =>
      rw [taken] at linked texts
      have starts := AuditClient.verify_shown linked texts first.priorDigest first.eventId.toNat
      refine starts.trans ⟨?_, fun fits => .inr ⟨linked.1, linked.2.1, fits⟩⟩
      rintro (empty | ⟨-, -, fits⟩)
      · cases empty
      · exact fits
  rw [← checks]
  constructor
  · rintro ⟨snapshot, read, -⟩
    exact ((reads snapshot).mp read).1
  · intro passed
    refine ⟨_, (reads _).mpr ⟨passed, advances, nofun, rfl⟩, rfl, rfl, rfl, nofun⟩

/-- A read that leaves nothing out must start at the beginning of the chain: its receipt is
compared with the events read, and the first of them with the zero digest. -/
theorem readsBack_whole (recorded : history.Recorded)
    (short : history.events.length + 1 < 2 ^ 64) (positive : 1 ≤ maxEvents)
    (bounded : maxEvents ≤ 16) (whole : ¬ history.Truncated afterEventId maxEvents) :
    history.ReadsBack afterEventId maxEvents ↔
      (∀ event ∈ (history.unread afterEventId).take maxEvents,
        event.safeMetadata.length ≤ 64) ∧
      (history.events = [] ∨ afterEventId = 0 ∨
        (afterEventId.toNat < history.events.length ∧
          lastEventDigest (.zero _) (history.events.take afterEventId.toNat) = .zero _)) := by
  have shape := snapshot_eq recorded short afterEventId maxEvents
  have flag : (decide (afterEventId.toNat < history.events.length - auditRingSize) ||
      decide (maxEvents < (history.unread afterEventId).length)) = false := by
    rw [Bool.or_eq_false_iff, decide_eq_false_iff_not, decide_eq_false_iff_not]
    exact not_or.mp whole
  rw [flag] at shape
  obtain ⟨present, few⟩ := not_or.mp whole
  have start : history.unreadFrom afterEventId = afterEventId.toNat := by
    simp only [unreadFrom]
    omega
  have all : (history.unread afterEventId).take maxEvents =
      history.events.drop afterEventId.toNat := by
    rw [List.take_of_length_le (Nat.not_lt.mp few), unread_drop recorded, start]
  have texts := taken_printable recorded afterEventId maxEvents
  have advances := taken_advances recorded short afterEventId maxEvents
  have reads := AuditClient.read_stream positive bounded shape
  have next := (counters_toNat recorded short).1
  by_cases inside : afterEventId.toNat < history.events.length
  · have nonempty : history.events ≠ [] := by
      intro empty
      rw [empty, List.length_nil] at inside
      omega
    have linked := taken_linked recorded maxEvents (start ▸ inside.le)
    have checks := AuditClient.verify_shown linked texts (.zero _) (afterEventId.toNat + 1)
    rw [start] at checks
    have takenNonempty : (history.unread afterEventId).take maxEvents ≠ [] := by
      rw [all, ne_eq, List.drop_eq_nil_iff]
      omega
    have last : ((history.unread afterEventId).take maxEvents).getLast? =
        history.events.getLast? := by
      rw [all, List.getLast?_drop, if_neg (by omega)]
    obtain ⟨final, isFinal⟩ : ∃ final, history.events.getLast? = some final :=
      Option.ne_none_iff_exists'.mp (by rwa [ne_eq, List.getLast?_eq_none_iff])
    have receipt : history.chain.lastDigest = final.digest ∧
        history.chain.nextEventId.toNat = final.eventId.toNat + 1 := by
      have stored : history.events[history.events.length - 1]? = some final := by
        rw [← List.getLast?_eq_getElem?, isFinal]
      have number := recorded.linked.number_eq stored
      refine ⟨?_, by omega⟩
      rw [recorded.last]
      exact lastLink_getLast isFinal
    have origin : afterEventId = 0 →
        lastEventDigest (.zero _) (history.events.take afterEventId.toNat) = .zero _ := by
      rintro rfl
      rfl
    constructor
    · rintro ⟨snapshot, read, -⟩
      cases checks.mp ((reads snapshot).mp read).1 with
      | inl empty => exact absurd empty takenNonempty
      | inr starts => exact ⟨starts.2.2, .inr (.inr ⟨inside, starts.2.1.symm⟩)⟩
    · rintro ⟨fits, position⟩
      have zero : lastEventDigest (.zero _) (history.events.take afterEventId.toNat) =
          .zero _ := by
        obtain empty | beginning | linkedToZero := position
        · exact absurd empty nonempty
        · exact origin beginning
        · exact linkedToZero.2
      refine ⟨_, (reads _).mpr ⟨checks.mpr (.inr ⟨rfl, zero.symm, fits⟩), advances, ?_, rfl⟩,
        rfl, rfl, rfl, ?_⟩
      · intro _
        rw [last, isFinal]
        exact receipt
      · intro verified
        simp only [Bool.not_false, Bool.true_and, beq_iff_eq] at verified
        rw [all, verified]
        rfl
  · have none : (history.unread afterEventId).take maxEvents = [] := by
      rw [all, List.drop_eq_nil_iff]
      omega
    rw [none] at reads ⊢
    constructor
    · rintro ⟨snapshot, read, -⟩
      have receipt := (((reads snapshot).mp read).2.2.1 rfl).2
      simp only [List.getLast?_nil, Option.elim_none] at receipt
      exact ⟨by simp, .inl (List.length_eq_zero_iff.mp (by omega))⟩
    · rintro ⟨-, position⟩
      have empty : history.events = [] := by
        obtain empty | beginning | linkedToZero := position
        · exact empty
        · rw [beginning] at inside
          exact List.length_eq_zero_iff.mp (by simpa using inside)
        · exact absurd linkedToZero.1 inside
      have digest : history.chain.lastDigest = .zero _ := by
        rw [recorded.last, empty]
        rfl
      refine ⟨_, (reads _).mpr ⟨rfl, by simp, ?_, rfl⟩, ?_, rfl, rfl, ?_⟩
      · intro _
        refine ⟨digest, ?_⟩
        rw [next, empty]
        rfl
      · rw [none]
      · rw [empty]
        exact fun _ => rfl

/-- The snapshot of a chain whose counter has run out: the loop over the ring finds no number
below it. -/
theorem snapshot_run_out (recorded : history.Recorded)
    (wrapped : ¬ history.events.length + 1 < 2 ^ 64) (afterEventId : UInt64)
    (eventCapacity : Nat) :
    history.chain.nextEventId = 0 ∧ history.chain.snapshot afterEventId eventCapacity =
      ⟨[], decide (afterEventId < 0 - 16 - 1), history.chain.nextEventId,
        history.chain.lastDigest⟩ := by
  have length : history.events.length + 1 = 2 ^ 64 := by
    have := recorded.bounded
    omega
  have size : auditRingSize = 16 := rfl
  have next : history.chain.nextEventId = 0 := by
    rw [recorded.counter, length]
    decide
  have count : history.chain.eventCount = 16 := by
    rw [recorded.count]
    omega
  have noIds : UInt64.toNat 0 - (0 - UInt64.ofNat 16).toNat = 0 := by decide
  refine ⟨next, ?_⟩
  simp only [AuditChain.snapshot, AuditChain.eventIds, next, count, noIds, List.range_zero,
    List.map_nil, List.filter_nil, List.filterMap_nil, List.take_nil, List.length_nil,
    Nat.not_lt_zero, decide_false, Bool.or_false]
  rfl

/-- Nothing reads back once the counter has run out. -/
theorem not_readsBack_wrapped (recorded : history.Recorded)
    (wrapped : ¬ history.events.length + 1 < 2 ^ 64) (positive : 1 ≤ maxEvents)
    (bounded : maxEvents ≤ 16) : ¬ history.ReadsBack afterEventId maxEvents := by
  have length : history.events.length + 1 = 2 ^ 64 := by
    have := recorded.bounded
    omega
  have size : auditRingSize = 16 := rfl
  obtain ⟨next, shape⟩ := snapshot_run_out recorded wrapped afterEventId maxEvents
  have reads := AuditClient.read_stream positive bounded shape
  rintro ⟨snapshot, read, events, -⟩
  obtain ⟨-, -, receipt, rfl⟩ := (reads snapshot).mp read
  have none : history.unread afterEventId = [] := by
    have unseen := congrArg List.length events
    simp only [List.map_nil, List.length_nil, List.length_map, List.length_take] at unseen
    exact List.length_eq_zero_iff.mp (by omega)
  rw [unread_drop recorded, List.drop_eq_nil_iff, unreadFrom] at none
  have last : afterEventId.toNat = 2 ^ 64 - 1 := by
    have := afterEventId.toNat_lt
    omega
  have notBelow : decide (afterEventId < 0 - 16 - 1) = false := by
    have bound : (0 - 16 - 1 : UInt64).toNat = 2 ^ 64 - 17 := by decide
    rw [decide_eq_false_iff_not, UInt64.lt_iff_toNat_lt, bound, last]
    omega
  have advanced := (receipt notBelow).2
  rw [next] at advanced
  simp at advanced

end AuditHistory

open AuditHistory in
/-- Audit read-back: for every history of appends, every event number and every count from 1
to 16, what the dashboard reads is what the chain holds if and only if the read is
readable. -/
theorem audit_reads_back_iff (sha256 : List UInt8 → Digest) (requests : List AuditRequest)
    (afterEventId : UInt64) (maxEvents : Nat) (positive : 1 ≤ maxEvents)
    (bounded : maxEvents ≤ 16) :
    (AuditHistory.ofRequests sha256 requests).ReadsBack afterEventId maxEvents ↔
      (AuditHistory.ofRequests sha256 requests).Readable afterEventId maxEvents := by
  have recorded := recorded_ofRequests sha256 requests
  generalize AuditHistory.ofRequests sha256 requests = history at recorded
  by_cases short : history.events.length + 1 < 2 ^ 64
  swap
  · constructor
    · exact fun reads => absurd reads (not_readsBack_wrapped recorded short positive bounded)
    · exact fun readable => absurd readable.counting short
  by_cases truncated : history.Truncated afterEventId maxEvents
  · rw [readsBack_truncated recorded short positive bounded truncated]
    constructor
    · intro fits
      refine ⟨short, fits, ?_⟩
      cases truncated with
      | inl missing => exact .inr (.inr (.inl missing))
      | inr more => exact .inr (.inr (.inr (.inl more)))
    · exact Readable.metadata
  · rw [readsBack_whole recorded short positive bounded truncated]
    obtain ⟨present, few⟩ := not_or.mp truncated
    constructor
    · rintro ⟨fits, empty | beginning | linkedToZero⟩
      · exact ⟨short, fits, .inl empty⟩
      · exact ⟨short, fits, .inr (.inl beginning)⟩
      · exact ⟨short, fits, .inr (.inr (.inr (.inr linkedToZero)))⟩
    · rintro ⟨-, fits, empty | beginning | missing | more | linkedToZero⟩
      · exact ⟨fits, .inl empty⟩
      · exact ⟨fits, .inr (.inl beginning)⟩
      · exact absurd missing present
      · exact absurd more few
      · exact ⟨fits, .inr (.inr linkedToZero)⟩

namespace AuditHistory

/-- An append of a pairing with some digests. -/
def pairing : AuditRequest where
  actorDigest := ⟨List.replicate 32 3, by simp [confirmationDigestBytes]⟩
  action := .literal "pair"
  resource := .literal "client"
  decision := .allowed
  timestampMs := 10
  correlationId := ⟨List.replicate 32 4, by simp [confirmationDigestBytes]⟩
  safeMetadata := .literal "role=operator"

end AuditHistory

open AuditHistory in
/-- Two events are read back from the beginning. -/
theorem pairings_read_back :
    (AuditHistory.ofRequests sha256Of [pairing, pairing]).ReadsBack 0 16 :=
  (audit_reads_back_iff sha256Of [pairing, pairing] 0 16 (by decide) (by decide)).mpr
    ⟨by decide +kernel, by decide +kernel, .inr (.inl rfl)⟩

open AuditHistory in
/-- After one event, asking for what came after it is answered with the receipt alone, and
the dashboard rejects it: it expects the digest and the number of an empty chain. -/
theorem poll_rejected :
    AuditClient.read 1 16 (auditSnapshotProcess
      (AuditHistory.ofRequests sha256Of [pairing]).chain 1 16) = .error .digest ∧
    ¬ (AuditHistory.ofRequests sha256Of [pairing]).ReadsBack 1 16 := by
  have rejected : AuditClient.read 1 16 (auditSnapshotProcess
      (AuditHistory.ofRequests sha256Of [pairing]).chain 1 16) = .error .digest := by
    decide +kernel
  refine ⟨rejected, ?_⟩
  rintro ⟨snapshot, read, -⟩
  rw [rejected] at read
  cases read

end PoisonedOS
