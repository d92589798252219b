import PoisonedOS.Audit.Chain
import PoisonedOS.Library.HashChain

/-!
# Histories of the audit chain

A history is a sequence of appends, some of them refused. The events that were accepted
form a linked list; the ring holds the latest sixteen of them, each at its number modulo
the size of the ring. So a snapshot is a part of that list: the events still in the ring
whose number is above the requested one, as many as asked for.
-/

namespace PoisonedOS

open HashChain

/-- The arguments of one append. -/
structure AuditRequest where
  actorDigest : Digest
  action : CString
  resource : CString
  decision : AuditDecision
  timestampMs : UInt64
  correlationId : Digest
  safeMetadata : CString

/-- A chain with all events that were ever appended to it. -/
structure AuditHistory where
  events : List AuditEvent
  chain : AuditChain

namespace AuditChain

/-- The numbers a loop over the events of the ring goes through. -/
def eventIds (chain : AuditChain) : List UInt64 :=
  let oldest := chain.nextEventId - UInt64.ofNat chain.eventCount
  (List.range (chain.nextEventId.toNat - oldest.toNat)).map fun offset =>
    UInt64.ofNat (oldest.toNat + offset)

/-- The first event of the ring with a number. -/
def findEvent (chain : AuditChain) (eventId : UInt64) : Option AuditEvent :=
  (List.finRange auditRingSize).findSome? fun slot =>
    (chain.events slot).filter fun event => event.eventId == eventId

/-- What `poison_audit_snapshot` fills in. -/
structure Snapshot where
  events : List AuditEvent
  truncated : Bool
  nextEventId : UInt64
  lastDigest : Digest

/-- `poison_audit_snapshot`, for a capacity from one to the size of the ring. -/
def snapshot (chain : AuditChain) (afterEventId : UInt64) (eventCapacity : Nat) : Snapshot :=
  let oldest := chain.nextEventId - UInt64.ofNat chain.eventCount
  let unread := chain.eventIds.filter fun eventId => afterEventId < eventId
  { events := (unread.filterMap chain.findEvent).take eventCapacity
    truncated := (chain.eventCount != 0 && decide (afterEventId < oldest - 1)) ||
      decide (eventCapacity < unread.length)
    nextEventId := chain.nextEventId
    lastDigest := chain.lastDigest }

end AuditChain

/-- The events follow each other by number and digest. -/
abbrev LinkedEvents (base : Nat) (before : Digest) (events : List AuditEvent) : Prop :=
  Linked (fun event : AuditEvent => event.eventId.toNat) (fun event => event.priorDigest)
    (fun event => event.digest) base before events

/-- The digest the events end with. -/
abbrev lastEventDigest (before : Digest) (events : List AuditEvent) : Digest :=
  lastLink (fun event : AuditEvent => event.digest) before events

namespace AuditHistory

variable (sha256 : List UInt8 → Digest)

/-- Nothing was appended. -/
def start : AuditHistory := ⟨[], .init⟩

/-- One append, accepted or not. -/
def append (history : AuditHistory) (request : AuditRequest) : AuditHistory :=
  match history.chain.append sha256 request.actorDigest request.action request.resource
    request.decision request.timestampMs request.correlationId request.safeMetadata with
  | none => history
  | some (event, chain) => ⟨history.events ++ [event], chain⟩

/-- The history of a sequence of appends. -/
def ofRequests (requests : List AuditRequest) : AuditHistory :=
  requests.foldl (append sha256) start

/-- The slot of the ring an event is stored in. -/
def slotOf (index : Nat) : Fin auditRingSize := ⟨index % auditRingSize, Nat.mod_lt _ (by decide)⟩

/-- The chain is the one its events stand for. -/
structure Recorded (history : AuditHistory) : Prop where
  bounded : history.events.length < 2 ^ 64
  linked : LinkedEvents 0 (.zero _) history.events
  counter : history.chain.nextEventId = UInt64.ofNat (history.events.length + 1)
  last : history.chain.lastDigest = lastEventDigest (.zero _) history.events
  count : history.chain.eventCount = min history.events.length auditRingSize
  index : history.chain.writeIndex = slotOf history.events.length
  stored : ∀ index event, history.events[index]? = some event →
    history.events.length ≤ index + auditRingSize →
    history.chain.events (slotOf index) = some event
  held : ∀ slot event, history.chain.events slot = some event → event ∈ history.events
  printable : ∀ event ∈ history.events, auditTextValid event.action auditTextMax = true ∧
    auditTextValid event.resource auditTextMax = true ∧
    auditTextValid event.safeMetadata auditMetadataMax = true

variable {sha256} {history : AuditHistory}

/-- An empty chain stands for no events. -/
theorem Recorded.start : start.Recorded where
  bounded := by decide
  linked := trivial
  counter := rfl
  last := rfl
  count := rfl
  index := rfl
  stored := by
    intro index event stored
    simp [AuditHistory.start] at stored
  held := by
    intro slot event held
    cases held
  printable := by simp [AuditHistory.start]

/-- The next event's slot is not that of an event that stays in the ring. -/
theorem slotOf_ne {length index : Nat} (before : index < length)
    (kept : length + 1 ≤ index + auditRingSize) : slotOf index ≠ slotOf length := by
  intro same
  have residues : index % 16 = length % 16 := congrArg Fin.val same
  have size : auditRingSize = 16 := rfl
  omega

theorem nextIndex_slotOf (length : Nat) :
    AuditChain.nextIndex (slotOf length) = slotOf (length + 1) := by
  apply Fin.ext
  have size : auditRingSize = 16 := rfl
  simp only [AuditChain.nextIndex, slotOf, size]
  omega

/-- Every append keeps the record, whether it is accepted or not. -/
theorem Recorded.append (recorded : history.Recorded) (request : AuditRequest) :
    (history.append sha256 request).Recorded := by
  unfold AuditHistory.append
  split
  · exact recorded
  rename_i event next appended
  obtain ⟨counter, accepted, fields, rfl⟩ := AuditChain.append_some appended
  have bounded := recorded.bounded
  have numbered := recorded.counter
  have length : history.events.length + 1 < 2 ^ 64 := by
    refine Nat.lt_of_le_of_ne bounded fun full => counter ?_
    rw [numbered, full]
    decide
  have eventId : event.eventId.toNat = history.events.length + 1 := by
    rw [show event.eventId = history.chain.nextEventId by rw [fields], numbered]
    exact UInt64.toNat_ofNat_of_lt' length
  have linked : LinkedEvents 0 (.zero _) (history.events ++ [event]) := by
    refine recorded.linked.concat ?_ ?_
    · simp only [eventId]
      omega
    · rw [show event.priorDigest = history.chain.lastDigest by rw [fields]]
      exact recorded.last
  refine ⟨?_, linked, ?_, ?_, ?_, ?_, ?_, ?_, ?_⟩
  · rw [List.length_append, List.length_singleton]
    exact length
  · simp only [AuditChain.push, numbered, List.length_append, List.length_singleton]
    rw [UInt64.ofNat_add (history.events.length + 1) 1]
    rfl
  · show event.digest = lastEventDigest (.zero _) (history.events ++ [event])
    exact (lastLink_concat _ history.events event).symm
  · have count : history.chain.eventCount = min history.events.length auditRingSize := recorded.count
    simp only [AuditChain.push, count, List.length_append, List.length_singleton]
    split <;> omega
  · have index : history.chain.writeIndex = slotOf history.events.length := recorded.index
    simp only [AuditChain.push, index, nextIndex_slotOf, List.length_append,
      List.length_singleton]
  · intro index stored isStored kept
    have write : history.chain.writeIndex = slotOf history.events.length := recorded.index
    simp only [List.length_append, List.length_singleton] at kept
    simp only [AuditChain.push, write]
    by_cases before : index < history.events.length
    · rw [List.getElem?_append_left before] at isStored
      rw [Function.update_of_ne (slotOf_ne before kept)]
      exact recorded.stored index stored isStored (show history.events.length ≤ index + auditRingSize by omega)
    · rw [List.getElem?_append_right (by omega)] at isStored
      have isLast : index = history.events.length := by
        have position := (List.getElem?_eq_some_iff.mp isStored).1
        simp only [List.length_singleton] at position
        omega
      subst isLast
      rw [Nat.sub_self] at isStored
      rw [Function.update_self]
      exact isStored
  · intro slot stored isHeld
    simp only [AuditChain.push] at isHeld
    by_cases written : slot = history.chain.writeIndex
    · rw [written, Function.update_self, Option.some.injEq] at isHeld
      subst isHeld
      exact List.mem_append_right history.events (List.mem_singleton_self event)
    · rw [Function.update_of_ne written] at isHeld
      exact List.mem_append_left [event] (recorded.held slot stored isHeld)
  · intro stored isStored
    cases List.mem_append.mp isStored with
    | inl old => exact recorded.printable stored old
    | inr new =>
      obtain rfl : stored = event := List.mem_singleton.mp new
      simp only [AuditChain.acceptable, auditMetadataSafe, Bool.and_eq_true] at accepted
      rw [fields]
      exact ⟨accepted.1.1.1.2, accepted.1.1.2, accepted.2.2⟩

/-- So every history is recorded. -/
theorem recorded_ofRequests (sha256 : List UInt8 → Digest) (requests : List AuditRequest) :
    (ofRequests sha256 requests).Recorded := by
  suffices kept : ∀ history : AuditHistory, history.Recorded →
      (requests.foldl (AuditHistory.append sha256) history).Recorded from kept start .start
  induction requests with
  | nil => exact fun history recorded => recorded
  | cons request requests ih =>
    exact fun history recorded => ih _ (recorded.append request)

/-- The events still in the ring. -/
def retained (history : AuditHistory) : List AuditEvent :=
  history.events.drop (history.events.length - auditRingSize)

/-- The retained events above a number. -/
def unread (history : AuditHistory) (afterEventId : UInt64) : List AuditEvent :=
  history.retained.filter fun event => decide (afterEventId < event.eventId)

section Snapshot

variable (recorded : history.Recorded) (short : history.events.length + 1 < 2 ^ 64)

include recorded short

/-- The next number and the oldest one in the ring, as numbers. -/
theorem counters_toNat :
    history.chain.nextEventId.toNat = history.events.length + 1 ∧
      (history.chain.nextEventId - UInt64.ofNat history.chain.eventCount).toNat =
        history.events.length - auditRingSize + 1 := by
  have next : history.chain.nextEventId.toNat = history.events.length + 1 := by
    rw [recorded.counter]
    exact UInt64.toNat_ofNat_of_lt' short
  have count : (UInt64.ofNat history.chain.eventCount).toNat =
      min history.events.length auditRingSize := by
    rw [recorded.count]
    exact UInt64.toNat_ofNat_of_lt' (lt_of_le_of_lt (min_le_left _ _)
      (show history.events.length < 2 ^ 64 by omega))
  refine ⟨next, ?_⟩
  have fits : UInt64.ofNat history.chain.eventCount ≤ history.chain.nextEventId := by
    rw [UInt64.le_iff_toNat_le, count, next]
    omega
  rw [UInt64.toNat_sub_of_le _ _ fits, count, next]
  omega

/-- The ring is asked for the numbers of the retained events, in order. -/
theorem eventIds_eq :
    history.chain.eventIds = (List.range history.retained.length).map fun offset =>
      UInt64.ofNat (history.events.length - auditRingSize + 1 + offset) := by
  obtain ⟨next, oldest⟩ := counters_toNat recorded short
  have length : history.retained.length =
      history.events.length + 1 - (history.events.length - auditRingSize + 1) := by
    simp only [retained, List.length_drop]
    omega
  simp only [AuditChain.eventIds, next, oldest, length]

omit short in
/-- A retained event is found by its number. -/
theorem findEvent_eq {index : Nat} {event : AuditEvent}
    (stored : history.events[index]? = some event)
    (kept : history.events.length ≤ index + auditRingSize) :
    history.chain.findEvent event.eventId = some event := by
  have inSlot := recorded.stored index event stored kept
  cases found : history.chain.findEvent event.eventId with
  | none =>
    have absent := List.findSome?_eq_none_iff.mp found (slotOf index) (List.mem_finRange _)
    rw [inSlot] at absent
    simp [Option.filter] at absent
  | some other =>
    obtain ⟨slot, -, selected⟩ := List.exists_of_findSome?_eq_some found
    obtain ⟨held, same⟩ := Option.filter_eq_some_iff.mp selected
    obtain ⟨position, within, isOther⟩ := List.mem_iff_getElem.mp (recorded.held slot other held)
    have otherStored : history.events[position]? = some other := by
      rw [List.getElem?_eq_getElem within, isOther]
    have number := recorded.linked.number_eq stored
    have otherNumber := recorded.linked.number_eq otherStored
    have equal : other.eventId = event.eventId := by simpa using same
    rw [equal] at otherNumber
    have samePlace : position = index := by omega
    rw [samePlace, stored, Option.some.injEq] at otherStored
    rw [otherStored]

/-- Looking the numbers up yields the retained events. -/
theorem map_findEvent :
    history.chain.eventIds.map history.chain.findEvent = history.retained.map some := by
  rw [eventIds_eq recorded short]
  refine List.ext_getElem (by simp) ?_
  intro offset inIds inEvents
  have within : offset < history.retained.length := by simpa using inIds
  have position : history.events.length - auditRingSize + offset < history.events.length := by
    simp only [retained, List.length_drop] at within
    omega
  have stored : history.events[history.events.length - auditRingSize + offset]? =
      some history.retained[offset] := by
    simp only [retained, List.getElem_drop, List.getElem?_eq_getElem position]
  have number := recorded.linked.number_eq stored
  have eventId : UInt64.ofNat (history.events.length - auditRingSize + 1 + offset) =
      history.retained[offset].eventId := by
    apply UInt64.toNat.inj
    rw [number, UInt64.toNat_ofNat_of_lt' (show _ < 2 ^ 64 by omega)]
    omega
  simp only [List.getElem_map, List.getElem_range, eventId]
  exact findEvent_eq recorded stored (by omega)

/-- The numbers above a bound lead to the unread events. -/
theorem unread_eq (afterEventId : UInt64) :
    (history.chain.eventIds.filter fun eventId => decide (afterEventId < eventId)).map
      history.chain.findEvent = (history.unread afterEventId).map some := by
  have looked := map_findEvent recorded short
  have numbered : ∀ eventId ∈ history.chain.eventIds, ∀ event,
      history.chain.findEvent eventId = some event → event.eventId = eventId := by
    intro eventId _ event found
    obtain ⟨slot, -, selected⟩ := List.exists_of_findSome?_eq_some found
    simpa using (Option.filter_eq_some_iff.mp selected).2
  rw [unread]
  generalize history.chain.eventIds = eventIds at looked numbered
  generalize history.retained = events at looked
  induction eventIds generalizing events with
  | nil =>
    cases events with
    | nil => rfl
    | cons event events => cases looked
  | cons eventId eventIds ih =>
    cases events with
    | nil => cases looked
    | cons event events =>
      rw [List.map_cons, List.map_cons, List.cons.injEq] at looked
      have same := numbered eventId List.mem_cons_self event looked.1
      have rest := ih
        (fun other inside => numbered other (List.mem_cons_of_mem eventId inside)) events looked.2
      rw [List.filter_cons, List.filter_cons, same]
      split
      · rw [List.map_cons, List.map_cons, looked.1, rest]
      · exact rest

/-- The snapshot of a recorded chain. -/
theorem snapshot_eq (afterEventId : UInt64) (eventCapacity : Nat) :
    history.chain.snapshot afterEventId eventCapacity =
      { events := (history.unread afterEventId).take eventCapacity
        truncated := decide (afterEventId.toNat < history.events.length - auditRingSize) ||
          decide (eventCapacity < (history.unread afterEventId).length)
        nextEventId := history.chain.nextEventId
        lastDigest := history.chain.lastDigest } := by
  have looked := unread_eq recorded short afterEventId
  obtain ⟨next, oldest⟩ := counters_toNat recorded short
  have events : (history.chain.eventIds.filter fun eventId =>
      decide (afterEventId < eventId)).filterMap history.chain.findEvent =
      history.unread afterEventId := by
    have mapped := congrArg (List.filterMap id) looked
    simpa [List.filterMap_map] using mapped
  have length : (history.chain.eventIds.filter fun eventId =>
      decide (afterEventId < eventId)).length = (history.unread afterEventId).length := by
    have mapped := congrArg List.length looked
    simpa using mapped
  have missing : (history.chain.eventCount != 0 &&
      decide (afterEventId < history.chain.nextEventId -
        UInt64.ofNat history.chain.eventCount - 1)) =
      decide (afterEventId.toNat < history.events.length - auditRingSize) := by
    have previous : (history.chain.nextEventId - UInt64.ofNat history.chain.eventCount - 1).toNat =
        history.events.length - auditRingSize := by
      rw [UInt64.toNat_sub_of_le _ _ (by rw [UInt64.le_iff_toNat_le, oldest]; simp), oldest]
      simp
    have count := recorded.count
    have size : auditRingSize = 16 := rfl
    rw [Bool.eq_iff_iff]
    simp only [Bool.and_eq_true, bne_iff_ne, decide_eq_true_eq, UInt64.lt_iff_toNat_lt, previous]
    omega
  simp only [AuditChain.snapshot, events, length, missing]

end Snapshot

end AuditHistory

end PoisonedOS
