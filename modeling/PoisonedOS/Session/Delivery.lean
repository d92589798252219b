import PoisonedOS.Library.Runs
import PoisonedOS.Session.Session

/-!
# Records arrive in order and once

Two peers hold mirrored keys. Each seals messages, and whatever the other is handed
comes from an adversary, who may have dropped, repeated, reordered, altered or made
up any of it. A peer accepts a record only under the number it expects and a header
that the engine authenticates. Where each direction has a key of its own, as pairing
gives them, what a peer has accepted is therefore a prefix of what the other has sealed.
Under one key for both a peer accepts its own records when they are handed back.

The engine is ideal: what it accepts under a key, a nonce and a header it has output
before for these and for the plaintext it returns. A history variable records its
outputs.
-/

namespace PoisonedOS

/-- The two ends of a connection. -/
inductive Peer where
  | device
  | client
deriving DecidableEq

/-- The other end. -/
def Peer.other : Peer → Peer
  | .device => .client
  | .client => .device

@[simp] theorem Peer.other_other (peer : Peer) : peer.other.other = peer := by
  cases peer <;> rfl

theorem Peer.other_ne (peer : Peer) : peer.other ≠ peer := by
  cases peer <;> decide

/-- There is no third end. -/
theorem Peer.eq_or_other (peer first : Peer) : peer = first ∨ peer = first.other := by
  cases peer <;> cases first <;> decide

/-- What a record carries to the other end. -/
structure SessionMessage where
  acknowledgement : UInt64
  channel : CString
  plaintext : List UInt8
deriving DecidableEq

/-- A record as it travels: the header's own fields and the sealed payload. -/
structure SessionRecord where
  sequence : UInt64
  acknowledgement : UInt64
  channel : CString
  ciphertext : List UInt8
  tag : AuthenticationTag
deriving DecidableEq

/-- A successful call of the engine for a message. -/
structure SealCall where
  key : SessionKey
  iv : List UInt8
  header : Option (List UInt8)
  sequence : UInt64
  message : SessionMessage
  ciphertext : List UInt8
  tag : AuthenticationTag
deriving DecidableEq

/-- The two sessions, the seals each has made and the messages each has accepted. -/
structure LinkState where
  session : Peer → PoisonSession
  seals : Peer → List SealCall
  accepted : Peer → List SessionMessage

/-- A peer seals a message, or is handed some record. -/
inductive LinkOperation where
  | send (peer : Peer) (message : SessionMessage)
  | deliver (peer : Peer) (record : SessionRecord)

namespace LinkState

def start (session : Peer → PoisonSession) : LinkState := ⟨session, fun _ => [], fun _ => []⟩

def sent (state : LinkState) (peer : Peer) : List SessionMessage :=
  (state.seals peer).map SealCall.message

end LinkState

section Runs

variable (crypto : SessionCrypto)

/-- `poison_session_encrypt_tx` of a message. -/
def PoisonSession.sealMessage (session : PoisonSession) (message : SessionMessage) :
    Except SessionError SealedPayload × PoisonSession :=
  session.encryptTx crypto message.acknowledgement message.channel message.plaintext

/-- `poison_session_decrypt_rx` of a record. -/
def PoisonSession.unsealRecord (session : PoisonSession) (record : SessionRecord) :
    Except SessionError (List UInt8) × PoisonSession :=
  session.decryptRx crypto record.sequence record.acknowledgement record.channel
    record.ciphertext record.tag

/-- One step of the connection. -/
def linkStep : LinkOperation → LinkState → LinkState
  | .send peer message, state =>
    match (state.session peer).sealMessage crypto message with
    | (.ok payload, session) =>
      let call : SealCall :=
        { key := session.transmitKey
          iv := session.buildIv payload.sequence
          header := session.buildAad payload.sequence message.acknowledgement message.channel
          sequence := payload.sequence
          message
          ciphertext := payload.ciphertext
          tag := payload.tag }
      { state with
        session := Function.update state.session peer session
        seals := Function.update state.seals peer (state.seals peer ++ [call]) }
    | (.error _, session) =>
      { state with session := Function.update state.session peer session }
  | .deliver peer record, state =>
    match (state.session peer).unsealRecord crypto record with
    | (.ok plaintext, session) =>
      let message : SessionMessage := ⟨record.acknowledgement, record.channel, plaintext⟩
      { state with
        session := Function.update state.session peer session
        accepted := Function.update state.accepted peer (state.accepted peer ++ [message]) }
    | (.error _, session) =>
      { state with session := Function.update state.session peer session }

/-- The engine is ideal when a record is delivered: if it accepts the record under
the receiver's key, with the nonce and the header built there, then it has output
the record before for the same key, nonce and header, and returns the plaintext it
was given then. -/
def IdealAt (state : LinkState) (peer : Peer) (record : SessionRecord) : Prop :=
  ∀ header,
    (state.session peer).buildAad record.sequence record.acknowledgement record.channel =
      some header →
    ∀ plaintext, crypto.gcmDecrypt (state.session peer).receiveKey
      ((state.session peer).buildIv record.sequence) header record.ciphertext record.tag =
      some plaintext →
    ∃ sender, ∃ call ∈ state.seals sender, call.key = (state.session peer).receiveKey ∧
      call.iv = (state.session peer).buildIv record.sequence ∧ call.header = some header ∧
      call.ciphertext = record.ciphertext ∧ call.tag = record.tag ∧
      call.message.plaintext = plaintext

def IdealStep (operation : LinkOperation) (state : LinkState) : Prop :=
  match operation with
  | .send _ _ => True
  | .deliver peer record => IdealAt crypto state peer record

/-- The engine is ideal at every step of a run. -/
def IdealRun (session : Peer → PoisonSession) (operations : List LinkOperation) : Prop :=
  ∀ index operation, operations[index]? = some operation →
    IdealStep crypto operation (Runs.reached (linkStep crypto) (.start session) operations index)

/-- The engine accepts nothing, or what it accepts is among its outputs. -/
theorem idealAt_iff (state : LinkState) (peer : Peer) (record : SessionRecord) :
    IdealAt crypto state peer record ↔
      ((state.session peer).buildAad record.sequence record.acknowledgement record.channel).all
        fun header =>
          (crypto.gcmDecrypt (state.session peer).receiveKey
            ((state.session peer).buildIv record.sequence) header record.ciphertext
            record.tag).all fun plaintext =>
              (state.seals .device ++ state.seals .client).any fun call =>
                call.key == (state.session peer).receiveKey &&
                  call.iv == (state.session peer).buildIv record.sequence &&
                  call.header == some header && call.ciphertext == record.ciphertext &&
                  call.tag == record.tag && call.message.plaintext == plaintext := by
  unfold IdealAt
  cases (state.session peer).buildAad record.sequence record.acknowledgement record.channel with
  | none => simp
  | some header =>
    simp only [Option.some.injEq, forall_eq', Option.all_some]
    cases crypto.gcmDecrypt (state.session peer).receiveKey
        ((state.session peer).buildIv record.sequence) header record.ciphertext record.tag with
    | none => simp
    | some plaintext =>
      simp only [Option.some.injEq, forall_eq', Option.all_some, List.any_eq_true,
        Bool.and_eq_true, beq_iff_eq, List.mem_append]
      constructor
      · rintro ⟨sender, call, member, key, iv, header, ciphertext, tag, plaintext⟩
        refine ⟨call, ?_, ⟨⟨⟨⟨key, iv⟩, header⟩, ciphertext⟩, tag⟩, plaintext⟩
        cases sender
        · exact .inl member
        · exact .inr member
      · rintro ⟨call, member, ⟨⟨⟨⟨key, iv⟩, header⟩, ciphertext⟩, tag⟩, plaintext⟩
        obtain member | member := member
        · exact ⟨.device, call, member, key, iv, header, ciphertext, tag, plaintext⟩
        · exact ⟨.client, call, member, key, iv, header, ciphertext, tag, plaintext⟩

instance (operation : LinkOperation) (state : LinkState) :
    Decidable (IdealStep crypto operation state) :=
  match operation with
  | .send _ _ => isTrue trivial
  | .deliver peer record => decidable_of_iff _ (idealAt_iff crypto state peer record).symm

instance (session : Peer → PoisonSession) (operations : List LinkOperation) :
    Decidable (IdealRun crypto session operations) :=
  decidable_of_iff (∀ index : Fin operations.length, IdealStep crypto operations[index]
      (Runs.reached (linkStep crypto) (.start session) operations index)) <| by
    constructor
    · intro all index operation taken
      obtain ⟨inside, rfl⟩ := List.getElem?_eq_some_iff.mp taken
      exact all ⟨index, inside⟩
    · intro ideal index
      exact ideal index operations[index] (List.getElem?_eq_getElem index.isLt)

end Runs

/-- The peers' keys are mirrored, and each expects the number the other will seal next. -/
structure Mirrored (session : Peer → PoisonSession) : Prop where
  keys : ∀ peer, (session peer).receiveKey = (session peer.other).transmitKey
  inStep : ∀ peer, (session peer).nextRxSequence = (session peer.other).nextTxSequence

/-- Each direction has a key of its own. -/
def Directional (session : Peer → PoisonSession) : Prop :=
  (session .device).transmitKey ≠ (session .client).transmitKey

/-- In an increasing list that starts with consecutive numbers, the next number can
only stand in the next place. -/
theorem next_in_place {numbers : List Nat} {base count : Nat}
    (increasing : numbers.Pairwise (· < ·)) (bounded : ∀ number ∈ numbers, base ≤ number)
    (consecutive : ∀ index < count, numbers[index]? = some (base + index))
    (present : base + count ∈ numbers) : numbers[count]? = some (base + count) := by
  obtain ⟨place, inside, stored⟩ := List.getElem_of_mem present
  have ordered := List.pairwise_iff_getElem.mp increasing
  have notBefore : count ≤ place := by
    by_contra before
    have earlier := consecutive place (by omega)
    rw [List.getElem?_eq_getElem inside, Option.some.injEq, stored] at earlier
    omega
  have countInside : count < numbers.length := by omega
  have atLeast : base + count ≤ numbers[count] := by
    cases count with
    | zero => exact bounded _ (List.getElem_mem countInside)
    | succ previous =>
      have last := consecutive previous (Nat.lt_succ_self previous)
      rw [List.getElem?_eq_getElem (by omega), Option.some.injEq] at last
      have above := ordered previous (previous + 1) (by omega) countInside (Nat.lt_succ_self _)
      omega
  have same : place = count := by
    by_contra different
    have above := ordered count place countInside inside (by omega)
    omega
  subst same
  rw [List.getElem?_eq_getElem inside, stored]

/-- One direction of a connection: the sender's seals carry increasing numbers below
its counter, and the receiver has accepted the first of them, without a gap. -/
structure Direction (base : Nat) (sender receiver : PoisonSession) (seals : List SealCall)
    (accepted : List SessionMessage) : Prop where
  increasing : (seals.map (·.sequence.toNat)).Pairwise (· < ·)
  bounded : ∀ number ∈ seals.map (·.sequence.toNat), base ≤ number
  counted : ∀ number ∈ seals.map (·.sequence.toNat), number < sender.nextTxSequence.toNat
  started : base ≤ sender.nextTxSequence.toNat
  delivered : accepted = (seals.map SealCall.message).take accepted.length
  expected : receiver.nextRxSequence.toNat = base + accepted.length
  consecutive : ∀ index < accepted.length,
    (seals.map (·.sequence.toNat))[index]? = some (base + index)

namespace Direction

variable {base : Nat} {sender receiver : PoisonSession} {seals : List SealCall}
  {accepted : List SessionMessage}

/-- Nothing is sent and nothing is accepted yet. -/
theorem start (inStep : receiver.nextRxSequence = sender.nextTxSequence) :
    Direction sender.nextTxSequence.toNat sender receiver [] [] where
  increasing := List.Pairwise.nil
  bounded := by simp
  counted := by simp
  started := Nat.le_refl _
  delivered := rfl
  expected := congrArg UInt64.toNat inStep
  consecutive := by simp

variable {next : PoisonSession}

/-- A counter that grows keeps the direction. -/
theorem advance (direction : Direction base sender receiver seals accepted)
    (grown : sender.nextTxSequence.toNat ≤ next.nextTxSequence.toNat) :
    Direction base next receiver seals accepted :=
  { direction with
    counted := fun number member => Nat.lt_of_lt_of_le (direction.counted number member) grown
    started := Nat.le_trans direction.started grown }

/-- Another receiver that expects the same number keeps the direction. -/
theorem receive (direction : Direction base sender receiver seals accepted)
    (same : next.nextRxSequence = receiver.nextRxSequence) :
    Direction base sender next seals accepted :=
  { direction with expected := by rw [same, direction.expected] }

/-- A seal under the sender's number extends what was sent. -/
theorem sealed (direction : Direction base sender receiver seals accepted) {call : SealCall}
    (numbered : call.sequence = sender.nextTxSequence)
    (advanced : next.nextTxSequence.toNat = sender.nextTxSequence.toNat + 1) :
    Direction base next receiver (seals ++ [call]) accepted where
  increasing := by
    rw [List.map_append, List.map_singleton, numbered]
    refine List.pairwise_append.mpr ⟨direction.increasing, List.pairwise_singleton _ _, ?_⟩
    intro number member last single
    rw [List.mem_singleton.mp single]
    exact direction.counted number member
  bounded number member := by
    rw [List.map_append, List.map_singleton, List.mem_append, List.mem_singleton,
      numbered] at member
    obtain member | rfl := member
    · exact direction.bounded number member
    · exact direction.started
  counted number member := by
    rw [List.map_append, List.map_singleton, List.mem_append, List.mem_singleton,
      numbered] at member
    obtain member | rfl := member
    · have below := direction.counted number member
      omega
    · omega
  started := by
    have started := direction.started
    omega
  delivered := by
    have enough : accepted.length ≤ (seals.map SealCall.message).length := by
      have shorter := congrArg List.length direction.delivered
      rw [List.length_take] at shorter
      omega
    rw [List.map_append, List.take_append_of_le_length enough]
    exact direction.delivered
  expected := direction.expected
  consecutive index inside := by
    have stored := direction.consecutive index inside
    have known : index < (seals.map (·.sequence.toNat)).length :=
      (List.getElem?_eq_some_iff.mp stored).1
    rw [List.map_append, List.getElem?_append_left known]
    exact stored

/-- A record that was sealed under the expected number is the next one to be
accepted. -/
theorem accept (direction : Direction base sender receiver seals accepted) {call : SealCall}
    (present : call ∈ seals) (numbered : call.sequence = receiver.nextRxSequence)
    (advanced : next.nextRxSequence.toNat = receiver.nextRxSequence.toNat + 1) :
    Direction base sender next seals (accepted ++ [call.message]) := by
  have number : call.sequence.toNat = base + accepted.length := by
    rw [numbered, direction.expected]
  have placed : (seals.map (·.sequence.toNat))[accepted.length]? = some (base + accepted.length) :=
    next_in_place direction.increasing direction.bounded direction.consecutive
      (number ▸ List.mem_map_of_mem present)
  -- Numbers are distinct, so the seal in the next place is this one.
  have stored : seals[accepted.length]? = some call := by
    obtain ⟨place, inside, here⟩ := List.getElem_of_mem present
    have samePlace : place = accepted.length := by
      have distinct : (seals.map (·.sequence.toNat)).Nodup :=
        direction.increasing.imp fun below => Nat.ne_of_lt below
      have alike : (seals.map (·.sequence.toNat))[place]? =
          (seals.map (·.sequence.toNat))[accepted.length]? := by
        rw [placed, List.getElem?_map, List.getElem?_eq_getElem inside, here, Option.map_some,
          number]
      exact (List.getElem?_inj (by simpa using inside) distinct).mp alike
    rw [← samePlace, List.getElem?_eq_getElem inside, here]
  constructor
  · exact direction.increasing
  · exact direction.bounded
  · exact direction.counted
  · exact direction.started
  · rw [List.length_append, List.length_singleton, List.take_add_one, List.getElem?_map, stored,
      Option.map_some, Option.toList_some, ← direction.delivered]
  · rw [advanced, direction.expected, List.length_append, List.length_singleton, Nat.add_assoc]
  · intro index inside
    rw [List.length_append, List.length_singleton] at inside
    by_cases last : index = accepted.length
    · rw [last]
      exact placed
    · exact direction.consecutive index (by omega)

end Direction

/-- What stays of the sessions and how the two directions stand. -/
structure Linked (start : Peer → PoisonSession) (state : LinkState) : Prop where
  receiveKeys : ∀ peer, (state.session peer).receiveKey = (start peer).receiveKey
  transmitKeys : ∀ peer, (state.session peer).transmitKey = (start peer).transmitKey
  sealKeys : ∀ peer, ∀ call ∈ state.seals peer, call.key = (start peer).transmitKey
  headers : ∀ peer, ∀ call ∈ state.seals peer, ∃ session : PoisonSession,
    call.header =
      session.buildAad call.sequence call.message.acknowledgement call.message.channel
  direction : ∀ peer, Direction (start peer).nextTxSequence.toNat (state.session peer)
    (state.session peer.other) (state.seals peer) (state.accepted peer.other)

theorem linked_start {session : Peer → PoisonSession} (mirrored : Mirrored session) :
    Linked session (.start session) where
  receiveKeys _ := rfl
  transmitKeys _ := rfl
  sealKeys := by simp [LinkState.start]
  headers := by simp [LinkState.start]
  direction peer := .start (by
    have inStep := mirrored.inStep peer.other
    rwa [Peer.other_other] at inStep)

namespace Linked

variable {start : Peer → PoisonSession} {state : LinkState}

/-- A part of the sessions that the replacement of one keeps is kept for all. -/
theorem kept_part {Part : Type} (part : PoisonSession → Part) {peer : Peer} {next : PoisonSession}
    (before : ∀ other, part (state.session other) = part (start other))
    (same : part next = part (state.session peer)) (other : Peer) :
    part (Function.update state.session peer next other) = part (start other) := by
  by_cases here : other = peer
  · subst here
    rw [Function.update_self, same, before]
  · rw [Function.update_of_ne here, before]

/-- What holds of all seals and of one more holds of all seals with it. -/
theorem kept_calls (holds : Peer → SealCall → Prop) {peer : Peer} {last : SealCall}
    (before : ∀ other, ∀ call ∈ state.seals other, holds other call) (here : holds peer last)
    (other : Peer) :
    ∀ call ∈ Function.update state.seals peer (state.seals peer ++ [last]) other,
      holds other call := by
  intro call member
  by_cases same : other = peer
  · subst same
    rw [Function.update_self, List.mem_append, List.mem_singleton] at member
    obtain member | rfl := member
    · exact before other call member
    · exact here
  · rw [Function.update_of_ne same] at member
    exact before other call member

/-- A session that is replaced by one with the same keys, the same expected number and
a counter no lower keeps the connection. -/
theorem replace (linked : Linked start state) (peer : Peer) (next : PoisonSession)
    (receiveKey : next.receiveKey = (state.session peer).receiveKey)
    (transmitKey : next.transmitKey = (state.session peer).transmitKey)
    (expects : next.nextRxSequence = (state.session peer).nextRxSequence)
    (grown : (state.session peer).nextTxSequence.toNat ≤ next.nextTxSequence.toNat) :
    Linked start { state with session := Function.update state.session peer next } where
  receiveKeys := kept_part PoisonSession.receiveKey linked.receiveKeys receiveKey
  transmitKeys := kept_part PoisonSession.transmitKey linked.transmitKeys transmitKey
  sealKeys := linked.sealKeys
  headers := linked.headers
  direction other := by
    have direction := linked.direction other
    dsimp only
    obtain rfl | rfl := other.eq_or_other peer
    · rw [Function.update_self, Function.update_of_ne other.other_ne]
      exact direction.advance grown
    · rw [Peer.other_other] at direction ⊢
      rw [Function.update_of_ne peer.other_ne, Function.update_self]
      exact direction.receive expects

end Linked

section Steps

variable (crypto : SessionCrypto) {start : Peer → PoisonSession} {state : LinkState}

/-- A send extends one direction by a seal, or fails. -/
theorem linked_send (linked : Linked start state) (peer : Peer) (message : SessionMessage) :
    Linked start (linkStep crypto (.send peer message) state) := by
  simp only [linkStep, PoisonSession.sealMessage]
  obtain ⟨payload, sent, success, done⟩ | ⟨error, failed⟩ | ⟨error, failed, bounded⟩ :=
    PoisonSession.encryptTx_cases crypto (state.session peer) message.acknowledgement
      message.channel message.plaintext
  · rw [success]
    dsimp only
    have advanced : sent.nextTxSequence.toNat = (state.session peer).nextTxSequence.toNat + 1 := by
      rw [done.advanced]
      exact PoisonSession.toNat_succ done.bounded
    have replaced := linked.replace peer sent (by rw [done.advanced]) (by rw [done.advanced])
      (by rw [done.advanced]) (by omega)
    constructor
    · exact replaced.receiveKeys
    · exact replaced.transmitKeys
    · refine Linked.kept_calls (fun peer call => call.key = (start peer).transmitKey)
        linked.sealKeys ?_
      change sent.transmitKey = _
      rw [done.advanced]
      exact linked.transmitKeys peer
    · exact Linked.kept_calls (fun _ call => ∃ session : PoisonSession, call.header =
        session.buildAad call.sequence call.message.acknowledgement call.message.channel)
        linked.headers ⟨sent, rfl⟩
    · intro other
      obtain rfl | rfl := other.eq_or_other peer
      · have direction := linked.direction other
        dsimp only
        rw [Function.update_self, Function.update_of_ne other.other_ne, Function.update_self]
        exact direction.sealed done.numbered advanced
      · have direction := replaced.direction peer.other
        dsimp only at direction ⊢
        rw [Function.update_of_ne (f := state.seals) peer.other_ne]
        exact direction
  · rw [failed]
    exact linked.replace peer _ rfl rfl rfl (Nat.le_refl _)
  · rw [failed]
    refine linked.replace peer _ rfl rfl rfl ?_
    rw [PoisonSession.toNat_succ bounded]
    exact Nat.le_succ _

/-- What the receiver opens was sealed by the other end under the expected number. -/
theorem opened_sealed (mirrored : Mirrored start) (directional : Directional start)
    (linked : Linked start state)
    {peer : Peer} {record : SessionRecord} {plaintext : List UInt8} {received : PoisonSession}
    (ideal : IdealAt crypto state peer record)
    (done : (state.session peer).Opened crypto record.sequence record.acknowledgement
      record.channel record.ciphertext record.tag plaintext received) :
    ∃ call ∈ state.seals peer.other, call.sequence = (state.session peer).nextRxSequence ∧
      call.message = ⟨record.acknowledgement, record.channel, plaintext⟩ := by
  obtain ⟨header, built, decrypted⟩ := done.decrypted
  obtain ⟨sender, call, member, sameKey, -, sameHeader, -, -, samePlaintext⟩ :=
    ideal header built plaintext decrypted
  have fromOther : sender = peer.other := by
    have shared : (start sender).transmitKey = (start peer.other).transmitKey := by
      rw [← linked.sealKeys sender call member, sameKey, linked.receiveKeys, mirrored.keys]
    cases sender <;> cases peer <;> simp_all [Peer.other, Directional]
  subst fromOther
  obtain ⟨session, rebuilt⟩ := linked.headers peer.other call member
  rw [sameHeader] at rebuilt
  obtain ⟨-, sameSequence, sameAcknowledgement, sameChannel⟩ :=
    PoisonSession.buildAad_injective built rebuilt.symm
  refine ⟨call, member, by rw [← sameSequence, done.numbered], ?_⟩
  rw [sameAcknowledgement, sameChannel, ← samePlaintext]

/-- A delivery extends what was accepted by the next message, or changes nothing. -/
theorem linked_deliver (mirrored : Mirrored start) (directional : Directional start)
    (linked : Linked start state) (peer : Peer) (record : SessionRecord)
    (ideal : IdealAt crypto state peer record) :
    Linked start (linkStep crypto (.deliver peer record) state) := by
  simp only [linkStep, PoisonSession.unsealRecord]
  obtain ⟨plaintext, received, success, done⟩ | ⟨error, failed⟩ :=
    PoisonSession.decryptRx_cases crypto (state.session peer) record.sequence
      record.acknowledgement record.channel record.ciphertext record.tag
  · rw [success]
    dsimp only
    obtain ⟨call, member, numbered, message⟩ := opened_sealed crypto mirrored directional linked ideal done
    have advanced :
        received.nextRxSequence.toNat = (state.session peer).nextRxSequence.toNat + 1 := by
      rw [done.advanced]
      exact PoisonSession.toNat_succ done.bounded
    constructor
    · exact Linked.kept_part PoisonSession.receiveKey linked.receiveKeys (by rw [done.advanced])
    · exact Linked.kept_part PoisonSession.transmitKey linked.transmitKeys (by rw [done.advanced])
    · exact linked.sealKeys
    · exact linked.headers
    · intro other
      have direction := linked.direction other
      dsimp only
      obtain rfl | rfl := other.eq_or_other peer
      · rw [Function.update_self, Function.update_of_ne other.other_ne,
          Function.update_of_ne other.other_ne]
        refine direction.advance ?_
        rw [done.advanced]
      · rw [Peer.other_other] at direction ⊢
        rw [Function.update_of_ne peer.other_ne, Function.update_self, Function.update_self,
          ← message]
        exact direction.accept member numbered advanced
  · rw [failed]
    exact linked.replace peer _ rfl rfl rfl (Nat.le_refl _)

/-- The connection stays linked along a run in which the engine is ideal. -/
theorem linked_reached (mirrored : Mirrored start) (directional : Directional start)
    (operations : List LinkOperation)
    (ideal : IdealRun crypto start operations) (index : Nat) :
    Linked start (Runs.reached (linkStep crypto) (.start start) operations index) := by
  refine Runs.always (motive := Linked start) (linked_start mirrored) ?_ index
  intro index operation taken linked
  cases operation with
  | send peer message => exact linked_send crypto linked peer message
  | deliver peer record =>
    exact linked_deliver crypto mirrored directional linked peer record (ideal index _ taken)

end Steps

/-- A session that rejects a record is as it was. -/
theorem unsealRecord_rejected (crypto : SessionCrypto) {session next : PoisonSession}
    {record : SessionRecord} {error : SessionError}
    (rejected : session.unsealRecord crypto record = (.error error, next)) : next = session := by
  obtain ⟨plaintext, received, success, -⟩ | ⟨other, failed⟩ :=
    PoisonSession.decryptRx_cases crypto session record.sequence record.acknowledgement
      record.channel record.ciphertext record.tag
  · rw [PoisonSession.unsealRecord, success] at rejected
    cases rejected
  · rw [PoisonSession.unsealRecord, failed] at rejected
    exact (Prod.mk.inj rejected).2.symm

/-- At every point of a run under a key for each direction, what each peer has accepted is a
prefix of what the other has sealed successfully, with acknowledgements and channels; and
under any keys, whatever is handed to a peer then and rejected leaves its session as it
was. -/
theorem delivered_in_order_once (crypto : SessionCrypto) (start : Peer → PoisonSession)
    (mirrored : Mirrored start) (operations : List LinkOperation)
    (ideal : IdealRun crypto start operations) (index : Nat) (peer : Peer) :
    (Directional start →
      (Runs.reached (linkStep crypto) (.start start) operations index).accepted peer <+:
        (Runs.reached (linkStep crypto) (.start start) operations index).sent peer.other) ∧
      ∀ record error next,
        ((Runs.reached (linkStep crypto) (.start start) operations index).session
          peer).unsealRecord crypto record = (.error error, next) →
        next = (Runs.reached (linkStep crypto) (.start start) operations index).session peer := by
  refine ⟨fun directional => ?_, fun record error next rejected =>
    unsealRecord_rejected crypto rejected⟩
  have linked := linked_reached crypto mirrored directional operations ideal index
  generalize Runs.reached (linkStep crypto) (.start start) operations index = state at linked
  have delivered := (linked.direction peer.other).delivered
  rw [Peer.other_other] at delivered
  rw [delivered]
  exact List.take_prefix _ _

/-- The two ends after a pairing. -/
def sampleEnds : Peer → PoisonSession
  | .device => { sampleSession with receiveKey := .zero _, transmitKey := sampleKey }
  | .client => { sampleSession with receiveKey := sampleKey, transmitKey := .zero _ }
where
  sampleKey : SessionKey := sampleDigest _ [1]
  sampleSession : PoisonSession :=
    { PoisonSession.init with
      state := .active, protocolVersion := 2, sessionId := 7, directionalKeysSet := true }

/-- The device's record of a message with the number it takes. -/
def sampleRecord (sequence : UInt64) (message : SessionMessage) : SessionRecord :=
  match (({ sampleEnds .device with nextTxSequence := sequence } : PoisonSession).sealMessage
    .sample message).1 with
  | .ok payload =>
    ⟨payload.sequence, message.acknowledgement, message.channel, payload.ciphertext, payload.tag⟩
  | .error _ => ⟨sequence, 0, default, [], .zero _⟩

/-- The device sends two messages. The client is handed the second, the first, the
first again, the second with another channel, and the second. -/
def sampleLinkRun : List LinkOperation :=
  let first : SessionMessage := ⟨0, CString.literal "rpc", [1]⟩
  let second : SessionMessage := ⟨0, CString.literal "rpc", [2]⟩
  [.send .device first, .send .device second, .deliver .client (sampleRecord 1 second),
    .deliver .client (sampleRecord 0 first), .deliver .client (sampleRecord 0 first),
    .deliver .client { sampleRecord 1 second with channel := CString.literal "app" },
    .deliver .client (sampleRecord 1 second)]

theorem sample_delivered_in_order_once :
    ((Runs.reached (linkStep .sample) (.start sampleEnds) sampleLinkRun 7).accepted
        .client).length = 2 ∧
      (Runs.reached (linkStep .sample) (.start sampleEnds) sampleLinkRun 7).accepted .client <+:
        (Runs.reached (linkStep .sample) (.start sampleEnds) sampleLinkRun 7).sent .device :=
  ⟨by decide +kernel,
    (delivered_in_order_once .sample sampleEnds
      ⟨by intro peer; cases peer <;> decide, by intro peer; cases peer <;> decide⟩
      sampleLinkRun (by decide +kernel) 7 .client).1 (by unfold Directional; decide)⟩

/-! ## One key for both directions -/

/-- A session that is set up with one key for both directions. -/
def keyedSession : Except SessionError PoisonSession := do
  let negotiating ← PoisonSession.init.beginNegotiation 2
  let confirming ← negotiating.beginConfirmation 7
  let confirmed ← confirming.confirm true
  let keyed ← confirmed.setAuthenticationKey (sampleDigest _ [1])
  keyed.activate

def keyedEnd : PoisonSession := keyedSession.toOption.getD .init

/-- The device seals a message and is handed the record back. -/
def reflectedRun : List LinkOperation :=
  let message : SessionMessage := ⟨0, CString.literal "rpc", [1]⟩
  match (keyedEnd.sealMessage .sample message).1 with
  | .ok payload =>
    [.send .device message,
      .deliver .device ⟨payload.sequence, 0, message.channel, payload.ciphertext, payload.tag⟩]
  | .error _ => []

/-- Under one key the device accepts the record that it has sealed itself. -/
theorem reflected_record_accepted :
    keyedSession = .ok keyedEnd ∧ ¬ ∀ (crypto : SessionCrypto) (start : Peer → PoisonSession),
      Mirrored start → ∀ operations, IdealRun crypto start operations → ∀ index peer,
      (Runs.reached (linkStep crypto) (.start start) operations index).accepted peer <+:
        (Runs.reached (linkStep crypto) (.start start) operations index).sent peer.other := by
  refine ⟨rfl, fun always => ?_⟩
  have accepted := always .sample (fun _ => keyedEnd) ⟨fun _ => rfl, fun _ => rfl⟩ reflectedRun
    (by decide +kernel) 2 .device
  have nothing : (Runs.reached (linkStep .sample) (.start fun _ => keyedEnd) reflectedRun 2).sent
      Peer.device.other = [] := by
    decide +kernel
  rw [nothing, List.prefix_nil] at accepted
  revert accepted
  decide +kernel

end PoisonedOS
