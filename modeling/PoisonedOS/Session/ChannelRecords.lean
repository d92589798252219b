import PoisonedOS.Library.Sha256
import PoisonedOS.Session.Channels

/-!
# Authenticated records on a channel

A record that is not encrypted carries a tag: the first half of an HMAC under the
session's key, over the session's number, the record's two sequence numbers, its
channel and its payload. A receiver checks the tag and the record's place in the
session, and then offers the record to the channel it names, which counts its
records on its own.

The two counters are advanced one after the other, and the first step is not taken
back. A record that the channel refuses leaves the channel as it was, and it is
nevertheless used up in the session: it cannot be offered again. The HMAC engine
is a parameter, and a call of it may fail.
-/

namespace PoisonedOS

/-- What a tag is made over, with the protocol version of the envelope. -/
structure ChannelRecord where
  protocolVersion : UInt32
  sequence : UInt64
  acknowledgement : UInt64
  channel : CString
  payload : List UInt8
deriving DecidableEq

/-- An HMAC-SHA256 engine. -/
abbrev HmacEngine := SessionKey → List UInt8 → Option Digest

/-- An engine that does not fail. -/
def HmacEngine.sha256 : HmacEngine :=
  fun key message => some ⟨Sha256.hmac key.bytes message, Sha256.length_hmac _ _⟩

/-- `poison_session_valid_frame`. -/
def ChannelRecord.validFrame (record : ChannelRecord) : Bool :=
  record.protocolVersion == 2 && !record.channel.isEmpty &&
    decide (record.channel.length ≤ sessionChannelMax) &&
    decide (record.payload.length ≤ sessionPayloadMax)

/-- The first bytes of a hash, as many as a tag has. -/
def Digest.leading (full : Digest) : AuthenticationTag :=
  ⟨full.bytes.take 16, by rw [List.length_take, full.sized]; rfl⟩

namespace PoisonSession

variable (hmac : HmacEngine)

/-- The bytes that the tag of a record covers. -/
def taggedBytes (session : PoisonSession) (record : ChannelRecord) : List UInt8 :=
  encodeU32 record.protocolVersion ++ (encodeU64 session.sessionId ++
    (encodeU64 record.sequence ++ (encodeU64 record.acknowledgement ++
      (record.channel.terminated ++ record.payload))))

/-- `poison_session_compute_tag`, under the session's transmit key. -/
def computeTag (session : PoisonSession) (record : ChannelRecord) : Option AuthenticationTag :=
  (hmac session.transmitKey (session.taggedBytes record)).map Digest.leading

/-- `poison_session_sign_frame`. -/
def signFrame (session : PoisonSession) (record : ChannelRecord) :
    Except SessionError AuthenticationTag :=
  if session.state != .active || !session.directionalKeysSet || !record.validFrame then
    .error .invalid
  else
    match session.computeTag hmac record with
    | none => .error .invalid
    | some tag => .ok tag

/-- `poison_session_authenticate_rx`. The tag is computed by a copy of the session
that transmits under the receive key. -/
def authenticateRx (session : PoisonSession) (record : ChannelRecord)
    (authenticationTag : AuthenticationTag) : Except SessionError PoisonSession :=
  if session.state != .active || !session.directionalKeysSet || !record.validFrame then
    .error .invalid
  else
    let receiver := { session with transmitKey := session.receiveKey }
    match receiver.computeTag hmac record with
    | none => .error .invalid
    | some expectedTag =>
      if expectedTag != authenticationTag then .error .invalid
      else session.acceptRx record.sequence

/-- A session that has received one more record. -/
def received (session : PoisonSession) : PoisonSession :=
  { session with nextRxSequence := session.nextRxSequence + 1 }

/-- A record is the next one of a session: well formed, tagged by the holder of the
receive key, and in its place. -/
structure NextRecord (session : PoisonSession) (record : ChannelRecord)
    (authenticationTag : AuthenticationTag) : Prop where
  live : session.state = .active
  keyed : session.directionalKeysSet = true
  formed : record.validFrame = true
  authentic : (hmac session.receiveKey (session.taggedBytes record)).map Digest.leading =
    some authenticationTag
  inPlace : record.sequence = session.nextRxSequence
  bounded : session.nextRxSequence ≠ lastSequence

/-- A live session accepts the number it expects, unless it is the last one. -/
theorem acceptRx_ok_iff {session : PoisonSession} (live : session.state = .active)
    (sequence : UInt64) (accepted : PoisonSession) :
    session.acceptRx sequence = .ok accepted ↔
      (sequence = session.nextRxSequence ∧ session.nextRxSequence ≠ lastSequence) ∧
        accepted = session.received := by
  have alive : (session.state != .active) = false := by simp [live]
  unfold acceptRx
  rw [alive]
  by_cases before : sequence < session.nextRxSequence
  · have different : sequence ≠ session.nextRxSequence := UInt64.ne_of_lt before
    simp [before, different]
  · by_cases after : sequence > session.nextRxSequence
    · have different : sequence ≠ session.nextRxSequence := fun same => UInt64.ne_of_lt after same.symm
      simp [before, after, different]
    · have same : sequence = session.nextRxSequence :=
        UInt64.le_antisymm (UInt64.not_lt.mp after) (UInt64.not_lt.mp before)
      rw [if_neg Bool.false_ne_true, if_neg before, if_neg after]
      by_cases last : session.nextRxSequence = lastSequence
      · rw [if_pos (beq_iff_eq.mpr last)]
        constructor
        · rintro ⟨⟩
        · rintro ⟨⟨-, notLast⟩, -⟩
          exact absurd last notLast
      · rw [if_neg (fun isLast => last (beq_iff_eq.mp isLast))]
        constructor
        · rintro ⟨⟩
          exact ⟨⟨same, last⟩, rfl⟩
        · rintro ⟨-, rfl⟩
          rfl

/-- A record is authenticated exactly when it is the session's next one, and then
nothing but the receive counter advances.

Proof: the checks are read off one after the other; the copy that computes the tag
has the session's number and its receive key. -/
theorem authenticateRx_ok_iff (session : PoisonSession) (record : ChannelRecord)
    (authenticationTag : AuthenticationTag) (accepted : PoisonSession) :
    session.authenticateRx hmac record authenticationTag = .ok accepted ↔
      session.NextRecord hmac record authenticationTag ∧ accepted = session.received := by
  unfold authenticateRx
  by_cases live : session.state = .active
  · by_cases keyed : session.directionalKeysSet = true
    · by_cases formed : record.validFrame = true
      · have guarded : (session.state != .active || !session.directionalKeysSet ||
            !record.validFrame) = false := by simp [live, keyed, formed]
        rw [guarded]
        dsimp only
        have tagged : ({ session with transmitKey := session.receiveKey }).computeTag hmac record =
            (hmac session.receiveKey (session.taggedBytes record)).map Digest.leading := rfl
        rw [tagged]
        cases computed : (hmac session.receiveKey (session.taggedBytes record)).map
            Digest.leading with
        | none =>
          constructor
          · rintro ⟨⟩
          · rintro ⟨next, -⟩
            rw [next.authentic] at computed
            cases computed
        | some expectedTag =>
          by_cases equal : expectedTag = authenticationTag
          · subst equal
            have accepts := acceptRx_ok_iff live record.sequence accepted
            constructor
            · intro ok
              obtain ⟨⟨inPlace, bounded⟩, same⟩ := accepts.mp (by simpa using ok)
              exact ⟨⟨live, keyed, formed, computed, inPlace, bounded⟩, same⟩
            · rintro ⟨next, same⟩
              simpa using accepts.mpr ⟨⟨next.inPlace, next.bounded⟩, same⟩
          · constructor
            · intro ok
              simp [equal] at ok
            · rintro ⟨next, -⟩
              rw [next.authentic] at computed
              exact absurd (Option.some.inj computed).symm equal
      · constructor
        · intro ok
          simp [formed] at ok
        · rintro ⟨next, -⟩
          exact absurd next.formed formed
    · constructor
      · intro ok
        simp [keyed] at ok
      · rintro ⟨next, -⟩
        exact absurd next.keyed keyed
  · constructor
    · intro ok
      simp [live] at ok
    · rintro ⟨next, -⟩
      exact absurd next.live live

/-- What a peer signs for the next place is the session's next record, where the
peer transmits under the session's receive key. -/
theorem next_of_signed {session sender : PoisonSession} {record : ChannelRecord}
    {authenticationTag : AuthenticationTag} (live : session.state = .active)
    (keyed : session.directionalKeysSet = true) (sameId : sender.sessionId = session.sessionId)
    (shared : sender.transmitKey = session.receiveKey)
    (signed : sender.signFrame hmac record = .ok authenticationTag)
    (inPlace : record.sequence = session.nextRxSequence)
    (bounded : session.nextRxSequence ≠ lastSequence) :
    session.NextRecord hmac record authenticationTag := by
  unfold signFrame at signed
  split at signed
  · cases signed
  · rename_i guarded
    simp only [Bool.or_eq_true, not_or, Bool.not_eq_true, Bool.not_eq_false'] at guarded
    have same : sender.computeTag hmac record =
        (hmac session.receiveKey (session.taggedBytes record)).map Digest.leading := by
      simp only [computeTag, taggedBytes, sameId, shared]
    rw [same] at signed
    cases computed : (hmac session.receiveKey (session.taggedBytes record)).map
        Digest.leading with
    | none =>
      rw [computed] at signed
      cases signed
    | some tag =>
      rw [computed] at signed
      cases signed
      exact ⟨live, keyed, guarded.2, computed, inPlace, bounded⟩

end PoisonSession

namespace ChannelTable

/-- `poison_channel_get`. -/
def get (table : ChannelTable) (index : Nat) : Option PoisonChannel :=
  match slot index with
  | none => none
  | some index => if (table index).active then some (table index) else none

def Expects (table : ChannelTable) (index : Nat) (sequence : UInt64) : Prop :=
  ∃ channel, table.get index = some channel ∧ sequence = channel.nextRxSequence ∧
    channel.nextRxSequence ≠ lastSequence

/-- A receive takes exactly the number that the channel expects.

Proof: in an open slot the checks compare the number with the channel's counter. -/
theorem receive_ok_iff (table : ChannelTable) (index : Nat) {frameBytes : UInt32}
    (fits : frameBytes ≤ channelMaxFrameBytes) (sequence : UInt64) :
    (table.receive index frameBytes sequence).1 = .ok ↔ table.Expects index sequence := by
  have within : ¬channelMaxFrameBytes < frameBytes := UInt32.not_lt.mpr fits
  unfold receive Expects get
  cases slot index with
  | none => simp
  | some place =>
    by_cases live : (table place).active = true
    · by_cases before : sequence < (table place).nextRxSequence
      · have different : sequence ≠ (table place).nextRxSequence := UInt64.ne_of_lt before
        simp [live, within, before, different]
      · by_cases after : (table place).nextRxSequence < sequence
        · have different : sequence ≠ (table place).nextRxSequence :=
            fun same => UInt64.ne_of_lt after same.symm
          simp [live, within, before, after, different]
        · have same : sequence = (table place).nextRxSequence :=
            UInt64.le_antisymm (UInt64.not_lt.mp after) (UInt64.not_lt.mp before)
          by_cases last : (table place).nextRxSequence = lastSequence
          · simp [live, within, same, last]
          · simp [live, within, same, last]
    · simp [live]

/-- A receive takes a number or leaves every channel as it was. -/
theorem receive_cases (table : ChannelTable) (index : Nat) (frameBytes : UInt32)
    (sequence : UInt64) :
    (table.receive index frameBytes sequence).1 = .ok ∨
      (table.receive index frameBytes sequence).2 = table := by
  unfold receive
  cases slot index with
  | none => exact .inr rfl
  | some place =>
    dsimp only
    split
    · exact .inr rfl
    · split
      · exact .inr rfl
      · split
        · exact .inr rfl
        · split
          · exact .inr rfl
          · split
            · exact .inr rfl
            · exact .inl rfl

end ChannelTable

/-- What a call of `rpc_poison_channel_receive_authenticated` leaves. -/
structure ChannelReceipt where
  accepted : Bool
  session : PoisonSession
  table : ChannelTable

namespace ChannelReceipt

variable (hmac : HmacEngine) (session : PoisonSession) (record : ChannelRecord)
  (authenticationTag : AuthenticationTag) (table : ChannelTable) (channelIndex : Nat)
  (channelSequence : UInt64)

/-- `rpc_poison_channel_receive_authenticated`. -/
def receiveAuthenticated : ChannelReceipt :=
  match table.get channelIndex with
  | none => ⟨false, session, table⟩
  | some target =>
    if target.name != record.channel then ⟨false, session, table⟩
    else
      match session.authenticateRx hmac record authenticationTag with
      | .error _ => ⟨false, session, table⟩
      | .ok authenticated =>
        let (result, received) :=
          table.receive channelIndex (UInt32.ofNat record.payload.length) channelSequence
        ⟨result == .ok, authenticated, received⟩

/-- A record is used up by a session: the channel it names is open at its place, and
it is the session's next record. -/
structure UsedUp : Prop where
  named : ∃ target, table.get channelIndex = some target ∧ target.name = record.channel
  next : session.NextRecord hmac record authenticationTag

variable {hmac session record authenticationTag table channelIndex} in
theorem of_usedUp (used : UsedUp hmac session record authenticationTag table channelIndex) :
    receiveAuthenticated hmac session record authenticationTag table channelIndex
        channelSequence =
      ⟨(table.receive channelIndex (UInt32.ofNat record.payload.length) channelSequence).1 == .ok,
        session.received,
        (table.receive channelIndex (UInt32.ofNat record.payload.length) channelSequence).2⟩ := by
  obtain ⟨⟨target, opened, name⟩, next⟩ := used
  have authenticated :=
    (session.authenticateRx_ok_iff hmac record authenticationTag _).mpr ⟨next, rfl⟩
  simp [receiveAuthenticated, opened, name, authenticated]

variable {hmac session record authenticationTag table channelIndex} in
/-- Any other record changes nothing. -/
theorem of_not_usedUp
    (kept : ¬UsedUp hmac session record authenticationTag table channelIndex) :
    receiveAuthenticated hmac session record authenticationTag table channelIndex
        channelSequence = ⟨false, session, table⟩ := by
  unfold receiveAuthenticated
  cases opened : table.get channelIndex with
  | none => rfl
  | some target =>
    by_cases name : target.name = record.channel
    · cases authenticated : session.authenticateRx hmac record authenticationTag with
      | error error => simp [name]
      | ok accepted =>
        have next :=
          ((session.authenticateRx_ok_iff hmac record authenticationTag _).mp authenticated).1
        exact absurd ⟨⟨target, opened, name⟩, next⟩ kept
    · simp [name]

variable {record} in
/-- The payload of a well-formed record is no longer than a frame may be. -/
theorem payload_fits (formed : record.validFrame = true) :
    UInt32.ofNat record.payload.length ≤ channelMaxFrameBytes := by
  simp only [ChannelRecord.validFrame, Bool.and_eq_true, decide_eq_true_eq] at formed
  have short : record.payload.length ≤ 1024 := formed.2
  rw [UInt32.le_iff_toNat_le, UInt32.toNat_ofNat']
  have small : record.payload.length % 2 ^ 32 = record.payload.length :=
    Nat.mod_eq_of_lt (by omega)
  rw [small]
  exact short

/-- A record is accepted exactly when the session uses it up and the channel expects
its number. -/
theorem accepted_iff :
    (receiveAuthenticated hmac session record authenticationTag table channelIndex
        channelSequence).accepted = true ↔
      UsedUp hmac session record authenticationTag table channelIndex ∧
        table.Expects channelIndex channelSequence := by
  by_cases used : UsedUp hmac session record authenticationTag table channelIndex
  · rw [of_usedUp channelSequence used]
    have takes := table.receive_ok_iff channelIndex (payload_fits used.next.formed) channelSequence
    simpa [used] using takes
  · rw [of_not_usedUp channelSequence used]
    simp [used]

/-- A call that refuses a record leaves every channel as it was. The session is left
as it was too, unless the record was its next one for the channel at that index and
the channel alone refused it: then the receive counter, and nothing else of the
session, is one further.

Proof: a record that is not used up changes nothing. One that is used up was offered
to the channel, whose refusal keeps the table. -/
theorem receive_authenticated_refusals :
    (receiveAuthenticated hmac session record authenticationTag table channelIndex
        channelSequence).accepted = false →
      (receiveAuthenticated hmac session record authenticationTag table channelIndex
          channelSequence).table = table ∧
        (¬UsedUp hmac session record authenticationTag table channelIndex →
          (receiveAuthenticated hmac session record authenticationTag table channelIndex
            channelSequence).session = session) ∧
        (UsedUp hmac session record authenticationTag table channelIndex →
          ¬table.Expects channelIndex channelSequence ∧
            (receiveAuthenticated hmac session record authenticationTag table channelIndex
              channelSequence).session = session.received) := by
  intro refused
  by_cases used : UsedUp hmac session record authenticationTag table channelIndex
  · have unexpected : ¬table.Expects channelIndex channelSequence := by
      intro expected
      have accepted := (accepted_iff hmac session record authenticationTag table channelIndex
        channelSequence).mpr ⟨used, expected⟩
      rw [refused] at accepted
      cases accepted
    have refuses : (table.receive channelIndex (UInt32.ofNat record.payload.length)
        channelSequence).1 ≠ .ok := fun ok =>
      unexpected ((table.receive_ok_iff channelIndex (payload_fits used.next.formed) _).mp ok)
    rw [of_usedUp channelSequence used]
    refine ⟨(table.receive_cases _ _ _).resolve_left refuses, ?_, ?_⟩
    · intro kept
      exact absurd used kept
    · intro _
      exact ⟨unexpected, rfl⟩
  · rw [of_not_usedUp channelSequence used]
    refine ⟨rfl, ?_, ?_⟩
    · intro _
      rfl
    · intro taken
      exact absurd taken used

variable {hmac session record authenticationTag table channelIndex} in

/-- A live session, numbered 9, with one key for both directions. -/
def sampleSession : PoisonSession where
  state := .active
  protocolVersion := 2
  sessionId := 9
  nextTxSequence := 0
  nextRxSequence := 0
  physicalConfirmation := true
  receiveKey := ⟨List.replicate 32 0x5A, by simp [sessionKeyBytes]⟩
  transmitKey := ⟨List.replicate 32 0x5A, by simp [sessionKeyBytes]⟩
  directionalKeysSet := true
  role := .owner
  grantedCapabilities := 0
  clientIdentityDigest := .zero _

/-- The session's first record, for the channel `device`. -/
def sampleRecord : ChannelRecord where
  protocolVersion := 2
  sequence := 0
  acknowledgement := 0
  channel := .literal "device"
  payload := [0x42]

/-- The tag that the peer of the session makes. -/
def sampleTag : AuthenticationTag :=
  Digest.leading ⟨Sha256.hmac sampleSession.transmitKey.bytes
    (sampleSession.taggedBytes sampleRecord), Sha256.length_hmac _ _⟩

/-- A table with the channel `device` open in its first slot. -/
def sampleTable : ChannelTable := (ChannelTable.init.openChannel (.literal "device") 1).2.2

/-- The open channel has seen no record. -/
theorem sample_opened :
    sampleTable.get 0 = some ⟨true, sampleRecord.channel, 0, 0, 1⟩ := by
  decide

/-- The tag is what the peer signs the record with. -/
theorem sample_signed :
    sampleSession.signFrame HmacEngine.sha256 sampleRecord = .ok sampleTag := by
  have guarded : (sampleSession.state != .active || !sampleSession.directionalKeysSet ||
      !sampleRecord.validFrame) = false := by decide
  unfold PoisonSession.signFrame
  rw [guarded]
  rfl

/-- The sample record is the session's next one, for an open channel. -/
theorem sample_usedUp :
    UsedUp HmacEngine.sha256 sampleSession sampleRecord sampleTag sampleTable 0 where
  named := ⟨_, sample_opened, rfl⟩
  next := PoisonSession.next_of_signed _ rfl rfl rfl rfl sample_signed rfl (by decide)

/-- The channel does not expect the number 1. -/
theorem sample_unexpected : ¬sampleTable.Expects 0 1 := by
  rintro ⟨channel, opened, same, -⟩
  rw [sample_opened] at opened
  cases opened
  exact absurd same (by decide)

/-- The sample record is refused with the channel's number 1. -/
theorem sample_refused :
    (receiveAuthenticated HmacEngine.sha256 sampleSession sampleRecord sampleTag sampleTable 0
      1).accepted = false := by
  rw [← Bool.not_eq_true, accepted_iff]
  rintro ⟨-, expected⟩
  exact sample_unexpected expected

/-- An authentic record that skips a number of its channel is refused, and the session
has counted it. -/
theorem refused_record_used_up :
    (receiveAuthenticated HmacEngine.sha256 sampleSession sampleRecord sampleTag sampleTable 0
        1).accepted = false ∧
      sampleSession.nextRxSequence = 0 ∧
      (receiveAuthenticated HmacEngine.sha256 sampleSession sampleRecord sampleTag sampleTable 0
        1).session.nextRxSequence = 1 := by
  refine ⟨sample_refused, rfl, ?_⟩
  rw [of_usedUp 1 sample_usedUp]
  rfl

/-- In that run the table is kept, and the session is one record further. -/
theorem refused_record_kept_table :
    (receiveAuthenticated HmacEngine.sha256 sampleSession sampleRecord sampleTag sampleTable 0
        1).table = sampleTable ∧
      (receiveAuthenticated HmacEngine.sha256 sampleSession sampleRecord sampleTag sampleTable 0
        1).session = sampleSession.received :=
  have outcome := receive_authenticated_refusals HmacEngine.sha256 sampleSession sampleRecord
    sampleTag sampleTable 0 1 sample_refused
  ⟨outcome.1, (outcome.2.2 sample_usedUp).2⟩

end ChannelReceipt

end PoisonedOS
