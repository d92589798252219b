import PoisonedOS.Library.Runs
import PoisonedOS.Session.Systems

/-!
# Approved authority

The user approves a client by answering a dialog that shows its role and the
capabilities it asks for. A client that comes back under the same role and name is
not asked about again, whatever capabilities it asks for, and a session that was
stored for a client may be resumed after the client was removed and added again.

A run takes any messages of any number of RPC sessions and any removal of clients.
A history variable records the dialogs that were accepted. In a run in which a
returning client asks for nothing new, and in which a client is not added again
while more than the new dialog shows is left of it, every active session has the
authority that the user approved.

Signatures are unforgeable: what verifies under a key was signed with it.
-/

namespace PoisonedOS

/-- An accepted dialog: the client, what was shown, and whether the client was added
to the registry on this answer. -/
structure PairingAnswer where
  identity : Digest
  role : Role
  capabilities : Capabilities
  added : Bool
deriving DecidableEq

/-- The RPC sessions, what they share, and the accepted dialogs so far. An RPC session
that is not open has the system it would start with. -/
structure PairingWorld where
  systems : Nat → PoisonSystem
  device : PairingDevice
  slots : ResumeSlots
  answers : List PairingAnswer

/-- A message of an RPC session, its end, or a removal of clients on the device. -/
inductive PairingMessage where
  | hello (rpc : Nat) (hello : PairingHello) (nowMs : UInt64) (entropy : PairingEntropy)
  | confirm (rpc : Nat) (confirm : PairingConfirm) (nowMs : UInt64) (answer saved : Bool)
  | resume (rpc : Nat) (request : ResumeRequest) (nowMs : UInt64)
      (rotatedToken : Option ResumeToken)
  | token (rpc : Nat) (request : ResumeRequest) (token : Option ResumeToken)
  | encrypt (rpc : Nat) (acknowledgement : UInt64) (channel : CString) (plaintext : List UInt8)
  | decrypt (rpc : Nat) (sequence acknowledgement : UInt64) (channel : CString)
      (ciphertext : List UInt8) (tag : AuthenticationTag)
  | revokeTransport (rpc : Nat)
  | close (rpc : Nat) (nowMs : UInt64)
  | revokeClient (index : Fin pairingMaxClients) (saved : Bool)
  | revokeAllClients (saved : Bool)

namespace PairingWorld

/-- A device without clients. -/
def init (authenticate : PairingDiskBody → Digest) : PairingWorld :=
  let device := PairingDevice.init.registryInit authenticate
  ⟨fun _ => .alloc device, device, fun _ => none, []⟩

/-- Replace the system of one RPC session. -/
def setSystem (world : PairingWorld) (rpc : Nat) (system : PoisonSystem) : PairingWorld :=
  { world with systems := Function.update world.systems rpc system }

end PairingWorld

/-- The user is asked in a confirm of this system. -/
def PoisonSystem.asks (system : PoisonSystem) : Bool :=
  system.handshake.pending && !system.trustedIdentity

/-- The dialog a system shows, and whether the registry holds its client only
afterwards. -/
def PoisonSystem.answered (system : PoisonSystem) (before after : PairingDevice) :
    PairingAnswer where
  identity := system.handshake.clientIdentityDigest
  role := system.handshake.requestedRole
  capabilities := system.handshake.requestedCapabilities
  added := (before.registryFind system.handshake.clientIdentityDigest).isNone &&
    (after.registryFind system.handshake.clientIdentityDigest).isSome

section Runs

variable (crypto : SessionCrypto) (authenticate : PairingDiskBody → Digest)

/-- One message. -/
def pairingStep : PairingMessage → PairingWorld → PairingWorld
  | .hello rpc hello nowMs entropy, world =>
    world.setSystem rpc
      ((world.systems rpc).helloProcess crypto world.device hello nowMs entropy).2
  | .confirm rpc confirm nowMs answer saved, world =>
    let former := world.systems rpc
    let (_, system, device) :=
      former.confirmProcess crypto authenticate world.device confirm nowMs answer saved
    { world.setSystem rpc system with
      device
      answers :=
        if former.asks && answer then world.answers ++ [former.answered world.device device]
        else world.answers }
  | .resume rpc request nowMs rotatedToken, world =>
    let (_, system, device, slots) :=
      (world.systems rpc).resumeProcess crypto authenticate world.device world.slots request nowMs
        rotatedToken
    { world.setSystem rpc system with device, slots }
  | .token rpc request token, world =>
    world.setSystem rpc ((world.systems rpc).issueToken world.device request token).2
  | .encrypt rpc acknowledgement channel plaintext, world =>
    world.setSystem rpc ((world.systems rpc).setSession
      ((world.systems rpc).handshake.session.encryptTx crypto acknowledgement channel plaintext).2)
  | .decrypt rpc sequence acknowledgement channel ciphertext tag, world =>
    world.setSystem rpc ((world.systems rpc).setSession
      ((world.systems rpc).handshake.session.decryptRx crypto sequence acknowledgement channel
        ciphertext tag).2)
  | .revokeTransport rpc, world =>
    { world.setSystem rpc (world.systems rpc).revoke with
      slots :=
        if (world.systems rpc).handshake.session.sessionId == 0 then world.slots
        else revokeResume world.slots (world.systems rpc).handshake.session.sessionId }
  | .close rpc nowMs, world =>
    let (device, slots) :=
      (world.systems rpc).free crypto authenticate world.device world.slots nowMs
    { world.setSystem rpc (.alloc device) with device, slots }
  | .revokeClient index saved, world =>
    { world with
      device := (world.device.registryRevoke authenticate index (savedOutcome saved)).2 }
  | .revokeAllClients saved, world =>
    { world with device := (world.device.registryRevokeAll authenticate (savedOutcome saved)).2 }

def pairingReached (messages : List PairingMessage) (index : Nat) : PairingWorld :=
  Runs.reached (pairingStep crypto authenticate) (.init authenticate) messages index

end Runs

/-- The user accepted a dialog of this client that showed the role and all of the
capabilities, and the client was not added to the registry after that. -/
def ApprovedSince (answers : List PairingAnswer) (identity : Digest) (role : Role)
    (capabilities : Capabilities) : Prop :=
  ∃ before answer after, answers = before ++ answer :: after ∧ answer.identity = identity ∧
    answer.role = role ∧ CapabilitiesIn capabilities answer.capabilities ∧
    ∀ later ∈ after, later.identity = identity → later.added = false

def approvedIn (identity : Digest) (role : Role) (capabilities : Capabilities) :
    List PairingAnswer → Bool
  | [] => false
  | answer :: after =>
    (answer.identity == identity && answer.role == role &&
      decide (CapabilitiesIn capabilities answer.capabilities) &&
      after.all fun later => later.identity != identity || !later.added) ||
    approvedIn identity role capabilities after

theorem approvedSince_iff (answers : List PairingAnswer) (identity : Digest) (role : Role)
    (capabilities : Capabilities) :
    ApprovedSince answers identity role capabilities ↔
      approvedIn identity role capabilities answers = true := by
  induction answers with
  | nil => simp [ApprovedSince, approvedIn]
  | cons first rest ih =>
    rw [approvedIn, Bool.or_eq_true, ← ih]
    simp only [Bool.and_eq_true, beq_iff_eq, decide_eq_true_eq, List.all_eq_true, Bool.or_eq_true,
      bne_iff_ne, Bool.not_eq_true']
    constructor
    · rintro ⟨before, answer, after, split, same, sameRole, within, quiet⟩
      cases before with
      | nil =>
        obtain ⟨rfl, rfl⟩ := List.cons.inj split
        refine .inl ⟨⟨⟨same, sameRole⟩, within⟩, fun later member => ?_⟩
        by_cases other : later.identity = identity
        · exact .inr (quiet later member other)
        · exact .inl other
      | cons _ before =>
        obtain ⟨rfl, rfl⟩ := List.cons.inj split
        exact .inr ⟨before, answer, after, rfl, same, sameRole, within, quiet⟩
    · rintro (⟨⟨⟨same, sameRole⟩, within⟩, quiet⟩ | ⟨before, answer, after, rfl, approved⟩)
      · refine ⟨[], first, rest, rfl, same, sameRole, within, fun later member other => ?_⟩
        exact (quiet later member).resolve_left fun different => different other
      · exact ⟨first :: before, answer, after, rfl, approved⟩

instance (answers : List PairingAnswer) (identity : Digest) (role : Role)
    (capabilities : Capabilities) :
    Decidable (ApprovedSince answers identity role capabilities) :=
  decidable_of_iff _ (approvedSince_iff answers identity role capabilities).symm

open PoisonSystem (alloc answered asks confirmProcess countIdentitySession countOrRevoke free
  helloProcess issueToken resumeProcess revoke setSession)

section Authority

variable (crypto : SessionCrypto) (signed : PublicKey → Digest → Prop)

/-- The client with the session's identity key signed the transcript of the handshake
that the session came from: the one with the session's number, its role and its
capabilities. -/
def SignedTranscript (session : PoisonSession) : Prop :=
  ∃ (hello : PairingHello) (handshake : PairingHandshake),
    pairingTranscript crypto hello handshake = some handshake.transcriptDigest ∧
    handshake.session.sessionId = session.sessionId ∧
    roles[hello.requestedRole.toNat]? = some session.role ∧
    hello.requestedCapabilities = session.grantedCapabilities ∧
    hello.clientIdentityPublicKey = handshake.clientIdentityPublicKey.bytes ∧
    crypto.sha256 handshake.clientIdentityPublicKey.bytes = some session.clientIdentityDigest ∧
    signed handshake.clientIdentityPublicKey handshake.transcriptDigest

/-- The authority of a session is what the user approved. -/
structure Authorized (answers : List PairingAnswer) (session : PoisonSession) : Prop where
  approved : ApprovedSince answers session.clientIdentityDigest session.role
    session.grantedCapabilities
  within : CapabilitiesIn session.grantedCapabilities (roleCapabilities session.role)
  transcript : SignedTranscript crypto signed session

/-- A role and capabilities that an answer shows, unless the answer is of another
client or did not add it. -/
def PairingAnswer.Covers (answer : PairingAnswer) (identity : Digest) (role : Role)
    (capabilities : Capabilities) : Prop :=
  answer.added = true → answer.identity = identity →
    answer.role = role ∧ CapabilitiesIn capabilities answer.capabilities

variable {answer : PairingAnswer}

theorem ApprovedSince.last {answers : List PairingAnswer} {capabilities : Capabilities}
    (within : CapabilitiesIn capabilities answer.capabilities) :
    ApprovedSince (answers ++ [answer]) answer.identity answer.role capabilities :=
  ⟨answers, answer, [], rfl, rfl, rfl, within, by simp⟩

/-- What was approved stays approved, if a new answer that adds the client covers
it. -/
theorem ApprovedSince.append {answers : List PairingAnswer} {identity : Digest} {role : Role}
    {capabilities : Capabilities} (approved : ApprovedSince answers identity role capabilities)
    (covers : answer.Covers identity role capabilities) :
    ApprovedSince (answers ++ [answer]) identity role capabilities := by
  by_cases again : answer.added = true ∧ answer.identity = identity
  · obtain ⟨added, same⟩ := again
    obtain ⟨sameRole, within⟩ := covers added same
    subst same sameRole
    exact .last within
  · obtain ⟨before, former, after, rfl, same, sameRole, within, quiet⟩ := approved
    refine ⟨before, former, after ++ [answer], by simp, same, sameRole, within, ?_⟩
    intro later member sameIdentity
    rw [List.mem_append, List.mem_singleton] at member
    obtain member | rfl := member
    · exact quiet later member sameIdentity
    · cases added : later.added with
      | false => rfl
      | true => exact absurd ⟨added, sameIdentity⟩ again

theorem Authorized.append {answers : List PairingAnswer} {session : PoisonSession}
    (authorized : Authorized crypto signed answers session)
    (covers : answer.Covers session.clientIdentityDigest session.role session.grantedCapabilities) :
    Authorized crypto signed (answers ++ [answer]) session :=
  { authorized with approved := authorized.approved.append covers }

def Begun (handshake : PairingHandshake) : Prop :=
  ∃ hello : PairingHello,
    pairingTranscript crypto hello handshake = some handshake.transcriptDigest ∧
    roles[hello.requestedRole.toNat]? = some handshake.requestedRole ∧
    hello.requestedCapabilities = handshake.requestedCapabilities ∧
    hello.clientIdentityPublicKey = handshake.clientIdentityPublicKey.bytes ∧
    crypto.sha256 handshake.clientIdentityPublicKey.bytes = some handshake.clientIdentityDigest

/-- What holds of the system of an RPC session: its session is authorized if it is
active, and a handshake in progress was begun by a hello. -/
structure SystemHeld (answers : List PairingAnswer) (system : PoisonSystem) : Prop where
  authorized : system.handshake.session.state = .active →
    Authorized crypto signed answers system.handshake.session
  begun : system.handshake.session.state = .confirming → Begun crypto system.handshake

/-- The same for all RPC sessions, and every stored session is authorized. -/
structure AuthorityHeld (systems : Nat → PoisonSystem) (slots : ResumeSlots)
    (answers : List PairingAnswer) : Prop where
  systems : ∀ rpc, SystemHeld crypto signed answers (systems rpc)
  slots : ∀ index slot, slots index = some slot → Authorized crypto signed answers slot.session

variable {crypto signed} {answers : List PairingAnswer} {systems : Nat → PoisonSystem}
  {slots : ResumeSlots}

/-- A system whose session is neither active nor waits for a confirm claims
nothing. -/
theorem SystemHeld.idle {system : PoisonSystem}
    (inactive : system.handshake.session.state ≠ .active)
    (unconfirmed : system.handshake.session.state ≠ .confirming) :
    SystemHeld crypto signed answers system where
  authorized active := absurd active inactive
  begun confirming := absurd confirming unconfirmed

theorem SystemHeld.active {system : PoisonSystem}
    (active : system.handshake.session.state = .active)
    (authorized : Authorized crypto signed answers system.handshake.session) :
    SystemHeld crypto signed answers system where
  authorized _ := authorized
  begun confirming := by
    rw [active] at confirming
    cases confirming

theorem SystemHeld.revoked (system : PoisonSystem) :
    SystemHeld crypto signed answers system.revoke :=
  .idle (by simp [revoke, setSession, PoisonSession.revoke])
    (by simp [revoke, setSession, PoisonSession.revoke])

/-- One system and the slots are replaced. -/
theorem AuthorityHeld.replace (held : AuthorityHeld crypto signed systems slots answers)
    (rpc : Nat) {system : PoisonSystem} {next : ResumeSlots}
    (systemHeld : SystemHeld crypto signed answers system)
    (slotsHeld : ∀ index slot, next index = some slot →
      Authorized crypto signed answers slot.session) :
    AuthorityHeld crypto signed (Function.update systems rpc system) next answers where
  systems other := by
    by_cases same : other = rpc
    · subst same
      rw [Function.update_self]
      exact systemHeld
    · rw [Function.update_of_ne same]
      exact held.systems other
  slots := slotsHeld

/-- Slots that were only cleared hold nothing new. -/
theorem AuthorityHeld.cleared (held : AuthorityHeld crypto signed systems slots answers)
    {next : ResumeSlots} (cleared : SlotsCleared slots next) (index : Fin resumeSlotCount)
    (slot : ResumeSlot) (stored : next index = some slot) :
    Authorized crypto signed answers slot.session := by
  obtain same | gone := cleared index
  · rw [same] at stored
    exact held.slots index slot stored
  · rw [gone] at stored
    cases stored

/-- A hello leaves the system as it was, without a session, or with a handshake it
began. -/
theorem hello_held {system : PoisonSystem} (held : SystemHeld crypto signed answers system)
    (device : PairingDevice) (hello : PairingHello) (nowMs : UInt64)
    (entropy : PairingEntropy) :
    SystemHeld crypto signed answers
      (system.helloProcess crypto device hello nowMs entropy).2 := by
  unfold helloProcess
  split
  · exact held
  · obtain refused | ⟨next, failed, -, inactive, unconfirmed⟩ | ⟨challenge, next, begun, begins⟩ :=
      pairingBegin_cases crypto system.handshake hello nowMs entropy
    · rw [refused]
      exact held
    · rw [failed]
      exact .idle inactive unconfirmed
    · rw [begun]
      obtain ⟨checked, passed, identityKey, role⟩ := begins.checked
      obtain ⟨keyBytes, known⟩ := hello.checked_fields passed
      constructor
      · intro active
        have confirming : next.session.state = .active := active
        rw [begins.confirming] at confirming
        cases confirming
      · intro _
        refine ⟨hello, begins.transcribed, ?_, begins.requested.symm, ?_, begins.identity⟩
        · rw [known, role]
        · rw [identityKey, keyBytes]

theorem completed_authorized {handshake : PairingHandshake} {confirm : PairingConfirm}
    {nowMs : UInt64} {approved : Bool} {keys : SessionKey × SessionKey}
    (unforgeable : ∀ key digest signature,
      crypto.verify key digest signature = true → signed key digest)
    (begun : Begun crypto handshake)
    (completes : Completes crypto handshake confirm nowMs approved keys)
    (since : ApprovedSince answers handshake.clientIdentityDigest handshake.requestedRole
      handshake.requestedCapabilities) :
    Authorized crypto signed answers (handshake.completed keys).session where
  approved := since
  within := by
    have within := policyEvaluate_within_role handshake.requestedRole
      handshake.requestedCapabilities false true 1
    rwa [policyEvaluate_granted completes.allowed] at within
  transcript := by
    obtain ⟨hello, transcribed, role, requested, key, identity⟩ := begun
    exact ⟨hello, handshake, transcribed, rfl, role, requested, key, identity,
      unforgeable _ _ _ completes.signed⟩

theorem countIdentitySession_kept (authenticate : PairingDiskBody → Digest)
    (system : PoisonSystem) (device : PairingDevice) :
    (system.countIdentitySession authenticate device).2.1.handshake = system.handshake := by
  unfold countIdentitySession
  split
  · rfl
  · split <;> rfl

theorem SystemHeld.same {system next : PoisonSystem}
    (held : SystemHeld crypto signed answers system)
    (handshake : next.handshake = system.handshake) :
    SystemHeld crypto signed answers next where
  authorized active := by
    rw [handshake] at active ⊢
    exact held.authorized active
  begun confirming := by
    rw [handshake] at confirming ⊢
    exact held.begun confirming

theorem SystemHeld.counted (authenticate : PairingDiskBody → Digest) {system : PoisonSystem}
    (held : SystemHeld crypto signed answers system) (device : PairingDevice) :
    SystemHeld crypto signed answers (system.countOrRevoke authenticate device).2.1 := by
  have kept := countIdentitySession_kept authenticate system device
  unfold countOrRevoke
  split
  · rename_i next _ counted
    rw [counted] at kept
    exact held.same kept
  · exact .revoked _

/-- A confirm of a trusted client whose request was approved before, or one that the
user accepts, gives a session with the authority that was approved. -/
theorem confirm_held (authenticate : PairingDiskBody → Digest) {system : PoisonSystem}
    (unforgeable : ∀ key digest signature,
      crypto.verify key digest signature = true → signed key digest)
    (held : SystemHeld crypto signed answers system) (device : PairingDevice)
    (confirm : PairingConfirm) (nowMs : UInt64) (answer saved : Bool) (after : PairingDevice)
    (returning : system.handshake.confirmedBy crypto confirm nowMs
        (system.trustedIdentity || answer) = true → system.trustedIdentity = true →
      ApprovedSince answers system.handshake.clientIdentityDigest system.handshake.requestedRole
        system.handshake.requestedCapabilities) :
    SystemHeld crypto signed
      (if system.asks && answer then answers ++ [system.answered device after] else answers)
      (system.confirmProcess crypto authenticate device confirm nowMs answer saved).2.1 := by
  unfold confirmProcess
  cases pending : system.handshake.pending with
  | false =>
    have unasked : system.asks = false := by simp [asks, pending]
    simpa [unasked] using held
  | true =>
    simp only [Bool.not_true, Bool.false_eq_true, ↓reduceIte]
    obtain ⟨keys, completed, completes⟩ | failed := pairingComplete_cases crypto system.handshake
      confirm nowMs (system.trustedIdentity || answer)
    · rw [completed]
      have begun := held.begun completes.confirming
      dsimp only
      by_cases trusted : system.trustedIdentity = true
      · have unasked : system.asks = false := by simp [asks, trusted]
        rw [if_pos trusted]
        simp only [unasked, Bool.false_and, Bool.false_eq_true, ↓reduceIte]
        have since := returning completes.checked trusted
        exact (SystemHeld.active rfl
          (completed_authorized unforgeable begun completes since)).counted authenticate device
      · have asked : (system.asks && answer) = true := by
          have approved := completes.approved
          simpa [asks, trusted, pending] using approved
        rw [if_neg trusted, if_pos asked]
        have since : ApprovedSince (answers ++ [system.answered device after])
            system.handshake.clientIdentityDigest system.handshake.requestedRole
            system.handshake.requestedCapabilities := ApprovedSince.last (.refl _)
        have active : SystemHeld crypto signed (answers ++ [system.answered device after])
            { system with handshake := system.handshake.completed keys } :=
          SystemHeld.active rfl (completed_authorized unforgeable begun completes since)
        split
        · exact active.counted authenticate _
        · exact .revoked _
    · rw [failed]
      exact .idle (by simp [PairingHandshake.failed, PairingHandshake.abandon,
        PoisonSession.revoke]) (by simp [PairingHandshake.failed, PairingHandshake.abandon,
        PoisonSession.revoke])

/-- A resume leaves the system's session as it was, revoked, or as it was stored; and
slots are at most cleared. -/
theorem resume_held (authenticate : PairingDiskBody → Digest) {system : PoisonSystem}
    (held : SystemHeld crypto signed answers system)
    (slotsHeld : ∀ index slot, slots index = some slot →
      Authorized crypto signed answers slot.session)
    (device : PairingDevice) (request : ResumeRequest) (nowMs : UInt64)
    (rotatedToken : Option ResumeToken) :
    SystemHeld crypto signed answers (system.resumeProcess crypto authenticate device slots
        request nowMs rotatedToken).2.1 ∧
      SlotsCleared slots (system.resumeProcess crypto authenticate device slots request nowMs
        rotatedToken).2.2.2 := by
  unfold resumeProcess
  split
  · rename_i rotated token _
    obtain ⟨next, nothing, cleared⟩ | ⟨session, next, index, slot, something, taken⟩ :=
      takeResume_cases crypto slots request.sessionId token request.lastReceivedSequence nowMs
    · rw [nothing]
      exact ⟨held, cleared⟩
    · rw [something]
      dsimp only
      have authorized := slotsHeld index slot taken.stored
      rw [taken.copied] at authorized
      have active : SystemHeld crypto signed answers (system.setSession session) :=
        .active taken.live authorized
      split
      · exact ⟨.revoked _, taken.cleared⟩
      · have kept := countIdentitySession_kept authenticate (system.setSession session) device
        split
        · exact ⟨.revoked _, taken.cleared⟩
        · rename_i counted
          rw [counted] at kept
          exact ⟨active.same kept, taken.cleared⟩
  · exact ⟨held, .refl slots⟩

theorem SystemHeld.append {system : PoisonSystem} (held : SystemHeld crypto signed answers system)
    (covers : system.handshake.session.state = .active →
      answer.Covers system.handshake.session.clientIdentityDigest system.handshake.session.role
        system.handshake.session.grantedCapabilities) :
    SystemHeld crypto signed (answers ++ [answer]) system where
  authorized active := (held.authorized active).append crypto signed (covers active)
  begun := held.begun

/-- A session whose counters alone changed claims the same. -/
theorem SystemHeld.counters {system : PoisonSystem}
    (held : SystemHeld crypto signed answers system) (tx rx : UInt64) :
    SystemHeld crypto signed answers (system.setSession
      { system.handshake.session with nextTxSequence := tx, nextRxSequence := rx }) where
  authorized active := by
    have authorized := held.authorized active
    exact ⟨authorized.approved, authorized.within, authorized.transcript⟩
  begun confirming := held.begun confirming

theorem encrypt_held {system : PoisonSystem} (held : SystemHeld crypto signed answers system)
    (acknowledgement : UInt64) (channel : CString) (plaintext : List UInt8) :
    SystemHeld crypto signed answers (system.setSession
      (system.handshake.session.encryptTx crypto acknowledgement channel plaintext).2) := by
  obtain ⟨payload, sent, success, done⟩ | ⟨error, failed⟩ | ⟨error, failed, -⟩ :=
    PoisonSession.encryptTx_cases crypto system.handshake.session acknowledgement channel plaintext
  · rw [success, done.advanced]
    exact held.counters _ _
  · rw [failed]
    exact held
  · rw [failed]
    exact held.counters _ _

theorem decrypt_held {system : PoisonSystem} (held : SystemHeld crypto signed answers system)
    (sequence acknowledgement : UInt64) (channel : CString) (ciphertext : List UInt8)
    (tag : AuthenticationTag) :
    SystemHeld crypto signed answers (system.setSession
      (system.handshake.session.decryptRx crypto sequence acknowledgement channel ciphertext
        tag).2) := by
  obtain ⟨plaintext, received, success, done⟩ | ⟨error, failed⟩ :=
    PoisonSession.decryptRx_cases crypto system.handshake.session sequence acknowledgement channel
      ciphertext tag
  · rw [success, done.advanced]
    exact held.counters _ _
  · rw [failed]
    exact held

/-- A session that ends leaves its authority in a slot, or nothing. -/
theorem free_held (authenticate : PairingDiskBody → Digest) {system : PoisonSystem}
    (held : SystemHeld crypto signed answers system)
    (slotsHeld : ∀ index slot, slots index = some slot →
      Authorized crypto signed answers slot.session)
    (device : PairingDevice) (nowMs : UInt64) (index : Fin resumeSlotCount) (slot : ResumeSlot)
    (stored : (system.free crypto authenticate device slots nowMs).2 index = some slot) :
    Authorized crypto signed answers slot.session := by
  simp only [free] at stored
  split at stored
  · obtain refused | ⟨place, kept, placed, holds⟩ :=
      storeResume_cases crypto slots system.handshake.session system.resumeToken nowMs
    · rw [refused] at stored
      exact slotsHeld index slot stored
    · rw [placed] at stored
      dsimp only at stored
      by_cases here : index = place
      · rw [here, Function.update_self, Option.some.injEq] at stored
        rw [← stored, holds.copied]
        exact held.authorized holds.live
      · rw [Function.update_of_ne here] at stored
        exact slotsHeld index slot stored
  · exact slotsHeld index slot stored

end Authority

/-- A session is of another client, or has no authority that this system's dialog does
not show. -/
def PoisonSystem.Shows (system : PoisonSystem) (session : PoisonSession) : Prop :=
  session.clientIdentityDigest = system.handshake.clientIdentityDigest →
    session.role = system.handshake.requestedRole ∧
      CapabilitiesIn session.grantedCapabilities system.handshake.requestedCapabilities

/-- No session and no resume slot is left with authority that the dialog of an RPC
session does not show. -/
structure NothingLeft (world : PairingWorld) (rpc : Nat) : Prop where
  sessions : ∀ other, other ≠ rpc → (world.systems other).handshake.session.state = .active →
    (world.systems rpc).Shows (world.systems other).handshake.session
  slots : ∀ index slot, world.slots index = some slot → (world.systems rpc).Shows slot.session

section Run

variable (crypto : SessionCrypto) (authenticate : PairingDiskBody → Digest)

/-- The condition on a message: where a confirm passes its checks, a client that is not
asked about asks for what was approved since it was added, and a client that is
added has no session or slot left with more than the dialog shows. -/
def LawfulMessage (world : PairingWorld) : PairingMessage → Prop
  | .confirm rpc confirm nowMs answer _ =>
    let system := world.systems rpc
    system.handshake.confirmedBy crypto confirm nowMs (system.trustedIdentity || answer) = true →
      (system.trustedIdentity = true → ApprovedSince world.answers
        system.handshake.clientIdentityDigest system.handshake.requestedRole
        system.handshake.requestedCapabilities) ∧
      (system.trustedIdentity = false →
        world.device.registryFind system.handshake.clientIdentityDigest = none →
        NothingLeft world rpc)
  | _ => True

/-- All messages of a run meet the condition. -/
def LawfulPairings (messages : List PairingMessage) : Prop :=
  ∀ index message, messages[index]? = some message →
    LawfulMessage crypto (pairingReached crypto authenticate messages index) message

variable {crypto authenticate} {signed : PublicKey → Digest → Prop}

/-- A confirm that changes nothing adds nobody. -/
theorem answered_added {system : PoisonSystem} {device : PairingDevice} {confirm : PairingConfirm}
    {nowMs : UInt64} {answer saved : Bool}
    (added : (system.answered device (system.confirmProcess crypto authenticate device confirm
      nowMs answer saved).2.2).added = true) :
    device.registryFind system.handshake.clientIdentityDigest = none ∧
      system.handshake.confirmedBy crypto confirm nowMs (system.trustedIdentity || answer) =
        true := by
  have unchanged (same : (system.confirmProcess crypto authenticate device confirm nowMs answer
      saved).2.2 = device) : False := by
    simp only [answered, same, Bool.and_eq_true, Option.isNone_iff_eq_none] at added
    rw [added.1] at added
    cases added.2
  refine ⟨?_, ?_⟩
  · simp only [answered, Bool.and_eq_true, Option.isNone_iff_eq_none] at added
    exact added.1
  · cases pending : system.handshake.pending with
    | false =>
      exact (unchanged (by simp [confirmProcess, pending])).elim
    | true =>
      obtain ⟨keys, completed, completes⟩ | failed := pairingComplete_cases crypto
        system.handshake confirm nowMs (system.trustedIdentity || answer)
      · exact completes.checked
      · exact (unchanged (by simp [confirmProcess, pending, failed])).elim

/-- A confirm that meets the condition keeps all authority approved. -/
theorem confirm_step_held (unforgeable : ∀ key digest signature,
      crypto.verify key digest signature = true → signed key digest) {world : PairingWorld}
    (held : AuthorityHeld crypto signed world.systems world.slots world.answers) (rpc : Nat)
    (confirm : PairingConfirm) (nowMs : UInt64) (answer saved : Bool)
    (lawful : LawfulMessage crypto world (.confirm rpc confirm nowMs answer saved)) :
    let next := pairingStep crypto authenticate (.confirm rpc confirm nowMs answer saved) world
    AuthorityHeld crypto signed next.systems next.slots next.answers := by
  simp only [pairingStep, PairingWorld.setSystem]
  have here := confirm_held authenticate unforgeable (held.systems rpc) world.device confirm nowMs
    answer saved ((world.systems rpc).confirmProcess crypto authenticate world.device confirm nowMs
      answer saved).2.2 (fun checked trusted => (lawful checked).1 trusted)
  have shows (session : PoisonSession) (asked : (world.systems rpc).asks = true)
      (covered : NothingLeft world rpc → (world.systems rpc).Shows session) :
      ((world.systems rpc).answered world.device ((world.systems rpc).confirmProcess crypto
        authenticate world.device confirm nowMs answer saved).2.2).Covers
        session.clientIdentityDigest session.role session.grantedCapabilities := by
    intro added sameIdentity
    obtain ⟨unknown, checked⟩ := answered_added added
    have untrusted : (world.systems rpc).trustedIdentity = false := by
      simp only [PoisonSystem.asks, Bool.and_eq_true, Bool.not_eq_true'] at asked
      exact asked.2
    obtain ⟨sameRole, within⟩ := covered ((lawful checked).2 untrusted unknown) sameIdentity.symm
    exact ⟨sameRole.symm, within⟩
  generalize (world.systems rpc).confirmProcess crypto authenticate world.device confirm nowMs
    answer saved = result at here shows
  obtain ⟨paired, system, device⟩ := result
  dsimp only at here shows ⊢
  cases asked : (world.systems rpc).asks && answer with
  | false =>
    simp only [asked, Bool.false_eq_true, ↓reduceIte] at here ⊢
    exact held.replace rpc here held.slots
  | true =>
    simp only [asked, ↓reduceIte] at here ⊢
    have asks : (world.systems rpc).asks = true := (Bool.and_eq_true_iff.mp asked).1
    constructor
    · intro other
      by_cases same : other = rpc
      · subst same
        rw [Function.update_self]
        exact here
      · rw [Function.update_of_ne same]
        exact (held.systems other).append fun active =>
          shows _ asks fun left => left.sessions other same active
    · intro index slot stored
      exact (held.slots index slot stored).append crypto signed
        (shows _ asks fun left => left.slots index slot stored)

/-- Every message that meets the condition keeps all authority approved. -/
theorem pairingStep_held (unforgeable : ∀ key digest signature,
      crypto.verify key digest signature = true → signed key digest) {world : PairingWorld}
    (held : AuthorityHeld crypto signed world.systems world.slots world.answers)
    (message : PairingMessage) (lawful : LawfulMessage crypto world message) :
    let next := pairingStep crypto authenticate message world
    AuthorityHeld crypto signed next.systems next.slots next.answers := by
  cases message with
  | hello rpc hello nowMs entropy =>
    exact held.replace rpc (hello_held (held.systems rpc) world.device hello nowMs entropy)
      held.slots
  | confirm rpc confirm nowMs answer saved =>
    exact confirm_step_held unforgeable held rpc confirm nowMs answer saved lawful
  | resume rpc request nowMs rotatedToken =>
    obtain ⟨systemHeld, cleared⟩ := resume_held authenticate (held.systems rpc) held.slots
      world.device request nowMs rotatedToken
    exact held.replace rpc systemHeld (held.cleared cleared)
  | token rpc request token =>
    refine held.replace rpc ((held.systems rpc).same ?_) held.slots
    unfold issueToken
    split
    · rfl
    · split <;> rfl
  | encrypt rpc acknowledgement channel plaintext =>
    exact held.replace rpc (encrypt_held (held.systems rpc) acknowledgement channel plaintext)
      held.slots
  | decrypt rpc sequence acknowledgement channel ciphertext tag =>
    exact held.replace rpc
      (decrypt_held (held.systems rpc) sequence acknowledgement channel ciphertext tag) held.slots
  | revokeTransport rpc =>
    refine held.replace rpc (.revoked _) (held.cleared ?_)
    simp only [pairingStep]
    split
    · exact .refl _
    · exact revokeResume_cleared _ _
  | close rpc nowMs =>
    refine held.replace rpc (.idle ?_ ?_)
      (free_held authenticate (held.systems rpc) held.slots world.device nowMs)
    · simp [alloc, PairingHandshake.zero, PoisonSession.init]
    · simp [alloc, PairingHandshake.zero, PoisonSession.init]
  | revokeClient index saved => exact held
  | revokeAllClients saved => exact held

theorem held_init (authenticate : PairingDiskBody → Digest) :
    AuthorityHeld crypto signed (PairingWorld.init authenticate).systems
      (PairingWorld.init authenticate).slots (PairingWorld.init authenticate).answers where
  systems _ := .idle (by simp [PairingWorld.init, alloc, PairingHandshake.zero,
    PoisonSession.init]) (by simp [PairingWorld.init, alloc, PairingHandshake.zero,
    PoisonSession.init])
  slots index slot stored := by simp [PairingWorld.init] at stored

end Run

/-- In a run whose messages meet the condition, every active session has at every point
the role and the capabilities that the user approved since its client was added,
within its role, and comes from a handshake that the client signed. -/
theorem authority_approved (crypto : SessionCrypto) (authenticate : PairingDiskBody → Digest)
    (signed : PublicKey → Digest → Prop)
    (unforgeable : ∀ key digest signature,
      crypto.verify key digest signature = true → signed key digest)
    (messages : List PairingMessage) (lawful : LawfulPairings crypto authenticate messages)
    (index rpc : Nat)
    (active : ((pairingReached crypto authenticate messages index).systems
      rpc).handshake.session.state = .active) :
    Authorized crypto signed (pairingReached crypto authenticate messages index).answers
      ((pairingReached crypto authenticate messages index).systems rpc).handshake.session := by
  have held (index : Nat) : AuthorityHeld crypto signed
      (pairingReached crypto authenticate messages index).systems
      (pairingReached crypto authenticate messages index).slots
      (pairingReached crypto authenticate messages index).answers := by
    refine Runs.always (motive := fun (world : PairingWorld) =>
      AuthorityHeld crypto signed world.systems world.slots world.answers)
      (held_init authenticate) ?_ index
    intro index message taken held
    exact pairingStep_held unforgeable held message (lawful index message taken)
  exact ((held index).systems rpc).authorized active

/-- An owner that pairs in an RPC session, with the user's approval of what it asks
for. -/
def samplePairing (capabilities : Capabilities) : List PairingMessage :=
  let hello := sampleHello 1 2 0 capabilities
  [.hello 0 hello 1000 (sampleEntropy 7),
    .confirm 0 (sampleConfirm (sampleHandshake hello 1000 7)) 2000 true true]

theorem sample_authority_approved :
    ((pairingReached .sample (fun _ => .zero _) (samplePairing 255) 2).systems
        0).handshake.session.state = .active ∧
      Authorized .sample (fun key digest => SessionCrypto.sample.verify key digest
          (sampleDigest 32 (key.bytes ++ digest.bytes)).bytes = true)
        (pairingReached .sample (fun _ => .zero _) (samplePairing 255) 2).answers
        ((pairingReached .sample (fun _ => .zero _) (samplePairing 255) 2).systems
          0).handshake.session := by
  have active : ((pairingReached .sample (fun _ => .zero _) (samplePairing 255) 2).systems
      0).handshake.session.state = .active := by decide +kernel
  refine ⟨active, authority_approved .sample (fun _ => .zero _) _ ?_ (samplePairing 255) ?_ 2 0
    active⟩
  · intro key digest signature verified
    simp [SessionCrypto.sample]
  · intro index message taken
    match index with
    | 0 =>
      cases taken
      trivial
    | 1 =>
      cases taken
      intro _
      refine ⟨fun trusted => absurd trusted (by decide +kernel), fun _ _ => ⟨?_, ?_⟩⟩
      · intro other elsewhere active
        have idle : (pairingReached .sample (fun _ => .zero _) (samplePairing 255) 1).systems other =
            .alloc (PairingDevice.init.registryInit fun _ => .zero _) :=
          Function.update_of_ne elsewhere _ _
        rw [idle] at active
        cases active
      · intro slot stored present
        cases present
    | index + 2 => cases taken

/-- The owner pairs for one capability, and comes back for all of them. Nobody is
asked. -/
def sampleReturn : List PairingMessage :=
  let hello := sampleHello 1 3 0 255
  samplePairing 1 ++ [.close 0 3000, .hello 1 hello 4000 (sampleEntropy 8),
    .confirm 1 (sampleConfirm (sampleHandshake hello 4000 8)) 5000 false true]

theorem returning_client_not_approved :
    ((pairingReached .sample (fun _ => .zero _) sampleReturn 5).systems
        1).handshake.session.state = .active ∧
      ((pairingReached .sample (fun _ => .zero _) sampleReturn 5).systems
        1).handshake.session.grantedCapabilities = 255 ∧
      ¬ApprovedSince (pairingReached .sample (fun _ => .zero _) sampleReturn 5).answers
        ((pairingReached .sample (fun _ => .zero _) sampleReturn 5).systems
          1).handshake.session.clientIdentityDigest
        ((pairingReached .sample (fun _ => .zero _) sampleReturn 5).systems
          1).handshake.session.role
        ((pairingReached .sample (fun _ => .zero _) sampleReturn 5).systems
          1).handshake.session.grantedCapabilities := by
  refine ⟨?_, ?_, ?_⟩ <;> decide +kernel

end PoisonedOS
