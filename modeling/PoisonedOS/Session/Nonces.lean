import PoisonedOS.Library.Ownership
import PoisonedOS.Library.Runs
import PoisonedOS.Session.Handshake
import PoisonedOS.Session.Resume

/-!
# Nonces are used once

Any number of RPC sessions pair, seal and open records, end and are resumed. The
keys of a completed pairing are held by one session or one resume slot: they are
copied only where the source gives them up. The holder's counter is above every
number sealed under its key, so no key meets a nonce twice.

Two history variables record the keys of the completed pairings and the nonces of
the successful seals. That pairings yield fresh keys is the assumption; it is a
property of the key agreement.
-/

namespace PoisonedOS

open Ownership

/-- The RPC sessions' handshakes, the resume slots and what happened so far. An RPC
session that is not open has the handshake it would start with. -/
structure NonceState where
  handshakes : Nat → PairingHandshake
  slots : ResumeSlots
  paired : List (SessionKey × SessionKey)
  nonces : List (SessionKey × List UInt8)

/-- A call of the session layer; the number is that of the RPC session. -/
inductive NonceOperation where
  | hello (rpc : Nat) (hello : PairingHello) (nowMs : UInt64) (entropy : PairingEntropy)
  | confirm (rpc : Nat) (confirm : PairingConfirm) (nowMs : UInt64) (approved : Bool)
  | encrypt (rpc : Nat) (acknowledgement : UInt64) (channel : CString) (plaintext : List UInt8)
  | decrypt (rpc : Nat) (sequence acknowledgement : UInt64) (channel : CString)
      (ciphertext : List UInt8) (tag : AuthenticationTag)
  | revoke (rpc : Nat)
  | revokeResume (sessionId : UInt64)
  | finish (rpc : Nat) (resumeIssued : Bool) (token : ResumeToken) (nowMs : UInt64)
  | resume (rpc : Nat) (sessionId : UInt64) (token : ResumeToken)
      (lastReceivedSequence nowMs : UInt64)

namespace NonceState

/-- Nothing is paired yet. -/
def init : NonceState := ⟨fun _ => .zero, fun _ => none, [], []⟩

/-- Replace the handshake of one RPC session. -/
def setHandshake (state : NonceState) (rpc : Nat) (handshake : PairingHandshake) : NonceState :=
  { state with handshakes := Function.update state.handshakes rpc handshake }

/-- Replace the secure session of one RPC session. -/
def setSession (state : NonceState) (rpc : Nat) (session : PoisonSession) : NonceState :=
  state.setHandshake rpc { state.handshakes rpc with session }

end NonceState

section Runs

variable (crypto : SessionCrypto)

/-- `rpc_system_poison_free`: a session whose client holds a token is kept for it,
and the handshake is cleared. -/
def finishSession (handshake : PairingHandshake) (slots : ResumeSlots) (resumeIssued : Bool)
    (token : ResumeToken) (nowMs : UInt64) : PairingHandshake × ResumeSlots :=
  if resumeIssued && handshake.session.state == .active then
    (.zero, (storeResume crypto slots handshake.session token nowMs).2)
  else (.zero, slots)

/-- One call. -/
def nonceStep : NonceOperation → NonceState → NonceState
  | .hello rpc hello nowMs entropy, state =>
    state.setHandshake rpc (pairingBegin crypto (state.handshakes rpc) hello nowMs entropy).2
  | .confirm rpc confirm nowMs approved, state =>
    match pairingComplete crypto (state.handshakes rpc) confirm nowMs approved with
    | (true, handshake) =>
      { state.setHandshake rpc handshake with
        paired := state.paired ++
          [(handshake.session.receiveKey, handshake.session.transmitKey)] }
    | (false, handshake) => state.setHandshake rpc handshake
  | .encrypt rpc acknowledgement channel plaintext, state =>
    match (state.handshakes rpc).session.encryptTx crypto acknowledgement channel plaintext with
    | (.ok payload, session) =>
      { state.setSession rpc session with
        nonces := state.nonces ++ [(session.transmitKey, session.buildIv payload.sequence)] }
    | (.error _, session) => state.setSession rpc session
  | .decrypt rpc sequence acknowledgement channel ciphertext tag, state =>
    state.setSession rpc ((state.handshakes rpc).session.decryptRx crypto sequence acknowledgement
      channel ciphertext tag).2
  | .revoke rpc, state => state.setSession rpc (state.handshakes rpc).session.revoke
  | .revokeResume sessionId, state => { state with slots := revokeResume state.slots sessionId }
  | .finish rpc resumeIssued token nowMs, state =>
    let (handshake, slots) :=
      finishSession crypto (state.handshakes rpc) state.slots resumeIssued token nowMs
    { state.setHandshake rpc handshake with slots }
  | .resume rpc sessionId token lastReceivedSequence nowMs, state =>
    match takeResume crypto state.slots sessionId token lastReceivedSequence nowMs with
    | (some session, slots) => { state.setSession rpc session with slots }
    | (none, slots) => { state with slots }

end Runs

/-- What may hold keys: the session object of an RPC session, or a resume slot. -/
inductive Keeper where
  | session (rpc : Nat)
  | slot (index : Fin resumeSlotCount)
deriving DecidableEq

/-- A session object that has its keys. -/
def PoisonSession.keyed (session : PoisonSession) : Option PoisonSession :=
  if session.directionalKeysSet then some session else none

def NonceState.held (state : NonceState) : Keeper → Option PoisonSession
  | .session rpc => (state.handshakes rpc).session.keyed
  | .slot index => (state.slots index).map (·.session)

/-- The receive and the transmit key. -/
def PoisonSession.directionalKeys (session : PoisonSession) : SessionKey × SessionKey :=
  (session.receiveKey, session.transmitKey)

/-- The number the next seal takes. -/
def PoisonSession.sealNumber (session : PoisonSession) : Nat := session.nextTxSequence.toNat

/-- The sequence number in a nonce. -/
def nonceNumber (iv : List UInt8) : Nat := fromLittleEndian (iv.drop 4).reverse

theorem nonceNumber_buildIv (session : PoisonSession) (sequence : UInt64) :
    nonceNumber (session.buildIv sequence) = sequence.toNat := by
  have dropped : (session.buildIv sequence).drop 4 = encodeU64 sequence := by
    unfold PoisonSession.buildIv
    rw [List.drop_left' (length_encodeU32 _)]
  rw [nonceNumber, dropped, encodeU64, List.reverse_reverse, bytes64, from_littleEndian]
  exact Nat.mod_eq_of_lt sequence.toNat_lt

theorem held_setHandshake (state : NonceState) (rpc : Nat) (handshake : PairingHandshake) :
    (state.setHandshake rpc handshake).held =
      Function.update state.held (.session rpc) handshake.session.keyed := by
  funext keeper
  cases keeper with
  | slot index => rfl
  | session other =>
    by_cases same : other = rpc
    · subst same
      simp [NonceState.held, NonceState.setHandshake]
    · rw [Function.update_of_ne (by simpa using same)]
      simp [NonceState.held, NonceState.setHandshake, same]

/-- What one call does to the keys that are held. -/
inductive NonceEffect (state next : NonceState) : Prop where
  | moved (origin : Keeper → Keeper)
      (moves : Moves PoisonSession.directionalKeys PoisonSession.sealNumber state.held next.held
        origin)
      (paired : next.paired = state.paired) (nonces : next.nonces = state.nonces)
  | paired (keeper : Keeper) (session : PoisonSession)
      (held : next.held = Function.update state.held keeper (some session))
      (paired : next.paired = state.paired ++ [session.directionalKeys])
      (nonces : next.nonces = state.nonces)
  | used (keeper : Keeper) (session advanced : PoisonSession) (iv : List UInt8)
      (stored : state.held keeper = some session)
      (held : next.held = Function.update state.held keeper (some advanced))
      (keys : advanced.directionalKeys = session.directionalKeys)
      (grown : session.sealNumber < advanced.sealNumber)
      (numbered : nonceNumber iv = session.sealNumber)
      (paired : next.paired = state.paired)
      (nonces : next.nonces = state.nonces ++ [(session.transmitKey, iv)])

/-- A session object replaced by one with its keys, or with none, moves nothing. -/
theorem setHandshake_moved (state : NonceState) (rpc : Nat) (handshake : PairingHandshake)
    (kept : ∀ session, handshake.session.keyed = some session →
      ∃ former, (state.handshakes rpc).session.keyed = some former ∧
        former.directionalKeys = session.directionalKeys ∧
        former.sealNumber ≤ session.sealNumber) :
    NonceEffect state (state.setHandshake rpc handshake) := by
  refine .moved id (.kept ?_) rfl rfl
  intro keeper session stored
  rw [held_setHandshake] at stored
  by_cases here : keeper = .session rpc
  · rw [here, Function.update_self] at stored
    rw [here]
    exact kept session stored
  · rw [Function.update_of_ne here] at stored
    exact ⟨session, stored, rfl, Nat.le_refl _⟩

/-- A handshake whose session has no keys holds nothing. -/
theorem setHandshake_dropped (state : NonceState) (rpc : Nat) (handshake : PairingHandshake)
    (unkeyed : handshake.session.directionalKeysSet = false) :
    NonceEffect state (state.setHandshake rpc handshake) := by
  refine setHandshake_moved state rpc handshake ?_
  intro session stored
  simp [PoisonSession.keyed, unkeyed] at stored

/-- A session that keeps its keys and does not count back moves nothing. -/
theorem setSession_moved (state : NonceState) (rpc : Nat) (session : PoisonSession)
    (set : session.directionalKeysSet = (state.handshakes rpc).session.directionalKeysSet)
    (keys : session.directionalKeys = (state.handshakes rpc).session.directionalKeys)
    (grown : (state.handshakes rpc).session.sealNumber ≤ session.sealNumber) :
    NonceEffect state (state.setSession rpc session) := by
  refine setHandshake_moved state rpc _ ?_
  intro kept stored
  simp only [PoisonSession.keyed, set] at stored ⊢
  split at stored
  · rename_i keyed
    cases stored
    exact ⟨_, if_pos keyed, keys.symm, grown⟩
  · cases stored

/-- Clearing slots drops what they held. -/
theorem slots_cleared (state : NonceState) (slots : ResumeSlots)
    (cleared : SlotsCleared state.slots slots) : NonceEffect state { state with slots } := by
  refine .moved id (.kept ?_) rfl rfl
  intro keeper session stored
  cases keeper with
  | session rpc => exact ⟨session, stored, rfl, Nat.le_refl _⟩
  | slot index =>
    obtain same | gone := cleared index
    · refine ⟨session, ?_, rfl, Nat.le_refl _⟩
      change (state.slots index).map (·.session) = some session
      rw [← same]
      exact stored
    · change (slots index).map (·.session) = some session at stored
      rw [gone] at stored
      cases stored

section Effects

variable (crypto : SessionCrypto)

theorem hello_effect (state : NonceState) (rpc : Nat) (hello : PairingHello) (nowMs : UInt64)
    (entropy : PairingEntropy) :
    NonceEffect state (nonceStep crypto (.hello rpc hello nowMs entropy) state) := by
  change NonceEffect state (state.setHandshake rpc _)
  obtain refused | ⟨next, failed, unkeyed, -⟩ | ⟨challenge, next, begun, begins⟩ :=
    pairingBegin_cases crypto (state.handshakes rpc) hello nowMs entropy
  · rw [refused]
    exact setHandshake_moved state rpc _ fun session stored =>
      ⟨session, stored, rfl, Nat.le_refl _⟩
  · rw [failed]
    exact setHandshake_dropped state rpc next unkeyed
  · rw [begun]
    exact setHandshake_dropped state rpc next begins.unkeyed

theorem confirm_effect (state : NonceState) (rpc : Nat) (confirm : PairingConfirm)
    (nowMs : UInt64) (approved : Bool) :
    NonceEffect state (nonceStep crypto (.confirm rpc confirm nowMs approved) state) := by
  simp only [nonceStep]
  obtain ⟨keys, completed, -⟩ | failed :=
    pairingComplete_cases crypto (state.handshakes rpc) confirm nowMs approved
  · rw [completed]
    exact .paired (.session rpc) ((state.handshakes rpc).completed keys).session
      (held_setHandshake state rpc _) rfl rfl
  · rw [failed]
    exact setHandshake_dropped state rpc _ rfl

/-- A successful seal uses the number its session counted to; a failed one uses
none. -/
theorem encrypt_effect (state : NonceState) (rpc : Nat) (acknowledgement : UInt64)
    (channel : CString) (plaintext : List UInt8) :
    NonceEffect state (nonceStep crypto (.encrypt rpc acknowledgement channel plaintext) state) := by
  simp only [nonceStep]
  obtain ⟨payload, sent, success, done⟩ | ⟨error, failed⟩ | ⟨error, failed, bounded⟩ :=
    PoisonSession.encryptTx_cases crypto (state.handshakes rpc).session acknowledgement channel
      plaintext
  · rw [success]
    dsimp only
    have keyed : sent.keyed = some sent := by
      rw [done.advanced]
      simp [PoisonSession.keyed, done.keyed]
    refine .used (.session rpc) (state.handshakes rpc).session sent (sent.buildIv payload.sequence)
      ?_ ?_ ?_ ?_ ?_ rfl ?_
    · simp [NonceState.held, PoisonSession.keyed, done.keyed]
    · rw [← keyed]
      exact held_setHandshake state rpc _
    · rw [done.advanced]
      rfl
    · rw [done.advanced]
      unfold PoisonSession.sealNumber
      rw [PoisonSession.toNat_succ done.bounded]
      exact Nat.lt_succ_self _
    · rw [nonceNumber_buildIv, done.numbered]
      rfl
    · change state.nonces ++ [(sent.transmitKey, _)] = _
      rw [done.advanced]
  · rw [failed]
    exact setSession_moved state rpc _ rfl rfl (Nat.le_refl _)
  · rw [failed]
    refine setSession_moved state rpc _ rfl rfl ?_
    unfold PoisonSession.sealNumber
    rw [PoisonSession.toNat_succ bounded]
    exact Nat.le_succ _

theorem decrypt_effect (state : NonceState) (rpc : Nat) (sequence acknowledgement : UInt64)
    (channel : CString) (ciphertext : List UInt8) (tag : AuthenticationTag) :
    NonceEffect state
      (nonceStep crypto (.decrypt rpc sequence acknowledgement channel ciphertext tag) state) := by
  change NonceEffect state (state.setSession rpc _)
  obtain ⟨plaintext, received, success, done⟩ | ⟨error, failed⟩ :=
    PoisonSession.decryptRx_cases crypto (state.handshakes rpc).session sequence acknowledgement
      channel ciphertext tag
  · rw [success, done.advanced]
    exact setSession_moved state rpc _ rfl rfl (Nat.le_refl _)
  · rw [failed]
    exact setSession_moved state rpc _ rfl rfl (Nat.le_refl _)

/-- A session that ends gives its keys to the slot it is stored in. -/
theorem finish_effect (state : NonceState) (rpc : Nat) (resumeIssued : Bool)
    (token : ResumeToken) (nowMs : UInt64) :
    NonceEffect state (nonceStep crypto (.finish rpc resumeIssued token nowMs) state) := by
  simp only [nonceStep, finishSession]
  have dropped : NonceEffect state (state.setHandshake rpc .zero) :=
    setHandshake_dropped state rpc .zero rfl
  split
  · dsimp only
    obtain refused | ⟨index, slot, stored, holds⟩ :=
      storeResume_cases crypto state.slots (state.handshakes rpc).session token nowMs
    · rw [refused]
      exact dropped
    · rw [stored]
      dsimp only
      have fromHere : state.held (.session rpc) = some slot.session := by
        rw [holds.copied]
        simp [NonceState.held, PoisonSession.keyed, holds.keyed]
      refine .moved _ (.transfer (.session rpc) (.slot index) ?_ ?_ ?_) rfl rfl
      · intro session handed
        simp only [NonceState.held, Function.update_self, Option.map_some,
          Option.some.injEq] at handed
        rw [fromHere, handed]
      · simp [NonceState.held, NonceState.setHandshake, PairingHandshake.zero,
          PoisonSession.keyed, PoisonSession.init]
      · intro keeper session elsewhere kept
        cases keeper with
        | slot other =>
          have different : other ≠ index := fun same => elsewhere (congrArg Keeper.slot same)
          simpa only [NonceState.held, Function.update_of_ne different] using kept
        | session other =>
          by_cases same : other = rpc
          · subst same
            simp [NonceState.held, NonceState.setHandshake, PairingHandshake.zero,
              PoisonSession.keyed, PoisonSession.init] at kept
          · simpa only [NonceState.held, NonceState.setHandshake,
              Function.update_of_ne same] using kept
  · exact dropped

/-- A session that is resumed leaves its slot empty. -/
theorem resume_effect (state : NonceState) (rpc : Nat) (sessionId : UInt64) (token : ResumeToken)
    (lastReceivedSequence nowMs : UInt64) :
    NonceEffect state
      (nonceStep crypto (.resume rpc sessionId token lastReceivedSequence nowMs) state) := by
  simp only [nonceStep]
  obtain ⟨slots, nothing, cleared⟩ | ⟨session, slots, index, slot, something, taken⟩ :=
    takeResume_cases crypto state.slots sessionId token lastReceivedSequence nowMs
  · rw [nothing]
    exact slots_cleared state slots cleared
  · rw [something]
    dsimp only
    refine .moved _ (.transfer (.slot index) (.session rpc) ?_ ?_ ?_) rfl rfl
    · intro item handed
      simp only [NonceState.held, NonceState.setSession, NonceState.setHandshake,
        Function.update_self, PoisonSession.keyed, taken.keyed, ↓reduceIte,
        Option.some.injEq] at handed
      simp only [NonceState.held, taken.stored, Option.map_some, taken.copied, handed]
    · simp only [NonceState.held, taken.freed, Option.map_none]
    · intro keeper item elsewhere kept
      cases keeper with
      | slot other =>
        obtain same | gone := taken.cleared other
        · simpa only [NonceState.held, same] using kept
        · simp [NonceState.held, gone] at kept
      | session other =>
        have different : other ≠ rpc := fun same => elsewhere (congrArg Keeper.session same)
        simpa only [NonceState.held, NonceState.setSession, NonceState.setHandshake,
          Function.update_of_ne different] using kept

/-- Every call moves keys, issues a fresh pair or uses one number. -/
theorem nonceStep_effect (operation : NonceOperation) (state : NonceState) :
    NonceEffect state (nonceStep crypto operation state) := by
  cases operation with
  | hello rpc hello nowMs entropy => exact hello_effect crypto state rpc hello nowMs entropy
  | confirm rpc confirm nowMs approved => exact confirm_effect crypto state rpc confirm nowMs approved
  | encrypt rpc acknowledgement channel plaintext =>
    exact encrypt_effect crypto state rpc acknowledgement channel plaintext
  | decrypt rpc sequence acknowledgement channel ciphertext tag =>
    exact decrypt_effect crypto state rpc sequence acknowledgement channel ciphertext tag
  | revoke rpc => exact setHandshake_dropped state rpc _ rfl
  | revokeResume sessionId =>
    exact slots_cleared state _ (revokeResume_cleared state.slots sessionId)
  | finish rpc resumeIssued token nowMs =>
    exact finish_effect crypto state rpc resumeIssued token nowMs
  | resume rpc sessionId token lastReceivedSequence nowMs =>
    exact resume_effect crypto state rpc sessionId token lastReceivedSequence nowMs

end Effects

/-- The pairings of a run yielded different keys each. -/
structure FreshKeys (paired : List (SessionKey × SessionKey)) : Prop where
  receive : (paired.map Prod.fst).Nodup
  transmit : (paired.map Prod.snd).Nodup

theorem FreshKeys.before {paired : List (SessionKey × SessionKey)}
    {keys : SessionKey × SessionKey} (fresh : FreshKeys (paired ++ [keys])) :
    FreshKeys paired ∧ keys.1 ∉ paired.map Prod.fst ∧ keys.2 ∉ paired.map Prod.snd := by
  have receive := fresh.receive
  have transmit := fresh.transmit
  rw [List.map_append, List.nodup_append] at receive transmit
  refine ⟨⟨receive.1, transmit.1⟩, fun member => ?_, fun member => ?_⟩
  · exact receive.2.2 _ member _ (by simp) rfl
  · exact transmit.2.2 _ member _ (by simp) rfl

/-- The account of the transmit keys with the numbers sealed under them, and of the
receive keys. -/
structure NoncesAccounted (state : NonceState) : Prop where
  transmit : Accounted PoisonSession.transmitKey PoisonSession.sealNumber state.held
    (state.paired.map Prod.snd)
    (state.nonces.map fun entry => (entry.1, nonceNumber entry.2))
  receive : Accounted PoisonSession.receiveKey (fun _ => 0) state.held
    (state.paired.map Prod.fst) []

theorem accounted_init : NoncesAccounted .init :=
  have empty (keeper : Keeper) : NonceState.init.held keeper = none := by
    cases keeper <;> rfl
  ⟨.initial empty, .initial empty⟩

/-- Calls keep the account, as long as pairings yield fresh keys. -/
theorem accounted_step {state next : NonceState} (effect : NonceEffect state next)
    (fresh : FreshKeys next.paired) (accounted : NoncesAccounted state) :
    NoncesAccounted next := by
  cases effect with
  | moved origin moves paired nonces =>
    constructor
    · rw [paired, nonces]
      exact accounted.transmit.moves (moves.project Prod.snd)
    · rw [paired]
      exact accounted.receive.moves (moves.project Prod.fst).uncounted
  | paired keeper session held paired nonces =>
    rw [paired] at fresh
    obtain ⟨-, freshReceive, freshTransmit⟩ := fresh.before
    constructor
    · rw [paired, nonces, held, List.map_append]
      exact accounted.transmit.issue freshTransmit
    · rw [paired, held, List.map_append]
      exact accounted.receive.issue freshReceive
  | used keeper session advanced iv stored held keys grown numbered paired nonces =>
    obtain ⟨sameReceive, sameTransmit⟩ := Prod.mk.inj keys
    constructor
    · rw [paired, nonces, held, List.map_append, List.map_singleton, numbered]
      exact accounted.transmit.use stored sameTransmit grown
    · rw [paired, held]
      refine accounted.receive.moves (.kept ?_)
      intro other item kept
      by_cases here : other = keeper
      · rw [here, Function.update_self, Option.some.injEq] at kept
        subst here kept
        exact ⟨session, stored, sameReceive.symm, Nat.le_refl 0⟩
      · rw [Function.update_of_ne here] at kept
        exact ⟨item, kept, rfl, Nat.le_refl 0⟩

/-- The pairings of a run that were fresh after a call were fresh before it. -/
theorem fresh_before {state next : NonceState} (effect : NonceEffect state next)
    (fresh : FreshKeys next.paired) : FreshKeys state.paired := by
  cases effect with
  | moved origin moves paired nonces => rwa [← paired]
  | paired keeper session held paired nonces =>
    rw [paired] at fresh
    exact fresh.before.1
  | used keeper session advanced iv stored held keys grown numbered paired nonces => rwa [← paired]

/-- The account holds at every point of a run up to which pairings were fresh. -/
theorem accounted_reached (crypto : SessionCrypto) (operations : List NonceOperation)
    (index : Nat) :
    FreshKeys (Runs.reached (nonceStep crypto) .init operations index).paired →
      NoncesAccounted (Runs.reached (nonceStep crypto) .init operations index) := by
  refine Runs.always (motive := fun state => FreshKeys state.paired → NoncesAccounted state)
    ?_ ?_ index
  · exact fun _ => accounted_init
  · intro index operation _ accounted fresh
    have effect := nonceStep_effect crypto operation
      (Runs.reached (nonceStep crypto) .init operations index)
    exact accounted_step effect fresh (accounted (fresh_before effect fresh))

/-- At every point of a run whose pairings so far yielded fresh keys, no two
successful seals used one transmit key with one nonce, and no two sessions or
resume slots hold a key of one pairing. -/
theorem nonces_unique (crypto : SessionCrypto) (operations : List NonceOperation) (index : Nat)
    (fresh : FreshKeys (Runs.reached (nonceStep crypto) .init operations index).paired) :
    (Runs.reached (nonceStep crypto) .init operations index).nonces.Nodup ∧
      ∀ keeper other session second,
        (Runs.reached (nonceStep crypto) .init operations index).held keeper = some session →
        (Runs.reached (nonceStep crypto) .init operations index).held other = some second →
        session.transmitKey = second.transmitKey ∨ session.receiveKey = second.receiveKey →
        keeper = other := by
  have accounted := accounted_reached crypto operations index fresh
  refine ⟨accounted.transmit.distinct.of_map _, ?_⟩
  intro keeper other session second stored stored' shared
  obtain sameTransmit | sameReceive := shared
  · exact accounted.transmit.exclusive keeper other session second stored stored' sameTransmit
  · exact accounted.receive.exclusive keeper other session second stored stored' sameReceive

/-- Two clients pair, each with its own entropy, and their sessions seal three records. -/
def sampleNonceRun : List NonceOperation :=
  let first := sampleHello 1 2 0 255
  let second := sampleHello 3 4 0 255
  [.hello 0 first 1000 (sampleEntropy 7),
    .confirm 0 (sampleConfirm (sampleHandshake first 1000 7)) 2000 true,
    .hello 1 second 1000 (sampleEntropy 8),
    .confirm 1 (sampleConfirm (sampleHandshake second 1000 8)) 2000 true,
    .encrypt 0 0 (.literal "rpc") [1], .encrypt 1 0 (.literal "rpc") [1],
    .encrypt 0 0 (.literal "rpc") [2]]

theorem sample_nonces_unique :
    (Runs.reached (nonceStep .sample) .init sampleNonceRun 7).nonces.length = 3 ∧
      (Runs.reached (nonceStep .sample) .init sampleNonceRun 7).nonces.Nodup :=
  ⟨by decide +kernel,
    (nonces_unique .sample sampleNonceRun 7
      ⟨by decide +kernel, by decide +kernel⟩).1⟩

end PoisonedOS
