import PoisonedOS.Pairing.Store
import PoisonedOS.Session.Session

/-!
# Resume slots

The RPC service keeps eight slots for sessions whose connection ended. A slot holds
a copy of the session and the digest of a token; the client that shows the token
in time takes the session out. An inactive slot is all zeros, so it is `none`.
-/

namespace PoisonedOS

/-- `RPC_RESUME_SLOT_COUNT`. -/
def resumeSlotCount : Nat := 8

/-- `RPC_RESUME_TTL_MS`. -/
def resumeTtlMs : UInt64 := 60000

/-- A token of `POISON_SESSION_RESUME_TOKEN_BYTES`. -/
abbrev ResumeToken := FixedBytes 32

/-- An active `PoisonSessionResumeSlot`. -/
structure ResumeSlot where
  expiresAtMs : UInt64
  tokenDigest : Digest
  session : PoisonSession
deriving DecidableEq

/-- The slots of the RPC service. -/
abbrev ResumeSlots := Fin resumeSlotCount → Option ResumeSlot

section Slots

variable (crypto : SessionCrypto)

/-- `poison_session_resume_store`: the slot's new content. -/
def resumeStore (session : PoisonSession) (token : ResumeToken) (nowMs ttlMs : UInt64) :
    Option ResumeSlot :=
  if session.state != .active || !session.directionalKeysSet || session.sessionId == 0 ||
      ttlMs == 0 || decide (ttlMs > lastSequence - nowMs) || !token.bytes.any (· != 0) then
    none
  else
    (crypto.sha256 token.bytes).map fun tokenDigest =>
      { expiresAtMs := nowMs + ttlMs, tokenDigest, session }

def receivedAll (session : PoisonSession) (lastReceivedSequence : UInt64) : Bool :=
  (session.nextTxSequence == 0 && lastReceivedSequence == lastSequence) ||
    (lastReceivedSequence != lastSequence && lastReceivedSequence + 1 == session.nextTxSequence)

/-- `poison_session_resume_take` of an active slot: the session, if it is handed out,
and what the slot holds then. -/
def resumeTake (slot : ResumeSlot) (sessionId : UInt64) (token : ResumeToken)
    (lastReceivedSequence nowMs : UInt64) : Option PoisonSession × Option ResumeSlot :=
  if nowMs ≥ slot.expiresAtMs then (none, none)
  else if sessionId == 0 || slot.session.sessionId != sessionId ||
      slot.session.state != .active || !slot.session.directionalKeysSet then
    (none, some slot)
  else if !receivedAll slot.session lastReceivedSequence then (none, some slot)
  else if crypto.sha256 token.bytes != some slot.tokenDigest then (none, some slot)
  else (some slot.session, none)

/-- The loop of `rpc_session_store_resume` that selects a slot: the one with the
session's number, or a free or expired one, whichever comes first, and otherwise
the one that expires first. -/
def selectResumeSlot (slots : ResumeSlots) (sessionId nowMs : UInt64) :
    List (Fin resumeSlotCount) → Option (Fin resumeSlotCount) → UInt64 →
    Option (Fin resumeSlotCount)
  | [], selected, _ => selected
  | index :: rest, selected, oldestExpiry =>
    match slots index with
    | none => some index
    | some slot =>
      if slot.session.sessionId == sessionId then some index
      else if nowMs ≥ slot.expiresAtMs then some index
      else if slot.expiresAtMs < oldestExpiry then
        selectResumeSlot slots sessionId nowMs rest (some index) slot.expiresAtMs
      else selectResumeSlot slots sessionId nowMs rest selected oldestExpiry

/-- `rpc_session_store_resume`. -/
def storeResume (slots : ResumeSlots) (session : PoisonSession) (token : ResumeToken)
    (nowMs : UInt64) : Bool × ResumeSlots :=
  match selectResumeSlot slots session.sessionId nowMs (List.finRange _) none lastSequence,
      resumeStore crypto session token nowMs resumeTtlMs with
  | some index, some slot => (true, Function.update slots index (some slot))
  | _, _ => (false, slots)

/-- The loop of `rpc_session_take_resume`. -/
def takeResumeFrom (sessionId : UInt64) (token : ResumeToken)
    (lastReceivedSequence nowMs : UInt64) :
    List (Fin resumeSlotCount) → ResumeSlots → Option PoisonSession × ResumeSlots
  | [], slots => (none, slots)
  | index :: rest, slots =>
    match slots index with
    | none => takeResumeFrom sessionId token lastReceivedSequence nowMs rest slots
    | some slot =>
      if slot.session.sessionId == sessionId then
        let (resumed, left) := resumeTake crypto slot sessionId token lastReceivedSequence nowMs
        let slots := Function.update slots index left
        match resumed with
        | some session => (some session, slots)
        | none => takeResumeFrom sessionId token lastReceivedSequence nowMs rest slots
      else if nowMs ≥ slot.expiresAtMs then
        takeResumeFrom sessionId token lastReceivedSequence nowMs rest
          (Function.update slots index none)
      else takeResumeFrom sessionId token lastReceivedSequence nowMs rest slots

/-- `rpc_session_take_resume`. -/
def takeResume (slots : ResumeSlots) (sessionId : UInt64) (token : ResumeToken)
    (lastReceivedSequence nowMs : UInt64) : Option PoisonSession × ResumeSlots :=
  takeResumeFrom crypto sessionId token lastReceivedSequence nowMs (List.finRange _) slots

/-- `rpc_session_revoke_resume`. -/
def revokeResume (slots : ResumeSlots) (sessionId : UInt64) : ResumeSlots := fun index =>
  match slots index with
  | some slot => if slot.session.sessionId == sessionId then none else some slot
  | none => none

/-- Slots are only ever cleared on the way from the first table to the second. -/
def SlotsCleared (slots next : ResumeSlots) : Prop :=
  ∀ index, next index = slots index ∨ next index = none

variable (slots : ResumeSlots)

theorem SlotsCleared.refl : SlotsCleared slots slots := fun _ => .inl rfl

theorem SlotsCleared.trans {slots middle next : ResumeSlots} (first : SlotsCleared slots middle)
    (second : SlotsCleared middle next) : SlotsCleared slots next := by
  intro index
  obtain same | cleared := second index
  · rw [same]
    exact first index
  · exact .inr cleared

theorem slotsCleared_clear (index : Fin resumeSlotCount) :
    SlotsCleared slots (Function.update slots index none) := by
  intro other
  by_cases same : other = index
  · rw [same, Function.update_self]
    exact .inr rfl
  · rw [Function.update_of_ne same]
    exact .inl rfl

theorem revokeResume_cleared (sessionId : UInt64) :
    SlotsCleared slots (revokeResume slots sessionId) := by
  intro index
  unfold revokeResume
  cases slots index with
  | none => exact .inl rfl
  | some slot =>
    dsimp only
    split
    · exact .inr rfl
    · exact .inl rfl

/-- A stored slot holds the live session it was stored from. -/
structure Stored (session : PoisonSession) (slot : ResumeSlot) : Prop where
  copied : slot.session = session
  live : session.state = .active
  keyed : session.directionalKeysSet = true

theorem resumeStore_stored {session : PoisonSession} {token : ResumeToken} {nowMs ttlMs : UInt64}
    {slot : ResumeSlot} (stored : resumeStore crypto session token nowMs ttlMs = some slot) :
    Stored session slot := by
  unfold resumeStore at stored
  split at stored
  · cases stored
  · rename_i guarded
    simp only [Bool.or_eq_true, not_or, Bool.not_eq_true, bne_eq_false_iff_eq,
      Bool.not_eq_false'] at guarded
    obtain ⟨tokenDigest, -, rfl⟩ := Option.map_eq_some_iff.mp stored
    exact ⟨rfl, guarded.1.1.1.1.1, guarded.1.1.1.1.2⟩

/-- A session that ends is put in one slot, or nowhere. -/
theorem storeResume_cases (session : PoisonSession) (token : ResumeToken) (nowMs : UInt64) :
    storeResume crypto slots session token nowMs = (false, slots) ∨
      ∃ index slot, storeResume crypto slots session token nowMs =
        (true, Function.update slots index (some slot)) ∧ Stored session slot := by
  unfold storeResume
  split
  · rename_i index slot selected stored
    exact .inr ⟨index, slot, rfl, resumeStore_stored crypto stored⟩
  · exact .inl rfl

/-- What holds of a session that was taken out of its slot. -/
structure Taken (slots next : ResumeSlots) (sessionId : UInt64) (token : ResumeToken)
    (nowMs : UInt64) (session : PoisonSession) (index : Fin resumeSlotCount)
    (slot : ResumeSlot) : Prop where
  stored : slots index = some slot
  copied : slot.session = session
  freed : next index = none
  cleared : SlotsCleared slots next
  live : session.state = .active
  keyed : session.directionalKeysSet = true
  identified : session.sessionId = sessionId
  unexpired : nowMs < slot.expiresAtMs
  authorized : crypto.sha256 token.bytes = some slot.tokenDigest

/-- A slot hands its session out, or keeps or drops what it holds. -/
theorem resumeTake_cases (slot : ResumeSlot) (sessionId : UInt64) (token : ResumeToken)
    (lastReceivedSequence nowMs : UInt64) :
    (∃ left, resumeTake crypto slot sessionId token lastReceivedSequence nowMs = (none, left) ∧
      (left = some slot ∨ left = none)) ∨
    (resumeTake crypto slot sessionId token lastReceivedSequence nowMs =
      (some slot.session, none) ∧ slot.session.state = .active ∧
      slot.session.directionalKeysSet = true ∧ slot.session.sessionId = sessionId ∧
      nowMs < slot.expiresAtMs ∧ crypto.sha256 token.bytes = some slot.tokenDigest) := by
  unfold resumeTake
  split
  · exact .inl ⟨_, rfl, .inr rfl⟩
  · rename_i unexpired
    split
    · exact .inl ⟨_, rfl, .inl rfl⟩
    · rename_i guarded
      simp only [Bool.or_eq_true, not_or, Bool.not_eq_true, bne_eq_false_iff_eq,
        Bool.not_eq_false'] at guarded
      split
      · exact .inl ⟨_, rfl, .inl rfl⟩
      · split
        · exact .inl ⟨_, rfl, .inl rfl⟩
        · rename_i authorized
          simp only [bne_iff_ne, ne_eq, Decidable.not_not] at authorized
          exact .inr ⟨rfl, guarded.1.2, guarded.2, guarded.1.1.2,
            UInt64.not_le.mp unexpired, authorized⟩

/-- A session that is taken out leaves its slot; otherwise slots are at most
cleared. -/
theorem takeResumeFrom_cases (sessionId : UInt64) (token : ResumeToken)
    (lastReceivedSequence nowMs : UInt64) (indexes : List (Fin resumeSlotCount))
    (slots : ResumeSlots) :
    (∃ next, takeResumeFrom crypto sessionId token lastReceivedSequence nowMs indexes slots =
      (none, next) ∧ SlotsCleared slots next) ∨
    (∃ session next index slot,
      takeResumeFrom crypto sessionId token lastReceivedSequence nowMs indexes slots =
        (some session, next) ∧
      Taken crypto slots next sessionId token nowMs session index slot) := by
  induction indexes generalizing slots with
  | nil => exact .inl ⟨slots, rfl, .refl slots⟩
  | cons index rest ih =>
    have onward (middle : ResumeSlots) (cleared : SlotsCleared slots middle) :
        (∃ next, takeResumeFrom crypto sessionId token lastReceivedSequence nowMs rest middle =
          (none, next) ∧ SlotsCleared slots next) ∨
        (∃ session next index slot,
          takeResumeFrom crypto sessionId token lastReceivedSequence nowMs rest middle =
            (some session, next) ∧
          Taken crypto slots next sessionId token nowMs session index slot) := by
      obtain ⟨next, nothing, further⟩ | ⟨session, next, place, slot, something, taken⟩ :=
        ih middle
      · exact .inl ⟨next, nothing, cleared.trans further⟩
      · refine .inr ⟨session, next, place, slot, something, ?_⟩
        have kept : slots place = some slot := by
          obtain same | gone := cleared place
          · rw [← same]
            exact taken.stored
          · rw [taken.stored] at gone
            cases gone
        exact { taken with stored := kept, cleared := cleared.trans taken.cleared }
    unfold takeResumeFrom
    cases stored : slots index with
    | none => exact onward slots (.refl slots)
    | some slot =>
      dsimp only
      split
      · obtain ⟨left, refused, kept⟩ | ⟨handed, live, keyed, identified, unexpired, authorized⟩ :=
          resumeTake_cases crypto slot sessionId token lastReceivedSequence nowMs
        · rw [refused]
          obtain rfl | rfl := kept
          · dsimp only
            rw [← stored, Function.update_eq_self]
            exact onward slots (.refl slots)
          · exact onward _ (slotsCleared_clear slots index)
        · rw [handed]
          exact .inr ⟨slot.session, _, index, slot, rfl, stored, rfl,
            Function.update_self index none slots, slotsCleared_clear slots index, live, keyed,
            identified, unexpired, authorized⟩
      · split
        · exact onward _ (slotsCleared_clear slots index)
        · exact onward slots (.refl slots)

theorem takeResume_cases (sessionId : UInt64) (token : ResumeToken)
    (lastReceivedSequence nowMs : UInt64) :
    (∃ next, takeResume crypto slots sessionId token lastReceivedSequence nowMs = (none, next) ∧
      SlotsCleared slots next) ∨
    (∃ session next index slot,
      takeResume crypto slots sessionId token lastReceivedSequence nowMs = (some session, next) ∧
      Taken crypto slots next sessionId token nowMs session index slot) :=
  takeResumeFrom_cases crypto sessionId token lastReceivedSequence nowMs _ slots

end Slots

end PoisonedOS
