import PoisonedOS.Library.Runs
import PoisonedOS.Session.Resume

/-!
# Resuming a session

The slots are written by three calls: a session that ends is stored, a client takes a session
out, and a session that is revoked is removed. Along every run of these calls an occupied slot
holds a live session with its keys, put there by an earlier store, so whether a client gets its
session back depends on nothing but the time, the session's number, the token and the number
of messages the client has received.

A token is drawn anew whenever one is given out, and a slot is emptied when its session is
taken. What is proved of the second use of a token is therefore about tokens that were stored
once.
-/

namespace PoisonedOS

/-- A call on the slots of the RPC service, with the time it is made at. -/
inductive ResumeCall where
  | store (session : PoisonSession) (token : ResumeToken) (nowMs : UInt64)
  | take (sessionId : UInt64) (token : ResumeToken) (lastReceivedSequence nowMs : UInt64)
  | revoke (sessionId : UInt64)

/-- The number of messages a client has received whose last one has a sequence number; the
last number of all stands for no message yet. -/
def messagesReceived (lastReceivedSequence : UInt64) : Nat :=
  if lastReceivedSequence = lastSequence then 0 else lastReceivedSequence.toNat + 1

/-- The client has received everything the session sent exactly when the session's next
number is the number of messages received. -/
theorem receivedAll_iff (session : PoisonSession) (lastReceivedSequence : UInt64) :
    receivedAll session lastReceivedSequence = true ↔
      session.nextTxSequence.toNat = messagesReceived lastReceivedSequence := by
  have next : (lastReceivedSequence + 1 = session.nextTxSequence) ↔
      session.nextTxSequence.toNat = (lastReceivedSequence.toNat + 1) % 2 ^ 64 := by
    rw [← UInt64.toNat_inj, UInt64.toNat_add, eq_comm]
    rfl
  have bound := lastReceivedSequence.toNat_lt
  have none_sent : session.nextTxSequence = 0 ↔ session.nextTxSequence.toNat = 0 :=
    UInt64.toNat_inj.symm
  have last : lastReceivedSequence = lastSequence ↔
      lastReceivedSequence.toNat = 0xFFFFFFFFFFFFFFFF := UInt64.toNat_inj.symm
  unfold receivedAll messagesReceived
  simp only [Bool.or_eq_true, Bool.and_eq_true, beq_iff_eq, bne_iff_ne, ne_eq, next, none_sent]
  by_cases empty : lastReceivedSequence = lastSequence
  · simp [empty]
  · have different := mt last.mpr empty
    have short : (lastReceivedSequence.toNat + 1) % 2 ^ 64 = lastReceivedSequence.toNat + 1 := by
      omega
    simp only [short, empty, and_false, not_false_eq_true, true_and, false_or, if_false]

section Calls

variable (crypto : SessionCrypto)

/-- The slots after a call. -/
def ResumeCall.apply : ResumeCall → ResumeSlots → ResumeSlots
  | .store session token nowMs, slots => (storeResume crypto slots session token nowMs).2
  | .take sessionId token lastReceivedSequence nowMs, slots =>
    (takeResume crypto slots sessionId token lastReceivedSequence nowMs).2
  | .revoke sessionId, slots => revokeResume slots sessionId

/-- The slots after the first calls of a run from the empty table. -/
def resumeSlotsAt (calls : List ResumeCall) (index : Nat) : ResumeSlots :=
  Runs.reached (ResumeCall.apply crypto) (fun _ => none) calls index

def ResumeCall.Stores (call : ResumeCall) (slot : ResumeSlot) : Prop :=
  ∃ session token nowMs, call = .store session token nowMs ∧
    resumeStore crypto session token nowMs resumeTtlMs = some slot

def ResumeCall.StoresToken (call : ResumeCall) (tokenDigest : Digest) : Prop :=
  ∃ session token nowMs, call = .store session token nowMs ∧
    crypto.sha256 token.bytes = some tokenDigest

def ResumeCall.TakesOut (call : ResumeCall) (slots : ResumeSlots) (tokenDigest : Digest) : Prop :=
  ∃ sessionId token lastReceivedSequence nowMs,
    call = .take sessionId token lastReceivedSequence nowMs ∧
    crypto.sha256 token.bytes = some tokenDigest ∧
    (takeResume crypto slots sessionId token lastReceivedSequence nowMs).1.isSome = true

/-- A slot answers a request: it has not expired, and the session's number, the token and the
messages received are those of the request. -/
structure ResumeSlot.Answers (slot : ResumeSlot) (sessionId : UInt64) (token : ResumeToken)
    (lastReceivedSequence nowMs : UInt64) : Prop where
  unexpired : nowMs < slot.expiresAtMs
  identified : slot.session.sessionId = sessionId
  authorized : crypto.sha256 token.bytes = some slot.tokenDigest
  received : slot.session.nextTxSequence.toNat = messagesReceived lastReceivedSequence

/-- What every occupied slot holds: a live session with its keys and a number. -/
structure ResumeSlot.Resumable (slot : ResumeSlot) : Prop where
  live : slot.session.state = .active
  keyed : slot.session.directionalKeysSet = true
  numbered : slot.session.sessionId ≠ 0

/-- Every slot that has not expired holds what it held. -/
def UnexpiredKept (nowMs : UInt64) (slots next : ResumeSlots) : Prop :=
  ∀ index slot, slots index = some slot → nowMs < slot.expiresAtMs → next index = some slot

variable {slots : ResumeSlots}

theorem UnexpiredKept.trans {nowMs : UInt64} {middle next : ResumeSlots}
    (first : UnexpiredKept nowMs slots middle) (second : UnexpiredKept nowMs middle next) :
    UnexpiredKept nowMs slots next := by
  intro index slot stored unexpired
  exact second index slot (first index slot stored unexpired) unexpired

/-- Clearing an expired slot keeps the others. -/
theorem unexpiredKept_clear {nowMs : UInt64} {index : Fin resumeSlotCount} {slot : ResumeSlot}
    (stored : slots index = some slot) (expired : nowMs ≥ slot.expiresAtMs) :
    UnexpiredKept nowMs slots (Function.update slots index none) := by
  intro other held storedOther unexpired
  have apart : other ≠ index := by
    rintro rfl
    rw [stored] at storedOther
    cases storedOther
    exact UInt64.not_lt.mpr expired unexpired
  rw [Function.update_of_ne apart, storedOther]

/-- A slot gives its session to the request it answers; otherwise it is cleared if it has
expired, and kept if not. -/
theorem resumeTake_eq {slot : ResumeSlot} (resumable : slot.Resumable) {sessionId : UInt64}
    (identified : slot.session.sessionId = sessionId) (token : ResumeToken)
    (lastReceivedSequence nowMs : UInt64) :
    (slot.Answers crypto sessionId token lastReceivedSequence nowMs ∧
      resumeTake crypto slot sessionId token lastReceivedSequence nowMs =
        (some slot.session, none)) ∨
    (¬ slot.Answers crypto sessionId token lastReceivedSequence nowMs ∧
      ((nowMs ≥ slot.expiresAtMs ∧
        resumeTake crypto slot sessionId token lastReceivedSequence nowMs = (none, none)) ∨
      resumeTake crypto slot sessionId token lastReceivedSequence nowMs = (none, some slot))) := by
  subst identified
  unfold resumeTake
  by_cases expired : nowMs ≥ slot.expiresAtMs
  · rw [if_pos expired]
    exact .inr ⟨fun answers => UInt64.not_lt.mpr expired answers.unexpired, .inl ⟨expired, rfl⟩⟩
  · rw [if_neg expired, if_neg (by
      simp [resumable.live, resumable.keyed, resumable.numbered])]
    by_cases received : receivedAll slot.session lastReceivedSequence = true
    · rw [if_neg (by simp [received])]
      by_cases authorized : crypto.sha256 token.bytes = some slot.tokenDigest
      · rw [if_neg (by simp [authorized])]
        exact .inl ⟨⟨UInt64.not_le.mp expired, rfl, authorized,
          (receivedAll_iff _ _).mp received⟩, rfl⟩
      · rw [if_pos (by simpa using authorized)]
        exact .inr ⟨fun answers => authorized answers.authorized, .inr rfl⟩
    · rw [if_pos (by simpa using received)]
      exact .inr ⟨fun answers => received ((receivedAll_iff _ _).mpr answers.received), .inr rfl⟩

/-- What a request does to the slots it looks at: the first that answers is emptied and its
session handed out, or none answers and every slot that has not expired is kept. -/
structure ResumeHanded (slots next : ResumeSlots) (sessionId : UInt64) (token : ResumeToken)
    (lastReceivedSequence nowMs : UInt64) (indexes : List (Fin resumeSlotCount))
    (session : PoisonSession) (index : Fin resumeSlotCount) (slot : ResumeSlot) : Prop where
  looked : index ∈ indexes
  stored : slots index = some slot
  answers : slot.Answers crypto sessionId token lastReceivedSequence nowMs
  copied : slot.session = session
  emptied : next index = none

/-- What a request leaves when no slot answers it. -/
structure ResumeRefused (slots next : ResumeSlots) (sessionId : UInt64) (token : ResumeToken)
    (lastReceivedSequence nowMs : UInt64) (indexes : List (Fin resumeSlotCount)) : Prop where
  unanswered : ∀ index ∈ indexes, ∀ slot, slots index = some slot →
    ¬ slot.Answers crypto sessionId token lastReceivedSequence nowMs
  kept : UnexpiredKept nowMs slots next

variable {crypto} {sessionId : UInt64} {token : ResumeToken} {lastReceivedSequence nowMs : UInt64}

/-- A request that goes on after slots were cleared that had expired. -/
theorem ResumeHanded.earlier {middle next : ResumeSlots} {index place : Fin resumeSlotCount}
    {rest : List (Fin resumeSlotCount)} {session : PoisonSession} {slot : ResumeSlot}
    (cleared : SlotsCleared slots middle)
    (handed : ResumeHanded crypto middle next sessionId token lastReceivedSequence nowMs rest
      session place slot) :
    ResumeHanded crypto slots next sessionId token lastReceivedSequence nowMs (index :: rest)
      session place slot where
  looked := List.mem_cons_of_mem _ handed.looked
  stored := by
    obtain same | gone := cleared place
    · rw [← same]
      exact handed.stored
    · rw [handed.stored] at gone
      cases gone
  answers := handed.answers
  copied := handed.copied
  emptied := handed.emptied

theorem ResumeRefused.earlier {middle next : ResumeSlots} {index : Fin resumeSlotCount}
    {rest : List (Fin resumeSlotCount)} (kept : UnexpiredKept nowMs slots middle)
    (passed : ∀ slot, slots index = some slot →
      ¬ slot.Answers crypto sessionId token lastReceivedSequence nowMs)
    (refused : ResumeRefused crypto middle next sessionId token lastReceivedSequence nowMs rest) :
    ResumeRefused crypto slots next sessionId token lastReceivedSequence nowMs (index :: rest) where
  unanswered := by
    intro other looked slot stored answers
    obtain rfl | later := List.mem_cons.mp looked
    · exact passed slot stored answers
    · exact refused.unanswered other later slot (kept other slot stored answers.unexpired) answers
  kept := kept.trans refused.kept

variable (crypto sessionId token lastReceivedSequence nowMs)

/-- The loop of a request, from any slots that hold resumable sessions. -/
theorem takeResumeFrom_spec (indexes : List (Fin resumeSlotCount))
    (resumable : ∀ index slot, slots index = some slot → slot.Resumable) :
    (∃ session next index slot,
      takeResumeFrom crypto sessionId token lastReceivedSequence nowMs indexes slots =
        (some session, next) ∧
      ResumeHanded crypto slots next sessionId token lastReceivedSequence nowMs indexes session
        index slot) ∨
    (∃ next, takeResumeFrom crypto sessionId token lastReceivedSequence nowMs indexes slots =
        (none, next) ∧
      ResumeRefused crypto slots next sessionId token lastReceivedSequence nowMs indexes) := by
  induction indexes generalizing slots with
  | nil =>
    refine .inr ⟨slots, rfl, ?_, fun _ _ stored _ => stored⟩
    intro index looked
    cases looked
  | cons index rest ih =>
    have onward {middle : ResumeSlots} (cleared : SlotsCleared slots middle)
        (kept : UnexpiredKept nowMs slots middle)
        (passed : ∀ slot, slots index = some slot →
          ¬ slot.Answers crypto sessionId token lastReceivedSequence nowMs) :
        (∃ session next place slot,
          takeResumeFrom crypto sessionId token lastReceivedSequence nowMs rest middle =
            (some session, next) ∧
          ResumeHanded crypto slots next sessionId token lastReceivedSequence nowMs (index :: rest)
            session place slot) ∨
        (∃ next, takeResumeFrom crypto sessionId token lastReceivedSequence nowMs rest middle =
            (none, next) ∧
          ResumeRefused crypto slots next sessionId token lastReceivedSequence nowMs
            (index :: rest)) := by
      have resumableMiddle : ∀ place slot, middle place = some slot → slot.Resumable := by
        intro place slot stored
        obtain same | gone := cleared place
        · exact resumable place slot (same ▸ stored)
        · rw [stored] at gone
          cases gone
      obtain ⟨session, next, place, slot, something, handed⟩ | ⟨next, nothing, refused⟩ :=
        ih resumableMiddle
      · exact .inl ⟨session, next, place, slot, something, handed.earlier cleared⟩
      · exact .inr ⟨next, nothing, refused.earlier kept passed⟩
    unfold takeResumeFrom
    cases stored : slots index with
    | none =>
      refine onward (.refl slots) (fun _ _ held _ => held) ?_
      intro slot held
      rw [stored] at held
      cases held
    | some slot =>
      have this_slot {motive : ResumeSlot → Prop} (holds : motive slot) :
          ∀ held, slots index = some held → motive held := by
        intro held storedHere
        rw [stored] at storedHere
        cases storedHere
        exact holds
      dsimp only
      by_cases identified : slot.session.sessionId = sessionId
      · rw [if_pos (beq_iff_eq.mpr identified)]
        obtain ⟨answers, handed⟩ | ⟨unanswered, ⟨expired, dropped⟩ | left⟩ :=
          resumeTake_eq crypto (resumable index slot stored) identified token
            lastReceivedSequence nowMs
        · rw [handed]
          exact .inl ⟨slot.session, _, index, slot, rfl, List.mem_cons_self, stored, answers,
            rfl, Function.update_self index none slots⟩
        · rw [dropped]
          exact onward (slotsCleared_clear slots index) (unexpiredKept_clear stored expired)
            (this_slot unanswered)
        · rw [left]
          dsimp only
          rw [← stored, Function.update_eq_self]
          exact onward (.refl slots) (fun _ _ held _ => held) (this_slot unanswered)
      · rw [if_neg (fun same => identified (beq_iff_eq.mp same))]
        have unanswered : ¬ slot.Answers crypto sessionId token lastReceivedSequence nowMs :=
          fun answers => identified answers.identified
        split
        · rename_i expired
          exact onward (slotsCleared_clear slots index) (unexpiredKept_clear stored expired)
            (this_slot unanswered)
        · exact onward (.refl slots) (fun _ _ held _ => held) (this_slot unanswered)

end Calls

section Runs

variable (crypto : SessionCrypto)

variable {slot : ResumeSlot}

/-- A stored slot is resumable. -/
theorem resumeStore_resumable {session : PoisonSession} {token : ResumeToken} {nowMs ttlMs : UInt64}
    (stored : resumeStore crypto session token nowMs ttlMs = some slot) :
    slot.Resumable ∧ crypto.sha256 token.bytes = some slot.tokenDigest ∧
      slot.session = session := by
  unfold resumeStore at stored
  split at stored
  · cases stored
  · rename_i guarded
    simp only [Bool.or_eq_true, not_or, Bool.not_eq_true, bne_eq_false_iff_eq,
      Bool.not_eq_false', beq_eq_false_iff_ne] at guarded
    obtain ⟨tokenDigest, hashed, rfl⟩ := Option.map_eq_some_iff.mp stored
    exact ⟨⟨guarded.1.1.1.1.1, guarded.1.1.1.1.2, guarded.1.1.1.2⟩, hashed, rfl⟩

variable {index : Fin resumeSlotCount}

theorem ResumeCall.apply_slot (call : ResumeCall) (slots : ResumeSlots)
    (held : call.apply crypto slots index = some slot) :
    slots index = some slot ∨ (call.Stores crypto slot ∧
      ∀ other, other ≠ index → call.apply crypto slots other = slots other) := by
  have cleared {next : ResumeSlots} (cleared : SlotsCleared slots next)
      (held : next index = some slot) : slots index = some slot := by
    obtain same | gone := cleared index
    · rw [← same, held]
    · rw [held] at gone
      cases gone
  cases call with
  | store session token nowMs =>
    simp only [ResumeCall.apply, storeResume] at held ⊢
    split at held
    · rename_i place stored selected storing
      dsimp only at held
      by_cases here : index = place
      · subst here
        rw [Function.update_self] at held
        cases held
        refine .inr ⟨⟨session, token, nowMs, rfl, storing⟩, ?_⟩
        intro other apart
        exact Function.update_of_ne apart _ slots
      · rw [Function.update_of_ne here] at held
        exact .inl held
    · exact .inl held
  | take sessionId token lastReceivedSequence nowMs =>
    simp only [ResumeCall.apply] at held
    obtain ⟨next, taken, clear⟩ | ⟨session, next, place, other, taken, handed⟩ :=
      takeResume_cases crypto slots sessionId token lastReceivedSequence nowMs
    · rw [taken] at held
      exact .inl (cleared clear held)
    · rw [taken] at held
      exact .inl (cleared handed.cleared held)
  | revoke sessionId => exact .inl (cleared (revokeResume_cleared slots sessionId) held)

/-- What a slot holds along a run was put there by an earlier call of the run. -/
theorem resumeSlotsAt_stored (calls : List ResumeCall) (index : Nat) :
    ∀ place slot, resumeSlotsAt crypto calls index place = some slot →
      ∃ earlier call, earlier < index ∧ calls[earlier]? = some call ∧ call.Stores crypto slot := by
  refine Runs.along (motive := fun index (slots : ResumeSlots) => ∀ place slot,
    slots place = some slot → ∃ earlier call, earlier < index ∧ calls[earlier]? = some call ∧
      call.Stores crypto slot) ?_ ?_ ?_ index
  · intro place slot held
    cases held
  · intro index call taken before place slot held
    obtain kept | ⟨stores, -⟩ := call.apply_slot crypto _ held
    · obtain ⟨earlier, other, sooner, called, stores⟩ := before place slot kept
      exact ⟨earlier, other, Nat.lt_succ_of_lt sooner, called, stores⟩
    · exact ⟨index, call, Nat.lt_succ_self index, taken, stores⟩
  · intro index ended before place slot held
    obtain ⟨earlier, other, sooner, called, stores⟩ := before place slot held
    exact ⟨earlier, other, Nat.lt_succ_of_lt sooner, called, stores⟩

/-- Along a run every occupied slot is resumable. -/
theorem resumeSlotsAt_resumable (calls : List ResumeCall) (index : Nat) :
    ∀ place slot, resumeSlotsAt crypto calls index place = some slot → slot.Resumable := by
  intro place slot held
  obtain ⟨-, call, -, -, session, token, nowMs, -, stored⟩ :=
    resumeSlotsAt_stored crypto calls index place slot held
  exact (resumeStore_resumable crypto stored).1

variable {call : ResumeCall}

theorem ResumeCall.Stores.storesToken (stores : call.Stores crypto slot) :
    call.StoresToken crypto slot.tokenDigest := by
  obtain ⟨session, token, nowMs, same, stored⟩ := stores
  exact ⟨session, token, nowMs, same, (resumeStore_resumable crypto stored).2.1⟩

theorem resumeSlotsAt_token {calls : List ResumeCall} {index : Nat} {place : Fin resumeSlotCount}
    (held : resumeSlotsAt crypto calls index place = some slot) :
    ∃ earlier call, earlier < index ∧ calls[earlier]? = some call ∧
      call.StoresToken crypto slot.tokenDigest := by
  obtain ⟨earlier, call, sooner, called, stores⟩ :=
    resumeSlotsAt_stored crypto calls index place slot held
  exact ⟨earlier, call, sooner, called, stores.storesToken crypto⟩

/-- A token is one-time in a run: at most one of its calls stores a session under the
token's digest. -/
def StoredOnce (calls : List ResumeCall) (tokenDigest : Digest) : Prop :=
  ∀ (first second : Nat) (left right : ResumeCall), calls[first]? = some left →
    calls[second]? = some right → left.StoresToken crypto tokenDigest →
    right.StoresToken crypto tokenDigest → first = second

/-- No slot holds a digest. -/
def TokenAbsent (slots : ResumeSlots) (tokenDigest : Digest) : Prop :=
  ∀ place slot, slots place = some slot → slot.tokenDigest ≠ tokenDigest

variable {calls : List ResumeCall} {tokenDigest : Digest}

/-- Before the call that stores a one-time token no slot holds it. -/
theorem storedOnce_absent (once : StoredOnce crypto calls tokenDigest) {index : Nat}
    (taken : calls[index]? = some call) (stores : call.StoresToken crypto tokenDigest) :
    TokenAbsent (resumeSlotsAt crypto calls index) tokenDigest := by
  rintro place slot held rfl
  obtain ⟨earlier, other, sooner, called, stored⟩ := resumeSlotsAt_token crypto held
  have := once earlier index other call called taken stored stores
  omega

/-- A token that is one-time is in one slot at most. -/
theorem storedOnce_slot (once : StoredOnce crypto calls tokenDigest) (index : Nat) :
    ∀ first second left right, resumeSlotsAt crypto calls index first = some left →
      resumeSlotsAt crypto calls index second = some right → left.tokenDigest = tokenDigest →
      right.tokenDigest = tokenDigest → first = second := by
  refine Runs.always (motive := fun (slots : ResumeSlots) => ∀ first second left right,
    slots first = some left → slots second = some right → left.tokenDigest = tokenDigest →
    right.tokenDigest = tokenDigest → first = second) ?_ ?_ index
  · intro first second left right held
    cases held
  · intro index call taken before first second left right heldLeft heldRight isLeft isRight
    have absent {slot : ResumeSlot} (stores : call.Stores crypto slot)
        (same : slot.tokenDigest = tokenDigest) :
        TokenAbsent (resumeSlotsAt crypto calls index) tokenDigest :=
      storedOnce_absent crypto once taken (same ▸ stores.storesToken crypto)
    obtain keptLeft | ⟨stores, alone⟩ := call.apply_slot crypto _ heldLeft
    · obtain keptRight | ⟨stores, -⟩ := call.apply_slot crypto _ heldRight
      · exact before first second left right keptLeft keptRight isLeft isRight
      · exact absurd isLeft (absent stores isRight first left keptLeft)
    · by_cases apart : second = first
      · exact apart.symm
      · rw [alone second apart] at heldRight
        exact absurd isRight (absent stores isLeft second right heldRight)

/-- The call that takes a session out by a one-time token leaves no slot with the token, which
an earlier call stored. -/
theorem takesOut_absent (once : StoredOnce crypto calls tokenDigest) {index : Nat}
    (called : calls[index]? = some call)
    (takes : call.TakesOut crypto (resumeSlotsAt crypto calls index) tokenDigest) :
    TokenAbsent (resumeSlotsAt crypto calls (index + 1)) tokenDigest ∧
      ∃ earlier store, earlier < index ∧ calls[earlier]? = some store ∧
        store.StoresToken crypto tokenDigest := by
  obtain ⟨sessionId, token, lastReceivedSequence, nowMs, rfl, hashed, succeeded⟩ := takes
  obtain ⟨session, next, place, slot, taken, handed⟩ | ⟨next, taken, -⟩ :=
    takeResumeFrom_spec crypto sessionId token lastReceivedSequence nowMs (List.finRange _)
      (resumeSlotsAt_resumable crypto calls index)
  · have same : slot.tokenDigest = tokenDigest :=
      Option.some.inj (handed.answers.authorized.symm.trans hashed)
    refine ⟨?_, same ▸ resumeSlotsAt_token crypto handed.stored⟩
    have after : resumeSlotsAt crypto calls (index + 1) = next := by
      rw [resumeSlotsAt, Runs.reached_succ called]
      exact congrArg Prod.snd taken
    intro other held heldAfter isHeld
    have kept : resumeSlotsAt crypto calls index other = some held := by
      obtain before | ⟨⟨_, _, _, wrong, _⟩, -⟩ := ResumeCall.apply_slot crypto _ _
        ((congrFun (Runs.reached_succ called) other).symm.trans heldAfter)
      · exact before
      · cases wrong
    have here := storedOnce_slot crypto once index other place held slot kept handed.stored
      isHeld same
    rw [after, here, handed.emptied] at heldAfter
    cases heldAfter
  · have none_taken : takeResume crypto (resumeSlotsAt crypto calls index) sessionId token
        lastReceivedSequence nowMs = (none, next) := taken
    rw [none_taken] at succeeded
    cases succeeded

/-- A one-time token that has been stored and is in no slot stays out of the slots. -/
theorem TokenAbsent.onward (once : StoredOnce crypto calls tokenDigest) {earlier index : Nat}
    {store : ResumeCall} (sooner : earlier < index) (stored : calls[earlier]? = some store)
    (stores : store.StoresToken crypto tokenDigest)
    (absent : TokenAbsent (resumeSlotsAt crypto calls index) tokenDigest) (gap : Nat) :
    TokenAbsent (resumeSlotsAt crypto calls (index + gap)) tokenDigest := by
  refine Runs.onward (motive := fun slots => TokenAbsent slots tokenDigest) (Nat.le_add_right ..)
    absent ?_
  rintro later call order taken before place slot held rfl
  obtain kept | ⟨again, -⟩ := call.apply_slot crypto _ held
  · exact before place slot kept rfl
  · have := once earlier later store call stored taken stores (again.storesToken crypto)
    omega

/-- A one-time token takes one session out of the slots at most. -/
theorem takesOut_once (once : StoredOnce crypto calls tokenDigest) {first second : Nat}
    {left right : ResumeCall} (later : first < second) (calledLeft : calls[first]? = some left)
    (takesLeft : left.TakesOut crypto (resumeSlotsAt crypto calls first) tokenDigest) :
    ¬ right.TakesOut crypto (resumeSlotsAt crypto calls second) tokenDigest := by
  obtain ⟨absent, earlier, store, sooner, stored, stores⟩ :=
    takesOut_absent crypto once calledLeft takesLeft
  obtain ⟨gap, rfl⟩ := Nat.exists_eq_add_of_lt later
  have gone := absent.onward crypto once (Nat.lt_add_right 1 sooner) stored stores gap
  rintro ⟨sessionId, token, lastReceivedSequence, nowMs, rfl, hashed, succeeded⟩
  rw [Nat.add_right_comm] at gone
  obtain ⟨session, next, place, slot, taken, handed⟩ | ⟨next, taken, -⟩ :=
    takeResumeFrom_spec crypto sessionId token lastReceivedSequence nowMs (List.finRange _)
      (resumeSlotsAt_resumable crypto calls (first + gap + 1))
  · exact gone place slot handed.stored
      (Option.some.inj (handed.answers.authorized.symm.trans hashed))
  · have none_taken : takeResume crypto (resumeSlotsAt crypto calls (first + gap + 1)) sessionId
        token lastReceivedSequence nowMs = (none, next) := taken
    rw [none_taken] at succeeded
    cases succeeded

/-- The slot that is selected, when it holds another session that has not expired, was
selected because no slot before it was free, expired or the session's own. -/
theorem selectResumeSlot_full (slots : ResumeSlots) (sessionId nowMs : UInt64)
    (indexes : List (Fin resumeSlotCount)) (selected : Option (Fin resumeSlotCount))
    (oldestExpiry : UInt64)
    (chosen : selectResumeSlot slots sessionId nowMs indexes selected oldestExpiry = some index)
    (stored : slots index = some slot) (unexpired : nowMs < slot.expiresAtMs)
    (foreign : slot.session.sessionId ≠ sessionId) :
    ∀ other ∈ indexes, ∃ held, slots other = some held ∧ nowMs < held.expiresAtMs := by
  induction indexes generalizing selected oldestExpiry with
  | nil =>
    intro other member
    cases member
  | cons place rest ih =>
    unfold selectResumeSlot at chosen
    cases storedPlace : slots place with
    | none =>
      rw [storedPlace] at chosen
      cases chosen
      rw [stored] at storedPlace
      cases storedPlace
    | some occupied =>
      rw [storedPlace] at chosen
      dsimp only at chosen
      split at chosen
      · rename_i own
        cases chosen
        rw [stored] at storedPlace
        cases storedPlace
        exact absurd (beq_iff_eq.mp own) foreign
      · split at chosen
        · rename_i expired
          cases chosen
          rw [stored] at storedPlace
          cases storedPlace
          exact absurd unexpired (UInt64.not_lt.mpr expired)
        · rename_i lasting
          have later : ∀ other ∈ rest, ∃ held, slots other = some held ∧
              nowMs < held.expiresAtMs := by
            split at chosen
            · exact ih _ _ chosen
            · exact ih _ _ chosen
          intro other member
          obtain rfl | member := List.mem_cons.mp member
          · exact ⟨occupied, storedPlace, UInt64.not_le.mp lasting⟩
          · exact later other member

/-- A store that changes a slot with another session that has not expired finds every slot
occupied by a session that has not expired. -/
theorem storeResume_evicts (slots : ResumeSlots) (session : PoisonSession) (token : ResumeToken)
    (nowMs : UInt64) (stored : slots index = some slot) (unexpired : nowMs < slot.expiresAtMs)
    (foreign : slot.session.sessionId ≠ session.sessionId)
    (evicted : (storeResume crypto slots session token nowMs).2 index ≠ some slot)
    (other : Fin resumeSlotCount) :
    ∃ held, slots other = some held ∧ nowMs < held.expiresAtMs := by
  unfold storeResume at evicted
  split at evicted
  · rename_i place content selected storing
    have here : index = place := by
      by_contra apart
      exact evicted ((Function.update_of_ne apart _ slots).trans stored)
    subst here
    exact selectResumeSlot_full slots session.sessionId nowMs _ none lastSequence selected stored
      unexpired foreign other (List.mem_finRange other)
  · exact absurd stored evicted

/-- Along every run of stores, takes and revocations from the empty table: a request takes a
session out exactly when a slot answers it; the session is the one that was stored there, and
the slot is emptied; a request that fails keeps every slot that has not expired; a store puts
out another session that has not expired only where every slot is occupied by one; and a
one-time token takes one session out at most.

Proof: an occupied slot is what an earlier call stored, so it is live, and the loop of a
request meets each slot with the exact condition; a one-time token is in one slot at most and
no later call brings it back. -/
theorem resume_laws (calls : List ResumeCall) :
    (∀ index sessionId token lastReceivedSequence nowMs,
      ((takeResume crypto (resumeSlotsAt crypto calls index) sessionId token
          lastReceivedSequence nowMs).1.isSome = true ↔
        ∃ place slot, resumeSlotsAt crypto calls index place = some slot ∧
          slot.Answers crypto sessionId token lastReceivedSequence nowMs) ∧
      (∀ session next, takeResume crypto (resumeSlotsAt crypto calls index) sessionId token
          lastReceivedSequence nowMs = (some session, next) →
        ∃ place slot, resumeSlotsAt crypto calls index place = some slot ∧
          slot.Answers crypto sessionId token lastReceivedSequence nowMs ∧
          next place = none ∧
          ∃ earlier storedToken storedAt, earlier < index ∧
            calls[earlier]? = some (.store session storedToken storedAt) ∧
            resumeStore crypto session storedToken storedAt resumeTtlMs = some slot) ∧
      (∀ next, takeResume crypto (resumeSlotsAt crypto calls index) sessionId token
          lastReceivedSequence nowMs = (none, next) →
        UnexpiredKept nowMs (resumeSlotsAt crypto calls index) next)) ∧
    (∀ index session token nowMs place slot,
      resumeSlotsAt crypto calls index place = some slot → nowMs < slot.expiresAtMs →
      slot.session.sessionId ≠ session.sessionId →
      (storeResume crypto (resumeSlotsAt crypto calls index) session token nowMs).2 place ≠
        some slot →
      ∀ other, ∃ held, resumeSlotsAt crypto calls index other = some held ∧
        nowMs < held.expiresAtMs) ∧
    (∀ tokenDigest, StoredOnce crypto calls tokenDigest →
      ∀ (first second : Nat) (left right : ResumeCall), first < second → calls[first]? = some left →
        calls[second]? = some right →
        left.TakesOut crypto (resumeSlotsAt crypto calls first) tokenDigest →
        ¬ right.TakesOut crypto (resumeSlotsAt crypto calls second) tokenDigest) := by
  refine ⟨?_, ?_, ?_⟩
  · intro index sessionId token lastReceivedSequence nowMs
    obtain ⟨session, next, place, slot, taken, handed⟩ | ⟨next, refusedTake, refused⟩ :=
      takeResumeFrom_spec crypto sessionId token lastReceivedSequence nowMs (List.finRange _)
        (resumeSlotsAt_resumable crypto calls index)
    · have taken : takeResume crypto (resumeSlotsAt crypto calls index) sessionId token
          lastReceivedSequence nowMs = (some session, next) := taken
      rw [taken]
      refine ⟨⟨fun _ => ⟨place, slot, handed.stored, handed.answers⟩, fun _ => rfl⟩, ?_, ?_⟩
      · rintro other after same
        cases same
        obtain ⟨earlier, call, sooner, called, storing, storedToken, storedAt, rfl, stored⟩ :=
          resumeSlotsAt_stored crypto calls index place slot handed.stored
        obtain rfl : storing = session :=
          (resumeStore_resumable crypto stored).2.2.symm.trans handed.copied
        exact ⟨place, slot, handed.stored, handed.answers, handed.emptied, earlier, storedToken,
          storedAt, sooner, called, stored⟩
      · intro after same
        cases same
    · have refusedTake : takeResume crypto (resumeSlotsAt crypto calls index) sessionId token
          lastReceivedSequence nowMs = (none, next) := refusedTake
      rw [refusedTake]
      refine ⟨⟨(fun succeeded => by cases succeeded), ?_⟩, ?_, ?_⟩
      · rintro ⟨place, slot, stored, answers⟩
        exact absurd answers
          (refused.unanswered place (List.mem_finRange place) slot stored)
      · intro other after same
        cases same
      · intro after same
        cases same
        exact refused.kept
  · intro index session token nowMs place slot stored unexpired foreign evicted
    exact storeResume_evicts crypto _ session token nowMs stored unexpired foreign evicted
  · intro tokenDigest once first second left right later calledLeft calledRight takes
    exact takesOut_once crypto once later calledLeft takes

end Runs

end PoisonedOS
