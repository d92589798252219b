import PoisonedOS.Pairing.Store

/-!
# What the slots of the pairing store hold

A table that the store operations make from the empty one repeats no key and may
be saved, and what is saved of it decodes to its clients: the table without its
session counts. Conversely whatever decodes is such a table.
-/

namespace PoisonedOS

namespace PairingStore

/-- The table as a slot holds it: without session counts. -/
def clients (store : PairingStore) : PairingStore :=
  { store with records := fun index =>
      (store.records index).map fun record => { record with activeSessions := 0 } }

/-- Keys are not repeated and every record may be saved. -/
structure Sound (store : PairingStore) : Prop where
  distinct : SlotTable.Distinct PairingRecord.keyDigest store.records
  storable : ∀ index record, store.records index = some record →
    record.storable store.generation = true

theorem init_sound : Sound .init := by
  constructor
  · intro first second left right storedLeft
    cases storedLeft
  · intro index record stored
    cases stored

variable {store : PairingStore} {index : Fin pairingMaxClients} {record : PairingRecord}

theorem clients_record (stored : store.clients.records index = some record) :
    ∃ other, store.records index = some other ∧ record = { other with activeSessions := 0 } := by
  obtain ⟨other, isOther, same⟩ := Option.map_eq_some_iff.mp stored
  exact ⟨other, isOther, same.symm⟩

/-- Soundness is about the clients. -/
theorem clients_sound_iff : store.clients.Sound ↔ store.Sound := by
  have lift : ∀ index record, store.records index = some record →
      store.clients.records index = some { record with activeSessions := 0 } := by
    intro index record stored
    change (store.records index).map _ = _
    rw [stored, Option.map_some]
  constructor
  · intro sound
    constructor
    · intro first second left right storedLeft storedRight same
      exact sound.distinct first second _ _ (lift first left storedLeft)
        (lift second right storedRight) same
    · intro index record stored
      exact sound.storable index { record with activeSessions := 0 } (lift index record stored)
  · intro sound
    constructor
    · intro first second left right storedLeft storedRight same
      obtain ⟨left, isLeft, rfl⟩ := clients_record storedLeft
      obtain ⟨right, isRight, rfl⟩ := clients_record storedRight
      exact sound.distinct first second left right isLeft isRight same
    · intro index record stored
      obtain ⟨record, isRecord, rfl⟩ := clients_record stored
      exact sound.storable index record isRecord

/-- Only the empty table has no clients and generation zero. -/
theorem clients_eq_init : store.clients = .init ↔ store = .init := by
  constructor
  · intro empty
    obtain ⟨records, generation⟩ := store
    rw [clients, init, mk.injEq] at empty
    rw [init, mk.injEq]
    refine ⟨funext fun index => ?_, empty.2⟩
    exact Option.map_eq_none_iff.mp (congrFun empty.1 index)
  · rintro rfl
    rfl

/-- Counting sessions keeps the clients. -/
theorem setSessions_clients (store : PairingStore) (keyDigest : Digest)
    (change : UInt32 → UInt32) : (store.setSessions keyDigest change).clients = store.clients := by
  unfold setSessions
  split
  · rfl
  · rename_i index found
    rw [clients, clients, mk.injEq]
    refine ⟨funext fun other => ?_, rfl⟩
    dsimp only
    by_cases here : other = index
    · subst here
      rw [Function.update_self, Option.map_map]
      rfl
    · rw [Function.update_of_ne here]

/-- A later generation keeps a record storable. -/
theorem storable_later {earlier later : UInt32} (storable : record.storable earlier = true)
    (upTo : earlier ≤ later) :
    record.storable later = true := by
  simp only [PairingRecord.storable, Bool.and_eq_true, decide_eq_true_eq] at storable ⊢
  exact ⟨storable.1, UInt32.le_trans storable.2 upTo⟩

variable {generation : UInt32}

/-- The generation after one that is not the last. -/
theorem next_generation (notLast : generation ≠ 0xFFFFFFFF) :
    (generation + 1).toNat = generation.toNat + 1 := by
  have : generation.toNat ≠ 4294967295 := fun same => notLast (UInt32.toNat_inj.mp same)
  have := generation.toNat_lt
  rw [UInt32.toNat_add]
  simp only [UInt32.toNat_one]
  omega

theorem le_next_generation (notLast : generation ≠ 0xFFFFFFFF) :
    generation ≤ generation + 1 := by
  rw [UInt32.le_iff_toNat_le, next_generation notLast]
  omega

theorem next_generation_pos (notLast : generation ≠ 0xFFFFFFFF) :
    generation + 1 ≠ 0 := by
  intro isZero
  have next := next_generation notLast
  rw [isZero] at next
  exact Nat.succ_ne_zero _ next.symm

variable {clientName : CString}

/-- What an accepted addition does. -/
theorem add_some {next : PairingStore} {keyDigest : Digest} {role : Role}
    (added : store.add keyDigest clientName role = some (next, index)) :
    store.generation ≠ 0xFFFFFFFF ∧ store.records index = none ∧
      ∃ record : PairingRecord, record.storable (store.generation + 1) = true ∧
        SlotTable.lookup PairingRecord.keyDigest store.records record.keyDigest = none ∧
        next = ⟨SlotTable.place store.records index record, store.generation + 1⟩ := by
  unfold add at added
  split at added
  · cases added
  · rename_i valid
    simp only [Bool.or_eq_true, not_or, beq_iff_eq, Bool.not_eq_true', Bool.not_eq_false] at valid
    obtain ⟨⟨notLast, keyValid⟩, nameValid⟩ := valid
    split at added
    · cases added
    · rename_i absent
      rw [find, keyValid, Bool.not_true, if_neg Bool.false_ne_true,
        Option.not_isSome_iff_eq_none] at absent
      split at added
      · cases added
      · rename_i slot free
        cases added
        have vacant := (Fin.find?_eq_some_iff.mp free).1
        rw [Option.isNone_iff_eq_none] at vacant
        refine ⟨notLast, vacant, ⟨keyDigest, clientName, role, store.generation + 1, 0⟩, ?_, absent,
          rfl⟩
        simp only [PairingRecord.storable, keyValid, nameValid, Bool.true_and, Bool.and_eq_true,
          bne_iff_ne, decide_eq_true_eq]
        exact ⟨next_generation_pos notLast, UInt32.le_refl _⟩

theorem Sound.add {next : PairingStore} (sound : Sound store) {keyDigest : Digest} {role : Role}
    (added : store.add keyDigest clientName role = some (next, index)) : Sound next := by
  obtain ⟨notLast, -, record, storable, absent, rfl⟩ := add_some added
  refine ⟨SlotTable.distinct_fresh sound.distinct absent index, fun other stored isStored => ?_⟩
  by_cases here : other = index
  · subst here
    simp only [SlotTable.place, Function.update_self, Option.some.injEq] at isStored
    exact isStored ▸ storable
  · simp only [SlotTable.place, Function.update_of_ne here] at isStored
    exact storable_later (sound.storable other stored isStored) (le_next_generation notLast)

/-- What an accepted revocation does. -/
theorem revoke_some {next : PairingStore} (revoked : store.revoke index = some next) :
    store.generation ≠ 0xFFFFFFFF ∧ (∃ record, store.records index = some record) ∧
      next = { records := Function.update store.records index none
               generation := store.generation + 1 } := by
  unfold revoke at revoked
  split at revoked
  · cases revoked
  · rename_i notLast
    split at revoked
    · cases revoked
    · rename_i present
      cases revoked
      rw [Option.isNone_iff_eq_none, ← ne_eq, Option.ne_none_iff_exists'] at present
      exact ⟨by simpa using notLast, present, rfl⟩

theorem Sound.revoke {next : PairingStore} (sound : Sound store)
    (revoked : store.revoke index = some next) : Sound next := by
  obtain ⟨notLast, -, rfl⟩ := revoke_some revoked
  have kept : ∀ other record, Function.update store.records index none other = some record →
      store.records other = some record := by
    intro other record stored
    by_cases here : other = index
    · subst here
      rw [Function.update_self] at stored
      cases stored
    · rwa [Function.update_of_ne here] at stored
  constructor
  · intro first second left right storedLeft storedRight
    exact sound.distinct first second left right (kept first left storedLeft)
      (kept second right storedRight)
  · intro other record stored
    exact storable_later (sound.storable other record (kept other record stored))
      (le_next_generation notLast)

/-- Revoking in turn keeps a store sound and advances the generation by the number of
clients revoked. Where nothing is revoked nothing changes. -/
theorem revoke_rounds (indices : List (Fin pairingMaxClients)) (store : PairingStore)
    (before : Nat) (sound : Sound store) :
    let after := indices.foldl revokeNext (store, before)
    Sound after.1 ∧ before ≤ after.2 ∧
      after.1.generation.toNat = store.generation.toNat + (after.2 - before) ∧
      (after.2 = before → after.1 = store) := by
  induction indices generalizing store before with
  | nil => exact ⟨sound, Nat.le_refl _, by simp, fun _ => rfl⟩
  | cons index rest ih =>
    rw [List.foldl_cons]
    cases revoked : store.revoke index with
    | none =>
      have kept : revokeNext (store, before) index = (store, before) := by
        rw [revokeNext, revoked]
      rw [kept]
      exact ih store before sound
    | some next =>
      have stepped : revokeNext (store, before) index = (next, before + 1) := by
        rw [revokeNext, revoked]
      rw [stepped]
      obtain ⟨soundAfter, more, advanced, -⟩ :=
        ih next (before + 1) (sound.revoke revoked)
      obtain ⟨notLast, -, rfl⟩ := revoke_some revoked
      rw [next_generation notLast] at advanced
      exact ⟨soundAfter, by omega, by omega, fun same => by omega⟩

theorem Sound.revokeAll (sound : Sound store) : Sound store.revokeAll.1 :=
  (revoke_rounds _ store 0 sound).1

/-- Revoking all clients advances the generation by their number. -/
theorem revokeAll_generation (sound : Sound store) :
    store.revokeAll.1.generation.toNat = store.generation.toNat + store.revokeAll.2 := by
  have rounds := (revoke_rounds (List.finRange pairingMaxClients) store 0 sound).2.2.1
  rw [Nat.sub_zero] at rounds
  rw [revokeAll]
  exact rounds

theorem revokeAll_nothing (sound : Sound store) (nothing : store.revokeAll.2 = 0) :
    store.revokeAll.1 = store := by
  have rounds := (revoke_rounds (List.finRange pairingMaxClients) store 0 sound).2.2.2
  rw [revokeAll] at nothing ⊢
  exact rounds nothing

end PairingStore

/-- The name buffer holds a name that fits. -/
theorem pairingNameBuffer_read {clientName : CString}
    (fits : clientName.length ≤ pairingNameMax) :
    CString.ofBytes (pairingNameBuffer clientName).bytes = clientName := by
  have shape : (pairingNameBuffer clientName).bytes =
      clientName.bytes ++ 0 :: List.replicate (pairingNameMax - clientName.length) 0 := by
    rw [CString.length] at fits ⊢
    change (clientName.bytes ++ List.replicate (pairingNameMax + 1) 0).take (pairingNameMax + 1) = _
    rw [← List.replicate_succ, List.take_append, List.take_of_length_le (by omega),
      List.take_replicate]
    congr 2
    omega
  rw [shape, CString.ofBytes_terminated]

theorem PairingRecord.read_toDisk {record : PairingRecord} {generation : UInt32}
    (storable : record.storable generation = true) :
    record.toDisk.read generation = some (some { record with activeSessions := 0 }) := by
  simp only [PairingRecord.storable, Bool.and_eq_true, bne_iff_ne, decide_eq_true_eq] at storable
  obtain ⟨⟨⟨keyValid, nameValid⟩, positive⟩, upTo⟩ := storable
  have fits : record.clientName.length ≤ pairingNameMax := by
    simp only [pairingNameValid, Bool.and_eq_true, decide_eq_true_eq] at nameValid
    exact nameValid.2
  have named := pairingNameBuffer_read fits
  have notLater : ¬ generation < record.generation := UInt32.not_lt.mpr upTo
  simp [PairingDiskRecord.read, toDisk, named, keyValid, nameValid, positive, notLater]

section Storage

variable {authenticate : PairingDiskBody → Digest}

theorem PairingStore.Sound.read_records {store : PairingStore} (sound : store.Sound)
    (index : Fin pairingMaxClients) :
    (store.diskBody.records index).read store.generation = some (store.clients.records index) := by
  rw [diskBody, clients]
  dsimp only
  cases stored : store.records index with
  | none => rfl
  | some record => exact PairingRecord.read_toDisk (sound.storable index record stored)

/-- No record of a sound store repeats a key. -/
theorem PairingStore.Sound.unrepeated {store : PairingStore} (sound : store.Sound)
    (index : Fin pairingMaxClients) : store.diskBody.unrepeated index = true := by
  rw [PairingDiskBody.unrepeated, Bool.or_eq_true, List.all_eq_true]
  cases stored : store.records index with
  | none => exact .inl (by simp [diskBody, stored, pairingDiskRecord, PairingDiskRecord.zero])
  | some record =>
    refine .inr fun previous _ => ?_
    cases storedBefore : store.records previous with
    | none => simp [diskBody, storedBefore, pairingDiskRecord, PairingDiskRecord.zero]
    | some other =>
      by_cases same : other.keyDigest = record.keyDigest
      · rw [sound.distinct previous index other record storedBefore stored same]
        simp
      · simp [diskBody, stored, storedBefore, pairingDiskRecord, PairingRecord.toDisk, same]

variable (authenticate) in
theorem PairingStore.Sound.decode_encode {store : PairingStore} (sound : store.Sound) :
    ∃ state, store.diskEncode authenticate = some state ∧
      state.diskDecode authenticate = some store.clients := by
  have storable : ((List.finRange pairingMaxClients).all fun index =>
      (store.records index).all (·.storable store.generation)) = true := by
    rw [List.all_eq_true]
    intro index _
    cases stored : store.records index with
    | none => rfl
    | some record => exact sound.storable index record stored
  refine ⟨{ store.diskBody with digest := authenticate store.diskBody }, ?_, ?_⟩
  · rw [diskEncode, if_pos storable]
  · have readable : ((List.finRange pairingMaxClients).all fun index =>
        ((store.diskBody.records index).read store.generation).isSome &&
          store.diskBody.unrepeated index) = true := by
      rw [List.all_eq_true]
      intro index _
      rw [sound.read_records index, sound.unrepeated index]
      rfl
    have sameBody : ({ store.diskBody with
        digest := authenticate store.diskBody } : PairingDiskState).toPairingDiskBody =
        store.diskBody := rfl
    have sameRecords : (fun index =>
        ((store.diskBody.records index).read store.generation).join) = store.clients.records := by
      funext index
      rw [sound.read_records index, Option.join_some]
    have sameGeneration : store.diskBody.generation = store.generation := rfl
    unfold PairingDiskState.diskDecode
    rw [sameBody, if_neg (by simp [diskBody]), if_neg (by simp), sameGeneration, if_pos readable,
      sameRecords]
    rfl

/-- A record that is read may be saved, and has no sessions. -/
theorem PairingDiskRecord.read_some {disk : PairingDiskRecord} {generation : UInt32}
    {record : PairingRecord} (isRead : disk.read generation = some (some record)) :
    record.storable generation = true ∧ record.activeSessions = 0 ∧
      disk.active ≠ 0 ∧ record.keyDigest = disk.keyDigest := by
  unfold PairingDiskRecord.read at isRead
  split at isRead
  · cases isRead
  · rename_i active
    split at isRead
    · cases isRead
    · dsimp only at isRead
      split at isRead
      · cases isRead
      · rename_i valid
        cases isRead
        simp only [Bool.or_eq_true, not_or, Bool.not_eq_true', Bool.not_eq_false, beq_iff_eq,
          decide_eq_true_eq] at valid
        obtain ⟨⟨⟨⟨-, keyValid⟩, nameValid⟩, positive⟩, upTo⟩ := valid
        refine ⟨?_, rfl, by simpa using active, rfl⟩
        simp only [PairingRecord.storable, keyValid, nameValid, Bool.true_and, Bool.and_eq_true,
          bne_iff_ne, decide_eq_true_eq]
        exact ⟨positive, UInt32.not_lt.mp upTo⟩

/-- Two active records with one key are one record. -/
theorem PairingDiskBody.unrepeated_lt {body : PairingDiskBody} {previous index : Fin pairingMaxClients}
    (unrepeated : body.unrepeated index = true) (before : previous < index)
    (activeBefore : (body.records previous).active ≠ 0) (active : (body.records index).active ≠ 0) :
    (body.records previous).keyDigest ≠ (body.records index).keyDigest := by
  rw [PairingDiskBody.unrepeated, Bool.or_eq_true, beq_iff_eq, List.all_eq_true] at unrepeated
  have here := (unrepeated.resolve_left active) previous (List.mem_finRange previous)
  simpa [before, activeBefore] using here

/-- What decodes is a sound table without sessions. -/
theorem diskDecode_sound {state : PairingDiskState} {store : PairingStore}
    (decoded : state.diskDecode authenticate = some store) :
    store.Sound ∧ store.clients = store := by
  unfold PairingDiskState.diskDecode at decoded
  split at decoded
  · cases decoded
  split at decoded
  · cases decoded
  split at decoded
  · rename_i readable
    cases decoded
    rw [List.all_eq_true] at readable
    have isRead : ∀ index record,
        ((state.records index).read state.generation).join = some record →
        (state.records index).read state.generation = some (some record) := by
      intro index record joined
      cases read : (state.records index).read state.generation with
      | none => rw [read] at joined; cases joined
      | some stored => rw [read] at joined; rw [← joined]; rfl
    refine ⟨⟨?_, ?_⟩, ?_⟩
    · intro first second left right storedLeft storedRight same
      obtain ⟨-, -, activeLeft, keyLeft⟩ := PairingDiskRecord.read_some (isRead _ _ storedLeft)
      obtain ⟨-, -, activeRight, keyRight⟩ := PairingDiskRecord.read_some (isRead _ _ storedRight)
      have sameKey : (state.records first).keyDigest = (state.records second).keyDigest :=
        keyLeft.symm.trans (same.trans keyRight)
      have unrepeated : ∀ index, state.unrepeated index = true := fun index =>
        (Bool.and_eq_true_iff.mp (readable index (List.mem_finRange index))).2
      rcases lt_trichotomy first second with before | same | after
      · exact absurd sameKey
          (PairingDiskBody.unrepeated_lt (unrepeated second) before activeLeft activeRight)
      · exact same
      · exact absurd sameKey.symm
          (PairingDiskBody.unrepeated_lt (unrepeated first) after activeRight activeLeft)
    · intro index record stored
      exact (PairingDiskRecord.read_some (isRead index record stored)).1
    · rw [PairingStore.clients, PairingStore.mk.injEq]
      refine ⟨funext fun index => ?_, rfl⟩
      dsimp only
      cases stored : ((state.records index).read state.generation).join with
      | none => rfl
      | some record =>
        have idle := (PairingDiskRecord.read_some (isRead index record stored)).2.1
        rw [Option.map_some, ← idle]
  · cases decoded

theorem pairingSlot_zero : pairingSlot 0 = 0 := rfl

theorem pairingSlot_one : pairingSlot 1 = 1 := rfl

/-- The generation of a stored table. -/
abbrev storedGeneration (store : PairingStore) : Nat := store.generation.toNat

variable {slots : PairingSlots}

/-- What a slot decodes to is a sound table without sessions. -/
theorem decodeSlots_sound {slot : Fin 2} {store : PairingStore}
    (decoded : decodeSlots authenticate slots slot = some store) :
    store.Sound ∧ store.clients = store := by
  obtain ⟨file, -, decoded⟩ := Option.bind_eq_some_iff.mp decoded
  cases file with
  | whole state => exact diskDecode_sound decoded
  | fragment bytes => cases decoded

/-- A loaded table is sound and has no sessions. -/
theorem pairingLoad_sound {store : PairingStore}
    (loaded : pairingLoad authenticate slots = some store) :
    store.Sound ∧ store.clients = store := by
  obtain ⟨⟨slot, decoded⟩, -⟩ := TwoSlots.newest_some loaded
  exact decodeSlots_sound decoded

/-- Replacing a file replaces what its slot decodes to. -/
theorem decodeSlots_update (slots : PairingSlots) (slot : Fin 2) (file : PairingFile) :
    decodeSlots authenticate (Function.update slots slot (some file)) =
      Function.update (decodeSlots authenticate slots) slot (file.decode authenticate) := by
  funext other
  by_cases here : other = slot
  · subst here
    simp [decodeSlots]
  · simp [decodeSlots, here]

/-- Without slot files nothing decodes. -/
theorem decodeSlots_absent (absent : pairingSlotExists slots = false) (slot : Fin 2) :
    decodeSlots authenticate slots slot = none := by
  rw [pairingSlotExists, List.any_eq_false] at absent
  have here := absent slot (List.mem_finRange slot)
  rw [Option.not_isSome_iff_eq_none] at here
  rw [decodeSlots, here, Option.bind_none]

variable (authenticate) in
/-- What the registry would start with: an empty table where there are no files, the
newest that loads where there are, if any. -/
def recorded (slots : PairingSlots) : Option PairingStore :=
  if pairingSlotExists slots then pairingLoad authenticate slots else some .init

theorem recorded_of_load {store : PairingStore}
    (loaded : pairingLoad authenticate slots = some store) :
    recorded authenticate slots = some store := by
  rw [recorded]
  cases present : pairingSlotExists slots with
  | true => exact loaded
  | false =>
    obtain ⟨⟨slot, decoded⟩, -⟩ := TwoSlots.newest_some loaded
    rw [decodeSlots_absent present] at decoded
    cases decoded

/-- A slot with a file is there. -/
theorem slotExists_update (slots : PairingSlots) (slot : Fin 2) (file : PairingFile) :
    pairingSlotExists (Function.update slots slot (some file)) = true := by
  rw [pairingSlotExists, List.any_eq_true]
  exact ⟨slot, List.mem_finRange slot, by rw [Function.update_self]; rfl⟩

end Storage

end PoisonedOS
