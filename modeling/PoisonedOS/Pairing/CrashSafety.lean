import PoisonedOS.Library.Runs
import PoisonedOS.Library.Sha256
import PoisonedOS.Pairing.Slots

/-!
# Crash safety of the pairing store

A save that dies half way costs the slot it writes. Saves alternate between the
slots as long as generations advance by one, so the slot that is lost is the
older one. Revoking an even number of clients at once, and the first change of a
store that was never saved or was just recovered, write the slot that holds the
newest state instead.

A device that dies powers up with an empty registry and loads again. Along every
run the registry in memory and the newest slot hold the same clients.
-/

namespace PoisonedOS

open TwoSlots

section Storage

variable {authenticate : PairingDiskBody → Digest}

namespace PairingDevice

variable (authenticate) in
/-- The registry has what a load would find, or is still or again empty: there are no
files, or a recovery wrote an empty table of generation one. -/
def Current (device : PairingDevice) : Prop :=
  pairingLoad authenticate device.slots = some device.registry.store.clients ∨
    (device.registry.store = .init ∧ (pairingSlotExists device.slots = false ∨
      (decodeSlots authenticate device.slots (pairingSlot 0) = none ∧
        decodeSlots authenticate device.slots (pairingSlot 1) =
          some { PairingStore.init with generation := 1 })))

variable (authenticate) in
/-- The invariant: slots hold tables of their own parity, and a ready registry is
sound and current. -/
structure InStep (device : PairingDevice) : Prop where
  homed : TwoSlots.Homed storedGeneration (decodeSlots authenticate device.slots)
  positive : ∀ slot store, decodeSlots authenticate device.slots slot = some store →
    store.generation ≠ 0
  ready : device.registry.ready = true → device.registry.attempted = true ∧
    device.registry.store.Sound ∧ device.Current authenticate

end PairingDevice

namespace PairingDevice

variable {device : PairingDevice}

/-- A device that was never paired is in step. -/
theorem init_inStep : init.InStep authenticate where
  homed := fun _ _ stored => by cases stored
  positive := fun _ _ stored => by cases stored
  ready := fun isReady => by cases isReady

theorem InStep.powerUp (inStep : device.InStep authenticate)
    {slots : PairingSlots} (same : slots = device.slots) :
    InStep authenticate ⟨poweredUp, slots⟩ where
  homed := same ▸ inStep.homed
  positive := same ▸ inStep.positive
  ready := fun isReady => by cases isReady

theorem registryInit_slots : (device.registryInit authenticate).slots = device.slots := by
  unfold registryInit
  split
  · rfl
  · split
    · split <;> rfl
    · rfl

/-- Loading the registry keeps a device in step. -/
theorem InStep.registryInit (inStep : device.InStep authenticate) :
    (device.registryInit authenticate).InStep authenticate := by
  refine ⟨by rw [registryInit_slots]; exact inStep.homed,
    by rw [registryInit_slots]; exact inStep.positive, ?_⟩
  unfold PairingDevice.registryInit
  split
  · exact inStep.ready
  · split
    · split
      · intro isReady
        cases isReady
      · rename_i store loaded
        intro _
        obtain ⟨sound, clients⟩ := pairingLoad_sound loaded
        refine ⟨rfl, sound, .inl ?_⟩
        dsimp only
        rw [clients]
        exact loaded
    · rename_i absent
      intro _
      exact ⟨rfl, PairingStore.init_sound, .inr ⟨rfl, .inl (Bool.not_eq_true _ ▸ absent)⟩⟩

variable (authenticate) in
/-- What a save must bring: a sound table, newer than what the other slot holds, that
the registry then keeps, or the empty table of a recovery. -/
structure Fits (device : PairingDevice) (saved kept : PairingStore) : Prop where
  attempted : device.registry.attempted = true
  sound : saved.Sound
  positive : saved.generation ≠ 0
  later : ∀ slot stored, slot ≠ TwoSlots.home storedGeneration saved →
    decodeSlots authenticate device.slots slot = some stored →
    stored.generation.toNat < saved.generation.toNat
  kept : kept = saved ∨ (kept = .init ∧ saved = { PairingStore.init with generation := 1 } ∧
    decodeSlots authenticate device.slots (pairingSlot 0) = none)

/-- The slots after a complete save. -/
theorem Fits.written {saved kept : PairingStore}
    (fits : device.Fits authenticate saved kept) :
    ∃ slots, saved.save authenticate device.slots .complete = (.returned true, slots) ∧
      decodeSlots authenticate slots = Function.update (decodeSlots authenticate device.slots)
        (home storedGeneration saved.clients) (some saved.clients) ∧
      pairingLoad authenticate slots = some saved.clients ∧ pairingSlotExists slots = true := by
  obtain ⟨state, encoded, decoded⟩ := fits.sound.decode_encode authenticate
  have written : decodeSlots authenticate (Function.update device.slots
      (pairingSlot saved.generation) (some (.whole state))) =
      Function.update (decodeSlots authenticate device.slots)
        (home storedGeneration saved.clients) (some saved.clients) := by
    rw [decodeSlots_update, PairingFile.decode, decoded]
    rfl
  refine ⟨_, by rw [PairingStore.save, encoded], written, ?_, slotExists_update _ _ _⟩
  rw [pairingLoad, written]
  exact newest_write fits.later

variable (authenticate) in
/-- What a device that dies in a save may leave: the slot as it was, what a complete
save leaves, or a file that does not authenticate. -/
def Torn (device : PairingDevice) (saved : PairingStore) (image : Option PairingFile) : Prop :=
  (saved.save authenticate device.slots (.crash image)).2 = device.slots ∨
    (saved.save authenticate device.slots (.crash image)).2 =
      (saved.save authenticate device.slots .complete).2 ∨
    ∀ file, image = some file → file.decode authenticate = none

/-- The slots after a save the device died in. -/
theorem Fits.torn {saved kept : PairingStore} (fits : device.Fits authenticate saved kept)
    {image : Option PairingFile} (torn : device.Torn authenticate saved image) :
    ∃ slots, saved.save authenticate device.slots (.crash image) = (.died, slots) ∧
      (slots = device.slots ∨ slots = (saved.save authenticate device.slots .complete).2 ∨
        (pairingSlotExists slots = true ∧ decodeSlots authenticate slots =
          Function.update (decodeSlots authenticate device.slots)
            (home storedGeneration saved) none)) := by
  obtain ⟨state, encoded, -⟩ := fits.sound.decode_encode authenticate
  rw [Torn, PairingStore.save, encoded] at torn
  rw [PairingStore.save, encoded]
  dsimp only at torn ⊢
  cases image with
  | none => exact ⟨_, rfl, .inl rfl⟩
  | some file =>
    refine ⟨_, rfl, ?_⟩
    rcases torn with same | complete | unreadable
    · exact .inl same
    · exact .inr (.inl complete)
    · refine .inr (.inr ⟨slotExists_update _ _ _, ?_⟩)
      rw [decodeSlots_update, unreadable file rfl]
      rfl

/-- A save keeps a device in step. -/
theorem InStep.commit (inStep : device.InStep authenticate) {saved kept : PairingStore}
    (fits : device.Fits authenticate saved kept) {outcome : WriteOutcome}
    (torn : ∀ image, outcome = .crash image → device.Torn authenticate saved image) :
    (device.commit authenticate saved kept outcome).2.InStep authenticate := by
  unfold PairingDevice.commit
  obtain ⟨state, encoded, -⟩ := fits.sound.decode_encode authenticate
  obtain ⟨slots, complete, written, loaded, present⟩ := fits.written
  have homed : Homed storedGeneration (decodeSlots authenticate slots) := by
    rw [written]
    exact inStep.homed.write saved.clients
  have positive : ∀ slot store, decodeSlots authenticate slots slot = some store →
      store.generation ≠ 0 := by
    intro slot store stored
    rw [written] at stored
    by_cases here : slot = home storedGeneration saved.clients
    · subst here
      rw [Function.update_self, Option.some.injEq] at stored
      exact stored ▸ fits.positive
    · rw [Function.update_of_ne here] at stored
      exact inStep.positive slot store stored
  cases outcome with
  | complete =>
    rw [complete]
    refine ⟨homed, positive, fun _ => ⟨fits.attempted, ?_⟩⟩
    rcases fits.kept with rfl | ⟨rfl, rfl, absent⟩
    · exact ⟨fits.sound, .inl loaded⟩
    · refine ⟨PairingStore.init_sound, .inr ⟨rfl, .inr ⟨?_, ?_⟩⟩⟩
      · change decodeSlots authenticate slots (pairingSlot 0) = none
        rw [written]
        exact absent
      · change decodeSlots authenticate slots (pairingSlot 1) = _
        rw [written]
        rfl
  | refused =>
    rw [PairingStore.save, encoded]
    exact inStep
  | crash image =>
    obtain ⟨crashed, died, isCrashed⟩ := fits.torn (torn image rfl)
    rw [died]
    rcases isCrashed with same | isComplete | ⟨-, erased⟩
    · exact inStep.powerUp same
    · rw [complete] at isComplete
      exact ⟨isComplete ▸ homed, isComplete ▸ positive, fun isReady => by cases isReady⟩
    · refine ⟨?_, fun slot store stored => ?_, fun isReady => by cases isReady⟩
      · rw [erased]
        exact inStep.homed.erase _
      · rw [erased] at stored
        by_cases here : slot = home storedGeneration saved
        · subst here
          rw [Function.update_self] at stored
          cases stored
        · rw [Function.update_of_ne here] at stored
          exact inStep.positive slot store stored

end PairingDevice

/-- The operations of the registry that save. -/
inductive PairingOperation where
  | add (keyDigest : Digest) (clientName : CString) (role : Role)
  | revoke (index : Fin pairingMaxClients)
  | revokeAll
  | recoverCorrupt

namespace PairingOperation

variable (authenticate) in
def run (operation : PairingOperation) (device : PairingDevice) (outcome : WriteOutcome) :
    CallEnd × PairingDevice :=
  match operation with
  | .add keyDigest clientName role =>
    device.registryAdd authenticate keyDigest clientName role outcome
  | .revoke index => device.registryRevoke authenticate index outcome
  | .revokeAll => device.registryRevokeAll authenticate outcome
  | .recoverCorrupt => device.registryRecoverCorrupt authenticate outcome

variable (authenticate) in
/-- The device the operation finds: all but the recovery load the registry first. -/
def start (operation : PairingOperation) (device : PairingDevice) : PairingDevice :=
  match operation with
  | .recoverCorrupt => device
  | _ => device.registryInit authenticate

variable (authenticate) in
/-- The table the operation saves and the one the registry then keeps. -/
def changes (operation : PairingOperation) (device : PairingDevice) :
    Option (PairingStore × PairingStore) :=
  match operation with
  | .add keyDigest clientName role =>
    if device.registry.ready then
      (device.registry.store.add keyDigest clientName role).map fun added => (added.1, added.1)
    else none
  | .revoke index =>
    if device.registry.ready then
      (device.registry.store.revoke index).map fun next => (next, next)
    else none
  | .revokeAll =>
    if device.registry.ready && device.registry.store.revokeAll.2 != 0 then
      some (device.registry.store.revokeAll.1, device.registry.store.revokeAll.1)
    else none
  | .recoverCorrupt =>
    if device.registry.attempted && !device.registry.ready && pairingSlotExists device.slots &&
        (pairingLoad authenticate device.slots).isNone then
      some ({ PairingStore.init with generation := 1 }, .init)
    else none

variable {operation : PairingOperation} {device : PairingDevice}

variable (operation device) in
theorem start_slots : (operation.start authenticate device).slots = device.slots := by
  cases operation with
  | recoverCorrupt => rfl
  | _ => exact PairingDevice.registryInit_slots

variable (operation) in
theorem start_inStep (inStep : device.InStep authenticate) :
    (operation.start authenticate device).InStep authenticate := by
  cases operation with
  | recoverCorrupt => exact inStep
  | _ => exact inStep.registryInit

theorem run_eq (inStep : device.InStep authenticate) (outcome : WriteOutcome) :
    operation.run authenticate device outcome =
      match operation.changes authenticate (operation.start authenticate device) with
      | none => (.returned false, operation.start authenticate device)
      | some (saved, kept) =>
        (operation.start authenticate device).commit authenticate saved kept outcome := by
  have started := start_inStep operation inStep
  generalize isStarted : operation.start authenticate device = found at started
  cases operation with
  | add keyDigest clientName role =>
    have loads : device.registryInit authenticate = found := isStarted
    simp only [run, PairingDevice.registryAdd, changes, loads]
    cases found.registry.ready with
    | false => rfl
    | true => cases found.registry.store.add keyDigest clientName role <;> rfl
  | revoke index =>
    have loads : device.registryInit authenticate = found := isStarted
    simp only [run, PairingDevice.registryRevoke, changes, loads]
    cases found.registry.ready with
    | false => rfl
    | true => cases found.registry.store.revoke index <;> rfl
  | revokeAll =>
    have loads : device.registryInit authenticate = found := isStarted
    simp only [run, PairingDevice.registryRevokeAll, changes, loads]
    obtain ⟨⟨store, attempted, ready⟩, slots⟩ := found
    cases ready with
    | false => rfl
    | true =>
      have kept := PairingStore.revokeAll_nothing (started.ready rfl).2.1
      dsimp only at kept ⊢
      generalize store.revokeAll = result at kept ⊢
      obtain ⟨next, revoked⟩ := result
      cases nothing : revoked == 0 with
      | false =>
        simp only [bne, nothing]
        rfl
      | true =>
        have same : next = store := kept (beq_iff_eq.mp nothing)
        simp only [bne, nothing, same]
        rfl
  | recoverCorrupt =>
    have same : device = found := isStarted
    simp only [run, PairingDevice.registryRecoverCorrupt, changes, same]
    cases found.registry.attempted <;> cases found.registry.ready <;>
      cases pairingSlotExists found.slots <;>
      cases pairingLoad authenticate found.slots <;> rfl

def advance (operation : PairingOperation) (store : PairingStore) : Nat :=
  match operation with
  | .revokeAll => store.revokeAll.2
  | _ => 1

/-- What an operation saves: a recovery the empty table of generation one where
nothing loads, any other operation a sound table of a later generation. Only an
addition changes the empty table. -/
theorem changes_cases (inStep : device.InStep authenticate) {saved kept : PairingStore}
    (changed : operation.changes authenticate device = some (saved, kept)) :
    (operation = .recoverCorrupt ∧ saved = { PairingStore.init with generation := 1 } ∧
      kept = .init ∧ device.registry.attempted = true ∧ pairingSlotExists device.slots = true ∧
      pairingLoad authenticate device.slots = none) ∨
    (operation ≠ .recoverCorrupt ∧ kept = saved ∧ device.registry.ready = true ∧ saved.Sound ∧
      0 < operation.advance device.registry.store ∧
      saved.generation.toNat =
        device.registry.store.generation.toNat + operation.advance device.registry.store ∧
      (device.registry.store = .init →
        ∃ keyDigest clientName role, operation = .add keyDigest clientName role)) := by
  cases operation with
  | add keyDigest clientName role =>
    simp only [changes] at changed
    split at changed
    · rename_i isReady
      obtain ⟨⟨next, index⟩, added, same⟩ := Option.map_eq_some_iff.mp changed
      cases same
      obtain ⟨notLast, -, record, -, -, rfl⟩ := PairingStore.add_some added
      exact .inr ⟨by simp, rfl, isReady, (inStep.ready isReady).2.1.add added, Nat.one_pos,
        PairingStore.next_generation notLast, fun _ => ⟨_, _, _, rfl⟩⟩
    · cases changed
  | revoke index =>
    simp only [changes] at changed
    split at changed
    · rename_i isReady
      obtain ⟨next, revoked, same⟩ := Option.map_eq_some_iff.mp changed
      cases same
      obtain ⟨notLast, ⟨record, stored⟩, rfl⟩ := PairingStore.revoke_some revoked
      refine .inr ⟨by simp, rfl, isReady, (inStep.ready isReady).2.1.revoke revoked, Nat.one_pos,
        PairingStore.next_generation notLast, fun empty => ?_⟩
      rw [empty] at stored
      cases stored
    · cases changed
  | revokeAll =>
    simp only [changes] at changed
    split at changed
    · rename_i revokes
      rw [Bool.and_eq_true, bne_iff_ne] at revokes
      obtain ⟨isReady, revoked⟩ := revokes
      have sound := (inStep.ready isReady).2.1
      have advanced := PairingStore.revokeAll_generation sound
      have soundAfter := sound.revokeAll
      have empty : device.registry.store = .init → device.registry.store.revokeAll.2 = 0 := by
        intro isInit
        rw [isInit]
        decide +kernel
      rw [Option.some.injEq, Prod.mk.injEq] at changed
      rw [advance]
      generalize device.registry.store.revokeAll = result at *
      obtain ⟨rfl, rfl⟩ := changed
      exact .inr ⟨by simp, rfl, isReady, soundAfter, Nat.pos_of_ne_zero revoked, advanced,
        fun isInit => absurd (empty isInit) revoked⟩
    · cases changed
  | recoverCorrupt =>
    simp only [changes] at changed
    split at changed
    · rename_i corrupt
      cases changed
      simp only [Bool.and_eq_true, Option.isNone_iff_eq_none] at corrupt
      exact .inl ⟨rfl, rfl, rfl, corrupt.1.1.1, corrupt.1.2, corrupt.2⟩
    · cases changed

/-- What an operation saves fits the device. -/
theorem changes_fits (inStep : device.InStep authenticate) {saved kept : PairingStore}
    (changed : operation.changes authenticate device = some (saved, kept)) :
    device.Fits authenticate saved kept := by
  rcases changes_cases inStep changed with
    ⟨-, rfl, rfl, attempted, -, corrupt⟩ | ⟨-, rfl, isReady, sound, positive, advanced, adds⟩
  · have unreadable := newest_none.mp corrupt
    refine ⟨attempted, ⟨?_, ?_⟩, by decide, fun slot stored _ decoded => ?_, .inr ⟨rfl, rfl, ?_⟩⟩
    · exact PairingStore.init_sound.distinct
    · intro index record stored
      cases stored
    · rw [unreadable slot] at decoded
      cases decoded
    · exact unreadable _
  · obtain ⟨attempted, -, current⟩ := inStep.ready isReady
    refine ⟨attempted, sound, ?_, fun slot stored elsewhere decoded => ?_, .inl rfl⟩
    · intro isZero
      rw [isZero, UInt32.toNat_zero] at advanced
      omega
    · rcases current with loaded | ⟨empty, absent | ⟨first, second⟩⟩
      · have upTo := (newest_some loaded).2 slot stored decoded
        change stored.generation.toNat ≤ device.registry.store.generation.toNat at upTo
        omega
      · rw [decodeSlots_absent absent] at decoded
        cases decoded
      · -- An addition to the recovered table writes slot one, and slot zero is unreadable.
        obtain ⟨keyDigest, clientName, role, rfl⟩ := adds empty
        have isHome : home storedGeneration kept = 1 := by
          apply Fin.ext
          change kept.generation.toNat % 2 = 1
          rw [advanced, empty]
          rfl
        rw [isHome] at elsewhere
        rw [pairingSlot_zero] at first
        rw [(slot_cases slot).resolve_right elsewhere, first] at decoded
        cases decoded

variable (authenticate) in
/-- What the device may leave that dies in the operation's save. -/
def Torn (operation : PairingOperation) (device : PairingDevice) (image : Option PairingFile) :
    Prop :=
  ∀ saved kept, operation.changes authenticate (operation.start authenticate device) =
    some (saved, kept) → (operation.start authenticate device).Torn authenticate saved image

theorem run_inStep (inStep : device.InStep authenticate) {outcome : WriteOutcome}
    (torn : ∀ image, outcome = .crash image → operation.Torn authenticate device image) :
    (operation.run authenticate device outcome).2.InStep authenticate := by
  have started := start_inStep operation inStep
  rw [run_eq inStep]
  cases changed : operation.changes authenticate (operation.start authenticate device) with
  | none => exact started
  | some stores =>
    exact started.commit (changes_fits started changed)
      fun image died => torn image died _ _ changed

variable (authenticate) in
/-- After a crash in the operation's save the registry starts with what it would have
started with just before the operation, or just after it. -/
def CrashSafe (operation : PairingOperation) (device : PairingDevice)
    (image : Option PairingFile) : Prop :=
  let crashed := (operation.run authenticate device (.crash image)).2.slots
  recorded authenticate crashed = recorded authenticate device.slots ∨
    recorded authenticate crashed =
      recorded authenticate (operation.run authenticate device .complete).2.slots

variable (authenticate) in
/-- The crash left the slot files as they were, or as a complete save leaves them. -/
def Whole (operation : PairingOperation) (device : PairingDevice) (image : Option PairingFile) :
    Prop :=
  let crashed := (operation.run authenticate device (.crash image)).2.slots
  crashed = device.slots ∨ crashed = (operation.run authenticate device .complete).2.slots

/-- The operation does not save over the newest table: it is a recovery, it revokes an
odd number of clients, or it adds to or revokes from a table that was saved before by
something else than a recovery. -/
def Harmless (operation : PairingOperation) (store : PairingStore) : Prop :=
  match operation with
  | .add _ _ _ => store.generation ≠ 0
  | .revoke _ => store.generation ≠ 0
  | .revokeAll => store.revokeAll.2 % 2 = 1
  | .recoverCorrupt => True

/-- Apart from a recovery, the harmless operations are those on a saved table that
advance its generation by an odd number. -/
theorem harmless_iff {store : PairingStore} (notRecovery : operation ≠ .recoverCorrupt)
    (revokes : store.generation = 0 → store.revokeAll.2 = 0) :
    operation.Harmless store ↔ store.generation ≠ 0 ∧ operation.advance store % 2 = 1 := by
  cases operation with
  | recoverCorrupt => exact absurd rfl notRecovery
  | revokeAll =>
    rw [Harmless, advance]
    refine ⟨fun odd => ⟨fun isZero => ?_, odd⟩, fun saved => saved.2⟩
    rw [revokes isZero] at odd
    cases odd
  | add | revoke => simp [Harmless, advance]

/-- A ready registry that is current has saved its table, or has the empty one. -/
theorem current_cases (inStep : device.InStep authenticate)
    (isReady : device.registry.ready = true) :
    (pairingLoad authenticate device.slots = some device.registry.store.clients ∧
        device.registry.store.generation ≠ 0) ∨
      device.registry.store = .init := by
  rcases (inStep.ready isReady).2.2 with loaded | ⟨empty, -⟩
  · obtain ⟨⟨slot, decoded⟩, -⟩ := newest_some loaded
    exact .inl ⟨loaded, inStep.positive slot device.registry.store.clients decoded⟩
  · exact .inr empty

/-- Losing the slot an operation saves to is harmless exactly for the harmless
operations. -/
theorem lost_iff_harmless (inStep : device.InStep authenticate) {saved kept : PairingStore}
    (changed : operation.changes authenticate device = some (saved, kept)) :
    newest storedGeneration (Function.update (decodeSlots authenticate device.slots)
        (home storedGeneration saved) none) = recorded authenticate device.slots ↔
      operation.Harmless device.registry.store := by
  rcases changes_cases inStep changed with
    ⟨rfl, rfl, rfl, -, present, corrupt⟩ | ⟨notRecovery, rfl, isReady, -, positive, advanced, adds⟩
  · -- Where nothing loads there is nothing to lose.
    refine iff_of_true ?_ trivial
    have unreadable := newest_none.mp corrupt
    rw [recorded, present, if_pos rfl, corrupt, newest_none]
    intro slot
    rw [Function.update_apply]
    split
    · rfl
    · exact unreadable slot
  · have empties : device.registry.store.generation = 0 → device.registry.store.revokeAll.2 = 0 := by
      intro isZero
      rcases current_cases inStep isReady with ⟨-, saved⟩ | isInit
      · exact absurd isZero saved
      · rw [isInit]
        decide +kernel
    rw [harmless_iff notRecovery empties]
    rcases current_cases inStep isReady with ⟨loaded, notZero⟩ | isInit
    · rw [recorded_of_load loaded]
      refine (inStep.homed.newest_erase_iff loaded).trans ?_
      rw [ne_eq, Fin.ext_iff]
      change ¬ device.registry.store.generation.toNat % 2 = kept.generation.toNat % 2 ↔ _
      rw [advanced]
      exact ⟨fun differ => ⟨notZero, by omega⟩, fun odd => by omega⟩
    · obtain ⟨keyDigest, clientName, role, rfl⟩ := adds isInit
      refine iff_of_false (fun same => ?_) fun harmless => harmless.1 (by rw [isInit]; rfl)
      have isHome : home storedGeneration kept = 1 := by
        apply Fin.ext
        change kept.generation.toNat % 2 = 1
        rw [advanced, isInit]
        rfl
      have onlyOne : ∀ first : decodeSlots authenticate device.slots 0 = none,
          recorded authenticate device.slots = none := by
        intro first
        rw [← same, newest_none, isHome]
        intro slot
        rcases slot_cases slot with rfl | rfl
        · rw [Function.update_of_ne (by decide), first]
        · rw [Function.update_self]
      rcases (inStep.ready isReady).2.2 with loaded | ⟨-, absent | ⟨first, second⟩⟩
      · obtain ⟨⟨slot, decoded⟩, -⟩ := newest_some loaded
        refine inStep.positive slot device.registry.store.clients decoded ?_
        rw [isInit]
        rfl
      · have none_ := onlyOne (decodeSlots_absent absent 0)
        rw [recorded, absent] at none_
        cases none_
      · rw [pairingSlot_zero] at first
        rw [pairingSlot_one] at second
        have loads : pairingLoad authenticate device.slots =
            some { PairingStore.init with generation := 1 } := by
          rw [pairingLoad, newest, first, second]
          rfl
        have none_ := onlyOne first
        rw [recorded_of_load loads] at none_
        cases none_

variable (authenticate) in
/-- A crash in an operation's save is safe exactly when it left the files as they were
or complete, or the operation is harmless. -/
theorem crash_safe_iff (inStep : device.InStep authenticate) {image : Option PairingFile}
    (torn : operation.Torn authenticate device image) :
    operation.CrashSafe authenticate device image ↔
      operation.Whole authenticate device image ∨
        operation.Harmless (operation.start authenticate device).registry.store := by
  have started := start_inStep operation inStep
  have slots : (operation.start authenticate device).slots = device.slots :=
    start_slots operation device
  have whole : operation.Whole authenticate device image →
      operation.CrashSafe authenticate device image := by
    rintro (same | complete)
    · exact .inl (congrArg (recorded authenticate) same)
    · exact .inr (congrArg (recorded authenticate) complete)
  cases changed : operation.changes authenticate (operation.start authenticate device) with
  | none =>
    have unsaved : operation.Whole authenticate device image := by
      refine .inl ?_
      rw [run_eq inStep, changed]
      exact slots
    exact iff_of_true (whole unsaved) (.inl unsaved)
  | some stores =>
    obtain ⟨saved, kept⟩ := stores
    have fits := changes_fits started changed
    obtain ⟨crashed, died, isCrashed⟩ := fits.torn (torn saved kept changed)
    obtain ⟨written, complete, -, loaded, -⟩ := fits.written
    have crashedSlots : (operation.run authenticate device (.crash image)).2.slots = crashed := by
      rw [run_eq inStep, changed]
      simp only [PairingDevice.commit, died]
    have completeSlots : (operation.run authenticate device .complete).2.slots = written := by
      rw [run_eq inStep, changed]
      simp only [PairingDevice.commit, complete]
    rcases isCrashed with same | isComplete | ⟨present, erased⟩
    · have unchanged : operation.Whole authenticate device image :=
        .inl (crashedSlots.trans (same.trans slots))
      exact iff_of_true (whole unchanged) (.inl unchanged)
    · rw [complete] at isComplete
      have completed : operation.Whole authenticate device image :=
        .inr (crashedSlots.trans (isComplete.trans completeSlots.symm))
      exact iff_of_true (whole completed) (.inl completed)
    · have lost : recorded authenticate crashed =
          newest storedGeneration (Function.update
            (decodeSlots authenticate (operation.start authenticate device).slots)
            (home storedGeneration saved) none) := by
        rw [recorded, present, if_pos rfl, pairingLoad, erased]
      have harmless := lost_iff_harmless started changed
      rw [← lost, slots] at harmless
      constructor
      · rintro (before | after)
        · rw [crashedSlots] at before
          exact .inr (harmless.mp before)
        · -- A table of the slot that was lost is not found.
          rw [crashedSlots, completeSlots, lost, recorded_of_load loaded] at after
          exact absurd rfl (started.homed.newest_erase_ne after :
            home storedGeneration saved.clients ≠ home storedGeneration saved)
      · rintro (isWhole | isHarmless)
        · exact whole isWhole
        · refine .inl ?_
          rw [crashedSlots]
          exact harmless.mpr isHarmless

end PairingOperation

/-- One step of a run: an operation and what becomes of its write, a session that
opens or closes, or a restart. -/
inductive PairingStep where
  | operate (operation : PairingOperation) (outcome : WriteOutcome)
  | sessionOpen (keyDigest : Digest)
  | sessionClose (keyDigest : Digest)
  | restart

namespace PairingStep

variable (authenticate) in
/-- The device after a step. -/
def apply (step : PairingStep) (device : PairingDevice) : PairingDevice :=
  match step with
  | .operate operation outcome => (operation.run authenticate device outcome).2
  | .sessionOpen keyDigest => (device.registrySessionOpen authenticate keyDigest).2
  | .sessionClose keyDigest => device.registrySessionClose authenticate keyDigest
  | .restart => { device with registry := PairingDevice.poweredUp }

variable (authenticate) in
/-- The device after the first steps of a run. -/
def deviceAt (steps : List PairingStep) (index : Nat) : PairingDevice :=
  Runs.reached (apply authenticate) .init steps index

variable (authenticate) in
/-- What each crash of the run leaves is what a device that dies in a save may leave. -/
def TornRun (steps : List PairingStep) : Prop :=
  ∀ index operation image, 
    steps[index]? = some (PairingStep.operate operation (.crash image)) →
    operation.Torn authenticate (deviceAt authenticate steps index) image

variable {steps : List PairingStep}

/-- Counting sessions keeps a device in step. -/
theorem setSessions_inStep {device : PairingDevice} (inStep : device.InStep authenticate)
    (keyDigest : Digest) (change : UInt32 → UInt32) :
    PairingDevice.InStep authenticate { device with registry := { device.registry with
      store := device.registry.store.setSessions keyDigest change } } := by
  refine ⟨inStep.homed, inStep.positive, fun isReady => ?_⟩
  have clients := device.registry.store.setSessions_clients keyDigest change
  obtain ⟨attempted, sound, current⟩ := inStep.ready isReady
  refine ⟨attempted, ?_, ?_⟩
  · rw [← PairingStore.clients_sound_iff, clients, PairingStore.clients_sound_iff]
    exact sound
  · refine current.imp (fun loaded => ?_) fun empty => ⟨?_, empty.2⟩
    · rw [clients]
      exact loaded
    · rw [← PairingStore.clients_eq_init, clients, PairingStore.clients_eq_init]
      exact empty.1

theorem run_inStep (torn : TornRun authenticate steps) (index : Nat) :
    (deviceAt authenticate steps index).InStep authenticate := by
  refine Runs.always (motive := PairingDevice.InStep authenticate) PairingDevice.init_inStep ?_ index
  intro index step taken inStep
  cases step with
  | operate operation outcome =>
    refine PairingOperation.run_inStep inStep fun image died => ?_
    rw [died] at taken
    exact torn index operation image taken
  | sessionOpen keyDigest =>
    simp only [apply, PairingDevice.registrySessionOpen]
    split
    · exact inStep
    · split
      · exact setSessions_inStep inStep.registryInit keyDigest _
      · exact inStep.registryInit
  | sessionClose keyDigest =>
    simp only [apply, PairingDevice.registrySessionClose]
    split
    · exact inStep
    · split
      · exact inStep.registryInit
      · exact setSessions_inStep inStep.registryInit keyDigest _
  | restart => exact inStep.powerUp rfl

variable (authenticate steps) in
/-- Every crash of the run is safe. -/
def CrashSafeRun : Prop :=
  ∀ index operation image,
    steps[index]? = some (PairingStep.operate operation (.crash image)) →
    operation.CrashSafe authenticate (deviceAt authenticate steps index) image

variable (authenticate) in
/-- The crashes of a run are all safe exactly when each left the files as they were or
complete, or met a harmless operation. -/
theorem crash_safe_run_iff (steps : List PairingStep) (torn : TornRun authenticate steps) :
    CrashSafeRun authenticate steps ↔
      ∀ index operation image,
        steps[index]? = some (PairingStep.operate operation (.crash image)) →
        operation.Whole authenticate (deviceAt authenticate steps index) image ∨
          operation.Harmless (operation.start authenticate
            (deviceAt authenticate steps index)).registry.store := by
  have each : ∀ index operation image,
      steps[index]? = some (PairingStep.operate operation (.crash image)) →
      (operation.CrashSafe authenticate (deviceAt authenticate steps index) image ↔
        operation.Whole authenticate (deviceAt authenticate steps index) image ∨
          operation.Harmless (operation.start authenticate
            (deviceAt authenticate steps index)).registry.store) :=
    fun index operation image taken => PairingOperation.crash_safe_iff authenticate
      (run_inStep torn index) (torn index operation image taken)
  constructor
  · intro safe index operation image taken
    exact (each index operation image taken).mp (safe index operation image taken)
  · intro harmless index operation image taken
    exact (each index operation image taken).mpr (harmless index operation image taken)

end PairingStep

end Storage

namespace PairingStep

/-- The bytes of a disk record. -/
def diskRecordBytes (record : PairingDiskRecord) : List UInt8 :=
  [record.active, record.role, 0, 0] ++ record.keyDigest.bytes ++ record.clientName.bytes ++
    [0, 0, 0] ++ littleEndian 4 record.generation.toNat

def sampleAuthenticate (body : PairingDiskBody) : Digest :=
  ⟨Sha256.hmac (List.replicate 32 1) (body.magic.bytes ++ littleEndian 4 body.version.toNat ++
      littleEndian 4 body.generation.toNat ++
      (List.finRange pairingMaxClients).flatMap fun index => diskRecordBytes (body.records index)),
    Sha256.length_hmac _ _⟩

/-- The key digest of a sample client. -/
def sampleKey (byte : UInt8) : Digest := ⟨List.replicate 32 byte, by simp [confirmationDigestBytes]⟩

def sampleAdd (byte : UInt8) : PairingOperation :=
  .add (sampleKey byte) (.literal "client") .operator

def sampleCrash : WriteOutcome := .crash (some (.fragment []))

/-- One client is paired, and the device dies while it adds another one. -/
def interruptedAdd : List PairingStep :=
  [.operate (sampleAdd 1) .complete, .operate (sampleAdd 2) sampleCrash]

/-- A fragment is what a device that dies in a save may leave. -/
theorem sample_torn {operation : PairingOperation} {device : PairingDevice}
    {image : Option PairingFile} (crashed : WriteOutcome.crash image = sampleCrash) :
    operation.Torn sampleAuthenticate device image := by
  intro saved kept _
  refine .inr (.inr fun file isFile => ?_)
  cases crashed
  cases isFile
  rfl

/-- The first client is still there after the crash, and the second one is not. -/
theorem interrupted_add_safe :
    TornRun sampleAuthenticate interruptedAdd ∧ CrashSafeRun sampleAuthenticate interruptedAdd := by
  have crashes : ∀ index operation image,
      interruptedAdd[index]? = some (.operate operation (.crash image)) →
      index = 1 ∧ operation = sampleAdd 2 ∧ WriteOutcome.crash image = sampleCrash := by
    intro index operation image taken
    have within : index < 2 := (List.getElem?_eq_some_iff.mp taken).1
    obtain rfl | rfl : index = 0 ∨ index = 1 := by omega
    · cases taken
    · cases taken
      exact ⟨rfl, rfl, rfl⟩
  have torn : TornRun sampleAuthenticate interruptedAdd := fun index operation image taken =>
    sample_torn (crashes index operation image taken).2.2
  refine ⟨torn, (crash_safe_run_iff sampleAuthenticate interruptedAdd torn).mpr ?_⟩
  intro index operation image taken
  obtain ⟨rfl, rfl, -⟩ := crashes index operation image taken
  have saved : ((sampleAdd 2).start sampleAuthenticate
      (deviceAt sampleAuthenticate interruptedAdd 1)).registry.store.generation ≠ 0 := by
    decide +kernel
  exact .inr saved

/-- Three clients are paired and the third one is revoked. Then the device dies while it
revokes the other two. -/
def interruptedRevokeAll : List PairingStep :=
  [.operate (sampleAdd 1) .complete, .operate (sampleAdd 2) .complete,
    .operate (sampleAdd 3) .complete, .operate (.revoke ⟨2, by decide⟩) .complete,
    .operate .revokeAll sampleCrash]

/-- A slot that holds a fragment. -/
def fragmented (file : Option PairingFile) : Bool :=
  match file with
  | some (.fragment _) => true
  | _ => false

/-- The slot written last is lost, and the other one still has the third client. -/
theorem revoked_client_reappears :
    (¬ ∀ authenticate steps, TornRun authenticate steps → CrashSafeRun authenticate steps) ∧
      (recorded sampleAuthenticate (deviceAt sampleAuthenticate interruptedRevokeAll 5).slots).map
        (fun store => (store.find (sampleKey 3)).isSome) = some true := by
  refine ⟨fun always => ?_, by decide +kernel⟩
  have torn : TornRun sampleAuthenticate interruptedRevokeAll := by
    intro index operation image taken
    refine sample_torn ?_
    have within : index < 5 := (List.getElem?_eq_some_iff.mp taken).1
    obtain rfl | rfl | rfl | rfl | rfl :
        index = 0 ∨ index = 1 ∨ index = 2 ∨ index = 3 ∨ index = 4 := by omega
    iterate 4 cases taken
    cases taken
    rfl
  have safe := always sampleAuthenticate interruptedRevokeAll torn 4 .revokeAll _ rfl
  rw [PairingOperation.crash_safe_iff _ (run_inStep torn 4)
    (torn 4 .revokeAll _ rfl)] at safe
  have crashed : fragmented ((PairingOperation.revokeAll.run sampleAuthenticate
      (deviceAt sampleAuthenticate interruptedRevokeAll 4) sampleCrash).2.slots 0) = true := by
    decide +kernel
  rcases safe with (same | complete) | odd
  · have whole : fragmented
        ((deviceAt sampleAuthenticate interruptedRevokeAll 4).slots 0) = false := by
      decide +kernel
    rw [← same] at whole
    exact Bool.noConfusion (crashed.symm.trans whole)
  · have whole : fragmented ((PairingOperation.revokeAll.run sampleAuthenticate
        (deviceAt sampleAuthenticate interruptedRevokeAll 4) .complete).2.slots 0) = false := by
      decide +kernel
    rw [← complete] at whole
    exact Bool.noConfusion (crashed.symm.trans whole)
  · have two : ¬ PairingOperation.revokeAll.Harmless (PairingOperation.revokeAll.start
        sampleAuthenticate (deviceAt sampleAuthenticate interruptedRevokeAll 4)).registry.store := by
      change ¬ _ % 2 = 1
      decide +kernel
    exact two odd

end PairingStep

end PoisonedOS
