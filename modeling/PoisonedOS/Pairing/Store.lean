import Mathlib.Data.Fintype.Pi
import PoisonedOS.Library.SlotTable
import PoisonedOS.Library.TwoSlots
import PoisonedOS.Rpc.Confirmation

/-!
# The pairing store

The clients a user has paired are kept in a table of eight records with a
generation number that every change advances. The registry keeps one table in
memory and saves each changed copy, authenticated, to one of two slot files,
chosen by the parity of its generation. A load takes the newer of the slots that
authenticate.

The authentication of a slot is a parameter, as is what becomes of a write. The
store path is the registry's constant one, so the checks of it hold.
-/

namespace PoisonedOS

/-- `POISON_PAIRING_MAX_CLIENTS`. -/
def pairingMaxClients : Nat := 8

/-- `POISON_PAIRING_NAME_MAX`. -/
def pairingNameMax : Nat := 32

/-- `POISON_PAIRING_STORE_VERSION`. -/
def pairingStoreVersion : UInt32 := 1

/-- An active `PoisonPairingRecord`. An inactive one is all zeros. -/
structure PairingRecord where
  keyDigest : Digest
  clientName : CString
  role : Role
  generation : UInt32
  activeSessions : UInt32
deriving DecidableEq

/-- `PoisonPairingStore`. -/
structure PairingStore where
  records : Fin pairingMaxClients → Option PairingRecord
  generation : UInt32
deriving DecidableEq

/-- The roles in the order of the enumeration. -/
def roles : List Role := [.owner, .operator, .instructor, .student, .observer]

/-- The number of a role. -/
def Role.number : Role → UInt8
  | .owner => 0
  | .operator => 1
  | .instructor => 2
  | .student => 3
  | .observer => 4

/-- The role with a number. -/
def Role.ofNumber (number : UInt8) : Option Role := roles[number.toNat]?

@[simp] theorem Role.ofNumber_number (role : Role) : Role.ofNumber role.number = some role := by
  cases role <;> rfl

/-- `poison_pairing_key_valid`. -/
def pairingKeyValid (keyDigest : Digest) : Bool := keyDigest.bytes.any (· != 0)

/-- `poison_pairing_name_valid`. -/
def pairingNameValid (clientName : CString) : Bool :=
  !clientName.isEmpty && decide (clientName.length ≤ pairingNameMax)

namespace PairingStore

/-- `poison_pairing_store_init`. -/
def init : PairingStore := ⟨fun _ => none, 0⟩

/-- `poison_pairing_store_find`. -/
def find (store : PairingStore) (keyDigest : Digest) : Option PairingRecord :=
  if !pairingKeyValid keyDigest then none
  else SlotTable.lookup PairingRecord.keyDigest store.records keyDigest

/-- `poison_pairing_store_add`: the store and the index of the new record. -/
def add (store : PairingStore) (keyDigest : Digest) (clientName : CString) (role : Role) :
    Option (PairingStore × Fin pairingMaxClients) :=
  if store.generation == 0xFFFFFFFF || !pairingKeyValid keyDigest ||
      !pairingNameValid clientName then
    none
  else if (store.find keyDigest).isSome then none
  else
    match SlotTable.firstSlot store.records (·.isNone) with
    | none => none
    | some index =>
      let generation := store.generation + 1
      some ({ records := SlotTable.place store.records index
                { keyDigest, clientName, role, generation, activeSessions := 0 }
              generation }, index)

/-- `poison_pairing_store_revoke` of an index in range. -/
def revoke (store : PairingStore) (index : Fin pairingMaxClients) : Option PairingStore :=
  if store.generation == 0xFFFFFFFF then none
  else if (store.records index).isNone then none
  else some { records := Function.update store.records index none
              generation := store.generation + 1 }

/-- One round of the loop of `poison_pairing_store_revoke_all`. -/
def revokeNext (progress : PairingStore × Nat) (index : Fin pairingMaxClients) :
    PairingStore × Nat :=
  match progress.1.revoke index with
  | none => progress
  | some store => (store, progress.2 + 1)

/-- `poison_pairing_store_revoke_all`: the store and how many were revoked. -/
def revokeAll (store : PairingStore) : PairingStore × Nat :=
  (List.finRange pairingMaxClients).foldl revokeNext (store, 0)

def setSessions (store : PairingStore) (keyDigest : Digest) (change : UInt32 → UInt32) :
    PairingStore :=
  match SlotTable.findSlot PairingRecord.keyDigest store.records keyDigest with
  | none => store
  | some index =>
    let changed := (store.records index).map fun record =>
      { record with activeSessions := change record.activeSessions }
    { store with records := Function.update store.records index changed }

end PairingStore

/-- `PoisonPairingDiskRecord`. -/
structure PairingDiskRecord where
  active : UInt8
  role : UInt8
  keyDigest : Digest
  clientName : FixedBytes (pairingNameMax + 1)
  generation : UInt32
deriving DecidableEq

/-- The part of `PoisonPairingDiskState` that is authenticated. -/
structure PairingDiskBody where
  magic : FixedBytes 4
  version : UInt32
  generation : UInt32
  records : Fin pairingMaxClients → PairingDiskRecord
deriving DecidableEq

/-- `PoisonPairingDiskState`. -/
structure PairingDiskState extends PairingDiskBody where
  digest : Digest
deriving DecidableEq

/-- What a slot file holds: a state, or bytes of another size. -/
inductive PairingFile where
  | whole (state : PairingDiskState)
  | fragment (bytes : List UInt8)
deriving DecidableEq

/-- The two slot files, where they exist. -/
abbrev PairingSlots := Fin 2 → Option PairingFile

/-- `"PPRS"`. -/
def pairingMagic : FixedBytes 4 := ⟨[80, 80, 82, 83], rfl⟩

/-- The name in its zeroed buffer. -/
def pairingNameBuffer (clientName : CString) : FixedBytes (pairingNameMax + 1) where
  bytes := (clientName.bytes ++ List.replicate (pairingNameMax + 1) 0).take (pairingNameMax + 1)
  sized := by simp

/-- The record `memset` leaves. -/
def PairingDiskRecord.zero : PairingDiskRecord := ⟨0, 0, .zero _, .zero _, 0⟩

/-- A record as it is written. -/
def PairingRecord.toDisk (record : PairingRecord) : PairingDiskRecord where
  active := 1
  role := record.role.number
  keyDigest := record.keyDigest
  clientName := pairingNameBuffer record.clientName
  generation := record.generation

/-- The checks `poison_pairing_disk_encode` makes of an active record. -/
def PairingRecord.storable (record : PairingRecord) (generation : UInt32) : Bool :=
  pairingKeyValid record.keyDigest && pairingNameValid record.clientName &&
    record.generation != 0 && decide (record.generation ≤ generation)

/-- The record a disk record stands for, and `none` where decoding refuses it. -/
def PairingDiskRecord.read (record : PairingDiskRecord) (generation : UInt32) :
    Option (Option PairingRecord) :=
  if record.active == 0 then some none
  else
    match Role.ofNumber record.role with
    | none => none
    | some role =>
      let clientName := CString.ofBytes record.clientName.bytes
      if record.active != 1 || !pairingKeyValid record.keyDigest ||
          !pairingNameValid clientName || record.generation == 0 ||
          record.generation > generation then
        none
      else
        some (some { keyDigest := record.keyDigest
                     clientName
                     role
                     generation := record.generation
                     activeSessions := 0 })

/-- What is written for a record of the table. -/
def pairingDiskRecord : Option PairingRecord → PairingDiskRecord
  | none => .zero
  | some record => record.toDisk

/-- What is written for a table. -/
def PairingStore.diskBody (store : PairingStore) : PairingDiskBody where
  magic := pairingMagic
  version := pairingStoreVersion
  generation := store.generation
  records := fun index => pairingDiskRecord (store.records index)

section Storage

variable (authenticate : PairingDiskBody → Digest)

/-- `poison_pairing_disk_encode`. -/
def PairingStore.diskEncode (store : PairingStore) : Option PairingDiskState :=
  if (List.finRange pairingMaxClients).all fun index =>
      (store.records index).all (·.storable store.generation) then
    some { store.diskBody with digest := authenticate store.diskBody }
  else none

/-- No earlier active record has the key of this one. -/
def PairingDiskBody.unrepeated (body : PairingDiskBody) (index : Fin pairingMaxClients) : Bool :=
  (body.records index).active == 0 ||
    (List.finRange pairingMaxClients).all fun previous =>
      !decide (previous < index) || (body.records previous).active == 0 ||
        (body.records previous).keyDigest != (body.records index).keyDigest

/-- `poison_pairing_disk_decode`. -/
def PairingDiskState.diskDecode (state : PairingDiskState) : Option PairingStore :=
  if state.magic != pairingMagic || state.version != pairingStoreVersion then none
  else if authenticate state.toPairingDiskBody != state.digest then none
  else if (List.finRange pairingMaxClients).all fun index =>
      ((state.records index).read state.generation).isSome && state.unrepeated index then
    some { records := fun index => ((state.records index).read state.generation).join
           generation := state.generation }
  else none

/-- What one slot contributes to a load. -/
def PairingFile.decode : PairingFile → Option PairingStore
  | .whole state => state.diskDecode authenticate
  | .fragment _ => none

/-- The slot a generation is saved to. -/
def pairingSlot (generation : UInt32) : Fin 2 := ⟨generation.toNat % 2, Nat.mod_lt _ (by decide)⟩

/-- What the slots decode to. -/
def decodeSlots (slots : PairingSlots) (slot : Fin 2) : Option PairingStore :=
  (slots slot).bind (PairingFile.decode authenticate)

/-- `poison_pairing_store_load`. -/
def pairingLoad (slots : PairingSlots) : Option PairingStore :=
  TwoSlots.newest (fun store : PairingStore => store.generation.toNat)
    (decodeSlots authenticate slots)

/-- `poison_pairing_store_slot_exists`. -/
def pairingSlotExists (slots : PairingSlots) : Bool :=
  (List.finRange 2).any fun slot => (slots slot).isSome

/-- What becomes of a write to a slot: it succeeds, it fails before it changes the
file, or the device dies in it and leaves the file as it was or something else in
its place. -/
inductive WriteOutcome where
  | complete
  | refused
  | crash (image : Option PairingFile)

/-- How a call ends that may not return. -/
inductive CallEnd where
  | returned (result : Bool)
  | died
deriving DecidableEq

/-- `poison_pairing_store_save`. -/
def PairingStore.save (store : PairingStore) (slots : PairingSlots) (outcome : WriteOutcome) :
    CallEnd × PairingSlots :=
  match store.diskEncode authenticate with
  | none => (.returned false, slots)
  | some state =>
    let slot := pairingSlot store.generation
    match outcome with
    | .complete => (.returned true, Function.update slots slot (some (.whole state)))
    | .refused => (.returned false, slots)
    | .crash none => (.died, slots)
    | .crash (some image) => (.died, Function.update slots slot (some image))

/-- The registry in memory. -/
structure PairingRegistry where
  store : PairingStore
  attempted : Bool
  ready : Bool
deriving DecidableEq

/-- The registry and the slot files. -/
structure PairingDevice where
  registry : PairingRegistry
  slots : PairingSlots
deriving DecidableEq

namespace PairingDevice

/-- The static variables after power-up. -/
def poweredUp : PairingRegistry := ⟨.init, false, false⟩

def init : PairingDevice := ⟨poweredUp, fun _ => none⟩

/-- `poison_pairing_registry_init`. -/
def registryInit (device : PairingDevice) : PairingDevice :=
  if device.registry.attempted then device
  else if pairingSlotExists device.slots then
    match pairingLoad authenticate device.slots with
    | none => { device with registry := { device.registry with attempted := true, ready := false } }
    | some store => { device with registry := ⟨store, true, true⟩ }
  else { device with registry := ⟨.init, true, true⟩ }

/-- Save a changed copy, and keep it where the save succeeds. Where the device dies
it powers up again. -/
def commit (device : PairingDevice) (saved kept : PairingStore) (outcome : WriteOutcome) :
    CallEnd × PairingDevice :=
  match saved.save authenticate device.slots outcome with
  | (.returned true, slots) =>
    (.returned true, { registry := { device.registry with store := kept, ready := true }, slots })
  | (.returned false, slots) => (.returned false, { device with slots })
  | (.died, slots) => (.died, { registry := poweredUp, slots })

/-- `poison_pairing_registry_add`. -/
def registryAdd (device : PairingDevice) (keyDigest : Digest) (clientName : CString) (role : Role)
    (outcome : WriteOutcome) : CallEnd × PairingDevice :=
  let device := device.registryInit authenticate
  if !device.registry.ready then (.returned false, device)
  else
    match device.registry.store.add keyDigest clientName role with
    | none => (.returned false, device)
    | some (next, _) => device.commit authenticate next next outcome

/-- `poison_pairing_registry_revoke`. -/
def registryRevoke (device : PairingDevice) (index : Fin pairingMaxClients)
    (outcome : WriteOutcome) : CallEnd × PairingDevice :=
  let device := device.registryInit authenticate
  if !device.registry.ready then (.returned false, device)
  else
    match device.registry.store.revoke index with
    | none => (.returned false, device)
    | some next => device.commit authenticate next next outcome

/-- `poison_pairing_registry_revoke_all`; the call succeeds where it reports a
number. -/
def registryRevokeAll (device : PairingDevice) (outcome : WriteOutcome) :
    CallEnd × PairingDevice :=
  let device := device.registryInit authenticate
  if !device.registry.ready then (.returned false, device)
  else
    let (next, revoked) := device.registry.store.revokeAll
    if revoked == 0 then
      (.returned false, { device with registry := { device.registry with store := next } })
    else device.commit authenticate next next outcome

/-- `poison_pairing_registry_session_open`. A client with the largest number of
sessions gets no other one. -/
def registrySessionOpen (device : PairingDevice) (keyDigest : Digest) : Bool × PairingDevice :=
  if !pairingKeyValid keyDigest then (false, device)
  else
    let device := device.registryInit authenticate
    let opened := device.registry.ready && (device.registry.store.find keyDigest).any
      (·.activeSessions < 0xFFFFFFFF)
    if opened then
      (true, { device with registry := { device.registry with
        store := device.registry.store.setSessions keyDigest (· + 1) } })
    else (false, device)

/-- `poison_pairing_registry_session_close`. -/
def registrySessionClose (device : PairingDevice) (keyDigest : Digest) : PairingDevice :=
  if !pairingKeyValid keyDigest then device
  else
    let device := device.registryInit authenticate
    if !device.registry.ready then device
    else { device with registry := { device.registry with
      store := device.registry.store.setSessions keyDigest fun sessions =>
        if sessions > 0 then sessions - 1 else sessions } }

/-- `poison_pairing_registry_recover_corrupt`, with `poison_pairing_store_recover_corrupt`
in it: the file gets generation 1 and the registry keeps generation 0. -/
def registryRecoverCorrupt (device : PairingDevice) (outcome : WriteOutcome) :
    CallEnd × PairingDevice :=
  if !device.registry.attempted || device.registry.ready then (.returned false, device)
  else if !pairingSlotExists device.slots || (pairingLoad authenticate device.slots).isSome then
    (.returned false, device)
  else device.commit authenticate { PairingStore.init with generation := 1 } .init outcome

end PairingDevice

end Storage

end PoisonedOS
