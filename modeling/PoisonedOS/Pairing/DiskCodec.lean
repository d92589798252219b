import PoisonedOS.Pairing.Slots

/-!
# The format of the pairing store

Every table that additions and revocations lead to is encoded, and decodes to itself with
the sessions forgotten. What makes encoding never refuse is that keys stay distinct and the
generation of a record stays between one and that of the table.

Conversely decoding accepts only states whose active records are as such a table would have
written them.
-/

namespace PoisonedOS

namespace PairingStore

/-- The tables that additions, revocations and the counting of sessions lead to. -/
inductive Reachable : PairingStore → Prop where
  | init : Reachable .init
  | add {store next : PairingStore} (reachable : Reachable store) (keyDigest : Digest)
      (clientName : CString) (role : Role) (index : Fin pairingMaxClients)
      (added : store.add keyDigest clientName role = some (next, index)) : Reachable next
  | revoke {store next : PairingStore} (reachable : Reachable store)
      (index : Fin pairingMaxClients) (revoked : store.revoke index = some next) :
      Reachable next
  | revokeAll {store : PairingStore} (reachable : Reachable store) : Reachable store.revokeAll.1
  | sessions {store : PairingStore} (reachable : Reachable store) (keyDigest : Digest)
      (change : UInt32 → UInt32) : Reachable (store.setSessions keyDigest change)

/-- Every reachable table is sound. -/
theorem Reachable.sound {store : PairingStore} (reachable : Reachable store) : store.Sound := by
  induction reachable with
  | init => exact init_sound
  | add _ keyDigest clientName role index added ih =>
    exact ih.add added
  | revoke _ index revoked ih => exact ih.revoke revoked
  | revokeAll _ ih => exact ih.revokeAll
  | @sessions store _ keyDigest change ih =>
    rw [← clients_sound_iff, setSessions_clients, clients_sound_iff]
    exact ih

end PairingStore

/-- An active record as a table writes it: a known role, a name that ends in its buffer, a
key that is not zero, and a generation of the table. -/
structure PairingDiskRecord.WellFormed (record : PairingDiskRecord) (generation : UInt32) :
    Prop where
  active : record.active = 1
  role : record.role.toNat < roles.length
  named : record.clientName.bytes.head? ≠ some 0
  terminated : (0 : UInt8) ∈ record.clientName.bytes
  key : ∃ byte ∈ record.keyDigest.bytes, byte ≠ 0
  positive : 1 ≤ record.generation.toNat
  upTo : record.generation.toNat ≤ generation.toNat

/-- Every active record of the state is well formed, and no two have one key. -/
structure PairingDiskBody.WellFormed (body : PairingDiskBody) : Prop where
  records : ∀ index, (body.records index).active ≠ 0 →
    (body.records index).WellFormed body.generation
  distinct : ∀ first second, (body.records first).active ≠ 0 → (body.records second).active ≠ 0 →
    (body.records first).keyDigest = (body.records second).keyDigest → first = second

/-- A name that is shorter than its buffer is terminated in it. -/
theorem terminated_of_short {bytes : List UInt8}
    (short : (CString.ofBytes bytes).length < bytes.length) : (0 : UInt8) ∈ bytes := by
  by_contra free
  rw [CString.length, CString.ofBytes_bytes free] at short
  exact Nat.lt_irrefl _ short

/-- A record that is read as active is well formed. -/
theorem PairingDiskRecord.read_wellFormed {disk : PairingDiskRecord} {generation : UInt32}
    (readable : (disk.read generation).isSome = true) (active : disk.active ≠ 0) :
    disk.WellFormed generation := by
  unfold PairingDiskRecord.read at readable
  rw [if_neg (by simpa using active)] at readable
  cases known : Role.ofNumber disk.role with
  | none =>
    rw [known] at readable
    cases readable
  | some role =>
    rw [known] at readable
    dsimp only at readable
    split at readable
    · cases readable
    · rename_i valid
      simp only [Bool.or_eq_true, not_or, Bool.not_eq_true', Bool.not_eq_false, beq_iff_eq,
        decide_eq_true_eq, bne_iff_ne, not_not, UInt32.not_lt] at valid
      obtain ⟨⟨⟨⟨isOne, keyValid⟩, nameValid⟩, positive⟩, upTo⟩ := valid
      simp only [pairingNameValid, Bool.and_eq_true, Bool.not_eq_true', decide_eq_true_eq]
        at nameValid
      refine ⟨isOne, ?_, ?_, ?_, ?_, ?_, UInt32.le_iff_toNat_le.mp upTo⟩
      · rw [Role.ofNumber] at known
        exact (List.getElem?_eq_some_iff.mp known).1
      · intro ended
        have empty : (CString.ofBytes disk.clientName.bytes).isEmpty = true := by
          cases named : disk.clientName.bytes with
          | nil => rfl
          | cons head rest =>
            rw [named, List.head?_cons, Option.some.injEq] at ended
            rw [ended]
            rfl
        rw [empty] at nameValid
        cases nameValid.1
      · refine terminated_of_short ?_
        rw [disk.clientName.sized]
        exact Nat.lt_succ_of_le nameValid.2
      · obtain ⟨byte, inside, nonzero⟩ := List.any_eq_true.mp keyValid
        exact ⟨byte, inside, bne_iff_ne.mp nonzero⟩
      · exact Nat.pos_of_ne_zero fun zero => positive (UInt32.toNat_inj.mp zero)

section Storage

variable {authenticate : PairingDiskBody → Digest}

/-- What decoding accepts is well formed. -/
theorem diskDecode_wellFormed {state : PairingDiskState} {store : PairingStore}
    (decoded : state.diskDecode authenticate = some store) :
    state.toPairingDiskBody.WellFormed := by
  unfold PairingDiskState.diskDecode at decoded
  split at decoded
  · cases decoded
  split at decoded
  · cases decoded
  split at decoded
  · rename_i readable
    rw [List.all_eq_true] at readable
    have accepted (index : Fin pairingMaxClients) :=
      Bool.and_eq_true_iff.mp (readable index (List.mem_finRange index))
    refine ⟨fun index active => PairingDiskRecord.read_wellFormed (accepted index).1 active, ?_⟩
    intro first second activeFirst activeSecond same
    rcases lt_trichotomy first second with before | isSame | after
    · exact absurd same (PairingDiskBody.unrepeated_lt (accepted second).2 before activeFirst
        activeSecond)
    · exact isSame
    · exact absurd same.symm (PairingDiskBody.unrepeated_lt (accepted first).2 after activeSecond
        activeFirst)
  · cases decoded

/-- Every reachable table is encoded and decodes to its records without their sessions, and
every state that decodes is well formed and gives a sound table without sessions.

Proof: a reachable table is sound, and sound tables are encoded; the checks of decoding are
those of a well-formed state, one record after the other. -/
theorem disk_codec (authenticate : PairingDiskBody → Digest) :
    (∀ store : PairingStore, store.Reachable → ∃ state decoded,
      store.diskEncode authenticate = some state ∧
      state.diskDecode authenticate = some decoded ∧ decoded.generation = store.generation ∧
      ∀ index, decoded.records index =
        (store.records index).map fun record => { record with activeSessions := 0 }) ∧
    ∀ (state : PairingDiskState) (decoded : PairingStore),
      state.diskDecode authenticate = some decoded →
      state.toPairingDiskBody.WellFormed ∧ decoded.Sound ∧
        ∀ index record, decoded.records index = some record → record.activeSessions = 0 := by
  constructor
  · intro store reachable
    obtain ⟨state, encoded, decoded⟩ := reachable.sound.decode_encode authenticate
    exact ⟨state, store.clients, encoded, decoded, rfl, fun _ => rfl⟩
  · intro state store decoded
    obtain ⟨sound, idle⟩ := diskDecode_sound decoded
    refine ⟨diskDecode_wellFormed decoded, sound, fun index record stored => ?_⟩
    rw [← idle] at stored
    obtain ⟨other, -, rfl⟩ := PairingStore.clients_record stored
    rfl

end Storage

end PoisonedOS
