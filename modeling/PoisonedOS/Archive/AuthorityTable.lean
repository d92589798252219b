import PoisonedOS.Archive.Authorities

/-!
# The table of package authorities as a list

Additions fill the slots from the first on and nothing empties one, so a table is the list of
its authorities. An addition appends to the list and a revocation changes a flag in it, and
every table that is reached is that of a list whose key ids are valid and distinct.
-/

namespace PoisonedOS

namespace AuthorityStore

def holding (list : List StoredAuthority) (generation : UInt32) : AuthorityStore where
  authorities := fun slot => list[slot.val]?
  generation := generation

/-- What every table holds: at most eight authorities with valid key ids, of which no two are
equal, and valid public keys. -/
structure Admissible (pointValid : FixedBytes authorityKeyBytes → Bool)
    (list : List StoredAuthority) : Prop where
  fits : list.length ≤ authorityMax
  keyIds : ∀ authority ∈ list, authorityKeyIdValid authority.keyId = true
  publicKeys : ∀ authority ∈ list, authorityPublicKeyValid pointValid authority.publicKey = true
  distinct : (list.map StoredAuthority.keyId).Nodup

/-- The tables that additions and revocations lead to. -/
inductive Reachable (pointValid : FixedBytes authorityKeyBytes → Bool) : AuthorityStore → Prop where
  | init : Reachable pointValid .init
  | add {store next : AuthorityStore} (reachable : Reachable pointValid store) (keyId : CString)
      (publicKey : FixedBytes authorityKeyBytes) (revoked : Bool)
      (added : store.add pointValid keyId publicKey revoked = some next) :
      Reachable pointValid next
  | revoke {store next : AuthorityStore} (reachable : Reachable pointValid store)
      (keyId : CString) (revoked : store.revoke keyId = some next) : Reachable pointValid next

variable {pointValid : FixedBytes authorityKeyBytes → Bool} {list : List StoredAuthority}
  {generation : UInt32} {keyId : CString} {publicKey : FixedBytes authorityKeyBytes}

theorem admissible_nil : Admissible pointValid [] where
  fits := Nat.zero_le _
  keyIds authority member := by cases member
  publicKeys authority member := by cases member
  distinct := List.nodup_nil

theorem init_eq_holding : init = holding [] 0 := rfl

/-- The first positions of a list hold its first elements. -/
theorem filterMap_range {α : Type} (list : List α) (count : Nat) :
    (List.range count).filterMap (fun position => list[position]?) = list.take count := by
  induction count with
  | zero => simp
  | succ count ih =>
    rw [List.range_succ, List.filterMap_append, ih, List.take_add_one]
    congr 1

/-- The entries of the table of a list are the list. -/
theorem entries_holding (fits : list.length ≤ authorityMax) :
    (holding list generation).entries = list := by
  have slots : (List.finRange authorityMax).filterMap (holding list generation).authorities =
      ((List.finRange authorityMax).map Fin.val).filterMap (fun position => list[position]?) := by
    rw [List.filterMap_map]
    rfl
  rw [entries, slots, List.map_coe_finRange_eq_range, filterMap_range,
    List.take_of_length_le fits]

/-- A slot of the table of a list holds a key id exactly at its position. -/
theorem holding_slot {slot : Fin authorityMax} {authority : StoredAuthority} :
    (holding list generation).authorities slot = some authority ↔
      ∃ short : slot.val < list.length, list[slot.val] = authority :=
  List.getElem?_eq_some_iff

theorem findAny_holding (fits : list.length ≤ authorityMax)
    (valid : authorityKeyIdValid keyId = true) :
    (holding list generation).findAny keyId = none ↔
      ∀ authority ∈ list, authority.keyId ≠ keyId := by
  rw [findAny, if_pos valid, SlotTable.findSlot_none]
  constructor
  · intro absent authority member
    obtain ⟨position, short, rfl⟩ := List.getElem_of_mem member
    exact absent ⟨position, Nat.lt_of_lt_of_le short fits⟩ _ (holding_slot.mpr ⟨short, rfl⟩)
  · intro absent slot authority stored
    obtain ⟨short, rfl⟩ := holding_slot.mp stored
    exact absent _ (List.getElem_mem short)

/-- The first free slot is the one behind the list. -/
theorem firstSlot_holding (short : list.length < authorityMax) :
    SlotTable.firstSlot (holding list generation).authorities (·.isNone) =
      some ⟨list.length, short⟩ := by
  rw [SlotTable.firstSlot, Fin.find?_eq_some_iff]
  constructor
  · simp [holding]
  · intro earlier before
    have inside : earlier.val < list.length := before
    simp [holding, inside]

theorem firstSlot_full (full : authorityMax ≤ list.length) :
    SlotTable.firstSlot (holding list generation).authorities (·.isNone) = none := by
  rw [SlotTable.firstSlot, Fin.find?_eq_none_iff]
  intro slot
  have inside : slot.val < list.length := Nat.lt_of_lt_of_le slot.isLt full
  simp [holding, inside]

/-- An authority that is placed behind the list is appended to it. -/
theorem place_holding (short : list.length < authorityMax) (authority : StoredAuthority) :
    SlotTable.place (holding list generation).authorities ⟨list.length, short⟩ authority =
      (holding (list ++ [authority]) generation).authorities := by
  funext slot
  by_cases here : slot = ⟨list.length, short⟩
  · subst here
    simp [SlotTable.place, holding]
  · have apart : slot.val ≠ list.length := fun same => here (Fin.ext same)
    rw [SlotTable.place, Function.update_of_ne here]
    simp only [holding, List.getElem?_append]
    split
    · rfl
    · rename_i behind
      rw [List.getElem?_eq_none (Nat.le_of_not_lt behind), List.getElem?_singleton,
        if_neg (by omega)]

/-- An addition appends to the list, exactly where the key id and the public key are valid, no
authority has the key id and there is room. -/
theorem add_holding (fits : list.length ≤ authorityMax) (revoked : Bool)
    {next : AuthorityStore} :
    (holding list generation).add pointValid keyId publicKey revoked = some next ↔
      authorityKeyIdValid keyId = true ∧
      authorityPublicKeyValid pointValid publicKey = true ∧
      (∀ authority ∈ list, authority.keyId ≠ keyId) ∧ list.length < authorityMax ∧
      next = holding (list ++ [⟨revoked, keyId, publicKey⟩]) (generation + 1) := by
  unfold add
  by_cases valid : authorityKeyIdValid keyId = true
  · by_cases validKey : authorityPublicKeyValid pointValid publicKey = true
    · by_cases absent : ∀ authority ∈ list, authority.keyId ≠ keyId
      · rw [(findAny_holding fits valid).mpr absent, if_neg (by simp [valid, validKey])]
        by_cases short : list.length < authorityMax
        · rw [firstSlot_holding short, Option.map_some, place_holding short]
          constructor
          · intro same
            exact ⟨valid, validKey, absent, short, (Option.some.inj same).symm⟩
          · rintro ⟨-, -, -, -, rfl⟩
            rfl
        · rw [firstSlot_full (Nat.le_of_not_lt short)]
          constructor
          · intro same
            cases same
          · rintro ⟨-, -, -, room, -⟩
            exact absurd room short
      · rw [if_pos (by
          rw [Bool.or_eq_true, Option.isSome_iff_ne_none]
          exact .inr (mt (findAny_holding fits valid).mp absent))]
        constructor
        · intro same
          cases same
        · rintro ⟨-, -, unused, -⟩
          exact absurd unused absent
    · rw [if_pos (by simp [validKey])]
      constructor
      · intro same
        cases same
      · rintro ⟨-, isValid, -⟩
        exact absurd isValid validKey
  · rw [if_pos (by simp [valid])]
    constructor
    · intro same
      cases same
    · rintro ⟨isValid, -⟩
      exact absurd isValid valid

/-- A list stays admissible when what an addition checks holds of what is appended. -/
theorem admissible_append {authority : StoredAuthority} :
    Admissible pointValid (list ++ [authority]) ↔ Admissible pointValid list ∧
      authorityKeyIdValid authority.keyId = true ∧
      authorityPublicKeyValid pointValid authority.publicKey = true ∧
      (∀ other ∈ list, other.keyId ≠ authority.keyId) ∧ list.length < authorityMax := by
  constructor
  · rintro ⟨fits, keyIds, publicKeys, distinct⟩
    rw [List.map_append, List.nodup_append] at distinct
    rw [List.length_append] at fits
    refine ⟨⟨Nat.le_of_succ_le fits, fun other member => keyIds other (by simp [member]),
      fun other member => publicKeys other (by simp [member]), distinct.1⟩,
      keyIds authority (by simp), publicKeys authority (by simp), ?_, fits⟩
    intro other member
    exact distinct.2.2 other.keyId (List.mem_map_of_mem member) authority.keyId (by simp)
  · rintro ⟨⟨fits, keyIds, publicKeys, distinct⟩, keyIdValid, publicKeyValid, absent, short⟩
    refine ⟨by rw [List.length_append]; exact short, ?_, ?_, ?_⟩
    · intro other member
      obtain member | isNew := List.mem_append.mp member
      · exact keyIds other member
      · rw [List.mem_singleton.mp isNew]
        exact keyIdValid
    · intro other member
      obtain member | isNew := List.mem_append.mp member
      · exact publicKeys other member
      · rw [List.mem_singleton.mp isNew]
        exact publicKeyValid
    · rw [List.map_append, List.nodup_append]
      refine ⟨distinct, by simp, ?_⟩
      intro taken used fresh isNew
      obtain ⟨other, member, rfl⟩ := List.mem_map.mp used
      simp only [List.map_cons, List.map_nil, List.mem_singleton] at isNew
      exact isNew ▸ absent other member

/-- The front of an admissible list is admissible. -/
theorem Admissible.front {behind : List StoredAuthority}
    (admissible : Admissible pointValid (list ++ behind)) : Admissible pointValid list where
  fits := by
    have := admissible.fits
    rw [List.length_append] at this
    omega
  keyIds authority member := admissible.keyIds authority (List.mem_append_left _ member)
  publicKeys authority member := admissible.publicKeys authority (List.mem_append_left _ member)
  distinct := by
    have := admissible.distinct
    rw [List.map_append] at this
    exact (List.nodup_append.mp this).1

/-- A revocation changes the flag of one authority of the list. -/
theorem revoke_holding {next : AuthorityStore}
    (revoked : (holding list generation).revoke keyId = some next) :
    ∃ position, ∃ short : position < list.length,
      next = holding (list.set position { list[position] with revoked := true })
        (generation + 1) := by
  unfold revoke at revoked
  split at revoked
  · cases revoked
  · rename_i slot found
    split at revoked
    · cases revoked
    · rename_i authority stored
      split at revoked
      · cases revoked
      · cases revoked
        obtain ⟨short, rfl⟩ := holding_slot.mp stored
        refine ⟨slot.val, short, ?_⟩
        rw [holding, mk.injEq]
        refine ⟨funext fun other => ?_, rfl⟩
        by_cases here : other = slot
        · subst here
          rw [SlotTable.place, Function.update_self]
          exact (List.getElem?_set_self short).symm
        · have apart : slot.val ≠ other.val := fun same => here (Fin.ext same.symm)
          rw [SlotTable.place, Function.update_of_ne here]
          exact (List.getElem?_set_ne apart).symm

/-- An admissible list stays admissible when a flag of it changes. -/
theorem Admissible.set (admissible : Admissible pointValid list) {position : Nat}
    (short : position < list.length) :
    Admissible pointValid (list.set position { list[position] with revoked := true }) := by
  have member := List.getElem_mem short
  refine ⟨by simpa using admissible.fits, ?_, ?_, ?_⟩
  · intro authority inside
    obtain kept | rfl := List.mem_or_eq_of_mem_set inside
    · exact admissible.keyIds authority kept
    · exact admissible.keyIds list[position] member
  · intro authority inside
    obtain kept | rfl := List.mem_or_eq_of_mem_set inside
    · exact admissible.publicKeys authority kept
    · exact admissible.publicKeys list[position] member
  · have same : (list.set position { list[position] with revoked := true }).map
        StoredAuthority.keyId = list.map StoredAuthority.keyId := by
      rw [List.map_set]
      have shortIds : position < (list.map StoredAuthority.keyId).length := by simpa using short
      have kept : list[position].keyId = (list.map StoredAuthority.keyId)[position] := by simp
      exact kept ▸ List.set_getElem_self shortIds
    rw [same]
    exact admissible.distinct

theorem Reachable.holding {store : AuthorityStore} (reachable : Reachable pointValid store) :
    ∃ list, Admissible pointValid list ∧ store = holding list store.generation := by
  induction reachable with
  | init => exact ⟨[], admissible_nil, rfl⟩
  | add _ keyId publicKey revoked added ih =>
    obtain ⟨list, admissible, same⟩ := ih
    rw [same] at added
    obtain ⟨keyIdValid, publicKeyValid, absent, short, rfl⟩ :=
      (add_holding admissible.fits revoked).mp added
    exact ⟨_, admissible_append.mpr ⟨admissible, keyIdValid, publicKeyValid, absent, short⟩, rfl⟩
  | revoke _ keyId revoked ih =>
    obtain ⟨list, admissible, same⟩ := ih
    rw [same] at revoked
    obtain ⟨position, short, rfl⟩ := revoke_holding revoked
    exact ⟨_, admissible.set short, rfl⟩

end AuthorityStore

end PoisonedOS
