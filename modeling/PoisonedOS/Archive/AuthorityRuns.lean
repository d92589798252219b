import Mathlib.Logic.Relation
import PoisonedOS.Archive.AuthorityCodec

/-!
# What happens to a signing key

Authorities are added, revoked, written to a file and read back. None of it removes one: a table
reaches only tables that hold all of its key ids, with the same public keys, and revoked ones stay
so.
-/

namespace PoisonedOS.AuthorityStore

/-- A change of the table, or its file written and read back. -/
inductive Moves (pointValid : FixedBytes authorityKeyBytes → Bool) (store : AuthorityStore) :
    AuthorityStore → Prop where
  | added {next : AuthorityStore} (keyId : CString) (publicKey : FixedBytes authorityKeyBytes)
      (revoked : Bool) (added : store.add pointValid keyId publicKey revoked = some next) :
      Moves pointValid store next
  | revoked {next : AuthorityStore} (keyId : CString) (revoked : store.revoke keyId = some next) :
      Moves pointValid store next
  | reloaded {next : AuthorityStore} (file : List UInt8)
      (encoded : store.encode authorityFileMax = some file)
      (decoded : decodeAuthorityStore pointValid file = some next) : Moves pointValid store next

/-- Every key of a list is bound as it is in the other, and revoked there if it is here. -/
def Keeps (list later : List StoredAuthority) : Prop :=
  ∀ entry ∈ list, ∃ kept ∈ later, kept.keyId = entry.keyId ∧ kept.publicKey = entry.publicKey ∧
    (entry.revoked = true → kept.revoked = true)

variable {pointValid : FixedBytes authorityKeyBytes → Bool} {list : List StoredAuthority}
  {generation : UInt32} {next : AuthorityStore}

theorem Keeps.refl (list : List StoredAuthority) : Keeps list list :=
  fun entry inside => ⟨entry, inside, rfl, rfl, id⟩

theorem Keeps.trans {first second third : List StoredAuthority} (early : Keeps first second)
    (late : Keeps second third) : Keeps first third := by
  intro entry inside
  obtain ⟨kept, isKept, keyId, publicKey, revoked⟩ := early entry inside
  obtain ⟨last, isLast, sameId, sameKey, stays⟩ := late kept isKept
  exact ⟨last, isLast, sameId.trans keyId, sameKey.trans publicKey, fun gone => stays (revoked gone)⟩

/-- A move leads from the table of an admissible list to that of one that keeps it. -/
theorem Moves.holding (admissible : Admissible pointValid list)
    (moves : Moves pointValid (holding list generation) next) :
    ∃ later after, Admissible pointValid later ∧ next = holding later after ∧ Keeps list later := by
  cases moves with
  | added keyId publicKey revoked added =>
    obtain ⟨validId, validKey, absent, short, rfl⟩ :=
      (add_holding admissible.fits revoked).mp added
    exact ⟨_, _, admissible_append.mpr ⟨admissible, validId, validKey, absent, short⟩, rfl,
      fun entry inside => ⟨entry, List.mem_append_left _ inside, rfl, rfl, id⟩⟩
  | revoked keyId revoked =>
    obtain ⟨position, short, rfl⟩ := revoke_holding revoked
    refine ⟨_, _, admissible.set short, rfl, fun entry inside => ?_⟩
    obtain ⟨index, within, rfl⟩ := List.getElem_of_mem inside
    by_cases here : index = position
    · subst here
      exact ⟨_, List.mem_set short _, rfl, rfl, fun _ => rfl⟩
    · refine ⟨list[index], List.mem_iff_getElem.mpr ⟨index, by simpa using within, ?_⟩, rfl, rfl, id⟩
      exact List.getElem_set_ne (Ne.symm here) _
  | reloaded file encoded decoded =>
    have sized : ∀ field ∈ list.map AuthorityField.ofAuthority, field.Sized :=
      List.forall_mem_map.mpr fun stored inside =>
        AuthorityField.sized_ofAuthority (admissible.keyIds stored inside)
    have back : (list.map AuthorityField.ofAuthority).map AuthorityField.authority = list := by
      rw [List.map_map]
      exact (List.map_congr_left fun stored _ =>
        AuthorityField.authority_ofAuthority stored).trans (List.map_id list)
    obtain ⟨after, read⟩ := decodeAuthorityStore_complete sized (back.symm ▸ admissible)
    rw [encode_holding admissible generation (Nat.le_refl _)] at encoded
    obtain rfl := Option.some.inj encoded
    obtain rfl := Option.some.inj (read.symm.trans decoded)
    exact ⟨list, after, admissible, by rw [back], .refl list⟩

/-- What is found in the table of an admissible list is an authority of it that is not revoked. -/
theorem find_holding {keyId : CString} {found : StoredAuthority}
    (isFound : (holding list generation).find keyId = some found) :
    found ∈ list ∧ found.keyId = keyId ∧ found.revoked = false := by
  obtain ⟨isStored, live⟩ := Option.filter_eq_some_iff.mp isFound
  obtain ⟨slot, isSlot, stored⟩ := Option.bind_eq_some_iff.mp isStored
  rw [findAny] at isSlot
  split at isSlot
  · obtain ⟨authority, isAuthority, keyed, -⟩ := SlotTable.findSlot_some isSlot
    obtain rfl := Option.some.inj (stored.symm.trans isAuthority)
    obtain ⟨short, rfl⟩ := holding_slot.mp stored
    exact ⟨List.getElem_mem short, keyed, by simpa using live⟩
  · cases isSlot

/-- **A signing key is bound and revoked for good.** However a reachable table is changed, written
and read back later, a key id keeps its public key, and a revoked one is never found again. -/
theorem authorities_permanent {store : AuthorityStore} (reachable : Reachable pointValid store)
    (later : Relation.ReflTransGen (Moves pointValid) store next) :
    ∀ entry ∈ store.entries,
      (∃ kept ∈ next.entries, kept.keyId = entry.keyId ∧ kept.publicKey = entry.publicKey) ∧
      (∀ found, next.find entry.keyId = some found →
        found.publicKey = entry.publicKey ∧ entry.revoked = false) := by
  obtain ⟨list, admissible, same⟩ := reachable.holding
  have reached : ∃ after count, Admissible pointValid after ∧ next = holding after count ∧
      Keeps list after := by
    induction later with
    | refl => exact ⟨list, _, admissible, same, .refl list⟩
    | tail _ moves ih =>
      obtain ⟨before, count, isAdmissible, rfl, kept⟩ := ih
      obtain ⟨after, number, stays, isNext, keeps⟩ := Moves.holding isAdmissible moves
      exact ⟨after, number, stays, isNext, kept.trans keeps⟩
  obtain ⟨after, count, isAdmissible, rfl, keeps⟩ := reached
  rw [same, entries_holding admissible.fits, entries_holding isAdmissible.fits]
  intro entry inside
  obtain ⟨kept, isKept, keyId, publicKey, revoked⟩ := keeps entry inside
  refine ⟨⟨kept, isKept, keyId, publicKey⟩, fun found isFound => ?_⟩
  obtain ⟨stored, keyed, live⟩ := find_holding isFound
  obtain rfl := List.inj_on_of_nodup_map isAdmissible.distinct stored isKept (keyed.trans keyId.symm)
  exact ⟨publicKey, Bool.eq_false_iff.mpr fun gone => by simp [revoked gone] at live⟩

def sampleTable : AuthorityStore :=
  (init.add (· == basePoint) (.literal "package-prod-1") basePoint false).getD init

def sampleRevoked : AuthorityStore := (sampleTable.revoke (.literal "package-prod-1")).getD init

theorem sample_permanent : ∃ entry ∈ sampleTable.entries,
    (∃ kept ∈ sampleRevoked.entries, kept.keyId = entry.keyId ∧
      kept.publicKey = entry.publicKey) ∧
    ∀ found, sampleRevoked.find entry.keyId = some found →
      found.publicKey = entry.publicKey ∧ entry.revoked = false := by
  have reachable : Reachable (· == basePoint) sampleTable :=
    .add .init (.literal "package-prod-1") basePoint false rfl
  obtain ⟨entry, inside⟩ := List.exists_mem_of_ne_nil sampleTable.entries (by decide +kernel)
  exact ⟨entry, inside, authorities_permanent reachable
    (.single (.revoked (.literal "package-prod-1") rfl)) entry inside⟩

end PoisonedOS.AuthorityStore
