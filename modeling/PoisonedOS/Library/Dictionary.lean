import Mathlib.Data.List.Dedup

/-!
# Dictionaries of records

A dictionary is made from a list of records by taking each under its key. Where several have one
key, the last of them stays. Of records with distinct keys each is found.
-/

namespace PoisonedOS.Dictionary

variable {Key Value : Type} [DecidableEq Key] (key : Value → Key) (records : List Value)

/-- The last record with a key, as a dictionary comprehension keeps it. -/
def lastWith (wanted : Key) : Option Value :=
  records.reverse.find? fun record => decide (key record = wanted)

/-- The items of such a dictionary. -/
def items : List (Key × Value) :=
  (records.map key).dedup.filterMap fun wanted =>
    (lastWith key records wanted).map fun record => (wanted, record)

variable {key records} {wanted : Key} {record : Value}

theorem lastWith_some (found : lastWith key records wanted = some record) :
    record ∈ records ∧ key record = wanted :=
  ⟨List.mem_reverse.mp (List.mem_of_find?_eq_some found), by simpa using List.find?_some found⟩

/-- A record that is there is found, or a later one with its key. -/
theorem exists_lastWith (isRecord : record ∈ records) :
    ∃ last, lastWith key records (key record) = some last := by
  rw [← Option.isSome_iff_exists, lastWith, List.find?_isSome]
  exact ⟨record, List.mem_reverse.mpr isRecord, by simp⟩

/-- Of records with distinct keys each is found. -/
theorem lastWith_of_nodup (distinct : (records.map key).Nodup) (isRecord : record ∈ records) :
    lastWith key records (key record) = some record := by
  have there : ∃ last, lastWith key records (key record) = some last := exists_lastWith isRecord
  obtain ⟨last, isLast⟩ := there
  obtain ⟨isOther, same⟩ := lastWith_some isLast
  rw [isLast, List.inj_on_of_nodup_map distinct isOther isRecord same]

theorem mem_items : (wanted, record) ∈ items key records ↔
    lastWith key records wanted = some record := by
  rw [items, List.mem_filterMap]
  constructor
  · rintro ⟨other, -, isItem⟩
    obtain ⟨found, isFound, same⟩ := Option.map_eq_some_iff.mp isItem
    obtain ⟨rfl, rfl⟩ := Prod.mk.inj same
    exact isFound
  · intro found
    obtain ⟨isRecord, rfl⟩ := lastWith_some found
    exact ⟨key record, List.mem_dedup.mpr (List.mem_map_of_mem isRecord), by rw [found]; rfl⟩

end PoisonedOS.Dictionary
