import PoisonedOS.Packages.Records

/-!
# The manager as a map from identifiers to records

Seen through lookup, an operation on a record changes that record and no other,
and an import writes one record and may forget the record of one removed package
whose slot it takes. These two facts are all the rest of the development uses of
slots; both keep the identifiers distinct.
-/

namespace PoisonedOS

namespace PackageManager

/-- Every record is sound and no identifier occurs twice. -/
structure Sound (manager : PackageManager) : Prop where
  records : ∀ slot record, manager.records slot = some record → record.Sound
  distinct : SlotTable.Distinct PackageRecord.packageId manager.records

/-- The empty manager. -/
theorem init_sound : init.Sound where
  records := fun _ _ stored => nomatch stored
  distinct := fun _ _ _ _ stored => nomatch stored

variable {manager : PackageManager}

/-- A sound manager passes the persistence check. -/
theorem Sound.persisted_valid (sound : manager.Sound) :
    manager.persistedValid = true :=
  (persisted_valid_iff manager).mpr
    ⟨fun slot record stored => (sound.records slot record stored).persistable, sound.distinct⟩

/-- A found record is sound and carries the identifier it was found under. -/
theorem Sound.found (sound : manager.Sound) {packageId : CString} {record : PackageRecord}
    (found : manager.find packageId = some record) :
    record.Sound ∧ record.packageId = packageId := by
  obtain ⟨slot, -, stored, keyed⟩ := SlotTable.lookup_stored found
  exact ⟨sound.records slot record stored, keyed⟩

@[simp] theorem find_count (manager : PackageManager) (packageId : CString) :
    manager.count.find packageId = manager.find packageId := rfl

@[simp] theorem count_records (manager : PackageManager) : manager.count.records = manager.records :=
  rfl

@[simp] theorem find_init (packageId : CString) : init.find packageId = none := by
  rw [find, SlotTable.lookup_none, SlotTable.findSlot_none]
  intro slot record stored
  cases stored

/-- The generation is counted after the write or not at all. -/
def counted (manager : PackageManager) (isCounted : Bool) : PackageManager :=
  if isCounted then manager.count else manager

@[simp] theorem find_counted (manager : PackageManager) (isCounted : Bool) (packageId : CString) :
    (manager.counted isCounted).find packageId = manager.find packageId := by
  cases isCounted <;> rfl

@[simp] theorem counted_records (manager : PackageManager) (isCounted : Bool) :
    (manager.counted isCounted).records = manager.records := by
  cases isCounted <;> rfl

@[simp] theorem counted_generation (manager : PackageManager) (isCounted : Bool) :
    (manager.counted isCounted).generation =
      if isCounted then manager.generation + 1 else manager.generation := by
  cases isCounted <;> rfl

/-- An operation on a record that is not there does nothing; otherwise it writes
what the step returns into the record's slot. -/
theorem on_record_cases (manager : PackageManager) (packageId : CString)
    (step : PackageRecord → RecordStep) :
    (manager.find packageId = none ∧ manager.onRecord packageId step = (false, manager)) ∨
    ∃ slot record, manager.find packageId = some record ∧
      manager.findSlot packageId = some slot ∧ manager.records slot = some record ∧
      record.packageId = packageId ∧
      manager.onRecord packageId step =
        ((step record).result, (manager.store slot (step record).record).counted
          (step record).counted) := by
  cases found : manager.findSlot packageId with
  | none => exact .inl ⟨SlotTable.lookup_none.mpr found, by simp [onRecord, found]⟩
  | some slot =>
    obtain ⟨record, stored, keyed, looked⟩ := SlotTable.findSlot_some found
    exact .inr ⟨slot, record, looked, rfl, stored, keyed, by simp [onRecord, found, stored, counted]⟩

/-- Through lookup, an operation changes its own record and no other. -/
theorem find_on_record (manager : PackageManager) (packageId : CString)
    {step : PackageRecord → RecordStep}
    (keeps : ∀ record, (step record).record.packageId = record.packageId) (other : CString) :
    (manager.onRecord packageId step).2.find other =
      if other = packageId then (manager.find packageId).map fun record => (step record).record
      else manager.find other := by
  rcases manager.on_record_cases packageId step with
    ⟨absent, unchanged⟩ | ⟨slot, record, found, atSlot, -, keyed, changed⟩
  · rw [unchanged, absent]
    split
    · rename_i same
      rw [same, absent, Option.map_none]
    · rfl
  · rw [changed, find_counted]
    rw [found, Option.map_some]
    exact SlotTable.lookup_replace atSlot ((keeps record).trans keyed) other

theorem on_record_result (manager : PackageManager) (packageId : CString)
    (step : PackageRecord → RecordStep) :
    (manager.onRecord packageId step).1 =
      (manager.find packageId).any fun record => (step record).result := by
  rcases manager.on_record_cases packageId step with
    ⟨absent, unchanged⟩ | ⟨slot, record, found, -, -, -, changed⟩
  · rw [unchanged, absent]; rfl
  · rw [changed, found]; rfl

/-- The generation moves exactly when the step counts one. -/
theorem on_record_generation (manager : PackageManager) (packageId : CString)
    (step : PackageRecord → RecordStep) :
    (manager.onRecord packageId step).2.generation =
      if (manager.find packageId).any fun record => (step record).counted then
        manager.generation + 1
      else manager.generation := by
  rcases manager.on_record_cases packageId step with
    ⟨absent, unchanged⟩ | ⟨slot, record, found, -, -, -, changed⟩
  · rw [unchanged, absent]; rfl
  · rw [changed, found, counted_generation]; rfl

/-- Soundness of the table after an operation follows from that of the record. -/
theorem Sound.on_record (sound : manager.Sound) {packageId : CString}
    {step : PackageRecord → RecordStep}
    (keeps : ∀ record, (step record).record.packageId = record.packageId)
    (keepsSound : ∀ record, manager.find packageId = some record → (step record).record.Sound) :
    (manager.onRecord packageId step).2.Sound := by
  rcases manager.on_record_cases packageId step with
    ⟨-, unchanged⟩ | ⟨slot, record, found, -, stored, -, changed⟩
  · rw [unchanged]
    exact sound
  · rw [changed]
    constructor
    · intro place other storedOther
      rw [counted_records] at storedOther
      by_cases here : place = slot
      · subst here
        simp only [store, SlotTable.place, Function.update_self, Option.some.injEq] at storedOther
        exact storedOther ▸ keepsSound record found
      · simp only [store, SlotTable.place, Function.update_of_ne here] at storedOther
        exact sound.records place other storedOther
    · rw [counted_records]
      exact SlotTable.distinct_replace sound.distinct stored (keeps record)

variable {package : PackageImport} {slot : Fin packageMaxRecords} {previous : Option PackageRecord}

/-- The slot an import chooses, and why. -/
theorem import_slot_cases (chosen : manager.importSlot package = some (slot, previous)) :
    (∃ record, manager.find package.packageId = some record ∧
      manager.findSlot package.packageId = some slot ∧ manager.records slot = some record ∧
      ((record.transaction.state ≠ .removed ∧ package.updates record = true ∧
          previous = some record) ∨
        (record.transaction.state = .removed ∧ package.installs = true ∧ previous = none))) ∨
    (manager.find package.packageId = none ∧ package.installs = true ∧ previous = none ∧
      ∀ record, manager.records slot = some record → record.transaction.state = .removed) := by
  unfold importSlot at chosen
  split at chosen
  · rename_i place found
    obtain ⟨record, stored, -, looked⟩ := SlotTable.findSlot_some found
    simp only [stored] at chosen
    split at chosen
    · rename_i live
      split at chosen
      · rename_i updates
        cases chosen
        exact .inl ⟨record, looked, found, stored, .inl ⟨by simpa using live, updates, rfl⟩⟩
      · cases chosen
    · rename_i removed
      split at chosen
      · rename_i installs
        cases chosen
        exact .inl ⟨record, looked, found, stored, .inr ⟨by simpa using removed, installs, rfl⟩⟩
      · cases chosen
  · rename_i absent
    split at chosen
    · cases chosen
    rename_i installs
    refine .inr ⟨SlotTable.lookup_none.mpr absent, by simpa using installs, ?_⟩
    split at chosen
    · rename_i free isFree
      cases chosen
      refine ⟨rfl, fun record stored => ?_⟩
      have vacant := (Fin.find?_eq_some_iff.mp isFree).1
      rw [stored] at vacant
      cases vacant
    · simp only [Option.map_eq_some_iff, Prod.mk.injEq] at chosen
      obtain ⟨taken, isReclaimable, same, isNone⟩ := chosen
      subst same
      refine ⟨isNone.symm, fun record stored => ?_⟩
      have removed := (Fin.find?_eq_some_iff.mp isReclaimable).1
      rw [stored] at removed
      simpa [reclaimable] using removed

/-- What an import can do: nothing, or write one record into the slot it chose. -/
theorem import_cases (manager : PackageManager) (package : PackageImport) :
    manager.importPackage package = (false, manager) ∨
    ∃ updateType slot previous transaction, package.check = some updateType ∧
      manager.importSlot package = some (slot, previous) ∧
      PackageTransaction.begin (package.admission updateType previous).1
        (package.admission updateType previous).2 package.previousState
        package.protectedPackage = (.ok, some transaction) ∧
      manager.importPackage package =
        (true, (manager.store slot (package.record previous transaction)).count) := by
  unfold importPackage
  split
  · exact .inl rfl
  rename_i updateType checked
  split
  · exact .inl rfl
  rename_i slot previous chosen
  dsimp only
  split
  · rename_i transaction begun
    exact .inr ⟨updateType, slot, previous, transaction, checked, chosen, begun, rfl⟩
  · exact .inl rfl

/-- The record an accepted import leaves under its own identifier, and what it
leaves under any other: the record that was there, or nothing where a removed
package lost its slot. -/
theorem find_import (distinct : SlotTable.Distinct PackageRecord.packageId manager.records)
    (chosen : manager.importSlot package = some (slot, previous)) (transaction : PackageTransaction)
    (other : CString) :
    let record := package.record previous transaction
    let after := (manager.store slot record).count
    (other = package.packageId ∧ after.find other = some record) ∨
    (other ≠ package.packageId ∧ after.find other = manager.find other) ∨
    (other ≠ package.packageId ∧ after.find other = none ∧
      ∃ forgotten, manager.find other = some forgotten ∧
        forgotten.transaction.state = .removed) := by
  intro record after
  have keyed : record.packageId = package.packageId := rfl
  rcases import_slot_cases chosen with ⟨_, -, atSlot, -, -⟩ | ⟨absent, -, -, free⟩
  · have replaced : after.find other =
        if other = package.packageId then some record else manager.find other :=
      SlotTable.lookup_replace atSlot keyed other
    by_cases own : other = package.packageId
    · exact .inl ⟨own, by rw [replaced, if_pos own]⟩
    · exact .inr (.inl ⟨own, by rw [replaced, if_neg own]⟩)
  · have vacant : SlotTable.lookup PackageRecord.packageId manager.records record.packageId =
        none := absent
    have placed : after.find other =
        if other = package.packageId then some record
        else (manager.find other).filter fun _ =>
          !SlotTable.holds PackageRecord.packageId other (manager.records slot) :=
      SlotTable.lookup_fresh distinct vacant slot other
    by_cases own : other = package.packageId
    · exact .inl ⟨own, by rw [placed, if_pos own]⟩
    rw [if_neg own] at placed
    cases held : SlotTable.holds PackageRecord.packageId other (manager.records slot) with
    | false =>
      rw [held] at placed
      exact .inr (.inl ⟨own, placed.trans (by cases manager.find other <;> rfl)⟩)
    | true =>
      obtain ⟨displaced, stored, keyedOther⟩ := SlotTable.holds_iff.mp held
      have found : manager.find other = some displaced :=
        (SlotTable.lookup_iff distinct).mpr ⟨slot, stored, keyedOther⟩
      rw [held] at placed
      exact .inr (.inr ⟨own, placed.trans (by simp), displaced, found, free displaced stored⟩)

/-- An accepted import keeps the identifiers distinct. -/
theorem import_distinct (distinct : SlotTable.Distinct PackageRecord.packageId manager.records)
    (chosen : manager.importSlot package = some (slot, previous))
    (transaction : PackageTransaction) :
    SlotTable.Distinct PackageRecord.packageId
      (manager.store slot (package.record previous transaction)).records := by
  rcases import_slot_cases chosen with ⟨found, looked, -, stored, -⟩ | ⟨absent, -, -, -⟩
  · obtain ⟨_, -, -, keyed⟩ := SlotTable.lookup_stored looked
    exact SlotTable.distinct_replace distinct stored keyed.symm
  · have vacant : SlotTable.lookup PackageRecord.packageId manager.records
        (package.record previous transaction).packageId = none := absent
    exact SlotTable.distinct_fresh distinct vacant slot

/-- An import keeps the table sound. -/
theorem Sound.import (sound : manager.Sound) (package : PackageImport) :
    (manager.importPackage package).2.Sound := by
  rcases manager.import_cases package with
    unchanged | ⟨updateType, slot, previous, transaction, checked, chosen, begun, written⟩
  · rw [unchanged]
    exact sound
  · rw [written]
    have previousSound : ∀ record, previous = some record → record.Sound := by
      intro record isPrevious
      rcases import_slot_cases chosen with ⟨found, -, -, stored, live | removed⟩ | fresh
      · rw [live.2.2] at isPrevious
        exact Option.some.inj isPrevious ▸ sound.records slot found stored
      · rw [removed.2.2] at isPrevious
        cases isPrevious
      · rw [fresh.2.2.1] at isPrevious
        cases isPrevious
    have recordSound := PackageRecord.sound_of_import checked previousSound begun
    constructor
    · intro place other storedOther
      by_cases here : place = slot
      · subst here
        simp only [count_records, store, SlotTable.place, Function.update_self,
          Option.some.injEq] at storedOther
        exact storedOther ▸ recordSound
      · simp only [count_records, store, SlotTable.place, Function.update_of_ne here] at storedOther
        exact sound.records place other storedOther
    · exact import_distinct sound.distinct chosen transaction

end PackageManager

end PoisonedOS
