import PoisonedOS.Packages.Cell
import PoisonedOS.Packages.Records

/-!
# When a record and its directories agree

The record says which archive should be in the active directory, and where a
failed or reverted step returns to. Agreement is the invariant that relates the
two: it follows the lifecycle state and the nested update state, and says for
each pair of them that belongs together which trees the active, candidate and
rollback directories hold.

Each operation of the manager has one lemma here, about the record it leaves and
the directories its storage function leaves beside it. The conditions that the
lemmas ask for beyond agreement are those the code does not check.
-/

namespace PoisonedOS

open RecordOperation (apply)
open PackageTransaction (activate_cases allowed receive_cases report_health_cases
  verify_payload_cases)

section Contents

variable {Tree : Type} (unpacked : CString → Tree → Prop)

def Holds (digest : CString) (content : Option Tree) : Prop :=
  ∃ tree, content = some tree ∧ unpacked digest tree

def HoldsAtMost (digest : CString) (content : Option Tree) : Prop :=
  ∀ tree, content = some tree → unpacked digest tree

variable {unpacked}

variable {digest : CString}

theorem Holds.at_most {content : Option Tree} (holds : Holds unpacked digest content) :
    HoldsAtMost unpacked digest content := by
  obtain ⟨tree, isContent, isUnpacked⟩ := holds
  intro other isOther
  rw [isContent] at isOther
  cases isOther
  exact isUnpacked

@[simp] theorem holds_some {tree : Tree} :
    Holds unpacked digest (some tree) ↔ unpacked digest tree := by simp [Holds]

@[simp] theorem not_holds_none : ¬ Holds unpacked digest none := by simp [Holds]

@[simp] theorem holds_at_most_some {tree : Tree} :
    HoldsAtMost unpacked digest (some tree) ↔ unpacked digest tree := by simp [HoldsAtMost]

@[simp] theorem holds_at_most_none : HoldsAtMost unpacked digest none := by
  simp [HoldsAtMost]

end Contents

namespace PackageRecord

variable {Tree : Type}

/-- The record and the directories belong together. -/
structure Agrees (unpacked : CString → Tree → Prop) (record : PackageRecord)
    (directories : Directories Tree) : Prop where
  begun : record.transaction.state ≠ .installed
  first : record.transaction.rollbackState = .removed → record.previousVersion.isEmpty = true
  returns : record.transaction.state = .staged ∨ record.transaction.state = .verified →
    record.transaction.rollbackState = .removed ∨ record.transaction.rollbackState = .active ∨
      record.transaction.rollbackState = .disabled
  activating : record.transaction.contentUpdate.state = .activating →
    directories.candidate = none ∧
      (record.transaction.state = .verified ∨
        (record.transaction.state = .quarantined ∧ directories.active = none))
  live : record.transaction.state = .active ∨ record.transaction.state = .disabled →
    ((record.transaction.contentUpdate.state = .healthy ∨
        record.transaction.contentUpdate.state = .rolledBack) ∧
      Holds unpacked record.digest directories.active ∧
      (record.transaction.contentUpdate.state = .healthy → record.previousVersion.isEmpty = false →
        HoldsAtMost unpacked record.previousDigest directories.rollback)) ∨
    ((record.transaction.contentUpdate.state = .discovered ∨
        record.transaction.contentUpdate.state = .receiving) ∧
      (record.transaction.rollbackState = .active ∨ record.transaction.rollbackState = .disabled) ∧
      Holds unpacked record.previousDigest directories.active)
  staged : record.transaction.state = .staged →
    record.transaction.contentUpdate.state = .staged ∧
      (record.transaction.rollbackState ≠ .removed →
        Holds unpacked record.previousDigest directories.active)
  verified : record.transaction.state = .verified →
    (record.transaction.contentUpdate.state = .verified ∧
      HoldsAtMost unpacked record.digest directories.candidate ∧
      (record.transaction.rollbackState ≠ .removed →
        Holds unpacked record.previousDigest directories.active)) ∨
    (record.transaction.contentUpdate.state = .activating ∧
      Holds unpacked record.digest directories.active ∧
      (record.transaction.rollbackState ≠ .removed →
        Holds unpacked record.previousDigest directories.rollback))

namespace Agrees

variable {unpacked : CString → Tree → Prop} {record : PackageRecord}
  {directories : Directories Tree} (sound : record.Sound)
  (agrees : record.Agrees unpacked directories)
include agrees

/-- A package that is out of use asks nothing of its directories. -/
theorem out_of_use {other : Directories Tree}
    (idle : record.transaction.state = .quarantined ∨ record.transaction.state = .removed)
    (settled : record.transaction.contentUpdate.state = .activating →
      other.candidate = none ∧ record.transaction.state = .quarantined ∧ other.active = none) :
    record.Agrees unpacked other := by
  constructor <;> grind [agrees.begun, agrees.first]

include sound in
/-- A chunk can complete the reception of a package that is not installed only as
a first installation. -/
theorem receive (bytes : UInt32)
    (installed : record.transaction.state = .quarantined ∨ record.transaction.state = .removed →
      record.transaction.rollbackState ≠ .removed →
      record.transaction.contentUpdate.state = .discovered ∨
        record.transaction.contentUpdate.state = .receiving →
      record.transaction.contentUpdate.receivedBytes + bytes ≠
        record.transaction.contentUpdate.contentBytes) :
    ((RecordOperation.receive bytes).apply record).record.Agrees unpacked directories := by
  obtain ⟨begun, first, returns, activating, live, staged, verified⟩ := agrees
  simp only [apply, PackageRecord.receive]
  rcases receive_cases sound.initialized bytes with
    unchanged | ⟨discovered, opened⟩ | ⟨open_, -, added⟩ | ⟨open_, complete, completed⟩
  · rw [unchanged]
    exact ⟨begun, first, returns, activating, live, staged, verified⟩
  · rw [opened]
    constructor <;> grind
  · rw [added]
    constructor <;> grind
  · rw [completed]
    have states := record.transaction.state.eq_cases
    constructor <;> grind

/-- Enabling and disabling keep the trees where they are. -/
theorem setEnabled (enabled : Bool) :
    ((RecordOperation.setEnabled enabled enabled).apply record).record.Agrees unpacked
      directories := by
  obtain ⟨begun, first, returns, activating, live, staged, verified⟩ := agrees
  simp only [apply, PackageRecord.setEnabled]
  split
  · exact ⟨begun, first, returns, activating, live, staged, verified⟩
  · rcases record.transaction.transition_cases (if enabled then .active else .disabled) with
      unchanged | ⟨edge, -, settled, moved⟩
    · rw [unchanged]
      exact ⟨begun, first, returns, activating, live, staged, verified⟩
    · rw [moved]
      have states := record.transaction.state.eq_cases
      cases enabled <;> simp only [if_true, Bool.false_eq_true, if_false] at settled edge ⊢ <;>
        constructor <;> grind [allowed]

end Agrees

section Moves

variable {unpacked : CString → Tree → Prop} {record : PackageRecord}
  {active candidate rollback quarantine swap : Option Tree}

/-- Discarding the candidate keeps agreement. -/
theorem Agrees.without_candidate
    (agrees : record.Agrees unpacked ⟨active, candidate, rollback, quarantine, swap⟩)
    (other : Option Tree) : record.Agrees unpacked ⟨active, none, rollback, other, swap⟩ := by
  cases agrees
  constructor <;> grind [holds_at_most_none]

/-- A package with no active tree asks nothing of the active directory, unless its
update is activating. -/
theorem Agrees.of_inactive
    (agrees : record.Agrees unpacked ⟨none, candidate, rollback, quarantine, swap⟩)
    (settled : record.transaction.contentUpdate.state ≠ .activating)
    (otherActive otherQuarantine : Option Tree) :
    record.Agrees unpacked ⟨otherActive, candidate, rollback, otherQuarantine, swap⟩ := by
  cases agrees
  constructor <;> grind [not_holds_none]

variable {tree : Tree}

/-- An accepted activation has moved the candidate into place and the active tree
behind it. -/
theorem Agrees.activate_accepted (sound : record.Sound)
    (agrees : record.Agrees unpacked ⟨active, some tree, rollback, quarantine, swap⟩)
    (accepted : ((RecordOperation.activate true).apply record).result = true) :
    ((RecordOperation.activate true).apply record).record.Agrees unpacked
      ⟨some tree, none, active, quarantine, swap⟩ := by
  cases agrees
  simp only [apply, PackageRecord.activate, Bool.not_true, Bool.and_false,
    Bool.false_eq_true, if_false] at accepted ⊢
  rcases activate_cases sound.initialized sound.admitted with
    ⟨-, unchanged⟩ | ⟨isVerified, ready, activated⟩
  · rw [unchanged] at accepted
    cases accepted
  · rw [activated]
    constructor <;> grind [holds_some, holds_at_most_some]

/-- A refused one leaves the record and has lost the candidate and the rollback
tree. -/
theorem Agrees.activate_refused (sound : record.Sound)
    (agrees : record.Agrees unpacked ⟨active, some tree, rollback, quarantine, swap⟩)
    (refused : ((RecordOperation.activate true).apply record).result = false)
    (other : Option Tree) :
    ((RecordOperation.activate true).apply record).record.Agrees unpacked
      ⟨active, none, none, other, swap⟩ := by
  cases agrees
  simp only [apply, PackageRecord.activate, Bool.not_true, Bool.and_false,
    Bool.false_eq_true, if_false] at refused ⊢
  rcases activate_cases sound.initialized sound.admitted with
    ⟨unready, unchanged⟩ | ⟨-, -, activated⟩
  · rw [unchanged]
    constructor <;> grind [holds_at_most_none]
  · rw [activated] at refused
    cases refused

/-- An accepted healthy report makes the package active. -/
theorem Agrees.healthy_accepted (sound : record.Sound)
    (agrees : record.Agrees unpacked ⟨some tree, candidate, rollback, quarantine, swap⟩)
    (accepted : ((RecordOperation.reportHealth true).apply record).result = true) :
    ((RecordOperation.reportHealth true).apply record).record.Agrees unpacked
      ⟨some tree, candidate, rollback, quarantine, swap⟩ := by
  cases agrees
  simp only [apply, PackageRecord.reportHealth] at accepted ⊢
  rcases report_health_cases sound.initialized sound.admitted true with
    ⟨-, unchanged⟩ | ⟨isActivating, reported⟩
  · rw [unchanged] at accepted
    cases accepted
  · rw [reported]
    simp only [if_true]
    constructor <;> grind [Holds.at_most]

/-- An accepted unhealthy report returns to where the record says, and the
rollback tree is active again. -/
theorem Agrees.unhealthy_accepted (sound : record.Sound)
    (agrees : record.Agrees unpacked ⟨some tree, candidate, rollback, quarantine, swap⟩)
    (accepted : ((RecordOperation.reportHealth false).apply record).result = true)
    (other : Option Tree) :
    ((RecordOperation.reportHealth false).apply record).record.Agrees unpacked
      ⟨rollback, candidate, none, other, swap⟩ := by
  cases agrees
  have nonempty : record.previousDigest.isEmpty = false :=
    ContentUpdate.bounded_digest_nonempty sound.previousDigested
  simp only [apply, PackageRecord.reportHealth] at accepted ⊢
  rcases report_health_cases sound.initialized sound.admitted false with
    ⟨-, unchanged⟩ | ⟨isActivating, reported⟩
  · rw [unchanged] at accepted
    cases accepted
  · rw [reported]
    simp only [Bool.false_eq_true, if_false, nonempty]
    constructor <;> grind [holds_at_most_none]

theorem unhealthy_refused (sound : record.Sound)
    (refused : ((RecordOperation.reportHealth false).apply record).result = false) :
    record.transaction.contentUpdate.state ≠ .activating ∧
      ((RecordOperation.reportHealth false).apply record).record = record := by
  simp only [apply, PackageRecord.reportHealth] at refused ⊢
  rcases report_health_cases sound.initialized sound.admitted false with
    ⟨settled, unchanged⟩ | ⟨-, reported⟩
  · rw [unchanged]
    exact ⟨settled, rfl⟩
  · rw [reported] at refused
    cases refused

/-- An accepted removal asks nothing of the directories any more. -/
theorem Agrees.remove_accepted
    (agrees : record.Agrees unpacked ⟨some tree, candidate, rollback, quarantine, swap⟩)
    (accepted : ((RecordOperation.remove true).apply record).result = true) :
    ((RecordOperation.remove true).apply record).record.Agrees unpacked
      ⟨none, candidate, some tree, quarantine, swap⟩ := by
  cases agrees
  simp only [apply, PackageRecord.remove] at accepted ⊢
  split at accepted
  · cases accepted
  rename_i permitted
  rw [if_neg permitted]
  rcases record.transaction.transition_cases .removed with unchanged | ⟨edge, -, -, moved⟩
  · rw [unchanged] at accepted
    cases accepted
  · rw [moved]
    have states := record.transaction.state.eq_cases
    constructor <;> grind [allowed]

/-- A refused one has lost the rollback tree, which only an activating update of
an installed package needs. -/
theorem Agrees.without_rollback
    (agrees : record.Agrees unpacked ⟨active, candidate, rollback, quarantine, swap⟩)
    (unneeded : record.transaction.contentUpdate.state = .activating →
      record.transaction.rollbackState ≠ .removed → rollback = none) :
    record.Agrees unpacked ⟨active, candidate, none, quarantine, swap⟩ := by
  cases agrees
  constructor <;> grind [holds_at_most_none, not_holds_none]

theorem Agrees.rollback_accepted {previous : Tree} (sound : record.Sound)
    (agrees : record.Agrees unpacked ⟨some tree, candidate, some previous, quarantine, swap⟩)
    (accepted : ((RecordOperation.rollback true).apply record).result = true) :
    ((RecordOperation.rollback true).apply record).record.Agrees unpacked
      ⟨some previous, candidate, some tree, quarantine, none⟩ := by
  cases agrees
  rcases PackageRecord.rollback_cases sound.admitted true with
    unchanged | ⟨-, retained, isLive, revertible, swapped⟩
  · rw [apply, unchanged] at accepted
    cases accepted
  · rw [apply, swapped]
    constructor <;> grind [holds_some, holds_at_most_some]

/-- An accepted quarantine asks nothing of the directories, unless the update was
activating: then its tree has left. -/
theorem Agrees.quarantine_accepted {otherActive otherCandidate otherQuarantine : Option Tree}
    (agrees : record.Agrees unpacked ⟨active, candidate, rollback, quarantine, swap⟩)
    (accepted : (RecordOperation.quarantine.apply record).result = true)
    (left : candidate = none → otherActive = none ∧ otherCandidate = none) :
    (RecordOperation.quarantine.apply record).record.Agrees unpacked
      ⟨otherActive, otherCandidate, rollback, otherQuarantine, swap⟩ := by
  cases agrees
  simp only [apply, PackageRecord.quarantine] at accepted ⊢
  split at accepted
  · cases accepted
  rename_i permitted
  rw [if_neg permitted]
  constructor <;> grind

/-- A verification that is refused, with the candidate gone, keeps agreement. -/
theorem Agrees.verify_refused (sound : record.Sound) (digest : CString)
    (agrees : record.Agrees unpacked ⟨active, none, rollback, quarantine, swap⟩)
    (refused : ((RecordOperation.verify digest true).apply record).result = false) :
    ((RecordOperation.verify digest true).apply record).record.Agrees unpacked
      ⟨active, none, rollback, quarantine, swap⟩ := by
  obtain ⟨begun, first, returns, activating, live, staged, verified⟩ := agrees
  simp only [apply, PackageRecord.verify, Bool.not_true, Bool.false_eq_true,
    if_false] at refused ⊢
  rcases verify_payload_cases sound.initialized digest with
    ⟨-, unchanged⟩ | ⟨isStaged, -, rejected⟩ | ⟨isStaged, -, -, mismatched⟩ | ⟨-, -, -, accepted⟩
  · rw [unchanged]
    exact ⟨begun, first, returns, activating, live, staged, verified⟩
  · rw [rejected]
    constructor <;> grind
  · rw [mismatched]
    constructor <;> grind
  · rw [accepted] at refused
    cases refused

theorem Agrees.verify_accepted (sound : record.Sound) {digest : CString}
    (agrees : record.Agrees unpacked ⟨active, candidate, rollback, quarantine, swap⟩)
    (accepted : ((RecordOperation.verify digest true).apply record).result = true)
    {extracted : Option Tree} (holds : HoldsAtMost unpacked digest extracted) :
    ((RecordOperation.verify digest true).apply record).record.Agrees unpacked
      ⟨active, extracted, rollback, quarantine, swap⟩ := by
  cases agrees
  simp only [apply, PackageRecord.verify, Bool.not_true, Bool.false_eq_true,
    if_false] at accepted ⊢
  rcases verify_payload_cases sound.initialized digest with
    ⟨-, unchanged⟩ | ⟨-, -, rejected⟩ | ⟨-, -, -, mismatched⟩ | ⟨isStaged, updateStaged, same, moved⟩
  · rw [unchanged] at accepted
    cases accepted
  · rw [rejected] at accepted
    cases accepted
  · rw [mismatched] at accepted
    cases accepted
  · rw [moved]
    have isDigest : record.digest = digest :=
      (sound.current (by rw [updateStaged]; decide)).1.trans same
    constructor <;> grind

/-- A rejected payload asks nothing of the directories. -/
theorem Agrees.verify_rejected {directories : Directories Tree} (digest : CString)
    (agrees : record.Agrees unpacked directories) (other : Directories Tree) :
    ((RecordOperation.verify digest false).apply record).record.Agrees unpacked other := by
  cases agrees
  simp only [apply, PackageRecord.verify, PackageRecord.quarantineBoth,
    Bool.not_false, if_true]
  constructor <;> grind

end Moves

/-- A first installation asks nothing of the directories. -/
theorem agrees_of_installation {unpacked : CString → Tree → Prop} {package : PackageImport}
    {transaction : PackageTransaction} (state : transaction.state = .removed)
    (discovered : transaction.contentUpdate.state = .discovered) (directories : Directories Tree) :
    (package.record none transaction).Agrees unpacked directories := by
  constructor <;> simp_all [PackageImport.record]

/-- An update of a settled package keeps its tree. -/
theorem agrees_of_update {unpacked : CString → Tree → Prop} {package : PackageImport}
    {record : PackageRecord} {directories : Directories Tree}
    (agrees : record.Agrees unpacked directories) {transaction : PackageTransaction}
    (discovered : transaction.contentUpdate.state = .discovered)
    (live : record.transaction.state = .active ∨ record.transaction.state = .disabled)
    (same : transaction.state = record.transaction.state ∧
      transaction.rollbackState = record.transaction.state)
    (settled : record.transaction.contentUpdate.state ≠ .discovered ∧
      record.transaction.contentUpdate.state ≠ .receiving) :
    (package.record (some record) transaction).Agrees unpacked directories := by
  have settledTree := agrees.live live
  constructor <;> simp only [PackageImport.record, Option.map_some, Option.getD_some] <;> grind

end PackageRecord

end PoisonedOS
