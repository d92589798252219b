import Mathlib.Data.List.Sort
import PoisonedOS.Library.Dictionary

/-!
# The compatibility of protocol snapshots

A snapshot of the protocol's schema is compared with an earlier one. Messages and enums may come,
and so may their members, but none may go or change, and what the earlier snapshot reserves may
not be used.

Members are compared by their names and by their numbers. An enum may give one number to several
values; the last of them stands for the number, in both snapshots.

The reservations themselves are not compared. A snapshot that drops one passes, and the next one
may use what was reserved.
-/

namespace PoisonedOS.Protocol

open Dictionary

/-! ## Snapshots -/

/-- A member of a message or an enum; a value of an enum has no more. -/
structure Member where
  name : String
  number : Int
deriving DecidableEq

/-- A field of a message. -/
structure Field extends Member where
  type : Option String
  typeName : Option String
  cardinality : Option String
  oneof : Option String
deriving DecidableEq

/-- A message with its fields, or an enum with its values. A list that is not there is empty. -/
structure Scope (Value : Type) where
  name : String
  members : List Value
  reservedNames : List String
  reservedNumbers : List Int

/-- The parts of a snapshot that are compared. -/
structure Snapshot where
  messages : List (Scope Field)
  enums : List (Scope Member)

/-- What distinguishes the comparison of messages from that of enums: the words of the errors, and
the properties that are compared besides name and number. -/
structure Kind (Value : Type) where
  scopeWord : String
  memberWord : String
  numberWord : String
  member : Value → Member
  properties : List (String × (Value → Option String))
  determined : ∀ old new, member old = member new →
    (∀ property ∈ properties, property.2 old = property.2 new) → old = new

/-- Messages and their fields. -/
def fieldKind : Kind Field where
  scopeWord := "message"
  memberWord := "field"
  numberWord := "tag"
  member := Field.toMember
  properties := [("type", Field.type), ("typeName", Field.typeName),
    ("cardinality", Field.cardinality), ("oneof", Field.oneof)]
  determined := by
    rintro ⟨old, type, typeName, cardinality, oneof⟩ ⟨new, type', typeName', cardinality', oneof'⟩
      same equal
    simp only [List.forall_mem_cons] at equal
    obtain ⟨rfl, rfl, rfl, rfl, -⟩ := equal
    cases same
    rfl

/-- Enums and their values. -/
def valueKind : Kind Member where
  scopeWord := "enum"
  memberWord := "enum value"
  numberWord := "number"
  member := id
  properties := []
  determined := fun _ _ same _ => same

/-- `_member_errors`. -/
def memberErrors (kind owner : String) (previous current : List Member) : List String :=
  ((items Member.name previous).flatMap fun (name, old) =>
    match lastWith Member.name current name with
    | none => ["removed " ++ kind ++ " " ++ owner ++ "." ++ name ++ " (tag " ++
        toString old.number ++ ")"]
    | some new =>
      if new.number ≠ old.number then
        ["renumbered " ++ kind ++ " " ++ owner ++ "." ++ name ++ " from " ++
          toString old.number ++ " to " ++ toString new.number]
      else []) ++
  (items Member.number previous).flatMap fun (number, old) =>
    match lastWith Member.number current number with
    | none => []
    | some new =>
      if new.name ≠ old.name then
        ["reused tag " ++ owner ++ "." ++ toString number ++ ": " ++ old.name ++ " -> " ++ new.name]
      else []

section Scopes

variable {Value : Type} (kind : Kind Value)

/-- The errors of one member of the current snapshot. -/
def usageErrors (name : String) (old : Scope Value) (value : Value) : List String :=
  let member := kind.member value
  let field := kind.memberWord ++ " " ++ name ++ "." ++ member.name
  (if member.number ∈ old.reservedNumbers then
    [field ++ " uses previously reserved " ++ kind.numberWord ++ " " ++ toString member.number]
  else []) ++
  (if member.name ∈ old.reservedNames then [field ++ " uses previously reserved name"] else []) ++
  match lastWith (fun value => (kind.member value).name) old.members member.name with
  | none => []
  | some oldValue =>
    kind.properties.flatMap fun (property, read) =>
      if read oldValue ≠ read value then
        ["changed " ++ kind.memberWord ++ " " ++ name ++ "." ++ member.name ++ " " ++ property]
      else []

/-- The errors of the messages, or of the enums. -/
def scopeErrors (previous current : List (Scope Value)) : List String :=
  (items Scope.name previous).flatMap fun (name, old) =>
    match lastWith Scope.name current name with
    | none => ["removed " ++ kind.scopeWord ++ " " ++ name]
    | some new =>
      memberErrors kind.memberWord name (old.members.map kind.member)
        (new.members.map kind.member) ++
          new.members.flatMap (usageErrors kind name old)

end Scopes

/-- `compatibility_errors`. -/
def compatibilityErrors (previous current : Snapshot) : List String :=
  (scopeErrors fieldKind previous.messages current.messages ++
    scopeErrors valueKind previous.enums current.enums).dedup.insertionSort (· ≤ ·)

/-! ## What is asked -/

/-- Names are distinct in their scopes, and so are the numbers of fields. -/
structure WellFormed (snapshot : Snapshot) : Prop where
  messages : (snapshot.messages.map Scope.name).Nodup
  enums : (snapshot.enums.map Scope.name).Nodup
  fields : ∀ message ∈ snapshot.messages, (message.members.map (·.name)).Nodup
  numbers : ∀ message ∈ snapshot.messages, (message.members.map (·.number)).Nodup
  values : ∀ enum ∈ snapshot.enums, (enum.members.map Member.name).Nodup

section Laws

variable {Value : Type} (kind : Kind Value)

/-- The scopes are all there, with all their members as they were, and no member uses what was
reserved. -/
def Preserved (previous current : List (Scope Value)) : Prop :=
  ∀ old ∈ previous, ∃ new ∈ current, new.name = old.name ∧ (∀ value ∈ old.members,
    value ∈ new.members) ∧ ∀ value ∈ new.members,
      (kind.member value).number ∉ old.reservedNumbers ∧
        (kind.member value).name ∉ old.reservedNames

/-- A member uses what was reserved in the first snapshot and is not reserved in the second. -/
def Reuses (first second third : List (Scope Value)) : Prop :=
  ∃ old ∈ first, ∃ middle ∈ second, ∃ new ∈ third, middle.name = old.name ∧ new.name = old.name ∧
    ∃ value ∈ new.members,
      (kind.member value).number ∈ old.reservedNumbers ∧
        (kind.member value).number ∉ middle.reservedNumbers ∨
      (kind.member value).name ∈ old.reservedNames ∧
        (kind.member value).name ∉ middle.reservedNames

end Laws

/-- What is asked of the gate: what passes is compatible, and passing composes. -/
structure Gate (first second third : Snapshot) : Prop where
  messages : compatibilityErrors first second = [] →
    Preserved fieldKind first.messages second.messages
  enums : compatibilityErrors first second = [] → Preserved valueKind first.enums second.enums
  composes : compatibilityErrors first second = [] → compatibilityErrors second third = [] →
    compatibilityErrors first third = []

/-! ## Members -/

/-- A number stands for the same name in both snapshots. -/
def SameLast (previous current : List Member) : Prop :=
  ∀ number old new, lastWith Member.number previous number = some old →
    lastWith Member.number current number = some new → new.name = old.name

/-- No error of members says that all are there and that the numbers stand for the same. -/
theorem memberErrors_nil_iff {kind owner : String} {previous current : List Member}
    (distinct : (previous.map Member.name).Nodup)
    (currentDistinct : (current.map Member.name).Nodup) :
    memberErrors kind owner previous current = [] ↔
      (∀ member ∈ previous, member ∈ current) ∧ SameLast previous current := by
  rw [memberErrors, List.append_eq_nil_iff, List.flatMap_eq_nil_iff, List.flatMap_eq_nil_iff]
  refine and_congr ⟨fun noErrors member isMember => ?_, ?_⟩ ⟨fun noErrors => ?_, ?_⟩
  · have noError := noErrors (member.name, member)
      (mem_items.mpr (lastWith_of_nodup distinct isMember))
    dsimp only at noError
    split at noError
    · cases noError
    rename_i new found
    split at noError
    · cases noError
    rename_i sameNumber
    obtain ⟨isNew, sameName⟩ := lastWith_some found
    have same : new = member := by
      cases new
      cases member
      rw [ne_eq, not_not] at sameNumber
      cases sameName
      cases sameNumber
      rfl
    exact same ▸ isNew
  · rintro kept ⟨name, old⟩ isItem
    obtain ⟨isOld, rfl⟩ := lastWith_some (mem_items.mp isItem)
    dsimp only
    rw [lastWith_of_nodup currentDistinct (kept old isOld)]
    exact if_neg (not_not.mpr rfl)
  · intro number old new isOld isNew
    have noError := noErrors (number, old) (mem_items.mpr isOld)
    dsimp only at noError
    rw [isNew] at noError
    dsimp only at noError
    split at noError
    · cases noError
    · rename_i same
      exact not_not.mp same
  · rintro same ⟨number, old⟩ isItem
    dsimp only
    cases isNew : lastWith Member.number current number with
    | none => rfl
    | some new => exact if_neg (not_not.mpr (same number old new (mem_items.mp isItem) isNew))

theorem SameLast.trans {first second third : List Member} (kept : ∀ member ∈ first, member ∈ second)
    (same : SameLast first second) (again : SameLast second third) : SameLast first third := by
  intro number old new isOld isNew
  obtain ⟨isMember, rfl⟩ := lastWith_some isOld
  have there : ∃ middle, lastWith Member.number second old.number = some middle :=
    exists_lastWith (kept old isMember)
  obtain ⟨middle, isMiddle⟩ := there
  exact (again _ middle new isMiddle isNew).trans (same _ old middle isOld isMiddle)

/-! ## Scopes -/

section Scopes

variable {Value : Type} {kind : Kind Value}

/-- The names of a scope's members are distinct. -/
def Distinct (kind : Kind Value) (scopes : List (Scope Value)) : Prop :=
  (scopes.map Scope.name).Nodup ∧
    ∀ scope ∈ scopes, (scope.members.map fun value => (kind.member value).name).Nodup

/-- A scope has all members of an earlier one and uses nothing that was reserved. -/
structure Extends (kind : Kind Value) (old new : Scope Value) : Prop where
  kept : ∀ value ∈ old.members, value ∈ new.members
  last : SameLast (old.members.map kind.member) (new.members.map kind.member)
  unreserved : ∀ value ∈ new.members, (kind.member value).number ∉ old.reservedNumbers ∧
    (kind.member value).name ∉ old.reservedNames

theorem usageErrors_nil_iff {name : String} {old : Scope Value} {value : Value} :
    usageErrors kind name old value = [] ↔
      ((kind.member value).number ∉ old.reservedNumbers ∧
        (kind.member value).name ∉ old.reservedNames) ∧
      ∀ oldValue, lastWith (fun value => (kind.member value).name) old.members
        (kind.member value).name = some oldValue →
          ∀ property ∈ kind.properties, property.2 oldValue = property.2 value := by
  rw [usageErrors]
  dsimp only
  rw [List.append_eq_nil_iff, List.append_eq_nil_iff]
  refine and_congr (and_congr ?_ ?_) ?_
  · split <;> simp_all
  · split <;> simp_all
  · cases lastWith (fun value => (kind.member value).name) old.members (kind.member value).name with
    | none => simp
    | some oldValue =>
      rw [List.flatMap_eq_nil_iff]
      constructor
      · rintro noErrors other isOther ⟨property, read⟩ isProperty
        obtain rfl := Option.some.inj isOther
        have noError := noErrors (property, read) isProperty
        dsimp only at noError
        split at noError
        · cases noError
        · rename_i same
          exact not_not.mp same
      · rintro same ⟨property, read⟩ isProperty
        exact if_neg (not_not.mpr (same oldValue rfl (property, read) isProperty))

/-- No error of scopes says that each is there and extends the earlier one.

Proof: the members are all there by their names and numbers, and their properties are compared
when the members of the current scope are gone through. -/
theorem scopeErrors_nil_iff {previous current : List (Scope Value)}
    (distinct : Distinct kind previous) (currentDistinct : Distinct kind current) :
    scopeErrors kind previous current = [] ↔
      ∀ old ∈ previous, ∃ new ∈ current, new.name = old.name ∧ Extends kind old new := by
  have membersNil {old new : Scope Value} (isOld : old ∈ previous) (isNew : new ∈ current)
      (name : String) : memberErrors kind.memberWord name (old.members.map kind.member)
        (new.members.map kind.member) ++ new.members.flatMap (usageErrors kind name old) = [] ↔
          Extends kind old new := by
    have oldNames : ((old.members.map kind.member).map Member.name).Nodup := by
      rw [List.map_map]
      exact distinct.2 old isOld
    have newNames : ((new.members.map kind.member).map Member.name).Nodup := by
      rw [List.map_map]
      exact currentDistinct.2 new isNew
    rw [List.append_eq_nil_iff, memberErrors_nil_iff oldNames newNames, List.flatMap_eq_nil_iff]
    simp only [usageErrors_nil_iff]
    constructor
    · rintro ⟨⟨kept, last⟩, used⟩
      refine ⟨fun value isValue => ?_, last, fun value isValue => (used value isValue).1⟩
      obtain ⟨twin, isTwin, same⟩ := List.mem_map.mp (kept _ (List.mem_map_of_mem isValue))
      have found := lastWith_of_nodup (distinct.2 old isOld) isValue
      rw [← same] at found
      rw [kind.determined value twin same.symm ((used twin isTwin).2 value found)]
      exact isTwin
    · rintro ⟨kept, last, unreserved⟩
      refine ⟨⟨?_, last⟩, fun value isValue => ⟨unreserved value isValue, ?_⟩⟩
      · rintro member isMember
        obtain ⟨value, isValue, rfl⟩ := List.mem_map.mp isMember
        exact List.mem_map_of_mem (kept value isValue)
      · intro oldValue found property _
        obtain ⟨isOldValue, sameName⟩ := lastWith_some found
        rw [List.inj_on_of_nodup_map (currentDistinct.2 new isNew) (kept oldValue isOldValue)
          isValue sameName]
  rw [scopeErrors, List.flatMap_eq_nil_iff]
  constructor
  · intro noErrors old isOld
    have noError := noErrors (old.name, old) (mem_items.mpr (lastWith_of_nodup distinct.1 isOld))
    dsimp only at noError
    split at noError
    · cases noError
    · rename_i new found
      obtain ⟨isNew, sameName⟩ := lastWith_some found
      exact ⟨new, isNew, sameName, (membersNil isOld isNew old.name).mp noError⟩
  · rintro kept ⟨name, old⟩ isItem
    obtain ⟨isOld, rfl⟩ := lastWith_some (mem_items.mp isItem)
    obtain ⟨new, isNew, sameName, extended⟩ := kept old isOld
    have found := lastWith_of_nodup currentDistinct.1 isNew
    rw [sameName] at found
    dsimp only
    rw [found]
    exact (membersNil isOld isNew old.name).mpr extended

/-- Between three snapshots that pass one after the other, the outer ones pass exactly if nothing
is used that the first reserves and the second does not. -/
theorem scopes_compose_iff {first second third : List (Scope Value)}
    (distinct : Distinct kind first) (secondDistinct : Distinct kind second)
    (thirdDistinct : Distinct kind third) (passes : scopeErrors kind first second = [])
    (again : scopeErrors kind second third = []) :
    scopeErrors kind first third = [] ↔ ¬ Reuses kind first second third := by
  rw [scopeErrors_nil_iff distinct secondDistinct] at passes
  rw [scopeErrors_nil_iff secondDistinct thirdDistinct] at again
  rw [scopeErrors_nil_iff distinct thirdDistinct]
  constructor
  · rintro outer ⟨old, isOld, middle, -, new, isNew, -, sameName, value, isValue, uses⟩
    obtain ⟨other, isOther, otherName, extended⟩ := outer old isOld
    rw [List.inj_on_of_nodup_map thirdDistinct.1 isOther isNew
      (otherName.trans sameName.symm)] at extended
    obtain ⟨number, name⟩ := extended.unreserved value isValue
    obtain ⟨reserved, -⟩ | ⟨reserved, -⟩ := uses
    · exact number reserved
    · exact name reserved
  · intro unused old isOld
    obtain ⟨middle, isMiddle, middleName, extended⟩ := passes old isOld
    obtain ⟨new, isNew, newName, extendedAgain⟩ := again middle isMiddle
    refine ⟨new, isNew, newName.trans middleName, ?_, ?_, ?_⟩
    · exact fun value isValue => extendedAgain.kept value (extended.kept value isValue)
    · refine extended.last.trans (fun member isMember => ?_) extendedAgain.last
      obtain ⟨value, isValue, rfl⟩ := List.mem_map.mp isMember
      exact List.mem_map_of_mem (extended.kept value isValue)
    · intro value isValue
      obtain ⟨number, name⟩ := extendedAgain.unreserved value isValue
      have fresh (uses : (kind.member value).number ∈ old.reservedNumbers ∨
          (kind.member value).name ∈ old.reservedNames) : False := by
        refine unused ⟨old, isOld, middle, isMiddle, new, isNew, middleName,
          newName.trans middleName, value, isValue, ?_⟩
        exact uses.imp (fun reserved => ⟨reserved, number⟩) fun reserved => ⟨reserved, name⟩
      exact ⟨fun reserved => fresh (.inl reserved), fun reserved => fresh (.inr reserved)⟩

end Scopes

/-! ## The gate -/

theorem WellFormed.distinctMessages {snapshot : Snapshot} (wellFormed : WellFormed snapshot) :
    Distinct fieldKind snapshot.messages := ⟨wellFormed.messages, wellFormed.fields⟩

theorem WellFormed.distinctEnums {snapshot : Snapshot} (wellFormed : WellFormed snapshot) :
    Distinct valueKind snapshot.enums := ⟨wellFormed.enums, wellFormed.values⟩

theorem compatibilityErrors_nil_iff (previous current : Snapshot) :
    compatibilityErrors previous current = [] ↔
      scopeErrors fieldKind previous.messages current.messages = [] ∧
        scopeErrors valueKind previous.enums current.enums = [] := by
  rw [compatibilityErrors, ← List.append_eq_nil_iff, ← List.length_eq_zero_iff,
    List.length_insertionSort, List.length_eq_zero_iff, List.dedup_eq_nil]

/-- The gate does what is asked exactly if nothing is used that the first snapshot reserves and
the second does not.

Proof: what passes is kept member by member. Of the reservations only those of the second snapshot
are looked at when the third passes. -/
theorem gate_iff (first second third : Snapshot) (firstFormed : WellFormed first)
    (secondFormed : WellFormed second) (thirdFormed : WellFormed third) :
    Gate first second third ↔
      ¬ (compatibilityErrors first second = [] ∧ compatibilityErrors second third = [] ∧
        (Reuses fieldKind first.messages second.messages third.messages ∨
          Reuses valueKind first.enums second.enums third.enums)) := by
  have preserved {Value : Type} {kind : Kind Value} {previous current : List (Scope Value)}
      (distinct : Distinct kind previous) (currentDistinct : Distinct kind current)
      (passes : scopeErrors kind previous current = []) : Preserved kind previous current := by
    intro old isOld
    obtain ⟨new, isNew, sameName, extended⟩ :=
      (scopeErrors_nil_iff distinct currentDistinct).mp passes old isOld
    exact ⟨new, isNew, sameName, extended.kept, extended.unreserved⟩
  have composes (passes : compatibilityErrors first second = [])
      (again : compatibilityErrors second third = []) :
      compatibilityErrors first third = [] ↔
        ¬ (Reuses fieldKind first.messages second.messages third.messages ∨
          Reuses valueKind first.enums second.enums third.enums) := by
    rw [compatibilityErrors_nil_iff] at passes again ⊢
    rw [scopes_compose_iff firstFormed.distinctMessages secondFormed.distinctMessages
      thirdFormed.distinctMessages passes.1 again.1, scopes_compose_iff firstFormed.distinctEnums
      secondFormed.distinctEnums thirdFormed.distinctEnums passes.2 again.2, not_or]
  constructor
  · rintro gate ⟨passes, again, reuses⟩
    exact (composes passes again).mp (gate.composes passes again) reuses
  · intro unused
    refine ⟨fun passes => ?_, fun passes => ?_, fun passes again => ?_⟩
    · exact preserved firstFormed.distinctMessages secondFormed.distinctMessages
        ((compatibilityErrors_nil_iff _ _).mp passes).1
    · exact preserved firstFormed.distinctEnums secondFormed.distinctEnums
        ((compatibilityErrors_nil_iff _ _).mp passes).2
    · exact (composes passes again).mpr fun reuses => unused ⟨passes, again, reuses⟩

def sampleSnapshot (reserved : List Int) (tag : Option Int) : Snapshot where
  messages := [{
    name := "Fixture.Item"
    members := tag.toList.map fun number =>
      { name := "label", number, type := some "string", typeName := none
        cardinality := some "optional", oneof := none }
    reservedNames := []
    reservedNumbers := reserved }]
  enums := []

theorem sampleSnapshot_wellFormed (reserved : List Int) (tag : Option Int) :
    WellFormed (sampleSnapshot reserved tag) := by
  cases tag <;> constructor <;> simp [sampleSnapshot]

/-- A reserved tag that stays reserved. -/
theorem gate_kept : Gate (sampleSnapshot [9] none) (sampleSnapshot [9] none)
    (sampleSnapshot [9] (some 1)) := by
  refine (gate_iff _ _ _ (sampleSnapshot_wellFormed _ _) (sampleSnapshot_wellFormed _ _)
    (sampleSnapshot_wellFormed _ _)).mpr ?_
  rintro ⟨-, -, ⟨old, isOld, middle, isMiddle, new, isNew, -, -, value, isValue, uses⟩ | reuses⟩
  · obtain rfl := List.mem_singleton.mp isOld
    obtain rfl := List.mem_singleton.mp isMiddle
    obtain ⟨reserved, unreserved⟩ | ⟨reserved, -⟩ := uses
    · exact unreserved reserved
    · cases reserved
  · obtain ⟨old, isOld, -⟩ := reuses
    cases isOld

/-- A reserved tag is dropped by the next snapshot and used by the one after it. -/
theorem dropped_reservation_used : ¬ ∀ first second third, WellFormed first → WellFormed second →
    WellFormed third → Gate first second third := by
  intro gate
  have composed := (gate (sampleSnapshot [9] none) (sampleSnapshot [] none)
    (sampleSnapshot [] (some 9)) (sampleSnapshot_wellFormed _ _) (sampleSnapshot_wellFormed _ _)
    (sampleSnapshot_wellFormed _ _)).composes (by decide +kernel) (by decide +kernel)
  exact absurd composed (by decide +kernel)

end PoisonedOS.Protocol
