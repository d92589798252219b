import Mathlib.Data.List.Lex
import PoisonedOS.Library.Unicode

/-!
# Orders of encoded text

A text is put in order by its encoding, number by number. The order of two texts is that of
the encodings of the first code points in which they differ, so two encodings put texts in the
same order where they agree on these. UTF-8 puts texts in the order of their code points.
UTF-16 does not: a code point of two units comes before those from U+E000 to U+FFFF.
-/

namespace PoisonedOS.TextOrder

universe u
variable {α : Type u}

/-- The first place where two texts differ. -/
def firstDifference [DecidableEq α] : List α → List α → Option (α × α)
  | [], _ => none
  | _, [] => none
  | first :: left, second :: right =>
    if first = second then firstDifference left right else some (first, second)

/-- Two lists of numbers differ at some place, and the first has the lower number there. -/
def Apart (first second : List Nat) : Prop :=
  ∃ (common : List Nat) (low high : Nat) (lower higher : List Nat),
    first = common ++ low :: lower ∧ second = common ++ high :: higher ∧ low < high

/-- They differ at the front or after it. -/
theorem apart_cons {low high : Nat} {lower higher : List Nat}
    (differ : low < high ∨ low = high ∧ Apart lower higher) :
    Apart (low :: lower) (high :: higher) := by
  cases differ with
  | inl less => exact ⟨[], low, high, lower, higher, rfl, rfl, less⟩
  | inr later =>
    obtain ⟨rfl, common, least, most, rest, more, rfl, rfl, less⟩ := later
    exact ⟨low :: common, least, most, rest, more, rfl, rfl, less⟩

/-- An encoding by numbers under which one entry comes before another. -/
structure Ordered (encode : α → List Nat) (before : α → α → Prop) : Prop where
  nonempty : ∀ entry, encode entry ≠ []
  total : ∀ first second, first ≠ second → before first second ∨ before second first
  asymm : ∀ first second, before first second → ¬ before second first
  apart : ∀ first second, before first second → Apart (encode first) (encode second)

variable {encode : α → List Nat} {before : α → α → Prop} {left right : List α}

theorem nil_le (numbers : List Nat) : ([] : List Nat) ≤ numbers :=
  not_lt.mp (List.not_lt_nil numbers)

theorem not_cons_le_nil (number : Nat) (numbers : List Nat) : ¬ number :: numbers ≤ [] :=
  not_le.mpr (List.nil_lt_cons number numbers)

/-- Two lists are put in order by their first numbers, and where these are the same by the
rest. -/
theorem cons_le_cons_iff {low high : Nat} {lower higher : List Nat} :
    low :: lower ≤ high :: higher ↔ low < high ∨ low = high ∧ lower ≤ higher := by
  rw [← not_lt, ← not_lt (a := higher), List.cons_lt_cons_iff]
  constructor
  · intro least
    by_cases less : low < high
    · exact .inl less
    · refine .inr ⟨by omega, ?_⟩
      intro follows
      exact least (.inr ⟨by omega, follows⟩)
  · rintro (less | ⟨same, least⟩) (more | ⟨equal, follows⟩)
    · omega
    · omega
    · omega
    · exact least follows

/-- A common front does not count. -/
theorem append_le_append_iff (common lower higher : List Nat) :
    common ++ lower ≤ common ++ higher ↔ lower ≤ higher := by
  induction common with
  | nil => rfl
  | cons number common ih =>
    rw [List.cons_append, List.cons_append, cons_le_cons_iff]
    simpa using ih

/-- Entries that come before and after each other decide. -/
theorem Ordered.decides (ordered : Ordered encode before) {first second : α}
    (precedes : before first second) (lower higher : List Nat) :
    encode first ++ lower ≤ encode second ++ higher ∧
      ¬ encode second ++ higher ≤ encode first ++ lower := by
  obtain ⟨common, low, high, rest, more, one, two, less⟩ := ordered.apart first second precedes
  rw [one, two, List.append_assoc, List.append_assoc, append_le_append_iff,
    append_le_append_iff, List.cons_append, List.cons_append, cons_le_cons_iff,
    cons_le_cons_iff]
  refine ⟨.inl less, ?_⟩
  rintro (more | ⟨same, _⟩)
  · omega
  · omega

/-- The order of two encoded texts is that of the first entries in which they differ. -/
theorem Ordered.le_iff [DecidableEq α] (ordered : Ordered encode before) :
    left.flatMap encode ≤ right.flatMap encode ↔
      match firstDifference left right with
      | some (first, second) => before first second
      | none => left.length ≤ right.length := by
  induction left generalizing right with
  | nil => simp [firstDifference, nil_le]
  | cons first left ih =>
    cases right with
    | nil =>
      obtain ⟨number, numbers, filled⟩ := List.exists_cons_of_ne_nil (ordered.nonempty first)
      simp only [firstDifference, List.flatMap_nil, List.flatMap_cons, filled, List.cons_append,
        List.length_cons, List.length_nil]
      exact iff_of_false (not_cons_le_nil _ _) (by omega)
    | cons second right =>
      by_cases same : first = second
      · subst same
        simp only [firstDifference, ↓reduceIte, List.flatMap_cons, append_le_append_iff,
          ih]
        cases firstDifference left right with
        | none => simp
        | some pair => rfl
      · simp only [firstDifference, same, ↓reduceIte, List.flatMap_cons]
        cases ordered.total first second same with
        | inl precedes => exact iff_of_true (ordered.decides precedes _ _).1 precedes
        | inr follows =>
          exact iff_of_false (ordered.decides follows _ _).2 fun precedes =>
            ordered.asymm _ _ precedes follows

/-- The first difference is the same from the other side. -/
theorem firstDifference_swap [DecidableEq α] (left right : List α) :
    firstDifference right left = (firstDifference left right).map Prod.swap := by
  induction left generalizing right with
  | nil => cases right <;> rfl
  | cons first left ih =>
    cases right with
    | nil => rfl
    | cons second right =>
      by_cases same : first = second
      · subst same
        simp only [firstDifference, ↓reduceIte, ih]
      · have other : second ≠ first := fun equal => same equal.symm
        simp [firstDifference, same, other]

/-- Texts without a difference are the same where they have one length. -/
theorem eq_of_firstDifference [DecidableEq α] (agree : firstDifference left right = none)
    (length : left.length = right.length) : left = right := by
  induction left generalizing right with
  | nil => exact (List.eq_nil_of_length_eq_zero length.symm).symm
  | cons first left ih =>
    cases right with
    | nil => simp at length
    | cons second right =>
      by_cases same : first = second
      · subst same
        simp only [firstDifference, ↓reduceIte] at agree
        rw [ih agree (Nat.succ.inj length)]
      · simp [firstDifference, same] at agree

/-- Encoded texts that come before each other are the same. -/
theorem Ordered.antisymm [DecidableEq α] (ordered : Ordered encode before)
    (least : left.flatMap encode ≤ right.flatMap encode)
    (most : right.flatMap encode ≤ left.flatMap encode) : left = right := by
  rw [ordered.le_iff] at least most
  rw [firstDifference_swap] at most
  cases differ : firstDifference left right with
  | none =>
    rw [differ] at least most
    exact eq_of_firstDifference differ (Nat.le_antisymm least most)
  | some pair =>
    rw [differ] at least most
    exact absurd most (ordered.asymm _ _ least)

/-! ## Code points -/

/-- The order of code points. -/
def codeBefore (first second : Char) : Prop := first.toNat < second.toNat

theorem toNat_injective {first second : Char} (same : first.toNat = second.toNat) :
    first = second := Char.toNat_inj.mp same

theorem ordered_codePoints : Ordered (fun character => [Char.toNat character]) codeBefore where
  nonempty := fun _ => List.cons_ne_nil _ _
  total := by
    intro first second apart
    have distinct : first.toNat ≠ second.toNat := fun same => apart (toNat_injective same)
    exact Nat.lt_or_gt_of_ne distinct
  asymm := fun _ _ => Nat.lt_asymm
  apart := fun _ _ less => apart_cons (.inl less)

/-! ## UTF-8 -/

/-- The bytes of a code point as numbers. -/
def bytesOf (character : Char) : List Nat :=
  (String.utf8EncodeChar character).map UInt8.toNat

theorem bytesOf_eq (character : Char) :
    bytesOf character =
      if character.toNat ≤ 0x7f then [character.toNat]
      else if character.toNat ≤ 0x7ff then
        [character.toNat / 64 + 0xc0, character.toNat % 64 + 0x80]
      else if character.toNat ≤ 0xffff then
        [character.toNat / 4096 + 0xe0, character.toNat / 64 % 64 + 0x80,
          character.toNat % 64 + 0x80]
      else
        [character.toNat / 262144 + 0xf0, character.toNat / 4096 % 64 + 0x80,
          character.toNat / 64 % 64 + 0x80, character.toNat % 64 + 0x80] := by
  have most : character.toNat < 0x110000 := by
    have valid := character.valid
    simp only [UInt32.isValidChar, Nat.isValidChar] at valid
    change character.val.toNat < 0x110000
    omega
  have small (number : Nat) (bound : number < 256) : (UInt8.ofNat number).toNat = number := by
    rw [UInt8.toNat_ofNat', Nat.mod_eq_of_lt bound]
  have value : character.val.toNat = character.toNat := rfl
  simp only [bytesOf, String.utf8EncodeChar, value]
  by_cases one : character.toNat ≤ 0x7f
  · simp only [one, ↓reduceIte, List.map_cons, List.map_nil]
    rw [small _ (by omega)]
  by_cases two : character.toNat ≤ 0x7ff
  · simp only [one, two, ↓reduceIte, List.map_cons, List.map_nil]
    rw [small _ (by omega), small _ (by omega), Nat.mod_eq_of_lt (by omega)]
  by_cases three : character.toNat ≤ 0xffff
  · simp only [one, two, three, ↓reduceIte, List.map_cons, List.map_nil]
    rw [small _ (by omega), small _ (by omega), small _ (by omega),
      Nat.mod_eq_of_lt (a := character.toNat / 4096) (by omega)]
  · simp only [one, two, three, ↓reduceIte, List.map_cons, List.map_nil]
    rw [small _ (by omega), small _ (by omega), small _ (by omega), small _ (by omega),
      Nat.mod_eq_of_lt (a := character.toNat / 262144) (by omega)]

/-- A lower code point comes first by its bytes. -/
theorem bytesOf_apart {first second : Char} (less : first.toNat < second.toNat) :
    Apart (bytesOf first) (bytesOf second) := by
  rw [bytesOf_eq, bytesOf_eq]
  generalize first.toNat = low at less ⊢
  generalize second.toNat = high at less ⊢
  by_cases one : low ≤ 0x7f
  · rw [if_pos one]
    split
    · exact apart_cons (.inl less)
    split
    · exact apart_cons (.inl (by omega))
    split
    · exact apart_cons (.inl (by omega))
    · exact apart_cons (.inl (by omega))
  rw [if_neg one, if_neg (c := high ≤ 0x7f) (by omega)]
  by_cases two : low ≤ 0x7ff
  · rw [if_pos two]
    split
    · refine apart_cons ?_
      by_cases same : low / 64 = high / 64
      · exact .inr ⟨by omega, apart_cons (.inl (by omega))⟩
      · exact .inl (by omega)
    split
    · exact apart_cons (.inl (by omega))
    · exact apart_cons (.inl (by omega))
  rw [if_neg two, if_neg (c := high ≤ 0x7ff) (by omega)]
  by_cases three : low ≤ 0xffff
  · rw [if_pos three]
    split
    · refine apart_cons ?_
      by_cases same : low / 4096 = high / 4096
      · refine .inr ⟨by omega, apart_cons ?_⟩
        by_cases again : low / 64 = high / 64
        · exact .inr ⟨by omega, apart_cons (.inl (by omega))⟩
        · exact .inl (by omega)
      · exact .inl (by omega)
    · exact apart_cons (.inl (by omega))
  rw [if_neg three, if_neg (c := high ≤ 0xffff) (by omega)]
  refine apart_cons ?_
  by_cases same : low / 262144 = high / 262144
  · refine .inr ⟨by omega, apart_cons ?_⟩
    by_cases again : low / 4096 = high / 4096
    · refine .inr ⟨by omega, apart_cons ?_⟩
      by_cases third : low / 64 = high / 64
      · exact .inr ⟨by omega, apart_cons (.inl (by omega))⟩
      · exact .inl (by omega)
    · exact .inl (by omega)
  · exact .inl (by omega)

theorem ordered_utf8 : Ordered bytesOf codeBefore where
  nonempty := by
    intro character
    rw [bytesOf_eq]
    split
    · exact List.cons_ne_nil _ _
    split
    · exact List.cons_ne_nil _ _
    split <;> exact List.cons_ne_nil _ _
  total := ordered_codePoints.total
  asymm := ordered_codePoints.asymm
  apart := fun _ _ less => bytesOf_apart less

theorem flatMap_bytesOf (text : List Char) :
    text.flatMap bytesOf = (Unicode.utf8 text).map UInt8.toNat := by
  rw [Unicode.utf8, List.map_flatMap]
  rfl

theorem flatMap_codePoint (text : List Char) :
    text.flatMap (fun character => [Char.toNat character]) = text.map Char.toNat :=
  List.map_eq_flatMap.symm

/-- **UTF-8 keeps the order of code points.** -/
theorem utf8_le_iff (left right : List Char) :
    (Unicode.utf8 left).map UInt8.toNat ≤ (Unicode.utf8 right).map UInt8.toNat ↔
      left.map Char.toNat ≤ right.map Char.toNat := by
  rw [← flatMap_bytesOf, ← flatMap_bytesOf, ← flatMap_codePoint, ← flatMap_codePoint,
    ordered_utf8.le_iff, ordered_codePoints.le_iff]

/-! ## UTF-16 -/

/-- A code point of one unit that comes after the surrogates. -/
def Upper (character : Char) : Prop := 0xe000 ≤ character.toNat ∧ character.toNat < 0x10000

/-- A code point of two units. -/
def Supplementary (character : Char) : Prop := 0x10000 ≤ character.toNat

/-- The place of a code point among the others in UTF-16. -/
def unitRank (character : Char) : Nat :=
  if 0xe000 ≤ character.toNat ∧ character.toNat < 0x10000 then character.toNat + 0x110000
  else character.toNat

/-- The order of UTF-16. -/
def unitBefore (first second : Char) : Prop := unitRank first < unitRank second

/-- A code point is not a surrogate, and above them its rank is higher than the others'. -/
theorem unitRank_cases (character : Char) :
    character.toNat < 0xd800 ∧ unitRank character = character.toNat ∨
      Upper character ∧ unitRank character = character.toNat + 0x110000 ∨
      Supplementary character ∧ character.toNat < 0x110000 ∧
        unitRank character = character.toNat := by
  have bounds : character.toNat < 0xd800 ∨
      0xdfff < character.toNat ∧ character.toNat < 0x110000 := character.valid
  simp only [unitRank, Upper, Supplementary]
  split
  · rename_i upper
    exact .inr (.inl ⟨upper, rfl⟩)
  · omega

theorem utf16Char_apart {first second : Char} (less : unitBefore first second) :
    Apart (Unicode.utf16Char first) (Unicode.utf16Char second) := by
  have lowCases := unitRank_cases first
  have highCases := unitRank_cases second
  simp only [unitBefore, Upper, Supplementary] at less lowCases highCases
  simp only [Unicode.utf16Char]
  by_cases one : first.toNat < 0x10000
  · rw [if_pos one]
    split
    · exact apart_cons (.inl (by omega))
    · exact apart_cons (.inl (by omega))
  · rw [if_neg one]
    split
    · exact apart_cons (.inl (by omega))
    · refine apart_cons ?_
      by_cases same : (first.toNat - 0x10000) / 0x400 = (second.toNat - 0x10000) / 0x400
      · exact .inr ⟨by omega, apart_cons (.inl (by omega))⟩
      · exact .inl (by omega)

theorem ordered_utf16 : Ordered Unicode.utf16Char unitBefore where
  nonempty := Unicode.utf16Char_ne_nil
  total := by
    intro first second apart
    have lowCases := unitRank_cases first
    have highCases := unitRank_cases second
    have distinct : first.toNat ≠ second.toNat := fun same => apart (toNat_injective same)
    simp only [unitBefore, Upper, Supplementary] at lowCases highCases ⊢
    omega
  asymm := fun _ _ => Nat.lt_asymm
  apart := fun _ _ less => utf16Char_apart less

/-- Two texts first differ in a code point of two units and one that UTF-16 puts after it. -/
def Clash (left right : List Char) : Prop :=
  ∃ first second, firstDifference left right = some (first, second) ∧
    (Upper first ∧ Supplementary second ∨ Supplementary first ∧ Upper second)

theorem Clash.symm {left right : List Char} (clash : Clash left right) : Clash right left := by
  obtain ⟨first, second, differ, kinds⟩ := clash
  refine ⟨second, first, ?_, kinds.symm.imp And.symm And.symm⟩
  rw [firstDifference_swap, differ]
  rfl

/-- The two orders differ for code points one of which is above the surrogates and one of which
has two units. -/
theorem unitBefore_iff {first second : Char} :
    (unitBefore first second ↔ codeBefore first second) ↔
      ¬ (Upper first ∧ Supplementary second ∨ Supplementary first ∧ Upper second) := by
  have lowCases := unitRank_cases first
  have highCases := unitRank_cases second
  simp only [unitBefore, codeBefore, Upper, Supplementary] at lowCases highCases ⊢
  omega

/-- **UTF-16 keeps the order of code points where two texts do not clash.** -/
theorem utf16_le_iff (left right : List Char) :
    (Unicode.utf16 left ≤ Unicode.utf16 right ↔
        left.map Char.toNat ≤ right.map Char.toNat) ↔ ¬ Clash left right := by
  rw [← flatMap_codePoint, ← flatMap_codePoint, Unicode.utf16, Unicode.utf16,
    ordered_utf16.le_iff, ordered_codePoints.le_iff, Clash]
  cases differ : firstDifference left right with
  | none => simp
  | some pair =>
    obtain ⟨first, second⟩ := pair
    have agree := @unitBefore_iff first second
    simp only [agree, Option.some.injEq, Prod.mk.injEq, not_iff_not]
    constructor
    · intro clash
      exact ⟨first, second, ⟨rfl, rfl⟩, clash⟩
    · rintro ⟨_, _, ⟨rfl, rfl⟩, clash⟩
      exact clash

end PoisonedOS.TextOrder
