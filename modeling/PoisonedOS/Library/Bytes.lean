import Mathlib.Data.List.Basic
import Mathlib.Tactic.Ring

/-!
# Little-endian fields

A fixed-width field is the list of its bytes, least significant first. Reading
the bytes back gives the value modulo the width's range, so two values in range
with the same bytes are equal, also when other bytes follow.
-/

namespace PoisonedOS

/-- The lowest `width` bytes of a number, least significant first. -/
def littleEndian : Nat → Nat → List UInt8
  | 0, _ => []
  | width + 1, value => UInt8.ofNat value :: littleEndian width (value / 256)

/-- The number whose bytes these are, least significant first. -/
def fromLittleEndian : List UInt8 → Nat
  | [] => 0
  | byte :: rest => byte.toNat + 256 * fromLittleEndian rest

@[simp] theorem length_littleEndian (width value : Nat) :
    (littleEndian width value).length = width := by
  induction width generalizing value with
  | zero => rfl
  | succ width ih => simp [littleEndian, ih]

theorem from_littleEndian (width value : Nat) :
    fromLittleEndian (littleEndian width value) = value % 256 ^ width := by
  induction width generalizing value with
  | zero => simp [littleEndian, fromLittleEndian, Nat.mod_one]
  | succ width ih =>
    have split := Nat.mod_mul (x := value) (a := 256) (b := 256 ^ width)
    have power : 256 ^ (width + 1) = 256 * 256 ^ width := pow_succ' 256 width
    simp only [littleEndian, fromLittleEndian, ih, UInt8.toNat_ofNat',
      Nat.reducePow]
    rw [power, split]

/-- Values in range with equal fields are equal, and so is what follows them. -/
theorem littleEndian_append_injective {width left right : Nat} {tail rest : List UInt8}
    (leftFits : left < 256 ^ width) (rightFits : right < 256 ^ width)
    (same : littleEndian width left ++ tail = littleEndian width right ++ rest) :
    left = right ∧ tail = rest := by
  obtain ⟨sameField, sameTail⟩ := List.append_inj same (by simp)
  refine ⟨?_, sameTail⟩
  have read := congrArg fromLittleEndian sameField
  rwa [from_littleEndian, from_littleEndian, Nat.mod_eq_of_lt leftFits,
    Nat.mod_eq_of_lt rightFits] at read

/-- A 32-bit field. -/
def bytes32 (value : UInt32) : List UInt8 := littleEndian 4 value.toNat

/-- A 64-bit field. -/
def bytes64 (value : UInt64) : List UInt8 := littleEndian 8 value.toNat

/-- A boolean field: one byte. -/
def bytesBool (value : Bool) : List UInt8 := [if value then 1 else 0]

theorem bytes32_append_injective {left right : UInt32} {tail rest : List UInt8}
    (same : bytes32 left ++ tail = bytes32 right ++ rest) : left = right ∧ tail = rest := by
  obtain ⟨sameValue, sameTail⟩ := littleEndian_append_injective left.toNat_lt right.toNat_lt same
  exact ⟨UInt32.toNat.inj sameValue, sameTail⟩

theorem bytes64_append_injective {left right : UInt64} {tail rest : List UInt8}
    (same : bytes64 left ++ tail = bytes64 right ++ rest) : left = right ∧ tail = rest := by
  obtain ⟨sameValue, sameTail⟩ := littleEndian_append_injective left.toNat_lt right.toNat_lt same
  exact ⟨UInt64.toNat.inj sameValue, sameTail⟩

theorem bytesBool_append_injective {left right : Bool} {tail rest : List UInt8}
    (same : bytesBool left ++ tail = bytesBool right ++ rest) : left = right ∧ tail = rest := by
  cases left <;> cases right <;> simp_all [bytesBool]

end PoisonedOS
