import Mathlib.Data.List.Basic

/-!
# HKDF

The key derivation of RFC 5869 over a message authentication code with blocks of 32
bytes: a salt extracts a key from the input, and the key expands into numbered blocks,
each of which is computed from the one before it.

Two extracted keys expand into the same material only if they are one key, or if the
code collides on every block.
-/

namespace PoisonedOS.Hkdf

/-- The number of bytes of a code. -/
def blockBytes : Nat := 32

variable (mac : List UInt8 → List UInt8 → List UInt8)

/-- The block of this number, `T(n)`. There is none before the first. -/
def block (key info : List UInt8) : Nat → List UInt8
  | 0 => []
  | number + 1 => mac key (block key info number ++ info ++ [UInt8.ofNat (number + 1)])

/-- The blocks after the given one. -/
def blocksAfter (key info : List UInt8) (number : Nat) : Nat → List UInt8
  | 0 => []
  | count + 1 => block mac key info (number + 1) ++ blocksAfter key info (number + 1) count

/-- `HKDF-Expand`. -/
def expand (key info : List UInt8) (length : Nat) : List UInt8 :=
  (blocksAfter mac key info 0 ((length + blockBytes - 1) / blockBytes)).take length

/-- `HKDF-Extract` and `HKDF-Expand`. -/
def derive (salt input info : List UInt8) (length : Nat) : List UInt8 :=
  expand mac (mac salt input) info length

/-- A key as HMAC uses it, filled up to the block of the hash. -/
def paddedKey (key : List UInt8) : List UInt8 := key ++ List.replicate (64 - key.length) 0

/-- The code is the same under two keys that are different for it. -/
def Collides (key other message : List UInt8) : Prop :=
  paddedKey key ≠ paddedKey other ∧ mac key message = mac other message

/-- Codes have the size of a block. -/
def Sized : Prop := ∀ key message, (mac key message).length = blockBytes

variable {mac}

/-- Keys of one length are padded differently when they differ. -/
theorem paddedKey_injective {key other : List UInt8} (sized : key.length = other.length)
    (same : paddedKey key = paddedKey other) : key = other :=
  (List.append_inj same sized).1

/-- A block is not empty, and has the size of a code. -/
theorem length_block (sized : Sized mac) (key info : List UInt8) (number : Nat) :
    (block mac key info (number + 1)).length = blockBytes := sized _ _

/-- Two blocks are all there is of 64 bytes. -/
theorem expand_two (sized : Sized mac) (key info : List UInt8) :
    expand mac key info 64 = block mac key info 1 ++ block mac key info 2 := by
  have length : (block mac key info 1 ++ block mac key info 2).length = 64 := by
    rw [List.length_append, length_block sized, length_block sized]
    rfl
  have blocks : blocksAfter mac key info 0 ((64 + blockBytes - 1) / blockBytes) =
      block mac key info 1 ++ block mac key info 2 := by
    show block mac key info 1 ++ (block mac key info 2 ++ []) = _
    rw [List.append_nil]
  rw [expand, blocks]
  exact List.take_of_length_le (Nat.le_of_eq length)

/-- A shorter output is a part of the blocks. -/
theorem take_blocksAfter (sized : Sized mac) (key info : List UInt8) (number count remaining : Nat) :
    (blocksAfter mac key info number (count + 1)).take remaining =
      (block mac key info (number + 1)).take (min remaining blockBytes) ++
        (blocksAfter mac key info (number + 1) count).take
          (remaining - min remaining blockBytes) := by
  have length := length_block sized key info number
  rw [blocksAfter, List.take_append, length]
  congr 1
  · rw [← length, ← List.take_take, List.take_length]
  · congr 1
    omega

/-- Two extracted keys expand alike exactly when they are one key or the code collides
on both blocks. -/
theorem expand_eq_iff {key other : List UInt8}
    (keySized : key.length = other.length) (info : List UInt8) :
    (block mac key info 1 = block mac other info 1 ∧
      block mac key info 2 = block mac other info 2) ↔
      key = other ∨ (Collides mac key other (info ++ [1]) ∧
        Collides mac key other (block mac key info 1 ++ info ++ [2])) := by
  constructor
  · rintro ⟨first, second⟩
    by_cases same : key = other
    · exact .inl same
    · have different : paddedKey key ≠ paddedKey other :=
        fun padded => same (paddedKey_injective keySized padded)
      refine .inr ⟨⟨different, first⟩, different, ?_⟩
      have second' : mac key (block mac key info 1 ++ info ++ [2]) =
          mac other (block mac other info 1 ++ info ++ [2]) := second
      rwa [← first] at second'
  · rintro (rfl | ⟨⟨-, first⟩, -, second⟩)
    · exact ⟨rfl, rfl⟩
    · have isFirst : block mac key info 1 = block mac other info 1 := first
      refine ⟨isFirst, ?_⟩
      show mac key (block mac key info 1 ++ info ++ [2]) =
        mac other (block mac other info 1 ++ info ++ [2])
      rw [← isFirst]
      exact second

end PoisonedOS.Hkdf
