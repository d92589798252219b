import Mathlib.Data.List.DropRight
import PoisonedOS.Library.Text

/-!
# Names on the volume

The FAT volume finds a name without regard to the case of its letters, and drops the dots
and spaces at the end of a name. Two texts can therefore be one name. What is said here
holds for the characters that identifiers are made of.
-/

namespace PoisonedOS

/-- The byte of a letter in upper case. -/
def foldByte (byte : UInt8) : UInt8 := if isLower byte then byte - 32 else byte

theorem foldByte_ne_zero {byte : UInt8} (nonzero : byte ≠ 0) : foldByte byte ≠ 0 := by
  rw [foldByte]
  split
  · rename_i lower
    simp only [isLower, Bool.and_eq_true, decide_eq_true_eq, UInt8.le_iff_toNat_le,
      UInt8.reduceToNat] at lower
    have small : (32 : UInt8) ≤ byte := UInt8.le_iff_toNat_le.mpr (by
      simp only [UInt8.reduceToNat]
      omega)
    intro zero
    have same := congrArg UInt8.toNat zero
    rw [UInt8.toNat_sub_of_le _ _ small] at same
    simp only [UInt8.reduceToNat] at same
    omega
  · exact nonzero

namespace CString

/-- The text as the volume compares it inside a name. -/
def folded (text : CString) : CString where
  bytes := text.bytes.map foldByte
  noNul stored := by
    obtain ⟨byte, inside, zero⟩ := List.mem_map.mp stored
    exact foldByte_ne_zero (fun isZero => text.noNul (isZero ▸ inside)) zero

/-- The name of a directory: dots and spaces at its end are dropped. Nothing is left of a
text of dots, which no directory can be called. -/
def directoryName (text : CString) : CString where
  bytes := text.folded.bytes.rdropWhile fun byte => byte == 46 || byte == 32
  noNul stored := text.folded.noNul ((List.rdropWhile_prefix _ _).subset stored)

end CString

end PoisonedOS
