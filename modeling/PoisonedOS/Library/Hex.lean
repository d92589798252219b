import PoisonedOS.Library.Text

/-!
# Hexadecimal text

Two digits are written for each byte. The text has only lower-case digits, twice as
many as there were bytes, and it determines them.
-/

namespace PoisonedOS.Hex

/-- A decidable property of bytes holds of all of them when it holds of all numbers below
256. -/
theorem forall_byte (property : UInt8 → Bool)
    (checked : (List.range 256).all (fun number => property (UInt8.ofNat number)) = true)
    (byte : UInt8) : property byte = true := by
  have inside : byte.toNat ∈ List.range 256 := List.mem_range.mpr byte.toNat_lt
  have holds := List.all_eq_true.mp checked byte.toNat inside
  rwa [UInt8.ofNat_toNat] at holds

/-- The value of a digit. -/
def hexValue (digit : UInt8) : UInt8 := if digit < 58 then digit - 48 else digit - 87

variable (byte : UInt8)

/-- The two digits of a byte are lower-case. -/
theorem hexDigit_lower :
    (isLowerHex (hexDigit (byte >>> (4 : UInt8))) &&
      isLowerHex (hexDigit (byte &&& (15 : UInt8)))) = true :=
  forall_byte (fun byte => isLowerHex (hexDigit (byte >>> (4 : UInt8))) &&
    isLowerHex (hexDigit (byte &&& (15 : UInt8)))) (by decide +kernel) byte

/-- They determine it. -/
theorem hexValue_hexDigit :
    hexValue (hexDigit (byte >>> (4 : UInt8))) <<< (4 : UInt8) |||
      hexValue (hexDigit (byte &&& (15 : UInt8))) = byte :=
  beq_iff_eq.mp (forall_byte (fun byte => hexValue (hexDigit (byte >>> (4 : UInt8))) <<<
    (4 : UInt8) ||| hexValue (hexDigit (byte &&& (15 : UInt8))) == byte) (by decide +kernel) byte)

@[simp] theorem hexBytes_cons (bytes : List UInt8) :
    hexBytes (byte :: bytes) = hexDigit (byte >>> (4 : UInt8)) ::
      hexDigit (byte &&& (15 : UInt8)) :: hexBytes bytes := rfl

variable (bytes : List UInt8)

theorem length_hexBytes : (hexBytes bytes).length = 2 * bytes.length := by
  induction bytes with
  | nil => rfl
  | cons byte bytes ih =>
    simp only [hexBytes_cons, List.length_cons, ih]
    omega

theorem hexBytes_lower : (hexBytes bytes).all isLowerHex = true := by
  induction bytes with
  | nil => rfl
  | cons byte bytes ih =>
    have digits := hexDigit_lower byte
    rw [Bool.and_eq_true] at digits
    simp only [hexBytes_cons, List.all_cons, digits.1, digits.2, ih, Bool.and_self]

theorem zero_not_mem : (0 : UInt8) ∉ hexBytes bytes := by
  intro inside
  have digit := List.all_eq_true.mp (hexBytes_lower bytes) 0 inside
  revert digit
  decide

theorem hexBytes_injective {left right : List UInt8} (same : hexBytes left = hexBytes right) :
    left = right := by
  induction left generalizing right with
  | nil =>
    cases right with
    | nil => rfl
    | cons byte bytes => cases same
  | cons byte bytes ih =>
    cases right with
    | nil => cases same
    | cons other others =>
      simp only [hexBytes_cons, List.cons.injEq] at same
      obtain ⟨high, low, rest⟩ := same
      have first := hexValue_hexDigit byte
      rw [high, low, hexValue_hexDigit other] at first
      rw [first, ih rest]

end PoisonedOS.Hex
