import Mathlib.Data.Nat.Digits.Defs
import PoisonedOS.Library.Text

/-!
# Decimal text

A number is written with its decimal digits, the most significant one first, and a text of
digits is read by multiplying and adding. Reading what was written gives the number back.
-/

namespace PoisonedOS.Decimal

/-- A number is continued by digits. -/
def valueFrom (number : Nat) (digits : List UInt8) : Nat :=
  digits.foldl (fun value byte => value * 10 + (byte.toNat - 48)) number

/-- The number that digits stand for. -/
def value (digits : List UInt8) : Nat := valueFrom 0 digits

/-- The digits of a number. -/
def digits (number : Nat) : List UInt8 :=
  if number = 0 then [48]
  else (Nat.digits 10 number).reverse.map fun digit => 48 + UInt8.ofNat digit

variable (number : Nat)

theorem valueFrom_append (first second : List UInt8) :
    valueFrom number (first ++ second) = valueFrom (valueFrom number first) second := by
  rw [valueFrom, valueFrom, valueFrom, List.foldl_append]

/-- A number only grows with its digits. -/
theorem le_valueFrom (digits : List UInt8) : number ≤ valueFrom number digits := by
  induction digits generalizing number with
  | nil => exact Nat.le_refl number
  | cons byte rest ih =>
    have later := ih (number * 10 + (byte.toNat - 48))
    have here : number ≤ number * 10 + (byte.toNat - 48) := by omega
    exact here.trans later

theorem toNat_digit {digit : Nat} (bounded : digit < 10) :
    (48 + UInt8.ofNat digit).toNat = 48 + digit := by
  rw [UInt8.toNat_add, UInt8.toNat_ofNat']
  show (48 + digit % 2 ^ 8) % 2 ^ 8 = 48 + digit
  omega

/-- Digits read from the last one are the number in base ten. -/
theorem value_reverse {places : List Nat} (bounded : ∀ digit ∈ places, digit < 10) :
    value (places.reverse.map fun digit => 48 + UInt8.ofNat digit) = Nat.ofDigits 10 places := by
  induction places with
  | nil => rfl
  | cons digit places ih =>
    have rest := ih fun other inside =>
      bounded other (List.mem_cons_of_mem _ inside)
    have here := toNat_digit (bounded digit List.mem_cons_self)
    rw [value] at rest ⊢
    rw [List.reverse_cons, List.map_append, valueFrom_append, rest, Nat.ofDigits_cons]
    simp only [valueFrom, List.map_cons, List.map_nil, List.foldl_cons, List.foldl_nil, here]
    omega

/-- A written number is read back. -/
theorem value_digits : value (digits number) = number := by
  rw [digits]
  split
  · rename_i isZero
    rw [isZero]
    rfl
  · rw [value_reverse fun digit inside => Nat.digits_lt_base (by decide) inside,
      Nat.ofDigits_digits]

theorem isDigit_of_mem_digits {number : Nat} {byte : UInt8} (inside : byte ∈ digits number) :
    isDigit byte = true := by
  rw [digits] at inside
  split at inside
  · obtain rfl := List.mem_singleton.mp inside
    rfl
  · obtain ⟨digit, isPlace, rfl⟩ := List.mem_map.mp inside
    have bounded := Nat.digits_lt_base (by decide) (List.mem_reverse.mp isPlace)
    have isByte := toNat_digit bounded
    simp only [isDigit, Bool.and_eq_true, decide_eq_true_eq, UInt8.le_iff_toNat_le, isByte]
    exact ⟨Nat.le_add_right 48 digit, Nat.add_le_add_left (Nat.le_of_lt_succ bounded) 48⟩

theorem digits_ne_nil : digits number ≠ [] := by
  rw [digits]
  split
  · exact List.cons_ne_nil _ _
  · rename_i positive
    simpa [Nat.digits_eq_nil_iff_eq_zero] using positive

/-- The text of a number. -/
def text (number : Nat) : CString := .ofBytes (digits number)

theorem text_bytes : (text number).bytes = digits number := by
  refine CString.ofBytes_bytes ?_
  intro terminated
  exact absurd (isDigit_of_mem_digits terminated) (by decide)

end PoisonedOS.Decimal
