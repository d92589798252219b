import Mathlib.Data.List.Basic

/-!
# Text in several encodings

One text is a list of code points. Some parties keep it as UTF-8 bytes, others
as UTF-16 code units, and their lengths and orders are taken there.
-/

namespace PoisonedOS.Unicode

/-- A text as UTF-8 bytes. -/
def utf8 (text : List Char) : List UInt8 := text.flatMap String.utf8EncodeChar

/-- The UTF-16 code units of a code point: one, or a surrogate pair. -/
def utf16Char (character : Char) : List Nat :=
  if character.toNat < 0x10000 then [character.toNat]
  else [0xd800 + (character.toNat - 0x10000) / 0x400, 0xdc00 + (character.toNat - 0x10000) % 0x400]

/-- A text as UTF-16 code units. -/
def utf16 (text : List Char) : List Nat := text.flatMap utf16Char

@[simp] theorem utf8_nil : utf8 [] = [] := rfl

@[simp] theorem utf16_nil : utf16 [] = [] := rfl

variable (character : Char)

@[simp] theorem utf8_cons (text : List Char) :
    utf8 (character :: text) = String.utf8EncodeChar character ++ utf8 text := rfl

@[simp] theorem utf16_cons (text : List Char) :
    utf16 (character :: text) = utf16Char character ++ utf16 text := rfl

/-- A code point never takes more code units than bytes. -/
theorem length_utf16Char_le :
    (utf16Char character).length ≤ character.utf8Size := by
  have positive := character.utf8Size_pos
  simp only [utf16Char]
  split
  · exact positive
  · rename_i supplementary
    have large : ¬ character.val.toNat ≤ 0x7f ∧ ¬ character.val.toNat ≤ 0x7ff := by
      change ¬ character.toNat ≤ 0x7f ∧ ¬ character.toNat ≤ 0x7ff
      omega
    simp only [Char.utf8Size, UInt32.le_iff_toNat_le, List.length_cons, List.length_nil]
    split
    · rename_i small
      exact absurd small large.1
    split
    · rename_i small
      exact absurd small large.2
    split <;> omega

/-- Nor does a text. -/
theorem length_utf16_le (text : List Char) : (utf16 text).length ≤ (utf8 text).length := by
  induction text with
  | nil => exact Nat.le_refl 0
  | cons character text ih =>
    have first := length_utf16Char_le character
    simp only [utf16_cons, utf8_cons, List.length_append, String.length_utf8EncodeChar]
    omega

/-- A code point has at least one code unit. -/
theorem utf16Char_ne_nil : utf16Char character ≠ [] := by
  simp only [utf16Char]
  split <;> simp

/-- Only the empty text has no code units. -/
theorem utf16_eq_nil {text : List Char} : utf16 text = [] ↔ text = [] := by
  cases text with
  | nil => simp
  | cons character text => simp [utf16Char_ne_nil]

/-- The text that UTF-8 bytes encode. -/
def decodeUtf8 (bytes : List UInt8) : Option (List Char) :=
  bytes.toByteArray.utf8Decode?.map Array.toList

/-- A text is read back from its bytes. -/
@[simp] theorem decodeUtf8_utf8 (text : List Char) : decodeUtf8 (utf8 text) = some text := by
  have encoded : (utf8 text).toByteArray = text.utf8Encode := rfl
  rw [decodeUtf8, encoded, List.utf8Decode?_utf8Encode]
  simp

/-- The byte order mark. -/
def byteOrderMark : Char := Char.ofNat 0xfeff

/-- A text without a byte order mark at its front. -/
def dropMark : List Char → List Char
  | [] => []
  | character :: text => if character = byteOrderMark then text else character :: text

/-- A text keeps all it has where no mark is at its front. -/
theorem dropMark_eq_self {text : List Char} :
    dropMark text = text ↔ text.head? ≠ some byteOrderMark := by
  cases text with
  | nil => simp [dropMark]
  | cons character text =>
    by_cases mark : character = byteOrderMark
    · simp [dropMark, mark]
    · simp [dropMark, mark]

end PoisonedOS.Unicode
