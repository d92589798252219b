import PoisonedOS.Library.Segments
import PoisonedOS.Library.Unicode
import Mathlib.Data.List.Infix

/-!
# ASCII texts

A text of ASCII characters has one byte for each character. What is asked of the text, its
segments, its beginning or its end, may then be asked of the bytes.
-/

namespace PoisonedOS.Ascii

/-- The byte of an ASCII character. -/
def byte (letter : Char) : UInt8 := UInt8.ofNat letter.toNat

/-- All characters are ASCII. -/
def Text (text : List Char) : Prop := ∀ letter ∈ text, letter.toNat < 128

instance (text : List Char) : Decidable (Text text) :=
  List.decidableBAll (fun letter : Char => letter.toNat < 128) text

/-- An ASCII character takes one byte. -/
theorem utf8EncodeChar_eq {letter : Char} (ascii : letter.toNat < 128) :
    String.utf8EncodeChar letter = [byte letter] := by
  have all : ∀ value : Fin 128,
      String.utf8EncodeChar (Char.ofNat value) = [UInt8.ofNat value] := by decide
  have encoded := all ⟨letter.toNat, ascii⟩
  rwa [Char.ofNat_toNat] at encoded

theorem utf8_eq {text : List Char} (ascii : Text text) : Unicode.utf8 text = text.map byte := by
  induction text with
  | nil => rfl
  | cons letter text ih =>
    rw [Unicode.utf8_cons, utf8EncodeChar_eq (ascii letter List.mem_cons_self),
      ih fun other inside => ascii other (List.mem_cons_of_mem _ inside)]
    rfl

end PoisonedOS.Ascii
