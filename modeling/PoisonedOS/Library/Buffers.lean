import PoisonedOS.Library.Bytes
import PoisonedOS.Library.Text

/-!
# Text in fixed buffers

A string in a buffer of fixed size is followed by zeros, and an array of such buffers is
filled up with zeros and followed by its count. Both images determine the texts, as long
as each leaves room for its terminator, and so they determine what follows them.
-/

namespace PoisonedOS

/-- The image of a text in a zeroed buffer. -/
def textBuffer (size : Nat) (text : CString) : List UInt8 :=
  text.bytes ++ List.replicate (size - text.length) 0

variable {size : Nat}

theorem length_textBuffer {text : CString} (fits : text.length < size) :
    (textBuffer size text).length = size := by
  simp only [CString.length] at fits
  simp only [textBuffer, CString.length, List.length_append, List.length_replicate]
  omega

/-- A buffer with room for the terminator holds the text. -/
theorem ofBytes_textBuffer {text : CString} (fits : text.length < size) :
    CString.ofBytes (textBuffer size text) = text := by
  obtain ⟨room, isRoom⟩ := Nat.exists_eq_add_of_lt fits
  have filled : textBuffer size text = text.bytes ++ 0 :: List.replicate room 0 := by
    rw [textBuffer, isRoom, ← List.replicate_succ]
    congr 2
    omega
  rw [filled, CString.ofBytes_terminated]

theorem textBuffer_append_injective {left right : CString} {tail rest : List UInt8}
    (leftFits : left.length < size) (rightFits : right.length < size)
    (same : textBuffer size left ++ tail = textBuffer size right ++ rest) :
    left = right ∧ tail = rest := by
  obtain ⟨sameBuffer, sameTail⟩ := List.append_inj same (by
    rw [length_textBuffer leftFits, length_textBuffer rightFits])
  refine ⟨?_, sameTail⟩
  rw [← ofBytes_textBuffer leftFits, sameBuffer, ofBytes_textBuffer rightFits]

def textArray (size capacity : Nat) (texts : List CString) : List UInt8 :=
  texts.flatMap (textBuffer size) ++ List.replicate ((capacity - texts.length) * size) 0

theorem length_buffers {texts : List CString} (fit : ∀ text ∈ texts, text.length < size) :
    (texts.flatMap (textBuffer size)).length = texts.length * size := by
  induction texts with
  | nil => simp
  | cons text texts ih =>
    have others := ih fun other isOther =>
      fit other (List.mem_cons_of_mem text isOther)
    have first := length_textBuffer (fit text List.mem_cons_self)
    rw [List.flatMap_cons, List.length_append, first, others, List.length_cons, Nat.succ_mul,
      Nat.add_comm]

theorem length_textArray {capacity : Nat} {texts : List CString}
    (fit : ∀ text ∈ texts, text.length < size) (within : texts.length ≤ capacity) :
    (textArray size capacity texts).length = capacity * size := by
  rw [textArray, List.length_append, length_buffers fit, List.length_replicate, ← Nat.add_mul,
    Nat.add_sub_cancel' within]

/-- As many texts in buffers are determined by the image. -/
theorem buffers_injective {left right : List CString} {tail rest : List UInt8}
    (leftFit : ∀ text ∈ left, text.length < size) (rightFit : ∀ text ∈ right, text.length < size)
    (counted : left.length = right.length)
    (same : left.flatMap (textBuffer size) ++ tail = right.flatMap (textBuffer size) ++ rest) :
    left = right := by
  induction left generalizing right with
  | nil => exact (List.eq_nil_of_length_eq_zero counted.symm).symm
  | cons text texts ih =>
    cases right with
    | nil => cases counted
    | cons other others =>
      rw [List.flatMap_cons, List.flatMap_cons, List.append_assoc, List.append_assoc] at same
      obtain ⟨sameText, sameRest⟩ := textBuffer_append_injective
        (leftFit text List.mem_cons_self) (rightFit other List.mem_cons_self) same
      have sameTexts := ih
        (fun text isText => leftFit text (List.mem_cons_of_mem _ isText))
        (fun text isText => rightFit text (List.mem_cons_of_mem _ isText))
        (Nat.succ.inj counted) sameRest
      rw [sameText, sameTexts]

def countedArray (size capacity padding : Nat) (texts : List CString) : List UInt8 :=
  textArray size capacity texts ++
    (List.replicate padding 0 ++ littleEndian 4 texts.length)

theorem countedArray_append_injective {capacity padding : Nat} {left right : List CString}
    {tail rest : List UInt8} (leftFit : ∀ text ∈ left, text.length < size)
    (rightFit : ∀ text ∈ right, text.length < size) (leftWithin : left.length ≤ capacity)
    (rightWithin : right.length ≤ capacity) (small : capacity < 256 ^ 4)
    (same : countedArray size capacity padding left ++ tail =
      countedArray size capacity padding right ++ rest) : left = right ∧ tail = rest := by
  simp only [countedArray, List.append_assoc] at same
  obtain ⟨sameArray, sameRest⟩ := List.append_inj same (by
    rw [length_textArray leftFit leftWithin, length_textArray rightFit rightWithin])
  have sameCount := List.append_cancel_left sameRest
  obtain ⟨counted, sameTail⟩ := littleEndian_append_injective
    (Nat.lt_of_le_of_lt leftWithin small) (Nat.lt_of_le_of_lt rightWithin small) sameCount
  exact ⟨buffers_injective leftFit rightFit counted sameArray, sameTail⟩

end PoisonedOS
