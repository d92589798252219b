import PoisonedOS.Library.Hex

/-!
# Escaping text for a result's JSON

The text of a tool's result is written between quotation marks. Each byte is escaped in one of
three ways, by a letter, by four hexadecimal digits or not at all, and each way looks at what is
left of the caller's buffer before it writes.

What is written is read back here as a JSON string of ASCII text. That gives the bytes of the
input as code units, so that no two inputs are written alike.
-/

namespace PoisonedOS

/-- The letter of an escape of two bytes. -/
def escapeLetter (byte : UInt8) : Option UInt8 :=
  if byte == 34 then some 34
  else if byte == 92 then some 92
  else if byte == 8 then some 98
  else if byte == 12 then some 102
  else if byte == 10 then some 110
  else if byte == 13 then some 114
  else if byte == 9 then some 116
  else none

/-- What a byte is escaped to. -/
def escapedByte (byte : UInt8) : List UInt8 :=
  match escapeLetter byte with
  | some letter => [92, letter]
  | none =>
    if byte < 32 || byte ≥ 127 then
      [92, 117, 48, 48, hexDigit (byte >>> (4 : UInt8)), hexDigit (byte &&& (15 : UInt8))]
    else [byte]

/-- The loop of `poison_tools_json_escape_string`: its result, and what the buffer holds as far as
it is written. -/
def jsonEscapeLoop (capacity : Nat) (output : List UInt8) : List UInt8 → Bool × List UInt8
  | [] => (true, output ++ [0])
  | byte :: rest =>
    match escapeLetter byte with
    | some letter =>
      if output.length + 2 ≥ capacity then (false, output)
      else jsonEscapeLoop capacity (output ++ [92, letter]) rest
    | none =>
      if byte < 32 || byte ≥ 127 then
        if output.length + 6 ≥ capacity then (false, output)
        else
          jsonEscapeLoop capacity (output ++ [92, 117, 48, 48,
            hexDigit (byte >>> (4 : UInt8)), hexDigit (byte &&& (15 : UInt8))]) rest
      else if output.length + 1 ≥ capacity then (false, output)
      else jsonEscapeLoop capacity (output ++ [byte]) rest

/-- `poison_tools_json_escape_string`. -/
def jsonEscapeString (input : CString) (capacity : Nat) : Bool × List UInt8 :=
  if capacity == 0 then (false, []) else jsonEscapeLoop capacity [] input.bytes

/-- The escaped text of an input. -/
def escapedText (input : List UInt8) : List UInt8 := input.flatMap escapedByte

/-- The value of a hexadecimal digit of either case. -/
def unitDigit (byte : UInt8) : Option Nat :=
  if isDigit byte then some (byte.toNat - 48)
  else if 97 ≤ byte && byte ≤ 102 then some (byte.toNat - 87)
  else if 65 ≤ byte && byte ≤ 70 then some (byte.toNat - 55)
  else none

/-- The code unit of four hexadecimal digits. -/
def unitOf (digits : List UInt8) : Option Nat :=
  digits.foldlM (fun value byte => (unitDigit byte).map (value * 16 + ·)) 0

/-- The code unit of an escape of two bytes. -/
def letterUnit (letter : UInt8) : Option Nat :=
  if letter == 34 || letter == 92 || letter == 47 then some letter.toNat
  else if letter == 98 then some 8
  else if letter == 102 then some 12
  else if letter == 110 then some 10
  else if letter == 114 then some 13
  else if letter == 116 then some 9
  else none

/-- The code units of a JSON string of ASCII text, given what is between its quotation marks. -/
def decodeUnits : List UInt8 → Option (List Nat)
  | [] => some []
  | 92 :: 117 :: first :: second :: third :: fourth :: rest =>
    (unitOf [first, second, third, fourth]).bind fun unit =>
      (decodeUnits rest).map (unit :: ·)
  | 92 :: letter :: rest =>
    (letterUnit letter).bind fun unit => (decodeUnits rest).map (unit :: ·)
  | byte :: rest =>
    if 32 ≤ byte && byte < 128 && byte != 34 && byte != 92 then
      (decodeUnits rest).map (byte.toNat :: ·)
    else none

/-- A byte of printable ASCII. -/
def isPrintableText (byte : UInt8) : Bool := 32 ≤ byte && byte ≤ 126

/-! ## Bytes -/

variable (byte : UInt8)

/-- Escaped bytes are printable. -/
theorem escapedByte_printable : (escapedByte byte).all isPrintableText = true :=
  Hex.forall_byte (fun byte => (escapedByte byte).all isPrintableText) (by decide +kernel) byte

/-- A byte that is not written as a letter's escape is written as its digits, or it stands for
itself. -/
theorem escapedByte_cases :
    (∃ letter, escapedByte byte = [92, letter] ∧ letter ≠ 117 ∧
      letterUnit letter = some byte.toNat) ∨
    (∃ high low, escapedByte byte = [92, 117, 48, 48, high, low] ∧
      unitOf [48, 48, high, low] = some byte.toNat) ∨
    (escapedByte byte = [byte] ∧ (32 ≤ byte && byte < 128 && byte != 34 && byte != 92) = true) := by
  have known := Hex.forall_byte (fun byte =>
    match escapeLetter byte with
    | some letter => letter != 117 && letterUnit letter == some byte.toNat
    | none =>
      if byte < 32 || byte ≥ 127 then
        unitOf [48, 48, hexDigit (byte >>> (4 : UInt8)), hexDigit (byte &&& (15 : UInt8))] ==
          some byte.toNat
      else 32 ≤ byte && byte < 128 && byte != 34 && byte != 92) (by decide +kernel) byte
  rw [escapedByte]
  cases escaped : escapeLetter byte with
  | some letter =>
    rw [escaped] at known
    simp only [Bool.and_eq_true, bne_iff_ne, beq_iff_eq] at known
    exact .inl ⟨letter, rfl, known⟩
  | none =>
    rw [escaped] at known
    dsimp only at known ⊢
    by_cases coded : (decide (byte < 32) || decide (byte ≥ 127)) = true
    · rw [if_pos coded, beq_iff_eq] at known
      rw [if_pos coded]
      exact .inr (.inl ⟨_, _, rfl, known⟩)
    · rw [if_neg coded] at known
      rw [if_neg coded]
      exact .inr (.inr ⟨rfl, known⟩)

/-- An escaped byte is read back, whatever follows it. -/
theorem decodeUnits_escapedByte (rest : List UInt8) :
    decodeUnits (escapedByte byte ++ rest) = (decodeUnits rest).map (byte.toNat :: ·) := by
  obtain ⟨letter, isEscape, notCoded, unit⟩ | ⟨high, low, isEscape, unit⟩ | ⟨isEscape, plain⟩ :=
    escapedByte_cases byte
  · rw [isEscape]
    show decodeUnits (92 :: letter :: rest) = _
    rw [decodeUnits, unit, Option.bind_some]
    intro first second third fourth later isCoded
    exact absurd isCoded notCoded
  · rw [isEscape]
    show decodeUnits (92 :: 117 :: 48 :: 48 :: high :: low :: rest) = _
    rw [decodeUnits, unit, Option.bind_some]
  · rw [isEscape]
    show decodeUnits (byte :: rest) = _
    have apart : byte ≠ 92 := by
      rintro rfl
      cases plain
    rw [decodeUnits, if_pos plain]
    · rintro first second third fourth later rfl
      exact absurd rfl apart
    · rintro letter later rfl
      exact absurd rfl apart

/-! ## Texts -/

/-- The escaped text is read back as its input. -/
theorem decodeUnits_escapedText (input : List UInt8) :
    decodeUnits (escapedText input) = some (input.map UInt8.toNat) := by
  induction input with
  | nil => rfl
  | cons byte rest ih =>
    rw [escapedText, List.flatMap_cons, decodeUnits_escapedByte, ← escapedText,
      ih]
    rfl

theorem escapedText_injective {input other : List UInt8}
    (same : escapedText input = escapedText other) : input = other := by
  have units := congrArg decodeUnits same
  rw [decodeUnits_escapedText, decodeUnits_escapedText, Option.some.injEq] at units
  exact List.map_injective_iff.mpr (fun _ _ => UInt8.toNat_inj.mp) units

/-- One round of the loop writes the escaped byte, if there is room for it and the terminator. -/
theorem jsonEscapeLoop_cons (capacity : Nat) (output : List UInt8) (byte : UInt8)
    (rest : List UInt8) :
    jsonEscapeLoop capacity output (byte :: rest) =
      if (output ++ escapedByte byte).length ≥ capacity then (false, output)
      else jsonEscapeLoop capacity (output ++ escapedByte byte) rest := by
  rw [jsonEscapeLoop, escapedByte]
  cases escapeLetter byte with
  | some letter => rw [List.length_append]; rfl
  | none =>
    dsimp only
    split
    · rw [List.length_append]; rfl
    · rw [List.length_append]; rfl

/-- The loop writes the whole text if it fits with its terminator, and otherwise stays within the
buffer.

Proof: by induction on the input. What is written always leaves room for a terminator, and a byte
without room has no room in a longer text either. -/
theorem jsonEscapeLoop_spec {capacity : Nat} {output : List UInt8} (input : List UInt8)
    (fits : output.length < capacity) :
    ((jsonEscapeLoop capacity output input).1 = true ↔
      (output ++ escapedText input).length + 1 ≤ capacity) ∧
    (jsonEscapeLoop capacity output input).2.length ≤ capacity ∧
    ((jsonEscapeLoop capacity output input).1 = true →
      (jsonEscapeLoop capacity output input).2 = output ++ escapedText input ++ [0]) := by
  induction input generalizing output with
  | nil =>
    rw [jsonEscapeLoop, escapedText, List.flatMap_nil, List.append_nil]
    refine ⟨iff_of_true rfl fits, ?_, fun _ => rfl⟩
    rw [List.length_append]
    exact fits
  | cons byte rest ih =>
    have text : output ++ escapedText (byte :: rest) =
        output ++ escapedByte byte ++ escapedText rest := by
      rw [escapedText, List.flatMap_cons, List.append_assoc, ← escapedText]
    rw [jsonEscapeLoop_cons, text]
    split
    · rename_i full
      refine ⟨iff_of_false Bool.false_ne_true ?_, fits.le, fun written => by cases written⟩
      rw [List.length_append]
      omega
    · rename_i room
      exact ih (Nat.not_le.mp room)

/-- What is asked of the escaping of an input into a buffer. -/
structure Escapes (input : CString) (capacity : Nat) : Prop where
  accepts : (jsonEscapeString input capacity).1 = true ↔
    (escapedText input.bytes).length + 1 ≤ capacity
  bounded : (jsonEscapeString input capacity).2.length ≤ capacity
  written : (jsonEscapeString input capacity).1 = true → ∃ text,
    (jsonEscapeString input capacity).2 = text ++ [0] ∧
      (∀ byte ∈ text, isPrintableText byte = true) ∧
        decodeUnits text = some (input.bytes.map UInt8.toNat)
  distinct : ∀ other room, (jsonEscapeString input capacity).1 = true →
    (jsonEscapeString other room).1 = true →
      (jsonEscapeString input capacity).2 = (jsonEscapeString other room).2 → input = other

/-- Every input is escaped within every buffer, exactly if its text fits, to a JSON string that is
read back as it. -/
theorem escapes (input : CString) (capacity : Nat) : Escapes input capacity := by
  have spec (input : CString) (capacity : Nat) :
      ((jsonEscapeString input capacity).1 = true ↔
        (escapedText input.bytes).length + 1 ≤ capacity) ∧
      (jsonEscapeString input capacity).2.length ≤ capacity ∧
      ((jsonEscapeString input capacity).1 = true →
        (jsonEscapeString input capacity).2 = escapedText input.bytes ++ [0]) := by
    rw [jsonEscapeString]
    cases capacity with
    | zero =>
      refine ⟨iff_of_false Bool.false_ne_true (by omega), Nat.le_refl _, fun written => ?_⟩
      cases written
    | succ room => exact jsonEscapeLoop_spec input.bytes (Nat.succ_pos room)
  obtain ⟨accepts, bounded, written⟩ := spec input capacity
  refine ⟨accepts, bounded, fun accepted => ⟨_, written accepted, ?_, ?_⟩, ?_⟩
  · intro byte isByte
    obtain ⟨source, -, isEscaped⟩ := List.mem_flatMap.mp isByte
    exact List.all_eq_true.mp (escapedByte_printable source) byte isEscaped
  · exact decodeUnits_escapedText input.bytes
  · intro other room accepted otherAccepted same
    rw [written accepted, (spec other room).2.2 otherAccepted] at same
    exact CString.ext (escapedText_injective (List.append_cancel_right same))

end PoisonedOS
