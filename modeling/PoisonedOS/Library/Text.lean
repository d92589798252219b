import Mathlib.Data.List.Infix
import Mathlib.Data.List.TakeWhile

/-!
# NUL-terminated text

A C string is the list of its bytes before the terminator. That no byte is zero
is carried by the value, so copies, comparisons and hashing of the terminated
form need no separate side condition.

A buffer of fixed capacity is not represented: every copy in the modelled code
is preceded by a length check, and the length is what those checks bound. A NULL
string pointer is represented by the empty string; every modelled function that
accepts one treats the two alike.
-/

namespace PoisonedOS

/-- The bytes of a C string before its terminator. -/
structure CString where
  bytes : List UInt8
  noNul : (0 : UInt8) ∉ bytes
deriving DecidableEq

namespace CString

@[ext] theorem ext {left right : CString} (same : left.bytes = right.bytes) : left = right := by
  cases left
  cases right
  simp only [mk.injEq]
  exact same

/-- The string held in a buffer: everything before the first zero byte. -/
def ofBytes (buffer : List UInt8) : CString where
  bytes := buffer.takeWhile (· != 0)
  noNul := by
    intro stored
    have nonzero := List.all_takeWhile (p := (· != (0 : UInt8))) (l := buffer)
    have := List.all_eq_true.mp nonzero 0 stored
    simp at this

/-- A text without zero bytes ends where its buffer ends. -/
theorem ofBytes_bytes {buffer : List UInt8} (free : (0 : UInt8) ∉ buffer) :
    (ofBytes buffer).bytes = buffer := by
  simp only [ofBytes]
  refine List.takeWhile_eq_self_iff.mpr ?_
  intro byte inside
  rw [bne_iff_ne]
  rintro rfl
  exact free inside

/-- A string literal of the source. -/
def literal (text : String) : CString :=
  ofBytes (text.toList.map fun character => UInt8.ofNat character.toNat)

instance : Inhabited CString := ⟨literal ""⟩

/-- One string after another, as `snprintf` joins them. -/
def append (first second : CString) : CString where
  bytes := first.bytes ++ second.bytes
  noNul := by
    rw [List.mem_append]
    exact not_or.mpr ⟨first.noNul, second.noNul⟩

/-- `value[0] == '\0'`. -/
def isEmpty (value : CString) : Bool := value.bytes.isEmpty

/-- `strlen(value)`. -/
def length (value : CString) : Nat := value.bytes.length

/-- `strncmp(value, prefix, strlen(prefix)) == 0`. -/
def startsWith (value lead : CString) : Bool := lead.bytes.isPrefixOf value.bytes

def endsWith (value suffix : CString) : Bool :=
  suffix.bytes.isSuffixOf value.bytes && decide (suffix.length < value.length)

/-- `strstr(value, needle) != NULL`. -/
def contains (value needle : CString) : Bool := decide (needle.bytes <:+: value.bytes)

/-- `strchr(value, byte) != NULL` for a byte other than the terminator. -/
def hasByte (value : CString) (byte : UInt8) : Bool := value.bytes.contains byte

/-- The string with its terminator, as a hash or a file sees it. -/
def terminated (value : CString) : List UInt8 := value.bytes ++ [0]

theorem isEmpty_iff (value : CString) : value.isEmpty = true ↔ value.bytes = [] := by
  simp only [isEmpty, List.isEmpty_iff]

@[simp] theorem isEmpty_literal_empty : (literal "").isEmpty = true := by decide

theorem isEmpty_false_of_length {value : CString} (positive : 0 < value.length) :
    value.isEmpty = false := by
  cases stored : value.bytes with
  | nil => simp [length, stored] at positive
  | cons head rest => simp [isEmpty, stored]

/-- A buffer holds the string that is terminated in it. -/
theorem ofBytes_terminated (value : CString) (rest : List UInt8) :
    ofBytes (value.bytes ++ 0 :: rest) = value := by
  ext1
  have nonzero : ∀ byte ∈ value.bytes, (byte != 0) = true := by
    intro byte stored
    rw [bne_iff_ne]
    rintro rfl
    exact value.noNul stored
  change (value.bytes ++ 0 :: rest).takeWhile (· != 0) = value.bytes
  rw [List.takeWhile_append_of_pos nonzero]
  simp

/-- A terminated string followed by anything determines both parts: the first
zero byte is the terminator. -/
theorem terminated_append_injective {left right : CString} {tail rest : List UInt8}
    (same : left.terminated ++ tail = right.terminated ++ rest) :
    left = right ∧ tail = rest := by
  obtain ⟨leftBytes, leftNoNul⟩ := left
  obtain ⟨rightBytes, rightNoNul⟩ := right
  simp only [terminated, List.append_assoc, List.singleton_append] at same
  induction leftBytes generalizing rightBytes with
  | nil =>
    cases rightBytes with
    | nil => simpa using same
    | cons head remaining =>
      simp only [List.nil_append, List.cons_append, List.cons.injEq] at same
      exact absurd (same.1 ▸ List.mem_cons_self) rightNoNul
  | cons byte remaining ih =>
    cases rightBytes with
    | nil =>
      simp only [List.nil_append, List.cons_append, List.cons.injEq] at same
      exact absurd (same.1 ▸ List.mem_cons_self) leftNoNul
    | cons head following =>
      simp only [List.cons_append, List.cons.injEq] at same
      obtain ⟨sameHead, sameTail⟩ := same
      subst sameHead
      obtain ⟨sameBytes, sameRest⟩ := ih
        (fun stored => leftNoNul (List.mem_cons_of_mem byte stored)) following
        (fun stored => rightNoNul (List.mem_cons_of_mem byte stored)) sameTail
      simp only [mk.injEq] at sameBytes ⊢
      exact ⟨by rw [sameBytes], sameRest⟩

end CString

/-- `'0'..'9'`. -/
def isDigit (byte : UInt8) : Bool := 48 ≤ byte && byte ≤ 57

/-- `'a'..'z'`. -/
def isLower (byte : UInt8) : Bool := 97 ≤ byte && byte ≤ 122

/-- `'A'..'Z'`. -/
def isUpper (byte : UInt8) : Bool := 65 ≤ byte && byte ≤ 90

/-- A lower-case hexadecimal digit. -/
def isLowerHex (byte : UInt8) : Bool := isDigit byte || (97 ≤ byte && byte ≤ 102)

/-- The digit of a value below sixteen. -/
def hexDigit (nibble : UInt8) : UInt8 := if nibble < 10 then 48 + nibble else 87 + nibble

/-- Two digits for each byte, most significant first. -/
def hexBytes (bytes : List UInt8) : List UInt8 :=
  bytes.flatMap fun byte : UInt8 =>
    [hexDigit (byte >>> (4 : UInt8)), hexDigit (byte &&& (15 : UInt8))]

end PoisonedOS
