import PoisonedOS.Library.Text

/-!
# Reading a command's JSON

The tool service reads the fields of a command from its text. A field is looked for as
the key in quotation marks: its first occurrence must stand at the start of a member, it
must not occur again, and a colon must follow. Between these only spaces and tabs are
passed over.

The value is then read as a number between two bounds, as a truth value, or as a string
without escapes that fits the caller's buffer.
-/

namespace PoisonedOS

def FirstOccurrence.split {Letter : Type*} [DecidableEq Letter] (word : List Letter) :
    List Letter → Option (List Letter × List Letter)
  | [] => if word = [] then some ([], []) else none
  | letter :: rest =>
    if word <+: letter :: rest then some ([], (letter :: rest).drop word.length)
    else (split word rest).map fun found => (letter :: found.1, found.2)

open FirstOccurrence

/-- `'"'`. -/
def quoteMark : UInt8 := 34

/-- A space or a tab. -/
def isSpaceOrTab (byte : UInt8) : Bool := byte == 32 || byte == 9

/-- `poison_tools_json_object`. -/
def jsonObject (json : CString) : Bool :=
  decide (2 ≤ json.length) && decide (json.length < 4097) && json.bytes.head? == some 123 &&
    json.bytes.getLast? == some 125

/-- The key in quotation marks, in the buffer of 68 bytes that `snprintf` fills. -/
def quotedKey (key : CString) : List UInt8 := (quoteMark :: (key.bytes ++ [quoteMark])).take 67

/-- The byte before the spaces and tabs that a text ends in. -/
def boundaryByte (before : List UInt8) : Option UInt8 :=
  (before.reverse.dropWhile isSpaceOrTab).head?

/-- The rest of `poison_tools_json_value` where the key was found. -/
def jsonMemberValue (quoted before after : List UInt8) : Option (List UInt8) :=
  if boundaryByte before != some 123 && boundaryByte before != some 44 then none
  else if (split quoted after).isSome then none
  else
    match after.dropWhile isSpaceOrTab with
    | [] => none
    | byte :: rest => if byte != 58 then none else some (rest.dropWhile isSpaceOrTab)

/-- `poison_tools_json_value`: the text from the value on. -/
def jsonValue (json key : CString) : Option (List UInt8) :=
  if !jsonObject json then none
  else
    (split (quotedKey key) json.bytes).bind fun found =>
      jsonMemberValue (quotedKey key) found.1 found.2

/-- `poison_tools_json_value_terminated`. -/
def jsonValueTerminated (cursor : List UInt8) : Bool :=
  match cursor.dropWhile isSpaceOrTab with
  | [] => false
  | byte :: _ => byte == 44 || byte == 125

/-- The loop of `poison_tools_json_uint`: the number and what follows its digits. The
number does not leave 64 bits, as it is compared after each digit. -/
def parseDigits (maximum : Nat) : Nat → List UInt8 → Option (Nat × List UInt8)
  | parsed, [] => some (parsed, [])
  | parsed, byte :: rest =>
    if isDigit byte then
      let next := parsed * 10 + (byte.toNat - 48)
      if next > maximum then none else parseDigits maximum next rest
    else some (parsed, byte :: rest)

/-- What `poison_tools_json_uint` makes of a value. -/
def readUint (minimum maximum : UInt32) : List UInt8 → Option UInt32
  | [] => none
  | byte :: rest =>
    if !isDigit byte then none
    else
      match parseDigits maximum.toNat 0 (byte :: rest) with
      | none => none
      | some (parsed, after) =>
        if decide (parsed < minimum.toNat) || decide (parsed > maximum.toNat) ||
            !jsonValueTerminated after then
          none
        else some (UInt32.ofNat parsed)

/-- `poison_tools_json_uint`. -/
def jsonUint (json key : CString) (minimum maximum : UInt32) : Option UInt32 :=
  (jsonValue json key).bind (readUint minimum maximum)

/-- `"true"`. -/
def trueText : List UInt8 := [116, 114, 117, 101]

/-- `"false"`. -/
def falseText : List UInt8 := [102, 97, 108, 115, 101]

/-- What `poison_tools_json_bool` makes of a value. -/
def readBool (value : List UInt8) : Option Bool :=
  if trueText <+: value ∧ jsonValueTerminated (value.drop 4) = true then some true
  else if falseText <+: value ∧ jsonValueTerminated (value.drop 5) = true then some false
  else none

/-- `poison_tools_json_bool`. -/
def jsonBool (json key : CString) : Option Bool := (jsonValue json key).bind readBool

/-- The loop of `poison_tools_json_string`: the content, and what follows from the byte
that ended it. -/
def scanContent (capacity : Nat) : Nat → List UInt8 → Option (List UInt8 × List UInt8)
  | _, [] => some ([], [])
  | length, byte :: rest =>
    if byte == quoteMark then some ([], byte :: rest)
    else if byte < 32 || byte == 92 || decide (length + 1 ≥ capacity) then none
    else (scanContent capacity (length + 1) rest).map fun scanned => (byte :: scanned.1, scanned.2)

/-- What `poison_tools_json_string` makes of a value. -/
def readString (capacity : Nat) : List UInt8 → Option (List UInt8)
  | [] => none
  | byte :: rest =>
    if byte != quoteMark || decide (capacity < 2) then none
    else
      match scanContent capacity 0 rest with
      | none => none
      | some (_, []) => none
      | some (content, _ :: after) => if jsonValueTerminated after then some content else none

end PoisonedOS
