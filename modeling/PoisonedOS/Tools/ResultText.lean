import Mathlib.Data.List.Nodup
import Mathlib.Data.Nat.Digits.Lemmas
import PoisonedOS.Library.Decimal
import PoisonedOS.Library.Hex
import PoisonedOS.Session.Policy
import PoisonedOS.Tools.JsonReaders
import PoisonedOS.Vfs.Paths

/-!
# The text of a tool's result

The storage, the serial and the Marauder tool print a result into a buffer of fixed size: the
opening of a JSON object up to the quotation mark of its last member, then the bytes that were
read in hexadecimal digits while there is room for them, then the end of the object.

Each tool shows a bounded number of bytes. Whether the object is closed depends on the length of
its opening, and only the one of the storage tool, which holds a path, can be too long.
-/

namespace PoisonedOS.ResultText

/-- `POISON_APP_MAX_MESSAGE`. -/
def appMaxMessage : Nat := 1025

/-- The flat values of a result. -/
inductive FlatValue where
  | text (content : List UInt8)
  | number (value : Nat)
  | truth (value : Bool)
deriving DecidableEq

/-- A key and its value. -/
abbrev FlatMember := List UInt8 × FlatValue

/-- The bytes of a key. -/
def key (name : String) : List UInt8 := (CString.literal name).bytes

/-- Bytes that stand for themselves in a JSON string. -/
def isPlain (content : List UInt8) : Bool :=
  content.all fun byte => 32 ≤ byte && byte != 34 && byte != 92

/-- Text between quotation marks. -/
def quoted (content : List UInt8) : List UInt8 := quoteMark :: (content ++ [quoteMark])

/-- The JSON text of a value. -/
def FlatValue.written : FlatValue → List UInt8
  | .text content => quoted content
  | .number value => Decimal.digits value
  | .truth value => if value then trueText else falseText

/-- The JSON text of a member. -/
def writtenMember (member : FlatMember) : List UInt8 := quoted member.1 ++ 58 :: member.2.written

/-- The JSON text of members. -/
def writtenMembers : List FlatMember → List UInt8
  | [] => []
  | [member] => writtenMember member
  | member :: next :: rest => writtenMember member ++ 44 :: writtenMembers (next :: rest)

/-- The JSON text of an object. -/
def writtenObject (members : List FlatMember) : List UInt8 := 123 :: (writtenMembers members ++ [125])

/-- A member whose key and text stand for themselves. -/
def FlatMember.plain (member : FlatMember) : Bool :=
  isPlain member.1 && match member.2 with
    | .text content => isPlain content
    | _ => true

/-! ## Printing -/

/-- A buffer that `snprintf` fills, and how much of it is used. -/
structure Printed where
  message : List UInt8
  used : Nat

/-- `used += snprintf(message + used, size - used, text)`. -/
def Printed.append (printed : Printed) (size : Nat) (text : List UInt8) : Printed where
  message := printed.message.take printed.used ++ text.take (size - printed.used - 1)
  used := printed.used + text.length

/-- The loop that prints bytes. -/
def Printed.hex (printed : Printed) (size : Nat) : List UInt8 → Printed
  | [] => printed
  | byte :: rest =>
    if printed.used + 2 < size then (printed.append size (hexBytes [byte])).hex size rest
    else printed

/-- The format of a result up to its data. -/
def opening (members : List FlatMember) : List UInt8 :=
  123 :: (members.flatMap fun member => writtenMember member ++ [44]) ++
    quoted (key "data") ++ [58, quoteMark]

/-- A message that is passed on, with the members of the object that it should be, what the
adapter had read for it and whether input was dropped. -/
structure Published where
  success : Bool
  message : List UInt8
  members : List FlatMember
  read : Option (List UInt8 × Bool)

/-- `Esp32MarauderCapability`. -/
inductive MarauderCapability where
  | observe
  | control
  | active
  | admin
deriving DecidableEq

/-- The number of a capability. -/
def MarauderCapability.code : MarauderCapability → Nat
  | .observe => 0
  | .control => 1
  | .active => 2
  | .admin => 3

/-- A message is the JSON text of its members and fits, its data are of a prefix of what was read,
and it says whether that was all. -/
structure Published.Sound (published : Published) : Prop where
  bounded : published.message.length < appMaxMessage
  written : published.message = writtenObject published.members
  plain : published.members.all FlatMember.plain = true
  keys : (published.members.map Prod.fst).Nodup
  reported : ∀ bytes dropped, published.read = some (bytes, dropped) → ∃ shown, shown <+: bytes ∧
    published.members.lookup (key "data") = some (.text (hexBytes shown)) ∧
    published.members.lookup (key "truncated") =
      some (.truth (decide (shown.length < bytes.length) || dropped))

variable {size : Nat} {message text : List UInt8}

variable {members : List FlatMember} {limit : Nat} {bytes : List UInt8} {dropped : Bool}

variable {json : CString} {role : Role} {published : Published}
  {storage : CString → Option StorageFile} {sha256 : CString → Option Digest}

end PoisonedOS.ResultText
