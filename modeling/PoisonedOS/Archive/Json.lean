import PoisonedOS.Library.Text

/-!
# The JSON library

The reader is a scanner that calls back for every value it has read, with the path of the
value. `json_scanf` and `json_scanf_array_elem` run it once for each value they look for and
keep what they were called with; they do not look at how the scan ends. So a text that is
not JSON gives the values before its error.

The writer interprets a format. Outside of its conversions it copies punctuation as it
stands, the quotation mark included, and puts every word in quotation marks of its own.
-/

namespace PoisonedOS

/-- `enum json_token_type` other than `JSON_TYPE_INVALID`. -/
inductive JsonTokenType where
  | string
  | number
  | true
  | false
  | null
  | objectStart
  | objectEnd
  | arrayStart
  | arrayEnd
deriving DecidableEq, Repr

/-- A call of the scanner's callback. The starts of objects and arrays have no value. -/
structure JsonEvent where
  path : List UInt8
  type : JsonTokenType
  value : Option (List UInt8)
deriving DecidableEq

/-- What a part of the scanner has called back with, and what of the text remains. After an
error nothing remains to be scanned. -/
abbrev JsonWalk := List JsonEvent × Option (List UInt8)

namespace Json

/-- `JSON_MAX_PATH_LEN`. -/
def maxPathLen : Nat := 256

/-- `json_append_to_path`. -/
def appendToPath (path text : List UInt8) : List UInt8 :=
  path ++ text.take (maxPathLen - 1 - path.length)

/-- `CALL_BACK`: not while the path ends in a dot. -/
def callBack (path : List UInt8) (type : JsonTokenType) (value : Option (List UInt8)) :
    List JsonEvent :=
  if path.getLast? = some 46 then [] else [⟨path, type, value⟩]

/-- A scan goes on with what remains. -/
def andThen (walk : JsonWalk) (next : List UInt8 → JsonWalk) : JsonWalk :=
  match walk.2 with
  | none => walk
  | some rest => (walk.1 ++ (next rest).1, (next rest).2)

/-- `json_isspace`. -/
def isSpace (byte : UInt8) : Bool := byte == 32 || byte == 9 || byte == 13 || byte == 10

/-- `json_isalpha`. -/
def isAlpha (byte : UInt8) : Bool := isLower byte || isUpper byte

/-- `json_isxdigit`. -/
def isXDigit (byte : UInt8) : Bool :=
  isDigit byte || (97 ≤ byte && byte ≤ 102) || (65 ≤ byte && byte ≤ 70)

/-- `json_skip_whitespaces`. -/
def skipWhitespaces (text : List UInt8) : List UInt8 := text.dropWhile isSpace

/-- `json_test_and_skip`. -/
def testAndSkip (text : List UInt8) (expected : UInt8) : Option (List UInt8) :=
  match skipWhitespaces text with
  | byte :: rest => if byte = expected then some rest else none
  | [] => none

/-- `json_get_utf8_char_len`. -/
def utf8CharLen (byte : UInt8) : Nat :=
  if byte &&& 0x80 == 0 then 1
  else if byte &&& 0xf0 == 0xf0 then 4
  else if byte &&& 0xf0 == 0xe0 then 3
  else 2

/-- `json_get_escape_len` of the text after a backslash. -/
def escapeLen (text : List UInt8) : Option Nat :=
  match text with
  | [] => none
  | byte :: digits =>
    if byte = 117 then
      if digits.length < 4 then none
      else if (digits.take 4).all isXDigit then some 5
      else none
    else if byte ∈ [34, 92, 47, 98, 102, 110, 114, 116] then some 1
    else none

/-- The loop of `json_parse_string`: the length of the string's text, and what follows its
closing quotation mark. -/
def scanString : Nat → Nat → List UInt8 → Option (Nat × List UInt8)
  | 0, _, _ => none
  | _ + 1, _, [] => none
  | fuel + 1, scanned, byte :: rest =>
    let length := utf8CharLen byte
    if byte < 32 || length > rest.length + 1 then none
    else if byte = 92 then
      match escapeLen rest with
      | none => none
      | some escape =>
        scanString fuel (scanned + length + escape) ((byte :: rest).drop (length + escape))
    else if byte = 34 then some (scanned, rest)
    else scanString fuel (scanned + length) ((byte :: rest).drop length)

/-- `json_parse_string`. -/
def parseString (path text : List UInt8) : JsonWalk :=
  match testAndSkip text 34 with
  | none => ([], none)
  | some body =>
    match scanString (body.length + 1) 0 body with
    | none => ([], none)
    | some (length, rest) => (callBack path .string (some (body.take length)), some rest)

/-- `json_parse_identifier`. -/
def parseIdentifier (path text : List UInt8) : JsonWalk :=
  let body := skipWhitespaces text
  let isWord (byte : UInt8) : Bool := byte == 95 || isAlpha byte || isDigit byte
  (callBack path .string (some (body.takeWhile isWord)), some (body.dropWhile isWord))

/-- One digit and those after it. -/
def digits (isOne : UInt8 → Bool) (text : List UInt8) : Option (List UInt8) :=
  match text with
  | byte :: rest => if isOne byte then some (rest.dropWhile isOne) else none
  | [] => none

/-- The fraction of a number, if there is one. -/
def fraction (text : List UInt8) : Option (List UInt8) :=
  match text with
  | 46 :: rest => digits isDigit rest
  | _ => some text

/-- The exponent of a number, if there is one. -/
def exponent (text : List UInt8) : Option (List UInt8) :=
  match text with
  | byte :: rest =>
    if byte = 101 || byte = 69 then
      match rest with
      | sign :: unsigned =>
        if sign = 43 || sign = 45 then digits isDigit unsigned else digits isDigit rest
      | [] => none
    else some text
  | [] => some text

/-- `json_parse_number`. -/
def parseNumber (path text : List UInt8) : JsonWalk :=
  let start := skipWhitespaces text
  let unsigned := if start.head? = some 45 then start.tail else start
  let scanned :=
    if unsigned.take 2 = [48, 120] then digits isXDigit (unsigned.drop 2)
    else ((digits isDigit unsigned).bind fraction).bind exponent
  match scanned with
  | none => ([], none)
  | some rest => (callBack path .number (some (start.take (start.length - rest.length))), some rest)

/-- `json_expect`. -/
def expect (path text word : List UInt8) (type : JsonTokenType) : JsonWalk :=
  if text.take word.length = word then (callBack path type (some word), some (text.drop word.length))
  else ([], none)

/-- `json_parse_key`. -/
def parseKey (path text : List UInt8) : JsonWalk :=
  match skipWhitespaces text with
  | [] => ([], none)
  | byte :: rest =>
    if isAlpha byte then parseIdentifier path (byte :: rest)
    else if byte = 34 then parseString path (byte :: rest)
    else ([], none)

/-- The name of a key that was scanned: without its quotation marks, if it has them. -/
def keyName (key : List UInt8) : List UInt8 :=
  if key.head? = some 34 then key.tail.dropLast else key

/-- The decimal digits of a number. -/
def decimalDigits : Nat → Nat → List UInt8
  | 0, _ => []
  | fuel + 1, value =>
    (if value < 10 then [] else decimalDigits fuel (value / 10)) ++ [48 + UInt8.ofNat (value % 10)]

/-- `%d` and `%lu` of a number. -/
def decimal (value : Nat) : List UInt8 := decimalDigits (value + 1) value

mutual

/-- `json_parse_value`. -/
def parseValue : Nat → List UInt8 → List UInt8 → JsonWalk
  | 0, _, _ => ([], none)
  | fuel + 1, path, text =>
    match skipWhitespaces text with
    | [] => ([], none)
    | byte :: rest =>
      if byte = 34 then parseString path (byte :: rest)
      else if byte = 123 then
        andThen (callBack path .objectStart none, some rest) fun body =>
          parsePairs fuel path (byte :: rest) (appendToPath path [46]) body
      else if byte = 91 then
        andThen (callBack path .arrayStart none, some rest) fun body =>
          parseElements fuel path (byte :: rest) 0 body
      else if byte = 110 then expect path (byte :: rest) (CString.literal "null").bytes .null
      else if byte = 116 then expect path (byte :: rest) (CString.literal "true").bytes .true
      else if byte = 102 then expect path (byte :: rest) (CString.literal "false").bytes .false
      else if byte = 45 || isDigit byte then parseNumber path (byte :: rest)
      else ([], none)

/-- The loop of `json_parse_object`, with `json_parse_pair`: the path and the text of the
object, the path of its pairs, and what remains of it. -/
def parsePairs : Nat → List UInt8 → List UInt8 → List UInt8 → List UInt8 → JsonWalk
  | 0, _, _, _, _ => ([], none)
  | fuel + 1, path, object, inner, text =>
    match skipWhitespaces text with
    | 125 :: rest =>
      (callBack path .objectEnd (some (object.take (object.length - rest.length))), some rest)
    | start =>
      andThen (parseKey inner start) fun afterKey =>
        match testAndSkip afterKey 58 with
        | none => ([], none)
        | some value =>
          let name := keyName (start.take (start.length - afterKey.length))
          andThen (parseValue fuel (appendToPath inner name) value) fun rest =>
            match skipWhitespaces rest with
            | 44 :: next => parsePairs fuel path object inner next
            | next => parsePairs fuel path object inner next

/-- The loop of `json_parse_array`: the path and the text of the array, the index of the
next element, and what remains of the array. -/
def parseElements : Nat → List UInt8 → List UInt8 → Nat → List UInt8 → JsonWalk
  | 0, _, _, _, _ => ([], none)
  | fuel + 1, path, array, index, text =>
    match skipWhitespaces text with
    | 93 :: rest =>
      (callBack path .arrayEnd (some (array.take (array.length - rest.length))), some rest)
    | start =>
      andThen (parseValue fuel (appendToPath path (91 :: decimal index ++ [93])) start) fun rest =>
        match skipWhitespaces rest with
        | 44 :: next => parseElements fuel path array (index + 1) next
        | next => parseElements fuel path array (index + 1) next

end

/-- `json_walk`: what the callback is called with. Every round of a loop and every value
takes a byte of the text. -/
def walk (text : List UInt8) : List JsonEvent := (parseValue (2 * text.length + 2) [] text).1

/-- The callbacks with a value at this path, as `strcmp` compares paths. -/
def atPath (path : CString) (events : List JsonEvent) : List JsonEvent :=
  events.filter fun event => decide (CString.ofBytes event.path = path)

/-- `hexdec`. -/
def hexdec (high low : UInt8) : UInt8 :=
  let lower (byte : UInt8) : UInt8 := if isUpper byte then byte + 32 else byte
  let value (byte : UInt8) : UInt8 := if isDigit byte then byte - 48 else byte - 87
  value (lower high) <<< 4 ||| value (lower low)

/-- `json_unescape`. -/
def unescape : Nat → List UInt8 → Option (List UInt8)
  | 0, _ => none
  | _ + 1, [] => some []
  | fuel + 1, byte :: rest =>
    if byte ≠ 92 then (unescape fuel rest).map (byte :: ·)
    else
      match rest with
      | [] => none
      | 117 :: first :: second :: high :: low :: following =>
        if first = 48 ∧ second = 48 then (unescape fuel following).map (hexdec high low :: ·)
        else none
      | escape :: following =>
        match [34, 92, 47, 98, 102, 110, 114, 116, 0].idxOf? escape with
        | none => none
        | some index =>
          (unescape fuel following).map ([34, 92, 47, 8, 12, 10, 13, 9, 0].getD index 0 :: ·)

/-- `b64rev`. -/
def b64rev (byte : UInt8) : UInt8 :=
  if isUpper byte then byte - 65
  else if isLower byte then byte + 26 - 97
  else if isDigit byte then byte + 52 - 48
  else if byte = 43 then 62
  else if byte = 47 then 63
  else 64

/-- `b64dec`. -/
def b64dec : List UInt8 → List UInt8
  | first :: second :: third :: fourth :: rest =>
    let a := b64rev first
    let b := b64rev second
    let c := b64rev third
    let d := b64rev fourth
    (a <<< 2 ||| b >>> 4) ::
      (if third = 61 then [] else (b <<< 4 ||| c >>> 2) ::
        if fourth = 61 then [] else [c <<< 6 ||| d]) ++ b64dec rest
  | _ => []

/-- `ULONG_MAX`, of 32 bits. -/
def ulongMax : Nat := 0xffffffff

/-- `isspace`. -/
def isSpaceC (byte : UInt8) : Bool := byte == 32 || (9 ≤ byte && byte ≤ 13)

/-- The value of a digit in any base. -/
def digitValue (byte : UInt8) : Nat :=
  if isDigit byte then byte.toNat - 48
  else if isLower byte then byte.toNat - 87
  else if isUpper byte then byte.toNat - 55
  else 255

/-- The number of these digits, which stays at the largest one when it overflows, negated
after a minus sign. -/
def ulong (base : Nat) (negative : Bool) (text : List UInt8) : Nat :=
  let value := text.foldl (fun value byte => value * base + digitValue byte) 0
  if value > ulongMax then ulongMax
  else if negative then (0x100000000 - value) % 0x100000000
  else value

/-- `strtoul` with base 0: the number and what follows it. A text without digits is not
moved past. -/
def strtoul (text : List UInt8) : Nat × List UInt8 :=
  let start := text.dropWhile isSpaceC
  let negative := start.head? == some 45
  let unsigned := if negative || start.head? == some 43 then start.tail else start
  let isHex := unsigned.head? == some 48 &&
    (unsigned.tail.head? == some 120 || unsigned.tail.head? == some 88) &&
    (unsigned.drop 2).head?.any isXDigit
  let base := if isHex then 16 else if unsigned.head? == some 48 then 8 else 10
  let body := if isHex then unsigned.drop 2 else unsigned
  let isOne (byte : UInt8) : Bool := decide (digitValue byte < base)
  if (body.takeWhile isOne).isEmpty then (0, text)
  else (ulong base negative (body.takeWhile isOne), body.dropWhile isOne)

/-- What the calls of `json_scanf_cb` for one conversion count, and the last value they
store. -/
def scan {Value : Type} (events : List JsonEvent) (path : CString)
    (convert : JsonTokenType → List UInt8 → Option (Option Value)) : Nat × Option Value :=
  (atPath path events).foldl
    (fun (count, last) event =>
      match event.value with
      | none => (count, last)
      | some value =>
        match convert event.type value with
        | none => (count, last)
        | some (some converted) => (count + 1, some converted)
        | some none => (count, none))
    (0, none)

/-- `%Q`. A null is stored and not counted. -/
def scanText (events : List JsonEvent) (path : CString) : Nat × Option CString :=
  scan events path fun type value =>
    if type = .null then some none
    else (unescape (value.length + 1) value).map fun text => some (CString.ofBytes text)

/-- `%u` and `%lu`. -/
def scanUnsigned (events : List JsonEvent) (path : CString) : Nat × Option Nat :=
  scan events path fun _ value =>
    if value.length ≥ 32 then none
    else
      let (number, rest) := strtoul (CString.ofBytes value).bytes
      if rest.isEmpty then some (some number) else none

/-- `%V`. -/
def scanBase64 (events : List JsonEvent) (path : CString) : Nat × Option (List UInt8) :=
  scan events path fun _ value => some (some (b64dec value))

/-- `json_scanf_array_elem`: the last callback at the path of the element. -/
def arrayElem (events : List JsonEvent) (path : CString) (index : Nat) : Option JsonEvent :=
  (atPath (path.append (CString.ofBytes (91 :: decimal index ++ [93]))) events).getLast?

/-- `isprint`. -/
def isPrint (byte : UInt8) : Bool := 32 ≤ byte && byte ≤ 126

/-- `hex_digits[value % 0xf]`. -/
def escapeDigit (value : UInt8) : UInt8 := hexDigit (value % 15)

/-- `json_escape` of a string in a cleared buffer. A character that is cut off at the end of
the string is read on into the buffer. -/
def escape : Nat → List UInt8 → List UInt8
  | 0, _ => []
  | _ + 1, [] => []
  | fuel + 1, byte :: rest =>
    if byte = 34 || byte = 92 then 92 :: byte :: escape fuel rest
    else if 8 ≤ byte && byte ≤ 13 then
      92 :: [98, 116, 110, 118, 102, 114].getD (byte.toNat - 8) 0 :: escape fuel rest
    else if isPrint byte then byte :: escape fuel rest
    else if utf8CharLen byte = 1 then
      [92, 117, 48, 48, escapeDigit (byte >>> 4), escapeDigit byte] ++ escape fuel rest
    else
      let length := utf8CharLen byte
      (byte :: rest ++ [0, 0, 0]).take length ++ escape fuel ((byte :: rest).drop length)

/-- An argument of a format. -/
inductive JsonArgument where
  | text (value : CString)
  | unsigned (value : Nat)

/-- The characters copied as they stand. -/
def punctuation : List UInt8 := (CString.literal ":, \r\n\t[]\x7b\x7d\"").bytes

/-- The characters of a conversion that is left to `vsnprintf`. -/
def conversionBytes : List UInt8 := (CString.literal "sdfFeEgGlhuIcx.*-0123456789").bytes

/-- `json_vprintf`, with the conversions `%Q` and `%lu`. The format that is handed to
`vsnprintf` is not ended after its conversion, so that what follows it in the first 19
characters is printed with the number, and once more when its turn comes. -/
def vprintf : Nat → List UInt8 → List JsonArgument → List UInt8
  | 0, _, _ => []
  | _ + 1, [], _ => []
  | fuel + 1, byte :: format, arguments =>
    if byte ∈ punctuation then byte :: vprintf fuel format arguments
    else if byte = 37 then
      match format, arguments with
      | 81 :: rest, .text value :: others =>
        34 :: escape (value.length + 1) value.bytes ++ 34 :: vprintf fuel rest others
      | _, .unsigned value :: others =>
        decimal value ++ (format.take 18).dropWhile (· ∈ conversionBytes) ++
          vprintf fuel (format.dropWhile (· ∈ conversionBytes)) others
      | _, _ => []
    else if byte = 95 || isAlpha byte then
      let isWord (byte : UInt8) : Bool := byte == 95 || isAlpha byte || isDigit byte
      34 :: (byte :: format).takeWhile isWord ++
        34 :: vprintf fuel ((byte :: format).dropWhile isWord) arguments
    else byte :: vprintf fuel format arguments

/-- `json_printf`. -/
def printf (format : CString) (arguments : List JsonArgument) : List UInt8 :=
  vprintf (format.length + 1) format.bytes arguments

example : printf (CString.literal "\x7b\"size\":%lu\x7d") [.unsigned 16] =
    (CString.literal "\x7b\"\"size\"\":16\x7d\x7d").bytes := by decide +kernel

end Json

end PoisonedOS
