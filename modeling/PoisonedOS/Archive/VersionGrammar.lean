import Mathlib.Data.Prod.Lex
import PoisonedOS.Archive.Manifest

/-!
# The grammar of versions and of the firmware API

A version is three numbers of fewer than 33 bits between points, and a requirement on the
firmware API is a version or a range of versions. The code reads both with `sscanf`, whose
conversions take more than that: blanks and a sign before a number, a number of any size, and
any blanks where the format has one.

What the conversions take is described by forms, so that a text is read exactly where it is
the text of a form. Every text of a version is the text of a plain form; apart from the texts
of the other forms the code reads exactly the grammar.
-/

namespace PoisonedOS.PackageManifest

/-- The text does not go on with a byte of a kind. -/
def Ends (kind : UInt8 → Bool) (text : List UInt8) : Prop :=
  ∀ byte, text.head? = some byte → kind byte = false

theorem ends_nil (kind : UInt8 → Bool) : Ends kind [] := by
  intro byte first
  cases first

theorem ends_cons {kind : UInt8 → Bool} {byte : UInt8} (other : kind byte = false)
    (rest : List UInt8) : Ends kind (byte :: rest) := by
  intro first same
  cases same
  exact other

/-- What is left after the bytes of a kind does not go on with one. -/
theorem ends_dropWhile (kind : UInt8 → Bool) (text : List UInt8) :
    Ends kind (text.dropWhile kind) := by
  intro byte first
  have := List.head?_dropWhile_not kind text
  rw [first] at this
  exact this

/-- Bytes of a kind and a text that does not go on with one are taken apart again. -/
theorem takeWhile_ends {kind : UInt8 → Bool} {run rest : List UInt8}
    (all : ∀ byte ∈ run, kind byte = true) (ends : Ends kind rest) :
    (run ++ rest).takeWhile kind = run ∧ (run ++ rest).dropWhile kind = rest := by
  rw [List.takeWhile_append_of_pos all, List.dropWhile_append_of_pos all]
  cases rest with
  | nil => exact ⟨List.append_nil run, rfl⟩
  | cons byte rest =>
    have stops : ¬ kind byte = true := by
      rw [ends byte rfl]
      exact Bool.false_ne_true
    rw [List.takeWhile_cons_of_neg stops, List.dropWhile_cons_of_neg stops, List.append_nil]
    exact ⟨rfl, rfl⟩

/-- The number that digits denote. -/
def decimalValue (digits : List UInt8) : Nat :=
  digits.foldl (fun value byte => value * 10 + (byte.toNat - 48)) 0

/-- What `%lu` of `sscanf` takes: blanks, a sign and digits. -/
structure NumberForm where
  blanks : List UInt8
  sign : List UInt8
  digits : List UInt8
  blank : ∀ byte ∈ blanks, Json.isSpaceC byte = true
  signed : sign = [] ∨ sign = [43] ∨ sign = [45]
  nonempty : digits ≠ []
  digital : ∀ byte ∈ digits, isDigit byte = true

namespace NumberForm

def text (form : NumberForm) : List UInt8 := form.blanks ++ (form.sign ++ form.digits)

def value (form : NumberForm) : Nat := Json.ulong 10 (form.sign == [45]) form.digits

/-- Nothing but the digits of a number below 2 ^ 32. -/
structure Plain (form : NumberForm) : Prop where
  unblanked : form.blanks = []
  unsigned : form.sign = []
  small : decimalValue form.digits < 4294967296

/-- The value of digits as the conversion computes it. -/
theorem decimal_foldl (digits : List UInt8) (digital : ∀ byte ∈ digits, isDigit byte = true)
    (start : Nat) :
    digits.foldl (fun value byte => value * 10 + Json.digitValue byte) start =
      digits.foldl (fun value byte => value * 10 + (byte.toNat - 48)) start := by
  induction digits generalizing start with
  | nil => rfl
  | cons byte rest ih =>
    have here : Json.digitValue byte = byte.toNat - 48 :=
      if_pos (digital byte List.mem_cons_self)
    rw [List.foldl_cons, List.foldl_cons, here]
    exact ih (fun other member => digital other (List.mem_cons_of_mem _ member)) _

theorem Plain.value_eq {form : NumberForm} (plain : form.Plain) :
    form.value = decimalValue form.digits := by
  have small := plain.small
  have same : form.digits.foldl (fun value byte => value * 10 + Json.digitValue byte) 0 =
      decimalValue form.digits := decimal_foldl form.digits form.digital 0
  rw [value, plain.unsigned, Json.ulong, same, if_neg (by simp only [Json.ulongMax]; omega)]
  rfl

theorem Plain.text_eq {form : NumberForm} (plain : form.Plain) : form.text = form.digits := by
  rw [text, plain.unblanked, plain.unsigned]
  rfl

/-- A sign and digits do not go on with a blank. -/
theorem ends_blank (form : NumberForm) (rest : List UInt8) :
    Ends Json.isSpaceC (form.sign ++ (form.digits ++ rest)) := by
  obtain unsigned | plus | minus := form.signed
  · rw [unsigned, List.nil_append]
    obtain ⟨first, others, parts⟩ := List.exists_cons_of_ne_nil form.nonempty
    rw [parts, List.cons_append]
    refine ends_cons ?_ _
    have digit := form.digital first (parts ▸ List.mem_cons_self)
    simp only [isDigit, Bool.and_eq_true, decide_eq_true_eq] at digit
    have low := UInt8.le_iff_toNat_le.mp digit.1
    have notSpace : first ≠ 32 := by
      rintro rfl
      exact absurd low (by decide)
    have notControl : ¬ first ≤ 13 := by
      rw [UInt8.le_iff_toNat_le]
      exact fun high => absurd (Nat.le_trans low high) (by decide)
    simp [Json.isSpaceC, notSpace, notControl]
  · rw [plus]
    exact ends_cons (by decide) _
  · rw [minus]
    exact ends_cons (by decide) _

/-- A digit is not a sign. -/
theorem head_digits (form : NumberForm) (rest : List UInt8) :
    (form.digits ++ rest).head? ≠ some 45 ∧ (form.digits ++ rest).head? ≠ some 43 := by
  obtain ⟨first, others, parts⟩ := List.exists_cons_of_ne_nil form.nonempty
  have digit := form.digital first (parts ▸ List.mem_cons_self)
  rw [parts, List.cons_append, List.head?_cons]
  constructor
  · rintro ⟨⟩
    exact absurd digit (by decide)
  · rintro ⟨⟩
    exact absurd digit (by decide)

end NumberForm

/-- A text is cut into a sign and what follows it. -/
theorem scanLong_signed {start sign unsigned : List UInt8} (parts : start = sign ++ unsigned)
    (signed : sign = [] ∧ start.head? ≠ some 45 ∧ start.head? ≠ some 43 ∨ sign = [43] ∨
      sign = [45]) :
    (start.head? == some 45) = (sign == [45]) ∧
      (if (start.head? == some 45) || start.head? == some 43 then start.tail else start) =
        unsigned := by
  subst parts
  obtain ⟨rfl, notMinus, notPlus⟩ | rfl | rfl := signed
  · rw [List.nil_append] at notMinus notPlus ⊢
    rw [beq_false_of_ne notMinus, beq_false_of_ne notPlus]
    exact ⟨rfl, rfl⟩
  · exact ⟨rfl, rfl⟩
  · exact ⟨rfl, rfl⟩

/-- Every text has a sign or none. -/
theorem sign_cases (start : List UInt8) :
    ∃ sign unsigned, start = sign ++ unsigned ∧
      (sign = [] ∧ start.head? ≠ some 45 ∧ start.head? ≠ some 43 ∨ sign = [43] ∨
        sign = [45]) := by
  cases start with
  | nil => exact ⟨[], [], rfl, .inl ⟨rfl, (fun same => by cases same), (fun same => by cases same)⟩⟩
  | cons byte rest =>
    by_cases minus : byte = 45
    · exact ⟨[45], rest, congrArg (· :: rest) minus, .inr (.inr rfl)⟩
    · by_cases plus : byte = 43
      · exact ⟨[43], rest, congrArg (· :: rest) plus, .inr (.inl rfl)⟩
      · refine ⟨[], byte :: rest, rfl, .inl ⟨rfl, ?_, ?_⟩⟩
        · exact fun same => minus (Option.some.inj same)
        · exact fun same => plus (Option.some.inj same)

/-- A number is read exactly where the text starts with a form that its digits end. -/
theorem scanLong_iff {text rest : List UInt8} {number : Nat} :
    scanLong text = some (number, rest) ↔
      ∃ form : NumberForm, text = form.text ++ rest ∧ number = form.value ∧
        Ends isDigit rest := by
  constructor
  · intro scanned
    obtain ⟨sign, unsigned, parts, signed⟩ := sign_cases (text.dropWhile Json.isSpaceC)
    obtain ⟨negative, body⟩ := scanLong_signed parts signed
    unfold scanLong at scanned
    dsimp only at scanned
    rw [body, negative] at scanned
    split at scanned
    · cases scanned
    · rename_i someDigit
      cases scanned
      refine ⟨⟨text.takeWhile Json.isSpaceC, sign, unsigned.takeWhile isDigit,
        List.all_eq_true.mp List.all_takeWhile, signed.imp_left And.left, ?_,
        List.all_eq_true.mp List.all_takeWhile⟩, ?_, rfl, ends_dropWhile isDigit unsigned⟩
      · exact fun empty => someDigit (List.isEmpty_iff.mpr empty)
      · rw [NumberForm.text, List.append_assoc, List.append_assoc,
          List.takeWhile_append_dropWhile, ← parts, List.takeWhile_append_dropWhile]
  · rintro ⟨form, rfl, rfl, ends⟩
    have blanks := takeWhile_ends form.blank (form.ends_blank rest)
    have digits := takeWhile_ends form.digital ends
    have signed : form.sign = [] ∧
        (form.sign ++ (form.digits ++ rest)).head? ≠ some 45 ∧
        (form.sign ++ (form.digits ++ rest)).head? ≠ some 43 ∨ form.sign = [43] ∨
          form.sign = [45] := by
      obtain unsigned | signed := form.signed
      · refine .inl ⟨unsigned, ?_⟩
        rw [unsigned, List.nil_append]
        exact form.head_digits rest
      · exact .inr signed
    obtain ⟨negative, body⟩ := scanLong_signed rfl signed
    have notEmpty : ¬ form.digits.isEmpty = true := by
      rw [List.isEmpty_iff]
      exact form.nonempty
    unfold scanLong
    dsimp only
    rw [NumberForm.text, List.append_assoc, List.append_assoc, blanks.2, body, negative, digits.1,
      digits.2, if_neg notEmpty]
    rfl

theorem scanByte_iff {byte : UInt8} {text rest : List UInt8} :
    scanByte byte text = some rest ↔ text = byte :: rest := by
  unfold scanByte
  cases text with
  | nil => simp
  | cons first others =>
    by_cases same : first = byte
    · simp [same]
    · simp [same]

/-- What `"%lu.%lu.%lu"` takes. -/
structure VersionForm where
  major : NumberForm
  minor : NumberForm
  patch : NumberForm

namespace VersionForm

def text (form : VersionForm) : List UInt8 :=
  form.major.text ++ 46 :: (form.minor.text ++ 46 :: form.patch.text)

def value (form : VersionForm) : Nat × Nat × Nat :=
  (form.major.value, form.minor.value, form.patch.value)

structure Plain (form : VersionForm) : Prop where
  major : form.major.Plain
  minor : form.minor.Plain
  patch : form.patch.Plain

end VersionForm

variable {version : Nat × Nat × Nat}

/-- A version is read exactly where the text starts with a form that its digits end. -/
theorem scanTriple_iff {text rest : List UInt8} :
    scanTriple text = some (version, rest) ↔
      ∃ form : VersionForm, text = form.text ++ rest ∧ version = form.value ∧
        Ends isDigit rest := by
  simp only [scanTriple, Option.bind_eq_bind, Option.bind_eq_some_iff, Option.pure_def,
    Option.some.injEq, Prod.mk.injEq, Prod.exists, scanByte_iff]
  constructor
  · rintro ⟨major, first, isMajor, second, rfl, minor, third, isMinor, fourth, rfl, patch, last,
      isPatch, rfl, rfl⟩
    obtain ⟨majorForm, rfl, rfl, -⟩ := scanLong_iff.mp isMajor
    obtain ⟨minorForm, rfl, rfl, -⟩ := scanLong_iff.mp isMinor
    obtain ⟨patchForm, rfl, rfl, ends⟩ := scanLong_iff.mp isPatch
    refine ⟨⟨majorForm, minorForm, patchForm⟩, ?_, rfl, ends⟩
    simp only [VersionForm.text, List.append_assoc, List.cons_append]
  · rintro ⟨form, rfl, rfl, ends⟩
    refine ⟨form.major.value, 46 :: (form.minor.text ++ 46 :: (form.patch.text ++ rest)),
      scanLong_iff.mpr ⟨form.major, ?_, rfl, ends_cons (by decide) _⟩, _, rfl,
      form.minor.value, 46 :: (form.patch.text ++ rest),
      scanLong_iff.mpr ⟨form.minor, rfl, rfl, ends_cons (by decide) _⟩, _, rfl,
      form.patch.value, rest, scanLong_iff.mpr ⟨form.patch, rfl, rfl, ends⟩, rfl, rfl⟩
    simp only [VersionForm.text, List.append_assoc, List.cons_append]

/-- What `">=%lu.%lu.%lu <%lu.%lu.%lu"` takes. -/
structure RangeForm where
  lower : VersionForm
  gap : List UInt8
  upper : VersionForm
  blank : ∀ byte ∈ gap, Json.isSpaceC byte = true

namespace RangeForm

def text (form : RangeForm) : List UInt8 :=
  62 :: 61 :: (form.lower.text ++ (form.gap ++ 60 :: form.upper.text))

/-- Both versions are plain, with one space between them. -/
structure Plain (form : RangeForm) : Prop where
  lower : form.lower.Plain
  spaced : form.gap = [32]
  upper : form.upper.Plain

end RangeForm

/-- Blanks and a sign do not go on with a digit. -/
theorem ends_gap {gap : List UInt8} (blank : ∀ byte ∈ gap, Json.isSpaceC byte = true)
    (rest : List UInt8) : Ends isDigit (gap ++ 60 :: rest) := by
  cases gap with
  | nil => exact ends_cons (by decide) _
  | cons byte others =>
    refine ends_cons ?_ _
    have space := blank byte List.mem_cons_self
    simp only [Json.isSpaceC, Bool.or_eq_true, Bool.and_eq_true, decide_eq_true_eq, beq_iff_eq]
      at space
    obtain rfl | ⟨-, low⟩ := space
    · decide
    · have notDigit : ¬ 48 ≤ byte := by
        rw [UInt8.le_iff_toNat_le]
        exact fun high => absurd (Nat.le_trans high (UInt8.le_iff_toNat_le.mp low)) (by decide)
      simp [isDigit, notDigit]

/-- A range is read exactly where the text starts with a form that its digits end. -/
theorem scanRange_iff {text rest : List UInt8} {lower upper : Nat × Nat × Nat} :
    scanRange text = some ((lower, upper), rest) ↔
      ∃ form : RangeForm, text = form.text ++ rest ∧ lower = form.lower.value ∧
        upper = form.upper.value ∧ Ends isDigit rest := by
  simp only [scanRange, Option.bind_eq_bind, Option.bind_eq_some_iff, Option.pure_def,
    Option.some.injEq, Prod.mk.injEq, Prod.exists, scanByte_iff]
  constructor
  · rintro ⟨_, rfl, _, rfl, _, _, _, middle, isLower, _, isLess, _, _, _, last, isUpper,
      ⟨rfl, rfl⟩, rfl⟩
    obtain ⟨lowerForm, rfl, lowerValue, -⟩ := scanTriple_iff.mp isLower
    obtain ⟨upperForm, rfl, upperValue, ends⟩ := scanTriple_iff.mp isUpper
    refine ⟨⟨lowerForm, middle.takeWhile Json.isSpaceC, upperForm,
      List.all_eq_true.mp List.all_takeWhile⟩, ?_, lowerValue, upperValue, ends⟩
    rw [RangeForm.text, List.cons_append, List.cons_append, List.append_assoc, List.append_assoc,
      List.cons_append, ← isLess, List.takeWhile_append_dropWhile]
  · rintro ⟨form, rfl, rfl, rfl, ends⟩
    have less : Ends Json.isSpaceC (60 :: (form.upper.text ++ rest)) := ends_cons (by decide) _
    have gap := takeWhile_ends form.blank less
    refine ⟨61 :: (form.lower.text ++ (form.gap ++ 60 :: (form.upper.text ++ rest))), ?_,
      form.lower.text ++ (form.gap ++ 60 :: (form.upper.text ++ rest)), rfl,
      form.lower.value.1, form.lower.value.2.1, form.lower.value.2.2,
      form.gap ++ 60 :: (form.upper.text ++ rest),
      scanTriple_iff.mpr ⟨form.lower, rfl, rfl, ends_gap form.blank _⟩,
      form.upper.text ++ rest, gap.2,
      form.upper.value.1, form.upper.value.2.1, form.upper.value.2.2, rest,
      scanTriple_iff.mpr ⟨form.upper, rfl, rfl, ends⟩, ⟨rfl, rfl⟩, rfl⟩
    simp only [RangeForm.text, List.cons_append, List.append_assoc]

/-- A text is digits that denote a number below 2 ^ 32. -/
structure IsNumber (text : List UInt8) (number : Nat) : Prop where
  nonempty : text ≠ []
  digital : ∀ byte ∈ text, isDigit byte = true
  denoted : decimalValue text = number
  small : number < 4294967296

/-- A text is a version: three numbers between points. -/
def IsVersion (text : List UInt8) (version : Nat × Nat × Nat) : Prop :=
  ∃ major minor patch, text = major ++ 46 :: (minor ++ 46 :: patch) ∧
    IsNumber major version.1 ∧ IsNumber minor version.2.1 ∧ IsNumber patch version.2.2

/-- A text is a range: `>=`, a version, a space, `<` and a version. -/
def IsRange (text : List UInt8) (lower upper : Nat × Nat × Nat) : Prop :=
  ∃ first second, text = 62 :: 61 :: (first ++ 32 :: 60 :: second) ∧ IsVersion first lower ∧
    IsVersion second upper

/-- The numeric order of versions: by major, minor and patch number. -/
def versionOrder (version : Nat × Nat × Nat) : ℕ ×ₗ (ℕ ×ₗ ℕ) :=
  toLex (version.1, toLex version.2)

/-- A requirement admits a version: it is this version, or a range that the version is in. -/
def Admits (requirement : List UInt8) (current : Nat × Nat × Nat) : Prop :=
  IsVersion requirement current ∨ ∃ lower upper, IsRange requirement lower upper ∧
    versionOrder lower ≤ versionOrder current ∧ versionOrder current < versionOrder upper

/-- The comparison of the code is the numeric order. -/
theorem semverLess_iff (left right : Nat × Nat × Nat) :
    semverLess left right = true ↔ versionOrder left < versionOrder right := by
  simp only [semverLess, versionOrder, Prod.Lex.toLex_lt_toLex, Bool.or_eq_true, Bool.and_eq_true,
    decide_eq_true_eq, beq_iff_eq]

/-- The text reads as a version only by what `sscanf` takes besides: some number has blanks or
a sign before it, or has more than 32 bits. -/
def LenientVersion (text : List UInt8) : Prop :=
  ∃ form : VersionForm, text = form.text ∧ ¬ form.Plain

/-- The text reads as a range only by what `sscanf` takes besides: some number is as in a
lenient version, or what is between the versions is not one space. -/
def LenientRange (text : List UInt8) : Prop :=
  ∃ form : RangeForm, text = form.text ∧ ¬ form.Plain

/-- The plain form of a number. -/
def IsNumber.form {text : List UInt8} {number : Nat} (isNumber : IsNumber text number) :
    NumberForm where
  blanks := []
  sign := []
  digits := text
  blank byte member := by cases member
  signed := .inl rfl
  nonempty := isNumber.nonempty
  digital := isNumber.digital

theorem IsNumber.plain {text : List UInt8} {number : Nat} (isNumber : IsNumber text number) :
    isNumber.form.Plain ∧ isNumber.form.value = number := by
  have plain : isNumber.form.Plain := ⟨rfl, rfl, by
    rw [form, isNumber.denoted]
    exact isNumber.small⟩
  exact ⟨plain, plain.value_eq.trans isNumber.denoted⟩

/-- A plain form is a number. -/
theorem NumberForm.Plain.isNumber {form : NumberForm} (plain : form.Plain) :
    IsNumber form.text form.value := by
  rw [plain.text_eq, plain.value_eq]
  exact ⟨form.nonempty, form.digital, rfl, plain.small⟩

/-- Versions are the texts of plain forms. -/
theorem isVersion_iff {text : List UInt8} :
    IsVersion text version ↔
      ∃ form : VersionForm, form.Plain ∧ text = form.text ∧ version = form.value := by
  constructor
  · rintro ⟨major, minor, patch, rfl, isMajor, isMinor, isPatch⟩
    refine ⟨⟨isMajor.form, isMinor.form, isPatch.form⟩,
      ⟨isMajor.plain.1, isMinor.plain.1, isPatch.plain.1⟩, rfl, ?_⟩
    rw [VersionForm.value, isMajor.plain.2, isMinor.plain.2, isPatch.plain.2]
  · rintro ⟨form, plain, rfl, rfl⟩
    exact ⟨_, _, _, rfl, plain.major.isNumber, plain.minor.isNumber, plain.patch.isNumber⟩

/-- Ranges are the texts of plain forms. -/
theorem isRange_iff {text : List UInt8} {lower upper : Nat × Nat × Nat} :
    IsRange text lower upper ↔ ∃ form : RangeForm, form.Plain ∧ text = form.text ∧
      lower = form.lower.value ∧ upper = form.upper.value := by
  constructor
  · rintro ⟨first, second, rfl, isLower, isUpper⟩
    obtain ⟨lowerForm, lowerPlain, rfl, rfl⟩ := isVersion_iff.mp isLower
    obtain ⟨upperForm, upperPlain, rfl, rfl⟩ := isVersion_iff.mp isUpper
    have blank : ∀ byte ∈ ([32] : List UInt8), Json.isSpaceC byte = true := by
      intro byte member
      rw [List.mem_singleton.mp member]
      rfl
    exact ⟨⟨lowerForm, [32], upperForm, blank⟩, ⟨lowerPlain, rfl, upperPlain⟩, rfl, rfl, rfl⟩
  · rintro ⟨form, plain, rfl, rfl, rfl⟩
    refine ⟨form.lower.text, form.upper.text, ?_, isVersion_iff.mpr ⟨_, plain.lower, rfl, rfl⟩,
      isVersion_iff.mpr ⟨_, plain.upper, rfl, rfl⟩⟩
    rw [RangeForm.text, plain.spaced]
    rfl

theorem semverParse_iff {value : CString} :
    semverParse value = some version ↔
      ∃ form : VersionForm, value.bytes = form.text ∧ version = form.value := by
  have whole : semverParse value = some version ↔
      scanTriple value.bytes = some (version, []) := by
    unfold semverParse
    cases scanned : scanTriple value.bytes with
    | none => simp
    | some result =>
      obtain ⟨found, rest⟩ := result
      cases rest <;> simp
  rw [whole, scanTriple_iff]
  simp only [List.append_nil, ends_nil, and_true]

theorem scanRange_version (form : VersionForm) : scanRange form.text = none := by
  cases scanned : scanRange form.text with
  | none => rfl
  | some result =>
    obtain ⟨⟨lower, upper⟩, rest⟩ := result
    obtain ⟨range, same, -⟩ := scanRange_iff.mp scanned
    have number : scanLong form.text =
        some (form.major.value, 46 :: (form.minor.text ++ 46 :: form.patch.text)) :=
      scanLong_iff.mpr ⟨form.major, rfl, rfl, ends_cons (by decide) _⟩
    rw [same] at number
    cases number

/-- A requirement is met exactly where the major number of the firmware is not zero and the
requirement is the text of a form whose versions are as they should be. -/
theorem firmwareApiCompatible_iff {requirement : CString} {major minor : UInt32} :
    firmwareApiCompatible requirement major minor = true ↔ major ≠ 0 ∧
      ((∃ form : VersionForm, requirement.bytes = form.text ∧
        (major.toNat, minor.toNat, 0) = form.value) ∨
      ∃ form : RangeForm, requirement.bytes = form.text ∧
        versionOrder form.lower.value ≤ versionOrder (major.toNat, minor.toNat, 0) ∧
        versionOrder (major.toNat, minor.toNat, 0) < versionOrder form.upper.value) := by
  unfold firmwareApiCompatible
  dsimp only
  rw [Bool.and_eq_true, bne_iff_ne]
  refine and_congr_right fun _ => ?_
  cases scanned : scanRange requirement.bytes with
  | none =>
    have noRange : ¬ ∃ form : RangeForm, requirement.bytes = form.text ∧
        versionOrder form.lower.value ≤ versionOrder (major.toNat, minor.toNat, 0) ∧
        versionOrder (major.toNat, minor.toNat, 0) < versionOrder form.upper.value := by
      rintro ⟨form, same, -⟩
      have again := scanRange_iff.mpr ⟨form, same.trans (List.append_nil _).symm, rfl, rfl,
        ends_nil _⟩
      rw [scanned] at again
      cases again
    rw [or_iff_left noRange, ← semverParse_iff]
    cases semverParse requirement with
    | none => simp
    | some parsed =>
      dsimp only
      rw [beq_iff_eq, Option.some.injEq]
      exact eq_comm
  | some result =>
    obtain ⟨⟨lower, upper⟩, rest⟩ := result
    have noVersion (version : Nat × Nat × Nat) : ¬ ∃ form : VersionForm,
        requirement.bytes = form.text ∧ version = form.value := by
      rintro ⟨form, same, -⟩
      rw [same, scanRange_version] at scanned
      cases scanned
    rw [or_iff_right (noVersion _)]
    cases rest with
    | nil =>
      dsimp only
      rw [Bool.and_eq_true, Bool.not_eq_true', ← Bool.not_eq_true, semverLess_iff, semverLess_iff,
        not_lt]
      constructor
      · intro inside
        obtain ⟨form, same, rfl, rfl, -⟩ := scanRange_iff.mp scanned
        exact ⟨form, same.trans (List.append_nil _), inside⟩
      · rintro ⟨form, same, inside⟩
        have again := scanRange_iff.mpr ⟨form, same.trans (List.append_nil _).symm, rfl, rfl,
          ends_nil _⟩
        rw [scanned] at again
        cases again
        exact inside
    | cons byte rest =>
      have unparsed : semverParse requirement = none := by
        cases parsed : semverParse requirement with
        | none => rfl
        | some version => exact absurd (semverParse_iff.mp parsed) (noVersion version)
      rw [unparsed]
      dsimp only
      constructor
      · intro contradiction
        cases contradiction
      · rintro ⟨form, same, -⟩
        have again := scanRange_iff.mpr ⟨form, same.trans (List.append_nil _).symm, rfl, rfl,
          ends_nil _⟩
        rw [scanned] at again
        cases again

/-- Apart from the texts that `sscanf` reads as versions or ranges only by what it takes
besides, exactly the versions are parsed, to their numbers, and a firmware meets exactly the
requirements that admit its API, where its major number is not zero.

Proof: what is read are the texts of forms, and the plain forms are the grammar. -/
theorem version_grammar :
    (∀ value : CString, ¬ LenientVersion value.bytes → ∀ version,
      semverParse value = some version ↔ IsVersion value.bytes version) ∧
    (∀ (requirement : CString) (major minor : UInt32), ¬ LenientVersion requirement.bytes →
      ¬ LenientRange requirement.bytes →
      (firmwareApiCompatible requirement major minor = true ↔
        major ≠ 0 ∧ Admits requirement.bytes (major.toNat, minor.toNat, 0))) := by
  have plainVersion {text : List UInt8} (strict : ¬ LenientVersion text)
      (version : Nat × Nat × Nat) :
      (∃ form : VersionForm, text = form.text ∧ version = form.value) ↔
        IsVersion text version := by
    rw [isVersion_iff]
    constructor
    · rintro ⟨form, same, read⟩
      exact ⟨form, not_not.mp fun lenient => strict ⟨form, same, lenient⟩, same, read⟩
    · rintro ⟨form, -, same, read⟩
      exact ⟨form, same, read⟩
  constructor
  · intro value strict version
    rw [semverParse_iff, plainVersion strict]
  · intro requirement major minor strictVersion strictRange
    rw [firmwareApiCompatible_iff, plainVersion strictVersion, Admits]
    refine and_congr_right fun _ => or_congr_right ?_
    constructor
    · rintro ⟨form, same, inside⟩
      have plain : form.Plain :=
        not_not.mp fun lenient => strictRange ⟨form, same, lenient⟩
      exact ⟨_, _, isRange_iff.mpr ⟨form, plain, same, rfl, rfl⟩, inside⟩
    · rintro ⟨lower, upper, range, inside⟩
      obtain ⟨form, -, same, rfl, rfl⟩ := isRange_iff.mp range
      exact ⟨form, same, inside⟩

theorem isNumber_digit {digit : UInt8} (digital : isDigit digit = true) :
    IsNumber [digit] (0 * 10 + (digit.toNat - 48)) where
  nonempty := List.cons_ne_nil _ _
  digital byte member := List.mem_singleton.mp member ▸ digital
  denoted := rfl
  small := by
    have := digit.toNat_lt
    omega

/-- A sign before a number is taken although the text is no version, and a range of versions
that starts at zero does not admit a firmware whose major number is zero. -/
theorem version_grammar_lenient :
    (semverParse (CString.literal "+1.2.3") = some (1, 2, 3) ∧
      ¬ IsVersion (CString.literal "+1.2.3").bytes (1, 2, 3)) ∧
    (firmwareApiCompatible (CString.literal ">=0.0.0 <1.0.0") 0 1 = false ∧
      Admits (CString.literal ">=0.0.0 <1.0.0").bytes (0, 1, 0)) := by
  refine ⟨⟨by decide +kernel, ?_⟩, by decide +kernel, ?_⟩
  · rintro ⟨major, minor, patch, same, isMajor, -⟩
    obtain ⟨first, others, rfl⟩ := List.exists_cons_of_ne_nil isMajor.nonempty
    have sign : (CString.literal "+1.2.3").bytes.head? = some 43 := by decide +kernel
    rw [same, List.cons_append, List.head?_cons, Option.some.injEq] at sign
    have digit := isMajor.digital first List.mem_cons_self
    rw [sign] at digit
    exact absurd digit (by decide)
  · have zero : IsNumber [48] 0 := isNumber_digit rfl
    have one : IsNumber [49] 1 := isNumber_digit rfl
    refine .inr ⟨(0, 0, 0), (1, 0, 0), ⟨[48, 46, 48, 46, 48], [49, 46, 48, 46, 48],
      by decide +kernel, ⟨[48], [48], [48], rfl, zero, zero, zero⟩,
      ⟨[49], [48], [48], rfl, one, zero, zero⟩⟩, ?_, ?_⟩
    · rw [← not_lt, ← semverLess_iff]
      decide
    · rw [← semverLess_iff]
      decide

end PoisonedOS.PackageManifest
