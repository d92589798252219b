import Mathlib.Data.List.Forall2
import PoisonedOS.Files.Service
import PoisonedOS.Library.Decimal

/-!
# Listing a directory

A directory is listed page by page. The device reads it from its beginning each time, passes
over as many entries as the cursor says, and reads one entry more than the page holds to see
whether there is another page. The next cursor is the printed position behind the page.

The entries of a page are sent as one message each, and the cursor goes with the last one.
The service's answer is what a client reads from these messages.
-/

namespace PoisonedOS

/-- A message with `PB_Poison_FileListResponse`. -/
structure FileListResponse where
  hasNext : Bool
  entry : Option FileStat
  nextCursor : CString
deriving DecidableEq

def listedLength (path : CString) (entry : DirectoryEntry) : Nat :=
  path.length + (if path.length == 1 then 0 else 1) + entry.name.length

/-- The reading loop of `rpc_poison_files_list_process`, with the entries seen and the entries
kept so far. -/
def readEntries (path backingPath : CString) (pageSize offset : Nat) :
    Nat → Nat → List DirectoryEntry → Option (List FileStat)
  | _, _, [] => some []
  | seen, entryCount, entry :: rest =>
    if entryCount ≥ pageSize + 1 then some []
    else if seen < offset then
      readEntries path backingPath pageSize offset (seen + 1) entryCount rest
    else if listedLength path entry > vfsPathMax then none
    else
      match readEntries path backingPath pageSize offset (seen + 1) (entryCount + 1) rest with
      | none => none
      | some stats => some (fileStat path backingPath entry :: stats)

/-- The messages for the entries of a page. -/
def pageMessages (nextCursor : CString) : List FileStat → List FileListResponse
  | [] => [⟨false, none, .literal ""⟩]
  | [stat] => [⟨false, some stat, nextCursor⟩]
  | stat :: next :: rest =>
    ⟨true, some stat, .literal ""⟩ :: pageMessages nextCursor (next :: rest)

/-- `rpc_poison_files_list_process`: the messages of the answer, or none for an error. -/
def listMessages (role : Option Role) (hasNext : Bool) (path cursor : CString) (pageSize : Nat)
    (directory : Option (List DirectoryEntry)) : Option (List FileListResponse) :=
  let pageSize := if pageSize == 0 then 16 else pageSize
  match role, fileCursorParse cursor, directory with
  | some role, some offset, some directory =>
    if hasNext || decide (pageSize > 16) then none
    else
      match vfsResolvePath path role .read with
      | none => none
      | some resolved =>
        match readEntries path resolved.backingPath pageSize offset 0 0 directory with
        | none => none
        | some entries =>
          let more := decide (entries.length > pageSize)
          let sendCount := if more then pageSize else entries.length
          some (pageMessages (if more then Decimal.text (offset + sendCount) else .literal "")
            (entries.take sendCount))
  | _, _, _ => none

def readPage : List FileListResponse → Option (List FileStat × CString)
  | [] => none
  | message :: rest =>
    if message.hasNext then
      match readPage rest with
      | none => none
      | some page => some (message.entry.toList ++ page.1, page.2)
    else some (message.entry.toList, message.nextCursor)

def followCursors (role : Option Role) (path : CString) (pageSize : Nat)
    (directory : Option (List DirectoryEntry)) : Nat → CString → Option (List FileStat)
  | 0, _ => none
  | requests + 1, cursor =>
    match (listMessages role false path cursor pageSize directory).bind readPage with
    | none => none
    | some page =>
      if page.2.isEmpty then some page.1
      else
        match followCursors role path pageSize directory requests page.2 with
        | none => none
        | some later => some (page.1 ++ later)

/-- The directory can be listed in pages of the size: the role resolves the path, and the
logical path of each entry fits. -/
structure Listable (role : Role) (path : CString) (pageSize : Nat)
    (directory : List DirectoryEntry) : Prop where
  resolved : (vfsResolvePath path role .read).isSome = true
  pageSize : pageSize ≤ 16
  counted : directory.length < 2 ^ 32
  fits : ∀ entry ∈ directory, (entryPath path entry.name).length ≤ vfsPathMax

/-- What a listing shows of an entry. -/
structure FileStat.Shows (path : CString) (stat : FileStat) (entry : DirectoryEntry) : Prop where
  path : stat.path = entryPath path entry.name
  size : stat.size = entry.size
  directory : stat.directory = entry.directory

/-! ## Cursors -/

/-- The loop reads exactly the digits whose value fits.

Proof: by induction on the digits. The check admits a digit exactly where the next value
fits, and a value that does not fit only grows. -/
theorem cursorDigits_iff {value number : Nat} {text : List UInt8} (fits : value < 2 ^ 32) :
    cursorDigits text value = some number ↔
      (∀ byte ∈ text, isDigit byte = true) ∧ Decimal.valueFrom value text = number ∧
        number < 2 ^ 32 := by
  induction text generalizing value with
  | nil =>
    rw [cursorDigits, Option.some.injEq]
    constructor
    · rintro rfl
      exact ⟨fun _ inside => absurd inside List.not_mem_nil, rfl, fits⟩
    · rintro ⟨-, same, -⟩
      exact same
  | cons byte rest ih =>
    rw [cursorDigits, List.forall_mem_cons]
    cases digital : isDigit byte with
    | false => simp
    | true =>
      have bounds := digital
      simp only [isDigit, Bool.and_eq_true, decide_eq_true_eq, UInt8.le_iff_toNat_le] at bounds
      have lower : 48 ≤ byte.toNat := bounds.1
      have upper : byte.toNat ≤ 57 := bounds.2
      have digit : (byte - 48).toNat = byte.toNat - 48 :=
        UInt8.toNat_sub_of_le _ _ (UInt8.le_iff_toNat_le.mpr bounds.1)
      have next : Decimal.valueFrom value (byte :: rest) =
          Decimal.valueFrom (value * 10 + (byte.toNat - 48)) rest := rfl
      simp only [Bool.not_true, Bool.false_or, decide_eq_true_eq, digit, next, true_and]
      by_cases overflow : value > (0xFFFFFFFF - (byte.toNat - 48)) / 10
      · have grows := Decimal.le_valueFrom (value * 10 + (byte.toNat - 48)) rest
        rw [if_pos overflow]
        constructor
        · intro parsed
          cases parsed
        · rintro ⟨-, same, within⟩
          omega
      · rw [if_neg overflow]
        exact ih (by omega)

variable {cursor : CString} {position : Nat}

/-- The parser takes digits, also none at all, whose value fits. -/
theorem fileCursorParse_iff :
    fileCursorParse cursor = some position ↔
      (∀ byte ∈ cursor.bytes, isDigit byte = true) ∧ Decimal.value cursor.bytes = position ∧
        position < 2 ^ 32 :=
  cursorDigits_iff (by decide)

/-- A printed position is parsed back. -/
theorem fileCursorParse_text (fits : position < 2 ^ 32) :
    fileCursorParse (Decimal.text position) = some position := by
  rw [fileCursorParse_iff, Decimal.text_bytes]
  exact ⟨fun _ => Decimal.isDigit_of_mem_digits, Decimal.value_digits _, fits⟩

/-! ## Pages -/

section Pages

variable {path backingPath : CString} {pageSize offset : Nat}

/-- The length that is checked is the length of the path that is sent. -/
theorem listedLength_eq (path : CString) (entry : DirectoryEntry) :
    listedLength path entry = (entryPath path entry.name).length := by
  rw [listedLength, entryPath]
  split
  · show _ = (path.bytes ++ entry.name.bytes).length
    rw [List.length_append]
    rfl
  · show _ = ((path.bytes ++ [slash]) ++ entry.name.bytes).length
    rw [List.length_append, List.length_append]
    rfl

variable {directory : List DirectoryEntry}

/-- The loop keeps the entries behind the offset, one more than the page holds, unless the path
of one of them is too long. -/
theorem readEntries_eq {seen entryCount : Nat} :
    readEntries path backingPath pageSize offset seen entryCount directory =
      let page := ((directory.drop (offset - seen)).take (pageSize + 1 - entryCount)).map
        (fileStat path backingPath)
      if page.any (·.path.length > vfsPathMax) then none else some page := by
  induction directory generalizing seen entryCount with
  | nil => simp [readEntries]
  | cons entry rest ih =>
    rw [readEntries]
    by_cases full : entryCount ≥ pageSize + 1
    · rw [if_pos full, Nat.sub_eq_zero_of_le full]
      rfl
    rw [if_neg full]
    by_cases before : seen < offset
    · obtain ⟨passed, isPassed⟩ : ∃ passed, offset - seen = passed + 1 :=
        ⟨offset - seen - 1, by omega⟩
      rw [if_pos before, ih, isPassed, List.drop_succ_cons,
        show offset - (seen + 1) = passed by omega]
    · obtain ⟨room, isRoom⟩ : ∃ room, pageSize + 1 - entryCount = room + 1 :=
        ⟨pageSize - entryCount, by omega⟩
      have isPath : (fileStat path backingPath entry).path = entryPath path entry.name := rfl
      rw [if_neg before, ih, isRoom,
        show pageSize + 1 - (entryCount + 1) = room by omega,
        show offset - (seen + 1) = 0 by omega, show offset - seen = 0 by omega, listedLength_eq]
      simp only [List.drop_zero, List.take_succ_cons, List.map_cons, List.any_cons, isPath]
      by_cases long : (entryPath path entry.name).length > vfsPathMax
      · simp [long]
      · simp only [long, if_false, decide_false, Bool.false_or]
        split <;> simp_all

/-- The messages of a page are read as the page. -/
theorem readPage_pageMessages {nextCursor : CString} {sent : List FileStat}
    (ended : sent = [] → nextCursor = .literal "") :
    readPage (pageMessages nextCursor sent) = some (sent, nextCursor) := by
  induction sent with
  | nil =>
    rw [ended rfl]
    rfl
  | cons stat rest ih =>
    cases rest with
    | nil => rfl
    | cons next rest =>
      rw [pageMessages, readPage, if_pos rfl,
        ih fun empty => absurd empty (List.cons_ne_nil _ _)]
      rfl

/-- The cursor that is printed for the next page. -/
def printedCursor : Option Nat → CString
  | none => .literal ""
  | some position => Decimal.text position

/-- A client reads what the service answers. -/
theorem readPage_listMessages (role : Option Role) (hasNext : Bool) (path cursor : CString)
    (pageSize : Nat) (directory : Option (List DirectoryEntry)) :
    (listMessages role hasNext path cursor pageSize directory).bind readPage =
      (listProcess role hasNext path cursor pageSize directory).map
        (Prod.map id printedCursor) := by
  have positive : 0 < (if pageSize == 0 then 16 else pageSize) := by
    split
    · decide
    · rename_i nonzero
      exact Nat.pos_of_ne_zero fun zero => nonzero (beq_iff_eq.mpr zero)
  unfold listMessages listProcess
  generalize (if pageSize == 0 then 16 else pageSize) = size at positive ⊢
  cases role with
  | none => rfl
  | some role =>
    cases fileCursorParse cursor with
    | none => rfl
    | some offset =>
      cases directory with
      | none => rfl
      | some directory =>
        dsimp only
        split
        · rfl
        cases vfsResolvePath path role .read with
        | none => rfl
        | some resolved =>
          dsimp only
          rw [readEntries_eq, Nat.sub_zero, Nat.sub_zero]
          dsimp only
          generalize ((directory.drop offset).take (size + 1)).map
            (fileStat path resolved.backingPath) = page
          by_cases long : page.any (·.path.length > vfsPathMax) = true
          · rw [if_pos long, if_pos long]
            rfl
          rw [if_neg long, if_neg long]
          dsimp only
          by_cases more : page.length > size
          · have length : (page.take size).length = size := by
              rw [List.length_take]
              omega
            have nonempty : page.take size ≠ [] := by
              intro empty
              rw [empty] at length
              exact absurd length (Nat.ne_of_lt positive)
            rw [decide_eq_true more, if_pos rfl, if_pos rfl, if_pos more, length, Option.bind_some,
              readPage_pageMessages fun empty => absurd empty nonempty]
            rfl
          · rw [decide_eq_false more, if_neg Bool.false_ne_true, if_neg Bool.false_ne_true,
              if_neg more, List.take_of_length_le (Nat.le_refl _),
              List.take_of_length_le (Nat.le_of_not_lt more), Option.bind_some,
              readPage_pageMessages fun _ => rfl]
            rfl

/-- The page at a position, with the position of the next one. -/
theorem listProcess_page {role : Role} {resolved : VfsResolvedPath}
    (isResolved : vfsResolvePath path role .read = some resolved) (bounded : pageSize ≤ 16)
    (fits : ∀ entry ∈ directory, (entryPath path entry.name).length ≤ vfsPathMax)
    (parsed : fileCursorParse cursor = some offset) :
    ∃ size, 0 < size ∧ listProcess (some role) false path cursor pageSize (some directory) = some
      (((directory.drop offset).take size).map (fileStat path resolved.backingPath),
        if offset + size < directory.length then some (offset + size) else none) := by
  have effective : 0 < (if pageSize == 0 then 16 else pageSize) ∧
      (if pageSize == 0 then 16 else pageSize) ≤ 16 := by
    split
    · decide
    · rename_i nonzero
      exact ⟨Nat.pos_of_ne_zero fun zero => nonzero (beq_iff_eq.mpr zero), bounded⟩
  refine ⟨if pageSize == 0 then 16 else pageSize, effective.1, ?_⟩
  unfold listProcess
  rw [parsed]
  dsimp only
  generalize (if pageSize == 0 then 16 else pageSize) = size at effective ⊢
  have short : ((((directory.drop offset).take (size + 1)).map
      (fileStat path resolved.backingPath)).any (·.path.length > vfsPathMax)) = false := by
    rw [List.any_eq_false]
    intro stat inside
    obtain ⟨entry, isEntry, rfl⟩ := List.mem_map.mp inside
    have enough := fits entry (List.mem_of_mem_drop (List.mem_of_mem_take isEntry))
    rw [decide_eq_true_eq, gt_iff_lt, Nat.not_lt]
    exact enough
  rw [if_neg (by simp [effective.2]), isResolved]
  dsimp only
  rw [short, if_neg Bool.false_ne_true, ← List.map_take, List.take_take,
    Nat.min_eq_left (Nat.le_succ size)]
  simp only [List.length_map, List.length_take, List.length_drop]
  by_cases more : offset + size < directory.length
  · rw [if_pos more, if_pos (by omega), Nat.min_eq_left (by omega)]
  · rw [if_neg more, if_neg (by omega)]

end Pages

/-- Following the cursors from a position gives the entries behind it.

Proof: by induction on the requests. A page gives the next entries, and its cursor is the
position behind them, which is parsed back; the last page has no cursor. -/
theorem followCursors_from {role : Role} {path : CString} {pageSize : Nat}
    {directory : List DirectoryEntry} {resolved : VfsResolvedPath}
    (isResolved : vfsResolvePath path role .read = some resolved) (bounded : pageSize ≤ 16)
    (counted : directory.length < 2 ^ 32)
    (fits : ∀ entry ∈ directory, (entryPath path entry.name).length ≤ vfsPathMax) (requests : Nat)
    (parsed : fileCursorParse cursor = some position)
    (enough : directory.length - position < requests) :
    followCursors (some role) path pageSize (some directory) requests cursor =
      some ((directory.drop position).map (fileStat path resolved.backingPath)) := by
  induction requests generalizing position cursor with
  | zero => exact absurd enough (Nat.not_lt_zero _)
  | succ requests ih =>
    obtain ⟨size, positive, page⟩ := listProcess_page isResolved bounded fits parsed
    rw [followCursors, readPage_listMessages, page]
    simp only [Option.map_some, Prod.map, id]
    by_cases more : position + size < directory.length
    · have printed : (Decimal.text (position + size)).isEmpty = false := by
        rw [Bool.eq_false_iff, Ne, CString.isEmpty_iff, Decimal.text_bytes]
        exact Decimal.digits_ne_nil _
      rw [if_pos more, printedCursor, if_neg (by rw [printed]; exact Bool.false_ne_true),
        ih (fileCursorParse_text (more.trans counted)) (by omega)]
      dsimp only
      rw [← List.map_append, ← List.drop_drop, List.take_append_drop]
    · have all : (directory.drop position).take size = directory.drop position := by
        refine List.take_of_length_le ?_
        rw [List.length_drop]
        omega
      rw [if_neg more, printedCursor, if_pos CString.isEmpty_literal_empty, all]

/-- A directory whose paths all fit is listed in full by pages of at most 16 entries, and the
positions are parsed as they were printed.

Proof: the pages one after the other, from the first cursor on. -/
theorem directory_listed (role : Role) (path : CString) (pageSize : Nat)
    (directory : List DirectoryEntry) :
    (Listable role path pageSize directory → ∃ stats,
        List.Forall₂ (FileStat.Shows path) stats directory ∧
        ∀ requests, directory.length < requests →
          followCursors (some role) path pageSize (some directory) requests (.literal "") =
            some stats) ∧
      (∀ position, position < 2 ^ 32 →
        fileCursorParse (Decimal.text position) = some position) ∧
      ∀ cursor position, fileCursorParse cursor = some position ↔
        (∀ byte ∈ cursor.bytes, isDigit byte = true) ∧ Decimal.value cursor.bytes = position ∧
          position < 2 ^ 32 := by
  refine ⟨?_, fun _ => fileCursorParse_text, fun _ _ => fileCursorParse_iff⟩
  rintro ⟨isSome, bounded, counted, fits⟩
  obtain ⟨resolved, isResolved⟩ := Option.isSome_iff_exists.mp isSome
  refine ⟨directory.map (fileStat path resolved.backingPath), ?_, ?_⟩
  · rw [List.forall₂_map_left_iff, List.forall₂_same]
    intro entry _
    exact ⟨rfl, rfl, rfl⟩
  · intro requests enough
    have first : fileCursorParse (.literal "") = some 0 := rfl
    exact followCursors_from isResolved bounded counted fits requests first enough

/-- Two entries, listed one at a time. -/
theorem two_entries_listed : ∃ stats,
    List.Forall₂ (FileStat.Shows (.literal "/ext")) stats
        [⟨.literal "a", 3, false, some 7⟩, ⟨.literal "b", 0, true, none⟩] ∧
      ∀ requests, 2 < requests →
        followCursors (some .observer) (.literal "/ext") 1
          (some [⟨.literal "a", 3, false, some 7⟩, ⟨.literal "b", 0, true, none⟩]) requests
          (.literal "") = some stats :=
  (directory_listed _ _ _ _).1 ⟨rfl, by decide, by decide, by decide⟩

set_option maxRecDepth 4000 in
/-- A long name fails the listing of its directory, and so does a page of 17 entries. -/
theorem long_name_refused :
    (∀ requests, followCursors (some .owner) (.literal "/ext") 16
      (some [⟨.ofBytes (List.replicate 252 97), 0, false, none⟩]) requests (.literal "") = none) ∧
      ∀ requests,
        followCursors (some .owner) (.literal "/ext") 17 (some []) requests (.literal "") = none := by
  constructor
  · intro requests
    cases requests with
    | zero => rfl
    | succ requests => rfl
  · intro requests
    cases requests with
    | zero => rfl
    | succ requests => rfl

end PoisonedOS
