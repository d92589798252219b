import PoisonedOS.Vfs.Paths
import PoisonedOS.Library.Segments

/-!
# Confinement of logical paths

The loops of normalization come to this: a path is accepted when it is absolute,
short, made of allowed bytes, and none of its segments is `.` or `..`; the output
writes its segments back, each after one separator. From that follow the form of the
output, that it normalizes to itself, and that a backing path determines the logical
path of its namespace.

The namespaces overlap on the storage: `int` and `ext` are views of all of it, and
`profiles` lies in `config`. A view is wider than what it contains, and its own
restriction to the owner does not bind the namespaces inside it.
-/

namespace PoisonedOS

open Segments

/-- A text of these segments: a separator alone where there are none. -/
def normalBytes (parts : List (List UInt8)) : List UInt8 :=
  if parts.isEmpty then [slash] else render slash parts

/-- What normalization asks of the input. -/
structure Normalizable (input : CString) : Prop where
  absolute : input.bytes.head? = some slash
  short : input.length ≤ vfsPathMax
  valid : ∀ byte ∈ input.bytes, vfsIsValidByte byte = true
  allowed : ∀ segment ∈ segments slash input.bytes, segmentAllowed segment = true

/-- A path without empty segments, `.` and `..`. -/
def NormalForm (path : CString) : Prop :=
  path.bytes = [slash] ∨ ∃ rest, path.bytes = slash :: rest ∧
    ∀ segment ∈ rest.splitOn slash, segment ≠ [] ∧ segment ≠ [46] ∧ segment ≠ [46, 46]

/-- The path is the directory, or lies under it. -/
def Under (path directory : CString) : Prop :=
  path.bytes = directory.bytes ∨ ∃ suffix, path.bytes = directory.bytes ++ slash :: suffix

theorem collapse_valid {input output collapsed : List UInt8} {previousSeparator : Bool}
    (accepted : collapseSeparators input previousSeparator output = some collapsed) :
    (∀ byte ∈ input, vfsIsValidByte byte = true) ∧
      collapsed = output ++ squeeze slash input previousSeparator := by
  induction input generalizing previousSeparator output with
  | nil =>
    obtain rfl := Option.some.inj accepted
    exact ⟨fun _ isByte => absurd isByte List.not_mem_nil, (List.append_nil _).symm⟩
  | cons byte rest ih =>
    rw [collapseSeparators] at accepted
    split at accepted
    · cases accepted
    rename_i valid
    have allValid : (∀ other ∈ rest, vfsIsValidByte other = true) →
        ∀ other ∈ byte :: rest, vfsIsValidByte other = true := by
      intro later other isByte
      obtain rfl | inRest := List.mem_cons.mp isByte
      · simpa using valid
      · exact later other inRest
    split at accepted
    · rename_i repeated
      obtain ⟨later, written⟩ := ih accepted
      rw [Bool.and_eq_true, beq_iff_eq] at repeated
      refine ⟨allValid later, ?_⟩
      rw [squeeze, if_pos repeated.1, if_pos repeated.2]
      exact written
    rename_i single
    split at accepted
    · cases accepted
    obtain ⟨later, written⟩ := ih accepted
    refine ⟨allValid later, ?_⟩
    rw [written, List.append_assoc]
    congr 1
    rw [squeeze]
    by_cases separator : byte = slash
    · have first : previousSeparator = false := by
        rw [Bool.and_eq_true, beq_iff_eq, not_and] at single
        simpa using single separator
      subst separator
      simp [first]
    · rw [beq_eq_false_iff_ne.mpr separator, if_neg separator]
      rfl

theorem squeeze_length (input : List UInt8) (previousSeparator : Bool) :
    (squeeze slash input previousSeparator).length ≤ input.length := by
  induction input generalizing previousSeparator with
  | nil => simp [squeeze]
  | cons byte rest ih =>
    have afterSeparator := ih true
    have afterLetter := ih false
    rw [squeeze]
    split
    · split <;> simp only [List.length_cons] <;> omega
    · simp only [List.length_cons]
      omega

theorem collapse_accepts {input output : List UInt8} {previousSeparator : Bool}
    (valid : ∀ byte ∈ input, vfsIsValidByte byte = true)
    (short : output.length + input.length ≤ vfsPathMax) :
    collapseSeparators input previousSeparator output =
      some (output ++ squeeze slash input previousSeparator) := by
  cases accepted : collapseSeparators input previousSeparator output with
  | some collapsed => rw [(collapse_valid accepted).2]
  | none =>
    exfalso
    induction input generalizing previousSeparator output with
    | nil => cases accepted
    | cons byte rest ih =>
      have isValid := valid byte List.mem_cons_self
      have later := fun other inRest => valid other (List.mem_cons_of_mem byte inRest)
      rw [List.length_cons] at short
      rw [collapseSeparators, isValid] at accepted
      simp only [Bool.not_true, Bool.false_eq_true, if_false] at accepted
      split at accepted
      · exact ih later (by omega) accepted
      split at accepted
      · omega
      · exact ih later (by simp; omega) accepted

/-- Trimming leaves a text alone that ends in another byte. -/
theorem trim_concat {before : List UInt8} {letter : UInt8} (other : letter ≠ slash) :
    trimSeparators (before ++ [letter]) = before ++ [letter] := by
  rw [trimSeparators, List.reverse_append, List.reverse_singleton, List.singleton_append]
  have kept : ∀ rest, trimReversed (letter :: rest) = letter :: rest := by
    intro rest
    cases rest with
    | nil => rfl
    | cons next others => rw [trimReversed, if_neg (by simpa using other)]
  rw [kept]
  simp

/-- Trimming removes one separator from the end of such a text. -/
theorem trim_separator {before : List UInt8} {letter : UInt8} (other : letter ≠ slash) :
    trimSeparators (before ++ [letter] ++ [slash]) = before ++ [letter] := by
  have kept := @trim_concat before letter other
  rw [trimSeparators] at kept ⊢
  rw [List.reverse_append, List.reverse_singleton, List.singleton_append]
  rw [List.reverse_append, List.reverse_singleton, List.singleton_append] at kept ⊢
  rw [trimReversed, if_pos (beq_self_eq_true slash)]
  exact kept

/-- The two loops write the segments of an absolute path back. -/
theorem trim_squeeze {rest : List UInt8} :
    trimSeparators (squeeze slash (slash :: rest) false) =
      normalBytes (segments slash (slash :: rest)) := by
  obtain ⟨⟨ending, short, squeezed⟩, -⟩ := @squeeze_eq _ _ slash rest
  have same : segments slash (slash :: rest) = segments slash rest := by
    simp [segments, splitOn_separator]
  have written : squeeze slash (slash :: rest) false =
      render slash (segments slash rest) ++ ending := by
    rw [← squeezed, squeeze]
    simp
  rw [same, written]
  by_cases none : segments slash rest = []
  · rw [none] at squeezed ⊢
    obtain rfl | rfl := short
    · simp [render] at squeezed
    · rfl
  · have genuine : ∀ part ∈ segments slash rest, IsSegment slash part :=
      fun part isPart => isSegment_of_mem isPart
    obtain ⟨before, letter, split, -, other⟩ := render_concat genuine none
    rw [normalBytes, if_neg (by simpa using none), split]
    obtain rfl | rfl := short
    · rw [List.append_nil]
      exact trim_concat other
    · exact trim_separator other

/-- Bytes other than the separator extend the segment that is being read. -/
theorem segmentsAllowed_append {part : List UInt8} (free : slash ∉ part)
    (segment rest : List UInt8) :
    segmentsAllowed segment (part ++ rest) = segmentsAllowed (segment ++ part) rest := by
  induction part generalizing segment with
  | nil => simp
  | cons byte others ih =>
    rw [List.mem_cons, not_or] at free
    rw [List.cons_append, segmentsAllowed, if_neg (by simpa using Ne.symm free.1),
      ih free.2]
    simp

theorem segmentsAllowed_render {parts : List (List UInt8)}
    (genuine : ∀ part ∈ parts, IsSegment slash part) {segment : List UInt8}
    (begun : segment ≠ []) :
    segmentsAllowed segment (render slash parts) =
      (segmentAllowed segment && parts.all segmentAllowed) := by
  induction parts generalizing segment with
  | nil => simp [render, segmentsAllowed, begun]
  | cons part rest ih =>
    obtain ⟨nonempty, free⟩ := genuine part List.mem_cons_self
    have written : render slash (part :: rest) = slash :: (part ++ render slash rest) := rfl
    rw [written, segmentsAllowed, if_pos (beq_self_eq_true slash), segmentsAllowed_append free,
      List.nil_append, ih
        (fun other isPart => genuine other (List.mem_cons_of_mem _ isPart)) nonempty]
    rfl

/-- The loop over the segments tests each of them. -/
theorem segmentsAllowed_normal {parts : List (List UInt8)}
    (genuine : ∀ part ∈ parts, IsSegment slash part) :
    segmentsAllowed [] (normalBytes parts).tail = parts.all segmentAllowed := by
  cases parts with
  | nil => rfl
  | cons part rest =>
    obtain ⟨nonempty, free⟩ := genuine part List.mem_cons_self
    have written : (normalBytes (part :: rest)).tail = part ++ render slash rest := rfl
    rw [written, segmentsAllowed_append free, List.nil_append, segmentsAllowed_render
      (fun other isPart => genuine other (List.mem_cons_of_mem _ isPart)) nonempty]
    rfl

theorem render_subset {text : List UInt8} {byte : UInt8}
    (written : byte ∈ squeeze slash text false) : byte ∈ text := by
  have kept : ∀ previous, byte ∈ squeeze slash text previous → byte ∈ text := by
    clear written
    induction text with
    | nil =>
      intro previous written
      rw [squeeze] at written
      exact written
    | cons first rest ih =>
      intro previous written
      rw [squeeze] at written
      have later := fun previous written =>
        List.mem_cons_of_mem first (ih previous written)
      split at written
      · split at written
        · exact later true written
        · obtain rfl | inRest := List.mem_cons.mp written
          · exact List.mem_cons_self
          · exact later true inRest
      · obtain rfl | inRest := List.mem_cons.mp written
        · exact List.mem_cons_self
        · exact later false inRest
  exact kept false written

/-- Trimming leaves a beginning of the output. -/
theorem trimSeparators_append (output : List UInt8) : trimSeparators output <+: output := by
  have suffix : ∀ reversed : List UInt8, trimReversed reversed <:+ reversed := by
    intro reversed
    induction reversed with
    | nil => exact List.suffix_refl _
    | cons byte rest ih =>
      cases rest with
      | nil => exact List.suffix_refl _
      | cons next others =>
        rw [trimReversed]
        split
        · exact ih.trans (List.suffix_cons _ _)
        · exact List.suffix_refl _
  have reversed := (suffix output.reverse).reverse
  rwa [List.reverse_reverse] at reversed

/-- Normalization accepts what it asks for, and writes its segments back. -/
theorem vfsNormalizePath_iff {input normal : CString} :
    vfsNormalizePath input = some normal ↔
      Normalizable input ∧ normal.bytes = normalBytes (segments slash input.bytes) := by
  have genuine : ∀ part ∈ segments slash input.bytes, IsSegment slash part :=
    fun part isPart => isSegment_of_mem isPart
  have output : ∀ absolute : input.bytes.head? = some slash,
      trimSeparators (squeeze slash input.bytes false) =
        normalBytes (segments slash input.bytes) := by
    intro absolute
    obtain ⟨rest, isAbsolute⟩ := List.head?_eq_some_iff.mp absolute
    rw [isAbsolute]
    exact trim_squeeze
  have stored : ∀ absolute : input.bytes.head? = some slash,
      (CString.ofBytes (normalBytes (segments slash input.bytes))).bytes =
        normalBytes (segments slash input.bytes) := by
    intro absolute
    refine List.takeWhile_eq_self_iff.mpr fun byte isByte => ?_
    rw [← output absolute] at isByte
    have inInput := render_subset ((trimSeparators_append _).subset isByte)
    rw [bne_iff_ne]
    rintro rfl
    exact input.noNul inInput
  constructor
  · intro accepted
    rw [vfsNormalizePath] at accepted
    split at accepted
    · cases accepted
    rename_i entered
    simp only [Bool.or_eq_true, bne_iff_ne, ne_eq, decide_eq_true_eq, not_or, Classical.not_not,
      gt_iff_lt, not_lt] at entered
    obtain ⟨absolute, short⟩ := entered
    cases collapsed : collapseSeparators input.bytes false [] with
    | none =>
      rw [collapsed] at accepted
      cases accepted
    | some squeezed =>
      obtain ⟨valid, isSqueezed⟩ := collapse_valid collapsed
      rw [List.nil_append] at isSqueezed
      simp only [collapsed, isSqueezed, output absolute, segmentsAllowed_normal genuine] at accepted
      split at accepted
      · rename_i allowed
        rw [← Option.some.inj accepted, stored absolute]
        exact ⟨⟨absolute, short, valid, List.all_eq_true.mp allowed⟩, rfl⟩
      · cases accepted
  · rintro ⟨⟨absolute, short, valid, allowed⟩, isNormal⟩
    have entered : (input.bytes.head? != some slash || decide (input.length > vfsPathMax)) =
        false := by
      simp [absolute, short]
    have collapsed := @collapse_accepts input.bytes [] false valid
      (by simpa [CString.length] using short)
    rw [List.nil_append] at collapsed
    rw [vfsNormalizePath, entered]
    simp only [Bool.false_eq_true, if_false, collapsed, output absolute,
      segmentsAllowed_normal genuine]
    rw [if_pos (List.all_eq_true.mpr allowed)]
    congr 1
    ext1
    rw [stored absolute, isNormal]

/-- Accepted paths are in normal form. -/
theorem normalForm_of_normalized {input normal : CString}
    (normalized : vfsNormalizePath input = some normal) : NormalForm normal := by
  obtain ⟨accepted, written⟩ := vfsNormalizePath_iff.mp normalized
  have genuine : ∀ part ∈ segments slash input.bytes, IsSegment slash part :=
    fun part isPart => isSegment_of_mem isPart
  have allowed := accepted.allowed
  generalize segments slash input.bytes = parts at written genuine allowed
  cases parts with
  | nil => exact .inl written
  | cons part rest =>
    refine .inr ⟨part ++ render slash rest, written, fun segment isSegment => ?_⟩
    rw [splitOn_append (genuine part List.mem_cons_self).2, splitOn_render
      fun other isPart => (genuine other (List.mem_cons_of_mem _ isPart)).2,
      List.modifyHead_cons, List.append_nil] at isSegment
    have isAllowed := allowed segment isSegment
    simp only [segmentAllowed, Bool.and_eq_true, Bool.not_eq_true', List.isEmpty_eq_false_iff,
      bne_iff_ne] at isAllowed
    exact ⟨isAllowed.1.1, isAllowed.1.2, isAllowed.2⟩

/-- Accepted paths normalize to themselves. -/
theorem normalized_again {input normal : CString}
    (normalized : vfsNormalizePath input = some normal) :
    vfsNormalizePath normal = some normal := by
  obtain ⟨accepted, written⟩ := vfsNormalizePath_iff.mp normalized
  have genuine : ∀ part ∈ segments slash input.bytes, IsSegment slash part :=
    fun part isPart => isSegment_of_mem isPart
  obtain ⟨rest, isAbsolute⟩ := List.head?_eq_some_iff.mp accepted.absolute
  have trimmed : trimSeparators (squeeze slash input.bytes false) = normal.bytes := by
    rw [written, isAbsolute]
    exact trim_squeeze
  have same : segments slash normal.bytes = segments slash input.bytes := by
    rw [written]
    generalize segments slash input.bytes = parts at genuine
    cases parts with
    | nil => rfl
    | cons part others => exact segments_render genuine
  refine vfsNormalizePath_iff.mpr ⟨⟨?_, ?_, ?_, ?_⟩, ?_⟩
  · rw [written, normalBytes]
    split
    · rfl
    · cases parts : segments slash input.bytes with
      | nil => simp_all
      | cons part others => rfl
  · have shorter := (trimSeparators_append (squeeze slash input.bytes false)).length_le
    rw [trimmed] at shorter
    exact shorter.trans ((squeeze_length _ _).trans accepted.short)
  · intro byte isByte
    rw [← trimmed] at isByte
    exact accepted.valid byte (render_subset ((trimSeparators_append _).subset isByte))
  · rw [same]
    exact accepted.allowed
  · rw [same, written]

/-- What a resolved path is made of. -/
structure Resolves (logicalPath : CString) (role : Role) (operation : VfsOperation)
    (resolved : VfsResolvedPath) (info : VfsNamespaceInfo) : Prop where
  listed : info ∈ namespaceInfo
  vfsNamespace : resolved.vfsNamespace = info.vfsNamespace
  normalized : vfsNormalizePath logicalPath = some resolved.logicalPath
  named : info.name.bytes = resolved.logicalPath.bytes.tail.takeWhile (· != slash)
  backed : resolved.backingPath = vfsBackingPath info.backingPrefix (vfsSuffix resolved.logicalPath)
  permitted : operation = .write →
    info.readOnly = false ∧ vfsRoleCanWrite role info.vfsNamespace = true

theorem resolves_of_resolved {logicalPath : CString} {role : Role} {operation : VfsOperation}
    {resolved : VfsResolvedPath}
    (accepted : vfsResolvePath logicalPath role operation = some resolved) :
    ∃ info, Resolves logicalPath role operation resolved info := by
  rw [vfsResolvePath] at accepted
  cases normalized : vfsNormalizePath logicalPath with
  | none =>
    rw [normalized] at accepted
    cases accepted
  | some normal =>
    cases found : vfsFindNamespace normal with
    | none =>
      simp only [normalized, found] at accepted
      cases accepted
    | some info =>
      simp only [normalized, found] at accepted
      split at accepted
      · cases accepted
      rename_i permitted
      split at accepted
      · cases accepted
      obtain rfl := Option.some.inj accepted
      refine ⟨info, List.mem_of_find?_eq_some found, rfl, normalized,
        eq_of_beq (@List.find?_some _ (fun info : VfsNamespaceInfo =>
          info.name.bytes == normal.bytes.tail.takeWhile (· != slash)) _ _ found), rfl, ?_⟩
      rintro rfl
      simpa using permitted

/-- The prefix alone, or followed by the suffix after a separator. -/
theorem bytes_vfsBackingPath (backingPrefix suffix : CString) :
    (suffix.bytes = [] ∧ (vfsBackingPath backingPrefix suffix).bytes = backingPrefix.bytes) ∨
      (suffix.bytes ≠ [] ∧ (vfsBackingPath backingPrefix suffix).bytes =
        backingPrefix.bytes ++ slash :: suffix.bytes) := by
  rw [vfsBackingPath]
  by_cases empty : suffix.isEmpty = true
  · rw [if_pos empty]
    exact .inl ⟨(CString.isEmpty_iff _).mp empty, rfl⟩
  · rw [if_neg empty]
    refine .inr ⟨fun none => empty ((CString.isEmpty_iff _).mpr none), ?_⟩
    have separator : (CString.literal "/").bytes = [slash] := by decide
    simp [CString.append, separator]

theorem Resolves.under {logicalPath : CString} {role : Role} {operation : VfsOperation}
    {resolved : VfsResolvedPath} {info : VfsNamespaceInfo}
    (resolves : Resolves logicalPath role operation resolved info) :
    Under resolved.backingPath info.backingPrefix := by
  rw [Under, resolves.backed]
  obtain ⟨-, bytes⟩ | ⟨-, bytes⟩ :=
    bytes_vfsBackingPath info.backingPrefix (vfsSuffix resolved.logicalPath)
  · exact .inl bytes
  · exact .inr ⟨_, bytes⟩

/-- Each namespace is listed once. -/
theorem namespaceInfo_unique : ∀ left ∈ namespaceInfo, ∀ right ∈ namespaceInfo,
    left.vfsNamespace = right.vfsNamespace → left = right := by
  decide +kernel

theorem bytes_vfsSuffix (path : CString) :
    (vfsSuffix path).bytes = (path.bytes.tail.dropWhile (· != slash)).tail := by
  simp only [vfsSuffix]
  cases path.bytes.tail.dropWhile (· != slash) <;> rfl

/-- A path in normal form is its first segment, with the suffix where there is one. -/
theorem bytes_of_normalForm {path : CString} (normal : NormalForm path)
    (named : path.bytes.tail.takeWhile (· != slash) ≠ []) :
    path.bytes = slash :: (path.bytes.tail.takeWhile (· != slash)) ++
      (if (vfsSuffix path).bytes = [] then [] else slash :: (vfsSuffix path).bytes) := by
  obtain root | ⟨rest, isPath, parts⟩ := normal
  · rw [root] at named
    exact absurd rfl named
  have split := List.takeWhile_append_dropWhile (p := (· != slash)) (l := rest)
  have suffix : (vfsSuffix path).bytes = (rest.dropWhile (· != slash)).tail := by
    rw [bytes_vfsSuffix, isPath, List.tail_cons]
  rw [suffix, isPath, List.tail_cons]
  cases left : rest.dropWhile (· != slash) with
  | nil =>
    rw [left, List.append_nil] at split
    simp [split]
  | cons separator others =>
    have isSeparator : separator = slash := by
      have first := List.head_dropWhile_not (· != slash) (l := rest) (by simp [left])
      simpa [left] using first
    subst isSeparator
    have inhabited : others ≠ [] := by
      rintro rfl
      have free : slash ∉ rest.takeWhile (· != slash) := by
        intro isByte
        have nonzero := List.all_eq_true.mp (List.all_takeWhile (p := (· != slash)) (l := rest))
          slash isByte
        simp at nonzero
      have cut : [] ∈ rest.splitOn slash := by
        rw [← split, left, splitOn_append free, splitOn_separator]
        simp
      exact (parts [] cut).1 rfl
    rw [List.tail_cons, if_neg inhabited, ← left, List.cons_append, split]

/-- No namespace has an empty name. -/
theorem name_ne_nil : ∀ info ∈ namespaceInfo, info.name.bytes ≠ [] := by
  decide +kernel

theorem Resolves.injective {left right : CString} {leftRole rightRole : Role}
    {leftOperation rightOperation : VfsOperation} {first second : VfsResolvedPath}
    {info : VfsNamespaceInfo} (resolvesLeft : Resolves left leftRole leftOperation first info)
    (resolvesRight : Resolves right rightRole rightOperation second info)
    (same : first.backingPath = second.backingPath) : first.logicalPath = second.logicalPath := by
  have nonempty := name_ne_nil info resolvesLeft.listed
  have leftBytes := bytes_of_normalForm (normalForm_of_normalized resolvesLeft.normalized)
    (resolvesLeft.named ▸ nonempty)
  have rightBytes := bytes_of_normalForm (normalForm_of_normalized resolvesRight.normalized)
    (resolvesRight.named ▸ nonempty)
  rw [← resolvesLeft.named] at leftBytes
  rw [← resolvesRight.named] at rightBytes
  have suffixes : (vfsSuffix first.logicalPath).bytes = (vfsSuffix second.logicalPath).bytes := by
    rw [resolvesLeft.backed, resolvesRight.backed] at same
    have sameBytes := congrArg CString.bytes same
    obtain ⟨leftNone, leftBacked⟩ | ⟨leftSome, leftBacked⟩ :=
      bytes_vfsBackingPath info.backingPrefix (vfsSuffix first.logicalPath) <;>
    obtain ⟨rightNone, rightBacked⟩ | ⟨rightSome, rightBacked⟩ :=
      bytes_vfsBackingPath info.backingPrefix (vfsSuffix second.logicalPath) <;>
    rw [leftBacked, rightBacked] at sameBytes
    · rw [leftNone, rightNone]
    · simp at sameBytes
    · simp at sameBytes
    · simpa using sameBytes
  ext1
  rw [leftBytes, rightBytes, suffixes]

/-- No namespace in whose prefix the backing path of a write lies is read-only or closed to
the role. -/
def WriteConfined (logicalPath : CString) (role : Role) : Prop :=
  ∀ resolved, vfsResolvePath logicalPath role .write = some resolved →
    ∀ info ∈ namespaceInfo, Under resolved.backingPath info.backingPrefix →
      info.readOnly = false ∧ vfsRoleCanWrite role info.vfsNamespace = true

instance (path directory : CString) : Decidable (Under path directory) :=
  decidable_of_iff (path.bytes = directory.bytes ∨ directory.bytes ++ [slash] <+: path.bytes) <| by
    constructor
    · rintro (same | ⟨suffix, split⟩)
      · exact .inl same
      · exact .inr ⟨suffix, by simpa using split.symm⟩
    · rintro (same | ⟨suffix, split⟩)
      · exact .inl same
      · exact .inr ⟨suffix, by simpa using split.symm⟩

/-- Two directories of one path are one in the other. -/
theorem Under.comparable {path outer inner : CString} (underOuter : Under path outer)
    (underInner : Under path inner) (wider : outer.length ≤ inner.length) : Under inner outer := by
  have outerPrefix : outer.bytes <+: path.bytes := by
    obtain same | ⟨suffix, split⟩ := underOuter
    · rw [same]
    · exact ⟨_, split.symm⟩
  have innerPrefix : inner.bytes <+: path.bytes := by
    obtain same | ⟨suffix, split⟩ := underInner
    · rw [same]
    · exact ⟨_, split.symm⟩
  obtain ⟨between, isInner⟩ := List.prefix_of_prefix_length_le outerPrefix innerPrefix wider
  cases between with
  | nil => exact .inl (by simpa using isInner.symm)
  | cons byte rest =>
    obtain ⟨after, split⟩ := innerPrefix
    rw [← isInner, List.append_assoc] at split
    obtain same | ⟨suffix, isPath⟩ := underOuter
    · rw [same] at split
      simp at split
    · rw [isPath] at split
      have isSlash : byte = slash := by simpa using congrArg List.head? (List.append_cancel_left split)
      rw [isSlash] at isInner
      exact .inr ⟨rest, isInner.symm⟩

/-- Among the listed namespaces, one inside another that the role may write to may be
written to as well, save `system` inside `int`. -/
theorem inner_writable : ∀ outer ∈ namespaceInfo, ∀ inner ∈ namespaceInfo,
    Under inner.backingPrefix outer.backingPrefix → ∀ role ∈ [Role.owner, .operator, .instructor,
      .student, .observer], outer.readOnly = false → vfsRoleCanWrite role outer.vfsNamespace = true →
    ¬ (role = .owner ∧ outer.vfsNamespace = .internal ∧ inner.vfsNamespace = .system) →
    inner.readOnly = false ∧ vfsRoleCanWrite role inner.vfsNamespace = true := by
  decide +kernel

/-- The confinement of logical paths. A write is confined by every namespace that is no
wider than the one the path names. -/
structure Confined : Prop where
  normalForm : ∀ input normal, vfsNormalizePath input = some normal →
    NormalForm normal ∧ vfsNormalizePath normal = some normal
  under : ∀ logicalPath role operation resolved,
    vfsResolvePath logicalPath role operation = some resolved →
    ∀ info ∈ namespaceInfo, info.vfsNamespace = resolved.vfsNamespace →
      Under resolved.backingPath info.backingPrefix
  injective : ∀ left right leftRole rightRole leftOperation rightOperation first second,
    vfsResolvePath left leftRole leftOperation = some first →
    vfsResolvePath right rightRole rightOperation = some second →
    first.vfsNamespace = second.vfsNamespace →
    vfsNormalizePath left ≠ vfsNormalizePath right → first.backingPath ≠ second.backingPath
  write : ∀ logicalPath role resolved, vfsResolvePath logicalPath role .write = some resolved →
    ∀ named ∈ namespaceInfo, named.vfsNamespace = resolved.vfsNamespace →
    ∀ info ∈ namespaceInfo, Under resolved.backingPath info.backingPrefix →
    named.backingPrefix.length ≤ info.backingPrefix.length →
    ¬ (role = .owner ∧ resolved.vfsNamespace = .internal ∧ info.vfsNamespace = .system) →
    info.readOnly = false ∧ vfsRoleCanWrite role info.vfsNamespace = true

/-- Logical paths are confined. -/
theorem paths_confined : Confined where
  normalForm _ _ normalized :=
    ⟨normalForm_of_normalized normalized, normalized_again normalized⟩
  under logicalPath role operation resolved accepted info listed reported := by
    obtain ⟨used, resolves⟩ := resolves_of_resolved accepted
    obtain rfl := namespaceInfo_unique info listed used resolves.listed
      (reported.trans resolves.vfsNamespace)
    exact resolves.under
  injective left right leftRole rightRole leftOperation rightOperation first second acceptedLeft
      acceptedRight sameNamespace different sameBacking := by
    obtain ⟨info, resolvesLeft⟩ := resolves_of_resolved acceptedLeft
    obtain ⟨other, resolvesRight⟩ := resolves_of_resolved acceptedRight
    obtain rfl := namespaceInfo_unique info resolvesLeft.listed other resolvesRight.listed
      (resolvesLeft.vfsNamespace.symm.trans (sameNamespace.trans resolvesRight.vfsNamespace))
    apply different
    rw [resolvesLeft.normalized, resolvesRight.normalized,
      resolvesLeft.injective resolvesRight sameBacking]
  write logicalPath role resolved accepted named namedListed reported info listed inside narrower
      apart := by
    obtain ⟨used, resolves⟩ := resolves_of_resolved accepted
    obtain rfl := namespaceInfo_unique named namedListed used resolves.listed
      (reported.trans resolves.vfsNamespace)
    obtain ⟨unlocked, canWrite⟩ := resolves.permitted rfl
    have everyRole : role ∈ [Role.owner, .operator, .instructor, .student, .observer] := by
      cases role <;> decide
    rw [resolves.vfsNamespace] at apart
    exact inner_writable named namedListed info listed
      (resolves.under.comparable inside narrower) role everyRole unlocked canWrite apart

/-- An operator writes in `config`, inside `int`, which is closed to the operator; the
owner writes to `/int/system` through `int`. -/
theorem write_not_confined : ¬ WriteConfined (.literal "/config/a") .operator ∧
    ¬ WriteConfined (.literal "/int/system/a") .owner := by
  constructor
  · intro confined
    have accepted : vfsResolvePath (.literal "/config/a") .operator .write =
        some ⟨.config, false, .literal "/config/a", .literal "/int/config/a"⟩ := by
      decide +kernel
    have refused := confined _ accepted
      ⟨.literal "int", .internal, .literal "/int", false⟩ (by decide +kernel) (by decide +kernel)
    exact absurd refused.2 (by decide)
  · intro confined
    have accepted : vfsResolvePath (.literal "/int/system/a") .owner .write =
        some ⟨.internal, false, .literal "/int/system/a", .literal "/int/system/a"⟩ := by
      decide +kernel
    have refused := confined _ accepted
      ⟨.literal "system", .system, .literal "/int/system", true⟩ (by decide +kernel)
      (by decide +kernel)
    exact absurd refused.1 (by decide)

end PoisonedOS
