import Mathlib.Algebra.Order.BigOperators.Group.List
import PoisonedOS.Library.DotSegments
import PoisonedOS.Workloads.ProjectSource

/-!
# Requests for project sources

A request is put after its base, and its segments are taken in place: a name is written behind
the output, two dots take the last name away. The output is the one text without dot segments
that leads where the request leads, and no buffer is written behind its end.

An empty segment is refused wherever it stands but at the end: a request that ends in a
separator is accepted as if it did not. What a request is normalized to is not resolved: only the
root itself is.
-/

namespace PoisonedOS

open DotSegments (joined place stackOf pop Canonical IsName)

/-- A byte that no segment of a request may have. -/
def refusedByte (byte : UInt8) : Bool := decide (byte < 32) || byte == 127 || byte == 92

/-- The text that `js_modules_normalize_source_request` goes through. -/
def combinedRequest (base request : List UInt8) : List UInt8 :=
  if base.isEmpty then request else base ++ 47 :: request

/-- The loop of `js_modules_normalize_source_request`, with `output` up to `output_length` and
how far the two buffers are written. -/
def normalizeLoop (output : List UInt8) (extent : Nat) :
    List (List UInt8) → Option (List UInt8) × Nat
  | [] =>
    if output.isEmpty then (none, extent) else (some output, max extent (output.length + 1))
  | segment :: rest =>
    if segment.isEmpty || segment.any refusedByte then (none, extent)
    else if segment == [46] then normalizeLoop output extent rest
    else if segment == [46, 46] then
      if output.isEmpty then (none, extent) else normalizeLoop (pop 47 output) extent rest
    else
      let opened := if output.isEmpty then output else output ++ [47]
      if opened.length + segment.length ≥ jsProjectPathMax then (none, max extent opened.length)
      else
        normalizeLoop (opened ++ segment) (max extent (opened.length + segment.length)) rest

/-- `js_modules_normalize_source_request` on any bytes: its output, and how far it writes its
buffers. -/
def normalizeRequest (base request : List UInt8) : Option (List UInt8) × Nat :=
  if request.isEmpty || request.head? == some 47 ||
      decide (base.length + (if base.isEmpty then 0 else 1) + request.length ≥ jsProjectPathMax)
  then (none, 0)
  else
    let combined := combinedRequest base request
    normalizeLoop [] (combined.length + 1) (requestSegments combined)

/-- How far `js_modules_resolve_project_path` writes its buffer; `strlcpy` stops at its end. -/
def resolveExtent (root path : CString) : Nat :=
  match resolveProjectPath root path with
  | none => 0
  | some resolved =>
    if (path.bytes.dropWhile (· == 47)).isEmpty then min (root.length + 1) jsProjectPathMax
    else resolved.length + 1

/-- Segments that are not empty and have no refused byte. -/
def Clean (segments : List (List UInt8)) : Prop :=
  ∀ segment ∈ segments, segment ≠ [] ∧ ∀ byte ∈ segment, refusedByte byte = false

/-- A path that leads from the root down names without control bytes or backslashes, and fits. -/
structure Resolvable (root path : CString) : Prop where
  rooted : root.isEmpty = false
  named : path.bytes.dropWhile (· == 47) ≠ []
  clean : ∀ segment ∈ (path.bytes.dropWhile (· == 47)).splitOn 47, segmentRefused segment = false
  plain : ∀ byte ∈ path.bytes, byte ≠ 92 ∧ 32 ≤ byte
  fits : root.length + 1 + (path.bytes.dropWhile (· == 47)).length < jsProjectPathMax

/-- The segments lead from the stack to the output. -/
def LeadsTo (segments stack : List (List UInt8)) (output : List UInt8) : Prop :=
  ∃ final, segments.foldlM (place 46) stack = some final ∧ final ≠ [] ∧ output = joined 47 final

/-- A text that a request may be: no segment is empty or has a refused byte, the text fits, and
its segments never lead above the root or end there. -/
structure Acceptable (text : List UInt8) : Prop where
  whole : Clean (text.splitOn 47)
  fits : text.length < jsProjectPathMax
  confined : ∃ stack, stackOf 47 46 text = some stack ∧ stack ≠ []

/-- What is asked of the normalization of a request. -/
structure RequestNormalized (base request : List UInt8) : Prop where
  accepts : (normalizeRequest base request).1.isSome = true ↔
    Acceptable (combinedRequest base request)
  normal : ∀ output, (normalizeRequest base request).1 = some output →
    (∀ text, Canonical 47 46 text ∧
      stackOf 47 46 text = stackOf 47 46 (combinedRequest base request) ↔ text = output) ∧
        (normalizeRequest [] output).1 = some output
  bounded : (normalizeRequest base request).2 ≤ jsProjectPathMax

/-- What is asked of the resolution of a path: it leads to the root, or from the root down names,
and a path that may be resolved is. -/
structure PathResolved (root path : CString) : Prop where
  accepts : Resolvable root path → (resolveProjectPath root path).isSome = true
  whole : root.isEmpty = false → (∀ byte ∈ path.bytes, byte = 47) →
    resolveProjectPath root path = some root
  under : ∀ resolved, resolveProjectPath root path = some resolved →
    (∀ byte ∈ path.bytes, byte = 47) ∧ resolved = root ∨
      ∃ parts, parts ≠ [] ∧ (∀ part ∈ parts, IsName 47 46 part) ∧
        resolved.bytes = root.bytes ++ 47 :: joined 47 parts
  bounded : resolveExtent root path ≤ jsProjectPathMax

/-- The request ends in a separator, and is acceptable without it. -/
structure Trailing (base request : List UInt8) : Prop where
  ends : request.getLast? = some 47
  relative : request.head? ≠ some 47
  fits : (combinedRequest base request).length < jsProjectPathMax
  acceptable : Acceptable (combinedRequest base request).dropLast

/-! ## The loop -/

def room (segments : List (List UInt8)) : Nat := (segments.map (·.length + 1)).sum

variable {stack : List (List UInt8)}

theorem isEmpty_joined (named : ∀ part ∈ stack, IsName 47 46 part) :
    (joined 47 stack).isEmpty = stack.isEmpty := by
  cases stack with
  | nil => rfl
  | cons first rest =>
    rw [List.isEmpty_cons, List.isEmpty_eq_false_iff]
    exact DotSegments.joined_ne_nil (fun part isPart => (named part isPart).nonempty)
      (List.cons_ne_nil _ _)

variable {segments : List (List UInt8)}

theorem length_joined (inhabited : segments ≠ []) :
    (joined 47 segments).length + 1 = room segments :=
  DotSegments.length_joined inhabited

theorem clean_cons {segment : List UInt8} {rest : List (List UInt8)}
    (full : segment ≠ []) (plain : ∀ byte ∈ segment, refusedByte byte = false) :
    Clean (segment :: rest) ↔ Clean rest := by
  rw [Clean, List.forall_mem_cons]
  exact and_iff_right ⟨full, plain⟩

theorem leadsTo_cons {segment output : List UInt8} {rest next : List (List UInt8)}
    (placed : place 46 stack segment = some next) :
    LeadsTo (segment :: rest) stack output ↔ LeadsTo rest next output := by
  rw [LeadsTo, List.foldlM_cons, placed]
  rfl

/-- A name is written behind the output. -/
theorem opened_append (stack : List (List UInt8)) (segment : List UInt8) :
    (if stack.isEmpty then joined 47 stack else joined 47 stack ++ [47]) ++ segment =
      joined 47 (stack ++ [segment]) := by
  cases stack with
  | nil => simp [joined]
  | cons first others =>
    rw [DotSegments.joined_concat (List.cons_ne_nil _ _)]
    simp

/-- The loop takes the segments onto the stack whose names the output joins, and no buffer is
written behind its end.

Proof: by induction on the segments. What is on the stack and what is still to come has room in
the buffer, so that the check before a name is written never fails. -/
theorem normalizeLoop_spec {extent : Nat} (genuine : ∀ part ∈ segments, (47 : UInt8) ∉ part)
    (named : ∀ part ∈ stack, IsName 47 46 part)
    (fits : room stack + room segments ≤ jsProjectPathMax) (written : extent ≤ jsProjectPathMax) :
    (∀ output, (normalizeLoop (joined 47 stack) extent segments).1 = some output ↔
      Clean segments ∧ LeadsTo segments stack output) ∧
      (normalizeLoop (joined 47 stack) extent segments).2 ≤ jsProjectPathMax := by
  induction segments generalizing stack extent with
  | nil =>
    have clean : Clean [] := fun segment isSegment => by cases isSegment
    rw [normalizeLoop, isEmpty_joined named]
    cases stack with
    | nil => exact ⟨fun output => by simp [LeadsTo], written⟩
    | cons first rest =>
      have length := length_joined (List.cons_ne_nil first rest)
      rw [List.isEmpty_cons, if_neg Bool.false_ne_true]
      refine ⟨fun output => ?_, ?_⟩
      · rw [and_iff_right clean]
        constructor
        · intro same
          exact ⟨_, rfl, List.cons_ne_nil _ _, (Option.some.inj same).symm⟩
        · rintro ⟨final, isFinal, -, rfl⟩
          rw [Option.some.inj isFinal]
      · rw [← length] at fits
        exact max_le written (Nat.le_of_add_right_le fits)
  | cons segment rest ih =>
    have later {next : List (List UInt8)} {reach : Nat}
        (named : ∀ part ∈ next, IsName 47 46 part)
        (fits : room next + room rest ≤ jsProjectPathMax) (written : reach ≤ jsProjectPathMax) :=
      ih (fun part isPart => genuine part (List.mem_cons_of_mem _ isPart))
        named fits written
    have total : room (segment :: rest) = segment.length + 1 + room rest := by
      simp [room]
    rw [total] at fits
    rw [normalizeLoop]
    by_cases refused : (segment.isEmpty || segment.any refusedByte) = true
    · rw [if_pos refused]
      refine ⟨fun output => ⟨?_, ?_⟩, written⟩
      · intro none
        cases none
      · rintro ⟨clean, -⟩
        obtain ⟨full, plain⟩ := clean segment List.mem_cons_self
        simp only [Bool.or_eq_true, List.isEmpty_iff, List.any_eq_true] at refused
        obtain empty | ⟨byte, isByte, bad⟩ := refused
        · exact absurd empty full
        · rw [plain byte isByte] at bad
          cases bad
    obtain ⟨full, plain⟩ : segment ≠ [] ∧ ∀ byte ∈ segment, refusedByte byte = false := by
      simpa using refused
    rw [if_neg refused]
    simp only [clean_cons full plain, beq_iff_eq]
    by_cases here : segment = [46]
    · have placed : place 46 stack segment = some stack := by rw [place, if_pos here]
      simp only [if_pos here, leadsTo_cons placed]
      exact later named (by omega) written
    by_cases up : segment = [46, 46]
    · rw [if_neg here, if_pos up, isEmpty_joined named]
      obtain rfl | ⟨start, last, rfl⟩ := List.eq_nil_or_concat stack
      · refine ⟨fun output => ⟨?_, ?_⟩, written⟩
        · intro none
          cases none
        · rintro ⟨-, final, isFinal, -⟩
          rw [List.foldlM_cons, place, if_neg here, if_pos up, if_pos rfl] at isFinal
          cases isFinal
      · rw [List.concat_eq_append] at named fits ⊢
        have placed : place 46 (start ++ [last]) segment = some start := by
          rw [place, if_neg here, if_pos up, if_neg (by simp), List.dropLast_concat]
        simp only [leadsTo_cons placed]
        rw [if_neg (by simp), DotSegments.pop_concat (named last (by simp)).free]
        refine later (fun part isPart => named part (List.mem_append_left _ isPart)) ?_ written
        simp only [room, List.map_append, List.sum_append] at fits ⊢
        omega
    · have name : IsName 47 46 segment :=
        ⟨full, genuine segment List.mem_cons_self, here, up⟩
      have length : (joined 47 (stack ++ [segment])).length + 1 =
          room stack + (segment.length + 1) := by
        rw [length_joined (by simp)]
        simp [room]
      rw [if_neg here, if_neg up, isEmpty_joined named]
      simp only [leadsTo_cons (DotSegments.place_name name)]
      rw [← List.length_append, opened_append, if_neg (by omega)]
      refine later ?_ ?_ (by omega)
      · intro part isPart
        obtain old | new := List.mem_append.mp isPart
        · exact named part old
        · rw [List.mem_singleton.mp new]
          exact name
      · simp only [room, List.map_append, List.map_singleton, List.sum_append,
          List.sum_singleton] at fits ⊢
        omega

theorem normalizeLoop_eq (extent : Nat) (genuine : ∀ part ∈ segments, (47 : UInt8) ∉ part)
    (named : ∀ part ∈ stack, IsName 47 46 part) :
    (normalizeLoop (joined 47 stack) extent segments).1 =
      (normalizeSegments stack segments).bind fun kept =>
        if kept.isEmpty then none else some (joined 47 kept) := by
  induction segments generalizing stack extent with
  | nil =>
    rw [normalizeLoop, normalizeSegments, isEmpty_joined named, Option.bind_some]
    split <;> rfl
  | cons segment rest ih =>
    have later {next : List (List UInt8)} (named : ∀ part ∈ next, IsName 47 46 part)
        (reach : Nat) := ih reach
      (fun part isPart => genuine part (List.mem_cons_of_mem _ isPart)) named
    rw [normalizeLoop, normalizeSegments, isEmpty_joined named]
    show _ = Option.bind (if (segment.isEmpty || segment.any refusedByte) = true then _ else _) _
    split
    · rfl
    rename_i clean
    split
    · exact later named extent
    rename_i notHere
    split
    · split
      · rfl
      · rename_i inhabited
        have split := List.dropLast_concat_getLast (mt List.isEmpty_iff.mpr inhabited)
        rw [← split] at named
        rw [← split, DotSegments.pop_concat (named _ (by simp)).free, List.dropLast_concat]
        exact later (fun part isPart => named part (List.mem_append_left _ isPart)) extent
    rename_i notUp
    dsimp only
    rw [← List.length_append, opened_append]
    show _ = Option.bind (if decide ((joined 47 (stack ++ [segment])).length ≥ _) = true
      then _ else _) _
    simp only [decide_eq_true_iff]
    split
    · rfl
    · refine later (fun part isPart => ?_) _
      obtain old | new := List.mem_append.mp isPart
      · exact named part old
      · rw [List.mem_singleton.mp new]
        simp only [Bool.or_eq_true, not_or, List.isEmpty_iff] at clean
        exact ⟨clean.1, genuine segment List.mem_cons_self, by simpa using notHere,
          by simpa using notUp⟩

/-! ## Requests -/

variable {base request : List UInt8}

/-- The text whose segments are taken. -/
def requestText (combined : List UInt8) : List UInt8 :=
  if combined.getLast? = some 47 then combined.dropLast else combined

theorem requestSegments_eq (combined : List UInt8) :
    requestSegments combined = (requestText combined).splitOn 47 := by
  rw [requestSegments, requestText]
  by_cases ends : combined.getLast? = some 47
  · obtain ⟨start, rfl⟩ := List.getLast?_eq_some_iff.mp ends
    rw [if_pos (by simp), if_pos ends, List.splitOn_append_cons_self, List.splitOn_nil,
      List.dropLast_concat, List.dropLast_concat]
  · rw [if_neg (by simpa using ends), if_neg ends]

theorem room_splitOn (text : List UInt8) : room (text.splitOn 47) = text.length + 1 := by
  rw [← length_joined (List.splitOn_ne_nil 47 text), joined, List.intercalate_splitOn]

theorem length_combined (base request : List UInt8) :
    (combinedRequest base request).length =
      base.length + (if base.isEmpty then 0 else 1) + request.length := by
  cases base with
  | nil => simp [combinedRequest]
  | cons first rest =>
    simp [combinedRequest]
    omega

/-- The request of a C string is normalized as the one of its bytes. -/
theorem normalizeSourceRequest_eq (base request : CString) :
    normalizeSourceRequest base request =
      (normalizeRequest base.bytes request.bytes).1.map CString.ofBytes := by
  have combined : (if base.isEmpty then request.bytes else (base.within request).bytes) =
      combinedRequest base.bytes request.bytes := by
    rw [combinedRequest]
    show (if base.bytes.isEmpty then _ else (base.bytes ++ [47]) ++ request.bytes) = _
    rw [List.append_assoc, List.singleton_append]
  rw [normalizeSourceRequest, normalizeRequest, combined]
  change (if (request.bytes.isEmpty || request.bytes.head? == some 47 ||
    decide (base.bytes.length + (if base.bytes.isEmpty then 0 else 1) + request.bytes.length ≥
      jsProjectPathMax)) = true then _ else _) = _
  generalize (request.bytes.isEmpty || _ || _) = refused
  cases refused with
  | true => rfl
  | false =>
    have segmented : ∀ part ∈ (requestText (combinedRequest base.bytes request.bytes)).splitOn 47,
        (47 : UInt8) ∉ part := fun part isPart => Segments.separator_not_mem isPart
    have unnamed : ∀ part ∈ ([] : List (List UInt8)), IsName 47 46 part :=
      fun part isPart => by cases isPart
    have same := normalizeLoop_eq ((combinedRequest base.bytes request.bytes).length + 1)
      segmented unnamed
    rw [DotSegments.joined_nil] at same
    simp only [Bool.false_eq_true, if_false]
    rw [requestSegments_eq, same]
    cases normalizeSegments [] ((requestText _).splitOn 47) with
    | none => rfl
    | some kept =>
      rw [Option.bind_some]
      dsimp only
      split <;> rfl

/-- The output of a request, and how far its buffers are written. -/
theorem normalizeRequest_spec (base request : List UInt8) :
    (∀ output, (normalizeRequest base request).1 = some output ↔
      request ≠ [] ∧ request.head? ≠ some 47 ∧
        (combinedRequest base request).length < jsProjectPathMax ∧
          Clean ((requestText (combinedRequest base request)).splitOn 47) ∧
            LeadsTo ((requestText (combinedRequest base request)).splitOn 47) [] output) ∧
      (normalizeRequest base request).2 ≤ jsProjectPathMax := by
  rw [normalizeRequest, ← length_combined]
  split
  · rename_i refused
    simp only [Bool.or_eq_true, List.isEmpty_iff, beq_iff_eq, decide_eq_true_iff] at refused
    refine ⟨fun output => ⟨?_, ?_⟩, Nat.zero_le _⟩
    · intro none
      cases none
    · rintro ⟨full, relative, fits, -⟩
      obtain (empty | absolute) | long := refused
      · exact absurd empty full
      · exact absurd absolute relative
      · exact absurd fits (Nat.not_lt.mpr long)
  · rename_i checks
    simp only [Bool.or_eq_true, List.isEmpty_iff, beq_iff_eq, decide_eq_true_iff, not_or,
      Nat.not_le, ge_iff_le] at checks
    obtain ⟨⟨full, relative⟩, fits⟩ := checks
    dsimp only
    rw [requestSegments_eq]
    have shorter : (requestText (combinedRequest base request)).length ≤
        (combinedRequest base request).length := by
      rw [requestText]
      split
      · rw [List.length_dropLast]
        exact Nat.sub_le _ _
      · exact Nat.le_refl _
    have segmented : ∀ part ∈ (requestText (combinedRequest base request)).splitOn 47,
        (47 : UInt8) ∉ part := fun part isPart => Segments.separator_not_mem isPart
    have unnamed : ∀ part ∈ ([] : List (List UInt8)), IsName 47 46 part :=
      fun part isPart => by cases isPart
    have spec := normalizeLoop_spec segmented unnamed
      (by rw [room_splitOn, room, List.map_nil, List.sum_nil]; omega) fits
    refine ⟨fun output => (spec.1 output).trans ?_, spec.2⟩
    simp only [full, relative, fits, ne_eq, not_false_eq_true, true_and]

/-- A whole text is not that of an empty or absolute request. -/
theorem relative_of_clean (clean : Clean ((combinedRequest base request).splitOn 47)) :
    request ≠ [] ∧ request.head? ≠ some 47 := by
  have apart : ([] : List UInt8) ∉ (combinedRequest base request).splitOn 47 :=
    fun isSegment => (clean [] isSegment).1 rfl
  have cut : ∃ before, (combinedRequest base request).splitOn 47 =
      before ++ request.splitOn 47 := by
    rw [combinedRequest]
    split
    · exact ⟨[], rfl⟩
    · exact ⟨_, List.splitOn_append_cons_self _ _⟩
  obtain ⟨before, cut⟩ := cut
  rw [cut, List.mem_append, not_or] at apart
  constructor
  · rintro rfl
    exact apart.2 (by simp)
  · intro absolute
    obtain ⟨rest, rfl⟩ := List.head?_eq_some_iff.mp absolute
    rw [Segments.splitOn_separator] at apart
    exact apart.2 List.mem_cons_self

/-- A request that is there ends the text. -/
theorem getLast_combined (full : request ≠ []) :
    (combinedRequest base request).getLast? = request.getLast? := by
  rw [combinedRequest]
  split
  · rfl
  · obtain ⟨letter, isLast⟩ := Option.ne_none_iff_exists'.mp
      (mt List.getLast?_eq_none_iff.mp full)
    rw [List.getLast?_append, List.getLast?_cons_of_ne_nil full, isLast, Option.some_or]

/-- The text of a request that does not end in a separator is taken whole. -/
theorem requestText_whole (full : request ≠ []) (ends : request.getLast? ≠ some 47) :
    requestText (combinedRequest base request) = combinedRequest base request := by
  rw [requestText, getLast_combined full, if_neg ends]

/-- A text that ends in a separator has an empty segment. -/
theorem not_clean_of_ends {text : List UInt8} (ends : text.getLast? = some 47) :
    ¬ Clean (text.splitOn 47) := by
  intro clean
  obtain ⟨start, rfl⟩ := List.getLast?_eq_some_iff.mp ends
  refine (clean [] ?_).1 rfl
  rw [List.splitOn_append_cons_self]
  simp

/-- A stack that an acceptable text leads to consists of names, which are whole and fit. -/
theorem Acceptable.names {text : List UInt8} (acceptable : Acceptable text)
    (leads : stackOf 47 46 text = some stack) :
    (∀ part ∈ stack, IsName 47 46 part) ∧ Clean stack ∧ room stack ≤ jsProjectPathMax := by
  have sublist := DotSegments.foldlM_sublist leads
  rw [List.nil_append] at sublist
  refine ⟨DotSegments.foldlM_named (fun part isPart => ⟨(acceptable.whole part isPart).1,
    Segments.separator_not_mem isPart⟩) (fun part isPart => by cases isPart) leads,
    fun part isPart => acceptable.whole part (sublist.subset isPart), ?_⟩
  have fits := acceptable.fits
  rw [Nat.lt_iff_add_one_le, ← room_splitOn] at fits
  exact (List.Sublist.sum_le_sum (sublist.map _) fun _ _ => Nat.zero_le _).trans fits

theorem normalizeRequest_joined (named : ∀ part ∈ stack, IsName 47 46 part) (clean : Clean stack)
    (inhabited : stack ≠ []) (fits : room stack ≤ jsProjectPathMax) :
    (normalizeRequest [] (joined 47 stack)).1 = some (joined 47 stack) := by
  have cut := DotSegments.splitOn_joined named inhabited
  have whole : Clean ((combinedRequest [] (joined 47 stack)).splitOn 47) := by
    show Clean ((joined 47 stack).splitOn 47)
    rw [cut]
    exact clean
  obtain ⟨full, relative⟩ := relative_of_clean whole
  have length := length_joined inhabited
  have ends : (joined 47 stack).getLast? ≠ some 47 := fun last => not_clean_of_ends last whole
  refine ((normalizeRequest_spec [] (joined 47 stack)).1 _).mpr ?_
  rw [requestText_whole full ends]
  refine ⟨full, relative, ?_, whole, stack, ?_, inhabited, rfl⟩
  · show (joined 47 stack).length < jsProjectPathMax
    rw [Nat.lt_iff_add_one_le, length]
    exact fits
  · show ((joined 47 stack).splitOn 47).foldlM (place 46) [] = some stack
    rw [cut, DotSegments.foldlM_names named, List.nil_append]

/-! ## Paths -/

theorem any_letter (path : CString) :
    path.bytes.any (· != 47) = true ↔ path.bytes.dropWhile (· == 47) ≠ [] := by
  rw [ne_eq, List.dropWhile_eq_nil_iff]
  simp

/-- A path that may be resolved is not, for its terminator is refused. -/
theorem Resolvable.refused {root path : CString} (resolvable : Resolvable root path) :
    resolveProjectPath root path = none := by
  rw [resolveProjectPath_eq, (any_letter path).mpr resolvable.named, Bool.or_true, if_pos rfl]

/-- Every other path is resolved as is asked: to the root, or not at all. -/
theorem path_resolved_iff (root path : CString) :
    PathResolved root path ↔ ¬ Resolvable root path := by
  constructor
  · intro resolved resolvable
    have found := resolved.accepts resolvable
    rw [resolvable.refused] at found
    cases found
  · intro unresolvable
    refine ⟨fun resolvable => absurd resolvable unresolvable, ?_, ?_, ?_⟩
    · intro rooted separators
      have none : path.bytes.any (· != 47) = false := by
        simpa using separators
      rw [resolveProjectPath_eq, rooted, none]
      rfl
    · intro resolved isResolved
      rw [resolveProjectPath_eq] at isResolved
      obtain ⟨checked, same⟩ := Option.ite_none_left_eq_some.mp isResolved
      rw [Bool.or_eq_true, not_or, Bool.not_eq_true, Bool.not_eq_true] at checked
      refine .inl ⟨fun byte isByte => ?_, (Option.some.inj same).symm⟩
      simpa using List.any_eq_false.mp checked.2 byte isByte
    · rw [resolveExtent]
      cases isResolved : resolveProjectPath root path with
      | none => exact Nat.zero_le _
      | some resolved =>
        rw [resolveProjectPath_eq] at isResolved
        obtain ⟨checked, -⟩ := Option.ite_none_left_eq_some.mp isResolved
        rw [Bool.or_eq_true, not_or, any_letter, ne_eq, not_not] at checked
        dsimp only
        rw [checked.2]
        exact min_le_right _ _

/-! ## What is asked of both -/

/-- A request is normalized as is asked exactly if it is not one that is acceptable but for a
separator at its end.

Proof: if the request does not end in a separator, the segments that are taken are all segments
of its text. If it does, the last of these is empty. -/
theorem request_normalized_iff (base request : List UInt8) :
    RequestNormalized base request ↔ ¬ Trailing base request := by
  obtain ⟨spec, bounded⟩ := normalizeRequest_spec base request
  constructor
  · rintro normalized ⟨ends, relative, fits, whole, -, stack, leads, inhabited⟩
    have full : request ≠ [] := by
      rintro rfl
      cases ends
    have last : (combinedRequest base request).getLast? = some 47 :=
      (getLast_combined full).trans ends
    have text : requestText (combinedRequest base request) =
        (combinedRequest base request).dropLast := if_pos last
    have output := (spec (joined 47 stack)).mpr
      ⟨full, relative, fits, text ▸ whole, stack, text ▸ leads, inhabited, rfl⟩
    have acceptable := normalized.accepts.mp (by rw [output]; rfl)
    exact not_clean_of_ends last acceptable.whole
  · intro untrailed
    have accepted {output : List UInt8}
        (isOutput : (normalizeRequest base request).1 = some output) :
        Acceptable (combinedRequest base request) ∧
          LeadsTo ((combinedRequest base request).splitOn 47) [] output := by
      obtain ⟨full, relative, fits, whole, stack, leads, inhabited, isJoined⟩ :=
        (spec output).mp isOutput
      have notLast : request.getLast? ≠ some 47 := by
        intro ends
        rw [requestText, getLast_combined full, if_pos ends] at whole leads
        refine untrailed ⟨ends, relative, fits, whole, ?_, stack, leads, inhabited⟩
        rw [List.length_dropLast]
        exact Nat.lt_of_le_of_lt (Nat.sub_le _ _) fits
      rw [requestText_whole full notLast] at whole leads
      exact ⟨⟨whole, fits, stack, leads, inhabited⟩, stack, leads, inhabited, isJoined⟩
    refine ⟨⟨fun isSome => ?_, fun acceptable => ?_⟩, fun output isOutput => ?_, bounded⟩
    · obtain ⟨output, isOutput⟩ := Option.isSome_iff_exists.mp isSome
      exact (accepted isOutput).1
    · obtain ⟨full, relative⟩ := relative_of_clean acceptable.whole
      obtain ⟨stack, leads, inhabited⟩ := acceptable.confined
      have notLast : request.getLast? ≠ some 47 := fun ends =>
        not_clean_of_ends ((getLast_combined full).trans ends) acceptable.whole
      refine Option.isSome_iff_exists.mpr ⟨joined 47 stack, (spec _).mpr ?_⟩
      rw [requestText_whole full notLast]
      exact ⟨full, relative, acceptable.fits, acceptable.whole, stack, leads, inhabited, rfl⟩
    · obtain ⟨acceptable, stack, leads, inhabited, rfl⟩ := accepted isOutput
      obtain ⟨named, clean, fits⟩ := acceptable.names leads
      refine ⟨fun text => ?_, normalizeRequest_joined named clean inhabited fits⟩
      rw [show stackOf 47 46 (combinedRequest base request) = some stack from leads]
      exact DotSegments.canonical_iff named inhabited

/-- A request is normalized and a path resolved as is asked exactly if the request is not
acceptable but for a separator at its end and the path is none that may be resolved: the loop over
the request stops before the empty segment behind the separator, the one over the path never
reaches its end. -/
theorem normalized_iff (base request : List UInt8) (root path : CString) :
    RequestNormalized base request ∧ PathResolved root path ↔
      ¬ Trailing base request ∧ ¬ Resolvable root path :=
  and_congr (request_normalized_iff base request) (path_resolved_iff root path)

def sampleProjectRoot : CString :=
  (CString.literal "/scripts/javascript/demo/versions/").append
    (.literal "0123456789abcdef0123456789abcdef0123456789abcdef0123456789abcdef")

/-- A request that ends in a separator is accepted, and a path in the project is not resolved. -/
theorem trailing_separator_accepted :
    ¬ RequestNormalized [] (CString.literal "lib/").bytes ∧
      ¬ PathResolved sampleProjectRoot (.literal "data/report.json") := by
  constructor
  · intro normalized
    have accepted := normalized.accepts.mp (by decide +kernel)
    exact (accepted.whole [] (by decide +kernel)).1 rfl
  · intro resolved
    have found := resolved.accepts
      ⟨by decide +kernel, by decide +kernel, by decide +kernel, by decide +kernel, by decide +kernel⟩
    exact absurd found (by decide +kernel)

end PoisonedOS
