import PoisonedOS.Expansion.Protocol

/-!
# One expansion protocol

The decoder of the device and that of the dashboard find the same at the front of a stream,
however it is cut: a frame, an error, or that more is needed. The device has given every frame
before an error; the dashboard throws, and the frames that the same chunk completed are lost.
-/

namespace PoisonedOS.Expansion

open Incremental

/-! ## The front of a stream -/

namespace Dashboard

variable {type : UInt8} {rest : List UInt8}

/-- A length or an error that was found is found with more bytes too. -/
theorem bodyLength_append (known : bodyLength type rest ≠ .ok none) (later : List UInt8) :
    bodyLength type (rest ++ later) = bodyLength type rest := by
  cases rest with
  | nil =>
    unfold bodyLength at known ⊢
    split at known
    · rename_i unknown
      rw [if_pos unknown, if_pos unknown]
    rename_i typed
    rw [if_neg typed, if_neg typed]
    split at known
    · rename_i heartbeat
      rw [if_pos heartbeat, if_pos heartbeat]
    rename_i heartbeat
    rw [if_neg heartbeat, if_neg heartbeat]
    split at known
    · rename_i short
      rw [if_pos short, if_pos short]
    rename_i short
    rw [if_neg short, if_neg short]
    split at known
    · rename_i baud
      rw [if_pos baud, if_pos baud]
    · exact absurd rfl known
  | cons size rest => rfl

/-- A frame has at least its type, and at most the largest data. -/
theorem bodyLength_bounds {length : Nat} (known : bodyLength type rest = .ok (some length)) :
    1 ≤ length ∧ length ≤ maxDataSize + 2 := by
  unfold bodyLength at known
  split at known
  · cases known
  split at known
  · cases known
    decide
  split at known
  · cases known
    decide
  split at known
  · cases known
    decide
  cases rest with
  | nil => cases known
  | cons size rest =>
    simp only at known
    split at known
    · cases known
    · cases known
      omega

/-- The front of a stream whose type is there. -/
theorem front_cons (type : UInt8) (rest : List UInt8) :
    front (type :: rest) =
      match bodyLength type rest with
      | .error error => .bad error
      | .ok none => .more
      | .ok (some length) =>
        if (type :: rest).length < length + 1 then .more
        else if ((type :: rest)[length]?).getD 0 != checksum ((type :: rest).take length) then
          .bad (.checksum (((type :: rest)[length]?).getD 0)
            (checksum ((type :: rest).take length)))
        else .frame (decodeBody ((type :: rest).take length)) ((type :: rest).drop (length + 1)) :=
  rfl

/-- More bytes do not change what is found of a frame that is complete. -/
theorem front_append {length : Nat} (known : bodyLength type rest = .ok (some length))
    (complete : length + 1 ≤ (type :: rest).length) (later : List UInt8) :
    front (type :: rest ++ later) =
      if ((type :: rest)[length]?).getD 0 != checksum ((type :: rest).take length) then
        .bad (.checksum (((type :: rest)[length]?).getD 0)
          (checksum ((type :: rest).take length)))
      else
        .frame (decodeBody ((type :: rest).take length))
          ((type :: rest).drop (length + 1) ++ later) := by
  have same : bodyLength type (rest ++ later) = .ok (some length) := by
    rw [bodyLength_append (by rw [known]; simp), known]
  have long : ¬ (type :: rest ++ later).length < length + 1 := by
    rw [List.length_append]
    omega
  have taken : (type :: rest ++ later).take length = (type :: rest).take length :=
    List.take_append_of_le_length (by omega)
  have dropped : (type :: rest ++ later).drop (length + 1) =
      (type :: rest).drop (length + 1) ++ later :=
    List.drop_append_of_le_length complete
  have stored : (type :: rest ++ later)[length]? = (type :: rest)[length]? :=
    List.getElem?_append_left (by omega)
  rw [List.cons_append] at long taken dropped stored ⊢
  rw [front_cons, same]
  simp only [if_neg long, taken, dropped, stored]

theorem front_stable : Stable front where
  empty := rfl
  bad input error found later := by
    cases input with
    | nil => cases found
    | cons type rest =>
      rw [front_cons] at found
      cases known : bodyLength type rest with
      | error other =>
        rw [known] at found
        rw [List.cons_append, front_cons, bodyLength_append (by rw [known]; simp), known]
        exact found
      | ok length =>
        cases length with
        | none =>
          rw [known] at found
          cases found
        | some length =>
          simp only [known] at found
          split at found
          · cases found
          · rename_i complete
            rw [front_append known (by omega)]
            split at found
            · rename_i wrong
              rw [if_pos wrong]
              exact found
            · cases found
  frame input frame rest found later := by
    cases input with
    | nil => cases found
    | cons type tail =>
      rw [front_cons] at found
      cases known : bodyLength type tail with
      | error other =>
        rw [known] at found
        cases found
      | ok length =>
        cases length with
        | none =>
          rw [known] at found
          cases found
        | some length =>
          simp only [known] at found
          split at found
          · cases found
          · rename_i complete
            rw [front_append known (by omega)]
            split at found
            · cases found
            · rename_i right
              rw [if_neg right]
              cases found
              rfl
  shorter input frame rest found := by
    cases input with
    | nil => cases found
    | cons type tail =>
      rw [front_cons] at found
      cases known : bodyLength type tail with
      | error other =>
        rw [known] at found
        cases found
      | ok length =>
        cases length with
        | none =>
          rw [known] at found
          cases found
        | some length =>
          simp only [known] at found
          split at found
          · cases found
          split at found
          · cases found
          · cases found
            rw [List.length_drop, List.length_cons]
            omega

/-! ## The dashboard's decoder -/

theorem pushLoop_eq (rounds : Nat) (buffer : List UInt8) (frames : List Frame) :
    pushLoop rounds buffer frames =
      (match (readUpTo front rounds buffer).error with
        | some error => .error error
        | none => .ok (frames ++ (readUpTo front rounds buffer).frames),
        (readUpTo front rounds buffer).rest) := by
  induction rounds generalizing buffer frames with
  | zero => simp only [pushLoop, readUpTo, List.append_nil]
  | succ rounds ih =>
    rw [pushLoop, readUpTo]
    cases found : front buffer with
    | more => simp only [List.append_nil]
    | bad error => rfl
    | frame frame rest =>
      simp only [ih, List.append_assoc, List.singleton_append]

theorem push_eq (buffer chunk : List UInt8) :
    push buffer chunk =
      (match (read front (buffer ++ chunk)).error with
        | some error => .error error
        | none => .ok (read front (buffer ++ chunk)).frames,
        (read front (buffer ++ chunk)).rest) := by
  rw [push, pushLoop_eq]
  rfl

/-- The chunk with which the error shows completes no frame. -/
def Delivered (buffer : List UInt8) (chunks : List (List UInt8)) : Prop :=
  ∀ before chunk after, chunks = before ++ chunk :: after →
    (read front (buffer ++ before.flatten)).error = none →
    (read front (buffer ++ before.flatten ++ chunk)).error ≠ none →
    (read front (buffer ++ before.flatten ++ chunk)).frames =
      (read front (buffer ++ before.flatten)).frames

/-- **What the chunks of a stream give**: the error of the stream, and its frames where the
chunk with the error completes none. -/
theorem feed_eq (buffer : List UInt8) (chunks : List (List UInt8))
    (waiting : front buffer = .more) :
    (feed buffer chunks).2 = (read front (buffer ++ chunks.flatten)).error ∧
      (feed buffer chunks).1 <+: (read front (buffer ++ chunks.flatten)).frames ∧
      ((feed buffer chunks).1 = (read front (buffer ++ chunks.flatten)).frames ↔
        Delivered buffer chunks) := by
  induction chunks generalizing buffer with
  | nil =>
    rw [List.flatten_nil, List.append_nil, read_more waiting]
    refine ⟨rfl, List.prefix_refl _, iff_of_true rfl ?_⟩
    intro before chunk after split
    cases before <;> cases split
  | cons chunk chunks ih =>
    have empty : (read front (buffer ++ ([] : List (List UInt8)).flatten)).frames = [] := by
      rw [List.flatten_nil, List.append_nil, read_more waiting]
    have whole := read_append front_stable (buffer ++ chunk) chunks.flatten
    rw [List.flatten_cons, ← List.append_assoc, whole, feed, push_eq]
    cases failed : (read front (buffer ++ chunk)).error with
    | some error =>
      simp only
      refine ⟨trivial, List.nil_prefix, ?_⟩
      constructor
      · intro none before other after split quiet noisy
        cases before with
        | nil =>
          cases split
          rw [empty, List.flatten_nil, List.append_nil]
          exact none.symm
        | cons first before =>
          cases split
          rw [List.flatten_cons, ← List.append_assoc, read_append front_stable, failed] at quiet
          cases quiet
      · intro delivered
        have same := delivered [] chunk chunks rfl
          (by rw [List.flatten_nil, List.append_nil, read_more waiting])
          (by rw [List.flatten_nil, List.append_nil, failed]; simp)
        rw [empty, List.flatten_nil, List.append_nil] at same
        exact same.symm
    | none =>
      have rested := read_rest front_stable failed
      obtain ⟨sameError, isPrefix, iff⟩ :=
        ih (read front (buffer ++ chunk)).rest rested
      simp only
      refine ⟨sameError, (List.prefix_append_right_inj _).mpr isPrefix, ?_⟩
      rw [List.append_cancel_left_eq, iff]
      have shifted (later : List UInt8) := read_append front_stable (buffer ++ chunk) later
      simp only [failed] at shifted
      constructor
      · intro delivered before other after split quiet noisy
        cases before with
        | nil =>
          cases split
          rw [List.flatten_nil, List.append_nil, failed] at noisy
          exact absurd rfl noisy
        | cons first before =>
          cases split
          simp only [List.flatten_cons, ← List.append_assoc] at quiet noisy ⊢
          rw [List.append_assoc _ before.flatten] at noisy ⊢
          rw [shifted] at quiet noisy
          rw [shifted, shifted]
          simp only [← List.append_assoc] at noisy ⊢
          rw [delivered before other after rfl quiet noisy]
      · intro delivered before other after split quiet noisy
        have same := delivered (chunk :: before) other after (by rw [split]; rfl)
        simp only [List.flatten_cons, ← List.append_assoc] at same
        rw [List.append_assoc _ before.flatten, shifted, shifted] at same
        simp only [← List.append_assoc] at same
        exact List.append_cancel_left (same quiet noisy)

end Dashboard

end PoisonedOS.Expansion
