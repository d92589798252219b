import Mathlib.Data.List.Basic

/-!
# Reading a stream frame by frame

A reader looks at the front of a stream and finds a frame, an error, or that it has to wait.
It is stable when more input does not change a frame or an error that it has found. A stream
is then read to the same frames however it is cut, and stops at the same error.
-/

namespace PoisonedOS.Incremental

universe u v w
variable {Byte : Type u} {Frame : Type v} {Error : Type w}

/-- What is found at the front of a stream. -/
inductive Front (Byte : Type u) (Frame : Type v) (Error : Type w) where
  | more
  | bad (error : Error)
  | frame (frame : Frame) (rest : List Byte)

/-- A frame or an error that was found is found with more input too, and a frame takes some
of the input. -/
structure Stable (front : List Byte → Front Byte Frame Error) : Prop where
  empty : front [] = .more
  bad : ∀ input error, front input = .bad error →
    ∀ later, front (input ++ later) = .bad error
  frame : ∀ input frame rest, front input = .frame frame rest →
    ∀ later, front (input ++ later) = .frame frame (rest ++ later)
  shorter : ∀ input frame rest, front input = .frame frame rest → rest.length < input.length

/-- What was read of a stream: the frames, what is left after them, and the error it stopped
at. -/
structure Reading (Byte : Type u) (Frame : Type v) (Error : Type w) where
  frames : List Frame
  rest : List Byte
  error : Option Error

/-- Reading at most so many frames. -/
def readUpTo (front : List Byte → Front Byte Frame Error) :
    Nat → List Byte → Reading Byte Frame Error
  | 0, input => { frames := [], rest := input, error := none }
  | rounds + 1, input =>
    match front input with
    | .more => { frames := [], rest := input, error := none }
    | .bad error => { frames := [], rest := input, error := some error }
    | .frame frame rest =>
      let reading := readUpTo front rounds rest
      { reading with frames := frame :: reading.frames }

/-- Reading all that can be read. -/
def read (front : List Byte → Front Byte Frame Error) (input : List Byte) :
    Reading Byte Frame Error :=
  readUpTo front input.length input

variable {front : List Byte → Front Byte Frame Error}

variable {input : List Byte}

/-- More rounds than bytes make no difference. -/
theorem readUpTo_eq (stable : Stable front) {rounds : Nat} (enough : input.length ≤ rounds) :
    readUpTo front rounds input = read front input := by
  have both : ∀ first second : Nat, ∀ input : List Byte, input.length ≤ first →
      input.length ≤ second → readUpTo front first input = readUpTo front second input := by
    intro first
    induction first with
    | zero =>
      intro second input firstEnough secondEnough
      rw [List.length_eq_zero_iff.mp (Nat.le_zero.mp firstEnough)]
      cases second with
      | zero => rfl
      | succ second => simp only [readUpTo, stable.empty]
    | succ first ih =>
      intro second input firstEnough secondEnough
      cases second with
      | zero =>
        rw [List.length_eq_zero_iff.mp (Nat.le_zero.mp secondEnough)]
        simp only [readUpTo, stable.empty]
      | succ second =>
        rw [readUpTo, readUpTo]
        cases found : front input with
        | more => rfl
        | bad error => rfl
        | frame frame rest =>
          have shorter := stable.shorter input frame rest found
          simp only [ih second rest (by omega) (by omega)]
  exact both rounds input.length input enough (Nat.le_refl _)

theorem read_more (found : front input = .more) :
    read front input = { frames := [], rest := input, error := none } := by
  rw [read]
  cases input with
  | nil => rfl
  | cons byte input => simp only [List.length_cons, readUpTo, found]

theorem read_bad (stable : Stable front) {error : Error} (found : front input = .bad error) :
    read front input = { frames := [], rest := input, error := some error } := by
  cases input with
  | nil =>
    rw [stable.empty] at found
    cases found
  | cons byte input => simp only [read, List.length_cons, readUpTo, found]

theorem read_frame (stable : Stable front) {rest : List Byte} {frame : Frame}
    (found : front input = .frame frame rest) :
    read front input =
      { read front rest with frames := frame :: (read front rest).frames } := by
  have shorter := stable.shorter input frame rest found
  cases input with
  | nil => simp at shorter
  | cons byte input =>
    rw [List.length_cons] at shorter
    rw [← readUpTo_eq stable (Nat.le_of_lt_succ shorter)]
    simp only [read, List.length_cons, readUpTo, found]

/-- **More input after an error is not looked at; otherwise reading goes on where it was.** -/
theorem read_append (stable : Stable front) (input later : List Byte) :
    read front (input ++ later) =
      match (read front input).error with
      | some error =>
        { frames := (read front input).frames
          rest := (read front input).rest ++ later
          error := some error }
      | none =>
        let after := read front ((read front input).rest ++ later)
        { after with frames := (read front input).frames ++ after.frames } := by
  induction size : input.length using Nat.strongRecOn generalizing input with
  | ind size ih =>
    cases found : front input with
    | more =>
      rw [read_more found]
      rfl
    | bad error =>
      rw [read_bad stable found, read_bad stable (stable.bad input error found later)]
    | frame frame rest =>
      have shorter := stable.shorter input frame rest found
      have later' := stable.frame input frame rest found later
      rw [read_frame stable found, read_frame stable later',
        ih rest.length (size ▸ shorter) rest rfl]
      cases (read front rest).error with
      | some error => rfl
      | none => rfl

theorem read_rest (stable : Stable front) (waiting : (read front input).error = none) :
    front (read front input).rest = .more := by
  induction size : input.length using Nat.strongRecOn generalizing input with
  | ind size ih =>
    cases found : front input with
    | more =>
      rw [read_more found]
      exact found
    | bad error =>
      rw [read_bad stable found] at waiting
      cases waiting
    | frame frame rest =>
      have shorter := stable.shorter input frame rest found
      rw [read_frame stable found] at waiting ⊢
      exact ih rest.length (size ▸ shorter) waiting rfl

end PoisonedOS.Incremental
