import Mathlib.Data.List.Basic

/-!
# Slices of a list

A sender that may put only so many entries into a message cuts a list into
slices of one width, the last one shorter. Joined in their order the slices are
the list again, and there is no empty one among them.
-/

namespace PoisonedOS.Slices

universe u
variable {α : Type u}

/-- The slice at a position. -/
def slice (width : Nat) (whole : List α) (index : Nat) : List α :=
  (whole.drop (index * width)).take width

/-- How many slices there are: the length over the width, rounded up. -/
def count (width length : Nat) : Nat := (length + width - 1) / width

/-- The first slices make up the front of the list. -/
theorem join_slices (width : Nat) (whole : List α) (slices : Nat) :
    (List.range slices).flatMap (slice width whole) = whole.take (slices * width) := by
  induction slices with
  | zero => simp
  | succ slices ih =>
    rw [List.range_succ, List.flatMap_append, ih, Nat.succ_mul, List.take_add]
    simp [slice]

theorem slice_succ (width : Nat) (whole : List α) (slices : Nat) :
    whole.take (slices * width) ++ slice width whole slices =
      whole.take ((slices + 1) * width) := by
  rw [Nat.succ_mul, List.take_add, slice]

variable {width : Nat}

/-- The slices reach to the end. -/
theorem length_le_count (positive : 0 < width) (length : Nat) :
    length ≤ count width length * width := by
  have rounded := Nat.lt_div_mul_add (a := length + width - 1) positive
  simp only [count]
  omega

/-- All slices make up the list. -/
theorem take_count (positive : 0 < width) (whole : List α) :
    whole.take (count width whole.length * width) = whole :=
  List.take_of_length_le (length_le_count positive whole.length)

theorem join_count (positive : 0 < width) (whole : List α) :
    (List.range (count width whole.length)).flatMap (slice width whole) = whole := by
  rw [join_slices, take_count positive]

/-- A slice before the end starts within the list. -/
theorem start_lt {length index : Nat} (positive : 0 < width) (within : index < count width length) :
    index * width < length := by
  have enough := (Nat.le_div_iff_mul_le positive).mp (Nat.succ_le_of_lt within)
  rw [Nat.succ_mul] at enough
  omega

/-- No slice before the end is empty. -/
theorem slice_ne_nil {index : Nat} {whole : List α} (positive : 0 < width)
    (within : index < count width whole.length) : slice width whole index ≠ [] := by
  have start := start_lt positive within
  refine List.ne_nil_of_length_pos ?_
  rw [slice, List.length_take, List.length_drop]
  omega

theorem length_slice_le (width : Nat) (whole : List α) (index : Nat) :
    (slice width whole index).length ≤ width := by
  rw [slice, List.length_take]
  exact Nat.min_le_left _ _

/-- A slice holds entries of the list only. -/
theorem mem_of_mem_slice {index : Nat} {whole : List α} {entry : α}
    (inside : entry ∈ slice width whole index) : entry ∈ whole :=
  List.mem_of_mem_drop (List.mem_of_mem_take inside)

/-- A list that is not empty has a slice. -/
theorem count_pos {length : Nat} (positive : 0 < width) (nonempty : 0 < length) :
    0 < count width length :=
  Nat.div_pos (by omega) positive

@[simp] theorem count_zero (positive : 0 < width) : count width 0 = 0 :=
  Nat.div_eq_of_lt (by omega)

/-- A shorter list has no more slices. -/
theorem count_le_count {shorter longer : Nat} (order : shorter ≤ longer) :
    count width shorter ≤ count width longer :=
  Nat.div_le_div_right (by omega)

end PoisonedOS.Slices
