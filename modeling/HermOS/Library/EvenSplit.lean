import Mathlib.Data.List.Range

/-!
# Even splits

A range of `total` elements divided into `parts` adjacent blocks, of which the first
`total % parts` are longer by one.  Lengths and starts are given by separate formulas; a block
starts where the one before it ends, and the last one ends at `total`.
-/

namespace HermOS
namespace EvenSplit

variable (total parts : ℕ)

/-- Length of a block. -/
def size (index : ℕ) : ℕ :=
  total / parts + if index < total % parts then 1 else 0

/-- First element of a block. -/
def start (index : ℕ) : ℕ :=
  index * (total / parts) + min index (total % parts)

@[simp] theorem start_zero : start total parts 0 = 0 := by
  simp [start]

/-- Blocks are adjacent. -/
theorem start_succ (index : ℕ) :
    start total parts (index + 1) = start total parts index + size total parts index := by
  simp only [start, size, Nat.add_mul, Nat.one_mul]
  split <;> omega

/-- The last block ends with the range. -/
theorem start_parts (positive : 0 < parts) : start total parts parts = total := by
  have remainder : total % parts < parts := Nat.mod_lt _ positive
  rw [start, Nat.min_eq_right remainder.le]
  exact Nat.div_add_mod total parts

theorem start_le_start {index later : ℕ} (le : index ≤ later) :
    start total parts index ≤ start total parts later := by
  induction later, le using Nat.le_induction with
  | base => rfl
  | succ later _ ih => exact ih.trans (by rw [start_succ]; omega)

theorem size_pos {index : ℕ} (enough : parts ≤ total) (below : index < parts) :
    0 < size total parts index := by
  have quotient : 0 < total / parts := Nat.div_pos enough (by omega)
  rw [size]
  omega

theorem size_le_size_succ (index other : ℕ) :
    size total parts index ≤ size total parts other + 1 := by
  simp only [size]
  split <;> split <;> omega

/-- The elements of the first blocks, in order. -/
theorem flatMap_blocks (count : ℕ) :
    (List.range count).flatMap
        (fun index => List.range' (start total parts index) (size total parts index)) =
      List.range (start total parts count) := by
  induction count with
  | zero => simp
  | succ count ih =>
      rw [List.range_succ, List.flatMap_append, ih, start_succ, List.range_add]
      simp [List.range'_eq_map_range]

end EvenSplit
end HermOS
