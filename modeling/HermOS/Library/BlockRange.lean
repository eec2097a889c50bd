import Mathlib.Data.Int.Range
import Mathlib.Order.Lattice
import Mathlib.Algebra.Order.Group.Unbundled.Int

/-!
# Blocks of a byte range

A byte range in blocks of one size, from the block of its first byte to the block of its last one.
-/

namespace HermOS
namespace BlockRange

/-- Some byte of the range lies in the block. -/
def Overlaps (offset length blockSize block : ℤ) : Prop :=
  ∃ byte, (offset ≤ byte ∧ byte < offset + length) ∧
    block * blockSize ≤ byte ∧ byte < (block + 1) * blockSize

/-- The blocks between the first and the last byte, in increasing order. -/
def blocks (offset length blockSize : ℤ) : List ℤ :=
  Int.range (Int.fdiv offset blockSize) (Int.fdiv (offset + length - 1) blockSize + 1)

variable {offset length blockSize block : ℤ}

theorem mem_blocks_iff_fdiv : block ∈ blocks offset length blockSize ↔
    Int.fdiv offset blockSize ≤ block ∧ block ≤ Int.fdiv (offset + length - 1) blockSize := by
  rw [blocks, Int.mem_range_iff, Int.lt_add_one_iff]

theorem mem_blocks (positive : 0 < blockSize) (nonempty : 0 < length) :
    block ∈ blocks offset length blockSize ↔ Overlaps offset length blockSize block := by
  rw [mem_blocks_iff_fdiv, Int.fdiv_eq_ediv_of_nonneg _ positive.le,
    Int.fdiv_eq_ediv_of_nonneg _ positive.le]
  unfold Overlaps
  constructor
  · rintro ⟨first, last⟩
    rw [Int.le_ediv_iff_mul_le positive] at last
    rw [← Int.lt_add_one_iff, Int.ediv_lt_iff_lt_mul positive] at first
    refine ⟨max offset (block * blockSize), ⟨le_max_left _ _, max_lt (by omega) (by omega)⟩,
      le_max_right _ _, max_lt first ?_⟩
    rw [Int.add_mul]
    omega
  · rintro ⟨byte, ⟨above, below⟩, first, last⟩
    rw [Int.le_ediv_iff_mul_le positive, ← Int.lt_add_one_iff (b := block),
      Int.ediv_lt_iff_lt_mul positive]
    omega

end BlockRange
end HermOS
