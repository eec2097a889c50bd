import HermOS.Library.BlockRange
import HermOS.Library.PythonText
import HermOS.Prefetch.Tiers

/-!
# Blocks of a recorded read

`build_prefetch_set.py` takes one block of a row of `block_phased.csv`, and `analyze_common.py`
takes all blocks which the bytes of the row overlap.  They agree on the rows which do not cross into
a second block.
-/

namespace HermOS
namespace Prefetch

/-- A row of `block_phased.csv` with its length. -/
structure PhasedRow extends Row where
  length : String

/-- `block_id` of `analyze_common.py`. -/
def blockId (row : PhasedRow) (blockSize : ℤ) : Except Failure (List Python.Text) :=
  match Python.int row.offset.toList, Python.int row.length.toList with
  | some offset, some length =>
      let start := Int.fdiv offset blockSize
      let stop := Int.fdiv (offset + length - 1) blockSize
      .ok ((Int.range start (stop + 1)).map Python.str)
  | _, _ => .error .valueError

/-- The row was collected with some block size. -/
structure CollectedRow (row : PhasedRow) (collection offset length : ℤ) : Prop where
  offset_read : Python.int row.offset.toList = some offset
  length_read : Python.int row.length.toList = some length
  offset_multiple : collection ∣ offset
  length_multiple : collection ∣ length
  nonempty : 0 < length

/-- Both analysers attribute the blocks which the bytes of the row overlap, and a range file with
the block of the row has all its bytes. -/
structure Agrees (row : PhasedRow) (blockSize offset length : ℤ) : Prop where
  same : ∃ block ids, blockFromRow row.toRow blockSize = .ok block ∧
    blockId row blockSize = .ok ids ∧ ∀ id, id ∈ ids ↔ id = Python.str block
  overlapping : ∀ block, blockFromRow row.toRow blockSize = .ok block →
    ∀ other, BlockRange.Overlaps offset length blockSize other ↔ other = block
  covered : ∀ block, blockFromRow row.toRow blockSize = .ok block →
    ∀ ranges, (row.driveId, block) ∈ expand ranges →
      ∀ byte, offset ≤ byte → byte < offset + length →
        ∃ range ∈ ranges, range.driveId = row.driveId ∧
          range.startPage * blockSize ≤ byte ∧ byte < (range.endPage + 1) * blockSize

/-- The bytes of the row end in the block in which they start. -/
def Fits (blockSize offset length : ℤ) : Prop :=
  offset % blockSize + length ≤ blockSize

variable {row : PhasedRow} {collection blockSize offset length : ℤ}

/-- The first and the last byte of a row are in the same block. -/
theorem fdiv_last (positive : 0 < blockSize) (nonempty : 0 < length) :
    Int.fdiv (offset + length - 1) blockSize = Int.fdiv offset blockSize ↔
      Fits blockSize offset length := by
  rw [Int.fdiv_eq_ediv_of_nonneg _ positive.le, Int.fdiv_eq_ediv_of_nonneg _ positive.le, Fits]
  have split := Int.emod_add_mul_ediv offset blockSize
  have start := Int.emod_nonneg offset positive.ne'
  have last : offset + length - 1 =
      (offset % blockSize + length - 1) + blockSize * (offset / blockSize) := by omega
  rw [last, Int.add_mul_ediv_left _ _ positive.ne', add_eq_right]
  constructor
  · intro first_block
    have bound := Int.lt_ediv_add_one_mul_self (offset % blockSize + length - 1) positive
    rw [first_block] at bound
    omega
  · intro fits
    exact Int.ediv_eq_zero_of_lt (by omega) (by omega)

theorem blockFromRow_eq (collected : CollectedRow row collection offset length) :
    blockFromRow row.toRow blockSize = .ok (Int.fdiv offset blockSize) := by
  rw [blockFromRow, collected.offset_read]

theorem blockId_eq (collected : CollectedRow row collection offset length) :
    blockId row blockSize = .ok ((BlockRange.blocks offset length blockSize).map Python.str) := by
  rw [blockId, collected.offset_read, collected.length_read]
  rfl

theorem mem_expand {ranges : List RangeRow} {driveId : String} {block : ℤ} :
    (driveId, block) ∈ expand ranges ↔ ∃ range ∈ ranges, range.driveId = driveId ∧
      range.startPage ≤ block ∧ block ≤ range.endPage := by
  simp only [expand, RangeRow.expand, List.mem_flatMap, List.mem_map, Int.mem_range_iff,
    Int.lt_add_one_iff, Prod.mk.injEq]
  constructor
  · rintro ⟨range, inside, _, bounds, drive, rfl⟩
    exact ⟨range, inside, drive, bounds⟩
  · rintro ⟨range, inside, drive, bounds⟩
    exact ⟨range, inside, block, bounds, drive, rfl⟩

/-- A range with the only block of the row has all bytes of the row. -/
theorem covered_of_overlapping {block : ℤ} (positive : 0 < blockSize)
    (overlapping : ∀ other, BlockRange.Overlaps offset length blockSize other ↔ other = block)
    {driveId : String} {ranges : List RangeRow} (inside : (driveId, block) ∈ expand ranges)
    {byte : ℤ} (above : offset ≤ byte) (below : byte < offset + length) :
    ∃ range ∈ ranges, range.driveId = driveId ∧
      range.startPage * blockSize ≤ byte ∧ byte < (range.endPage + 1) * blockSize := by
  obtain ⟨range, listed, drive, start, stop⟩ := mem_expand.mp inside
  -- The block of the byte overlaps the row, so it is the block in the range.
  have low := Int.ediv_mul_le byte positive.ne'
  have high := Int.lt_ediv_add_one_mul_self byte positive
  have same : byte / blockSize = block :=
    (overlapping _).mp ⟨byte, ⟨above, below⟩, low, high⟩
  rw [same] at low high
  refine ⟨range, listed, drive, (Int.mul_le_mul_of_nonneg_right start positive.le).trans low, ?_⟩
  exact high.trans_le (Int.mul_le_mul_of_nonneg_right (by omega) positive.le)

/-- The two analysers agree on a row exactly if it ends in the block in which it starts. -/
theorem agrees_iff (positive : 0 < blockSize)
    (collected : CollectedRow row collection offset length) :
    Agrees row blockSize offset length ↔ Fits blockSize offset length := by
  rw [← fdiv_last positive collected.nonempty]
  constructor
  · rintro ⟨⟨block, ids, derived, attributed, same⟩, _, _⟩
    rw [blockFromRow_eq collected] at derived
    rw [blockId_eq collected] at attributed
    cases derived
    cases attributed
    have ordered : Int.fdiv offset blockSize ≤ Int.fdiv (offset + length - 1) blockSize := by
      have nonempty := collected.nonempty
      rw [Int.fdiv_eq_ediv_of_nonneg _ positive.le, Int.fdiv_eq_ediv_of_nonneg _ positive.le]
      exact Int.ediv_le_ediv positive (by omega)
    have last : Int.fdiv (offset + length - 1) blockSize ∈
        BlockRange.blocks offset length blockSize :=
      BlockRange.mem_blocks_iff_fdiv.mpr ⟨ordered, le_rfl⟩
    exact Python.str_injective ((same _).mp (List.mem_map_of_mem last))
  · intro one_block
    have overlapping : ∀ other, BlockRange.Overlaps offset length blockSize other ↔
        other = Int.fdiv offset blockSize := by
      intro other
      rw [← BlockRange.mem_blocks positive collected.nonempty, BlockRange.mem_blocks_iff_fdiv,
        one_block]
      exact ⟨fun both => le_antisymm both.2 both.1, fun same => ⟨same.ge, same.le⟩⟩
    refine ⟨⟨_, _, blockFromRow_eq collected, blockId_eq collected, fun id => ?_⟩, ?_, ?_⟩
    · rw [List.mem_map]
      constructor
      · rintro ⟨block, listed, rfl⟩
        rw [(overlapping block).mp ((BlockRange.mem_blocks positive collected.nonempty).mp listed)]
      · rintro rfl
        exact ⟨_, (BlockRange.mem_blocks positive collected.nonempty).mpr ((overlapping _).mpr rfl),
          rfl⟩
    · intro block derived
      rw [blockFromRow_eq collected] at derived
      cases derived
      exact overlapping
    · intro block derived ranges inside byte above below
      rw [blockFromRow_eq collected] at derived
      cases derived
      exact covered_of_overlapping positive overlapping inside above below

/-- A row of one collected block fits if the block size is a multiple of the collected one. -/
theorem fits_of_dvd (positive : 0 < blockSize)
    (collected : CollectedRow row collection offset length)
    (one : length = collection) (multiple : collection ∣ blockSize) :
    Fits blockSize offset length := by
  have nonempty := collected.nonempty
  obtain ⟨blocks, rfl⟩ := multiple
  obtain ⟨place, within⟩ : collection ∣ offset % (collection * blocks) :=
    Int.dvd_of_emod_eq_zero (by
      rw [Int.emod_emod_of_dvd _ (Int.dvd_mul_right collection blocks)]
      exact Int.emod_eq_zero_of_dvd collected.offset_multiple)
  have below := Int.emod_lt_of_pos offset positive
  rw [Fits, within, one] at *
  have less : place < blocks := Int.lt_of_mul_lt_mul_left below (by omega)
  calc
    collection * place + collection = collection * (place + 1) := by rw [Int.mul_add, Int.mul_one]
    _ ≤ collection * blocks := Int.mul_le_mul_of_nonneg_left less (by omega)

/-- Two pages collected as one block. -/
def wideRow : PhasedRow where
  taskId := "task-1"
  runId := "run-1"
  phase := "workload"
  driveId := "rootfs"
  offset := "8192"
  length := "8192"

theorem collected_wideRow : CollectedRow wideRow 8192 8192 8192 where
  offset_read := by decide
  length_read := by decide
  offset_multiple := Int.dvd_refl 8192
  length_multiple := Int.dvd_refl 8192
  nonempty := by decide

theorem agrees_wideRow : Agrees wideRow 8192 8192 8192 :=
  (agrees_iff (by decide) collected_wideRow).mpr (by unfold Fits; decide)

/-- With pages of the usual size, the second page is attributed by one analyser only. -/
theorem wideRow_disagrees :
    CollectedRow wideRow 8192 8192 8192 ∧ ¬ Agrees wideRow 4096 8192 8192 := by
  refine ⟨collected_wideRow, ?_⟩
  rintro ⟨⟨block, ids, derived, attributed, same⟩, _, _⟩
  rw [blockFromRow_eq collected_wideRow] at derived
  rw [blockId_eq collected_wideRow] at attributed
  cases derived
  cases attributed
  have second : Python.str 3 ∈ (BlockRange.blocks 8192 8192 4096).map Python.str :=
    List.mem_map_of_mem (by decide)
  have equal := Python.str_injective ((same _).mp second)
  revert equal
  decide

end Prefetch
end HermOS
