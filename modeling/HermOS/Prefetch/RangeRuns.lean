import HermOS.Library.Runs
import HermOS.Prefetch.Tiers

/-!
# The rows of an ordered list

`range_rows` turns a list of blocks, in whatever order they are ranked, into ranges.  Its open range
and the blocks still to be read are together the list which is cut: a row is written where the list
has to be cut, so that the rows are its longest runs of consecutive blocks.
-/

namespace HermOS
namespace Prefetch

/-- `StartPage`, `StartPage + 1`, and so on to `EndPage`. -/
def RangeRow.pages (row : RangeRow) : List ℤ :=
  Int.range row.startPage (row.endPage + 1)

/-- The test of the loop. -/
def consecutive (block next : ℤ) : Bool :=
  next == block + 1

theorem getElem_range {start stop : ℤ} {index : ℕ}
    (inside : index < (Int.range start stop).length) :
    (Int.range start stop)[index] = start + index := by
  simp [Int.range]

theorem chain_range (start stop : ℤ) :
    (Int.range start stop).IsChain fun block next => consecutive block next := by
  rw [List.isChain_iff_getElem]
  intro index inside
  rw [getElem_range, getElem_range, consecutive, beq_iff_eq]
  push_cast
  omega

theorem range_ne_nil {start prev : ℤ} (ordered : start ≤ prev) :
    Int.range start (prev + 1) ≠ [] := by
  rw [range_succ ordered]
  exact List.append_ne_nil_of_right_ne_nil _ (List.cons_ne_nil _ _)

theorem getLast?_range {start prev : ℤ} (ordered : start ≤ prev) :
    (Int.range start (prev + 1)).getLast? = some prev := by
  rw [range_succ ordered, List.getLast?_concat]

theorem head?_range {start prev : ℤ} (ordered : start ≤ prev) :
    (Int.range start (prev + 1)).head? = some start := by
  have inside : 0 < (Int.range start (prev + 1)).length :=
    List.length_pos_of_ne_nil (range_ne_nil ordered)
  rw [List.head?_eq_getElem?, List.getElem?_eq_getElem inside, getElem_range]
  simp

/-! ### The loop -/

/-- The open range comes before the blocks which are still to be read. -/
theorem pages_rangeRowsFrom (driveId : String) {start prev : ℤ} (ordered : start ≤ prev)
    (blocks : List ℤ) : (rangeRowsFrom driveId start prev blocks).map RangeRow.pages =
      (Int.range start (prev + 1) ++ blocks).splitBy consecutive := by
  induction blocks generalizing start prev with
  | nil =>
      rw [List.append_nil,
        List.splitBy_of_isChain (range_ne_nil ordered) (chain_range start (prev + 1))]
      rfl
  | cons block blocks ih =>
      rw [rangeRowsFrom]
      split
      next next_block =>
        have longer : start ≤ block := by omega
        rw [ih longer, range_succ (by omega), next_block, List.append_assoc]
        rfl
      next breaks =>
        have apart : ∀ last ∈ (Int.range start (prev + 1)).getLast?,
            consecutive last block = false := by
          intro last found
          rw [getLast?_range ordered] at found
          obtain rfl := Option.some.inj found
          exact beq_false_of_ne breaks
        have later := ih (le_refl block)
        rw [range_singleton, List.singleton_append] at later
        rw [List.map_cons, later, List.splitBy_append_cons blocks apart,
          List.splitBy_of_isChain (range_ne_nil ordered) (chain_range start (prev + 1))]
        rfl

/-- The rows are the longest runs of consecutive blocks. -/
theorem pages_rangeRows (driveId : String) (ordered : List ℤ) :
    (rangeRows driveId ordered).map RangeRow.pages = ordered.splitBy consecutive := by
  cases ordered with
  | nil => rfl
  | cons first blocks =>
      rw [rangeRows, pages_rangeRowsFrom driveId (le_refl first), range_singleton]
      rfl

theorem rangeRowsFrom_ordered (driveId : String) {start prev : ℤ} (ordered : start ≤ prev)
    (blocks : List ℤ) : ∀ row ∈ rangeRowsFrom driveId start prev blocks,
      row.driveId = driveId ∧ row.startPage ≤ row.endPage := by
  induction blocks generalizing start prev with
  | nil =>
      rw [rangeRowsFrom, List.forall_mem_singleton]
      exact ⟨rfl, ordered⟩
  | cons block blocks ih =>
      rw [rangeRowsFrom]
      split
      next => exact ih (by omega)
      next =>
        rw [List.forall_mem_cons]
        exact ⟨⟨rfl, ordered⟩, ih (le_refl block)⟩

theorem rangeRows_ordered (driveId : String) (ordered : List ℤ) :
    ∀ row ∈ rangeRows driveId ordered, row.driveId = driveId ∧ row.startPage ≤ row.endPage := by
  cases ordered with
  | nil => simp [rangeRows]
  | cons first blocks => exact rangeRowsFrom_ordered driveId (le_refl first) blocks

/-- No row continues the row before it. -/
theorem rangeRows_apart (driveId : String) (ordered : List ℤ) :
    (rangeRows driveId ordered).IsChain fun row next => next.startPage ≠ row.endPage + 1 := by
  have borders := List.isChain_getLast_head_splitBy consecutive ordered
  rw [← pages_rangeRows driveId, List.isChain_map] at borders
  refine borders.imp_of_mem_imp fun row next inside inside' apart => ?_
  obtain ⟨some_page, some_next, unrelated⟩ := apart
  have last : row.pages.getLast? = some row.endPage :=
    getLast?_range (rangeRows_ordered driveId ordered row inside).2
  have first : next.pages.head? = some next.startPage :=
    head?_range (rangeRows_ordered driveId ordered next inside').2
  rw [List.getLast?_eq_some_getLast some_page] at last
  rw [List.head?_eq_some_head some_next] at first
  rw [Option.some.inj last, Option.some.inj first] at unrelated
  exact ne_of_beq_false unrelated

/-- The rows give the blocks back in their order, each of them is a range, no two neighbours could
be one, and no cut of the blocks into runs of consecutive numbers has fewer pieces. -/
theorem rangeRows_exact (driveId : String) (ordered : List ℤ) :
    (rangeRows driveId ordered).flatMap RangeRow.pages = ordered ∧
      (∀ row ∈ rangeRows driveId ordered,
        row.driveId = driveId ∧ row.startPage ≤ row.endPage) ∧
      ((rangeRows driveId ordered).IsChain fun row next => next.startPage ≠ row.endPage + 1) ∧
      IsLeast {count | ∃ runs : List (List ℤ), runs.flatten = ordered ∧
          (∀ run ∈ runs, run ≠ [] ∧ run.IsChain fun block next => next = block + 1) ∧
          runs.length = count} (rangeRows driveId ordered).length := by
  have split := pages_rangeRows driveId ordered
  refine ⟨?_, rangeRows_ordered driveId ordered, rangeRows_apart driveId ordered, ?_⟩
  · rw [List.flatMap_def, split, List.flatten_splitBy]
  · have least := Runs.isLeast_length_splitBy consecutive ordered
    rw [← split, List.length_map] at least
    convert least using 1
    ext count
    constructor
    · rintro ⟨runs, whole, pieces, rfl⟩
      refine ⟨runs, ⟨whole, fun run inside => (pieces run inside).1, fun run inside => ?_⟩, rfl⟩
      simpa [consecutive] using (pieces run inside).2
    · rintro ⟨runs, cuts, rfl⟩
      refine ⟨runs, cuts.flatten, fun run inside => ⟨cuts.nonempty run inside, ?_⟩, rfl⟩
      simpa [consecutive] using cuts.chain run inside

end Prefetch
end HermOS
