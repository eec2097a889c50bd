import HermOS.Prefetch.Tiers
import Mathlib.Algebra.Order.Field.Basic
import Mathlib.Algebra.Order.Field.Rat
import Mathlib.Order.Interval.Set.Basic

/-!
# Statistics of the blocks of past runs

What `block_stats` computes of the matching rows: in how many runs each block is hit, and how many
other blocks each of these runs has hit before.  The rows of one run matter in their order, and the
rows of different runs do not matter to each other.
-/

namespace HermOS
namespace Prefetch

variable {blockSize : ℤ}

/-! ### Ranks within a run -/

/-- The block which a row hits. -/
def blockOf (blockSize : ℤ) (row : Row) : Option ℤ :=
  (blockFromRow row blockSize).toOption

/-- The distinct blocks which some rows hit. -/
def hits (blockSize : ℤ) (rows : List Row) : Finset ℤ :=
  (rows.filterMap (blockOf blockSize)).toFinset

/-- How many distinct blocks the rows hit before they first hit the block. -/
def rankIn (blockSize : ℤ) (rows : List Row) (block : ℤ) : ℕ :=
  (hits blockSize (rows.takeWhile fun row => ¬ Reads blockSize block row)).card

theorem blockOf_iff {row : Row} {block : ℤ} :
    blockOf blockSize row = some block ↔ Reads blockSize block row := by
  unfold blockOf Reads
  cases blockFromRow row blockSize with
  | error => simp [Except.toOption]
  | ok => simp [Except.toOption]

theorem mem_hits {rows : List Row} {block : ℤ} :
    block ∈ hits blockSize rows ↔ ∃ row ∈ rows, Reads blockSize block row := by
  simp only [hits, List.mem_toFinset, List.mem_filterMap, blockOf_iff]

theorem hits_concat {rows : List Row} {row : Row} {block : ℤ} (reads : Reads blockSize block row) :
    hits blockSize (rows ++ [row]) = insert block (hits blockSize rows) := by
  ext other
  have only := Reads.only reads other
  simp only [mem_hits, Finset.mem_insert, List.mem_append, List.mem_singleton, or_and_right,
    exists_or, exists_eq_left, only, or_comm]

/-- Later rows do not change the rank of a block which was hit. -/
theorem rankIn_append {rows : List Row} {block : ℤ} (hit : block ∈ hits blockSize rows)
    (later : List Row) : rankIn blockSize (rows ++ later) block = rankIn blockSize rows block := by
  obtain ⟨row, inside, reads⟩ := mem_hits.mp hit
  have short : (rows.takeWhile fun row => ¬ Reads blockSize block row).length ≠ rows.length := by
    intro whole
    have all := @List.all_takeWhile _ (fun row => decide ¬ Reads blockSize block row) rows
    rw [(List.takeWhile_prefix _).eq_of_length whole] at all
    exact of_decide_eq_true (List.all_eq_true.mp all row inside) reads
  rw [rankIn, List.takeWhile_append, if_neg short, rankIn]

theorem rankIn_fresh {rows : List Row} {row : Row} {block : ℤ} (fresh : block ∉ hits blockSize rows)
    (reads : Reads blockSize block row) :
    rankIn blockSize (rows ++ [row]) block = (hits blockSize rows).card := by
  have others : ∀ other ∈ rows, decide (¬ Reads blockSize block other) = true := by
    intro other inside
    exact decide_eq_true fun same => fresh (mem_hits.mpr ⟨other, inside, same⟩)
  rw [rankIn, List.takeWhile_append_of_pos others, List.takeWhile_cons,
    if_neg (by simpa using reads), List.append_nil]

/-- The ranks of the blocks which are hit are the numbers below their number. -/
theorem image_rankIn {rows : List Row} (parses : ∀ row ∈ rows, ∃ block, Reads blockSize block row) :
    (hits blockSize rows).image (rankIn blockSize rows) =
      Finset.range (hits blockSize rows).card := by
  induction rows using List.reverseRecOn with
  | nil => rfl
  | append_singleton rows row ih =>
      have before := ih fun row inside => parses row (List.mem_append_left _ inside)
      obtain ⟨block, reads⟩ := parses row (List.mem_append_right _ (List.mem_singleton_self row))
      have same : (hits blockSize rows).image (rankIn blockSize (rows ++ [row])) =
          Finset.range (hits blockSize rows).card := by
        rw [← before]
        exact Finset.image_congr fun other hit => rankIn_append hit [row]
      rw [hits_concat reads]
      by_cases known : block ∈ hits blockSize rows
      · rwa [Finset.insert_eq_of_mem known]
      · rw [Finset.image_insert, same, rankIn_fresh known reads, Finset.card_insert_of_notMem known,
          Finset.range_add_one]

/-! ### The loop -/

def runRows (rows : List Row) (runKey : RunKey) : List Row :=
  rows.filter (rowRunKey · = runKey)

/-- How many distinct blocks a run hits before it first hits the block. -/
def firstRank (rows : List Row) (blockSize : ℤ) (runKey : RunKey) (block : ℤ) : ℕ :=
  rankIn blockSize (runRows rows runKey) block

theorem runRows_concat (rows : List Row) (row : Row) (runKey : RunKey) :
    runRows (rows ++ [row]) runKey =
      runRows rows runKey ++ if rowRunKey row = runKey then [row] else [] := by
  rw [runRows, List.filter_append]
  by_cases same : rowRunKey row = runKey <;> simp [runRows, same]

theorem mem_hits_runRows {rows : List Row} {runKey : RunKey} {block : ℤ} :
    block ∈ hits blockSize (runRows rows runKey) ↔
      ∃ row ∈ rows, rowRunKey row = runKey ∧ Reads blockSize block row := by
  simp only [mem_hits, runRows, List.mem_filter, decide_eq_true_eq, and_assoc]

theorem firstRank_concat {rows : List Row} {runKey : RunKey} {block : ℤ}
    (hit : block ∈ hits blockSize (runRows rows runKey)) (row : Row) :
    firstRank (rows ++ [row]) blockSize runKey block = firstRank rows blockSize runKey block := by
  rw [firstRank, runRows_concat, rankIn_append hit, firstRank]

/-- What `block_stats` knows of the ranks in the rows visited so far. -/
structure Ranked (blockSize : ℤ) (visited : List Row) (scan : Scan) : Prop
    extends Scanned blockSize visited scan where
  seen_nodup : ∀ runKey, (scan.seenByRun runKey).Nodup
  rank : ∀ runKey, scan.ranksByRun runKey = (scan.seenByRun runKey).length
  ranks : ∀ block, (scan.ranksByBlock block).Perm
    ((scan.runsByBlock block).map (firstRank visited blockSize · block))

theorem ranked_empty (blockSize : ℤ) : Ranked blockSize [] .empty where
  toScanned := scanned_empty blockSize
  seen_nodup _ := List.nodup_nil
  rank _ := rfl
  ranks _ := List.Perm.refl []

theorem Ranked.seen_hits {visited : List Row} {scan : Scan} (ranked : Ranked blockSize visited scan)
    (runKey : RunKey) :
    (scan.seenByRun runKey).toFinset = hits blockSize (runRows visited runKey) := by
  ext block
  rw [List.mem_toFinset, ranked.seen, mem_hits_runRows]

theorem Ranked.visit {visited : List Row} {scan : Scan} {row : Row} {block : ℤ}
    (ranked : Ranked blockSize visited scan) (reads : Reads blockSize block row) :
    Ranked blockSize (visited ++ [row]) (scan.visit (rowRunKey row) block) := by
  have old : ∀ other,
      ((scan.runsByBlock other).map (firstRank (visited ++ [row]) blockSize · other)) =
      (scan.runsByBlock other).map (firstRank visited blockSize · other) := by
    intro other
    refine List.map_congr_left fun runKey inside => firstRank_concat ?_ row
    rw [mem_hits_runRows]
    exact (ranked.runs runKey other).mp inside
  have scanned := ranked.toScanned.visit reads
  by_cases known : block ∈ scan.seenByRun (rowRunKey row)
  · rw [Scan.visit, if_pos known] at scanned ⊢
    exact ⟨scanned, ranked.seen_nodup, ranked.rank, fun other => old other ▸ ranked.ranks other⟩
  · rw [Scan.visit, if_neg known] at scanned ⊢
    have fresh_run : rowRunKey row ∉ scan.runsByBlock block := by
      rw [ranked.runs, ← ranked.seen]
      exact known
    have fresh : block ∉ hits blockSize (runRows visited (rowRunKey row)) := by
      rw [← ranked.seen_hits, List.mem_toFinset]
      exact known
    refine ⟨scanned, fun runKey => ?_, fun runKey => ?_, fun other => ?_⟩
    · rcases eq_or_ne runKey (rowRunKey row) with rfl | apart
      · simp only [Function.update_self]
        exact (ranked.seen_nodup _).insert
      · simp only [Function.update_of_ne apart]
        exact ranked.seen_nodup runKey
    · rcases eq_or_ne runKey (rowRunKey row) with rfl | apart
      · simp only [Function.update_self]
        rw [List.insert_of_not_mem known, List.length_cons, ranked.rank]
      · simp only [Function.update_of_ne apart]
        exact ranked.rank runKey
    · rcases eq_or_ne other block with rfl | apart
      · simp only [Function.update_self]
        have rank : firstRank (visited ++ [row]) blockSize (rowRunKey row) other =
            scan.ranksByRun (rowRunKey row) := by
          rw [firstRank, runRows_concat, if_pos rfl, rankIn_fresh fresh reads, ranked.rank,
            ← ranked.seen_hits, List.toFinset_card_of_nodup (ranked.seen_nodup _)]
        rw [List.insert_of_not_mem fresh_run, List.map_cons, rank, old]
        exact (List.perm_append_singleton _ _).trans ((ranked.ranks other).cons _)
      · simp only [Function.update_of_ne apart]
        exact old other ▸ ranked.ranks other

/-- The body of the loop of `block_stats`. -/
def scanRow (blockSize : ℤ) (scan : Scan) (row : Row) : Except Failure Scan := do
  let block ← blockFromRow row blockSize
  return scan.visit (rowRunKey row) block

/-- The loop of `block_stats`. -/
def scanRows (rows : List Row) (blockSize : ℤ) : Except Failure Scan :=
  rows.foldlM (scanRow blockSize) .empty

theorem scanRow_reads {scan : Scan} {row : Row} {block : ℤ} (reads : Reads blockSize block row) :
    scanRow blockSize scan row = .ok (scan.visit (rowRunKey row) block) := by
  rw [scanRow, reads]
  rfl

theorem scanRows_ranked {rows : List Row} {scan : Scan}
    (ended : scanRows rows blockSize = .ok scan) :
    Ranked blockSize rows scan := by
  refine FallibleFold.invariant (Ranked blockSize) ?_ (ranked_empty blockSize) ended
  intro past row rest state after _ ranked step
  obtain ⟨block, reads, step⟩ := FallibleFold.bind_ok step
  cases step
  exact ranked.visit reads

/-- The loop ends if and only if each offset is a number. -/
theorem scanRows_ends {rows : List Row} : (∃ scan, scanRows rows blockSize = .ok scan) ↔
    ∀ row ∈ rows, ∃ block, Reads blockSize block row := by
  constructor
  · rintro ⟨scan, ended⟩
    refine FallibleFold.invariant (fun visited _ => ∀ row ∈ visited, ∃ block,
      Reads blockSize block row) ?_ (by simp) ended
    intro past row rest state after _ parses step
    obtain ⟨block, reads, _⟩ := FallibleFold.bind_ok step
    exact List.forall_mem_append.mpr ⟨parses, List.forall_mem_singleton.mpr ⟨block, reads⟩⟩
  · intro parses
    refine FallibleFold.ends (fun scan row inside => ?_) Scan.empty
    obtain ⟨block, reads⟩ := parses row inside
    exact ⟨_, scanRow_reads reads⟩

/-! ### The statistics -/

/-- The value at or above the lower middle of the values, and no later. -/
structure LowerMedian (values : List ℕ) (value : ℕ) : Prop where
  listed : value ∈ values
  below : values.countP (· < value) ≤ (values.length - 1) / 2
  reached : (values.length - 1) / 2 < values.countP (· ≤ value)

theorem sorted_mergeSort (values : List ℕ) : values.mergeSort.Pairwise (· ≤ ·) :=
  (List.pairwise_mergeSort (by simpa using fun a b c => le_trans) (by simpa using le_total)
    values).imp of_decide_eq_true

/-- Below a place of an ordered list stand no more values than the place counts. -/
theorem countP_lt_getElem {ordered : List ℕ} (sorted : ordered.Pairwise (· ≤ ·)) {place : ℕ}
    (inside : place < ordered.length) : ordered.countP (· < ordered[place]) ≤ place := by
  have late : (ordered.drop place).countP (· < ordered[place]) = 0 := by
    refine List.countP_eq_zero.mpr fun value member => ?_
    obtain ⟨index, bound, rfl⟩ := List.mem_iff_getElem.mp member
    rw [List.length_drop] at bound
    rw [List.getElem_drop, decide_eq_true_iff, not_lt]
    rcases Nat.eq_zero_or_pos index with rfl | positive
    · exact le_rfl
    · exact List.pairwise_iff_getElem.mp sorted place (place + index) inside (by omega) (by omega)
  calc
    ordered.countP (· < ordered[place]) =
        (ordered.take place).countP (· < ordered[place]) +
          (ordered.drop place).countP (· < ordered[place]) := by
      rw [← List.countP_append, List.take_append_drop]
    _ ≤ (ordered.take place).length := by
      rw [late]
      exact List.countP_le_length
    _ ≤ place := List.length_take_le _ _

theorem lt_countP_le_getElem {ordered : List ℕ} (sorted : ordered.Pairwise (· ≤ ·)) {place : ℕ}
    (inside : place < ordered.length) : place < ordered.countP (· ≤ ordered[place]) := by
  have early : (ordered.take (place + 1)).countP (· ≤ ordered[place]) = place + 1 := by
    have length : (ordered.take (place + 1)).length = place + 1 := by
      rw [List.length_take]
      omega
    refine (List.countP_eq_length.mpr fun value member => ?_).trans length
    obtain ⟨index, bound, rfl⟩ := List.mem_iff_getElem.mp member
    rw [length] at bound
    rw [List.getElem_take, decide_eq_true_iff]
    rcases Nat.eq_or_lt_of_le (Nat.le_of_lt_succ bound) with rfl | less
    · exact le_rfl
    · exact List.pairwise_iff_getElem.mp sorted index place (by omega) inside less
  calc
    place < (ordered.take (place + 1)).countP (· ≤ ordered[place]) := by omega
    _ ≤ ordered.countP (· ≤ ordered[place]) := (List.take_sublist _ _).countP_le

theorem lowerMedian_median {values : List ℕ} (nonempty : values ≠ []) :
    LowerMedian values (median values) := by
  have perm := List.mergeSort_perm values (· ≤ ·)
  have length := perm.length_eq
  have positive : 0 < values.length := List.length_pos_of_ne_nil nonempty
  have place : (values.length - 1) / 2 < values.mergeSort.length := by omega
  have value : median values = values.mergeSort[(values.length - 1) / 2] := by
    rw [median, percentile]
    simp only [Nat.mul_one, length]
    rw [List.getD_eq_getElem?_getD, List.getElem?_eq_getElem place, Option.getD_some]
  rw [value]
  refine ⟨perm.mem_iff.mp (List.getElem_mem place), ?_, ?_⟩
  · rw [← perm.countP_eq]
    exact countP_lt_getElem (sorted_mergeSort values) place
  · rw [← perm.countP_eq]
    exact lt_countP_le_getElem (sorted_mergeSort values) place

/-- A percentile depends on the values only. -/
theorem percentile_perm {values others : List ℕ} (perm : values.Perm others)
    (numerator denominator : ℕ) :
    percentile values numerator denominator = percentile others numerator denominator := by
  have same : values.mergeSort = others.mergeSort :=
    List.Perm.eq_of_pairwise (fun _ _ _ _ => Nat.le_antisymm) (sorted_mergeSort values)
      (sorted_mergeSort others) ((List.mergeSort_perm values _).trans
        (perm.trans (List.mergeSort_perm others _).symm))
  rw [percentile, percentile, same]

section Reference

variable {Number : Type} (ops : FloatOps Number)

/-- What the matching rows say about each block. -/
structure Reference (matching : List Row) (blockSize : ℤ) (scan : Scan) (stats : Stats Number) :
    Prop where
  keys_nodup : stats.blocks.Nodup
  keys : ∀ block, block ∈ stats.blocks ↔ ∃ row ∈ matching, Reads blockSize block row
  /-- The share of the runs which hit the block. -/
  frequency : ∀ block ∈ stats.blocks,
    (stats.get block).frequency =
      ops.ratio (readers matching blockSize block).card (runKeys matching).card ∧
    ((readers matching blockSize block).card / (runKeys matching).card : ℚ) ∈ Set.Ioc 0 1
  /-- One rank for each run which hits the block. -/
  ranks : ∀ block, (scan.ranksByBlock block : Multiset ℕ) =
    (readers matching blockSize block).val.map (firstRank matching blockSize · block)
  ranks_run : ∀ runKey,
    (hits blockSize (runRows matching runKey)).image (firstRank matching blockSize runKey) =
      Finset.range (hits blockSize (runRows matching runKey)).card
  median : ∀ block ∈ stats.blocks,
    LowerMedian (scan.ranksByBlock block) (stats.get block).medianRank

/-- The row's block was hit before in the same run, by a row of the same selection. -/
def HitBefore (blockSize : ℤ) (instanceId : String) (scope : Scope) (phase : Phase)
    (driveId : String) (before : List Row) (row : Row) : Prop :=
  ∃ block, Reads blockSize block row ∧
    ∃ earlier ∈ matchingRows before instanceId scope phase driveId,
      rowRunKey earlier = rowRunKey row ∧ Reads blockSize block earlier

/-- The same rows, where those of each run are in the same order. -/
structure RunOrders (rows others : List Row) : Prop where
  perm : rows.Perm others
  runs : ∀ runKey, runRows rows runKey = runRows others runKey

/-- The same statistics of the same blocks, or the same exception. -/
def SameResult : Except Failure (Stats Number) → Except Failure (Stats Number) → Prop
  | .ok stats, .ok others => ∀ block, stats.find? block = others.find? block
  | .error failure, .error other => failure = other
  | _, _ => False

variable {rows : List Row} {instanceId : String} {scope : Scope} {phase : Phase} {driveId : String}

/-- The statistics, from the state after the loop. -/
def statsOf (matching : List Row) (scan : Scan) : Stats Number where
  blocks := scan.blocks
  get block :=
    ⟨ops.ratio (scan.runsByBlock block).length (matching.map rowRunKey).dedup.length,
      median (scan.ranksByBlock block), p90 (scan.ranksByBlock block)⟩

theorem blockStats_eq (nonempty : matchingRows rows instanceId scope phase driveId ≠ []) :
    blockStats ops rows blockSize instanceId scope phase driveId = (do
      let scan ← scanRows (matchingRows rows instanceId scope phase driveId) blockSize
      return statsOf ops (matchingRows rows instanceId scope phase driveId) scan) := by
  have positive : ((matchingRows rows instanceId scope phase driveId).map rowRunKey).dedup.length ≠
      0 := by
    rw [Ne, List.length_eq_zero_iff, List.dedup_eq_nil, List.map_eq_nil_iff]
    exact nonempty
  rw [blockStats, if_neg positive]
  rfl

variable (blockSize) in
theorem blockStats_nil (none : matchingRows rows instanceId scope phase driveId = []) :
    ∃ stats : Stats Number, stats.blocks = [] ∧
      blockStats ops rows blockSize instanceId scope phase driveId = .ok stats := by
  refine ⟨⟨[], fun _ => ⟨ops.zero, maxSize, maxSize⟩⟩, rfl, ?_⟩
  rw [blockStats, none]
  rfl

theorem card_runKeys (matching : List Row) :
    (runKeys matching).card = (matching.map rowRunKey).dedup.length := by
  rw [runKeys, List.card_toFinset]

theorem runKeys_mono {some_rows rows : List Row} (inside : some_rows ⊆ rows) :
    runKeys some_rows ⊆ runKeys rows := fun _ member =>
  List.mem_toFinset.mpr (List.map_subset _ inside (List.mem_toFinset.mp member))

theorem Ranked.reference {matching : List Row} {scan : Scan}
    (ranked : Ranked blockSize matching scan)
    (parses : ∀ row ∈ matching, ∃ block, Reads blockSize block row) :
    Reference ops matching blockSize scan (statsOf ops matching scan) where
  keys_nodup := ranked.blocks_nodup
  keys := ranked.blocks
  frequency block inside := by
    have some_reader : 0 < (readers matching blockSize block).card := by
      obtain ⟨row, member, reads⟩ := (ranked.blocks block).mp inside
      rw [← ranked.frequency]
      exact List.length_pos_of_mem
        ((ranked.runs (rowRunKey row) block).mpr ⟨row, member, rfl, reads⟩)
    have bounded : (readers matching blockSize block).card ≤ (runKeys matching).card :=
      Finset.card_le_card (runKeys_mono fun row kept => List.mem_of_mem_filter kept)
    have total : (0 : ℚ) < (runKeys matching).card := by
      exact_mod_cast some_reader.trans_le bounded
    refine ⟨by rw [card_runKeys, ← ranked.frequency]; rfl, ?_, ?_⟩
    · exact div_pos (by exact_mod_cast some_reader) total
    · exact (div_le_one total).mpr (by exact_mod_cast bounded)
  ranks block := by
    have runs : (readers matching blockSize block).val =
        (scan.runsByBlock block : Multiset RunKey) := by
      rw [← ranked.readers, List.toFinset_val, (ranked.runs_nodup block).dedup]
    rw [runs, Multiset.map_coe]
    exact Multiset.coe_eq_coe.mpr (ranked.ranks block)
  ranks_run runKey := image_rankIn fun row inside => parses row (List.mem_of_mem_filter inside)
  median block inside := by
    obtain ⟨row, member, reads⟩ := (ranked.blocks block).mp inside
    refine lowerMedian_median (List.ne_nil_of_length_pos ?_)
    rw [(ranked.ranks block).length_eq, List.length_map]
    exact List.length_pos_of_mem ((ranked.runs (rowRunKey row) block).mpr ⟨row, member, rfl, reads⟩)

theorem blockStats_parsed
    (parses : ∀ row ∈ matchingRows rows instanceId scope phase driveId,
      ∃ block, Reads blockSize block row) :
    ∃ scan stats, scanRows (matchingRows rows instanceId scope phase driveId) blockSize = .ok scan ∧
      blockStats ops rows blockSize instanceId scope phase driveId = .ok stats ∧
      Reference ops (matchingRows rows instanceId scope phase driveId) blockSize scan stats := by
  obtain ⟨scan, ended⟩ := scanRows_ends.mpr parses
  have reference := (scanRows_ranked ended).reference ops parses
  by_cases none : matchingRows rows instanceId scope phase driveId = []
  · obtain ⟨stats, blocks, result⟩ := blockStats_nil blockSize ops none
    have empty : ∀ block, block ∉ stats.blocks := by simp [blocks]
    refine ⟨scan, stats, ended, result, by simp [blocks], fun block => ?_,
      fun block inside => absurd inside (empty block), reference.ranks, reference.ranks_run,
      fun block inside => absurd inside (empty block)⟩
    simp [blocks, none]
  · refine ⟨scan, _, ended, ?_, reference⟩
    rw [blockStats_eq ops none, ended]
    rfl

/-! ### Rows which do not matter -/

theorem blockStats_congr {others : List Row}
    (same : matchingRows rows instanceId scope phase driveId =
      matchingRows others instanceId scope phase driveId) :
    blockStats ops rows blockSize instanceId scope phase driveId =
      blockStats ops others blockSize instanceId scope phase driveId := by
  rw [blockStats, blockStats, same]

/-- The loop passes over a row whose block was hit before in its run. -/
theorem scanRows_delete {before after : List Row} {row earlier : Row} {block : ℤ}
    (reads : Reads blockSize block row) (inside : earlier ∈ before)
    (run : rowRunKey earlier = rowRunKey row) (hit : Reads blockSize block earlier) :
    scanRows (before ++ row :: after) blockSize = scanRows (before ++ after) blockSize := by
  rw [scanRows, scanRows, List.foldlM_append, List.foldlM_append]
  cases ended : before.foldlM (scanRow blockSize) .empty with
  | error failure => rfl
  | ok scan =>
      have known : block ∈ scan.seenByRun (rowRunKey row) :=
        ((scanRows_ranked ended).seen _ _).mpr ⟨earlier, inside, run, hit⟩
      have stays : scanRow blockSize scan row = .ok scan := by
        rw [scanRow_reads reads, Scan.visit, if_pos known]
      change (row :: after).foldlM (scanRow blockSize) scan = after.foldlM (scanRow blockSize) scan
      rw [List.foldlM_cons, stays]
      rfl

variable (instanceId scope phase driveId) in
theorem matchingRows_append (front back : List Row) :
    matchingRows (front ++ back) instanceId scope phase driveId =
      matchingRows front instanceId scope phase driveId ++
        matchingRows back instanceId scope phase driveId :=
  List.filter_append ..

variable (instanceId scope phase driveId) in
theorem matchingRows_singleton (row : Row) :
    matchingRows [row] instanceId scope phase driveId = [row] ∨
      matchingRows [row] instanceId scope phase driveId = [] := by
  rw [matchingRows, List.filter_singleton]
  cases row.phase == phase.name && row.driveId == driveId &&
      taskMatchesScope row.taskId instanceId scope with
  | true => exact .inl rfl
  | false => exact .inr rfl

theorem blockStats_delete {before after : List Row} {row : Row}
    (hit : HitBefore blockSize instanceId scope phase driveId before row) :
    blockStats ops (before ++ row :: after) blockSize instanceId scope phase driveId =
      blockStats ops (before ++ after) blockSize instanceId scope phase driveId := by
  obtain ⟨block, reads, earlier, inside, run, earlier_reads⟩ := hit
  have rest := matchingRows_append instanceId scope phase driveId before after
  have whole : matchingRows (before ++ row :: after) instanceId scope phase driveId =
      matchingRows before instanceId scope phase driveId ++
        (matchingRows [row] instanceId scope phase driveId ++
          matchingRows after instanceId scope phase driveId) := by
    rw [← matchingRows_append, ← matchingRows_append]
    rfl
  rcases matchingRows_singleton instanceId scope phase driveId row with matched | dropped
  · rw [matched] at whole
    have runs : runKeys (matchingRows before instanceId scope phase driveId ++
          row :: matchingRows after instanceId scope phase driveId) =
        runKeys (matchingRows before instanceId scope phase driveId ++
          matchingRows after instanceId scope phase driveId) := by
      have known :
          rowRunKey row ∈ (matchingRows before instanceId scope phase driveId).map rowRunKey :=
        List.mem_map.mpr ⟨earlier, inside, run⟩
      ext runKey
      simp only [runKeys, List.mem_toFinset, List.map_append, List.map_cons, List.mem_append,
        List.mem_cons]
      grind
    have nonempty : matchingRows before instanceId scope phase driveId ≠ [] :=
      List.ne_nil_of_mem inside
    have total := (card_runKeys _).symm.trans ((congrArg Finset.card runs).trans (card_runKeys _))
    rw [blockStats_eq ops (by simp [whole]), blockStats_eq ops (by simp [rest, nonempty]), whole,
      rest, List.singleton_append, scanRows_delete reads inside run earlier_reads]
    refine congrArg _ (funext fun scan => ?_)
    rw [statsOf, statsOf, total]
  · refine blockStats_congr ops ?_
    rw [whole, rest, dropped, List.nil_append]

/-! ### The order of different runs -/

variable (instanceId scope phase driveId) in
theorem RunOrders.matching {others : List Row} (orders : RunOrders rows others) :
    RunOrders (matchingRows rows instanceId scope phase driveId)
      (matchingRows others instanceId scope phase driveId) where
  perm := orders.perm.filter _
  runs runKey := by
    have same := congrArg (List.filter fun row : Row => row.phase == phase.name &&
      row.driveId == driveId && taskMatchesScope row.taskId instanceId scope) (orders.runs runKey)
    simpa only [runRows, matchingRows, List.filter_filter, Bool.and_comm] using same

theorem scanRows_error {failure : Failure} (ended : scanRows rows blockSize = .error failure) :
    failure = .valueError := by
  refine FallibleFold.raised (· = .valueError) (fun step => ?_) ended
  rename_i row _
  rw [scanRow, blockFromRow] at step
  split at step
  · cases step
  · cases step
    rfl

/-- What is computed of a block depends on each run alone. -/
theorem find?_statsOf {others : List Row} {scan other : Scan} (orders : RunOrders rows others)
    (ranked : Ranked blockSize rows scan) (other_ranked : Ranked blockSize others other)
    (block : ℤ) : (statsOf ops rows scan).find? block = (statsOf ops others other).find? block := by
  have total : (rows.map rowRunKey).dedup.length = (others.map rowRunKey).dedup.length :=
    (orders.perm.map _).dedup.length_eq
  have runs : (scan.runsByBlock block).Perm (other.runsByBlock block) := by
    refine (List.perm_ext_iff_of_nodup (ranked.runs_nodup block)
      (other_ranked.runs_nodup block)).mpr fun runKey => ?_
    simp only [ranked.runs, other_ranked.runs, orders.perm.mem_iff]
  have ranks : (scan.ranksByBlock block).Perm (other.ranksByBlock block) := by
    have same : firstRank rows blockSize = firstRank others blockSize := by
      funext runKey
      unfold firstRank
      rw [orders.runs]
    have perm := other_ranked.ranks block
    rw [← same] at perm
    exact (ranked.ranks block).trans ((runs.map _).trans perm.symm)
  have listed : block ∈ scan.blocks ↔ block ∈ other.blocks := by
    simp only [ranked.blocks, other_ranked.blocks, orders.perm.mem_iff]
  unfold Stats.find? statsOf
  refine if_congr listed (congrArg some ?_) rfl
  simp only [runs.length_eq, total, median, p90, percentile_perm ranks]

theorem sameResult_of_runOrders {others : List Row} (orders : RunOrders rows others) :
    SameResult (blockStats ops rows blockSize instanceId scope phase driveId)
      (blockStats ops others blockSize instanceId scope phase driveId) := by
  have matching := orders.matching instanceId scope phase driveId
  by_cases none : matchingRows rows instanceId scope phase driveId = []
  · obtain ⟨stats, blocks, result⟩ := blockStats_nil blockSize ops none
    obtain ⟨others_stats, others_blocks, others_result⟩ := blockStats_nil blockSize ops
      (List.nil_perm.mp (none ▸ matching.perm))
    rw [result, others_result]
    intro block
    simp [Stats.find?, blocks, others_blocks]
  · rw [blockStats_eq ops none, blockStats_eq ops fun empty => none (List.perm_nil.mp
      (empty ▸ matching.perm))]
    generalize matchingRows rows instanceId scope phase driveId = front at matching
    generalize matchingRows others instanceId scope phase driveId = back at matching
    have parses : (∃ scan, scanRows front blockSize = .ok scan) ↔
        ∃ scan, scanRows back blockSize = .ok scan := by
      simp only [scanRows_ends, matching.perm.mem_iff]
    cases ended : scanRows front blockSize with
    | error failure =>
        cases others_ended : scanRows back blockSize with
        | error other => exact (scanRows_error ended).trans (scanRows_error others_ended).symm
        | ok scan =>
            obtain ⟨_, found⟩ := parses.mpr ⟨scan, others_ended⟩
            rw [ended] at found
            cases found
    | ok scan =>
        cases others_ended : scanRows back blockSize with
        | error other =>
            obtain ⟨_, found⟩ := parses.mp ⟨scan, ended⟩
            rw [others_ended] at found
            cases found
        | ok other =>
            exact find?_statsOf ops matching (scanRows_ranked ended) (scanRows_ranked others_ended)

/-- The statistics of the blocks, and which changes of the rows keep them. -/
theorem blockStats_reference (rows : List Row) (blockSize : ℤ) (instanceId : String) (scope : Scope)
    (phase : Phase) (driveId : String) :
    ((∀ row ∈ matchingRows rows instanceId scope phase driveId,
      ∃ block, Reads blockSize block row) →
      ∃ scan stats,
        scanRows (matchingRows rows instanceId scope phase driveId) blockSize = .ok scan ∧
        blockStats ops rows blockSize instanceId scope phase driveId = .ok stats ∧
        Reference ops (matchingRows rows instanceId scope phase driveId) blockSize scan stats) ∧
    (∀ before row after, rows = before ++ row :: after →
      HitBefore blockSize instanceId scope phase driveId before row →
      blockStats ops (before ++ after) blockSize instanceId scope phase driveId =
        blockStats ops rows blockSize instanceId scope phase driveId) ∧
    ∀ others, RunOrders rows others →
      SameResult (blockStats ops rows blockSize instanceId scope phase driveId)
        (blockStats ops others blockSize instanceId scope phase driveId) := by
  refine ⟨blockStats_parsed ops, ?_, fun others => sameResult_of_runOrders ops⟩
  rintro before row after rfl hit
  exact (blockStats_delete ops hit).symm

/-- Two runs of a task.  The first reads one block twice. -/
def firstRun : List Row :=
  [⟨"repo-1", "a", "workload", "rootfs", "4096"⟩, ⟨"repo-1", "a", "workload", "rootfs", "0"⟩,
    ⟨"repo-1", "a", "workload", "rootfs", "5000"⟩]

def secondRun : Row :=
  ⟨"repo-1", "b", "workload", "rootfs", "8192"⟩

theorem runOrders_sample : RunOrders (firstRun ++ [secondRun]) (secondRun :: firstRun) where
  perm := List.perm_append_comm
  runs runKey := by
    rw [runRows, runRows, List.filter_append, ← List.singleton_append, List.filter_append]
    by_cases second : rowRunKey secondRun = runKey
    · subst second
      rfl
    · simp [second]

theorem blockStats_reference_sample :
    (∃ scan stats,
      scanRows (matchingRows (firstRun ++ [secondRun]) "repo-1" .sameTask .workload "rootfs") 4096 =
          .ok scan ∧
        blockStats exact (firstRun ++ [secondRun]) 4096 "repo-1" .sameTask .workload "rootfs" =
          .ok stats ∧
        Reference exact
          (matchingRows (firstRun ++ [secondRun]) "repo-1" .sameTask .workload "rootfs") 4096 scan
          stats) ∧
    blockStats exact (firstRun.take 2 ++ [secondRun]) 4096 "repo-1" .sameTask .workload "rootfs" =
      blockStats exact (firstRun ++ [secondRun]) 4096 "repo-1" .sameTask .workload "rootfs" ∧
    SameResult
      (blockStats exact (firstRun ++ [secondRun]) 4096 "repo-1" .sameTask .workload "rootfs")
      (blockStats exact (secondRun :: firstRun) 4096 "repo-1" .sameTask .workload "rootfs") := by
  obtain ⟨counts, deletes, reorders⟩ := blockStats_reference exact (firstRun ++ [secondRun]) 4096
    "repo-1" .sameTask .workload "rootfs"
  have numbers : ∀ row ∈ firstRun ++ [secondRun], (Python.int row.offset.toList).isSome := by decide
  refine ⟨counts fun row inside => ?_, ?_, reorders _ runOrders_sample⟩
  · obtain ⟨offset, number⟩ :=
      Option.isSome_iff_exists.mp (numbers row (mem_matchingRows.mp inside).1)
    exact ⟨_, reads_iff.mpr ⟨offset, number, rfl⟩⟩
  · refine deletes (firstRun.take 2) ⟨"repo-1", "a", "workload", "rootfs", "5000"⟩ [secondRun] rfl
      ⟨1, by decide, ⟨"repo-1", "a", "workload", "rootfs", "4096"⟩, ?_, rfl, by decide⟩
    exact mem_matchingRows.mpr ⟨by decide, rfl, rfl, rfl⟩

end Reference

end Prefetch
end HermOS
