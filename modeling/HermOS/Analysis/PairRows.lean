import HermOS.Library.Aggregate
import HermOS.Library.PythonText
import Mathlib.Data.Char
import Mathlib.Data.Finset.Card
import Mathlib.Data.Finset.Dedup
import Mathlib.Data.List.Lex
import Mathlib.Algebra.Field.Rat
import Mathlib.Algebra.Order.Ring.Rat

/-!
# Pairs of runs of two tasks

`build_pair_row`, `summarize_pair_rows` and `build_cross_task_outputs` of `analyze_common.py`, with
ratios as rationals.  The summary row of two tasks takes the higher and the lower of the two
coverages after it has aggregated each of them, while a pair row takes them first.
-/

namespace HermOS
namespace Analysis

open Python (Text)

/-! ### Pair rows -/

def safeRatio (numerator denominator : ℕ) : ℚ :=
  if denominator = 0 then 0 else numerator / denominator

/-- `meta`, which the rows of two tasks share. -/
structure PairInfo where
  taskA : Text
  taskB : Text
  driveId : Text
  phase : Text
  metricKind : Text
  deriving DecidableEq

structure PairRow where
  info : PairInfo
  relation : Text
  runA : Text
  runB : Text
  countA : ℕ
  countB : ℕ
  intersection : ℕ
  unionCount : ℕ
  coverageAByB : ℚ
  coverageBByA : ℚ
  highCover : ℚ
  lowCover : ℚ
  jaccard : ℚ

def buildPairRow (relation runA runB : Text) (setA setB : Finset Text) (info : PairInfo) :
    PairRow :=
  let intersection := (setA ∩ setB).card
  let countA := setA.card
  let countB := setB.card
  let unionCount := (setA ∪ setB).card
  let coverageAByB := safeRatio intersection countA
  let coverageBByA := safeRatio intersection countB
  { info, relation, runA, runB, countA, countB, intersection, unionCount, coverageAByB, coverageBByA
    highCover := max coverageAByB coverageBByA
    lowCover := min coverageAByB coverageBByA
    jaccard := safeRatio intersection unionCount }

/-- Mean, minimum and maximum of a column. -/
structure ColumnStats where
  mean : ℚ
  min : ℚ
  max : ℚ

def columnStats (values : List ℚ) : ColumnStats where
  mean := Aggregate.mean values
  min := Aggregate.least values
  max := Aggregate.greatest values

structure PairStats where
  pairCount : ℕ
  intersection : ColumnStats
  coverageAByB : ColumnStats
  coverageBByA : ColumnStats
  jaccard : ColumnStats

/-- `summarize_pair_rows`; the columns of no rows are zero. -/
def summarizePairRows (pairRows : List PairRow) : PairStats where
  pairCount := pairRows.length
  intersection := columnStats (pairRows.map fun row => (row.intersection : ℚ))
  coverageAByB := columnStats (pairRows.map (·.coverageAByB))
  coverageBByA := columnStats (pairRows.map (·.coverageBByA))
  jaccard := columnStats (pairRows.map (·.jaccard))

/-! ### Two tasks -/

/-- A key of `items_by_task_run`. -/
@[ext]
structure TaskKey where
  taskId : Text
  phase : Text
  driveId : Text
  deriving DecidableEq

/-- The items of each run, by its id. -/
abbrev Runs :=
  List (Text × Finset Text)

/-- `repo_from_task`: the text before the last hyphen. -/
def repoFromTask (taskId : Text) : Text :=
  match Python.splitFirst ['-'] taskId.reverse with
  | some (_, front) => front.reverse
  | none => taskId

/-- Two tasks with runs of one phase and drive. -/
structure TaskPair where
  metricKind : Text
  left : TaskKey
  right : TaskKey
  runsA : Runs
  runsB : Runs

def TaskPair.relation (pair : TaskPair) : Text :=
  if repoFromTask pair.left.taskId = repoFromTask pair.right.taskId then "same_repo".toList
  else "other_repo".toList

def TaskPair.info (pair : TaskPair) : PairInfo where
  taskA := pair.left.taskId
  taskB := pair.right.taskId
  driveId := pair.left.driveId
  phase := pair.left.phase
  metricKind := pair.metricKind

/-- `sorted(runs.items())`. -/
def sortedRuns (runs : Runs) : Runs :=
  runs.mergeSort fun left right => left.1 ≤ right.1

/-- The rows of the pairs of runs. -/
def TaskPair.pairRows (pair : TaskPair) : List PairRow :=
  (sortedRuns pair.runsA).flatMap fun runA => (sortedRuns pair.runsB).map fun runB =>
    buildPairRow pair.relation runA.1 runB.1 runA.2 runB.2 pair.info

structure SummaryRow where
  info : PairInfo
  relation : Text
  runCountA : ℕ
  runCountB : ℕ
  pairCount : ℕ
  intersection : ColumnStats
  meanHighCover : ℚ
  minHighCover : ℚ
  maxHighCover : ℚ
  meanLowCover : ℚ
  minLowCover : ℚ
  maxLowCover : ℚ
  jaccard : ColumnStats

def TaskPair.summaryRow (pair : TaskPair) : SummaryRow :=
  let stats := summarizePairRows pair.pairRows
  { info := pair.info
    relation := pair.relation
    runCountA := pair.runsA.length
    runCountB := pair.runsB.length
    pairCount := stats.pairCount
    intersection := stats.intersection
    meanHighCover := max stats.coverageAByB.mean stats.coverageBByA.mean
    minHighCover := max stats.coverageAByB.min stats.coverageBByA.min
    maxHighCover := max stats.coverageAByB.max stats.coverageBByA.max
    meanLowCover := min stats.coverageAByB.mean stats.coverageBByA.mean
    minLowCover := min stats.coverageAByB.min stats.coverageBByA.min
    maxLowCover := min stats.coverageAByB.max stats.coverageBByA.max
    jaccard := stats.jaccard }

/-! ### All tasks -/

/-- The items of the runs of each task, for a kind of metric. -/
structure Metric where
  metricKind : Text
  itemsByTaskRun : List (TaskKey × Runs)
  /-- The keys of a dictionary differ. -/
  distinct : (itemsByTaskRun.map (·.1)).Nodup

/-- `itertools.combinations(values, 2)`. -/
def combinations {α : Type} : List α → List (α × α)
  | [] => []
  | value :: values => values.map (value, ·) ++ combinations values

/-- Tuples in the order in which Python compares them. -/
def TaskKey.le (left right : TaskKey) : Bool :=
  if left.taskId ≠ right.taskId then left.taskId ≤ right.taskId
  else if left.phase ≠ right.phase then left.phase ≤ right.phase
  else left.driveId ≤ right.driveId

def Metric.taskPairs (metric : Metric) : List TaskPair :=
  let tasks := metric.itemsByTaskRun.mergeSort fun left right => left.1.le right.1
  (combinations tasks).filterMap fun (left, right) =>
    if left.1.phase ≠ right.1.phase ∨ left.1.driveId ≠ right.1.driveId then none
    else some ⟨metric.metricKind, left.1, right.1, left.2, right.2⟩

/-- The summary rows and the pair rows. -/
def buildCrossTaskOutputs (metrics : List Metric) : List SummaryRow × List PairRow :=
  let pairs := metrics.flatMap Metric.taskPairs
  (pairs.map TaskPair.summaryRow, pairs.flatMap TaskPair.pairRows)

/-! ### The columns of the rows -/

/-- The summary row has the mean, the minimum and the maximum of the covers of the rows. -/
structure SummaryRow.Summarises (summary : SummaryRow) (rows : List PairRow) : Prop where
  meanHigh : summary.meanHighCover = Aggregate.mean (rows.map (·.highCover))
  minHigh : summary.minHighCover = Aggregate.least (rows.map (·.highCover))
  maxHigh : summary.maxHighCover = Aggregate.greatest (rows.map (·.highCover))
  meanLow : summary.meanLowCover = Aggregate.mean (rows.map (·.lowCover))
  minLow : summary.minLowCover = Aggregate.least (rows.map (·.lowCover))
  maxLow : summary.maxLowCover = Aggregate.greatest (rows.map (·.lowCover))

variable {pair : TaskPair}

theorem mem_sortedRuns {runs : Runs} {run : Text × Finset Text} :
    run ∈ sortedRuns runs ↔ run ∈ runs :=
  List.mem_mergeSort

theorem mem_pairRows {row : PairRow} :
    row ∈ pair.pairRows ↔ ∃ runA ∈ pair.runsA, ∃ runB ∈ pair.runsB,
      buildPairRow pair.relation runA.1 runB.1 runA.2 runB.2 pair.info = row := by
  simp only [TaskPair.pairRows, List.mem_flatMap, List.mem_map, mem_sortedRuns]

theorem map_highCover : pair.pairRows.map (·.highCover) =
    pair.pairRows.map fun row => max row.coverageAByB row.coverageBByA := by
  refine List.map_congr_left fun row inside => ?_
  obtain ⟨_, _, _, _, rfl⟩ := mem_pairRows.mp inside
  rfl

theorem map_lowCover : pair.pairRows.map (·.lowCover) =
    pair.pairRows.map fun row => min row.coverageAByB row.coverageBByA := by
  refine List.map_congr_left fun row inside => ?_
  obtain ⟨_, _, _, _, rfl⟩ := mem_pairRows.mp inside
  rfl

/-- One direction covers no more than the other in every row. -/
def TaskPair.Ordered (pair : TaskPair) : Prop :=
  Aggregate.Ordered (·.coverageAByB) (·.coverageBByA) pair.pairRows

theorem summarises_iff_ordered : pair.summaryRow.Summarises pair.pairRows ↔ pair.Ordered := by
  constructor
  · intro summarises
    have mean := summarises.meanHigh
    rw [map_highCover] at mean
    exact Aggregate.mean_max_iff.mp mean.symm
  · intro ordered
    refine ⟨?_, ?_, ?_, ?_, ?_, ?_⟩
    · rw [map_highCover]
      exact (Aggregate.mean_max_iff.mpr ordered).symm
    · rw [map_highCover]
      exact ordered.least_max.symm
    · rw [map_highCover]
      exact (Aggregate.greatest_map_max _ _ _).symm
    · rw [map_lowCover]
      exact ordered.mean_min.symm
    · rw [map_lowCover]
      exact (Aggregate.least_map_min _ _ _).symm
    · rw [map_lowCover]
      exact ordered.greatest_min.symm

/-! ### The sets of the runs -/

/-- The part of a set which is shared with another one falls as the set grows. -/
theorem safeRatio_le_iff {shared count other : ℕ} (inside : shared ≤ count)
    (inside' : shared ≤ other) :
    safeRatio shared count ≤ safeRatio shared other ↔ (0 < shared → other ≤ count) := by
  rcases Nat.eq_zero_or_pos shared with rfl | positive
  · simp [safeRatio]
  · have counts : count ≠ 0 ∧ other ≠ 0 := by omega
    rw [safeRatio, safeRatio, if_neg counts.1, if_neg counts.2,
      div_le_div_iff_of_pos_left (by exact_mod_cast positive)
        (by exact_mod_cast Nat.pos_of_ne_zero counts.1)
        (by exact_mod_cast Nat.pos_of_ne_zero counts.2)]
    simp [positive]

section Sets

variable {relation runA runB : Text} {setA setB : Finset Text} {info : PairInfo}

theorem coverageA_le_iff :
    (buildPairRow relation runA runB setA setB info).coverageAByB ≤
        (buildPairRow relation runA runB setA setB info).coverageBByA ↔
      ((setA ∩ setB).Nonempty → setB.card ≤ setA.card) := by
  rw [← Finset.card_pos]
  exact safeRatio_le_iff (Finset.card_le_card Finset.inter_subset_left)
    (Finset.card_le_card Finset.inter_subset_right)

theorem coverageB_le_iff :
    (buildPairRow relation runA runB setA setB info).coverageBByA ≤
        (buildPairRow relation runA runB setA setB info).coverageAByB ↔
      ((setA ∩ setB).Nonempty → setA.card ≤ setB.card) := by
  rw [← Finset.card_pos]
  exact safeRatio_le_iff (Finset.card_le_card Finset.inter_subset_right)
    (Finset.card_le_card Finset.inter_subset_left)

end Sets

/-- What holds of the rows holds of the pairs of runs. -/
theorem forall_pairRows {Holds : PairRow → Prop} : (∀ row ∈ pair.pairRows, Holds row) ↔
    ∀ runA ∈ pair.runsA, ∀ runB ∈ pair.runsB,
      Holds (buildPairRow pair.relation runA.1 runB.1 runA.2 runB.2 pair.info) := by
  constructor
  · intro rows runA memberA runB memberB
    exact rows _ (mem_pairRows.mpr ⟨runA, memberA, runB, memberB, rfl⟩)
  · intro runs row inside
    obtain ⟨runA, memberA, runB, memberB, rfl⟩ := mem_pairRows.mp inside
    exact runs runA memberA runB memberB

/-- The pairs are ordered alike exactly if the larger runs are all on one side. -/
theorem ordered_iff_card {pair : TaskPair} : pair.Ordered ↔
    (∀ runA ∈ pair.runsA, ∀ runB ∈ pair.runsB,
        (runA.2 ∩ runB.2).Nonempty → runB.2.card ≤ runA.2.card) ∨
      ∀ runA ∈ pair.runsA, ∀ runB ∈ pair.runsB,
        (runA.2 ∩ runB.2).Nonempty → runA.2.card ≤ runB.2.card := by
  rw [TaskPair.Ordered, Aggregate.Ordered, Aggregate.Below, Aggregate.Below, forall_pairRows,
    forall_pairRows]
  simp only [coverageA_le_iff, coverageB_le_iff]

/-! ### Where the rows are found -/

section Combinations

variable {α β : Type}

theorem combinations_map (f : α → β) (values : List α) :
    combinations (values.map f) = (combinations values).map (Prod.map f f) := by
  induction values with
  | nil => rfl
  | cons value values ih =>
      rw [List.map_cons, combinations, combinations, ih, List.map_append, List.map_map,
        List.map_map]
      rfl

theorem mem_combinations {values : List α} {both : α × α} (inside : both ∈ combinations values) :
    both.1 ∈ values ∧ both.2 ∈ values := by
  induction values with
  | nil => cases inside
  | cons value values ih =>
      rcases List.mem_append.mp inside with first | later
      · obtain ⟨next, member, rfl⟩ := List.mem_map.mp first
        exact ⟨List.mem_cons_self, List.mem_cons_of_mem _ member⟩
      · exact ⟨List.mem_cons_of_mem _ (ih later).1, List.mem_cons_of_mem _ (ih later).2⟩

theorem nodup_combinations {values : List α} (distinct : values.Nodup) :
    (combinations values).Nodup := by
  induction values with
  | nil => exact List.nodup_nil
  | cons value values ih =>
      obtain ⟨new, distinct⟩ := List.nodup_cons.mp distinct
      refine List.nodup_append.mpr ⟨?_, ih distinct, ?_⟩
      · exact distinct.map fun _ _ same => (Prod.mk.inj same).2
      · rintro first inside second later rfl
        obtain ⟨next, _, rfl⟩ := List.mem_map.mp inside
        exact new (mem_combinations later).1

end Combinations

theorem Metric.mem_taskPairs {metric : Metric} (inside : pair ∈ metric.taskPairs) :
    pair.metricKind = metric.metricKind := by
  obtain ⟨⟨left, right⟩, _, made⟩ := List.mem_filterMap.mp inside
  simp only at made
  split at made <;> cases made
  rfl

/-- The pairs of tasks of a metric differ in what their rows say about them. -/
theorem Metric.nodup_info (metric : Metric) : (metric.taskPairs.map TaskPair.info).Nodup := by
  have keys : ((metric.itemsByTaskRun.mergeSort fun left right => left.1.le right.1).map
      (·.1)).Nodup :=
    ((List.mergeSort_perm _ _).map _).nodup_iff.mpr metric.distinct
  have pairs := nodup_combinations keys
  rw [combinations_map] at pairs
  rw [Metric.taskPairs, List.Nodup, List.pairwise_map, List.pairwise_filterMap]
  refine (List.pairwise_map.mp pairs).imp ?_
  rintro ⟨⟨left, runs⟩, ⟨right, others⟩⟩ ⟨⟨left', runs'⟩, ⟨right', others'⟩⟩ apart pair made pair'
    made' same
  simp only at made made'
  split at made <;> cases made
  split at made' <;> cases made'
  next one one' =>
    obtain ⟨taskA, taskB, drive, phase, _⟩ := PairInfo.mk.inj same
    simp only [ne_eq, not_or, not_not] at one one'
    have lefts : left = left' := TaskKey.ext taskA phase drive
    have rights : right = right' :=
      TaskKey.ext taskB (one.1.symm.trans (phase.trans one'.1))
        (one.2.symm.trans (drive.trans one'.2))
    exact apart (Prod.ext lefts rights)

/-- Metrics of different kinds have different pairs. -/
theorem nodup_info {metrics : List Metric} (kinds : (metrics.map (·.metricKind)).Nodup) :
    ((metrics.flatMap Metric.taskPairs).map TaskPair.info).Nodup := by
  rw [List.map_flatMap, List.nodup_flatMap]
  refine ⟨fun metric _ => metric.nodup_info, (List.pairwise_map.mp kinds).imp ?_⟩
  intro metric metric' apart info inside inside'
  obtain ⟨pair, member, rfl⟩ := List.mem_map.mp inside
  obtain ⟨pair', member', same⟩ := List.mem_map.mp inside'
  have kind : pair'.metricKind = pair.metricKind := congrArg PairInfo.metricKind same
  rw [Metric.mem_taskPairs member, Metric.mem_taskPairs member'] at kind
  exact apart kind.symm

theorem info_of_mem {row : PairRow} (inside : row ∈ pair.pairRows) : row.info = pair.info := by
  obtain ⟨_, _, _, _, rfl⟩ := mem_pairRows.mp inside
  rfl

/-- The rows of two tasks are the rows which say that they are. -/
theorem filter_pairRows {pairs : List TaskPair} (distinct : (pairs.map TaskPair.info).Nodup)
    (inside : pair ∈ pairs) :
    (pairs.flatMap TaskPair.pairRows).filter (·.info = pair.info) = pair.pairRows := by
  induction pairs with
  | nil => cases inside
  | cons first pairs ih =>
      rw [List.map_cons, List.nodup_cons] at distinct
      obtain ⟨new, distinct⟩ := distinct
      rw [List.flatMap_cons, List.filter_append]
      rcases List.mem_cons.mp inside with rfl | later
      · have own : pair.pairRows.filter (·.info = pair.info) = pair.pairRows :=
          List.filter_eq_self.mpr fun row member => decide_eq_true (info_of_mem member)
        have others : (pairs.flatMap TaskPair.pairRows).filter (·.info = pair.info) = [] := by
          refine List.filter_eq_nil_iff.mpr fun row member => ?_
          obtain ⟨other, other_inside, here⟩ := List.mem_flatMap.mp member
          rw [decide_eq_true_iff, info_of_mem here]
          exact fun same => new (same ▸ List.mem_map_of_mem other_inside)
        rw [own, others, List.append_nil]
      · have others : first.pairRows.filter (·.info = pair.info) = [] := by
          refine List.filter_eq_nil_iff.mpr fun row member => ?_
          rw [decide_eq_true_iff, info_of_mem member]
          exact fun same => new (same ▸ List.mem_map_of_mem later)
        rw [others, List.nil_append, ih distinct later]

/-- The summary row of two tasks summarises their pair rows exactly when the larger one of two runs
with common items is always a run of the same task.  In the outputs for metrics of different kinds
these pair rows are found by what they say about their tasks. -/
theorem summarises_iff (pair : TaskPair) :
    (pair.summaryRow.Summarises pair.pairRows ↔
      (∀ runA ∈ pair.runsA, ∀ runB ∈ pair.runsB,
          (runA.2 ∩ runB.2).Nonempty → runB.2.card ≤ runA.2.card) ∨
        ∀ runA ∈ pair.runsA, ∀ runB ∈ pair.runsB,
          (runA.2 ∩ runB.2).Nonempty → runA.2.card ≤ runB.2.card) ∧
      ∀ metrics : List Metric, (metrics.map (·.metricKind)).Nodup →
        pair ∈ metrics.flatMap Metric.taskPairs →
          pair.summaryRow ∈ (buildCrossTaskOutputs metrics).1 ∧
            (buildCrossTaskOutputs metrics).2.filter (·.info = pair.info) = pair.pairRows := by
  refine ⟨summarises_iff_ordered.trans ordered_iff_card, fun metrics kinds inside => ⟨?_, ?_⟩⟩
  · exact List.mem_map_of_mem inside
  · exact filter_pairRows (nodup_info kinds) inside

/-- Two runs of a task, the sets of which surround that of a run of the other task. -/
def surroundingPair : TaskPair where
  metricKind := "file".toList
  left := ⟨"r-1".toList, [], []⟩
  right := ⟨"r-2".toList, [], []⟩
  runsA := [(['1'], {['x']}), (['2'], {['x'], ['y'], ['z']})]
  runsB := [(['1'], {['x'], ['y']})]

theorem surroundingPair_unordered : ¬ surroundingPair.Ordered := by
  intro ordered
  rcases ordered_iff_card.mp ordered with larger | smaller
  · exact absurd (larger (['1'], {['x']}) (by decide) (['1'], {['x'], ['y']}) (by decide)
      (by decide)) (by decide)
  · exact absurd (smaller (['2'], {['x'], ['y'], ['z']}) (by decide) (['1'], {['x'], ['y']})
      (by decide) (by decide)) (by decide)

/-- The files of these tasks, and of a third one which has been run in another phase. -/
def surroundingMetric : Metric where
  metricKind := "file".toList
  itemsByTaskRun :=
    [(⟨"r-1".toList, [], []⟩, surroundingPair.runsA),
      (⟨"r-2".toList, [], []⟩, surroundingPair.runsB),
      (⟨"r-3".toList, "boot".toList, []⟩, [(['1'], {['x']})])]
  distinct := by decide

theorem surroundingPair_mem : surroundingPair ∈ [surroundingMetric].flatMap Metric.taskPairs := by
  have sorted : surroundingMetric.itemsByTaskRun.mergeSort (fun left right => left.1.le right.1) =
      surroundingMetric.itemsByTaskRun := List.mergeSort_of_pairwise (by decide)
  rw [List.flatMap_singleton, Metric.taskPairs, sorted]
  exact List.mem_cons_self

theorem summarises_iff_surrounding :
    ¬ surroundingPair.summaryRow.Summarises surroundingPair.pairRows ∧
      (buildCrossTaskOutputs [surroundingMetric]).2.filter (·.info = surroundingPair.info) =
        surroundingPair.pairRows := by
  obtain ⟨exactly, outputs⟩ := summarises_iff surroundingPair
  refine ⟨fun summarises => ?_, (outputs [surroundingMetric] (by decide) surroundingPair_mem).2⟩
  exact surroundingPair_unordered (ordered_iff_card.mpr (exactly.mp summarises))

theorem not_summarises : ¬ ∀ pair : TaskPair, pair.summaryRow.Summarises pair.pairRows := by
  intro all
  exact surroundingPair_unordered (summarises_iff_ordered.mp (all surroundingPair))

end Analysis
end HermOS
