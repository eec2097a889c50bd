import HermOS.Library.PythonInt
import Mathlib.Algebra.Group.Nat.Defs
import Mathlib.Data.Int.Range
import Mathlib.Data.List.AList

/-!
# Tiered prefetch sets

`build_prefetch_set.py`: which blocks of past runs each tier selects, and the range files it writes.
Sets of blocks and of run keys are lists without repetition, and a `defaultdict` is a function.
Floating-point numbers enter through four operations, so that nothing depends on their rounding.
-/

namespace HermOS
namespace Prefetch

/-- The floating-point operations of the script. -/
structure FloatOps (Number : Type) where
  /-- Quotient of two counts. -/
  ratio : ℕ → ℕ → Number
  zero : Number
  /-- `>=`. -/
  atLeast : Number → Number → Bool
  /-- `<`. -/
  less : Number → Number → Bool

/-- A row of `block_phased.csv`. -/
structure Row where
  taskId : String
  runId : String
  phase : String
  driveId : String
  offset : String
  deriving DecidableEq

/-- How the script ends without writing its files. -/
inductive Failure
  | systemExit (message : String)
  | valueError
  deriving DecidableEq

abbrev RunKey :=
  String × String

/-- The set of `LOWER_DRIVE_IDS`, sorted by `DRIVE_PRIORITY`. -/
def lowerDriveIds : List String :=
  ["rootfs", "workspace"]

def drivePriority (driveId : String) : ℕ :=
  if driveId = "rootfs" then 0 else 1

inductive Phase
  | preworkload
  | workload

def Phase.name : Phase → String
  | .preworkload => "preworkload"
  | .workload => "workload"

def phasePriority : Phase → ℕ
  | .preworkload => 0
  | .workload => 1

inductive Scope
  | sameTask
  | sameRepo
  | all

/-- `sys.maxsize`. -/
def maxSize : ℕ :=
  2 ^ 63 - 1

/-- `task_id.rsplit("-", 1)[0]`. -/
def repoFromTask (taskId : String) : String :=
  match taskId.toList.reverse.dropWhile (· != '-') with
  | [] => taskId
  | _ :: rest => String.ofList rest.reverse

def blockFromRow (row : Row) (blockSize : ℤ) : Except Failure ℤ :=
  match Python.int row.offset.toList with
  | some offset => .ok (Int.fdiv offset blockSize)
  | none => .error .valueError

def rowRunKey (row : Row) : RunKey :=
  (row.taskId, row.runId)

/-- `percent` is the fraction `numerator / denominator`. -/
def percentile (values : List ℕ) (numerator denominator : ℕ) : ℕ :=
  let ordered := values.mergeSort
  ordered.getD ((ordered.length - 1) * numerator / denominator) maxSize

def median (values : List ℕ) : ℕ :=
  percentile values 1 2

def p90 (values : List ℕ) : ℕ :=
  percentile values 9 10

def taskMatchesScope (taskId instanceId : String) : Scope → Bool
  | .sameTask => taskId == instanceId
  | .sameRepo => repoFromTask taskId == repoFromTask instanceId
  | .all => true

/-- Blocks of each drive of each run. -/
abbrev Grouped :=
  AList fun _ : RunKey => AList fun _ : String => List ℤ

/-- `grouped[key].setdefault(drive_id, []).append(block)`. -/
def Grouped.append (grouped : Grouped) (key : RunKey) (driveId : String) (block : ℤ) : Grouped :=
  let drives := (grouped.lookup key).getD ∅
  grouped.insert key (drives.insert driveId ((drives.lookup driveId).getD [] ++ [block]))

def buildPhaseDriveSets (rows : List Row) (blockSize : ℤ) (phase : Phase) :
    Except Failure Grouped :=
  rows.foldlM (fun grouped row =>
    if row.phase ≠ phase.name then
      .ok grouped
    else if row.driveId ∉ lowerDriveIds then
      .ok grouped
    else do
      let block ← blockFromRow row blockSize
      return grouped.append (rowRunKey row) row.driveId block) ∅

/-- Union of the blocks of a drive over all runs. -/
def Grouped.union (grouped : Grouped) (driveId : String) : List ℤ :=
  (grouped.entries.flatMap fun entry => (entry.2.lookup driveId).getD []).dedup

/-- What `block_stats` has accumulated. -/
structure Scan where
  ranksByRun : RunKey → ℕ
  seenByRun : RunKey → List ℤ
  ranksByBlock : ℤ → List ℕ
  runsByBlock : ℤ → List RunKey
  blocks : List ℤ

def Scan.empty : Scan where
  ranksByRun _ := 0
  seenByRun _ := []
  ranksByBlock _ := []
  runsByBlock _ := []
  blocks := []

/-- The loop body of `block_stats`, after `block_from_row`. -/
def Scan.visit (scan : Scan) (runKey : RunKey) (block : ℤ) : Scan :=
  if block ∈ scan.seenByRun runKey then
    scan
  else
    let rank := scan.ranksByRun runKey
    { ranksByRun := Function.update scan.ranksByRun runKey (rank + 1)
      seenByRun := Function.update scan.seenByRun runKey ((scan.seenByRun runKey).insert block)
      ranksByBlock :=
        Function.update scan.ranksByBlock block (scan.ranksByBlock block ++ [rank])
      runsByBlock := Function.update scan.runsByBlock block
        ((scan.runsByBlock block).insert runKey)
      blocks := scan.blocks.insert block }

structure BlockStat (Number : Type) where
  frequency : Number
  medianRank : ℕ
  p90Rank : ℕ

/-- Statistics of each block which has any. -/
structure Stats (Number : Type) where
  blocks : List ℤ
  get : ℤ → BlockStat Number

def Stats.find? {Number : Type} (stats : Stats Number) (block : ℤ) : Option (BlockStat Number) :=
  if block ∈ stats.blocks then some (stats.get block) else none

structure RangeRow where
  driveId : String
  startPage : ℤ
  endPage : ℤ

/-- Rows which `block_stats` reads. -/
def matchingRows (rows : List Row) (instanceId : String) (scope : Scope) (phase : Phase)
    (driveId : String) : List Row :=
  rows.filter fun row =>
    row.phase == phase.name && row.driveId == driveId &&
      taskMatchesScope row.taskId instanceId scope

/-- The loop of `range_rows` over `ordered[1:]`. -/
def rangeRowsFrom (driveId : String) (start prev : ℤ) : List ℤ → List RangeRow
  | [] => [⟨driveId, start, prev⟩]
  | block :: rest =>
      if block = prev + 1 then
        rangeRowsFrom driveId start block rest
      else
        ⟨driveId, start, prev⟩ :: rangeRowsFrom driveId block block rest

def rangeRows (driveId : String) : List ℤ → List RangeRow
  | [] => []
  | first :: rest => rangeRowsFrom driveId first first rest

abbrev Selected :=
  String → List ℤ

/-- A `defaultdict(set)` updated with each map in turn. -/
def mergeSelected (selectedMaps : List Selected) : Selected :=
  selectedMaps.foldl (fun merged selected driveId => merged driveId ∪ selected driveId) fun _ => []

section Floats

variable {Number : Type} (ops : FloatOps Number)

def blockStats (rows : List Row) (blockSize : ℤ) (instanceId : String) (scope : Scope)
    (phase : Phase) (driveId : String) : Except Failure (Stats Number) := do
  let matching := matchingRows rows instanceId scope phase driveId
  let totalRuns := (matching.map rowRunKey).dedup.length
  let default : BlockStat Number := ⟨ops.zero, maxSize, maxSize⟩
  if totalRuns = 0 then
    return ⟨[], fun _ => default⟩
  let scan ← matching.foldlM (fun (scan : Scan) row => do
    let block ← blockFromRow row blockSize
    return scan.visit (rowRunKey row) block) Scan.empty
  return {
    blocks := scan.blocks
    get := fun block => {
      frequency := ops.ratio (scan.runsByBlock block).length totalRuns
      medianRank := median (scan.ranksByBlock block)
      p90Rank := p90 (scan.ranksByBlock block) } }

def selectedBlocks (stats : Stats Number) (threshold : Number) : List ℤ :=
  stats.blocks.filter fun block => ops.atLeast (stats.get block).frequency threshold

/-- The sort key of a block; its frequency counts negatively. -/
structure OrderKey (Number : Type) where
  phasePriority : ℕ
  drivePriority : ℕ
  medianRank : ℕ
  p90Rank : ℕ
  frequency : Number
  block : ℤ

/-- Lexicographic `<=` of sort keys. -/
def OrderKey.le (left right : OrderKey Number) : Bool :=
  if left.phasePriority ≠ right.phasePriority then
    decide (left.phasePriority < right.phasePriority)
  else if left.drivePriority ≠ right.drivePriority then
    decide (left.drivePriority < right.drivePriority)
  else if left.medianRank ≠ right.medianRank then
    decide (left.medianRank < right.medianRank)
  else if left.p90Rank ≠ right.p90Rank then
    decide (left.p90Rank < right.p90Rank)
  else if ops.less right.frequency left.frequency then
    true
  else if ops.less left.frequency right.frequency then
    false
  else
    decide (left.block ≤ right.block)

def orderKey (stats : Stats Number) (phase : Phase) (driveId : String) (block : ℤ) :
    OrderKey Number where
  phasePriority := phasePriority phase
  drivePriority := drivePriority driveId
  medianRank := ((stats.find? block).map (·.medianRank)).getD maxSize
  p90Rank := ((stats.find? block).map (·.p90Rank)).getD maxSize
  frequency := ((stats.find? block).map (·.frequency)).getD ops.zero
  block := block

def orderedBlocks (blocks : List ℤ) (stats : Stats Number) (phase : Phase) (driveId : String) :
    List ℤ :=
  blocks.mergeSort fun left right =>
    OrderKey.le ops (orderKey ops stats phase driveId left) (orderKey ops stats phase driveId right)

def preworkloadUnionRows (rows : List Row) (blockSize : ℤ) (instanceId : String) :
    Except Failure (List RangeRow × Selected) := do
  let matching := rows.filter fun row =>
    row.phase == Phase.preworkload.name && decide (row.driveId ∈ lowerDriveIds) &&
      row.taskId == instanceId
  let grouped ← buildPhaseDriveSets matching blockSize .preworkload
  lowerDriveIds.foldlM (fun (output : List RangeRow × Selected) driveId => do
    let stats ← blockStats ops matching blockSize instanceId .sameTask .preworkload driveId
    let blocks := grouped.union driveId
    return (output.1 ++ rangeRows driveId (orderedBlocks ops blocks stats .preworkload driveId),
      Function.update output.2 driveId blocks)) ([], fun _ => [])

def workloadRows (rows : List Row) (blockSize : ℤ) (instanceId : String) (scope : Scope)
    (thresholds : String → Number) (alreadySelected : Selected) :
    Except Failure (List RangeRow × Selected) :=
  lowerDriveIds.foldlM (fun (output : List RangeRow × Selected) driveId => do
    let stats ← blockStats ops rows blockSize instanceId scope .workload driveId
    let threshold := thresholds driveId
    let blocks := (selectedBlocks ops stats threshold).filter (· ∉ alreadySelected driveId)
    return (output.1 ++ rangeRows driveId (orderedBlocks ops blocks stats .workload driveId),
      Function.update output.2 driveId blocks)) ([], fun _ => [])

/-- Command-line arguments. -/
structure Args (Number : Type) where
  instanceId : String
  blockSize : ℤ
  threshold : Number
  rootfsCommonThreshold : Option Number
  rootfsSameRepoThreshold : Option Number
  rootfsSameTaskThreshold : Option Number
  workspaceSameRepoThreshold : Option Number
  workspaceSameTaskThreshold : Option Number

/-- The threshold in force for a tier and drive. -/
def Args.commonThreshold (args : Args Number) : Number :=
  args.rootfsCommonThreshold.getD args.threshold

def Args.sameRepoThresholds (args : Args Number) (driveId : String) : Number :=
  if driveId = "rootfs" then args.rootfsSameRepoThreshold.getD args.threshold
  else args.workspaceSameRepoThreshold.getD args.threshold

def Args.sameTaskThresholds (args : Args Number) (driveId : String) : Number :=
  if driveId = "rootfs" then args.rootfsSameTaskThreshold.getD args.threshold
  else args.workspaceSameTaskThreshold.getD args.threshold

/-- The three files which `main` writes. -/
structure Outputs where
  tier0Common : List RangeRow
  tier1SameRepo : List RangeRow
  tier2SameTask : List RangeRow

/-- The passes of `main`, after its checks. -/
def buildTiers (args : Args Number) (rows : List Row) : Except Failure Outputs := do
  let preworkload ← preworkloadUnionRows ops rows args.blockSize args.instanceId
  let commonRootfsStats ←
    blockStats ops rows args.blockSize args.instanceId .all .workload "rootfs"
  let commonRootfsBlocks := (selectedBlocks ops commonRootfsStats args.commonThreshold).filter
    (· ∉ preworkload.2 "rootfs")
  let tier0Rows := preworkload.1 ++ rangeRows "rootfs"
    (orderedBlocks ops commonRootfsBlocks commonRootfsStats .workload "rootfs")
  let tier0Selected := mergeSelected [preworkload.2,
    Function.update (fun _ => []) "rootfs" commonRootfsBlocks]
  let tier1 ← workloadRows ops rows args.blockSize args.instanceId .sameRepo
    args.sameRepoThresholds tier0Selected
  let tier01Selected := mergeSelected [tier0Selected, tier1.2]
  let tier2 ← workloadRows ops rows args.blockSize args.instanceId .sameTask
    args.sameTaskThresholds tier01Selected
  return ⟨tier0Rows, tier1.1, tier2.1⟩

/-- `main`, on the rows of `block_phased.csv`. -/
def main (args : Args Number) (rows : List Row) : Except Failure Outputs :=
  if args.blockSize ≤ 0 then
    .error (.systemExit "--block-size must be positive")
  else if rows = [] then
    .error (.systemExit "no rows found in data/block_phased.csv")
  else
    buildTiers ops args rows

end Floats

end Prefetch
end HermOS
