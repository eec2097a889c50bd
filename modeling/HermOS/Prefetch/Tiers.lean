import HermOS.Prefetch.BuildSet
import HermOS.Library.FallibleFold
import Mathlib.Data.Finset.Card
import Mathlib.Data.Finset.Dedup
import Mathlib.Data.Rat.Defs

/-!
# What the tiers cover

The range files of `build_prefetch_set.py`, expanded to blocks.  Every pass writes each block of its
selection once, and the passes subtract what earlier ones selected, so the three files together
list each selected block once, in the first tier which selects it.
-/

namespace HermOS
namespace Prefetch

/-! ### Ranges -/

/-- The blocks which a range row covers. -/
def RangeRow.expand (row : RangeRow) : List (String × ℤ) :=
  (Int.range row.startPage (row.endPage + 1)).map (row.driveId, ·)

/-- The blocks which a file covers, in its order. -/
def expand (rows : List RangeRow) : List (String × ℤ) :=
  rows.flatMap RangeRow.expand

theorem range_succ {start stop : ℤ} (ordered : start ≤ stop) :
    Int.range start (stop + 1) = Int.range start stop ++ [stop] := by
  have length : (stop + 1 - start).toNat = (stop - start).toNat + 1 := by omega
  have last : start + (stop - start).toNat = stop := by omega
  rw [Int.range, Int.range, length, List.range_succ, List.map_append, List.map_singleton, last]

theorem range_singleton (block : ℤ) : Int.range block (block + 1) = [block] := by
  simp [Int.range]

theorem expand_rangeRowsFrom (driveId : String) {start prev : ℤ} (ordered : start ≤ prev)
    (blocks : List ℤ) : expand (rangeRowsFrom driveId start prev blocks) =
      (Int.range start (prev + 1) ++ blocks).map (driveId, ·) := by
  induction blocks generalizing start prev with
  | nil => simp [rangeRowsFrom, expand, RangeRow.expand]
  | cons block rest ih =>
      rw [rangeRowsFrom]
      split
      next next_block =>
        rw [ih (by omega), next_block, range_succ (by omega)]
        simp
      next =>
        have rest_blocks := ih (le_refl block)
        unfold expand at rest_blocks ⊢
        rw [List.flatMap_cons, rest_blocks, range_singleton]
        simp [RangeRow.expand]

/-- Expanding the ranges of an ordered list gives the list back. -/
theorem expand_rangeRows (driveId : String) (ordered : List ℤ) :
    expand (rangeRows driveId ordered) = ordered.map (driveId, ·) := by
  cases ordered with
  | nil => rfl
  | cons first rest =>
      rw [rangeRows, expand_rangeRowsFrom driveId (le_refl first), range_singleton]
      rfl

/-- The rows list each block of the selection exactly once. -/
structure Covers (rows : List RangeRow) (selection : String → ℤ → Prop) : Prop where
  nodup : (expand rows).Nodup
  mem_iff : ∀ driveId block, (driveId, block) ∈ expand rows ↔ selection driveId block

theorem mem_expand_append {front back : List RangeRow} {key : String × ℤ} :
    key ∈ expand (front ++ back) ↔ key ∈ expand front ∨ key ∈ expand back := by
  rw [expand, List.flatMap_append, List.mem_append]
  rfl

theorem Covers.append {front back : List RangeRow} {first second : String → ℤ → Prop}
    (covers : Covers front first) (covers' : Covers back second)
    (disjoint : ∀ driveId block, first driveId block → ¬ second driveId block) :
    Covers (front ++ back) fun driveId block => first driveId block ∨ second driveId block := by
  constructor
  · rw [expand, List.flatMap_append]
    refine covers.nodup.append covers'.nodup ?_
    rintro ⟨driveId, block⟩ inside inside'
    exact disjoint driveId block ((covers.mem_iff _ _).mp inside) ((covers'.mem_iff _ _).mp inside')
  · intro driveId block
    rw [mem_expand_append]
    exact or_congr (covers.mem_iff _ _) (covers'.mem_iff _ _)

theorem Covers.congr {rows : List RangeRow} {selection selection' : String → ℤ → Prop}
    (covers : Covers rows selection)
    (same : ∀ driveId block, selection driveId block ↔ selection' driveId block) :
    Covers rows selection' :=
  ⟨covers.nodup, fun driveId block => (covers.mem_iff driveId block).trans (same driveId block)⟩

/-- A file which leaves out what the files before it cover. -/
theorem Covers.rest {front back : List RangeRow} {first second : String → ℤ → Prop}
    (covers : Covers front first)
    (rest : Covers back fun driveId block => second driveId block ∧ ¬ first driveId block) :
    Covers (front ++ back) fun driveId block => first driveId block ∨ second driveId block := by
  refine (covers.append rest fun _ _ selected later => later.2 selected).congr fun _ _ => ?_
  tauto

variable {Number : Type} (ops : FloatOps Number)

theorem orderedBlocks_perm (blocks : List ℤ) (stats : Stats Number) (phase : Phase)
    (driveId : String) : (orderedBlocks ops blocks stats phase driveId).Perm blocks :=
  List.mergeSort_perm _ _

theorem covers_orderedBlocks {blocks : List ℤ} (nodup : blocks.Nodup) (stats : Stats Number)
    (phase : Phase) (driveId : String) :
    Covers (rangeRows driveId (orderedBlocks ops blocks stats phase driveId))
      fun drive block => drive = driveId ∧ block ∈ blocks := by
  have perm := orderedBlocks_perm ops blocks stats phase driveId
  constructor
  · rw [expand_rangeRows]
    exact (perm.nodup_iff.mpr nodup).map fun _ _ same => (Prod.mk.inj same).2
  · intro drive block
    rw [expand_rangeRows, List.mem_map]
    constructor
    · rintro ⟨member, inside, same⟩
      cases same
      exact ⟨rfl, perm.mem_iff.mp inside⟩
    · rintro ⟨rfl, inside⟩
      exact ⟨block, perm.mem_iff.mpr inside, rfl⟩

/-! ### Statistics -/

/-- Runs with a row among the given ones. -/
def runKeys (rows : List Row) : Finset RunKey :=
  (rows.map rowRunKey).toFinset

/-- The row reads the block. -/
def Reads (blockSize : ℤ) (block : ℤ) (row : Row) : Prop :=
  blockFromRow row blockSize = .ok block

instance (blockSize block : ℤ) (row : Row) : Decidable (Reads blockSize block row) :=
  inferInstanceAs (Decidable (blockFromRow row blockSize = .ok block))

theorem reads_iff {blockSize block : ℤ} {row : Row} : Reads blockSize block row ↔
    ∃ offset, Python.int row.offset.toList = some offset ∧ block = Int.fdiv offset blockSize := by
  rw [Reads, blockFromRow]
  cases Python.int row.offset.toList <;> simp [eq_comm]

theorem Reads.only {blockSize block : ℤ} {row : Row} (reads : Reads blockSize block row)
    (other : ℤ) : Reads blockSize other row ↔ other = block := by
  obtain ⟨offset, number, rfl⟩ := reads_iff.mp reads
  simp [reads_iff, number]

/-- The rows of a phase and a drive which `block_stats` reads. -/
theorem mem_matchingRows {rows : List Row} {instanceId : String} {scope : Scope} {phase : Phase}
    {driveId : String} {row : Row} : row ∈ matchingRows rows instanceId scope phase driveId ↔
      row ∈ rows ∧ row.phase = phase.name ∧ row.driveId = driveId ∧
        match scope with
        | .sameTask => row.taskId = instanceId
        | .sameRepo => repoFromTask row.taskId = repoFromTask instanceId
        | .all => True := by
  cases scope <;> simp [matchingRows, taskMatchesScope, and_assoc]

/-- Runs with a row which reads the block. -/
def readers (rows : List Row) (blockSize block : ℤ) : Finset RunKey :=
  runKeys (rows.filter fun row => Reads blockSize block row)

/-- The share of the runs which read the block reaches the threshold. -/
def Reaches (rows : List Row) (blockSize : ℤ) (threshold : Number) (block : ℤ) : Prop :=
  (∃ row ∈ rows, Reads blockSize block row) ∧
    ops.atLeast (ops.ratio (readers rows blockSize block).card (runKeys rows).card) threshold = true

/-- What `block_stats` knows of the rows visited so far. -/
structure Scanned (blockSize : ℤ) (visited : List Row) (scan : Scan) : Prop where
  seen : ∀ runKey block, block ∈ scan.seenByRun runKey ↔
    ∃ row ∈ visited, rowRunKey row = runKey ∧ Reads blockSize block row
  runs_nodup : ∀ block, (scan.runsByBlock block).Nodup
  runs : ∀ runKey block, runKey ∈ scan.runsByBlock block ↔
    ∃ row ∈ visited, rowRunKey row = runKey ∧ Reads blockSize block row
  blocks_nodup : scan.blocks.Nodup
  blocks : ∀ block, block ∈ scan.blocks ↔ ∃ row ∈ visited, Reads blockSize block row

theorem scanned_empty (blockSize : ℤ) : Scanned blockSize [] .empty := by
  constructor <;> simp [Scan.empty]

theorem Scanned.visit {blockSize block : ℤ} {visited : List Row} {scan : Scan} {row : Row}
    (scanned : Scanned blockSize visited scan) (reads : Reads blockSize block row) :
    Scanned blockSize (visited ++ [row]) (scan.visit (rowRunKey row) block) := by
  obtain ⟨seen, runs_nodup, runs, blocks_nodup, blocks⟩ := scanned
  have only := reads.only
  unfold Scan.visit
  split
  next known =>
    obtain ⟨earlier, inside, key, same⟩ := (seen _ _).mp known
    constructor
    · intro runKey other
      rw [seen]
      grind
    · exact runs_nodup
    · intro runKey other
      rw [runs]
      grind
    · exact blocks_nodup
    · intro other
      rw [blocks]
      grind
  next fresh =>
    constructor
    · intro runKey other
      simp only [Function.update_apply]
      grind
    · intro other
      simp only [Function.update_apply]
      split
      · exact (runs_nodup _).insert
      · exact runs_nodup other
    · intro runKey other
      simp only [Function.update_apply]
      grind
    · exact blocks_nodup.insert
    · intro other
      grind

theorem Scanned.readers {blockSize : ℤ} {rows : List Row} {scan : Scan}
    (scanned : Scanned blockSize rows scan) (block : ℤ) :
    (scan.runsByBlock block).toFinset = Prefetch.readers rows blockSize block := by
  ext runKey
  rw [List.mem_toFinset, scanned.runs, Prefetch.readers, runKeys, List.mem_toFinset, List.mem_map]
  simp only [List.mem_filter, decide_eq_true_eq]
  grind

theorem Scanned.frequency {blockSize block : ℤ} {rows : List Row} {scan : Scan}
    (scanned : Scanned blockSize rows scan) :
    (scan.runsByBlock block).length = (Prefetch.readers rows blockSize block).card := by
  rw [← List.toFinset_card_of_nodup (scanned.runs_nodup block), scanned.readers]

section BlockStats

variable {rows : List Row} {blockSize : ℤ} {instanceId : String} {scope : Scope} {phase : Phase}
  {driveId : String}

/-- `block_stats` knows the blocks of the matching rows and the share of runs of each. -/
structure Counted (rows : List Row) (blockSize : ℤ) (stats : Stats Number) : Prop where
  nodup : stats.blocks.Nodup
  blocks : ∀ block, block ∈ stats.blocks ↔ ∃ row ∈ rows, Reads blockSize block row
  frequency : ∀ block ∈ stats.blocks, (stats.get block).frequency =
    ops.ratio (readers rows blockSize block).card (runKeys rows).card

theorem blockStats_counted {stats : Stats Number}
    (ended : blockStats ops rows blockSize instanceId scope phase driveId = .ok stats) :
    Counted ops (matchingRows rows instanceId scope phase driveId) blockSize stats := by
  unfold blockStats at ended
  generalize matchingRows rows instanceId scope phase driveId = matching at ended ⊢
  simp only at ended
  split at ended
  next none =>
    cases ended
    have empty : matching = [] := by
      have := List.length_eq_zero_iff.mp none
      simpa [List.dedup_eq_nil] using this
    subst empty
    constructor <;> simp
  next =>
    obtain ⟨scan, scanned, ended⟩ := FallibleFold.bind_ok ended
    cases ended
    have scanned : Scanned blockSize matching scan := by
      refine FallibleFold.invariant (Scanned blockSize) ?_ (scanned_empty blockSize) scanned
      intro past row rest state after _ scanned step
      obtain ⟨block, reads, step⟩ := FallibleFold.bind_ok step
      cases step
      exact scanned.visit reads
    refine ⟨scanned.blocks_nodup, scanned.blocks, fun block _ => ?_⟩
    simp only [scanned.frequency, runKeys, List.card_toFinset]

theorem blockStats_ends (parses : ∀ row ∈ rows, ∃ block, Reads blockSize block row) :
    ∃ stats, blockStats ops rows blockSize instanceId scope phase driveId = .ok stats := by
  unfold blockStats
  have inside : ∀ row ∈ matchingRows rows instanceId scope phase driveId, row ∈ rows :=
    fun row member => (mem_matchingRows.mp member).1
  generalize matchingRows rows instanceId scope phase driveId = matching at inside ⊢
  simp only
  split
  · exact ⟨_, rfl⟩
  · have ended : ∃ scan, matching.foldlM (fun (scan : Scan) row => do
        let block ← blockFromRow row blockSize
        return scan.visit (rowRunKey row) block) Scan.empty = .ok scan := by
      refine FallibleFold.ends (fun scan row member => ?_) Scan.empty
      obtain ⟨block, reads⟩ := parses row (inside row member)
      exact ⟨scan.visit (rowRunKey row) block, by rw [reads]; rfl⟩
    obtain ⟨scan, ended⟩ := ended
    exact ⟨_, by rw [ended]; rfl⟩

theorem mem_selectedBlocks {matching : List Row} {stats : Stats Number} {threshold : Number}
    (counted : Counted ops matching blockSize stats) (block : ℤ) :
    block ∈ selectedBlocks ops stats threshold ↔
      Reaches ops matching blockSize threshold block := by
  rw [selectedBlocks, List.mem_filter, Reaches, ← counted.blocks]
  exact and_congr_right fun inside => by rw [counted.frequency block inside]

theorem selectedBlocks_nodup {matching : List Row} {stats : Stats Number}
    (counted : Counted ops matching blockSize stats) (threshold : Number) :
    (selectedBlocks ops stats threshold).Nodup :=
  counted.nodup.filter _

end BlockStats

/-! ### Groups of preworkload blocks -/

theorem Grouped.lookup_append (grouped : Grouped) (key key' : RunKey) (driveId driveId' : String)
    (block : ℤ) :
    ((((grouped.append key driveId block).lookup key').getD ∅).lookup driveId').getD [] =
      (((grouped.lookup key').getD ∅).lookup driveId').getD [] ++
        if key' = key ∧ driveId' = driveId then [block] else [] := by
  unfold Grouped.append
  rcases eq_or_ne key' key with rfl | different
  · rw [AList.lookup_insert]
    rcases eq_or_ne driveId' driveId with rfl | other
    · simp
    · simp [AList.lookup_insert_ne other, other]
  · simp [AList.lookup_insert_ne different, different]

theorem Grouped.mem_union (grouped : Grouped) (driveId : String) (block : ℤ) :
    block ∈ grouped.union driveId ↔
      ∃ key, block ∈ (((grouped.lookup key).getD ∅).lookup driveId).getD [] := by
  rw [Grouped.union, List.mem_dedup, List.mem_flatMap]
  constructor
  · rintro ⟨entry, inside, member⟩
    refine ⟨entry.1, ?_⟩
    rw [AList.mem_lookup_iff.mpr
      (show (⟨entry.1, entry.2⟩ : Sigma _) ∈ grouped.entries from inside)]
    exact member
  · rintro ⟨key, member⟩
    cases found : grouped.lookup key with
    | none => simp [found] at member
    | some drives =>
        rw [found] at member
        exact ⟨⟨key, drives⟩, AList.mem_lookup_iff.mp found, member⟩

theorem buildPhaseDriveSets_union {rows : List Row} {blockSize : ℤ} {phase : Phase}
    {grouped : Grouped} (ended : buildPhaseDriveSets rows blockSize phase = .ok grouped)
    (driveId : String) (block : ℤ) : block ∈ grouped.union driveId ↔
      ∃ row ∈ rows, row.phase = phase.name ∧ row.driveId = driveId ∧ driveId ∈ lowerDriveIds ∧
        Reads blockSize block row := by
  have located : ∀ key driveId block,
      block ∈ (((grouped.lookup key).getD ∅).lookup driveId).getD [] ↔
        ∃ row ∈ rows, rowRunKey row = key ∧ row.phase = phase.name ∧ row.driveId = driveId ∧
          driveId ∈ lowerDriveIds ∧ Reads blockSize block row := by
    refine FallibleFold.invariant (fun visited (grouped : Grouped) => ∀ key driveId block,
      block ∈ (((grouped.lookup key).getD ∅).lookup driveId).getD [] ↔
        ∃ row ∈ visited, rowRunKey row = key ∧ row.phase = phase.name ∧ row.driveId = driveId ∧
          driveId ∈ lowerDriveIds ∧ Reads blockSize block row) ?_ ?_ ended
    · intro past row rest grouped after _ located step key driveId block
      split at step
      next other =>
        cases step
        rw [located]
        grind
      next here =>
        split at step
        next elsewhere =>
          cases step
          rw [located]
          grind
        next lower =>
          obtain ⟨read, reads, step⟩ := FallibleFold.bind_ok step
          cases step
          have only := Reads.only reads
          rw [Grouped.lookup_append, List.mem_append, located]
          grind
    · intro key driveId block
      simp
  rw [Grouped.mem_union]
  simp only [located]
  grind

/-! ### Selections -/

variable {args : Args Number} {rows : List Row}

def PreworkloadBlock (args : Args Number) (rows : List Row) (driveId : String) (block : ℤ) : Prop :=
  driveId ∈ lowerDriveIds ∧ ∃ row ∈ rows, row.phase = "preworkload" ∧ row.driveId = driveId ∧
    row.taskId = args.instanceId ∧ Reads args.blockSize block row

/-- Workload blocks of a drive which reach a threshold over the tasks of a scope. -/
def WorkloadBlock (args : Args Number) (rows : List Row) (scope : Scope) (threshold : Number)
    (driveId : String) (block : ℤ) : Prop :=
  driveId ∈ lowerDriveIds ∧
    Reaches ops (matchingRows rows args.instanceId scope .workload driveId) args.blockSize threshold
      block

def CommonBlock (args : Args Number) (rows : List Row) (driveId : String) (block : ℤ) : Prop :=
  driveId = "rootfs" ∧ WorkloadBlock ops args rows .all args.commonThreshold "rootfs" block

def SameRepoBlock (args : Args Number) (rows : List Row) (driveId : String) (block : ℤ) : Prop :=
  WorkloadBlock ops args rows .sameRepo (args.sameRepoThresholds driveId) driveId block

def SameTaskBlock (args : Args Number) (rows : List Row) (driveId : String) (block : ℤ) : Prop :=
  WorkloadBlock ops args rows .sameTask (args.sameTaskThresholds driveId) driveId block

/-- One pass over the drives: its ranges cover what it reports as selected. -/
structure Pass (output : List RangeRow × Selected) (selection : String → ℤ → Prop) : Prop where
  covers : Covers output.1 selection
  selected : ∀ driveId block, block ∈ output.2 driveId ↔ selection driveId block

theorem pass_nil : Pass ([], fun _ => []) fun driveId _ =>
    driveId ∈ ([] : List String) ∧ False := by
  constructor
  · constructor <;> simp [expand]
  · simp

theorem Pass.visit {output : List RangeRow × Selected} {visited : List String}
    {selection : String → ℤ → Prop} {driveId : String} {blocks : List ℤ}
    (pass : Pass output fun drive block => drive ∈ visited ∧ selection drive block)
    (fresh : driveId ∉ visited) (nodup : blocks.Nodup)
    (chosen : ∀ block, block ∈ blocks ↔ selection driveId block) (stats : Stats Number)
    (phase : Phase) :
    Pass (output.1 ++ rangeRows driveId (orderedBlocks ops blocks stats phase driveId),
        Function.update output.2 driveId blocks)
      fun drive block => drive ∈ visited ++ [driveId] ∧ selection drive block := by
  constructor
  · refine (pass.covers.append (covers_orderedBlocks ops nodup stats phase driveId) ?_).congr ?_
    · rintro drive block ⟨inside, _⟩ ⟨rfl, _⟩
      exact fresh inside
    · intro drive block
      simp only [List.mem_append, List.mem_singleton, chosen]
      grind
  · intro drive block
    simp only [List.mem_append, List.mem_singleton, Function.update_apply]
    split
    next same =>
      subst same
      simp [chosen]
    next different => simp [pass.selected, different]

theorem fresh_of_lowerDriveIds {past rest : List String} {driveId : String}
    (whole : lowerDriveIds = past ++ driveId :: rest) :
    driveId ∉ past ∧ driveId ∈ lowerDriveIds := by
  have nodup : lowerDriveIds.Nodup := by decide
  rw [whole, List.nodup_append] at nodup
  exact ⟨fun inside => nodup.2.2 driveId inside driveId (by simp) rfl, by simp [whole]⟩

theorem preworkloadUnionRows_pass {output : List RangeRow × Selected}
    (ended : preworkloadUnionRows ops rows args.blockSize args.instanceId = .ok output) :
    Pass output (PreworkloadBlock args rows) := by
  unfold preworkloadUnionRows at ended
  simp only at ended
  obtain ⟨grouped, built, ended⟩ := FallibleFold.bind_ok ended
  have chosen : ∀ driveId ∈ lowerDriveIds, ∀ block,
      block ∈ grouped.union driveId ↔ PreworkloadBlock args rows driveId block := by
    intro driveId lower block
    rw [buildPhaseDriveSets_union built, PreworkloadBlock]
    simp only [List.mem_filter, Bool.and_eq_true, beq_iff_eq, decide_eq_true_eq, Phase.name]
    grind
  have pass := FallibleFold.invariant (fun visited (output : List RangeRow × Selected) =>
    Pass output fun drive block => drive ∈ visited ∧ PreworkloadBlock args rows drive block)
    (fun whole pass step => by
      obtain ⟨fresh, lower⟩ := fresh_of_lowerDriveIds whole
      obtain ⟨stats, _, step⟩ := FallibleFold.bind_ok step
      cases step
      exact pass.visit ops fresh (List.nodup_dedup _) (chosen _ lower) stats .preworkload)
    (by simpa using pass_nil) ended
  exact ⟨pass.covers.congr fun _ _ => and_iff_right_of_imp (·.1),
    fun drive block => (pass.selected drive block).trans (and_iff_right_of_imp (·.1))⟩

theorem workloadRows_pass {output : List RangeRow × Selected} {scope : Scope}
    {thresholds : String → Number} {already : Selected}
    (ended : workloadRows ops rows args.blockSize args.instanceId scope thresholds already =
      .ok output) :
    Pass output fun driveId block =>
      WorkloadBlock ops args rows scope (thresholds driveId) driveId block ∧
        block ∉ already driveId := by
  have pass := FallibleFold.invariant (fun visited (output : List RangeRow × Selected) =>
    Pass output fun drive block => drive ∈ visited ∧
      WorkloadBlock ops args rows scope (thresholds drive) drive block ∧ block ∉ already drive)
    (fun {past driveId rest state after} whole pass step => by
      obtain ⟨fresh, lower⟩ := fresh_of_lowerDriveIds whole
      obtain ⟨stats, counted, step⟩ := FallibleFold.bind_ok step
      cases step
      have counted := blockStats_counted ops counted
      refine pass.visit ops fresh ((selectedBlocks_nodup ops counted _).filter _)
        (fun block => ?_) stats .workload
      rw [List.mem_filter, mem_selectedBlocks ops counted, WorkloadBlock]
      simp [lower])
    (by simpa using pass_nil) ended
  exact ⟨pass.covers.congr fun _ _ => and_iff_right_of_imp (·.1.1),
    fun drive block => (pass.selected drive block).trans (and_iff_right_of_imp (·.1.1))⟩

theorem mem_mergeSelected (first second : Selected) (driveId : String) (block : ℤ) :
    block ∈ mergeSelected [first, second] driveId ↔
      block ∈ first driveId ∨ block ∈ second driveId := by
  simp [mergeSelected]

/-- The laws of the three files. -/
structure TierLaws (args : Args Number) (rows : List Row) (outputs : Outputs) : Prop where
  /-- No block occurs twice in the three files. -/
  nodup : (expand (outputs.tier0Common ++ outputs.tier1SameRepo ++ outputs.tier2SameTask)).Nodup
  /-- Tier 0 is the preworkload of the instance and the common rootfs blocks. -/
  tier0 : ∀ driveId block, (driveId, block) ∈ expand outputs.tier0Common ↔
    PreworkloadBlock args rows driveId block ∨ CommonBlock ops args rows driveId block
  /-- Tier 1 is what the tasks of the repository share, without tier 0. -/
  tier1 : ∀ driveId block, (driveId, block) ∈ expand outputs.tier1SameRepo ↔
    SameRepoBlock ops args rows driveId block ∧ (driveId, block) ∉ expand outputs.tier0Common
  /-- Tier 2 is what the runs of the task share, without tiers 0 and 1. -/
  tier2 : ∀ driveId block, (driveId, block) ∈ expand outputs.tier2SameTask ↔
    SameTaskBlock ops args rows driveId block ∧ (driveId, block) ∉ expand outputs.tier0Common ∧
      (driveId, block) ∉ expand outputs.tier1SameRepo
  /-- Together they cover the four selections. -/
  union : ∀ driveId block,
    (driveId, block) ∈
        expand (outputs.tier0Common ++ outputs.tier1SameRepo ++ outputs.tier2SameTask) ↔
      PreworkloadBlock args rows driveId block ∨ CommonBlock ops args rows driveId block ∨
        SameRepoBlock ops args rows driveId block ∨ SameTaskBlock ops args rows driveId block

/-- Files which cover disjoint parts of the four selections in turn obey the laws. -/
theorem tierLaws_of_covers {outputs : Outputs}
    (tier0 : Covers outputs.tier0Common fun driveId block =>
      PreworkloadBlock args rows driveId block ∨ CommonBlock ops args rows driveId block)
    (tier1 : Covers outputs.tier1SameRepo fun driveId block =>
      SameRepoBlock ops args rows driveId block ∧
        ¬ (PreworkloadBlock args rows driveId block ∨ CommonBlock ops args rows driveId block))
    (tier2 : Covers outputs.tier2SameTask fun driveId block =>
      SameTaskBlock ops args rows driveId block ∧
        ¬ ((PreworkloadBlock args rows driveId block ∨ CommonBlock ops args rows driveId block) ∨
          SameRepoBlock ops args rows driveId block)) :
    TierLaws ops args rows outputs := by
  have tier01 := tier0.rest tier1
  have tier012 := tier01.rest tier2
  refine ⟨tier012.nodup, tier0.mem_iff, fun driveId block => ?_, fun driveId block => ?_,
    fun driveId block => ?_⟩
  · rw [tier1.mem_iff, tier0.mem_iff]
  · rw [tier2.mem_iff, ← tier01.mem_iff, mem_expand_append, not_or]
  · rw [tier012.mem_iff, or_assoc, or_assoc]

theorem buildTiers_laws {outputs : Outputs} (written : buildTiers ops args rows = .ok outputs) :
    TierLaws ops args rows outputs := by
  obtain ⟨preworkload, preworkload_ended, written⟩ := FallibleFold.bind_ok written
  obtain ⟨stats, counted, written⟩ := FallibleFold.bind_ok written
  obtain ⟨tier1, tier1_ended, written⟩ := FallibleFold.bind_ok written
  obtain ⟨tier2, tier2_ended, written⟩ := FallibleFold.bind_ok written
  cases written
  have preworkload_pass := preworkloadUnionRows_pass ops preworkload_ended
  have counted := blockStats_counted ops counted
  have pass1 := workloadRows_pass ops tier1_ended
  have pass2 := workloadRows_pass ops tier2_ended
  have common : ∀ block, block ∈ (selectedBlocks ops stats args.commonThreshold).filter
      (· ∉ preworkload.2 "rootfs") ↔ CommonBlock ops args rows "rootfs" block ∧
        ¬ PreworkloadBlock args rows "rootfs" block := by
    intro block
    rw [List.mem_filter, mem_selectedBlocks ops counted, decide_eq_true_eq,
      preworkload_pass.selected, CommonBlock, WorkloadBlock]
    simp [lowerDriveIds]
  have selected0 : ∀ driveId block, block ∈ mergeSelected [preworkload.2,
      Function.update (fun _ => []) "rootfs" ((selectedBlocks ops stats
        args.commonThreshold).filter (· ∉ preworkload.2 "rootfs"))] driveId ↔
      PreworkloadBlock args rows driveId block ∨ CommonBlock ops args rows driveId block := by
    intro driveId block
    rw [mem_mergeSelected, preworkload_pass.selected]
    rcases eq_or_ne driveId "rootfs" with rfl | other
    · rw [Function.update_self, common]
      tauto
    · simp [CommonBlock, other]
  refine tierLaws_of_covers ops ?_ ?_ ?_
  · refine (preworkload_pass.covers.append (covers_orderedBlocks ops
      ((selectedBlocks_nodup ops counted _).filter _) stats .workload "rootfs") ?_).congr ?_
    · rintro driveId block selected ⟨rfl, inside⟩
      exact ((common block).mp inside).2 selected
    · intro driveId block
      rw [common]
      constructor
      · rintro (selected | ⟨rfl, selected, _⟩)
        · exact .inl selected
        · exact .inr selected
      · rintro (selected | selected)
        · exact .inl selected
        · obtain rfl := selected.1
          tauto
  · exact pass1.covers.congr fun driveId block => and_congr_right fun _ => not_congr
      (selected0 driveId block)
  · refine pass2.covers.congr fun driveId block => and_congr_right fun _ => not_congr ?_
    rw [mem_mergeSelected, selected0, pass1.selected, selected0, SameRepoBlock]
    tauto

section Ends

variable {blockSize : ℤ} {instanceId : String}
  (parses : ∀ row ∈ rows, ∃ block, Reads blockSize block row)
include parses

theorem buildPhaseDriveSets_ends (phase : Phase) :
    ∃ grouped, buildPhaseDriveSets rows blockSize phase = .ok grouped := by
  refine FallibleFold.ends (fun grouped row inside => ?_) ∅
  obtain ⟨block, reads⟩ := parses row inside
  split
  · exact ⟨_, rfl⟩
  · split
    · exact ⟨_, rfl⟩
    · exact ⟨_, by rw [reads]; rfl⟩

theorem preworkloadUnionRows_ends :
    ∃ output, preworkloadUnionRows ops rows blockSize instanceId = .ok output := by
  have kept : ∀ row ∈ rows.filter (fun row => row.phase == Phase.preworkload.name &&
      decide (row.driveId ∈ lowerDriveIds) && row.taskId == instanceId),
      ∃ block, Reads blockSize block row :=
    fun row inside => parses row (List.mem_of_mem_filter inside)
  obtain ⟨grouped, built⟩ := buildPhaseDriveSets_ends kept .preworkload
  unfold preworkloadUnionRows
  simp only [built]
  refine FallibleFold.ends (fun output driveId _ => ?_) ([], fun _ => [])
  obtain ⟨stats, counted⟩ := blockStats_ends ops kept
  exact ⟨_, by rw [counted]; rfl⟩

theorem workloadRows_ends (scope : Scope) (thresholds : String → Number) (already : Selected) :
    ∃ output, workloadRows ops rows blockSize instanceId scope thresholds already = .ok output := by
  refine FallibleFold.ends (fun output driveId _ => ?_) ([], fun _ => [])
  obtain ⟨stats, counted⟩ := blockStats_ends ops parses
  exact ⟨_, by rw [counted]; rfl⟩

end Ends

theorem buildTiers_ends (parses : ∀ row ∈ rows, ∃ block, Reads args.blockSize block row) :
    ∃ outputs, buildTiers ops args rows = .ok outputs := by
  obtain ⟨preworkload, first⟩ := preworkloadUnionRows_ends ops parses
  obtain ⟨stats, second⟩ := blockStats_ends ops parses
  unfold buildTiers
  rw [first]
  simp only [bind, Except.bind]
  rw [second]
  simp only
  obtain ⟨tier1, third⟩ := workloadRows_ends ops parses .sameRepo args.sameRepoThresholds _
  rw [third]
  simp only
  obtain ⟨tier2, fourth⟩ := workloadRows_ends ops parses .sameTask args.sameTaskThresholds _
  rw [fourth]
  exact ⟨_, rfl⟩

/-- The files which `main` writes obey the laws, and it writes them if every offset is a number. -/
theorem main_tiers (positive : 0 < args.blockSize) (nonempty : rows ≠ []) :
    (∀ outputs, main ops args rows = .ok outputs → TierLaws ops args rows outputs) ∧
      ((∀ row ∈ rows, (Python.int row.offset.toList).isSome) →
        ∃ outputs, main ops args rows = .ok outputs) := by
  have passes : main ops args rows = buildTiers ops args rows := by
    rw [main, if_neg (not_le.mpr positive), if_neg nonempty]
  rw [passes]
  refine ⟨fun outputs => buildTiers_laws ops,
    fun numbers => buildTiers_ends ops fun row inside => ?_⟩
  obtain ⟨offset, number⟩ := Option.isSome_iff_exists.mp (numbers row inside)
  exact ⟨_, reads_iff.mpr ⟨offset, number, rfl⟩⟩

/-- Exact rational arithmetic. -/
def exact : FloatOps ℚ where
  ratio hits runs := (hits : ℚ) / runs
  zero := 0
  atLeast left right := decide (right ≤ left)
  less left right := decide (left < right)

/-- Two runs of a task and one run of another task of its repository. -/
def sampleRows : List Row :=
  [⟨"repo-1", "a", "preworkload", "rootfs", "0"⟩, ⟨"repo-1", "a", "workload", "rootfs", "4096"⟩,
    ⟨"repo-1", "b", "workload", "rootfs", "8192"⟩, ⟨"repo-2", "c", "workload", "workspace", "0"⟩]

def sampleArgs : Args ℚ :=
  ⟨"repo-1", 4096, 1 / 2, none, none, none, none, none⟩

theorem main_tiers_sample : ∃ outputs, main exact sampleArgs sampleRows = .ok outputs ∧
    TierLaws exact sampleArgs sampleRows outputs := by
  have laws := main_tiers exact (show 0 < sampleArgs.blockSize by decide)
    (show sampleRows ≠ [] by decide)
  obtain ⟨outputs, written⟩ := laws.2 (by decide)
  exact ⟨outputs, written, laws.1 outputs written⟩

end Prefetch
end HermOS
