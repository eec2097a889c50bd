import HermOS.Library.BlockRange
import HermOS.Library.FallibleFold
import HermOS.Trace.FileReads
import Mathlib.Algebra.BigOperators.Group.List.Lemmas
import Mathlib.Algebra.Ring.Nat
import Mathlib.Data.Finset.Card
import Mathlib.Data.Int.ConditionallyCompleteOrder
import Mathlib.Order.ConditionallyCompleteLattice.Basic

/-!
# Accounting for the blocks read

What `collect_file_reads.py` writes of a trace.  The loop sees only the first read of each block,
and each of its outputs is a function of the list of first reads, whatever was read in between.
-/

namespace HermOS
namespace Trace

open Python (Text)

/-! ### Looking up a block -/

/-- The block of a row, if `int` reads it. -/
def AtlasRecord.key? (record : AtlasRecord) : Option Key :=
  (Python.int record.blockId).map (record.driveId, ·)

/-- The entries of a block, in the order of the rows. -/
def entriesAt (atlas : List AtlasRecord) (key : Key) : List Entry :=
  (atlas.filter (·.key? = some key)).map (·.entry)

/-- The rows visited so far are grouped. -/
structure Groups (visited : List AtlasRecord) (grouped : Grouped) : Prop where
  drives : ∀ driveId, driveId ∈ grouped ↔ ∃ record ∈ visited, record.driveId = driveId
  entries : ∀ driveId block,
    (((grouped.lookup driveId).getD ∅).lookup block).getD [] = entriesAt visited (driveId, block)

theorem groups_empty : Groups [] ∅ where
  drives := by simp
  entries driveId block := by simp [entriesAt]

theorem entriesAt_concat (atlas : List AtlasRecord) (record : AtlasRecord) (key : Key) :
    entriesAt (atlas ++ [record]) key =
      entriesAt atlas key ++ if record.key? = some key then [record.entry] else [] := by
  unfold entriesAt
  rw [List.filter_append, List.map_append]
  congr 1
  by_cases same : record.key? = some key <;> simp [same]

theorem Groups.addRecord {visited : List AtlasRecord} {grouped after : Grouped}
    {record : AtlasRecord} (groups : Groups visited grouped)
    (added : grouped.addRecord record = .ok after) : Groups (visited ++ [record]) after := by
  unfold Grouped.addRecord at added
  split at added
  next block number =>
    cases added
    have own : record.key? = some (record.driveId, block) := by
      rw [AtlasRecord.key?, number, Option.map_some]
    constructor
    · intro driveId
      rw [Grouped.append, AList.mem_insert, groups.drives]
      simp [or_and_right, exists_or, or_comm, eq_comm]
    · intro driveId other
      rw [entriesAt_concat, own, ← groups.entries, Grouped.append]
      rcases eq_or_ne driveId record.driveId with rfl | apart
      · rw [AList.lookup_insert, Option.getD_some]
        rcases eq_or_ne other block with rfl | apart
        · simp
        · simp [AList.lookup_insert_ne apart, apart.symm]
      · simp [AList.lookup_insert_ne apart, apart.symm]
  next => cases added

theorem mem_items {blocks : AList fun _ : ℤ => List Entry} {block : ℤ} {entries : List Entry} :
    (block, entries) ∈ (Index.ofBlocks blocks).items ↔ blocks.lookup block = some entries := by
  rw [← Option.mem_def, AList.mem_lookup_iff, Index.ofBlocks, List.mem_mergeSort, List.mem_map]
  constructor
  · rintro ⟨⟨_, _⟩, inside, same⟩
    cases same
    exact inside
  · exact fun inside => ⟨_, inside, rfl⟩

theorem sorted_blockIds (blocks : AList fun _ : ℤ => List Entry) :
    (Index.ofBlocks blocks).blockIds.SortedLE := by
  rw [List.sortedLE_iff_pairwise, Index.ofBlocks, List.pairwise_map]
  refine (List.pairwise_mergeSort (fun left middle right => ?_) (fun left right => ?_) _).imp
    of_decide_eq_true
  · simp only [decide_eq_true_eq]
    exact le_trans
  · simp only [Bool.or_eq_true, decide_eq_true_eq]
    exact le_total left.1 right.1

/-- The binary search finds what was grouped. -/
theorem lookupEntries_ofBlocks (blocks : AList fun _ : ℤ => List Entry) (block : ℤ) :
    lookupEntries (.ofBlocks blocks) block = (blocks.lookup block).getD [] := by
  have ids : (Index.ofBlocks blocks).blockIds = (Index.ofBlocks blocks).items.map Prod.fst := rfl
  have place := @Bisect.getElem?_bisectLeft ℤ _ _ block (sorted_blockIds blocks)
  rw [ids, List.getElem?_map] at place
  rw [lookupEntries, ids]
  cases found : (Index.ofBlocks blocks).items[Bisect.bisectLeft
      ((Index.ofBlocks blocks).items.map Prod.fst) block]? with
  | none =>
      rw [found] at place
      cases known : blocks.lookup block with
      | none => rfl
      | some entries =>
          have listed := place.mpr (List.mem_map_of_mem (mem_items.mpr known))
          cases listed
  | some item =>
      rw [found, Option.map_some, Option.some_inj] at place
      obtain ⟨first, entries⟩ := item
      dsimp only at place ⊢
      split
      next same =>
        subst same
        rw [mem_items.mp (List.mem_of_getElem? found)]
        rfl
      next apart =>
        cases known : blocks.lookup block with
        | none => rfl
        | some entries => exact absurd (place.mpr (List.mem_map_of_mem (mem_items.mpr known))) apart

def indexedEntries (indexes : Text → Option Index) (key : Key) : List Entry :=
  match indexes key.1 with
  | none => []
  | some index => lookupEntries index key.2

/-- The indexes hold the rows of the atlas. -/
structure Indexes (atlas : List AtlasRecord) (indexes : Text → Option Index) : Prop where
  drives : ∀ driveId, (indexes driveId).isSome ↔ ∃ record ∈ atlas, record.driveId = driveId
  entries : ∀ key, indexedEntries indexes key = entriesAt atlas key

theorem indexes_loadBlockIndexes {atlas : List AtlasRecord} {indexes : Text → Option Index}
    (loaded : loadBlockIndexes atlas = .ok indexes) : Indexes atlas indexes := by
  obtain ⟨grouped, ended, same⟩ := FallibleFold.bind_ok loaded
  cases same
  have groups : Groups atlas grouped := FallibleFold.invariant Groups
    (fun _ groups added => groups.addRecord added) groups_empty ended
  constructor
  · intro driveId
    rw [Option.isSome_map, AList.lookup_isSome, groups.drives]
  · rintro ⟨driveId, block⟩
    rw [← groups.entries, indexedEntries]
    cases grouped.lookup driveId with
    | none => simp
    | some blocks => exact lookupEntries_ofBlocks blocks block

/-- The indexes are built if each block is a number. -/
theorem loadBlockIndexes_ends {atlas : List AtlasRecord}
    (numbered : ∀ record ∈ atlas, record.key? ≠ none) :
    ∃ indexes, loadBlockIndexes atlas = .ok indexes := by
  have total : ∀ grouped, ∀ record ∈ atlas,
      ∃ after, Grouped.addRecord grouped record = .ok after := by
    intro grouped record inside
    obtain ⟨key, number⟩ := Option.ne_none_iff_exists'.mp (numbered record inside)
    obtain ⟨block, number, _⟩ := Option.map_eq_some_iff.mp number
    exact ⟨_, by rw [Grouped.addRecord, number]⟩
  obtain ⟨grouped, ended⟩ := FallibleFold.ends total ∅
  exact ⟨_, by rw [loadBlockIndexes, ended]; rfl⟩

/-! ### First reads -/

/-- The reads of blocks which were not read before. -/
def firstReads (reads : List (ℤ × Key)) : List (ℤ × Key) :=
  reads.foldl (fun kept read => if read.2 ∈ kept.map Prod.snd then kept else kept ++ [read]) []

theorem firstReads_concat (reads : List (ℤ × Key)) (read : ℤ × Key) :
    firstReads (reads ++ [read]) =
      if read.2 ∈ (firstReads reads).map Prod.snd then firstReads reads
      else firstReads reads ++ [read] := by
  rw [firstReads, List.foldl_append]
  rfl

theorem mem_keys_firstReads {reads : List (ℤ × Key)} {key : Key} :
    key ∈ (firstReads reads).map Prod.snd ↔ key ∈ reads.map Prod.snd := by
  induction reads using List.reverseRecOn generalizing key with
  | nil => rfl
  | append_singleton reads read ih =>
      rw [firstReads_concat]
      split
      next known =>
        rw [ih] at known
        rw [List.map_append, List.mem_append, ih]
        refine (or_iff_left_of_imp fun last => ?_).symm
        rwa [List.mem_singleton.mp last]
      next => simp only [List.map_append, List.mem_append, ih, List.map_singleton]

theorem nodup_firstReads (reads : List (ℤ × Key)) : ((firstReads reads).map Prod.snd).Nodup := by
  induction reads using List.reverseRecOn with
  | nil => exact List.nodup_nil
  | append_singleton reads read ih =>
      rw [firstReads_concat]
      split
      next => exact ih
      next fresh =>
        rw [List.map_append, List.map_singleton]
        exact List.nodup_append'.mpr ⟨ih, List.nodup_singleton _, List.disjoint_singleton.mpr fresh⟩

/-- With `seen_blocks`, only first reads reach the rest of the loop. -/
theorem foldl_visit_firstReads (indexes : Text → Option Index) (labels : RunLabels)
    (reads : List (ℤ × Key)) :
    (∀ key, key ∈ (reads.foldl (Scan.visit indexes labels) ⟨[], .empty⟩).seenBlocks ↔
      key ∈ (firstReads reads).map Prod.snd) ∧
    (reads.foldl (Scan.visit indexes labels) ⟨[], .empty⟩).collected =
      (firstReads reads).foldl (collectBlock indexes labels) .empty := by
  induction reads using List.reverseRecOn with
  | nil => exact ⟨fun key => Iff.rfl, rfl⟩
  | append_singleton reads read ih =>
      obtain ⟨seen, collected⟩ := ih
      rw [List.foldl_append, firstReads_concat, List.foldl_cons, List.foldl_nil, Scan.visit]
      by_cases known : read.2 ∈ (firstReads reads).map Prod.snd
      · rw [if_pos ((seen read.2).mpr known), if_pos known]
        exact ⟨seen, collected⟩
      · rw [if_neg fun old => known ((seen read.2).mp old), if_neg known, List.foldl_append,
          collected]
        refine ⟨fun key => ?_, rfl⟩
        rw [List.mem_cons, seen, List.map_append, List.mem_append, List.map_singleton,
          List.mem_singleton, or_comm]

/-! ### The outputs -/

/-- The files of a read, with its time. -/
def fileTouches (entries : Key → List Entry) (read : ℤ × Key) : List (ℤ × FileKey) :=
  ((entries read.2).filter (·.blockClass = fileData)).map fun entry =>
    (read.1, read.2.1, entry.path, entry.inode)

/-- The classes of a read. -/
def classTouches (entries : Key → List Entry) (read : ℤ × Key) : List ClassKey :=
  ((entries read.2).map (·.blockClass)).eraseDups.map (read.2.1, ·)

/-- What the loop has written, in terms of the first reads. -/
structure Tallied (indexes : Text → Option Index) (labels : RunLabels) (firsts : List (ℤ × Key))
    (collected : Collected) : Prop where
  unmapped : collected.unmappedRows = (firsts.filter fun read =>
    (indexes read.2.1).isSome && (indexedEntries indexes read.2).isEmpty).map fun read =>
      ⟨labels, read.1, read.2⟩
  blocks : collected.blockRows = firsts.flatMap fun read =>
    (indexedEntries indexes read.2).map (⟨labels, read.1, read.2, ·⟩)
  files : collected.summary = (firsts.flatMap (fileTouches (indexedEntries indexes))).foldl
    (fun summary touch => countFile summary touch.1 touch.2) ∅
  classes : collected.classSummary = (firsts.flatMap (classTouches (indexedEntries indexes))).foldl
    countClass ∅

theorem foldl_collectEntry (labels : RunLabels) (read : ℤ × Key) (entries : Key → List Entry)
    (collected : Collected) :
    (entries read.2).foldl (collectEntry labels read.1 read.2) collected =
      { collected with
        blockRows := collected.blockRows ++
          (entries read.2).map (⟨labels, read.1, read.2, ·⟩)
        summary := (fileTouches entries read).foldl
          (fun summary touch => countFile summary touch.1 touch.2) collected.summary } := by
  unfold fileTouches
  induction entries read.2 generalizing collected with
  | nil => simp
  | cons entry entries ih =>
      rw [List.foldl_cons, ih]
      by_cases file : entry.blockClass = fileData <;> simp [collectEntry, file]

theorem Tallied.collectBlock {indexes : Text → Option Index} {labels : RunLabels}
    {firsts : List (ℤ × Key)} {collected : Collected}
    (tallied : Tallied indexes labels firsts collected) (read : ℤ × Key) :
    Tallied indexes labels (firsts ++ [read]) (collectBlock indexes labels collected read) := by
  obtain ⟨unmapped, blocks, files, classes⟩ := tallied
  -- Without an index nothing is added, and without entries only the unmapped row is.
  cases drive : indexes read.2.1 with
  | none =>
      have none : indexedEntries indexes read.2 = [] := by rw [indexedEntries, drive]
      have same : Trace.collectBlock indexes labels collected read = collected := by
        rw [Trace.collectBlock, drive]
      rw [same]
      constructor
      · simp [unmapped, drive]
      · simp [blocks, none]
      · simp [files, fileTouches, none]
      · simp [classes, classTouches, none]
  | some index =>
      have found : indexedEntries indexes read.2 = lookupEntries index read.2.2 := by
        rw [indexedEntries, drive]
      cases entries : lookupEntries index read.2.2 with
      | nil =>
          have same : Trace.collectBlock indexes labels collected read = { collected with
              unmappedRows := collected.unmappedRows ++ [⟨labels, read.1, read.2⟩] } := by
            rw [Trace.collectBlock, drive]
            simp only [entries]
          rw [same]
          constructor
          · simp [unmapped, drive, found, entries]
          · simp [blocks, found, entries]
          · simp [files, fileTouches, found, entries]
          · simp [classes, classTouches, found, entries]
      | cons entry others =>
          have same : Trace.collectBlock indexes labels collected read =
              { unmappedRows := collected.unmappedRows
                blockRows := collected.blockRows ++
                  (indexedEntries indexes read.2).map (⟨labels, read.1, read.2, ·⟩)
                summary := (fileTouches (indexedEntries indexes) read).foldl
                  (fun summary touch => countFile summary touch.1 touch.2) collected.summary
                classSummary := (classTouches (indexedEntries indexes) read).foldl countClass
                  collected.classSummary } := by
            have loop := foldl_collectEntry labels read (indexedEntries indexes) collected
            rw [found, entries] at loop
            rw [Trace.collectBlock, drive]
            simp only [entries, loop, classTouches, found]
          rw [same]
          constructor
          · simp [unmapped, found, entries]
          · simp [blocks]
          · simp [files]
          · simp [classes]

theorem tallied_foldl (indexes : Text → Option Index) (labels : RunLabels)
    (firsts : List (ℤ × Key)) :
    Tallied indexes labels firsts (firsts.foldl (collectBlock indexes labels) .empty) := by
  induction firsts using List.reverseRecOn with
  | nil => exact ⟨rfl, rfl, rfl, rfl⟩
  | append_singleton firsts read ih =>
      rw [List.foldl_append]
      exact ih.collectBlock read

/-! ### Counting -/

theorem lookup_foldl_countClass (touches : List ClassKey) (key : ClassKey) :
    (touches.foldl countClass ∅).lookup key =
      if key ∈ touches then some (touches.count key) else none := by
  induction touches using List.reverseRecOn with
  | nil => rfl
  | append_singleton touches touch ih =>
      rw [List.foldl_append, List.foldl_cons, List.foldl_nil, countClass]
      rcases eq_or_ne key touch with rfl | apart
      · rw [AList.lookup_insert, ih]
        by_cases known : key ∈ touches
        · simp [known]
        · simp [known, List.count_eq_zero_of_not_mem known]
      · rw [AList.lookup_insert_ne apart, ih]
        simp [apart, List.count_cons_of_ne apart.symm, List.count_append]

/-- The times at which a file was touched. -/
def timesOf (touches : List (ℤ × FileKey)) (file : FileKey) : List ℤ :=
  (touches.filter (·.2 = file)).map Prod.fst

/-- What is counted of a file which was touched at some times. -/
def Counts (times : List ℤ) : Option FileCount → Prop
  | none => times = []
  | some count => count.blocksRead = times.length ∧ count.firstTsNs ∈ times ∧
      ∀ time ∈ times, count.firstTsNs ≤ time

theorem Counts.first {times : List ℤ} (counts : Counts times none) (time : ℤ) :
    Counts (times ++ [time]) (some ⟨time, 1⟩) := by
  have none : times = [] := counts
  simp [Counts, none]

theorem Counts.again {times : List ℤ} {count : FileCount} (counts : Counts times (some count))
    (time : ℤ) : Counts (times ++ [time]) (some
      ⟨if time < count.firstTsNs then time else count.firstTsNs, count.blocksRead + 1⟩) := by
  obtain ⟨length, inside, least⟩ := counts
  refine ⟨by simp [length], ?_, fun other member => ?_⟩
  · dsimp only
    split <;> simp [inside]
  · dsimp only
    rcases List.mem_append.mp member with early | last
    · have := least other early
      split <;> omega
    · obtain rfl := List.mem_singleton.mp last
      split <;> omega

theorem counts_foldl_countFile (touches : List (ℤ × FileKey)) (file : FileKey) :
    Counts (timesOf touches file)
      ((touches.foldl (fun summary touch => countFile summary touch.1 touch.2) ∅).lookup file) := by
  induction touches using List.reverseRecOn with
  | nil => rfl
  | append_singleton touches touch ih =>
      rw [List.foldl_append, List.foldl_cons, List.foldl_nil, countFile]
      rcases eq_or_ne file touch.2 with rfl | apart
      · have times : timesOf (touches ++ [touch]) touch.2 =
            timesOf touches touch.2 ++ [touch.1] := by
          simp [timesOf]
        rw [times]
        split
        next found =>
          rw [found] at ih
          rw [AList.lookup_insert]
          exact ih.first touch.1
        next count found =>
          rw [found] at ih
          rw [AList.lookup_insert]
          exact ih.again touch.1
      · have times : timesOf (touches ++ [touch]) file = timesOf touches file := by
          simp [timesOf, apart.symm]
        rw [times]
        split <;> rwa [AList.lookup_insert_ne apart]

/-! ### Reads of a trace -/

/-- A line which `iter_read_blocks` takes as a read. -/
structure ReadRecord where
  timestampNs : ℤ
  driveId : Text
  offset : ℤ
  length : ℤ

def readRecord? (line : Text) : Option ReadRecord :=
  match Python.split ',' line with
  | [timestampNs, driveId, op, offset, length] =>
      if op ≠ "read".toList then
        none
      else
        match Python.int timestampNs, Python.int offset, Python.int length with
        | some timestampNs, some offset, some length =>
            if length ≤ 0 then none else some ⟨timestampNs, driveId, offset, length⟩
        | _, _, _ => none
  | _ => none

/-- The reads of a trace, in its order. -/
def readRecords (trace : Text) : List ReadRecord :=
  (readLines trace).filterMap readRecord?

/-- The read has a byte of the block. -/
def ReadRecord.Touches (record : ReadRecord) (blockSize : ℤ) (key : Key) : Prop :=
  record.driveId = key.1 ∧ BlockRange.Overlaps record.offset record.length blockSize key.2

theorem iterReadBlocksLine_eq (blockSize : ℤ) (line : Text) :
    iterReadBlocksLine blockSize line = match readRecord? line with
      | none => []
      | some record => (BlockRange.blocks record.offset record.length blockSize).map
          (record.timestampNs, record.driveId, ·) := by
  rw [iterReadBlocksLine, readRecord?]
  rcases Python.split ',' line with
    _ | ⟨timestampNs, _ | ⟨driveId, _ | ⟨op, _ | ⟨offset, _ | ⟨length, _ | ⟨extra, rest⟩⟩⟩⟩⟩⟩
  -- Only a line of five fields is read.
  · rfl
  · rfl
  · rfl
  · rfl
  · rfl
  · dsimp only
    by_cases other : op ≠ "read".toList
    · rw [if_pos other, if_pos other]
    · rw [if_neg other, if_neg other]
      cases Python.int timestampNs with
      | none => rfl
      | some timestampNs =>
          cases Python.int offset with
          | none => rfl
          | some offset =>
              cases Python.int length with
              | none => rfl
              | some length =>
                  dsimp only
                  split <;> rfl
  · rfl

theorem readRecord?_length {line : Text} {record : ReadRecord}
    (read : readRecord? line = some record) : 0 < record.length := by
  rw [readRecord?] at read
  split at read
  next =>
    split at read
    · cases read
    · split at read
      next =>
        split at read
        · cases read
        next positive =>
          cases read
          exact not_le.mp positive
      next => cases read
  next => cases read

/-- Each block which a read touches is visited with the time of the read. -/
theorem mem_iterReadBlocks {trace : Text} {blockSize : ℤ} (positive : 0 < blockSize) {time : ℤ}
    {key : Key} : (time, key) ∈ iterReadBlocks trace blockSize ↔
      ∃ record ∈ readRecords trace, record.timestampNs = time ∧ record.Touches blockSize key := by
  simp only [iterReadBlocks, readRecords, List.mem_flatMap, List.mem_filterMap,
    iterReadBlocksLine_eq]
  constructor
  · rintro ⟨line, inside, visited⟩
    split at visited
    next => cases visited
    next record read =>
      obtain ⟨block, listed, same⟩ := List.mem_map.mp visited
      cases same
      exact ⟨record, ⟨line, inside, read⟩, rfl, rfl,
        (BlockRange.mem_blocks positive (readRecord?_length read)).mp listed⟩
  · rintro ⟨record, ⟨line, inside, read⟩, rfl, drive, overlaps⟩
    refine ⟨line, inside, ?_⟩
    rw [read]
    exact List.mem_map.mpr ⟨key.2,
      (BlockRange.mem_blocks positive (readRecord?_length read)).mpr overlaps, by rw [drive]⟩

theorem mem_keys_iterReadBlocks {trace : Text} {blockSize : ℤ} (positive : 0 < blockSize)
    {key : Key} : key ∈ (iterReadBlocks trace blockSize).map Prod.snd ↔
      ∃ record ∈ readRecords trace, record.Touches blockSize key := by
  rw [List.mem_map]
  constructor
  · rintro ⟨⟨time, _⟩, visited, rfl⟩
    obtain ⟨record, inside, _, touches⟩ := (mem_iterReadBlocks positive).mp visited
    exact ⟨record, inside, touches⟩
  · rintro ⟨record, inside, touches⟩
    exact ⟨(record.timestampNs, key),
      (mem_iterReadBlocks positive).mpr ⟨record, inside, rfl, touches⟩, rfl⟩

/-! ### Accounting -/

/-- The atlas has numbers for its blocks, and one row for each of them at most. -/
structure OneRowPerBlock (atlas : List AtlasRecord) : Prop where
  numbered : ∀ record ∈ atlas, record.key? ≠ none
  single : (atlas.map (·.key?)).Nodup

/-- The row of a block. -/
def AtlasRecord.IsAt (record : AtlasRecord) (key : Key) : Prop :=
  record.driveId = key.1 ∧ Python.int record.blockId = some key.2

instance (record : AtlasRecord) (key : Key) : Decidable (record.IsAt key) :=
  inferInstanceAs (Decidable (_ ∧ _))

/-- The columns which a block row copies; a missing column is empty. -/
structure BlockRow.Carries (row : BlockRow) (record : AtlasRecord) : Prop where
  blockClass : row.entry.blockClass = record.blockClass
  path : row.entry.path = record.path.getD []
  inode : row.entry.inode = record.inode.getD []
  logicalBlock : row.entry.logicalBlock = record.logicalBlock.getD []

/-- Each block read is in one output, and is counted once for its class and for its file. -/
structure Accounts (atlas : List AtlasRecord) (touched : Finset Key) (outputs : Outputs) :
    Prop where
  /-- One unmapped row, if the atlas has no row. -/
  unmapped : ∀ key, (outputs.unmappedRows.map (·.key)).count key =
    if key ∈ touched ∧ ¬ ∃ record ∈ atlas, record.IsAt key then 1 else 0
  /-- One block row, if the atlas has a row. -/
  blocks : ∀ key ∈ touched, ∀ record ∈ atlas, record.IsAt key →
    ∃ row, outputs.blockRows.filter (·.key = key) = [row] ∧ row.Carries record
  blocks_listed : ∀ row ∈ outputs.blockRows,
    row.key ∈ touched ∧ ∃ record ∈ atlas, record.IsAt row.key
  classes_nodup : (outputs.classRows.map (·.key)).Nodup
  classes_listed : ∀ key, key ∈ outputs.classRows.map (·.key) ↔
    ∃ block ∈ touched, ∃ record ∈ atlas, record.IsAt block ∧
      (record.driveId, record.blockClass) = key
  classes : ∀ row ∈ outputs.classRows, row.blocksRead =
    {block ∈ touched | ∃ record ∈ atlas, record.IsAt block ∧
      (record.driveId, record.blockClass) = row.key}.card
  mapped : (outputs.classRows.map (·.blocksRead)).sum =
    {block ∈ touched | ∃ record ∈ atlas, record.IsAt block}.card
  files_nodup : (outputs.summaryRows.map (·.file)).Nodup
  files_listed : ∀ file, file ∈ outputs.summaryRows.map (·.file) ↔
    ∃ block ∈ touched, ∃ record ∈ atlas, record.IsAt block ∧
      record.blockClass = "file_data".toList ∧
      (record.driveId, record.path.getD [], record.inode.getD []) = file
  files : ∀ row ∈ outputs.summaryRows, row.count.blocksRead =
    {block ∈ touched | ∃ record ∈ atlas, record.IsAt block ∧
      record.blockClass = "file_data".toList ∧
      (record.driveId, record.path.getD [], record.inode.getD []) = row.file}.card

/-- What the atlas says about a block. -/
def entryAt (atlas : List AtlasRecord) (key : Key) : Option Entry :=
  (entriesAt atlas key).head?

/-- The file which a block belongs to. -/
def fileAt (atlas : List AtlasRecord) (key : Key) : Option FileKey :=
  ((entryAt atlas key).filter (·.blockClass = fileData)).map fun entry =>
    (key.1, entry.path, entry.inode)

def classAt (atlas : List AtlasRecord) (key : Key) : Option ClassKey :=
  (entryAt atlas key).map fun entry => (key.1, entry.blockClass)

theorem AtlasRecord.isAt_iff {record : AtlasRecord} {key : Key} :
    record.IsAt key ↔ record.key? = some key := by
  obtain ⟨driveId, block⟩ := key
  rw [IsAt, key?, Option.map_eq_some_iff]
  constructor
  · rintro ⟨drive, number⟩
    exact ⟨block, number, by rw [drive]⟩
  · rintro ⟨_, number, same⟩
    cases same
    exact ⟨rfl, number⟩

theorem mem_entriesAt {atlas : List AtlasRecord} {key : Key} {entry : Entry} :
    entry ∈ entriesAt atlas key ↔ ∃ record ∈ atlas, record.IsAt key ∧ record.entry = entry := by
  simp only [entriesAt, List.mem_map, List.mem_filter, decide_eq_true_iff, AtlasRecord.isAt_iff,
    and_assoc]

theorem drive_of_entryAt {atlas : List AtlasRecord} {key : Key} {entry : Entry}
    (found : entryAt atlas key = some entry) : ∃ record ∈ atlas, record.driveId = key.1 := by
  obtain ⟨record, listed, at_key, _⟩ := mem_entriesAt.mp (List.mem_of_mem_head? found)
  exact ⟨record, listed, at_key.1⟩

theorem OneRowPerBlock.entriesAt {atlas : List AtlasRecord} (one : OneRowPerBlock atlas)
    (key : Key) :
    Trace.entriesAt atlas key = (entryAt atlas key).toList := by
  have length : (Trace.entriesAt atlas key).length ≤ 1 := by
    have count := List.nodup_iff_count_le_one.mp one.single (some key)
    rw [List.count, List.countP_map, List.countP_eq_length_filter] at count
    rw [Trace.entriesAt, List.length_map]
    refine le_trans (le_of_eq (congrArg List.length (List.filter_congr fun record _ => ?_))) count
    rw [Bool.eq_iff_iff, decide_eq_true_iff, Function.comp_apply, beq_iff_eq]
  rw [entryAt]
  cases same : Trace.entriesAt atlas key with
  | nil => rfl
  | cons entry entries =>
      rw [same] at length
      obtain rfl := List.length_eq_zero_iff.mp (Nat.le_zero.mp (Nat.le_of_succ_le_succ length))
      rfl

/-! What the atlas says, in the columns of the row of the block. -/

theorem OneRowPerBlock.entryAt_eq_some {atlas : List AtlasRecord} (one : OneRowPerBlock atlas)
    {key : Key} {entry : Entry} :
    entryAt atlas key = some entry ↔ ∃ record ∈ atlas, record.IsAt key ∧ record.entry = entry := by
  rw [← mem_entriesAt, one.entriesAt, Option.mem_toList]

theorem OneRowPerBlock.entryAt_ne_none {atlas : List AtlasRecord} (one : OneRowPerBlock atlas)
    {key : Key} : entryAt atlas key ≠ none ↔ ∃ record ∈ atlas, record.IsAt key := by
  rw [Option.ne_none_iff_exists']
  simp only [one.entryAt_eq_some]
  exact ⟨fun ⟨_, record, listed, at_key, _⟩ => ⟨record, listed, at_key⟩,
    fun ⟨record, listed, at_key⟩ => ⟨_, record, listed, at_key, rfl⟩⟩

theorem OneRowPerBlock.classAt_eq_some {atlas : List AtlasRecord} (one : OneRowPerBlock atlas)
    {block : Key} {key : ClassKey} : classAt atlas block = some key ↔
      ∃ record ∈ atlas, record.IsAt block ∧ (record.driveId, record.blockClass) = key := by
  simp only [classAt, Option.map_eq_some_iff, one.entryAt_eq_some]
  constructor
  · rintro ⟨_, ⟨record, listed, at_block, rfl⟩, rfl⟩
    exact ⟨record, listed, at_block, by rw [at_block.1]; rfl⟩
  · rintro ⟨record, listed, at_block, rfl⟩
    exact ⟨_, ⟨record, listed, at_block, rfl⟩, by rw [at_block.1]; rfl⟩

theorem OneRowPerBlock.fileAt_eq_some {atlas : List AtlasRecord} (one : OneRowPerBlock atlas)
    {block : Key} {file : FileKey} : fileAt atlas block = some file ↔
      ∃ record ∈ atlas, record.IsAt block ∧ record.blockClass = "file_data".toList ∧
        (record.driveId, record.path.getD [], record.inode.getD []) = file := by
  simp only [fileAt, Option.map_eq_some_iff, Option.filter_eq_some_iff, one.entryAt_eq_some,
    decide_eq_true_iff]
  constructor
  · rintro ⟨_, ⟨⟨record, listed, at_block, rfl⟩, data⟩, rfl⟩
    exact ⟨record, listed, at_block, data, by rw [at_block.1]; rfl⟩
  · rintro ⟨record, listed, at_block, data, rfl⟩
    exact ⟨_, ⟨⟨record, listed, at_block, rfl⟩, data⟩, by rw [at_block.1]; rfl⟩

/-- The blocks read on drives which have an atlas. -/
def covered (atlas : List AtlasRecord) (keys : List Key) : Finset Key :=
  keys.toFinset.filter fun key => ∃ record ∈ atlas, record.driveId = key.1

theorem mem_covered {atlas : List AtlasRecord} {keys : List Key} {key : Key} :
    key ∈ covered atlas keys ↔ key ∈ keys ∧ ∃ record ∈ atlas, record.driveId = key.1 := by
  rw [covered, Finset.mem_filter, List.mem_toFinset]

section Accounting

variable {atlas : List AtlasRecord} {indexes : Text → Option Index} {labels : RunLabels}
  {firsts : List (ℤ × Key)} {collected : Collected}

/-- Blocks which have a value on a drive with an atlas are counted once each. -/
theorem count_filterMap {Value : Type} [BEq Value] [LawfulBEq Value] [DecidableEq Value]
    {keys : List Key} (nodup : keys.Nodup)
    {valueAt : Key → Option Value}
    (drive : ∀ key value, valueAt key = some value → ∃ record ∈ atlas, record.driveId = key.1)
    (value : Value) :
    (keys.filterMap valueAt).count value =
      {key ∈ covered atlas keys | valueAt key = some value}.card := by
  have same : {key ∈ covered atlas keys | valueAt key = some value} =
      (keys.filter fun key => valueAt key = some value).toFinset := by
    ext key
    rw [Finset.mem_filter, mem_covered, List.mem_toFinset, List.mem_filter, decide_eq_true_iff]
    exact and_congr_left fun found => and_iff_left (drive key value found)
  rw [same, List.toFinset_card_of_nodup (nodup.filter _), List.count_filterMap,
    List.countP_eq_length_filter]
  congr 1
  refine List.filter_congr fun key _ => ?_
  rw [Bool.eq_iff_iff, decide_eq_true_iff, beq_iff_eq]

theorem Tallied.unmapped_count (tallied : Tallied indexes labels firsts collected)
    (holds : Indexes atlas indexes) (nodup : (firsts.map Prod.snd).Nodup) (key : Key) :
    (collected.unmappedRows.map (·.key)).count key =
      if key ∈ covered atlas (firsts.map Prod.snd) ∧ entryAt atlas key = none then 1 else 0 := by
  have keys : collected.unmappedRows.map (·.key) = (firsts.map Prod.snd).filter fun key =>
      (indexes key.1).isSome && (indexedEntries indexes key).isEmpty := by
    rw [tallied.unmapped, List.map_map, List.filter_map]
    rfl
  rw [keys, (nodup.filter _).count]
  refine if_congr ?_ rfl rfl
  rw [List.mem_filter, mem_covered, Bool.and_eq_true, holds.drives, holds.entries, entryAt,
    List.isEmpty_iff, List.head?_eq_none_iff, and_assoc]

theorem flatMap_single {keys : List Key} (nodup : keys.Nodup) {Row : Type} {key : Key}
    {rows : List Row} :
    (keys.flatMap fun other => if other = key then rows else []) =
      if key ∈ keys then rows else [] := by
  induction keys with
  | nil => rfl
  | cons other keys ih =>
      obtain ⟨fresh, nodup⟩ := List.nodup_cons.mp nodup
      rw [List.flatMap_cons, ih nodup]
      by_cases same : other = key
      · subst same
        rw [if_pos rfl, if_neg fresh, if_pos List.mem_cons_self, List.append_nil]
      · rw [if_neg same, List.nil_append]
        exact if_congr (by simp [Ne.symm same]) rfl rfl

theorem Tallied.blocks_at (tallied : Tallied indexes labels firsts collected)
    (holds : Indexes atlas indexes) (one : OneRowPerBlock atlas)
    (nodup : (firsts.map Prod.snd).Nodup) (key : Key) :
    (collected.blockRows.filter (·.key = key)).map (·.entry) =
      if key ∈ covered atlas (firsts.map Prod.snd) then (entryAt atlas key).toList else [] := by
  have rows : (collected.blockRows.filter (·.key = key)).map (·.entry) =
      (firsts.map Prod.snd).flatMap fun other =>
        if other = key then (entryAt atlas key).toList else [] := by
    rw [tallied.blocks, List.filter_flatMap, List.map_flatMap, List.flatMap_map]
    refine List.flatMap_congr fun read _ => ?_
    rw [holds.entries, one.entriesAt, List.filter_map, List.map_map]
    split
    next same =>
      rw [List.filter_eq_self.mpr (by simp [same]), same]
      exact List.map_id _
    next apart =>
      rw [List.filter_eq_nil_iff.mpr (by simp [apart])]
      rfl
  rw [rows, flatMap_single nodup]
  cases found : entryAt atlas key with
  | none => simp
  | some entry =>
      refine if_congr ?_ rfl rfl
      rw [mem_covered]
      exact (and_iff_left (drive_of_entryAt found)).symm

theorem Tallied.class_touches (holds : Indexes atlas indexes) (one : OneRowPerBlock atlas) :
    firsts.flatMap (classTouches (indexedEntries indexes)) =
      (firsts.map Prod.snd).filterMap (classAt atlas) := by
  rw [List.filterMap_eq_flatMap_toList, List.flatMap_map]
  refine List.flatMap_congr fun read _ => ?_
  rw [classTouches, holds.entries, one.entriesAt, classAt]
  cases entryAt atlas read.2 with
  | none => rfl
  | some entry => rfl

theorem Tallied.file_touches (holds : Indexes atlas indexes) (one : OneRowPerBlock atlas) :
    (firsts.flatMap (fileTouches (indexedEntries indexes))).map Prod.snd =
      (firsts.map Prod.snd).filterMap (fileAt atlas) := by
  rw [List.filterMap_eq_flatMap_toList, List.flatMap_map, List.map_flatMap]
  refine List.flatMap_congr fun read _ => ?_
  rw [fileTouches, holds.entries, one.entriesAt, fileAt]
  cases entryAt atlas read.2 with
  | none => rfl
  | some entry => by_cases file : entry.blockClass = fileData <;> simp [file, Option.filter]

/-! The rows of the two summaries. -/

theorem mem_classRows {row : ClassRow} : row ∈ (collected.outputs labels).classRows ↔
    row.labels = labels ∧ collected.classSummary.lookup row.key = some row.blocksRead := by
  obtain ⟨row_labels, key, blocksRead⟩ := row
  rw [Collected.outputs, List.mem_map, ← Option.mem_def, AList.mem_lookup_iff]
  constructor
  · rintro ⟨⟨_, _⟩, inside, same⟩
    cases same
    exact ⟨rfl, List.mem_mergeSort.mp inside⟩
  · rintro ⟨same, inside⟩
    cases same
    exact ⟨_, List.mem_mergeSort.mpr inside, rfl⟩

theorem mem_summaryRows {row : SummaryRow} : row ∈ (collected.outputs labels).summaryRows ↔
    row.labels = labels ∧ collected.summary.lookup row.file = some row.count := by
  obtain ⟨row_labels, file, count⟩ := row
  rw [Collected.outputs, List.mem_map, ← Option.mem_def, AList.mem_lookup_iff]
  constructor
  · rintro ⟨⟨_, _⟩, inside, same⟩
    cases same
    exact ⟨rfl, List.mem_mergeSort.mp inside⟩
  · rintro ⟨same, inside⟩
    cases same
    exact ⟨_, List.mem_mergeSort.mpr inside, rfl⟩

theorem nodup_classRows : ((collected.outputs labels).classRows.map (·.key)).Nodup := by
  have keys : (collected.outputs labels).classRows.map (·.key) =
      (collected.classSummary.entries.mergeSort fun left right => pairLe left.1 right.1).map
        Sigma.fst := by
    rw [Collected.outputs, List.map_map]
    rfl
  rw [keys]
  exact ((List.mergeSort_perm _ _).map _).nodup_iff.mpr collected.classSummary.nodupKeys

theorem nodup_summaryRows : ((collected.outputs labels).summaryRows.map (·.file)).Nodup := by
  have keys : (collected.outputs labels).summaryRows.map (·.file) =
      (collected.summary.entries.mergeSort fun left right => fileLe left.1 right.1).map
        Sigma.fst := by
    rw [Collected.outputs, List.map_map]
    rfl
  rw [keys]
  exact ((List.mergeSort_perm _ _).map _).nodup_iff.mpr collected.summary.nodupKeys

theorem length_timesOf (touches : List (ℤ × FileKey)) (file : FileKey) :
    (timesOf touches file).length = (touches.map Prod.snd).count file := by
  rw [timesOf, List.length_map, List.count, List.countP_map, List.countP_eq_length_filter]
  congr 1
  refine List.filter_congr fun touch _ => ?_
  rw [Bool.eq_iff_iff, decide_eq_true_iff, Function.comp_apply, beq_iff_eq]

/-- What is listed is what the blocks covered have. -/
theorem mem_filterMap_covered {Value : Type} {keys : List Key} {valueAt : Key → Option Value}
    (drive : ∀ key value, valueAt key = some value → ∃ record ∈ atlas, record.driveId = key.1)
    {value : Value} : value ∈ keys.filterMap valueAt ↔
      ∃ key ∈ covered atlas keys, valueAt key = some value := by
  rw [List.mem_filterMap]
  refine exists_congr fun key => and_congr_left fun found => ?_
  rw [mem_covered]
  exact (and_iff_left (drive key value found)).symm

theorem drive_of_classAt (key : Key) (value : ClassKey) (found : classAt atlas key = some value) :
    ∃ record ∈ atlas, record.driveId = key.1 := by
  obtain ⟨entry, known, _⟩ := Option.map_eq_some_iff.mp found
  exact drive_of_entryAt known

theorem drive_of_fileAt (key : Key) (file : FileKey) (found : fileAt atlas key = some file) :
    ∃ record ∈ atlas, record.driveId = key.1 := by
  obtain ⟨entry, kept, _⟩ := Option.map_eq_some_iff.mp found
  exact drive_of_entryAt (Option.filter_eq_some_iff.mp kept).1

theorem Tallied.lookup_class (tallied : Tallied indexes labels firsts collected)
    (holds : Indexes atlas indexes) (one : OneRowPerBlock atlas) (key : ClassKey) :
    collected.classSummary.lookup key =
      if key ∈ (firsts.map Prod.snd).filterMap (classAt atlas) then
        some (((firsts.map Prod.snd).filterMap (classAt atlas)).count key)
      else none := by
  rw [tallied.classes, Tallied.class_touches holds one, lookup_foldl_countClass]

theorem Tallied.mem_class_keys (tallied : Tallied indexes labels firsts collected)
    (key : ClassKey) : key ∈ (collected.outputs labels).classRows.map (·.key) ↔
      key ∈ firsts.flatMap (classTouches (indexedEntries indexes)) := by
  rw [List.mem_map]
  constructor
  · rintro ⟨row, inside, rfl⟩
    have found := (mem_classRows.mp inside).2
    rw [tallied.classes, lookup_foldl_countClass] at found
    split at found
    next listed => exact listed
    next => cases found
  · intro listed
    have found :=
      lookup_foldl_countClass (firsts.flatMap (classTouches (indexedEntries indexes))) key
    rw [← tallied.classes, if_pos listed] at found
    exact ⟨⟨labels, key, _⟩, mem_classRows.mpr ⟨rfl, found⟩, rfl⟩

theorem Tallied.counts_file (tallied : Tallied indexes labels firsts collected) (file : FileKey) :
    Counts (timesOf (firsts.flatMap (fileTouches (indexedEntries indexes))) file)
      (collected.summary.lookup file) := by
  rw [tallied.files]
  exact counts_foldl_countFile _ file

theorem Tallied.mem_file_keys (tallied : Tallied indexes labels firsts collected)
    (file : FileKey) :
    file ∈ (collected.outputs labels).summaryRows.map (·.file) ↔
      file ∈ (firsts.flatMap (fileTouches (indexedEntries indexes))).map Prod.snd := by
  have counts := tallied.counts_file file
  rw [List.mem_map, ← List.count_pos_iff, ← length_timesOf]
  constructor
  · rintro ⟨row, inside, rfl⟩
    rw [(mem_summaryRows.mp inside).2] at counts
    exact List.length_pos_of_mem counts.2.1
  · intro positive
    cases found : collected.summary.lookup file with
    | none =>
        rw [found] at counts
        exact absurd counts (List.ne_nil_of_length_pos positive)
    | some count => exact ⟨⟨labels, file, count⟩, mem_summaryRows.mpr ⟨rfl, found⟩, rfl⟩

/-- The class counts add up to the blocks which have a class. -/
theorem Tallied.sum_classes (tallied : Tallied indexes labels firsts collected)
    (holds : Indexes atlas indexes) (one : OneRowPerBlock atlas) :
    ((collected.outputs labels).classRows.map (·.blocksRead)).sum =
      ((firsts.map Prod.snd).filterMap (classAt atlas)).length := by
  set touches := (firsts.map Prod.snd).filterMap (classAt atlas) with touches_eq
  have counts : (collected.outputs labels).classRows.map (·.blocksRead) =
      ((collected.outputs labels).classRows.map (·.key)).map touches.count := by
    rw [List.map_map]
    refine List.map_congr_left fun row inside => ?_
    have found := (mem_classRows.mp inside).2
    rw [tallied.lookup_class holds one] at found
    split at found
    next => exact (Option.some.inj found).symm
    next => cases found
  have keys : ((collected.outputs labels).classRows.map (·.key)).Perm touches.dedup := by
    refine (List.perm_ext_iff_of_nodup nodup_classRows touches.nodup_dedup).mpr fun key => ?_
    rw [tallied.mem_class_keys, Tallied.class_touches holds one, List.mem_dedup]
  rw [counts, (keys.map _).sum_eq]
  convert List.sum_map_count_dedup_eq_length touches
  rfl

theorem length_mapped {keys : List Key} (nodup : keys.Nodup) :
    (keys.filterMap (classAt atlas)).length =
      {key ∈ covered atlas keys | entryAt atlas key ≠ none}.card := by
  have same : {key ∈ covered atlas keys | entryAt atlas key ≠ none} =
      (keys.filter fun key => (classAt atlas key).isSome).toFinset := by
    ext key
    rw [Finset.mem_filter, mem_covered, List.mem_toFinset, List.mem_filter, classAt,
      Option.isSome_map, Option.isSome_iff_ne_none]
    refine and_congr_left fun found => and_iff_left ?_
    obtain ⟨entry, found⟩ := Option.ne_none_iff_exists'.mp found
    exact drive_of_entryAt found
  rw [same, List.toFinset_card_of_nodup (nodup.filter _), List.length_filterMap_eq_countP,
    List.countP_eq_length_filter]

theorem Tallied.accounts (tallied : Tallied indexes labels firsts collected)
    (holds : Indexes atlas indexes) (one : OneRowPerBlock atlas)
    (nodup : (firsts.map Prod.snd).Nodup) :
    Accounts atlas (covered atlas (firsts.map Prod.snd)) (collected.outputs labels) where
  unmapped key := by
    refine (tallied.unmapped_count holds nodup key).trans ?_
    exact if_congr (and_congr_right fun _ => by rw [← one.entryAt_ne_none, not_not]) rfl rfl
  blocks key inside record listed at_key := by
    have rows := tallied.blocks_at holds one nodup key
    rw [if_pos inside, one.entryAt_eq_some.mpr ⟨record, listed, at_key, rfl⟩] at rows
    obtain ⟨row, same, entry⟩ := List.map_eq_singleton_iff.mp rows
    exact ⟨row, same, by rw [entry]; rfl, by rw [entry]; rfl, by rw [entry]; rfl,
      by rw [entry]; rfl⟩
  blocks_listed row inside := by
    have rows := tallied.blocks_at holds one nodup row.key
    have kept : row.entry ∈ (collected.blockRows.filter (·.key = row.key)).map (·.entry) :=
      List.mem_map_of_mem (List.mem_filter.mpr ⟨inside, decide_eq_true rfl⟩)
    rw [rows] at kept
    split at kept
    next touched =>
      obtain ⟨record, listed, at_key, _⟩ := one.entryAt_eq_some.mp (Option.mem_toList.mp kept)
      exact ⟨touched, record, listed, at_key⟩
    next => cases kept
  classes_nodup := nodup_classRows
  classes_listed key := by
    rw [tallied.mem_class_keys, Tallied.class_touches holds one,
      mem_filterMap_covered drive_of_classAt]
    simp only [one.classAt_eq_some]
  classes row inside := by
    have found := (mem_classRows.mp inside).2
    rw [tallied.lookup_class holds one] at found
    split at found
    next =>
      rw [← Option.some.inj found, count_filterMap nodup drive_of_classAt]
      exact congrArg Finset.card (Finset.filter_congr fun _ _ => one.classAt_eq_some)
    next => cases found
  mapped := by
    rw [tallied.sum_classes holds one, length_mapped nodup]
    exact congrArg Finset.card (Finset.filter_congr fun _ _ => one.entryAt_ne_none)
  files_nodup := nodup_summaryRows
  files_listed file := by
    rw [tallied.mem_file_keys, Tallied.file_touches holds one,
      mem_filterMap_covered drive_of_fileAt]
    simp only [one.fileAt_eq_some]
  files row inside := by
    have counts := tallied.counts_file row.file
    rw [(mem_summaryRows.mp inside).2] at counts
    rw [counts.1, length_timesOf, Tallied.file_touches holds one,
      count_filterMap nodup drive_of_fileAt]
    exact congrArg Finset.card (Finset.filter_congr fun _ _ => one.fileAt_eq_some)

end Accounting

/-- Every block read on a drive with an atlas is accounted for once. -/
theorem collectFileReads_accounts (labels : RunLabels) {blockSize : ℤ} (positive : 0 < blockSize)
    {atlas : List AtlasRecord} (one : OneRowPerBlock atlas) (trace : Text) :
    ∃ touched outputs,
      (∀ key, key ∈ touched ↔ (∃ record ∈ readRecords trace, record.Touches blockSize key) ∧
        ∃ row ∈ atlas, row.driveId = key.1) ∧
      collectFileReads labels blockSize atlas trace = .ok outputs ∧
      Accounts atlas touched outputs := by
  obtain ⟨indexes, loaded⟩ := loadBlockIndexes_ends one.numbered
  have holds := indexes_loadBlockIndexes loaded
  set reads := iterReadBlocks trace blockSize with reads_eq
  have tallied := tallied_foldl indexes labels (firstReads reads)
  rw [← (foldl_visit_firstReads indexes labels reads).2] at tallied
  refine ⟨_, _, fun key => ?_, ?_, tallied.accounts holds one (nodup_firstReads reads)⟩
  · rw [mem_covered, mem_keys_firstReads, mem_keys_iterReadBlocks positive]
  · rw [collectFileReads, loaded]
    rfl

/-- An atlas of a file of two blocks and of a directory. -/
def sampleAtlas : List AtlasRecord :=
  [⟨"rootfs".toList, "3".toList, fileData, some "/etc/hosts".toList, some "12".toList,
      some "0".toList⟩,
    ⟨"rootfs".toList, "4".toList, fileData, some "/etc/hosts".toList, some "12".toList,
      some "1".toList⟩,
    ⟨"rootfs".toList, "7".toList, "dir_data".toList, some "/etc".toList, some "11".toList,
      some "0".toList⟩]

theorem collectFileReads_accounts_sample : ∃ touched outputs,
    (∀ key, key ∈ touched ↔
      (∃ record ∈ readRecords "5,rootfs,read,12288,8192\n9,rootfs,read,0,1".toList,
        record.Touches 4096 key) ∧ ∃ row ∈ sampleAtlas, row.driveId = key.1) ∧
    collectFileReads ⟨[], [], []⟩ 4096 sampleAtlas
      "5,rootfs,read,12288,8192\n9,rootfs,read,0,1".toList = .ok outputs ∧
    Accounts sampleAtlas touched outputs :=
  collectFileReads_accounts _ (by decide) ⟨by decide, by decide⟩ _

end Trace
end HermOS
