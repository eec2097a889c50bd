import HermOS.Trace.ReadAccounting
import Mathlib.Order.Bounds.Basic

/-!
# The first time at which a file was read

`first_ts_ns` of a file is the least time of the reads which were the first to touch one of its
blocks.  A later read of the same blocks does not count, even if its time is earlier.
-/

namespace HermOS
namespace Trace

open Python (Text)

/-- A block of a file, by a row of the atlas. -/
def FileBlock (atlas : List AtlasRecord) (file : FileKey) (key : Key) : Prop :=
  key.1 = file.1 ∧ ∃ entry ∈ entriesAt atlas key,
    entry.blockClass = fileData ∧ entry.path = file.2.1 ∧ entry.inode = file.2.2

/-- The read has a byte of the file. -/
def ReadRecord.Reads (record : ReadRecord) (blockSize : ℤ) (atlas : List AtlasRecord)
    (file : FileKey) : Prop :=
  ∃ key, FileBlock atlas file key ∧ record.Touches blockSize key

/-- The first read in the trace which has a byte of a block. -/
def FirstToTouch (trace : Text) (blockSize : ℤ) (record : ReadRecord) (key : Key) : Prop :=
  ∃ earlier later, readRecords trace = earlier ++ record :: later ∧
    record.Touches blockSize key ∧ ∀ other ∈ earlier, ¬ other.Touches blockSize key

/-- The time written for a file is the least time of all reads of the file. -/
def LeastTimes (labels : RunLabels) (blockSize : ℤ) (atlas : List AtlasRecord) (trace : Text) :
    Prop :=
  ∃ outputs, collectFileReads labels blockSize atlas trace = .ok outputs ∧
    ∀ row ∈ outputs.summaryRows, IsLeast {time | ∃ record ∈ readRecords trace,
      record.timestampNs = time ∧ record.Reads blockSize atlas row.file} row.count.firstTsNs

/-- No read of a file is earlier than all those which were the first to touch one of its blocks. -/
def EarliestFirst (blockSize : ℤ) (atlas : List AtlasRecord) (trace : Text) : Prop :=
  ∀ file, ∀ record ∈ readRecords trace, record.Reads blockSize atlas file →
    ∃ first key, FileBlock atlas file key ∧ FirstToTouch trace blockSize first key ∧
      first.timestampNs ≤ record.timestampNs

/-! ### First reads -/

theorem mem_firstReads {reads : List (ℤ × Key)} {read : ℤ × Key} :
    read ∈ firstReads reads ↔ reads.find? (·.2 = read.2) = some read := by
  induction reads using List.reverseRecOn with
  | nil => simp [firstReads]
  | append_singleton reads last ih =>
      rw [firstReads_concat, List.find?_append]
      cases found : reads.find? (·.2 = read.2) with
      | some earlier =>
          have same : earlier.2 = read.2 := by simpa using List.find?_some found
          have inside : read.2 ∈ reads.map Prod.snd :=
            List.mem_map.mpr ⟨earlier, List.mem_of_find?_eq_some found, same⟩
          rw [found] at ih
          rw [Option.some_or, ← ih]
          split
          next => rfl
          next fresh =>
            rw [List.mem_append, List.mem_singleton]
            refine or_iff_left ?_
            rintro rfl
            exact fresh (mem_keys_firstReads.mpr inside)
      | none =>
          have fresh : read.2 ∉ reads.map Prod.snd := by
            intro inside
            obtain ⟨earlier, inside, same⟩ := List.mem_map.mp inside
            exact List.find?_eq_none.mp found earlier inside (decide_eq_true same)
          have absent : read ∉ firstReads reads := fun inside =>
            fresh (mem_keys_firstReads.mp (List.mem_map_of_mem inside))
          rw [Option.none_or, List.find?_singleton]
          by_cases same : last.2 = read.2
          · rw [same, if_neg (mem_keys_firstReads.not.mpr fresh), List.mem_append,
              List.mem_singleton, or_iff_right absent, decide_eq_true rfl, if_pos rfl,
              Option.some_inj, eq_comm]
          · have other : read ∉ [last] := fun inside => same (by rw [List.mem_singleton.mp inside])
            rw [decide_eq_false same, if_neg Bool.false_ne_true]
            split
            next => simp [absent]
            next => simp [absent, List.mem_singleton.not.mp other]

def ReadRecord.visits (record : ReadRecord) (blockSize : ℤ) : List (ℤ × Key) :=
  (BlockRange.blocks record.offset record.length blockSize).map
    (record.timestampNs, record.driveId, ·)

theorem iterReadBlocks_eq (trace : Text) (blockSize : ℤ) :
    iterReadBlocks trace blockSize = (readRecords trace).flatMap (·.visits blockSize) := by
  rw [iterReadBlocks, readRecords]
  induction readLines trace with
  | nil => rfl
  | cons line lines ih =>
      rw [List.flatMap_cons, ih, iterReadBlocksLine_eq, List.filterMap_cons]
      cases readRecord? line with
      | none => rfl
      | some record => rfl

theorem readRecords_length {trace : Text} {record : ReadRecord}
    (inside : record ∈ readRecords trace) : 0 < record.length := by
  obtain ⟨line, _, read⟩ := List.mem_filterMap.mp inside
  exact readRecord?_length read

theorem ReadRecord.mem_visits {record : ReadRecord} {blockSize : ℤ} (positive : 0 < blockSize)
    (nonempty : 0 < record.length) {time : ℤ} {key : Key} :
    (time, key) ∈ record.visits blockSize ↔
      record.timestampNs = time ∧ record.Touches blockSize key := by
  rw [visits, List.mem_map]
  constructor
  · rintro ⟨block, inside, same⟩
    cases same
    exact ⟨rfl, rfl, (BlockRange.mem_blocks positive nonempty).mp inside⟩
  · rintro ⟨rfl, drive, overlaps⟩
    exact ⟨key.2, (BlockRange.mem_blocks positive nonempty).mpr overlaps, by rw [drive]⟩

theorem ReadRecord.find?_visits {record : ReadRecord} {blockSize : ℤ} (positive : 0 < blockSize)
    (nonempty : 0 < record.length) (key : Key) (time : ℤ) :
    (record.visits blockSize).find? (·.2 = key) = some (time, key) ↔
      record.timestampNs = time ∧ record.Touches blockSize key := by
  rw [← mem_visits positive nonempty]
  constructor
  · exact List.mem_of_find?_eq_some
  · intro inside
    cases found : (record.visits blockSize).find? (·.2 = key) with
    | none => exact absurd (decide_eq_true rfl) (List.find?_eq_none.mp found _ inside)
    | some read =>
        obtain ⟨other, _⟩ := read
        obtain rfl : _ = key := by simpa using List.find?_some found
        rw [mem_visits positive nonempty] at inside
        have same := (mem_visits positive nonempty).mp (List.mem_of_find?_eq_some found)
        rw [← inside.1, ← same.1]

theorem ReadRecord.find?_visits_none {record : ReadRecord} {blockSize : ℤ}
    (positive : 0 < blockSize) (nonempty : 0 < record.length) (key : Key) :
    (record.visits blockSize).find? (·.2 = key) = none ↔ ¬ record.Touches blockSize key := by
  rw [List.find?_eq_none]
  constructor
  · exact fun none touches => none (record.timestampNs, key)
      ((mem_visits positive nonempty).mpr ⟨rfl, touches⟩) (decide_eq_true rfl)
  · rintro apart ⟨time, other⟩ inside same
    obtain rfl : other = key := of_decide_eq_true same
    exact apart ((mem_visits positive nonempty).mp inside).2

theorem mem_firstReads_iterReadBlocks {trace : Text} {blockSize : ℤ} (positive : 0 < blockSize)
    {time : ℤ} {key : Key} : (time, key) ∈ firstReads (iterReadBlocks trace blockSize) ↔
      ∃ record, FirstToTouch trace blockSize record key ∧ record.timestampNs = time := by
  rw [mem_firstReads, iterReadBlocks_eq, List.find?_flatMap, List.findSome?_eq_some_iff]
  have nonempty : ∀ record ∈ readRecords trace, 0 < record.length := fun record =>
    readRecords_length
  constructor
  · rintro ⟨earlier, record, later, whole, found, none⟩
    rw [whole] at nonempty
    have long := nonempty record (by simp)
    obtain ⟨time, touches⟩ := (record.find?_visits positive long key _).mp found
    refine ⟨record, ⟨earlier, later, whole, touches, fun other inside => ?_⟩, time⟩
    exact (other.find?_visits_none positive (nonempty other (by simp [inside])) key).mp
      (none other inside)
  · rintro ⟨record, ⟨earlier, later, whole, touches, untouched⟩, time⟩
    rw [whole] at nonempty
    have long := nonempty record (by simp)
    refine ⟨earlier, record, later, whole,
      (record.find?_visits positive long key _).mpr ⟨time, touches⟩, fun other inside => ?_⟩
    exact (other.find?_visits_none positive (nonempty other (by simp [inside])) key).mpr
      (untouched other inside)

/-! ### The times written -/

/-- The times of the reads which were the first to touch a block of the file. -/
def firstTimes (blockSize : ℤ) (atlas : List AtlasRecord) (trace : Text) (file : FileKey) : Set ℤ :=
  {time | ∃ record key, FileBlock atlas file key ∧ FirstToTouch trace blockSize record key ∧
    record.timestampNs = time}

theorem mem_timesOf {atlas : List AtlasRecord} {indexes : Text → Option Index}
    (holds : Indexes atlas indexes) {firsts : List (ℤ × Key)} {file : FileKey} {time : ℤ} :
    time ∈ timesOf (firsts.flatMap (fileTouches (indexedEntries indexes))) file ↔
      ∃ key, (time, key) ∈ firsts ∧ FileBlock atlas file key := by
  simp only [timesOf, List.mem_map, List.mem_filter, List.mem_flatMap, fileTouches, holds.entries,
    decide_eq_true_eq]
  constructor
  · rintro ⟨_, ⟨⟨read, inside, entry, ⟨listed, data⟩, rfl⟩, rfl⟩, rfl⟩
    exact ⟨read.2, inside, rfl, entry, listed, data, rfl, rfl⟩
  · rintro ⟨key, inside, drive, entry, listed, data, path, inode⟩
    refine ⟨(time, file), ⟨⟨(time, key), inside, entry, ⟨listed, data⟩, ?_⟩, rfl⟩, rfl⟩
    rw [drive, path, inode]

/-- The time written for a file is the least of its first times. -/
theorem summary_firstTimes (labels : RunLabels) {blockSize : ℤ} (positive : 0 < blockSize)
    {atlas : List AtlasRecord} (numbered : ∀ record ∈ atlas, record.key? ≠ none) (trace : Text) :
    ∃ outputs, collectFileReads labels blockSize atlas trace = .ok outputs ∧
      (∀ row ∈ outputs.summaryRows,
        IsLeast (firstTimes blockSize atlas trace row.file) row.count.firstTsNs) ∧
      ∀ file, (firstTimes blockSize atlas trace file).Nonempty →
        ∃ row ∈ outputs.summaryRows, row.file = file := by
  obtain ⟨indexes, loaded⟩ := loadBlockIndexes_ends numbered
  have holds := indexes_loadBlockIndexes loaded
  have tallied := tallied_foldl indexes labels (firstReads (iterReadBlocks trace blockSize))
  rw [← (foldl_visit_firstReads indexes labels (iterReadBlocks trace blockSize)).2] at tallied
  have times : ∀ file time, time ∈ timesOf ((firstReads (iterReadBlocks trace blockSize)).flatMap
      (fileTouches (indexedEntries indexes))) file ↔
        time ∈ firstTimes blockSize atlas trace file := by
    intro file time
    rw [mem_timesOf holds]
    constructor
    · rintro ⟨key, inside, block⟩
      obtain ⟨record, first, same⟩ := (mem_firstReads_iterReadBlocks positive).mp inside
      exact ⟨record, key, block, first, same⟩
    · rintro ⟨record, key, block, first, same⟩
      exact ⟨key, (mem_firstReads_iterReadBlocks positive).mpr ⟨record, first, same⟩, block⟩
  refine ⟨_, by rw [collectFileReads, loaded]; rfl, fun row inside => ?_, fun file nonempty => ?_⟩
  · have counts := tallied.counts_file row.file
    rw [(mem_summaryRows.mp inside).2] at counts
    exact ⟨(times _ _).mp counts.2.1, fun time member => counts.2.2 time ((times _ _).mpr member)⟩
  · obtain ⟨time, member⟩ := nonempty
    have counts := tallied.counts_file file
    have listed := (times _ _).mpr member
    cases found : (((iterReadBlocks trace blockSize).foldl (Scan.visit indexes labels)
        ⟨[], .empty⟩).collected.summary).lookup file with
    | none =>
        rw [found] at counts
        have none : timesOf _ file = [] := counts
        rw [none] at listed
        cases listed
    | some count => exact ⟨⟨labels, file, count⟩, mem_summaryRows.mpr ⟨rfl, found⟩, rfl⟩

theorem FirstToTouch.reads {trace : Text} {blockSize : ℤ} {atlas : List AtlasRecord}
    {file : FileKey} {record : ReadRecord} {key : Key} (block : FileBlock atlas file key)
    (first : FirstToTouch trace blockSize record key) :
    record ∈ readRecords trace ∧ record.Reads blockSize atlas file := by
  obtain ⟨earlier, later, whole, touches, _⟩ := first
  exact ⟨by simp [whole], key, block, touches⟩

/-- A block which is read was read for a first time. -/
theorem exists_firstToTouch {trace : Text} {blockSize : ℤ} (positive : 0 < blockSize)
    {record : ReadRecord} {key : Key} (inside : record ∈ readRecords trace)
    (touches : record.Touches blockSize key) :
    ∃ first, FirstToTouch trace blockSize first key := by
  have visited := (mem_iterReadBlocks positive).mpr ⟨record, inside, rfl, touches⟩
  obtain ⟨⟨time, _⟩, kept, rfl⟩ :=
    List.mem_map.mp (mem_keys_firstReads.mpr (List.mem_map_of_mem visited))
  obtain ⟨first, first_touch, _⟩ := (mem_firstReads_iterReadBlocks positive).mp kept
  exact ⟨first, first_touch⟩

/-- The least times are written exactly if the earliest read of each file was the first one of some
block of the file. -/
theorem leastTimes_iff (labels : RunLabels) {blockSize : ℤ} (positive : 0 < blockSize)
    {atlas : List AtlasRecord} (numbered : ∀ record ∈ atlas, record.key? ≠ none) (trace : Text) :
    LeastTimes labels blockSize atlas trace ↔ EarliestFirst blockSize atlas trace := by
  obtain ⟨outputs, collected, least, listed⟩ :=
    summary_firstTimes labels positive numbered trace
  have decided : LeastTimes labels blockSize atlas trace ↔
      ∀ row ∈ outputs.summaryRows, IsLeast {time | ∃ record ∈ readRecords trace,
        record.timestampNs = time ∧ record.Reads blockSize atlas row.file} row.count.firstTsNs := by
    rw [LeastTimes, collected]
    constructor
    · rintro ⟨_, same, holds⟩
      cases same
      exact holds
    · exact fun holds => ⟨outputs, rfl, holds⟩
  rw [decided]
  constructor
  · rintro written file record inside ⟨key, block, touches⟩
    obtain ⟨first, first_touch⟩ := exists_firstToTouch positive inside touches
    obtain ⟨row, row_listed, rfl⟩ := listed file ⟨_, first, key, block, first_touch, rfl⟩
    obtain ⟨other, other_key, other_block, other_first, same⟩ := (least row row_listed).1
    refine ⟨other, other_key, other_block, other_first, ?_⟩
    rw [same]
    exact (written row row_listed).2 ⟨record, inside, rfl, key, block, touches⟩
  · intro early row row_listed
    obtain ⟨first, key, block, first_touch, same⟩ := (least row row_listed).1
    obtain ⟨inside, reads⟩ := first_touch.reads block
    refine ⟨⟨first, inside, same, reads⟩, ?_⟩
    rintro _ ⟨record, member, rfl, record_reads⟩
    obtain ⟨other, other_key, other_block, other_first, before⟩ :=
      early row.file record member record_reads
    exact ((least row row_listed).2 ⟨other, other_key, other_block, other_first, rfl⟩).trans before

/-- With a clock which is never set back, the times written are the least ones. -/
theorem earliestFirst_of_pairwise {blockSize : ℤ} (positive : 0 < blockSize)
    {atlas : List AtlasRecord} {trace : Text}
    (ordered : (readRecords trace).Pairwise (·.timestampNs ≤ ·.timestampNs)) :
    EarliestFirst blockSize atlas trace := by
  rintro file record inside ⟨key, block, touches⟩
  obtain ⟨first, first_touch⟩ := exists_firstToTouch positive inside touches
  refine ⟨first, key, block, first_touch, ?_⟩
  obtain ⟨earlier, later, whole, _, untouched⟩ := first_touch
  rw [whole] at inside ordered
  rcases List.mem_append.mp inside with early | inside
  · exact absurd touches (untouched record early)
  · rcases List.mem_cons.mp inside with rfl | late
    · exact le_refl _
    · exact (List.pairwise_cons.mp (List.pairwise_append.mp ordered).2.1).1 record late

/-- An atlas of a file of one block. -/
def oneBlock : List AtlasRecord :=
  [⟨"rootfs".toList, "0".toList, fileData, some "/init".toList, some "12".toList, some "0".toList⟩]

theorem leastTimes_iff_oneBlock : LeastTimes ⟨[], [], []⟩ 4096 oneBlock
      "100,rootfs,read,0,512\n200,rootfs,read,0,512".toList ↔
    EarliestFirst 4096 oneBlock "100,rootfs,read,0,512\n200,rootfs,read,0,512".toList :=
  leastTimes_iff _ (by decide) (by decide) _

/-- One block which is read twice, with a clock set back in between. -/
def steppedBack : Text :=
  "200,rootfs,read,0,512\n100,rootfs,read,0,512".toList

theorem steppedBack_late : (∀ record ∈ oneBlock, record.key? ≠ none) ∧
    ¬ LeastTimes ⟨[], [], []⟩ 4096 oneBlock steppedBack := by
  have numbered : ∀ record ∈ oneBlock, record.key? ≠ none := by decide
  refine ⟨numbered, ?_⟩
  rintro ⟨outputs, collected, written⟩
  obtain ⟨_, same, least, listed⟩ :=
    summary_firstTimes ⟨[], [], []⟩ (by decide : (0 : ℤ) < 4096) numbered steppedBack
  cases collected.symm.trans same
  have records : readRecords steppedBack =
      [⟨200, "rootfs".toList, 0, 512⟩, ⟨100, "rootfs".toList, 0, 512⟩] := rfl
  have block : FileBlock oneBlock ("rootfs".toList, "/init".toList, "12".toList)
      ("rootfs".toList, 0) := ⟨rfl, _, List.mem_cons_self, rfl, rfl, rfl⟩
  have touches : ∀ time : ℤ, ReadRecord.Touches ⟨time, "rootfs".toList, 0, 512⟩ 4096
      ("rootfs".toList, 0) := by
    have overlaps : 0 ≤ (0 : ℤ) ∧ (0 : ℤ) < 0 + 512 := by decide
    exact fun time => ⟨rfl, 0, overlaps, by decide⟩
  -- The earlier time is a time of the file, and only the later one is a first time.
  obtain ⟨row, row_listed, file⟩ := listed ("rootfs".toList, "/init".toList, "12".toList)
    ⟨200, _, _, block, ⟨[], _, records, touches 200, by simp⟩, rfl⟩
  have early : row.count.firstTsNs ≤ 100 := (written row row_listed).2
    ⟨_, by rw [records]; exact List.mem_cons_of_mem _ (List.mem_singleton_self _), rfl, _,
      file ▸ block, touches 100⟩
  obtain ⟨first, key, _, ⟨earlier, later, whole, first_touches, untouched⟩, time⟩ :=
    (least row row_listed).1
  rw [records] at whole
  cases earlier with
  | nil =>
      obtain ⟨rfl, _⟩ := List.cons.inj whole
      rw [← time] at early
      exact absurd early (by decide)
  | cons other earlier =>
      obtain ⟨rfl, rest⟩ := List.cons.inj whole
      have second : first = ⟨100, "rootfs".toList, 0, 512⟩ := by
        refine List.mem_singleton.mp ?_
        rw [rest]
        exact List.mem_append_right earlier List.mem_cons_self
      subst second
      exact untouched _ List.mem_cons_self first_touches

end Trace
end HermOS
