import HermOS.Trace.ReadAccounting

/-!
# Outputs which get rows

Whether an output of `collect_file_reads.py` gets rows depends on the blocks which the trace reads
and on the rows of the atlas for these blocks.  This holds of every atlas, also of one with several
rows for a block.
-/

namespace HermOS
namespace Trace

open Python (Text)

def ReadsBlock (blockSize : ℤ) (trace : Text) (key : Key) : Prop :=
  ∃ record ∈ readRecords trace, record.Touches blockSize key

variable {blockSize : ℤ} {trace : Text} {labels : RunLabels} {atlas : List AtlasRecord}
  {outputs : Outputs}

/-- Without reads, any block size will do. -/
theorem readsBlock_iff (sized : 0 < blockSize ∨ readRecords trace = []) {key : Key} :
    ReadsBlock blockSize trace key ↔ key ∈ (iterReadBlocks trace blockSize).map Prod.snd := by
  rcases sized with positive | none
  · exact (mem_keys_iterReadBlocks positive).symm
  · have silent : iterReadBlocks trace blockSize = [] := by
      refine List.flatMap_eq_nil_iff.mpr fun line inside => ?_
      rw [iterReadBlocksLine_eq, List.filterMap_eq_nil_iff.mp none line inside]
    rw [silent]
    refine iff_of_false ?_ List.not_mem_nil
    rintro ⟨record, inside, _⟩
    rw [none] at inside
    cases inside

theorem iterReadBlocks_one_eq_nil : iterReadBlocks trace 1 = [] ↔ readRecords trace = [] := by
  constructor
  · intro silent
    refine List.eq_nil_iff_forall_not_mem.mpr fun record inside => ?_
    have first : (record.timestampNs, record.driveId, record.offset) ∈ iterReadBlocks trace 1 := by
      refine (mem_iterReadBlocks Int.one_pos).mpr ⟨record, inside, rfl, rfl, record.offset, ?_⟩
      obtain ⟨line, _, read⟩ := List.mem_filterMap.mp inside
      have := readRecord?_length read
      dsimp only
      omega
    rw [silent] at first
    cases first
  · intro none
    refine List.eq_nil_iff_forall_not_mem.mpr fun read inside => ?_
    obtain ⟨record, listed, _⟩ :=
      (mem_keys_iterReadBlocks Int.one_pos).mp (List.mem_map_of_mem inside)
    rw [none] at listed
    cases listed

/-- The rows are found exactly if each block of the atlas is a number. -/
theorem collectFileReads_ends_iff : (∃ outputs, collectFileReads labels blockSize atlas trace =
    .ok outputs) ↔ ∀ record ∈ atlas, ∃ block, Python.int record.blockId = some block := by
  constructor
  · rintro ⟨outputs, ended⟩
    obtain ⟨indexes, loaded, _⟩ := FallibleFold.bind_ok ended
    obtain ⟨grouped, folded, _⟩ := FallibleFold.bind_ok loaded
    refine FallibleFold.invariant (fun visited _ => ∀ record ∈ visited,
      ∃ block, Python.int record.blockId = some block) ?_ nofun folded
    intro past record _ _ _ _ numbered added
    refine List.forall_mem_append.mpr ⟨numbered, List.forall_mem_singleton.mpr ?_⟩
    unfold Grouped.addRecord at added
    split at added
    next block number => exact ⟨block, number⟩
    next => cases added
  · intro numbered
    obtain ⟨indexes, loaded⟩ := loadBlockIndexes_ends fun record inside => by
      obtain ⟨block, number⟩ := numbered record inside
      rw [AtlasRecord.key?, number]
      exact Option.some_ne_none _
    exact ⟨_, by rw [collectFileReads, loaded]; rfl⟩

/-- The outputs are those of the first reads of the blocks. -/
theorem exists_tallied (sized : 0 < blockSize ∨ readRecords trace = [])
    (ended : collectFileReads labels blockSize atlas trace = .ok outputs) :
    ∃ indexes firsts collected, Indexes atlas indexes ∧ Tallied indexes labels firsts collected ∧
      outputs = collected.outputs labels ∧
      ∀ key, key ∈ firsts.map Prod.snd ↔ ReadsBlock blockSize trace key := by
  obtain ⟨indexes, loaded, rest⟩ := FallibleFold.bind_ok ended
  cases rest
  have tallied := tallied_foldl indexes labels (firstReads (iterReadBlocks trace blockSize))
  rw [← (foldl_visit_firstReads indexes labels _).2] at tallied
  refine ⟨indexes, _, _, indexes_loadBlockIndexes loaded, tallied, rfl, fun key => ?_⟩
  rw [mem_keys_firstReads, readsBlock_iff sized]

theorem entriesAt_eq_nil {key : Key} :
    entriesAt atlas key = [] ↔ ∀ record ∈ atlas, ¬ record.IsAt key := by
  rw [List.eq_nil_iff_forall_not_mem]
  simp only [mem_entriesAt, not_exists, not_and]
  exact ⟨fun none record listed at_key => none _ record listed at_key rfl,
    fun none _ record listed at_key _ => none record listed at_key⟩

namespace Tallied

variable {indexes : Text → Option Index} {firsts : List (ℤ × Key)} {collected : Collected}

theorem blockRows_eq_nil (tallied : Tallied indexes labels firsts collected)
    (holds : Indexes atlas indexes) : (collected.outputs labels).blockRows = [] ↔
      ∀ key ∈ firsts.map Prod.snd, ∀ record ∈ atlas, ¬ record.IsAt key := by
  have rows : (collected.outputs labels).blockRows = collected.blockRows := rfl
  rw [rows, tallied.blocks, List.flatMap_eq_nil_iff, List.forall_mem_map]
  simp only [List.map_eq_nil_iff, holds.entries, entriesAt_eq_nil]

theorem unmappedRows_eq_nil (tallied : Tallied indexes labels firsts collected)
    (holds : Indexes atlas indexes) : (collected.outputs labels).unmappedRows = [] ↔
      ∀ key ∈ firsts.map Prod.snd, (∃ record ∈ atlas, record.driveId = key.1) →
        ∃ record ∈ atlas, record.IsAt key := by
  have rows : (collected.outputs labels).unmappedRows = collected.unmappedRows := rfl
  rw [rows, tallied.unmapped, List.map_eq_nil_iff, List.filter_eq_nil_iff, List.forall_mem_map]
  simp only [Bool.and_eq_true, holds.drives, holds.entries, List.isEmpty_iff, entriesAt_eq_nil,
    not_and, not_forall, not_not, exists_prop]

theorem summaryRows_eq_nil (tallied : Tallied indexes labels firsts collected)
    (holds : Indexes atlas indexes) : (collected.outputs labels).summaryRows = [] ↔
      ∀ key ∈ firsts.map Prod.snd, ∀ record ∈ atlas, record.IsAt key →
        record.blockClass ≠ "file_data".toList := by
  have rows : (collected.outputs labels).summaryRows = [] ↔
      firsts.flatMap (fileTouches (indexedEntries indexes)) = [] := by
    rw [← List.map_eq_nil_iff (f := (·.file)), List.eq_nil_iff_forall_not_mem,
      ← List.map_eq_nil_iff (f := Prod.snd), List.eq_nil_iff_forall_not_mem]
    simp only [tallied.mem_file_keys]
  rw [rows, List.flatMap_eq_nil_iff, List.forall_mem_map]
  simp only [fileTouches, List.map_eq_nil_iff, List.filter_eq_nil_iff, holds.entries, mem_entriesAt,
    decide_eq_true_iff]
  refine forall₂_congr fun read _ => ⟨fun none record listed at_key => ?_, ?_⟩
  · exact none _ ⟨record, listed, at_key, rfl⟩
  · rintro none _ ⟨record, listed, at_key, rfl⟩
    exact none record listed at_key

theorem classRows_eq_nil (tallied : Tallied indexes labels firsts collected)
    (holds : Indexes atlas indexes) : (collected.outputs labels).classRows = [] ↔
      ∀ key ∈ firsts.map Prod.snd, ∀ record ∈ atlas, ¬ record.IsAt key := by
  have rows : (collected.outputs labels).classRows = [] ↔
      firsts.flatMap (classTouches (indexedEntries indexes)) = [] := by
    rw [← List.map_eq_nil_iff (f := (·.key)), List.eq_nil_iff_forall_not_mem,
      List.eq_nil_iff_forall_not_mem]
    simp only [tallied.mem_class_keys]
  have classes (key : Key) : ((entriesAt atlas key).map (·.blockClass)).eraseDups = [] ↔
      entriesAt atlas key = [] := by
    simp only [List.eq_nil_iff_forall_not_mem, List.mem_eraseDups, List.mem_map]
    exact ⟨fun none entry inside => none _ ⟨entry, inside, rfl⟩,
      fun none _ ⟨entry, inside, _⟩ => none entry inside⟩
  rw [rows, List.flatMap_eq_nil_iff, List.forall_mem_map]
  simp only [classTouches, List.map_eq_nil_iff, holds.entries, classes, entriesAt_eq_nil]

end Tallied

/-- The trace and the atlas give an output a row. -/
structure Filled (blockSize : ℤ) (atlas : List AtlasRecord) (trace : Text) (outputs : Outputs) :
    Prop where
  summaryRows : outputs.summaryRows = [] ↔ ¬ ∃ key, ReadsBlock blockSize trace key ∧
    ∃ record ∈ atlas, record.IsAt key ∧ record.blockClass = "file_data".toList
  blockRows : outputs.blockRows = [] ↔ ¬ ∃ key, ReadsBlock blockSize trace key ∧
    ∃ record ∈ atlas, record.IsAt key
  unmappedRows : outputs.unmappedRows = [] ↔ ¬ ∃ key, ReadsBlock blockSize trace key ∧
    (∃ record ∈ atlas, record.driveId = key.1) ∧ ∀ record ∈ atlas, ¬ record.IsAt key
  classRows : outputs.classRows = [] ↔ ¬ ∃ key, ReadsBlock blockSize trace key ∧
    ∃ record ∈ atlas, record.IsAt key

/-- An output is empty if the trace reads no block which belongs there by the atlas. -/
theorem filled_collectFileReads (sized : 0 < blockSize ∨ readRecords trace = [])
    (ended : collectFileReads labels blockSize atlas trace = .ok outputs) :
    Filled blockSize atlas trace outputs := by
  obtain ⟨indexes, firsts, collected, holds, tallied, rfl, keys⟩ := exists_tallied sized ended
  constructor
  · rw [tallied.summaryRows_eq_nil holds]
    simp only [keys, not_exists, not_and, Ne]
  · rw [tallied.blockRows_eq_nil holds]
    simp only [keys, not_exists, not_and]
  · rw [tallied.unmappedRows_eq_nil holds]
    simp only [keys, not_exists, not_and, not_forall, not_not, exists_prop, forall_exists_index,
      and_imp]
  · rw [tallied.classRows_eq_nil holds]
    simp only [keys, not_exists, not_and]

end Trace
end HermOS
