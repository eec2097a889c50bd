import HermOS.Trace.Record
import HermOS.Library.BlockRange
import HermOS.Library.FirstOccurrences

/-!
# First reads of a trace

Both decoders read back what `record` wrote.  For each recorded read they visit the blocks which it
overlaps in increasing order, and the keys kept are the first occurrences.
-/

namespace HermOS
namespace Trace

open Python (Text)

/-! ### Reading a recorded line -/

/-- The calls which `record` writes to the file. -/
def recorded (config : BlockTrace) (calls : List Call) : List Call :=
  calls.filter config.records

theorem mem_recorded {config : BlockTrace} {calls : List Call} {call : Call} :
    call ∈ recorded config calls ↔
      call ∈ calls ∧ ∀ filter ∈ config.driveFilter, filter = call.driveId := by
  rw [recorded, List.mem_filter, BlockTrace.records]
  cases config.driveFilter <;> simp

/-- The file after a sequence of calls. -/
def traceFile (config : BlockTrace) (calls : List Call) : Text :=
  calls.foldl (record (some config)) []

theorem plain_decimal (n : ℕ) : Plain (Python.decimal n) := by
  constructor
  · intro comma
    cases Python.isDigit_decimal ',' comma
  · exact Python.unbroken_decimal n

theorem split_traceLine (call : Call) : Python.split ',' (traceLine call) =
    [Python.decimal (timestampNs call), call.driveId, call.op,
      Python.decimal call.offset.toNat, Python.decimal call.length.toNat] := by
  refine Python.split_intercalate (by simp) ?_
  simp [(plain_decimal _).1, call.plain_driveId.1, call.plain_op.1]

theorem unbroken_traceLine (call : Call) : Python.Unbroken (traceLine call) := by
  have comma : Python.Unbroken [','] := by decide
  have shape : traceLine call = Python.decimal (timestampNs call) ++ ([','] ++ (call.driveId ++
      ([','] ++ (call.op ++ ([','] ++ (Python.decimal call.offset.toNat ++
        ([','] ++ Python.decimal call.length.toNat))))))) := by
    simp [traceLine, List.intercalate, List.intersperse]
  rw [shape]
  simp only [Python.unbroken_append]
  exact ⟨(plain_decimal _).2, comma, call.plain_driveId.2, comma, call.plain_op.2, comma,
    (plain_decimal _).2, comma, (plain_decimal _).2⟩

theorem traceFile_eq (config : BlockTrace) (calls : List Call) :
    traceFile config calls =
      ((recorded config calls).map traceLine).flatMap (· ++ ['\n']) := by
  induction calls using List.reverseRecOn with
  | nil => rfl
  | append_singleton calls call ih =>
      unfold traceFile recorded at ih ⊢
      rw [List.foldl_append, ih, List.filter_append]
      simp only [List.foldl_cons, List.foldl_nil, record]
      split
      next kept => simp [kept]
      next dropped => simp [dropped]

theorem readLines_traceFile (config : BlockTrace) (calls : List Call) :
    readLines (traceFile config calls) = (recorded config calls).map traceLine := by
  have unbroken : ∀ line ∈ (recorded config calls).map traceLine, Python.Unbroken line := by
    intro line inside
    obtain ⟨call, _, rfl⟩ := List.mem_map.mp inside
    exact unbroken_traceLine call
  have no_return : '\r' ∉ traceFile config calls := by
    rw [traceFile_eq]
    intro inside
    obtain ⟨line, member, inside⟩ := List.mem_flatMap.mp inside
    rcases List.mem_append.mp inside with inside | inside
    · cases unbroken line member '\r' inside
    · cases List.mem_singleton.mp inside
  rw [readLines, Python.universalNewlines_eq no_return, traceFile_eq,
    Python.splitLines_unlines unbroken]

/-! ### Blocks of a recorded read -/

/-- A read of at least one byte. -/
def Call.IsRead (call : Call) : Prop :=
  call.op = "read".toList ∧ 0 < call.length

instance (call : Call) : Decidable call.IsRead :=
  inferInstanceAs (Decidable (_ ∧ _))

/-- Some byte of the request lies in the block. -/
def Call.Overlaps (call : Call) (blockSize block : ℤ) : Prop :=
  ∃ byte : ℤ, (call.offset.toNat ≤ byte ∧ byte < call.offset.toNat + call.length.toNat) ∧
    block * blockSize ≤ byte ∧ byte < (block + 1) * blockSize

/-- The blocks between the first and the last byte of a request, in increasing order. -/
def Call.blocks (call : Call) (blockSize : ℤ) : List ℤ :=
  Int.range (Int.fdiv call.offset.toNat blockSize)
    (Int.fdiv (call.offset.toNat + call.length.toNat - 1) blockSize + 1)

theorem mem_blocks {call : Call} {blockSize : ℤ} (positive : 0 < blockSize)
    (nonempty : 0 < call.length) (block : ℤ) :
    block ∈ call.blocks blockSize ↔ call.Overlaps blockSize block := by
  have length : 0 < call.length.toNat := UInt32.lt_iff_toNat_lt.mp nonempty
  exact BlockRange.mem_blocks positive (by omega)

def Call.keys (call : Call) (blockSize : ℤ) : List Key :=
  if call.IsRead ∧ call.driveId ∈ lowerDriveIds then
    (call.blocks blockSize).map (call.driveId, ·)
  else
    []

theorem decimal_word_short {n : ℕ} (short : n < 2 ^ 128) : n < 10 ^ Python.maxStrDigits :=
  short.trans_le ((Nat.pow_le_pow_left (by decide : 2 ≤ 10) 128).trans
    (Nat.pow_le_pow_right (by decide) (by decide)))

section Lines

variable (call : Call) (blockSize : ℤ)

theorem int_offset : Python.int (Python.decimal call.offset.toNat) = some (call.offset.toNat : ℤ) :=
  Python.int_decimal (decimal_word_short (call.offset.toNat_lt.trans (by decide)))

theorem int_length : Python.int (Python.decimal call.length.toNat) = some (call.length.toNat : ℤ) :=
  Python.int_decimal (decimal_word_short (call.length.toNat_lt.trans (by decide)))

theorem int_timestampNs :
    Python.int (Python.decimal (timestampNs call)) = some (timestampNs call : ℤ) :=
  Python.int_decimal (decimal_word_short (call.now.getD 0).isLt)

theorem length_pos_iff : ¬ ((call.length.toNat : ℤ) ≤ 0) ↔ 0 < call.length := by
  rw [UInt32.lt_iff_toNat_lt]
  simp

theorem iterBlocksLine_traceLine :
    iterBlocksLine blockSize (traceLine call) = call.keys blockSize := by
  rw [iterBlocksLine, split_traceLine]
  simp only [int_offset, int_length]
  by_cases read : call.op = "read".toList
  · rw [if_neg (not_not.mpr read)]
    by_cases lower : call.driveId ∈ lowerDriveIds
    · rw [if_neg (not_not.mpr lower)]
      by_cases empty : (call.length.toNat : ℤ) ≤ 0
      · rw [if_pos empty, Call.keys, if_neg fun both => (length_pos_iff call).mpr both.1.2 empty]
      · have reads : call.IsRead := ⟨read, (length_pos_iff call).mp empty⟩
        rw [if_neg empty, Call.keys, if_pos ⟨reads, lower⟩]
        rfl
    · rw [if_pos lower, Call.keys, if_neg fun both => lower both.2]
  · rw [if_pos read, Call.keys, if_neg fun both => read both.1.1]

theorem iterReadBlocksLine_traceLine : iterReadBlocksLine blockSize (traceLine call) =
    if call.IsRead then (call.blocks blockSize).map (↑(timestampNs call), call.driveId, ·)
    else [] := by
  rw [iterReadBlocksLine, split_traceLine]
  simp only [int_offset, int_length, int_timestampNs]
  by_cases read : call.op = "read".toList
  · rw [if_neg (not_not.mpr read)]
    by_cases empty : (call.length.toNat : ℤ) ≤ 0
    · rw [if_pos empty, if_neg fun reads => (length_pos_iff call).mpr reads.2 empty]
    · have reads : call.IsRead := ⟨read, (length_pos_iff call).mp empty⟩
      rw [if_neg empty, if_pos reads]
      rfl
  · rw [if_pos read, if_neg fun reads => read reads.1]

end Lines

/-! ### Keeping first occurrences -/

/-- The keys of all recorded calls, in the order in which both decoders visit them. -/
def occurrences (blockSize : ℤ) (calls : List Call) : List Key :=
  calls.flatMap (·.keys blockSize)

theorem foldl_visit (keys : List Key) : ∀ key,
    (key ∈ (keys.foldl Emitted.visit ⟨[], []⟩).seen ↔ key ∈ keys) ∧
      (keys.foldl Emitted.visit ⟨[], []⟩).blocks = keys.eraseDups := by
  induction keys using List.reverseRecOn with
  | nil => simp
  | append_singleton keys key ih =>
      intro other
      rw [List.foldl_append, FirstOccurrences.eraseDups_concat]
      simp only [List.foldl_cons, List.foldl_nil, Emitted.visit, (ih key).1]
      split
      next known =>
        refine ⟨(ih other).1.trans ?_, (ih other).2⟩
        simp only [List.mem_append, List.mem_singleton]
        grind
      next fresh =>
        refine ⟨?_, congrArg (· ++ [key]) (ih other).2⟩
        simp only [List.mem_cons, (ih other).1, List.mem_append]
        tauto

theorem iterBlocks_traceFile (config : BlockTrace) (calls : List Call) (blockSize : ℤ) :
    iterBlocks (traceFile config calls) blockSize =
      (occurrences blockSize (recorded config calls)).eraseDups := by
  rw [iterBlocks, readLines_traceFile, ← List.foldl_flatMap, List.flatMap_map]
  simp only [iterBlocksLine_traceLine]
  exact (foldl_visit _ ([], 0)).2

theorem iterReadBlocks_traceFile (config : BlockTrace) (calls : List Call) (blockSize : ℤ) :
    ((iterReadBlocks (traceFile config calls) blockSize).map (·.2)).filter
        (·.1 ∈ lowerDriveIds) = occurrences blockSize (recorded config calls) := by
  rw [iterReadBlocks, readLines_traceFile, List.flatMap_map, List.map_flatMap, List.filter_flatMap,
    occurrences]
  congr 1
  funext call
  rw [iterReadBlocksLine_traceLine, Call.keys]
  by_cases reads : call.IsRead
  · by_cases lower : call.driveId ∈ lowerDriveIds
    · simp [reads, lower, Function.comp_def]
    · simp [reads, lower]
  · simp [reads]

/-- What a decoder owes to the recorded calls. -/
structure FirstReads (blockSize : ℤ) (calls : List Call) (blocks : List Key) : Prop where
  /-- The keys stand in the order of their first occurrence. -/
  order : blocks = (occurrences blockSize calls).eraseDups
  nodup : blocks.Nodup
  /-- They are the blocks of the lower drives which some recorded read overlaps. -/
  mem_iff : ∀ driveId block, (driveId, block) ∈ blocks ↔ driveId ∈ lowerDriveIds ∧
    ∃ call ∈ calls, call.IsRead ∧ call.driveId = driveId ∧ call.Overlaps blockSize block

theorem mem_occurrences {blockSize block : ℤ} {driveId : Text} (positive : 0 < blockSize)
    {calls : List Call} : (driveId, block) ∈ occurrences blockSize calls ↔
      driveId ∈ lowerDriveIds ∧ ∃ call ∈ calls, call.IsRead ∧ call.driveId = driveId ∧
        call.Overlaps blockSize block := by
  rw [occurrences, List.mem_flatMap]
  constructor
  · rintro ⟨call, member, inside⟩
    rw [Call.keys] at inside
    split at inside
    next reads =>
      obtain ⟨found, visited, same⟩ := List.mem_map.mp inside
      cases same
      exact ⟨reads.2, call, member, reads.1, rfl, (mem_blocks positive reads.1.2 _).mp visited⟩
    next => cases inside
  · rintro ⟨lower, call, member, reads, rfl, overlaps⟩
    refine ⟨call, member, ?_⟩
    rw [Call.keys, if_pos ⟨reads, lower⟩]
    exact List.mem_map.mpr ⟨block, (mem_blocks positive reads.2 block).mpr overlaps, rfl⟩

theorem firstReads_traceFile {blockSize : ℤ} (positive : 0 < blockSize) (config : BlockTrace)
    (calls : List Call) : FirstReads blockSize (recorded config calls)
      (iterBlocks (traceFile config calls) blockSize) := by
  rw [iterBlocks_traceFile]
  refine ⟨rfl, FirstOccurrences.nodup_eraseDups _, fun driveId block => ?_⟩
  rw [List.mem_eraseDups, mem_occurrences positive]

/-- Both decoders read the first reads of the drives back from what `record` wrote. -/
theorem iterBlocks_firstReads {blockSize : ℤ} (positive : 0 < blockSize) (config : BlockTrace)
    (calls : List Call) :
    FirstReads blockSize (recorded config calls)
        (iterBlocks (traceFile config calls) blockSize) ∧
      (((iterReadBlocks (traceFile config calls) blockSize).map (·.2)).filter
        (·.1 ∈ lowerDriveIds)).eraseDups = iterBlocks (traceFile config calls) blockSize := by
  refine ⟨firstReads_traceFile positive config calls, ?_⟩
  rw [iterReadBlocks_traceFile, iterBlocks_traceFile]

/-- A read across a block boundary and a flush. -/
def sampleCalls : List Call :=
  [⟨"rootfs".toList, "read".toList, 4000, 200, some 7, by decide, by decide⟩,
    ⟨"rootfs".toList, "flush".toList, 0, 0, none, by decide, by decide⟩]

theorem iterBlocks_firstReads_sample :
    FirstReads 4096 (recorded ⟨none⟩ sampleCalls)
      (iterBlocks (traceFile ⟨none⟩ sampleCalls) 4096) :=
  (iterBlocks_firstReads (by decide) ⟨none⟩ sampleCalls).1

example : iterBlocks (traceFile ⟨none⟩ sampleCalls) 4096 =
    [("rootfs".toList, 0), ("rootfs".toList, 1)] := by
  decide

end Trace
end HermOS
