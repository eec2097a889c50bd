import HermOS.Trace.FirstReads
import HermOS.Trace.PhaseSplit

/-!
# The first reads of each phase

The files of the two phases and the one which is left hold the records of consecutive stretches of
the recorded calls.  What a collector finds in the file of a phase are the first reads of its
stretch.
-/

namespace HermOS
namespace Trace

open Python (Text)

variable {config : BlockTrace} {calls : List Call} {trace : List SplitLabel} {state : SplitState}
  {next : ℕ}

/-- What the calls write, in the order in which they are made. -/
def callWrites (config : BlockTrace) (calls : List Call) : List (Option Text) :=
  calls.map config.written

theorem traceFile_eq_written (config : BlockTrace) (calls : List Call) :
    traceFile config calls = calls.flatMap fun call => (config.written call).getD [] := by
  induction calls using List.reverseRecOn with
  | nil => rfl
  | append_singleton calls call ih =>
      rw [traceFile, List.foldl_append, ← traceFile, ih, List.flatMap_append]
      exact (record_eq_written config _ call).trans (by rw [List.flatMap_singleton])

theorem textOf_callWrites (index : ℕ) : textOf (callWrites config calls) index =
    (calls[index]?.bind config.written).getD [] := by
  rw [textOf, callWrites, List.getElem?_map]
  cases calls[index]? <;> rfl

theorem isRecorded_callWrites (index : ℕ) : isRecorded (callWrites config calls) index =
    calls[index]?.any config.records := by
  rw [isRecorded, callWrites, List.getElem?_map]
  cases calls[index]? with
  | none => rfl
  | some call =>
      simp only [Option.map_some, Option.join_some, Option.any_some, BlockTrace.written]
      split <;> simp_all

/-- The records of numbered calls are the trace file of these calls. -/
theorem flatMap_textOf (numbers : List ℕ) :
    numbers.flatMap (textOf (callWrites config calls)) =
      traceFile config (numbers.filterMap (calls[·]?)) := by
  rw [traceFile_eq_written]
  induction numbers with
  | nil => rfl
  | cons index numbers ih =>
      rw [List.flatMap_cons, ih, textOf_callWrites, List.filterMap_cons]
      cases calls[index]? <;> rfl

/-- The numbers of the recorded calls stand for these calls. -/
theorem filterMap_recorded (config : BlockTrace) (calls : List Call) (next : ℕ) :
    ((List.range next).filter (isRecorded (callWrites config calls))).filterMap (calls[·]?) =
      recorded config (calls.take next) := by
  induction next with
  | zero => rfl
  | succ next ih =>
      rw [range_filter_succ, List.filterMap_append, ih, List.take_add_one, recorded, recorded,
        List.filter_append, isRecorded_callWrites]
      congr 1
      cases found : calls[next]? with
      | none => rfl
      | some call => cases kept : config.records call <;> simp [kept, found]

/-- Between two calls of `record` each of the three files is the trace file of a stretch of the
recorded calls, and the collectors find the first reads of this stretch in it. -/
theorem phases_firstReads {blockSize : ℤ} (positive : 0 < blockSize)
    (run : (phaseSplit (callWrites config calls)).Run trace state)
    (at_pc : state.vmm = .between next) :
    ∃ preworkload workload raw, preworkload ++ workload ++ raw = recorded config (calls.take next) ∧
      (state.files.read .preworkload = traceFile config preworkload ∧
        FirstReads blockSize preworkload (iterBlocks (state.files.read .preworkload) blockSize)) ∧
      (state.files.read .workload = traceFile config workload ∧
        FirstReads blockSize workload (iterBlocks (state.files.read .workload) blockSize)) ∧
      (state.files.read .raw = traceFile config raw ∧
        FirstReads blockSize raw (iterBlocks (state.files.read .raw) blockSize)) := by
  obtain ⟨records, shadowed⟩ := shadowed_run run
  have order := congrArg (List.filterMap (calls[·]?)) shadowed.order
  rw [at_pc, VmmPc.opened, filterMap_recorded, List.filterMap_append,
    List.filterMap_append] at order
  have kept : ∀ stretch, (∀ call ∈ stretch, call ∈ recorded config (calls.take next)) →
      recorded config stretch = stretch := fun stretch inside =>
    List.filter_eq_self.mpr fun call member => (List.mem_filter.mp (inside call member)).2
  have file : ∀ name, (∀ call ∈ (records.read name).filterMap (calls[·]?),
      call ∈ recorded config (calls.take next)) →
      state.files.read name = traceFile config ((records.read name).filterMap (calls[·]?)) ∧
        FirstReads blockSize ((records.read name).filterMap (calls[·]?))
          (iterBlocks (state.files.read name) blockSize) := by
    intro name inside
    rw [shadowed.read at_pc name, flatMap_textOf]
    have reads := firstReads_traceFile positive config ((records.read name).filterMap (calls[·]?))
    rw [kept _ inside] at reads
    exact ⟨rfl, reads⟩
  refine ⟨_, _, _, order, file _ ?_, file _ ?_, file _ ?_⟩
  all_goals
    intro call inside
    rw [← order]
    simp only [List.mem_append]
    tauto

/-- The read is recorded before the agent starts, and the flush while it works. -/
theorem phases_firstReads_sample : ∃ state preworkload workload raw,
    (phaseSplit (callWrites ⟨none⟩ sampleCalls)).Run
      [.begin 0, .opening, .write, .finish 0, .firstMove, .begin 1, .opening, .write, .finish 1,
        .existsCheck, .secondMove] state ∧
    preworkload ++ workload ++ raw = recorded ⟨none⟩ (sampleCalls.take 2) ∧
      (state.files.read .preworkload = traceFile ⟨none⟩ preworkload ∧
        FirstReads 4096 preworkload (iterBlocks (state.files.read .preworkload) 4096)) ∧
      (state.files.read .workload = traceFile ⟨none⟩ workload ∧
        FirstReads 4096 workload (iterBlocks (state.files.read .workload) 4096)) ∧
      (state.files.read .raw = traceFile ⟨none⟩ raw ∧
        FirstReads 4096 raw (iterBlocks (state.files.read .raw) 4096)) := by
  have run : ∃ state, (phaseSplit (callWrites ⟨none⟩ sampleCalls)).Run
      [.begin 0, .opening, .write, .finish 0, .firstMove, .begin 1, .opening, .write, .finish 1,
        .existsCheck, .secondMove] state ∧ state.vmm = .between 2 := by
    have whole : ∀ text : Text, text = text ++ [] := fun text => (List.append_nil text).symm
    refine ⟨_, ⟨_, rfl, .cons (.begin rfl (by decide)) <| .cons (.opening rfl rfl) <|
      .cons (.write (congrArg _ (whole _)) nofun) <| .cons (.finish rfl) <|
      .cons (.firstMove rfl nofun) <| .cons (.begin rfl (by decide)) <|
      .cons (.opening rfl rfl) <| .cons (.write (congrArg _ (whole _)) nofun) <|
      .cons (.finish rfl) <| .cons (.existsTrue rfl nofun) <| .cons (.secondMove rfl nofun) <|
      .nil _⟩, rfl⟩
  obtain ⟨state, run, at_pc⟩ := run
  obtain ⟨preworkload, workload, raw, phases⟩ :=
    phases_firstReads (show (0 : ℤ) < 4096 by decide) run at_pc
  exact ⟨state, preworkload, workload, raw, run, phases⟩

end Trace
end HermOS
