import HermOS.Library.Inodes
import HermOS.Library.TransitionSystem
import HermOS.Trace.Record

/-!
# The phases of a block trace

The VMM thread opens the trace file anew for every record, while `run_instance` renames the file
away before the agent starts and again after it has ended.  A record follows the handle with which
it was opened: it belongs to the file under whose name its inode ends up, whole, however the
writes and the renames interleave.
-/

namespace HermOS
namespace Trace

open Python (Text)

/-- What `record` writes. -/
def BlockTrace.written (config : BlockTrace) (call : Call) : Option Text :=
  if config.records call then some (traceLine call ++ ['\n']) else none

theorem record_eq_written (config : BlockTrace) (file : Text) (call : Call) :
    record (some config) file call = file ++ (config.written call).getD [] := by
  simp only [record, BlockTrace.written]
  split <;> simp

inductive TraceFile
  /-- `block_trace.csv`. -/
  | raw
  /-- `preworkload_block_trace.csv`. -/
  | preworkload
  /-- `workload_block_trace.csv`. -/
  | workload
  deriving DecidableEq

/-- Program points of the VMM thread. -/
inductive VmmPc
  | between (next : ℕ)
  /-- In a call, before the file is opened. -/
  | called (index : ℕ)
  /-- In `writeln!` on an open file, with the text which is left to write. -/
  | writing (index inode : ℕ) (rest : Text)

/-- Program points of `run_instance`. -/
inductive RunPc
  /-- Before the first move. -/
  | booting
  /-- Before the exists check. -/
  | working
  /-- The exists check has found the file. -/
  | found
  /-- The exists check has found no file. -/
  | missing
  /-- After the second move, or after the empty file has been written. -/
  | collecting

structure SplitState where
  vmm : VmmPc
  run : RunPc
  files : Inodes TraceFile Char

inductive SplitLabel
  | begin (index : ℕ)
  | opening
  | write
  | finish (index : ℕ)
  | firstMove
  | existsCheck
  | secondMove

/-- One step of the VMM thread or of `run_instance`.  The calls are given by what they write;
`writeln!` may need any number of writes for a record. -/
inductive SplitStep (writes : List (Option Text)) : SplitState → SplitLabel → SplitState → Prop
  | begin {state : SplitState} {index : ℕ} (at_pc : state.vmm = .between index)
      (more : index < writes.length) :
      SplitStep writes state (.begin index) { state with vmm := .called index }
  | filtered {state : SplitState} {index : ℕ} (at_pc : state.vmm = .called index)
      (dropped : writes[index]? = some none) :
      SplitStep writes state (.finish index) { state with vmm := .between (index + 1) }
  | opening {state : SplitState} {index : ℕ} {text : Text} (at_pc : state.vmm = .called index)
      (written : writes[index]? = some (some text)) :
      SplitStep writes state .opening
        { state with
          vmm := .writing index (state.files.inodeOf .raw) text
          files := state.files.create .raw }
  | write {state : SplitState} {index inode : ℕ} {chunk rest : Text}
      (at_pc : state.vmm = .writing index inode (chunk ++ rest)) (some_chunk : chunk ≠ []) :
      SplitStep writes state .write
        { state with
          vmm := .writing index inode rest
          files := state.files.append inode chunk }
  | finish {state : SplitState} {index inode : ℕ} (at_pc : state.vmm = .writing index inode []) :
      SplitStep writes state (.finish index) { state with vmm := .between (index + 1) }
  | firstMove {state : SplitState} (at_pc : state.run = .booting)
      (present : state.files.entry .raw ≠ none) :
      SplitStep writes state .firstMove
        { state with run := .working, files := state.files.rename .raw .preworkload }
  | existsTrue {state : SplitState} (at_pc : state.run = .working)
      (present : state.files.entry .raw ≠ none) :
      SplitStep writes state .existsCheck { state with run := .found }
  | existsFalse {state : SplitState} (at_pc : state.run = .working)
      (absent : state.files.entry .raw = none) :
      SplitStep writes state .existsCheck { state with run := .missing }
  | secondMove {state : SplitState} (at_pc : state.run = .found)
      (present : state.files.entry .raw ≠ none) :
      SplitStep writes state .secondMove
        { state with run := .collecting, files := state.files.rename .raw .workload }
  | writeEmpty {state : SplitState} (at_pc : state.run = .missing) :
      SplitStep writes state .secondMove
        { state with
          run := .collecting
          files := (state.files.create .workload).truncate (state.files.inodeOf .workload) }

/-- All interleavings of the calls of `record` with the moves of `run_instance`, which has just
written an empty trace file and removed the files of the two phases. -/
def phaseSplit (writes : List (Option Text)) : TransitionSystem SplitState SplitLabel where
  Initial state := state = ⟨.between 0, .booting, Inodes.empty.create .raw⟩
  Step := SplitStep writes

/-! ### Files of whole records -/

section Records

variable (writes : List (Option Text))

/-- The call writes a record. -/
def isRecorded (index : ℕ) : Bool :=
  writes[index]?.join.isSome

/-- The record of a call. -/
def textOf (index : ℕ) : Text :=
  writes[index]?.join.getD []

end Records

/-- Number of calls which have opened the file or do not need to. -/
def VmmPc.opened : VmmPc → ℕ
  | .between next => next
  | .called index => index
  | .writing index _ _ => index + 1

/-- What is left to write to an inode. -/
def VmmPc.pending : VmmPc → ℕ → Text
  | .writing _ target rest, inode => if inode = target then rest else []
  | _, _ => []

/-- The files as lists of the calls whose records they hold, each written at once when it is
opened. -/
def noteRecord (state : SplitState) :
    SplitLabel → Inodes TraceFile ℕ → Inodes TraceFile ℕ
  | .opening, files =>
      match state.vmm with
      | .called index => (files.create .raw).append (files.inodeOf .raw) [index]
      | _ => files
  | .firstMove, files => files.rename .raw .preworkload
  | .secondMove, files =>
      match state.run with
      | .found => files.rename .raw .workload
      | _ => (files.create .workload).truncate (files.inodeOf .workload)
  | _, files => files

/-- `phaseSplit` with its files of whole records. -/
def recordSplit (writes : List (Option Text)) :
    TransitionSystem (SplitState × Inodes TraceFile ℕ) SplitLabel :=
  (phaseSplit writes).withHistory (Inodes.empty.create .raw) noteRecord

/-- Which files exist at a point of `run_instance`. -/
def PhaseOk (entry : TraceFile → Option ℕ) : RunPc → Prop
  | .booting => entry .raw ≠ none ∧ entry .preworkload = none ∧ entry .workload = none
  | .working | .missing => entry .workload = none
  | .found => entry .raw ≠ none ∧ entry .workload = none
  | .collecting => True

variable {writes : List (Option Text)}

/-- The written text is that of the records, except for the one which is being written. -/
structure Shadowed (writes : List (Option Text)) (state : SplitState)
    (records : Inodes TraceFile ℕ) : Prop where
  valid : records.Valid
  entry : state.files.entry = records.entry
  next : state.files.next = records.next
  content : ∀ inode, state.files.content inode ++ state.vmm.pending inode =
    (records.content inode).flatMap (textOf writes)
  handle : ∀ index inode rest, state.vmm = .writing index inode rest → inode < records.next
  order : records.read .preworkload ++ records.read .workload ++ records.read .raw =
    (List.range state.vmm.opened).filter (isRecorded writes)
  phase : PhaseOk records.entry state.run

theorem range_filter_succ (next : ℕ) :
    (List.range (next + 1)).filter (isRecorded writes) =
      (List.range next).filter (isRecorded writes) ++
        if isRecorded writes next = true then [next] else [] := by
  rw [List.range_succ, List.filter_append]
  congr 1
  by_cases written : isRecorded writes next = true <;> simp [written]

theorem shadowed_init : Shadowed writes ⟨.between 0, .booting, Inodes.empty.create .raw⟩
    (Inodes.empty.create .raw) := by
  refine ⟨Inodes.valid_empty.create _, rfl, rfl, fun inode => ?_,
    (fun _ _ _ at_pc => by cases at_pc), rfl, ?_⟩
  · simp [Inodes.content_create, Inodes.empty, VmmPc.pending]
  · simp [PhaseOk, Inodes.entry_create, Inodes.empty, Inodes.inodeOf]

namespace Shadowed

variable {state : SplitState} {records : Inodes TraceFile ℕ}

/-- The VMM thread moves without touching a file. -/
theorem moveVmm (shadowed : Shadowed writes state records) {pc : VmmPc}
    (pending : ∀ inode, pc.pending inode = state.vmm.pending inode)
    (quiet : ∀ index inode rest, pc ≠ .writing index inode rest)
    (opened : (List.range pc.opened).filter (isRecorded writes) =
      (List.range state.vmm.opened).filter (isRecorded writes)) :
    Shadowed writes { state with vmm := pc } records :=
  ⟨shadowed.valid, shadowed.entry, shadowed.next,
    fun inode => (congrArg _ (pending inode)).trans (shadowed.content inode),
    fun index inode rest at_pc => absurd at_pc (quiet index inode rest),
    shadowed.order.trans opened.symm, shadowed.phase⟩

/-- A new record goes to the file which is the raw one when it is opened. -/
theorem openRaw (shadowed : Shadowed writes state records) {index : ℕ} {text : Text}
    (at_pc : state.vmm = .called index) (written : writes[index]? = some (some text)) :
    Shadowed writes
      { state with
        vmm := .writing index (state.files.inodeOf .raw) text
        files := state.files.create .raw }
      ((records.create .raw).append (records.inodeOf .raw) [index]) := by
  have same : state.files.inodeOf .raw = records.inodeOf .raw := by
    rw [Inodes.inodeOf, Inodes.inodeOf, shadowed.entry, shadowed.next]
  have created := shadowed.valid.create .raw
  have named : (records.create .raw).entry .raw = some (records.inodeOf .raw) := by
    rw [Inodes.entry_create, Function.update_self]
  have text_eq : textOf writes index = text := by simp [textOf, written]
  refine ⟨created.append _ _, ?_, ?_, fun inode => ?_, ?_, ?_, ?_⟩
  · rw [Inodes.entry_create, same, shadowed.entry]
    exact (Inodes.entry_create records .raw).symm
  · rw [Inodes.next_create, shadowed.entry, shadowed.next]
    exact (Inodes.next_create records .raw).symm
  · have blank : (state.files.create .raw).content inode =
        ((records.create .raw).content inode).flatMap (textOf writes) := by
      rw [Inodes.content_create, Inodes.content_create, shadowed.entry, shadowed.next]
      split
      · rfl
      · simpa [at_pc, VmmPc.pending] using shadowed.content inode
    rw [blank, same, VmmPc.pending, Inodes.content_append]
    split
    next => rw [List.flatMap_append, List.flatMap_singleton, text_eq]
    next => rw [List.append_nil]
  · rintro _ _ _ ⟨⟩
    rw [same]
    exact created.fresh named
  · have order := shadowed.order
    have is_recorded : isRecorded writes index = true := by simp [isRecorded, written]
    rw [at_pc] at order
    rw [created.read_append _ named, created.read_append _ named, created.read_append _ named,
      shadowed.valid.read_create, shadowed.valid.read_create, shadowed.valid.read_create]
    simp only [reduceCtorEq, if_false, if_true, VmmPc.opened] at order ⊢
    rw [range_filter_succ, is_recorded, if_pos rfl, ← order, List.append_assoc _ _ [index]]
  · have phase := shadowed.phase
    simp only [Inodes.append, Inodes.entry_create]
    cases at_run : state.run <;> simp_all [PhaseOk]

/-- A chunk of the open record is written. -/
theorem writeChunk (shadowed : Shadowed writes state records) {index inode : ℕ}
    {chunk rest : Text} (at_pc : state.vmm = .writing index inode (chunk ++ rest)) :
    Shadowed writes
      { state with
        vmm := .writing index inode rest
        files := state.files.append inode chunk } records := by
  refine ⟨shadowed.valid, shadowed.entry, shadowed.next, fun other => ?_, ?_, ?_, shadowed.phase⟩
  · have content := shadowed.content other
    rw [at_pc] at content
    simp only [VmmPc.pending, Inodes.content_append] at content ⊢
    split
    next same => simpa [same] using content
    next ne => simpa [ne] using content
  · rintro _ _ _ ⟨⟩
    exact shadowed.handle _ _ _ at_pc
  · simpa [at_pc, VmmPc.opened] using shadowed.order

/-- A file is renamed away from under the writer. -/
theorem moveRaw (shadowed : Shadowed writes state records) {target : TraceFile} {run : RunPc}
    (order : (records.rename .raw target).read .preworkload ++
      (records.rename .raw target).read .workload ++ (records.rename .raw target).read .raw =
        records.read .preworkload ++ records.read .workload ++ records.read .raw)
    (phase : PhaseOk (records.rename .raw target).entry run) :
    Shadowed writes { state with run, files := state.files.rename .raw target }
      (records.rename .raw target) := by
  refine ⟨shadowed.valid.rename _ _, ?_, shadowed.next, shadowed.content, shadowed.handle,
    order.trans shadowed.order, phase⟩
  simp only [Inodes.rename, shadowed.entry]

/-- The empty workload file is written. -/
theorem writeEmpty (shadowed : Shadowed writes state records)
    (missing : records.entry .workload = none) :
    Shadowed writes
      { state with
        run := .collecting
        files := (state.files.create .workload).truncate (state.files.inodeOf .workload) }
      ((records.create .workload).truncate (records.inodeOf .workload)) := by
  have same : state.files.inodeOf .workload = records.inodeOf .workload := by
    rw [Inodes.inodeOf, Inodes.inodeOf, shadowed.entry, shadowed.next]
  have created := shadowed.valid.create .workload
  have named : (records.create .workload).entry .workload = some (records.inodeOf .workload) := by
    rw [Inodes.entry_create, Function.update_self]
  refine ⟨created.truncate _, ?_, ?_, fun inode => ?_, ?_, ?_, trivial⟩
  · rw [Inodes.truncate, Inodes.truncate, Inodes.entry_create, Inodes.entry_create, same,
      shadowed.entry]
  · rw [Inodes.truncate, Inodes.truncate, Inodes.next_create, Inodes.next_create, shadowed.entry,
      shadowed.next]
  · have untouched : state.vmm.pending records.next = [] := by
      cases at_pc : state.vmm with
      | writing index target rest =>
          have below := shadowed.handle index target rest at_pc
          simp [VmmPc.pending, below.ne']
      | between => rfl
      | called => rfl
    have content := shadowed.content inode
    rw [Inodes.content_truncate, Inodes.content_truncate, Inodes.content_create,
      Inodes.content_create, same, Inodes.inodeOf_of_none missing, shadowed.entry, shadowed.next]
    split
    next fresh =>
      rw [fresh, untouched]
      rfl
    next used =>
      rw [if_neg fun both => used both.2, if_neg fun both => used both.2]
      exact content
  · intro index inode rest at_pc
    refine (shadowed.handle index inode rest at_pc).trans_le ?_
    rw [Inodes.truncate, Inodes.next_create]
    split <;> omega
  · have order := shadowed.order
    rw [created.read_truncate named, created.read_truncate named, created.read_truncate named]
    simpa [shadowed.valid.read_create, records.read_of_none missing] using order

end Shadowed

theorem shadowed_step {before after : SplitState} {label : SplitLabel}
    {records : Inodes TraceFile ℕ} (shadowed : Shadowed writes before records)
    (step : SplitStep writes before label after) :
    Shadowed writes after (noteRecord before label records) := by
  have phase : ∀ {pc}, before.run = pc → PhaseOk records.entry pc := by
    rintro _ rfl
    exact shadowed.phase
  cases step with
  | begin at_pc more =>
      exact shadowed.moveVmm (fun _ => by rw [at_pc]; rfl) (by simp) (by rw [at_pc]; rfl)
  | @filtered index at_pc dropped =>
      refine shadowed.moveVmm (fun _ => by rw [at_pc]; rfl) (by simp) ?_
      have unrecorded : isRecorded writes index = false := by simp [isRecorded, dropped]
      rw [at_pc]
      simp [VmmPc.opened, range_filter_succ, unrecorded]
  | opening at_pc written =>
      simp only [noteRecord, at_pc]
      exact shadowed.openRaw at_pc written
  | write at_pc some_chunk => exact shadowed.writeChunk at_pc
  | finish at_pc =>
      exact shadowed.moveVmm (fun _ => by rw [at_pc]; simp [VmmPc.pending]) (by simp)
        (by rw [at_pc]; rfl)
  | firstMove at_pc present =>
      obtain ⟨_, no_pre, no_work⟩ := phase at_pc
      refine shadowed.moveRaw ?_ ?_
      · simp [Inodes.read_rename, records.read_of_none no_pre, records.read_of_none no_work]
      · simp [PhaseOk, Inodes.rename, no_work]
  | existsTrue at_pc present =>
      have no_work := phase at_pc
      exact ⟨shadowed.valid, shadowed.entry, shadowed.next, shadowed.content, shadowed.handle,
        shadowed.order, shadowed.entry ▸ present, no_work⟩
  | existsFalse at_pc absent =>
      have no_work := phase at_pc
      exact ⟨shadowed.valid, shadowed.entry, shadowed.next, shadowed.content, shadowed.handle,
        shadowed.order, no_work⟩
  | secondMove at_pc present =>
      obtain ⟨_, no_work⟩ := phase at_pc
      simp only [noteRecord, at_pc]
      refine shadowed.moveRaw ?_ trivial
      simp [Inodes.read_rename, records.read_of_none no_work]
  | writeEmpty at_pc =>
      have no_work := phase at_pc
      simp only [noteRecord, at_pc]
      exact shadowed.writeEmpty no_work

/-! ### Times of a call -/

theorem opened_step {before after : SplitState} {label : SplitLabel}
    (step : SplitStep writes before label after) : before.vmm.opened ≤ after.vmm.opened := by
  cases step <;> simp_all [VmmPc.opened]

/-- A call which begins has not opened the file. -/
theorem opened_le_begin {before after : SplitState} {index : ℕ}
    (step : SplitStep writes before (.begin index) after) : before.vmm.opened ≤ index := by
  cases step with
  | begin at_pc => simp [at_pc, VmmPc.opened]

theorem finish_lt_opened {before after : SplitState} {index : ℕ}
    (step : SplitStep writes before (.finish index) after) : index < after.vmm.opened := by
  cases step <;> simp [VmmPc.opened]

/-- A call which has finished has opened the file or does not need to. -/
theorem finished_path {before after : SplitState × Inodes TraceFile ℕ} {trace : List SplitLabel}
    (path : (recordSplit writes).Path before trace after) :
    ∀ index, .finish index ∈ trace → index < after.1.vmm.opened := by
  refine path.invariant_trace
    (fun past pair => ∀ index, .finish index ∈ past → index < pair.1.vmm.opened) ?_
    fun _ member => absurd member List.not_mem_nil
  intro past before label after finished step index member
  rcases List.mem_append.mp member with earlier | last
  · exact (finished index earlier).trans_le (opened_step step.1)
  · obtain rfl := List.mem_singleton.mp last
    exact finish_lt_opened step.1

/-- A call which begins on a path has not opened the file before it. -/
theorem begun_path {before after : SplitState × Inodes TraceFile ℕ} {trace : List SplitLabel}
    (path : (recordSplit writes).Path before trace after) {index : ℕ}
    (begun : .begin index ∈ trace) : before.1.vmm.opened ≤ index := by
  have bounded : ∀ label ∈ trace, ∀ index, label = .begin index →
      before.1.vmm.opened ≤ index := by
    refine path.forall_label (fun pair => before.1.vmm.opened ≤ pair.1.vmm.opened) ?_ ?_ (le_refl _)
    · exact fun bound step => bound.trans (opened_step step.1)
    · rintro _ _ _ bound step index rfl
      exact bound.trans (opened_le_begin step.1)
  exact bounded _ begun index rfl

/-! ### The phases -/

/-- Once the first move is made the preworkload file gains no record. -/
theorem preworkload_step {before after : SplitState} {label : SplitLabel}
    {records : Inodes TraceFile ℕ} (shadowed : Shadowed writes before records)
    (moved : before.run ≠ .booting) (step : SplitStep writes before label after) :
    after.run ≠ .booting ∧
      (noteRecord before label records).read .preworkload = records.read .preworkload := by
  have raw_named : (records.create .raw).entry .raw = some (records.inodeOf .raw) := by
    rw [Inodes.entry_create, Function.update_self]
  have work_named : (records.create .workload).entry .workload =
      some (records.inodeOf .workload) := by
    rw [Inodes.entry_create, Function.update_self]
  cases step with
  | begin at_pc more => exact ⟨moved, rfl⟩
  | filtered at_pc dropped => exact ⟨moved, rfl⟩
  | opening at_pc written =>
      refine ⟨moved, ?_⟩
      simp only [noteRecord, at_pc]
      rw [(shadowed.valid.create _).read_append _ raw_named, shadowed.valid.read_create]
      rfl
  | write at_pc some_chunk => exact ⟨moved, rfl⟩
  | finish at_pc => exact ⟨moved, rfl⟩
  | firstMove at_pc present => exact absurd at_pc moved
  | existsTrue at_pc present => exact ⟨nofun, rfl⟩
  | existsFalse at_pc absent => exact ⟨nofun, rfl⟩
  | secondMove at_pc present =>
      refine ⟨nofun, ?_⟩
      simp only [noteRecord, at_pc]
      rw [Inodes.read_rename]
      rfl
  | writeEmpty at_pc =>
      refine ⟨nofun, ?_⟩
      simp only [noteRecord, at_pc]
      rw [(shadowed.valid.create _).read_truncate work_named, shadowed.valid.read_create]
      rfl

/-- The call's record is in the file which the second move makes the workload file. -/
def AtWork (index : ℕ) (state : SplitState) (records : Inodes TraceFile ℕ) : Prop :=
  (state.run = .found ∧ index ∈ records.read .raw) ∨
    (state.run = .collecting ∧ index ∈ records.read .workload)

theorem atWork_step {before after : SplitState} {label : SplitLabel}
    {records : Inodes TraceFile ℕ} {index : ℕ} (shadowed : Shadowed writes before records)
    (at_work : AtWork index before records) (step : SplitStep writes before label after) :
    AtWork index after (noteRecord before label records) := by
  have raw_named : (records.create .raw).entry .raw = some (records.inodeOf .raw) := by
    rw [Inodes.entry_create, Function.update_self]
  have reached : before.run = .found ∨ before.run = .collecting := by
    rcases at_work with ⟨at_run, _⟩ | ⟨at_run, _⟩
    · exact .inl at_run
    · exact .inr at_run
  cases step with
  | begin at_pc more => exact at_work
  | filtered at_pc dropped => exact at_work
  | opening at_pc written =>
      have created := shadowed.valid.create .raw
      simp only [noteRecord, at_pc, AtWork] at at_work ⊢
      rw [created.read_append _ raw_named, created.read_append _ raw_named,
        shadowed.valid.read_create, shadowed.valid.read_create]
      refine at_work.imp (fun inside => ⟨inside.1, ?_⟩) id
      exact List.mem_append_left _ inside.2
  | write at_pc some_chunk => exact at_work
  | finish at_pc => exact at_work
  | firstMove at_pc present => simp [at_pc] at reached
  | existsTrue at_pc present => simp [at_pc] at reached
  | existsFalse at_pc absent => simp [at_pc] at reached
  | secondMove at_pc present =>
      refine .inr ⟨rfl, ?_⟩
      simp only [noteRecord, at_pc]
      rw [Inodes.read_rename]
      rcases at_work with ⟨_, inside⟩ | ⟨at_run, _⟩
      · exact inside
      · simp [at_pc] at at_run
  | writeEmpty at_pc => simp [at_pc] at reached

theorem shadowed_path {before after : SplitState × Inodes TraceFile ℕ} {trace : List SplitLabel}
    (path : (recordSplit writes).Path before trace after)
    (shadowed : Shadowed writes before.1 before.2) : Shadowed writes after.1 after.2 :=
  path.invariant (fun pair => Shadowed writes pair.1 pair.2)
    (fun shadowed step => step.2 ▸ shadowed_step shadowed step.1) shadowed

theorem preworkload_path {before after : SplitState × Inodes TraceFile ℕ}
    {trace : List SplitLabel} (path : (recordSplit writes).Path before trace after)
    (shadowed : Shadowed writes before.1 before.2) (moved : before.1.run ≠ .booting) :
    after.2.read .preworkload = before.2.read .preworkload := by
  refine (path.invariant (fun pair => Shadowed writes pair.1 pair.2 ∧ pair.1.run ≠ .booting ∧
    pair.2.read .preworkload = before.2.read .preworkload) ?_ ⟨shadowed, moved, rfl⟩).2.2
  rintro middle label after ⟨shadowed, moved, same⟩ ⟨step, noted⟩
  obtain ⟨still, kept⟩ := preworkload_step shadowed moved step
  rw [noted]
  exact ⟨shadowed_step shadowed step, still, kept.trans same⟩

theorem atWork_path {before after : SplitState × Inodes TraceFile ℕ} {trace : List SplitLabel}
    {index : ℕ} (path : (recordSplit writes).Path before trace after)
    (shadowed : Shadowed writes before.1 before.2) (at_work : AtWork index before.1 before.2) :
    AtWork index after.1 after.2 := by
  refine (path.invariant (fun pair => Shadowed writes pair.1 pair.2 ∧ AtWork index pair.1 pair.2)
    ?_ ⟨shadowed, at_work⟩).2
  rintro middle label after ⟨shadowed, at_work⟩ ⟨step, noted⟩
  rw [noted]
  exact ⟨shadowed_step shadowed step, atWork_step shadowed at_work step⟩

/-- A recorded call which is past its opening is in one of the files. -/
theorem Shadowed.mem_files {state : SplitState} {records : Inodes TraceFile ℕ} {index : ℕ}
    (shadowed : Shadowed writes state records) (written : isRecorded writes index = true)
    (opened : index < state.vmm.opened) :
    index ∈ records.read .preworkload ++ records.read .workload ++ records.read .raw := by
  rw [shadowed.order, List.mem_filter, List.mem_range]
  exact ⟨opened, written⟩

/-- Records of calls which have finished before the first move are moved by it. -/
theorem early_preworkload {start middle after : SplitState × Inodes TraceFile ℕ}
    {front : List SplitLabel} {index : ℕ} (path : (recordSplit writes).Path start front middle)
    (shadowed : Shadowed writes start.1 start.2) (written : isRecorded writes index = true)
    (finished : .finish index ∈ front)
    (step : (recordSplit writes).Step middle .firstMove after) :
    index ∈ after.2.read .preworkload := by
  have kept := shadowed_path path shadowed
  have member := kept.mem_files written (finished_path path index finished)
  have phase := kept.phase
  obtain ⟨middle, records⟩ := middle
  obtain ⟨after, later⟩ := after
  obtain ⟨step, rfl⟩ := step
  cases step with
  | firstMove at_pc present =>
      rw [show middle.run = _ from at_pc] at phase
      simp only [noteRecord, Inodes.read_rename]
      simpa [records.read_of_none phase.2.1, records.read_of_none phase.2.2] using member

/-- Records of calls which begin after the first move and finish before the exists check are in
the file which the check finds. -/
theorem late_atWork {start middle after : SplitState × Inodes TraceFile ℕ}
    {between : List SplitLabel} {index : ℕ}
    (path : (recordSplit writes).Path start between middle)
    (shadowed : Shadowed writes start.1 start.2) (moved : start.1.run ≠ .booting)
    (written : isRecorded writes index = true) (begun : .begin index ∈ between)
    (finished : .finish index ∈ between)
    (step : (recordSplit writes).Step middle .existsCheck after) :
    AtWork index after.1 after.2 := by
  have kept := shadowed_path path shadowed
  have member := kept.mem_files written (finished_path path index finished)
  have outside : index ∉ middle.2.read .preworkload := by
    intro inside
    rw [preworkload_path path shadowed moved] at inside
    have early : index ∈ (List.range start.1.vmm.opened).filter (isRecorded writes) := by
      rw [← shadowed.order]
      exact List.mem_append_left _ (List.mem_append_left _ inside)
    have opened := List.mem_range.mp (List.mem_filter.mp early).1
    exact absurd (begun_path path begun) (by omega)
  have phase := kept.phase
  obtain ⟨middle, records⟩ := middle
  obtain ⟨after, later⟩ := after
  obtain ⟨step, noted⟩ := step
  have unchanged : later = records := noted
  subst unchanged
  cases step with
  | existsTrue at_pc present =>
      rw [show middle.run = _ from at_pc] at phase
      refine .inl ⟨rfl, ?_⟩
      simpa [outside, later.read_of_none phase] using member
  | existsFalse at_pc absent =>
      rw [show middle.run = _ from at_pc] at phase
      have gone : later.entry .raw = none := kept.entry ▸ absent
      simp [outside, later.read_of_none phase, later.read_of_none gone] at member

theorem moved_run {before after : SplitState} (step : SplitStep writes before .firstMove after) :
    after.run ≠ .booting := by
  cases step
  nofun

/-- The files are the records of the calls so far, each in one of them and in call order. -/
structure Partitioned (writes : List (Option Text)) (trace : List SplitLabel)
    (state : SplitState) (next : ℕ) (preworkload workload raw : List ℕ) : Prop where
  order : preworkload ++ workload ++ raw = (List.range next).filter (isRecorded writes)
  preworkload_text : state.files.read .preworkload = preworkload.flatMap (textOf writes)
  workload_text : state.files.read .workload = workload.flatMap (textOf writes)
  raw_text : state.files.read .raw = raw.flatMap (textOf writes)
  early : ∀ front back, trace = front ++ .firstMove :: back →
    ∀ index, isRecorded writes index = true → .finish index ∈ front → index ∈ preworkload
  late : state.run = .collecting → ∀ front between back,
    trace = front ++ .firstMove :: (between ++ .existsCheck :: back) →
      ∀ index, isRecorded writes index = true → .begin index ∈ between →
        .finish index ∈ between → index ∈ workload

theorem Shadowed.read {state : SplitState} {records : Inodes TraceFile ℕ} {next : ℕ}
    (shadowed : Shadowed writes state records) (at_pc : state.vmm = .between next)
    (name : TraceFile) : state.files.read name = (records.read name).flatMap (textOf writes) := by
  rw [Inodes.read, Inodes.read, shadowed.entry]
  cases records.entry name with
  | none => rfl
  | some inode => simpa [at_pc, VmmPc.pending] using shadowed.content inode

theorem shadowed_run {trace : List SplitLabel} {state : SplitState}
    (run : (phaseSplit writes).Run trace state) : ∃ records, Shadowed writes state records := by
  obtain ⟨_, rfl, path⟩ := run
  obtain ⟨records, path⟩ := path.withHistory (Inodes.empty.create .raw) noteRecord
    (Inodes.empty.create .raw)
  exact ⟨records, shadowed_path path shadowed_init⟩

/-- Between two calls of `record` the three files hold every record once and whole. -/
theorem phaseSplit_partitioned {trace : List SplitLabel} {state : SplitState} {next : ℕ}
    (run : (phaseSplit writes).Run trace state) (at_pc : state.vmm = .between next) :
    ∃ preworkload workload raw,
      Partitioned writes trace state next preworkload workload raw := by
  obtain ⟨_, rfl, path⟩ := run
  obtain ⟨records, path⟩ := path.withHistory (Inodes.empty.create .raw) noteRecord
    (Inodes.empty.create .raw)
  have shadowed := shadowed_path path shadowed_init
  refine ⟨records.read .preworkload, records.read .workload, records.read .raw, ?_,
    shadowed.read at_pc _, shadowed.read at_pc _, shadowed.read at_pc _, ?_, ?_⟩
  · simpa [at_pc, VmmPc.opened] using shadowed.order
  · rintro front back rfl index written finished
    obtain ⟨middle, first, rest⟩ := path.split
    cases rest with
    | @cons _ moved _ _ _ step rest =>
        have member := early_preworkload first shadowed_init written finished step
        have kept := shadowed_path first shadowed_init
        rwa [preworkload_path rest (step.2 ▸ shadowed_step kept step.1) (moved_run step.1)]
  · rintro collecting front between back rfl index written begun finished
    obtain ⟨middle, first, rest⟩ := path.split
    cases rest with
    | @cons _ moved _ _ _ step rest =>
        have kept : Shadowed writes moved.1 moved.2 :=
          step.2 ▸ shadowed_step (shadowed_path first shadowed_init) step.1
        obtain ⟨checked, agent, rest⟩ := rest.split
        cases rest with
        | @cons _ after _ _ _ check rest =>
            have at_work := late_atWork agent kept (moved_run step.1) written begun finished check
            have shadowed := check.2 ▸ shadowed_step (shadowed_path agent kept) check.1
            rcases atWork_path rest shadowed at_work with ⟨at_run, _⟩ | ⟨_, inside⟩
            · rw [collecting] at at_run
              cases at_run
            · exact inside

/-- A record which is opened before the first move and written after it, and one for the agent. -/
theorem phaseSplit_partitioned_sample : ∃ state preworkload workload raw,
    (phaseSplit [some ['a', '\n'], some ['b', '\n']]).Run
      [.begin 0, .opening, .firstMove, .write, .write, .finish 0, .begin 1, .opening, .write,
        .finish 1, .existsCheck, .secondMove] state ∧
    Partitioned [some ['a', '\n'], some ['b', '\n']]
      [.begin 0, .opening, .firstMove, .write, .write, .finish 0, .begin 1, .opening, .write,
        .finish 1, .existsCheck, .secondMove] state 2 preworkload workload raw := by
  have run : ∃ state, (phaseSplit [some ['a', '\n'], some ['b', '\n']]).Run
      [.begin 0, .opening, .firstMove, .write, .write, .finish 0, .begin 1, .opening, .write,
        .finish 1, .existsCheck, .secondMove] state ∧ state.vmm = .between 2 := by
    refine ⟨_, ⟨_, rfl, .cons (.begin rfl (by decide)) <| .cons (.opening rfl rfl) <|
      .cons (.firstMove rfl nofun) <| .cons (@SplitStep.write _ _ 0 0 ['a'] ['\n'] rfl nofun) <|
      .cons (@SplitStep.write _ _ 0 0 ['\n'] [] rfl nofun) <| .cons (.finish rfl) <|
      .cons (.begin rfl (by decide)) <| .cons (.opening rfl rfl) <|
      .cons (@SplitStep.write _ _ 1 1 ['b', '\n'] [] rfl nofun) <| .cons (.finish rfl) <|
      .cons (.existsTrue rfl nofun) <| .cons (.secondMove rfl nofun) <| .nil _⟩, rfl⟩
  obtain ⟨state, run, at_pc⟩ := run
  obtain ⟨preworkload, workload, raw, partitioned⟩ := phaseSplit_partitioned run at_pc
  exact ⟨state, preworkload, workload, raw, run, partitioned⟩

end Trace
end HermOS
