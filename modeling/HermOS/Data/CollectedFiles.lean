import HermOS.Data.CleanUp
import HermOS.Trace.FilledOutputs

/-!
# Appending the rows of a trace

`collect_file_reads.py` appends its rows to four data files, one after the other.  `append_rows`
checks the header of its own file before it touches it, so that an incompatible header leaves the
file as it is; the files before it have their rows by then.
-/

namespace HermOS
namespace Data

open Python (Text)
open Csv

deriving instance DecidableEq for DataFile

/-! ### The rows -/

/-- The first fields of every row. -/
def labelCells (labels : Trace.RunLabels) : List Text :=
  [labels.runId, labels.taskId, labels.phase]

def summaryCells (row : Trace.SummaryRow) : Row .fileReadSummary :=
  ⟨labelCells row.labels ++ [row.file.1, row.file.2.1, row.file.2.2, Python.str row.count.firstTsNs,
    Python.str row.count.blocksRead], rfl⟩

def blockCells (row : Trace.BlockRow) : Row .fileReadBlocks :=
  ⟨labelCells row.labels ++ [Python.str row.timestampNs, row.key.1, Python.str row.key.2,
    row.entry.blockClass, row.entry.path, row.entry.inode, row.entry.logicalBlock], rfl⟩

def unmappedCells (row : Trace.UnmappedRow) : Row .unmappedReadBlocks :=
  ⟨labelCells row.labels ++ [Python.str row.timestampNs, row.key.1, Python.str row.key.2], rfl⟩

def classCells (row : Trace.ClassRow) : Row .blockClassSummary :=
  ⟨labelCells row.labels ++ [row.key.1, row.key.2, Python.str row.blocksRead], rfl⟩

/-- The rows of each data file. -/
def outputRows (outputs : Trace.Outputs) : ∀ file : DataFile, List (Row file)
  | .fileReadSummary => outputs.summaryRows.map summaryCells
  | .fileReadBlocks => outputs.blockRows.map blockCells
  | .unmappedReadBlocks => outputs.unmappedRows.map unmappedCells
  | .blockClassSummary => outputs.classRows.map classCells
  | .blockPhased => []

/-! ### The appends -/

/-- The data files, where `none` is a missing file. -/
abbrev DataFiles :=
  DataFile → Option Text

/-- The content behind an append. -/
def appended {file : DataFile} (content : Option Text) (rows : List (Row file)) : Text :=
  content.getD [] ++ appendText content.isSome rows

/-- `append_rows`; `none` is `SystemExit`, or an error of the reader. -/
def appendRows {file : DataFile} (content : Option Text) (rows : List (Row file)) : Option Text :=
  match content with
  | none => some (appended none rows)
  | some text =>
      if headerOf text = some file.fieldnames then some (appended (some text) rows) else none

/-- Appends one after the other: the files, and whether all have succeeded. -/
def appendAll (rows : ∀ file : DataFile, List (Row file)) : List DataFile → DataFiles →
    DataFiles × Bool
  | [], files => (files, true)
  | file :: later, files =>
      match appendRows (files file) (rows file) with
      | none => (files, false)
      | some text => appendAll rows later (Function.update files file (some text))

/-- The files in the order of `main`. -/
def appendOrder : List DataFile :=
  [.fileReadSummary, .fileReadBlocks, .unmappedReadBlocks, .blockClassSummary]

/-- The rows, unless an atlas cannot be read, a block id is no number or blocks of size zero are
read. -/
def collected (labels : Trace.RunLabels) (blockSize : ℕ) (atlas : Option (List Trace.AtlasRecord))
    (trace : Text) : Option Trace.Outputs := do
  let atlas ← atlas
  if blockSize = 0 ∧ Trace.iterReadBlocks trace 1 ≠ [] then none
  else (Trace.collectFileReads labels blockSize atlas trace).toOption

/-- `main`: the files, and whether it succeeds. -/
def collectInto (labels : Trace.RunLabels) (blockSize : ℕ)
    (atlas : Option (List Trace.AtlasRecord)) (trace : Text) (files : DataFiles) :
    DataFiles × Bool :=
  match collected labels blockSize atlas trace with
  | none => (files, false)
  | some outputs => appendAll (outputRows outputs) appendOrder files

/-! ### One append -/

variable {rows : ∀ file : DataFile, List (Row file)} {files : DataFiles} {file : DataFile}

/-- The file is missing or has the header of its rows. -/
def Compatible (files : DataFiles) (file : DataFile) : Prop :=
  ∀ text, files file = some text → headerOf text = some file.fieldnames

theorem appendRows_compatible (compatible : Compatible files file) (rows : List (Row file)) :
    appendRows (files file) rows = some (appended (files file) rows) := by
  cases content : files file with
  | none => rfl
  | some text => exact if_pos (compatible text content)

theorem appendRows_incompatible (incompatible : ¬ Compatible files file) (rows : List (Row file)) :
    appendRows (files file) rows = none := by
  cases content : files file with
  | none => exact absurd (fun text found => by rw [content] at found; cases found) incompatible
  | some text =>
      refine if_neg fun header => incompatible fun other found => ?_
      rw [content] at found
      cases found
      exact header

theorem rowsText_eq_nil {rows : List (Row file)} : rowsText rows = [] ↔ rows = [] := by
  constructor
  · intro blank
    cases rows with
    | nil => rfl
    | cons row rows => simp [rowsText, printRow] at blank
  · rintro rfl
    rfl

/-- An append leaves a file as it was when the file exists and there are no rows. -/
theorem appended_eq_iff {content : Option Text} {rows : List (Row file)} :
    some (appended content rows) = content ↔ content ≠ none ∧ rows = [] := by
  cases content with
  | none => simp
  | some text => simp [appended, appendText, rowsText_eq_nil]

/-! ### All appends -/

/-- The files behind the appends to some of them. -/
def appendTo (rows : ∀ file : DataFile, List (Row file)) (order : List DataFile)
    (files : DataFiles) : DataFiles := fun file =>
  if file ∈ order then some (appended (files file) (rows file)) else files file

theorem compatible_update {other : DataFile} (apart : file ≠ other) (text : Text) :
    Compatible (Function.update files other (some text)) file ↔ Compatible files file := by
  rw [Compatible, Compatible, Function.update_of_ne apart]

theorem appendTo_update {order : List DataFile} (fresh : file ∉ order) :
    appendTo rows order (Function.update files file (some (appended (files file) (rows file)))) =
      appendTo rows (file :: order) files := by
  funext other
  by_cases same : other = file
  · subst same
    simp [appendTo, fresh]
  · simp [appendTo, same]

/-- The appends before an incompatible file are made. -/
theorem appendAll_append {front back : List DataFile} (distinct : front.Nodup)
    (compatible : ∀ file ∈ front, Compatible files file) :
    appendAll rows (front ++ back) files = appendAll rows back (appendTo rows front files) := by
  induction front generalizing files with
  | nil => rfl
  | cons file front ih =>
      obtain ⟨fresh, distinct⟩ := List.nodup_cons.mp distinct
      have later : ∀ other ∈ front, Compatible
          (Function.update files file (some (appended (files file) (rows file)))) other := by
        intro other inside
        have apart : other ≠ file := fun same => fresh (same ▸ inside)
        exact (compatible_update apart _).mpr (compatible other (List.mem_cons_of_mem _ inside))
      rw [List.cons_append, appendAll, appendRows_compatible (compatible file List.mem_cons_self)]
      exact (ih distinct later).trans (by rw [appendTo_update fresh])

/-- All rows are in the files, or the program fails and the files are as they were. -/
def AllOrNothing (rows : ∀ file : DataFile, List (Row file)) (files : DataFiles)
    (ended : DataFiles × Bool) : Prop :=
  ended = (appendTo rows appendOrder files, true) ∨ ended = (files, false)

/-- The files before the first incompatible one exist, and none of them gets a row. -/
def Harmless (getsRow : DataFile → Prop) (files : DataFiles) : Prop :=
  ∀ front file back, appendOrder = front ++ file :: back →
    (∀ earlier ∈ front, Compatible files earlier) → ¬ Compatible files file →
      ∀ earlier ∈ front, files earlier ≠ none ∧ ¬ getsRow earlier

theorem first_incompatible (files : DataFiles) (order : List DataFile) :
    (∀ file ∈ order, Compatible files file) ∨ ∃ front file back, order = front ++ file :: back ∧
      (∀ earlier ∈ front, Compatible files earlier) ∧ ¬ Compatible files file := by
  induction order with
  | nil => exact .inl nofun
  | cons file order ih =>
      by_cases compatible : Compatible files file
      · rcases ih with all | ⟨front, stop, back, rfl, before, incompatible⟩
        · exact .inl (List.forall_mem_cons.mpr ⟨compatible, all⟩)
        · exact .inr ⟨file :: front, stop, back, rfl,
            List.forall_mem_cons.mpr ⟨compatible, before⟩, incompatible⟩
      · exact .inr ⟨[], file, order, rfl, nofun, compatible⟩

/-- There is one first incompatible file. -/
theorem first_incompatible_unique {front front' back back' : List DataFile} {file' : DataFile}
    (same : front ++ file :: back = front' ++ file' :: back')
    (before : ∀ earlier ∈ front, Compatible files earlier) (stop : ¬ Compatible files file)
    (before' : ∀ earlier ∈ front', Compatible files earlier) (stop' : ¬ Compatible files file') :
    front = front' := by
  rcases List.append_eq_append_iff.mp same with ⟨more, rfl, rest⟩ | ⟨more, rfl, rest⟩
  · cases more with
    | nil => exact (List.append_nil front).symm
    | cons next more =>
        cases rest
        exact absurd (before' file (by simp)) stop
  · cases more with
    | nil => exact List.append_nil front'
    | cons next more =>
        cases rest
        exact absurd (before file' (by simp)) stop'

/-- The appends stop at the first incompatible file. -/
theorem appendAll_stop {front back : List DataFile} (distinct : (front ++ file :: back).Nodup)
    (compatible : ∀ earlier ∈ front, Compatible files earlier)
    (incompatible : ¬ Compatible files file) :
    appendAll rows (front ++ file :: back) files = (appendTo rows front files, false) := by
  obtain ⟨front_distinct, _, apart⟩ := List.nodup_append.mp distinct
  have untouched : appendTo rows front files file = files file :=
    if_neg fun inside => apart file inside file List.mem_cons_self rfl
  rw [appendAll_append front_distinct compatible, appendAll, untouched,
    appendRows_incompatible incompatible]

theorem appendTo_eq_iff {order : List DataFile} :
    appendTo rows order files = files ↔ ∀ file ∈ order, files file ≠ none ∧ rows file = [] := by
  rw [funext_iff]
  refine forall_congr' fun file => ?_
  by_cases inside : file ∈ order
  · simp only [appendTo, inside, true_implies]
    exact appended_eq_iff
  · simp [appendTo, inside]

theorem appendAll_iff (rows : ∀ file : DataFile, List (Row file)) (files : DataFiles) :
    AllOrNothing rows files (appendAll rows appendOrder files) ↔
      Harmless (rows · ≠ []) files := by
  have distinct : appendOrder.Nodup := by decide
  rcases first_incompatible files appendOrder with all | ⟨front, file, back, order, before, stop⟩
  · have ended : appendAll rows appendOrder files = (appendTo rows appendOrder files, true) := by
      have whole := @appendAll_append rows _ _ [] distinct all
      rwa [List.append_nil] at whole
    refine iff_of_true (.inl ended) fun front file back order _ incompatible => ?_
    exact absurd (all file (order ▸ by simp)) incompatible
  · rw [order] at distinct
    have ended : appendAll rows appendOrder files = (appendTo rows front files, false) := by
      rw [order]
      exact appendAll_stop distinct before stop
    have split : AllOrNothing rows files (appendAll rows appendOrder files) ↔
        appendTo rows front files = files := by
      simp [AllOrNothing, ended]
    rw [split, appendTo_eq_iff]
    simp only [Harmless, not_not]
    constructor
    · intro still front' file' back' order' before' stop'
      rw [← first_incompatible_unique (order.symm.trans order') before stop before' stop']
      exact still
    · intro harmless
      exact harmless front file back order before stop

/-! ### Rows of a trace -/

/-- The trace reads a block which gives the file a row, by the rows of the atlas. -/
def GetsRow (blockSize : ℕ) (atlas : List Trace.AtlasRecord) (trace : Text) (file : DataFile) :
    Prop :=
  ∃ key, Trace.ReadsBlock blockSize trace key ∧ match file with
    | .fileReadSummary =>
        ∃ record ∈ atlas, record.IsAt key ∧ record.blockClass = "file_data".toList
    | .fileReadBlocks | .blockClassSummary => ∃ record ∈ atlas, record.IsAt key
    | .unmappedReadBlocks =>
        (∃ record ∈ atlas, record.driveId = key.1) ∧ ∀ record ∈ atlas, ¬ record.IsAt key
    | .blockPhased => False

/-- The atlas can be read, its blocks are numbers, and no read is divided by zero. -/
structure Collects (blockSize : ℕ) (atlas : Option (List Trace.AtlasRecord)) (trace : Text)
    (records : List Trace.AtlasRecord) : Prop where
  opened : atlas = some records
  numbered : ∀ record ∈ records, ∃ block, Python.int record.blockId = some block
  sized : 0 < blockSize ∨ Trace.readRecords trace = []

variable {labels : Trace.RunLabels} {blockSize : ℕ} {atlas : Option (List Trace.AtlasRecord)}
  {trace : Text} {records : List Trace.AtlasRecord} {outputs : Trace.Outputs}

theorem outputRows_ne_nil (filled : Trace.Filled blockSize records trace outputs)
    (file : DataFile) : outputRows outputs file ≠ [] ↔ GetsRow blockSize records trace file := by
  rw [← not_iff_not, Ne, not_not, GetsRow]
  cases file with
  | fileReadSummary => exact List.map_eq_nil_iff.trans filled.summaryRows
  | fileReadBlocks => exact List.map_eq_nil_iff.trans filled.blockRows
  | unmappedReadBlocks => exact List.map_eq_nil_iff.trans filled.unmappedRows
  | blockClassSummary => exact List.map_eq_nil_iff.trans filled.classRows
  | blockPhased => simp [outputRows]

theorem collected_eq_some (collects : collected labels blockSize atlas trace = some outputs) :
    ∃ records, Collects blockSize atlas trace records ∧
      Trace.Filled blockSize records trace outputs := by
  obtain ⟨records, opened, rest⟩ := Option.bind_eq_some_iff.mp collects
  split at rest
  next => cases rest
  next sized =>
    have ended : Trace.collectFileReads labels blockSize records trace = .ok outputs := by
      cases found : Trace.collectFileReads labels blockSize records trace with
      | error failure => rw [found] at rest; cases rest
      | ok other => rw [found] at rest; exact congrArg Except.ok (Option.some.inj rest)
    have sized : 0 < blockSize ∨ Trace.readRecords trace = [] := by
      rw [Ne, Trace.iterReadBlocks_one_eq_nil, not_and_or, not_not] at sized
      exact sized.imp_left Nat.pos_of_ne_zero
    exact ⟨records, ⟨opened, Trace.collectFileReads_ends_iff.mp ⟨outputs, ended⟩, sized⟩,
      Trace.filled_collectFileReads (sized.imp_left Int.natCast_pos.mpr) ended⟩

theorem exists_collected (labels : Trace.RunLabels)
    (collects : Collects blockSize atlas trace records) :
    ∃ outputs, collected labels blockSize atlas trace = some outputs := by
  obtain ⟨outputs, ended⟩ : ∃ outputs,
      Trace.collectFileReads labels blockSize records trace = .ok outputs :=
    Trace.collectFileReads_ends_iff.mpr collects.numbered
  refine ⟨outputs, Option.bind_eq_some_iff.mpr ⟨records, collects.opened, ?_⟩⟩
  rw [if_neg, ended]
  · rfl
  · rw [Ne, Trace.iterReadBlocks_one_eq_nil]
    rintro ⟨zero, reads⟩
    exact collects.sized.elim (Nat.ne_of_gt · zero) reads

/-- An invocation with rows to append is all-or-nothing exactly when its appends are. -/
theorem collectInto_harmless (collects : collected labels blockSize atlas trace = some outputs)
    (files : DataFiles) :
    (collectInto labels blockSize atlas trace files = (files, false) ∨
        ∃ outputs, collected labels blockSize atlas trace = some outputs ∧
          collectInto labels blockSize atlas trace files =
            (appendTo (outputRows outputs) appendOrder files, true)) ↔
      Harmless (outputRows outputs · ≠ []) files := by
  have each := appendAll_iff (outputRows outputs) files
  unfold collectInto
  rw [collects]
  simpa [AllOrNothing, or_comm] using each

/-- An atlas with a block of a file, and a trace which reads it. -/
def oneBlockAtlas : List Trace.AtlasRecord :=
  [⟨"rootfs".toList, ['0'], "file_data".toList, some ['a'], some ['1'], some ['0']⟩]

def oneReadTrace : Text :=
  "5,rootfs,read,0,1\n".toList

def otherHeaderFiles : DataFiles := fun file =>
  if file = .fileReadBlocks then some "block\n".toList else none

end Data
end HermOS
