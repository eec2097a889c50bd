import HermOS.Library.Csv

/-!
# Deleting rows of a data file

`delete_csv_rows` reads a data file as dictionaries, keeps the rows which the filter does not match
and prints the table again.  On a table of full rows the new text is the table of the kept rows.
-/

namespace HermOS
namespace Data

open Python (Text)
open Csv

/-- The data files (`CSV_FILES`). -/
inductive DataFile
  | blockClassSummary
  | blockPhased
  | fileReadBlocks
  | fileReadSummary
  | unmappedReadBlocks

namespace DataFile

/-- The field names with which the collectors append to the file. -/
def fieldnames : DataFile → List Text
  | .blockClassSummary =>
      ["run_id".toList, "task_id".toList, "phase".toList, "drive_id".toList, "class".toList,
        "blocks_read".toList]
  | .blockPhased =>
      ["run_id".toList, "task_id".toList, "phase".toList, "drive_id".toList, "op".toList,
        "offset".toList, "length".toList]
  | .fileReadBlocks =>
      ["run_id".toList, "task_id".toList, "phase".toList, "timestamp_ns".toList,
        "drive_id".toList, "block_id".toList, "class".toList, "path".toList, "inode".toList,
        "logical_block".toList]
  | .fileReadSummary =>
      ["run_id".toList, "task_id".toList, "phase".toList, "drive_id".toList, "path".toList,
        "inode".toList, "first_ts_ns".toList, "blocks_read".toList]
  | .unmappedReadBlocks =>
      ["run_id".toList, "task_id".toList, "phase".toList, "timestamp_ns".toList,
        "drive_id".toList, "block_id".toList]

theorem fieldnames_nodup (file : DataFile) : file.fieldnames.Nodup := by
  cases file <;> decide

theorem fieldnames_ne_nil (file : DataFile) : file.fieldnames ≠ [] := by
  cases file <;> decide

end DataFile

/-- A row of a data file, one field for each field name. -/
structure Row (file : DataFile) where
  cells : List Text
  width : cells.length = file.fieldnames.length
  deriving DecidableEq

/-- The arguments of `delete_data.py`. -/
structure Deletion where
  runId : Option Text
  taskIdFilter : Option Text
  dryRun : Bool

/-- `row_matches`; the fields of a row may be `None`. -/
def rowMatches (rowRun rowTask runId taskIdFilter : Option Text) : Bool :=
  (runId.isNone || decide (rowRun = runId)) &&
    (taskIdFilter.isNone || decide (rowTask = taskIdFilter))

/-- The filter on a row which `DictReader` returned. -/
def Deletion.deletes (request : Deletion) (row : DictRow) : Bool :=
  rowMatches ((row.get "run_id".toList).getD (some []))
    ((row.get "task_id".toList).getD (some [])) request.runId request.taskIdFilter

/-- What `delete_csv_rows` does with a file after reading it. -/
inductive Outcome
  | raised
  | unchanged
  | rewritten (text : Text)

/-- The rewrite of one file. -/
def deleteCsvRows (request : Deletion) (text : Text) : Outcome :=
  match readDicts text with
  | none => .raised
  | some (fieldnames, rows) =>
      let kept := rows.filter fun row => !request.deletes row
      let deleted := rows.countP request.deletes
      if !request.dryRun && decide (0 < deleted) then
        match fieldnames, fieldnames.bind fun names => kept.mapM (dictCells names) with
        | some names, some cells =>
            .rewritten (printRow ['\n'] names ++ cells.flatMap (printRow ['\n']))
        | _, _ => .raised
      else .unchanged

/-! ### Tables of full rows -/

/-- The rows of a task's run which the filter names. -/
def Deletion.Matches (request : Deletion) (task run : Text) : Prop :=
  (∀ chosen ∈ request.runId, run = chosen) ∧ ∀ chosen ∈ request.taskIdFilter, task = chosen

instance (request : Deletion) (task run : Text) : Decidable (request.Matches task run) :=
  inferInstanceAs (Decidable (_ ∧ _))

/-- The filter names the task and the run of a row. -/
def Deletion.names (request : Deletion) (table : Table) (row : List Text) : Bool :=
  request.Matches (table.cell "task_id".toList row) (table.cell "run_id".toList row)

/-- The table without the rows which the filter names. -/
def Deletion.without (request : Deletion) (table : Table) : Table :=
  table.filter fun row => !request.names table row

section Full

variable {request : Deletion} {table : Table} {text : Text}

theorem rowMatches_iff (task run : Text) :
    rowMatches (some run) (some task) request.runId request.taskIdFilter = true ↔
      request.Matches task run := by
  rw [rowMatches, Bool.and_eq_true]
  apply and_congr
  · cases request.runId <;> simp
  · cases request.taskIdFilter <;> simp

theorem deletes_dictRow {row : List Text} (inside : row ∈ table.rows) :
    request.deletes (dictRow table.names row) = request.names table row := by
  rw [Deletion.deletes, Table.cell_dictRow inside, Table.cell_dictRow inside, Deletion.names,
    Bool.eq_iff_iff, decide_eq_true_iff]
  exact rowMatches_iff _ _

/-- A table is printed again without the rows which the filter names, if there are any. -/
theorem deleteCsvRows_eq (read : table.ReadFrom text) :
    deleteCsvRows request text =
      if !request.dryRun && table.rows.any (request.names table) then
        .rewritten ((request.without table).print ['\n'])
      else .unchanged := by
  have kept : (table.rows.map (dictRow table.names)).filter (fun row => !request.deletes row) =
      (request.without table).rows.map (dictRow (request.without table).names) := by
    rw [List.filter_map]
    refine congrArg _ (List.filter_congr fun row inside => ?_)
    exact congrArg not (deletes_dictRow inside)
  have deleted : decide (0 < (table.rows.map (dictRow table.names)).countP request.deletes) =
      table.rows.any (request.names table) := by
    rw [Bool.eq_iff_iff, decide_eq_true_iff, List.countP_pos_iff, List.any_eq_true]
    constructor
    · rintro ⟨_, listed, matched⟩
      obtain ⟨row, inside, rfl⟩ := List.mem_map.mp listed
      exact ⟨row, inside, (deletes_dictRow inside).symm.trans matched⟩
    · rintro ⟨row, inside, matched⟩
      exact ⟨_, List.mem_map_of_mem inside, (deletes_dictRow inside).trans matched⟩
  have cells := (request.without table).dictCells_rows
  have names : (request.without table).names = table.names := rfl
  rw [names] at kept cells
  simp only [deleteCsvRows, read.readDicts_eq, kept, deleted, Option.bind_some, cells]
  rfl

end Full

section Tables

variable {file : DataFile} {rows front back : List (Row file)} {text : Text}

/-- The rows which the filter leaves. -/
def Deletion.keep (request : Deletion) (rows : List (Row file)) : List (Row file) :=
  rows.filter fun row => !request.deletes (dictRow file.fieldnames row.cells)

/-- A text with the header and the rows of a data file. -/
def Holds (rows : List (Row file)) (text : Text) : Prop :=
  Prints (file.fieldnames :: rows.map Row.cells) text

/-- The rows as the collectors print them. -/
def rowsText (rows : List (Row file)) : Text :=
  (rows.map Row.cells).flatMap (printRow ['\r', '\n'])

theorem rowsText_append : rowsText (front ++ back) = rowsText front ++ rowsText back := by
  simp [rowsText]

theorem Row.cells_ne_nil (row : Row file) : row.cells ≠ [] := by
  intro empty
  have width := row.width
  rw [empty] at width
  exact file.fieldnames_ne_nil (List.length_eq_zero_iff.mp width.symm)

theorem prints_rows {terminator : Text} (ended : Terminator terminator) (rows : List (Row file)) :
    Prints (rows.map Row.cells) ((rows.map Row.cells).flatMap (printRow terminator)) := by
  apply prints_flatMap ended
  intro cells inside
  obtain ⟨row, _, rfl⟩ := List.mem_map.mp inside
  exact row.cells_ne_nil

theorem Holds.append (holds : Holds front text) (back : List (Row file)) :
    Holds (front ++ back) (text ++ rowsText back) := by
  unfold Holds
  rw [List.map_append, ← List.cons_append]
  exact Prints.append holds (prints_rows (.inr rfl) back)

theorem holds_printed {terminator : Text} (ended : Terminator terminator)
    (rows : List (Row file)) :
    Holds rows (printRow terminator file.fieldnames ++
      (rows.map Row.cells).flatMap (printRow terminator)) :=
  .cons file.fieldnames_ne_nil ended (prints_rows ended rows)

theorem Holds.records_eq (holds : Holds rows text) :
    records {} text = (file.fieldnames :: rows.map Row.cells, true) :=
  Prints.records_eq holds

/-- The table of the rows of a data file. -/
def tableOf (rows : List (Row file)) : Table where
  names := file.fieldnames
  rows := rows.map Row.cells
  distinct := file.fieldnames_nodup
  full cells inside := by
    obtain ⟨row, _, rfl⟩ := List.mem_map.mp inside
    exact ⟨row.cells_ne_nil, row.width⟩

theorem Holds.readFrom (holds : Holds rows text) : (tableOf rows).ReadFrom text := by
  refine ⟨rows.map Row.cells, holds.records_eq, List.filter_eq_self.mpr fun cells inside => ?_⟩
  simpa using ((tableOf rows).full cells inside).1

theorem Holds.readDicts_eq (holds : Holds rows text) :
    readDicts text = some (some file.fieldnames,
      rows.map fun row => dictRow file.fieldnames row.cells) := by
  rw [holds.readFrom.readDicts_eq, tableOf, List.map_map]
  rfl

theorem without_tableOf (request : Deletion) (rows : List (Row file)) :
    request.without (tableOf rows) = tableOf (request.keep rows) := by
  refine Table.ext rfl ?_
  have kept : ∀ row ∈ rows, (!request.names (tableOf rows) row.cells) =
      !request.deletes (dictRow file.fieldnames row.cells) := by
    intro row inside
    have listed : row.cells ∈ (tableOf rows).rows := List.mem_map_of_mem inside
    rw [← deletes_dictRow listed]
    rfl
  change (rows.map Row.cells).filter _ = (request.keep rows).map Row.cells
  rw [List.filter_map]
  exact congrArg _ (List.filter_congr kept)

/-- The new text is the table of the rows which do not match. -/
theorem Holds.deleteCsvRows_eq {request : Deletion} {new : Text} (holds : Holds rows text)
    (changes : deleteCsvRows request text = .rewritten new) : Holds (request.keep rows) new := by
  rw [Data.deleteCsvRows_eq holds.readFrom] at changes
  split at changes
  · injection changes with same
    rw [← same, without_tableOf]
    exact holds_printed (.inl rfl) (request.keep rows)
  · exact Outcome.noConfusion changes

end Tables

end Data
end HermOS
