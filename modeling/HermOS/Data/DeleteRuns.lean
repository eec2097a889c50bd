import HermOS.Data.DeleteRows
import HermOS.Library.FallibleFold
import HermOS.Library.FileStore
import HermOS.Replay.AgentReplay
import Mathlib.Data.Char
import Mathlib.Data.List.Lex
import Mathlib.Data.List.Sort

/-!
# Deleting rows and run directories

`delete_data.py` selects the rows of the data files by comparing fields and the run directories by
joining paths.  For a filter whose run is a plain name both select the same runs.
-/

namespace HermOS
namespace Data

open Python (Text)
open Csv
open FallibleFold
open FileStore (Removes)
open Replay (joinPath)

/-! ### The program -/

/-- The names in `CSV_FILES`. -/
def DataFile.filename : DataFile → FileName
  | .blockClassSummary => "block_class_summary.csv".toList
  | .blockPhased => "block_phased.csv".toList
  | .fileReadBlocks => "file_read_blocks.csv".toList
  | .fileReadSummary => "file_read_summary.csv".toList
  | .unmappedReadBlocks => "unmapped_read_blocks.csv".toList

def csvFiles : List DataFile :=
  [.blockClassSummary, .blockPhased, .fileReadBlocks, .fileReadSummary, .unmappedReadBlocks]

/-- `ROOT_DIR`, which `os.path.abspath` has freed of `..`. -/
structure RootDir where
  location : Location
  normal : ['.', '.'] ∉ location

namespace RootDir

variable (root : RootDir)

def csvPath (file : DataFile) : FilePath :=
  root.location ++ ["data".toList, file.filename]

def runsDir : FilePath :=
  root.location ++ ["runs".toList]

def taskDir (taskId : FileName) : FilePath :=
  root.runsDir ++ [taskId]

def runDir (taskId runId : FileName) : FilePath :=
  root.taskDir taskId ++ [runId]

end RootDir

variable (request : Deletion) (root : RootDir)

/-- The body of the loop of `delete_csv_rows`: what it leaves behind, and whether it does not
raise. -/
def deleteCsvFile (file : DataFile) (store : FileStore Text) : FileStore Text × Bool :=
  match store.tree.stat (root.csvPath file) with
  | none => (store, true)
  | some .dir => (store, false)
  | some (.file text) =>
      match deleteCsvRows request text with
      | .raised => (store, false)
      | .unchanged => (store, true)
      | .rewritten new =>
          match store.overwrite (root.csvPath file) new with
          | some written => (written, true)
          | none => (store, false)

/-- The path of a run directory ends in `.`, which `rmdir` refuses. -/
def endsInDot (runId : Text) : Bool :=
  ((Python.split '/' runId).filter (· ≠ [])).getLast? = some ['.']

/-- The removal of a run directory, and of the task directory if it is then empty. -/
def removeRun (taskDir : FilePath) (runId : Text) (store : FileStore Text) :
    FileStore Text × Bool :=
  match store.rmtree (joinPath taskDir runId) (!endsInDot runId) with
  | (left, false) => (left, false)
  | (left, true) =>
      match left.listdir taskDir with
      | none => (left, false)
      | some (_ :: _) => (left, true)
      | some [] =>
          match left.rmdir taskDir with
          | some removed => (removed, true)
          | none => (left, false)

/-- The body of the loop of `delete_run_dirs`. -/
def deleteTask (taskId : FileName) (store : FileStore Text) : FileStore Text × Bool :=
  let taskDir := root.taskDir taskId
  if !store.tree.isDir taskDir then (store, true)
  else if request.taskIdFilter.any (taskId ≠ ·) then (store, true)
  else
    match request.runId with
    | none => if request.dryRun then (store, true) else store.rmtree taskDir true
    | some runId =>
        if !store.tree.isDir (joinPath taskDir runId) || request.dryRun then (store, true)
        else removeRun taskDir runId store

def deleteRunDirs (store : FileStore Text) : FileStore Text × Bool :=
  match store.listdir root.runsDir with
  | none => (store, true)
  | some names => attempt (deleteTask request root) (names.insertionSort (· ≤ ·)) store

/-- How `main` ends. -/
inductive Finish
  | refused
  | raised
  | done
  deriving DecidableEq

/-- At least one of `--run` and `--task` is a non-empty string. -/
def Deletion.Accepted : Prop :=
  request.runId.getD [] ≠ [] ∨ request.taskIdFilter.getD [] ≠ []

instance : Decidable request.Accepted :=
  inferInstanceAs (Decidable (_ ∨ _))

/-- `main`. -/
def deleteData (store : FileStore Text) : FileStore Text × Finish :=
  if ¬ request.Accepted then (store, .refused)
  else
    match attempt (deleteCsvFile request root) csvFiles store with
    | (left, false) => (left, .raised)
    | (left, true) =>
        match deleteRunDirs request root left with
        | (after, false) => (after, .raised)
        | (after, true) => (after, .done)

/-! ### The data files -/

section DataFiles

variable {request : Deletion} {root : RootDir} {store : FileStore Text} {file : DataFile}

theorem mem_csvFiles (file : DataFile) : file ∈ csvFiles := by
  cases file <;> simp [csvFiles]

theorem filename_injective {other : DataFile} (same : file.filename = other.filename) :
    file = other := by
  cases file <;> cases other <;> first | rfl | exact absurd same (by decide)

theorem csvPath_injective {other : DataFile} (same : root.csvPath file = root.csvPath other) :
    file = other := by
  have names := List.append_cancel_left same
  exact filename_injective (List.head_eq_of_cons_eq (List.tail_eq_of_cons_eq names))

theorem csvFiles_nodup : csvFiles.Nodup :=
  List.Nodup.of_map DataFile.filename (by decide)

theorem csvPath_normal (root : RootDir) (file : DataFile) : ['.', '.'] ∉ root.csvPath file := by
  have free : ['.', '.'] ∉ ["data".toList, file.filename] := by cases file <;> decide
  exact fun inside => (List.mem_append.mp inside).elim root.normal free

/-- What becomes of a data file. -/
def Deletion.rewrite (request : Deletion) : Node Text → Node Text
  | .dir => .dir
  | .file text =>
      match deleteCsvRows request text with
      | .rewritten new => .file new
      | _ => .file text

/-- The data file is missing, or its rewrite does not raise. -/
def Deletion.Passes (request : Deletion) (node : Option (Node Text)) : Prop :=
  node = none ∨ ∃ text, node = some (.file text) ∧ deleteCsvRows request text ≠ .raised

theorem deleteCsvFile_passes (passes : request.Passes (store.tree (root.csvPath file))) :
    ∃ after, deleteCsvFile request root file store = (after, true) ∧
      after.tree (root.csvPath file) =
        (store.tree (root.csvPath file)).map request.rewrite ∧
      ∀ place, place ≠ root.csvPath file → after.tree place = store.tree place := by
  rw [deleteCsvFile, store.stat_plain (csvPath_normal root file)]
  rcases passes with missing | ⟨text, held, passes⟩
  · rw [missing]
    exact ⟨store, rfl, by simp [missing], fun _ _ => rfl⟩
  · rw [held]
    simp only [Option.map_some, Deletion.rewrite]
    cases ends : deleteCsvRows request text with
    | raised => exact absurd ends passes
    | unchanged => exact ⟨store, rfl, held, fun _ _ => rfl⟩
    | rewritten new =>
        obtain ⟨written, ends, left⟩ := store.overwrite_plain held new
        simp only [ends]
        refine ⟨written, rfl, ?_, fun place other => ?_⟩
        · rw [left, if_pos rfl]
        · rw [left, if_neg other]

/-- Every data file is rewritten, and nothing else changes. -/
theorem deleteCsvFiles_passes
    (passes : ∀ file, request.Passes (store.tree (root.csvPath file))) :
    ∃ after, attempt (deleteCsvFile request root) csvFiles store = (after, true) ∧
      (∀ file, after.tree (root.csvPath file) =
        (store.tree (root.csvPath file)).map request.rewrite) ∧
      ∀ place, (∀ file, place ≠ root.csvPath file) → after.tree place = store.tree place := by
  have ended := @attempt_ends _ _ csvFiles store (deleteCsvFile request root)
    (fun past after => (∀ file ∈ past, after.tree (root.csvPath file) =
        (store.tree (root.csvPath file)).map request.rewrite) ∧
      ∀ place, (∀ file ∈ past, place ≠ root.csvPath file) → after.tree place = store.tree place)
  obtain ⟨after, ends, rewritten, kept⟩ := ended (by
    intro past file rest middle order before
    obtain ⟨rewritten, kept⟩ := before
    have fresh : file ∉ past := by
      have distinct := csvFiles_nodup
      rw [order, List.nodup_append] at distinct
      exact fun inside => distinct.2.2 file inside file List.mem_cons_self rfl
    have here := kept (root.csvPath file) fun other inside same =>
      fresh (csvPath_injective same ▸ inside)
    obtain ⟨after, ends, written, rest_kept⟩ := deleteCsvFile_passes (here ▸ passes file)
    refine ⟨after, ends, fun other inside => ?_, fun place others => ?_⟩
    · rcases List.mem_append.mp inside with earlier | last
      · have apart : root.csvPath other ≠ root.csvPath file := fun same =>
          fresh (csvPath_injective same ▸ earlier)
        rw [rest_kept _ apart, rewritten other earlier]
      · rw [List.mem_singleton.mp last, written, here]
    · rw [rest_kept place (others file (by simp)),
        kept place fun other inside => others other (List.mem_append_left _ inside)])
    ⟨fun file inside => absurd inside List.not_mem_nil, fun _ _ => rfl⟩
  exact ⟨after, ends, fun file => rewritten file (mem_csvFiles file),
    fun place others => kept place fun file _ => others file⟩

/-- The data file is missing, empty or a table. -/
def Readable (node : Option (Node Text)) : Prop :=
  (node = none ∨ node = some (.file [])) ∨
    ∃ text table, node = some (.file text) ∧ Table.ReadFrom table text

theorem deleteCsvRows_empty : deleteCsvRows request [] = .unchanged := by
  simp [deleteCsvRows, readDicts, records]

theorem passes_of_readable {node : Option (Node Text)} (readable : Readable node) :
    request.Passes node := by
  rcases readable with (missing | empty) | ⟨text, table, held, read⟩
  · exact .inl missing
  · exact .inr ⟨[], empty, by simp [deleteCsvRows_empty]⟩
  · refine .inr ⟨text, held, ?_⟩
    rw [deleteCsvRows_eq read]
    split <;> simp

/-- The rewritten file has the table of the rows which stay. -/
theorem rewrite_table {table : Table} {text : Text} (read : table.ReadFrom text)
    (wet : request.dryRun = false) :
    ∃ new, request.rewrite (.file text) = .file new ∧ (request.without table).ReadFrom new := by
  rw [Deletion.rewrite, deleteCsvRows_eq read, wet, Bool.not_false, Bool.true_and]
  by_cases some_row : table.rows.any (request.names table) = true
  · rw [if_pos some_row]
    obtain ⟨row, inside, _⟩ := List.any_eq_true.mp some_row
    obtain ⟨nonempty, width⟩ := table.full row inside
    have some_name : (request.without table).names ≠ [] := by
      change table.names ≠ []
      rwa [← List.length_pos_iff, ← width, List.length_pos_iff]
    exact ⟨_, rfl, Table.readFrom_print some_name (.inl rfl)⟩
  · rw [if_neg some_row]
    rw [Bool.not_eq_true, List.any_eq_false] at some_row
    refine ⟨text, rfl, ?_⟩
    rwa [Deletion.without, Table.filter_self fun row inside => by simp [some_row row inside]]

theorem rewrite_tableless {node : Option (Node Text)}
    (tableless : node = none ∨ node = some (.file [])) : node.map request.rewrite = node := by
  rcases tableless with rfl | rfl
  · rfl
  · rw [Option.map_some, Deletion.rewrite, deleteCsvRows_empty]

/-- The data file is missing, or nothing is left to delete in it. -/
def Deletion.Settled (request : Deletion) (node : Option (Node Text)) : Prop :=
  node = none ∨ ∃ text, node = some (.file text) ∧ deleteCsvRows request text = .unchanged

theorem settled_rewrite {node : Option (Node Text)} (readable : Readable node)
    (wet : request.dryRun = false) : request.Settled (node.map request.rewrite) := by
  rcases readable with (rfl | rfl) | ⟨text, table, rfl, read⟩
  · exact .inl rfl
  · refine .inr ⟨[], ?_, deleteCsvRows_empty⟩
    rw [Option.map_some, Deletion.rewrite, deleteCsvRows_empty]
  · obtain ⟨new, rewritten, read⟩ := rewrite_table read wet
    refine .inr ⟨new, congrArg some rewritten, ?_⟩
    have none_left : (request.without table).rows.any (request.names (request.without table)) =
        false := by
      rw [List.any_eq_false]
      intro row inside
      have kept : (!request.names table row) = true := (List.mem_filter.mp inside).2
      have same : request.names (request.without table) row = request.names table row := rfl
      simpa [same] using kept
    rw [deleteCsvRows_eq read, none_left, Bool.and_false]
    rfl

theorem deleteCsvFile_settled (settled : request.Settled (store.tree (root.csvPath file))) :
    deleteCsvFile request root file store = (store, true) := by
  rw [deleteCsvFile, store.stat_plain (csvPath_normal root file)]
  rcases settled with missing | ⟨text, held, unchanged⟩
  · rw [missing]
  · rw [held]
    simp only [unchanged]

end DataFiles

/-! ### The run directories -/

section RunDirs

variable {request : Deletion} {root : RootDir} {store : FileStore Text} {task run : FileName}

/-- Without a run the filter takes a task directory as a whole; with one it takes a task directory
which has no other entry. -/
def Deletion.TakesTask (request : Deletion) (root : RootDir) (tree : FileTree Text)
    (task : FileName) : Prop :=
  tree.isDirAt (root.taskDir task) = true ∧ (∀ chosen ∈ request.taskIdFilter, task = chosen) ∧
    ∀ run ∈ request.runId, tree.isDirAt (root.runDir task run) = true ∧
      ∀ name, tree (root.runDir task name) ≠ none → name = run

/-- A location in the directory of a run which the filter names. -/
def Deletion.TakesRun (request : Deletion) (root : RootDir) (tree : FileTree Text)
    (task : FileName) (place : Location) : Prop :=
  ∃ run, request.Matches task run ∧ tree.isDirAt (root.runDir task run) = true ∧
    root.runDir task run <+: place

/-- What the filter takes from the directory of a task. -/
def Deletion.Takes (request : Deletion) (root : RootDir) (tree : FileTree Text)
    (task : FileName) (place : Location) : Prop :=
  request.TakesRun root tree task place ∨
    request.TakesTask root tree task ∧ root.taskDir task <+: place

theorem within_taskDir {tree : FileTree Text} {place : Location}
    (taken : request.Takes root tree task place) : root.taskDir task <+: place := by
  rcases taken with ⟨run, _, _, inside⟩ | ⟨_, inside⟩
  · exact (List.prefix_append _ _).trans inside
  · exact inside

theorem isDirAt_taskDir (dir : store.tree.isDirAt (root.runDir task run) = true) :
    store.tree.isDirAt (root.taskDir task) = true :=
  store.isDirAt_parent (store.ne_none_of_isDirAt dir)

theorem isDirAt_of_takes {place : Location} (taken : request.Takes root store.tree task place) :
    store.tree.isDirAt (root.taskDir task) = true := by
  rcases taken with ⟨run, _, dir, _⟩ | ⟨⟨dir, _⟩, _⟩
  · exact isDirAt_taskDir dir
  · exact dir

theorem selected_of_takes {tree : FileTree Text} {place : Location}
    (taken : request.Takes root tree task place) :
    ∀ chosen ∈ request.taskIdFilter, task = chosen := by
  rcases taken with ⟨run, matched, _⟩ | ⟨⟨_, selected, _⟩, _⟩
  · exact matched.2
  · exact selected

/-- What is taken depends on the directory of the task only. -/
theorem takes_congr {tree other : FileTree Text}
    (same : ∀ place, root.taskDir task <+: place → other place = tree place) (place : Location) :
    request.Takes root other task place ↔ request.Takes root tree task place := by
  have whole := same (root.taskDir task) (List.prefix_refl _)
  have runs : ∀ run, other (root.runDir task run) = tree (root.runDir task run) := fun run =>
    same _ (List.prefix_append _ _)
  simp only [Deletion.Takes, Deletion.TakesRun, Deletion.TakesTask, FileTree.isDirAt, whole, runs]

theorem taskDir_normal (root : RootDir) (plain : PlainName task) :
    ['.', '.'] ∉ root.taskDir task := by
  simp only [RootDir.taskDir, RootDir.runsDir, List.mem_append, List.mem_singleton, not_or]
  exact ⟨⟨root.normal, by decide⟩, Ne.symm plain.2.2.2⟩

theorem runDir_normal (root : RootDir) (plain : PlainName task) (plain_run : PlainName run) :
    ['.', '.'] ∉ root.runDir task run := by
  simp only [RootDir.runDir, List.mem_append, List.mem_singleton, not_or]
  exact ⟨taskDir_normal root plain, Ne.symm plain_run.2.2.2⟩

theorem split_plain (plain : PlainName run) : Python.split '/' run = [run] :=
  List.splitOn_eq_singleton plain.2.1

theorem joinPath_plain (plain : PlainName run) :
    joinPath (root.taskDir task) run = root.runDir task run := by
  have relative : Python.startsWith ['/'] run = false := by
    rw [Bool.eq_false_iff]
    intro starts
    exact plain.2.1 ((Python.startsWith_iff.mp starts).subset List.mem_cons_self)
  rw [joinPath, split_plain plain]
  simp [relative, plain.1, plain.2.2.1, RootDir.runDir]

theorem endsInDot_plain (plain : PlainName run) : endsInDot run = false := by
  rw [endsInDot, split_plain plain]
  simp [plain.1, plain.2.2.1]

/-- A run directory goes, and the task directory with the last of its entries. -/
theorem removeRun_plain (plain : PlainName run)
    (dir : store.tree.isDirAt (root.runDir task run) = true) :
    ∃ after, removeRun (root.taskDir task) run store = (after, true) ∧
      Removes store.tree (fun place => root.runDir task run <+: place ∨
        (∀ name, store.tree (root.runDir task name) ≠ none → name = run) ∧
          root.taskDir task <+: place) after.tree := by
  obtain ⟨left, ends, removes⟩ := store.rmtree_plain (by simp [RootDir.runDir]) dir
  have task_kept : left.tree (root.taskDir task) = store.tree (root.taskDir task) := by
    refine (removes _).2 fun inside => ?_
    have shorter := inside.length_le
    rw [RootDir.runDir, List.length_append, List.length_singleton] at shorter
    omega
  have task_dir : left.tree.isDirAt (root.taskDir task) = true := by
    have before := isDirAt_taskDir dir
    rw [FileTree.isDirAt] at before ⊢
    rwa [task_kept]
  have others : ∀ name, name ∈ left.children (root.taskDir task) ↔
      store.tree (root.runDir task name) ≠ none ∧ name ≠ run := by
    intro name
    rw [FileStore.mem_children]
    change left.tree (root.runDir task name) ≠ none ↔ _
    by_cases same : name = run
    · subst same
      have gone := (removes (root.runDir task name)).1 (List.prefix_refl _)
      simp [gone]
    · have kept := (removes (root.runDir task name)).2 fun inside => same (by
        have equal := inside.eq_of_length (by simp [RootDir.runDir])
        simpa [RootDir.runDir] using equal.symm)
      simp [kept, same]
  rw [removeRun, joinPath_plain plain, endsInDot_plain plain, Bool.not_false, ends]
  simp only [left.listdir_plain task_dir]
  cases listed : left.children (root.taskDir task) with
  | nil =>
      obtain ⟨removed, removal, then_removes⟩ :=
        left.rmdir_plain (by simp [RootDir.taskDir]) task_dir listed
      rw [removal]
      have only : ∀ name, store.tree (root.runDir task name) ≠ none → name = run := by
        intro name found
        by_contra other
        have inside := (others name).mpr ⟨found, other⟩
        rw [listed] at inside
        cases inside
      refine ⟨removed, rfl, (removes.then then_removes).congr fun place found => ?_⟩
      constructor
      · rintro (inside | rfl)
        · exact .inl inside
        · exact .inr ⟨only, List.prefix_refl _⟩
      · rintro (inside | ⟨_, back, rfl⟩)
        · exact .inl inside
        · cases back with
          | nil => exact .inr (List.append_nil _)
          | cons name back =>
              have whole : root.taskDir task ++ name :: back = root.runDir task name ++ back := by
                simp [RootDir.runDir]
              have entry : store.tree (root.runDir task name) ≠ none :=
                store.exists_of_prefix found (whole ▸ List.prefix_append _ _)
              rw [whole, only name entry]
              exact .inl (List.prefix_append _ _)
  | cons name names =>
      refine ⟨left, rfl, removes.congr fun place _ => ?_⟩
      have other := (others name).mp (listed ▸ List.mem_cons_self)
      constructor
      · exact .inl
      · rintro (inside | ⟨only, _⟩)
        · exact inside
        · exact absurd (only name other.1) other.2

theorem any_ne_iff (task : FileName) (filter : Option Text) :
    filter.any (task ≠ ·) = true ↔ ¬ ∀ chosen ∈ filter, task = chosen := by
  cases filter with
  | none => simp
  | some chosen => simp only [Option.any_some, decide_eq_true_iff, Option.mem_some_iff,
      forall_eq', ne_eq]

theorem deleteTask_passed (plain : PlainName task)
    (passed : ¬ (store.tree.isDirAt (root.taskDir task) = true ∧
      ∀ chosen ∈ request.taskIdFilter, task = chosen)) :
    deleteTask request root task store = (store, true) := by
  rw [deleteTask, store.isDir_plain (taskDir_normal root plain)]
  by_cases dir : store.tree.isDirAt (root.taskDir task) = true
  · have other := (any_ne_iff task request.taskIdFilter).mpr fun selected =>
      passed ⟨dir, selected⟩
    simp only [other, if_true]
    split <;> rfl
  · rw [Bool.not_eq_true] at dir
    simp only [dir, Bool.not_false, if_true]

theorem deleteTask_selected (plain : PlainName task)
    (dir : store.tree.isDirAt (root.taskDir task) = true)
    (selected : ∀ chosen ∈ request.taskIdFilter, task = chosen) (wet : request.dryRun = false) :
    deleteTask request root task store = match request.runId with
      | none => store.rmtree (root.taskDir task) true
      | some run =>
          if !store.tree.isDir (joinPath (root.taskDir task) run) then (store, true)
          else removeRun (root.taskDir task) run store := by
  have same : ¬ request.taskIdFilter.any (task ≠ ·) = true := fun other =>
    (any_ne_iff task request.taskIdFilter).mp other selected
  rw [deleteTask, store.isDir_plain (taskDir_normal root plain)]
  simp only [dir, Bool.not_true, if_neg same, wet, Bool.or_false]
  rfl

/-- From the directory of a task goes what the filter takes from it, and the call succeeds. -/
theorem deleteTask_removes (plain : PlainName task)
    (chosen : ∀ run ∈ request.runId, PlainName run) (wet : request.dryRun = false) :
    ∃ after, deleteTask request root task store = (after, true) ∧
      Removes store.tree (request.Takes root store.tree task) after.tree ∧
      ((∀ place, ¬ request.Takes root store.tree task place) → after = store) := by
  by_cases passed : store.tree.isDirAt (root.taskDir task) = true ∧
      ∀ chosen ∈ request.taskIdFilter, task = chosen
  · obtain ⟨dir, selected⟩ := passed
    rw [deleteTask_selected plain dir selected wet]
    cases named : request.runId with
    | none =>
        have whole : request.TakesTask root store.tree task :=
          ⟨dir, selected, fun run inside => by simp [named] at inside⟩
        have taken : request.Takes root store.tree task (root.taskDir task) :=
          .inr ⟨whole, List.prefix_refl _⟩
        obtain ⟨after, ends, removes⟩ := store.rmtree_plain (by simp [RootDir.taskDir]) dir
        refine ⟨after, ends, removes.congr fun place _ => ?_, fun kept => absurd taken (kept _)⟩
        exact ⟨fun inside => .inr ⟨whole, inside⟩, within_taskDir⟩
    | some run =>
        have plain_run := chosen run (by simp [named])
        have only : ∀ other, request.Matches task other ↔ other = run := fun other => by
          rw [Deletion.Matches, named]
          simpa using fun _ => selected
        simp only [joinPath_plain plain_run,
          store.isDir_plain (runDir_normal root plain plain_run)]
        by_cases here : store.tree.isDirAt (root.runDir task run) = true
        · have taken : request.Takes root store.tree task (root.runDir task run) :=
            .inl ⟨run, (only run).mpr rfl, here, List.prefix_refl _⟩
          obtain ⟨after, ends, removes⟩ := removeRun_plain plain_run here
          simp only [here, Bool.not_true]
          refine ⟨after, ends, removes.congr fun place _ => or_congr ?_ ?_, fun kept =>
            absurd taken (kept _)⟩
          · simp [Deletion.TakesRun, only, here]
          · simpa [Deletion.TakesTask, named, dir, here] using fun _ _ => selected
        · rw [Bool.not_eq_true] at here
          simp only [here, Bool.not_false, if_true]
          refine ⟨store, rfl, .still fun place => ?_, fun _ => rfl⟩
          rintro (⟨other, matched, there, _⟩ | ⟨⟨_, _, runs⟩, _⟩)
          · rw [(only other).mp matched, here] at there
            cases there
          · rw [(runs run (by simp [named])).1] at here
            cases here
  · refine ⟨store, deleteTask_passed plain passed, .still fun place taken => passed ?_,
      fun _ => rfl⟩
    exact ⟨isDirAt_of_takes taken, selected_of_takes taken⟩

theorem isDirAt_runsDir {place : Location} (taken : request.Takes root store.tree task place) :
    store.tree.isDirAt root.runsDir = true :=
  store.isDirAt_parent (store.ne_none_of_isDirAt (isDirAt_of_takes taken))

theorem runsDir_normal (root : RootDir) : ['.', '.'] ∉ root.runsDir := by
  rw [RootDir.runsDir, List.mem_append, not_or]
  exact ⟨root.normal, by decide⟩

theorem taskDir_apart {other : FileName} {place : Location} (apart : task ≠ other)
    (inside : root.taskDir task <+: place) : ¬ root.taskDir other <+: place := by
  intro within
  have same := List.prefix_of_prefix_length_le inside within (by simp [RootDir.taskDir])
  have equal := same.eq_of_length (by simp [RootDir.taskDir])
  exact apart (by simpa [RootDir.taskDir] using equal)

/-- The names over which `delete_run_dirs` loops. -/
theorem deleteRunDirs_eq (dir : store.tree.isDirAt root.runsDir = true) :
    deleteRunDirs request root store = attempt (deleteTask request root)
      ((store.children root.runsDir).insertionSort (· ≤ ·)) store := by
  rw [deleteRunDirs, store.listdir_plain dir]

theorem mem_tasks : task ∈ (store.children root.runsDir).insertionSort (· ≤ ·) ↔
    store.tree (root.taskDir task) ≠ none := by
  rw [List.mem_insertionSort, FileStore.mem_children]
  rfl

/-- From the runs tree goes what the filter takes from the directories of the tasks. -/
theorem deleteRunDirs_removes (chosen : ∀ run ∈ request.runId, PlainName run)
    (wet : request.dryRun = false) :
    ∃ after, deleteRunDirs request root store = (after, true) ∧
      Removes store.tree (fun place => ∃ task, request.Takes root store.tree task place)
        after.tree := by
  by_cases dir : store.tree.isDirAt root.runsDir = true
  · rw [deleteRunDirs_eq dir]
    have distinct : ((store.children root.runsDir).insertionSort (· ≤ ·)).Nodup :=
      (List.perm_insertionSort _ _).nodup_iff.mpr (store.children_nodup _)
    obtain ⟨after, ends, removes⟩ := @attempt_ends _ _
      ((store.children root.runsDir).insertionSort (· ≤ ·)) store (deleteTask request root)
      (fun past after => Removes store.tree
        (fun place => ∃ task ∈ past, request.Takes root store.tree task place) after.tree) (by
        intro past task rest middle order removed
        have fresh : task ∉ past := by
          rw [order, List.nodup_append] at distinct
          exact fun inside => distinct.2.2 task inside task List.mem_cons_self rfl
        have listed : task ∈ (store.children root.runsDir).insertionSort (· ≤ ·) := by
          rw [order]
          simp
        have plain := store.plainName_of_exists (mem_tasks.mp listed) task
          (by simp [RootDir.taskDir])
        have untouched : ∀ place, root.taskDir task <+: place →
            middle.tree place = store.tree place := by
          intro place inside
          refine (removed place).2 ?_
          rintro ⟨other, earlier, taken⟩
          have apart : task ≠ other := by
            rintro rfl
            exact fresh earlier
          exact taskDir_apart apart inside (within_taskDir taken)
        obtain ⟨after, ends, removes, _⟩ := @deleteTask_removes _ root middle _ plain chosen wet
        refine ⟨after, ends, (removed.then removes).congr fun place _ => ?_⟩
        rw [takes_congr untouched]
        simp [or_and_right, exists_or])
      (.still (by simp))
    refine ⟨after, ends, removes.congr fun place _ => ?_⟩
    constructor
    · rintro ⟨task, _, taken⟩
      exact ⟨task, taken⟩
    · rintro ⟨task, taken⟩
      exact ⟨task, mem_tasks.mpr (store.ne_none_of_isDirAt (isDirAt_of_takes taken)), taken⟩
  · refine ⟨store, ?_, .still ?_⟩
    · rw [deleteRunDirs, store.listdir_none (runsDir_normal root) (by simpa using dir)]
    · rintro place ⟨task, taken⟩
      exact dir (isDirAt_runsDir taken)

/-- Where the filter takes nothing, the runs tree stays. -/
theorem deleteRunDirs_still (chosen : ∀ run ∈ request.runId, PlainName run)
    (wet : request.dryRun = false)
    (kept : ∀ task place, ¬ request.Takes root store.tree task place) :
    deleteRunDirs request root store = (store, true) := by
  by_cases dir : store.tree.isDirAt root.runsDir = true
  · rw [deleteRunDirs_eq dir]
    refine attempt_still fun task listed => ?_
    have plain := store.plainName_of_exists (mem_tasks.mp listed) task (by simp [RootDir.taskDir])
    obtain ⟨after, ends, _, same⟩ := @deleteTask_removes _ root store _ plain chosen wet
    rw [ends, same (kept task)]
  · rw [deleteRunDirs, store.listdir_none (runsDir_normal root) (by simpa using dir)]

end RunDirs

/-! ### Rows and directories go together -/

/-- The rows and the directories of the runs which the filter names are deleted, and besides them
only the locations which `also` holds of. -/
structure Deletes (request : Deletion) (root : RootDir) (also : Location → Prop)
    (before : FileStore Text) (result : FileStore Text × Finish) : Prop where
  ends : result.2 = .done
  runs : ∀ task run, before.tree.isDirAt (root.runDir task run) = true →
    (result.1.tree (root.runDir task run) = none ↔ request.Matches task run)
  rows : ∀ file text table, before.tree (root.csvPath file) = some (.file text) →
    Table.ReadFrom table text →
      ∃ new, result.1.tree (root.csvPath file) = some (.file new) ∧
        (request.without table).ReadFrom new
  tableless : ∀ file, before.tree (root.csvPath file) = none ∨
    before.tree (root.csvPath file) = some (.file []) →
      result.1.tree (root.csvPath file) = before.tree (root.csvPath file)
  taken : ∀ place, also place → result.1.tree place = none
  rest : ∀ place, (∀ file, place ≠ root.csvPath file) →
    (∀ task, ¬ request.TakesRun root before.tree task place) → ¬ also place →
      result.1.tree place = before.tree place
  again : deleteData request root result.1 = (result.1, .done)

section Whole

variable {request : Deletion} {root : RootDir} {before middle after : FileStore Text}
  {task run : FileName} {file : DataFile}

theorem csvPath_apart {place : Location} (inside : root.taskDir task <+: place) :
    place ≠ root.csvPath file := by
  rintro rfl
  have shorter := List.prefix_of_prefix_length_le ((List.prefix_append root.runsDir [task]).trans
    inside) (List.prefix_append (root.location ++ ["data".toList]) [file.filename] |>.trans
      (by simp [RootDir.csvPath])) (by simp [RootDir.runsDir])
  have same := shorter.eq_of_length (by simp [RootDir.runsDir])
  exact absurd (List.append_cancel_left same) (by decide)

/-- A directory from which something is taken is seen to be one. -/
theorem takes_isDirAt {tree : FileTree Text} {place : Location}
    (taken : request.Takes root tree task place) :
    ∃ dir, tree.isDirAt dir = true ∧ ∀ other : FileTree Text, other.isDirAt dir = true →
      request.Takes root other task dir := by
  rcases taken with ⟨run, matched, here, _⟩ | ⟨⟨dir, selected, runs⟩, _⟩
  · exact ⟨root.runDir task run, here, fun other there =>
      .inl ⟨run, matched, there, List.prefix_refl _⟩⟩
  · cases named : request.runId with
    | none =>
        refine ⟨root.taskDir task, dir, fun other there => .inr ⟨⟨there, selected, ?_⟩,
          List.prefix_refl _⟩⟩
        simp [named]
    | some run =>
        have matched : request.Matches task run := ⟨by simp [named], selected⟩
        exact ⟨root.runDir task run, (runs run (by simp [named])).1, fun other there =>
          .inl ⟨run, matched, there, List.prefix_refl _⟩⟩

theorem takes_nothing {tree left : FileTree Text}
    (removes : Removes tree (fun place => ∃ task, request.Takes root tree task place) left)
    (place : Location) : ¬ request.Takes root left task place := by
  intro taken
  obtain ⟨dir, here, takes⟩ := takes_isDirAt taken
  have kept : ¬ ∃ task, request.Takes root tree task dir := by
    intro gone
    rw [FileTree.isDirAt, (removes dir).1 gone] at here
    cases here
  refine kept ⟨task, takes tree ?_⟩
  rwa [FileTree.isDirAt, (removes dir).2 kept] at here

/-- A run directory is taken just when the filter names the run. -/
theorem takes_runDir (dir : before.tree.isDirAt (root.runDir task run) = true) :
    (∃ other, request.Takes root before.tree other (root.runDir task run)) ↔
      request.Matches task run := by
  constructor
  · rintro ⟨other, taken⟩
    have same : task = other := by
      by_contra apart
      exact taskDir_apart apart (List.prefix_append _ _) (within_taskDir taken)
    subst same
    rcases taken with ⟨named, matched, _, inside⟩ | ⟨⟨_, selected, runs⟩, _⟩
    · have equal := inside.eq_of_length (by simp [RootDir.runDir])
      have same : named = run := by simpa [RootDir.runDir] using equal
      exact same ▸ matched
    · refine ⟨fun chosen inside => ?_, selected⟩
      exact (runs chosen inside).2 run (before.ne_none_of_isDirAt dir)
  · intro matched
    exact ⟨task, .inl ⟨run, matched, dir, List.prefix_refl _⟩⟩

theorem deleteData_ends (accepted : request.Accepted)
    (files : attempt (deleteCsvFile request root) csvFiles before = (middle, true))
    (dirs : deleteRunDirs request root middle = (after, true)) :
    deleteData request root before = (after, .done) := by
  rw [deleteData, if_neg (not_not_intro accepted), files]
  simp only [dirs]

/-- With a plain run name the filter selects the same runs in the data files and in the runs
tree. -/
theorem deleteData_deletes (accepted : request.Accepted) (wet : request.dryRun = false)
    (chosen : ∀ run ∈ request.runId, PlainName run)
    (readable : ∀ file, Readable (before.tree (root.csvPath file))) :
    Deletes request root (fun place => ∃ task, request.TakesTask root before.tree task ∧
      root.taskDir task <+: place) before (deleteData request root before) := by
  obtain ⟨middle, files, rewritten, others⟩ :=
    deleteCsvFiles_passes fun file => @passes_of_readable request _ (readable file)
  obtain ⟨after, dirs, removes⟩ := @deleteRunDirs_removes _ root middle chosen wet
  have same_runs : ∀ task place, root.taskDir task <+: place →
      middle.tree place = before.tree place := fun task place inside =>
    others place fun file => csvPath_apart inside
  have removed : Removes middle.tree
      (fun place => ∃ task, request.Takes root before.tree task place) after.tree :=
    removes.congr fun place _ => exists_congr fun task => takes_congr (same_runs task) place
  have csv_kept : ∀ file, after.tree (root.csvPath file) =
      (before.tree (root.csvPath file)).map request.rewrite := by
    intro file
    rw [(removed _).2, rewritten]
    rintro ⟨task, taken⟩
    exact csvPath_apart (within_taskDir taken) rfl
  rw [deleteData_ends accepted files dirs]
  constructor
  case ends => rfl
  case runs =>
    intro task run dir
    rw [← takes_runDir dir]
    constructor
    · intro gone
      by_contra kept
      rw [(removed _).2 kept,
        same_runs task (root.runDir task run) (List.prefix_append _ _)] at gone
      exact before.ne_none_of_isDirAt dir gone
    · exact (removed _).1
  case rows =>
    intro file text table held read
    obtain ⟨new, rewrites, read⟩ := rewrite_table read wet
    exact ⟨new, by rw [csv_kept, held, Option.map_some, rewrites], read⟩
  case tableless =>
    intro file tableless
    rw [csv_kept, rewrite_tableless tableless]
  case taken =>
    rintro place ⟨task, whole, inside⟩
    exact (removed place).1 ⟨task, .inr ⟨whole, inside⟩⟩
  case rest =>
    intro place no_file no_run no_task
    rw [(removed place).2, others place no_file]
    rintro ⟨task, in_run | in_task⟩
    · exact no_run task in_run
    · exact no_task ⟨task, in_task⟩
  case again =>
    refine deleteData_ends accepted (attempt_still fun file _ => deleteCsvFile_settled ?_)
      (deleteRunDirs_still chosen wet fun task => takes_nothing removes)
    rw [csv_kept]
    exact settled_rewrite (readable file) wet

end Whole

/-! ### Sample deletions -/

def sampleRoot : RootDir where
  location := [['w']]
  normal := by decide

/-- One run of one task, and one data file. -/
def sampleStore (text : Text) : FileStore Text :=
  FileStore.withContent
    { entries :=
        [([], .dir), ([['w']], .dir), (sampleRoot.runsDir, .dir), (sampleRoot.taskDir ['t'], .dir),
          (sampleRoot.runDir ['t'] ['r'], .dir), ([['w'], "data".toList], .dir),
          (sampleRoot.csvPath .blockPhased, .file [])]
      rooted := by decide
      named := by decide } (sampleRoot.csvPath .blockPhased) text

/-- Rows of the only run, and of a task without a directory. -/
def sampleTable : Table where
  names := ["run_id".toList, "task_id".toList]
  rows := [[['r'], ['t']], [['q'], ['u']]]
  distinct := by decide
  full := by decide

theorem sampleTable_read : sampleTable.ReadFrom (sampleTable.print ['\n']) :=
  Table.readFrom_print (by decide) (.inl rfl)

theorem sample_readable (file : DataFile) :
    Readable ((sampleStore (sampleTable.print ['\n'])).tree (sampleRoot.csvPath file)) := by
  cases file with
  | blockPhased => exact .inr ⟨_, sampleTable, rfl, sampleTable_read⟩
  | _ => exact .inl (.inl (by decide))

/-- The deletion of the only run of a task. -/
theorem deleteData_deletes_only :
    Deletes ⟨some ['r'], none, false⟩ sampleRoot
      (fun place => ∃ task, Deletion.TakesTask ⟨some ['r'], none, false⟩ sampleRoot
        (sampleStore (sampleTable.print ['\n'])).tree task ∧ sampleRoot.taskDir task <+: place)
      (sampleStore (sampleTable.print ['\n']))
      (deleteData ⟨some ['r'], none, false⟩ sampleRoot (sampleStore (sampleTable.print ['\n']))) :=
  deleteData_deletes (by decide) rfl (by decide) sample_readable

/-- An accepted deletion after which something else than a run is gone, or which raises. -/
def Strays (request : Deletion) (text : Text) : Prop :=
  request.Accepted ∧ request.dryRun = false ∧
    ¬ Deletes request sampleRoot (fun _ => False) (sampleStore text)
      (deleteData request sampleRoot (sampleStore text))

/-- A task directory is removed with its only run; a short row which stays is padded; a row with a
surplus field, an empty run beside a task and a run named `..` make the deletion raise. -/
theorem not_deletes :
    Strays ⟨some ['r'], none, false⟩ (sampleTable.print ['\n']) ∧
      deleteCsvRows ⟨some ['r'], none, false⟩ "run_id,task_id\nr,t\nq\n".toList =
        .rewritten "run_id,task_id\nq,\n".toList ∧
      Strays ⟨some ['r'], none, false⟩ "run_id,task_id\nr,t\nq,u,x\n".toList ∧
      Strays ⟨some [], some ['t'], false⟩ [] ∧ Strays ⟨some ['.', '.'], none, false⟩ [] := by
  have raises : ∀ {request : Deletion} {text : Text},
      (deleteData request sampleRoot (sampleStore text)).2 = .raised →
        ¬ Deletes request sampleRoot (fun _ => False) (sampleStore text)
          (deleteData request sampleRoot (sampleStore text)) := by
    intro request text raised deletes
    exact Finish.noConfusion (raised.symm.trans deletes.ends)
  refine ⟨⟨by decide, rfl, fun deletes => ?_⟩, by rfl, ⟨by decide, rfl, raises (by decide)⟩,
    ⟨by decide, rfl, raises (by decide)⟩, ⟨by decide, rfl, raises (by decide)⟩⟩
  have gone : (deleteData ⟨some ['r'], none, false⟩ sampleRoot
      (sampleStore (sampleTable.print ['\n']))).1.tree (sampleRoot.taskDir ['t']) = none := by
    decide
  have kept := deletes.rest (sampleRoot.taskDir ['t']) (by rintro (_ | _) <;> decide)
    (fun task => ?_) id
  · rw [gone] at kept
    exact absurd kept.symm (by decide)
  · rintro ⟨run, _, _, inside⟩
    exact absurd inside.length_le (by simp [RootDir.runDir, RootDir.taskDir])

end Data
end HermOS
