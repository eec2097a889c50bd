import HermOS.Library.Bisect
import HermOS.Library.FirstOccurrences
import HermOS.Trace.Record
import Mathlib.Data.Char
import Mathlib.Data.List.AList
import Mathlib.Data.List.Lex

/-!
# Files read in a trace

`collect_file_reads.py`: the first read of each block in a trace, looked up in block atlases.  One
loop fills four outputs: blocks without a class, blocks with their classes, and the number of blocks
read of each class and of each file.
-/

namespace HermOS
namespace Trace

open Python (Text)

/-! ### Atlases -/

/-- How the script ends without writing its files. -/
inductive Failure
  | valueError
  deriving DecidableEq

/-- A row of an atlas, where `none` is a missing column. -/
structure AtlasRecord where
  driveId : Text
  blockId : Text
  blockClass : Text
  path : Option Text
  inode : Option Text
  logicalBlock : Option Text

/-- What an atlas says about a block. -/
structure Entry where
  blockClass : Text
  path : Text
  inode : Text
  logicalBlock : Text
  deriving DecidableEq

def AtlasRecord.entry (record : AtlasRecord) : Entry :=
  ⟨record.blockClass, record.path.getD [], record.inode.getD [], record.logicalBlock.getD []⟩

/-- The entries of each block of each drive. -/
abbrev Grouped :=
  AList fun _ : Text => AList fun _ : ℤ => List Entry

/-- `grouped[drive_id][block_id].append(entry)`. -/
def Grouped.append (grouped : Grouped) (key : Key) (entry : Entry) : Grouped :=
  let blocks := (grouped.lookup key.1).getD ∅
  grouped.insert key.1 (blocks.insert key.2 ((blocks.lookup key.2).getD [] ++ [entry]))

/-- The blocks of a drive in increasing order. -/
structure Index where
  blockIds : List ℤ
  items : List (ℤ × List Entry)

def Index.ofBlocks (blocks : AList fun _ : ℤ => List Entry) : Index :=
  let items := (blocks.entries.map fun entry => (entry.1, entry.2)).mergeSort
    fun left right => decide (left.1 ≤ right.1)
  ⟨items.map Prod.fst, items⟩

/-- The body of the loop of `load_block_indexes`. -/
def Grouped.addRecord (grouped : Grouped) (record : AtlasRecord) : Except Failure Grouped :=
  match Python.int record.blockId with
  | some block => .ok (grouped.append (record.driveId, block) record.entry)
  | none => .error .valueError

def loadBlockIndexes (atlas : List AtlasRecord) : Except Failure (Text → Option Index) := do
  let grouped ← atlas.foldlM Grouped.addRecord ∅
  return fun driveId => (grouped.lookup driveId).map Index.ofBlocks

def lookupEntries (index : Index) (block : ℤ) : List Entry :=
  match index.items[Bisect.bisectLeft index.blockIds block]? with
  | some item => if item.1 = block then item.2 else []
  | none => []

/-! ### The loop -/

/-- The arguments which every row repeats. -/
structure RunLabels where
  runId : Text
  taskId : Text
  phase : Text

structure UnmappedRow where
  labels : RunLabels
  timestampNs : ℤ
  key : Key

structure BlockRow where
  labels : RunLabels
  timestampNs : ℤ
  key : Key
  entry : Entry

/-- Drive, path and inode. -/
abbrev FileKey :=
  Text × Text × Text

structure FileCount where
  firstTsNs : ℤ
  blocksRead : ℕ

abbrev ClassKey :=
  Text × Text

/-- The variables of the loop, besides `seen_blocks`. -/
structure Collected where
  summary : AList fun _ : FileKey => FileCount
  blockRows : List BlockRow
  unmappedRows : List UnmappedRow
  classSummary : AList fun _ : ClassKey => ℕ

def Collected.empty : Collected :=
  ⟨∅, [], [], ∅⟩

def fileData : Text :=
  "file_data".toList

def countFile (summary : AList fun _ : FileKey => FileCount) (timestampNs : ℤ) (file : FileKey) :
    AList fun _ : FileKey => FileCount :=
  match summary.lookup file with
  | none => summary.insert file ⟨timestampNs, 1⟩
  | some count => summary.insert file
      ⟨if timestampNs < count.firstTsNs then timestampNs else count.firstTsNs, count.blocksRead + 1⟩

def countClass (classSummary : AList fun _ : ClassKey => ℕ) (key : ClassKey) :
    AList fun _ : ClassKey => ℕ :=
  classSummary.insert key ((classSummary.lookup key).getD 0 + 1)

/-- The body of the loop over the entries of a block. -/
def collectEntry (labels : RunLabels) (timestampNs : ℤ) (key : Key) (collected : Collected)
    (entry : Entry) : Collected :=
  { collected with
    blockRows := collected.blockRows ++ [⟨labels, timestampNs, key, entry⟩]
    summary :=
      if entry.blockClass = fileData then
        countFile collected.summary timestampNs (key.1, entry.path, entry.inode)
      else
        collected.summary }

/-- The body of the main loop, for a block which is new. -/
def collectBlock (indexes : Text → Option Index) (labels : RunLabels) (collected : Collected)
    (read : ℤ × Key) : Collected :=
  match indexes read.2.1 with
  | none => collected
  | some index =>
      match lookupEntries index read.2.2 with
      | [] => { collected with
          unmappedRows := collected.unmappedRows ++ [⟨labels, read.1, read.2⟩] }
      | entries =>
          let collected := entries.foldl (collectEntry labels read.1 read.2) collected
          { collected with
            classSummary := ((entries.map (·.blockClass)).eraseDups.map (read.2.1, ·)).foldl
              countClass collected.classSummary }

/-- The loop with `seen_blocks`. -/
structure Scan where
  seenBlocks : List Key
  collected : Collected

def Scan.visit (indexes : Text → Option Index) (labels : RunLabels) (scan : Scan)
    (read : ℤ × Key) : Scan :=
  if read.2 ∈ scan.seenBlocks then scan
  else ⟨read.2 :: scan.seenBlocks, collectBlock indexes labels scan.collected read⟩

/-! ### Outputs -/

structure SummaryRow where
  labels : RunLabels
  file : FileKey
  count : FileCount

structure ClassRow where
  labels : RunLabels
  key : ClassKey
  blocksRead : ℕ

/-- The rows which are appended to the four files. -/
structure Outputs where
  summaryRows : List SummaryRow
  blockRows : List BlockRow
  unmappedRows : List UnmappedRow
  classRows : List ClassRow

/-- `<=` of pairs of texts. -/
def pairLe (left right : Text × Text) : Bool :=
  decide (left.1 < right.1) || (left.1 == right.1 && decide (left.2 ≤ right.2))

/-- `<=` of files. -/
def fileLe (left right : FileKey) : Bool :=
  decide (left.1 < right.1) || (left.1 == right.1 && pairLe left.2 right.2)

def Collected.outputs (collected : Collected) (labels : RunLabels) : Outputs where
  summaryRows := (collected.summary.entries.mergeSort fun left right => fileLe left.1 right.1).map
    fun entry => ⟨labels, entry.1, entry.2⟩
  blockRows := collected.blockRows
  unmappedRows := collected.unmappedRows
  classRows :=
    (collected.classSummary.entries.mergeSort fun left right => pairLe left.1 right.1).map
    fun entry => ⟨labels, entry.1, entry.2⟩

/-- `main` of `collect_file_reads.py`, on the trace and the rows of the atlases. -/
def collectFileReads (labels : RunLabels) (blockSize : ℤ) (atlas : List AtlasRecord)
    (trace : Text) :
    Except Failure Outputs := do
  let indexes ← loadBlockIndexes atlas
  let scan := (iterReadBlocks trace blockSize).foldl (Scan.visit indexes labels) ⟨[], .empty⟩
  return scan.collected.outputs labels

end Trace
end HermOS
