import HermOS.Library.FallibleFold
import HermOS.Library.PythonPattern
import Mathlib.Data.Finset.Sort
import Mathlib.Data.Int.Range
import Mathlib.Data.List.AList

/-!
# The block atlas of an image

`export_block_atlas.py`: from what `debugfs` and `dumpe2fs` print about an image to the rows which
say what each block holds.  The entries found by walking the image and the outputs of the two
programs are parameters.
-/

namespace HermOS
namespace Atlas

open Python

/-- An exception which nothing catches. -/
inductive Failure
  | valueError
  | indexError
  deriving DecidableEq

inductive BlockClass
  | superblockOrGdt
  | inodeTable
  | blockBitmap
  | inodeBitmap
  | journal
  | dirData
  | fileData
  deriving DecidableEq

def BlockClass.name : BlockClass → Text
  | .superblockOrGdt => "superblock_or_gdt".toList
  | .inodeTable => "inode_table".toList
  | .blockBitmap => "block_bitmap".toList
  | .inodeBitmap => "inode_bitmap".toList
  | .journal => "journal".toList
  | .dirData => "dir_data".toList
  | .fileData => "file_data".toList

structure AtlasRow where
  driveId : Text
  blockId : Text
  blockClass : BlockClass
  path : Text
  inode : Text
  logicalBlock : Text
  deriving DecidableEq

abbrev RowsByBlock :=
  AList fun _ : ℤ => AtlasRow

inductive EntryKind
  | dir
  | file

/-- An entry which `walk_entries` has found. -/
structure Entry where
  inode : ℤ
  path : Text
  kind : EntryKind

structure Extent where
  logicalStart : ℤ
  logicalEnd : ℤ
  physStart : ℤ
  physEnd : ℤ
  deriving DecidableEq

structure InodeStats where
  type : Text
  extents : List Extent

abbrev Stats :=
  AList fun _ : ℤ => InodeStats

/-! ### Patterns -/

def groupRe : List Piece :=
  [.word "Group ", .many isDecimal, .word ": (Blocks ", .many isDecimal, .word "-",
    .many isDecimal, .word ")"]

def singleRe : List Piece :=
  [.many isSpace, .oneOf ["Primary superblock".toList, "Backup superblock".toList], .word " at ",
    .many isDecimal]

def rangeRe : List Piece :=
  [.many isSpace,
    .oneOf ["Group descriptors".toList, "Reserved GDT blocks".toList, "Inode table".toList],
    .word " at ", .many isDecimal, .word "-", .many isDecimal]

def itemRe : List Piece :=
  [.many isSpace, .oneOf ["Block bitmap".toList, "Inode bitmap".toList], .word " at ",
    .many isDecimal]

def statRe : List Piece :=
  [.word "Inode:", .many isSpace, .many isDecimal, .many isSpace, .word "Type:", .many isSpace,
    .many isWordChar]

/-! ### Inodes -/

/-- Both ends of a range of blocks, or one block twice. -/
def bounds (text : Text) : Text × Text :=
  if '-' ∈ text then partition '-' text else (text, text)

/-- The extent which a line begins with; a number which `int` refuses makes it none. -/
def parseExtentLine (line : Text) : Except Failure (Option Extent) :=
  let text := strip line
  if startsWith ['('] text = false then
    .ok none
  else
    match splitFirst [')', ':'] text with
    | none => .ok none
    | some (logicalText, physicalText) =>
        match (words isSpace (strip physicalText)).head? with
        | none => .error .indexError
        | some physicalText =>
            let (logicalStart, logicalEnd) := bounds (logicalText.drop 1)
            let (physicalStart, physicalEnd) := bounds physicalText
            .ok do
              return ⟨← int logicalStart, ← int logicalEnd, ← int physicalStart, ← int physicalEnd⟩

/-- The loop of `load_inode_stats`. -/
structure Loading where
  stats : Stats
  current : Option ℤ
  collecting : Bool

/-- Change the record of an inode. -/
def Stats.change (stats : Stats) (inode : ℤ) (update : InodeStats → InodeStats) : Stats :=
  match stats.lookup inode with
  | some info => stats.insert inode (update info)
  | none => stats

/-- How `debugfs` repeats a command. -/
def echoStart : Text :=
  "debugfs: stat <".toList

def extentsHeader : Text :=
  "EXTENTS:".toList

def loadLine (loading : Loading) (line : Text) : Except Failure Loading :=
  if startsWith echoStart line && endsWith ['>'] line then
    match int (line.drop echoStart.length).dropLast with
    | none => .error .valueError
    | some inode => .ok ⟨loading.stats.insert inode ⟨[], []⟩, some inode, false⟩
  else
    match loading.current with
    | none => .ok loading
    | some current =>
        match matchPieces statRe (strip line) with
        | some ([_, _, _, _, _, _, type], _) =>
            .ok { loading with
              stats := Stats.change loading.stats current ({ · with type := lowerLatin1 type }) }
        | _ =>
            if strip line = extentsHeader then
              .ok { loading with collecting := true }
            else if loading.collecting then do
              let parsed ← parseExtentLine line
              return { loading with
                stats := Stats.change loading.stats current fun info =>
                  { info with extents := info.extents ++ parsed.toList } }
            else
              .ok loading

/-- The input of `debugfs`. -/
def statCommands (inodes : List ℤ) : Text :=
  join '\n' (inodes.map fun inode => "stat <".toList ++ (str inode ++ ['>'])) ++ ['\n']

/-- `sorted(inodes)`. -/
def sorted (inodes : Finset ℤ) : List ℤ :=
  inodes.sort (· ≤ ·)

theorem mem_sorted {inodes : Finset ℤ} {inode : ℤ} : inode ∈ sorted inodes ↔ inode ∈ inodes :=
  Finset.mem_sort _

/-- `load_inode_stats`, where `debugfs` answers an input. -/
def loadInodeStats (debugfs : Text → Text) (inodes : Finset ℤ) : Except Failure Stats :=
  if inodes = ∅ then
    .ok ∅
  else do
    let loaded ← (splitLines (debugfs (statCommands (sorted inodes)))).foldlM loadLine
      ⟨∅, none, false⟩
    return loaded.stats

/-! ### Rows -/

def iterRange (start stop : ℤ) : List ℤ :=
  Int.range start (stop + 1)

/-- A row of a block which belongs to no file. -/
def metadataRow (driveId : Text) (blockClass : BlockClass) (block : ℤ) : AtlasRow :=
  ⟨driveId, str block, blockClass, [], [], []⟩

def markRange (rows : RowsByBlock) (driveId : Text) (start stop : ℤ) (blockClass : BlockClass) :
    RowsByBlock :=
  (iterRange start stop).foldl (fun rows block =>
    if block ∈ rows then rows
    else rows.insert block (metadataRow driveId blockClass block)) rows

/-- A range which is marked, with its class. -/
structure Mark where
  start : ℤ
  stop : ℤ
  blockClass : BlockClass
  deriving DecidableEq

/-- `int(match.group(i))`. -/
def groupInt (text : Text) : Except Failure ℤ :=
  match int text with
  | some value => .ok value
  | none => .error .valueError

/-- The range which `add_shared_metadata` marks for a line. -/
def metadataMark (line : Text) : Except Failure (Option Mark) :=
  match matchPieces groupRe line with
  | some _ => .ok none
  | none =>
      match matchPieces singleRe line with
      | some ([_, _, _, block], _) => do
          let block ← groupInt block
          return some ⟨block, block, .superblockOrGdt⟩
      | _ =>
          match matchPieces rangeRe line with
          | some ([_, label, _, start, _, stop], _) => do
              let start ← groupInt start
              let stop ← groupInt stop
              return some ⟨start, stop,
                if label ≠ "Inode table".toList then .superblockOrGdt else .inodeTable⟩
          | _ =>
              match matchPieces itemRe line with
              | some ([_, label, _, block], _) => do
                  let block ← groupInt block
                  return some ⟨block, block,
                    if label = "Block bitmap".toList then .blockBitmap else .inodeBitmap⟩
              | _ => .ok none

/-- The body of the loop of `add_shared_metadata`. -/
def addMetadataLine (driveId : Text) (rows : RowsByBlock) (line : Text) :
    Except Failure RowsByBlock := do
  match ← metadataMark (rstrip line) with
  | none => return rows
  | some mark => return markRange rows driveId mark.start mark.stop mark.blockClass

def addSharedMetadata (dumpe2fs : Text) (driveId : Text) (rows : RowsByBlock) :
    Except Failure RowsByBlock :=
  (splitLines dumpe2fs).foldlM (addMetadataLine driveId) rows

def addJournal (rows : RowsByBlock) (stats : Stats) (driveId : Text) : RowsByBlock :=
  match stats.lookup 8 with
  | none => rows
  | some journal =>
      journal.extents.foldl (fun rows extent =>
        markRange rows driveId extent.physStart extent.physEnd .journal) rows

def EntryKind.blockClass : EntryKind → BlockClass
  | .dir => .dirData
  | .file => .fileData

/-- Write the rows of one extent of an entry. -/
def addExtent (driveId : Text) (entry : Entry) (rows : RowsByBlock) (extent : Extent) :
    RowsByBlock :=
  (iterRange extent.physStart extent.physEnd).zipIdx.foldl (fun rows numbered =>
    rows.insert numbered.1 ⟨driveId, str numbered.1, entry.kind.blockClass, entry.path,
      str entry.inode, str (extent.logicalStart + numbered.2)⟩) rows

def addEntries (rows : RowsByBlock) (entries : List Entry) (stats : Stats) (driveId : Text) :
    RowsByBlock :=
  entries.foldl (fun rows entry =>
    match stats.lookup entry.inode with
    | none => rows
    | some info => info.extents.foldl (addExtent driveId entry) rows) rows

/-- The inodes whose extents are asked for. -/
def statInodes (driveId : Text) (entries : List Entry) : Finset ℤ :=
  let inodes := (entries.map (·.inode)).toFinset
  if driveId = "rootfs".toList then insert 8 inodes else inodes

/-- `main` up to `write_rows`, on the entries found. -/
def rowsByBlock (debugfs : Text → Text) (dumpe2fs driveId : Text) (entries : List Entry) :
    Except Failure RowsByBlock := do
  let stats ← loadInodeStats debugfs (statInodes driveId entries)
  let marked ← addSharedMetadata dumpe2fs driveId ∅
  let rows := if driveId = "rootfs".toList then addJournal marked stats driveId else marked
  return addEntries rows entries stats driveId

end Atlas
end HermOS
