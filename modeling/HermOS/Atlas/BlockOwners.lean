import HermOS.Atlas.SharedMetadata
import HermOS.Library.Csv

/-!
# Whose block it is

`main` of `export_block_atlas.py` writes one map in three passes.  Marks give way to whatever a
block has already, the rows of the walked entries do not, so that the first mark and the last extent
of an entry decide; the file has one row for each block of the map.
-/

namespace HermOS
namespace Atlas

open Python

/-! ### The file -/

/-- The `fieldnames` of the writer. -/
def fieldnames : List Text :=
  ["drive_id".toList, "block_id".toList, "class".toList, "path".toList, "inode".toList,
    "logical_block".toList]

/-- The fields of a row in that order. -/
def AtlasRow.cells (row : AtlasRow) : List Text :=
  [row.driveId, row.blockId, row.blockClass.name, row.path, row.inode, row.logicalBlock]

def sortedRows (rows : RowsByBlock) : List (ℤ × AtlasRow) :=
  (sorted rows.keys.toFinset).filterMap fun block =>
    (rows.lookup block).map fun row => (block, row)

def writeRows (rows : RowsByBlock) : Text :=
  Csv.printRow ['\r', '\n'] fieldnames ++
    (sortedRows rows).flatMap fun item => Csv.printRow ['\r', '\n'] item.2.cells

/-- The three passes of `main`. -/
def addAll (stats : Stats) (dumpe2fs driveId : Text) (entries : List Entry) :
    Except Failure RowsByBlock := do
  let marked ← addSharedMetadata dumpe2fs driveId ∅
  let rows := if driveId = "rootfs".toList then addJournal marked stats driveId else marked
  return addEntries rows entries stats driveId

/-- `main` behind `load_inode_stats`. -/
def atlasText (stats : Stats) (dumpe2fs driveId : Text) (entries : List Entry) :
    Except Failure Text := do
  let rows ← addAll stats dumpe2fs driveId entries
  return writeRows rows

/-- `main`, on the entries found. -/
def exportBlockAtlas (debugfs : Text → Text) (dumpe2fs driveId : Text) (entries : List Entry) :
    Except Failure Text := do
  let rows ← rowsByBlock debugfs dumpe2fs driveId entries
  return writeRows rows

theorem exportBlockAtlas_eq (debugfs : Text → Text) (dumpe2fs driveId : Text)
    (entries : List Entry) : exportBlockAtlas debugfs dumpe2fs driveId entries =
      loadInodeStats debugfs (statInodes driveId entries) >>= fun stats =>
        atlasText stats dumpe2fs driveId entries := by
  unfold exportBlockAtlas rowsByBlock
  cases loadInodeStats debugfs (statInodes driveId entries) with
  | error failure => rfl
  | ok stats => rfl

/-! ### Marked lines -/

/-- A range of blocks, and the class which it is marked with. -/
structure MarkedRange where
  start : ℤ
  stop : ℤ
  className : Text

def MarkedRange.covers (range : MarkedRange) (block : ℤ) : Bool :=
  range.start ≤ block && block ≤ range.stop

/-- The labels in front of one block, with their classes. -/
def blockLabels : List (Text × Text) :=
  [("Primary superblock".toList, "superblock_or_gdt".toList),
    ("Backup superblock".toList, "superblock_or_gdt".toList),
    ("Block bitmap".toList, "block_bitmap".toList), ("Inode bitmap".toList, "inode_bitmap".toList)]

/-- The labels in front of a range of blocks, with their classes. -/
def rangeLabels : List (Text × Text) :=
  [("Group descriptors".toList, "superblock_or_gdt".toList),
    ("Reserved GDT blocks".toList, "superblock_or_gdt".toList),
    ("Inode table".toList, "inode_table".toList)]

/-- The line is indented and tells where something is. -/
inductive Marks : Text → MarkedRange → Prop
  | block {indent label className digits rest : Text} {block : ℤ} (indented : indent ≠ [])
      (blank : ∀ c ∈ indent, isSpace c = true) (listed : (label, className) ∈ blockLabels)
      (number : Number digits rest block) :
      Marks (indent ++ (label ++ (" at ".toList ++ (digits ++ rest)))) ⟨block, block, className⟩
  | range {indent label className first last rest : Text} {start stop : ℤ} (indented : indent ≠ [])
      (blank : ∀ c ∈ indent, isSpace c = true) (listed : (label, className) ∈ rangeLabels)
      (from_start : Number first ("-".toList ++ (last ++ rest)) start)
      (to_stop : Number last rest stop) :
      Marks (indent ++ (label ++ (" at ".toList ++ (first ++ ("-".toList ++ (last ++ rest))))))
        ⟨start, stop, className⟩

/-- The ranges of some lines, in their order. -/
inductive MarkedLines : List Text → List MarkedRange → Prop
  | nil : MarkedLines [] []
  | marks {line : Text} {lines : List Text} {range : MarkedRange} {ranges : List MarkedRange}
      (marks : Marks (rstrip line) range) (later : MarkedLines lines ranges) :
      MarkedLines (line :: lines) (range :: ranges)
  | other {line : Text} {lines : List Text} {ranges : List MarkedRange}
      (other : ∀ range, ¬ Marks (rstrip line) range) (later : MarkedLines lines ranges) :
      MarkedLines (line :: lines) ranges

theorem groupInt_ok {text : Text} {value : ℤ} (read : groupInt text = .ok value) :
    int text = some value := by
  rw [groupInt] at read
  split at read
  next found => rw [found, Except.ok.inj read]
  next => cases read

def Mark.range (mark : Mark) : MarkedRange :=
  ⟨mark.start, mark.stop, mark.blockClass.name⟩

@[simp]
theorem Mark.covers_range (mark : Mark) (block : ℤ) :
    mark.range.covers block = mark.covers block :=
  rfl

section Patterns

variable {words : List Text} {line indent label word digits first dash last rest : Text}
  {block : ℤ} {range : MarkedRange}

/-- What a pattern for one block finds. -/
theorem matchPieces_block (found : matchPieces [.many isSpace, .oneOf words, .word " at ",
    .many isDecimal] line = some ([indent, label, word, digits], rest)) :
    indent ≠ [] ∧ (∀ c ∈ indent, isSpace c = true) ∧ label ∈ words ∧
      (∀ block, groupInt digits = .ok block → Number digits rest block) ∧
      line = indent ++ (label ++ (" at ".toList ++ (digits ++ rest))) := by
  obtain ⟨_, _, _, indented, blank, _, rfl, found, same⟩ := matchPieces_many_some found
  cases same
  obtain ⟨_, _, _, listed, rfl, found, same⟩ := matchPieces_oneOf_some found
  cases same
  obtain ⟨_, _, rfl, found, same⟩ := matchPieces_word_some found
  cases same
  obtain ⟨_, _, _, nonempty, decimal, stops, rfl, found, same⟩ := matchPieces_many_some found
  cases same
  cases found
  exact ⟨indented, blank, listed, fun _ read => ⟨nonempty, decimal, stops, groupInt_ok read⟩, rfl⟩

theorem matchPieces_range (found : matchPieces [.many isSpace, .oneOf words, .word " at ",
    .many isDecimal, .word "-", .many isDecimal] line =
      some ([indent, label, word, first, dash, last], rest)) :
    indent ≠ [] ∧ (∀ c ∈ indent, isSpace c = true) ∧ label ∈ words ∧
      (∀ start, groupInt first = .ok start →
        Number first ("-".toList ++ (last ++ rest)) start) ∧
      (∀ stop, groupInt last = .ok stop → Number last rest stop) ∧
      line = indent ++ (label ++ (" at ".toList ++ (first ++ ("-".toList ++ (last ++ rest))))) := by
  obtain ⟨_, _, _, indented, blank, _, rfl, found, same⟩ := matchPieces_many_some found
  cases same
  obtain ⟨_, _, _, listed, rfl, found, same⟩ := matchPieces_oneOf_some found
  cases same
  obtain ⟨_, _, rfl, found, same⟩ := matchPieces_word_some found
  cases same
  obtain ⟨_, _, _, started, decimal, stops, rfl, found, same⟩ := matchPieces_many_some found
  cases same
  obtain ⟨_, _, rfl, found, same⟩ := matchPieces_word_some found
  cases same
  obtain ⟨_, _, _, stopped, decimal', stops', rfl, found, same⟩ := matchPieces_many_some found
  cases same
  cases found
  exact ⟨indented, blank, listed, fun _ read => ⟨started, decimal, stops, groupInt_ok read⟩,
    fun _ read => ⟨stopped, decimal', stops', groupInt_ok read⟩, rfl⟩

/-- What the patterns find is a label behind the indentation, and its blocks. -/
theorem marks_of_metadataMark {mark : Mark} (read : metadataMark line = .ok (some mark)) :
    Marks line mark.range := by
  rw [metadataMark] at read
  split at read
  next => cases read
  split at read
  next found =>
    obtain ⟨block, value, same⟩ := FallibleFold.bind_ok read
    cases same
    obtain ⟨indented, blank, listed, number, rfl⟩ := matchPieces_block found
    refine .block indented blank ?_ (number block value)
    fin_cases listed <;>
    · dsimp only
      decide
  split at read
  next found =>
    obtain ⟨start, from_start, read⟩ := FallibleFold.bind_ok read
    obtain ⟨stop, to_stop, same⟩ := FallibleFold.bind_ok read
    cases same
    obtain ⟨indented, blank, listed, first, last, rfl⟩ := matchPieces_range found
    refine .range indented blank ?_ (first start from_start) (last stop to_stop)
    fin_cases listed <;>
    · dsimp only
      decide
  split at read
  next found =>
    obtain ⟨block, value, same⟩ := FallibleFold.bind_ok read
    cases same
    obtain ⟨indented, blank, listed, number, rfl⟩ := matchPieces_block found
    refine .block indented blank ?_ (number block value)
    fin_cases listed <;>
    · dsimp only
      decide
  next => cases read

theorem metadataMark_of_marks (marks : Marks line range) :
    ∃ mark, metadataMark line = .ok (some mark) ∧ mark.range = range := by
  cases marks with
  | block indented blank listed number =>
      simp only [blockLabels, List.mem_cons, Prod.mk.injEq, List.not_mem_nil, or_false] at listed
      rcases listed with ⟨rfl, rfl⟩ | ⟨rfl, rfl⟩ | ⟨rfl, rfl⟩ | ⟨rfl, rfl⟩
      · exact ⟨_, metadataMark_superblock (by decide) (indents_label indented blank (by decide) _)
          number, rfl⟩
      · exact ⟨_, metadataMark_superblock (by decide) (indents_label indented blank (by decide) _)
          number, rfl⟩
      · exact ⟨_, metadataMark_item (by decide) (indents_label indented blank (by decide) _) number,
          rfl⟩
      · exact ⟨_, metadataMark_item (by decide) (indents_label indented blank (by decide) _) number,
          rfl⟩
  | range indented blank listed from_start to_stop =>
      simp only [rangeLabels, List.mem_cons, Prod.mk.injEq, List.not_mem_nil, or_false] at listed
      rcases listed with ⟨rfl, rfl⟩ | ⟨rfl, rfl⟩ | ⟨rfl, rfl⟩
      all_goals
        exact ⟨_, metadataMark_range (by decide) (indents_label indented blank (by decide) _)
          from_start to_stop, rfl⟩

end Patterns

/-! ### Owners -/

/-- The extent has the block. -/
def Extent.covers (extent : Extent) (block : ℤ) : Bool :=
  extent.physStart ≤ block && block ≤ extent.physEnd

/-- The extents of an inode which `debugfs` knows. -/
def Stats.extents (stats : Stats) (inode : ℤ) : List Extent :=
  ((stats.lookup inode).map (·.extents)).getD []

/-- The extents which are marked as the journal. -/
def journalExtents (stats : Stats) (driveId : Text) : List Extent :=
  if driveId = "rootfs".toList then stats.extents 8 else []

/-- The extents of all entries in the order of the walk. -/
def walked (stats : Stats) (entries : List Entry) : List (Entry × Extent) :=
  entries.flatMap fun entry => (stats.extents entry.inode).map (entry, ·)

def EntryKind.className : EntryKind → Text
  | .dir => "dir_data".toList
  | .file => "file_data".toList

/-- The fields of a row of the atlas: drive, block, class, path, inode and logical block. -/
inductive Owns (marks : List MarkedRange) (journal : List Extent) (walk : List (Entry × Extent))
    (driveId : Text) (block : ℤ) : List Text → Prop
  /-- The last extent which has the block decides. -/
  | entry {front back : List (Entry × Extent)} {entry : Entry} {extent : Extent}
      (split : walk = front ++ (entry, extent) :: back) (covers : extent.covers block = true)
      (last : ∀ later ∈ back, later.2.covers block = false) :
      Owns marks journal walk driveId block [driveId, str block, entry.kind.className, entry.path,
        str entry.inode, str (extent.logicalStart + (block - extent.physStart))]
  /-- Then the first range which is marked. -/
  | mark {front back : List MarkedRange} {mark : MarkedRange}
      (free : ∀ item ∈ walk, item.2.covers block = false)
      (split : marks = front ++ mark :: back) (covers : mark.covers block = true)
      (first : ∀ earlier ∈ front, earlier.covers block = false) :
      Owns marks journal walk driveId block [driveId, str block, mark.className, [], [], []]
  /-- Then the journal. -/
  | journal {extent : Extent} (free : ∀ item ∈ walk, item.2.covers block = false)
      (unmarked : ∀ mark ∈ marks, mark.covers block = false) (listed : extent ∈ journal)
      (covers : extent.covers block = true) :
      Owns marks journal walk driveId block [driveId, str block, "journal".toList, [], [], []]

def entryRow (driveId : Text) (entry : Entry) (extent : Extent) (block : ℤ) : AtlasRow where
  driveId := driveId
  blockId := str block
  blockClass := entry.kind.blockClass
  path := entry.path
  inode := str entry.inode
  logicalBlock := str (extent.logicalStart + (block - extent.physStart))

/-! ### Passes -/

theorem zipIdx_iterRange (start stop : ℤ) : (iterRange start stop).zipIdx =
    (List.range (stop + 1 - start).toNat).map
      fun offset : ℕ => (start + (offset : ℤ), offset) := by
  refine List.ext_getElem (by simp [iterRange, Int.range]) fun index _ _ => ?_
  simp [iterRange, Int.range]

/-- An extent of an entry takes its blocks from whoever had them. -/
theorem lookup_addExtent (driveId : Text) (entry : Entry) (rows : RowsByBlock) (extent : Extent)
    (block : ℤ) : (addExtent driveId entry rows extent).lookup block =
      if extent.covers block then some (entryRow driveId entry extent block)
      else rows.lookup block := by
  have written : ∀ count : ℕ, ((List.range count).foldl (fun (rows : RowsByBlock) (offset : ℕ) =>
      rows.insert (extent.physStart + (offset : ℤ))
        ⟨driveId, str (extent.physStart + (offset : ℤ)), entry.kind.blockClass, entry.path,
          str entry.inode, str (extent.logicalStart + (offset : ℤ))⟩) rows).lookup block =
      if extent.physStart ≤ block ∧ block < extent.physStart + count then
        some (entryRow driveId entry extent block)
      else rows.lookup block := by
    intro count
    induction count with
    | zero => rw [if_neg (by omega)]; rfl
    | succ count ih =>
        rw [List.range_succ, List.foldl_append, List.foldl_cons, List.foldl_nil]
        rcases eq_or_ne block (extent.physStart + count) with rfl | other
        · rw [AList.lookup_insert, if_pos (by omega), entryRow, add_sub_cancel_left]
        · rw [AList.lookup_insert_ne other, ih]
          exact if_congr (by omega) rfl rfl
  rw [addExtent, zipIdx_iterRange, List.foldl_map, written]
  refine if_congr ?_ rfl rfl
  rw [Extent.covers, Bool.and_eq_true, decide_eq_true_eq, decide_eq_true_eq]
  omega

theorem addEntries_eq (rows : RowsByBlock) (entries : List Entry) (stats : Stats)
    (driveId : Text) : addEntries rows entries stats driveId =
      (walked stats entries).foldl
        (fun rows item => addExtent driveId item.1 rows item.2) rows := by
  rw [walked, List.foldl_flatMap, addEntries]
  congr
  funext rows entry
  rw [List.foldl_map, Stats.extents]
  cases stats.lookup entry.inode <;> rfl

/-- Extents which have no claim to a block leave its row alone. -/
theorem lookup_addExtents_free (driveId : Text) {walk : List (Entry × Extent)} {block : ℤ}
    (free : ∀ item ∈ walk, item.2.covers block = false) (rows : RowsByBlock) :
    (walk.foldl (fun rows item => addExtent driveId item.1 rows item.2) rows).lookup block =
      rows.lookup block := by
  induction walk generalizing rows with
  | nil => rfl
  | cons item walk ih =>
      rw [List.foldl_cons, ih fun later inside => free later (List.mem_cons_of_mem _ inside),
        lookup_addExtent, free item List.mem_cons_self]
      rfl

theorem lookup_addExtents_last (driveId : Text) {front back : List (Entry × Extent)}
    {item : Entry × Extent} {block : ℤ} (covers : item.2.covers block = true)
    (last : ∀ later ∈ back, later.2.covers block = false) (rows : RowsByBlock) :
    ((front ++ item :: back).foldl (fun rows item => addExtent driveId item.1 rows item.2)
      rows).lookup block = some (entryRow driveId item.1 item.2 block) := by
  rw [List.foldl_append, List.foldl_cons, lookup_addExtents_free driveId last, lookup_addExtent,
    if_pos covers]

def Extent.journalMark (extent : Extent) : Mark :=
  ⟨extent.physStart, extent.physEnd, .journal⟩

theorem addJournal_eq (rows : RowsByBlock) (stats : Stats) (driveId : Text) :
    addJournal rows stats driveId =
      markAll driveId rows ((stats.extents 8).map Extent.journalMark) := by
  rw [addJournal, markAll, Stats.extents, List.foldl_map]
  cases stats.lookup 8 <;> rfl

def allMarks (marks : List Mark) (journal : List Extent) : List Mark :=
  marks ++ journal.map Extent.journalMark

/-- Where no line is refused, each marks its range. -/
theorem markAll_of_ok {driveId : Text} {lines : List Text} {rows marked : RowsByBlock}
    (metadata : lines.foldlM (addMetadataLine driveId) rows = .ok marked) :
    ∃ marks : List Mark, MarkedLines lines (marks.map Mark.range) ∧
      marked = markAll driveId rows marks := by
  induction lines generalizing rows with
  | nil =>
      cases metadata
      exact ⟨[], .nil, rfl⟩
  | cons line lines ih =>
      rw [List.foldlM_cons] at metadata
      obtain ⟨middle, added, rest⟩ := FallibleFold.bind_ok metadata
      obtain ⟨marks, listed, rfl⟩ := ih rest
      obtain ⟨mark, read, added⟩ := FallibleFold.bind_ok added
      cases mark with
      | none =>
          cases added
          refine ⟨marks, .other (fun range marks => ?_) listed, rfl⟩
          obtain ⟨mark, other, _⟩ := metadataMark_of_marks marks
          rw [read] at other
          cases other
      | some mark =>
          cases added
          exact ⟨mark :: marks, .marks (marks_of_metadataMark read) listed, rfl⟩

theorem addAll_eq {stats : Stats} {dumpe2fs driveId : Text} {entries : List Entry}
    {rows : RowsByBlock} (added : addAll stats dumpe2fs driveId entries = .ok rows) :
    ∃ marks : List Mark, MarkedLines (splitLines dumpe2fs) (marks.map Mark.range) ∧
      rows = (walked stats entries).foldl (fun rows item => addExtent driveId item.1 rows item.2)
        (markAll driveId ∅ (allMarks marks (journalExtents stats driveId))) := by
  obtain ⟨marked, metadata, rest⟩ := FallibleFold.bind_ok added
  obtain ⟨marks, listed, rfl⟩ := markAll_of_ok metadata
  refine ⟨marks, listed, ?_⟩
  cases rest
  rw [addEntries_eq, allMarks, journalExtents]
  split
  next => rw [addJournal_eq, markAll, markAll, markAll, List.foldl_append]
  next => rw [List.map_nil, List.append_nil]

/-! ### The rows -/

section Owned

variable {marks : List Mark} {journal : List Extent} {walk : List (Entry × Extent)}
  {driveId : Text} {block : ℤ} {cells : List Text}

theorem cells_entryRow (entry : Entry) (extent : Extent) :
    (entryRow driveId entry extent block).cells = [driveId, str block, entry.kind.className,
      entry.path, str entry.inode, str (extent.logicalStart + (block - extent.physStart))] := by
  rw [AtlasRow.cells, entryRow]
  cases entry.kind <;> rfl

theorem exists_last_covers (covered : ∃ item ∈ walk, item.2.covers block = true) :
    ∃ front entry extent back, walk = front ++ (entry, extent) :: back ∧
      extent.covers block = true ∧ ∀ later ∈ back, later.2.covers block = false := by
  induction walk with
  | nil => simp at covered
  | cons item walk ih =>
      by_cases later : ∃ item ∈ walk, item.2.covers block = true
      · obtain ⟨front, entry, extent, back, rfl, covers, last⟩ := ih later
        exact ⟨item :: front, entry, extent, back, rfl, covers, last⟩
      · obtain ⟨chosen, inside, covers⟩ := covered
        rcases List.mem_cons.mp inside with rfl | inside
        · exact ⟨[], chosen.1, chosen.2, walk, rfl, covers, fun other member =>
            Bool.eq_false_iff.mpr fun holds => later ⟨other, member, holds⟩⟩
        · exact absurd ⟨chosen, inside, covers⟩ later

/-- The first mark which has a block decides, and then the journal. -/
theorem lookup_allMarks : (markAll driveId ∅ (allMarks marks journal)).lookup block =
    ((marks.find? (·.covers block)).or
      ((journal.map Extent.journalMark).find? (·.covers block))).map fun mark =>
        metadataRow driveId mark.blockClass block := by
  rw [lookup_markAll, AList.lookup_empty, Option.none_or, allMarks, List.find?_append]

/-- The map which the three passes leave has a row for a block exactly if it is owned so. -/
theorem map_lookup_eq_some_iff :
    ((walk.foldl (fun rows item => addExtent driveId item.1 rows item.2)
      (markAll driveId ∅ (allMarks marks journal))).lookup block).map AtlasRow.cells = some cells ↔
        Owns (marks.map Mark.range) journal walk driveId block cells := by
  constructor
  · intro found
    by_cases covered : ∃ item ∈ walk, item.2.covers block = true
    · obtain ⟨front, entry, extent, back, rfl, covers, last⟩ := exists_last_covers covered
      have covers_item : (entry, extent).2.covers block = true := covers
      rw [lookup_addExtents_last driveId covers_item last, Option.map_some, cells_entryRow] at found
      obtain rfl := Option.some.inj found
      exact .entry rfl covers last
    · have free : ∀ item ∈ walk, item.2.covers block = false := fun item inside =>
        Bool.eq_false_iff.mpr fun covers => covered ⟨item, inside, covers⟩
      rw [lookup_addExtents_free driveId free, lookup_allMarks] at found
      cases first : marks.find? (·.covers block) with
      | some mark =>
          rw [first] at found
          obtain rfl := Option.some.inj found
          obtain ⟨covers, front, back, rfl, earlier⟩ := List.find?_eq_some_iff_append.mp first
          rw [List.map_append, List.map_cons]
          refine .mark free rfl covers (List.forall_mem_map.mpr fun other inside => ?_)
          simpa using earlier other inside
      | none =>
          rw [first, Option.none_or, List.find?_map, Option.map_map, Option.map_map] at found
          obtain ⟨extent, listed, rfl⟩ := Option.map_eq_some_iff.mp found
          have covers := List.find?_some listed
          refine .journal free (List.forall_mem_map.mpr fun mark inside => ?_)
            (List.mem_of_find?_eq_some listed) covers
          exact Bool.eq_false_iff.mpr (List.find?_eq_none.mp first mark inside)
  · intro owns
    cases owns with
    | entry split covers last =>
        rw [split, lookup_addExtents_last driveId covers last, Option.map_some, cells_entryRow]
    | mark free split covers first =>
        obtain ⟨front, _, rfl, rfl, tail⟩ := List.map_eq_append_iff.mp split
        obtain ⟨mark, back, rfl, rfl, rfl⟩ := List.map_eq_cons_iff.mp tail
        have found : (front ++ mark :: back).find? (·.covers block) = some mark :=
          List.find?_eq_some_iff_append.mpr ⟨covers, front, back, rfl, fun other inside => by
            simpa using first other.range (List.mem_map_of_mem inside)⟩
        rw [lookup_addExtents_free driveId free, lookup_allMarks, found]
        rfl
    | @journal extent free unmarked listed covers =>
        have none : marks.find? (·.covers block) = none :=
          List.find?_eq_none.mpr fun mark inside => by
            simpa using unmarked mark.range (List.mem_map_of_mem inside)
        have some_extent : (journal.find? fun extent => extent.journalMark.covers block).isSome :=
          List.find?_isSome.mpr ⟨extent, listed, covers⟩
        obtain ⟨other, found⟩ := Option.isSome_iff_exists.mp some_extent
        rw [lookup_addExtents_free driveId free, lookup_allMarks, none, Option.none_or,
          List.find?_map]
        simp only [Function.comp_def]
        rw [found]
        rfl

end Owned

theorem mem_sortedRows {rows : RowsByBlock} {block : ℤ} {row : AtlasRow} :
    (block, row) ∈ sortedRows rows ↔ rows.lookup block = some row := by
  rw [sortedRows, List.mem_filterMap]
  constructor
  · rintro ⟨other, _, made⟩
    obtain ⟨_, found, same⟩ := Option.map_eq_some_iff.mp made
    cases same
    exact found
  · intro found
    have known : block ∈ rows.keys := AList.mem_keys.mpr (AList.lookup_isSome.mp (by simp [found]))
    exact ⟨block, mem_sorted.mpr (List.mem_toFinset.mpr known), by rw [found]; rfl⟩

/-- Every block of the map has one row, and the blocks increase. -/
theorem sortedRows_increasing (rows : RowsByBlock) :
    ((sortedRows rows).map Prod.fst).Pairwise (· < ·) := by
  have sublist : (sortedRows rows).map Prod.fst = (sorted rows.keys.toFinset).filter fun block =>
      (rows.lookup block).isSome := by
    rw [sortedRows, List.map_filterMap]
    induction sorted rows.keys.toFinset with
    | nil => rfl
    | cons block blocks ih =>
        rw [List.filterMap_cons, List.filter_cons, ← ih]
        cases rows.lookup block <;> rfl
  rw [sublist]
  exact (Finset.sortedLT_sort _).pairwise.filter _

theorem records_writeRows (rows : RowsByBlock) :
    Csv.records {} (writeRows rows) =
      (fieldnames :: (sortedRows rows).map (·.2.cells), true) := by
  have ended : Csv.Terminator ['\r', '\n'] := .inr rfl
  have some_field : ∀ cells ∈ (sortedRows rows).map (·.2.cells), cells ≠ [] :=
    List.forall_mem_map.mpr fun _ _ => List.cons_ne_nil _ _
  have prints := Csv.prints_flatMap ended some_field
  rw [List.flatMap_map] at prints
  exact (Csv.Prints.cons (List.cons_ne_nil _ _) ended prints).records_eq

theorem mem_cells_sortedRows {rows : RowsByBlock} {block : ℤ} {cells : List Text} :
    (block, cells) ∈ (sortedRows rows).map (fun item => (item.1, item.2.cells)) ↔
      (rows.lookup block).map AtlasRow.cells = some cells := by
  rw [List.mem_map, Option.map_eq_some_iff]
  constructor
  · rintro ⟨⟨_, row⟩, inside, same⟩
    cases same
    exact ⟨row, mem_sortedRows.mp inside, rfl⟩
  · rintro ⟨row, found, rfl⟩
    exact ⟨(block, row), mem_sortedRows.mpr found, rfl⟩

/-- The file has exactly one row for each block which is owned, in increasing order of the blocks,
and it says whose the block is. -/
theorem atlasText_owners {stats : Stats} {dumpe2fs driveId text : Text} {entries : List Entry}
    (written : atlasText stats dumpe2fs driveId entries = .ok text) :
    (∀ debugfs, loadInodeStats debugfs (statInodes driveId entries) = .ok stats →
      exportBlockAtlas debugfs dumpe2fs driveId entries = .ok text) ∧
    ∃ marks, MarkedLines (splitLines dumpe2fs) marks ∧ ∃ rows : List (ℤ × List Text),
      Csv.records {} text = (["drive_id".toList, "block_id".toList, "class".toList, "path".toList,
        "inode".toList, "logical_block".toList] :: rows.map Prod.snd, true) ∧
      (rows.map Prod.fst).Pairwise (· < ·) ∧
      ∀ block cells, (block, cells) ∈ rows ↔
        Owns marks (journalExtents stats driveId) (walked stats entries) driveId block cells := by
  refine ⟨fun debugfs loaded => by rw [exportBlockAtlas_eq, loaded]; exact written, ?_⟩
  obtain ⟨rows, added, written⟩ := FallibleFold.bind_ok written
  cases written
  obtain ⟨marks, listed, rfl⟩ := addAll_eq added
  refine ⟨_, listed, _, ?_, ?_, fun block cells =>
    mem_cells_sortedRows.trans map_lookup_eq_some_iff⟩
  · rw [records_writeRows, List.map_map]
    rfl
  · rw [List.map_map]
    exact sortedRows_increasing _

/-- A file in two extents, of which one was also the journal's and one also a bitmap. -/
def sharedStats : Stats :=
  (AList.singleton 12 ⟨"regular".toList, [⟨0, 1, 5, 6⟩, ⟨2, 2, 9, 9⟩]⟩).insert 8
    ⟨"regular".toList, [⟨0, 1, 8, 9⟩]⟩

theorem atlasText_owners_shared : ∃ text,
    atlasText sharedStats reservedFromOne.text "rootfs".toList [⟨12, "/a".toList, .file⟩] =
      .ok text ∧
      (∀ debugfs, loadInodeStats debugfs
          (statInodes "rootfs".toList [⟨12, "/a".toList, .file⟩]) = .ok sharedStats →
        exportBlockAtlas debugfs reservedFromOne.text "rootfs".toList [⟨12, "/a".toList, .file⟩] =
          .ok text) ∧
      ∃ marks, MarkedLines (splitLines reservedFromOne.text) marks ∧ ∃ rows : List (ℤ × List Text),
        Csv.records {} text = (["drive_id".toList, "block_id".toList, "class".toList,
          "path".toList, "inode".toList, "logical_block".toList] :: rows.map Prod.snd, true) ∧
        (rows.map Prod.fst).Pairwise (· < ·) ∧
        ∀ block cells, (block, cells) ∈ rows ↔
          Owns marks (journalExtents sharedStats "rootfs".toList)
            (walked sharedStats [⟨12, "/a".toList, .file⟩]) "rootfs".toList block cells := by
  have marked := printed_reservedFromOne.addSharedMetadata_eq "rootfs".toList ∅
  have written : ∃ text, atlasText sharedStats reservedFromOne.text "rootfs".toList
      [⟨12, "/a".toList, .file⟩] = .ok text := by
    rw [atlasText, addAll, marked]
    exact ⟨_, rfl⟩
  obtain ⟨text, written⟩ := written
  exact ⟨text, written, atlasText_owners written⟩

end Atlas
end HermOS
