import HermOS.Atlas.ExportAtlas

/-!
# The extents which `debugfs` prints

What `debugfs` answers to the `stat` commands, and what `load_inode_stats` keeps of it.  All extents
of an inode stand in one line, and the first extent of a line is read only if nothing follows it.
-/

namespace HermOS
namespace Atlas

open Python

/-! ### The answer -/

/-- An extent: a first block, and as many more. -/
structure Leaf where
  logical : ℕ
  physical : ℕ
  more : ℕ

/-- What is listed of the extent tree of an inode. -/
inductive ExtentItem
  | leaf (leaf : Leaf)
  | index (depth block : ℕ)

/-- `a`, or `a-b`. -/
def blockSpan (start more : ℕ) : Text :=
  if more = 0 then decimal start else decimal start ++ '-' :: decimal (start + more)

namespace ExtentItem

def logicalText : ExtentItem → Text
  | .leaf ⟨logical, _, more⟩ => blockSpan logical more
  | .index depth _ => ['E', 'T', 'B'] ++ decimal depth

def physicalText : ExtentItem → Text
  | .leaf ⟨_, physical, more⟩ => blockSpan physical more
  | .index _ block => decimal block

def text (item : ExtentItem) : Text :=
  '(' :: item.logicalText ++ ([')', ':'] ++ item.physicalText)

def extent : ExtentItem → Option Extent
  | .leaf ⟨logical, physical, more⟩ =>
      some ⟨logical, logical + more, physical, physical + more⟩
  | .index _ _ => none

/-- `int` reads the numbers back. -/
def Readable : ExtentItem → Prop
  | .leaf ⟨logical, physical, more⟩ =>
      logical + more < 10 ^ maxStrDigits ∧ physical + more < 10 ^ maxStrDigits
  | .index _ _ => True

end ExtentItem

/-- The line below `EXTENTS:`. -/
def itemsLine : List ExtentItem → Text
  | [] => []
  | item :: items => item.text ++ items.flatMap fun item => [',', ' '] ++ item.text

structure InodeDump where
  type : Text
  note : Text
  further : List Text
  items : List ExtentItem

namespace InodeDump

def echo (inode : ℤ) : Text :=
  echoStart ++ (str inode ++ ['>'])

def typeLine (inode : ℤ) (dump : InodeDump) : Text :=
  "Inode: ".toList ++ (str inode ++ ("   Type: ".toList ++ (dump.type ++ dump.note)))

def lines (inode : ℤ) (dump : InodeDump) : List Text :=
  echo inode :: (typeLine inode dump :: dump.further ++ [extentsHeader, itemsLine dump.items])

/-- The extents, in the order in which they are printed. -/
def extents (dump : InodeDump) : List Extent :=
  dump.items.filterMap ExtentItem.extent

end InodeDump

/-- A line which is neither a repeated command nor the header of the extents. -/
structure Quiet (line : Text) : Prop where
  unbroken : Unbroken line
  no_echo : (startsWith echoStart line && endsWith ['>'] line) = false
  no_header : strip line ≠ extentsHeader

/-- The dump is of the form which `debugfs` prints. -/
structure InodeDump.Printed (inode : ℤ) (dump : InodeDump) : Prop where
  inode : inode.natAbs < 10 ^ maxStrDigits
  type : Unbroken dump.type
  note : Unbroken dump.note
  further : ∀ line ∈ dump.further, Quiet line
  items : ∀ item ∈ dump.items, item.Readable

/-- `debugfs` answers the `stat` commands of the inodes of an image. -/
def Answers (debugfs : Text → Text) (image : ℤ → InodeDump) (inodes : Finset ℤ) : Prop :=
  debugfs (statCommands (sorted inodes)) =
    ((sorted inodes).flatMap fun inode => (image inode).lines inode).flatMap (· ++ ['\n'])

/-- The block has a row of a directory or of a file. -/
def HasDataRow (rows : RowsByBlock) (block : ℤ) : Prop :=
  ∃ row, rows.lookup block = some row ∧
    (row.blockClass = .dirData ∨ row.blockClass = .fileData)

/-- All extents of each inode are kept in order, and all their blocks get rows with the entries. -/
def RecoversExtents (debugfs : Text → Text) (image : ℤ → InodeDump) (inodes : Finset ℤ) : Prop :=
  ∃ stats, loadInodeStats debugfs inodes = .ok stats ∧
    (∀ inode ∈ inodes, ∃ info, stats.lookup inode = some info ∧
      info.extents = (image inode).extents) ∧
    ∀ rows entries driveId, ∀ entry ∈ entries, entry.inode ∈ inodes →
      ∀ extent ∈ (image entry.inode).extents,
        ∀ block ∈ iterRange extent.physStart extent.physEnd,
          HasDataRow (addEntries rows entries stats driveId) block

/-- Nothing else is listed besides an extent. -/
def InodeDump.Sole (dump : InodeDump) : Prop :=
  dump.extents = [] ∨ ∃ leaf, dump.items = [.leaf leaf]

/-! ### The line of the extents -/

theorem mem_blockSpan {start more : ℕ} {c : Char} (inside : c ∈ blockSpan start more) :
    c = '-' ∨ c.isDigit = true := by
  rw [blockSpan] at inside
  split at inside
  · exact .inr (isDigit_decimal c inside)
  · rcases List.mem_append.mp inside with inside | inside
    · exact .inr (isDigit_decimal c inside)
    · exact (List.mem_cons.mp inside).imp_right (isDigit_decimal c)

theorem blockSpan_ne_nil (start more : ℕ) : blockSpan start more ≠ [] := by
  have first : decimal start ≠ [] := Nat.toDigits_ne_nil
  rw [blockSpan]
  split
  · exact first
  · simp

/-- Both ends of a printed range are found, and the last one keeps what follows it. -/
theorem bounds_blockSpan (start more : ℕ) {tail : Text} (apart : '-' ∉ tail) :
    ∃ front, bounds (blockSpan start more ++ tail) = (front, decimal (start + more) ++ tail) ∧
      (tail = [] → front = decimal start) := by
  have no_sign : ∀ n, '-' ∉ decimal n := fun n inside => by cases isDigit_decimal '-' inside
  rw [blockSpan]
  split
  next single =>
    refine ⟨decimal start ++ tail, ?_, fun none => by rw [none, List.append_nil]⟩
    rw [bounds, if_neg (by simp [no_sign, apart]), single, Nat.add_zero]
  next =>
    refine ⟨decimal start, ?_, fun _ => rfl⟩
    rw [List.append_assoc, List.cons_append, bounds, if_pos (by simp),
      partition_append (no_sign start)]

namespace ExtentItem

variable {item : ExtentItem} {c : Char}

theorem mem_physicalText (inside : c ∈ item.physicalText) : c = '-' ∨ c.isDigit = true := by
  cases item with
  | leaf leaf => exact mem_blockSpan inside
  | index depth block => exact .inr (isDigit_decimal c inside)

theorem mem_logicalText (inside : c ∈ item.logicalText) :
    c ∈ ['E', 'T', 'B', '-'] ∨ c.isDigit = true := by
  cases item with
  | leaf leaf => exact (mem_blockSpan inside).imp_left fun same => by simp [same]
  | index depth block =>
      rcases List.mem_append.mp inside with inside | inside
      · exact .inl (List.mem_append_left ['-'] inside)
      · exact .inr (isDigit_decimal c inside)

theorem physicalText_ne_nil (item : ExtentItem) : item.physicalText ≠ [] := by
  cases item with
  | leaf leaf => exact blockSpan_ne_nil _ _
  | index depth block => exact Nat.toDigits_ne_nil

theorem physicalText_solid (inside : c ∈ item.physicalText) : isSpace c = false := by
  rcases mem_physicalText inside with rfl | digit
  · decide
  · exact isSpace_isDigit digit

end ExtentItem

/-- What follows the first word behind the bracket of the first item. -/
def comma : List ExtentItem → Text
  | [] => []
  | _ :: _ => [',']

def readExtent : List ExtentItem → Option Extent
  | [item] => item.extent
  | _ => none

theorem itemsLine_cons (item : ExtentItem) (items : List ExtentItem) :
    itemsLine (item :: items) = ('(' :: item.logicalText) ++
      ([')', ':'] ++ (item.physicalText ++ items.flatMap fun item => [',', ' '] ++ item.text)) := by
  simp [itemsLine, ExtentItem.text]

/-- The line ends with a number. -/
theorem itemsLine_last (item : ExtentItem) (items : List ExtentItem) :
    ∃ c, (item.physicalText ++ items.flatMap fun item => [',', ' '] ++ item.text).getLast? =
      some c ∧
      isSpace c = false := by
  have ends : ∀ (front : Text) (item : ExtentItem),
      ∃ c, (front ++ item.physicalText).getLast? = some c ∧ isSpace c = false := by
    intro front item
    rw [List.getLast?_append_of_ne_nil _ item.physicalText_ne_nil]
    exact ⟨_, List.getLast?_eq_some_getLast item.physicalText_ne_nil,
      ExtentItem.physicalText_solid (List.getLast_mem item.physicalText_ne_nil)⟩
  rcases List.eq_nil_or_concat items with rfl | ⟨items, last, rfl⟩
  · simpa using ends [] item
  · have whole := ends (item.physicalText ++ items.flatMap (fun item => [',', ' '] ++ item.text) ++
      ([',', ' '] ++ '(' :: last.logicalText ++ [')', ':'])) last
    simpa [ExtentItem.text] using whole

theorem strip_itemsLine (items : List ExtentItem) : strip (itemsLine items) = itemsLine items := by
  cases items with
  | nil => rfl
  | cons item items =>
      refine strip_eq (fun c first => ?_) fun c last => ?_
      · obtain rfl : '(' = c := Option.some.inj first
        decide
      · obtain ⟨d, same, solid⟩ := itemsLine_last item items
        rw [itemsLine_cons, List.getLast?_append, List.getLast?_append, same] at last
        cases last
        exact solid

/-- Behind the bracket, the first word is the number with the comma. -/
theorem words_physicalText (item : ExtentItem) (items : List ExtentItem) :
    (words isSpace (strip
      (item.physicalText ++ items.flatMap fun item => [',', ' '] ++ item.text))).head? =
        some (item.physicalText ++ comma items) := by
  have kept : strip (item.physicalText ++ items.flatMap fun item => [',', ' '] ++ item.text) =
      item.physicalText ++ items.flatMap fun item => [',', ' '] ++ item.text := by
    refine strip_eq (fun c first => ?_) fun c last => ?_
    · rw [List.head?_append_of_ne_nil _ item.physicalText_ne_nil] at first
      exact ExtentItem.physicalText_solid (List.mem_of_mem_head? first)
    · obtain ⟨d, same, solid⟩ := itemsLine_last item items
      rw [same] at last
      cases last
      exact solid
  have solid : ∀ c ∈ item.physicalText, isSpace c = false := fun c inside =>
    ExtentItem.physicalText_solid inside
  rw [kept]
  cases items with
  | nil => simp [comma, words_solid item.physicalText_ne_nil solid]
  | cons next items =>
      have whole :
          item.physicalText ++ (next :: items).flatMap (fun item => [',', ' '] ++ item.text) =
          (item.physicalText ++ [',']) ++
            ' ' :: (next.text ++ items.flatMap fun item => [',', ' '] ++ item.text) := by
        simp
      rw [whole, words_space (by simp) ?_ (by decide)]
      · rfl
      · exact List.forall_mem_append.mpr ⟨solid, List.forall_mem_singleton.mpr (by decide)⟩

/-- The numbers of an extent are read if no comma follows them. -/
theorem readNumbers {item : ExtentItem} {items : List ExtentItem}
    (readable : item.Readable) :
    (do return (⟨← int (bounds item.logicalText).1, ← int (bounds item.logicalText).2,
      ← int (bounds (item.physicalText ++ comma items)).1,
      ← int (bounds (item.physicalText ++ comma items)).2⟩ : Extent)) =
        readExtent (item :: items) := by
  cases item with
  | index depth block =>
      have letter : int (bounds (['E', 'T', 'B'] ++ decimal depth)).1 = none := by
        have no_sign : '-' ∉ ['E', 'T', 'B'] ++ decimal depth := by
          rw [List.mem_append]
          rintro (letter | digit)
          · revert letter
            decide
          · cases isDigit_decimal '-' digit
        rw [bounds, if_neg no_sign]
        exact int_none (List.mem_append_left _ List.mem_cons_self) (by decide) (by decide)
      have none : readExtent (.index depth block :: items) = none := by
        cases items <;> rfl
      rw [none, ExtentItem.logicalText, letter]
      rfl
  | leaf leaf =>
      obtain ⟨logical, physical, more⟩ := leaf
      obtain ⟨logical_readable, physical_readable⟩ := readable
      have start : ∀ {n : ℕ}, n + more < 10 ^ maxStrDigits → n < 10 ^ maxStrDigits := fun short =>
        Nat.lt_of_le_of_lt (Nat.le_add_right _ more) short
      obtain ⟨first, logical_bounds, same⟩ := @bounds_blockSpan logical more [] List.not_mem_nil
      obtain rfl := same rfl
      rw [List.append_nil, List.append_nil] at logical_bounds
      have apart : '-' ∉ comma items := by
        cases items <;> simp [comma]
      obtain ⟨first, physical_bounds, same⟩ := bounds_blockSpan physical more apart
      rw [ExtentItem.logicalText, ExtentItem.physicalText, logical_bounds, physical_bounds,
        int_decimal logical_readable, int_decimal (start logical_readable)]
      cases items with
      | nil =>
          obtain rfl := same rfl
          rw [comma, List.append_nil, int_decimal physical_readable,
            int_decimal (start physical_readable)]
          simp [readExtent, ExtentItem.extent]
      | cons next items =>
          have refused : int (decimal (physical + more) ++ [',']) = none :=
            int_none (List.mem_append_right _ (List.mem_singleton_self ',')) (by decide) (by decide)
          rw [comma, refused]
          cases int first <;> rfl

/-- Only an extent which is alone in its line is read. -/
theorem parseExtentLine_items {items : List ExtentItem} (readable : ∀ item ∈ items, item.Readable) :
    parseExtentLine (itemsLine items) = .ok (readExtent items) := by
  cases items with
  | nil => rfl
  | cons item items =>
      have free : ')' ∉ '(' :: item.logicalText := by
        rw [List.mem_cons]
        rintro (same | inside)
        · cases same
        · rcases ExtentItem.mem_logicalText inside with letter | digit
          · revert letter
            decide
          · cases digit
      have starts : startsWith ['('] (itemsLine (item :: items)) = true := rfl
      rw [parseExtentLine, strip_itemsLine, starts, itemsLine_cons]
      simp only [Bool.true_eq_false, if_false, splitFirst_append free, words_physicalText,
        List.drop_one, List.tail_cons]
      congr 1
      exact readNumbers (readable item List.mem_cons_self)

/-! ### The loop over the lines -/

/-- The extents kept of an inode. -/
def extentsAt (stats : Stats) (inode : ℤ) : Option (List Extent) :=
  (stats.lookup inode).map (·.extents)

theorem extentsAt_insert (stats : Stats) (inode other : ℤ) (info : InodeStats) :
    extentsAt (stats.insert inode info) other =
      if other = inode then some info.extents else extentsAt stats other := by
  unfold extentsAt
  split
  next same => rw [same, AList.lookup_insert, Option.map_some]
  next apart => rw [AList.lookup_insert_ne apart]

theorem extentsAt_change (stats : Stats) (inode other : ℤ) (update : InodeStats → InodeStats) :
    extentsAt (stats.change inode update) other =
      if other = inode then (stats.lookup inode).map fun info => (update info).extents
      else extentsAt stats other := by
  unfold Stats.change
  split
  next info found => rw [extentsAt_insert, found, Option.map_some]
  next missing =>
    split
    next same => rw [same, extentsAt, missing, Option.map_none, Option.map_none]
    next => rfl

/-- A repeated command starts the record of its inode. -/
theorem loadLine_echo {inode : ℤ} (readable : inode.natAbs < 10 ^ maxStrDigits)
    (loading : Loading) :
    loadLine loading (InodeDump.echo inode) =
      .ok ⟨loading.stats.insert inode ⟨[], []⟩, some inode, false⟩ := by
  have starts : startsWith echoStart (InodeDump.echo inode) = true :=
    startsWith_append _ _
  have ends : endsWith ['>'] (InodeDump.echo inode) = true :=
    List.isSuffixOf_iff_suffix.mpr ⟨echoStart ++ str inode, by simp [InodeDump.echo]⟩
  have number : ((InodeDump.echo inode).drop echoStart.length).dropLast = str inode := by
    rw [InodeDump.echo, List.drop_left, List.dropLast_concat]
  rw [loadLine, starts, ends, number, int_str readable]
  rfl

/-- Before the header of the extents, no line changes the extents of an inode. -/
theorem loadLine_quiet {line : Text} (quiet : Quiet line) (stats : Stats) (inode : ℤ) :
    ∃ after, loadLine ⟨stats, some inode, false⟩ line = .ok ⟨after, some inode, false⟩ ∧
      extentsAt after = extentsAt stats := by
  rw [loadLine, quiet.no_echo]
  simp only [Bool.false_eq_true, if_false, if_neg quiet.no_header]
  split
  next type _ _ =>
    refine ⟨_, rfl, funext fun other => ?_⟩
    rw [extentsAt_change]
    split
    next same => rw [same, extentsAt]
    next => rfl
  next => exact ⟨stats, rfl, rfl⟩

theorem foldlM_quiet {lines : List Text} (quiet : ∀ line ∈ lines, Quiet line) (stats : Stats)
    (inode : ℤ) :
    ∃ after, lines.foldlM loadLine ⟨stats, some inode, false⟩ = .ok ⟨after, some inode, false⟩ ∧
      extentsAt after = extentsAt stats := by
  induction lines generalizing stats with
  | nil => exact ⟨stats, rfl, rfl⟩
  | cons line lines ih =>
      obtain ⟨middle, step, same⟩ := loadLine_quiet (quiet line List.mem_cons_self) stats inode
      obtain ⟨after, run, later⟩ :=
        ih (fun line inside => quiet line (List.mem_cons_of_mem _ inside)) middle
      refine ⟨after, ?_, later.trans same⟩
      rw [List.foldlM_cons, step]
      exact run

theorem loadLine_header (stats : Stats) (inode : ℤ) :
    loadLine ⟨stats, some inode, false⟩ extentsHeader = .ok ⟨stats, some inode, true⟩ := by
  rfl

/-- The line below the header adds what is read in it. -/
theorem loadLine_items {items : List ExtentItem} (readable : ∀ item ∈ items, item.Readable)
    (stats : Stats) (inode : ℤ) :
    loadLine ⟨stats, some inode, true⟩ (itemsLine items) =
      .ok ⟨stats.change inode fun info =>
        { info with extents := info.extents ++ (readExtent items).toList }, some inode, true⟩ := by
  have no_echo : startsWith echoStart (itemsLine items) = false := by
    cases items <;> rfl
  have no_type : matchPieces statRe (itemsLine items) = none := by
    refine matchPieces_oneOf_none fun word listed => ?_
    obtain rfl := List.mem_singleton.mp listed
    cases items with
    | nil => exact fun starts => by cases List.prefix_nil.mp starts
    | cons item items => exact fun starts => by cases (List.cons_prefix_cons.mp starts).1
  have no_header : itemsLine items ≠ extentsHeader := by
    cases items with
    | nil => exact fun same => by cases same
    | cons item items => exact fun same => by cases (List.cons.inj same).1
  rw [loadLine, no_echo, strip_itemsLine, no_type, parseExtentLine_items readable]
  simp only [Bool.false_and, Bool.false_eq_true, if_false, if_neg no_header]
  rfl

/-- The line of the type starts like no other line. -/
theorem quiet_typeLine {inode : ℤ} {dump : InodeDump} (printed : dump.Printed inode) :
    Quiet (dump.typeLine inode) where
  unbroken := by
    unfold InodeDump.typeLine
    simp only [unbroken_append]
    exact ⟨by decide, unbroken_str inode, by decide, printed.type, printed.note⟩
  no_echo := by
    have apart : startsWith echoStart (dump.typeLine inode) = false := by
      refine Bool.eq_false_iff.mpr fun starts => ?_
      cases (List.cons_prefix_cons.mp (startsWith_iff.mp starts)).1
    rw [apart, Bool.false_and]
  no_header same := by
    have first : strip (dump.typeLine inode) = 'I' :: rstrip (dump.typeLine inode).tail :=
      strip_cons (by decide) _
    rw [same] at first
    cases (List.cons.inj first).1

/-- The lines of an inode replace its extents by the one which is read. -/
theorem foldlM_dump {inode : ℤ} {dump : InodeDump} (printed : dump.Printed inode)
    (loading : Loading) :
    ∃ stats, (dump.lines inode).foldlM loadLine loading = .ok ⟨stats, some inode, true⟩ ∧
      ∀ other, extentsAt stats other =
        if other = inode then some (readExtent dump.items).toList
        else extentsAt loading.stats other := by
  obtain ⟨middle, quiet_run, same⟩ := foldlM_quiet
    (List.forall_mem_cons.mpr ⟨quiet_typeLine printed, printed.further⟩)
    (loading.stats.insert inode ⟨[], []⟩) inode
  have before : ∀ other, extentsAt middle other =
      if other = inode then some [] else extentsAt loading.stats other := fun other => by
    rw [same, extentsAt_insert]
  have run : (dump.lines inode).foldlM loadLine loading =
      .ok ⟨middle.change inode fun info =>
        { info with extents := info.extents ++ (readExtent dump.items).toList }, some inode,
          true⟩ := by
    rw [InodeDump.lines, List.foldlM_cons, loadLine_echo printed.inode, ]
    change List.foldlM _ _ _ = _
    rw [List.foldlM_append, quiet_run]
    change List.foldlM _ _ _ = _
    rw [List.foldlM_cons, loadLine_header]
    change List.foldlM _ _ _ = _
    rw [List.foldlM_cons, loadLine_items printed.items]
    rfl
  refine ⟨_, run, fun other => ?_⟩
  rw [extentsAt_change]
  split
  next =>
    obtain ⟨info, found, none⟩ := Option.map_eq_some_iff.mp ((before inode).trans (if_pos rfl))
    rw [found, Option.map_some, none, List.nil_append]
  next apart => rw [before, if_neg apart]

theorem foldlM_dumps {image : ℤ → InodeDump} {inodes : List ℤ}
    (printed : ∀ inode ∈ inodes, (image inode).Printed inode) (loading : Loading) :
    ∃ after, (inodes.flatMap fun inode => (image inode).lines inode).foldlM loadLine loading =
        .ok after ∧
      ∀ other, extentsAt after.stats other =
        if other ∈ inodes then some (readExtent (image other).items).toList
        else extentsAt loading.stats other := by
  induction inodes generalizing loading with
  | nil => exact ⟨loading, rfl, fun other => by simp⟩
  | cons inode inodes ih =>
      obtain ⟨stats, dump_run, dump_extents⟩ :=
        foldlM_dump (printed inode List.mem_cons_self) loading
      obtain ⟨after, run, extents⟩ :=
        ih (fun other inside => printed other (List.mem_cons_of_mem _ inside))
          ⟨stats, some inode, true⟩
      refine ⟨after, ?_, fun other => ?_⟩
      · rw [List.flatMap_cons, List.foldlM_append, dump_run]
        exact run
      · rw [extents]
        by_cases later : other ∈ inodes
        · rw [if_pos later, if_pos (List.mem_cons_of_mem _ later)]
        · rw [if_neg later, dump_extents]
          by_cases same : other = inode
          · rw [if_pos same, if_pos (List.mem_cons.mpr (.inl same)), same]
          · rw [if_neg same, if_neg fun inside => (List.mem_cons.mp inside).elim same later]

theorem unbroken_itemsLine (items : List ExtentItem) : Unbroken (itemsLine items) := by
  have physical : ∀ item : ExtentItem, Unbroken item.physicalText := fun item c inside => by
    rcases ExtentItem.mem_physicalText inside with rfl | digit
    · decide
    · exact isLineSeparator_isDigit digit
  have logical : ∀ item : ExtentItem, Unbroken item.logicalText := fun item c inside => by
    rcases ExtentItem.mem_logicalText inside with letter | digit
    · have letters : Unbroken ['E', 'T', 'B', '-'] := by decide
      exact letters c letter
    · exact isLineSeparator_isDigit digit
  have text : ∀ item : ExtentItem, Unbroken item.text := fun item => by
    refine unbroken_append.mpr ⟨?_, unbroken_append.mpr ⟨by decide, physical item⟩⟩
    exact List.forall_mem_cons.mpr ⟨by decide, logical item⟩
  cases items with
  | nil => exact List.forall_mem_nil _
  | cons item items =>
      refine unbroken_append.mpr ⟨text item, List.forall_mem_flatMap.mpr fun item _ => ?_⟩
      exact unbroken_append.mpr ⟨by decide, text item⟩

theorem unbroken_dump {inode : ℤ} {dump : InodeDump} (printed : dump.Printed inode) :
    ∀ line ∈ dump.lines inode, Unbroken line := by
  refine List.forall_mem_cons.mpr ⟨?_, List.forall_mem_cons.mpr
    ⟨(quiet_typeLine printed).unbroken, List.forall_mem_append.mpr
      ⟨fun line inside => (printed.further line inside).unbroken, ?_⟩⟩⟩
  · exact unbroken_append.mpr
      ⟨by decide, unbroken_append.mpr ⟨unbroken_str inode, by decide⟩⟩
  · exact List.forall_mem_cons.mpr
      ⟨by decide, List.forall_mem_singleton.mpr (unbroken_itemsLine dump.items)⟩

/-- Of each inode the extent is kept which is read in its line. -/
theorem loadInodeStats_eq {debugfs : Text → Text} {image : ℤ → InodeDump} {inodes : Finset ℤ}
    (printed : ∀ inode ∈ inodes, (image inode).Printed inode)
    (answers : Answers debugfs image inodes) :
    ∃ stats, loadInodeStats debugfs inodes = .ok stats ∧
      ∀ inode ∈ inodes, extentsAt stats inode = some (readExtent (image inode).items).toList := by
  rw [loadInodeStats]
  split
  next none => exact ⟨∅, rfl, fun inode inside => by simp [none] at inside⟩
  next =>
    have listed : ∀ inode ∈ sorted inodes, (image inode).Printed inode := fun inode inside =>
      printed inode (mem_sorted.mp inside)
    obtain ⟨after, run, extents⟩ := foldlM_dumps listed ⟨∅, none, false⟩
    refine ⟨after.stats, ?_, fun inode inside => ?_⟩
    · rw [answers, splitLines_unlines
        (List.forall_mem_flatMap.mpr fun inode inside => unbroken_dump (listed inode inside)), run]
      rfl
    · rw [extents, if_pos (mem_sorted.mpr inside)]

theorem readExtent_iff (dump : InodeDump) :
    (readExtent dump.items).toList = dump.extents ↔ dump.Sole := by
  unfold InodeDump.Sole InodeDump.extents
  cases dump.items with
  | nil => simp [readExtent]
  | cons item items =>
      cases items with
      | nil => cases item <;> simp [readExtent, ExtentItem.extent]
      | cons next items =>
          simp only [readExtent, Option.toList_none, List.cons.injEq, reduceCtorEq, and_false,
            exists_false, or_false]
          exact eq_comm

/-! ### The rows of the entries -/

section Rows

variable {rows : RowsByBlock} {block : ℤ}

theorem HasDataRow.insert {written : ℤ} {row : AtlasRow} {rows : RowsByBlock}
    (data : row.blockClass = .dirData ∨ row.blockClass = .fileData)
    (before : block = written ∨ HasDataRow rows block) :
    HasDataRow (rows.insert written row) block := by
  by_cases same : block = written
  · exact ⟨row, by rw [same, AList.lookup_insert], data⟩
  · obtain ⟨old, found, old_data⟩ := before.resolve_left same
    exact ⟨old, by rw [AList.lookup_insert_ne same, found], old_data⟩

theorem EntryKind.blockClass_data (kind : EntryKind) :
    kind.blockClass = .dirData ∨ kind.blockClass = .fileData := by
  cases kind with
  | dir => exact .inl rfl
  | file => exact .inr rfl

/-- What some element of a list brings about, and each element keeps, holds after the loop. -/
theorem foldl_establishes {State Item : Type} {step : State → Item → State} (Holds : State → Prop)
    (Brings : Item → Prop)
    (closed : ∀ state item, Brings item ∨ Holds state → Holds (step state item))
    {items : List Item} {state : State} (before : (∃ item ∈ items, Brings item) ∨ Holds state) :
    Holds (items.foldl step state) := by
  induction items generalizing state with
  | nil => exact before.resolve_left fun ⟨_, inside, _⟩ => by cases inside
  | cons item items ih =>
      refine ih ?_
      rcases before with ⟨chosen, inside, brings⟩ | holds
      · rcases List.mem_cons.mp inside with rfl | later
        · exact .inr (closed _ _ (.inl brings))
        · exact .inl ⟨chosen, later, brings⟩
      · exact .inr (closed _ _ (.inr holds))

/-- The blocks of an extent get rows, and no row of an entry is lost. -/
theorem addExtent_hasDataRow (driveId : Text) (entry : Entry) (rows : RowsByBlock) (extent : Extent)
    (before : block ∈ iterRange extent.physStart extent.physEnd ∨ HasDataRow rows block) :
    HasDataRow (addExtent driveId entry rows extent) block := by
  refine foldl_establishes (HasDataRow · block) (fun numbered : ℤ × ℕ => block = numbered.1)
    (fun rows numbered written => .insert entry.kind.blockClass_data written)
    (before.imp_left fun inside => ?_)
  obtain ⟨index, _, found⟩ := List.mem_iff_getElem.mp inside
  exact ⟨(block, index), List.mem_zipIdx_iff_getElem?.mpr (by simp [← found]), rfl⟩

theorem addEntries_hasDataRow {entries : List Entry} {stats : Stats} (driveId : Text)
    (before : (∃ entry ∈ entries, ∃ info, stats.lookup entry.inode = some info ∧
        ∃ extent ∈ info.extents, block ∈ iterRange extent.physStart extent.physEnd) ∨
      HasDataRow rows block) :
    HasDataRow (addEntries rows entries stats driveId) block := by
  refine foldl_establishes (HasDataRow · block) _ (fun rows entry brought => ?_) before
  split
  next missing =>
    rcases brought with ⟨info, found, _⟩ | holds
    · rw [missing] at found
      cases found
    · exact holds
  next info known =>
    refine foldl_establishes (HasDataRow · block)
      (fun extent => block ∈ iterRange extent.physStart extent.physEnd)
      (addExtent_hasDataRow driveId entry) (brought.imp_left ?_)
    rintro ⟨_, found, brings⟩
    rw [known] at found
    cases found
    exact brings

end Rows

/-- All extents are recovered exactly if no inode has an extent which is not alone in its line. -/
theorem recoversExtents_iff {debugfs : Text → Text} {image : ℤ → InodeDump} {inodes : Finset ℤ}
    (printed : ∀ inode ∈ inodes, (image inode).Printed inode)
    (answers : Answers debugfs image inodes) :
    RecoversExtents debugfs image inodes ↔ ∀ inode ∈ inodes, (image inode).Sole := by
  obtain ⟨stats, loaded, extents⟩ := loadInodeStats_eq printed answers
  constructor
  · rintro ⟨_, same, recovered, _⟩ inode inside
    cases loaded.symm.trans same
    obtain ⟨info, found, all⟩ := recovered inode inside
    have kept := extents inode inside
    rw [extentsAt, found, Option.map_some, all] at kept
    exact (readExtent_iff _).mp (Option.some.inj kept).symm
  · intro sole
    have recovered : ∀ inode ∈ inodes, ∃ info, stats.lookup inode = some info ∧
        info.extents = (image inode).extents := fun inode inside => by
      obtain ⟨info, found, kept⟩ := Option.map_eq_some_iff.mp (extents inode inside)
      exact ⟨info, found, kept.trans ((readExtent_iff _).mpr (sole inode inside))⟩
    refine ⟨stats, loaded, recovered, ?_⟩
    intro rows entries driveId entry listed inside extent printed_extent block covered
    obtain ⟨info, found, all⟩ := recovered entry.inode inside
    exact addEntries_hasDataRow driveId
      (.inl ⟨entry, listed, info, found, extent, all ▸ printed_extent, covered⟩)

/-- A file of one or more extents, with nothing else printed of it. -/
def regular (items : List ExtentItem) : InodeDump :=
  ⟨"regular".toList, "    Mode:  0644".toList, ["Links: 1   Blockcount: 24".toList], items⟩

/-- Inode 12 and its dump. -/
def answer (dump : InodeDump) (_ : Text) : Text :=
  (([12] : List ℤ).flatMap fun inode => dump.lines inode).flatMap (· ++ ['\n'])

theorem answers_answer (dump : InodeDump) : Answers (answer dump) (fun _ => dump) {12} := by
  rw [Answers, sorted, Finset.sort_singleton]
  rfl

theorem printed_regular {items : List ExtentItem} (readable : ∀ item ∈ items, item.Readable) :
    (regular items).Printed 12 where
  inode :=
    Nat.lt_of_lt_of_le (by decide : 12 < 10 ^ 2) (Nat.pow_le_pow_right (by decide) (by decide))
  type := by
    change Unbroken "regular".toList
    decide
  note := by
    change Unbroken "    Mode:  0644".toList
    decide
  further := List.forall_mem_singleton.mpr ⟨by decide, by decide, by decide⟩
  items := readable

theorem readable_leaf {leaf : Leaf} (logical : leaf.logical + leaf.more < 10)
    (physical : leaf.physical + leaf.more < 10) : (ExtentItem.leaf leaf).Readable :=
  ⟨Nat.lt_of_lt_of_le logical (Nat.le_self_pow (by decide) 10),
    Nat.lt_of_lt_of_le physical (Nat.le_self_pow (by decide) 10)⟩

/-- A file of one extent. -/
def contiguous : List ExtentItem :=
  [.leaf ⟨0, 5, 2⟩]

theorem recoversExtents_contiguous :
    RecoversExtents (answer (regular contiguous)) (fun _ => regular contiguous) {12} := by
  refine (recoversExtents_iff (fun inode inside => ?_) (answers_answer _)).mpr
    fun _ _ => .inr ⟨_, rfl⟩
  rw [Finset.mem_singleton.mp inside]
  exact printed_regular (List.forall_mem_singleton.mpr (readable_leaf (by decide) (by decide)))

/-- A file of two extents. -/
def fragmented : List ExtentItem :=
  [.leaf ⟨0, 2, 1⟩, .leaf ⟨2, 7, 0⟩]

theorem printed_fragmented : ∀ inode ∈ ({12} : Finset ℤ), (regular fragmented).Printed inode := by
  intro inode inside
  rw [Finset.mem_singleton.mp inside]
  exact printed_regular (List.forall_mem_cons.mpr ⟨readable_leaf (by decide) (by decide),
    List.forall_mem_singleton.mpr (readable_leaf (by decide) (by decide))⟩)

theorem fragmented_lost :
    (∀ inode ∈ ({12} : Finset ℤ), (regular fragmented).Printed inode) ∧
      Answers (answer (regular fragmented)) (fun _ => regular fragmented) {12} ∧
      ¬ RecoversExtents (answer (regular fragmented)) (fun _ => regular fragmented) {12} := by
  refine ⟨printed_fragmented, answers_answer _, ?_⟩
  rintro ⟨stats, loaded, recovered, _⟩
  obtain ⟨_, same, extents⟩ := loadInodeStats_eq printed_fragmented (answers_answer _)
  cases loaded.symm.trans same
  obtain ⟨info, found, all⟩ := recovered 12 (Finset.mem_singleton_self 12)
  have kept := extents 12 (Finset.mem_singleton_self 12)
  rw [extentsAt, found, Option.map_some, all] at kept
  cases kept

end Atlas
end HermOS
