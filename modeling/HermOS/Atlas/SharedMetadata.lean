import HermOS.Atlas.ExportAtlas
import Mathlib.Tactic.FinCases

/-!
# The metadata which `dumpe2fs` reports

The listing of the block groups as `dumpe2fs` prints it, and the rows which `add_shared_metadata`
makes of it.  A line for a superblock reports the group descriptors as well, and the pattern which
takes it reads the superblock only.
-/

namespace HermOS
namespace Atlas

open Python

/-! ### The listing -/

/-- What a line of a group reports. -/
inductive Report
  | superblock (primary : Bool) (block : ℕ) (descriptors : Option (ℕ × ℕ))
  | reservedGdt (start stop : ℕ) (note : Text)
  | blockBitmap (block : ℕ) (note : Text)
  | inodeBitmap (block : ℕ) (note : Text)
  | inodeTable (start stop : ℕ) (note : Text)
  /-- Something else. -/
  | other (text : Text)

/-- `a-b`. -/
def printedRange (start stop : ℕ) : Text :=
  decimal start ++ '-' :: decimal stop

/-- `Primary superblock` or `Backup superblock`. -/
def superblockLabel (primary : Bool) : Text :=
  if primary then "Primary superblock".toList else "Backup superblock".toList

/-- The descriptor part of a line for a superblock. -/
def descriptorsNote (descriptors : Option (ℕ × ℕ)) : Text :=
  descriptors.elim [] fun range => ", Group descriptors at ".toList ++ printedRange range.1 range.2

/-- The line without its indentation. -/
def Report.text : Report → Text
  | .superblock primary block descriptors =>
      superblockLabel primary ++ (" at ".toList ++ (decimal block ++ descriptorsNote descriptors))
  | .reservedGdt start stop note =>
      "Reserved GDT blocks".toList ++ (" at ".toList ++ (printedRange start stop ++ note))
  | .blockBitmap block note =>
      "Block bitmap".toList ++ (" at ".toList ++ (decimal block ++ note))
  | .inodeBitmap block note =>
      "Inode bitmap".toList ++ (" at ".toList ++ (decimal block ++ note))
  | .inodeTable start stop note =>
      "Inode table".toList ++ (" at ".toList ++ (printedRange start stop ++ note))
  | .other text => text

/-- A reported range; group descriptors are told apart from the other ranges. -/
structure Reported extends Mark where
  descriptors : Bool

/-- The ranges of a line, in its order. -/
def Report.ranges : Report → List Reported
  | .superblock _ block descriptors =>
      ⟨⟨block, block, .superblockOrGdt⟩, false⟩ ::
        (descriptors.map fun range => ⟨⟨range.1, range.2, .superblockOrGdt⟩, true⟩).toList
  | .reservedGdt start stop _ => [⟨⟨start, stop, .superblockOrGdt⟩, false⟩]
  | .blockBitmap block _ => [⟨⟨block, block, .blockBitmap⟩, false⟩]
  | .inodeBitmap block _ => [⟨⟨block, block, .inodeBitmap⟩, false⟩]
  | .inodeTable start stop _ => [⟨⟨start, stop, .inodeTable⟩, false⟩]
  | .other _ => []

structure ReportLine where
  indent : Text
  report : Report

def ReportLine.text (line : ReportLine) : Text :=
  line.indent ++ line.report.text

/-- A block group with the lines which follow its header. -/
structure Group where
  number : ℕ
  start : ℕ
  stop : ℕ
  note : Text
  lines : List ReportLine

def Group.header (group : Group) : Text :=
  "Group ".toList ++ (decimal group.number ++ (": (Blocks ".toList ++ (decimal group.start ++
    ("-".toList ++ (decimal group.stop ++ (")".toList ++ group.note))))))

/-- A listing: what is said of the whole image, then the groups. -/
structure Listing where
  preamble : List Text
  groups : List Group

def Listing.lines (listing : Listing) : List Text :=
  listing.preamble ++
    listing.groups.flatMap fun group => group.header :: group.lines.map ReportLine.text

/-- What `dumpe2fs` prints. -/
def Listing.text (listing : Listing) : Text :=
  listing.lines.flatMap (· ++ ['\n'])

def Listing.reports (listing : Listing) : List Report :=
  listing.groups.flatMap fun group => group.lines.map (·.report)

def Listing.ranges (listing : Listing) : List Reported :=
  listing.reports.flatMap Report.ranges

/-- `int` reads the number back. -/
def Readable (n : ℕ) : Prop :=
  n < 10 ^ maxStrDigits

/-- What may follow a number in its line. -/
structure Note (note : Text) : Prop where
  unbroken : Unbroken note
  apart : ∀ c ∈ note.head?, isDecimal c = false

instance (note : Text) : Decidable (Note note) :=
  decidable_of_iff (Unbroken note ∧ note.head?.all (isDecimal · = false) = true) <| by
    constructor
    · rintro ⟨unbroken, apart⟩
      exact ⟨unbroken, fun c first => by simpa [Option.mem_def.mp first] using apart⟩
    · rintro ⟨unbroken, apart⟩
      refine ⟨unbroken, ?_⟩
      cases first : note.head? with
      | none => rfl
      | some c => simpa using apart c first

/-- The labels of lines which report ranges. -/
def labels : List Text :=
  ["Primary superblock", "Backup superblock", "Group descriptors", "Reserved GDT blocks",
    "Inode table", "Block bitmap", "Inode bitmap"].map String.toList

/-- A line which reports no range. -/
structure Unlabelled (text : Text) : Prop where
  unbroken : Unbroken text
  apart : ∀ label ∈ labels, ¬ label <+: strip text

/-- The line is of its form. -/
def Report.Printed : Report → Prop
  | .superblock _ block descriptors =>
      Readable block ∧ ∀ range ∈ descriptors, Readable range.1 ∧ Readable range.2
  | .reservedGdt start stop note | .inodeTable start stop note =>
      Readable start ∧ Readable stop ∧ Note note
  | .blockBitmap block note | .inodeBitmap block note => Readable block ∧ Note note
  | .other text => Unlabelled text

structure ReportLine.Printed (line : ReportLine) : Prop where
  indented : line.indent ≠ []
  blank : ∀ c ∈ line.indent, c = ' ' ∨ c = '\t'
  report : line.report.Printed

structure Group.Printed (group : Group) : Prop where
  note : Unbroken group.note
  lines : ∀ line ∈ group.lines, line.Printed

/-- The listing is of the form which `dumpe2fs` prints. -/
structure Listing.Printed (listing : Listing) : Prop where
  preamble : ∀ text ∈ listing.preamble, Unlabelled text
  groups : ∀ group ∈ listing.groups, group.Printed

/-- The range has the block. -/
def Mark.covers (mark : Mark) (block : ℤ) : Bool :=
  mark.start ≤ block && block ≤ mark.stop

/-- Every reported block has a row of its first reported range, and no other block has one. -/
def MarksListing (driveId : Text) (listing : Listing) : Prop :=
  ∃ rows, addSharedMetadata listing.text driveId ∅ = .ok rows ∧
    ∀ block, rows.lookup block = (listing.ranges.find? (·.covers block)).map fun range =>
      metadataRow driveId range.blockClass block

/-- A block which is first reported as a group descriptor is also reported otherwise, first as a
superblock or a reserved GDT block. -/
def Listing.DescriptorsReported (listing : Listing) : Prop :=
  ∀ block range, listing.ranges.find? (·.covers block) = some range → range.descriptors = true →
    ∃ other, (listing.ranges.filter (!·.descriptors)).find? (·.covers block) = some other ∧
      other.blockClass = .superblockOrGdt

/-! ### Marking -/

theorem mem_iterRange {start stop block : ℤ} :
    block ∈ iterRange start stop ↔ start ≤ block ∧ block ≤ stop := by
  rw [iterRange, Int.mem_range_iff, Int.lt_add_one_iff]

theorem lookup_markRange (rows : RowsByBlock) (driveId : Text) (start stop : ℤ)
    (blockClass : BlockClass) (block : ℤ) :
    (markRange rows driveId start stop blockClass).lookup block = (rows.lookup block).or
      (if block ∈ iterRange start stop then some (metadataRow driveId blockClass block)
        else none) := by
  unfold markRange
  induction iterRange start stop generalizing rows with
  | nil => simp
  | cons first blocks ih =>
      rw [List.foldl_cons, ih]
      by_cases known : first ∈ rows
      · rw [if_pos known]
        obtain ⟨row, found⟩ := Option.isSome_iff_exists.mp (AList.lookup_isSome.mpr known)
        rcases eq_or_ne block first with rfl | other
        · simp [found]
        · simp [other]
      · rw [if_neg known]
        have fresh : rows.lookup first = none := AList.lookup_eq_none.mpr known
        rcases eq_or_ne block first with rfl | other
        · simp [fresh]
        · simp [AList.lookup_insert_ne other, other]

def markAll (driveId : Text) (rows : RowsByBlock) (marks : List Mark) : RowsByBlock :=
  marks.foldl (fun rows mark => markRange rows driveId mark.start mark.stop mark.blockClass) rows

/-- The first range which has a block decides. -/
theorem lookup_markAll (driveId : Text) (rows : RowsByBlock) (marks : List Mark) (block : ℤ) :
    (markAll driveId rows marks).lookup block = (rows.lookup block).or
      ((marks.find? (·.covers block)).map
        fun mark => metadataRow driveId mark.blockClass block) := by
  unfold markAll
  induction marks generalizing rows with
  | nil => simp
  | cons mark marks ih =>
      rw [List.foldl_cons, ih, lookup_markRange, Option.or_assoc, List.find?_cons]
      congr 1
      by_cases covered : mark.covers block = true
      · have inside : block ∈ iterRange mark.start mark.stop := by
          simpa [mem_iterRange, Mark.covers] using covered
        rw [covered, if_pos inside]
        rfl
      · have outside : block ∉ iterRange mark.start mark.stop := by
          simpa [mem_iterRange, Mark.covers] using covered
        rw [if_neg outside, Bool.eq_false_iff.mpr covered, Option.none_or]

/-! ### Reading a line -/

/-- The range which is read in a line. -/
def Report.mark : Report → Option Mark
  | .superblock _ block _ => some ⟨block, block, .superblockOrGdt⟩
  | .reservedGdt start stop _ => some ⟨start, stop, .superblockOrGdt⟩
  | .blockBitmap block _ => some ⟨block, block, .blockBitmap⟩
  | .inodeBitmap block _ => some ⟨block, block, .inodeBitmap⟩
  | .inodeTable start stop _ => some ⟨start, stop, .inodeTable⟩
  | .other _ => none

/-- The digits of a block number, up to what follows. -/
structure Number (digits rest : Text) (block : ℤ) : Prop where
  nonempty : digits ≠ []
  decimal : ∀ c ∈ digits, isDecimal c = true
  stops : ∀ c ∈ rest.head?, isDecimal c = false
  value : int digits = some block

theorem number_decimal {n : ℕ} {rest : Text} (readable : Readable n)
    (stops : ∀ c ∈ rest.head?, isDecimal c = false) : Number (decimal n) rest n where
  nonempty := Nat.toDigits_ne_nil
  decimal c inside := isDecimal_digit (isDigit_decimal c inside)
  stops := stops
  value := int_decimal readable

theorem Number.matchPieces {digits rest : Text} {block : ℤ} {pieces : List Piece}
    (number : Number digits rest block) :
    matchPieces (.many isDecimal :: pieces) (digits ++ rest) =
      (Python.matchPieces pieces rest).map (prepend digits) :=
  matchPieces_many number.nonempty number.decimal number.stops

theorem Number.groupInt {digits rest : Text} {block : ℤ} (number : Number digits rest block) :
    groupInt digits = .ok block := by
  rw [Atlas.groupInt, number.value]

/-- A number at the end of a line stays. -/
theorem rstrip_decimal (front : Text) (n : ℕ) (note : Text) :
    rstrip (front ++ (decimal n ++ note)) = front ++ (decimal n ++ rstrip note) := by
  obtain ⟨c, last, digit⟩ := getLast?_decimal n
  have ends : (front ++ decimal n).getLast? = some c := by
    rw [List.getLast?_append, last]
    rfl
  rw [← List.append_assoc, rstrip_append ends (isSpace_isDigit digit), List.append_assoc]

theorem rstrip_single (indent label : Text) (block : ℕ) (note : Text) :
    rstrip (indent ++ (label ++ (" at ".toList ++ (decimal block ++ note)))) =
      indent ++ (label ++ (" at ".toList ++ (decimal block ++ rstrip note))) := by
  have kept := rstrip_decimal (indent ++ (label ++ " at ".toList)) block note
  simpa only [List.append_assoc] using kept

theorem rstrip_range (indent label : Text) (start stop : ℕ) (note : Text) :
    rstrip (indent ++ (label ++ (" at ".toList ++ (printedRange start stop ++ note)))) =
      indent ++ (label ++ (" at ".toList ++ (printedRange start stop ++ rstrip note))) := by
  have kept :=
    rstrip_decimal (indent ++ (label ++ (" at ".toList ++ (decimal start ++ ['-'])))) stop
    note
  simpa only [printedRange, List.append_assoc, List.cons_append, List.nil_append] using kept

theorem Note.rstrip {note : Text} (follows : Note note) :
    ∀ c ∈ (rstrip note).head?, isDecimal c = false := by
  intro c first
  obtain ⟨rest, whole⟩ := rstrip_prefix note
  refine follows.apart c ?_
  rw [← whole]
  cases same : Python.rstrip note with
  | nil => simp [same] at first
  | cons d text => simpa [same] using first

section Line

variable {indent back : Text} {pieces : List Piece}

/-- Indentation, in front of something else. -/
structure Indents (indent back : Text) : Prop where
  indented : indent ≠ []
  blank : ∀ c ∈ indent, isSpace c = true
  solid : ∀ c ∈ back.head?, isSpace c = false

theorem Indents.matchPieces (indents : Indents indent back) :
    matchPieces (.many isSpace :: pieces) (indent ++ back) =
      (Python.matchPieces pieces back).map (prepend indent) :=
  matchPieces_many indents.indented indents.blank indents.solid

theorem indents_label {label : Text} (indented : indent ≠ [])
    (blank : ∀ c ∈ indent, isSpace c = true) (listed : label ∈ labels) (rest : Text) :
    Indents indent (label ++ rest) where
  indented := indented
  blank := blank
  solid c first := by
    fin_cases listed <;>
    · obtain rfl := Option.some.inj first
      decide

/-- No group header is indented. -/
theorem Indents.groupRe (indents : Indents indent back) :
    Python.matchPieces groupRe (indent ++ back) = none := by
  refine matchPieces_oneOf_none fun word listed starts => ?_
  obtain rfl := List.mem_singleton.mp listed
  cases indent with
  | nil => exact absurd rfl indents.indented
  | cons c indent =>
      have first : 'G' = c := (List.cons_prefix_cons.mp starts).1
      have space := indents.blank c List.mem_cons_self
      rw [← first] at space
      cases space

theorem matchPieces_at {digits note : Text} {block : ℤ} (number : Number digits note block) :
    matchPieces [.word " at ", .many isDecimal] (" at ".toList ++ (digits ++ note)) =
      some ([" at ".toList, digits], note) := by
  rw [matchPieces_word, number.matchPieces]
  rfl

theorem matchPieces_atRange {first last note : Text} {start stop : ℤ}
    (from_start : Number first ("-".toList ++ (last ++ note)) start)
    (to_stop : Number last note stop) :
    matchPieces [.word " at ", .many isDecimal, .word "-", .many isDecimal]
        (" at ".toList ++ (first ++ ("-".toList ++ (last ++ note)))) =
      some ([" at ".toList, first, "-".toList, last], note) := by
  rw [matchPieces_word, from_start.matchPieces, matchPieces_word, to_stop.matchPieces]
  rfl

theorem printedRange_append (start stop : ℕ) (note : Text) : printedRange start stop ++ note =
    decimal start ++ ("-".toList ++ (decimal stop ++ note)) := by
  rw [printedRange, List.append_assoc]
  rfl

theorem number_before_dash {start : ℕ} (readable : Readable start) (rest : Text) :
    Number (decimal start) ("-".toList ++ rest) start := by
  refine number_decimal readable fun c first => ?_
  obtain rfl : '-' = c := Option.some.inj first
  decide

/-- Of two words neither of which begins the other, a text begins with one at most. -/
theorem not_prefix_label {word label rest : Text} (shorter : startsWith word label = false)
    (longer : startsWith label word = false) : ¬ word <+: label ++ rest := by
  intro starts
  rcases List.prefix_or_prefix_of_prefix starts (List.prefix_append label rest) with inside | inside
  · exact Bool.eq_false_iff.mp shorter (startsWith_iff.mpr inside)
  · exact Bool.eq_false_iff.mp longer (startsWith_iff.mpr inside)

/-- No pattern for a label takes an indented line with another label. -/
theorem Indents.other_label {words : List Text} {label rest : Text}
    (indents : Indents indent (label ++ rest))
    (shorter : words.all (fun word => !startsWith word label) = true)
    (longer : words.all (fun word => !startsWith label word) = true) :
    Python.matchPieces (.many isSpace :: .oneOf words :: pieces) (indent ++ (label ++ rest)) =
      none := by
  rw [indents.matchPieces, matchPieces_oneOf_none fun word listed => not_prefix_label
    (by simpa using List.all_eq_true.mp shorter word listed)
    (by simpa using List.all_eq_true.mp longer word listed)]
  rfl

section Labels

variable {label digits first last note : Text} {block start stop : ℤ}

theorem metadataMark_superblock
    (listed : label ∈ ["Primary superblock".toList, "Backup superblock".toList])
    (indents : Indents indent (label ++ (" at ".toList ++ (digits ++ note))))
    (number : Number digits note block) :
    metadataMark (indent ++ (label ++ (" at ".toList ++ (digits ++ note)))) =
      .ok (some ⟨block, block, .superblockOrGdt⟩) := by
  have found : ["Primary superblock".toList, "Backup superblock".toList].find?
      (startsWith · (label ++ (" at ".toList ++ (digits ++ note)))) = some label := by
    fin_cases listed <;> rfl
  rw [metadataMark, indents.groupRe, singleRe, indents.matchPieces, matchPieces_oneOf found,
    matchPieces_at number]
  simp only [Option.map_some, prepend, number.groupInt]
  rfl

theorem metadataMark_range
    (listed : label ∈ ["Group descriptors".toList, "Reserved GDT blocks".toList,
      "Inode table".toList])
    (indents :
      Indents indent (label ++ (" at ".toList ++ (first ++ ("-".toList ++ (last ++ note))))))
    (from_start : Number first ("-".toList ++ (last ++ note)) start)
    (to_stop : Number last note stop) :
    metadataMark
        (indent ++ (label ++ (" at ".toList ++ (first ++ ("-".toList ++ (last ++ note)))))) =
      .ok (some ⟨start, stop,
        if label ≠ "Inode table".toList then .superblockOrGdt else .inodeTable⟩) := by
  have single : Python.matchPieces singleRe (indent ++
      (label ++ (" at ".toList ++ (first ++ ("-".toList ++ (last ++ note)))))) = none := by
    refine indents.other_label ?_ ?_ <;> fin_cases listed <;> rfl
  have found : ["Group descriptors".toList, "Reserved GDT blocks".toList,
      "Inode table".toList].find? (startsWith ·
        (label ++ (" at ".toList ++ (first ++ ("-".toList ++ (last ++ note)))))) = some label := by
    fin_cases listed <;> rfl
  rw [metadataMark, indents.groupRe, single, rangeRe, indents.matchPieces, matchPieces_oneOf found,
    matchPieces_atRange from_start to_stop]
  simp only [Option.map_some, prepend, from_start.groupInt, to_stop.groupInt]
  rfl

theorem metadataMark_item (listed : label ∈ ["Block bitmap".toList, "Inode bitmap".toList])
    (indents : Indents indent (label ++ (" at ".toList ++ (digits ++ note))))
    (number : Number digits note block) :
    metadataMark (indent ++ (label ++ (" at ".toList ++ (digits ++ note)))) =
      .ok (some ⟨block, block,
        if label = "Block bitmap".toList then .blockBitmap else .inodeBitmap⟩) := by
  have single : Python.matchPieces singleRe
      (indent ++ (label ++ (" at ".toList ++ (digits ++ note)))) = none := by
    refine indents.other_label ?_ ?_ <;> fin_cases listed <;> rfl
  have range : Python.matchPieces rangeRe
      (indent ++ (label ++ (" at ".toList ++ (digits ++ note)))) = none := by
    refine indents.other_label ?_ ?_ <;> fin_cases listed <;> rfl
  have found : ["Block bitmap".toList, "Inode bitmap".toList].find?
      (startsWith · (label ++ (" at ".toList ++ (digits ++ note)))) = some label := by
    fin_cases listed <;> rfl
  rw [metadataMark, indents.groupRe, single, range, itemRe, indents.matchPieces,
    matchPieces_oneOf found, matchPieces_at number]
  simp only [Option.map_some, prepend, number.groupInt]
  rfl

end Labels

/-- A line which begins with no label is passed over. -/
theorem metadataMark_unlabelled {text : Text} (unlabelled : Unlabelled text) :
    metadataMark (rstrip text) = .ok none := by
  have fails : ∀ {words : List Text} {pieces : List Piece}, words ⊆ labels →
      Python.matchPieces (.many isSpace :: .oneOf words :: pieces) (rstrip text) = none := by
    intro words pieces known
    refine matchPieces_many_none ?_
    rw [dropWhile_rstrip]
    exact matchPieces_oneOf_none fun word listed => unlabelled.apart word (known listed)
  rw [metadataMark]
  split
  · rfl
  · rw [singleRe, fails (by decide), rangeRe, fails (by decide), itemRe, fails (by decide)]

end Line

/-! ### The whole listing -/

theorem unbroken_printedRange (start stop : ℕ) : Unbroken (printedRange start stop) := by
  have dash : Unbroken ['-'] := by decide
  have whole : printedRange start stop = decimal start ++ (['-'] ++ decimal stop) := rfl
  rw [whole]
  simp only [unbroken_append]
  exact ⟨unbroken_decimal start, dash, unbroken_decimal stop⟩

theorem note_descriptors (descriptors : Option (ℕ × ℕ)) : Note (descriptorsNote descriptors) := by
  cases descriptors with
  | none =>
      rw [descriptorsNote, Option.elim_none]
      exact ⟨by decide, by simp⟩
  | some range =>
      rw [descriptorsNote, Option.elim_some]
      refine ⟨?_, fun c first => ?_⟩
      · rw [unbroken_append]
        exact ⟨by decide, unbroken_printedRange range.1 range.2⟩
      · obtain rfl : ',' = c := Option.some.inj first
        decide

theorem superblockLabel_listed (primary : Bool) :
    superblockLabel primary ∈ ["Primary superblock".toList, "Backup superblock".toList] := by
  cases primary with
  | true => exact List.mem_cons_self
  | false => exact List.mem_cons_of_mem _ (List.mem_singleton_self _)

theorem superblock_labels :
    ["Primary superblock".toList, "Backup superblock".toList] ⊆ labels := by
  decide

theorem unbroken_label : ∀ label ∈ labels, Unbroken label := by
  decide

theorem unbroken_single {label note : Text} {block : ℕ} (listed : label ∈ labels)
    (unbroken : Unbroken note) :
    Unbroken (label ++ (" at ".toList ++ (decimal block ++ note))) := by
  simp only [unbroken_append]
  exact ⟨unbroken_label label listed, by decide, unbroken_decimal block, unbroken⟩

theorem unbroken_range {label note : Text} {start stop : ℕ} (listed : label ∈ labels)
    (unbroken : Unbroken note) :
    Unbroken (label ++ (" at ".toList ++ (printedRange start stop ++ note))) := by
  simp only [unbroken_append]
  exact ⟨unbroken_label label listed, by decide, unbroken_printedRange start stop, unbroken⟩

theorem unbroken_report {report : Report} (printed : report.Printed) : Unbroken report.text := by
  cases report with
  | superblock primary block descriptors =>
      exact unbroken_single (superblock_labels (superblockLabel_listed primary))
        (note_descriptors descriptors).unbroken
  | reservedGdt start stop note => exact unbroken_range (by decide) printed.2.2.unbroken
  | blockBitmap block note => exact unbroken_single (by decide) printed.2.unbroken
  | inodeBitmap block note => exact unbroken_single (by decide) printed.2.unbroken
  | inodeTable start stop note => exact unbroken_range (by decide) printed.2.2.unbroken
  | other text => exact Unlabelled.unbroken printed

namespace ReportLine.Printed

variable {line : ReportLine}

theorem unbroken (printed : line.Printed) : Unbroken line.text := by
  rw [ReportLine.text, unbroken_append]
  refine ⟨fun c inside => ?_, unbroken_report printed.report⟩
  rcases printed.blank c inside with rfl | rfl <;> decide

theorem indents (printed : line.Printed) {label rest : Text} (listed : label ∈ labels) :
    Indents line.indent (label ++ rest) := by
  refine indents_label printed.indented (fun c inside => ?_) listed rest
  rcases printed.blank c inside with rfl | rfl <;> decide

/-- The range which is read in a line is the one which its text begins with. -/
theorem metadataMark (printed : line.Printed) :
    Atlas.metadataMark (rstrip line.text) = .ok line.report.mark := by
  obtain ⟨indent, report⟩ := line
  cases report with
  | superblock primary block descriptors =>
      have listed := superblockLabel_listed primary
      have whole : ReportLine.text ⟨indent, .superblock primary block descriptors⟩ = indent ++
          (superblockLabel primary ++
            (" at ".toList ++ (decimal block ++ descriptorsNote descriptors))) := rfl
      rw [whole, rstrip_single]
      exact metadataMark_superblock listed (printed.indents (superblock_labels listed))
        (number_decimal printed.report.1 (note_descriptors descriptors).rstrip)
  | reservedGdt start stop note =>
      have whole : ReportLine.text ⟨indent, .reservedGdt start stop note⟩ =
          indent ++ ("Reserved GDT blocks".toList ++
            (" at ".toList ++ (printedRange start stop ++ note))) := rfl
      rw [whole, rstrip_range, printedRange_append]
      exact metadataMark_range (by decide) (printed.indents (by decide))
        (number_before_dash printed.report.1 _)
        (number_decimal printed.report.2.1 printed.report.2.2.rstrip)
  | blockBitmap block note =>
      have whole : ReportLine.text ⟨indent, .blockBitmap block note⟩ =
          indent ++ ("Block bitmap".toList ++ (" at ".toList ++ (decimal block ++ note))) := rfl
      rw [whole, rstrip_single]
      exact metadataMark_item (by decide) (printed.indents (by decide))
        (number_decimal printed.report.1 printed.report.2.rstrip)
  | inodeBitmap block note =>
      have whole : ReportLine.text ⟨indent, .inodeBitmap block note⟩ =
          indent ++ ("Inode bitmap".toList ++ (" at ".toList ++ (decimal block ++ note))) := rfl
      rw [whole, rstrip_single]
      exact metadataMark_item (by decide) (printed.indents (by decide))
        (number_decimal printed.report.1 printed.report.2.rstrip)
  | inodeTable start stop note =>
      have whole : ReportLine.text ⟨indent, .inodeTable start stop note⟩ =
          indent ++ ("Inode table".toList ++
            (" at ".toList ++ (printedRange start stop ++ note))) := rfl
      rw [whole, rstrip_range, printedRange_append]
      exact metadataMark_range (by decide) (printed.indents (by decide))
        (number_before_dash printed.report.1 _)
        (number_decimal printed.report.2.1 printed.report.2.2.rstrip)
  | other text =>
      refine metadataMark_unlabelled ⟨printed.unbroken, ?_⟩
      have blank : ∀ c ∈ indent, isSpace c = true := by
        intro c inside
        rcases printed.blank c inside with rfl | rfl <;> decide
      have same : strip (indent ++ text) = strip text := by
        rw [strip, trim, List.dropWhile_append_of_pos blank]
        rfl
      change ∀ label ∈ labels, ¬ label <+: strip (indent ++ text)
      rw [same]
      exact Unlabelled.apart printed.report

end ReportLine.Printed

/-- A header reports no range. -/
theorem metadataMark_header (group : Group) : metadataMark (rstrip group.header) = .ok none := by
  have kept : rstrip group.header = "Group ".toList ++ (decimal group.number ++
      (": (Blocks ".toList ++ (decimal group.start ++ ("-".toList ++ (decimal group.stop ++
        (")".toList ++ rstrip group.note)))))) := by
    have ends := rstrip_decimal ("Group ".toList ++ (decimal group.number ++ (": (Blocks ".toList ++
      (decimal group.start ++ "-".toList)))) group.stop (")".toList ++ group.note)
    have bracket : rstrip (")".toList ++ group.note) = ")".toList ++ rstrip group.note :=
      rstrip_append rfl (by decide)
    rw [bracket] at ends
    -- the equation lemma of `header` would evaluate its texts
    delta Group.header
    simpa only [List.append_assoc] using ends
  have stops : ∀ (word : String) {c : Char} {rest : Text}, word.toList.head? = some c →
      isDecimal c = false → ∀ d ∈ (word.toList ++ rest).head?, isDecimal d = false := by
    intro word c rest first apart d inside
    rw [List.head?_append, first] at inside
    obtain rfl := Option.some.inj inside
    exact apart
  rw [metadataMark, kept, groupRe, matchPieces_word,
    matchPieces_decimal _ (stops ": (Blocks " rfl (by decide)), matchPieces_word,
    matchPieces_decimal _ (stops "-" rfl (by decide)), matchPieces_word,
    matchPieces_decimal _ (stops ")" rfl (by decide)), matchPieces_word]
  rfl

theorem unbroken_header {group : Group} (printed : group.Printed) : Unbroken group.header := by
  delta Group.header
  simp only [unbroken_append]
  exact ⟨by decide, unbroken_decimal _, by decide, unbroken_decimal _, by decide,
    unbroken_decimal _, by decide, printed.note⟩

/-- The ranges which are read in the listing. -/
def Listing.marks (listing : Listing) : List Mark :=
  listing.reports.filterMap Report.mark

/-- The range which is read in a line of text. -/
def lineMark (line : Text) : Option Mark :=
  match metadataMark (rstrip line) with
  | .ok mark => mark
  | .error _ => none

theorem lineMark_eq {line : Text} {mark : Option Mark}
    (read : metadataMark (rstrip line) = .ok mark) : lineMark line = mark := by
  rw [lineMark, read]

theorem foldlM_addMetadataLine (driveId : Text) {lines : List Text}
    (readable : ∀ line ∈ lines, ∃ mark, metadataMark (rstrip line) = .ok mark)
    (rows : RowsByBlock) :
    lines.foldlM (addMetadataLine driveId) rows =
      .ok (markAll driveId rows (lines.filterMap lineMark)) := by
  induction lines generalizing rows with
  | nil => rfl
  | cons line lines ih =>
      obtain ⟨mark, read⟩ := readable line List.mem_cons_self
      have later := ih fun line inside => readable line (List.mem_cons_of_mem _ inside)
      rw [List.foldlM_cons, addMetadataLine, read, List.filterMap_cons, lineMark_eq read]
      cases mark with
      | none => exact later rows
      | some mark => exact later _

namespace Listing.Printed

variable {listing : Listing}

theorem lineMark_lines (printed : listing.Printed) :
    listing.lines.filterMap lineMark = listing.marks := by
  have preamble : listing.preamble.filterMap lineMark = [] :=
    List.filterMap_eq_nil_iff.mpr fun text inside =>
      lineMark_eq (metadataMark_unlabelled (printed.preamble text inside))
  have groups : ∀ group ∈ listing.groups,
      (group.header :: group.lines.map ReportLine.text).filterMap lineMark =
        (group.lines.map (·.report)).filterMap Report.mark := by
    intro group inside
    rw [List.filterMap_cons, lineMark_eq (metadataMark_header group), List.filterMap_map,
      List.filterMap_map]
    exact List.filterMap_congr fun line member =>
      lineMark_eq ((printed.groups group inside).lines line member).metadataMark
  rw [Listing.lines, List.filterMap_append, preamble, List.nil_append, List.filterMap_flatMap,
    Listing.marks, Listing.reports, List.filterMap_flatMap]
  exact List.flatMap_congr groups

theorem unbroken_lines (printed : listing.Printed) : ∀ line ∈ listing.lines, Unbroken line := by
  refine List.forall_mem_append.mpr ⟨fun text inside => (printed.preamble text inside).unbroken, ?_⟩
  refine List.forall_mem_flatMap.mpr fun group inside => ?_
  refine List.forall_mem_cons.mpr ⟨unbroken_header (printed.groups group inside), ?_⟩
  exact List.forall_mem_map.mpr fun line member =>
    ((printed.groups group inside).lines line member).unbroken

theorem readable_lines (printed : listing.Printed) :
    ∀ line ∈ listing.lines, ∃ mark, Atlas.metadataMark (rstrip line) = .ok mark := by
  refine List.forall_mem_append.mpr
    ⟨fun text inside => ⟨_, metadataMark_unlabelled (printed.preamble text inside)⟩, ?_⟩
  refine List.forall_mem_flatMap.mpr fun group inside => ?_
  refine List.forall_mem_cons.mpr ⟨⟨_, metadataMark_header group⟩, ?_⟩
  exact List.forall_mem_map.mpr fun line member =>
    ⟨_, ((printed.groups group inside).lines line member).metadataMark⟩

/-- One range is marked for each line which reports some. -/
theorem addSharedMetadata_eq (printed : listing.Printed) (driveId : Text) (rows : RowsByBlock) :
    addSharedMetadata listing.text driveId rows = .ok (markAll driveId rows listing.marks) := by
  rw [addSharedMetadata, Listing.text, splitLines_unlines printed.unbroken_lines,
    foldlM_addMetadataLine driveId printed.readable_lines, printed.lineMark_lines]

end Listing.Printed

/-! ### What is marked -/

theorem Report.mark_toList (report : Report) :
    report.mark.toList = (report.ranges.filter (!·.descriptors)).map Reported.toMark := by
  cases report with
  | superblock _ _ descriptors => cases descriptors <;> rfl
  | _ => rfl

theorem Report.descriptors_class {report : Report} {range : Reported}
    (inside : range ∈ report.ranges) (descriptors : range.descriptors = true) :
    range.blockClass = .superblockOrGdt := by
  cases report with
  | superblock _ _ second =>
      rcases List.mem_cons.mp inside with rfl | inside
      · rfl
      · cases second with
        | none => cases inside
        | some ends =>
            obtain rfl := List.mem_singleton.mp inside
            rfl
  | other => cases inside
  | _ =>
      obtain rfl := List.mem_singleton.mp inside
      cases descriptors

theorem find?_filter_some {Item : Type} {items : List Item} {p q : Item → Bool} {item : Item}
    (first : items.find? p = some item) (kept : q item = true) :
    (items.filter q).find? p = some item := by
  obtain ⟨holds, before, after, rfl, fails⟩ := List.find?_eq_some_iff_append.mp first
  rw [List.filter_append, List.filter_cons_of_pos kept]
  refine List.find?_eq_some_iff_append.mpr ⟨holds, _, _, rfl, fun other inside => ?_⟩
  exact fails other (List.mem_of_mem_filter inside)

theorem Listing.marks_eq (listing : Listing) :
    listing.marks = (listing.ranges.filter (!·.descriptors)).map Reported.toMark := by
  have whole : listing.marks = listing.reports.flatMap fun report => report.mark.toList :=
    List.filterMap_eq_flatMap_toList _ _
  rw [whole, Listing.ranges, List.filter_flatMap, List.map_flatMap]
  exact List.flatMap_congr fun report _ => report.mark_toList

/-- A superblock's own line reports its group descriptors too, and these are not marked: what is
marked is right exactly if something else reports the same blocks in the same class. -/
theorem marksListing_iff (driveId : Text) {listing : Listing} (printed : listing.Printed) :
    MarksListing driveId listing ↔ listing.DescriptorsReported := by
  have marked : ∀ block, (markAll driveId ∅ listing.marks).lookup block =
      ((listing.ranges.filter (!·.descriptors)).find? (·.covers block)).map fun range =>
        metadataRow driveId range.blockClass block := by
    intro block
    rw [lookup_markAll, AList.lookup_empty, Option.none_or, listing.marks_eq, List.find?_map,
      Option.map_map]
    rfl
  have decided : MarksListing driveId listing ↔ ∀ block,
      (markAll driveId ∅ listing.marks).lookup block =
        (listing.ranges.find? (·.covers block)).map fun range =>
          metadataRow driveId range.blockClass block := by
    rw [MarksListing, printed.addSharedMetadata_eq]
    constructor
    · rintro ⟨rows, same, agree⟩
      cases same
      exact agree
    · exact fun agree => ⟨_, rfl, agree⟩
  rw [decided]
  constructor
  · intro agree block range first descriptors
    have row := agree block
    rw [marked, first, Option.map_some] at row
    obtain ⟨other, found, same⟩ := Option.map_eq_some_iff.mp row
    obtain ⟨report, _, inside⟩ := List.mem_flatMap.mp (List.mem_of_find?_eq_some first)
    refine ⟨other, found, ?_⟩
    rw [← Report.descriptors_class inside descriptors]
    exact congrArg AtlasRow.blockClass same
  · intro reported block
    rw [marked]
    cases first : listing.ranges.find? (·.covers block) with
    | none =>
        have none : (listing.ranges.filter (!·.descriptors)).find? (·.covers block) = none :=
          List.find?_eq_none.mpr fun range inside =>
            List.find?_eq_none.mp first range (List.mem_of_mem_filter inside)
        rw [none]
    | some range =>
        by_cases descriptors : range.descriptors = true
        · obtain ⟨other, found, same⟩ := reported block range first descriptors
          obtain ⟨report, _, inside⟩ := List.mem_flatMap.mp (List.mem_of_find?_eq_some first)
          rw [found, Option.map_some, Option.map_some, same,
            Report.descriptors_class inside descriptors]
        · rw [find?_filter_some first (by simpa using descriptors)]

def oneGroup : Listing where
  preamble := ["Block size: 4096".toList, []]
  groups := [{
    number := 0
    start := 0
    stop := 9
    note := " csum 0x1".toList
    lines := [
      ⟨"  ".toList, .superblock true 0 (some (1, 1))⟩,
      ⟨"  ".toList, .reservedGdt 2 3 []⟩,
      ⟨"  ".toList, .blockBitmap 4 " (+4)".toList⟩,
      ⟨"  ".toList, .inodeBitmap 5 " (+5)".toList⟩,
      ⟨"  ".toList, .inodeTable 6 7 " (+6)".toList⟩,
      ⟨"  ".toList, .other "2 free blocks".toList⟩] }]

/-- The reserved blocks begin with the block of the group descriptors. -/
def reservedFromOne : Listing where
  preamble := []
  groups := [⟨1, 0, 9, [], [⟨"  ".toList, .superblock true 0 (some (1, 1))⟩,
    ⟨"  ".toList, .reservedGdt 1 3 []⟩, ⟨"  ".toList, .blockBitmap 4 []⟩,
    ⟨"  ".toList, .inodeBitmap 5 []⟩]⟩]

theorem readable_digit : ∀ n < 10, Readable n := fun _ digit =>
  Nat.lt_of_lt_of_le digit (Nat.le_self_pow (by decide) 10)

theorem printed_indented {report : Report} (printed : report.Printed) :
    ReportLine.Printed ⟨"  ".toList, report⟩ where
  indented := by
    change "  ".toList ≠ []
    decide
  blank := by
    change ∀ c ∈ [' ', ' '], c = ' ' ∨ c = '\t'
    simp
  report := printed

theorem printed_oneGroup : oneGroup.Printed where
  preamble := by
    refine List.forall_mem_cons.mpr ⟨⟨by decide, by decide⟩, List.forall_mem_singleton.mpr ?_⟩
    exact ⟨by decide, by decide⟩
  groups := by
    have readable := readable_digit
    refine List.forall_mem_singleton.mpr ⟨by decide, ?_⟩
    simp only [List.forall_mem_cons]
    refine ⟨printed_indented ⟨readable 0 (by decide), ?_⟩,
      printed_indented ⟨readable 2 (by decide), readable 3 (by decide), by decide⟩,
      printed_indented ⟨readable 4 (by decide), by decide⟩,
      printed_indented ⟨readable 5 (by decide), by decide⟩,
      printed_indented ⟨readable 6 (by decide), readable 7 (by decide), by decide⟩,
      printed_indented ⟨by decide, by decide⟩, by simp⟩
    rintro _ ⟨⟩
    exact ⟨readable 1 (by decide), readable 1 (by decide)⟩

theorem printed_reservedFromOne : reservedFromOne.Printed where
  preamble := by simp [reservedFromOne]
  groups := by
    have readable := readable_digit
    refine List.forall_mem_singleton.mpr ⟨by decide, ?_⟩
    simp only [List.forall_mem_cons]
    refine ⟨printed_indented ⟨readable 0 (by decide), ?_⟩,
      printed_indented ⟨readable 1 (by decide), readable 3 (by decide), by decide⟩,
      printed_indented ⟨readable 4 (by decide), by decide⟩,
      printed_indented ⟨readable 5 (by decide), by decide⟩, by simp⟩
    rintro _ ⟨⟩
    exact ⟨readable 1 (by decide), readable 1 (by decide)⟩

/-- The descriptors are marked as what they are reported as once more. -/
theorem marksListing_reservedFromOne : MarksListing "rootfs".toList reservedFromOne := by
  refine (marksListing_iff "rootfs".toList printed_reservedFromOne).mpr ?_
  intro block range first descriptors
  have only : ∀ range ∈ reservedFromOne.ranges, range.descriptors = true →
      range.start = 1 ∧ range.stop = 1 := by decide
  obtain ⟨start, stop⟩ := only range (List.mem_of_find?_eq_some first) descriptors
  have inside := List.find?_some first
  simp only [Mark.covers, start, stop, Bool.and_eq_true, decide_eq_true_eq] at inside
  obtain rfl : block = 1 := by omega
  exact ⟨⟨⟨1, 3, .superblockOrGdt⟩, false⟩, rfl, rfl⟩

theorem descriptors_unmarked : oneGroup.Printed ∧ ¬ MarksListing "rootfs".toList oneGroup := by
  refine ⟨printed_oneGroup, ?_⟩
  rintro ⟨rows, same, agree⟩
  rw [printed_oneGroup.addSharedMetadata_eq] at same
  cases same
  have block := agree 1
  rw [lookup_markAll] at block
  cases block

end Atlas
end HermOS
