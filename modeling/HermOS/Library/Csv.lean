import HermOS.Library.PythonText
import Mathlib.Data.List.Nodup

/-!
# Comma-separated values

The reader and the writer of the `csv` module in the `excel` dialect.  The reader is a state machine
over the characters of a line, and a record ends with the line that leaves the machine at the start
of a record.  A row which the writer printed is read back as it was, whatever its fields hold and
whichever of the two line terminators ended it.
-/

namespace HermOS
namespace Csv

open Python (Text)

/-! ### Writing -/

def quote : Char :=
  '\x22'

/-- Characters for which a field is put between quotes. -/
def special (c : Char) : Bool :=
  c == ',' || c == quote || c == '\n' || c == '\r'

/-- The characters of a field between quotes, where a quote stands twice. -/
def doubled (field : Text) : Text :=
  field.flatMap fun c => if c = quote then [quote, quote] else [c]

/-- One field under `QUOTE_MINIMAL`. -/
def printField (field : Text) : Text :=
  if field.any special then quote :: (doubled field ++ [quote]) else field

/-- One row.  A row of one empty field is quoted, since it would be read as a blank line. -/
def printRow (terminator : Text) (row : List Text) : Text :=
  (if row = [[]] then [quote, quote] else Python.join ',' (row.map printField)) ++ terminator

/-! ### Reading -/

/-- Where the reader is within a record. -/
inductive Phase
  | startRecord
  | startField
  | inField
  | inQuotedField
  | quoteInQuotedField
  | eatNewline
  deriving DecidableEq

/-- State of the reader. -/
structure Parser where
  phase : Phase := .startRecord
  field : Text := []
  fields : List Text := []

namespace Parser

/-- Close the current field. -/
def saveField (parser : Parser) (next : Phase) : Parser :=
  ⟨next, [], parser.fields ++ [parser.field]⟩

/-- Add a character to the current field. -/
def addChar (parser : Parser) (next : Phase) (c : Char) : Parser :=
  ⟨next, parser.field ++ [c], parser.fields⟩

def beginField (parser : Parser) (c : Char) : Parser :=
  if c = '\n' ∨ c = '\r' then parser.saveField .eatNewline
  else if c = quote then { parser with phase := .inQuotedField }
  else if c = ',' then parser.saveField .startField
  else parser.addChar .inField c

/-- One character of a line; nothing but line ends may follow a line end outside quotes. -/
def step (parser : Parser) (c : Char) : Option Parser :=
  match parser.phase with
  | .startRecord =>
      if c = '\n' ∨ c = '\r' then some { parser with phase := .eatNewline }
      else some (parser.beginField c)
  | .startField => some (parser.beginField c)
  | .inField =>
      if c = '\n' ∨ c = '\r' then some (parser.saveField .eatNewline)
      else if c = ',' then some (parser.saveField .startField)
      else some (parser.addChar .inField c)
  | .inQuotedField =>
      if c = quote then some { parser with phase := .quoteInQuotedField }
      else some (parser.addChar .inQuotedField c)
  | .quoteInQuotedField =>
      if c = quote then some (parser.addChar .inQuotedField c)
      else if c = ',' then some (parser.saveField .startField)
      else if c = '\n' ∨ c = '\r' then some (parser.saveField .eatNewline)
      else some (parser.addChar .inField c)
  | .eatNewline => if c = '\n' ∨ c = '\r' then some parser else none

def endOfLine (parser : Parser) : Parser :=
  match parser.phase with
  | .startRecord | .inQuotedField => parser
  | .startField | .inField | .quoteInQuotedField => parser.saveField .startRecord
  | .eatNewline => { parser with phase := .startRecord }

end Parser

/-- A line of a file opened with `newline=""` ends with this character. -/
def endsLine (c : Char) (rest : Text) : Bool :=
  c == '\n' || (c == '\r' && rest.head? != some '\n') || rest.isEmpty

/-- The records up to the first error, and whether the reader reached the end of the text. -/
def records (parser : Parser) : Text → List (List Text) × Bool
  | [] =>
      (if parser.field ≠ [] ∨ parser.phase = .inQuotedField then
        [parser.fields ++ [parser.field]] else [], true)
  | c :: rest =>
      match parser.step c with
      | none => ([], false)
      | some next =>
          if endsLine c rest then
            if next.endOfLine.phase = .startRecord then
              Prod.map (next.endOfLine.fields :: ·) id (records {} rest)
            else records next.endOfLine rest
          else records next rest

/-! ### A printed row is read back -/

section RoundTrip

variable {phase : Phase} {field text rest terminator : Text} {fields row : List Text} {c : Char}

theorem records_step {parser next : Parser} (moves : parser.step c = some next)
    (inside : endsLine c rest = false) : records parser (c :: rest) = records next rest := by
  simp [records, moves, inside]

/-- The end of a line inside quotes does not end a field. -/
theorem records_quoted {parser next : Parser} (moves : parser.step c = some next)
    (quoted : next.phase = .inQuotedField) :
    records parser (c :: rest) = records next rest := by
  have same : next.endOfLine = next := by simp [Parser.endOfLine, quoted]
  simp [records, moves, same, quoted]

theorem endsLine_of_plain (unended : c ≠ '\n' ∧ c ≠ '\r') (more : rest ≠ []) :
    endsLine c rest = false := by
  simp [endsLine, unended.1, unended.2, more]

theorem quote_plain : quote ≠ '\n' ∧ quote ≠ '\r' := by
  decide

theorem records_doubled (text : Text) (more : rest ≠ []) :
    records ⟨.inQuotedField, field, fields⟩ (doubled text ++ quote :: rest) =
      records ⟨.quoteInQuotedField, field ++ text, fields⟩ rest := by
  induction text generalizing field with
  | nil =>
      rw [List.append_nil]
      exact records_step (by simp [Parser.step]) (endsLine_of_plain quote_plain more)
  | cons c text ih =>
      rw [show field ++ c :: text = (field ++ [c]) ++ text by simp, ← ih]
      by_cases is_quote : c = quote
      · subst is_quote
        change records _ (quote :: quote :: (doubled text ++ quote :: rest)) = _
        have first : Parser.step ⟨.inQuotedField, field, fields⟩ quote =
            some ⟨.quoteInQuotedField, field, fields⟩ := by simp [Parser.step]
        rw [records_step first (endsLine_of_plain quote_plain (by simp))]
        exact records_quoted (by simp [Parser.step, Parser.addChar]) rfl
      · have opened : doubled (c :: text) = c :: doubled text := by simp [doubled, is_quote]
        rw [opened]
        exact records_quoted (by simp [Parser.step, Parser.addChar, is_quote]) rfl

theorem records_plain (plain : ∀ c ∈ text, special c = false) (more : rest ≠ []) :
    records ⟨.inField, field, fields⟩ (text ++ rest) =
      records ⟨.inField, field ++ text, fields⟩ rest := by
  induction text generalizing field with
  | nil => simp
  | cons c text ih =>
      have ordinary := plain c List.mem_cons_self
      simp only [special, Bool.or_eq_false_iff, beq_eq_false_iff_ne] at ordinary
      obtain ⟨⟨⟨no_comma, no_quote⟩, no_feed⟩, no_return⟩ := ordinary
      rw [show field ++ c :: text = (field ++ [c]) ++ text by simp,
        ← ih fun c inside => plain c (List.mem_cons_of_mem _ inside)]
      apply records_step
      · simp [Parser.step, Parser.addChar, no_comma, no_feed, no_return]
      · exact endsLine_of_plain ⟨no_feed, no_return⟩ (by simp [more])

/-- Where the reader is behind a printed field. -/
def afterField (phase : Phase) (field : Text) : Phase :=
  if field.any special then .quoteInQuotedField else if field = [] then phase else .inField

theorem records_printField (opening : phase = .startRecord ∨ phase = .startField)
    (more : rest ≠ []) :
    records ⟨phase, [], fields⟩ (printField field ++ rest) =
      records ⟨afterField phase field, field, fields⟩ rest := by
  by_cases quoted : field.any special = true
  · have opens : records ⟨phase, [], fields⟩ (quote :: (doubled field ++ quote :: rest)) =
        records ⟨.inQuotedField, [], fields⟩ (doubled field ++ quote :: rest) := by
      apply records_quoted _ rfl
      rcases opening with rfl | rfl <;>
        simp [Parser.step, Parser.beginField, quote_plain.1, quote_plain.2]
    rw [printField, if_pos quoted, afterField, if_pos quoted, List.cons_append, List.append_assoc,
      List.cons_append, List.nil_append, opens, records_doubled field more, List.nil_append]
  · have plain : ∀ c ∈ field, special c = false := by simpa using quoted
    cases field with
    | nil => simp [printField, afterField]
    | cons c text =>
        have ordinary := plain c List.mem_cons_self
        simp only [special, Bool.or_eq_false_iff, beq_eq_false_iff_ne] at ordinary
        obtain ⟨⟨⟨no_comma, no_quote⟩, no_feed⟩, no_return⟩ := ordinary
        have begins : records ⟨phase, [], fields⟩ (c :: (text ++ rest)) =
            records ⟨.inField, [c], fields⟩ (text ++ rest) := by
          apply records_step
          · rcases opening with rfl | rfl <;>
              simp [Parser.step, Parser.beginField, Parser.addChar, no_comma, no_quote, no_feed,
                no_return]
          · exact endsLine_of_plain ⟨no_feed, no_return⟩ (by simp [more])
        rw [printField, if_neg quoted, afterField, if_neg quoted, if_neg (by simp),
          List.cons_append, begins]
        exact records_plain (fun c inside => plain c (List.mem_cons_of_mem _ inside)) more

theorem records_comma (between : phase ≠ .inQuotedField ∧ phase ≠ .eatNewline)
    (more : rest ≠ []) :
    records ⟨phase, field, fields⟩ (',' :: rest) =
      records ⟨.startField, [], fields ++ [field]⟩ rest := by
  apply records_step
  · cases phase <;> simp_all [Parser.step, Parser.beginField, Parser.saveField, quote]
  · exact endsLine_of_plain (by decide) more

/-- The two line terminators in use. -/
def Terminator (terminator : Text) : Prop :=
  terminator = ['\n'] ∨ terminator = ['\r', '\n']

theorem records_terminator (ended : Terminator terminator)
    (inside : phase = .startField ∨ phase = .inField ∨ phase = .quoteInQuotedField) :
    records ⟨phase, field, fields⟩ (terminator ++ rest) =
      Prod.map ((fields ++ [field]) :: ·) id (records {} rest) := by
  rcases ended with rfl | rfl <;> rcases inside with rfl | rfl | rfl <;>
    simp [records, Parser.step, Parser.beginField, Parser.saveField, Parser.endOfLine, endsLine,
      quote]

theorem records_fields (some_field : row ≠ [])
    (opening : phase = .startRecord ∧ row ≠ [[]] ∨ phase = .startField)
    (ended : Terminator terminator) :
    records ⟨phase, [], fields⟩ (Python.join ',' (row.map printField) ++ (terminator ++ rest)) =
      Prod.map ((fields ++ row) :: ·) id (records {} rest) := by
  have more : terminator ++ rest ≠ [] := by
    rcases ended with rfl | rfl <;> simp
  induction row generalizing phase fields with
  | nil => exact absurd rfl some_field
  | cons field row ih =>
      have starts : phase = .startRecord ∨ phase = .startField :=
        opening.imp And.left id
      cases row with
      | nil =>
          have single : Python.join ',' ([field].map printField) = printField field := by
            simp [Python.join]
          rw [single, records_printField starts more]
          apply records_terminator ended
          rcases opening with ⟨_, some_char⟩ | rfl
          · have nonempty : field ≠ [] := fun empty => some_char (by rw [empty])
            by_cases quoted : field.any special = true <;> simp [afterField, quoted, nonempty]
          · by_cases quoted : field.any special = true
            · simp [afterField, quoted]
            · by_cases empty : field = [] <;> simp [afterField, quoted, empty]
      | cons next row =>
          have split : Python.join ',' ((field :: next :: row).map printField) ++
              (terminator ++ rest) = printField field ++ (',' ::
                (Python.join ',' ((next :: row).map printField) ++ (terminator ++ rest))) := by
            simp [Python.join, List.intercalate]
          have between : afterField phase field ≠ .inQuotedField ∧
              afterField phase field ≠ .eatNewline := by
            unfold afterField
            rcases starts with rfl | rfl <;> split_ifs <;> simp
          rw [split, records_printField starts (by simp),
            records_comma between (by simp [more]), ih (by simp) (.inr rfl)]
          simp

theorem records_printRow (some_field : row ≠ []) (ended : Terminator terminator) :
    records {} (printRow terminator row ++ rest) = Prod.map (row :: ·) id (records {} rest) := by
  have more : terminator ++ rest ≠ [] := by
    rcases ended with rfl | rfl <;> simp
  by_cases blank : row = [[]]
  · have opens : records {} (quote :: quote :: (terminator ++ rest)) =
        records ⟨.quoteInQuotedField, [], []⟩ (terminator ++ rest) := by
      have first : Parser.step {} quote = some ⟨.inQuotedField, [], []⟩ := by
        simp [Parser.step, Parser.beginField, quote_plain.1, quote_plain.2]
      rw [records_quoted first rfl]
      exact records_doubled [] more
    rw [printRow, if_pos blank, List.append_assoc, List.cons_append, List.cons_append,
      List.nil_append, opens, records_terminator ended (by simp), blank]
    rfl
  · rw [printRow, if_neg blank, List.append_assoc,
      records_fields some_field (.inl ⟨rfl, blank⟩) ended, List.nil_append]

end RoundTrip

/-! ### Tables -/

/-- The text of rows, each printed with one of the two line terminators. -/
inductive Prints : List (List Text) → Text → Prop
  | nil : Prints [] []
  | cons {row : List Text} {rows : List (List Text)} {terminator text : Text} :
      row ≠ [] → Terminator terminator → Prints rows text →
      Prints (row :: rows) (printRow terminator row ++ text)

theorem Prints.append {front back : List (List Text)} {text more : Text} (first : Prints front text)
    (second : Prints back more) : Prints (front ++ back) (text ++ more) := by
  induction first with
  | nil => exact second
  | cons some_field ended _ ih =>
      rw [List.append_assoc]
      exact .cons some_field ended ih

theorem prints_flatMap {terminator : Text} (ended : Terminator terminator)
    {rows : List (List Text)} (some_field : ∀ row ∈ rows, row ≠ []) :
    Prints rows (rows.flatMap (printRow terminator)) := by
  induction rows with
  | nil => exact .nil
  | cons row rows ih =>
      exact .cons (some_field row List.mem_cons_self) ended
        (ih fun other inside => some_field other (List.mem_cons_of_mem _ inside))

theorem Prints.records_eq {rows : List (List Text)} {text : Text} (prints : Prints rows text) :
    records {} text = (rows, true) := by
  induction prints with
  | nil => simp [records]
  | cons some_field ended _ ih => rw [records_printRow some_field ended, ih]; rfl

/-! ### Rows as dictionaries -/

/-- A row of `DictReader`; fields beyond the field names stand under the key `None`. -/
structure DictRow where
  cells : List (Text × Option Text)
  surplus : List Text

namespace DictRow

/-- `row.get(key)`; of two cells with one key the dictionary holds the later. -/
def get (row : DictRow) (key : Text) : Option (Option Text) :=
  (row.cells.filter (·.1 = key)).getLast?.map (·.2)

end DictRow

/-- The dictionary of a row; a missing field is `None`. -/
def dictRow (fieldnames row : List Text) : DictRow where
  cells := fieldnames.zip
    (row.map some ++ List.replicate (fieldnames.length - row.length) none)
  surplus := row.drop fieldnames.length

/-- `fieldnames` and the rows of a `DictReader`, which skips blank lines; `none` is an error. -/
def readDicts (text : Text) : Option (Option (List Text) × List DictRow) :=
  match records {} text with
  | (_, false) => none
  | ([], true) => some (none, [])
  | (fieldnames :: rows, true) =>
      some (some fieldnames, (rows.filter (· ≠ [])).map (dictRow fieldnames))

/-- The row which a `DictWriter` prints for a dictionary; `none` is the `ValueError` for keys which
are no field names. -/
def dictCells (fieldnames : List Text) (row : DictRow) : Option (List Text) :=
  if row.surplus = [] ∧ ∀ cell ∈ row.cells, cell.1 ∈ fieldnames then
    some (fieldnames.map fun key => ((row.get key).getD (some [])).getD [])
  else none

section Dicts

variable {fieldnames row : List Text} {rows : List (List Text)} {text : Text}

theorem get_cons {key name : Text} {value : Option Text} {cells : List (Text × Option Text)}
    (fresh : ∀ cell ∈ cells, cell.1 ≠ name) :
    DictRow.get ⟨(name, value) :: cells, []⟩ key =
      if key = name then some value else DictRow.get ⟨cells, []⟩ key := by
  by_cases same : key = name
  · subst same
    have others : cells.filter (·.1 = key) = [] := by
      rw [List.filter_eq_nil_iff]
      intro cell inside here
      exact fresh cell inside (of_decide_eq_true here)
    simp [DictRow.get, others]
  · have apart : name ≠ key := Ne.symm same
    simp [DictRow.get, apart, same]

theorem zip_fresh {Value : Type} {name : Text} {names : List Text} {values : List Value}
    (fresh : name ∉ names) : ∀ cell ∈ names.zip values, cell.1 ≠ name := by
  intro cell inside same
  exact fresh (same ▸ (List.of_mem_zip inside).1)

theorem get_zip (distinct : fieldnames.Nodup) (values : List (Option Text))
    (width : values.length = fieldnames.length) :
    fieldnames.map (DictRow.get ⟨fieldnames.zip values, []⟩) = values.map some := by
  induction fieldnames generalizing values with
  | nil =>
      have none_left : values = [] := List.length_eq_zero_iff.mp width
      simp [none_left]
  | cons key keys ih =>
      cases values with
      | nil => simp at width
      | cons value values =>
          obtain ⟨fresh, distinct⟩ := List.nodup_cons.mp distinct
          have tail : keys.map (DictRow.get ⟨(key :: keys).zip (value :: values), []⟩) =
              keys.map (DictRow.get ⟨keys.zip values, []⟩) := by
            apply List.map_congr_left
            intro other inside
            have apart : other ≠ key := fun same => fresh (same ▸ inside)
            rw [List.zip_cons_cons, get_cons (zip_fresh fresh), if_neg apart]
          rw [List.map_cons, List.map_cons, tail, ih distinct values (Nat.succ.inj width),
            List.zip_cons_cons, get_cons (zip_fresh fresh), if_pos rfl]

theorem dictRow_of_width (width : row.length = fieldnames.length) :
    dictRow fieldnames row = ⟨fieldnames.zip (row.map some), []⟩ := by
  simp [dictRow, width]

/-- A full row passes through `DictReader` and `DictWriter`. -/
theorem dictCells_dictRow (distinct : fieldnames.Nodup)
    (width : row.length = fieldnames.length) :
    dictCells fieldnames (dictRow fieldnames row) = some row := by
  rw [dictRow_of_width width, dictCells, if_pos]
  · have cells := get_zip distinct (row.map some) (by simpa using width)
    calc
      some (fieldnames.map fun key =>
          ((DictRow.get ⟨fieldnames.zip (row.map some), []⟩ key).getD (some [])).getD []) =
          some ((fieldnames.map (DictRow.get ⟨fieldnames.zip (row.map some), []⟩)).map
            fun value => (value.getD (some [])).getD []) := by rw [List.map_map]; rfl
      _ = some row := by rw [cells, List.map_map, List.map_map]; simp [Function.comp_def]
  · exact ⟨rfl, fun cell inside => (List.of_mem_zip inside).1⟩

/-- The dictionary of a full row has the field under each name. -/
theorem get_dictRow (distinct : fieldnames.Nodup) (width : row.length = fieldnames.length)
    (key : Text) :
    (dictRow fieldnames row).get key = ((fieldnames.zip row).lookup key).map some := by
  rw [dictRow_of_width width]
  induction fieldnames generalizing row with
  | nil => rfl
  | cons name names ih =>
      cases row with
      | nil => simp at width
      | cons field row =>
          obtain ⟨fresh, distinct⟩ := List.nodup_cons.mp distinct
          rw [List.map_cons, List.zip_cons_cons, get_cons (zip_fresh fresh),
            ih distinct (Nat.succ.inj width), List.zip_cons_cons, List.lookup_cons]
          by_cases same : key = name
          · simp [same]
          · rw [if_neg same, beq_eq_false_iff_ne.mpr same]

end Dicts

/-! ### Tables of full rows -/

/-- Distinct field names, and rows with one field for each. -/
@[ext] structure Table where
  names : List Text
  rows : List (List Text)
  distinct : names.Nodup
  full : ∀ row ∈ rows, row ≠ [] ∧ row.length = names.length

namespace Table

variable {table : Table} {text terminator : Text}

/-- The `csv` module reads the table, where blank lines are no rows. -/
def ReadFrom (table : Table) (text : Text) : Prop :=
  ∃ lines, records {} text = (table.names :: lines, true) ∧ lines.filter (· ≠ []) = table.rows

/-- The header and the rows. -/
def print (terminator : Text) (table : Table) : Text :=
  printRow terminator table.names ++ table.rows.flatMap (printRow terminator)

/-- The field of a row under a name, empty where the table has no such name. -/
def cell (table : Table) (key : Text) (row : List Text) : Text :=
  ((table.names.zip row).lookup key).getD []

/-- The table of some of the rows. -/
def filter (table : Table) (keep : List Text → Bool) : Table where
  names := table.names
  rows := table.rows.filter keep
  distinct := table.distinct
  full row inside := table.full row (List.mem_of_mem_filter inside)

theorem filter_self {keep : List Text → Bool} (all : ∀ row ∈ table.rows, keep row = true) :
    table.filter keep = table :=
  Table.ext rfl (List.filter_eq_self.mpr all)

theorem ReadFrom.readDicts_eq (read : table.ReadFrom text) :
    readDicts text = some (some table.names, table.rows.map (dictRow table.names)) := by
  obtain ⟨lines, whole, rows⟩ := read
  rw [readDicts, whole]
  simp only [rows]

theorem dictCells_rows (table : Table) :
    (table.rows.map (dictRow table.names)).mapM (dictCells table.names) = some table.rows := by
  obtain ⟨names, rows, distinct, full⟩ := table
  induction rows with
  | nil => rfl
  | cons row rows ih =>
      rw [List.map_cons, List.mapM_cons,
        dictCells_dictRow distinct (full row List.mem_cons_self).2,
        ih fun other inside => full other (List.mem_cons_of_mem _ inside)]
      rfl

theorem readFrom_print (some_name : table.names ≠ []) (ended : Terminator terminator) :
    table.ReadFrom (table.print terminator) := by
  have nonempty : ∀ row ∈ table.rows, row ≠ [] := fun row inside => (table.full row inside).1
  have prints : Prints (table.names :: table.rows) (table.print terminator) :=
    .cons some_name ended (prints_flatMap ended nonempty)
  refine ⟨table.rows, prints.records_eq, List.filter_eq_self.mpr fun row inside => ?_⟩
  simpa using nonempty row inside

theorem cell_dictRow {row : List Text} (inside : row ∈ table.rows) (key : Text) :
    ((dictRow table.names row).get key).getD (some []) = some (table.cell key row) := by
  rw [get_dictRow table.distinct (table.full row inside).2, cell]
  cases (table.names.zip row).lookup key <;> rfl

end Table

end Csv
end HermOS
