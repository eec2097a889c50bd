import HermOS.Library.PythonInt
import Mathlib.Data.List.DropRight
import Mathlib.Data.List.TakeDrop
import Mathlib.Data.List.TakeWhile

/-!
# Python text

Text is a list of characters.  `splitlines` breaks at ten characters besides `"\r\n"`, and reading a
file in text mode turns each line end into `"\n"` first.  Lines without a line separator survive
printing and splitting, and so do fields without the separator of `split`.
-/

namespace HermOS
namespace Python

/-- A string. -/
abbrev Text :=
  List Char

instance lawfulBEqText : LawfulBEq Text :=
  List.instLawfulBEq

/-- Characters at which `str.splitlines` breaks. -/
def isLineSeparator (c : Char) : Bool :=
  let n := c.toNat
  (10 ≤ n && n ≤ 13) || (28 ≤ n && n ≤ 30) || n == 0x85 || n == 0x2028 || n == 0x2029

/-- Line ends as text mode reads them. -/
def universalNewlines : Text → Text
  | '\r' :: '\n' :: rest => '\n' :: universalNewlines rest
  | '\r' :: rest => '\n' :: universalNewlines rest
  | c :: rest => c :: universalNewlines rest
  | [] => []

/-- `splitlines` after the characters of an unfinished line. -/
def splitLinesFrom (line : Text) : Text → List Text
  | [] => if line = [] then [] else [line]
  | '\r' :: '\n' :: rest => line :: splitLinesFrom [] rest
  | c :: rest =>
      if isLineSeparator c then line :: splitLinesFrom [] rest
      else splitLinesFrom (line ++ [c]) rest

/-- `text.splitlines()`. -/
def splitLines (text : Text) : List Text :=
  splitLinesFrom [] text

/-- `text.split(separator)` for a separator of one character. -/
def split (separator : Char) (text : Text) : List Text :=
  text.splitOn separator

/-- `separator.join(pieces)` for a separator of one character. -/
def join (separator : Char) (pieces : List Text) : Text :=
  [separator].intercalate pieces

def strip (text : Text) : Text :=
  trim isSpace text

def rstrip (text : Text) : Text :=
  (text.reverse.dropWhile isSpace).reverse

def str (n : ℤ) : Text :=
  (toString n).toList

def reprByte (quote byte : UInt8) : Text :=
  let c := Char.ofUInt8 byte
  if byte = quote ∨ c = '\\' then ['\\', c]
  else if c = '\t' then "\\t".toList
  else if c = '\n' then "\\n".toList
  else if c = '\r' then "\\r".toList
  else if byte < 32 ∨ 127 ≤ byte then
    "\\x".toList ++ [Nat.digitChar (byte.toNat / 16), Nat.digitChar (byte.toNat % 16)]
  else [c]

/-- `repr(data)` for bytes, in double quotes if the data has apostrophes and no double quotes. -/
def reprBytes (data : List UInt8) : Text :=
  let quote : UInt8 := if 39 ∈ data ∧ 34 ∉ data then 34 else 39
  'b' :: Char.ofUInt8 quote :: (data.flatMap (reprByte quote) ++ [Char.ofUInt8 quote])

def startsWith (start text : Text) : Bool :=
  start.isPrefixOf text

/-- `text.endswith(stop)`. -/
def endsWith (stop text : Text) : Bool :=
  stop.isSuffixOf text

/-- `text.split(separator, 1)`, where `none` is a text without the separator. -/
def splitFirst (separator : Text) : Text → Option (Text × Text)
  | [] => if separator = [] then some ([], []) else none
  | c :: rest =>
      if startsWith separator (c :: rest) then some ([], (c :: rest).drop separator.length)
      else (splitFirst separator rest).map fun (front, back) => (c :: front, back)

/-- `text.split(separator, count)` for a separator of one character. -/
def splitAtMost (separator : Char) : ℕ → Text → List Text
  | 0, text => [text]
  | count + 1, text =>
      match text.span (· ≠ separator) with
      | (front, []) => [front]
      | (front, _ :: back) => front :: splitAtMost separator count back

/-- `text.partition(separator)`, without the separator, for a separator of one character. -/
def partition (separator : Char) (text : Text) : Text × Text :=
  match text.span (· ≠ separator) with
  | (front, []) => (front, [])
  | (front, _ :: back) => (front, back)

/-- The pieces of a text between white space. -/
def words (space : Char → Bool) (text : Text) : List Text :=
  (text.splitOnP space).filter (· ≠ [])

/-- `text.lower()` for text up to U+00FF. -/
def lowerLatin1 (text : Text) : Text :=
  text.map fun c =>
    let n := c.toNat
    if (65 ≤ n ∧ n ≤ 90) ∨ (0xC0 ≤ n ∧ n ≤ 0xDE ∧ n ≠ 0xD7) then Char.ofNat (n + 32) else c

/-- Text as one line. -/
def Unbroken (text : Text) : Prop :=
  ∀ c ∈ text, isLineSeparator c = false

instance (text : Text) : Decidable (Unbroken text) :=
  List.decidableBAll (isLineSeparator · = false) text

theorem universalNewlines_eq {text : Text} (plain : '\r' ∉ text) :
    universalNewlines text = text := by
  induction text with
  | nil => rfl
  | cons c rest ih =>
      rw [List.mem_cons, not_or] at plain
      rw [universalNewlines.eq_def]
      split
      next same => exact absurd (List.cons.inj same).1.symm plain.1
      next same => exact absurd (List.cons.inj same).1.symm plain.1
      next same =>
        cases same
        rw [ih plain.2]
      next same => cases same

theorem universalNewlines_append {front : Text} (free : '\r' ∉ front) (back : Text) :
    universalNewlines (front ++ back) = front ++ universalNewlines back := by
  induction front with
  | nil => rfl
  | cons c front ih =>
      rw [List.mem_cons, not_or] at free
      rw [List.cons_append, List.cons_append, universalNewlines.eq_def]
      split
      next same => exact absurd (List.cons.inj same).1.symm free.1
      next same => exact absurd (List.cons.inj same).1.symm free.1
      next same =>
        obtain ⟨rfl, rfl⟩ := List.cons.inj same
        rw [ih free.2]
      next same => cases same

theorem universalNewlines_crlf (back : Text) :
    universalNewlines ('\r' :: '\n' :: back) = '\n' :: universalNewlines back :=
  universalNewlines.eq_1 back

theorem splitLinesFrom_append (line rest : Text) {text : Text} (unbroken : Unbroken text) :
    splitLinesFrom line (text ++ '\n' :: rest) = (line ++ text) :: splitLinesFrom [] rest := by
  induction text generalizing line with
  | nil =>
      rw [List.nil_append, List.append_nil, splitLinesFrom.eq_def]
      rfl
  | cons c text ih =>
      have whole : isLineSeparator c = false := unbroken c (by simp)
      have later := ih (line ++ [c]) fun d inside => unbroken d (by simp [inside])
      rw [List.cons_append, splitLinesFrom.eq_def]
      split
      next none => cases none
      next same =>
        obtain ⟨rfl, _⟩ := List.cons.inj same
        cases whole
      next same =>
        cases same
        rw [whole, if_neg Bool.false_ne_true, later]
        simp

/-- Unbroken lines are read back from their printed text. -/
theorem splitLines_unlines {lines : List Text} (unbroken : ∀ line ∈ lines, Unbroken line) :
    splitLines (lines.flatMap (· ++ ['\n'])) = lines := by
  unfold splitLines
  induction lines with
  | nil => rfl
  | cons line lines ih =>
      rw [List.flatMap_cons, List.append_assoc, List.singleton_append,
        splitLinesFrom_append [] _ (unbroken line (by simp)),
        ih fun line inside => unbroken line (by simp [inside])]
      rfl

theorem splitLinesFrom_solid (line : Text) {text : Text} (unbroken : Unbroken text) :
    splitLinesFrom line text = if line ++ text = [] then [] else [line ++ text] := by
  induction text generalizing line with
  | nil => rw [List.append_nil, splitLinesFrom]
  | cons c text ih =>
      have whole : isLineSeparator c = false := unbroken c List.mem_cons_self
      have later := ih (line ++ [c]) fun d inside => unbroken d (List.mem_cons_of_mem c inside)
      rw [splitLinesFrom.eq_def]
      split
      next none => cases none
      next same =>
        obtain ⟨rfl, _⟩ := List.cons.inj same
        cases whole
      next same =>
        cases same
        rw [whole, if_neg Bool.false_ne_true, later]
        simp

/-- The last line may lack its line end. -/
theorem splitLines_unlines_append {lines : List Text} {last : Text}
    (unbroken : ∀ line ∈ lines, Unbroken line) (last_unbroken : Unbroken last)
    (visible : last ≠ []) :
    splitLines (lines.flatMap (· ++ ['\n']) ++ last) = lines ++ [last] := by
  unfold splitLines
  induction lines with
  | nil => exact (splitLinesFrom_solid [] last_unbroken).trans (if_neg visible)
  | cons line lines ih =>
      rw [List.flatMap_cons, List.append_assoc, List.append_assoc, List.singleton_append,
        splitLinesFrom_append [] _ (unbroken line List.mem_cons_self),
        ih fun line inside => unbroken line (List.mem_cons_of_mem _ inside)]
      rfl

theorem split_intercalate {separator : Char} {fields : List Text} (some_field : fields ≠ [])
    (free : ∀ field ∈ fields, separator ∉ field) :
    split separator (join separator fields) = fields :=
  List.splitOn_intercalate separator free some_field

theorem unbroken_splitLinesFrom {line text : Text} (unbroken : Unbroken line) :
    ∀ piece ∈ splitLinesFrom line text, Unbroken piece := by
  have empty : Unbroken [] := fun _ inside => by cases inside
  fun_induction splitLinesFrom line text with
  | case1 => simp
  | case2 line =>
      simp only [List.mem_singleton]
      rintro _ rfl
      exact unbroken
  | case3 line rest ih => simpa [unbroken] using ih empty
  | case4 line c rest _ _ ih => simpa [unbroken] using ih empty
  | case5 line c rest _ kept ih =>
      refine ih fun d inside => ?_
      rcases List.mem_append.mp inside with earlier | last
      · exact unbroken d earlier
      · rw [List.mem_singleton] at last
        exact last ▸ Bool.eq_false_iff.mpr kept

theorem unbroken_splitLines (text : Text) : ∀ line ∈ splitLines text, Unbroken line :=
  unbroken_splitLinesFrom fun _ inside => by cases inside

theorem join_concat (separator : Char) (pieces : List Text) (last : Text) :
    join separator (pieces ++ [last]) = pieces.flatMap (· ++ [separator]) ++ last := by
  induction pieces with
  | nil => simp [join]
  | cons piece pieces ih =>
      unfold join at ih ⊢
      rw [List.cons_append, List.intercalate_cons_of_ne_nil (by simp), ih]
      simp

/-! ### Decimal numerals -/

/-- A number as `str` and `format` print it. -/
def decimal (n : ℕ) : Text :=
  Nat.toDigits 10 n

theorem digitValue?_isDigit {c : Char} (digit : c.isDigit = true) :
    digitValue? c = some (c.toNat - 48) := by
  have bounds : 48 ≤ c.toNat ∧ c.toNat ≤ 57 := by
    simpa [Char.isDigit, UInt32.le_iff_toNat_le] using digit
  simp [digitValue?, decimalZeros, bounds]

theorem digitValues?_digits {text : Text} (nonempty : text ≠ [])
    (digits : ∀ c ∈ text, c.isDigit = true) :
    digitValues? text = some (text.map fun c => c.toNat - 48) := by
  induction text with
  | nil => exact absurd rfl nonempty
  | cons c rest ih =>
      have first := digitValue?_isDigit (digits c (by simp))
      cases rest with
      | nil => simp [digitValues?, first]
      | cons d rest =>
          have later := ih (by simp) fun e inside => digits e (by simp [inside])
          rw [digitValues?.eq_def]
          split
          next same => cases same
          next same => cases same
          next same =>
            have separator := digits d (by simp)
            cases same
            cases separator
          next same =>
            cases same
            rw [first, later]
            rfl

theorem trim_eq {space : Char → Bool} {text : Text} (solid : ∀ c ∈ text, space c = false) :
    trim space text = text := by
  have kept : ∀ {text : Text}, (∀ c ∈ text, space c = false) → text.dropWhile space = text := by
    intro text solid
    cases text with
    | nil => rfl
    | cons c rest => rw [List.dropWhile_cons, solid c (by simp), if_neg Bool.false_ne_true]
  rw [trim, kept solid, kept fun c inside => solid c (List.mem_reverse.mp inside),
    List.reverse_reverse]

/-- White space around solid ends is removed. -/
theorem trim_pad {space : Char → Bool} {front text back : Text}
    (front_space : ∀ c ∈ front, space c = true) (back_space : ∀ c ∈ back, space c = true)
    (first : ∀ c ∈ text.head?, space c = false) (last : ∀ c ∈ text.getLast?, space c = false) :
    trim space (front ++ text ++ back) = text := by
  have dropped : ∀ {pad text : Text}, (∀ c ∈ pad, space c = true) →
      (∀ c ∈ text.head?, space c = false) → (pad ++ text).dropWhile space = text := by
    intro pad text pad_space first
    rw [List.dropWhile_append_of_pos pad_space]
    cases text with
    | nil => rfl
    | cons c rest => rw [List.dropWhile_cons, first c rfl, if_neg Bool.false_ne_true]
  cases text with
  | nil =>
      have all_space : ∀ c ∈ front ++ [] ++ back, space c = true := by
        intro c inside
        rcases List.mem_append.mp inside with inside | inside
        · exact front_space c (by simpa using inside)
        · exact back_space c inside
      have gone := @dropped _ [] all_space (by simp)
      rw [List.append_nil] at gone
      rw [trim, gone]
      rfl
  | cons c rest =>
      rw [trim, List.append_assoc, dropped front_space (by simpa using first), List.reverse_append,
        dropped (fun d inside => back_space d (List.mem_reverse.mp inside))
          (by rwa [List.head?_reverse]),
        List.reverse_reverse]

/-- A text between solid ends is kept. -/
theorem strip_eq {text : Text} (first : ∀ c ∈ text.head?, isSpace c = false)
    (last : ∀ c ∈ text.getLast?, isSpace c = false) : strip text = text := by
  have none : ∀ c ∈ ([] : Text), isSpace c = true := fun c inside => by cases inside
  simpa [strip] using trim_pad none none first last

theorem rstrip_append {front back : Text} {last : Char} (ends : front.getLast? = some last)
    (solid : isSpace last = false) : rstrip (front ++ back) = front ++ rstrip back := by
  obtain ⟨front, rfl⟩ := List.getLast?_eq_some_iff.mp ends
  rw [rstrip, List.reverse_append, List.dropWhile_append]
  split
  next blank => simp [rstrip, List.isEmpty_iff.mp blank, solid]
  next => simp [rstrip]

theorem rstrip_prefix (text : Text) : rstrip text <+: text := by
  have suffix := List.reverse_prefix.mpr (List.dropWhile_suffix (l := text.reverse) isSpace)
  rwa [List.reverse_reverse] at suffix

theorem rstrip_cons (c : Char) (text : Text) :
    rstrip (c :: text) = if rstrip text = [] ∧ isSpace c = true then [] else c :: rstrip text := by
  rw [rstrip, List.reverse_cons, List.dropWhile_append]
  split
  next blank =>
    have gone : rstrip text = [] := by simp [rstrip, List.isEmpty_iff.mp blank]
    by_cases space : isSpace c = true
    · simp [gone, space]
    · simp [gone, space]
  next solid =>
    have kept : rstrip text ≠ [] := fun gone => solid (by
      rw [List.isEmpty_iff]
      exact List.reverse_eq_nil_iff.mp gone)
    rw [if_neg fun both => kept both.1]
    simp [rstrip]

/-- `strip` may begin at the end. -/
theorem dropWhile_rstrip (text : Text) : (rstrip text).dropWhile isSpace = strip text := by
  induction text with
  | nil => rfl
  | cons c text ih =>
      by_cases space : isSpace c = true
      · have rest : strip (c :: text) = strip text := by
          rw [strip, trim, List.dropWhile_cons, if_pos space]
          rfl
        rw [rest, ← ih, rstrip_cons]
        split
        next both => rw [both.1]
        next => rw [List.dropWhile_cons, if_pos space]
      · rw [rstrip_cons, if_neg fun both => space both.2, List.dropWhile_cons, if_neg space, strip,
          trim, List.dropWhile_cons, if_neg space]
        change _ = rstrip (c :: text)
        rw [rstrip_cons, if_neg fun both => space both.2]

/-- `strip` keeps a solid first character. -/
theorem strip_cons {c : Char} (solid : isSpace c = false) (text : Text) :
    strip (c :: text) = c :: rstrip text := by
  rw [← dropWhile_rstrip, rstrip_cons, if_neg fun both => Bool.eq_false_iff.mp solid both.2,
    List.dropWhile_cons, if_neg (Bool.eq_false_iff.mp solid)]

theorem rstrip_concat {c : Char} (space : isSpace c = true) (text : Text) :
    rstrip (text ++ [c]) = rstrip text := by
  simp [rstrip, space]

theorem rstrip_rstrip (text : Text) : rstrip (rstrip text) = rstrip text := by
  simp only [rstrip, List.reverse_reverse, List.dropWhile_idempotent]

theorem strip_rstrip (text : Text) : strip (rstrip text) = strip text := by
  rw [← dropWhile_rstrip, rstrip_rstrip, dropWhile_rstrip]

theorem strip_eq_rstrip {text : Text} (first : ∀ c ∈ text.head?, isSpace c = false) :
    strip text = rstrip text := by
  cases text with
  | nil => rfl
  | cons c rest =>
      have solid := first c rfl
      have kept : ¬ (rstrip rest = [] ∧ isSpace c = true) := fun both => by
        rw [solid] at both
        exact Bool.false_ne_true both.2
      rw [strip_cons solid, rstrip_cons, if_neg kept]

theorem rstrip_suffix {front back : Text} (kept : rstrip (front ++ back) = front ++ back) :
    rstrip back = back := by
  rcases List.eq_nil_or_concat back with rfl | ⟨rest, last, rfl⟩
  · rfl
  · rw [List.concat_eq_append] at kept ⊢
    have solid : isSpace last = false := by
      by_contra space
      have shorter := List.IsPrefix.length_le <| rstrip_prefix (front ++ rest)
      rw [← List.append_assoc, rstrip_concat (Bool.not_eq_false _ ▸ space)] at kept
      rw [kept, List.length_append] at shorter
      exact Nat.not_succ_le_self _ shorter
    have ends : (rest ++ [last]).getLast? = some last := by simp
    have whole : rstrip ((rest ++ [last]) ++ []) = (rest ++ [last]) ++ rstrip [] :=
      rstrip_append ends solid
    rwa [List.append_nil, show rstrip [] = [] from rfl, List.append_nil] at whole

theorem strip_strip (text : Text) : strip (strip text) = strip text := by
  have first : ∀ c ∈ (strip text).head?, isSpace c = false := by
    intro c head
    rw [← dropWhile_rstrip] at head
    have stopped := List.head?_dropWhile_not isSpace (rstrip text)
    rw [Option.mem_def.mp head] at stopped
    simpa using stopped
  obtain ⟨front, parts⟩ : strip text <:+ rstrip text := by
    rw [← dropWhile_rstrip]
    exact List.dropWhile_suffix _
  rw [strip_eq_rstrip first]
  exact rstrip_suffix (by rw [parts, rstrip_rstrip])

theorem span_separator {separator : Char} {front back : Text} (free : separator ∉ front) :
    (front ++ separator :: back).span (· ≠ separator) = (front, separator :: back) := by
  rw [List.span_eq_takeWhile_dropWhile]
  have all_other : ∀ c ∈ front, decide (c ≠ separator) = true := by
    intro c inside
    exact decide_eq_true fun same => free (same ▸ inside)
  rw [List.takeWhile_append_of_pos all_other, List.dropWhile_append_of_pos all_other]
  simp

theorem span_solid {separator : Char} {text : Text} (free : separator ∉ text) :
    text.span (· ≠ separator) = (text, []) := by
  have all_other : ∀ c ∈ text, decide (c ≠ separator) = true := by
    intro c inside
    exact decide_eq_true fun same => free (same ▸ inside)
  rw [List.span_eq_takeWhile_dropWhile, List.takeWhile_eq_self_iff.mpr all_other,
    List.dropWhile_eq_nil_iff.mpr all_other]

theorem splitAtMost_cons {separator : Char} {count : ℕ} {front back : Text}
    (free : separator ∉ front) :
    splitAtMost separator (count + 1) (front ++ separator :: back) =
      front :: splitAtMost separator count back := by
  rw [splitAtMost, span_separator free]

theorem splitAtMost_solid {separator : Char} {count : ℕ} {text : Text} (free : separator ∉ text) :
    splitAtMost separator (count + 1) text = [text] := by
  rw [splitAtMost, span_solid free]

theorem words_space {space : Char → Bool} {front rest : Text} {c : Char} (nonempty : front ≠ [])
    (solid : ∀ d ∈ front, space d = false) (blank : space c = true) :
    words space (front ++ c :: rest) = front :: words space rest := by
  rw [words, List.splitOnP_append_cons_of_forall_mem solid c blank,
    List.filter_cons_of_pos (by simpa using nonempty)]
  rfl

theorem words_solid {space : Char → Bool} {text : Text} (nonempty : text ≠ [])
    (solid : ∀ d ∈ text, space d = false) : words space text = [text] := by
  rw [words, List.splitOnP_eq_singleton solid, List.filter_cons_of_pos (by simpa using nonempty)]
  rfl

theorem startsWith_iff {start text : Text} : startsWith start text = true ↔ start <+: text :=
  List.isPrefixOf_iff_prefix

theorem startsWith_append (start rest : Text) : startsWith start (start ++ rest) = true :=
  startsWith_iff.mpr (List.prefix_append start rest)

/-- The first occurrence of a separator divides the text. -/
theorem splitFirst_append {c : Char} {separator front back : Text} (free : c ∉ front) :
    splitFirst (c :: separator) (front ++ (c :: separator ++ back)) = some (front, back) := by
  induction front with
  | nil =>
      have starts : startsWith (c :: separator) (c :: (separator ++ back)) = true :=
        startsWith_append (c :: separator) back
      rw [List.nil_append, List.cons_append, splitFirst, if_pos starts]
      simp
  | cons d front ih =>
      rw [List.mem_cons, not_or] at free
      have apart :
          ¬ startsWith (c :: separator) (d :: (front ++ (c :: separator ++ back))) = true :=
        fun starts => free.1 (List.cons_prefix_cons.mp (startsWith_iff.mp starts)).1
      rw [List.cons_append, splitFirst, if_neg apart, ih free.2]
      rfl

theorem partition_append {separator : Char} {front back : Text} (free : separator ∉ front) :
    partition separator (front ++ separator :: back) = (front, back) := by
  rw [partition, span_separator free]

theorem partition_solid {separator : Char} {text : Text} (free : separator ∉ text) :
    partition separator text = (text, []) := by
  rw [partition, span_solid free]

theorem isSpace_isDigit {c : Char} (digit : c.isDigit = true) : isSpace c = false := by
  have bounds : 48 ≤ c.toNat ∧ c.toNat ≤ 57 := by
    simpa [Char.isDigit, UInt32.le_iff_toNat_le] using digit
  simp only [isSpace, Bool.or_eq_false_iff, Bool.and_eq_false_imp, decide_eq_true_eq,
    decide_eq_false_iff_not, beq_eq_false_iff_ne]
  omega

theorem isIntSpace_isDigit {c : Char} (digit : c.isDigit = true) : isIntSpace c = false := by
  rw [isIntSpace, isSpace_isDigit digit, Bool.false_and]

theorem isDigit_decimal {n : ℕ} : ∀ c ∈ decimal n, c.isDigit = true := fun _ inside =>
  Nat.isDigit_of_mem_toDigits (by decide) (by decide) inside

theorem unbroken_append {front back : Text} :
    Unbroken (front ++ back) ↔ Unbroken front ∧ Unbroken back :=
  List.forall_mem_append

theorem isLineSeparator_isDigit {c : Char} (digit : c.isDigit = true) :
    isLineSeparator c = false := by
  have bounds : 48 ≤ c.toNat ∧ c.toNat ≤ 57 := by
    simpa [Char.isDigit, UInt32.le_iff_toNat_le] using digit
  simp only [isLineSeparator, Bool.or_eq_false_iff, Bool.and_eq_false_imp, decide_eq_true_eq,
    decide_eq_false_iff_not, beq_eq_false_iff_ne]
  omega

theorem unbroken_decimal (n : ℕ) : Unbroken (decimal n) := fun c inside =>
  isLineSeparator_isDigit (isDigit_decimal c inside)

theorem getLast?_decimal (n : ℕ) : ∃ c, (decimal n).getLast? = some c ∧ c.isDigit = true := by
  have nonempty : decimal n ≠ [] := Nat.toDigits_ne_nil
  exact ⟨_, List.getLast?_eq_some_getLast nonempty, isDigit_decimal _ (List.getLast_mem nonempty)⟩

theorem ofDigits_digits (text : Text) :
    ofDigits (text.map fun c => c.toNat - 48) = Nat.ofDigitChars 10 text 0 := by
  rw [Nat.ofDigitChars_eq_foldl, ofDigits, List.foldl_map]
  rfl

theorem ofDigits_decimal (n : ℕ) : ofDigits ((decimal n).map fun c => c.toNat - 48) = n := by
  rw [ofDigits_digits]
  exact Nat.ofDigitChars_toDigits (by decide) (by decide)

theorem ofDigits_zeros (zeros : ℕ) (digits : List ℕ) :
    ofDigits (List.replicate zeros 0 ++ digits) = ofDigits digits := by
  induction zeros with
  | zero => rfl
  | succ zeros ih => rwa [List.replicate_succ, List.cons_append, ofDigits, List.foldl_cons]

theorem magnitude?_digits {text : Text} (nonempty : text ≠ [])
    (digits : ∀ c ∈ text, c.isDigit = true) :
    magnitude? text =
      if maxStrDigits < text.length then none
      else some (ofDigits (text.map fun c => c.toNat - 48)) := by
  rw [magnitude?, digitValues?_digits nonempty digits]
  simp

/-- Digits without a sign are the magnitude. -/
theorem int_digits {text : Text} (digits : ∀ c ∈ text, c.isDigit = true) :
    int text = (magnitude? text).map Int.ofNat := by
  rw [int, trim_eq fun c inside => isIntSpace_isDigit (digits c inside)]
  split
  next rest =>
    have sign := digits '-' (by simp)
    cases sign
  next rest =>
    have sign := digits '+' (by simp)
    cases sign
  next => rfl

theorem magnitude?_decimal {n : ℕ} (short : n < 10 ^ maxStrDigits) :
    magnitude? (decimal n) = some n := by
  have length : (decimal n).length ≤ maxStrDigits :=
    (Nat.length_toDigits_le_iff (by decide) (by decide)).mpr short
  have nonempty : decimal n ≠ [] := Nat.toDigits_ne_nil
  rw [magnitude?_digits nonempty isDigit_decimal, if_neg (Nat.not_lt.mpr length), ofDigits_decimal]

/-- A numeral of at most 4300 digits is read back. -/
theorem int_decimal {n : ℕ} (short : n < 10 ^ maxStrDigits) : int (decimal n) = some n := by
  rw [int_digits isDigit_decimal, magnitude?_decimal short]
  rfl

/-- A numeral with zeros before it is read as its number or not at all. -/
theorem int_zeros_decimal {zeros n : ℕ} {value : ℤ}
    (read : int (List.replicate zeros '0' ++ decimal n) = some value) : value = n := by
  have digits : ∀ c ∈ List.replicate zeros '0' ++ decimal n, c.isDigit = true := by
    intro c inside
    rcases List.mem_append.mp inside with zero | digit
    · rw [List.eq_of_mem_replicate zero]
      rfl
    · exact isDigit_decimal c digit
  have nonempty : List.replicate zeros '0' ++ decimal n ≠ [] :=
    List.append_ne_nil_of_right_ne_nil _ Nat.toDigits_ne_nil
  have zero_value : '0'.toNat - 48 = 0 := rfl
  rw [int_digits digits, magnitude?_digits nonempty digits, List.map_append, List.map_replicate,
    zero_value, ofDigits_zeros, ofDigits_decimal] at read
  split at read
  · cases read
  · exact (Option.some.inj read).symm

theorem str_natCast (n : ℕ) : str n = decimal n := by
  have whole : toString (n : ℤ) = Nat.repr n := rfl
  rw [str, whole, Nat.repr, String.toList_ofList]
  rfl

theorem str_negSucc (n : ℕ) : str (Int.negSucc n) = '-' :: decimal (n + 1) := by
  have whole : toString (Int.negSucc n) = "-" ++ Nat.repr (n + 1) := rfl
  rw [str, whole, Nat.repr, String.toList_append, String.toList_ofList, String.toList_ofList]
  rfl

theorem decimal_injective {n m : ℕ} (same : decimal n = decimal m) : n = m := by
  rw [← ofDigits_decimal n, same, ofDigits_decimal]

theorem str_injective {n m : ℤ} (same : str n = str m) : n = m := by
  have apart : ∀ k l : ℕ, decimal k ≠ '-' :: decimal l := fun k l equal => by
    have sign := isDigit_decimal '-' (by rw [equal]; exact List.mem_cons_self)
    cases sign
  have natural : ∀ k : ℕ, str (Int.ofNat k) = decimal k := str_natCast
  cases n with
  | ofNat n =>
      cases m with
      | ofNat m =>
          rw [natural, natural] at same
          rw [decimal_injective same]
      | negSucc m =>
          rw [natural, str_negSucc] at same
          exact absurd same (apart _ _)
  | negSucc n =>
      cases m with
      | ofNat m =>
          rw [natural, str_negSucc] at same
          exact absurd same.symm (apart _ _)
      | negSucc m =>
          rw [str_negSucc, str_negSucc] at same
          rw [Nat.succ.inj (decimal_injective (List.cons.inj same).2)]

/-- A number of at most 4300 digits is read back. -/
theorem int_str {n : ℤ} (short : n.natAbs < 10 ^ maxStrDigits) : int (str n) = some n := by
  cases n with
  | ofNat n =>
      have whole : str (Int.ofNat n) = decimal n := str_natCast n
      rw [whole]
      exact int_decimal short
  | negSucc n =>
      have solid : ∀ c ∈ '-' :: decimal (n + 1), isIntSpace c = false :=
        List.forall_mem_cons.mpr
          ⟨by decide, fun c inside => isIntSpace_isDigit (isDigit_decimal c inside)⟩
      have read : magnitude? (decimal (n + 1)) = some (n + 1) := magnitude?_decimal short
      rw [str_negSucc, int, trim_eq solid]
      simp only [read]
      rfl

theorem unbroken_str (n : ℤ) : Unbroken (str n) := by
  cases n with
  | ofNat n =>
      have whole : str (Int.ofNat n) = decimal n := str_natCast n
      rw [whole]
      exact unbroken_decimal n
  | negSucc n =>
      rw [str_negSucc]
      exact List.forall_mem_cons.mpr ⟨by decide, unbroken_decimal (n + 1)⟩

theorem strip_str (n : ℤ) : strip (str n) = str n := by
  refine trim_eq fun c inside => ?_
  cases n with
  | ofNat n =>
      rw [Int.ofNat_eq_natCast, str_natCast] at inside
      exact isSpace_isDigit (isDigit_decimal c inside)
  | negSucc n =>
      rw [str_negSucc] at inside
      rcases List.mem_cons.mp inside with rfl | digit
      · decide
      · exact isSpace_isDigit (isDigit_decimal c digit)

theorem digitValues?_none {c : Char} {text : Text} (inside : c ∈ text)
    (digit : digitValue? c = none) (joins : c ≠ '_') : digitValues? text = none := by
  fun_induction digitValues? text with
  | case1 => rfl
  | case2 d =>
      obtain rfl := List.mem_singleton.mp inside
      rw [digit]
      rfl
  | case3 d rest ih =>
      rcases List.mem_cons.mp inside with rfl | inside
      · rw [digit]
        rfl
      · rcases List.mem_cons.mp inside with rfl | inside
        · exact absurd rfl joins
        · rw [ih inside]
          cases digitValue? d <;> rfl
  | case4 d rest _ _ ih =>
      rcases List.mem_cons.mp inside with rfl | inside
      · rw [digit]
        rfl
      · rw [ih inside]
        cases digitValue? d <;> rfl

theorem mem_of_mem_trim {space : Char → Bool} {text : Text} {c : Char}
    (inside : c ∈ trim space text) : c ∈ text :=
  (List.dropWhile_subset _) (List.mem_reverse.mp
    ((List.dropWhile_subset _) (List.mem_reverse.mp inside)))

theorem mem_trim {space : Char → Bool} {text : Text} {c : Char} (inside : c ∈ text)
    (solid : space c = false) : c ∈ trim space text := by
  have kept : ∀ {text : Text}, c ∈ text → c ∈ text.dropWhile space := by
    intro text inside
    rw [← List.takeWhile_append_dropWhile (p := space) (l := text)] at inside
    rcases List.mem_append.mp inside with dropped | kept
    · exact absurd (List.all_eq_true.mp List.all_takeWhile c dropped) (Bool.eq_false_iff.mp solid)
    · exact kept
  exact List.mem_reverse.mpr (kept (List.mem_reverse.mpr (kept inside)))

/-- A character which no numeral has makes a text none. -/
theorem int_none {c : Char} {text : Text} (inside : c ∈ text) (digit : digitValue? c = none)
    (other : isIntSpace c = false ∧ c ∉ ['_', '-', '+']) : int text = none := by
  simp only [List.mem_cons, List.not_mem_nil, or_false, not_or] at other
  obtain ⟨solid, joins, minus, plus⟩ := other
  have magnitude : ∀ {rest : Text}, c ∈ rest → magnitude? rest = none := by
    intro rest inside
    rw [magnitude?, digitValues?_none inside digit joins]
    rfl
  have kept := mem_trim inside solid
  rw [int]
  split
  next rest same =>
    rw [same] at kept
    rw [magnitude ((List.mem_cons.mp kept).resolve_left minus)]
    rfl
  next rest same =>
    rw [same] at kept
    rw [magnitude ((List.mem_cons.mp kept).resolve_left plus)]
    rfl
  next => rw [magnitude kept]; rfl

end Python
end HermOS
