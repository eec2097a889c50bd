import HermOS.Library.PythonText

/-!
# Rust text

`split_whitespace` and `trim` go by the Unicode property `White_Space`, which leaves out the four
separators U+001C to U+001F; `parse` on an unsigned integer reads one `+` and ASCII digits.
-/

namespace HermOS
namespace Rust

open Python (Text)

/-- `char::is_whitespace`. -/
def isWhitespace (c : Char) : Bool :=
  Python.isSpace c && !(28 ≤ c.toNat && c.toNat ≤ 31)

def trim (text : Text) : Text :=
  Python.trim isWhitespace text

def splitWhitespace (text : Text) : List Text :=
  Python.words isWhitespace text

def toAsciiLowercase (text : Text) : Text :=
  text.map Char.toLower

def stripPrefix (start text : Text) : Option Text :=
  if start <+: text then some (text.drop start.length) else none

def splitOnce (separator : Char) (text : Text) : Option (Text × Text) :=
  match text.span (· ≠ separator) with
  | (_, []) => none
  | (front, _ :: back) => some (front, back)

def rsplitOnce (separator : Char) (text : Text) : Option (Text × Text) :=
  (splitOnce separator text.reverse).map fun (back, front) => (front.reverse, back.reverse)

/-- The digits of `parse` after the sign. -/
def digits? (text : Text) : Option (List ℕ) :=
  if text ≠ [] ∧ text.all Char.isDigit then some (text.map fun c => c.toNat - 48) else none

/-- `text.parse()` at an unsigned type with `bound` values. -/
def parseUnsigned (bound : ℕ) (text : Text) : Option ℕ := do
  let digits ← digits? (match text with | '+' :: rest => rest | rest => rest)
  let value := Python.ofDigits digits
  if value < bound then return value else none

example : parseUnsigned 65536 "+0206".toList = some 206 := by decide

section Separators

variable {separator : Char} {front back start text : Text}

theorem stripPrefix_eq_some_iff : stripPrefix start text = some back ↔ text = start ++ back := by
  rw [stripPrefix]
  split
  next starts =>
    obtain ⟨rest, rfl⟩ := starts
    simp
  next other =>
    refine ⟨nofun, ?_⟩
    rintro rfl
    exact absurd (List.prefix_append ..) other

theorem splitOnce_append (free : separator ∉ front) :
    splitOnce separator (front ++ separator :: back) = some (front, back) := by
  rw [splitOnce, Python.span_separator free]

theorem splitOnce_solid (free : separator ∉ text) : splitOnce separator text = none := by
  rw [splitOnce, Python.span_solid free]

theorem rsplitOnce_append (free : separator ∉ back) :
    rsplitOnce separator (front ++ separator :: back) = some (front, back) := by
  have turned : (front ++ separator :: back).reverse =
      back.reverse ++ separator :: front.reverse := by simp
  rw [rsplitOnce, turned, splitOnce_append (by simpa using free)]
  simp

theorem rsplitOnce_solid (free : separator ∉ text) : rsplitOnce separator text = none := by
  rw [rsplitOnce, splitOnce_solid (by simpa using free)]
  rfl

/-- The last occurrence of a separator. -/
theorem exists_last (inside : separator ∈ text) :
    ∃ front back, text = front ++ separator :: back ∧ separator ∉ back := by
  obtain ⟨back, front, turned, free⟩ := List.eq_append_cons_of_mem (List.mem_reverse.mpr inside)
  refine ⟨front.reverse, back.reverse, ?_, by simpa using free⟩
  rw [← List.reverse_reverse text, turned]
  simp

end Separators

end Rust
end HermOS
