import Mathlib.Algebra.Group.Nat.Defs
import Mathlib.Data.Int.Notation

/-!
# Python's `int` on text

`int(text)` removes surrounding white space, reads one sign and then decimal digits of any script,
which single underscores may separate.  More than 4300 digits are refused.
-/

namespace HermOS
namespace Python

/-- Characters for which `str.isspace` holds. -/
def isSpace (c : Char) : Bool :=
  let n := c.toNat
  (9 ≤ n && n ≤ 13) || (28 ≤ n && n ≤ 32) || n == 0x85 || n == 0xA0 || n == 0x1680 ||
    (0x2000 ≤ n && n ≤ 0x200A) || n == 0x2028 || n == 0x2029 || n == 0x202F || n == 0x205F ||
    n == 0x3000

/-- Characters which `int` ignores at both ends: of the ASCII ones, only those of C's `isspace`. -/
def isIntSpace (c : Char) : Bool :=
  isSpace c && !(28 ≤ c.toNat && c.toNat ≤ 31)

/-- The digit zero of each decimal script. -/
def decimalZeros : List ℕ :=
  [0x30, 0x660, 0x6F0, 0x7C0, 0x966, 0x9E6, 0xA66, 0xAE6, 0xB66, 0xBE6, 0xC66, 0xCE6, 0xD66, 0xDE6,
    0xE50, 0xED0, 0xF20, 0x1040, 0x1090, 0x17E0, 0x1810, 0x1946, 0x19D0, 0x1A80, 0x1A90, 0x1B50,
    0x1BB0, 0x1C40, 0x1C50, 0xA620, 0xA8D0, 0xA900, 0xA9D0, 0xA9F0, 0xAA50, 0xABF0, 0xFF10,
    0x104A0, 0x10D30, 0x11066, 0x110F0, 0x11136, 0x111D0, 0x112F0, 0x11450, 0x114D0, 0x11650,
    0x116C0, 0x11730, 0x118E0, 0x11950, 0x11C50, 0x11D50, 0x11DA0, 0x16A60, 0x16AC0, 0x16B50,
    0x1D7CE, 0x1D7D8, 0x1D7E2, 0x1D7EC, 0x1D7F6, 0x1E140, 0x1E2F0, 0x1E950, 0x1FBF0]

/-- The value of a decimal digit of any script. -/
def digitValue? (c : Char) : Option ℕ :=
  (decimalZeros.find? fun first => first ≤ c.toNat && c.toNat ≤ first + 9).map (c.toNat - ·)

/-- Decimal digits with single underscores between them, most significant first. -/
def digitValues? : List Char → Option (List ℕ)
  | [] => none
  | [c] => (digitValue? c).map ([·])
  | c :: '_' :: rest => do
      let first ← digitValue? c
      let others ← digitValues? rest
      return first :: others
  | c :: rest => do
      let first ← digitValue? c
      let others ← digitValues? rest
      return first :: others

/-- Limit on the number of digits. -/
def maxStrDigits : ℕ :=
  4300

def ofDigits (digits : List ℕ) : ℕ :=
  digits.foldl (fun value digit => 10 * value + digit) 0

/-- The magnitude, after the sign. -/
def magnitude? (text : List Char) : Option ℕ := do
  let digits ← digitValues? text
  if maxStrDigits < digits.length then none else return ofDigits digits

/-- White space removed at both ends. -/
def trim (space : Char → Bool) (text : List Char) : List Char :=
  ((text.dropWhile space).reverse.dropWhile space).reverse

/-- `int(text)`, where `none` is `ValueError`. -/
def int (text : List Char) : Option ℤ :=
  match trim isIntSpace text with
  | '-' :: rest => (magnitude? rest).map fun value => -(value : ℤ)
  | '+' :: rest => (magnitude? rest).map Int.ofNat
  | rest => (magnitude? rest).map Int.ofNat

example : int " +1_000\n".toList = some 1000 := by decide

end Python
end HermOS
