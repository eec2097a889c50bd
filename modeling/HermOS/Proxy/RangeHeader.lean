import HermOS.Library.PythonNumeral
import HermOS.Proxy.RangeRequest

/-!
# The ranges which the proxy accepts

HTTP has one form of a closed byte range: two numerals of ASCII digits around a hyphen.
`parse_range_header` reads the two pieces with `int`, which also takes signs, white space,
underscores and digits of other scripts, and which refuses long numerals.  The two languages differ
exactly there.
-/

namespace HermOS
namespace Proxy

open Python

/-! ### The grammar -/

/-- A numeral of HTTP. -/
def Digits (text : Text) : Prop :=
  text ≠ [] ∧ ∀ c ∈ text, c.isDigit = true

def numeral (text : Text) : ℕ :=
  Nat.ofDigitChars 10 text 0

/-- The text of a range between its two pieces. -/
def rangeText (first last : Text) : Text :=
  "bytes=".toList ++ (first ++ '-' :: last)

/-- The value is a closed byte range of HTTP. -/
def ByteRange (value : Text) (range : ℤ × ℤ) : Prop :=
  ∃ first last, value = rangeText first last ∧ Digits first ∧ Digits last ∧
    range = ((numeral first : ℤ), (numeral last : ℤ)) ∧ numeral first ≤ numeral last

/-- The parser accepts the closed byte ranges of HTTP with their numbers, and nothing else. -/
def ParsesRange (intError : Text → Text) (value : Text) : Prop :=
  ∀ range, parseRangeHeader intError value = .ok range ↔ ByteRange value range

/-! ### Where `int` and HTTP differ -/

/-- The pieces are numerals of Python in order, and not both of HTTP: there is white space, a sign,
an underscore or a digit of another script. -/
def Foreign (value : Text) : Prop :=
  ∃ first last start stop, value = rangeText first last ∧ '-' ∉ first ∧ Numeral first start ∧
    Numeral last stop ∧ start ≤ stop ∧ ¬ (Digits first ∧ Digits last)

/-- The pieces are numerals of HTTP in order, and one is too long for `int`. -/
def TooLong (value : Text) : Prop :=
  ∃ first last, value = rangeText first last ∧ Digits first ∧ Digits last ∧
    numeral first ≤ numeral last ∧ (maxStrDigits < first.length ∨ maxStrDigits < last.length)

section Parser

variable {intError : Text → Text} {value first last : Text} {start stop : ℤ}

theorem Digits.not_mem (digits : Digits first) {c : Char} (other : c.isDigit = false) :
    c ∉ first := by
  intro inside
  rw [digits.2 c inside] at other
  cases other

/-- A range has one hyphen, which divides it. -/
theorem rangeText_inj {first' last' : Text} (free : '-' ∉ first) (free' : '-' ∉ first')
    (same : rangeText first last = rangeText first' last') : first = first' ∧ last = last' := by
  have spec := List.append_cancel_left same
  have split := congrArg (splitAtMost '-' 1) spec
  rw [splitAtMost_cons free, splitAtMost_cons free'] at split
  simpa [splitAtMost] using split

theorem int_numeral (digits : Digits first) :
    int first = if maxStrDigits < first.length then none else some (numeral first : ℤ) := by
  rw [int_digits digits.2, magnitude?_digits digits.1 digits.2, ofDigits_digits]
  split <;> rfl

theorem comma_not_mem {text : Text} {n : ℤ} (read : int text = some n) : ',' ∉ text := by
  intro inside
  rw [int_none inside (by decide) ⟨by decide, by decide⟩] at read
  cases read

theorem ne_nil_of_int {text : Text} {n : ℤ} (read : int text = some n) : text ≠ [] := by
  rintro rfl
  cases read

/-- What `parse_range_header` accepts. -/
theorem parseRangeHeader_ok_iff :
    parseRangeHeader intError value = .ok (start, stop) ↔
      ∃ first last, value = rangeText first last ∧ '-' ∉ first ∧ int first = some start ∧
        int last = some stop ∧ 0 ≤ start ∧ start ≤ stop := by
  constructor
  · intro accepted
    unfold parseRangeHeader at accepted
    split at accepted
    next => cases accepted
    next starts =>
      simp only [Bool.not_eq_true', Bool.not_eq_false] at starts
      obtain ⟨spec, rfl⟩ := startsWith_iff.mp starts
      have dropped : ("bytes=".toList ++ spec).drop "bytes=".length = spec := rfl
      simp only [dropped] at accepted
      split at accepted
      next => cases accepted
      next =>
        by_cases hyphen : '-' ∈ spec
        · obtain ⟨first, last, rfl, free⟩ := List.eq_append_cons_of_mem hyphen
          have pieces : splitAtMost '-' 1 (first ++ '-' :: last) = [first, last] :=
            splitAtMost_cons free
          simp only [pieces] at accepted
          split at accepted
          next => cases accepted
          next =>
            split at accepted
            next => cases accepted
            next => cases accepted
            next start' stop' read_first read_last =>
              split at accepted
              next => cases accepted
              next ordered =>
                cases accepted
                rw [not_or, Int.not_lt, Int.not_lt] at ordered
                exact ⟨first, last, rfl, free, read_first, read_last, ordered⟩
        · rw [splitAtMost_solid hyphen] at accepted
          cases accepted
  · rintro ⟨first, last, rfl, free, read_first, read_last, positive, ordered⟩
    have starts : startsWith "bytes=".toList (rangeText first last) = true :=
      startsWith_append _ _
    have spec : (rangeText first last).drop "bytes=".length = first ++ '-' :: last := rfl
    have no_comma : ',' ∉ first ++ '-' :: last := by
      simp [comma_not_mem read_first, comma_not_mem read_last]
    have pieces : splitAtMost '-' 1 (first ++ '-' :: last) = [first, last] := splitAtMost_cons free
    have valid : ¬ (start < 0 ∨ stop < start) := by omega
    simp only [parseRangeHeader, starts, Bool.not_true, Bool.false_eq_true, if_false, spec,
      no_comma, pieces, ne_nil_of_int read_first, ne_nil_of_int read_last, or_self, read_first,
      read_last, valid]

/-- A foreign value is accepted. -/
theorem not_parsesRange_of_foreign (foreign : Foreign value) : ¬ ParsesRange intError value := by
  obtain ⟨first, last, start, stop, rfl, free, numeral, numeral', ordered, other⟩ := foreign
  intro parses
  have accepted : parseRangeHeader intError (rangeText first last) = .ok (start, stop) :=
    parseRangeHeader_ok_iff.mpr ⟨first, last, rfl, free, int_eq_some_iff.mpr numeral,
      int_eq_some_iff.mpr numeral', numeral.nonneg free, ordered⟩
  obtain ⟨first', last', same, digits, digits', _⟩ := (parses _).mp accepted
  obtain ⟨rfl, rfl⟩ := rangeText_inj free (digits.not_mem rfl) same
  exact other ⟨digits, digits'⟩

theorem not_parsesRange_of_tooLong (long : TooLong value) : ¬ ParsesRange intError value := by
  obtain ⟨first, last, rfl, digits, digits', ordered, long⟩ := long
  intro parses
  have accepted := (parses (numeral first, numeral last)).mpr
    ⟨first, last, rfl, digits, digits', rfl, ordered⟩
  obtain ⟨first', last', same, free, read_first, read_last, _⟩ :=
    parseRangeHeader_ok_iff.mp accepted
  obtain ⟨rfl, rfl⟩ := rangeText_inj (digits.not_mem rfl) free same
  rw [int_numeral digits] at read_first
  rw [int_numeral digits'] at read_last
  rcases long with long | long
  · rw [if_pos long] at read_first
    cases read_first
  · rw [if_pos long] at read_last
    cases read_last

/-- `parse_range_header` accepts exactly the closed byte ranges, unless a piece is a numeral of
Python alone or too long for Python. -/
theorem parsesRange_iff (intError : Text → Text) (value : Text) :
    ParsesRange intError value ↔ ¬ Foreign value ∧ ¬ TooLong value := by
  constructor
  · intro parses
    exact ⟨fun foreign => not_parsesRange_of_foreign foreign parses,
      fun long => not_parsesRange_of_tooLong long parses⟩
  · rintro ⟨native, short⟩ ⟨start, stop⟩
    rw [parseRangeHeader_ok_iff]
    constructor
    · rintro ⟨first, last, rfl, free, read_first, read_last, positive, ordered⟩
      have both : Digits first ∧ Digits last := by
        by_contra other
        exact native ⟨first, last, start, stop, rfl, free, int_eq_some_iff.mp read_first,
          int_eq_some_iff.mp read_last, ordered, other⟩
      rw [int_numeral both.1] at read_first
      rw [int_numeral both.2] at read_last
      split at read_first
      next => cases read_first
      next =>
        split at read_last
        next => cases read_last
        next =>
          cases read_first
          cases read_last
          exact ⟨first, last, rfl, both.1, both.2, rfl, Int.ofNat_le.mp ordered⟩
    · rintro ⟨first, last, rfl, digits, digits', same, ordered⟩
      cases same
      have fits : ¬ (maxStrDigits < first.length ∨ maxStrDigits < last.length) := fun long =>
        short ⟨first, last, rfl, digits, digits', ordered, long⟩
      rw [not_or] at fits
      refine ⟨first, last, rfl, digits.not_mem rfl, ?_, ?_, Int.natCast_nonneg _,
        Int.ofNat_le.mpr ordered⟩
      · rw [int_numeral digits, if_neg fits.1]
      · rw [int_numeral digits', if_neg fits.2]

/-- A sign is read with the second number. -/
theorem not_parsesRange_signed :
    ¬ ∀ (intError : Text → Text) (value : Text), ParsesRange intError value := by
  intro parses
  have foreign : Foreign "bytes=0-+5".toList := by
    refine ⟨['0'], ['+', '5'], 0, 5, rfl, by decide, int_eq_some_iff.mp (by decide),
      int_eq_some_iff.mp (by decide), by decide, ?_⟩
    rintro ⟨_, digits⟩
    have sign := digits.2 '+' (by simp)
    cases sign
  exact not_parsesRange_of_foreign foreign (parses id _)

end Parser

end Proxy
end HermOS
