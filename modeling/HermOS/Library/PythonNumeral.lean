import HermOS.Library.PythonText

/-!
# The numerals of `int`

The texts which `int` reads, by their characters: white space around an optional sign and at most
4300 digits of any script, between any two of which one underscore may stand.
-/

namespace HermOS
namespace Python

/-- Digits with their values, where one underscore may stand between two of them. -/
inductive Grouped : Text → List ℕ → Prop
  | last {c : Char} {value : ℕ} (digit : digitValue? c = some value) : Grouped [c] [value]
  | next {c : Char} {text : Text} {value : ℕ} {values : List ℕ} (digit : digitValue? c = some value)
      (later : Grouped text values) : Grouped (c :: text) (value :: values)
  | joined {c : Char} {text : Text} {value : ℕ} {values : List ℕ}
      (digit : digitValue? c = some value) (later : Grouped text values) :
      Grouped (c :: '_' :: text) (value :: values)

/-- The signs, and what they multiply by. -/
def signs : List (Text × ℤ) :=
  [([], 1), (['+'], 1), (['-'], -1)]

inductive Numeral : Text → ℤ → Prop
  | signed {before sign digits after : Text} {factor : ℤ} {values : List ℕ}
      (blank_before : ∀ c ∈ before, isIntSpace c = true) (listed : (sign, factor) ∈ signs)
      (grouped : Grouped digits values) (short : values.length ≤ 4300)
      (blank_after : ∀ c ∈ after, isIntSpace c = true) :
      Numeral (before ++ (sign ++ digits) ++ after) (factor * ofDigits values)

/-! ### Digits -/

theorem digitValues?_eq_some_iff {text : Text} {values : List ℕ} :
    digitValues? text = some values ↔ Grouped text values := by
  constructor
  · intro read
    fun_induction digitValues? text generalizing values with
    | case1 => cases read
    | case2 c =>
        obtain ⟨value, digit, rfl⟩ := Option.map_eq_some_iff.mp read
        exact .last digit
    | case3 c rest ih =>
        obtain ⟨value, digit, read⟩ := Option.bind_eq_some_iff.mp read
        obtain ⟨others, later, same⟩ := Option.bind_eq_some_iff.mp read
        cases same
        exact .joined digit (ih later)
    | case4 c rest _ _ ih =>
        obtain ⟨value, digit, read⟩ := Option.bind_eq_some_iff.mp read
        obtain ⟨others, later, same⟩ := Option.bind_eq_some_iff.mp read
        cases same
        exact .next digit (ih later)
  · intro grouped
    induction grouped with
    | last digit => rw [digitValues?, digit]; rfl
    | joined digit later ih => rw [digitValues?, digit, ih]; rfl
    | @next c text value values digit later ih =>
        rw [digitValues?.eq_def]
        split
        next same => cases same
        next same =>
          cases same
          cases later
        next same =>
          -- what follows is a digit, and an underscore is none
          cases same
          cases later with
          | last underscore | next underscore | joined underscore => cases underscore
        next same =>
          cases same
          rw [digit, ih]
          rfl

/-- No digit is white space. -/
theorem isIntSpace_digit {c : Char} {value : ℕ} (digit : digitValue? c = some value) :
    isIntSpace c = false := by
  have table : ∀ n ∈ List.range' 9 5 ++ List.range' 28 5 ++ [0x85, 0xA0, 0x1680] ++
      List.range' 0x2000 11 ++ [0x2028, 0x2029, 0x202F, 0x205F, 0x3000],
      ∀ first ∈ decimalZeros, ¬ (first ≤ n ∧ n ≤ first + 9) := by decide
  obtain ⟨first, found, _⟩ := Option.map_eq_some_iff.mp digit
  have bounds : first ≤ c.toNat ∧ c.toNat ≤ first + 9 := by simpa using List.find?_some found
  have solid : isSpace c = false := by
    by_contra space
    refine table c.toNat ?_ first (List.mem_of_find?_eq_some found) bounds
    simp only [isSpace, Bool.not_eq_false, Bool.or_eq_true, Bool.and_eq_true, decide_eq_true_iff,
      beq_iff_eq] at space
    simp only [List.mem_append, List.mem_range'_1, List.mem_cons, List.not_mem_nil, or_false]
    omega
  rw [isIntSpace, solid, Bool.false_and]

theorem Grouped.solid {text : Text} {values : List ℕ} (grouped : Grouped text values) :
    (∀ c ∈ text.head?, isIntSpace c = false) ∧ ∀ c ∈ text.getLast?, isIntSpace c = false := by
  induction grouped with
  | last digit => simp [isIntSpace_digit digit]
  | @next c text value values digit later ih =>
      refine ⟨by simp [isIntSpace_digit digit], ?_⟩
      cases text with
      | nil => cases later
      | cons d text => rw [List.getLast?_cons_cons]; exact ih.2
  | @joined c text value values digit later ih =>
      refine ⟨by simp [isIntSpace_digit digit], ?_⟩
      cases text with
      | nil => cases later
      | cons d text => rw [List.getLast?_cons_cons, List.getLast?_cons_cons]; exact ih.2

theorem Grouped.ne_nil {text : Text} {values : List ℕ} (grouped : Grouped text values) :
    text ≠ [] := by
  rintro rfl
  cases grouped

theorem magnitude?_eq_some_iff {text : Text} {n : ℕ} : magnitude? text = some n ↔
    ∃ values, Grouped text values ∧ values.length ≤ 4300 ∧ ofDigits values = n := by
  simp only [magnitude?, Option.bind_eq_bind, Option.bind_eq_some_iff]
  refine exists_congr fun values => ?_
  rw [digitValues?_eq_some_iff]
  refine and_congr_right fun _ => ?_
  rw [maxStrDigits]
  split
  next long => simp [Nat.not_le.mpr long]
  next short => simp [Nat.not_lt.mp short]

/-! ### Numerals -/

/-- What is removed at both ends is white space. -/
theorem exists_trim (space : Char → Bool) (text : Text) : ∃ before after,
    text = before ++ trim space text ++ after ∧ (∀ c ∈ before, space c = true) ∧
      ∀ c ∈ after, space c = true := by
  have kept : text.dropWhile space = trim space text ++
      ((text.dropWhile space).reverse.takeWhile space).reverse := by
    rw [trim, ← List.reverse_append, List.takeWhile_append_dropWhile, List.reverse_reverse]
  refine ⟨text.takeWhile space, ((text.dropWhile space).reverse.takeWhile space).reverse, ?_,
    fun c inside => List.mem_takeWhile_imp inside,
    fun c inside => List.mem_takeWhile_imp (List.mem_reverse.mp inside)⟩
  rw [List.append_assoc, ← kept, List.takeWhile_append_dropWhile]

/-- What `int` makes of a text whose white space is removed. -/
theorem int_eq_some_iff_trim {text : Text} {n : ℤ} : int text = some n ↔
    ∃ sign factor digits values, (sign, factor) ∈ signs ∧ Grouped digits values ∧
      values.length ≤ 4300 ∧ trim isIntSpace text = sign ++ digits ∧
      n = factor * ofDigits values := by
  have made {rest : Text} {make : ℕ → ℤ} : (magnitude? rest).map make = some n ↔
      ∃ values, Grouped rest values ∧ values.length ≤ 4300 ∧ n = make (ofDigits values) := by
    rw [Option.map_eq_some_iff]
    constructor
    · rintro ⟨_, read, rfl⟩
      obtain ⟨values, grouped, short, rfl⟩ := magnitude?_eq_some_iff.mp read
      exact ⟨values, grouped, short, rfl⟩
    · rintro ⟨values, grouped, short, rfl⟩
      exact ⟨_, magnitude?_eq_some_iff.mpr ⟨values, grouped, short, rfl⟩, rfl⟩
  have negated (rest : Text) : ((magnitude? rest >>= fun value => pure (value : ℤ)).map
      fun value => -value) = (magnitude? rest).map fun value : ℕ => -(value : ℤ) := by
    cases magnitude? rest <;> rfl
  simp only [int, negated]
  generalize trim isIntSpace text = kept
  constructor
  · intro read
    split at read
    next rest =>
      obtain ⟨values, grouped, short, rfl⟩ := made.mp read
      exact ⟨['-'], -1, rest, values, by simp [signs], grouped, short, rfl, by simp⟩
    next rest =>
      obtain ⟨values, grouped, short, rfl⟩ := made.mp read
      exact ⟨['+'], 1, rest, values, by simp [signs], grouped, short, rfl, by simp⟩
    next =>
      obtain ⟨values, grouped, short, rfl⟩ := made.mp read
      exact ⟨[], 1, kept, values, by simp [signs], grouped, short, rfl, by simp⟩
  · rintro ⟨sign, factor, digits, values, listed, grouped, short, rfl, rfl⟩
    simp only [signs, List.mem_cons, Prod.mk.injEq, List.not_mem_nil, or_false] at listed
    rcases listed with ⟨rfl, rfl⟩ | ⟨rfl, rfl⟩ | ⟨rfl, rfl⟩
    · rw [List.nil_append]
      split
      next => cases grouped with | last sign | next sign | joined sign => cases sign
      next => cases grouped with | last sign | next sign | joined sign => cases sign
      next => exact made.mpr ⟨values, grouped, short, by simp⟩
    · exact made.mpr ⟨values, grouped, short, by simp⟩
    · exact made.mpr ⟨values, grouped, short, by simp⟩

/-- `int` reads exactly the numerals, and their numbers. -/
theorem int_eq_some_iff {text : Text} {n : ℤ} : int text = some n ↔ Numeral text n := by
  constructor
  · intro read
    obtain ⟨sign, factor, digits, values, listed, grouped, short, same, rfl⟩ :=
      int_eq_some_iff_trim.mp read
    obtain ⟨before, after, whole, blank_before, blank_after⟩ := exists_trim isIntSpace text
    rw [same] at whole
    rw [whole]
    exact .signed blank_before listed grouped short blank_after
  · rintro ⟨blank_before, listed, grouped, short, blank_after⟩
    refine int_eq_some_iff_trim.mpr ⟨_, _, _, _, listed, grouped, short, ?_, rfl⟩
    obtain ⟨first, last⟩ := grouped.solid
    refine trim_pad blank_before blank_after ?_ fun c ends => last c ?_
    · simp only [signs, List.mem_cons, Prod.mk.injEq, List.not_mem_nil, or_false] at listed
      rcases listed with ⟨rfl, _⟩ | ⟨rfl, _⟩ | ⟨rfl, _⟩
      · exact first
      · simp; decide
      · simp; decide
    · rwa [List.getLast?_append_of_ne_nil _ grouped.ne_nil] at ends

/-- Only a minus sign makes a number negative. -/
theorem Numeral.nonneg {text : Text} {n : ℤ} (numeral : Numeral text n) (free : '-' ∉ text) :
    0 ≤ n := by
  cases numeral with
  | signed _ listed =>
      simp only [signs, List.mem_cons, Prod.mk.injEq, List.not_mem_nil, or_false] at listed
      rcases listed with ⟨rfl, rfl⟩ | ⟨rfl, rfl⟩ | ⟨rfl, rfl⟩
      · simp
      · simp
      · exact absurd (by simp) free

end Python
end HermOS
