import HermOS.Library.PythonText

/-!
# Patterns of Python's `re`

A pattern is a list of pieces, each of which takes what it can from the front of the text.  Where no
repetition is followed by something which it accepts itself, no piece has to give anything back, and
this is how `re.match` reads a text.
-/

namespace HermOS
namespace Python

/-- `\d`. -/
def isDecimal (c : Char) : Bool :=
  (digitValue? c).isSome

/-- `\w`, for text up to U+00FF. -/
def isWordChar (c : Char) : Bool :=
  c.isAlphanum || c == '_' ||
    [0xAA, 0xB2, 0xB3, 0xB5, 0xB9, 0xBA, 0xBC, 0xBD, 0xBE].contains c.toNat ||
    (0xC0 ≤ c.toNat && c.toNat ≤ 0xFF && c.toNat != 0xD7 && c.toNat != 0xF7)

inductive Piece
  /-- The first of these words which fits. -/
  | oneOf (words : List Text)
  /-- One or more characters, as many as there are. -/
  | many (accepts : Char → Bool)

def Piece.word (word : String) : Piece :=
  .oneOf [word.toList]

/-- `re.match`: the text of each piece, and what is left. -/
def matchPieces : List Piece → Text → Option (List Text × Text)
  | [], text => some ([], text)
  | .oneOf words :: pieces, text =>
      match words.find? (startsWith · text) with
      | none => none
      | some word =>
          (matchPieces pieces (text.drop word.length)).map
            fun (taken, rest) => (word :: taken, rest)
  | .many accepts :: pieces, text =>
      match text.span accepts with
      | ([], _) => none
      | (front, back) =>
          (matchPieces pieces back).map fun (taken, rest) => (front :: taken, rest)

variable {words : List Text} {accepts : Char → Bool} {pieces : List Piece} {front back : Text}

/-- Put the text of a piece before what the later pieces take. -/
def prepend (front : Text) (taken : List Text × Text) : List Text × Text :=
  (front :: taken.1, taken.2)

theorem matchPieces_oneOf {word : Text}
    (first : words.find? (startsWith · (word ++ back)) = some word) :
    matchPieces (.oneOf words :: pieces) (word ++ back) =
      (matchPieces pieces back).map (prepend word) := by
  rw [matchPieces, first]
  simp only [List.drop_left]
  rfl

theorem matchPieces_word {word : String} :
    matchPieces (.word word :: pieces) (word.toList ++ back) =
      (matchPieces pieces back).map (prepend word.toList) :=
  matchPieces_oneOf (by rw [List.find?_cons, startsWith_append])

theorem span_front (accepted : ∀ c ∈ front, accepts c = true)
    (stops : ∀ c ∈ back.head?, accepts c = false) :
    (front ++ back).span accepts = (front, back) := by
  rw [List.span_eq_takeWhile_dropWhile, List.takeWhile_append_of_pos accepted,
    List.dropWhile_append_of_pos accepted]
  cases back with
  | nil => simp
  | cons c back => simp [stops c rfl]

/-- A repetition takes what it accepts, up to something it does not accept. -/
theorem matchPieces_many (nonempty : front ≠ []) (accepted : ∀ c ∈ front, accepts c = true)
    (stops : ∀ c ∈ back.head?, accepts c = false) :
    matchPieces (.many accepts :: pieces) (front ++ back) =
      (matchPieces pieces back).map (prepend front) := by
  rw [matchPieces, span_front accepted stops]
  cases front with
  | nil => exact absurd rfl nonempty
  | cons c front => rfl

/-! What a match has taken. -/

section Taken

variable {text rest : Text} {taken : List Text}

theorem matchPieces_oneOf_some (found : matchPieces (.oneOf words :: pieces) text =
    some (taken, rest)) : ∃ word back others, word ∈ words ∧ text = word ++ back ∧
      matchPieces pieces back = some (others, rest) ∧ taken = word :: others := by
  rw [matchPieces] at found
  split at found
  next => cases found
  next word first =>
    obtain ⟨⟨others, _⟩, later, same⟩ := Option.map_eq_some_iff.mp found
    cases same
    have fits : startsWith word text = true := by simpa using List.find?_some first
    obtain ⟨back, rfl⟩ := startsWith_iff.mp fits
    rw [List.drop_left] at later
    exact ⟨word, back, others, List.mem_of_find?_eq_some first, rfl, later, rfl⟩

theorem matchPieces_word_some {word : String} (found : matchPieces (.word word :: pieces) text =
    some (taken, rest)) : ∃ back others, text = word.toList ++ back ∧
      matchPieces pieces back = some (others, rest) ∧ taken = word.toList :: others := by
  obtain ⟨_, back, others, listed, whole, later, same⟩ := matchPieces_oneOf_some found
  obtain rfl := List.mem_singleton.mp listed
  exact ⟨back, others, whole, later, same⟩

theorem matchPieces_many_some (found : matchPieces (.many accepts :: pieces) text =
    some (taken, rest)) : ∃ front back others, front ≠ [] ∧ (∀ c ∈ front, accepts c = true) ∧
      (∀ c ∈ back.head?, accepts c = false) ∧ text = front ++ back ∧
      matchPieces pieces back = some (others, rest) ∧ taken = front :: others := by
  rw [matchPieces, List.span_eq_takeWhile_dropWhile] at found
  split at found
  next => cases found
  next front back nonempty same =>
    cases same
    obtain ⟨⟨others, _⟩, later, same⟩ := Option.map_eq_some_iff.mp found
    cases same
    refine ⟨_, _, others, nonempty, fun c inside => List.mem_takeWhile_imp inside,
      fun c first => ?_, List.takeWhile_append_dropWhile.symm, later, rfl⟩
    have stops := List.head?_dropWhile_not accepts text
    rw [first] at stops
    exact stops

end Taken

/-- No word fits. -/
theorem matchPieces_oneOf_none (absent : ∀ word ∈ words, ¬ word <+: back) :
    matchPieces (.oneOf words :: pieces) back = none := by
  have none : words.find? (startsWith · back) = none :=
    List.find?_eq_none.mpr fun word listed starts =>
      absent word listed (startsWith_iff.mp starts)
  rw [matchPieces, none]

/-- What is behind a repetition decides. -/
theorem matchPieces_many_none (fails : matchPieces pieces (back.dropWhile accepts) = none) :
    matchPieces (.many accepts :: pieces) back = none := by
  rw [matchPieces, List.span_eq_takeWhile_dropWhile]
  split
  next => rfl
  next front rest _ same =>
    rw [← (Prod.mk.inj same).2, fails]
    rfl

theorem isDecimal_digit {c : Char} (digit : c.isDigit = true) : isDecimal c = true := by
  rw [isDecimal, digitValue?_isDigit digit]
  rfl

/-- A printed number is taken whole. -/
theorem matchPieces_decimal (n : ℕ) (stops : ∀ c ∈ back.head?, isDecimal c = false) :
    matchPieces (.many isDecimal :: pieces) (decimal n ++ back) =
      (matchPieces pieces back).map (prepend (decimal n)) :=
  matchPieces_many Nat.toDigits_ne_nil (fun c inside => isDecimal_digit (isDigit_decimal c inside))
    stops

end Python
end HermOS
