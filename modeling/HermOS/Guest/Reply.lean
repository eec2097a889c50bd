import HermOS.Guest.Daemon
import HermOS.Guest.WorkloadRun
import HermOS.Library.HttpHead

/-!
# Replies of the daemon

The host reads back what the daemon has measured.  The head of an answer ends at its only empty
line, each line of the body is split at its first `=`, and only white space at the ends of values is
lost on the way.
-/

namespace HermOS
namespace Guest

open Codec Python WorkloadRun
open Json (Fields assign)

/-! ### Line ends -/

/-- Text without line ends. -/
def Solid (text : Text) : Prop :=
  '\r' ∉ text ∧ '\n' ∉ text

/-- Text mode reads the head of a message as lines. -/
theorem universalNewlines_headText {lines : List Text} (solid : ∀ line ∈ lines, Solid line)
    {body : Text} (plain : '\r' ∉ body) :
    universalNewlines (Http.headText lines ++ body) = unlines lines ++ '\n' :: body := by
  unfold Http.headText
  induction lines with
  | nil => rw [List.flatMap_nil, List.nil_append, List.cons_append, List.singleton_append,
      universalNewlines_crlf, universalNewlines_eq plain]; rfl
  | cons line lines ih =>
      have later := ih fun line inside => solid line (List.mem_cons_of_mem _ inside)
      have own := (solid line List.mem_cons_self).1
      simp only [List.flatMap_cons, List.append_assoc, List.cons_append, List.nil_append] at later ⊢
      rw [universalNewlines_append own, universalNewlines_crlf, later]
      simp [unlines]

theorem replaceLineEnds_eq {text : Text} (plain : '\r' ∉ text) : replaceLineEnds text = text := by
  induction text with
  | nil => rfl
  | cons c text ih =>
      rw [List.mem_cons, not_or] at plain
      rw [replaceLineEnds.eq_def]
      split
      next same => exact absurd (List.cons.inj same).1.symm plain.1
      next same =>
        obtain ⟨rfl, rfl⟩ := List.cons.inj same
        rw [ih plain.2]
      next same => cases same

/-! ### The last empty line -/

/-- A separator of two line ends does not begin before one of them. -/
theorem splitLast_solid {line : Text} (free : '\n' ∉ line) (tail : Text) :
    splitLast ['\n', '\n'] (line ++ tail) =
      (splitLast ['\n', '\n'] tail).map fun parts => (line ++ parts.1, parts.2) := by
  induction line with
  | nil => simp
  | cons c line ih =>
      rw [List.mem_cons, not_or] at free
      have here : startsWith ['\n', '\n'] (c :: (line ++ tail)) = false :=
        Bool.eq_false_iff.mpr fun starts =>
          free.1 (List.cons_prefix_cons.mp (startsWith_iff.mp starts)).1
      rw [List.cons_append, splitLast, ih free.2, here]
      cases splitLast ['\n', '\n'] tail <;> rfl

/-- There is no empty line among lines which are not empty. -/
theorem splitLast_unlines {lines : List Text} (solid : ∀ line ∈ lines, line ≠ [] ∧ Solid line) :
    splitLast ['\n', '\n'] ('\n' :: unlines lines) = none := by
  induction lines with
  | nil => rfl
  | cons line lines ih =>
      have later := ih fun line inside => solid line (List.mem_cons_of_mem _ inside)
      obtain ⟨nonempty, own⟩ := solid line List.mem_cons_self
      have whole : unlines (line :: lines) = line ++ '\n' :: unlines lines := by simp [unlines]
      have below := splitLast_solid own.2 ('\n' :: unlines lines)
      rw [later, ← whole] at below
      obtain ⟨c, rest, rfl⟩ := List.exists_cons_of_ne_nil nonempty
      have apart : c ≠ '\n' := fun same => own.2 (by simp [same])
      have here : startsWith ['\n', '\n'] ('\n' :: unlines ((c :: rest) :: lines)) = false := by
        refine Bool.eq_false_iff.mpr fun starts => ?_
        rw [whole] at starts
        have second := (List.cons_prefix_cons.mp (startsWith_iff.mp starts)).2
        exact apart (List.cons_prefix_cons.mp second).1.symm
      rw [splitLast, below, here]
      rfl

/-- The head is what stands before the last empty line. -/
theorem rpartition_head {head : Text} {lines : List Text}
    (solid : ∀ line ∈ lines, line ≠ [] ∧ Solid line) :
    rpartition ['\n', '\n'] (head ++ '\n' :: '\n' :: unlines lines) = (head, unlines lines) := by
  have at_end : splitLast ['\n', '\n'] ('\n' :: '\n' :: unlines lines) =
      some ([], unlines lines) := by
    rw [splitLast, splitLast_unlines solid]
    simp [startsWith]
  have found : splitLast ['\n', '\n'] (head ++ '\n' :: '\n' :: unlines lines) =
      some (head, unlines lines) := by
    induction head with
    | nil => exact at_end
    | cons c head ih => rw [List.cons_append, splitLast, ih]
  rw [rpartition, found]
  rfl

/-! ### Lines of keys and values -/

def keyLine (pair : Text × Text) : Text :=
  pair.1 ++ '=' :: pair.2

/-- A key which a line begins with as it is. -/
structure PlainKey (key : Text) : Prop where
  nonempty : key ≠ []
  free : '=' ∉ key
  solid : ∀ c ∈ key, isSpace c = false

theorem assignLine_keyLine (result : Fields) {key : Text} (plain : PlainKey key) (value : Text) :
    assignLine result (keyLine (key, value)) = assign key (.str (strip value)) result := by
  have inside : '=' ∈ keyLine (key, value) := by simp [keyLine]
  have key_strip : strip key = key :=
    trim_eq plain.solid
  rw [assignLine, if_pos inside, keyLine, partition_append plain.free]
  dsimp only
  rw [key_strip]

/-- What `strip` leaves of a body. -/
theorem strip_unlines {pairs : List (Text × Text)} {key : Text} (value : Text)
    (plain : ∀ pair ∈ pairs ++ [(key, value)], PlainKey pair.1) :
    strip (unlines ((pairs ++ [(key, value)]).map keyLine)) =
      unlines (pairs.map keyLine) ++ keyLine (key, rstrip value) := by
  have first :
      ∀ c ∈ (unlines ((pairs ++ [(key, value)]).map keyLine)).head?, isSpace c = false := by
    obtain ⟨pair, rest, whole⟩ := List.exists_cons_of_ne_nil
      (List.append_ne_nil_of_right_ne_nil pairs (List.cons_ne_nil (key, value) []))
    have own := plain pair (whole ▸ List.mem_cons_self)
    obtain ⟨c, tail, key_eq⟩ := List.exists_cons_of_ne_nil own.nonempty
    intro d head
    have same : c = d := by
      rw [whole, List.map_cons, unlines, List.flatMap_cons, keyLine, key_eq] at head
      simpa using head
    exact same ▸ own.solid c (key_eq ▸ List.mem_cons_self)
  have parts : unlines ((pairs ++ [(key, value)]).map keyLine) =
      (unlines (pairs.map keyLine) ++ (key ++ ['='])) ++ (value ++ ['\n']) := by
    simp [unlines, keyLine]
  have ends : (unlines (pairs.map keyLine) ++ (key ++ ['='])).getLast? = some '=' := by simp
  rw [strip_eq_rstrip first, parts, rstrip_append ends (by decide),
    rstrip_concat (by decide)]
  simp [keyLine]

theorem unbroken_printable {text : Text} (printable : Printable text) : Unbroken text := by
  intro c inside
  have bounds := printable c inside
  have low : ¬ c.toNat ≤ 30 := by omega
  unfold isLineSeparator
  simp only [Bool.or_eq_false_iff, Bool.and_eq_false_iff, decide_eq_false_iff_not,
    beq_eq_false_iff_ne]
  omega

theorem foldl_assignLine (pairs : List (Text × Text)) (plain : ∀ pair ∈ pairs, PlainKey pair.1)
    (result : Fields) : (pairs.map keyLine).foldl assignLine result =
      pairs.foldl (fun result pair => assign pair.1 (.str (strip pair.2)) result) result := by
  induction pairs generalizing result with
  | nil => rfl
  | cons pair pairs ih =>
      rw [List.map_cons, List.foldl_cons, List.foldl_cons,
        ih fun pair inside => plain pair (List.mem_cons_of_mem _ inside)]
      rw [show keyLine pair = keyLine (pair.1, pair.2) from rfl,
        assignLine_keyLine result (plain pair List.mem_cons_self)]

/-- The fields of a body are its keys with their values, stripped. -/
theorem bodyFields_keyLines {pairs : List (Text × Text)} {key value : Text} (status : ℤ)
    (plain : ∀ pair ∈ pairs ++ [(key, value)], PlainKey pair.1)
    (printable : ∀ pair ∈ pairs ++ [(key, value)], Printable (keyLine pair)) :
    let body := strip (unlines ((pairs ++ [(key, value)]).map keyLine))
    bodyFields status body = (pairs ++ [(key, value)]).foldl
      (fun result pair => assign pair.1 (.str (strip pair.2)) result)
      [("http_status".toList, .int status), ("raw_body".toList, .str body)] := by
  have front : ∀ line ∈ pairs.map keyLine, Unbroken line := by
    intro line inside
    obtain ⟨pair, member, rfl⟩ := List.mem_map.mp inside
    exact unbroken_printable (printable pair (List.mem_append_left _ member))
  have last_printable := printable (key, value) (List.mem_append_right _ List.mem_cons_self)
  have last : Unbroken (keyLine (key, rstrip value)) := by
    refine unbroken_printable fun c inside => last_printable c ?_
    have kept : keyLine (key, rstrip value) <+: keyLine (key, value) :=
      (List.prefix_append_right_inj key).mpr <|
        (List.prefix_cons_inj '=').mpr <| rstrip_prefix value
    exact kept.subset inside
  have visible : keyLine (key, rstrip value) ≠ [] := by simp [keyLine]
  have lines : splitLines (strip (unlines ((pairs ++ [(key, value)]).map keyLine))) =
      pairs.map keyLine ++ [keyLine (key, rstrip value)] := by
    rw [strip_unlines value plain]
    exact splitLines_unlines_append front last visible
  have keys : ∀ pair ∈ pairs, PlainKey pair.1 := fun pair inside =>
    plain pair (List.mem_append_left _ inside)
  have own : PlainKey key := plain (key, value) (List.mem_append_right _ List.mem_cons_self)
  dsimp only
  rw [bodyFields, lines, List.foldl_append, foldl_assignLine pairs keys, List.foldl_append]
  simp only [List.foldl_cons, List.foldl_nil]
  rw [assignLine_keyLine _ own, strip_rstrip]

end Guest
end HermOS
