import HermOS.Replay.HunkLoop

/-!
# What an update writes

An update is meant to keep the line feed at the end of its file, or its absence.  It looks at the
joined lines instead of the lines, so a blank last line passes for the final line feed.
-/

namespace HermOS
namespace Replay

open Python (Text)

/-- Lines joined, with a final line feed if they are terminated and there are any. -/
def closedLines (terminated : Bool) (lines : List Text) : Text :=
  Python.join '\n' lines ++ if terminated = true ∧ lines ≠ [] then ['\n'] else []

theorem eq_append_of_endsWithNewline {content : Text} (ends : endsWithNewline content = true) :
    ∃ front, content = front ++ ['\n'] := by
  rw [endsWithNewline, beq_iff_eq] at ends
  exact (List.getLast?_eq_some_iff).mp ends

theorem closedLines_linesOf (content : Text) :
    closedLines (endsWithNewline content) (linesOf content) = content := by
  unfold closedLines linesOf
  by_cases ends : endsWithNewline content = true
  · obtain ⟨front, rfl⟩ := eq_append_of_endsWithNewline ends
    have pieces : Python.split '\n' (front ++ ['\n']) = Python.split '\n' front ++ [[]] :=
      List.splitOn_append_cons_self front []
    have nonempty : Python.split '\n' front ≠ [] := List.splitOn_ne_nil '\n' front
    rw [if_pos ends, pieces, List.dropLast_concat, if_pos ⟨ends, nonempty⟩]
    exact congrArg (· ++ ['\n']) (List.intercalate_splitOn '\n')
  · rw [if_neg ends, if_neg fun closed => ends closed.1, List.append_nil]
    exact List.intercalate_splitOn '\n'

/-- The last line is not blank, and ends itself in no line feed. -/
def VisibleEnd (lines : List Text) : Prop :=
  ∃ last ∈ lines.getLast?, last ≠ [] ∧ endsWithNewline last = false

/-- Joined lines look open where their last line does. -/
theorem join_open_iff (front : List Text) (last : Text) :
    (Python.join '\n' (front ++ [last]) ≠ [] ∧
      endsWithNewline (Python.join '\n' (front ++ [last])) = false) ↔
        last ≠ [] ∧ endsWithNewline last = false := by
  rw [Python.join_concat]
  rcases eq_or_ne last [] with rfl | visible
  · rcases List.eq_nil_or_concat front with rfl | ⟨front, earlier, rfl⟩
    · simp
    · simp [endsWithNewline]
  · have same : endsWithNewline (front.flatMap (· ++ ['\n']) ++ last) = endsWithNewline last := by
      rw [endsWithNewline, endsWithNewline, List.getLast?_append_of_ne_nil _ visible]
    rw [same]
    simp [visible]

/-- The lines are closed as they should be, unless their end looks closed already. -/
theorem updatedContent_eq_iff (terminated : Bool) (lines : List Text) :
    updatedContent terminated lines = closedLines terminated lines ↔
      (terminated = true → lines = [] ∨ VisibleEnd lines) := by
  unfold updatedContent closedLines
  rcases List.eq_nil_or_concat lines with rfl | ⟨front, last, rfl⟩
  · simp [Python.join]
  · rw [List.concat_eq_append]
    have nonempty : front ++ [last] ≠ [] := by simp
    have visible : VisibleEnd (front ++ [last]) ↔ last ≠ [] ∧ endsWithNewline last = false := by
      simp [VisibleEnd]
    simp only [join_open_iff, visible, nonempty, ne_eq, not_false_eq_true, and_true, false_or]
    cases terminated with
    | false => simp
    | true =>
        by_cases shown : last ≠ [] ∧ endsWithNewline last = false
        · simp [shown]
        · simp [shown]

example : updatedContent true [['x'], []] = "x\n".toList := rfl

/-! ### The update -/

/-- An update of a file without carriage returns all of whose hunks are located. -/
structure LocatedUpdate where
  workspace : FilePath
  tree : Tree
  op : UpdateOp
  content : Text
  lines : List Text
  found : tree.read (joinPath workspace op.path) = some content
  plain : '\r' ∉ content
  rewrites : HunksRewrite (linesOf content) 0 op.hunks lines

namespace LocatedUpdate

variable (update : LocatedUpdate)

def target : FilePath :=
  joinPath update.workspace update.op.path

/-- The update writes the spliced lines closed as the file was, and a file whose hunks change
nothing stays as it is. -/
def KeepsRest : Prop :=
  ∃ after, applyUpdate update.workspace update.tree update.op = .ok after ∧
    after.read update.target =
      some (closedLines (endsWithNewline update.content) update.lines) ∧
    ((∀ hunk ∈ update.op.hunks, preImage hunk = postImage hunk) →
      after.read update.target = some update.content)

/-- The file does not end in a line feed, or its last line after the update is visible. -/
def EndsVisibly : Prop :=
  endsWithNewline update.content = true → update.lines = [] ∨ VisibleEnd update.lines

theorem written : ∃ after, applyUpdate update.workspace update.tree update.op = .ok after ∧
    after.read update.target =
      some (updatedContent (endsWithNewline update.content) update.lines) := by
  obtain ⟨after, wrote, reads⟩ := FileTree.write_of_read update.tree update.found
    (updatedContent (endsWithNewline update.content) update.lines)
  refine ⟨after, ?_, reads⟩
  have applied := applyHunks_eq update.rewrites update.op.path 0
  rw [linesOf] at applied
  rw [applyUpdate]
  simp only [stat_of_read update.found, Python.universalNewlines_eq update.plain, applied, bind,
    Except.bind, wrote, system]

end LocatedUpdate

/-- Hunks which change nothing leave the lines. -/
theorem hunksRewrite_same {lines after : List Text} {cursor : ℕ} {hunks : List Hunk}
    (rewrites : HunksRewrite lines cursor hunks after)
    (same : ∀ hunk ∈ hunks, preImage hunk = postImage hunk) : after = lines := by
  induction rewrites with
  | nil => rfl
  | @cons lines middle after cursor next hunk hunks first _ ih =>
      have kept := same hunk List.mem_cons_self
      rw [ih fun later inside => same later (List.mem_cons_of_mem _ inside)]
      cases first with
      | insert nothing split => rw [← kept, nothing, split, List.append_nil]
      | replace _ split => rw [← kept, split]

/-- The update writes what it should if and only if the written lines end visibly. -/
theorem keepsRest_iff (update : LocatedUpdate) : update.KeepsRest ↔ update.EndsVisibly := by
  obtain ⟨after, applied, reads⟩ := update.written
  unfold LocatedUpdate.KeepsRest LocatedUpdate.EndsVisibly
  rw [← updatedContent_eq_iff]
  constructor
  · rintro ⟨other, applied_other, closed, _⟩
    obtain rfl : after = other := Except.ok.inj (applied.symm.trans applied_other)
    exact Option.some.inj (reads.symm.trans closed)
  · intro closed
    rw [closed] at reads
    refine ⟨after, applied, reads, fun same => ?_⟩
    rw [reads, hunksRewrite_same update.rewrites same, closedLines_linesOf]

/-! ### A blank last line -/

/-- A workspace whose file ends in a blank line. -/
def blankEndTree : Tree
  | [] => some .dir
  | [['w']] => some .dir
  | [['w'], ['a']] => some (.file "x\n\n".toList)
  | _ => none

def contextHunk : Hunk :=
  ⟨"@@".toList, [⟨.context, [['x']]⟩]⟩

def blankEndUpdate : LocatedUpdate where
  workspace := [['w']]
  tree := blankEndTree
  op := ⟨['a'], none, [contextHunk], false⟩
  content := "x\n\n".toList
  lines := [['x'], []]
  found := rfl
  plain := by decide
  rewrites := (applyHunks_ok_iff ['a']).mp rfl

/-- The hunk changes nothing, and yet the blank line is lost. -/
theorem not_keepsRest_blankEnd : ¬ blankEndUpdate.KeepsRest := by
  rintro ⟨after, applied, closed, _⟩
  have wrote : applyUpdate blankEndUpdate.workspace blankEndUpdate.tree blankEndUpdate.op =
      .ok (Function.update blankEndTree [['w'], ['a']] (some (.file "x\n".toList))) := rfl
  obtain rfl := Except.ok.inj (wrote.symm.trans applied)
  have same : "x\n".toList = "x\n\n".toList := Option.some.inj closed
  exact absurd same (by decide)

end Replay
end HermOS
