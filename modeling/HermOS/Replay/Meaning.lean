import HermOS.Replay.AgentReplay
import HermOS.Replay.PatchGrammar

/-!
# What a patch describes, and when the replayer does it

A patch is given its meaning on the files below the recorded directory: what each operation leaves
behind, with the lines of a file as its text shows them.  The replayer agrees with it except that it
ignores the recorded directory and `move_to`, reads carriage returns as line ends, and drops a
blank line at the end of a file which it updates.
-/

namespace HermOS
namespace Replay

open Python (Text)

/-! ### Lines of a file -/

/-- The text of a file as lines, the last of which may lack its line feed. -/
structure FileText where
  lines : List Text
  terminated : Bool

def FileText.render (text : FileText) : Text :=
  if text.terminated then text.lines.flatMap (· ++ ['\n']) else Python.join '\n' text.lines

/-- A content read as lines; an empty file is one unterminated empty line. -/
structure ReadsAs (content : Text) (text : FileText) : Prop where
  render : text.render = content
  unbroken : ∀ line ∈ text.lines, '\n' ∉ line
  terminated : text.terminated = endsWithNewline content
  nonempty : text.lines ≠ []

theorem join_terminated (lines : List Text) :
    Python.join '\n' (lines ++ [[]]) = lines.flatMap (· ++ ['\n']) := by
  rw [Python.join_concat, List.append_nil]

/-- The replayer reads the lines which the content shows, unless it has carriage returns. -/
theorem lines_of_readsAs {content : Text} {text : FileText} (reads : ReadsAs content text)
    (plain : '\r' ∉ content) :
    Python.universalNewlines content = content ∧
      (if endsWithNewline content then (Python.split '\n' content).dropLast
        else Python.split '\n' content) = text.lines := by
  refine ⟨Python.universalNewlines_eq plain, ?_⟩
  rw [← reads.terminated, ← reads.render, FileText.render]
  split
  next =>
    have free : ∀ line ∈ text.lines ++ [[]], '\n' ∉ line := by
      intro line inside
      rcases List.mem_append.mp inside with here | last
      · exact reads.unbroken line here
      · rw [List.mem_singleton] at last
        simp [last]
    rw [← join_terminated, Python.split_intercalate (by simp) free, List.dropLast_concat]
  next => exact Python.split_intercalate reads.nonempty reads.unbroken

/-- The replayer writes the lines back, unless they end in a blank one. -/
theorem updatedContent_eq {lines : List Text} {terminated : Bool}
    (unbroken : ∀ line ∈ lines, '\n' ∉ line)
    (visible : terminated = true → lines.getLast? ≠ some []) :
    updatedContent terminated lines = (FileText.mk lines terminated).render := by
  cases terminated with
  | false => simp [updatedContent, FileText.render]
  | true =>
      have visible := visible rfl
      rcases List.eq_nil_or_concat lines with rfl | ⟨front, last, rfl⟩
      · rfl
      · rw [List.concat_eq_append] at unbroken visible ⊢
        have last_free : '\n' ∉ last := unbroken last (by simp)
        have last_visible : last ≠ [] := fun blank => visible (by simp [blank])
        have open_end : endsWithNewline (Python.join '\n' (front ++ [last])) = false := by
          obtain ⟨c, found⟩ : ∃ c, last.getLast? = some c :=
            ⟨last.getLast last_visible, List.getLast?_eq_some_getLast last_visible⟩
          rw [endsWithNewline, Python.join_concat, List.getLast?_append, found]
          have other : c ≠ '\n' := fun same => last_free (same ▸ List.mem_of_getLast? found)
          simpa using other
        have nonempty : Python.join '\n' (front ++ [last]) ≠ [] := by
          rw [Python.join_concat]
          simp [last_visible]
        unfold updatedContent
        simp only
        rw [if_pos ⟨trivial, nonempty, open_end⟩, Python.join_concat]
        simp [FileText.render]

/-! ### Located hunks -/

/-- The lines occur at an index. -/
def OccursAt (lines needle : List Text) (index : ℕ) : Prop :=
  ∃ front back, lines = front ++ needle ++ back ∧ front.length = index

/-- Where a hunk is applied: at the first place from the cursor on, or else at the first place. -/
def LocatedAt (lines needle : List Text) (cursor index : ℕ) : Prop :=
  OccursAt lines needle index ∧
    (cursor ≤ index ∧ (∀ earlier, cursor ≤ earlier → OccursAt lines needle earlier →
        index ≤ earlier) ∨
      (∀ later, OccursAt lines needle later → later < cursor ∧ index ≤ later))

/-- A hunk replaces its lines before the patch by its lines after it. -/
inductive HunkRewrites (lines : List Text) (cursor : ℕ) (hunk : Hunk) : List Text → ℕ → Prop
  | insert {front back : List Text} (nothing : preImage hunk = [])
      (split : lines = front ++ back) (at_cursor : front.length = min cursor lines.length) :
      HunkRewrites lines cursor hunk (front ++ postImage hunk ++ back)
        (cursor + (postImage hunk).length)
  | replace {front back : List Text} (something : preImage hunk ≠ [])
      (split : lines = front ++ preImage hunk ++ back)
      (located : LocatedAt lines (preImage hunk) cursor front.length) :
      HunkRewrites lines cursor hunk (front ++ postImage hunk ++ back)
        (front.length + (postImage hunk).length)

/-- The hunks of an update one after the other. -/
inductive HunksRewrite : List Text → ℕ → List Hunk → List Text → Prop
  | nil (lines : List Text) (cursor : ℕ) : HunksRewrite lines cursor [] lines
  | cons {lines middle after : List Text} {cursor next : ℕ} {hunk : Hunk} {hunks : List Hunk} :
      HunkRewrites lines cursor hunk middle next → HunksRewrite middle next hunks after →
      HunksRewrite lines cursor (hunk :: hunks) after

theorem occursAt_iff (lines needle : List Text) (index : ℕ) :
    OccursAt lines needle index ↔
      index + needle.length ≤ lines.length ∧ (lines.drop index).take needle.length = needle := by
  constructor
  · rintro ⟨front, back, rfl, rfl⟩
    simp
  · rintro ⟨inside, here⟩
    refine ⟨lines.take index, lines.drop (index + needle.length), ?_, by simp; omega⟩
    have rest := List.take_append_drop needle.length (lines.drop index)
    rw [here, List.drop_drop] at rest
    rw [List.append_assoc, rest, List.take_append_drop]

theorem findSubsequence_some {lines needle : List Text} {start index : ℕ}
    (something : needle ≠ []) :
    findSubsequence lines needle start = some index ↔ start ≤ index ∧
      OccursAt lines needle index ∧
        ∀ earlier, start ≤ earlier → OccursAt lines needle earlier → index ≤ earlier := by
  have positive : 0 < needle.length := List.length_pos_iff.mpr something
  rw [findSubsequence, if_neg something, List.find?_range'_eq_some]
  simp only [decide_eq_true_eq, List.mem_range'_1, Bool.not_eq_true', decide_eq_false_iff_not,
    occursAt_iff]
  constructor
  · rintro ⟨here, ⟨above, below⟩, first⟩
    refine ⟨above, ⟨by omega, here⟩, fun earlier from_start occurs => ?_⟩
    by_contra before
    exact first earlier from_start (by omega) occurs.2
  · rintro ⟨above, ⟨inside, here⟩, first⟩
    refine ⟨here, ⟨above, by omega⟩, fun earlier from_start before occurs => ?_⟩
    have := first earlier from_start ⟨by omega, occurs⟩
    omega

theorem findSubsequence_none {lines needle : List Text} {start : ℕ} (something : needle ≠ []) :
    findSubsequence lines needle start = none ↔
      ∀ index, start ≤ index → ¬ OccursAt lines needle index := by
  have positive : 0 < needle.length := List.length_pos_iff.mpr something
  rw [findSubsequence, if_neg something, List.find?_range'_eq_none]
  simp only [Bool.not_eq_true', decide_eq_false_iff_not, occursAt_iff]
  constructor
  · rintro nowhere index from_start ⟨inside, here⟩
    exact nowhere index from_start (by omega) here
  · rintro nowhere index from_start below here
    exact nowhere index from_start ⟨by omega, here⟩

theorem findSubsequence_located {lines needle : List Text} {cursor index : ℕ}
    (something : needle ≠ []) (located : LocatedAt lines needle cursor index) :
    (findSubsequence lines needle cursor).or (findSubsequence lines needle 0) = some index := by
  obtain ⟨occurs, ⟨above, first⟩ | nowhere⟩ := located
  · rw [(findSubsequence_some something).mpr ⟨above, occurs, first⟩, Option.some_or]
  · have none : findSubsequence lines needle cursor = none :=
      (findSubsequence_none something).mpr fun later from_cursor occurs =>
        absurd (nowhere later occurs).1 (Nat.not_lt.mpr from_cursor)
    rw [none, Option.none_or]
    exact (findSubsequence_some something).mpr
      ⟨Nat.zero_le _, occurs, fun earlier _ occurs => (nowhere earlier occurs).2⟩

/-- The replayer rewrites a hunk where it is located. -/
theorem applyHunk_eq {lines after : List Text} {cursor next : ℕ} {hunk : Hunk}
    (rewrites : HunkRewrites lines cursor hunk after next) (path : Text) (hunkIdx : ℕ) :
    applyHunk lines hunk cursor path hunkIdx = .ok (after, next) := by
  cases rewrites with
  | @insert front back nothing split at_cursor =>
      have before : lines.take cursor = front := by
        rw [List.take_eq_take_min, ← at_cursor, split, List.take_left]
      have behind : lines.drop cursor = back := by
        have whole := List.take_append_drop cursor lines
        rw [before] at whole
        exact List.append_cancel_left (whole.trans split)
      unfold applyHunk
      simp only [nothing]
      rw [before, behind]
  | @replace front back something split located =>
      have found := findSubsequence_located something located
      have before : lines.take front.length = front := by
        rw [split, List.append_assoc, List.take_left]
      have behind : lines.drop (front.length + (preImage hunk).length) = back := by
        rw [split, ← List.length_append, List.drop_left]
      unfold applyHunk
      simp only
      split
      next nothing => exact absurd nothing something
      next =>
        rw [found]
        simp only [before, behind]

theorem applyHunks_eq {lines after : List Text} {cursor : ℕ} {hunks : List Hunk}
    (rewrites : HunksRewrite lines cursor hunks after) (path : Text) (hunkIdx : ℕ) :
    applyHunks path hunkIdx lines cursor hunks = .ok after := by
  induction rewrites generalizing hunkIdx with
  | nil => rfl
  | cons first _ ih =>
      rw [applyHunks, applyHunk_eq first]
      exact ih (hunkIdx + 1)

theorem unbroken_postImage {hunk : Hunk} (lines : Lines hunk.blocks) :
    ∀ line ∈ postImage hunk, '\n' ∉ line := by
  rw [postImage_eq]
  intro line inside feed
  obtain ⟨block, kept, here⟩ := List.mem_flatMap.mp inside
  exact absurd (lines block (List.mem_of_mem_filter kept) line here '\n' feed) (by decide)

/-- Rewriting keeps line feeds out of the lines. -/
theorem unbroken_hunksRewrite {lines after : List Text} {cursor : ℕ} {hunks : List Hunk}
    (rewrites : HunksRewrite lines cursor hunks after)
    (wellFormed : ∀ hunk ∈ hunks, Lines hunk.blocks) (unbroken : ∀ line ∈ lines, '\n' ∉ line) :
    ∀ line ∈ after, '\n' ∉ line := by
  induction rewrites with
  | nil => exact unbroken
  | @cons lines middle after cursor next hunk hunks first _ ih =>
      refine ih (fun hunk inside => wellFormed hunk (List.mem_cons_of_mem _ inside)) ?_
      have post := unbroken_postImage (wellFormed hunk List.mem_cons_self)
      cases first with
      | insert _ split _ | replace _ split _ =>
          intro line inside
          simp only [List.mem_append] at inside
          rcases inside with (inside | inside) | inside
          · exact unbroken line (by simp [split, inside])
          · exact post line inside
          · exact unbroken line (by simp [split, inside])

/-! ### What a patch describes -/

/-- What one operation leaves behind, with its paths taken from a directory. -/
inductive DescribesOp (base : FilePath) (tree : Tree) : Op → Tree → Prop
  | add {op : AddOp} {made after : Tree}
      (parents : tree.mkdirParents (joinPath base op.path).dropLast = some made)
      (created : made.write (joinPath base op.path)
        ((op.blocks.flatMap (·.lines)).flatMap (· ++ ['\n'])) = some after) :
      DescribesOp base tree (.add op) after
  | delete {path : Text} {after : Tree} (removed : tree.unlink (joinPath base path) = some after) :
      DescribesOp base tree (.delete path) after
  | deleteMissing {path : Text} (missing : tree.stat (joinPath base path) = none) :
      DescribesOp base tree (.delete path) tree
  /-- The file has its hunks rewritten. -/
  | update {op : UpdateOp} {content : Text} {text : FileText} {lines : List Text} {after : Tree}
      (stays : op.moveTo = none) (found : tree.read (joinPath base op.path) = some content)
      (reads : ReadsAs content text) (rewrites : HunksRewrite text.lines 0 op.hunks lines)
      (replaced : tree.write (joinPath base op.path)
        (FileText.mk lines text.terminated).render = some after) :
      DescribesOp base tree (.update op) after
  /-- The rewritten file is at its new path and the old one is gone. -/
  | move {op : UpdateOp} {destination content : Text} {text : FileText} {lines : List Text}
      {made written after : Tree} (moves : op.moveTo = some destination)
      (found : tree.read (joinPath base op.path) = some content) (reads : ReadsAs content text)
      (rewrites : HunksRewrite text.lines 0 op.hunks lines)
      (parents : tree.mkdirParents (joinPath base destination).dropLast = some made)
      (created : made.write (joinPath base destination)
        (FileText.mk lines text.terminated).render = some written)
      (removed : written.unlink (joinPath base op.path) = some after) :
      DescribesOp base tree (.update op) after

/-- An addition leaves its lines in one file and changes nothing else below the directories made. -/
theorem DescribesOp.added {base : FilePath} {tree after : Tree} {op : AddOp}
    (describes : DescribesOp base tree (.add op) after) :
    ∃ made location, tree.mkdirParents (joinPath base op.path).dropLast = some made ∧
      after location = some (.file ((op.blocks.flatMap (·.lines)).flatMap (· ++ ['\n']))) ∧
      ∀ other, other ≠ location → after other = made other := by
  cases describes with
  | add parents created =>
      obtain ⟨location, _, rfl⟩ := FileTree.write_eq_some _ created
      exact ⟨_, location, parents, Function.update_self .., fun other different =>
        Function.update_of_ne different ..⟩

/-- A moved file is no longer at its old path. -/
theorem DescribesOp.moved {base : FilePath} {tree after : Tree} {op : UpdateOp}
    {destination : Text} (moves : op.moveTo = some destination)
    (describes : DescribesOp base tree (.update op) after) :
    ∃ (written : Tree) (location : Location),
      written.walk (joinPath base op.path) = some location ∧ after location = none := by
  cases describes with
  | update stays => simp [moves] at stays
  | move _ _ _ _ _ _ removed =>
      obtain ⟨location, walked, rfl⟩ := FileTree.unlink_eq_some _ removed
      exact ⟨_, location, walked, Function.update_self ..⟩

/-- What a sequence of operations leaves behind. -/
inductive Describes (base : FilePath) : Tree → List Op → Tree → Prop
  | nil (tree : Tree) : Describes base tree [] tree
  | cons {tree middle after : Tree} {op : Op} {ops : List Op} :
      DescribesOp base tree op middle → Describes base middle ops after →
      Describes base tree (op :: ops) after

/-- What the replayer needs of an operation on a tree to do what it describes. -/
structure Honoured (workspace base : FilePath) (tree : Tree) (op : Op) : Prop where
  /-- The path names the same file from the workspace as from the recorded directory. -/
  located : joinPath workspace op.path = joinPath base op.path
  /-- An update does not move its file. -/
  stays : ∀ update, op = .update update → update.moveTo = none
  /-- An updated file has no carriage return. -/
  plain : ∀ update content, op = .update update →
    tree.read (joinPath base update.path) = some content → '\r' ∉ content
  /-- An update of a terminated file does not leave a blank last line. -/
  visible : ∀ update content text lines, op = .update update →
    tree.read (joinPath base update.path) = some content → ReadsAs content text →
    HunksRewrite text.lines 0 update.hunks lines → text.terminated = true →
    lines.getLast? ≠ some []

/-- Every operation is honoured on the tree which the earlier ones leave behind. -/
def HonouredRun (workspace base : FilePath) : Tree → List Op → Prop
  | _, [] => True
  | tree, op :: ops => Honoured workspace base tree op ∧
      ∀ after, DescribesOp base tree op after → HonouredRun workspace base after ops

theorem addedLines_eq {blocks : List Block} (added : ∀ block ∈ blocks, block.kind = .add) :
    addedLines blocks = .ok (blocks.flatMap (·.lines)) := by
  have loop : ∀ lines : List Text, blocks.foldlM (fun lines block =>
      if block.kind ≠ .add then .error (.unexpectedBlockType block.kind)
      else .ok (lines ++ block.lines)) lines =
        (.ok (lines ++ blocks.flatMap (·.lines)) : Except ReplayError _) := by
    induction blocks with
    | nil => simp [pure, Except.pure]
    | cons block blocks ih =>
        intro lines
        rw [List.foldlM_cons, if_neg (not_not.mpr (added block List.mem_cons_self))]
        have rest := ih (fun other inside => added other (List.mem_cons_of_mem _ inside))
          (lines ++ block.lines)
        simpa [bind, Except.bind] using rest
  exact loop []

/-- Lines joined and closed as `apply_add` does. -/
theorem closed_join (lines : List Text) :
    (if lines ≠ [] then Python.join '\n' lines ++ ['\n'] else Python.join '\n' lines) =
      lines.flatMap (· ++ ['\n']) := by
  rcases List.eq_nil_or_concat lines with rfl | ⟨front, last, rfl⟩
  · rfl
  · rw [List.concat_eq_append, if_pos (by simp), Python.join_concat]
    simp

theorem stat_of_read {tree : Tree} {path : FilePath} {content : Text}
    (found : tree.read path = some content) : tree.stat path = some (.file content) := by
  unfold FileTree.read at found
  split at found
  next same => rw [same, ← Option.some.inj found]
  next => cases found

theorem stat_of_unlink {tree after : Tree} {path : FilePath}
    (removed : tree.unlink path = some after) : ∃ node, tree.stat path = some node := by
  unfold FileTree.unlink at removed
  split at removed
  next location walked =>
    split at removed
    next content held => exact ⟨_, by rw [FileTree.stat, walked]; exact held⟩
    next => cases removed
  next => cases removed

/-- The replayer does what an honoured operation describes. -/
theorem applyOp_describes {workspace base : FilePath} {tree after : Tree} {op : Op}
    (wellFormed : op.WellFormed) (honoured : Honoured workspace base tree op)
    (describes : DescribesOp base tree op after) : applyOp workspace tree op = .ok after := by
  have located := honoured.located
  cases describes with
  | @add op made after parents created =>
      rw [applyOp, applyAdd, show joinPath workspace op.path = joinPath base op.path from located]
      simp only [parents, system, bind, Except.bind, addedLines_eq wellFormed.2, closed_join,
        created]
  | @delete path after removed =>
      rw [applyOp, applyDelete, show joinPath workspace path = joinPath base path from located]
      obtain ⟨node, present⟩ := stat_of_unlink removed
      simp only [present, removed, system]
  | @deleteMissing path missing =>
      rw [applyOp, applyDelete, show joinPath workspace path = joinPath base path from located]
      simp only [missing]
  | @update op content text lines after stays found reads rewrites replaced =>
      have present : tree.stat (joinPath base op.path) = some (.file content) :=
        stat_of_read found
      have plain := honoured.plain op content rfl found
      obtain ⟨same, read⟩ := lines_of_readsAs reads plain
      have written := updatedContent_eq
        (unbroken_hunksRewrite rewrites wellFormed reads.unbroken)
        (honoured.visible op content text lines rfl found reads rewrites)
      rw [reads.terminated] at written replaced
      rw [applyOp, applyUpdate,
        show joinPath workspace op.path = joinPath base op.path from located]
      simp only [present, same, read, applyHunks_eq rewrites, bind, Except.bind, written, replaced,
        system]
  | move moves => exact absurd (honoured.stays _ rfl) (by simp [moves])

/-- The replayer leaves behind what an honoured sequence of operations describes. -/
theorem foldlM_applyOp_describes {workspace base : FilePath} {tree after : Tree} {ops : List Op}
    (wellFormed : ∀ op ∈ ops, op.WellFormed) (honoured : HonouredRun workspace base tree ops)
    (describes : Describes base tree ops after) :
    ops.foldlM (applyOp workspace) tree = .ok after := by
  induction describes with
  | nil => rfl
  | @cons tree middle after op ops first rest ih =>
      have done := applyOp_describes (wellFormed op List.mem_cons_self) honoured.1 first
      rw [List.foldlM_cons, done]
      exact ih (fun other inside => wellFormed other (List.mem_cons_of_mem _ inside))
        (honoured.2 middle first)

theorem mapCwd_emittedCwd (workspace : FilePath) (tree : Tree) (cwd : Option Text) :
    mapCwd workspace tree (emittedCwd cwd) = mapCwd workspace tree cwd := by
  match cwd with
  | none => rfl
  | some [] => rfl
  | some (c :: rest) => rfl

/-- A recorded patch: its text, the directory it was recorded in, and its status. -/
structure RecordedPatch where
  patch : Text
  cwd : Option Text
  status : Text

/-- Replaying what extraction emits gives the tree which the patch describes. -/
def Preserved (recorded : RecordedPatch) (workspace : FilePath) (tree : Tree) : Prop :=
  ∀ entry after,
    cleanAction (.applyPatch recorded.cwd (some recorded.patch) recorded.status) =
      .ok (some (.applyPatch entry)) →
    Describes (mapCwd workspace tree recorded.cwd) tree entry.ops after →
    applyPatchEntry workspace tree entry = .ok after

theorem cleanAction_ops {recorded : RecordedPatch} {entry : PatchEntry}
    (cleaned : cleanAction (.applyPatch recorded.cwd (some recorded.patch) recorded.status) =
      .ok (some (.applyPatch entry))) :
    parsePatch recorded.patch = .ok entry.ops ∧ entry.cwd = emittedCwd recorded.cwd := by
  obtain ⟨ops, parsed, cleaned⟩ := FallibleFold.bind_ok cleaned
  cases cleaned
  exact ⟨parsed, rfl⟩

/-- Extraction and replay preserve a patch all of whose operations are honoured. -/
theorem preserved_of_honoured {recorded : RecordedPatch} {workspace : FilePath} {tree : Tree}
    (honoured : ∀ ops, parsePatch recorded.patch = .ok ops →
      HonouredRun workspace (mapCwd workspace tree recorded.cwd) tree ops) :
    Preserved recorded workspace tree := by
  intro entry after cleaned describes
  have parsed := (cleanAction_ops cleaned).1
  exact foldlM_applyOp_describes (parsePatch_wellFormed parsed) (honoured entry.ops parsed)
    describes

/-! ### A moved file -/

/-- A workspace with one file of one line. -/
def sampleTree : Tree
  | [] => some .dir
  | [['w']] => some .dir
  | [['w'], ['a']] => some (.file "x\n".toList)
  | _ => none

/-- The file is rewritten and moved from `a` to `b`. -/
def movedPatch : RecordedPatch where
  patch := "*** Begin Patch\n*** Update File: a\n*** Move to: b\n@@\n-x\n+y\n*** End Patch\n".toList
  cwd := none
  status := "completed".toList

/-- The same update without the move. -/
def updatedPatch : RecordedPatch where
  patch := "*** Begin Patch\n*** Update File: a\n@@\n-x\n+y\n*** End Patch\n".toList
  cwd := none
  status := "completed".toList

def sampleHunk : Hunk :=
  ⟨"@@".toList, [⟨.delete, [['x']]⟩, ⟨.add, [['y']]⟩]⟩

theorem sampleHunk_rewrites : HunksRewrite [['x']] 0 [sampleHunk] [['y']] := by
  have located : LocatedAt [['x']] (preImage sampleHunk) 0 0 :=
    ⟨⟨[], [], rfl, rfl⟩, .inl ⟨Nat.le_refl 0, fun _ _ _ => Nat.zero_le _⟩⟩
  exact .cons (@HunkRewrites.replace _ _ _ [] [] (by decide) rfl located) (.nil _ _)

theorem sampleTree_readsAs : ReadsAs "x\n".toList ⟨[['x']], true⟩ :=
  ⟨rfl, by decide, rfl, by decide⟩

theorem not_preserved_movedPatch : ¬ Preserved movedPatch [['w']] sampleTree := by
  intro preserved
  have replayed := preserved _ _ rfl
    (.cons (.move rfl rfl sampleTree_readsAs sampleHunk_rewrites rfl rfl rfl) (.nil _))
  have same : none = some (Node.file "y\n".toList) :=
    congrFun (Except.ok.inj replayed) [['w'], ['b']]
  cases same

/-- The operation of the update without the move. -/
def sampleUpdate : UpdateOp :=
  ⟨['a'], none, [sampleHunk], false⟩

theorem parsePatch_updatedPatch : parsePatch updatedPatch.patch = .ok [.update sampleUpdate] :=
  rfl

theorem preserved_of_honoured_updatedPatch : Preserved updatedPatch [['w']] sampleTree := by
  refine preserved_of_honoured fun ops parsed => ?_
  obtain rfl : [.update sampleUpdate] = ops :=
    Except.ok.inj (parsePatch_updatedPatch.symm.trans parsed)
  refine ⟨⟨rfl, ?_, ?_, ?_⟩, fun _ _ => trivial⟩
  · rintro update ⟨⟩
    rfl
  · rintro update content ⟨⟩ found
    obtain rfl : "x\n".toList = content := Option.some.inj found
    decide
  · rintro update content text lines ⟨⟩ found reads rewrites _
    obtain rfl : "x\n".toList = content := Option.some.inj found
    have shown : [['x']] = text.lines := (lines_of_readsAs reads (by decide)).2
    rw [← shown] at rewrites
    have rewritten := applyHunks_eq rewrites [] 0
    have result : [['y']] = lines := Except.ok.inj rewritten
    rw [← result]
    decide

end Replay
end HermOS
