import HermOS.Replay.Meaning

/-!
# The loop over the hunks of an update

Each hunk is searched in the lines which the hunks before it left.  The update is also given on the
disk, so that what a failed one leaves behind can be said.
-/

namespace HermOS
namespace Replay

open Python (Text)

/-! ### One hunk -/

/-- The insertions of a hunk without context, one line after the other. -/
def insertLines (lines : List Text) (cursor : ℕ) (post : List Text) : List Text :=
  (post.zipIdx cursor).foldl
    (fun lines item => lines.take item.2 ++ item.1 :: lines.drop item.2) lines

theorem insertLines_eq (front back post : List Text) :
    insertLines (front ++ back) front.length post = front ++ post ++ back := by
  induction post generalizing front with
  | nil => simp [insertLines]
  | cons line post ih =>
      have rest := ih (front ++ [line])
      rw [List.length_append, List.length_singleton, List.append_assoc front] at rest
      rw [insertLines, List.zipIdx_cons, List.foldl_cons, List.take_left, List.drop_left]
      exact rest.trans (by simp)

/-- `applyHunk` inserts like the loop over the post-image. -/
theorem applyHunk_insertLines {lines : List Text} {hunk : Hunk} {cursor : ℕ}
    (nothing : preImage hunk = []) (inside : cursor ≤ lines.length) (path : Text) (hunkIdx : ℕ) :
    applyHunk lines hunk cursor path hunkIdx =
      .ok (insertLines lines cursor (postImage hunk), cursor + (postImage hunk).length) := by
  have inserted := insertLines_eq (lines.take cursor) (lines.drop cursor) (postImage hunk)
  rw [List.take_append_drop, List.length_take_of_le inside] at inserted
  rw [applyHunk, nothing, inserted]

/-- A hunk replaces one stretch of the lines, and leaves the cursor behind what it wrote. -/
def Splices (lines : List Text) (cursor : ℕ) (hunk : Hunk) (after : List Text) (next : ℕ) : Prop :=
  ∃ front back, lines = front ++ preImage hunk ++ back ∧ after = front ++ postImage hunk ++ back ∧
    next = (front ++ postImage hunk).length ∧
    (preImage hunk = [] → front.length = cursor) ∧
    (preImage hunk ≠ [] → LocatedAt lines (preImage hunk) cursor front.length)

theorem Splices.bounded {lines after : List Text} {cursor next : ℕ} {hunk : Hunk}
    (splices : Splices lines cursor hunk after next) : next ≤ after.length := by
  obtain ⟨front, back, _, rfl, rfl, _⟩ := splices
  simp

def OccursNowhere (lines needle : List Text) : Prop :=
  ∀ index, ¬ OccursAt lines needle index

theorem occursAt_nil (lines : List Text) : OccursAt lines [] 0 :=
  ⟨[], lines, rfl, rfl⟩

/-- The two searches of a hunk find its place. -/
theorem located_of_found {lines needle : List Text} {cursor index : ℕ} (something : needle ≠ [])
    (found : (findSubsequence lines needle cursor).or (findSubsequence lines needle 0) =
      some index) : LocatedAt lines needle cursor index := by
  cases first : findSubsequence lines needle cursor with
  | some here =>
      obtain rfl : here = index := by simpa [first] using found
      obtain ⟨above, occurs, least⟩ := (findSubsequence_some something).mp first
      exact ⟨occurs, .inl ⟨above, least⟩⟩
  | none =>
      rw [first, Option.none_or] at found
      obtain ⟨_, occurs, least⟩ := (findSubsequence_some something).mp found
      refine ⟨occurs, .inr fun later here => ⟨?_, least later (Nat.zero_le _) here⟩⟩
      by_contra behind
      exact (findSubsequence_none something).mp first later (by omega) here

/-- The two searches of a hunk fail where it occurs nowhere. -/
theorem occursNowhere_iff {lines needle : List Text} (cursor : ℕ) (something : needle ≠ []) :
    OccursNowhere lines needle ↔
      (findSubsequence lines needle cursor).or (findSubsequence lines needle 0) = none := by
  rw [Option.or_eq_none_iff, findSubsequence_none something, findSubsequence_none something]
  constructor
  · intro nowhere
    exact ⟨fun index _ => nowhere index, fun index _ => nowhere index⟩
  · rintro ⟨_, nowhere⟩ index
    exact nowhere index (Nat.zero_le _)

theorem applyHunk_splices {lines after : List Text} {cursor next : ℕ} {hunk : Hunk} {path : Text}
    {hunkIdx : ℕ} (inside : cursor ≤ lines.length)
    (applied : applyHunk lines hunk cursor path hunkIdx = .ok (after, next)) :
    Splices lines cursor hunk after next := by
  unfold applyHunk at applied
  simp only at applied
  split at applied
  next nothing =>
    obtain ⟨rfl, rfl⟩ := Prod.mk.inj (Except.ok.inj applied)
    have size : (lines.take cursor).length = cursor := List.length_take_of_le inside
    refine ⟨lines.take cursor, lines.drop cursor, ?_, rfl, ?_, fun _ => size, fun something => ?_⟩
    · simp [nothing]
    · rw [List.length_append, size]
    · exact absurd nothing something
  next firstLine rest something =>
    have nonempty : preImage hunk ≠ [] := by simp [something]
    split at applied
    next matchIdx found =>
      obtain ⟨rfl, rfl⟩ := Prod.mk.inj (Except.ok.inj applied)
      have located := located_of_found nonempty found
      obtain ⟨front, back, split, rfl⟩ := located.1
      have before : lines.take front.length = front := by
        rw [split, List.append_assoc, List.take_left]
      have behind : lines.drop (front.length + (preImage hunk).length) = back := by
        rw [split, ← List.length_append, List.drop_left]
      refine ⟨front, back, split, by rw [before, behind], List.length_append.symm,
        fun nothing => absurd nothing nonempty, fun _ => located⟩
    next => cases applied

/-- A hunk fails where its lines before the patch occur nowhere; the error shows the first one. -/
theorem applyHunk_error_iff {lines : List Text} {cursor : ℕ} {hunk : Hunk} {path : Text}
    {hunkIdx : ℕ} {error : ReplayError} :
    applyHunk lines hunk cursor path hunkIdx = .error error ↔
      OccursNowhere lines (preImage hunk) ∧
        ∃ firstLine ∈ (preImage hunk).head?, error = .contextNotFound hunkIdx path firstLine := by
  unfold applyHunk
  simp only
  split
  next nothing =>
    rw [nothing]
    simp
  next firstLine rest something =>
    have nonempty : preImage hunk ≠ [] := by simp [something]
    rw [occursNowhere_iff cursor nonempty, something]
    split
    next matchIdx found => simp [found]
    next missing => simp [missing, eq_comm]

/-- Some hunk finds its lines before the patch nowhere. -/
theorem applyHunk_raises_iff {lines : List Text} {cursor : ℕ} {hunk : Hunk} {path : Text}
    {hunkIdx : ℕ} :
    (∃ error, applyHunk lines hunk cursor path hunkIdx = .error error) ↔
      OccursNowhere lines (preImage hunk) := by
  simp only [applyHunk_error_iff]
  constructor
  · rintro ⟨_, nowhere, _⟩
    exact nowhere
  · intro nowhere
    cases lines_before : preImage hunk with
    | nil => exact absurd (occursAt_nil lines) (lines_before ▸ nowhere 0)
    | cons firstLine rest => exact ⟨_, lines_before ▸ nowhere, firstLine, rfl, rfl⟩

/-! ### The loop -/

/-- The loop over the hunks with the cursor which it keeps. -/
def hunkLoop (path : Text) (hunkIdx : ℕ) (lines : List Text) (cursor : ℕ) :
    List Hunk → Except ReplayError (List Text × ℕ)
  | [] => .ok (lines, cursor)
  | hunk :: hunks => do
      let next ← applyHunk lines hunk cursor path hunkIdx
      hunkLoop path (hunkIdx + 1) next.1 next.2 hunks

theorem applyHunks_eq_hunkLoop (path : Text) (hunkIdx : ℕ) (lines : List Text) (cursor : ℕ)
    (hunks : List Hunk) :
    applyHunks path hunkIdx lines cursor hunks =
      (hunkLoop path hunkIdx lines cursor hunks).map Prod.fst := by
  induction hunks generalizing hunkIdx lines cursor with
  | nil => rfl
  | cons hunk hunks ih =>
      rw [applyHunks, hunkLoop]
      cases applyHunk lines hunk cursor path hunkIdx with
      | error error => rfl
      | ok next => exact ih (hunkIdx + 1) next.1 next.2

/-- The cursor stays within the lines. -/
theorem hunkLoop_bounded {path : Text} {hunkIdx cursor next : ℕ} {lines after : List Text}
    {hunks : List Hunk} (inside : cursor ≤ lines.length)
    (ended : hunkLoop path hunkIdx lines cursor hunks = .ok (after, next)) :
    next ≤ after.length := by
  induction hunks generalizing hunkIdx lines cursor with
  | nil =>
      cases ended
      exact inside
  | cons hunk hunks ih =>
      obtain ⟨⟨middle, place⟩, applied, ended⟩ := FallibleFold.bind_ok ended
      exact ih (applyHunk_splices inside applied).bounded ended

theorem hunkLoop_append (path : Text) (hunkIdx : ℕ) (lines : List Text) (cursor : ℕ)
    (before later : List Hunk) :
    hunkLoop path hunkIdx lines cursor (before ++ later) =
      hunkLoop path hunkIdx lines cursor before >>= fun reached =>
        hunkLoop path (hunkIdx + before.length) reached.1 reached.2 later := by
  induction before generalizing hunkIdx lines cursor with
  | nil => rfl
  | cons hunk before ih =>
      rw [List.cons_append, hunkLoop, hunkLoop]
      cases applyHunk lines hunk cursor path hunkIdx with
      | error error => rfl
      | ok next =>
          rw [List.length_cons, Nat.add_comm before.length, ← Nat.add_assoc]
          exact ih (hunkIdx + 1) next.1 next.2

/-- The loop fails in the first hunk which fails on what the hunks before it left. -/
theorem hunkLoop_error_iff {path : Text} {hunkIdx cursor : ℕ} {lines : List Text}
    {hunks : List Hunk} {error : ReplayError} :
    hunkLoop path hunkIdx lines cursor hunks = .error error ↔
      ∃ before hunk rest current place, hunks = before ++ hunk :: rest ∧
        hunkLoop path hunkIdx lines cursor before = .ok (current, place) ∧
        applyHunk current hunk place path (hunkIdx + before.length) = .error error := by
  induction hunks generalizing hunkIdx lines cursor with
  | nil => simp [hunkLoop]
  | cons hunk hunks ih =>
      rw [hunkLoop]
      constructor
      · intro failed
        cases applied : applyHunk lines hunk cursor path hunkIdx with
        | error other =>
            rw [applied] at failed
            cases failed
            exact ⟨[], hunk, hunks, lines, cursor, rfl, rfl, applied⟩
        | ok next =>
            rw [applied] at failed
            obtain ⟨before, bad, rest, current, place, rfl, ended, fails⟩ := ih.mp failed
            refine ⟨hunk :: before, bad, rest, current, place, rfl, ?_, ?_⟩
            · rw [hunkLoop, applied]
              exact ended
            · rw [List.length_cons, Nat.add_comm before.length, ← Nat.add_assoc]
              exact fails
      · rintro ⟨before, bad, rest, current, place, whole, ended, fails⟩
        cases before with
        | nil =>
            cases whole
            cases ended
            rw [List.length_nil, Nat.add_zero] at fails
            rw [fails]
            rfl
        | cons first before =>
            cases whole
            obtain ⟨next, applied, ended⟩ := FallibleFold.bind_ok ended
            rw [applied]
            refine ih.mpr ⟨before, bad, rest, current, place, rfl, ended, ?_⟩
            rw [List.length_cons, Nat.add_comm before.length, ← Nat.add_assoc] at fails
            exact fails

/-- Some hunk finds its lines before the patch nowhere in what the hunks before it left. -/
def Unlocated (path : Text) (lines : List Text) (hunks : List Hunk) : Prop :=
  ∃ before hunk rest current cursor, hunks = before ++ hunk :: rest ∧
    hunkLoop path 0 lines 0 before = .ok (current, cursor) ∧
    OccursNowhere current (preImage hunk)

theorem hunkLoop_raises_iff (path : Text) (lines : List Text) (hunks : List Hunk) :
    (∃ error, hunkLoop path 0 lines 0 hunks = .error error) ↔ Unlocated path lines hunks := by
  constructor
  · rintro ⟨error, failed⟩
    obtain ⟨before, hunk, rest, current, cursor, whole, ended, fails⟩ :=
      hunkLoop_error_iff.mp failed
    exact ⟨before, hunk, rest, current, cursor, whole, ended,
      applyHunk_raises_iff.mp ⟨error, fails⟩⟩
  · rintro ⟨before, hunk, rest, current, cursor, whole, ended, nowhere⟩
    obtain ⟨error, fails⟩ := applyHunk_raises_iff.mpr nowhere
    exact ⟨error, hunkLoop_error_iff.mpr
      ⟨before, hunk, rest, current, cursor, whole, ended, fails⟩⟩

/-- The loop raises nothing but the `PatchError` about a context, which names the file. -/
theorem hunkLoop_error {path : Text} {lines : List Text} {hunks : List Hunk} {error : ReplayError}
    (failed : hunkLoop path 0 lines 0 hunks = .error error) :
    ∃ hunkIdx firstLine, error = .contextNotFound hunkIdx path firstLine := by
  obtain ⟨before, hunk, rest, current, cursor, _, _, fails⟩ := hunkLoop_error_iff.mp failed
  obtain ⟨_, firstLine, _, rfl⟩ := applyHunk_error_iff.mp fails
  exact ⟨_, firstLine, rfl⟩

theorem Splices.rewrites {lines after : List Text} {cursor next : ℕ} {hunk : Hunk}
    (splices : Splices lines cursor hunk after next) :
    HunkRewrites lines cursor hunk after next := by
  obtain ⟨front, back, split, rfl, rfl, at_cursor, located⟩ := splices
  rw [List.length_append]
  by_cases nothing : preImage hunk = []
  · rw [nothing, List.append_nil] at split
    have place := at_cursor nothing
    rw [place]
    refine .insert nothing split ?_
    rw [place, split, List.length_append]
    omega
  · exact .replace nothing split (located nothing)

theorem hunksRewrite_of_hunkLoop {path : Text} {hunkIdx cursor next : ℕ} {lines after : List Text}
    {hunks : List Hunk} (inside : cursor ≤ lines.length)
    (ended : hunkLoop path hunkIdx lines cursor hunks = .ok (after, next)) :
    HunksRewrite lines cursor hunks after := by
  induction hunks generalizing hunkIdx lines cursor with
  | nil =>
      cases ended
      exact .nil _ _
  | cons hunk hunks ih =>
      obtain ⟨⟨middle, place⟩, applied, ended⟩ := FallibleFold.bind_ok ended
      have splices := applyHunk_splices inside applied
      exact .cons splices.rewrites (ih splices.bounded ended)

/-- The replayer applies the hunks which rewrite the lines, and no others. -/
theorem applyHunks_ok_iff (path : Text) {lines after : List Text} {hunks : List Hunk} :
    applyHunks path 0 lines 0 hunks = .ok after ↔ HunksRewrite lines 0 hunks after := by
  constructor
  · intro ended
    rw [applyHunks_eq_hunkLoop] at ended
    cases loop : hunkLoop path 0 lines 0 hunks with
    | error error => simp [loop, Except.map] at ended
    | ok reached =>
        obtain rfl : reached.1 = after := by simpa [loop, Except.map] using ended
        exact hunksRewrite_of_hunkLoop (Nat.zero_le _) loop
  · intro rewrites
    exact applyHunks_eq rewrites path 0

/-! ### The update on the disk -/

/-- A call which returns or raises, and leaves the files in some state either way. -/
def Disk (Value : Type) : Type :=
  Tree → Except ReplayError Value × Tree

instance : Monad Disk where
  pure value := fun tree => (.ok value, tree)
  bind first next := fun tree =>
    match first tree with
    | (.ok value, after) => next value after
    | (.error error, after) => (.error error, after)

def readText (target : FilePath) : Disk Text := fun tree =>
  match tree.stat target with
  | none => (.error (.updateTargetMissing target), tree)
  | some .dir => (.error .osError, tree)
  | some (.file bytes) => (.ok (Python.universalNewlines bytes), tree)

def writeText (target : FilePath) (content : Text) : Disk Unit := fun tree =>
  match tree.write target content with
  | none => (.error .osError, tree)
  | some after => (.ok (), after)

/-- A computation which does not touch the files. -/
def inMemory {Value : Type} (result : Except ReplayError Value) : Disk Value := fun tree =>
  (result, tree)

/-- `lines` before the hunks. -/
def linesOf (original : Text) : List Text :=
  if endsWithNewline original then (Python.split '\n' original).dropLast
  else Python.split '\n' original

/-- `apply_update`, with the files it leaves also when it raises. -/
def updateOnDisk (workspace : FilePath) (op : UpdateOp) : Disk Unit := do
  let target := joinPath workspace op.path
  let original ← readText target
  let updated ← inMemory (hunkLoop op.path 0 (linesOf original) 0 op.hunks)
  writeText target (updatedContent (endsWithNewline original) updated.1)

/-- The update on the disk does what `applyUpdate` says, and nothing when that fails. -/
theorem updateOnDisk_eq (workspace : FilePath) (op : UpdateOp) (tree : Tree) :
    updateOnDisk workspace op tree =
      match applyUpdate workspace tree op with
      | .ok after => (.ok (), after)
      | .error error => (.error error, tree) := by
  simp only [updateOnDisk, applyUpdate, bind, readText, inMemory, applyHunks_eq_hunkLoop]
  rcases tree.stat (joinPath workspace op.path) with _ | _ | bytes
  · rfl
  · rfl
  · simp only [linesOf]
    cases hunkLoop op.path 0 _ 0 op.hunks with
    | error error => rfl
    | ok updated =>
        simp only [Except.map, Except.bind, writeText, system]
        cases tree.write (joinPath workspace op.path) _ <;> rfl

/-- An update of a file which is there raises where a hunk is not located. -/
theorem updateOnDisk_raises_iff {workspace : FilePath} {op : UpdateOp} {tree : Tree}
    {content : Text} (found : tree.read (joinPath workspace op.path) = some content) :
    (∃ error, (updateOnDisk workspace op tree).1 = .error error) ↔
      Unlocated op.path (linesOf (Python.universalNewlines content)) op.hunks := by
  rw [← hunkLoop_raises_iff]
  simp only [updateOnDisk, bind, readText, stat_of_read found, inMemory]
  cases hunkLoop op.path 0 _ 0 op.hunks with
  | error error => simp
  | ok updated =>
      obtain ⟨after, written, _⟩ := FileTree.write_of_read tree found
        (updatedContent (endsWithNewline (Python.universalNewlines content)) updated.1)
      simp [writeText, written]

theorem updateOnDisk_unchanged {workspace : FilePath} {op : UpdateOp} {tree : Tree}
    {error : ReplayError} (raised : (updateOnDisk workspace op tree).1 = .error error) :
    (updateOnDisk workspace op tree).2 = tree := by
  rw [updateOnDisk_eq] at raised ⊢
  cases ended : applyUpdate workspace tree op with
  | ok after => simp [ended] at raised
  | error other => rfl

/-- What the loop of an update guarantees, from the lines of its file. -/
structure LoopContract (op : UpdateOp) (lines : List Text) : Prop where
  /-- A hunk is spliced in where it is located, in what the hunks before it left. -/
  splices : ∀ before hunk rest current cursor after next, op.hunks = before ++ hunk :: rest →
    hunkLoop op.path 0 lines 0 before = .ok (current, cursor) →
    hunkLoop op.path 0 lines 0 (before ++ [hunk]) = .ok (after, next) →
    Splices current cursor hunk after next
  /-- The cursor stays within the lines. -/
  bounded : ∀ before rest current cursor, op.hunks = before ++ rest →
    hunkLoop op.path 0 lines 0 before = .ok (current, cursor) → cursor ≤ current.length
  /-- The loop raises where a hunk is not located. -/
  raises : (∃ error, hunkLoop op.path 0 lines 0 op.hunks = .error error) ↔
    Unlocated op.path lines op.hunks
  /-- So does the update of a file with these lines. -/
  raisesOnDisk : ∀ workspace tree content, tree.read (joinPath workspace op.path) = some content →
    linesOf (Python.universalNewlines content) = lines →
    ((∃ error, (updateOnDisk workspace op tree).1 = .error error) ↔
      Unlocated op.path lines op.hunks)
  /-- The files are then as they were. -/
  unchanged : ∀ workspace tree error, (updateOnDisk workspace op tree).1 = .error error →
    (updateOnDisk workspace op tree).2 = tree

theorem applyUpdate_contract (op : UpdateOp) (lines : List Text) : LoopContract op lines where
  splices := by
    intro before hunk rest current cursor after next _ reached ended
    rw [hunkLoop_append, reached] at ended
    obtain ⟨_, same, ended⟩ := FallibleFold.bind_ok ended
    cases same
    obtain ⟨spliced, applied, ended⟩ := FallibleFold.bind_ok ended
    cases ended
    exact applyHunk_splices (hunkLoop_bounded (Nat.zero_le _) reached) applied
  bounded := by
    intro before rest current cursor _ reached
    exact hunkLoop_bounded (Nat.zero_le _) reached
  raises := hunkLoop_raises_iff op.path lines op.hunks
  raisesOnDisk := by
    rintro workspace tree content found rfl
    exact updateOnDisk_raises_iff found
  unchanged := by
    intro workspace tree error raised
    exact updateOnDisk_unchanged raised

/-- A hunk which keeps one line and changes the next, and one which inserts a line. -/
def contractUpdate : UpdateOp where
  path := ['a']
  moveTo := none
  hunks := [⟨"@@".toList, [⟨.context, [['a']]⟩, ⟨.delete, [['b']]⟩, ⟨.add, [['c']]⟩]⟩,
    ⟨"@@".toList, [⟨.add, [['d']]⟩]⟩]
  endOfFile := false

theorem applyUpdate_contract_sample :
    Splices [['a'], ['b'], ['e']] 0 ⟨"@@".toList, [⟨.context, [['a']]⟩, ⟨.delete, [['b']]⟩,
        ⟨.add, [['c']]⟩]⟩ [['a'], ['c'], ['e']] 2 ∧
      Splices [['a'], ['c'], ['e']] 2 ⟨"@@".toList, [⟨.add, [['d']]⟩]⟩
        [['a'], ['c'], ['d'], ['e']] 3 ∧
      3 ≤ [['a'], ['c'], ['d'], ['e']].length ∧
      (∃ error, (updateOnDisk [['w']] contractUpdate sampleTree).1 = .error error) ∧
      (updateOnDisk [['w']] contractUpdate sampleTree).2 = sampleTree := by
  have spliced := applyUpdate_contract contractUpdate [['a'], ['b'], ['e']]
  have missed := applyUpdate_contract contractUpdate [['x']]
  have raises : ∃ error, (updateOnDisk [['w']] contractUpdate sampleTree).1 = .error error :=
    (missed.raisesOnDisk [['w']] sampleTree "x\n".toList rfl rfl).mpr (missed.raises.mp ⟨_, rfl⟩)
  refine ⟨spliced.splices [] _ _ _ _ _ _ rfl rfl rfl, spliced.splices [_] _ _ _ _ _ _ rfl rfl rfl,
    spliced.bounded _ [] _ _ (List.append_nil _).symm rfl, raises, ?_⟩
  obtain ⟨error, raised⟩ := raises
  exact missed.unchanged [['w']] sampleTree error raised

end Replay
end HermOS
