import HermOS.Library.FileTree
import HermOS.Replay.Patch

/-!
# The replayer

`agent_replay.py` applies the operations of a patch entry to the files below the workspace.  Text
mode reads every line end as `"\n"`.
-/

namespace HermOS
namespace Replay

open Python (Text)

/-- The files of the guest. -/
abbrev Tree :=
  FileTree Text

/-- How applying an entry fails: a `PatchError`, with its data, or an error of the system. -/
inductive ReplayError
  | unexpectedBlockType (kind : BlockKind)
  | updateTargetMissing (target : FilePath)
  | contextNotFound (hunkIdx : ℕ) (path firstLine : Text)
  | osError

/-- The result of a system call. -/
def system (result : Option Tree) : Except ReplayError Tree :=
  match result with
  | some tree => .ok tree
  | none => .error .osError

/-- `base / path`. -/
def joinPath (base : FilePath) (path : Text) : FilePath :=
  let parts := (Python.split '/' path).filter fun part => part ≠ [] ∧ part ≠ ['.']
  if Python.startsWith ['/'] path then parts else base ++ parts

/-- The lines of `add` blocks; a block of another type is refused. -/
def addedLines (blocks : List Block) : Except ReplayError (List Text) :=
  blocks.foldlM (fun lines block =>
    if block.kind ≠ .add then .error (.unexpectedBlockType block.kind)
    else .ok (lines ++ block.lines)) []

def applyAdd (workspace : FilePath) (tree : Tree) (op : AddOp) : Except ReplayError Tree := do
  let target := joinPath workspace op.path
  let made ← system (tree.mkdirParents target.dropLast)
  let lines ← addedLines op.blocks
  let content := Python.join '\n' lines
  system (made.write target (if lines ≠ [] then content ++ ['\n'] else content))

def applyDelete (workspace : FilePath) (tree : Tree) (path : Text) : Except ReplayError Tree :=
  let target := joinPath workspace path
  match tree.stat target with
  | some _ => system (tree.unlink target)
  | none => .ok tree

/-- Lines of a hunk before the patch. -/
def preImage (hunk : Hunk) : List Text :=
  hunk.blocks.flatMap fun block =>
    match block.kind with
    | .context | .delete => block.lines
    | .add => []

/-- Lines of a hunk after the patch. -/
def postImage (hunk : Hunk) : List Text :=
  hunk.blocks.flatMap fun block =>
    match block.kind with
    | .context | .add => block.lines
    | .delete => []

/-- The lines before the patch are those of the context and of the deletions, in their order. -/
theorem preImage_eq (hunk : Hunk) : preImage hunk =
    (hunk.blocks.filter fun block => block.kind = .context ∨ block.kind = .delete).flatMap
      (·.lines) := by
  rw [preImage]
  induction hunk.blocks with
  | nil => rfl
  | cons block blocks ih =>
      rw [List.flatMap_cons, ih]
      cases kind : block.kind <;> simp [kind]

/-- The lines after the patch are those of the context and of the additions, in their order. -/
theorem postImage_eq (hunk : Hunk) : postImage hunk =
    (hunk.blocks.filter fun block => block.kind = .context ∨ block.kind = .add).flatMap
      (·.lines) := by
  rw [postImage]
  induction hunk.blocks with
  | nil => rfl
  | cons block blocks ih =>
      rw [List.flatMap_cons, ih]
      cases kind : block.kind <;> simp [kind]

/-- The first index from `start` on at which `needle` occurs. -/
def findSubsequence (haystack needle : List Text) (start : ℕ) : Option ℕ :=
  if needle = [] then some start
  else (List.range' start (haystack.length + 1 - needle.length - start)).find? fun i =>
    (haystack.drop i).take needle.length = needle

/-- Apply one hunk; the result is the lines and the cursor after the hunk. -/
def applyHunk (lines : List Text) (hunk : Hunk) (cursor : ℕ) (path : Text) (hunkIdx : ℕ) :
    Except ReplayError (List Text × ℕ) :=
  let pre := preImage hunk
  let post := postImage hunk
  match pre with
  | [] => .ok (lines.take cursor ++ post ++ lines.drop cursor, cursor + post.length)
  | firstLine :: _ =>
      match (findSubsequence lines pre cursor).or (findSubsequence lines pre 0) with
      | some matchIdx =>
          .ok (lines.take matchIdx ++ post ++ lines.drop (matchIdx + pre.length),
            matchIdx + post.length)
      | none => .error (.contextNotFound hunkIdx path firstLine)

/-- The loop over the hunks, from the index of the first one on. -/
def applyHunks (path : Text) (hunkIdx : ℕ) (lines : List Text) (cursor : ℕ) :
    List Hunk → Except ReplayError (List Text)
  | [] => .ok lines
  | hunk :: hunks => do
      let next ← applyHunk lines hunk cursor path hunkIdx
      applyHunks path (hunkIdx + 1) next.1 next.2 hunks

def endsWithNewline (content : Text) : Bool :=
  content.getLast? == some '\n'

/-- The content which `apply_update` writes for its lines. -/
def updatedContent (hadTrailingNewline : Bool) (lines : List Text) : Text :=
  let newContent := Python.join '\n' lines
  if hadTrailingNewline ∧ newContent ≠ [] ∧ endsWithNewline newContent = false then
    newContent ++ ['\n']
  else
    newContent

def applyUpdate (workspace : FilePath) (tree : Tree) (op : UpdateOp) : Except ReplayError Tree :=
  let target := joinPath workspace op.path
  match tree.stat target with
  | none => .error (.updateTargetMissing target)
  | some .dir => .error .osError
  | some (.file bytes) => do
      let original := Python.universalNewlines bytes
      let hadTrailingNewline := endsWithNewline original
      let pieces := Python.split '\n' original
      let lines := if hadTrailingNewline then pieces.dropLast else pieces
      let updated ← applyHunks op.path 0 lines 0 op.hunks
      system (tree.write target (updatedContent hadTrailingNewline updated))

def applyOp (workspace : FilePath) (tree : Tree) : Op → Except ReplayError Tree
  | .add op => applyAdd workspace tree op
  | .delete path => applyDelete workspace tree path
  | .update op => applyUpdate workspace tree op

def applyPatchEntry (workspace : FilePath) (tree : Tree) (entry : PatchEntry) :
    Except ReplayError Tree :=
  entry.ops.foldlM (applyOp workspace) tree

/-- `map_cwd`, where `none` is an entry without `cwd`. -/
def mapCwd (workspace : FilePath) (tree : Tree) (recordedCwd : Option Text) : FilePath :=
  let recorded := recordedCwd.getD []
  if recorded = [] then
    workspace
  else
    let candidate := joinPath workspace (recorded.dropWhile (· == '/'))
    if tree.isDir candidate then candidate else workspace

end Replay
end HermOS
