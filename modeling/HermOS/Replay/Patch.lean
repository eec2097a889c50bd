import HermOS.Library.PythonText

/-!
# Patches and replay entries

`parse_patch` and `clean_actions` of `parse_codex_history.py`.  The two nested loops of
`parse_patch` are one loop over the lines which remembers the operation it is inside.
-/

namespace HermOS
namespace Replay

open Python (Text)

inductive BlockKind
  | context
  | add
  | delete
  deriving DecidableEq

structure Block where
  kind : BlockKind
  lines : List Text
  deriving DecidableEq

structure Hunk where
  header : Text
  blocks : List Block
  deriving DecidableEq

structure UpdateOp where
  path : Text
  moveTo : Option Text
  hunks : List Hunk
  endOfFile : Bool
  deriving DecidableEq

structure AddOp where
  path : Text
  blocks : List Block
  endOfFile : Bool
  deriving DecidableEq

/-- An element of `"ops"`. -/
inductive Op
  | update (op : UpdateOp)
  | add (op : AddOp)
  | delete (path : Text)
  deriving DecidableEq

/-- The path of the file which an operation is about. -/
def Op.path : Op → Text
  | .update op => op.path
  | .add op => op.path
  | .delete path => path

structure ParseError where
  message : Text
  deriving DecidableEq

def beginPatch : Text := "*** Begin Patch".toList
def endPatch : Text := "*** End Patch".toList
def updateFile : Text := "*** Update File: ".toList
def addFile : Text := "*** Add File: ".toList
def deleteFile : Text := "*** Delete File: ".toList
def moveToHeader : Text := "*** Move to: ".toList
def endOfFileMark : Text := "*** End of File".toList

/-- `line.removeprefix(header).strip()`, for a line which starts with the header. -/
def pathAfter (header line : Text) : Text :=
  Python.strip (line.drop header.length)

/-- The line starts another operation. -/
def startsOp (line : Text) : Bool :=
  Python.startsWith updateFile line || Python.startsWith addFile line ||
    Python.startsWith deleteFile line

def appendBlock (blocks : List Block) (kind : BlockKind) (text : Text) : List Block :=
  match blocks.getLast? with
  | some last =>
      if last.kind = kind then blocks.dropLast ++ [⟨kind, last.lines ++ [text]⟩]
      else blocks ++ [⟨kind, [text]⟩]
  | none => [⟨kind, [text]⟩]

def appendHunkLine (hunks : List Hunk) (kind : BlockKind) (text : Text) : List Hunk :=
  match hunks.getLast? with
  | some current =>
      hunks.dropLast ++ [{ current with blocks := appendBlock current.blocks kind text }]
  | none => [⟨"@@".toList, appendBlock [] kind text⟩]

def updateLine (op : UpdateOp) (line : Text) : Except ParseError UpdateOp :=
  if line = endOfFileMark then
    .ok { op with endOfFile := true }
  else if Python.startsWith "@@".toList line then
    .ok { op with hunks := op.hunks ++ [⟨line, []⟩] }
  else
    match line with
    | ' ' :: text => .ok { op with hunks := appendHunkLine op.hunks .context text }
    | '+' :: text => .ok { op with hunks := appendHunkLine op.hunks .add text }
    | '-' :: text => .ok { op with hunks := appendHunkLine op.hunks .delete text }
    | _ => .error ⟨"unexpected patch line: ".toList ++ line⟩

def addLine (op : AddOp) (line : Text) : Except ParseError AddOp :=
  if line = endOfFileMark then
    .ok { op with endOfFile := true }
  else
    match line with
    | '+' :: text => .ok { op with blocks := appendBlock op.blocks .add text }
    | _ => .error ⟨"unexpected add-file line: ".toList ++ line⟩

/-- Where `parse_patch` is between two lines. -/
inductive Pending
  | outside
  /-- After an update header, where `*** Move to: ` may follow. -/
  | updateHeader (op : UpdateOp)
  | update (op : UpdateOp)
  | add (op : AddOp)

/-- The operation which is appended when its lines end. -/
def Pending.finish : Pending → List Op
  | .outside => []
  | .updateHeader op | .update op => [.update op]
  | .add op => [.add op]

/-- A line which must start an operation. -/
def startOp (line : Text) : Except ParseError (List Op × Pending) :=
  if Python.startsWith updateFile line then
    .ok ([], .updateHeader ⟨pathAfter updateFile line, none, [], false⟩)
  else if Python.startsWith addFile line then
    .ok ([], .add ⟨pathAfter addFile line, [], false⟩)
  else if Python.startsWith deleteFile line then
    .ok ([.delete (pathAfter deleteFile line)], .outside)
  else
    .error ⟨"unexpected patch header: ".toList ++ line⟩

/-- A line of the body of an operation, or the start of the next one. -/
def continueOp (pending : Pending) (body : Except ParseError Pending) (line : Text) :
    Except ParseError (List Op × Pending) :=
  if startsOp line then do
    let next ← startOp line
    return (pending.finish ++ next.1, next.2)
  else do
    let next ← body
    return ([], next)

/-- One line: the operations it completes, and where the parser is next. -/
def parseLine (pending : Pending) (line : Text) : Except ParseError (List Op × Pending) :=
  match pending with
  | .outside => startOp line
  | .updateHeader op =>
      if Python.startsWith moveToHeader line then
        .ok ([], .update { op with moveTo := some (pathAfter moveToHeader line) })
      else
        continueOp pending ((updateLine op line).map .update) line
  | .update op => continueOp pending ((updateLine op line).map .update) line
  | .add op => continueOp pending ((addLine op line).map .add) line

def parsePatch (patch : Text) : Except ParseError (List Op) :=
  let lines := Python.splitLines patch
  if lines.head? ≠ some beginPatch then
    .error ⟨"patch must start with '*** Begin Patch'".toList⟩
  else if lines.getLast? ≠ some endPatch then
    .error ⟨"patch must end with '*** End Patch'".toList⟩
  else do
    let parsed ← (lines.drop 1).dropLast.foldlM (fun (parsed : List Op × Pending) line => do
      let next ← parseLine parsed.2 line
      return (parsed.1 ++ next.1, next.2)) ([], .outside)
    return parsed.1 ++ parsed.2.finish

/-- An extracted action, with the fields which `clean_actions` reads. -/
inductive Action
  | command (cwd command : Option Text) (exitCode : Option ℤ) (status : Text)
  | applyPatch (cwd patch : Option Text) (status : Text)

structure PatchEntry where
  ops : List Op
  cwd : Option Text
  expectedStatus : Option Text

/-- An entry of the replay file. -/
inductive Entry
  | command (cmd : Text) (cwd : Option Text) (expectedExitCode : Option ℤ)
      (expectedStatus : Option Text)
  | applyPatch (entry : PatchEntry)

/-- `cwd` is emitted unless it is empty. -/
def emittedCwd (cwd : Option Text) : Option Text :=
  cwd.filter (· ≠ [])

def failed : Text := "failed".toList

/-- The entry which `clean_actions` emits for an action, if any. -/
def cleanAction : Action → Except ParseError (Option Entry)
  | .command cwd (some cmd) exitCode status =>
      .ok (some (.command cmd (emittedCwd cwd) exitCode
        (if status = failed ∧ exitCode = none then some failed else none)))
  | .applyPatch cwd (some patch) status => do
      let ops ← parsePatch patch
      return some (.applyPatch
        ⟨ops, emittedCwd cwd, if status = failed then some failed else none⟩)
  | _ => .ok none

def cleanActions (actions : List Action) : Except ParseError (List Entry) := do
  let cleaned ← actions.mapM cleanAction
  return cleaned.filterMap id

end Replay
end HermOS
