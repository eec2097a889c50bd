import HermOS.Library.Csv
import HermOS.Library.TextCodec
import HermOS.Library.TransitionSystem
import Mathlib.Logic.Function.Basic

/-!
# Preparing a snapshot

`prepare_snapshot` as the operations which it performs on the files of the snapshot directory.  A
call works on one operation for a while and then completes it; it may be killed in any state, which
ends the processes it has started too.  Images, the state of the virtual machine and the
configuration are whatever the external programs make them; each file carries the calls which
contributed to it.

What `debugfs` and `dumpe2fs` report about an image enters as the rows which `export_block_atlas.py`
computes from it.
-/

namespace HermOS
namespace Snapshot

open Python (Text)

/-- Contents of a file. -/
abbrev Bytes :=
  List UInt8

inductive SnapshotFile
  | rootfs
  | workspace
  | upper
  | activeUpper
  | config
  | state
  | mem
  | warmup
  | rootfsAtlas
  | workspaceAtlas
  | upperTmp
  | activeUpperTmp
  deriving DecidableEq

/-- A file and the calls which have written to it since it was created or emptied. -/
structure File where
  content : Bytes
  authors : List ℕ

/-- The snapshot directory. -/
abbrev Files :=
  SnapshotFile → Option File

/-- The drives whose blocks are exported. -/
inductive Drive
  | rootfs
  | workspace
  deriving DecidableEq

def Drive.image : Drive → SnapshotFile
  | .rootfs => .rootfs
  | .workspace => .workspace

def Drive.atlas : Drive → SnapshotFile
  | .rootfs => .rootfsAtlas
  | .workspace => .workspaceAtlas

/-! ### Readiness -/

/-- `is_file() and stat().st_size > 0`. -/
def hasData (files : Files) (name : SnapshotFile) : Bool :=
  match files name with
  | none => false
  | some file => !file.content.isEmpty

def snapshotReady (files : Files) : Bool :=
  [.rootfs, .workspace, .upper, .activeUpper, .config, .state, .mem, .warmup].all (hasData files)

def snapshotAtlasReady (files : Files) : Bool :=
  [.rootfsAtlas, .workspaceAtlas].all (hasData files)

/-! ### The atlas -/

def atlasFieldnames : List Text :=
  ["drive_id".toList, "block_id".toList, "class".toList, "path".toList, "inode".toList,
    "logical_block".toList]

/-- What `write_rows` prints: the rows in the order of their blocks. -/
def writeRows (rowsByBlock : List (ℕ × List Text)) : Text :=
  Csv.printRow ['\r', '\n'] atlasFieldnames ++
    ((rowsByBlock.mergeSort fun left right => left.1 ≤ right.1).map (·.2)).flatMap
      (Csv.printRow ['\r', '\n'])

/-- The rows which `export_block_atlas.py` computes for an image. -/
abbrev RowsByBlock :=
  Drive → Bytes → List (ℕ × List Text)

/-- The complete output of `export_block_atlas.py` for an image. -/
def exportedAtlas (rows : RowsByBlock) (drive : Drive) (image : Bytes) : Bytes :=
  Codec.utf8 (writeRows (rows drive image))

/-! ### Operations -/

/-- Operations on the snapshot directory. -/
inductive Op
  | unlink (name : SnapshotFile)
  /-- A command or a virtual machine which writes to these files. -/
  | command (names : List SnapshotFile)
  /-- `cp` from the root file system of the host's assets. -/
  | cpRootfs (target : SnapshotFile)
  | cp (source target : SnapshotFile)
  | replace (source target : SnapshotFile)
  | writeText (name : SnapshotFile) (text : Bytes)
  | exportAtlas (drive : Drive)

/-- The authors of a file which a call writes to in place. -/
def authorsOf (file : Option File) : List ℕ :=
  match file with
  | none => []
  | some file => file.authors

/-- The call has changed nothing but these files, each of them in any way. -/
def Changes (call : ℕ) (names : List SnapshotFile) (before after : Files) : Prop :=
  ∀ name, after name = before name ∨
    name ∈ names ∧ ∃ content, after name = some ⟨content, call :: authorsOf (before name)⟩

section Operations

variable (rows : RowsByBlock) (call : ℕ)

/-- What an operation may leave behind before it is complete. -/
def Op.Works (op : Op) (before after : Files) : Prop :=
  match op with
  | .unlink _ | .replace _ _ => False
  | .command names => Changes call names before after
  | .cpRootfs target =>
      ∃ part, after = Function.update before target (some ⟨part, [call]⟩)
  | .cp source target =>
      ∃ file part, before source = some file ∧
        after = Function.update before target (some ⟨part, call :: file.authors⟩)
  | .writeText name _ => after = Function.update before name (some ⟨[], [call]⟩)
  | .exportAtlas drive =>
      ∃ image part, before drive.image = some image ∧
        part <+: exportedAtlas rows drive image.content ∧
        after = Function.update before drive.atlas (some ⟨part, [call]⟩)

/-- What a complete operation leaves behind. -/
def Op.Completes (op : Op) (before after : Files) : Prop :=
  match op with
  | .unlink name => after = Function.update before name none
  | .command names => Changes call names before after ∧ ∀ name ∈ names, (after name).isSome
  | .cpRootfs target =>
      ∃ content, after = Function.update before target (some ⟨content, [call]⟩)
  | .cp source target =>
      ∃ file, before source = some file ∧
        after = Function.update before target (some ⟨file.content, call :: file.authors⟩)
  | .replace source target =>
      ∃ file, before source = some file ∧
        after = Function.update (Function.update before source none) target (some file)
  | .writeText name text => after = Function.update before name (some ⟨text, [call]⟩)
  | .exportAtlas drive =>
      ∃ image, before drive.image = some image ∧
        after = Function.update before drive.atlas
          (some ⟨exportedAtlas rows drive image.content, [call]⟩)

end Operations

/-! ### `prepare_snapshot` -/

def makeExt4 (path : SnapshotFile) : List Op :=
  [.unlink path, .command [path], .command [path]]

def copyImage (src dst : SnapshotFile) : List Op :=
  [.unlink dst, .cp src dst]

def replaceImage (src dst tmp : SnapshotFile) : List Op :=
  [.unlink tmp, .cp src tmp, .replace tmp dst]

/-- `export_block_atlas`. -/
def exportBlockAtlas : List Op :=
  [.exportAtlas .rootfs, .exportAtlas .workspace]

def warmupText : Bytes :=
  Codec.utf8 "ok\n".toList

/-- The steps of `prepare_snapshot` up to the marker `warmup.done`. -/
def snapshotSteps : List Op :=
  [.unlink .state, .unlink .mem, .unlink .warmup, .unlink .rootfsAtlas, .unlink .workspaceAtlas] ++
    makeExt4 .workspace ++
    [.unlink .rootfs, .cpRootfs .rootfs] ++
    makeExt4 .upper ++
    [.command [.config]] ++
    -- the machine in which the workspace is cloned
    [.command [.rootfs, .workspace]] ++
    copyImage .upper .activeUpper ++
    [.command [.config]] ++
    -- the machine which is warmed up, then its snapshot
    [.command [.rootfs, .workspace, .activeUpper], .command [.state, .mem]] ++
    replaceImage .activeUpper .upper .upperTmp ++
    replaceImage .upper .activeUpper .activeUpperTmp ++
    [.writeText .warmup warmupText]

/-- The operations of one call, which looks at the files first. -/
def prepareSnapshot (files : Files) : List Op :=
  if snapshotReady files && snapshotAtlasReady files then []
  else if snapshotReady files then exportBlockAtlas
  else snapshotSteps ++ exportBlockAtlas

/-- The directory and the call in progress. -/
structure SnapshotState where
  files : Files
  calls : ℕ
  /-- Operations left to the call in progress. -/
  running : Option (List Op)

/-- Steps of a history of calls. -/
inductive SnapshotLabel
  | begin
  | work
  | complete
  | returns
  | killed
  deriving DecidableEq

inductive SnapshotStep (rows : RowsByBlock) :
    SnapshotState → SnapshotLabel → SnapshotState → Prop
  | begin {state : SnapshotState} :
      state.running = none →
      SnapshotStep rows state .begin
        { state with calls := state.calls + 1, running := some (prepareSnapshot state.files) }
  | work {state : SnapshotState} {op : Op} {rest : List Op} {files : Files} :
      state.running = some (op :: rest) → op.Works rows state.calls state.files files →
      SnapshotStep rows state .work { state with files := files }
  | complete {state : SnapshotState} {op : Op} {rest : List Op} {files : Files} :
      state.running = some (op :: rest) → op.Completes rows state.calls state.files files →
      SnapshotStep rows state .complete { state with files := files, running := some rest }
  | returns {state : SnapshotState} :
      state.running = some [] →
      SnapshotStep rows state .returns { state with running := none }
  | killed {state : SnapshotState} {rest : List Op} :
      state.running = some rest →
      SnapshotStep rows state .killed { state with running := none }

def snapshotCalls (rows : RowsByBlock) : TransitionSystem SnapshotState SnapshotLabel where
  Initial state := state = ⟨fun _ => none, 0, none⟩
  Step := SnapshotStep rows

/-! ### Crash consistency -/

/-- The atlas of a drive is the complete output for its image. -/
def Exported (rows : RowsByBlock) (files : Files) (drive : Drive) : Prop :=
  ∃ image atlas, files drive.image = some image ∧ files drive.atlas = some atlas ∧
    atlas.content = exportedAtlas rows drive image.content

/-- Nobody but the call has contributed to the file. -/
def StemsFrom (call : ℕ) (file : Option File) : Prop :=
  ∃ written, file = some written ∧ written.authors ≠ [] ∧ ∀ author ∈ written.authors, author = call

def preparedFiles : List SnapshotFile :=
  [.state, .mem, .rootfs, .workspace, .upper, .activeUpper, .warmup]

/-- The files stem from one call, which has written its marker. -/
def Prepared (files : Files) (call : ℕ) : Prop :=
  hasData files .warmup = true ∧ ∀ name ∈ preparedFiles, StemsFrom call (files name)

/-- What a call which returns promises. -/
structure Consistent (rows : RowsByBlock) (files : Files) : Prop where
  atlases : ∀ drive, Exported rows files drive
  prepared : ∃ call, Prepared files call

/-- A call is not killed while the atlas of the workspace is begun and incomplete. -/
def KeepsAtlas (rows : RowsByBlock) (state : SnapshotState) (label : SnapshotLabel) : Prop :=
  label = .killed → state.running = some [.exportAtlas .workspace] →
    hasData state.files .workspaceAtlas = true → Exported rows state.files .workspace

end Snapshot
end HermOS
