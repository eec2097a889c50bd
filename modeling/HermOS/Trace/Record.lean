import HermOS.Library.PythonText
import Mathlib.Data.Int.Range

/-!
# The block trace

`trace.rs` appends one line to the trace file for each disk request; `collect_first_read_blocks.py`
and `collect_file_reads.py` read the file back.  The file is its decoded text: a drive id is valid
UTF-8, so the decoder ignores nothing.
-/

namespace HermOS
namespace Trace

open Python (Text)

/-- A drive of a lower image, and a block on it. -/
abbrev Key :=
  Text × ℤ

instance : LawfulBEq Key :=
  inferInstance

/-- Text which neither `split(",")` nor `splitlines()` breaks. -/
def Plain (text : Text) : Prop :=
  ',' ∉ text ∧ Python.Unbroken text

instance (text : Text) : Decidable (Plain text) :=
  inferInstanceAs (Decidable (_ ∧ _))

example : ∀ op ∈ ["read".toList, "write".toList, "flush".toList], Plain op := by decide

structure Call where
  driveId : Text
  op : Text
  offset : UInt64
  length : UInt32
  /-- `SystemTime::now().duration_since(UNIX_EPOCH)` in nanoseconds, none before 1970. -/
  now : Option (BitVec 128)
  /-- Drive ids have no comma and no line separator. -/
  plain_driveId : Plain driveId
  /-- Nor have the operations which `Request::process` records. -/
  plain_op : Plain op

/-- `FC_BLOCK_TRACE_DRIVE`; the path of the file is left out. -/
structure BlockTrace where
  driveFilter : Option Text

/-- The call is not filtered out. -/
def BlockTrace.records (config : BlockTrace) (call : Call) : Bool :=
  match config.driveFilter with
  | some filter => filter == call.driveId
  | none => true

def timestampNs (call : Call) : ℕ :=
  (call.now.getD 0).toNat

/-- What `writeln!` writes, without its line end. -/
def traceLine (call : Call) : Text :=
  [','].intercalate [Python.decimal (timestampNs call), call.driveId, call.op,
    Python.decimal call.offset.toNat, Python.decimal call.length.toNat]

/-- `record`, on the text of the trace file. -/
def record (config : Option BlockTrace) (file : Text) (call : Call) : Text :=
  match config with
  | none => file
  | some config =>
      if config.records call then file ++ (traceLine call ++ ['\n']) else file

/-- `LOWER_DRIVE_IDS`. -/
def lowerDriveIds : List Text :=
  ["rootfs".toList, "workspace".toList]

/-- `read_text(..).splitlines()`. -/
def readLines (file : Text) : List Text :=
  Python.splitLines (Python.universalNewlines file)

/-- The keys which the body of `iter_blocks` visits for a line. -/
def iterBlocksLine (blockSize : ℤ) (line : Text) : List Key :=
  match Python.split ',' line with
  | [_timestampNs, driveId, op, offset, length] =>
      if op ≠ "read".toList then
        []
      else if driveId ∉ lowerDriveIds then
        []
      else
        match Python.int offset, Python.int length with
        | some offset, some length =>
            if length ≤ 0 then
              []
            else
              let start := Int.fdiv offset blockSize
              let stop := Int.fdiv (offset + length - 1) blockSize
              (Int.range start (stop + 1)).map (driveId, ·)
        | _, _ => []
  | _ => []

/-- The set `seen` and the keys yielded so far. -/
structure Emitted where
  seen : List Key
  blocks : List Key

def Emitted.visit (emitted : Emitted) (key : Key) : Emitted :=
  if key ∈ emitted.seen then emitted
  else ⟨key :: emitted.seen, emitted.blocks ++ [key]⟩

/-- `iter_blocks` of `collect_first_read_blocks.py`. -/
def iterBlocks (file : Text) (blockSize : ℤ) : List Key :=
  ((readLines file).foldl
    (fun emitted line => (iterBlocksLine blockSize line).foldl Emitted.visit emitted)
      ⟨[], []⟩).blocks

def iterReadBlocksLine (blockSize : ℤ) (line : Text) : List (ℤ × Key) :=
  match Python.split ',' line with
  | [timestampNs, driveId, op, offset, length] =>
      if op ≠ "read".toList then
        []
      else
        match Python.int timestampNs, Python.int offset, Python.int length with
        | some timestampNs, some offset, some length =>
            if length ≤ 0 then
              []
            else
              let start := Int.fdiv offset blockSize
              let stop := Int.fdiv (offset + length - 1) blockSize
              (Int.range start (stop + 1)).map (timestampNs, driveId, ·)
        | _, _, _ => []
  | _ => []

/-- `iter_read_blocks` of `collect_file_reads.py`. -/
def iterReadBlocks (file : Text) (blockSize : ℤ) : List (ℤ × Key) :=
  (readLines file).flatMap (iterReadBlocksLine blockSize)

end Trace
end HermOS
