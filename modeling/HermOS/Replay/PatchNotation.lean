import HermOS.Replay.PatchGrammar
import Mathlib.Data.List.Chain

/-!
# The notation of patches

A list of operations is written down as the lines of a patch.  `parse_patch` reads the list back
exactly when no text in it has a character at which `str.splitlines` breaks: a line of a file which
contains a form feed, say, is cut in two, while the replayer cuts files at line feeds only.
-/

namespace HermOS
namespace Replay

open Python (Text)

/-! ### Writing operations down -/

/-- The first character of a line of a block. -/
def BlockKind.mark : BlockKind → Char
  | .context => ' '
  | .add => '+'
  | .delete => '-'

/-- The lines of blocks, each with the kind of its block. -/
def entries (blocks : List Block) : List (BlockKind × Text) :=
  blocks.flatMap fun block => block.lines.map (block.kind, ·)

def entryLine (entry : BlockKind × Text) : Text :=
  entry.1.mark :: entry.2

def Hunk.patchLines (hunk : Hunk) : List Text :=
  hunk.header :: (entries hunk.blocks).map entryLine

def endLines (endOfFile : Bool) : List Text :=
  if endOfFile then [endOfFileMark] else []

def Op.patchLines : Op → List Text
  | .update op =>
      (updateFile ++ op.path) :: (op.moveTo.toList.map (moveToHeader ++ ·) ++
        (op.hunks.flatMap Hunk.patchLines ++ endLines op.endOfFile))
  | .add op =>
      (addFile ++ op.path) :: ((entries op.blocks).map entryLine ++ endLines op.endOfFile)
  | .delete path => [deleteFile ++ path]

def patchLines (ops : List Op) : List Text :=
  beginPatch :: ops.flatMap Op.patchLines ++ [endPatch]

/-- The text of a patch, which may end in a line feed. -/
def renderPatch (terminated : Bool) (ops : List Op) : Text :=
  Python.join '\n' (patchLines ops) ++ if terminated then ['\n'] else []

/-! ### The operations which are written down -/

/-- Blocks have lines, and adjacent ones differ in kind. -/
structure Grouped (blocks : List Block) : Prop where
  lines : ∀ block ∈ blocks, block.lines ≠ []
  alternate : blocks.IsChain fun block next => block.kind ≠ next.kind

/-- A path without white space around it. -/
def Stripped (path : Text) : Prop :=
  Python.strip path = path

/-- The form of the operations of `parse_patch`. -/
def Op.Emitted : Op → Prop
  | .update op => Stripped op.path ∧ (∀ newPath ∈ op.moveTo, Stripped newPath) ∧
      ∀ hunk ∈ op.hunks, Python.startsWith "@@".toList hunk.header = true ∧ Grouped hunk.blocks
  | .add op => Stripped op.path ∧ Grouped op.blocks ∧ ∀ block ∈ op.blocks, block.kind = .add
  | .delete path => Stripped path

/-- The paths and hunk headers of an operation. -/
def Op.headings : Op → List Text
  | .update op => op.path :: (op.moveTo.toList ++ op.hunks.map (·.header))
  | .add op => [op.path]
  | .delete path => [path]

def Op.blocks : Op → List Block
  | .update op => op.hunks.flatMap (·.blocks)
  | .add op => op.blocks
  | .delete _ => []

/-- The paths, headers and lines of an operation. -/
def Op.texts (op : Op) : List Text :=
  op.headings ++ op.blocks.flatMap (·.lines)

/-- No text of the operation breaks. -/
def Op.Unbroken (op : Op) : Prop :=
  ∀ text ∈ op.texts, Python.Unbroken text

/-! ### The lines of blocks are grouped again -/

theorem appendBlock_same (blocks : List Block) (kind : BlockKind) (lines : List Text)
    (text : Text) :
    appendBlock (blocks ++ [⟨kind, lines⟩]) kind text = blocks ++ [⟨kind, lines ++ [text]⟩] := by
  simp [appendBlock]

theorem appendBlock_other {blocks : List Block} {kind : BlockKind}
    (other : ∀ last ∈ blocks.getLast?, last.kind ≠ kind) (text : Text) :
    appendBlock blocks kind text = blocks ++ [⟨kind, [text]⟩] := by
  unfold appendBlock
  split
  next last found => rw [if_neg (other last found)]
  next none =>
    rw [List.getLast?_eq_none_iff] at none
    rw [none, List.nil_append]

def appendEntry (blocks : List Block) (entry : BlockKind × Text) : List Block :=
  appendBlock blocks entry.1 entry.2

theorem appendEntry_block (blocks : List Block) (kind : BlockKind) (lines more : List Text) :
    (more.map (kind, ·)).foldl appendEntry (blocks ++ [⟨kind, lines⟩]) =
      blocks ++ [⟨kind, lines ++ more⟩] := by
  induction more generalizing lines with
  | nil => simp
  | cons text more ih =>
      rw [List.map_cons, List.foldl_cons, appendEntry, appendBlock_same, ih]
      simp

theorem appendEntry_blocks {front blocks : List Block} (lines : ∀ block ∈ blocks, block.lines ≠ [])
    (alternate : (front ++ blocks).IsChain fun block next => block.kind ≠ next.kind) :
    (entries blocks).foldl appendEntry front = front ++ blocks := by
  induction blocks generalizing front with
  | nil => simp [entries]
  | cons block blocks ih =>
      obtain ⟨kind, _ | ⟨text, more⟩⟩ := block
      · exact absurd rfl (lines _ List.mem_cons_self)
      · have other : ∀ last ∈ front.getLast?, last.kind ≠ kind := fun last found =>
          (List.isChain_append.mp alternate).2.2 last found _ rfl
        have later : (entries blocks).foldl appendEntry (front ++ [⟨kind, text :: more⟩]) =
            front ++ [⟨kind, text :: more⟩] ++ blocks :=
          ih (fun block inside => lines block (List.mem_cons_of_mem _ inside))
            (by simpa using alternate)
        rw [entries, List.flatMap_cons, List.foldl_append, List.map_cons, List.foldl_cons,
          appendEntry, appendBlock_other other, appendEntry_block]
        simpa [entries] using later

theorem Grouped.appendEntry {blocks : List Block} (grouped : Grouped blocks) :
    (entries blocks).foldl appendEntry [] = blocks :=
  appendEntry_blocks grouped.lines (by simpa using grouped.alternate)

/-! ### The body of an operation is read back -/

theorem entryLine_ne_mark (entry : BlockKind × Text) : entryLine entry ≠ endOfFileMark := by
  intro same
  have first : entry.1.mark = '*' := (List.cons.inj same).1
  revert first
  cases entry.1 with
  | context | add | delete => decide

theorem updateLine_entry (op : UpdateOp) (entry : BlockKind × Text) :
    updateLine op (entryLine entry) =
      .ok { op with hunks := appendHunkLine op.hunks entry.1 entry.2 } := by
  have plain : Python.startsWith "@@".toList (entryLine entry) ≠ true := by
    have other : entry.1.mark ≠ '@' := by
      cases entry.1 with
      | context | add | delete => decide
    rw [entryLine, startsWith_head (d := '@') rfl other]
    exact Bool.false_ne_true
  unfold updateLine
  rw [if_neg (entryLine_ne_mark entry), if_neg plain]
  obtain ⟨kind, text⟩ := entry
  cases kind with
  | context | add | delete => rfl

theorem updateLine_entries {op : UpdateOp} {front : List Hunk} {current : Hunk}
    (here : op.hunks = front ++ [current]) (more : List (BlockKind × Text)) :
    (more.map entryLine).foldlM updateLine op =
      .ok { op with
        hunks := front ++ [{ current with blocks := more.foldl appendEntry current.blocks }] } := by
  induction more generalizing op current with
  | nil =>
      rw [List.foldl_nil, ← here]
      rfl
  | cons entry more ih =>
      have next : appendHunkLine op.hunks entry.1 entry.2 =
          front ++ [{ current with blocks := appendEntry current.blocks entry }] := by
        simp [appendHunkLine, here, Replay.appendEntry]
      rw [List.map_cons, List.foldlM_cons, updateLine_entry, next]
      exact @ih { op with
        hunks := front ++ [{ current with blocks := appendEntry current.blocks entry }] } _ rfl

theorem updateLine_hunk (op : UpdateOp) {hunk : Hunk}
    (header : Python.startsWith "@@".toList hunk.header = true) (grouped : Grouped hunk.blocks) :
    hunk.patchLines.foldlM updateLine op = .ok { op with hunks := op.hunks ++ [hunk] } := by
  have opened : updateLine op hunk.header =
      .ok { op with hunks := op.hunks ++ [⟨hunk.header, []⟩] } := by
    have other : hunk.header ≠ endOfFileMark := by
      intro same
      rw [same] at header
      exact absurd header (by decide)
    unfold updateLine
    rw [if_neg other, if_pos header]
  rw [Hunk.patchLines, List.foldlM_cons, opened]
  refine (@updateLine_entries { op with hunks := op.hunks ++ [⟨hunk.header, []⟩] } _ _ rfl
    (entries hunk.blocks)).trans ?_
  simp only [grouped.appendEntry]

theorem updateLine_hunks (op : UpdateOp) {hunks : List Hunk}
    (emitted : ∀ hunk ∈ hunks,
      Python.startsWith "@@".toList hunk.header = true ∧ Grouped hunk.blocks) :
    (hunks.flatMap Hunk.patchLines).foldlM updateLine op =
      .ok { op with hunks := op.hunks ++ hunks } := by
  induction hunks generalizing op with
  | nil =>
      rw [List.append_nil]
      rfl
  | cons hunk hunks ih =>
      obtain ⟨header, grouped⟩ := emitted hunk List.mem_cons_self
      rw [List.flatMap_cons, List.foldlM_append, updateLine_hunk op header grouped]
      refine (ih { op with hunks := op.hunks ++ [hunk] }
        fun hunk inside => emitted hunk (List.mem_cons_of_mem _ inside)).trans ?_
      simp

theorem updateLine_endLines (op : UpdateOp) (endOfFile : Bool) :
    (endLines endOfFile).foldlM updateLine op =
      .ok { op with endOfFile := op.endOfFile || endOfFile } := by
  cases endOfFile with
  | false => simp [endLines]; rfl
  | true => simp [endLines, updateLine]

theorem addLine_entries {op : AddOp} {more : List (BlockKind × Text)}
    (added : ∀ entry ∈ more, entry.1 = .add) :
    (more.map entryLine).foldlM addLine op =
      .ok { op with blocks := more.foldl appendEntry op.blocks } := by
  induction more generalizing op with
  | nil => rfl
  | cons entry more ih =>
      obtain ⟨kind, text⟩ := entry
      obtain rfl : kind = .add := added _ List.mem_cons_self
      have step : addLine op (entryLine (.add, text)) =
          .ok { op with blocks := appendEntry op.blocks (.add, text) } := by
        unfold addLine
        rw [if_neg (entryLine_ne_mark _)]
        rfl
      rw [List.map_cons, List.foldlM_cons, step]
      exact ih fun entry inside => added entry (List.mem_cons_of_mem _ inside)

theorem addLine_endLines (op : AddOp) (endOfFile : Bool) :
    (endLines endOfFile).foldlM addLine op =
      .ok { op with endOfFile := op.endOfFile || endOfFile } := by
  cases endOfFile with
  | false => simp [endLines]; rfl
  | true => simp [endLines, addLine]

/-! ### The operations are read back -/

variable {done : List Op} {lines : List Text}

/-- Lines which an operation takes are read while it is open. -/
theorem advance_body {Body : Type} {make : Body → Pending}
    {step : Body → Text → Except ParseError Body}
    (taken : ∀ {op line after}, step op line = .ok after →
      parseLine (make op) line = .ok ([], make after))
    {op after : Body} (body : lines.foldlM step op = .ok after) :
    lines.foldlM advance (done, make op) = .ok (done, make after) := by
  induction lines generalizing op with
  | nil =>
      cases body
      rfl
  | cons line lines ih =>
      rw [List.foldlM_cons] at body ⊢
      obtain ⟨middle, first, rest⟩ := FallibleFold.bind_ok body
      rw [advance_of_parseLine (taken first), List.append_nil]
      exact ih rest

theorem parseLine_update {op after : UpdateOp} {line : Text}
    (body : updateLine op line = .ok after) :
    parseLine (.update op) line = .ok ([], .update after) :=
  continueOp_body (startsOp_updateLine (updateLine_ok_iff.mp ⟨after, body⟩)) (by rw [body]; rfl)

theorem parseLine_updateHeader {op after : UpdateOp} {line : Text}
    (body : updateLine op line = .ok after) :
    parseLine (.updateHeader op) line = .ok ([], .update after) := by
  have inside := updateLine_ok_iff.mp ⟨after, body⟩
  rw [parseLine, if_neg (by simp [moveTo_updateLine inside])]
  exact continueOp_body (startsOp_updateLine inside) (by rw [body]; rfl)

theorem parseLine_add {op after : AddOp} {line : Text} (body : addLine op line = .ok after) :
    parseLine (.add op) line = .ok ([], .add after) :=
  continueOp_body (startsOp_addLine (addLine_ok_iff.mp ⟨after, body⟩)) (by rw [body]; rfl)

/-- The lines of an update do not move it. -/
theorem advance_updateHeader {op after : UpdateOp} (body : lines.foldlM updateLine op = .ok after) :
    ∃ pending, lines.foldlM advance (done, .updateHeader op) = .ok (done, pending) ∧
      pending.finish = [.update after] := by
  cases lines with
  | nil =>
      cases body
      exact ⟨_, rfl, rfl⟩
  | cons line lines =>
      rw [List.foldlM_cons] at body
      obtain ⟨middle, first, rest⟩ := FallibleFold.bind_ok body
      refine ⟨.update after, ?_, rfl⟩
      rw [List.foldlM_cons, advance_of_parseLine (parseLine_updateHeader first), List.append_nil]
      exact advance_body parseLine_update rest

theorem advance_header {parsed next : List Op × Pending} {line : Text}
    (header : startsOp line = true) (start : startOp line = .ok next) :
    advance parsed line = .ok (parsed.1 ++ parsed.2.finish ++ next.1, next.2) := by
  rw [advance_of_parseLine (parseLine_header header start), List.append_assoc]

theorem pathAfter_append {header path : Text} (stripped : Stripped path) :
    pathAfter header (header ++ path) = path := by
  rw [pathAfter, List.drop_left]
  exact stripped

theorem advance_moveTo {op : UpdateOp} {newPath : Text} (stripped : Stripped newPath) :
    advance (done, .updateHeader op) (moveToHeader ++ newPath) =
      .ok (done, .update { op with moveTo := some newPath }) := by
  have taken : parseLine (.updateHeader op) (moveToHeader ++ newPath) =
      .ok ([], .update { op with moveTo := some newPath }) := by
    rw [parseLine, if_pos (Python.startsWith_append _ _), pathAfter_append stripped]
  rw [advance_of_parseLine taken, List.append_nil]

/-- The lines of an update behind its header. -/
theorem advance_updateLines {op : UpdateOp} (emitted : (Op.update op).Emitted) :
    ∃ pending, (op.moveTo.toList.map (moveToHeader ++ ·) ++
        (op.hunks.flatMap Hunk.patchLines ++ endLines op.endOfFile)).foldlM advance
          (done, .updateHeader ⟨op.path, none, [], false⟩) = .ok (done, pending) ∧
      pending.finish = [.update op] := by
  obtain ⟨path, moveTo, hunks, endOfFile⟩ := op
  obtain ⟨_, newPath, emitted⟩ := emitted
  have body : ∀ moveTo, (hunks.flatMap Hunk.patchLines ++ endLines endOfFile).foldlM updateLine
      ⟨path, moveTo, [], false⟩ = .ok ⟨path, moveTo, hunks, endOfFile⟩ := by
    intro moveTo
    rw [List.foldlM_append, updateLine_hunks _ emitted]
    exact (updateLine_endLines _ endOfFile).trans (by simp)
  cases moveTo with
  | none => exact advance_updateHeader (body none)
  | some newName =>
      refine ⟨.update ⟨path, some newName, hunks, endOfFile⟩, ?_, rfl⟩
      simp only [Option.toList_some, List.map_cons, List.map_nil, List.singleton_append,
        List.foldlM_cons, advance_moveTo (newPath newName rfl)]
      exact advance_body parseLine_update (body (some newName))

/-- The lines of an operation are read back. -/
theorem advance_op {op : Op} (emitted : op.Emitted) (parsed : List Op × Pending) :
    ∃ after, op.patchLines.foldlM advance parsed = .ok after ∧
      after.1 ++ after.2.finish = parsed.1 ++ parsed.2.finish ++ [op] := by
  cases op with
  | update op =>
      have header : startsOp (updateFile ++ op.path) = true := by
        simp [startsOp, Python.startsWith_append]
      have start : startOp (updateFile ++ op.path) =
          .ok ([], .updateHeader ⟨op.path, none, [], false⟩) := by
        rw [startOp, if_pos (Python.startsWith_append _ _), pathAfter_append emitted.1]
      obtain ⟨pending, ended, finish⟩ :=
        @advance_updateLines (parsed.1 ++ parsed.2.finish ++ []) op emitted
      rw [Op.patchLines, List.foldlM_cons, advance_header header start]
      exact ⟨_, ended, by simp [finish]⟩
  | add op =>
      obtain ⟨path, grouped, added⟩ := emitted
      have header : startsOp (addFile ++ op.path) = true := by
        simp [startsOp, Python.startsWith_append]
      have other : Python.startsWith updateFile (addFile ++ op.path) ≠ true := by
        rw [startsWith_exclusive (by decide) (by decide) (Python.startsWith_append addFile op.path)]
        exact Bool.false_ne_true
      have start : startOp (addFile ++ op.path) = .ok ([], .add ⟨op.path, [], false⟩) := by
        rw [startOp, if_neg other, if_pos (Python.startsWith_append _ _), pathAfter_append path]
      have kinds : ∀ entry ∈ entries op.blocks, entry.1 = .add := by
        intro entry inside
        obtain ⟨block, member, here⟩ := List.mem_flatMap.mp inside
        obtain ⟨text, _, rfl⟩ := List.mem_map.mp here
        exact added block member
      have body : ((entries op.blocks).map entryLine ++ endLines op.endOfFile).foldlM addLine
          ⟨op.path, [], false⟩ = .ok op := by
        rw [List.foldlM_append, addLine_entries kinds, grouped.appendEntry]
        exact (addLine_endLines _ op.endOfFile).trans (by simp)
      rw [Op.patchLines, List.foldlM_cons, advance_header header start]
      exact ⟨_, @advance_body _ _ _ .add _ parseLine_add _ _ body, by simp [Pending.finish]⟩
  | delete path =>
      have header : startsOp (deleteFile ++ path) = true := by
        simp [startsOp, Python.startsWith_append]
      have others : Python.startsWith updateFile (deleteFile ++ path) ≠ true ∧
          Python.startsWith addFile (deleteFile ++ path) ≠ true := by
        constructor <;>
          rw [startsWith_exclusive (by decide) (by decide)
            (Python.startsWith_append deleteFile path)] <;>
          exact Bool.false_ne_true
      have start : startOp (deleteFile ++ path) = .ok ([.delete path], .outside) := by
        rw [startOp, if_neg others.1, if_neg others.2, if_pos (Python.startsWith_append _ _),
          pathAfter_append emitted]
      rw [Op.patchLines, List.foldlM_cons, advance_header header start]
      exact ⟨_, rfl, by simp [Pending.finish]⟩

theorem advance_ops {ops : List Op} (emitted : ∀ op ∈ ops, op.Emitted)
    (parsed : List Op × Pending) :
    ∃ after, (ops.flatMap Op.patchLines).foldlM advance parsed = .ok after ∧
      after.1 ++ after.2.finish = parsed.1 ++ parsed.2.finish ++ ops := by
  induction ops generalizing parsed with
  | nil => exact ⟨parsed, rfl, (List.append_nil _).symm⟩
  | cons op ops ih =>
      obtain ⟨middle, first, read⟩ := advance_op (emitted op List.mem_cons_self) parsed
      obtain ⟨after, rest, whole⟩ :=
        ih (fun op inside => emitted op (List.mem_cons_of_mem _ inside)) middle
      refine ⟨after, ?_, ?_⟩
      · rw [List.flatMap_cons, List.foldlM_append, first]
        exact rest
      · rw [whole, read]
        simp

/-! ### The text of a patch -/

theorem unbroken_entries {blocks : List Block} (unbroken : Lines blocks) :
    ∀ line ∈ (entries blocks).map entryLine, Python.Unbroken line := by
  intro line inside
  obtain ⟨entry, member, rfl⟩ := List.mem_map.mp inside
  obtain ⟨block, block_inside, here⟩ := List.mem_flatMap.mp member
  obtain ⟨text, text_inside, rfl⟩ := List.mem_map.mp here
  have mark : Python.Unbroken [block.kind.mark] := by
    cases block.kind with
    | context | add | delete => decide
  exact Python.unbroken_append.mpr ⟨mark, unbroken block block_inside text text_inside⟩

theorem unbroken_endLines (endOfFile : Bool) :
    ∀ line ∈ endLines endOfFile, Python.Unbroken line := by
  cases endOfFile with
  | false => exact fun line inside => by cases inside
  | true => exact List.forall_mem_singleton.mpr (by decide)

theorem unbroken_iff {op : Op} :
    op.Unbroken ↔ (∀ text ∈ op.headings, Python.Unbroken text) ∧ Lines op.blocks := by
  rw [Op.Unbroken, Op.texts, List.forall_mem_append, List.forall_mem_flatMap]
  rfl

theorem unbroken_header {header path : Text} (fixed : Python.Unbroken header)
    (unbroken : Python.Unbroken path) : Python.Unbroken (header ++ path) :=
  Python.unbroken_append.mpr ⟨fixed, unbroken⟩

theorem unbroken_patchLines {op : Op} (unbroken : op.Unbroken) :
    ∀ line ∈ op.patchLines, Python.Unbroken line := by
  obtain ⟨headings, lines⟩ := unbroken_iff.mp unbroken
  cases op with
  | update op =>
      obtain ⟨path, rest⟩ := List.forall_mem_cons.mp headings
      obtain ⟨newPath, headers⟩ := List.forall_mem_append.mp rest
      refine List.forall_mem_cons.mpr ⟨unbroken_header (by decide) path,
        List.forall_mem_append.mpr ⟨?_, List.forall_mem_append.mpr
          ⟨?_, unbroken_endLines op.endOfFile⟩⟩⟩
      · exact List.forall_mem_map.mpr fun name inside =>
          unbroken_header (by decide) (newPath name inside)
      · intro line inside
        obtain ⟨hunk, member, here⟩ := List.mem_flatMap.mp inside
        have blocks : Lines hunk.blocks := fun block inside =>
          lines block (List.mem_flatMap.mpr ⟨hunk, member, inside⟩)
        have header := headers hunk.header (List.mem_map_of_mem member)
        exact List.forall_mem_cons.mpr ⟨header, unbroken_entries blocks⟩ line here
  | add op =>
      have path := List.forall_mem_singleton.mp headings
      exact List.forall_mem_cons.mpr ⟨unbroken_header (by decide) path,
        List.forall_mem_append.mpr ⟨unbroken_entries lines, unbroken_endLines op.endOfFile⟩⟩
  | delete path =>
      have path := List.forall_mem_singleton.mp headings
      exact List.forall_mem_singleton.mpr (unbroken_header (by decide) path)

theorem splitLines_renderPatch {ops : List Op} (unbroken : ∀ op ∈ ops, op.Unbroken)
    (terminated : Bool) : Python.splitLines (renderPatch terminated ops) = patchLines ops := by
  have front : ∀ line ∈ beginPatch :: ops.flatMap Op.patchLines, Python.Unbroken line := by
    refine List.forall_mem_cons.mpr ⟨by decide, fun line inside => ?_⟩
    obtain ⟨op, member, here⟩ := List.mem_flatMap.mp inside
    exact unbroken_patchLines (unbroken op member) line here
  have last : Python.Unbroken endPatch := by decide
  rw [renderPatch, patchLines, Python.join_concat]
  cases terminated with
  | false =>
      rw [if_neg Bool.false_ne_true, List.append_nil]
      exact Python.splitLines_unlines_append front last (by decide)
  | true =>
      have lines := Python.splitLines_unlines
        (List.forall_mem_append.mpr ⟨front, List.forall_mem_singleton.mpr last⟩)
      rw [List.flatMap_append, List.flatMap_singleton] at lines
      rw [if_pos rfl, List.append_assoc]
      exact lines

/-! ### Parsed texts do not break -/

theorem unbroken_pathAfter {header line : Text} (unbroken : Python.Unbroken line) :
    Python.Unbroken (pathAfter header line) := fun c inside =>
  unbroken c (List.mem_of_mem_drop (Python.mem_of_mem_trim inside))

theorem header_appendHunkLine {hunks : List Hunk} {kind : BlockKind} {text : Text}
    (headers : ∀ hunk ∈ hunks, Python.Unbroken hunk.header) :
    ∀ hunk ∈ appendHunkLine hunks kind text, Python.Unbroken hunk.header := by
  intro hunk inside
  unfold appendHunkLine at inside
  split at inside
  next current found =>
    rcases List.mem_append.mp inside with old | new
    · exact headers hunk (List.dropLast_subset _ old)
    · obtain rfl := List.mem_singleton.mp new
      exact headers current (List.mem_of_getLast? found)
  next =>
    obtain rfl := List.mem_singleton.mp inside
    change Python.Unbroken "@@".toList
    decide

/-- The headings of an operation are lines. -/
def Op.Headed : Op → Prop
  | .update op => Python.Unbroken op.path ∧ (∀ newPath ∈ op.moveTo, Python.Unbroken newPath) ∧
      ∀ hunk ∈ op.hunks, Python.Unbroken hunk.header
  | .add op => Python.Unbroken op.path
  | .delete path => Python.Unbroken path

theorem updateLine_headed {op after : UpdateOp} {line : Text} (headed : (Op.update op).Headed)
    (unbroken : Python.Unbroken line) (accepted : updateLine op line = .ok after) :
    (Op.update after).Headed := by
  obtain ⟨path, newPath, headers⟩ := headed
  unfold updateLine at accepted
  split at accepted
  next =>
    cases accepted
    exact ⟨path, newPath, headers⟩
  next =>
    split at accepted
    next =>
      cases accepted
      exact ⟨path, newPath, List.forall_mem_append.mpr
        ⟨headers, List.forall_mem_singleton.mpr unbroken⟩⟩
    next =>
      split at accepted <;> cases accepted
      all_goals exact ⟨path, newPath, header_appendHunkLine headers⟩

theorem kept_headed (patch : Text) : Kept patch Op.Headed where
  opens line member started accepted := by
    have unbroken := Python.unbroken_splitLines patch line member
    unfold startOp at accepted
    split at accepted
    next =>
      cases accepted
      exact List.forall_mem_singleton.mpr ⟨unbroken_pathAfter unbroken, nofun, nofun⟩
    next =>
      split at accepted
      next =>
        cases accepted
        exact List.forall_mem_singleton.mpr (unbroken_pathAfter unbroken)
      next =>
        split at accepted <;> cases accepted
        exact List.forall_mem_singleton.mpr (unbroken_pathAfter unbroken)
  moves line member op headed _ := by
    obtain ⟨path, _, headers⟩ := headed
    refine ⟨path, ?_, headers⟩
    rintro newPath ⟨⟩
    exact unbroken_pathAfter (Python.unbroken_splitLines patch line member)
  updates line member _ _ headed accepted :=
    updateLine_headed headed (Python.unbroken_splitLines patch line member) accepted
  adds line member op after headed accepted := by
    unfold addLine at accepted
    split at accepted
    next =>
      cases accepted
      exact headed
    next =>
      split at accepted <;> cases accepted
      exact headed

/-- No text of a parsed operation breaks. -/
theorem parsePatch_unbroken {patch : Text} {ops : List Op} (accepted : parsePatch patch = .ok ops) :
    ∀ op ∈ ops, op.Unbroken := by
  intro op inside
  have headed := (kept_headed patch).parsePatch accepted op inside
  have wellFormed := parsePatch_wellFormed accepted op inside
  rw [unbroken_iff]
  cases op with
  | update op =>
      obtain ⟨path, newPath, headers⟩ := headed
      refine ⟨List.forall_mem_cons.mpr ⟨path, List.forall_mem_append.mpr
        ⟨fun name here => newPath name (Option.mem_toList.mp here),
          List.forall_mem_map.mpr headers⟩⟩, fun block inside => ?_⟩
      obtain ⟨hunk, member, here⟩ := List.mem_flatMap.mp inside
      exact wellFormed hunk member block here
  | add op => exact ⟨List.forall_mem_singleton.mpr headed, wellFormed.1⟩
  | delete path => exact ⟨List.forall_mem_singleton.mpr headed, lines_nil⟩

/-- `parse_patch` reads operations back exactly when no text in them breaks. -/
theorem parsePatch_renderPatch_iff {ops : List Op} (emitted : ∀ op ∈ ops, op.Emitted)
    (terminated : Bool) :
    parsePatch (renderPatch terminated ops) = .ok ops ↔ ∀ op ∈ ops, op.Unbroken := by
  refine ⟨parsePatch_unbroken, fun unbroken => ?_⟩
  have whole := splitLines_renderPatch unbroken terminated
  obtain ⟨after, loop, read⟩ := advance_ops emitted ([], .outside)
  rw [parsePatch_of_body whole loop, read]
  rfl

/-- Lines which imitate headers. -/
def imitatingOps : List Op :=
  [.update ⟨['a'], some ['b'], [⟨"@@ f".toList,
      [⟨.context, ["*** Add File: c".toList]⟩, ⟨.add, ["@@".toList]⟩]⟩], true⟩, .delete ['d']]

theorem parsePatch_renderPatch_imitating :
    parsePatch (renderPatch true imitatingOps) = .ok imitatingOps ↔
      ∀ op ∈ imitatingOps, op.Unbroken := by
  refine parsePatch_renderPatch_iff ?_ true
  refine List.forall_mem_cons.mpr ⟨⟨rfl, ?_, List.forall_mem_singleton.mpr ⟨rfl, ?_, ?_⟩⟩,
    List.forall_mem_singleton.mpr rfl⟩
  · rintro newPath ⟨⟩
    rfl
  · exact List.forall_mem_cons.mpr ⟨by decide, List.forall_mem_singleton.mpr (by decide)⟩
  · exact List.isChain_pair.mpr (by decide)

/-- A file with a form feed. -/
def feedingOps : List Op :=
  [.add ⟨['a'], [⟨.add, [['x', '\x0c', 'y']]⟩], false⟩]

/-- Line feeds are not all that must be kept out of the texts. -/
theorem not_parsePatch_renderPatch :
    ¬ ∀ (terminated : Bool) (ops : List Op), (∀ op ∈ ops, op.Emitted) →
      (∀ op ∈ ops, ∀ text ∈ op.texts, '\n' ∉ text) → (∀ op ∈ ops, [] ∉ op.headings) →
        parsePatch (renderPatch terminated ops) = .ok ops := by
  intro all
  have emitted : ∀ op ∈ feedingOps, op.Emitted :=
    List.forall_mem_singleton.mpr ⟨rfl, ⟨List.forall_mem_singleton.mpr (by decide),
      List.isChain_singleton _⟩, List.forall_mem_singleton.mpr rfl⟩
  have accepted := all true feedingOps emitted (List.forall_mem_singleton.mpr (by decide))
    (List.forall_mem_singleton.mpr (by decide))
  have unbroken := parsePatch_unbroken accepted _ (List.mem_singleton_self _)
  have feed : Python.Unbroken ['x', '\x0c', 'y'] := unbroken _ (by decide)
  exact absurd feed (by decide)

end Replay
end HermOS
