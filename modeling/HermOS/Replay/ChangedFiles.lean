import HermOS.Replay.PatchGrammar

/-!
# The changed files of a patch

`changed_files_from_patch` scans the lines of a patch for headers and remembers the path of the last
update.  It does not parse, but on a text which `parse_patch` accepts a line looks like a header
exactly where the parser expects one, so that the scan follows the parser line by line.
-/

namespace HermOS
namespace Replay

open Python (Text)

/-- An entry of the list. -/
inductive ChangedFile
  | update (path : Text)
  | add (path : Text)
  | delete (path : Text)
  | move (source path : Text)
  deriving DecidableEq

/-- The scan of a line: the entries so far, and `current_update`. -/
def scanLine (scanned : List ChangedFile × Option Text) (line : Text) :
    List ChangedFile × Option Text :=
  if Python.startsWith updateFile line then
    let path := pathAfter updateFile line
    (scanned.1 ++ [.update path], some path)
  else if Python.startsWith addFile line then
    (scanned.1 ++ [.add (pathAfter addFile line)], none)
  else if Python.startsWith deleteFile line then
    (scanned.1 ++ [.delete (pathAfter deleteFile line)], none)
  else if Python.startsWith moveToHeader line then
    (scanned.1 ++ [.move (scanned.2.getD []) (pathAfter moveToHeader line)], scanned.2)
  else scanned

def changedFilesFromPatch (patch : Text) : List ChangedFile :=
  ((Python.splitLines patch).foldl scanLine ([], none)).1

/-- The entries of an operation. -/
def Op.changedFiles : Op → List ChangedFile
  | .update op =>
      .update op.path :: (op.moveTo.map fun newPath => ChangedFile.move op.path newPath).toList
  | .add op => [.add op.path]
  | .delete path => [.delete path]

/-! ### Lines which make no entry -/

variable {line : Text} {scanned : List ChangedFile × Option Text}

theorem scanLine_quiet (plain : startsOp line = false)
    (still : Python.startsWith moveToHeader line = false) : scanLine scanned line = scanned := by
  simp only [startsOp, Bool.or_eq_false_iff] at plain
  obtain ⟨⟨no_update, no_add⟩, no_delete⟩ := plain
  simp [scanLine, no_update, no_add, no_delete, still]

/-- The body of an update makes no entry. -/
theorem scanLine_updateLine (body : UpdateLine line) : scanLine scanned line = scanned :=
  scanLine_quiet (startsOp_updateLine body) (moveTo_updateLine body)

/-- The body of an addition makes no entry. -/
theorem scanLine_addLine (body : AddLine line) : scanLine scanned line = scanned :=
  scanLine_quiet (startsOp_addLine body) (moveTo_addLine body)

/-! ### The scan follows the parser -/

/-- The scan has the entries of the operations, and remembers the path of an update which may still
move. -/
structure Follows (parsed : List Op × Pending) (scanned : List ChangedFile × Option Text) :
    Prop where
  entries : scanned.1 = (parsed.1 ++ parsed.2.finish).flatMap Op.changedFiles
  remembered : ∀ op, parsed.2 = .updateHeader op → scanned.2 = some op.path ∧ op.moveTo = none

theorem follows_startOp {files : List ChangedFile} {current : Option Text} {done : List Op}
    {started : List Op × Pending} (entries : files = done.flatMap Op.changedFiles)
    (start : startOp line = .ok started) :
    Follows (done ++ started.1, started.2) (scanLine (files, current) line) := by
  unfold startOp at start
  unfold scanLine
  split at start
  next update =>
    cases start
    rw [if_pos update]
    refine ⟨by simp [entries, Pending.finish, Op.changedFiles], ?_⟩
    rintro op ⟨⟩
    exact ⟨rfl, rfl⟩
  next no_update =>
    split at start
    next add =>
      cases start
      rw [if_neg no_update, if_pos add]
      exact ⟨by simp [entries, Pending.finish, Op.changedFiles], by rintro op ⟨⟩⟩
    next no_add =>
      split at start
      next delete =>
        cases start
        rw [if_neg no_update, if_neg no_add, if_pos delete]
        exact ⟨by simp [entries, Pending.finish, Op.changedFiles], by rintro op ⟨⟩⟩
      next => cases start

theorem updateLine_changedFiles {op after : UpdateOp} (accepted : updateLine op line = .ok after) :
    (Op.update after).changedFiles = (Op.update op).changedFiles := by
  unfold updateLine at accepted
  split at accepted
  next => cases accepted; rfl
  next =>
    split at accepted
    next => cases accepted; rfl
    next => split at accepted <;> cases accepted <;> rfl

theorem addLine_changedFiles {op after : AddOp} (accepted : addLine op line = .ok after) :
    (Op.add after).changedFiles = (Op.add op).changedFiles := by
  unfold addLine at accepted
  split at accepted
  next => cases accepted; rfl
  next => split at accepted <;> cases accepted; rfl

/-- A line of the body of an operation, or the next header. -/
theorem follows_continueOp {parsed next : List Op × Pending}
    {body : Except ParseError Pending} (follows : Follows parsed scanned)
    (inside : ∀ after, body = .ok after →
      Follows (parsed.1, after) (scanLine scanned line))
    (accepted : continueOp parsed.2 body line = .ok next) :
    Follows (parsed.1 ++ next.1, next.2) (scanLine scanned line) := by
  unfold continueOp at accepted
  split at accepted
  next =>
    obtain ⟨started, start, accepted⟩ := FallibleFold.bind_ok accepted
    cases accepted
    rw [← List.append_assoc]
    exact follows_startOp follows.entries start
  next =>
    obtain ⟨after, body_ok, accepted⟩ := FallibleFold.bind_ok accepted
    cases accepted
    rw [List.append_nil]
    exact inside after body_ok

/-- Parser and scan take a line together. -/
theorem follows_parseLine {parsed next : List Op × Pending} (follows : Follows parsed scanned)
    (accepted : parseLine parsed.2 line = .ok next) :
    Follows (parsed.1 ++ next.1, next.2) (scanLine scanned line) := by
  obtain ⟨done, pending⟩ := parsed
  obtain ⟨entries, remembered⟩ := follows
  have updated : ∀ op, pending.finish = [.update op] → ∀ after,
      (updateLine op line).map Pending.update = .ok after →
        Follows (done, after) (scanLine scanned line) := by
    intro op here after body
    obtain ⟨op', body_ok, rfl⟩ := FallibleFold.map_ok body
    rw [scanLine_updateLine (updateLine_ok_iff.mp ⟨op', body_ok⟩)]
    refine ⟨?_, by rintro op ⟨⟩⟩
    show scanned.1 = (done ++ [Op.update op']).flatMap Op.changedFiles
    simp only [entries, here, List.flatMap_append, List.flatMap_singleton,
      updateLine_changedFiles body_ok]
  cases pending with
  | outside =>
      simp only [Pending.finish, List.append_nil] at entries
      exact follows_startOp entries accepted
  | updateHeader op =>
      simp only [parseLine] at accepted
      split at accepted
      next moves =>
        cases accepted
        obtain ⟨current, unmoved⟩ := remembered op rfl
        have plain := startsOp_moveTo moves
        simp only [startsOp, Bool.or_eq_false_iff] at plain
        obtain ⟨⟨no_update, no_add⟩, no_delete⟩ := plain
        refine ⟨?_, by rintro op ⟨⟩⟩
        simp [scanLine, no_update, no_add, no_delete, moves, entries, current, unmoved,
          Pending.finish, Op.changedFiles]
      next => exact follows_continueOp ⟨entries, remembered⟩ (updated op rfl) accepted
  | update op => exact follows_continueOp ⟨entries, remembered⟩ (updated op rfl) accepted
  | add op =>
      refine follows_continueOp ⟨entries, remembered⟩ ?_ accepted
      intro after body
      obtain ⟨op', body_ok, rfl⟩ := FallibleFold.map_ok body
      rw [scanLine_addLine (addLine_ok_iff.mp ⟨op', body_ok⟩)]
      refine ⟨?_, by rintro op ⟨⟩⟩
      simp only [entries, Pending.finish, List.flatMap_append, List.flatMap_singleton,
        addLine_changedFiles body_ok]

theorem follows_lines {lines : List Text} {parsed after : List Op × Pending}
    (follows : Follows parsed scanned) (ended : lines.foldlM advance parsed = .ok after) :
    Follows after (lines.foldl scanLine scanned) := by
  induction lines generalizing parsed scanned with
  | nil =>
      cases ended
      exact follows
  | cons line lines ih =>
      rw [List.foldlM_cons] at ended
      obtain ⟨middle, step, ended⟩ := FallibleFold.bind_ok ended
      obtain ⟨next, line_ok, rfl⟩ := advance_ok step
      exact ih (follows_parseLine follows line_ok) ended

/-- On an accepted patch the scan lists the operations, and nothing within an operation looks like
an entry. -/
theorem changedFilesFromPatch_eq {patch : Text} {ops : List Op}
    (accepted : parsePatch patch = .ok ops) :
    changedFilesFromPatch patch = ops.flatMap Op.changedFiles ∧
      (∀ op after line scanned, updateLine op line = .ok after → scanLine scanned line = scanned) ∧
      ∀ op after line scanned, addLine op line = .ok after → scanLine scanned line = scanned := by
  refine ⟨?_,
    fun op after line scanned body => scanLine_updateLine (updateLine_ok_iff.mp ⟨after, body⟩),
    fun op after line scanned body => scanLine_addLine (addLine_ok_iff.mp ⟨after, body⟩)⟩
  obtain ⟨body, parsed, whole, loop, rfl⟩ := parsePatch_ok accepted
  have start : Follows ([], .outside) ([], none) := ⟨rfl, by rintro op ⟨⟩⟩
  have first : scanLine ([], none) beginPatch = ([], none) := by decide
  have last : ∀ scanned, scanLine scanned endPatch = scanned := fun scanned =>
    scanLine_quiet (by decide) (by decide)
  rw [changedFilesFromPatch, whole, List.cons_append, List.foldl_cons, List.foldl_append, first,
    List.foldl_cons, List.foldl_nil, last]
  exact (follows_lines start loop).entries

def imitatingPatch : Text :=
  "*** Begin Patch\n*** Update File: a\n*** Move to: b\n+*** Add File: c\n*** End Patch".toList

theorem changedFilesFromPatch_eq_imitating :
    changedFilesFromPatch imitatingPatch = [.update ['a'], .move ['a'] ['b']] ∧
      (∀ op after line scanned, updateLine op line = .ok after → scanLine scanned line = scanned) ∧
      ∀ op after line scanned, addLine op line = .ok after → scanLine scanned line = scanned := by
  have accepted : parsePatch imitatingPatch = .ok [.update ⟨['a'], some ['b'],
      [⟨"@@".toList, [⟨.add, ["*** Add File: c".toList]⟩]⟩], false⟩] := by rfl
  exact changedFilesFromPatch_eq accepted

end Replay
end HermOS
