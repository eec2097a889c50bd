import HermOS.Replay.ExtractActions
import HermOS.Replay.PatchGrammar

/-!
# Cleaning a session

The cleaned session is meant to keep failed steps.  The patch text of a failed step is what a model
wrote, and cleaning parses it: the session is emitted if and only if every patch text is a patch.
-/

namespace HermOS
namespace Replay

open Python (Text)

/-! ### Cleaned sessions -/

def Action.Recorded : Action → Prop
  | .command _ recorded exitCode status =>
      (∃ cmd, recorded = some cmd) ∧ (status = failed → exitCode ≠ some 0)
  | .applyPatch _ patch _ => ∃ text, patch = some text

theorem statusFromOutput_failed {output : Option Output}
    (status : statusFromOutput output = failed) : output.bind Output.exitCode ≠ some 0 := by
  match output, status with
  | none, _ => simp
  | some ⟨none, _⟩, _ => simp
  | some ⟨some exitCode, _⟩, status =>
      rw [statusFromOutput] at status
      split at status
      next zero => exact absurd status (by decide)
      next nonzero => simpa using nonzero

theorem execCommand_recorded {name : Text} {args : Json.Fields} {output : Option Output}
    {cwd : Option Text} {action : Action} (made : execCommand name args output cwd = some action) :
    action.Recorded := by
  unfold execCommand at made
  split at made
  next call =>
    cases made
    exact ⟨Option.isSome_iff_exists.mp call.2, statusFromOutput_failed⟩
  next => cases made

theorem extractParallelActions_recorded {args : Json.Fields} {output : Option Output}
    {cwd : Option Text} : ∀ action ∈ extractParallelActions args output cwd, action.Recorded := by
  intro action inside
  obtain ⟨item, _, made⟩ := List.mem_filterMap.mp inside
  obtain ⟨call, _, made⟩ := Option.bind_eq_some_iff.mp made
  obtain ⟨params, _, made⟩ := Option.bind_eq_some_iff.mp made
  exact execCommand_recorded made

theorem extractEvent_recorded {loads : Text → Loaded} {outputs : Outputs} {cwd : Option Text}
    {event : Event} {actions : List Action}
    (extracted : extractEvent loads outputs cwd event = .ok actions) :
    ∀ action ∈ actions, action.Recorded := by
  have nothing : ∀ {found}, (.ok [] : Except ExtractError (List Action)) = .ok found →
      ∀ action ∈ found, action.Recorded := by
    rintro _ ⟨⟩
    simp
  unfold extractEvent at extracted
  simp only at extracted
  split at extracted
  next => exact nothing extracted
  next =>
    split at extracted
    next => exact nothing extracted
    next callId _ =>
      split at extracted
      next =>
        obtain ⟨args, _, extracted⟩ := FallibleFold.bind_ok extracted
        split at extracted
        next action made =>
          cases extracted
          simpa using execCommand_recorded made
        next =>
          split at extracted
          next =>
            cases extracted
            exact extractParallelActions_recorded
          next => exact nothing extracted
      next =>
        split at extracted
        next =>
          split at extracted
          next patch _ =>
            split at extracted
            next =>
              cases extracted
              simp [makePatchAction, Action.Recorded]
            next => exact nothing extracted
          next => exact nothing extracted
        next => exact nothing extracted

/-- Every extracted action is recorded. -/
theorem extractActions_recorded {loads : Text → Loaded} {events : List Event}
    {actions : List Action} (extracted : extractActions loads events = .ok actions) :
    ∀ action ∈ actions, action.Recorded := by
  obtain ⟨outputs, _, extracted⟩ := FallibleFold.bind_ok extracted
  obtain ⟨parts, calls, extracted⟩ := FallibleFold.bind_ok extracted
  cases extracted
  intro action inside
  obtain ⟨part, member, here⟩ := List.mem_flatten.mp inside
  obtain ⟨event, _, made⟩ := (FallibleFold.returns_of_mapM calls).2 part member
  exact extractEvent_recorded made action here

/-- The entry is of the action, and carries its failure. -/
def EntryOf : Action → Entry → Prop
  | .command _ command exitCode status, .command cmd _ expectedExitCode expectedStatus =>
      command = some cmd ∧ expectedExitCode = exitCode ∧
        (status = failed → (∃ code, expectedExitCode = some code ∧ code ≠ 0) ∨
          expectedStatus = some failed)
  | .applyPatch _ patch status, .applyPatch entry =>
      (∃ text, patch = some text ∧ parsePatch text = .ok entry.ops) ∧
        (status = failed → entry.expectedStatus = some failed)
  | _, _ => False

/-- Cleaning emits one entry for each action, in order, and no failure is lost. -/
def KeepsSession (actions : List Action) : Prop :=
  ∃ entries, cleanActions actions = .ok entries ∧ List.Forall₂ EntryOf actions entries

def Action.HasPatchText : Action → Prop
  | .command .. => True
  | .applyPatch _ patch _ => ∀ text ∈ patch, PatchText text

theorem cleanAction_entry {action : Action} (recorded : action.Recorded)
    (patches : action.HasPatchText) :
    ∃ entry, cleanAction action = .ok (some entry) ∧ EntryOf action entry := by
  cases action with
  | command cwd command exitCode status =>
      obtain ⟨⟨cmd, rfl⟩, nonzero⟩ := recorded
      refine ⟨_, rfl, rfl, rfl, fun fails => ?_⟩
      cases exitCode with
      | none => simp [fails]
      | some code =>
          refine .inl ⟨code, rfl, ?_⟩
          rintro rfl
          exact nonzero fails rfl
  | applyPatch cwd patch status =>
      obtain ⟨text, rfl⟩ := recorded
      obtain ⟨ops, parsed⟩ := (parsePatch_ok_iff text).mpr (patches text rfl)
      refine ⟨.applyPatch ⟨ops, emittedCwd cwd, if status = failed then some failed else none⟩,
        ?_, ⟨text, rfl, parsed⟩, fun fails => if_pos fails⟩
      rw [cleanAction, parsed]
      rfl

theorem cleanAction_patchText {action : Action} {entry : Option Entry}
    (cleaned : cleanAction action = .ok entry) : action.HasPatchText := by
  cases action with
  | command => trivial
  | applyPatch cwd patch status =>
      rintro text ⟨⟩
      obtain ⟨ops, parsed, _⟩ := FallibleFold.bind_ok cleaned
      exact (parsePatch_ok_iff text).mp ⟨ops, parsed⟩

/-- A recorded session is kept if and only if each of its patches has the text of a patch. -/
theorem cleanActions_keeps_iff {actions : List Action}
    (recorded : ∀ action ∈ actions, action.Recorded) :
    KeepsSession actions ↔ ∀ action ∈ actions, action.HasPatchText := by
  constructor
  · rintro ⟨entries, cleaned, _⟩ action inside
    obtain ⟨found, calls, _⟩ := FallibleFold.bind_ok cleaned
    obtain ⟨entry, made⟩ := (FallibleFold.returns_of_mapM calls).1 action inside
    exact cleanAction_patchText made
  · intro patches
    have emits : ∀ action ∈ actions, ∃ cleaned, cleanAction action = .ok cleaned ∧
        ∃ entry, cleaned = some entry ∧ EntryOf action entry := by
      intro action inside
      obtain ⟨entry, made, of_action⟩ :=
        cleanAction_entry (recorded action inside) (patches action inside)
      exact ⟨some entry, made, entry, rfl, of_action⟩
    obtain ⟨found, calls, all⟩ := FallibleFold.mapM_ok _ emits
    refine ⟨found.filterMap id, ?_, ?_⟩
    · rw [cleanActions, calls]
      rfl
    · clear calls emits patches recorded
      induction all with
      | nil => exact .nil
      | cons first _ ih =>
          obtain ⟨item, rfl, of_action⟩ := first
          exact .cons of_action ih

/-- Cleaning keeps the session of a rollout if and only if each recorded patch is one. -/
theorem extracted_keepsSession_iff {loads : Text → Loaded} {events : List Event}
    {actions : List Action} (extracted : extractActions loads events = .ok actions) :
    KeepsSession actions ↔ ∀ action ∈ actions, action.HasPatchText :=
  cleanActions_keeps_iff (extractActions_recorded extracted)

/-! ### A patch which the tool refused -/

def patchCall (patch : String) : Event where
  data := [("type".toList, .str "response_item".toList),
    ("payload".toList, .obj [("type".toList, .str "custom_tool_call".toList),
      ("call_id".toList, .str "c".toList), ("name".toList, .str "apply_patch".toList),
      ("input".toList, .str patch.toList)])]

def patchOutput (exitCode : ℤ) : Event where
  data := [("type".toList, .str "response_item".toList),
    ("payload".toList, .obj [("type".toList, .str "custom_tool_call_output".toList),
      ("call_id".toList, .str "c".toList),
      ("output".toList, .obj [("metadata".toList, .obj [("exit_code".toList, .int exitCode)])])])]

/-- No output is a text, so nothing is decoded. -/
def undecoded : Text → Loaded :=
  fun _ => .invalid

/-- The patch text is no patch, the tool refused it, and cleaning raises. -/
theorem not_keepsSession_refused :
    extractActions undecoded [patchCall "x", patchOutput 1] =
        .ok [.applyPatch none (some ['x']) failed] ∧
      ¬ KeepsSession [.applyPatch none (some ['x']) failed] := by
  refine ⟨rfl, ?_⟩
  rintro ⟨entries, cleaned, _⟩
  cases cleaned

/-- A deletion whose output has an exit code. -/
def deletion : String :=
  "*** Begin Patch\n*** Delete File: a\n*** End Patch\n"

theorem patchText_deletion : PatchText deletion.toList :=
  (parsePatch_ok_iff _).mp ⟨[.delete ['a']], rfl⟩

theorem keepsSession_failedDeletion :
    KeepsSession [.applyPatch none (some deletion.toList) failed] := by
  have extracted : extractActions undecoded [patchCall deletion, patchOutput 1] =
      .ok [.applyPatch none (some deletion.toList) failed] := rfl
  refine (extracted_keepsSession_iff extracted).mpr ?_
  rintro action (_ | ⟨_, inside⟩)
  · rintro text ⟨⟩
    exact patchText_deletion
  · cases inside

end Replay
end HermOS
