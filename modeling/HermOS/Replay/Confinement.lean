import HermOS.Library.TransitionSystem
import HermOS.Replay.AgentReplay
import HermOS.Replay.PatchGrammar

/-!
# Files outside the workspace

The replay applies its patch entries one operation after the other.  A failing operation keeps what
it has already done; a `PatchError` ends its entry, and an error of the system ends the replay.  An
operation joins its recorded path to the workspace, which discards the workspace when the path is
absolute and leaves it through `..`: only operations whose paths lead into the workspace are known
to change nothing else.
-/

namespace HermOS
namespace Replay

open Python (Text)

/-! ### The replay, operation by operation -/

/-- The files which an operation leaves behind, and its error, if any. -/
abbrev Outcome :=
  Tree × Option ReplayError

/-- An operation whose error leaves the files as they were. -/
def unlessError (tree : Tree) : Except ReplayError Tree → Outcome
  | .ok after => (after, none)
  | .error error => (tree, some error)

/-- `apply_add`, where the directories which it creates stay when it fails. -/
def attemptAdd (workspace : FilePath) (tree : Tree) (op : AddOp) : Outcome :=
  let target := joinPath workspace op.path
  let made := tree.makeParents target.dropLast
  if made.2 then
    unlessError made.1 <| do
      let lines ← addedLines op.blocks
      let content := Python.join '\n' lines
      system (made.1.write target (if lines ≠ [] then content ++ ['\n'] else content))
  else (made.1, some .osError)

def attemptOp (workspace : FilePath) (tree : Tree) : Op → Outcome
  | .add op => attemptAdd workspace tree op
  | .delete path => unlessError tree (applyDelete workspace tree path)
  | .update op => unlessError tree (applyUpdate workspace tree op)

/-- An outcome without the files of a failed operation. -/
def Outcome.result (outcome : Outcome) : Except ReplayError Tree :=
  match outcome.2 with
  | none => .ok outcome.1
  | some error => .error error

theorem result_unlessError (tree : Tree) (result : Except ReplayError Tree) :
    Outcome.result (unlessError tree result) = result := by
  cases result <;> rfl

/-- What `attemptOp` says of success and failure is what `applyOp` says. -/
theorem result_attemptOp (workspace : FilePath) (tree : Tree) (op : Op) :
    Outcome.result (attemptOp workspace tree op) = applyOp workspace tree op := by
  cases op with
  | add op =>
      rw [attemptOp, applyOp, attemptAdd, applyAdd]
      simp only [FileTree.mkdirParents_eq, FileTree.succeeded]
      split
      next => exact result_unlessError _ _
      next => rfl
  | delete path => exact result_unlessError tree _
  | update op => exact result_unlessError tree _

/-- A replay: the files, the operations left of an entry, and the entries behind it. -/
structure Session where
  tree : Tree
  ops : List Op
  entries : List PatchEntry

/-- The next operation, or the next entry.  `main` goes on behind an entry with a `PatchError`. -/
def Session.next (workspace : FilePath) : Session → Option Session
  | ⟨_, [], []⟩ => none
  | ⟨tree, [], entry :: entries⟩ => some ⟨tree, entry.ops, entries⟩
  | ⟨tree, op :: ops, entries⟩ =>
      match attemptOp workspace tree op with
      | (after, none) => some ⟨after, ops, entries⟩
      | (after, some .osError) => some ⟨after, [], []⟩
      | (after, some _) => some ⟨after, [], entries⟩

/-- The replay of some entries. -/
def replaySystem (workspace : FilePath) (tree : Tree) (entries : List PatchEntry) :
    TransitionSystem Session Unit where
  Initial session := session = ⟨tree, [], entries⟩
  Step before _ after := before.next workspace = some after

section Applied

variable {workspace : FilePath} {begun tree after : Tree} {recorded entries : List PatchEntry}
  {before other final : Session} {labels others : List Unit}

theorem next_applied {op : Op} {ops : List Op} (applied : applyOp workspace tree op = .ok after) :
    Session.next workspace ⟨tree, op :: ops, entries⟩ = some ⟨after, ops, entries⟩ := by
  rw [← result_attemptOp, Outcome.result] at applied
  rw [Session.next]
  rcases attempted : attemptOp workspace tree op with ⟨left, _ | error⟩
  · rw [attempted] at applied
    cases applied
    rfl
  · rw [attempted] at applied
    cases applied

theorem path_ops {ops : List Op} (applied : ops.foldlM (applyOp workspace) tree = .ok after) :
    ∃ labels, (replaySystem workspace begun recorded).Path ⟨tree, ops, entries⟩ labels
      ⟨after, [], entries⟩ := by
  induction ops generalizing tree with
  | nil =>
      cases applied
      exact ⟨[], .nil _⟩
  | cons op ops ih =>
      rw [List.foldlM_cons] at applied
      obtain ⟨middle, first, rest⟩ := FallibleFold.bind_ok applied
      obtain ⟨labels, path⟩ := ih rest
      exact ⟨() :: labels, .cons (next_applied first) path⟩

theorem path_entries (applied : entries.foldlM (applyPatchEntry workspace) tree = .ok after) :
    ∃ labels, (replaySystem workspace begun recorded).Path ⟨tree, [], entries⟩ labels
      ⟨after, [], []⟩ := by
  induction entries generalizing tree with
  | nil =>
      cases applied
      exact ⟨[], .nil _⟩
  | cons entry entries ih =>
      rw [List.foldlM_cons] at applied
      obtain ⟨middle, first, rest⟩ := FallibleFold.bind_ok applied
      obtain ⟨_, ops_path⟩ : ∃ labels, (replaySystem workspace begun recorded).Path
          ⟨tree, entry.ops, entries⟩ labels ⟨middle, [], entries⟩ := path_ops first
      obtain ⟨_, path⟩ := ih rest
      exact ⟨() :: _, .cons rfl (ops_path.trans path)⟩

/-- The replay is a function, so all its states lead to the same end. -/
theorem leads_to_end (path : (replaySystem workspace begun recorded).Path before labels final)
    (ended : final.next workspace = none)
    (passed : (replaySystem workspace begun recorded).Path before others other) :
    ∃ rest, (replaySystem workspace begun recorded).Path other rest final := by
  induction passed generalizing labels with
  | nil => exact ⟨_, path⟩
  | cons step _ ih =>
      cases path with
      | nil => exact absurd (ended.symm.trans step) nofun
      | cons first rest =>
          obtain rfl := Option.some.inj (step.symm.trans first)
          exact ih rest

end Applied

/-! ### Confined operations -/

/-- The path leads into the workspace. -/
def LeadsInto (workspace : Location) (path : FilePath) : Prop :=
  workspace <+: FileTree.resolve path

/-- The operation stays in the workspace: what it writes or removes is there, and so is every
directory which it creates on the way. -/
def Op.Confined (workspace : Location) (tree : Tree) : Op → Prop
  | .add op => LeadsInto workspace (joinPath workspace op.path) ∧
      ∀ front, front <+: (joinPath workspace op.path).dropLast →
        LeadsInto workspace front ∨ tree (FileTree.resolve front) ≠ none
  | .delete path => LeadsInto workspace (joinPath workspace path) ∨
      tree.stat (joinPath workspace path) = none
  | .update op => LeadsInto workspace (joinPath workspace op.path) ∨
      tree.stat (joinPath workspace op.path) = none

/-- Nothing outside the workspace has changed. -/
def SameOutside (workspace : Location) (tree after : Tree) : Prop :=
  ∀ location, ¬ workspace <+: location → after location = tree location

variable {workspace : Location} {tree after : Tree}

theorem SameOutside.refl (workspace : Location) (tree : Tree) :
    SameOutside workspace tree tree :=
  fun _ _ => rfl

theorem SameOutside.trans {middle : Tree} (first : SameOutside workspace tree middle)
    (second : SameOutside workspace middle after) : SameOutside workspace tree after :=
  fun location outside => (second location outside).trans (first location outside)

theorem sameOutside_update {path : FilePath} {location : Location}
    (leads : LeadsInto workspace path) (walked : tree.walk path = some location)
    (node : Option (Node Text)) :
    SameOutside workspace tree (Function.update tree location node) := by
  obtain rfl := FileTree.walk_resolve tree walked
  intro place outside
  refine Function.update_of_ne ?_ _ _
  rintro rfl
  exact outside leads

theorem sameOutside_write {path : FilePath} {content : Text} (leads : LeadsInto workspace path)
    (written : tree.write path content = some after) : SameOutside workspace tree after := by
  obtain ⟨location, walked, rfl⟩ := FileTree.write_eq_some tree written
  exact sameOutside_update leads walked _

theorem sameOutside_unlink {path : FilePath} (leads : LeadsInto workspace path)
    (removed : tree.unlink path = some after) : SameOutside workspace tree after := by
  obtain ⟨location, walked, rfl⟩ := FileTree.unlink_eq_some tree removed
  exact sameOutside_update leads walked _

theorem system_ok {result : Option Tree} (ended : system result = .ok after) :
    result = some after := by
  cases result with
  | none => cases ended
  | some tree => exact congrArg some (Except.ok.inj ended)

theorem sameOutside_unlessError {result : Except ReplayError Tree}
    (good : ∀ after, result = .ok after → SameOutside workspace tree after) :
    SameOutside workspace tree (unlessError tree result).1 := by
  cases result with
  | ok after => exact good after rfl
  | error error => exact .refl workspace tree

theorem sameOutside_attemptAdd {op : AddOp} (confined : (Op.add op).Confined workspace tree) :
    SameOutside workspace tree (attemptAdd workspace tree op).1 := by
  obtain ⟨leads, parents⟩ := confined
  have made : SameOutside workspace tree
      (tree.makeParents (joinPath workspace op.path).dropLast).1 := by
    intro location outside
    rcases tree.makeParents_frame (joinPath workspace op.path).dropLast location with
      same | ⟨free, front, inside, rfl⟩
    · exact same
    · rcases parents front inside with within | exists_before
      · exact absurd within outside
      · exact absurd free exists_before
  unfold attemptAdd
  simp only
  split
  next =>
    refine made.trans (sameOutside_unlessError fun after ended => ?_)
    cases added : addedLines op.blocks with
    | error error =>
        rw [added] at ended
        cases ended
    | ok lines =>
        rw [added] at ended
        exact sameOutside_write leads (system_ok ended)
  next => exact made

/-- A confined operation changes nothing outside, whether it succeeds or fails. -/
theorem sameOutside_attemptOp {op : Op} (confined : op.Confined workspace tree) :
    SameOutside workspace tree (attemptOp workspace tree op).1 := by
  cases op with
  | add op => exact sameOutside_attemptAdd confined
  | delete path =>
      refine sameOutside_unlessError fun after ended => ?_
      unfold applyDelete at ended
      simp only at ended
      split at ended
      next found =>
        have leads := confined.resolve_right (by simp [found])
        exact sameOutside_unlink leads (system_ok ended)
      next =>
        cases ended
        exact .refl workspace tree
  | update op =>
      refine sameOutside_unlessError fun after ended => ?_
      unfold applyUpdate at ended
      simp only at ended
      split at ended
      next => cases ended
      next => cases ended
      next found =>
        have leads := confined.resolve_right (by simp [found])
        cases updated : applyHunks op.path 0 _ 0 op.hunks with
        | error error =>
            rw [updated] at ended
            cases ended
        | ok lines =>
            rw [updated] at ended
            exact sameOutside_write leads (system_ok ended)

theorem sameOutside_next {before after : Session}
    (step : before.next workspace = some after)
    (confined : ∀ op ∈ before.ops.head?, op.Confined workspace before.tree) :
    SameOutside workspace before.tree after.tree := by
  obtain ⟨tree, _ | ⟨op, ops⟩, entries⟩ := before
  · cases entries with
    | nil => cases step
    | cons entry entries =>
        cases step
        exact .refl workspace tree
  · have attempted := sameOutside_attemptOp (confined op rfl)
    simp only [Session.next] at step
    split at step
    all_goals
      next outcome =>
        cases step
        rw [outcome] at attempted
        exact attempted

/-- A replay whose operations are confined when their turn comes changes nothing outside the
workspace. -/
theorem sameOutside_of_confined {entries : List PatchEntry} {session : Session}
    (reachable : ((replaySystem workspace tree entries).restrict fun before _ =>
      ∀ op ∈ before.ops.head?, op.Confined workspace before.tree).Reachable session) :
    SameOutside workspace tree session.tree := by
  refine reachable.invariant (fun session => SameOutside workspace tree session.tree) ?_ ?_
  · rintro _ rfl
    exact .refl workspace tree
  · intro before _ after same step
    exact same.trans (sameOutside_next step.1 step.2)

/-! ### Paths which stay in the workspace -/

/-- A path below the workspace: not absolute, and without `..`. -/
def Below (path : Text) : Prop :=
  Python.startsWith ['/'] path = false ∧ ['.', '.'] ∉ Python.split '/' path

theorem joinPath_below {path : Text} (below : Below path) :
    ∃ parts, joinPath workspace path = workspace ++ parts ∧ ['.', '.'] ∉ parts := by
  refine ⟨_, if_neg (by simp [below.1]), fun climbs => ?_⟩
  exact below.2 (List.mem_of_mem_filter climbs)

/-- Operations below the workspace are confined, whatever the files are. -/
theorem confined_of_below (dir : tree.isDir workspace = true) (plain : ['.', '.'] ∉ workspace)
    {op : Op} (below : Below op.path) : op.Confined workspace tree := by
  have leads : ∀ parts, ['.', '.'] ∉ parts → LeadsInto workspace (workspace ++ parts) := by
    intro parts free
    have whole : ['.', '.'] ∉ workspace ++ parts := by simp [plain, free]
    rw [LeadsInto, FileTree.resolve_plain whole]
    exact List.prefix_append workspace parts
  obtain ⟨parts, joined, free⟩ := @joinPath_below workspace _ below
  cases op with
  | delete path =>
      left
      rw [show joinPath workspace path = _ from joined]
      exact leads parts free
  | update op =>
      left
      rw [show joinPath workspace op.path = _ from joined]
      exact leads parts free
  | add op =>
      rw [Op.Confined, show joinPath workspace op.path = _ from joined]
      refine ⟨leads parts free, fun front inside => ?_⟩
      have along := inside.trans (List.dropLast_prefix _)
      rcases List.prefix_or_prefix_of_prefix along (List.prefix_append workspace parts) with
        within | ⟨more, rfl⟩
      · exact .inr (FileTree.exists_of_isDir tree dir within)
      · have first := (List.prefix_append_right_inj workspace).mp along
        exact .inl (leads more fun climbs => free (first.subset climbs))

/-- The mapping of `map_cwd` keeps recorded paths without `..` below the workspace. -/
theorem below_stripped {path : Text} (plain : ['.', '.'] ∉ Python.split '/' path) :
    Below (path.dropWhile (· == '/')) := by
  induction path with
  | nil => exact ⟨rfl, plain⟩
  | cons c path ih =>
      by_cases slash : c = '/'
      · subst slash
        have rest : Python.split '/' ('/' :: path) = [] :: Python.split '/' path :=
          List.splitOn_append_cons_self [] path
        rw [rest] at plain
        exact ih fun climbs => plain (List.mem_cons_of_mem _ climbs)
      · rw [List.dropWhile_cons_of_neg (by simpa using slash)]
        exact ⟨startsWith_head (d := '/') rfl slash, plain⟩

/-- A workspace which is a directory below the root. -/
def workTree : Tree := fun location =>
  if location = [] ∨ location = [['w']] then some .dir else none

/-- An entry with one operation. -/
def alone (op : Op) : PatchEntry :=
  ⟨[op], none, none⟩

/-- A file below the workspace, and one of the same name below the root. -/
def insideAdd : Op := .add ⟨['x'], [⟨.add, [['y']]⟩], false⟩

def outsideAdd : Op := .add ⟨['/', 'x'], [⟨.add, [['y']]⟩], false⟩

/-- The file is created, and removed again. -/
def addedAndDeleted : List PatchEntry :=
  [alone insideAdd, alone (.delete ['x'])]

/-- The session behind the only operation of the only entry. -/
def sessionAfter (op : Op) : Session :=
  ⟨(attemptOp [['w']] workTree op).1, [], []⟩

theorem session_reached {op : Op} {Allowed : Session → Unit → Prop}
    (applied : (attemptOp [['w']] workTree op).2 = none)
    (allowed : Allowed ⟨workTree, [op], []⟩ ()) (start : Allowed ⟨workTree, [], [alone op]⟩ ()) :
    ((replaySystem [['w']] workTree [alone op]).restrict Allowed).Reachable (sessionAfter op) := by
  have opened : Session.next [['w']] ⟨workTree, [], [alone op]⟩ = some ⟨workTree, [op], []⟩ := rfl
  have done : Session.next [['w']] ⟨workTree, [op], []⟩ = some (sessionAfter op) := by
    have outcome : attemptOp [['w']] workTree op = ((sessionAfter op).tree, none) :=
      Prod.ext rfl applied
    simp only [Session.next, outcome]
    rfl
  exact ⟨[(), ()], _, rfl, .cons ⟨opened, start⟩ (.cons ⟨done, allowed⟩ (.nil _))⟩

theorem sameOutside_inside : SameOutside [['w']] workTree (sessionAfter insideAdd).tree := by
  refine sameOutside_of_confined (session_reached rfl ?_ nofun)
  rintro op ⟨⟩
  exact confined_of_below rfl (by decide) ⟨rfl, by decide⟩

/-- Replaying is not confined to the workspace. -/
theorem not_sameOutside :
    ¬ ∀ (workspace : Location) (tree : Tree) (entries : List PatchEntry) (session : Session),
      tree.isDir workspace = true → ['.', '.'] ∉ workspace →
        (replaySystem workspace tree entries).Reachable session →
          SameOutside workspace tree session.tree := by
  intro all
  obtain ⟨labels, initial, start, path⟩ :=
    @session_reached outsideAdd (fun _ _ => True) rfl trivial trivial
  have same := all [['w']] workTree [alone outsideAdd] (sessionAfter outsideAdd) rfl (by decide)
    ⟨labels, initial, start, path.of_restrict⟩
  have held : (sessionAfter outsideAdd).tree [['x']] = some (.file ['y', '\n']) := rfl
  have free : workTree [['x']] = none := rfl
  have unchanged := same [['x']] (by decide)
  rw [held, free] at unchanged
  cases unchanged

end Replay
end HermOS
