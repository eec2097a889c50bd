import Mathlib.Logic.Function.Basic

/-!
# File trees

A tree of directories and regular files, addressed by absolute paths.  A path is walked from the
root through existing directories; `..` leads to the parent.  An operation is `none` where the
operating system refuses it.
-/

namespace HermOS

/-- What a location holds. -/
inductive Node (Content : Type)
  | dir
  | file (content : Content)

abbrev FileName :=
  List Char

/-- Components from the root, without `..`. -/
abbrev Location :=
  List FileName

/-- Components of an absolute path, which may contain `..`. -/
abbrev FilePath :=
  List FileName

/-- The node at each location, if any. -/
abbrev FileTree (Content : Type) :=
  Location → Option (Node Content)

namespace FileTree

variable {Content : Type} (tree : FileTree Content)

def isDirAt (location : Location) : Bool :=
  match tree location with
  | some .dir => true
  | _ => false

/-- One component of a path, from a directory. -/
def enter (location : Location) (name : FileName) : Option Location :=
  if tree.isDirAt location then
    if name = ['.', '.'] then some location.dropLast else some (location ++ [name])
  else
    none

/-- The location which a path names; its last component need not exist. -/
def walk (path : FilePath) : Option Location :=
  path.foldlM tree.enter []

def stat (path : FilePath) : Option (Node Content) :=
  (tree.walk path).bind tree

def isDir (path : FilePath) : Bool :=
  match tree.stat path with
  | some .dir => true
  | _ => false

/-- Content of a regular file. -/
def read (path : FilePath) : Option Content :=
  match tree.stat path with
  | some (.file content) => some content
  | _ => none

/-- Create or overwrite a regular file. -/
def write (path : FilePath) (content : Content) : Option (FileTree Content) :=
  match tree.walk path with
  | some location =>
      if tree.isDirAt location then none
      else some (Function.update tree location (some (.file content)))
  | none => none

/-- Remove a regular file. -/
def unlink (path : FilePath) : Option (FileTree Content) :=
  match tree.walk path with
  | some location =>
      match tree location with
      | some (.file _) => some (Function.update tree location none)
      | _ => none
  | none => none

/-- Create a directory unless there is one. -/
def mkdir (path : FilePath) : Option (FileTree Content) :=
  match tree.walk path with
  | some location =>
      match tree location with
      | none => some (Function.update tree location (some .dir))
      | some .dir => some tree
      | some (.file _) => none
  | none => none

/-- Create a directory and its missing ancestors; the components are given last one first. -/
def mkdirParentsRev (tree : FileTree Content) : List FileName → Option (FileTree Content)
  | [] => tree.mkdir []
  | name :: ancestors =>
      match tree.walk (ancestors.reverse ++ [name]) with
      | some _ => tree.mkdir (ancestors.reverse ++ [name])
      | none =>
          (mkdirParentsRev tree ancestors).bind fun made => made.mkdir (ancestors.reverse ++ [name])

/-- Create a directory and its missing ancestors. -/
def mkdirParents (path : FilePath) : Option (FileTree Content) :=
  mkdirParentsRev tree path.reverse

/-- `mkdir` after a call which may have failed: the tree which is left, and whether both
succeeded. -/
def thenMkdir (before : FileTree Content × Bool) (path : FilePath) : FileTree Content × Bool :=
  if before.2 then
    match before.1.mkdir path with
    | some made => (made, true)
    | none => (before.1, false)
  else before

/-- `mkdirParentsRev` with the tree which it leaves behind also when it fails. -/
def makeParentsRev (tree : FileTree Content) : List FileName → FileTree Content × Bool
  | [] => thenMkdir (tree, true) []
  | name :: ancestors =>
      match tree.walk (ancestors.reverse ++ [name]) with
      | some _ => thenMkdir (tree, true) (ancestors.reverse ++ [name])
      | none => thenMkdir (makeParentsRev tree ancestors) (ancestors.reverse ++ [name])

/-- The tree which `mkdirParents` leaves behind, and whether it succeeds. -/
def makeParents (path : FilePath) : FileTree Content × Bool :=
  makeParentsRev tree path.reverse

def resolveFrom (location : Location) (path : FilePath) : Location :=
  path.foldl (fun location name =>
    if name = ['.', '.'] then location.dropLast else location ++ [name]) location

/-- The location which a path names if its directories exist. -/
def resolve (path : FilePath) : Location :=
  resolveFrom [] path

theorem walk_resolveFrom {path : FilePath} {start location : Location}
    (walked : path.foldlM tree.enter start = some location) :
    location = resolveFrom start path := by
  induction path generalizing start with
  | nil => exact (Option.some.inj walked).symm
  | cons name path ih =>
      rw [List.foldlM_cons] at walked
      obtain ⟨middle, entered, rest⟩ := Option.bind_eq_some_iff.mp walked
      have next : middle = if name = ['.', '.'] then start.dropLast else start ++ [name] := by
        unfold enter at entered
        split at entered
        next => split at entered <;> simp_all
        next => cases entered
      rw [next] at rest
      exact ih rest

theorem walk_resolve {path : FilePath} {location : Location}
    (walked : tree.walk path = some location) : location = resolve path :=
  walk_resolveFrom tree walked

theorem resolveFrom_plain {path : FilePath} (plain : ['.', '.'] ∉ path) (start : Location) :
    resolveFrom start path = start ++ path := by
  induction path generalizing start with
  | nil => exact (List.append_nil start).symm
  | cons name path ih =>
      rw [List.mem_cons, not_or] at plain
      obtain ⟨other, plain⟩ := plain
      have next := ih plain (start ++ [name])
      rw [resolveFrom, List.foldl_cons, if_neg (Ne.symm other)]
      rw [resolveFrom] at next
      rw [next, List.append_assoc, List.singleton_append]

/-- A path without `..` names its components. -/
theorem resolve_plain {path : FilePath} (plain : ['.', '.'] ∉ path) : resolve path = path :=
  resolveFrom_plain plain []

/-- Beginnings of the path of a directory name directories. -/
theorem exists_of_isDir {path front : FilePath} (dir : tree.isDir path = true)
    (inside : front <+: path) : tree (resolve front) ≠ none := by
  obtain ⟨back, rfl⟩ := inside
  unfold isDir stat walk at dir
  rw [List.foldlM_append] at dir
  cases walked : tree.walk front with
  | none =>
      unfold walk at walked
      simp [walked] at dir
  | some location =>
      have here := walk_resolve tree walked
      unfold walk at walked
      rw [walked] at dir
      rw [← here]
      intro free
      cases back with
      | nil => simp [free] at dir
      | cons name back => simp [enter, isDirAt, free] at dir

/-- Creating a directory changes at most one location, which was free. -/
theorem mkdir_eq_some {path : FilePath} {after : FileTree Content}
    (made : tree.mkdir path = some after) :
    after = tree ∨ tree (resolve path) = none ∧
      after = Function.update tree (resolve path) (some .dir) := by
  unfold mkdir at made
  split at made
  next location walked =>
    obtain rfl := walk_resolve tree walked
    split at made
    next free => exact .inr ⟨free, (Option.some.inj made).symm⟩
    next => exact .inl (Option.some.inj made).symm
    next => cases made
  next => cases made

/-- The tree of a call which has succeeded. -/
def succeeded (left : FileTree Content × Bool) : Option (FileTree Content) :=
  if left.2 then some left.1 else none

theorem succeeded_thenMkdir (before : FileTree Content × Bool) (path : FilePath) :
    succeeded (thenMkdir before path) = (succeeded before).bind fun made => made.mkdir path := by
  obtain ⟨made, _ | _⟩ := before
  · rfl
  · simp only [thenMkdir, succeeded, if_true, Option.bind_some]
    cases made.mkdir path <;> rfl

theorem makeParentsRev_eq (names : List FileName) :
    tree.mkdirParentsRev names = succeeded (tree.makeParentsRev names) := by
  induction names with
  | nil =>
      rw [mkdirParentsRev, makeParentsRev, succeeded_thenMkdir]
      rfl
  | cons name ancestors ih =>
      rw [mkdirParentsRev, makeParentsRev]
      cases tree.walk (ancestors.reverse ++ [name]) with
      | some location =>
          simp only [succeeded_thenMkdir]
          rfl
      | none => simp only [succeeded_thenMkdir, ih]

theorem mkdirParents_eq (path : FilePath) :
    tree.mkdirParents path = succeeded (tree.makeParents path) :=
  makeParentsRev_eq tree path.reverse

/-- What differs from a tree differs at a free location, which a beginning of the path names. -/
def GrownBy (names : List FileName) (after : FileTree Content) : Prop :=
  ∀ location, after location = tree location ∨
    tree location = none ∧ ∃ front, front <:+ names ∧ location = resolve front.reverse

theorem grownBy_thenMkdir {names front : List FileName} {before : FileTree Content × Bool}
    (grown : tree.GrownBy names before.1) (inside : front <:+ names) :
    tree.GrownBy names (thenMkdir before front.reverse).1 := by
  unfold thenMkdir
  split
  next =>
    split
    next after made =>
      intro location
      rcases mkdir_eq_some before.1 made with rfl | ⟨free, rfl⟩
      · exact grown location
      · rcases eq_or_ne location (resolve front.reverse) with rfl | other
        · rcases grown (resolve front.reverse) with same | ⟨free_before, _⟩
          · exact .inr ⟨same.symm.trans free, front, inside, rfl⟩
          · exact .inr ⟨free_before, front, inside, rfl⟩
        · rcases grown location with same | new
          · exact .inl ((Function.update_of_ne other _ _).trans same)
          · exact .inr new
    next => exact grown
  next => exact grown

/-- Missing directories are created at beginnings of the path. -/
theorem grownBy_makeParentsRev (names : List FileName) :
    tree.GrownBy names (tree.makeParentsRev names).1 := by
  have still : ∀ names, tree.GrownBy names tree := fun _ _ => .inl rfl
  induction names with
  | nil => exact @grownBy_thenMkdir _ tree [] [] (tree, true) (still []) (List.suffix_refl [])
  | cons name ancestors ih =>
      have whole := List.suffix_refl (name :: ancestors)
      rw [makeParentsRev, ← List.reverse_cons]
      split
      next => exact @grownBy_thenMkdir _ tree _ _ (tree, true) (still _) whole
      next =>
        refine grownBy_thenMkdir tree (fun location => ?_) whole
        rcases ih location with same | ⟨free, front, inside, here⟩
        · exact .inl same
        · exact .inr ⟨free, front, inside.trans (List.suffix_cons name ancestors), here⟩

/-- Missing directories are created at beginnings of the path, and nothing else changes. -/
theorem makeParents_frame (path : FilePath) (location : Location) :
    (tree.makeParents path).1 location = tree location ∨
      tree location = none ∧ ∃ front, front <+: path ∧ location = resolve front := by
  rcases grownBy_makeParentsRev tree path.reverse location with same | ⟨free, front, inside, here⟩
  · exact .inl same
  · refine .inr ⟨free, front.reverse, ?_, here⟩
    rw [← List.reverse_suffix, List.reverse_reverse]
    exact inside

/-- A write changes one location, which then holds the content. -/
theorem write_eq_some {path : FilePath} {content : Content} {after : FileTree Content}
    (written : tree.write path content = some after) :
    ∃ location, tree.walk path = some location ∧
      after = Function.update tree location (some (.file content)) := by
  unfold write at written
  split at written
  next location walked =>
    split at written
    next => cases written
    next => exact ⟨location, walked, (Option.some.inj written).symm⟩
  next => cases written

theorem walk_congr {other : FileTree Content}
    (same : ∀ location, other.isDirAt location = tree.isDirAt location) (path : FilePath) :
    other.walk path = tree.walk path := by
  have enters : other.enter = tree.enter := by
    funext location name
    rw [enter, enter, same]
  rw [walk, walk, enters]

/-- A file which can be read can be written, and then holds what was written. -/
theorem write_of_read {path : FilePath} {old : Content} (found : tree.read path = some old)
    (content : Content) :
    ∃ after, tree.write path content = some after ∧ after.read path = some content := by
  unfold read stat at found
  cases walked : tree.walk path with
  | none => simp [walked] at found
  | some location =>
      rw [walked, Option.bind_some] at found
      cases held : tree location with
      | none => simp [held] at found
      | some node =>
          cases node with
          | dir => simp [held] at found
          | file old =>
              have file : tree.isDirAt location = false := by simp [isDirAt, held]
              refine ⟨Function.update tree location (some (.file content)), ?_, ?_⟩
              · rw [write, walked]
                simp [file]
              · have same : ∀ place, isDirAt (Function.update tree location
                    (some (.file content))) place = tree.isDirAt place := by
                  intro place
                  rcases eq_or_ne place location with rfl | other
                  · simp [isDirAt, held]
                  · simp [isDirAt, Function.update_of_ne other]
                rw [read, stat, walk_congr tree same, walked]
                simp

/-- Removing a file changes one location, which is then free. -/
theorem unlink_eq_some {path : FilePath} {after : FileTree Content}
    (removed : tree.unlink path = some after) :
    ∃ location, tree.walk path = some location ∧ after = Function.update tree location none := by
  unfold unlink at removed
  split at removed
  next location walked =>
    split at removed
    next => exact ⟨location, walked, (Option.some.inj removed).symm⟩
    next => cases removed
  next => cases removed

end FileTree
end HermOS
