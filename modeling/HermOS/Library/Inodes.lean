import Mathlib.Data.List.Basic
import Mathlib.Logic.Function.Basic

/-!
# Named inodes

A file is an inode, which outlives the name by which it was opened: a handle keeps writing to its
inode after a rename.  Content is a list of items, so that the same operations describe a file by
its characters or by its records.
-/

namespace HermOS

/-- The files of one directory. -/
structure Inodes (Name Item : Type) where
  entry : Name → Option ℕ
  content : ℕ → List Item
  next : ℕ

namespace Inodes

variable {Name Item : Type}

section Contents

variable (files : Inodes Name Item)

/-- The directory without files. -/
def empty : Inodes Name Item where
  entry _ := none
  content _ := []
  next := 0

/-- Content by name; a missing file has none. -/
def read (name : Name) : List Item :=
  ((files.entry name).map files.content).getD []

/-- The inode which opening a name for writing yields. -/
def inodeOf (name : Name) : ℕ :=
  (files.entry name).getD files.next

/-- Write at the end of an inode. -/
def append (inode : ℕ) (items : List Item) : Inodes Name Item :=
  { files with content := Function.update files.content inode (files.content inode ++ items) }

/-- Cut an inode to nothing. -/
def truncate (inode : ℕ) : Inodes Name Item :=
  { files with content := Function.update files.content inode [] }

/-- Names share no inode, and unused inodes have no name. -/
structure Valid : Prop where
  distinct : ∀ {first second inode}, files.entry first = some inode →
    files.entry second = some inode → first = second
  fresh : ∀ {name inode}, files.entry name = some inode → inode < files.next

theorem valid_empty : (empty : Inodes Name Item).Valid := by
  constructor
  · intro first second inode named
    cases named
  · intro name inode named
    cases named

variable {files}

theorem read_of_none {name : Name} (missing : files.entry name = none) : files.read name = [] := by
  rw [read, missing]
  rfl

theorem content_append (inode : ℕ) (items : List Item) (other : ℕ) :
    (files.append inode items).content other =
      if other = inode then files.content other ++ items else files.content other := by
  rw [append]
  split
  next same => simp [same]
  next ne => simp [ne]

theorem content_truncate (inode other : ℕ) :
    (files.truncate inode).content other = if other = inode then [] else files.content other := by
  rw [truncate]
  split
  next same => simp [same]
  next ne => simp [ne]

theorem inodeOf_of_none {name : Name} (missing : files.entry name = none) :
    files.inodeOf name = files.next := by
  rw [inodeOf, missing]
  rfl

theorem Valid.append (valid : files.Valid) (inode : ℕ) (items : List Item) :
    (files.append inode items).Valid :=
  ⟨valid.distinct, valid.fresh⟩

theorem Valid.truncate (valid : files.Valid) (inode : ℕ) : (files.truncate inode).Valid :=
  ⟨valid.distinct, valid.fresh⟩

end Contents

variable [DecidableEq Name] (files : Inodes Name Item)

def create (name : Name) : Inodes Name Item :=
  match files.entry name with
  | some _ => files
  | none =>
      { entry := Function.update files.entry name (some files.next)
        content := Function.update files.content files.next []
        next := files.next + 1 }

/-- `rename(2)` of an existing file to another name. -/
def rename (source target : Name) : Inodes Name Item :=
  { files with
    entry := Function.update (Function.update files.entry target (files.entry source)) source none }

theorem entry_create (name : Name) :
    (files.create name).entry = Function.update files.entry name (some (files.inodeOf name)) := by
  rw [create, inodeOf]
  cases named : files.entry name with
  | none => rfl
  | some inode =>
      change files.entry = Function.update files.entry name (some inode)
      rw [← named, Function.update_eq_self]

theorem next_create (name : Name) :
    (files.create name).next = if files.entry name = none then files.next + 1 else files.next := by
  rw [create]
  cases named : files.entry name <;> simp

theorem content_create (name : Name) (inode : ℕ) :
    (files.create name).content inode =
      if files.entry name = none ∧ inode = files.next then [] else files.content inode := by
  rw [create]
  cases named : files.entry name with
  | none => simp [Function.update_apply]
  | some handle => simp

variable {files}

theorem Valid.create (valid : files.Valid) (name : Name) : (files.create name).Valid := by
  rw [Inodes.create]
  cases named : files.entry name with
  | some inode => exact valid
  | none =>
      constructor
      · intro first second inode left right
        simp only [Function.update_apply] at left right
        split at left <;> split at right
        · simp_all
        · cases left
          exact absurd (valid.fresh right) (Nat.lt_irrefl _)
        · cases right
          exact absurd (valid.fresh left) (Nat.lt_irrefl _)
        · exact valid.distinct left right
      · intro other inode entered
        simp only [Function.update_apply] at entered
        split at entered
        · cases entered
          exact Nat.lt_succ_self _
        · exact Nat.lt_succ_of_lt (valid.fresh entered)

theorem Valid.rename (valid : files.Valid) (source target : Name) :
    (files.rename source target).Valid := by
  have origin : ∀ {name inode}, (files.rename source target).entry name = some inode →
      files.entry (if name = target then source else name) = some inode ∧ name ≠ source := by
    intro name inode named
    simp only [Inodes.rename, Function.update_apply] at named
    split at named
    next => cases named
    next other =>
      split at named
      next same => simpa [same] using ⟨named, same ▸ other⟩
      next moved => simpa [moved] using ⟨named, other⟩
  constructor
  · intro first second inode left right
    obtain ⟨left, _⟩ := origin left
    obtain ⟨right, _⟩ := origin right
    have same := valid.distinct left right
    split at same <;> split at same <;> simp_all
  · intro name inode named
    exact valid.fresh (origin named).1

/-- Creating a file changes no content. -/
theorem Valid.read_create (valid : files.Valid) (name other : Name) :
    (files.create name).read other = files.read other := by
  rw [Inodes.create]
  cases named : files.entry name with
  | some inode => rfl
  | none =>
      rcases eq_or_ne other name with rfl | ne
      · simp [read, named]
      · cases kept : files.entry other with
        | none => simp [read, ne, kept]
        | some inode => simp [read, ne, kept, Nat.ne_of_lt (valid.fresh kept)]

/-- An append is read under the name of its inode only. -/
theorem Valid.read_append (valid : files.Valid) {name : Name} {inode : ℕ} (items : List Item)
    (named : files.entry name = some inode) (other : Name) :
    (files.append inode items).read other =
      if other = name then files.read other ++ items else files.read other := by
  split
  next same => simp [read, Inodes.append, same, named]
  next ne =>
    cases kept : files.entry other with
    | none => simp [read, Inodes.append, kept]
    | some other_inode =>
        have apart : other_inode ≠ inode := by
          rintro rfl
          exact ne (valid.distinct kept named)
        simp [read, Inodes.append, kept, apart]

/-- A file is cut under the name of its inode only. -/
theorem Valid.read_truncate (valid : files.Valid) {name : Name} {inode : ℕ}
    (named : files.entry name = some inode) (other : Name) :
    (files.truncate inode).read other = if other = name then [] else files.read other := by
  split
  next same => simp [read, Inodes.truncate, same, named]
  next ne =>
    cases kept : files.entry other with
    | none => simp [read, Inodes.truncate, kept]
    | some other_inode =>
        have apart : other_inode ≠ inode := by
          rintro rfl
          exact ne (valid.distinct kept named)
        simp [read, Inodes.truncate, kept, apart]

theorem read_rename (source target other : Name) :
    (files.rename source target).read other =
      if other = source then [] else if other = target then files.read source
      else files.read other := by
  simp only [read, Inodes.rename, Function.update_apply]
  split
  next => rfl
  next => split <;> rfl

end Inodes
end HermOS
