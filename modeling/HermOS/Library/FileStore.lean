import HermOS.Library.FileTree
import Mathlib.Data.List.Dedup
import Mathlib.Data.List.Induction

/-!
# File stores

A file tree with finitely many entries, which can be listed.  Every entry lies in a directory, and
this survives each operation: a directory is removed with all that is below it, or when nothing is.
-/

namespace HermOS

/-- A name which an entry of a directory can have. -/
def PlainName (name : FileName) : Prop :=
  name ≠ [] ∧ '/' ∉ name ∧ name ≠ ['.'] ∧ name ≠ ['.', '.']

instance (name : FileName) : Decidable (PlainName name) :=
  inferInstanceAs (Decidable (_ ∧ _))

/-- A regular file with other content. -/
def Node.withContent {Content : Type} (content : Content) : Node Content → Node Content
  | .dir => .dir
  | .file _ => .file content

section Entries

variable {Content : Type}

/-- The first entry at a location counts. -/
def treeOf (entries : List (Location × Node Content)) : FileTree Content :=
  fun location => entries.lookup location

/-- Every entry lies in a directory. -/
def Rooted (entries : List (Location × Node Content)) : Prop :=
  ∀ entry ∈ entries, entry.1 ≠ [] → (treeOf entries).isDirAt entry.1.dropLast = true

instance (entries : List (Location × Node Content)) : Decidable (Rooted entries) :=
  inferInstanceAs (Decidable (∀ entry ∈ entries, _))

theorem treeOf_cons (place : Location) (node : Node Content)
    (entries : List (Location × Node Content)) (location : Location) :
    treeOf ((place, node) :: entries) location =
      if location = place then some node else treeOf entries location := by
  rw [treeOf, List.lookup_cons]
  by_cases same : location = place
  · simp [same]
  · rw [beq_eq_false_iff_ne.mpr same, if_neg same]
    rfl

theorem treeOf_ne_none {entries : List (Location × Node Content)} {location : Location} :
    treeOf entries location ≠ none ↔ ∃ entry ∈ entries, entry.1 = location := by
  rw [treeOf, Ne, List.lookup_eq_none_iff]
  constructor
  · intro found
    push Not at found
    obtain ⟨entry, inside, same⟩ := found
    exact ⟨entry, inside, (eq_of_beq (by simpa using same)).symm⟩
  · rintro ⟨entry, inside, rfl⟩ absent
    simpa using absent entry inside

theorem treeOf_filter (keep : Location → Bool) (entries : List (Location × Node Content))
    (location : Location) :
    treeOf (entries.filter fun entry => keep entry.1) location =
      if keep location then treeOf entries location else none := by
  induction entries with
  | nil => simp [treeOf]
  | cons entry entries ih =>
      obtain ⟨place, node⟩ := entry
      rw [List.filter_cons, treeOf_cons]
      by_cases same : location = place
      · subst same
        by_cases kept : keep location = true
        · rw [if_pos kept, treeOf_cons, if_pos rfl, if_pos kept, if_pos rfl]
        · rw [if_neg kept, ih, if_neg kept, if_neg kept]
      · rw [if_neg same, ← ih]
        split
        next => rw [treeOf_cons, if_neg same]
        next => rfl

/-- The content of one regular file replaced. -/
def withContentAt (location : Location) (content : Content)
    (entries : List (Location × Node Content)) : List (Location × Node Content) :=
  entries.map fun entry =>
    (entry.1, if entry.1 = location then entry.2.withContent content else entry.2)

theorem treeOf_withContentAt (location : Location) (content : Content)
    (entries : List (Location × Node Content)) (place : Location) :
    treeOf (withContentAt location content entries) place =
      if place = location then (treeOf entries place).map (Node.withContent content)
      else treeOf entries place := by
  induction entries with
  | nil => simp [treeOf, withContentAt]
  | cons entry entries ih =>
      obtain ⟨key, node⟩ := entry
      rw [withContentAt, List.map_cons, treeOf_cons, treeOf_cons, ← withContentAt, ih]
      by_cases same : place = key
      · subst same
        rw [if_pos rfl, if_pos rfl]
        split <;> rfl
      · rw [if_neg same, if_neg same]

theorem rooted_withContentAt (location : Location) (content : Content)
    {entries : List (Location × Node Content)} (rooted : Rooted entries) :
    Rooted (withContentAt location content entries) := by
  intro entry inside below
  obtain ⟨old, member, rfl⟩ := List.mem_map.mp inside
  have dir := rooted old member below
  rw [FileTree.isDirAt] at dir ⊢
  rw [treeOf_withContentAt]
  split at dir
  next held => simp [held, Node.withContent]
  next => cases dir

end Entries

/-- A file tree with finitely many entries. -/
structure FileStore (Content : Type) where
  entries : List (Location × Node Content)
  rooted : Rooted entries
  named : ∀ entry ∈ entries, ∀ name ∈ entry.1, PlainName name

namespace FileStore

variable {Content : Type} (store : FileStore Content)

def tree : FileTree Content :=
  treeOf store.entries

/-- The names in a directory. -/
def children (location : Location) : List FileName :=
  (((store.entries.map Prod.fst).filter fun place =>
    place ≠ [] ∧ place.dropLast = location).filterMap List.getLast?).dedup

/-- The entries at some of the locations, which lie in directories among these. -/
def restrict (keep : Location → Bool)
    (closed : ∀ entry ∈ store.entries, entry.1 ≠ [] → keep entry.1 = true →
      keep entry.1.dropLast = true) : FileStore Content where
  entries := store.entries.filter fun entry => keep entry.1
  rooted := by
    intro entry inside below
    obtain ⟨inside, kept⟩ := List.mem_filter.mp inside
    have dir := store.rooted entry inside below
    rw [FileTree.isDirAt] at dir ⊢
    rwa [treeOf_filter, if_pos (closed entry inside below kept)]
  named entry inside := store.named entry (List.mem_of_mem_filter inside)

/-- What is strictly below a location. -/
def beneath (location place : Location) : Bool :=
  location <+: place ∧ place ≠ location

def removeBelow (location : Location) : FileStore Content :=
  store.restrict (fun place => !beneath location place) (by
    intro entry _ below kept
    simp only [beneath, Bool.not_eq_true', decide_eq_false_iff_not] at kept ⊢
    rintro ⟨inside, _⟩
    refine kept ⟨inside.trans (List.dropLast_prefix _), fun same => ?_⟩
    have shorter := inside.length_le
    have nonempty := List.length_pos_iff.mpr below
    rw [List.length_dropLast, same] at shorter
    rw [same] at nonempty
    omega)

theorem mem_children {location : Location} {name : FileName} :
    name ∈ store.children location ↔ store.tree (location ++ [name]) ≠ none := by
  rw [tree, treeOf_ne_none, children, List.mem_dedup, List.mem_filterMap]
  constructor
  · rintro ⟨place, inside, last⟩
    obtain ⟨listed, kept⟩ := List.mem_filter.mp inside
    obtain ⟨entry, member, rfl⟩ := List.mem_map.mp listed
    refine ⟨entry, member, ?_⟩
    have parent := (of_decide_eq_true kept).2
    rw [← parent]
    exact (List.dropLast_append_getLast? name last).symm
  · rintro ⟨entry, inside, place⟩
    have kept : entry.1 ≠ [] ∧ entry.1.dropLast = location := by simp [place]
    have last : entry.1.getLast? = some name := by simp [place]
    exact ⟨entry.1, List.mem_filter.mpr ⟨List.mem_map_of_mem inside, decide_eq_true kept⟩, last⟩

theorem children_nodup (location : Location) : (store.children location).Nodup :=
  List.nodup_dedup _

/-- Remove an empty directory; the root stays. -/
def rmdir (path : FilePath) : Option (FileStore Content) :=
  match store.tree.walk path with
  | none => none
  | some location =>
      if empty : location ≠ [] ∧ store.tree.isDirAt location = true ∧
          store.children location = [] then
        some (store.restrict (fun place => place ≠ location) (by
          intro entry inside below _
          simp only [decide_eq_true_eq]
          intro parent
          have child : entry.1.getLast below ∈ store.children location := by
            rw [mem_children, ← parent, List.dropLast_append_getLast, tree, treeOf_ne_none]
            exact ⟨entry, inside, rfl⟩
          rw [empty.2.2] at child
          cases child))
      else none

/-- The names in a directory; `none` where there is none. -/
def listdir (path : FilePath) : Option (List FileName) :=
  match store.tree.walk path with
  | none => none
  | some location =>
      if store.tree.isDirAt location then some (store.children location) else none

/-- Remove a directory with all that is below it: what is left, and whether the last call, which
removes the directory itself, succeeds.  A path which ends in `.` is not `entitled` to that. -/
def rmtree (path : FilePath) (entitled : Bool) : FileStore Content × Bool :=
  match store.tree.walk path with
  | none => (store, false)
  | some location =>
      match if entitled then (store.removeBelow location).rmdir path else none with
      | some removed => (removed, true)
      | none => (store.removeBelow location, false)

/-- The store with other content of one regular file. -/
def withContent (location : Location) (content : Content) : FileStore Content where
  entries := withContentAt location content store.entries
  rooted := rooted_withContentAt location content store.rooted
  named := by
    intro entry inside
    obtain ⟨old, member, rfl⟩ := List.mem_map.mp inside
    exact store.named old member

/-- Replace the content of a regular file. -/
def overwrite (path : FilePath) (content : Content) : Option (FileStore Content) :=
  match store.tree.walk path with
  | none => none
  | some location =>
      match store.tree location with
      | some (.file _) => some (store.withContent location content)
      | _ => none

/-! ### The tree behind an operation -/

/-- What is gone is no longer there, and the rest is as it was. -/
def Removes (tree : FileTree Content) (gone : Location → Prop) (after : FileTree Content) : Prop :=
  ∀ place, (gone place → after place = none) ∧ (¬ gone place → after place = tree place)

section Removals

variable {tree middle after : FileTree Content} {gone more : Location → Prop}

theorem Removes.still (none_gone : ∀ place, ¬ gone place) : Removes tree gone tree :=
  fun place => ⟨fun taken => absurd taken (none_gone place), fun _ => rfl⟩

theorem Removes.then (first : Removes tree gone middle) (second : Removes middle more after) :
    Removes tree (fun place => gone place ∨ more place) after := by
  intro place
  by_cases taken : more place
  · exact ⟨fun _ => (second place).1 taken, fun kept => absurd (.inr taken) kept⟩
  · rw [(second place).2 taken]
    constructor
    · rintro (early | late)
      · exact (first place).1 early
      · exact absurd late taken
    · intro kept
      exact (first place).2 fun early => kept (.inl early)

/-- Only what was there can go. -/
theorem Removes.congr (removes : Removes tree gone after)
    (same : ∀ place, tree place ≠ none → (gone place ↔ more place)) : Removes tree more after := by
  intro place
  by_cases free : tree place = none
  · have absent : after place = none := by
      by_cases taken : gone place
      · exact (removes place).1 taken
      · exact ((removes place).2 taken).trans free
    exact ⟨fun _ => absent, fun _ => absent.trans free.symm⟩
  · rw [← same place free]
    exact removes place

end Removals

section Plain

variable {path location : Location}

theorem tree_restrict {keep : Location → Bool}
    (closed : ∀ entry ∈ store.entries, entry.1 ≠ [] → keep entry.1 = true →
      keep entry.1.dropLast = true) (place : Location) :
    (store.restrict keep closed).tree place = if keep place then store.tree place else none :=
  treeOf_filter keep store.entries place

theorem tree_removeBelow (place : Location) :
    (store.removeBelow location).tree place =
      if beneath location place then none else store.tree place := by
  rw [removeBelow, tree_restrict]
  cases beneath location place <;> rfl

theorem tree_withContent (content : Content) (place : Location) :
    (store.withContent location content).tree place =
      if place = location then (store.tree place).map (Node.withContent content)
      else store.tree place :=
  treeOf_withContentAt location content store.entries place

theorem isDirAt_parent {name : FileName} (found : store.tree (location ++ [name]) ≠ none) :
    store.tree.isDirAt location = true := by
  obtain ⟨entry, inside, place⟩ := treeOf_ne_none.mp found
  have dir := store.rooted entry inside (by simp [place])
  rwa [place, List.dropLast_concat] at dir

theorem exists_of_prefix {front : Location} (found : store.tree location ≠ none)
    (inside : front <+: location) : store.tree front ≠ none := by
  obtain ⟨back, rfl⟩ := inside
  induction back using List.reverseRec with
  | nil => rwa [List.append_nil] at found
  | append_singleton back name ih =>
      rw [← List.append_assoc] at found
      refine ih fun free => ?_
      have dir := store.isDirAt_parent found
      rw [FileTree.isDirAt, free] at dir
      cases dir

theorem plainName_of_exists (found : store.tree location ≠ none) :
    ∀ name ∈ location, PlainName name := by
  obtain ⟨entry, inside, rfl⟩ := treeOf_ne_none.mp found
  exact store.named entry inside

/-- What exists is found under its own path. -/
theorem walk_plain (found : store.tree path ≠ none) : store.tree.walk path = some path := by
  induction path using List.reverseRec with
  | nil => rfl
  | append_singleton path name ih =>
      have walked := ih (store.exists_of_prefix found (List.prefix_append path [name]))
      have other : name ≠ ['.', '.'] := (store.plainName_of_exists found name (by simp)).2.2.2
      rw [FileTree.walk] at walked ⊢
      rw [List.foldlM_append, walked]
      simp [FileTree.enter, store.isDirAt_parent found, other]

theorem stat_plain (plain : ['.', '.'] ∉ path) : store.tree.stat path = store.tree path := by
  by_cases found : store.tree path = none
  · cases walked : store.tree.walk path with
    | none => rw [FileTree.stat, walked, found]; rfl
    | some location =>
        have here := FileTree.walk_resolve store.tree walked
        rw [FileTree.resolve_plain plain] at here
        rw [FileTree.stat, walked, here]
        rfl
  · rw [FileTree.stat, store.walk_plain found]
    rfl

theorem isDir_plain (plain : ['.', '.'] ∉ path) :
    store.tree.isDir path = store.tree.isDirAt path := by
  rw [FileTree.isDir, FileTree.isDirAt, store.stat_plain plain]

theorem ne_none_of_isDirAt (dir : store.tree.isDirAt location = true) :
    store.tree location ≠ none := by
  intro free
  rw [FileTree.isDirAt, free] at dir
  cases dir

theorem listdir_plain (dir : store.tree.isDirAt path = true) :
    store.listdir path = some (store.children path) := by
  rw [listdir, store.walk_plain (store.ne_none_of_isDirAt dir)]
  exact if_pos dir

theorem listdir_none (plain : ['.', '.'] ∉ path) (other : store.tree.isDirAt path = false) :
    store.listdir path = none := by
  rw [listdir]
  cases walked : store.tree.walk path with
  | none => rfl
  | some location =>
      have here := FileTree.walk_resolve store.tree walked
      rw [FileTree.resolve_plain plain] at here
      rw [here]
      simp [other]

/-- An empty directory is removed, and nothing else. -/
theorem rmdir_plain (below : path ≠ [])
    (dir : store.tree.isDirAt path = true) (empty : store.children path = []) :
    ∃ removed, store.rmdir path = some removed ∧
      Removes store.tree (fun place => place = path) removed.tree := by
  have walked := store.walk_plain (store.ne_none_of_isDirAt dir)
  rw [rmdir, walked]
  simp only
  rw [dif_pos ⟨below, dir, empty⟩]
  refine ⟨_, rfl, fun place => ?_⟩
  simp only [tree_restrict]
  constructor
  · intro same
    simp [same]
  · intro other
    simp [other]

/-- A directory is removed with all that is below it. -/
theorem rmtree_plain (below : path ≠ [])
    (dir : store.tree.isDirAt path = true) :
    ∃ removed, store.rmtree path true = (removed, true) ∧
      Removes store.tree (fun place => path <+: place) removed.tree := by
  have same : (store.removeBelow path).tree path = store.tree path := by
    simp [tree_removeBelow, beneath]
  have emptied : (store.removeBelow path).children path = [] := by
    rw [List.eq_nil_iff_forall_not_mem]
    intro name inside
    rw [mem_children, tree_removeBelow, beneath] at inside
    simp at inside
  have dir_left : (store.removeBelow path).tree.isDirAt path = true := by
    rw [FileTree.isDirAt] at dir ⊢
    rwa [same]
  obtain ⟨removed, ends, left⟩ :=
    (store.removeBelow path).rmdir_plain below dir_left emptied
  rw [rmtree, store.walk_plain (store.ne_none_of_isDirAt dir)]
  simp only [if_true]
  rw [ends]
  have below_first : Removes store.tree (fun place => beneath path place = true)
      (store.removeBelow path).tree := by
    intro place
    rw [tree_removeBelow]
    exact ⟨fun taken => if_pos taken, fun kept => if_neg kept⟩
  refine ⟨removed, rfl, (below_first.then left).congr fun place _ => ?_⟩
  by_cases here : place = path
  · simp [here]
  · simp [here, beneath]

/-- A regular file gets other content, and nothing else changes. -/
theorem overwrite_plain {old : Content} (held : store.tree path = some (.file old))
    (content : Content) :
    ∃ written, store.overwrite path content = some written ∧
      ∀ place, written.tree place =
        if place = path then some (.file content) else store.tree place := by
  have found : store.tree path ≠ none := by simp [held]
  have walked := store.walk_plain found
  rw [overwrite, walked]
  simp only [held]
  refine ⟨_, rfl, fun place => ?_⟩
  rw [tree_withContent]
  by_cases same : place = path
  · rw [if_pos same, if_pos same, same, held]
    rfl
  · rw [if_neg same, if_neg same]

end Plain

end FileStore
end HermOS
