import HermOS.Library.Counting

/-!
# Pools of workers

An executor begins its items in the order of their submission, as many at once as it has workers,
and they finish in any order.  Every item owns a cell of a store, and where its cell is written by
nobody else, the store tells how far each item has come.
-/

namespace HermOS

/-- The items of an executor, numbered in the order of their submission. -/
structure WorkerPool where
  submitted : ℕ
  begun : ℕ
  finished : ℕ → Bool
  begun_le : begun ≤ submitted
  finished_lt : ∀ item, finished item = true → item < begun

namespace WorkerPool

/-- How far an item has come. -/
inductive Slot
  | waiting
  | running
  | finished

/-- An executor without items. -/
def empty : WorkerPool :=
  ⟨0, 0, fun _ => false, le_rfl, fun _ ended => absurd ended Bool.false_ne_true⟩

variable (pool : WorkerPool)

def slot (item : ℕ) : Slot :=
  if pool.finished item then .finished else if item < pool.begun then .running else .waiting

/-- Number of finished items. -/
def done : ℕ :=
  Counting.raised pool.finished pool.submitted

/-- An item is waiting, and one of the workers is idle. -/
structure CanBegin (workers : ℕ) : Prop where
  waiting : pool.begun < pool.submitted
  idle : pool.begun < pool.done + workers

def submit : WorkerPool :=
  { pool with
    submitted := pool.submitted + 1
    begun_le := Nat.le_succ_of_le pool.begun_le }

/-- Begin the item which has waited longest. -/
def begin (waiting : pool.begun < pool.submitted) : WorkerPool :=
  { pool with
    begun := pool.begun + 1
    begun_le := waiting
    finished_lt := fun item ended => Nat.lt_succ_of_lt (pool.finished_lt item ended) }

def finish (item : ℕ) (started : item < pool.begun) : WorkerPool :=
  { pool with
    finished := Function.update pool.finished item true
    finished_lt := by
      intro other ended
      rcases eq_or_ne other item with rfl | ne
      · exact started
      · exact pool.finished_lt other (by rwa [Function.update_of_ne ne] at ended) }

theorem begun_lt_begin (waiting : pool.begun < pool.submitted) :
    pool.begun < (pool.begin waiting).begun :=
  Nat.lt_succ_self pool.begun

/-- Begin the item which has waited longest, and finish it at once. -/
def skip (waiting : pool.begun < pool.submitted) : WorkerPool :=
  (pool.begin waiting).finish pool.begun (pool.begun_lt_begin waiting)

variable {pool} {item : ℕ}

theorem slot_eq_running :
    pool.slot item = .running ↔ item < pool.begun ∧ pool.finished item = false := by
  unfold slot
  split
  next ended => simp [ended]
  next live =>
    split
    next started => simp [live, started]
    next fresh => simp [fresh]

theorem slot_eq_finished : pool.slot item = .finished ↔ pool.finished item = true := by
  unfold slot
  split
  next ended => simp [ended]
  next live => split <;> simp [live]

theorem finished_begun (pool : WorkerPool) : pool.finished pool.begun = false := by
  by_contra ended
  exact (pool.finished_lt _ (Bool.not_eq_false _ ▸ ended)).false

theorem slot_begun (pool : WorkerPool) : pool.slot pool.begun = .waiting := by
  simp [slot, finished_begun]

theorem slot_begin (waiting : pool.begun < pool.submitted) :
    (pool.begin waiting).slot = Function.update pool.slot pool.begun .running := by
  funext item
  rcases eq_or_ne item pool.begun with rfl | ne
  · rw [Function.update_self, slot_eq_running]
    exact ⟨Nat.lt_succ_self _, pool.finished_begun⟩
  · have same : item < pool.begun + 1 ↔ item < pool.begun := by omega
    rw [Function.update_of_ne ne]
    simp only [slot, begin, same]

theorem slot_finish (started : item < pool.begun) :
    (pool.finish item started).slot = Function.update pool.slot item .finished := by
  funext other
  rcases eq_or_ne other item with rfl | ne
  · rw [Function.update_self, slot_eq_finished]
    exact Function.update_self ..
  · have same : (pool.finish item started).finished other = pool.finished other :=
      Function.update_of_ne ne ..
    rw [Function.update_of_ne ne, slot, same]
    rfl

theorem slot_skip (waiting : pool.begun < pool.submitted) :
    (pool.skip waiting).slot = Function.update pool.slot pool.begun .finished := by
  rw [skip, slot_finish, slot_begin, Function.update_idem]

/-! ### How many items have finished -/

@[simp] theorem done_submit : pool.submit.done = pool.done := by
  have fresh : pool.finished pool.submitted = false := by
    by_contra ended
    have below := pool.finished_lt _ (Bool.not_eq_false _ ▸ ended)
    exact (below.trans_le pool.begun_le).false
  change Counting.raised pool.finished (pool.submitted + 1) = _
  rw [Counting.raised, Nat.count_succ, fresh]
  rfl

@[simp] theorem done_begin (waiting : pool.begun < pool.submitted) :
    (pool.begin waiting).done = pool.done :=
  rfl

theorem done_finish (started : item < pool.begun) (running : pool.finished item = false) :
    (pool.finish item started).done = pool.done + 1 :=
  Counting.raised_succ (started.trans_le pool.begun_le) running (Function.update_self ..)
    fun _ _ ne => Function.update_of_ne ne ..

theorem done_skip (waiting : pool.begun < pool.submitted) :
    (pool.skip waiting).done = pool.done + 1 :=
  done_finish (pool.begun_lt_begin waiting) pool.finished_begun

theorem done_le (pool : WorkerPool) : pool.done ≤ pool.submitted :=
  Nat.count_le _

theorem slot_of_all (all : pool.submitted ≤ pool.done) (below : item < pool.submitted) :
    pool.slot item = .finished :=
  slot_eq_finished.mpr (Counting.forall_of_le_raised all item below)

/-- Until every item has finished, the next one can begin or a running one finish. -/
theorem canBegin_or_running {workers : ℕ} (some_worker : 0 < workers)
    (unfinished : pool.done < pool.submitted) :
    pool.CanBegin workers ∨ ∃ item, pool.slot item = .running := by
  by_cases free : pool.CanBegin workers
  · exact .inl free
  · have behind : pool.done < pool.begun := by
      have closed : pool.begun < pool.submitted → pool.done + workers ≤ pool.begun :=
        fun waiting => not_lt.mp fun idle => free ⟨waiting, idle⟩
      have bound := pool.begun_le
      omega
    have short : Counting.raised pool.finished pool.begun < pool.begun :=
      (Nat.count_monotone _ pool.begun_le).trans_lt behind
    obtain ⟨item, started, live⟩ := Counting.exists_lowered short
    exact .inr ⟨item, slot_eq_running.mpr ⟨started, live⟩⟩

/-! ### What is left to do -/

/-- Steps which the executor has still to take for so many items. -/
def rest (pool : WorkerPool) (items : ℕ) : ℕ :=
  (items - pool.submitted) + (items - pool.begun) + (items - pool.done)

variable {items : ℕ}

theorem rest_le (pool : WorkerPool) (items : ℕ) : pool.rest items ≤ 3 * items := by
  unfold rest
  omega

theorem rest_submit (more : pool.submitted < items) : pool.submit.rest items < pool.rest items := by
  have count : pool.submit.submitted = pool.submitted + 1 := rfl
  have started : pool.submit.begun = pool.begun := rfl
  unfold rest
  rw [done_submit, count, started]
  omega

theorem rest_begin (waiting : pool.begun < pool.submitted) (bound : pool.submitted ≤ items) :
    (pool.begin waiting).rest items < pool.rest items := by
  have count : (pool.begin waiting).submitted = pool.submitted := rfl
  have started : (pool.begin waiting).begun = pool.begun + 1 := rfl
  unfold rest
  rw [done_begin, count, started]
  omega

theorem rest_finish (started : item < pool.begun) (running : pool.finished item = false)
    (bound : pool.submitted ≤ items) : (pool.finish item started).rest items < pool.rest items := by
  have ended := (pool.finish item started).done_le
  have counts : (pool.finish item started).submitted = pool.submitted := rfl
  have begins : (pool.finish item started).begun = pool.begun := rfl
  rw [done_finish started running, counts] at ended
  unfold rest
  rw [done_finish started running, counts, begins]
  omega

theorem rest_skip (waiting : pool.begun < pool.submitted) (bound : pool.submitted ≤ items) :
    (pool.skip waiting).rest items < pool.rest items :=
  (rest_finish (pool.begun_lt_begin waiting) pool.finished_begun bound).trans
    (rest_begin waiting bound)

/-! ### The cells of the items -/

section Cells

variable {Cell Value : Type*} {items : List Cell} {value : Slot → Cell → Value}
variable {store : Cell → Value} {cell : Cell}

/-- The cell of an item holds what belongs to its slot, and every other cell what it held before. -/
structure Carries (items : List Cell) (value : Slot → Cell → Value) (pool : WorkerPool)
    (store : Cell → Value) : Prop where
  item : ∀ {item cell}, items[item]? = some cell → store cell = value (pool.slot item) cell
  other : ∀ cell, cell ∉ items → store cell = value .waiting cell

namespace Carries

theorem start (same : ∀ cell, store cell = value .waiting cell) :
    Carries items value empty store :=
  ⟨fun _ => same _, fun cell _ => same cell⟩

/-- An item moves and writes its cell. -/
theorem move [DecidableEq Cell] {after : WorkerPool} {next : Slot}
    (carries : Carries items value pool store) (nodup : items.Nodup)
    (at_item : items[item]? = some cell)
    (moved : after.slot = Function.update pool.slot item next) :
    Carries items value after (Function.update store cell (value next cell)) := by
  constructor
  · intro other held at_other
    rw [moved]
    rcases eq_or_ne other item with rfl | ne
    · obtain rfl : cell = held := by simpa [at_item] using at_other
      rw [Function.update_self, Function.update_self]
    · have apart : held ≠ cell := by
        rintro rfl
        obtain ⟨bound, _⟩ := List.getElem?_eq_some_iff.mp at_other
        exact ne ((List.getElem?_inj bound nodup).mp (at_other.trans at_item.symm))
      rw [Function.update_of_ne apart, Function.update_of_ne ne]
      exact carries.item at_other
  · intro held outside
    have apart : held ≠ cell := by
      rintro rfl
      exact outside (List.mem_of_getElem? at_item)
    rw [Function.update_of_ne apart]
    exact carries.other held outside

/-- Before the first submission every cell holds its first value. -/
theorem unsubmitted (carries : Carries items value pool store) (none_yet : pool.submitted = 0)
    (cell : Cell) : store cell = value .waiting cell := by
  by_cases inside : cell ∈ items
  · obtain ⟨item, below, rfl⟩ := List.getElem_of_mem inside
    have fresh : ¬ item < pool.begun := by
      have bound := pool.begun_le
      omega
    have live : pool.finished item = false := by
      by_contra ended
      exact fresh (pool.finished_lt item (Bool.not_eq_false _ ▸ ended))
    rw [carries.item (List.getElem?_eq_getElem below), slot, live, if_neg Bool.false_ne_true,
      if_neg fresh]
  · exact carries.other cell inside

/-- Where all items have finished, the cells of the items have their last values. -/
theorem settled (carries : Carries items value pool store)
    (all : ∀ item < items.length, pool.slot item = .finished) (inside : cell ∈ items) :
    store cell = value .finished cell := by
  obtain ⟨item, below, rfl⟩ := List.getElem_of_mem inside
  rw [carries.item (List.getElem?_eq_getElem below), all item below]

end Carries
end Cells
end WorkerPool
end HermOS
