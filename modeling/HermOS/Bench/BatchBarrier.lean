import HermOS.Bench.StepShell
import HermOS.Library.Counting
import Mathlib.Algebra.Order.BigOperators.Group.Finset

/-!
# The barriers of a batch

The threads of a batch of `step_shell::run` never differ by more than one passage of their barrier,
which tells how often each of them has passed it.  A rank which every step lowers excludes endless
runs, so a run which cannot go on has returned and its threads have terminated.
-/

namespace HermOS
namespace Bench
namespace StepShell

open Netns

/-! ### Threads and their barrier -/

/-- What holds of a thread of a batch whose barrier has opened so often. -/
def WorkerPc.InStep (generation : ℕ) : WorkerPc → Prop
  | .unspawned => generation = 0
  | .looping index _ _ => index = generation ∧ index ≤ stages.length
  | .executing index _ | .arriving index _ _ => index = generation ∧ index < stages.length
  | .waiting index begun _ _ =>
      index = begun ∧ index < stages.length ∧ (generation = index ∨ generation = index + 1)
  | .cleaning _ _ | .done _ => generation = stages.length

/-- The thread counts as arrived in a generation. -/
def WorkerPc.waitsIn (generation : ℕ) : WorkerPc → Bool
  | .waiting _ begun _ _ => begun == generation
  | _ => false

def MainPc.spawningBatch : MainPc → Option ℕ
  | .spawning _ nextSeq _ _ => some nextSeq
  | _ => none

/-- The threads which exist at a point of the main thread. -/
def MainPc.Launched (host : Host) (worker : ℕ → ℕ → WorkerPc) : MainPc → Prop
  | .detecting => ∀ first tid, worker first tid = .unspawned
  | .batching _ nextSeq _ =>
      (nextSeq % host.config.concurrency = 0 ∨ host.config.total ≤ nextSeq) ∧
        ∀ first, nextSeq ≤ first → ∀ tid, worker first tid = .unspawned
  | .spawning _ nextSeq spawned _ =>
      nextSeq % host.config.concurrency = 0 ∧ nextSeq < host.config.total ∧
        spawned ≤ host.batchSize nextSeq ∧
        (∀ tid < spawned, worker nextSeq tid ≠ .unspawned) ∧
        (∀ tid, spawned ≤ tid → worker nextSeq tid = .unspawned) ∧
        ∀ first, nextSeq < first → ∀ tid, worker first tid = .unspawned
  | .joining _ nextSeq joined _ =>
      nextSeq % host.config.concurrency = 0 ∧ nextSeq < host.config.total ∧
        joined ≤ host.batchSize nextSeq ∧
        (∀ tid < host.batchSize nextSeq, worker nextSeq tid ≠ .unspawned) ∧
        ∀ first, nextSeq < first → ∀ tid, worker first tid = .unspawned
  | .returned _ => True

/-- Threads of a batch are in step with their barrier. -/
structure InStep (host : Host) (state : State) : Prop where
  member : ∀ first tid, state.worker first tid ≠ .unspawned →
    first % host.config.concurrency = 0 ∧ tid < host.batchSize first
  worker : ∀ first tid, tid < host.batchSize first →
    (state.worker first tid).InStep (state.barrier first).generation
  count : ∀ first, (state.barrier first).count = Counting.raised
    (fun tid => (state.worker first tid).waitsIn (state.barrier first).generation)
    (host.batchSize first)
  /-- A barrier opens as soon as all threads have arrived. -/
  open_end : ∀ first, 0 < host.batchSize first → (state.barrier first).count < host.batchSize first
  whole : ∀ first, state.main.spawningBatch ≠ some first →
    (∀ tid < host.batchSize first, state.worker first tid = .unspawned) ∨
      ∀ tid < host.batchSize first, state.worker first tid ≠ .unspawned
  launched : state.main.Launched host state.worker

variable {host : Host} {state : State}

@[simp] theorem setBarrier_self (state : State) (first : ℕ) :
    state.setBarrier first (state.barrier first) = state := by
  rw [State.setBarrier, Function.update_eq_self]

theorem MainPc.Launched.congr {worker next : ℕ → ℕ → WorkerPc} {pc : MainPc}
    (launched : pc.Launched host worker)
    (same : ∀ first tid, next first tid = .unspawned ↔ worker first tid = .unspawned) :
    pc.Launched host next := by
  cases pc with
  | detecting => exact fun first tid => (same first tid).mpr (launched first tid)
  | batching totalBefore nextSeq allResults =>
      exact ⟨launched.1, fun first behind tid => (same first tid).mpr (launched.2 first behind tid)⟩
  | spawning totalBefore nextSeq spawned allResults =>
      obtain ⟨aligned, more, bound, before, fresh, behind⟩ := launched
      exact ⟨aligned, more, bound, fun tid less => (same _ _).not.mpr (before tid less),
        fun tid above => (same _ _).mpr (fresh tid above),
        fun first later tid => (same _ _).mpr (behind first later tid)⟩
  | joining totalBefore nextSeq joined allResults =>
      obtain ⟨aligned, more, bound, before, behind⟩ := launched
      exact ⟨aligned, more, bound, fun tid less => (same _ _).not.mpr (before tid less),
        fun first later tid => (same _ _).mpr (behind first later tid)⟩
  | returned output => trivial

namespace InStep

theorem batchSize_le (host : Host) (first : ℕ) :
    host.batchSize first ≤ host.config.total - first :=
  Nat.min_le_right _ _

theorem batchSize_pos (concurrent : 1 ≤ host.config.concurrency) {first : ℕ}
    (more : first < host.config.total) : 0 < host.batchSize first :=
  lt_min concurrent (Nat.sub_pos_of_lt more)

theorem moveMain (inStep : InStep host state) {pc : MainPc}
    (whole : ∀ first, state.main.spawningBatch = some first → pc.spawningBatch ≠ some first →
      (∀ tid < host.batchSize first, state.worker first tid = .unspawned) ∨
        ∀ tid < host.batchSize first, state.worker first tid ≠ .unspawned)
    (launched : pc.Launched host state.worker) : InStep host (state.moveMain pc) := by
  refine ⟨inStep.member, inStep.worker, inStep.count, inStep.open_end, fun first other => ?_,
    launched⟩
  by_cases spawning : state.main.spawningBatch = some first
  · exact whole first spawning other
  · exact inStep.whole first spawning

/-- A thread of the batch moves, and with it the data of the barrier. -/
theorem moveAt (inStep : InStep host state) {first tid : ℕ} {old pc : WorkerPc}
    {barrier : Barrier} (at_pc : state.worker first tid = old) (live : old ≠ .unspawned)
    (stays : pc ≠ .unspawned) (own : pc.InStep barrier.generation)
    (others : ∀ other < host.batchSize first, other ≠ tid →
      (state.worker first other).InStep barrier.generation)
    (count : barrier.count = Counting.raised
      (fun other => (if other = tid then pc else state.worker first other).waitsIn
        barrier.generation) (host.batchSize first))
    (open_end : barrier.count < host.batchSize first) :
    InStep host ((state.setBarrier first barrier).moveWorker first tid pc) := by
  have same : ∀ other index,
      ((state.setBarrier first barrier).moveWorker first tid pc).worker other index = .unspawned ↔
        state.worker other index = .unspawned := by
    intro other index
    rw [moveWorker_worker]
    split
    next moved => simp [moved.1, moved.2, at_pc, live, stays]
    next => rfl
  have barriers : ∀ other, other ≠ first →
      ((state.setBarrier first barrier).moveWorker first tid pc).barrier other =
        state.barrier other := fun other different => Function.update_of_ne different ..
  have own_barrier : ((state.setBarrier first barrier).moveWorker first tid pc).barrier first =
      barrier := Function.update_self ..
  refine ⟨fun other index spawned => inStep.member other index fun none =>
      spawned ((same other index).mpr none), fun other index below => ?_, fun other => ?_,
    fun other positive => ?_, fun other outside => ?_, inStep.launched.congr same⟩
  · rw [moveWorker_worker]
    rcases eq_or_ne other first with rfl | different
    · rw [own_barrier]
      split
      next => exact own
      next unmoved => exact others index below fun moved => unmoved ⟨rfl, moved⟩
    · rw [barriers other different, if_neg fun moved => different moved.1]
      exact inStep.worker other index below
  · rcases eq_or_ne other first with rfl | different
    · rw [own_barrier, count]
      simp only [moveWorker_worker, true_and]
      rfl
    · rw [barriers other different, inStep.count other]
      refine Counting.raised_congr fun index below => ?_
      rw [moveWorker_worker, if_neg fun moved => different moved.1]
      rfl
  · rcases eq_or_ne other first with rfl | different
    · rw [own_barrier]
      exact open_end
    · rw [barriers other different]
      exact inStep.open_end other positive
  · simp only [ne_eq, same]
    exact inStep.whole other outside

theorem below (inStep : InStep host state) {first tid : ℕ} {pc : WorkerPc}
    (at_pc : state.worker first tid = pc) (live : pc ≠ .unspawned) :
    tid < host.batchSize first :=
  (inStep.member first tid fun none => live (at_pc.symm.trans none)).2

/-- What a running thread is known to meet. -/
theorem at_barrier (inStep : InStep host state) {first tid : ℕ} {pc : WorkerPc}
    (at_pc : state.worker first tid = pc) (live : pc ≠ .unspawned) :
    pc.InStep (state.barrier first).generation :=
  at_pc ▸ inStep.worker first tid (inStep.below at_pc live)

/-- A thread moves between two barriers. -/
theorem moveWorker (inStep : InStep host state) {first tid : ℕ} {old pc : WorkerPc}
    (at_pc : state.worker first tid = old) (live : old ≠ .unspawned) (stays : pc ≠ .unspawned)
    (own : pc.InStep (state.barrier first).generation)
    (arrived : pc.waitsIn (state.barrier first).generation =
      old.waitsIn (state.barrier first).generation) :
    InStep host (state.moveWorker first tid pc) := by
  have below := inStep.below at_pc live
  have moved : InStep host
      ((state.setBarrier first (state.barrier first)).moveWorker first tid pc) := by
    refine inStep.moveAt at_pc live stays own (fun other less _ => inStep.worker first other less)
      ?_ (inStep.open_end first (Nat.zero_lt_of_lt below))
    rw [inStep.count first]
    refine Counting.raised_congr fun other _ => ?_
    split
    next same => rw [same, at_pc, arrived]
    next => rfl
  rwa [setBarrier_self] at moved

/-- A thread arrives at its barrier and is not the last one. -/
theorem arrive (inStep : InStep host state) {first tid index : ℕ} {results : List Measurement}
    {error : Option String} (at_pc : state.worker first tid = .arriving index results error)
    (short : (state.barrier first).count + 1 < host.batchSize first) :
    InStep host ((state.setBarrier first { state.barrier first with
      count := (state.barrier first).count + 1 }).moveWorker first tid
        (.waiting index (state.barrier first).generation results error)) := by
  obtain ⟨met, inside⟩ := inStep.at_barrier at_pc (by simp)
  refine inStep.moveAt at_pc (by simp) (by simp) ⟨met, inside, .inl met.symm⟩
    (fun other less _ => inStep.worker first other less) ?_ short
  change (state.barrier first).count + 1 = _
  rw [inStep.count first]
  refine (Counting.raised_succ (inStep.below at_pc (by simp)) ?_ ?_
    fun other _ different => ?_).symm
  · rw [at_pc]
    rfl
  · simp [WorkerPc.waitsIn]
  · simp [different]

/-- The last thread of a batch opens the barrier. -/
theorem arriveLast (inStep : InStep host state) {first tid index : ℕ}
    {results : List Measurement} {error : Option String}
    (at_pc : state.worker first tid = .arriving index results error)
    (full : host.batchSize first ≤ (state.barrier first).count + 1) :
    InStep host ((state.setBarrier first ⟨0, (state.barrier first).generation + 1⟩).moveWorker
      first tid (.looping (index + 1) results error)) := by
  obtain ⟨met, inside⟩ := inStep.at_barrier at_pc (by simp)
  have below := inStep.below at_pc (by simp)
  -- with the mover all threads of the batch have arrived
  have arrived : ∀ other < host.batchSize first, other ≠ tid →
      (state.worker first other).waitsIn (state.barrier first).generation = true := by
    have raised := @Counting.raised_succ
      (fun other => (state.worker first other).waitsIn (state.barrier first).generation)
      (fun other => if other = tid then true else
        (state.worker first other).waitsIn (state.barrier first).generation) _ _ below
      (by rw [at_pc]; rfl) (by simp) (fun other _ different => by simp [different])
    rw [← inStep.count first] at raised
    intro other less different
    have all := Counting.forall_of_le_raised (raised ▸ full) other less
    simpa [different] using all
  refine inStep.moveAt at_pc (by simp) (by simp) ⟨congrArg (· + 1) met, inside⟩
    (fun other less different => ?_) ?_ (Nat.zero_lt_of_lt below)
  · have waits := arrived other less different
    have known := inStep.worker first other less
    cases at_other : state.worker first other <;>
      simp only [at_other, WorkerPc.waitsIn, WorkerPc.InStep, beq_iff_eq, Bool.false_eq_true]
        at waits known ⊢
    exact ⟨known.1, known.2.1, .inr (by omega)⟩
  · refine (Counting.raised_eq_zero fun other less => ?_).symm
    split
    next => rfl
    next different =>
      have waits := arrived other less different
      cases at_other : state.worker first other <;>
        simp only [at_other, WorkerPc.waitsIn, beq_iff_eq, Bool.false_eq_true] at waits ⊢
      simp [waits]

/-- The main thread spawns a thread of its batch. -/
theorem spawn (inStep : InStep host state) {totalBefore : UsageSnapshot} {nextSeq tid : ℕ}
    {allResults : List Measurement}
    (at_pc : state.main = .spawning totalBefore nextSeq tid allResults)
    (more : tid < host.batchSize nextSeq) :
    InStep host ((state.moveWorker nextSeq tid (.looping 0 [] none)).moveMain
      (.spawning totalBefore nextSeq (tid + 1) allResults)) := by
  have launched := inStep.launched
  rw [at_pc] at launched
  obtain ⟨aligned, below, _, live, fresh, behind⟩ := launched
  have empty : (state.barrier nextSeq).generation = 0 := by
    have own := inStep.worker nextSeq tid more
    rwa [fresh tid (le_refl tid)] at own
  have moved : ∀ first index, ((state.moveWorker nextSeq tid (.looping 0 [] none)).moveMain
      (.spawning totalBefore nextSeq (tid + 1) allResults)).worker first index =
        if first = nextSeq ∧ index = tid then .looping 0 [] none
        else state.worker first index := moveWorker_worker state nextSeq tid _
  refine ⟨fun first index spawned => ?_, fun first index less => ?_,
    fun first => (inStep.count first).trans (Counting.raised_congr fun index _ => ?_).symm,
    inStep.open_end, fun first other => ?_, aligned, below, more, fun index less => ?_,
    fun index above => ?_, fun first later index => ?_⟩
  · rw [moved] at spawned
    split at spawned
    next same => exact ⟨same.1 ▸ aligned, same.1 ▸ same.2 ▸ more⟩
    next => exact inStep.member first index spawned
  · rw [moved]
    split
    next same => exact ⟨(same.1 ▸ empty).symm, Nat.zero_le _⟩
    next => exact inStep.worker first index less
  · rw [moved]
    split
    next same => rw [same.1, same.2, fresh tid (le_refl tid)]; rfl
    next => rfl
  · have different : first ≠ nextSeq := fun same => other (congrArg some same.symm)
    simp only [moved, different, false_and, if_false]
    exact inStep.whole first (by simpa [at_pc, MainPc.spawningBatch] using different.symm)
  · have unspawned := moved nextSeq index
    split at unspawned
    next => simp [unspawned]
    next other => exact unspawned ▸ live index (by omega)
  · exact (moved nextSeq index).trans ((if_neg (by omega)).trans (fresh index (by omega)))
  · exact (moved first index).trans ((if_neg (by omega)).trans (behind first later index))

end InStep

theorem inStep_init : InStep host .init where
  member _ _ spawned := absurd rfl spawned
  worker _ _ _ := rfl
  count _ := (Counting.raised_eq_zero fun _ _ => rfl).symm
  open_end _ positive := positive
  whole _ _ := .inl fun _ _ => rfl
  launched _ _ := rfl

theorem inStep_step (concurrent : 1 ≤ host.config.concurrency) {before after : State}
    {label : Label} (inStep : InStep host before) (step : Step host before label after) :
    InStep host after := by
  have launched : ∀ {pc}, before.main = pc → pc.Launched host before.worker := by
    rintro _ rfl
    exact inStep.launched
  cases step with
  | detectFailed at_pc failed =>
    exact inStep.moveMain (by simp [at_pc, MainPc.spawningBatch]) trivial
  | captureFailed at_pc detected failed =>
      exact inStep.moveMain (by simp [at_pc, MainPc.spawningBatch]) trivial
  | begin at_pc detected captured =>
      have none := launched at_pc
      exact inStep.moveMain (by simp [at_pc, MainPc.spawningBatch])
        ⟨.inl (Nat.zero_mod _), fun first _ => none first⟩
  | batch at_pc more =>
      obtain ⟨aligned, fresh⟩ := launched at_pc
      exact inStep.moveMain (by simp [at_pc, MainPc.spawningBatch])
        ⟨aligned.resolve_right (by omega), more, Nat.zero_le _, by simp,
          fun tid _ => fresh _ (le_refl _) tid, fun first behind => fresh first behind.le⟩
  | complete at_pc all => exact inStep.moveMain (by simp [at_pc, MainPc.spawningBatch]) trivial
  | spawn at_pc more => exact inStep.spawn at_pc more
  | @spawned totalBefore nextSeq tid allResults at_pc all =>
      obtain ⟨aligned, below, bound, live, _, behind⟩ := launched at_pc
      have every : ∀ index < host.batchSize nextSeq, before.worker nextSeq index ≠ .unspawned :=
        fun index less => live index (by omega)
      refine inStep.moveMain (fun first same _ => ?_) ⟨aligned, below, Nat.zero_le _, every, behind⟩
      rw [at_pc] at same
      exact .inr (Option.some.inj same ▸ every)
  | join at_pc more finished =>
      obtain ⟨aligned, below, _, rest⟩ := launched at_pc
      exact inStep.moveMain (by simp [at_pc, MainPc.spawningBatch]) ⟨aligned, below, more, rest⟩
  | joinFailed at_pc more failed =>
      exact inStep.moveMain (by simp [at_pc, MainPc.spawningBatch]) trivial
  | @joined totalBefore nextSeq tid allResults at_pc all =>
      obtain ⟨aligned, below, _, _, behind⟩ := launched at_pc
      refine inStep.moveMain (by simp [at_pc, MainPc.spawningBatch]) ⟨?_, fun first above => ?_⟩
      · simp only [Host.batchSize]
        rcases le_total host.config.concurrency (host.config.total - nextSeq) with fits | short
        · rw [Nat.min_eq_left fits, Nat.add_mod_right]
          exact .inl aligned
        · rw [Nat.min_eq_right short]
          omega
      · have grows := InStep.batchSize_pos concurrent below
        exact behind first (by omega)
  | execute at_pc at_stage =>
      obtain ⟨met, _⟩ := inStep.at_barrier at_pc (by simp)
      exact inStep.moveWorker at_pc (by simp) (by simp)
        ⟨met, (List.getElem?_eq_some_iff.mp at_stage).1⟩ rfl
  | skip at_pc at_stage =>
      obtain ⟨met, _⟩ := inStep.at_barrier at_pc (by simp)
      exact inStep.moveWorker at_pc (by simp) (by simp)
        ⟨met, (List.getElem?_eq_some_iff.mp at_stage).1⟩ rfl
  | executed at_pc at_stage measured =>
      have met := inStep.at_barrier at_pc (by simp)
      exact inStep.moveWorker at_pc (by simp) (by simp) met rfl
  | executeFailed at_pc at_stage failed =>
      have met := inStep.at_barrier at_pc (by simp)
      exact inStep.moveWorker at_pc (by simp) (by simp) met rfl
  | arrive at_pc short => exact inStep.arrive at_pc short
  | arriveLast at_pc full => exact inStep.arriveLast at_pc full
  | leave at_pc opened =>
      obtain ⟨rfl, inside, either⟩ := inStep.at_barrier at_pc (by simp)
      refine inStep.moveWorker at_pc (by simp) (by simp) ⟨?_, inside⟩ ?_
      · exact (either.resolve_left opened).symm
      · exact (beq_eq_false_iff_ne.mpr opened.symm).symm
  | leaveLoop at_pc all =>
      obtain ⟨met, bound⟩ := inStep.at_barrier at_pc (by simp)
      have past := List.getElem?_eq_none_iff.mp all
      exact inStep.moveWorker at_pc (by simp) (by simp) (met ▸ le_antisymm bound past) rfl
  | cleanedUp at_pc =>
      have met := inStep.at_barrier at_pc (by simp)
      exact inStep.moveWorker at_pc (by simp) (by simp) met rfl

/-! ### A run ends -/

/-- Steps which a thread has before it, at most. -/
def WorkerPc.rank : WorkerPc → ℕ
  | .unspawned => 4 * stages.length + 3
  | .looping index _ _ => 4 * (stages.length - index) + 2
  | .executing index _ => 4 * (stages.length - index) + 1
  | .arriving index _ _ => 4 * (stages.length - index)
  | .waiting index _ _ _ => 4 * (stages.length - index) - 1
  | .cleaning _ _ => 1
  | .done _ => 0

/-- Steps which the main thread has before it, at most. -/
def MainPc.rank (host : Host) : MainPc → ℕ
  | .detecting => 5 * host.config.total + 2
  | .batching _ nextSeq _ => 5 * (host.config.total - nextSeq) + 1
  | .spawning _ nextSeq spawned _ => 5 * (host.config.total - nextSeq) - spawned
  | .joining _ nextSeq joined _ =>
      5 * (host.config.total - nextSeq) - host.batchSize nextSeq - 1 - joined
  | .returned _ => 0

def Host.threads (host : Host) : Finset (ℕ × ℕ) :=
  Finset.range host.config.total ×ˢ Finset.range host.config.concurrency

def State.rank (host : Host) (state : State) : ℕ :=
  state.main.rank host + ∑ thread ∈ host.threads, (state.worker thread.1 thread.2).rank

/-- The bound on the length of a run. -/
def Host.stepBound (host : Host) : ℕ :=
  State.rank host .init

theorem mem_threads {first tid : ℕ} (below : tid < host.batchSize first) :
    (first, tid) ∈ host.threads := by
  have bounds := lt_min_iff.mp below
  rw [Host.threads, Finset.mem_product, Finset.mem_range, Finset.mem_range]
  omega

theorem sum_rank_moveWorker {first tid : ℕ} {pc : WorkerPc}
    (below : tid < host.batchSize first) (falls : pc.rank < (state.worker first tid).rank) :
    ∑ thread ∈ host.threads, ((state.moveWorker first tid pc).worker thread.1 thread.2).rank <
      ∑ thread ∈ host.threads, (state.worker thread.1 thread.2).rank := by
  refine Finset.sum_lt_sum (fun thread _ => ?_) ⟨(first, tid), mem_threads below, ?_⟩
  · rw [moveWorker_worker]
    split
    next same => exact same.1 ▸ same.2 ▸ falls.le
    next => exact le_refl _
  · rw [moveWorker_worker, if_pos ⟨rfl, rfl⟩]
    exact falls

/-- A step of a thread lowers the rank. -/
theorem rank_moveWorker (inStep : InStep host state) {first tid : ℕ} {old pc : WorkerPc}
    (at_pc : state.worker first tid = old) (live : old ≠ .unspawned) (falls : pc.rank < old.rank) :
    State.rank host (state.moveWorker first tid pc) < State.rank host state := by
  have lower := sum_rank_moveWorker (inStep.below at_pc live) (at_pc ▸ falls)
  exact Nat.add_lt_add_left lower _

theorem rank_moveMain {pc : MainPc} (falls : pc.rank host < state.main.rank host) :
    State.rank host (state.moveMain pc) < State.rank host state :=
  Nat.add_lt_add_right falls _

theorem rank_step (concurrent : 1 ≤ host.config.concurrency) {before after : State}
    {label : Label} (inStep : InStep host before) (step : Step host before label after) :
    State.rank host after < State.rank host before := by
  have launched : ∀ {pc}, before.main = pc → pc.Launched host before.worker := by
    rintro _ rfl
    exact inStep.launched
  have size := InStep.batchSize_le host
  cases step with
  | detectFailed at_pc | captureFailed at_pc | begin at_pc | complete at_pc =>
      exact rank_moveMain (by simp [at_pc, MainPc.rank])
  | batch at_pc more => exact rank_moveMain (by simp [at_pc, MainPc.rank])
  | @spawn totalBefore nextSeq tid allResults at_pc more =>
      obtain ⟨_, below, _, _, fresh, _⟩ := launched at_pc
      have main : MainPc.rank host (.spawning totalBefore nextSeq (tid + 1) allResults) ≤
          before.main.rank host := by
        rw [at_pc]
        simp only [MainPc.rank]
        omega
      have thread : WorkerPc.rank (.looping 0 [] none) < (before.worker nextSeq tid).rank := by
        rw [fresh tid (le_refl tid)]
        simp [WorkerPc.rank]
      exact Nat.add_lt_add_of_le_of_lt main (sum_rank_moveWorker more thread)
  | @spawned totalBefore nextSeq tid allResults at_pc all =>
      obtain ⟨_, below, bound, _⟩ := launched at_pc
      have room := size nextSeq
      refine rank_moveMain ?_
      rw [at_pc]
      simp only [MainPc.rank]
      omega
  | @join totalBefore nextSeq tid allResults threadResults at_pc more finished =>
      obtain ⟨_, below, _⟩ := launched at_pc
      have room := size nextSeq
      refine rank_moveMain ?_
      rw [at_pc]
      simp only [MainPc.rank]
      omega
  | @joinFailed totalBefore nextSeq tid allResults err at_pc more failed =>
      obtain ⟨_, below, _⟩ := launched at_pc
      have room := size nextSeq
      refine rank_moveMain ?_
      rw [at_pc]
      simp only [MainPc.rank]
      omega
  | @joined totalBefore nextSeq tid allResults at_pc all =>
      obtain ⟨_, below, bound, _⟩ := launched at_pc
      have room := size nextSeq
      have grows := InStep.batchSize_pos concurrent below
      refine rank_moveMain ?_
      rw [at_pc]
      simp only [MainPc.rank]
      omega
  | execute at_pc at_stage | skip at_pc at_stage =>
      exact rank_moveWorker inStep at_pc (by simp) (by simp [WorkerPc.rank])
  | executed at_pc | executeFailed at_pc =>
      exact rank_moveWorker inStep at_pc (by simp) (by simp [WorkerPc.rank])
  | arrive at_pc short =>
      obtain ⟨_, inside⟩ := inStep.at_barrier at_pc (by simp)
      refine show State.rank host (before.moveWorker _ _ _) < _ from
        rank_moveWorker inStep at_pc (by simp) ?_
      simp only [WorkerPc.rank]
      omega
  | arriveLast at_pc full =>
      obtain ⟨_, inside⟩ := inStep.at_barrier at_pc (by simp)
      refine show State.rank host (before.moveWorker _ _ _) < _ from
        rank_moveWorker inStep at_pc (by simp) ?_
      simp only [WorkerPc.rank]
      omega
  | leave at_pc opened =>
      obtain ⟨_, inside, _⟩ := inStep.at_barrier at_pc (by simp)
      refine rank_moveWorker inStep at_pc (by simp) ?_
      simp only [WorkerPc.rank]
      omega
  | leaveLoop at_pc all =>
      exact rank_moveWorker inStep at_pc (by simp) (by simp [WorkerPc.rank])
  | cleanedUp at_pc => exact rank_moveWorker inStep at_pc (by simp) (by simp [WorkerPc.rank])

/-- Nothing is left to do. -/
def State.Complete (state : State) : Prop :=
  (∃ output, state.main = .returned output) ∧
    ∀ first tid, state.worker first tid = .unspawned ∨
      ∃ result, state.worker first tid = .done result

/-- A thread which cannot move waits for its barrier, or is not running. -/
theorem waiting_of_stuck (inStep : InStep host state)
    (stuck : ¬ (stepShellRun host).Enabled state) {first tid : ℕ}
    (running : (state.worker first tid).settled = false) :
    (state.worker first tid).waitsIn (state.barrier first).generation = true := by
  by_contra moves
  refine stuck ⟨.worker first tid, ?_⟩
  cases at_pc : state.worker first tid with
  | unspawned => simp [at_pc, WorkerPc.settled] at running
  | looping index results error =>
      cases at_stage : stages[index]? with
      | none => exact ⟨_, .leaveLoop at_pc at_stage⟩
      | some stage =>
          cases error with
          | none => exact ⟨_, .execute at_pc at_stage⟩
          | some err => exact ⟨_, .skip at_pc at_stage⟩
  | executing index results =>
      obtain ⟨_, inside⟩ := inStep.at_barrier at_pc (by simp)
      have at_stage : stages[index]? = some stages[index] := List.getElem?_eq_getElem inside
      cases measured : host.measure (first + tid) index stages[index] with
      | error err => exact ⟨_, .executeFailed at_pc at_stage measured⟩
      | ok sample => exact ⟨_, .executed at_pc at_stage measured⟩
  | arriving index results error =>
      rcases Nat.lt_or_ge ((state.barrier first).count + 1) (host.batchSize first) with short | full
      · exact ⟨_, .arrive at_pc short⟩
      · exact ⟨_, .arriveLast at_pc full⟩
  | waiting index generation results error =>
      refine ⟨_, .leave at_pc fun same => moves ?_⟩
      simp [at_pc, WorkerPc.waitsIn, same]
  | cleaning results error => exact ⟨_, .cleanedUp at_pc⟩
  | done result => simp [at_pc, WorkerPc.settled] at running

theorem settled_of_stuck (inStep : InStep host state)
    (stuck : ¬ (stepShellRun host).Enabled state) (first tid : ℕ) :
    (state.worker first tid).settled = true := by
  by_contra moves
  have running := Bool.eq_false_iff.mpr moves
  have waits := waiting_of_stuck inStep stuck running
  have below : tid < host.batchSize first := by
    refine (inStep.member first tid fun none => ?_).2
    simp [none, WorkerPc.settled] at running
  -- the barrier is short of somebody who neither waits nor can move
  have short := inStep.open_end first (Nat.zero_lt_of_lt below)
  rw [inStep.count first] at short
  obtain ⟨other, inside, absent⟩ := Counting.exists_lowered short
  have quiet : (state.worker first other).settled = true := by
    by_contra moves
    rw [waiting_of_stuck inStep stuck (Bool.eq_false_iff.mpr moves)] at absent
    cases absent
  have own := inStep.worker first tid below
  have early : (state.barrier first).generation < stages.length := by
    cases at_pc : state.worker first tid <;>
      simp only [at_pc, WorkerPc.waitsIn, WorkerPc.InStep, beq_iff_eq, Bool.false_eq_true]
        at waits own
    omega
  have met := inStep.worker first other inside
  rcases WorkerPc.settled_cases quiet with unspawned | ⟨result, done⟩
  · by_cases spawning : state.main.spawningBatch = some first
    · cases at_main : state.main <;>
        simp only [at_main, MainPc.spawningBatch, Option.some.injEq, reduceCtorEq] at spawning
      subst spawning
      have launched := inStep.launched
      rw [at_main] at launched
      obtain ⟨_, _, _, live, _⟩ := launched
      have more := not_lt.mp fun earlier => live other earlier unspawned
      exact stuck ⟨.main, _, .spawn at_main (lt_of_le_of_lt more inside)⟩
    · rcases inStep.whole first spawning with none | every
      · simp [none tid below, WorkerPc.settled] at running
      · exact every other inside unspawned
  · rw [done] at met
    exact early.ne met

/-- A state without steps is complete. -/
theorem complete_of_stuck (inStep : InStep host state)
    (stuck : ¬ (stepShellRun host).Enabled state) : state.Complete := by
  have settled := settled_of_stuck inStep stuck
  refine ⟨?_, fun first tid => WorkerPc.settled_cases (settled first tid)⟩
  cases at_pc : state.main with
  | returned output => exact ⟨output, rfl⟩
  | detecting =>
      refine absurd ⟨.main, ?_⟩ stuck
      cases detected : host.upstream with
      | error err => exact ⟨_, .detectFailed at_pc detected⟩
      | ok device =>
          cases captured : host.totalBefore with
          | error err => exact ⟨_, .captureFailed at_pc detected captured⟩
          | ok totalBefore => exact ⟨_, .begin at_pc detected captured⟩
  | batching totalBefore nextSeq allResults =>
      rcases Nat.lt_or_ge nextSeq host.config.total with more | all
      · exact absurd ⟨.main, _, .batch at_pc more⟩ stuck
      · exact absurd ⟨.main, _, .complete at_pc all⟩ stuck
  | spawning totalBefore nextSeq tid allResults =>
      rcases Nat.lt_or_ge tid (host.batchSize nextSeq) with more | all
      · exact absurd ⟨.main, _, .spawn at_pc more⟩ stuck
      · exact absurd ⟨.main, _, .spawned at_pc all⟩ stuck
  | joining totalBefore nextSeq tid allResults =>
      rcases Nat.lt_or_ge tid (host.batchSize nextSeq) with more | all
      · have launched := inStep.launched
        rw [at_pc] at launched
        obtain ⟨_, _, _, live, _⟩ := launched
        rcases WorkerPc.settled_cases (settled nextSeq tid) with unspawned | ⟨result, done⟩
        · exact absurd unspawned (live tid more)
        · cases result with
          | error err => exact absurd ⟨.main, _, .joinFailed at_pc more done⟩ stuck
          | ok results => exact absurd ⟨.main, _, .join at_pc more done⟩ stuck
      · exact absurd ⟨.main, _, .joined at_pc all⟩ stuck

/-- Some run of the host is complete. -/
theorem exists_complete (concurrent : 1 ≤ host.config.concurrency) :
    ∃ state, (stepShellRun host).Reachable state ∧ state.Complete := by
  obtain ⟨trace, state, path, inStep, stuck⟩ :=
    @TransitionSystem.Path.exists_stuck _ _ (stepShellRun host) (InStep host) (State.rank host)
      (inStep_step concurrent) (rank_step concurrent) .init inStep_init
  exact ⟨state, ⟨trace, .init, rfl, path⟩, complete_of_stuck inStep stuck⟩

/-- A spawned thread stays. -/
theorem live_step {before after : State} {label : Label} {first tid : ℕ}
    (live : before.worker first tid ≠ .unspawned) (step : Step host before label after) :
    after.worker first tid ≠ .unspawned := by
  have moved : ∀ (state : State) {other index : ℕ} {pc : WorkerPc},
      state.worker first tid ≠ .unspawned → pc ≠ .unspawned →
        (state.moveWorker other index pc).worker first tid ≠ .unspawned := by
    intro state other index pc live stays
    rw [moveWorker_worker]
    split
    · exact stays
    · exact live
  cases step with
  | detectFailed | captureFailed | begin | batch | complete | spawned | join | joinFailed
  | joined =>
      exact live
  | spawn | execute | skip | executed | executeFailed | leave | leaveLoop | cleanedUp =>
      exact moved before live (by simp)
  | arrive | arriveLast => exact moved (before.setBarrier _ _) live (by simp)

theorem inStep_reachable (concurrent : 1 ≤ host.config.concurrency)
    (reachable : (stepShellRun host).Reachable state) : InStep host state := by
  refine reachable.invariant (InStep host) ?_ (inStep_step concurrent)
  rintro _ rfl
  exact inStep_init

/-- No run of the host blocks. -/
structure CannotBlock (host : Host) : Prop where
  bounded : ∀ trace state, (stepShellRun host).Run trace state → trace.length ≤ host.stepBound
  /-- A run which cannot go on has returned, and its threads have terminated. -/
  complete : ∀ state, (stepShellRun host).Reachable state →
    ¬ (stepShellRun host).Enabled state → state.Complete
  /-- A barrier at which a thread waits can be filled. -/
  fills : ∀ state first tid index generation results error, (stepShellRun host).Reachable state →
    state.worker first tid = .waiting index generation results error →
      ∃ trace after, (stepShellRun host).Path state trace after ∧
        (after.barrier first).generation ≠ generation

theorem cannotBlock (concurrent : 1 ≤ host.config.concurrency) : CannotBlock host := by
  refine ⟨?_, fun state reachable => complete_of_stuck (inStep_reachable concurrent reachable), ?_⟩
  · rintro trace state ⟨_, rfl, path⟩
    have bound := path.length_add_le (InStep host) (State.rank host) (inStep_step concurrent)
      (fun inStep step => rank_step concurrent inStep step) inStep_init
    exact (Nat.le_add_right _ _).trans bound
  · intro state first tid index generation results error reachable at_pc
    have inStep := inStep_reachable concurrent reachable
    obtain ⟨rfl, inside, _⟩ := inStep.at_barrier at_pc (by simp)
    obtain ⟨trace, after, path, ⟨kept, live⟩, stuck⟩ :=
      @TransitionSystem.Path.exists_stuck _ _ (stepShellRun host)
        (fun state => InStep host state ∧ state.worker first tid ≠ .unspawned) (State.rank host)
        (fun both step => ⟨inStep_step concurrent both.1 step, live_step both.2 step⟩)
        (fun both step => rank_step concurrent both.1 step) state ⟨inStep, by simp [at_pc]⟩
    -- at the end of the run the thread has terminated, past all its barriers
    obtain ⟨result, done⟩ := ((complete_of_stuck kept stuck).2 first tid).resolve_left live
    have past := kept.at_barrier done (by simp)
    exact ⟨trace, after, path, past ▸ inside.ne'⟩

end StepShell
end Bench
end HermOS
