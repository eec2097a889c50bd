import HermOS.Bench.PrepareGate
import HermOS.Library.Counting
import HermOS.Library.FallibleFold

/-!
# Progress of `run_external_with_prepare`

A thread which waits on a gate has been counted out: while the predicate it waits on holds, some
other thread has not reached the point which changes it.  The only exit of a worker which no wait
accounts for is a failed operation: the worker leaves without raising `finished_workers`, and the
main thread waits at the finish gate for ever.
-/

namespace HermOS
namespace Bench

/-! ### Program points -/

/-- Inside a section of the start gate. -/
def MainPc.holdsGate : MainPc → Bool
  | .checkingReady | .starting => true
  | _ => false

/-- Inside a section of the finish gate. -/
def MainPc.holdsFinish : MainPc → Bool
  | .checkingFinished _ => true
  | _ => false

def MainPc.spawned (workers : ℕ) : MainPc → ℕ
  | .spawning tid => tid
  | _ => workers

/-- Inside a section of the start gate. -/
def WorkerPc.holdsGate : WorkerPc → Bool
  | .reportingFailure _ | .announcing _ | .checkingStart _ => true
  | _ => false

/-- Inside a section of the finish gate. -/
def WorkerPc.holdsFinish : WorkerPc → Bool
  | .reporting _ | .checkingRelease _ => true
  | _ => false

/-- Past the point which raises `ready_workers`. -/
def WorkerPc.announced : WorkerPc → Bool
  | .unspawned | .preparing | .lockingFailure _ | .reportingFailure _ | .lockingReady _ |
    .announcing _ => false
  | _ => true

/-- Between the point which raises `finished_workers` and the end. -/
def WorkerPc.reported : WorkerPc → Bool
  | .checkingRelease _ | .waitingRelease _ | .lockingRelease _ => true
  | _ => false

/-- Terminated. -/
def WorkerPc.isDone : WorkerPc → Bool
  | .done _ => true
  | _ => false

section Notify

variable (pc : WorkerPc) (main : MainPc)

@[simp, grind =] theorem WorkerPc.holdsGate_notifyGate :
    pc.notifyGate.holdsGate = pc.holdsGate := by
  cases pc <;> rfl

@[simp, grind =] theorem WorkerPc.holdsGate_notifyFinish :
    pc.notifyFinish.holdsGate = pc.holdsGate := by
  cases pc <;> rfl

@[simp, grind =] theorem WorkerPc.holdsFinish_notifyGate :
    pc.notifyGate.holdsFinish = pc.holdsFinish := by
  cases pc <;> rfl

@[simp, grind =] theorem WorkerPc.holdsFinish_notifyFinish :
    pc.notifyFinish.holdsFinish = pc.holdsFinish := by
  cases pc <;> rfl

@[simp, grind =] theorem WorkerPc.announced_notifyGate :
    pc.notifyGate.announced = pc.announced := by
  cases pc <;> rfl

@[simp, grind =] theorem WorkerPc.announced_notifyFinish :
    pc.notifyFinish.announced = pc.announced := by
  cases pc <;> rfl

@[simp, grind =] theorem WorkerPc.reported_notifyGate : pc.notifyGate.reported = pc.reported := by
  cases pc <;> rfl

@[simp, grind =] theorem WorkerPc.reported_notifyFinish :
    pc.notifyFinish.reported = pc.reported := by
  cases pc <;> rfl

@[simp, grind =] theorem WorkerPc.isDone_notifyGate : pc.notifyGate.isDone = pc.isDone := by
  cases pc <;> rfl

@[simp, grind =] theorem WorkerPc.isDone_notifyFinish : pc.notifyFinish.isDone = pc.isDone := by
  cases pc <;> rfl

@[simp, grind =] theorem WorkerPc.notifyGate_eq_unspawned :
    pc.notifyGate = .unspawned ↔ pc = .unspawned := by
  cases pc <;> simp [WorkerPc.notifyGate]

@[simp, grind =] theorem WorkerPc.notifyFinish_eq_unspawned :
    pc.notifyFinish = .unspawned ↔ pc = .unspawned := by
  cases pc <;> simp [WorkerPc.notifyFinish]

@[simp, grind =] theorem MainPc.holdsGate_notifyGate :
    main.notifyGate.holdsGate = main.holdsGate := by
  cases main <;> rfl

@[simp, grind =] theorem MainPc.holdsGate_notifyFinish :
    main.notifyFinish.holdsGate = main.holdsGate := by
  cases main <;> rfl

@[simp, grind =] theorem MainPc.holdsFinish_notifyGate :
    main.notifyGate.holdsFinish = main.holdsFinish := by
  cases main <;> rfl

@[simp, grind =] theorem MainPc.holdsFinish_notifyFinish :
    main.notifyFinish.holdsFinish = main.holdsFinish := by
  cases main <;> rfl

@[simp, grind =] theorem MainPc.spawned_notifyGate (workers : ℕ) :
    main.notifyGate.spawned workers = main.spawned workers := by
  cases main <;> rfl

@[simp, grind =] theorem MainPc.spawned_notifyFinish (workers : ℕ) :
    main.notifyFinish.spawned workers = main.spawned workers := by
  cases main <;> rfl

end Notify

theorem WorkerPc.insideGate_holds {pc inside : WorkerPc} (entered : pc.insideGate = some inside) :
    inside.holdsGate = true ∧ inside.holdsFinish = false ∧ pc.holdsFinish = false ∧
      inside.announced = pc.announced ∧ inside.reported = pc.reported ∧
      inside.isDone = false ∧ pc.isDone = false ∧ inside ≠ .unspawned ∧ pc ≠ .unspawned := by
  cases pc <;> simp only [WorkerPc.insideGate, Option.some.injEq, reduceCtorEq] at entered <;>
    subst entered <;> simp [holdsGate, holdsFinish, announced, reported, isDone]

theorem WorkerPc.insideFinish_holds {pc inside : WorkerPc}
    (entered : pc.insideFinish = some inside) :
    inside.holdsFinish = true ∧ inside.holdsGate = false ∧ pc.holdsGate = false ∧
      inside.announced = pc.announced ∧ inside.reported = pc.reported ∧
      inside.isDone = false ∧ pc.isDone = false ∧ inside ≠ .unspawned ∧ pc ≠ .unspawned := by
  cases pc <;> simp only [WorkerPc.insideFinish, Option.some.injEq, reduceCtorEq] at entered <;>
    subst entered <;> simp [holdsGate, holdsFinish, announced, reported, isDone]

variable {host : Host}

attribute [local simp] State.moveMain State.moveWorker State.lockGate State.unlockGate
  State.setGate State.notifyGate State.lockFinish State.unlockFinish State.setFinish
  State.notifyFinish State.setOrigin Function.update_apply

/-! ### Spawned workers -/

/-- The main thread has spawned an initial segment of the workers. -/
structure Spawned (host : Host) (state : State) : Prop where
  bound : state.main.spawned host.workers ≤ host.workers
  fresh : ∀ tid, state.main.spawned host.workers ≤ tid → state.worker tid = .unspawned
  live : ∀ tid, tid < state.main.spawned host.workers → state.worker tid ≠ .unspawned

theorem spawned_init : Spawned host .init := by
  constructor <;> simp [State.init, MainPc.spawned]

theorem Spawned.below {state : State} {tid : ℕ} (spawned : Spawned host state)
    (live : state.worker tid ≠ .unspawned) : tid < host.workers := by
  by_contra above
  exact live (spawned.fresh tid (spawned.bound.trans (not_lt.mp above)))

namespace Spawned

variable {state : State}

/-- Neither the gates nor the program points of spawned workers matter. -/
theorem congr {after : State} (spawned : Spawned host state)
    (main : after.main.spawned host.workers = state.main.spawned host.workers)
    (worker : ∀ tid, after.worker tid = .unspawned ↔ state.worker tid = .unspawned) :
    Spawned host after := by
  refine ⟨?_, fun tid above => ?_, fun tid below none => ?_⟩
  · rw [main]
    exact spawned.bound
  · rw [main] at above
    exact (worker tid).mpr (spawned.fresh tid above)
  · rw [main] at below
    exact spawned.live tid below ((worker tid).mp none)

theorem moveMain (spawned : Spawned host state) {old pc : MainPc} (at_pc : state.main = old)
    (same : pc.spawned host.workers = old.spawned host.workers) :
    Spawned host (state.moveMain pc) :=
  spawned.congr (at_pc ▸ same) fun _ => .rfl

theorem moveWorker (spawned : Spawned host state) {tid : ℕ} {old pc : WorkerPc}
    (at_pc : state.worker tid = old) (same : pc = .unspawned ↔ old = .unspawned) :
    Spawned host (state.moveWorker tid pc) := by
  subst at_pc
  exact spawned.congr rfl ((Function.forall_update_iff state.worker fun other pc =>
    pc = .unspawned ↔ state.worker other = .unspawned).mpr ⟨same, fun _ _ => .rfl⟩)

theorem notifyGate (spawned : Spawned host state) : Spawned host state.notifyGate :=
  spawned.congr (by simp) (by simp)

theorem notifyFinish (spawned : Spawned host state) : Spawned host state.notifyFinish :=
  spawned.congr (by simp) (by simp)

/-- The main thread spawns the next worker. -/
theorem spawn (spawned : Spawned host state) {tid : ℕ} (at_pc : state.main = .spawning tid)
    (more : tid < host.workers) :
    Spawned host ((state.moveWorker tid .preparing).moveMain (.spawning (tid + 1))) := by
  obtain ⟨_, fresh, live⟩ := spawned
  rw [at_pc] at fresh live
  refine ⟨more, fun other above => ?_, fun other below => ?_⟩
  · have ne : other ≠ tid := (Nat.lt_of_succ_le above).ne'
    simpa [ne] using fresh other (Nat.le_of_succ_le above)
  · rcases Nat.lt_succ_iff_lt_or_eq.mp below with earlier | rfl
    · simpa [earlier.ne] using live other earlier
    · simp

end Spawned

theorem spawned_step {before after : State} {label : Label} (spawned : Spawned host before)
    (step : Step host before label after) : Spawned host after := by
  cases step with
  | spawn at_pc more => exact spawned.spawn at_pc more
  | @spawned tid at_pc all =>
      have bound := spawned.bound
      rw [at_pc] at bound
      exact spawned.moveMain at_pc (le_antisymm all bound)
  | mainLockGate at_pc | awaitReady at_pc | ready at_pc | captureFailed at_pc
  | originTaken at_pc | mainLockFinish at_pc | awaitFinished at_pc | join at_pc
  | joinFailed at_pc | joined at_pc =>
      exact (spawned.moveMain at_pc rfl).congr rfl fun _ => .rfl
  | start at_pc | giveUp at_pc =>
      have told := congrArg MainPc.notifyGate at_pc
      exact (spawned.notifyGate.moveMain told rfl).congr rfl fun _ => .rfl
  | @release totalBefore at_pc =>
      have told := congrArg MainPc.notifyFinish at_pc
      have all : (host.afterRelease totalBefore).spawned host.workers = host.workers := by
        unfold Host.afterRelease
        cases host.totalAfter <;> rfl
      exact (spawned.notifyFinish.moveMain told all).congr rfl fun _ => .rfl
  | prepared at_pc | prepareFailed at_pc | awaitStart at_pc | seeFailure at_pc | pass at_pc
  | originMissing at_pc | loadOrigin at_pc | operate at_pc | operateFailed at_pc
  | operated at_pc | awaitRelease at_pc | finish at_pc =>
      exact (spawned.moveWorker at_pc (by simp)).congr rfl fun _ => .rfl
  | workerLockGate at_pc =>
      obtain ⟨_, _, _, _, _, _, _, inside, outside⟩ := WorkerPc.insideGate_holds at_pc
      have same := iff_of_false inside outside
      exact (spawned.moveWorker rfl same).congr rfl fun _ => .rfl
  | workerLockFinish at_pc =>
      obtain ⟨_, _, _, _, _, _, _, inside, outside⟩ := WorkerPc.insideFinish_holds at_pc
      have same := iff_of_false inside outside
      exact (spawned.moveWorker rfl same).congr rfl fun _ => .rfl
  | reportFailure at_pc | announce at_pc =>
      have told := congrArg WorkerPc.notifyGate at_pc
      exact (spawned.notifyGate.moveWorker told (by simp)).congr rfl fun _ => .rfl
  | report at_pc =>
      have told := congrArg WorkerPc.notifyFinish at_pc
      exact (spawned.notifyFinish.moveWorker told (by simp)).congr rfl fun _ => .rfl
  | wakeMain => exact spawned.moveMain rfl (by simp)
  | wakeWorker => exact spawned.moveWorker rfl (by simp)

/-! ### Owners of the gates -/

/-- The thread which owns a gate is inside one of its sections. -/
structure Locked (state : State) : Prop where
  gate_main : state.gate.owner = some .main → state.main.holdsGate = true
  gate_worker : ∀ tid, state.gate.owner = some (.worker tid) →
    (state.worker tid).holdsGate = true
  finish_main : state.finishGate.owner = some .main → state.main.holdsFinish = true
  finish_worker : ∀ tid, state.finishGate.owner = some (.worker tid) →
    (state.worker tid).holdsFinish = true

theorem locked_init : Locked .init := by
  constructor <;> simp [State.init]

namespace Locked

variable {state : State}

theorem setGate (locked : Locked state) (data : StartState) : Locked (state.setGate data) :=
  ⟨locked.gate_main, locked.gate_worker, locked.finish_main, locked.finish_worker⟩

theorem setFinish (locked : Locked state) (data : FinishState) : Locked (state.setFinish data) :=
  ⟨locked.gate_main, locked.gate_worker, locked.finish_main, locked.finish_worker⟩

theorem setOrigin (locked : Locked state) (runStart : ℕ) : Locked (state.setOrigin runStart) :=
  ⟨locked.gate_main, locked.gate_worker, locked.finish_main, locked.finish_worker⟩

theorem notifyGate (locked : Locked state) : Locked state.notifyGate := by
  obtain ⟨gate_main, gate_worker, finish_main, finish_worker⟩ := locked
  constructor <;> simpa

theorem notifyFinish (locked : Locked state) : Locked state.notifyFinish := by
  obtain ⟨gate_main, gate_worker, finish_main, finish_worker⟩ := locked
  constructor <;> simpa

theorem unlockGate (locked : Locked state) : Locked state.unlockGate := by
  refine ⟨fun owned => ?_, fun tid owned => ?_, locked.finish_main, locked.finish_worker⟩
  · cases owned
  · cases owned

theorem unlockFinish (locked : Locked state) : Locked state.unlockFinish := by
  refine ⟨locked.gate_main, locked.gate_worker, fun owned => ?_, fun tid owned => ?_⟩
  · cases owned
  · cases owned

theorem lockGateMain (locked : Locked state) (inside : state.main.holdsGate = true) :
    Locked (state.lockGate .main) := by
  refine ⟨fun _ => inside, fun tid owned => ?_, locked.finish_main, locked.finish_worker⟩
  cases owned

theorem lockFinishMain (locked : Locked state) (inside : state.main.holdsFinish = true) :
    Locked (state.lockFinish .main) := by
  refine ⟨locked.gate_main, locked.gate_worker, fun _ => inside, fun tid owned => ?_⟩
  cases owned

theorem lockGateWorker (locked : Locked state) {tid : ℕ}
    (inside : (state.worker tid).holdsGate = true) : Locked (state.lockGate (.worker tid)) := by
  refine ⟨fun owned => ?_, fun other owned => ?_, locked.finish_main, locked.finish_worker⟩
  · cases owned
  · cases owned
    exact inside

theorem lockFinishWorker (locked : Locked state) {tid : ℕ}
    (inside : (state.worker tid).holdsFinish = true) : Locked (state.lockFinish (.worker tid)) := by
  refine ⟨locked.gate_main, locked.gate_worker, fun owned => ?_, fun other owned => ?_⟩
  · cases owned
  · cases owned
    exact inside

/-- The main thread may be wherever the gates which it owns want it. -/
theorem putMain (locked : Locked state) {pc : MainPc}
    (gate : state.gate.owner = some .main → pc.holdsGate = true)
    (finish : state.finishGate.owner = some .main → pc.holdsFinish = true) :
    Locked (state.moveMain pc) :=
  ⟨gate, locked.gate_worker, finish, locked.finish_worker⟩

theorem putWorker (locked : Locked state) {tid : ℕ} {pc : WorkerPc}
    (gate : state.gate.owner = some (.worker tid) → pc.holdsGate = true)
    (finish : state.finishGate.owner = some (.worker tid) → pc.holdsFinish = true) :
    Locked (state.moveWorker tid pc) := by
  refine ⟨locked.gate_main, ?_, locked.finish_main, ?_⟩
  · exact (Function.forall_update_iff state.worker fun other pc =>
      state.gate.owner = some (.worker other) → pc.holdsGate = true).mpr
        ⟨gate, fun other _ => locked.gate_worker other⟩
  · exact (Function.forall_update_iff state.worker fun other pc =>
      state.finishGate.owner = some (.worker other) → pc.holdsFinish = true).mpr
        ⟨finish, fun other _ => locked.finish_worker other⟩

theorem moveMain (locked : Locked state) {old pc : MainPc} (at_pc : state.main = old)
    (gate : old.holdsGate = true → pc.holdsGate = true)
    (finish : old.holdsFinish = true → pc.holdsFinish = true) : Locked (state.moveMain pc) := by
  subst at_pc
  exact locked.putMain (fun owned => gate (locked.gate_main owned)) fun owned =>
    finish (locked.finish_main owned)

/-- The main thread moves as it releases the start gate. -/
theorem leaveGateMain (locked : Locked state) {old pc : MainPc} (at_pc : state.main = old)
    (finish : old.holdsFinish = true → pc.holdsFinish = true) :
    Locked (state.unlockGate.moveMain pc) := by
  subst at_pc
  refine locked.unlockGate.putMain (fun owned => ?_) fun owned => finish (locked.finish_main owned)
  cases owned

/-- The main thread moves as it releases the finish gate. -/
theorem leaveFinishMain (locked : Locked state) {old pc : MainPc} (at_pc : state.main = old)
    (gate : old.holdsGate = true → pc.holdsGate = true) :
    Locked (state.unlockFinish.moveMain pc) := by
  subst at_pc
  refine locked.unlockFinish.putMain (fun owned => gate (locked.gate_main owned)) fun owned => ?_
  cases owned

theorem moveWorker (locked : Locked state) {tid : ℕ} {old pc : WorkerPc}
    (at_pc : state.worker tid = old) (gate : old.holdsGate = true → pc.holdsGate = true)
    (finish : old.holdsFinish = true → pc.holdsFinish = true) :
    Locked (state.moveWorker tid pc) := by
  subst at_pc
  exact locked.putWorker (fun owned => gate (locked.gate_worker tid owned)) fun owned =>
    finish (locked.finish_worker tid owned)

theorem leaveGateWorker (locked : Locked state) {tid : ℕ} {old pc : WorkerPc}
    (at_pc : state.worker tid = old) (finish : old.holdsFinish = true → pc.holdsFinish = true) :
    Locked (state.unlockGate.moveWorker tid pc) := by
  subst at_pc
  refine locked.unlockGate.putWorker (fun owned => ?_) fun owned =>
    finish (locked.finish_worker tid owned)
  cases owned

theorem leaveFinishWorker (locked : Locked state) {tid : ℕ} {old pc : WorkerPc}
    (at_pc : state.worker tid = old) (gate : old.holdsGate = true → pc.holdsGate = true) :
    Locked (state.unlockFinish.moveWorker tid pc) := by
  subst at_pc
  refine locked.unlockFinish.putWorker (fun owned => gate (locked.gate_worker tid owned))
    fun owned => ?_
  cases owned

end Locked

theorem locked_step {before after : State} {label : Label} (locked : Locked before)
    (spawned : Spawned host before) (step : Step host before label after) : Locked after := by
  cases step with
  | @spawn tid at_pc more =>
      have fresh := spawned.fresh tid (by rw [at_pc]; rfl)
      have moved : Locked (before.moveWorker tid .preparing) := locked.moveWorker fresh id id
      exact moved.moveMain at_pc id id
  | spawned at_pc | ready at_pc | join at_pc | joinFailed at_pc | joined at_pc =>
      exact locked.moveMain at_pc id id
  | mainLockGate at_pc =>
      have moved : Locked (before.moveMain .checkingReady) :=
        locked.moveMain at_pc (fun _ => rfl) id
      exact moved.lockGateMain rfl
  | @mainLockFinish totalBefore at_pc =>
      have moved : Locked (before.moveMain (.checkingFinished totalBefore)) :=
        locked.moveMain at_pc id fun _ => rfl
      exact moved.lockFinishMain rfl
  | awaitReady at_pc | captureFailed at_pc | originTaken at_pc =>
    exact locked.leaveGateMain at_pc id
  | awaitFinished at_pc => exact locked.leaveFinishMain at_pc id
  | start at_pc =>
      have told := congrArg MainPc.notifyGate at_pc
      exact ((locked.setOrigin _).setGate _).notifyGate.leaveGateMain told id
  | giveUp at_pc =>
      have told := congrArg MainPc.notifyGate at_pc
      exact locked.notifyGate.leaveGateMain told id
  | release at_pc =>
      have told := congrArg MainPc.notifyFinish at_pc
      exact (locked.setFinish _).notifyFinish.leaveFinishMain told fun inside =>
        Bool.noConfusion inside
  | prepared at_pc | prepareFailed at_pc | originMissing at_pc | loadOrigin at_pc | operate at_pc
  | operateFailed at_pc | operated at_pc =>
      exact locked.moveWorker at_pc id id
  | @workerLockGate tid inside at_pc =>
      obtain ⟨holds, _, outside, _⟩ := WorkerPc.insideGate_holds at_pc
      have moved : Locked (before.moveWorker tid inside) :=
        locked.moveWorker rfl (fun _ => holds) (by simp [outside])
      exact moved.lockGateWorker (by simpa using holds)
  | @workerLockFinish tid inside at_pc =>
      obtain ⟨holds, _, outside, _⟩ := WorkerPc.insideFinish_holds at_pc
      have moved : Locked (before.moveWorker tid inside) :=
        locked.moveWorker rfl (by simp [outside]) fun _ => holds
      exact moved.lockFinishWorker (by simpa using holds)
  | reportFailure at_pc =>
      have told := congrArg WorkerPc.notifyGate at_pc
      exact (locked.setGate _).notifyGate.leaveGateWorker told id
  | announce at_pc =>
      have told := congrArg WorkerPc.notifyGate at_pc
      exact (locked.setGate _).notifyGate.moveWorker told id id
  | report at_pc =>
      have told := congrArg WorkerPc.notifyFinish at_pc
      exact (locked.setFinish _).notifyFinish.moveWorker told id id
  | awaitStart at_pc | seeFailure at_pc | pass at_pc => exact locked.leaveGateWorker at_pc id
  | awaitRelease at_pc | finish at_pc => exact locked.leaveFinishWorker at_pc id
  | wakeMain => exact locked.moveMain rfl (by simp) (by simp)
  | wakeWorker => exact locked.moveWorker rfl (by simp) (by simp)

/-! ### Data of the gates -/

/-- Starting fails before any operation, or every operation succeeds. -/
def Host.Releasable (host : Host) : Prop :=
  (∃ err, host.totalBefore = .error err) ∨
    (∃ tid < host.workers, ∃ err, host.prepare tid = .error err) ∨
      ∀ tid < host.workers, ∀ runner, host.prepare tid = .ok runner →
        ∀ iter < host.count tid, (runner iter).Succeeds host.config.measurePerOpUsage

/-- What the main thread knows at its program point. -/
def MainOk (host : Host) (gate : StartState) (finish : FinishState) : MainPc → Prop
  | .spawning _ | .lockingGate | .checkingReady => gate.start = false
  | .waitingReady => gate.start = false ∧ gate.Unready host.workers
  | .starting => gate.start = false ∧ ¬ gate.Unready host.workers
  | .lockingFinish _ | .checkingFinished _ => gate.start = true ∧ finish.releaseWorkers = false
  | .waitingFinished _ => gate.start = true ∧ finish.releaseWorkers = false ∧
      finish.finishedWorkers < host.workers
  | .joining (some _) _ _ => finish.releaseWorkers = true
  | .joining none _ _ => gate.start = false ∧ gate.failure ≠ none
  | .returned _ => True

/-- What a worker knows at its program point. -/
def WorkerOk (host : Host) (gate : StartState) (finish : FinishState) (tid : ℕ) : WorkerPc → Prop
  | .unspawned | .preparing => True
  | .lockingFailure err | .reportingFailure err => host.prepare tid = .error err
  | .lockingReady runner | .announcing runner | .checkingStart runner | .lockingStart runner =>
      host.prepare tid = .ok runner
  | .waitingStart runner =>
      host.prepare tid = .ok runner ∧ gate.start = false ∧ gate.failure = none
  | .loadingOrigin runner | .running runner _ _ _ =>
      host.prepare tid = .ok runner ∧ gate.start = true
  | .lockingFinish _ | .reporting _ | .checkingRelease _ | .lockingRelease _ => gate.start = true
  | .waitingRelease _ => gate.start = true ∧ finish.releaseWorkers = false
  | .done _ => gate.failure ≠ none ∨ finish.releaseWorkers = true

/-- The data of the gates agree with the program points of the threads. -/
structure Gated (host : Host) (state : State) : Prop where
  main : MainOk host state.gate.data state.finishGate.data state.main
  worker : ∀ tid, WorkerOk host state.gate.data state.finishGate.data tid (state.worker tid)
  ready : state.gate.data.failure = none → state.gate.data.readyWorkers =
    Counting.raised (fun tid => (state.worker tid).announced) host.workers
  started : state.gate.data.start = true → state.gate.data.failure = none ∧
    (∃ origin, state.runOrigin = some origin) ∧
    (∃ totalBefore, host.totalBefore = .ok totalBefore) ∧
    ∀ tid < host.workers, ∃ runner, host.prepare tid = .ok runner
  finished : state.finishGate.data.releaseWorkers = false →
    state.finishGate.data.finishedWorkers =
      Counting.raised (fun tid => (state.worker tid).reported) host.workers
  released : state.finishGate.data.releaseWorkers = true → state.gate.data.start = true ∧
    ∀ tid < host.workers,
      (state.worker tid).reported = true ∨ (state.worker tid).isDone = true

theorem gated_init : Gated host .init := by
  constructor
  case ready => exact fun _ => (Counting.raised_eq_zero fun _ _ => rfl).symm
  case finished => exact fun _ => (Counting.raised_eq_zero fun _ _ => rfl).symm
  all_goals simp [State.init, MainOk, WorkerOk]

theorem WorkerOk.notifyGate {gate later : StartState} {finish : FinishState} {tid : ℕ}
    {pc : WorkerPc} (ok : WorkerOk host gate finish tid pc)
    (start : gate.start = true → later.start = true)
    (failure : gate.failure ≠ none → later.failure ≠ none) :
    WorkerOk host later finish tid pc.notifyGate := by
  cases pc <;> simp only [WorkerPc.notifyGate, WorkerOk] at ok ⊢ <;> grind

theorem WorkerOk.notifyFinish {gate : StartState} {finish later : FinishState} {tid : ℕ}
    {pc : WorkerPc} (ok : WorkerOk host gate finish tid pc)
    (release : finish.releaseWorkers = true → later.releaseWorkers = true) :
    WorkerOk host gate later tid pc.notifyFinish := by
  cases pc <;> simp only [WorkerPc.notifyFinish, WorkerOk] at ok ⊢ <;> grind

/-- A write which keeps `start` and only moves towards readiness may be notified. -/
theorem MainOk.notifyGate {gate later : StartState} {finish : FinishState} {pc : MainPc}
    (ok : MainOk host gate finish pc) (start : later.start = gate.start)
    (ready : ¬ gate.Unready host.workers → ¬ later.Unready host.workers)
    (failure : gate.failure ≠ none → later.failure ≠ none) :
    MainOk host later finish pc.notifyGate := by
  match pc, ok with
  | .joining (some _) _ _, ok => exact ok
  | .joining none _ _, ok => exact ⟨start.trans ok.1, failure ok.2⟩
  | .spawning _, ok | .lockingGate, ok | .checkingReady, ok => exact start.trans ok
  | .waitingReady, ok => exact start.trans ok.1
  | .starting, ok => exact ⟨start.trans ok.1, ready ok.2⟩
  | .lockingFinish _, ok | .checkingFinished _, ok => exact ⟨start.trans ok.1, ok.2⟩
  | .waitingFinished _, ok => exact ⟨start.trans ok.1, ok.2⟩
  | .returned _, _ => trivial

theorem MainOk.notifyFinish {gate : StartState} {finish later : FinishState} {pc : MainPc}
    (ok : MainOk host gate finish pc) (release : later.releaseWorkers = finish.releaseWorkers) :
    MainOk host gate later pc.notifyFinish := by
  match pc, ok with
  | .joining (some _) _ _, ok => exact release.trans ok
  | .joining none _ _, ok | .spawning _, ok | .lockingGate, ok | .checkingReady, ok |
    .waitingReady, ok | .starting, ok => exact ok
  | .lockingFinish _, ok | .checkingFinished _, ok => exact ⟨ok.1, release.trans ok.2⟩
  | .waitingFinished _, ok => exact ⟨ok.1, release.trans ok.2.1⟩
  | .returned _, _ => trivial

namespace Gated

variable {state : State}

theorem lockGate (gated : Gated host state) (actor : Actor) : Gated host (state.lockGate actor) :=
  ⟨gated.main, gated.worker, gated.ready, gated.started, gated.finished, gated.released⟩

theorem unlockGate (gated : Gated host state) : Gated host state.unlockGate :=
  ⟨gated.main, gated.worker, gated.ready, gated.started, gated.finished, gated.released⟩

theorem lockFinish (gated : Gated host state) (actor : Actor) :
    Gated host (state.lockFinish actor) :=
  ⟨gated.main, gated.worker, gated.ready, gated.started, gated.finished, gated.released⟩

theorem unlockFinish (gated : Gated host state) : Gated host state.unlockFinish :=
  ⟨gated.main, gated.worker, gated.ready, gated.started, gated.finished, gated.released⟩

theorem moveMain (gated : Gated host state) {pc : MainPc}
    (ok : MainOk host state.gate.data state.finishGate.data pc) :
    Gated host (state.moveMain pc) :=
  ⟨ok, gated.worker, gated.ready, gated.started, gated.finished, gated.released⟩

/-- A worker moves without passing a point which the counters count. -/
theorem moveWorker (gated : Gated host state) {tid : ℕ} {pc : WorkerPc}
    (ok : WorkerOk host state.gate.data state.finishGate.data tid pc)
    (announced : state.gate.data.failure = none →
      pc.announced = (state.worker tid).announced)
    (reported : state.finishGate.data.releaseWorkers = false →
      pc.reported = (state.worker tid).reported)
    (kept : (state.worker tid).reported = true ∨ (state.worker tid).isDone = true →
      pc.reported = true ∨ pc.isDone = true) :
    Gated host (state.moveWorker tid pc) := by
  refine ⟨gated.main, ?_, fun healthy => ?_, gated.started, fun unreleased => ?_,
    fun released => ⟨(gated.released released).1, ?_⟩⟩
  · exact (Function.forall_update_iff state.worker
      (WorkerOk host state.gate.data state.finishGate.data)).mpr
        ⟨ok, fun other _ => gated.worker other⟩
  · exact (gated.ready healthy).trans
      (Counting.raised_update WorkerPc.announced (announced healthy)).symm
  · exact (gated.finished unreleased).trans
      (Counting.raised_update WorkerPc.reported (reported unreleased)).symm
  · have ended := (gated.released released).2
    exact (Function.forall_update_iff state.worker fun other pc => other < host.workers →
      pc.reported = true ∨ pc.isDone = true).mpr
        ⟨fun below => kept (ended tid below), fun other _ => ended other⟩

theorem notifyGate (gated : Gated host state) : Gated host state.notifyGate := by
  refine ⟨gated.main.notifyGate rfl id id, fun tid => (gated.worker tid).notifyGate id id, ?_,
    gated.started, ?_, ?_⟩
  · simpa using gated.ready
  · simpa using gated.finished
  · simpa using gated.released

/-- A failure of `prepare_fn` is reported. -/
theorem reportFailure (gated : Gated host state) {tid : ℕ} {err : String}
    (below : tid < host.workers) (failed : host.prepare tid = .error err) :
    Gated host (state.setGate { state.gate.data with
      failure := state.gate.data.failure.or (some err) }).notifyGate := by
  have marked : state.gate.data.failure.or (some err) ≠ none := by
    cases state.gate.data.failure <;> simp
  refine ⟨gated.main.notifyGate rfl (fun _ unready => marked unready.2) fun _ => marked,
    fun other => (gated.worker other).notifyGate id fun _ => marked,
    fun healthy => absurd healthy marked, fun start => ?_, ?_, ?_⟩
  · obtain ⟨runner, prepared⟩ := (gated.started start).2.2.2 tid below
    rw [failed] at prepared
    cases prepared
  · simpa using gated.finished
  · simpa using gated.released

/-- A worker raises `ready_workers`. -/
theorem announce (gated : Gated host state) {tid : ℕ} {runner : PreparedRunner}
    (below : tid < host.workers) (at_pc : state.worker tid = .announcing runner) :
    Gated host ((state.setGate { state.gate.data with
      readyWorkers := state.gate.data.readyWorkers + 1 }).notifyGate.moveWorker tid
        (.checkingStart runner)) := by
  have ok := gated.worker tid
  rw [at_pc] at ok
  have unannounced : (state.worker tid).announced = false := by rw [at_pc]; rfl
  have same : (WorkerPc.checkingStart runner).reported = (state.worker tid).reported := by
    rw [at_pc]; rfl
  refine ⟨gated.main.notifyGate rfl (fun ready unready => ready ⟨?_, unready.2⟩) id,
    ?_, fun healthy => ?_, gated.started, fun unreleased => ?_, fun released =>
      ⟨(gated.released released).1, fun other inside => ?_⟩⟩
  · exact (Nat.lt_succ_self _).trans unready.1
  · exact (Function.forall_update_iff _ (WorkerOk host
      { state.gate.data with readyWorkers := state.gate.data.readyWorkers + 1 }
      state.finishGate.data)).mpr ⟨ok, fun other _ => (gated.worker other).notifyGate id id⟩
  · refine (congrArg (· + 1) (gated.ready healthy)).trans (Eq.symm ?_)
    refine (Counting.raised_update_succ WorkerPc.announced below ?_ rfl).trans ?_
    · simpa using unannounced
    · simp
  · refine (gated.finished unreleased).trans (Eq.symm ?_)
    refine (Counting.raised_update WorkerPc.reported ?_).trans ?_
    · simpa using same
    · simp
  · have kept := (gated.released released).2 other inside
    rcases eq_or_ne other tid with rfl | different
    · simp [at_pc, WorkerPc.reported, WorkerPc.isDone] at kept
    · simpa [different] using kept

/-- A worker raises `finished_workers`. -/
theorem report (gated : Gated host state) {tid : ℕ} {results : List Measurement}
    (below : tid < host.workers) (at_pc : state.worker tid = .reporting results) :
    Gated host ((state.setFinish { state.finishGate.data with
      finishedWorkers := state.finishGate.data.finishedWorkers + 1 }).notifyFinish.moveWorker tid
        (.checkingRelease results)) := by
  have ok := gated.worker tid
  rw [at_pc] at ok
  have unreported : (state.worker tid).reported = false := by rw [at_pc]; rfl
  have same : (WorkerPc.checkingRelease results).announced = (state.worker tid).announced := by
    rw [at_pc]; rfl
  refine ⟨gated.main.notifyFinish rfl, ?_, fun healthy => ?_, gated.started,
    fun unreleased => ?_, fun released => ⟨(gated.released released).1, fun other inside => ?_⟩⟩
  · exact (Function.forall_update_iff _ (WorkerOk host state.gate.data
      { state.finishGate.data with
        finishedWorkers := state.finishGate.data.finishedWorkers + 1 })).mpr
          ⟨ok, fun other _ => (gated.worker other).notifyFinish id⟩
  · refine (gated.ready healthy).trans (Eq.symm ?_)
    refine (Counting.raised_update WorkerPc.announced ?_).trans ?_
    · simpa using same
    · simp
  · refine (congrArg (· + 1) (gated.finished unreleased)).trans (Eq.symm ?_)
    refine (Counting.raised_update_succ WorkerPc.reported below ?_ rfl).trans ?_
    · simpa using unreported
    · simp
  · have kept := (gated.released released).2 other inside
    rcases eq_or_ne other tid with rfl | different
    · simp [at_pc, WorkerPc.reported, WorkerPc.isDone] at kept
    · simpa [different] using kept

/-- Once every worker has announced itself, every `prepare_fn` has succeeded. -/
theorem prepared (gated : Gated host state) (unstarted : state.gate.data.start = false)
    (healthy : state.gate.data.failure = none)
    (ready : ¬ state.gate.data.Unready host.workers) :
    ∀ tid < host.workers, ∃ runner, host.prepare tid = .ok runner := by
  intro tid below
  have full : host.workers ≤ state.gate.data.readyWorkers :=
    not_lt.mp fun short => ready ⟨short, healthy⟩
  rw [gated.ready healthy] at full
  have announced := Counting.forall_of_le_raised full tid below
  have unreleased : state.finishGate.data.releaseWorkers = false := by
    by_contra released
    have started := (gated.released (Bool.not_eq_false _ ▸ released)).1
    simp [unstarted] at started
  have ok := gated.worker tid
  cases at_pc : state.worker tid <;> simp only [at_pc, WorkerPc.announced, WorkerOk] at announced ok
  all_goals grind

/-- The main thread sets `start`. -/
theorem start (gated : Gated host state) {totalBefore : UsageSnapshot} {runStart : ℕ}
    (at_pc : state.main = .starting) (captured : host.totalBefore = .ok totalBefore)
    (healthy : state.gate.data.failure = none) :
    Gated host (((state.setOrigin runStart).setGate
      { state.gate.data with start := true }).notifyGate.moveMain
        (.lockingFinish totalBefore)) := by
  have ok := gated.main
  rw [at_pc] at ok
  have unreleased : state.finishGate.data.releaseWorkers = false := by
    by_contra released
    have started := (gated.released (Bool.not_eq_false _ ▸ released)).1
    simp [ok.1] at started
  refine ⟨⟨rfl, unreleased⟩, fun tid => (gated.worker tid).notifyGate (fun _ => rfl) id, ?_,
    fun _ => ⟨healthy, ⟨runStart, rfl⟩, ⟨totalBefore, captured⟩,
      gated.prepared ok.1 healthy ok.2⟩, ?_, fun released => ?_⟩
  · simpa using gated.ready
  · simpa using gated.finished
  · simp [unreleased] at released

/-- The main thread sets `release_workers`. -/
theorem release (gated : Gated host state) {totalBefore : UsageSnapshot}
    (at_pc : state.main = .checkingFinished totalBefore)
    (finished : host.workers ≤ state.finishGate.data.finishedWorkers) :
    Gated host ((state.setFinish { state.finishGate.data with
      releaseWorkers := true }).notifyFinish.moveMain (host.afterRelease totalBefore)) := by
  have ok := gated.main
  rw [at_pc] at ok
  rw [gated.finished ok.2] at finished
  refine ⟨?_, fun tid => (gated.worker tid).notifyFinish fun _ => rfl, ?_, gated.started, ?_,
    fun _ => ⟨ok.1, fun tid below => .inl ?_⟩⟩
  · unfold Host.afterRelease
    cases host.totalAfter <;> simp [MainOk]
  · simpa using gated.ready
  · simp
  · simpa using Counting.forall_of_le_raised finished tid below

end Gated

/-- Operations succeed once the run has started. -/
theorem Gated.succeeds {state : State} {tid : ℕ} {runner : PreparedRunner} {iter : ℕ}
    (gated : Gated host state) (releasable : host.Releasable)
    (started : state.gate.data.start = true) (below : tid < host.workers)
    (prepared : host.prepare tid = .ok runner) (more : iter < host.count tid) :
    (runner iter).Succeeds host.config.measurePerOpUsage := by
  obtain ⟨_, _, ⟨totalBefore, captured⟩, all⟩ := gated.started started
  rcases releasable with ⟨err, failed⟩ | ⟨other, inside, err, failed⟩ | succeed
  · rw [captured] at failed
    cases failed
  · obtain ⟨runner, prepared⟩ := all other inside
    rw [prepared] at failed
    cases failed
  · exact succeed tid below runner prepared iter more

theorem WorkerOk.insideGate {gate : StartState} {finish : FinishState} {tid : ℕ}
    {pc inside : WorkerPc} (ok : WorkerOk host gate finish tid pc)
    (entered : pc.insideGate = some inside) : WorkerOk host gate finish tid inside := by
  cases pc <;> simp only [WorkerPc.insideGate, Option.some.injEq, reduceCtorEq] at entered <;>
    subst entered <;> exact ok

theorem WorkerOk.insideFinish {gate : StartState} {finish : FinishState} {tid : ℕ}
    {pc inside : WorkerPc} (ok : WorkerOk host gate finish tid pc)
    (entered : pc.insideFinish = some inside) : WorkerOk host gate finish tid inside := by
  cases pc <;> simp only [WorkerPc.insideFinish, Option.some.injEq, reduceCtorEq] at entered <;>
    subst entered <;> exact ok

theorem gated_step {before after : State} {label : Label} (releasable : host.Releasable)
    (spawned : Spawned host before) (gated : Gated host before)
    (step : Step host before label after) : Gated host after := by
  have main := gated.main
  cases step with
  | @spawn tid at_pc more =>
      have fresh := spawned.fresh tid (by simp [at_pc, MainPc.spawned])
      rw [at_pc] at main
      have moved : Gated host (before.moveWorker tid .preparing) :=
        gated.moveWorker trivial (by simp [fresh, WorkerPc.announced])
          (by simp [fresh, WorkerPc.reported]) (by simp [fresh, WorkerPc.reported, WorkerPc.isDone])
      exact moved.moveMain main
  | spawned at_pc all => exact gated.moveMain (by rw [at_pc] at main; exact main)
  | mainLockGate at_pc free =>
      exact (gated.lockGate .main).moveMain (by rw [at_pc] at main; exact main)
  | awaitReady at_pc unready =>
      exact gated.unlockGate.moveMain ⟨by rw [at_pc] at main; exact main, unready⟩
  | ready at_pc ready => exact gated.moveMain ⟨by rw [at_pc] at main; exact main, ready⟩
  | captureFailed | originTaken => exact gated.unlockGate.moveMain trivial
  | start at_pc captured healthy unset => exact (gated.start at_pc captured healthy).unlockGate
  | giveUp at_pc captured failed =>
      rw [at_pc] at main
      exact gated.notifyGate.unlockGate.moveMain ⟨main.1, by simp [failed]⟩
  | mainLockFinish at_pc free =>
      exact (gated.lockFinish .main).moveMain (by rw [at_pc] at main; exact main)
  | awaitFinished at_pc unfinished =>
      rw [at_pc] at main
      exact gated.unlockFinish.moveMain ⟨main.1, main.2, unfinished⟩
  | release at_pc finished => exact (gated.release at_pc finished).unlockFinish
  | @join usage tid allResults threadResults at_pc more finished =>
      refine gated.moveMain ?_
      rw [at_pc] at main
      cases usage <;> exact main
  | joinFailed | joined => exact gated.moveMain trivial
  | @wakeMain =>
      exact gated.moveMain
        ((main.notifyGate rfl id id).notifyFinish rfl)
  | wakeWorker tid =>
      refine gated.moveWorker (((gated.worker tid).notifyGate id id).notifyFinish id) ?_ ?_ ?_
      all_goals simp
  | @workerLockGate tid inside at_pc free =>
      obtain ⟨_, _, _, announced, reported, unfinished, unfinished', _, _⟩ :=
        WorkerPc.insideGate_holds at_pc
      refine (gated.lockGate (.worker tid)).moveWorker ((gated.worker tid).insideGate at_pc)
        (fun _ => announced) (fun _ => reported) ?_
      simp [State.lockGate, reported, unfinished, unfinished']
  | @workerLockFinish tid inside at_pc free =>
      obtain ⟨_, _, _, announced, reported, unfinished, unfinished', _, _⟩ :=
        WorkerPc.insideFinish_holds at_pc
      refine (gated.lockFinish (.worker tid)).moveWorker ((gated.worker tid).insideFinish at_pc)
        (fun _ => announced) (fun _ => reported) ?_
      simp [State.lockFinish, reported, unfinished, unfinished']
  | prepared at_pc prepared =>
      refine gated.moveWorker prepared ?_ ?_ ?_
      all_goals simp [at_pc, WorkerPc.announced, WorkerPc.reported, WorkerPc.isDone]
  | prepareFailed at_pc failed =>
      refine gated.moveWorker failed ?_ ?_ ?_
      all_goals simp [at_pc, WorkerPc.announced, WorkerPc.reported, WorkerPc.isDone]
  | @reportFailure tid err at_pc =>
      have ok := gated.worker tid
      have below : tid < host.workers := spawned.below (by simp [at_pc])
      rw [at_pc] at ok
      have marked : before.gate.data.failure.or (some err) ≠ none := by
        cases before.gate.data.failure <;> simp
      refine (gated.reportFailure below ok).unlockGate.moveWorker (.inl marked)
        (fun healthy => absurd healthy marked) ?_ ?_
      all_goals simp [at_pc, WorkerPc.notifyGate, WorkerPc.reported, WorkerPc.isDone]
  | announce at_pc => exact gated.announce (spawned.below (by simp [at_pc])) at_pc
  | @awaitStart tid runner at_pc unstarted healthy =>
      have ok := gated.worker tid
      rw [at_pc] at ok
      refine gated.unlockGate.moveWorker ⟨ok, unstarted, healthy⟩ ?_ ?_ ?_
      all_goals simp [at_pc, WorkerPc.announced, WorkerPc.reported, WorkerPc.isDone]
  | seeFailure at_pc failed =>
      refine gated.unlockGate.moveWorker (.inl (by simp [failed])) ?_ ?_ ?_
      all_goals simp [at_pc, WorkerPc.announced, WorkerPc.reported, WorkerPc.isDone]
  | @pass tid runner at_pc started healthy =>
      have ok := gated.worker tid
      rw [at_pc] at ok
      refine gated.unlockGate.moveWorker ⟨ok, started⟩ ?_ ?_ ?_
      all_goals simp [at_pc, WorkerPc.announced, WorkerPc.reported, WorkerPc.isDone]
  | @originMissing tid runner at_pc unset =>
      have ok := gated.worker tid
      rw [at_pc] at ok
      obtain ⟨origin, set⟩ := (gated.started ok.2).2.1
      rw [unset] at set
      cases set
  | @loadOrigin tid runner origin at_pc set =>
      have ok := gated.worker tid
      rw [at_pc] at ok
      refine gated.moveWorker ok ?_ ?_ ?_
      all_goals simp [at_pc, WorkerPc.announced, WorkerPc.reported, WorkerPc.isDone]
  | @operate tid runner origin iter results sample at_pc more measured =>
      have ok := gated.worker tid
      rw [at_pc] at ok
      refine gated.moveWorker ok ?_ ?_ ?_
      all_goals simp [at_pc, WorkerPc.announced, WorkerPc.reported, WorkerPc.isDone]
  | @operateFailed tid runner origin iter results err at_pc more failed =>
      have ok := gated.worker tid
      have below : tid < host.workers := spawned.below (by simp [at_pc])
      rw [at_pc] at ok
      obtain ⟨sample, measured⟩ := measureOperation_succeeds origin
        (gated.succeeds releasable ok.2 below ok.1 more)
      rw [Host.measure, measured] at failed
      cases failed
  | @operated tid runner origin iter results at_pc all =>
      have ok := gated.worker tid
      rw [at_pc] at ok
      refine gated.moveWorker ok.2 ?_ ?_ ?_
      all_goals simp [at_pc, WorkerPc.announced, WorkerPc.reported, WorkerPc.isDone]
  | report at_pc => exact gated.report (spawned.below (by simp [at_pc])) at_pc
  | @awaitRelease tid results at_pc unreleased =>
      have ok := gated.worker tid
      rw [at_pc] at ok
      refine gated.unlockFinish.moveWorker ⟨ok, unreleased⟩ ?_ ?_ ?_
      all_goals simp [at_pc, WorkerPc.announced, WorkerPc.reported, WorkerPc.isDone]
  | finish at_pc released =>
      refine gated.unlockFinish.moveWorker (.inr released) ?_ ?_ ?_
      all_goals simp [at_pc, released, WorkerPc.announced, WorkerPc.reported, WorkerPc.isDone]

/-! ### Progress -/

/-- The three invariants together. -/
structure Safe (host : Host) (state : State) : Prop where
  spawned : Spawned host state
  locked : Locked state
  gated : Gated host state

theorem safe_reachable {state : State} (releasable : host.Releasable)
    (reachable : (runExternalWithPrepare host).Reachable state) : Safe host state := by
  refine reachable.invariant (Safe host) ?_ fun safe step =>
    ⟨spawned_step safe.spawned step, locked_step safe.locked safe.spawned step,
      gated_step releasable safe.spawned safe.gated step⟩
  rintro _ rfl
  exact ⟨spawned_init, locked_init, gated_init⟩

/-- Some thread can take a step of its own. -/
def CanStep (host : Host) (state : State) : Prop :=
  ∃ actor after, Step host state (.run actor) after

theorem canStep_of_checkingReady {state : State} (at_pc : state.main = .checkingReady) :
    CanStep host state := by
  by_cases unready : state.gate.data.Unready host.workers
  · exact ⟨_, _, .awaitReady at_pc unready⟩
  · exact ⟨_, _, .ready at_pc unready⟩

theorem canStep_of_starting {state : State} (at_pc : state.main = .starting) :
    CanStep host state := by
  cases captured : host.totalBefore with
  | error err => exact ⟨_, _, .captureFailed at_pc captured⟩
  | ok totalBefore =>
      cases failed : state.gate.data.failure with
      | some err => exact ⟨_, _, .giveUp at_pc captured failed⟩
      | none =>
          cases origin : state.runOrigin with
          | none => exact ⟨_, _, .start at_pc captured failed origin⟩
          | some origin => exact ⟨_, _, .originTaken at_pc captured failed ‹_›⟩

theorem canStep_of_checkingFinished {state : State} {totalBefore : UsageSnapshot}
    (at_pc : state.main = .checkingFinished totalBefore) :
    CanStep host state := by
  rcases lt_or_ge state.finishGate.data.finishedWorkers host.workers with short | full
  · exact ⟨_, _, .awaitFinished at_pc short⟩
  · exact ⟨_, _, .release at_pc full⟩

theorem canStep_of_checkingStart {state : State} {tid : ℕ} {runner : PreparedRunner}
    (at_pc : state.worker tid = .checkingStart runner) :
    CanStep host state := by
  cases failed : state.gate.data.failure with
  | some err => exact ⟨_, _, .seeFailure at_pc failed⟩
  | none =>
      cases started : state.gate.data.start with
      | false => exact ⟨_, _, .awaitStart at_pc started failed⟩
      | true => exact ⟨_, _, .pass at_pc started failed⟩

theorem canStep_of_checkingRelease {state : State} {tid : ℕ} {results : List Measurement}
    (at_pc : state.worker tid = .checkingRelease results) :
    CanStep host state := by
  cases released : state.finishGate.data.releaseWorkers with
  | false => exact ⟨_, _, .awaitRelease at_pc released⟩
  | true => exact ⟨_, _, .finish at_pc released⟩

/-- The owner of the start gate can go on. -/
theorem canStep_of_gate_owned {state : State} (locked : Locked state) {owner : Actor}
    (owned : state.gate.owner = some owner) : CanStep host state := by
  cases owner with
  | main =>
      have holds := locked.gate_main owned
      cases at_pc : state.main <;> simp only [at_pc, MainPc.holdsGate, Bool.false_eq_true] at holds
      case checkingReady => exact canStep_of_checkingReady at_pc
      case starting => exact canStep_of_starting at_pc
  | worker tid =>
      have holds := locked.gate_worker tid owned
      cases at_pc : state.worker tid <;>
        simp only [at_pc, WorkerPc.holdsGate, Bool.false_eq_true] at holds
      case reportingFailure err => exact ⟨_, _, .reportFailure at_pc⟩
      case announcing runner => exact ⟨_, _, .announce at_pc⟩
      case checkingStart runner => exact canStep_of_checkingStart at_pc

/-- The owner of the finish gate can go on. -/
theorem canStep_of_finish_owned {state : State} (locked : Locked state) {owner : Actor}
    (owned : state.finishGate.owner = some owner) : CanStep host state := by
  cases owner with
  | main =>
      have holds := locked.finish_main owned
      cases at_pc : state.main <;>
        simp only [at_pc, MainPc.holdsFinish, Bool.false_eq_true] at holds
      case checkingFinished totalBefore => exact canStep_of_checkingFinished at_pc
  | worker tid =>
      have holds := locked.finish_worker tid owned
      cases at_pc : state.worker tid <;>
        simp only [at_pc, WorkerPc.holdsFinish, Bool.false_eq_true] at holds
      case reporting results => exact ⟨_, _, .report at_pc⟩
      case checkingRelease results => exact canStep_of_checkingRelease at_pc

/-- A worker which is not waiting, or the owner of the gate it acquires, can go on. -/
theorem canStep_of_worker {state : State} (locked : Locked state) (tid : ℕ)
    (live : state.worker tid ≠ .unspawned) (unfinished : (state.worker tid).isDone = false)
    (starting : ∀ runner, state.worker tid ≠ .waitingStart runner)
    (releasing : ∀ results, state.worker tid ≠ .waitingRelease results) : CanStep host state := by
  have gate : ∀ inside, (state.worker tid).insideGate = some inside → CanStep host state := by
    intro inside entered
    cases owned : state.gate.owner with
    | none => exact ⟨_, _, .workerLockGate entered owned⟩
    | some owner => exact canStep_of_gate_owned locked owned
  have finish : ∀ inside, (state.worker tid).insideFinish = some inside → CanStep host state := by
    intro inside entered
    cases owned : state.finishGate.owner with
    | none => exact ⟨_, _, .workerLockFinish entered owned⟩
    | some owner => exact canStep_of_finish_owned locked owned
  cases at_pc : state.worker tid with
  | unspawned => exact absurd at_pc live
  | waitingStart runner => exact absurd at_pc (starting runner)
  | waitingRelease results => exact absurd at_pc (releasing results)
  | done result => simp [at_pc, WorkerPc.isDone] at unfinished
  | preparing =>
      cases prepared : host.prepare tid with
      | error err => exact ⟨_, _, .prepareFailed at_pc prepared⟩
      | ok runner => exact ⟨_, _, .prepared at_pc prepared⟩
  | lockingFailure err => exact gate (.reportingFailure err) (by rw [at_pc]; rfl)
  | lockingReady runner => exact gate (.announcing runner) (by rw [at_pc]; rfl)
  | lockingStart runner => exact gate (.checkingStart runner) (by rw [at_pc]; rfl)
  | lockingFinish results => exact finish (.reporting results) (by rw [at_pc]; rfl)
  | lockingRelease results => exact finish (.checkingRelease results) (by rw [at_pc]; rfl)
  | reportingFailure err => exact ⟨_, _, .reportFailure at_pc⟩
  | announcing runner => exact ⟨_, _, .announce at_pc⟩
  | reporting results => exact ⟨_, _, .report at_pc⟩
  | checkingStart runner => exact canStep_of_checkingStart at_pc
  | checkingRelease results => exact canStep_of_checkingRelease at_pc
  | loadingOrigin runner =>
      cases origin : state.runOrigin with
      | none => exact ⟨_, _, .originMissing at_pc origin⟩
      | some origin => exact ⟨_, _, .loadOrigin at_pc ‹_›⟩
  | running runner origin iter results =>
      rcases lt_or_ge iter (host.count tid) with more | all
      · cases measured : host.measure origin (runner iter) with
        | error err => exact ⟨_, _, .operateFailed at_pc more measured⟩
        | ok sample => exact ⟨_, _, .operate at_pc more measured⟩
      · exact ⟨_, _, .operated at_pc all⟩

/-- A state in which the main thread waits at the start gate has a worker on its way there. -/
theorem canStep_of_waitingReady {state : State} (safe : Safe host state)
    (at_pc : state.main = .waitingReady) : CanStep host state := by
  have main := safe.gated.main
  rw [at_pc] at main
  obtain ⟨_, short, healthy⟩ := main
  rw [safe.gated.ready healthy] at short
  obtain ⟨tid, below, unannounced⟩ := Counting.exists_lowered short
  refine canStep_of_worker safe.locked tid ?_ ?_ ?_ ?_
  · exact safe.spawned.live tid (by simpa [at_pc, MainPc.spawned] using below)
  · cases at_worker : state.worker tid <;>
      simp_all [WorkerPc.announced, WorkerPc.isDone]
  · intro runner waiting
    simp [waiting, WorkerPc.announced] at unannounced
  · intro results waiting
    simp [waiting, WorkerPc.announced] at unannounced

/-- A state in which the main thread waits at the finish gate has a worker on its way there. -/
theorem canStep_of_waitingFinished {state : State} {totalBefore : UsageSnapshot}
    (safe : Safe host state) (at_pc : state.main = .waitingFinished totalBefore) :
    CanStep host state := by
  have main := safe.gated.main
  rw [at_pc] at main
  obtain ⟨started, unreleased, short⟩ := main
  have healthy := (safe.gated.started started).1
  rw [safe.gated.finished unreleased] at short
  obtain ⟨tid, below, unreported⟩ := Counting.exists_lowered short
  have ok := safe.gated.worker tid
  refine canStep_of_worker safe.locked tid ?_ ?_ ?_ ?_
  · exact safe.spawned.live tid (by simpa [at_pc, MainPc.spawned] using below)
  · cases at_worker : state.worker tid <;> try rfl
    simp [at_worker, WorkerOk, healthy, unreleased] at ok
  · intro runner waiting
    simp [waiting, WorkerOk, started] at ok
  · intro results waiting
    simp [waiting, WorkerPc.reported] at unreported

/-- The worker which the main thread joins ends or goes on. -/
theorem canStep_of_joining {state : State} {usage : Option UsageDelta} {tid : ℕ}
    {allResults : List Measurement} (safe : Safe host state)
    (at_pc : state.main = .joining usage tid allResults) : CanStep host state := by
  rcases le_or_gt host.workers tid with all | more
  · exact ⟨_, _, .joined at_pc all⟩
  have main := safe.gated.main
  have ok := safe.gated.worker tid
  rw [at_pc] at main
  by_cases finished : (state.worker tid).isDone = true
  · cases at_worker : state.worker tid <;>
      simp only [at_worker, WorkerPc.isDone, Bool.false_eq_true] at finished
    case done result =>
      cases result with
      | error err => exact ⟨_, _, .joinFailed at_pc more at_worker⟩
      | ok threadResults => exact ⟨_, _, .join at_pc more at_worker⟩
  refine canStep_of_worker safe.locked tid ?_ (Bool.not_eq_true _ ▸ finished) ?_ ?_
  · exact safe.spawned.live tid (by simpa [at_pc, MainPc.spawned] using more)
  · intro runner waiting
    rw [waiting] at ok
    cases usage with
    | none => exact main.2 ok.2.2
    | some usage =>
        have reported := (safe.gated.released main).2 tid more
        simp [waiting, WorkerPc.reported, WorkerPc.isDone] at reported
  · intro results waiting
    rw [waiting] at ok
    cases usage with
    | none => exact absurd ok.1 (by simp [main.1])
    | some usage => exact absurd (show _ = true from main) (by simp [ok.2])

/-- Some thread can take a step in every reachable state before the main thread returns. -/
def DeadlockFree (host : Host) : Prop :=
  ∀ state, (runExternalWithPrepare host).Reachable state →
    (∀ output, state.main ≠ .returned output) → CanStep host state

/-- No run deadlocks if starting fails or every operation succeeds. -/
theorem runExternalWithPrepare_progress (releasable : host.Releasable) : DeadlockFree host := by
  intro state reachable unreturned
  have safe := safe_reachable releasable reachable
  cases at_pc : state.main with
  | spawning tid =>
      rcases lt_or_ge tid host.workers with more | all
      · exact ⟨_, _, .spawn at_pc more⟩
      · exact ⟨_, _, .spawned at_pc all⟩
  | lockingGate =>
      cases owned : state.gate.owner with
      | none => exact ⟨_, _, .mainLockGate at_pc owned⟩
      | some owner => exact canStep_of_gate_owned safe.locked owned
  | checkingReady => exact canStep_of_checkingReady at_pc
  | waitingReady => exact canStep_of_waitingReady safe at_pc
  | starting => exact canStep_of_starting at_pc
  | lockingFinish totalBefore =>
      cases owned : state.finishGate.owner with
      | none => exact ⟨_, _, .mainLockFinish at_pc owned⟩
      | some owner => exact canStep_of_finish_owned safe.locked owned
  | checkingFinished totalBefore => exact canStep_of_checkingFinished at_pc
  | waitingFinished totalBefore => exact canStep_of_waitingFinished safe at_pc
  | joining usage tid allResults => exact canStep_of_joining safe at_pc
  | returned output => exact absurd at_pc (unreturned output)

/-! ### A failed operation -/

def unusedSnapshot : UsageSnapshot :=
  ⟨0, 0, 0, 0, 0, 0⟩

/-- Two workers for three operations, with the preparation of the second as given. -/
def pairHost (prepared : Except String Unit) : Host where
  config := ⟨3, 2, false⟩
  prepareFn worker :=
    (if worker.threadId = 0 then .ok () else prepared).map fun _ _ =>
      ⟨.ok unusedSnapshot, 0, .ok (), 0, .ok unusedSnapshot⟩
  totalBefore := .ok unusedSnapshot
  runStart := 0
  elapsed := 0
  totalAfter := .ok unusedSnapshot

theorem runExternalWithPrepare_progress_pair :
    DeadlockFree (pairHost (.ok ())) ∧ DeadlockFree (pairHost (.error "no namespace")) := by
  refine ⟨runExternalWithPrepare_progress (.inr (.inr fun tid _ runner prepared iter _ => ?_)),
    runExternalWithPrepare_progress (.inr (.inl ⟨1, by decide, "no namespace", rfl⟩))⟩
  obtain ⟨_, _, rfl⟩ := FallibleFold.map_ok prepared
  exact ⟨rfl, fun captures => Bool.noConfusion captures⟩

/-- One worker with one operation, whose outcome is given. -/
def singleHost (outcome : Except String Unit) : Host where
  config := ⟨1, 1, false⟩
  prepareFn _ := .ok fun _ => ⟨.ok unusedSnapshot, 0, outcome, 0, .ok unusedSnapshot⟩
  totalBefore := .ok unusedSnapshot
  runStart := 0
  elapsed := 0
  totalAfter := .ok unusedSnapshot

/-- With the main thread waiting and no worker left, nobody can take a step. -/
theorem not_canStep {state : State} {totalBefore : UsageSnapshot}
    (waiting : state.main = .waitingFinished totalBefore)
    (gone : ∀ tid, state.worker tid = .unspawned ∨ (state.worker tid).isDone = true) :
    ¬ CanStep host state := by
  rintro ⟨actor, after, step⟩
  cases step with
  | @workerLockGate tid inside at_pc =>
      obtain ⟨_, _, _, _, _, _, unfinished, _, live⟩ := WorkerPc.insideGate_holds at_pc
      rcases gone tid with fresh | finished
      · exact live fresh
      · simp [unfinished] at finished
  | @workerLockFinish tid inside at_pc =>
      obtain ⟨_, _, _, _, _, _, unfinished, _, live⟩ := WorkerPc.insideFinish_holds at_pc
      rcases gone tid with fresh | finished
      · exact live fresh
      · simp [unfinished] at finished
  | _ => grind [WorkerPc.isDone]

/-- The worker leaves through `?` and the main thread waits for it at the finish gate. -/
theorem singleHost_run : ∃ state,
    (runExternalWithPrepare (singleHost (.error "failed"))).Reachable state ∧
      state.main = .waitingFinished unusedSnapshot ∧
      ∀ tid, state.worker tid = .unspawned ∨ (state.worker tid).isDone = true := by
  refine ⟨_, ⟨_, _, rfl, .cons (.spawn rfl Nat.one_pos) <| .cons (.spawned rfl (le_refl 1)) <|
    .cons (@Step.prepared _ _ 0 _ rfl rfl) <| .cons (@Step.workerLockGate _ _ 0 _ rfl rfl) <|
    .cons (@Step.announce _ _ 0 _ rfl) <| .cons (@Step.awaitStart _ _ 0 _ rfl rfl rfl) <|
    .cons (.mainLockGate rfl rfl) <| .cons (.ready rfl fun unready => absurd unready.1 ?_) <|
    .cons (.start rfl rfl rfl rfl) <| .cons (@Step.workerLockGate _ _ 0 _ rfl rfl) <|
    .cons (@Step.pass _ _ 0 _ rfl rfl rfl) <| .cons (@Step.loadOrigin _ _ 0 _ _ rfl rfl) <|
    .cons (@Step.operateFailed _ _ 0 _ _ _ _ _ rfl Nat.one_pos rfl) <|
    .cons (.mainLockFinish rfl rfl) <| .cons (.awaitFinished rfl Nat.one_pos) <| .nil _⟩,
    rfl, fun tid => ?_⟩
  · decide
  · cases tid with
    | zero => exact .inr rfl
    | succ tid => exact .inl rfl

theorem runExternalWithPrepare_deadlock :
    0 < (singleHost (.error "failed")).config.total ∧
      0 < (singleHost (.error "failed")).config.concurrency ∧
      ¬ DeadlockFree (singleHost (.error "failed")) := by
  refine ⟨Nat.one_pos, Nat.one_pos, fun free => ?_⟩
  obtain ⟨state, reachable, waiting, gone⟩ := singleHost_run
  exact not_canStep waiting gone (free state reachable (by simp [waiting]))

end Bench
end HermOS
