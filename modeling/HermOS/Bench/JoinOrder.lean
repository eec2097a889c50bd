import HermOS.Bench.BatchBarrier
import HermOS.Bench.PreparedCalls

/-!
# Workers left behind

Every entry point joins its workers in order and leaves the loop at the first error, and two of
them return from their gate without joining at all.  No worker is left behind in a run in which only
the last worker of a group fails and the usage captures between start and join succeed.
-/

namespace HermOS
namespace Bench

/-! ### `run_external` -/

namespace External

/-- With workers at the gate the capture there succeeds, and no worker but the last performs an
operation which fails. -/
structure Joinable (host : Host) (before : State) (label : Label) : Prop where
  captured : label = .run .main → before.main = .starting → 0 < host.workers →
    ∃ totalBefore, host.totalBefore = .ok totalBefore
  performed : ∀ tid origin iter results, label = .run (.worker tid) →
    before.worker tid = .running origin iter results → iter < host.count tid →
      tid + 1 < host.workers → (host.opFn tid iter).Succeeds host.config.measurePerOpUsage

/-- If `run_external` has returned, every spawned worker has terminated. -/
def State.Joined (state : State) : Prop :=
  ∀ output, state.main = .returned output →
    ∀ tid, state.worker tid = .unspawned ∨ ∃ result, state.worker tid = .done result

def JoinsWorkers (host : Host) : Prop :=
  ∀ state, (runExternal host).Reachable state → state.Joined

def MainPc.spawned (workers : ℕ) : MainPc → ℕ
  | .spawning tid => tid
  | _ => workers

variable {host : Host}

/-- What a worker at its program point relies on. -/
def WorkerOrder (host : Host) (gate : StartState) (tid : ℕ) : WorkerPc → Prop
  | .loadingOrigin => gate.start = true
  | .done (.error _) => host.workers ≤ tid + 1
  | _ => True

/-- What the main thread relies on. -/
def MainOrder (host : Host) (gate : StartState) (runOrigin : Option ℕ)
    (result : ℕ → Option ThreadResult) : MainPc → Prop
  | .joining _ _ _ => True
  | .returned _ => ∀ tid < host.workers, ∃ ended, result tid = some ended
  | _ => gate.start = false ∧ runOrigin = none

structure Orderly (host : Host) (state : State) : Prop where
  bound : state.main.spawned host.workers ≤ host.workers
  fresh : ∀ tid, state.main.spawned host.workers ≤ tid → state.worker tid = .unspawned
  healthy : state.gate.data.failure = none
  origin : state.gate.data.start = true → state.runOrigin ≠ none
  worker : ∀ tid, WorkerOrder host state.gate.data tid (state.worker tid)
  main : MainOrder host state.gate.data state.runOrigin state.result state.main

theorem WorkerOrder.notify {gate : StartState} {tid : ℕ} {pc : WorkerPc}
    (order : WorkerOrder host gate tid pc) : WorkerOrder host gate tid pc.notify := by
  cases pc <;> exact order

theorem WorkerOrder.mono {gate later : StartState} {tid : ℕ} {pc : WorkerPc}
    (order : WorkerOrder host gate tid pc) (start : gate.start = true → later.start = true) :
    WorkerOrder host later tid pc := by
  match pc, order with
  | .loadingOrigin, order => exact start order
  | .done (.error _), order => exact order
  | .done (.ok _), _ | .unspawned, _ | .lockingReady, _ | .announcing, _ | .checkingStart, _ |
    .waitingStart, _ | .lockingStart, _ | .running _ _ _, _ => trivial

theorem MainOrder.notify {gate : StartState} {runOrigin : Option ℕ}
    {result : ℕ → Option ThreadResult} {pc : MainPc}
    (order : MainOrder host gate runOrigin result pc) :
    MainOrder host gate runOrigin result pc.notify := by
  cases pc <;> exact order

theorem MainOrder.mono {gate later : StartState} {runOrigin : Option ℕ}
    {result next : ℕ → Option ThreadResult} {pc : MainPc}
    (order : MainOrder host gate runOrigin result pc) (start : later.start = gate.start)
    (settled : ∀ tid ended, result tid = some ended → next tid = some ended) :
    MainOrder host later runOrigin next pc := by
  match pc, order with
  | .joining _ _ _, _ => trivial
  | .returned _, order =>
      intro tid below
      obtain ⟨ended, finished⟩ := order tid below
      exact ⟨ended, settled tid ended finished⟩
  | .spawning _, order | .lockingGate, order | .checkingReady, order | .waitingReady, order |
    .starting, order => exact ⟨start.trans order.1, order.2⟩

@[simp] theorem MainPc.spawned_notify (main : MainPc) (workers : ℕ) :
    main.notify.spawned workers = main.spawned workers := by
  cases main <;> rfl

namespace Orderly

variable {state : State}

theorem below (orderly : Orderly host state) {tid : ℕ} {pc : WorkerPc}
    (at_pc : state.worker tid = pc) (live : pc ≠ .unspawned) :
    tid < state.main.spawned host.workers := by
  by_contra above
  exact live (at_pc.symm.trans (orderly.fresh tid (not_lt.mp above)))

theorem lockGate (orderly : Orderly host state) (actor : Actor) :
    Orderly host (state.lockGate actor) :=
  ⟨orderly.bound, orderly.fresh, orderly.healthy, orderly.origin, orderly.worker, orderly.main⟩

theorem unlockGate (orderly : Orderly host state) : Orderly host state.unlockGate :=
  ⟨orderly.bound, orderly.fresh, orderly.healthy, orderly.origin, orderly.worker, orderly.main⟩

theorem notify (orderly : Orderly host state) : Orderly host state.notify := by
  refine ⟨?_, fun tid above => ?_, orderly.healthy, orderly.origin,
    fun tid => (orderly.worker tid).notify, orderly.main.notify.mono rfl ?_⟩
  · simpa [State.notify] using orderly.bound
  · have fresh := orderly.fresh tid (by simpa [State.notify] using above)
    simp [State.notify, fresh, WorkerPc.notify]
  · simp [State.notify, State.result]

/-- Raising `ready_workers` orders nothing. -/
theorem setReady (orderly : Orderly host state) (readyWorkers : ℕ) :
    Orderly host (state.setGate { state.gate.data with readyWorkers }) := by
  exact ⟨orderly.bound, orderly.fresh, orderly.healthy, orderly.origin,
    fun tid => (orderly.worker tid).mono id, orderly.main.mono rfl fun _ _ => id⟩

theorem moveMain (orderly : Orderly host state) {old pc : MainPc} (at_pc : state.main = old)
    (spawned : pc.spawned host.workers = old.spawned host.workers)
    (order : MainOrder host state.gate.data state.runOrigin state.result pc) :
    Orderly host (state.moveMain pc) := by
  subst at_pc
  exact ⟨spawned ▸ orderly.bound, fun tid above => orderly.fresh tid (spawned ▸ above),
    orderly.healthy, orderly.origin, orderly.worker, order⟩

theorem worker_move (orderly : Orderly host state) {tid : ℕ} {pc : WorkerPc}
    (order : WorkerOrder host state.gate.data tid pc) (other : ℕ) :
    WorkerOrder host state.gate.data other ((state.moveWorker tid pc).worker other) := by
  exact (Function.forall_update_iff state.worker (WorkerOrder host state.gate.data)).mpr
    ⟨order, fun other _ => orderly.worker other⟩ other

theorem moveWorker (orderly : Orderly host state) {tid : ℕ} {old pc : WorkerPc}
    (at_pc : state.worker tid = old) (order : WorkerOrder host state.gate.data tid pc)
    (live : old ≠ .unspawned) (running : old.result? = none) :
    Orderly host (state.moveWorker tid pc) := by
  refine ⟨orderly.bound, fun other above => ?_, orderly.healthy, orderly.origin,
    orderly.worker_move order, orderly.main.mono rfl fun other ended finished => ?_⟩
  · have ne : other ≠ tid := (lt_of_lt_of_le (orderly.below at_pc live) above).ne'
    simpa [State.moveWorker, ne] using orderly.fresh other above
  · have ne : other ≠ tid := by
      rintro rfl
      simp [State.result, at_pc, running] at finished
    simpa [State.result, State.moveWorker, ne] using finished

theorem notifyWorker (orderly : Orderly host state) (tid : ℕ) :
    Orderly host (state.moveWorker tid (state.worker tid).notify) := by
  by_cases moving : (state.worker tid).notify = state.worker tid
  · rwa [moving, State.moveWorker, Function.update_eq_self]
  · refine orderly.moveWorker rfl (orderly.worker tid).notify ?_ ?_ <;>
      cases at_pc : state.worker tid <;> simp_all [WorkerPc.notify, WorkerPc.result?]

end Orderly

theorem orderly_init : Orderly host .init :=
  ⟨Nat.zero_le _, fun _ _ => rfl, rfl, (Bool.noConfusion ·), fun _ => trivial, rfl, rfl⟩

theorem orderly_step {before after : State} {label : Label} (records : Records host before)
    (orderly : Orderly host before) (step : Step host before label after)
    (joinable : Joinable host before label) : Orderly host after := by
  have order : ∀ {pc}, before.main = pc →
      MainOrder host before.gate.data before.runOrigin before.result pc := by
    rintro _ rfl
    exact orderly.main
  have carried : ∀ {tid pc}, before.worker tid = pc →
      WorkerOrder host before.gate.data tid pc := by
    rintro tid _ rfl
    exact orderly.worker tid
  cases step with
  | @spawn tid at_pc more =>
      have early := order at_pc
      have fresh := orderly.fresh
      rw [at_pc] at fresh
      refine ⟨more, fun other above => ?_, orderly.healthy, orderly.origin,
        orderly.worker_move trivial, early⟩
      have ne : other ≠ tid := (Nat.lt_of_succ_le above).ne'
      simpa [State.moveMain, State.moveWorker, ne] using
        fresh other (Nat.le_of_succ_le above)
  | @spawned tid at_pc all =>
      have early := order at_pc
      have bound := orderly.bound
      rw [at_pc] at bound
      exact orderly.moveMain at_pc (le_antisymm all bound) early
  | mainLockGate at_pc free =>
      have early := order at_pc
      exact (orderly.lockGate _).moveMain at_pc rfl early
  | awaitReady at_pc unready =>
      have early := order at_pc
      exact orderly.unlockGate.moveMain at_pc rfl early
  | ready at_pc ready =>
      have early := order at_pc
      exact orderly.moveMain at_pc rfl early
  | captureFailed at_pc failed =>
      refine orderly.unlockGate.moveMain at_pc rfl fun tid below => ?_
      obtain ⟨totalBefore, captured⟩ := joinable.captured rfl at_pc (Nat.zero_lt_of_lt below)
      rw [captured] at failed
      cases failed
  | originTaken at_pc captured taken =>
      rw [(order at_pc).2] at taken
      cases taken
  | start at_pc captured unset =>
      have fresh := orderly.fresh
      rw [at_pc] at fresh
      refine ⟨le_refl _, fun tid above => ?_, orderly.healthy, fun _ => Option.some_ne_none _,
        fun tid => ?_, trivial⟩
      · exact congrArg WorkerPc.notify (fresh tid above)
      · refine ((orderly.worker tid).mono fun _ => ?_).notify
        change (before.gate.data.start || before.gate.data.failure.isNone) = true
        simp [orderly.healthy]
  | join at_pc more finished => exact orderly.moveMain at_pc rfl trivial
  | @joinFailed totalBefore tid allResults err at_pc more failed =>
      have last := carried failed
      have main := records.main
      rw [at_pc] at main
      refine orderly.moveMain at_pc rfl fun index below => ?_
      rcases Nat.lt_or_ge index tid with earlier | same
      · obtain ⟨results, ended⟩ := main.2.finished index earlier
        exact ⟨_, ended⟩
      · have same : index = tid := le_antisymm (by simp only [WorkerOrder] at last; omega) same
        rw [same, State.result, failed]
        exact ⟨_, rfl⟩
  | joined at_pc whole =>
      have main := records.main
      rw [at_pc] at main
      refine orderly.moveMain at_pc rfl fun index below => ?_
      obtain ⟨results, ended⟩ := main.2.finished index (by omega)
      exact ⟨_, ended⟩
  | @workerLockGate tid inside at_pc free =>
      cases at_worker : before.worker tid <;>
        simp only [at_worker, WorkerPc.insideGate, Option.some.injEq, reduceCtorEq] at at_pc <;>
        subst at_pc <;>
        exact (orderly.lockGate _).moveWorker at_worker trivial (by simp) rfl
  | announce at_pc =>
      exact ((orderly.setReady _).notify).moveWorker (congrArg WorkerPc.notify at_pc) trivial
        (by simp [WorkerPc.notify]) rfl
  | awaitStart at_pc unstarted healthy =>
      exact orderly.unlockGate.moveWorker at_pc trivial (by simp) rfl
  | seeFailure at_pc failed =>
      rw [orderly.healthy] at failed
      cases failed
  | pass at_pc started healthy =>
      exact orderly.unlockGate.moveWorker at_pc started (by simp) rfl
  | originMissing at_pc unset => exact absurd unset (orderly.origin (carried at_pc))
  | loadOrigin at_pc set => exact orderly.moveWorker at_pc trivial (by simp) rfl
  | operate at_pc more measured => exact orderly.moveWorker at_pc trivial (by simp) rfl
  | @operateFailed tid origin iter results err at_pc more failed =>
      refine orderly.moveWorker at_pc (not_lt.mp fun earlier => ?_) (by simp) rfl
      obtain ⟨sample, measured⟩ :=
        measureOperation_succeeds origin (joinable.performed tid _ _ _ rfl at_pc more earlier)
      rw [Host.measure, measured] at failed
      cases failed
  | operated at_pc all => exact orderly.moveWorker at_pc trivial (by simp) rfl
  | wakeMain =>
      exact orderly.moveMain rfl (by simp) orderly.main.notify
  | wakeWorker tid => exact orderly.notifyWorker tid

theorem joined_of_joinable {state : State}
    (reachable : ((runExternal host).restrict (Joinable host)).Reachable state) :
    state.Joined := by
  intro output returned tid
  have safe : Records host state ∧ Orderly host state := by
    refine reachable.invariant (fun state => Records host state ∧ Orderly host state) ?_ ?_
    · rintro _ rfl
      exact ⟨records_init, orderly_init⟩
    · rintro before label after ⟨records, orderly⟩ ⟨step, joinable⟩
      exact ⟨records_step records step, orderly_step records orderly step joinable⟩
  rcases Nat.lt_or_ge tid host.workers with below | above
  · have main := safe.2.main
    rw [returned] at main
    obtain ⟨result, ended⟩ := main tid below
    exact .inr ⟨result, WorkerPc.eq_done ended⟩
  · exact .inl (safe.2.fresh tid (by simpa [returned, MainPc.spawned] using above))

end External

/-! ### `run_external_with_prepare` -/

variable {host : Host}

/-- With workers at the start gate the capture there succeeds, and so does the capture at the finish
gate with workers to release; no preparation fails, unless its worker is the only one. -/
structure Joinable (host : Host) (before : State) (label : Label) : Prop where
  captured : label = .run .main → before.main = .starting → 0 < host.workers →
    ∃ totalBefore, host.totalBefore = .ok totalBefore
  prepared : ∀ tid, label = .run (.worker tid) → before.worker tid = .preparing →
    1 < host.workers → ∃ runner, host.prepare tid = .ok runner
  released : ∀ totalBefore, label = .run .main → before.main = .checkingFinished totalBefore →
    host.workers ≤ before.finishGate.data.finishedWorkers → 0 < host.workers →
      ∃ totalAfter, host.totalAfter = .ok totalAfter

/-- If `run_external_with_prepare` has returned, every spawned worker has terminated. -/
def State.Joined (state : State) : Prop :=
  ∀ output, state.main = .returned output →
    ∀ tid, state.worker tid = .unspawned ∨ ∃ result, state.worker tid = .done result

/-- Past the start gate. -/
def MainPc.started : MainPc → Bool
  | .spawning _ | .lockingGate | .checkingReady | .waitingReady | .starting => false
  | _ => true

/-- Past the point which raises `finished_workers`. -/
def WorkerPc.finished : WorkerPc → Bool
  | .checkingRelease _ | .waitingRelease _ | .lockingRelease _ | .done (.ok _) => true
  | _ => false

/-- A worker whose preparation has failed is the only one. -/
def WorkerReported (host : Host) : WorkerPc → Prop
  | .lockingFailure _ | .reportingFailure _ => host.workers ≤ 1
  | _ => True

/-- What the join loops rely on. -/
def MainReported (host : Host) (gate : StartState) (worker : ℕ → WorkerPc) : MainPc → Prop
  | .joining (some _) _ _ => ∀ tid < host.workers, (worker tid).finished = true
  | .joining none _ _ => gate.failure ≠ none
  | .returned _ => ∀ tid < host.workers, ∃ result, (worker tid).result? = some result
  | _ => True

structure Reported (host : Host) (state : State) : Prop where
  unset : state.main.started = false → state.runOrigin = none
  failure : state.gate.data.failure ≠ none → host.workers ≤ 1
  counted : state.finishGate.data.finishedWorkers =
    Counting.raised (fun tid => (state.worker tid).finished) host.workers
  worker : ∀ tid, WorkerReported host (state.worker tid)
  main : MainReported host state.gate.data state.worker state.main

section Notify

variable (pc : WorkerPc) (main : MainPc)

@[simp] theorem WorkerPc.finished_notifyGate : pc.notifyGate.finished = pc.finished := by
  cases pc <;> rfl

@[simp] theorem WorkerPc.finished_notifyFinish : pc.notifyFinish.finished = pc.finished := by
  cases pc <;> rfl

@[simp] theorem MainPc.started_notifyGate : main.notifyGate.started = main.started := by
  cases main <;> rfl

@[simp] theorem MainPc.started_notifyFinish : main.notifyFinish.started = main.started := by
  cases main <;> rfl

end Notify

theorem WorkerReported.notifyGate {pc : WorkerPc} (reported : WorkerReported host pc) :
    WorkerReported host pc.notifyGate := by
  cases pc <;> exact reported

theorem WorkerReported.notifyFinish {pc : WorkerPc} (reported : WorkerReported host pc) :
    WorkerReported host pc.notifyFinish := by
  cases pc <;> exact reported

theorem WorkerReported.insideGate {pc inside : WorkerPc} (reported : WorkerReported host pc)
    (entered : pc.insideGate = some inside) :
    WorkerReported host inside ∧ inside.finished = pc.finished ∧ pc.result? = none := by
  cases pc <;> simp only [WorkerPc.insideGate, Option.some.injEq, reduceCtorEq] at entered <;>
    subst entered <;> exact ⟨reported, rfl, rfl⟩

theorem WorkerReported.insideFinish {pc inside : WorkerPc} (reported : WorkerReported host pc)
    (entered : pc.insideFinish = some inside) :
    WorkerReported host inside ∧ inside.finished = pc.finished ∧ pc.result? = none := by
  cases pc <;> simp only [WorkerPc.insideFinish, Option.some.injEq, reduceCtorEq] at entered <;>
    subst entered <;> exact ⟨reported, rfl, rfl⟩

theorem MainReported.notifyGate {gate : StartState} {worker : ℕ → WorkerPc} {pc : MainPc}
    (reported : MainReported host gate worker pc) :
    MainReported host gate worker pc.notifyGate := by
  cases pc <;> exact reported

theorem MainReported.notifyFinish {gate : StartState} {worker : ℕ → WorkerPc} {pc : MainPc}
    (reported : MainReported host gate worker pc) :
    MainReported host gate worker pc.notifyFinish := by
  cases pc <;> exact reported

theorem MainReported.mono {gate later : StartState} {worker next : ℕ → WorkerPc} {pc : MainPc}
    (reported : MainReported host gate worker pc)
    (failure : gate.failure ≠ none → later.failure ≠ none)
    (finished : ∀ tid, (worker tid).finished = true → (next tid).finished = true)
    (settled : ∀ tid result, (worker tid).result? = some result →
      (next tid).result? = some result) :
    MainReported host later next pc := by
  match pc, reported with
  | .joining (some _) _ _, reported => exact fun tid below => finished tid (reported tid below)
  | .joining none _ _, reported => exact failure reported
  | .returned _, reported =>
      intro tid below
      obtain ⟨result, ended⟩ := reported tid below
      exact ⟨result, settled tid result ended⟩
  | .spawning _, _ | .lockingGate, _ | .checkingReady, _ | .waitingReady, _ | .starting, _ |
    .lockingFinish _, _ | .checkingFinished _, _ | .waitingFinished _, _ => trivial

namespace Reported

variable {state : State}

theorem lockGate (reported : Reported host state) (actor : Actor) :
    Reported host (state.lockGate actor) :=
  ⟨reported.unset, reported.failure, reported.counted, reported.worker, reported.main⟩

theorem unlockGate (reported : Reported host state) : Reported host state.unlockGate :=
  ⟨reported.unset, reported.failure, reported.counted, reported.worker, reported.main⟩

theorem lockFinish (reported : Reported host state) (actor : Actor) :
    Reported host (state.lockFinish actor) :=
  ⟨reported.unset, reported.failure, reported.counted, reported.worker, reported.main⟩

theorem unlockFinish (reported : Reported host state) : Reported host state.unlockFinish :=
  ⟨reported.unset, reported.failure, reported.counted, reported.worker, reported.main⟩

/-- A write to the start gate which keeps `failure`. -/
theorem setGate (reported : Reported host state) {data : StartState}
    (same : data.failure = state.gate.data.failure) : Reported host (state.setGate data) :=
  ⟨reported.unset, fun failed => reported.failure (same ▸ failed), reported.counted,
    reported.worker, reported.main.mono (fun failed => same ▸ failed) (fun _ => id)
      fun _ _ => id⟩

theorem setFailure (reported : Reported host state) (single : host.workers ≤ 1) (err : String) :
    Reported host (state.setGate { state.gate.data with
      failure := state.gate.data.failure.or (some err) }) :=
  ⟨reported.unset, fun _ => single, reported.counted, reported.worker,
    reported.main.mono (fun _ => by simp [State.setGate]) (fun _ => id) fun _ _ => id⟩

theorem notifyGate (reported : Reported host state) : Reported host state.notifyGate := by
  refine ⟨fun early => reported.unset (by simpa [State.notifyGate] using early),
    reported.failure, ?_, fun tid => (reported.worker tid).notifyGate,
    reported.main.notifyGate.mono id ?_ ?_⟩
  · simpa [State.notifyGate] using reported.counted
  · simp [State.notifyGate]
  · simp [State.notifyGate]

theorem notifyFinish (reported : Reported host state) : Reported host state.notifyFinish := by
  refine ⟨fun early => reported.unset (by simpa [State.notifyFinish] using early),
    reported.failure, ?_, fun tid => (reported.worker tid).notifyFinish,
    reported.main.notifyFinish.mono id ?_ ?_⟩
  · simpa [State.notifyFinish] using reported.counted
  · simp [State.notifyFinish]
  · simp [State.notifyFinish]

/-- The release of the workers is not counted. -/
theorem setRelease (reported : Reported host state) :
    Reported host (state.setFinish { state.finishGate.data with releaseWorkers := true }) :=
  ⟨reported.unset, reported.failure, reported.counted, reported.worker, reported.main⟩

theorem moveMain (reported : Reported host state) {pc : MainPc}
    (early : pc.started = false → state.main.started = false)
    (main : MainReported host state.gate.data state.worker pc) :
    Reported host (state.moveMain pc) :=
  ⟨fun unstarted => reported.unset (early unstarted), reported.failure, reported.counted,
    reported.worker, main⟩

theorem main_move (reported : Reported host state) {tid : ℕ} (pc : WorkerPc)
    (finished : (state.worker tid).finished = true → pc.finished = true)
    (running : (state.worker tid).result? = none) :
    MainReported host state.gate.data (state.moveWorker tid pc).worker state.main := by
  refine reported.main.mono id (fun other ended => ?_) fun other result ended => ?_
  · rcases eq_or_ne other tid with rfl | ne
    · simpa [State.moveWorker] using finished ended
    · simpa [State.moveWorker, ne] using ended
  · have ne : other ≠ tid := by
      rintro rfl
      simp [running] at ended
    simpa [State.moveWorker, ne] using ended

theorem worker_move (reported : Reported host state) {tid : ℕ} {pc : WorkerPc}
    (worker : WorkerReported host pc) (other : ℕ) :
    WorkerReported host ((state.moveWorker tid pc).worker other) := by
  exact (Function.forall_update_iff state.worker fun _ => WorkerReported host).mpr
    ⟨worker, fun other _ => reported.worker other⟩ other

theorem moveWorker (reported : Reported host state) {tid : ℕ} {old pc : WorkerPc}
    (at_pc : state.worker tid = old) (worker : WorkerReported host pc)
    (finished : pc.finished = old.finished) (running : old.result? = none) :
    Reported host (state.moveWorker tid pc) := by
  subst at_pc
  refine ⟨reported.unset, reported.failure, reported.counted.trans ?_,
    reported.worker_move worker, reported.main_move pc finished.trans running⟩
  exact (Counting.raised_update WorkerPc.finished finished).symm

theorem notifyWorker (reported : Reported host state) (tid : ℕ) :
    Reported host (state.moveWorker tid (state.worker tid).notifyGate.notifyFinish) := by
  cases ended : (state.worker tid).result? with
  | none =>
      exact reported.moveWorker rfl (reported.worker tid).notifyGate.notifyFinish (by simp) ended
  | some result =>
      have done := WorkerPc.eq_done ended
      have same : (state.worker tid).notifyGate.notifyFinish = state.worker tid := by
        rw [done]
        rfl
      rwa [same, State.moveWorker, Function.update_eq_self]

/-- A worker raises `finished_workers`. -/
theorem report (reported : Reported host state) {tid : ℕ} {results : List Measurement}
    (below : tid < host.workers) (at_pc : state.worker tid = .reporting results) :
    Reported host ((state.setFinish { state.finishGate.data with
      finishedWorkers := state.finishGate.data.finishedWorkers + 1 }).moveWorker tid
        (.checkingRelease results)) := by
  have main := reported.main_move (.checkingRelease results) (fun _ => rfl)
    (by rw [at_pc]; rfl)
  refine ⟨reported.unset, reported.failure, ?_, reported.worker_move trivial, main⟩
  refine (congrArg (· + 1) reported.counted).trans
    (Counting.raised_update_succ WorkerPc.finished below ?_ rfl).symm
  rw [at_pc]
  rfl

end Reported

theorem reported_init : Reported host .init := by
  refine ⟨fun _ => rfl, fun failed => absurd rfl failed, ?_, fun _ => trivial, trivial⟩
  exact (Counting.raised_eq_zero fun _ _ => rfl).symm

theorem reported_step {before after : State} {label : Label} {calls : ℕ → ℕ}
    (records : Records host calls before) (spawned : Spawned host before)
    (reported : Reported host before) (step : Step host before label after)
    (joinable : Joinable host before label) : Reported host after := by
  have carried : ∀ {tid pc}, before.worker tid = pc → WorkerReported host pc := by
    rintro tid _ rfl
    exact reported.worker tid
  have main : ∀ {pc}, before.main = pc →
      MainReported host before.gate.data before.worker pc := by
    rintro _ rfl
    exact reported.main
  have live : ∀ {tid pc}, before.worker tid = pc → pc ≠ .unspawned → tid < host.workers := by
    rintro tid _ rfl spawn
    exact spawned.below spawn
  have early : ∀ {pc}, before.main = pc → pc.started = false → before.main.started = false := by
    rintro _ rfl unstarted
    exact unstarted
  cases step with
  | @spawn tid at_pc more =>
      have fresh := spawned.fresh tid (by simp [at_pc, MainPc.spawned])
      have moved : Reported host (before.moveWorker tid .preparing) :=
        reported.moveWorker fresh trivial rfl rfl
      exact moved.moveMain (fun _ => early at_pc rfl) trivial
  | spawned at_pc all => exact reported.moveMain (fun _ => early at_pc rfl) trivial
  | mainLockGate at_pc free =>
      exact (reported.lockGate _).moveMain (fun _ => early at_pc rfl) trivial
  | awaitReady at_pc unready =>
      exact reported.unlockGate.moveMain (fun _ => early at_pc rfl) trivial
  | ready at_pc ready => exact reported.moveMain (fun _ => early at_pc rfl) trivial
  | captureFailed at_pc failed =>
      refine reported.unlockGate.moveMain (fun early => by cases early) fun tid below => ?_
      obtain ⟨totalBefore, captured⟩ := joinable.captured rfl at_pc (Nat.zero_lt_of_lt below)
      rw [captured] at failed
      cases failed
  | originTaken at_pc captured healthy taken =>
      rw [reported.unset (early at_pc rfl)] at taken
      cases taken
  | @start totalBefore at_pc captured healthy unset =>
      have opened : Reported host (before.setGate { before.gate.data with start := true }) :=
        reported.setGate rfl
      have noted := opened.notifyGate.unlockGate
      exact ⟨(Bool.noConfusion ·), noted.failure, noted.counted, noted.worker, trivial⟩
  | giveUp at_pc captured failed =>
      refine reported.notifyGate.unlockGate.moveMain (fun early => by cases early) ?_
      simp [MainReported, State.unlockGate, State.notifyGate, failed]
  | mainLockFinish at_pc free =>
      exact (reported.lockFinish _).moveMain (fun early => by cases early) trivial
  | awaitFinished at_pc unfinished =>
      exact reported.unlockFinish.moveMain (fun early => by cases early) trivial
  | @release totalBefore at_pc finished =>
      have opened := reported.setRelease.notifyFinish.unlockFinish
      cases captured : host.totalAfter with
      | error err =>
          rw [Host.afterRelease, captured]
          refine opened.moveMain (fun early => by cases early) fun tid below => ?_
          obtain ⟨totalAfter, measured⟩ :=
            joinable.released totalBefore rfl at_pc finished (Nat.zero_lt_of_lt below)
          rw [captured] at measured
          cases measured
      | ok totalAfter =>
          rw [Host.afterRelease, captured]
          refine opened.moveMain (fun early => by cases early) fun tid below => ?_
          have all := Counting.forall_of_le_raised (reported.counted ▸ finished)
          simpa [State.unlockFinish, State.notifyFinish, State.setFinish] using all tid below
  | @join usage tid allResults threadResults at_pc more finished =>
      have relied := main at_pc
      refine reported.moveMain (fun early => by cases early) ?_
      cases usage <;> exact relied
  | @joinFailed usage tid allResults err at_pc more failed =>
      refine reported.moveMain (fun early => by cases early) ?_
      have relied := main at_pc
      cases usage with
      | some usage =>
          have finished := relied tid more
          rw [failed] at finished
          cases finished
      | none =>
          -- a failed preparation leaves no second worker behind
          have single := reported.failure relied
          intro index inside
          rw [show index = tid by omega, failed]
          exact ⟨_, rfl⟩
  | @joined usage tid allResults at_pc all =>
      have collected := records.main
      rw [at_pc] at collected
      refine reported.moveMain (fun early => by cases early) ?_
      intro index below
      obtain ⟨results, ended⟩ := collected.2.finished index (by omega)
      exact ⟨_, ended⟩
  | prepared at_pc prepared => exact reported.moveWorker at_pc trivial rfl rfl
  | @prepareFailed tid err at_pc failed =>
      refine reported.moveWorker at_pc (not_lt.mp fun several => ?_) rfl rfl
      obtain ⟨runner, prepared⟩ := joinable.prepared tid rfl at_pc several
      rw [failed] at prepared
      cases prepared
  | workerLockGate at_pc free =>
      obtain ⟨worker, finished, running⟩ := (reported.worker _).insideGate at_pc
      exact (reported.lockGate _).moveWorker rfl worker finished running
  | @reportFailure tid err at_pc =>
      have single := carried at_pc
      have noted := ((reported.setFailure single err).notifyGate).unlockGate
      exact noted.moveWorker (congrArg WorkerPc.notifyGate at_pc) trivial rfl rfl
  | @announce tid runner at_pc =>
      have announced : Reported host (before.setGate { before.gate.data with
          readyWorkers := before.gate.data.readyWorkers + 1 }) := reported.setGate rfl
      exact announced.notifyGate.moveWorker (congrArg WorkerPc.notifyGate at_pc) trivial rfl rfl
  | awaitStart at_pc unstarted healthy =>
      exact reported.unlockGate.moveWorker at_pc trivial rfl rfl
  | seeFailure at_pc failed =>
      exact reported.unlockGate.moveWorker at_pc trivial rfl rfl
  | pass at_pc started healthy =>
      exact reported.unlockGate.moveWorker at_pc trivial rfl rfl
  | originMissing at_pc unset => exact reported.moveWorker at_pc trivial rfl rfl
  | loadOrigin at_pc set => exact reported.moveWorker at_pc trivial rfl rfl
  | operate at_pc more measured => exact reported.moveWorker at_pc trivial rfl rfl
  | operateFailed at_pc more failed => exact reported.moveWorker at_pc trivial rfl rfl
  | operated at_pc all => exact reported.moveWorker at_pc trivial rfl rfl
  | workerLockFinish at_pc free =>
      obtain ⟨worker, finished, running⟩ := (reported.worker _).insideFinish at_pc
      exact (reported.lockFinish _).moveWorker rfl worker finished running
  | @report tid results at_pc =>
      exact reported.notifyFinish.report (live at_pc (by simp))
        (congrArg WorkerPc.notifyFinish at_pc)
  | awaitRelease at_pc unreleased =>
      exact reported.unlockFinish.moveWorker at_pc trivial rfl rfl
  | finish at_pc released =>
      exact reported.unlockFinish.moveWorker at_pc trivial rfl rfl
  | wakeMain =>
      exact reported.moveMain (by simp) reported.main.notifyGate.notifyFinish
  | wakeWorker tid => exact reported.notifyWorker tid

theorem joined_of_joinable {state : State}
    (reachable : ((runExternalWithPrepare host).restrict (Joinable host)).Reachable state) :
    state.Joined := by
  intro output returned tid
  obtain ⟨calls, counted⟩ := reachable.withHistory (fun _ => 0) host.noteCall
  have safe : Records host calls state ∧ Spawned host state ∧ Reported host state := by
    refine counted.invariant (fun pair =>
      Records host pair.2 pair.1 ∧ Spawned host pair.1 ∧ Reported host pair.1) ?_ ?_
    · rintro ⟨state, calls⟩ ⟨rfl, rfl⟩
      exact ⟨records_init, spawned_init, reported_init⟩
    · rintro ⟨before, calls⟩ label ⟨after, later⟩ ⟨records, spawned, reported⟩
        ⟨⟨step, joinable⟩, rfl⟩
      exact ⟨records_step records spawned step, spawned_step spawned step,
        reported_step records spawned reported step joinable⟩
  obtain ⟨_, spawned, reported⟩ := safe
  rcases Nat.lt_or_ge tid host.workers with below | above
  · have main := reported.main
    rw [returned] at main
    obtain ⟨result, ended⟩ := main tid below
    exact .inr ⟨result, WorkerPc.eq_done ended⟩
  · exact .inl (spawned.fresh tid (by simpa [returned, MainPc.spawned] using above))

/-! ### `step_shell::run` -/

namespace StepShell

open Netns

/-- No thread of a batch but the last executes a stage which fails. -/
def Joinable (host : Host) (before : State) (label : Label) : Prop :=
  ∀ first tid index results stage, label = .worker first tid →
    before.worker first tid = .executing index results → stages[index]? = some stage →
      tid + 1 < host.batchSize first →
        (host.call (first + tid) index stage).Succeeds host.config.measurePerOpUsage

/-- If `run` has returned, every spawned thread has terminated. -/
def State.Joined (state : State) : Prop :=
  ∀ output, state.main = .returned output →
    ∀ first tid, state.worker first tid = .unspawned ∨
      ∃ result, state.worker first tid = .done result

def WorkerPc.failed : WorkerPc → Bool
  | .looping _ _ error | .arriving _ _ error | .waiting _ _ _ error | .cleaning _ error =>
      error.isSome
  | .done (.error _) => true
  | _ => false

variable {host : Host}

/-- Which threads may be running at a point of the main thread. -/
def MainOrder (host : Host) (worker : ℕ → ℕ → WorkerPc) : MainPc → Prop
  | .detecting | .batching _ _ _ | .returned _ => ∀ first tid, (worker first tid).settled = true
  | .spawning _ nextSeq spawned _ =>
      spawned ≤ host.batchSize nextSeq ∧
        ∀ first tid, (worker first tid).settled = true ∨ first = nextSeq ∧ tid < spawned
  | .joining _ nextSeq joined _ =>
      ∀ first tid, (worker first tid).settled = true ∨
        first = nextSeq ∧ joined ≤ tid ∧ tid < host.batchSize nextSeq

structure Orderly (host : Host) (state : State) : Prop where
  failed : ∀ first tid, (state.worker first tid).failed = true → host.batchSize first ≤ tid + 1
  main : MainOrder host state.worker state.main

theorem MainOrder.mono {worker next : ℕ → ℕ → WorkerPc} {pc : MainPc}
    (order : MainOrder host worker pc)
    (settled : ∀ first tid, (worker first tid).settled = true →
      (next first tid).settled = true) :
    MainOrder host next pc := by
  match pc, order with
  | .detecting, order | .batching _ _ _, order | .returned _, order =>
      exact fun first tid => settled first tid (order first tid)
  | .spawning _ _ _ _, order =>
      exact ⟨order.1, fun first tid => (order.2 first tid).imp_left (settled first tid)⟩
  | .joining _ _ _ _, order =>
      exact fun first tid => (order first tid).imp_left (settled first tid)

namespace Orderly

variable {state : State}

theorem setBarrier (orderly : Orderly host state) (first : ℕ) (barrier : Barrier) :
    Orderly host (state.setBarrier first barrier) :=
  ⟨orderly.failed, orderly.main⟩

theorem moveMain (orderly : Orderly host state) {pc : MainPc}
    (order : MainOrder host state.worker pc) : Orderly host (state.moveMain pc) :=
  ⟨orderly.failed, order⟩

theorem moveWorker (orderly : Orderly host state) {first tid : ℕ} {old pc : WorkerPc}
    (at_pc : state.worker first tid = old) (running : old.settled = false)
    (failed : pc.failed = true → host.batchSize first ≤ tid + 1) :
    Orderly host (state.moveWorker first tid pc) := by
  refine ⟨fun other index => ?_, orderly.main.mono fun other index settled => ?_⟩
  · rw [moveWorker_worker]
    split
    next same => exact same.1 ▸ same.2 ▸ failed
    next => exact orderly.failed other index
  · rw [moveWorker_worker]
    split
    next same =>
      rw [same.1, same.2, at_pc, running] at settled
      cases settled
    next => exact settled

end Orderly

theorem orderly_init : Orderly host .init :=
  ⟨fun _ _ => (Bool.noConfusion ·), fun _ _ => rfl⟩

theorem orderly_step {before after : State} {label : Label} (orderly : Orderly host before)
    (step : Step host before label after) (joinable : Joinable host before label) :
    Orderly host after := by
  have order : ∀ {pc}, before.main = pc → MainOrder host before.worker pc := by
    rintro _ rfl
    exact orderly.main
  have carried : ∀ {first tid pc}, before.worker first tid = pc → pc.failed = true →
      host.batchSize first ≤ tid + 1 := by
    rintro first tid _ rfl
    exact orderly.failed first tid
  cases step with
  | detectFailed at_pc failed =>
      have settled := order at_pc
      exact orderly.moveMain settled
  | captureFailed at_pc detected failed =>
      have settled := order at_pc
      exact orderly.moveMain settled
  | begin at_pc detected captured =>
      have settled := order at_pc
      exact orderly.moveMain settled
  | batch at_pc more =>
      have settled := order at_pc
      exact orderly.moveMain ⟨Nat.zero_le _, fun first tid => .inl (settled first tid)⟩
  | complete at_pc all =>
      have settled := order at_pc
      exact orderly.moveMain settled
  | @spawn totalBefore nextSeq tid allResults at_pc more =>
      obtain ⟨_, settled⟩ := order at_pc
      refine ⟨fun first index failed => ?_, more, fun first index => ?_⟩
      · rw [State.moveMain, moveWorker_worker] at failed
        split at failed
        next => cases failed
        next => exact orderly.failed first index failed
      · rw [State.moveMain, moveWorker_worker]
        split
        next same => exact .inr ⟨same.1, by omega⟩
        next => exact (settled first index).imp_right fun inside => ⟨inside.1, by omega⟩
  | spawned at_pc all =>
      obtain ⟨bound, settled⟩ := order at_pc
      refine orderly.moveMain fun first tid => (settled first tid).imp_right ?_
      rintro ⟨rfl, below⟩
      exact ⟨rfl, Nat.zero_le _, by omega⟩
  | @join totalBefore nextSeq tid allResults threadResults at_pc more finished =>
      have settled := order at_pc
      refine orderly.moveMain fun first index => ?_
      rcases settled first index with quiet | ⟨rfl, later, below⟩
      · exact .inl quiet
      · rcases eq_or_ne index tid with rfl | ne
        · exact .inl (by rw [finished]; rfl)
        · exact .inr ⟨rfl, by omega, below⟩
  | @joinFailed totalBefore nextSeq tid allResults err at_pc more failed =>
      have settled := order at_pc
      have last := carried failed rfl
      refine orderly.moveMain fun first index => ?_
      rcases settled first index with quiet | ⟨rfl, later, below⟩
      · exact quiet
      · rw [show index = tid by omega, failed]
        rfl
  | @joined totalBefore nextSeq tid allResults at_pc all =>
      have settled := order at_pc
      refine orderly.moveMain fun first index => ?_
      rcases settled first index with quiet | ⟨_, later, below⟩
      · exact quiet
      · omega
  | execute at_pc at_stage => exact orderly.moveWorker at_pc rfl (Bool.noConfusion ·)
  | skip at_pc at_stage =>
      have last := carried at_pc rfl
      exact orderly.moveWorker at_pc rfl fun _ => last
  | executed at_pc at_stage measured => exact orderly.moveWorker at_pc rfl (Bool.noConfusion ·)
  | @executeFailed first tid index results stage err at_pc at_stage failed =>
      refine orderly.moveWorker at_pc rfl fun _ => ?_
      by_contra earlier
      obtain ⟨sample, measured⟩ := measureOperation_succeeds host.wallStart
        (joinable first tid index results stage rfl at_pc at_stage (not_le.mp earlier))
      rw [Host.measure, measured] at failed
      cases failed
  | arrive at_pc short =>
      have last := carried at_pc
      exact (orderly.setBarrier _ _).moveWorker at_pc rfl last
  | arriveLast at_pc full =>
      have last := carried at_pc
      exact (orderly.setBarrier _ _).moveWorker at_pc rfl last
  | leave at_pc opened =>
      have last := carried at_pc
      exact orderly.moveWorker at_pc rfl last
  | leaveLoop at_pc all =>
      have last := carried at_pc
      exact orderly.moveWorker at_pc rfl last
  | @cleanedUp first tid results error at_pc =>
      have last := carried at_pc
      refine orderly.moveWorker at_pc rfl fun failed => last ?_
      cases error with
      | none => cases failed
      | some err => rfl

theorem joined_of_joinable {state : State}
    (reachable : ((stepShellRun host).restrict (Joinable host)).Reachable state) :
    state.Joined := by
  intro output returned first tid
  have orderly : Orderly host state := by
    refine reachable.invariant (Orderly host) ?_ ?_
    · rintro _ rfl
      exact orderly_init
    · rintro before label after orderly ⟨step, joinable⟩
      exact orderly_step orderly step joinable
  have settled := orderly.main
  rw [returned] at settled
  exact WorkerPc.settled_cases (settled first tid)

end StepShell

/-- No entry point leaves a worker behind in a run in which only last workers fail and the captures
between start and join succeed. -/
theorem joinsWorkers_of_joinable (external : External.Host) (prepare : Host)
    (shell : StepShell.Host) :
    (∀ state, ((runExternal external).restrict (External.Joinable external)).Reachable state →
      state.Joined) ∧
      (∀ state, ((runExternalWithPrepare prepare).restrict (Joinable prepare)).Reachable state →
        state.Joined) ∧
        ∀ state, ((stepShellRun shell).restrict (StepShell.Joinable shell)).Reachable state →
          state.Joined :=
  ⟨fun _ => External.joined_of_joinable, fun _ => joined_of_joinable,
    fun _ => StepShell.joined_of_joinable⟩

/-- Two threads in one batch, the second of which fails at every stage. -/
def shellPair : StepShell.Host where
  config := ⟨2, 2, false⟩
  upstream := .ok "eth0"
  root := true
  token := "0"
  wallStart := 0
  elapsed := 0
  totalBefore := .ok unusedSnapshot
  totalAfter := .ok unusedSnapshot
  status seq _ := .ok (some seq)
  around _ _ := ⟨.ok unusedSnapshot, 0, .ok (), 0, .ok unusedSnapshot⟩

/-- Two workers with one operation each, the first of which fails. -/
def operationPair : External.Host where
  config := ⟨2, 2, false⟩
  opFn tid _ := ⟨.ok unusedSnapshot, 0, if tid = 0 then .error "failed" else .ok (), 0,
    .ok unusedSnapshot⟩
  totalBefore := .ok unusedSnapshot
  runStart := 0
  elapsed := 0
  totalAfter := .ok unusedSnapshot

/-- Two workers with one operation each, the last of which fails. -/
def lastFails : External.Host :=
  { operationPair with
    opFn := fun tid _ => ⟨.ok unusedSnapshot, 0, if tid = 0 then .ok () else .error "failed", 0,
      .ok unusedSnapshot⟩ }

theorem lastFails_returns : ∃ state, (runExternal lastFails).Reachable state ∧
    state.main = .returned (.error "failed") := by
  refine ⟨_, ⟨_, _, rfl, .cons (.spawn rfl (by decide)) <| .cons (.spawn rfl (by decide)) <|
    .cons (.spawned rfl (le_refl 2)) <| .cons (@External.Step.workerLockGate _ _ 0 _ rfl rfl) <|
    .cons (@External.Step.announce _ _ 0 rfl) <|
    .cons (@External.Step.awaitStart _ _ 0 rfl rfl rfl) <|
    .cons (@External.Step.workerLockGate _ _ 1 _ rfl rfl) <|
    .cons (@External.Step.announce _ _ 1 rfl) <|
    .cons (@External.Step.awaitStart _ _ 1 rfl rfl rfl) <|
    .cons (.mainLockGate rfl rfl) <| .cons (.ready rfl fun unready => absurd unready.1 ?_) <|
    .cons (.start rfl rfl rfl) <| .cons (@External.Step.workerLockGate _ _ 1 _ rfl rfl) <|
    .cons (@External.Step.pass _ _ 1 rfl rfl rfl) <|
    .cons (@External.Step.loadOrigin _ _ 1 _ rfl rfl) <|
    .cons (@External.Step.operateFailed _ _ 1 _ _ _ _ rfl Nat.one_pos rfl) <|
    .cons (@External.Step.workerLockGate _ _ 0 _ rfl rfl) <|
    .cons (@External.Step.pass _ _ 0 rfl rfl rfl) <|
    .cons (@External.Step.loadOrigin _ _ 0 _ rfl rfl) <|
    .cons (@External.Step.operate _ _ 0 _ _ _ _ rfl Nat.one_pos rfl) <|
    .cons (@External.Step.operated _ _ 0 _ _ _ rfl (le_refl 1)) <|
    .cons (.join rfl (by decide) rfl) <| .cons (.joinFailed rfl (by decide) rfl) <| .nil _⟩, rfl⟩
  decide

theorem joinsWorkers_of_joinable_pairs :
    (∃ state, (runExternal lastFails).Reachable state ∧
      state.main = .returned (.error "failed") ∧ state.Joined) ∧
    (∃ state output, (runExternalWithPrepare pairContexts).Reachable state ∧
      state.main = .returned (.ok output) ∧ state.Joined) ∧
    ∃ state output, (stepShellRun shellPair).Reachable state ∧
      state.main = .returned output ∧ state.Joined := by
  obtain ⟨external, prepare, shell⟩ :=
    joinsWorkers_of_joinable lastFails pairContexts shellPair
  refine ⟨?_, ?_, ?_⟩
  · obtain ⟨state, reachable, returned⟩ := lastFails_returns
    refine ⟨state, reachable, returned, external state (reachable.restrict fun before label =>
      ⟨fun _ _ _ => ⟨_, rfl⟩, fun tid origin iter results _ _ _ inside => ?_⟩)⟩
    have first : tid = 0 := Nat.lt_one_iff.mp (Nat.lt_of_succ_lt_succ inside)
    exact ⟨by simp [lastFails, first], fun captures => Bool.noConfusion captures⟩
  · obtain ⟨state, output, reachable, returned⟩ := pairContexts_returns
    refine ⟨state, output, reachable, returned, prepare state (reachable.restrict fun _ _ =>
      ⟨fun _ _ _ => ⟨_, rfl⟩, fun tid _ _ _ => ?_, fun _ _ _ _ _ => ⟨_, rfl⟩⟩)⟩
    exact quietOps.prepare_ok (fun _ _ => ⟨_, rfl⟩) _
  · have concurrent : 1 ≤ shellPair.config.concurrency := Nat.two_pos
    obtain ⟨state, reachable, complete⟩ := StepShell.exists_complete concurrent
    obtain ⟨output, returned⟩ := complete.1
    refine ⟨state, output, reachable, returned, shell state (reachable.restrict fun _ _ => ?_)⟩
    intro first tid index results stage _ _ _ below
    have inside : tid + 1 < min 2 (2 - first) := below
    have leader : first + tid = 0 := by omega
    refine ⟨?_, fun captures => Bool.noConfusion captures⟩
    simp [StepShell.Host.call, shellPair, leader, Netns.runCommand]

/-- The first worker fails before the second has acquired the gate again. -/
theorem operationPair_returns : ∃ state output,
    (runExternal operationPair).Reachable state ∧ state.main = .returned output ∧
      state.worker 1 = .lockingStart := by
  refine ⟨_, _, ⟨_, _, rfl, .cons (.spawn rfl (by decide)) <| .cons (.spawn rfl (by decide)) <|
    .cons (.spawned rfl (le_refl 2)) <| .cons (@External.Step.workerLockGate _ _ 0 _ rfl rfl) <|
    .cons (@External.Step.announce _ _ 0 rfl) <|
    .cons (@External.Step.awaitStart _ _ 0 rfl rfl rfl) <|
    .cons (@External.Step.workerLockGate _ _ 1 _ rfl rfl) <|
    .cons (@External.Step.announce _ _ 1 rfl) <|
    .cons (@External.Step.awaitStart _ _ 1 rfl rfl rfl) <|
    .cons (.mainLockGate rfl rfl) <| .cons (.ready rfl fun unready => absurd unready.1 ?_) <|
    .cons (.start rfl rfl rfl) <| .cons (@External.Step.workerLockGate _ _ 0 _ rfl rfl) <|
    .cons (@External.Step.pass _ _ 0 rfl rfl rfl) <|
    .cons (@External.Step.loadOrigin _ _ 0 _ rfl rfl) <|
    .cons (@External.Step.operateFailed _ _ 0 _ _ _ _ rfl Nat.one_pos rfl) <|
    .cons (.joinFailed rfl (by decide) rfl) <| .nil _⟩, rfl, rfl⟩
  decide

theorem not_joinsWorkers_operationPair : ¬ External.JoinsWorkers operationPair := by
  intro joins
  obtain ⟨state, output, reachable, returned, waiting⟩ := operationPair_returns
  have settled := joins state reachable output returned 1
  simp [waiting] at settled

end Bench
end HermOS
