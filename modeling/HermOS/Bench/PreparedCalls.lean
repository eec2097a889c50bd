import HermOS.Bench.PrepareProgress
import HermOS.Bench.PreparedContexts
import HermOS.Bench.Tiling

/-!
# The calls of prepared runners

A worker calls its runner once for every iteration it was prepared for, and no call finds the
queue of contexts empty.  The calls are counted by a history variable.
-/

namespace HermOS
namespace Bench

/-! ### `run_external_with_prepare` -/

/-- The operation is called: without usage captures always, else after the first of them. -/
def Call.made (measurePerOpUsage : Bool) (call : Call) : Bool :=
  !measurePerOpUsage || call.usageBefore.isOk

theorem Call.made_of_measured {runOrigin : ℕ} {measurePerOpUsage : Bool} {call : Call}
    {sample : ℕ × ℕ × UsageDelta}
    (measured : measureOperation runOrigin measurePerOpUsage call = .ok sample) :
    call.made measurePerOpUsage = true := by
  cases measurePerOpUsage with
  | false => rfl
  | true =>
      obtain ⟨before, captured, _⟩ := FallibleFold.bind_ok measured
      rw [Call.made, captured]
      rfl

/-- The next step of the worker calls its runner. -/
def Host.calling (host : Host) (tid : ℕ) : WorkerPc → Bool
  | .running runner _ iter _ =>
      iter < host.count tid && (runner iter).made host.config.measurePerOpUsage
  | _ => false

/-- Count the calls of every worker's runner. -/
def Host.noteCall (host : Host) (state : State) : Label → (ℕ → ℕ) → ℕ → ℕ
  | .run (.worker tid), calls =>
      if host.calling tid (state.worker tid) then Function.update calls tid (calls tid + 1)
      else calls
  | _, calls => calls

/-- `run_external_with_prepare`, with the number of calls of every worker's runner. -/
def countedCalls (host : Host) : TransitionSystem (State × (ℕ → ℕ)) Label :=
  (runExternalWithPrepare host).withHistory (fun _ => 0) host.noteCall

/-- What a terminated worker returned. -/
def WorkerPc.result? : WorkerPc → Option ThreadResult
  | .done result => some result
  | _ => none

@[simp] theorem WorkerPc.result?_notifyGate (pc : WorkerPc) :
    pc.notifyGate.result? = pc.result? := by
  cases pc <;> rfl

@[simp] theorem WorkerPc.result?_notifyFinish (pc : WorkerPc) :
    pc.notifyFinish.result? = pc.result? := by
  cases pc <;> rfl

theorem WorkerPc.eq_done {pc : WorkerPc} {result : ThreadResult}
    (ended : pc.result? = some result) : pc = .done result := by
  cases pc <;> simp_all [WorkerPc.result?]

/-- What every terminated worker returned. -/
def State.result (state : State) (tid : ℕ) : Option ThreadResult :=
  (state.worker tid).result?

variable {host : Host}

/-- What a worker has recorded after some calls of its runner. -/
def WorkerRecords (host : Host) (tid calls : ℕ) : WorkerPc → Prop
  | .running _ _ iter results =>
      calls = iter ∧ iter ≤ host.count tid ∧
        results.map Measurement.key = host.config.keys tid iter
  | .lockingFinish results | .reporting results | .checkingRelease results |
    .waitingRelease results | .lockingRelease results | .done (.ok results) =>
      calls = host.count tid ∧
        results.map Measurement.key = host.config.keys tid (host.count tid)
  | .done (.error _) => calls ≤ host.count tid
  | _ => calls = 0

/-- What the main thread has collected. -/
def MainRecords (host : Host) (result : ℕ → Option ThreadResult) : MainPc → Prop
  | .joining _ tid allResults =>
      tid ≤ host.workers ∧ Collected host.config result tid allResults
  | .returned (.ok output) => Collected host.config result host.workers output.measurements
  | _ => True

structure Records (host : Host) (calls : ℕ → ℕ) (state : State) : Prop where
  worker : ∀ tid, WorkerRecords host tid (calls tid) (state.worker tid)
  main : MainRecords host state.result state.main

theorem WorkerRecords.notifyGate {tid calls : ℕ} {pc : WorkerPc}
    (records : WorkerRecords host tid calls pc) : WorkerRecords host tid calls pc.notifyGate := by
  cases pc <;> exact records

theorem WorkerRecords.notifyFinish {tid calls : ℕ} {pc : WorkerPc}
    (records : WorkerRecords host tid calls pc) :
    WorkerRecords host tid calls pc.notifyFinish := by
  cases pc <;> exact records

/-- No worker is called more often than it has iterations. -/
theorem WorkerRecords.calls_le {tid calls : ℕ} {pc : WorkerPc}
    (records : WorkerRecords host tid calls pc) : calls ≤ host.count tid := by
  match pc, records with
  | .running _ _ _ _, records => exact records.1.trans_le records.2.1
  | .lockingFinish _, records | .reporting _, records | .checkingRelease _, records |
    .waitingRelease _, records | .lockingRelease _, records | .done (.ok _), records =>
      exact records.1.le
  | .done (.error _), records => exact records
  | .unspawned, records | .preparing, records | .lockingFailure _, records |
    .reportingFailure _, records | .lockingReady _, records | .announcing _, records |
    .checkingStart _, records | .waitingStart _, records | .lockingStart _, records |
    .loadingOrigin _, records =>
      exact (show calls = 0 from records) ▸ Nat.zero_le _

theorem MainRecords.notifyGate {result : ℕ → Option ThreadResult} {pc : MainPc}
    (records : MainRecords host result pc) : MainRecords host result pc.notifyGate := by
  cases pc <;> exact records

theorem MainRecords.notifyFinish {result : ℕ → Option ThreadResult} {pc : MainPc}
    (records : MainRecords host result pc) : MainRecords host result pc.notifyFinish := by
  cases pc <;> exact records

theorem MainRecords.mono {result later : ℕ → Option ThreadResult} {pc : MainPc}
    (records : MainRecords host result pc)
    (settled : ∀ tid ended, result tid = some ended → later tid = some ended) :
    MainRecords host later pc := by
  match pc, records with
  | .joining _ _ _, records => exact ⟨records.1, records.2.mono settled⟩
  | .returned (.ok _), records => exact Collected.mono records settled
  | .returned (.error _), _ => trivial
  | .spawning _, _ | .lockingGate, _ | .checkingReady, _ | .waitingReady, _ | .starting, _ |
    .lockingFinish _, _ | .checkingFinished _, _ | .waitingFinished _, _ => trivial

namespace Records

variable {state : State} {calls : ℕ → ℕ}

theorem lockGate (records : Records host calls state) (actor : Actor) :
    Records host calls (state.lockGate actor) :=
  ⟨records.worker, records.main⟩

theorem unlockGate (records : Records host calls state) : Records host calls state.unlockGate :=
  ⟨records.worker, records.main⟩

theorem setGate (records : Records host calls state) (data : StartState) :
    Records host calls (state.setGate data) :=
  ⟨records.worker, records.main⟩

theorem lockFinish (records : Records host calls state) (actor : Actor) :
    Records host calls (state.lockFinish actor) :=
  ⟨records.worker, records.main⟩

theorem unlockFinish (records : Records host calls state) :
    Records host calls state.unlockFinish :=
  ⟨records.worker, records.main⟩

theorem setFinish (records : Records host calls state) (data : FinishState) :
    Records host calls (state.setFinish data) :=
  ⟨records.worker, records.main⟩

theorem setOrigin (records : Records host calls state) (runStart : ℕ) :
    Records host calls (state.setOrigin runStart) :=
  ⟨records.worker, records.main⟩

theorem moveMain (records : Records host calls state) {pc : MainPc}
    (main : MainRecords host state.result pc) : Records host calls (state.moveMain pc) :=
  ⟨records.worker, main⟩

theorem notifyGate (records : Records host calls state) : Records host calls state.notifyGate := by
  refine ⟨fun tid => (records.worker tid).notifyGate,
    records.main.notifyGate.mono fun tid ended => ?_⟩
  simp [State.result, State.notifyGate]

theorem notifyFinish (records : Records host calls state) :
    Records host calls state.notifyFinish := by
  refine ⟨fun tid => (records.worker tid).notifyFinish,
    records.main.notifyFinish.mono fun tid ended => ?_⟩
  simp [State.result, State.notifyFinish]

theorem worker_move (records : Records host calls state) {tid : ℕ} {pc : WorkerPc}
    (worker : WorkerRecords host tid (calls tid) pc) (other : ℕ) :
    WorkerRecords host other (calls other) ((state.moveWorker tid pc).worker other) := by
  exact (Function.forall_update_iff state.worker fun other => WorkerRecords host other
    (calls other)).mpr ⟨worker, fun other _ => records.worker other⟩ other

theorem main_move (records : Records host calls state) {tid : ℕ} (pc : WorkerPc)
    (running : state.result tid = none) :
    MainRecords host (state.moveWorker tid pc).result state.main := by
  refine records.main.mono fun other ended finished => ?_
  have ne : other ≠ tid := by
    rintro rfl
    simp [running] at finished
  simpa [State.result, State.moveWorker, ne] using finished

/-- A worker which has not terminated moves without a call. -/
theorem moveWorker (records : Records host calls state) {tid : ℕ} {pc : WorkerPc}
    (worker : WorkerRecords host tid (calls tid) pc) (running : state.result tid = none) :
    Records host calls (state.moveWorker tid pc) :=
  ⟨records.worker_move worker, records.main_move pc running⟩

theorem callRunner (records : Records host calls state) {tid : ℕ} {pc : WorkerPc}
    (worker : WorkerRecords host tid (calls tid + 1) pc) (running : state.result tid = none) :
    Records host (Function.update calls tid (calls tid + 1)) (state.moveWorker tid pc) := by
  refine ⟨fun other => ?_, records.main_move pc running⟩
  rcases eq_or_ne other tid with rfl | ne
  · simpa [State.moveWorker] using worker
  · simpa [State.moveWorker, ne] using records.worker other

theorem notifyWorker (records : Records host calls state) (tid : ℕ) :
    Records host calls
      (state.moveWorker tid (state.worker tid).notifyGate.notifyFinish) := by
  cases ended : state.result tid with
  | none => exact records.moveWorker (records.worker tid).notifyGate.notifyFinish ended
  | some result =>
      have done := WorkerPc.eq_done ended
      have same : (state.worker tid).notifyGate.notifyFinish = state.worker tid := by
        rw [done]
        rfl
      rwa [same, State.moveWorker, Function.update_eq_self]

end Records

theorem records_init : Records host (fun _ => 0) .init :=
  ⟨fun _ => rfl, trivial⟩

theorem WorkerRecords.insideGate {tid calls : ℕ} {pc inside : WorkerPc}
    (records : WorkerRecords host tid calls pc) (entered : pc.insideGate = some inside) :
    WorkerRecords host tid calls inside ∧ host.calling tid pc = false ∧ pc.result? = none := by
  cases pc <;> simp only [WorkerPc.insideGate, Option.some.injEq, reduceCtorEq] at entered <;>
    subst entered <;> exact ⟨records, rfl, rfl⟩

theorem WorkerRecords.insideFinish {tid calls : ℕ} {pc inside : WorkerPc}
    (records : WorkerRecords host tid calls pc) (entered : pc.insideFinish = some inside) :
    WorkerRecords host tid calls inside ∧ host.calling tid pc = false ∧ pc.result? = none := by
  cases pc <;> simp only [WorkerPc.insideFinish, Option.some.injEq, reduceCtorEq] at entered <;>
    subst entered <;> exact ⟨records, rfl, rfl⟩

theorem records_step {before after : State} {label : Label} {calls : ℕ → ℕ}
    (records : Records host calls before) (spawned : Spawned host before)
    (step : Step host before label after) :
    Records host (host.noteCall before label calls) after := by
  have running : ∀ {tid pc}, before.worker tid = pc → pc.result? = none →
      before.result tid = none := by
    intro tid pc at_pc unfinished
    rw [State.result, at_pc, unfinished]
  have quiet : ∀ {tid pc}, before.worker tid = pc → host.calling tid pc = false →
      host.noteCall before (.run (.worker tid)) calls = calls := by
    intro tid pc at_pc silent
    simp [Host.noteCall, at_pc, silent]
  have recorded : ∀ {tid pc}, before.worker tid = pc → WorkerRecords host tid (calls tid) pc := by
    rintro tid _ rfl
    exact records.worker tid
  have collected : ∀ {pc}, before.main = pc → MainRecords host before.result pc := by
    rintro _ rfl
    exact records.main
  cases step with
  | @spawn tid at_pc more =>
      have fresh := spawned.fresh tid (by simp [at_pc, MainPc.spawned])
      have worker := recorded fresh
      exact ⟨records.worker_move worker, trivial⟩
  | spawned at_pc all => exact records.moveMain trivial
  | mainLockGate at_pc free => exact (records.lockGate _).moveMain trivial
  | awaitReady at_pc unready => exact records.unlockGate.moveMain trivial
  | ready at_pc ready => exact records.moveMain trivial
  | captureFailed at_pc failed => exact records.unlockGate.moveMain trivial
  | originTaken at_pc captured healthy taken => exact records.unlockGate.moveMain trivial
  | start at_pc captured healthy unset =>
      exact (((records.setOrigin _).setGate _).notifyGate.unlockGate).moveMain trivial
  | giveUp at_pc captured failed =>
      exact records.notifyGate.unlockGate.moveMain ⟨Nat.zero_le _, .nil⟩
  | mainLockFinish at_pc free => exact (records.lockFinish _).moveMain trivial
  | awaitFinished at_pc unfinished => exact records.unlockFinish.moveMain trivial
  | release at_pc finished =>
      refine ((records.setFinish _).notifyFinish.unlockFinish).moveMain ?_
      rw [Host.afterRelease]
      cases host.totalAfter with
      | error err => trivial
      | ok totalAfter => exact ⟨Nat.zero_le _, .nil⟩
  | join at_pc more finished =>
      have keys := recorded finished
      refine records.moveMain ⟨more, (collected at_pc).2.append ?_ keys.2⟩
      rw [State.result, finished]
      rfl
  | joinFailed at_pc more failed => exact records.moveMain trivial
  | @joined usage tid allResults at_pc all =>
      obtain ⟨le, collected⟩ := collected at_pc
      have whole := le_antisymm le all
      subst whole
      cases usage with
      | none => exact records.moveMain trivial
      | some usage => exact records.moveMain collected
  | prepared at_pc prepared =>
      have worker := recorded at_pc
      rw [quiet at_pc rfl]
      exact records.moveWorker worker (running at_pc rfl)
  | prepareFailed at_pc failed =>
      have worker := recorded at_pc
      rw [quiet at_pc rfl]
      exact records.moveWorker worker (running at_pc rfl)
  | workerLockGate at_pc free =>
      obtain ⟨worker, silent, unfinished⟩ := (records.worker _).insideGate at_pc
      rw [quiet rfl silent]
      exact (records.lockGate _).moveWorker worker unfinished
  | reportFailure at_pc =>
      have none : calls _ = 0 := recorded at_pc
      rw [quiet at_pc rfl]
      refine ((records.setGate _).notifyGate.unlockGate).moveWorker (none ▸ Nat.zero_le _) ?_
      simpa [State.result, State.unlockGate, State.notifyGate, State.setGate]
        using running at_pc rfl
  | announce at_pc =>
      have worker := recorded at_pc
      rw [quiet at_pc rfl]
      refine ((records.setGate _).notifyGate).moveWorker worker ?_
      simpa [State.result, State.notifyGate, State.setGate] using running at_pc rfl
  | awaitStart at_pc unstarted healthy =>
      have worker := recorded at_pc
      rw [quiet at_pc rfl]
      exact records.unlockGate.moveWorker worker (running at_pc rfl)
  | seeFailure at_pc failed =>
      rw [quiet at_pc rfl]
      have none : calls _ = 0 := recorded at_pc
      exact records.unlockGate.moveWorker (none ▸ Nat.zero_le _) (running at_pc rfl)
  | pass at_pc started healthy =>
      have worker := recorded at_pc
      rw [quiet at_pc rfl]
      exact records.unlockGate.moveWorker worker (running at_pc rfl)
  | originMissing at_pc unset =>
      rw [quiet at_pc rfl]
      have none : calls _ = 0 := recorded at_pc
      exact records.moveWorker (none ▸ Nat.zero_le _) (running at_pc rfl)
  | loadOrigin at_pc set =>
      rw [quiet at_pc rfl]
      exact records.moveWorker ⟨recorded at_pc, Nat.zero_le _, rfl⟩ (running at_pc rfl)
  | @operate tid runner origin iter results sample at_pc more measured =>
      obtain ⟨counted, _, keys⟩ := recorded at_pc
      have calling : host.calling tid (before.worker tid) = true := by
        simp [at_pc, Host.calling, more, Call.made_of_measured measured]
      simp only [Host.noteCall, calling, if_true]
      refine records.callRunner ⟨by rw [counted], more, ?_⟩ (running at_pc rfl)
      rw [RunConfig.keys_succ, List.map_append, keys]
      rfl
  | @operateFailed tid runner origin iter results err at_pc more failed =>
      obtain ⟨counted, _, keys⟩ := recorded at_pc
      simp only [Host.noteCall]
      split
      · exact records.callRunner (show calls tid + 1 ≤ _ by omega) (running at_pc rfl)
      · exact records.moveWorker (show calls tid ≤ _ by omega) (running at_pc rfl)
  | @operated tid runner origin iter results at_pc all =>
      obtain ⟨counted, le, keys⟩ := recorded at_pc
      have silent : host.calling tid (.running runner origin iter results) = false := by
        simp [Host.calling, all]
      rw [quiet at_pc silent]
      have whole := le_antisymm le all
      subst whole
      exact records.moveWorker ⟨counted, keys⟩ (running at_pc rfl)
  | workerLockFinish at_pc free =>
      obtain ⟨worker, silent, unfinished⟩ := (records.worker _).insideFinish at_pc
      rw [quiet rfl silent]
      exact (records.lockFinish _).moveWorker worker unfinished
  | report at_pc =>
      have worker := recorded at_pc
      rw [quiet at_pc rfl]
      refine ((records.setFinish _).notifyFinish).moveWorker worker ?_
      simpa [State.result, State.notifyFinish, State.setFinish] using running at_pc rfl
  | awaitRelease at_pc unreleased =>
      have worker := recorded at_pc
      rw [quiet at_pc rfl]
      exact records.unlockFinish.moveWorker worker (running at_pc rfl)
  | finish at_pc released =>
      have worker := recorded at_pc
      rw [quiet at_pc rfl]
      exact records.unlockFinish.moveWorker worker (running at_pc rfl)
  | wakeMain => exact records.moveMain records.main.notifyGate.notifyFinish
  | wakeWorker tid => exact records.notifyWorker tid

theorem records_reachable {state : State} {calls : ℕ → ℕ}
    (reachable : (countedCalls host).Reachable (state, calls)) : Records host calls state := by
  refine (reachable.invariant (fun pair => Records host pair.2 pair.1 ∧ Spawned host pair.1)
    ?_ ?_).1
  · rintro ⟨state, calls⟩ ⟨rfl, rfl⟩
    exact ⟨records_init, spawned_init⟩
  · rintro ⟨before, calls⟩ label ⟨after, later⟩ ⟨records, spawned⟩ ⟨step, rfl⟩
    exact ⟨records_step records spawned step, spawned_step spawned step⟩

theorem collected_of_returned {state : State} {output : RunOutput}
    (reachable : (runExternalWithPrepare host).Reachable state)
    (returned : state.main = .returned (.ok output)) :
    Collected host.config state.result host.workers output.measurements := by
  obtain ⟨calls, counted⟩ := reachable.withHistory (fun _ => 0) host.noteCall
  have main := (records_reachable counted).main
  rwa [returned] at main

/-- A run which returns its measurements has called every runner to the end. -/
theorem calls_of_returned {state : State} {calls : ℕ → ℕ} {output : RunOutput}
    (reachable : (countedCalls host).Reachable (state, calls))
    (returned : state.main = .returned (.ok output)) :
    ∀ tid < host.workers, calls tid = host.count tid := by
  intro tid below
  have records := records_reachable reachable
  have main := records.main
  rw [returned] at main
  obtain ⟨results, finished⟩ := main.finished tid below
  have worker := records.worker tid
  rw [WorkerPc.eq_done finished] at worker
  exact worker.1

/-- Completed runs measure every instance once, and no call of a prepared runner finds its queue
empty. -/
theorem completed_run_tiles {config : RunConfig} (total : 1 ≤ config.total)
    (concurrency : 1 ≤ config.concurrency) (usize : config.total < 2 ^ 64) :
    (∀ host : External.Host, host.config = config → ∀ state output,
      (runExternal host).Reachable state → state.main = .returned (.ok output) →
        Tiles config output.measurements) ∧
    ∀ host : Host, host.config = config →
      (∀ state output, (runExternalWithPrepare host).Reachable state →
        state.main = .returned (.ok output) → Tiles config output.measurements) ∧
      ∀ state calls, (countedCalls host).Reachable (state, calls) →
        (∀ output, state.main = .returned (.ok output) →
          ∀ tid < workerCount config, calls tid = config.iterations tid) ∧
        ∀ (Context : Type) (ops : ContextOps Context), host.prepareFn = ops.prepare →
          ∀ tid contexts, ops.contexts ⟨tid, config.iterations tid⟩ = .ok contexts →
            ∀ call < calls tid, ops.queueAfter contexts call ≠ [] := by
  refine ⟨?_, ?_⟩
  · rintro host rfl state output reachable returned
    exact tiles_of_blocks total concurrency usize
      (External.collected_of_returned reachable returned).keys
  · rintro host rfl
    refine ⟨?_, ?_⟩
    · intro state output reachable returned
      exact tiles_of_blocks total concurrency usize (collected_of_returned reachable returned).keys
    · intro state calls reachable
      refine ⟨fun output returned => calls_of_returned reachable returned, ?_⟩
      intro Context ops _ tid contexts filled call called
      have bounded := ((records_reachable reachable).worker tid).calls_le
      exact ops.queueAfter_ne_nil filled (called.trans_le bounded)

/-- `create_firecracker` in namespaces, where nothing fails. -/
def quietOps : ContextOps (CreateFirecracker.FirecrackerContext ℕ) :=
  CreateFirecracker.contextOps (fun _ => .ok ()) (fun _ iteration => .ok iteration)
    (fun _ => .ok ()) (fun _ _ => ⟨.ok unusedSnapshot, 0, .ok (), 0, .ok unusedSnapshot⟩) .full

/-- Two workers with the contexts for three iterations. -/
def pairContexts : Host where
  config := ⟨3, 2, false⟩
  prepareFn worker :=
    CreateFirecracker.prepareWithNetns (fun _ => .ok ()) (fun _ iteration => .ok iteration)
      (fun _ => .ok ()) (fun _ _ => ⟨.ok unusedSnapshot, 0, .ok (), 0, .ok unusedSnapshot⟩)
      worker .full
  totalBefore := .ok unusedSnapshot
  runStart := 0
  elapsed := 0
  totalAfter := .ok unusedSnapshot

/-- Two workers for three operations. -/
def pairOperations : External.Host where
  config := ⟨3, 2, false⟩
  opFn _ _ := ⟨.ok unusedSnapshot, 0, .ok (), 0, .ok unusedSnapshot⟩
  totalBefore := .ok unusedSnapshot
  runStart := 0
  elapsed := 0
  totalAfter := .ok unusedSnapshot

theorem pairOperations_returns : ∃ state output,
    (runExternal pairOperations).Reachable state ∧ state.main = .returned (.ok output) := by
  refine ⟨_, _, ⟨_, _, rfl, .cons (.spawn rfl (by decide)) <| .cons (.spawn rfl (by decide)) <|
    .cons (.spawned rfl (le_refl 2)) <| .cons (@External.Step.workerLockGate _ _ 0 _ rfl rfl) <|
    .cons (@External.Step.announce _ _ 0 rfl) <|
    .cons (@External.Step.awaitStart _ _ 0 rfl rfl rfl) <|
    .cons (@External.Step.workerLockGate _ _ 1 _ rfl rfl) <|
    .cons (@External.Step.announce _ _ 1 rfl) <|
    .cons (@External.Step.awaitStart _ _ 1 rfl rfl rfl) <|
    .cons (.mainLockGate rfl rfl) <| .cons (.ready rfl fun unready => absurd unready.1 ?_) <|
    .cons (.start rfl rfl rfl) <| .cons (@External.Step.workerLockGate _ _ 1 _ rfl rfl) <|
    .cons (@External.Step.pass _ _ 1 rfl rfl rfl) <|
    .cons (@External.Step.loadOrigin _ _ 1 _ rfl rfl) <|
    .cons (@External.Step.workerLockGate _ _ 0 _ rfl rfl) <|
    .cons (@External.Step.pass _ _ 0 rfl rfl rfl) <|
    .cons (@External.Step.loadOrigin _ _ 0 _ rfl rfl) <|
    .cons (@External.Step.operate _ _ 0 _ _ _ _ rfl (by decide) rfl) <|
    .cons (@External.Step.operate _ _ 1 _ _ _ _ rfl (by decide) rfl) <|
    .cons (@External.Step.operated _ _ 1 _ _ _ rfl (le_refl 1)) <|
    .cons (@External.Step.operate _ _ 0 _ _ _ _ rfl (by decide) rfl) <|
    .cons (@External.Step.operated _ _ 0 _ _ _ rfl (le_refl 2)) <|
    .cons (.join rfl (by decide) rfl) <| .cons (.join rfl (by decide) rfl) <|
    .cons (.joined rfl (le_refl 2)) <| .nil _⟩, rfl⟩
  decide

theorem pairContexts_returns : ∃ state output,
    (runExternalWithPrepare pairContexts).Reachable state ∧
      state.main = .returned (.ok output) := by
  refine ⟨_, _, ⟨_, _, rfl, .cons (.spawn rfl (by decide)) <| .cons (.spawn rfl (by decide)) <|
    .cons (.spawned rfl (le_refl 2)) <| .cons (@Step.prepared _ _ 1 _ rfl rfl) <|
    .cons (@Step.prepared _ _ 0 _ rfl rfl) <| .cons (@Step.workerLockGate _ _ 0 _ rfl rfl) <|
    .cons (@Step.announce _ _ 0 _ rfl) <| .cons (@Step.awaitStart _ _ 0 _ rfl rfl rfl) <|
    .cons (@Step.workerLockGate _ _ 1 _ rfl rfl) <| .cons (@Step.announce _ _ 1 _ rfl) <|
    .cons (@Step.awaitStart _ _ 1 _ rfl rfl rfl) <| .cons (.mainLockGate rfl rfl) <|
    .cons (.ready rfl fun unready => absurd unready.1 ?_) <| .cons (.start rfl rfl rfl rfl) <|
    .cons (@Step.workerLockGate _ _ 1 _ rfl rfl) <| .cons (@Step.pass _ _ 1 _ rfl rfl rfl) <|
    .cons (@Step.loadOrigin _ _ 1 _ _ rfl rfl) <| .cons (@Step.workerLockGate _ _ 0 _ rfl rfl) <|
    .cons (@Step.pass _ _ 0 _ rfl rfl rfl) <| .cons (@Step.loadOrigin _ _ 0 _ _ rfl rfl) <|
    .cons (@Step.operate _ _ 0 _ _ _ _ _ rfl (by decide) rfl) <|
    .cons (@Step.operate _ _ 1 _ _ _ _ _ rfl (by decide) rfl) <|
    .cons (@Step.operated _ _ 1 _ _ _ _ rfl (le_refl 1)) <|
    .cons (@Step.workerLockFinish _ _ 1 _ rfl rfl) <| .cons (@Step.report _ _ 1 _ rfl) <|
    .cons (@Step.awaitRelease _ _ 1 _ rfl rfl) <|
    .cons (@Step.operate _ _ 0 _ _ _ _ _ rfl (by decide) rfl) <|
    .cons (@Step.operated _ _ 0 _ _ _ _ rfl (le_refl 2)) <|
    .cons (@Step.workerLockFinish _ _ 0 _ rfl rfl) <| .cons (@Step.report _ _ 0 _ rfl) <|
    .cons (@Step.awaitRelease _ _ 0 _ rfl rfl) <| .cons (.mainLockFinish rfl rfl) <|
    .cons (.release rfl (le_refl 2)) <| .cons (@Step.workerLockFinish _ _ 1 _ rfl rfl) <|
    .cons (@Step.finish _ _ 1 _ rfl rfl) <| .cons (@Step.workerLockFinish _ _ 0 _ rfl rfl) <|
    .cons (@Step.finish _ _ 0 _ rfl rfl) <| .cons (.join rfl (by decide) rfl) <|
    .cons (.join rfl (by decide) rfl) <| .cons (.joined rfl (le_refl 2)) <| .nil _⟩, rfl⟩
  decide

theorem completed_run_tiles_pair :
    (∃ state output, (runExternal pairOperations).Reachable state ∧
      state.main = .returned (.ok output) ∧ Tiles ⟨3, 2, false⟩ output.measurements) ∧
    ∃ state calls output, (countedCalls pairContexts).Reachable (state, calls) ∧
      state.main = .returned (.ok output) ∧ Tiles ⟨3, 2, false⟩ output.measurements ∧
      calls 0 = 2 ∧ calls 1 = 1 ∧ ∃ contexts, quietOps.contexts ⟨0, 2⟩ = .ok contexts ∧
        ∀ call < 2, quietOps.queueAfter contexts call ≠ [] := by
  obtain ⟨external, prepare⟩ := @completed_run_tiles ⟨3, 2, false⟩ (by decide) (by decide)
    (by decide)
  obtain ⟨first, output, reachable, returned⟩ := pairOperations_returns
  refine ⟨⟨first, output, reachable, returned, external _ rfl _ _ reachable returned⟩, ?_⟩
  obtain ⟨state, output, reachable, returned⟩ := pairContexts_returns
  obtain ⟨calls, counted⟩ := reachable.withHistory (fun _ => 0) pairContexts.noteCall
  obtain ⟨tiled, called⟩ := prepare pairContexts rfl
  obtain ⟨exact, filled⟩ := called state calls counted
  have twice : calls 0 = 2 := exact output returned 0 (by decide)
  have once : calls 1 = 1 := exact output returned 1 (by decide)
  refine ⟨state, calls, output, counted, returned, tiled state output reachable returned, twice,
    once, _, rfl, fun call below => ?_⟩
  exact filled _ quietOps rfl 0 _ rfl call (twice.symm ▸ below)

end Bench
end HermOS
