import HermOS.Bench.RunExternal
import HermOS.Library.EvenSplit

/-!
# The instances of a run

A worker's iterations are a block of an even split of the instances, and the main thread collects
the blocks in the order in which it joins the workers.  A completed run therefore measures every
instance once.
-/

namespace HermOS
namespace Bench

/-! ### Blocks -/

/-- Thread, iteration and instance. -/
def Measurement.key (measurement : Measurement) : ℕ × ℕ × ℕ :=
  (measurement.threadId, measurement.iteration, measurement.instanceId)

namespace RunConfig

variable (config : RunConfig)

def iterations (tid : ℕ) : ℕ :=
  iterationCount config.total (workerCount config) tid

/-- First instance of a worker. -/
def offset (tid : ℕ) : ℕ :=
  iterationOffset config.total (workerCount config) tid

/-- The keys of a worker's first measurements. -/
def keys (tid count : ℕ) : List (ℕ × ℕ × ℕ) :=
  (List.range count).map fun iter => (tid, iter, config.offset tid + iter)

theorem keys_succ (tid count : ℕ) :
    config.keys tid (count + 1) =
      config.keys tid count ++ [(tid, count, config.offset tid + count)] := by
  simp [keys, List.range_succ]

theorem keys_instances (tid count : ℕ) :
    (config.keys tid count).map (·.2.2) = List.range' (config.offset tid) count := by
  rw [keys, List.map_map, List.range'_eq_map_range]
  rfl

/-- The keys of the first workers. -/
def blocks (count : ℕ) : List (ℕ × ℕ × ℕ) :=
  (List.range count).flatMap fun tid => config.keys tid (config.iterations tid)

theorem blocks_succ (count : ℕ) :
    config.blocks (count + 1) = config.blocks count ++ config.keys count (config.iterations count)
    := by
  simp [blocks, List.range_succ]

theorem mem_keys {tid count : ℕ} {key : ℕ × ℕ × ℕ} (member : key ∈ config.keys tid count) :
    key.1 = tid := by
  obtain ⟨iter, _, rfl⟩ := List.mem_map.mp member
  rfl

theorem mem_blocks {count : ℕ} {key : ℕ × ℕ × ℕ} (member : key ∈ config.blocks count) :
    key.1 < count := by
  obtain ⟨tid, below, inside⟩ := List.mem_flatMap.mp member
  rw [config.mem_keys inside]
  exact List.mem_range.mp below

/-- The measurements of one thread are its block. -/
theorem blocks_filter {tid count : ℕ} (below : tid < count) :
    (config.blocks count).filter (·.1 = tid) = config.keys tid (config.iterations tid) := by
  have absent : ∀ other, other ≠ tid →
      (config.keys other (config.iterations other)).filter (·.1 = tid) = [] := by
    intro other ne
    rw [List.filter_eq_nil_iff]
    intro key member
    simpa [config.mem_keys member] using ne
  have present : (config.keys tid (config.iterations tid)).filter (·.1 = tid) =
      config.keys tid (config.iterations tid) := by
    rw [List.filter_eq_self]
    intro key member
    simpa using config.mem_keys member
  induction count with
  | zero => omega
  | succ count ih =>
      rw [blocks_succ, List.filter_append]
      rcases Nat.lt_succ_iff_lt_or_eq.mp below with inside | rfl
      · rw [ih inside, absent count (by omega), List.append_nil]
      · have earlier : (config.blocks tid).filter (·.1 = tid) = [] := by
          rw [List.filter_eq_nil_iff]
          intro key member
          simpa using (config.mem_blocks member).ne
        rw [earlier, present, List.nil_append]

theorem iterations_eq (tid : ℕ) :
    config.iterations tid = EvenSplit.size config.total (workerCount config) tid :=
  rfl

/-- The saturating arithmetic does not saturate. -/
theorem offset_eq {tid : ℕ} (workers : 0 < workerCount config) (usize : config.total < 2 ^ 64)
    (le : tid ≤ workerCount config) :
    config.offset tid = EvenSplit.start config.total (workerCount config) tid := by
  have inside := EvenSplit.start_le_start config.total (workerCount config) le
  rw [EvenSplit.start_parts _ _ workers] at inside
  simp only [EvenSplit.start] at inside ⊢
  simp only [offset, iterationOffset, saturatingAdd, saturatingMul, u64Max]
  omega

end RunConfig

/-- What the caller of a completed run gets. -/
structure Tiles (config : RunConfig) (measurements : List Measurement) : Prop where
  total : measurements.length = config.total
  instances : (measurements.map (·.instanceId)).Perm (List.range config.total)
  threads : ∀ measurement ∈ measurements, measurement.threadId < workerCount config
  block : ∀ tid < workerCount config,
    (measurements.filter (·.threadId = tid)).map (fun measurement =>
      (measurement.iteration, measurement.instanceId)) =
        (List.range (config.iterations tid)).map fun iter => (iter, config.offset tid + iter)
  positive : ∀ tid < workerCount config, 1 ≤ config.iterations tid
  adjacent : ∀ tid, tid + 1 < workerCount config →
    config.offset (tid + 1) = config.offset tid + config.iterations tid
  balanced : ∀ tid < workerCount config, ∀ other < workerCount config,
    config.iterations tid ≤ config.iterations other + 1

theorem tiles_of_blocks {config : RunConfig} {measurements : List Measurement}
    (total : 1 ≤ config.total) (concurrency : 1 ≤ config.concurrency)
    (usize : config.total < 2 ^ 64)
    (collected : measurements.map Measurement.key = config.blocks (workerCount config)) :
    Tiles config measurements := by
  have workers : 0 < workerCount config := Nat.lt_min.mpr ⟨concurrency, total⟩
  have fewer : workerCount config ≤ config.total := Nat.min_le_right _ _
  have instances : measurements.map (·.instanceId) = List.range config.total := by
    calc
      measurements.map (·.instanceId) = (measurements.map Measurement.key).map (·.2.2) := by
        rw [List.map_map]
        rfl
      _ = (List.range (workerCount config)).flatMap fun tid =>
          List.range' (config.offset tid) (config.iterations tid) := by
        simp only [collected, RunConfig.blocks, List.map_flatMap, RunConfig.keys_instances]
      _ = (List.range (workerCount config)).flatMap fun tid =>
          List.range' (EvenSplit.start config.total (workerCount config) tid)
            (EvenSplit.size config.total (workerCount config) tid) := by
        refine List.flatMap_congr fun tid below => ?_
        rw [config.offset_eq workers usize (List.mem_range.mp below).le, config.iterations_eq]
      _ = List.range config.total := by
        rw [EvenSplit.flatMap_blocks, EvenSplit.start_parts _ _ workers]
  refine ⟨?_, .of_eq instances, ?_, ?_, ?_, ?_, ?_⟩
  · simpa using congrArg List.length instances
  · intro measurement member
    have key : measurement.key ∈ config.blocks (workerCount config) :=
      collected ▸ List.mem_map_of_mem member
    exact config.mem_blocks key
  · intro tid below
    have own : (measurements.filter (·.threadId = tid)).map Measurement.key =
        config.keys tid (config.iterations tid) := by
      rw [← config.blocks_filter below, ← collected, List.filter_map]
      rfl
    have dropped := congrArg (List.map Prod.snd) own
    rw [RunConfig.keys, List.map_map, List.map_map] at dropped
    exact dropped
  · exact fun tid below => EvenSplit.size_pos _ _ fewer below
  · intro tid below
    rw [config.offset_eq workers usize below.le, config.offset_eq workers usize (by omega)]
    exact EvenSplit.start_succ _ _ tid
  · exact fun tid _ other _ => EvenSplit.size_le_size_succ _ _ tid other

/-! ### The join loop -/

/-- The main thread has joined the first workers, all of them with their measurements. -/
structure Collected (config : RunConfig) (result : ℕ → Option ThreadResult) (count : ℕ)
    (allResults : List Measurement) : Prop where
  finished : ∀ tid < count, ∃ results, result tid = some (.ok results)
  keys : allResults.map Measurement.key = config.blocks count

namespace Collected

variable {config : RunConfig} {result later : ℕ → Option ThreadResult} {count : ℕ}
  {allResults results : List Measurement}

theorem nil : Collected config result 0 [] :=
  ⟨fun _ below => absurd below (by omega), rfl⟩

theorem mono (collected : Collected config result count allResults)
    (settled : ∀ tid ended, result tid = some ended → later tid = some ended) :
    Collected config later count allResults := by
  refine ⟨fun tid below => ?_, collected.keys⟩
  obtain ⟨results, finished⟩ := collected.finished tid below
  exact ⟨results, settled tid _ finished⟩

theorem append (collected : Collected config result count allResults)
    (finished : result count = some (.ok results))
    (keys : results.map Measurement.key = config.keys count (config.iterations count)) :
    Collected config result (count + 1) (allResults ++ results) := by
  refine ⟨fun tid below => ?_, ?_⟩
  · rcases Nat.lt_succ_iff_lt_or_eq.mp below with earlier | rfl
    · exact collected.finished tid earlier
    · exact ⟨results, finished⟩
  · rw [List.map_append, collected.keys, keys, RunConfig.blocks_succ]

end Collected

/-! ### `run_external` -/

namespace External

/-- What a terminated worker returned. -/
def WorkerPc.result? : WorkerPc → Option ThreadResult
  | .done result => some result
  | _ => none

@[simp] theorem WorkerPc.result?_notify (pc : WorkerPc) : pc.notify.result? = pc.result? := by
  cases pc <;> rfl

theorem WorkerPc.result?_of_insideGate {pc inside : WorkerPc}
    (entered : pc.insideGate = some inside) : pc.result? = none := by
  cases pc <;> simp [WorkerPc.insideGate] at entered <;> rfl

theorem WorkerPc.eq_done {pc : WorkerPc} {result : ThreadResult}
    (ended : pc.result? = some result) : pc = .done result := by
  cases pc <;> simp_all [WorkerPc.result?]

/-- What every terminated worker returned. -/
def State.result (state : State) (tid : ℕ) : Option ThreadResult :=
  (state.worker tid).result?

variable {host : Host}

def WorkerRecords (host : Host) (tid : ℕ) : WorkerPc → Prop
  | .running _ iter results =>
      iter ≤ host.count tid ∧ results.map Measurement.key = host.config.keys tid iter
  | .done (.ok results) => results.map Measurement.key = host.config.keys tid (host.count tid)
  | _ => True

/-- What the main thread has collected. -/
def MainRecords (host : Host) (result : ℕ → Option ThreadResult) : MainPc → Prop
  | .joining _ tid allResults =>
      tid ≤ host.workers ∧ Collected host.config result tid allResults
  | .returned (.ok output) => Collected host.config result host.workers output.measurements
  | _ => True

structure Records (host : Host) (state : State) : Prop where
  worker : ∀ tid, WorkerRecords host tid (state.worker tid)
  main : MainRecords host state.result state.main

theorem WorkerRecords.notify {tid : ℕ} {pc : WorkerPc} (records : WorkerRecords host tid pc) :
    WorkerRecords host tid pc.notify := by
  cases pc <;> exact records

theorem MainRecords.notify {result : ℕ → Option ThreadResult} {pc : MainPc}
    (records : MainRecords host result pc) : MainRecords host result pc.notify := by
  cases pc <;> exact records

theorem MainRecords.mono {result later : ℕ → Option ThreadResult} {pc : MainPc}
    (records : MainRecords host result pc)
    (settled : ∀ tid ended, result tid = some ended → later tid = some ended) :
    MainRecords host later pc := by
  match pc, records with
  | .joining _ _ _, records => exact ⟨records.1, records.2.mono settled⟩
  | .returned (.ok _), records => exact Collected.mono records settled
  | .returned (.error _), _ => trivial
  | .spawning _, _ | .lockingGate, _ | .checkingReady, _ | .waitingReady, _ | .starting, _ =>
      trivial

namespace Records

variable {state : State}

theorem lockGate (records : Records host state) (actor : Actor) :
    Records host (state.lockGate actor) :=
  ⟨records.worker, records.main⟩

theorem unlockGate (records : Records host state) : Records host state.unlockGate :=
  ⟨records.worker, records.main⟩

theorem setGate (records : Records host state) (data : StartState) :
    Records host (state.setGate data) :=
  ⟨records.worker, records.main⟩

theorem setOrigin (records : Records host state) (runStart : ℕ) :
    Records host (state.setOrigin runStart) :=
  ⟨records.worker, records.main⟩

theorem moveMain (records : Records host state) {pc : MainPc}
    (main : MainRecords host state.result pc) : Records host (state.moveMain pc) :=
  ⟨records.worker, main⟩

theorem notify (records : Records host state) : Records host state.notify := by
  refine ⟨fun tid => (records.worker tid).notify, records.main.notify.mono fun tid ended => ?_⟩
  simp [State.result, State.notify]

theorem worker_move (records : Records host state) {tid : ℕ} {pc : WorkerPc}
    (worker : WorkerRecords host tid pc) (other : ℕ) :
    WorkerRecords host other ((state.moveWorker tid pc).worker other) := by
  exact (Function.forall_update_iff state.worker (WorkerRecords host)).mpr
    ⟨worker, fun other _ => records.worker other⟩ other

theorem moveWorker (records : Records host state) {tid : ℕ} {pc : WorkerPc}
    (worker : WorkerRecords host tid pc) (running : state.result tid = none) :
    Records host (state.moveWorker tid pc) := by
  refine ⟨records.worker_move worker, records.main.mono fun other ended finished => ?_⟩
  have ne : other ≠ tid := by
    rintro rfl
    simp [running] at finished
  simpa [State.result, State.moveWorker, ne] using finished

theorem notifyWorker (records : Records host state) (tid : ℕ) :
    Records host (state.moveWorker tid (state.worker tid).notify) := by
  cases ended : state.result tid with
  | none => exact records.moveWorker (records.worker tid).notify ended
  | some result =>
      have done := WorkerPc.eq_done ended
      have same : (state.worker tid).notify = state.worker tid := by
        rw [done]
        rfl
      rwa [same, State.moveWorker, Function.update_eq_self]

end Records

theorem records_init : Records host .init :=
  ⟨fun _ => trivial, trivial⟩

theorem records_step {before after : State} {label : Label} (records : Records host before)
    (step : Step host before label after) : Records host after := by
  have running : ∀ {tid pc}, before.worker tid = pc → pc.result? = none →
      before.result tid = none := by
    intro tid pc at_pc unfinished
    rw [State.result, at_pc, unfinished]
  cases step with
  | spawn at_pc more => exact ⟨records.worker_move trivial, trivial⟩
  | spawned at_pc all => exact records.moveMain trivial
  | mainLockGate at_pc free => exact (records.lockGate _).moveMain trivial
  | awaitReady at_pc unready => exact records.unlockGate.moveMain trivial
  | ready at_pc ready => exact records.moveMain trivial
  | captureFailed at_pc failed => exact records.unlockGate.moveMain trivial
  | originTaken at_pc captured taken => exact records.unlockGate.moveMain trivial
  | start at_pc captured unset =>
      exact (((records.setOrigin _).setGate _).notify.unlockGate).moveMain
        ⟨Nat.zero_le _, .nil⟩
  | @join totalBefore tid allResults threadResults at_pc more finished =>
      have main := records.main
      rw [at_pc] at main
      have keys := records.worker tid
      rw [finished] at keys
      refine records.moveMain ⟨more, main.2.append ?_ keys⟩
      rw [State.result, finished]
      rfl
  | joinFailed at_pc more failed => exact records.moveMain trivial
  | joined at_pc all =>
      have main := records.main
      rw [at_pc] at main
      obtain ⟨le, collected⟩ := main
      have whole := le_antisymm le all
      subst whole
      refine records.moveMain ?_
      rw [Host.output]
      cases host.totalAfter with
      | error err => trivial
      | ok totalAfter => exact collected
  | @workerLockGate tid inside at_pc free =>
      have recorded : WorkerRecords host tid inside := by
        cases at_worker : before.worker tid <;>
          simp only [at_worker, WorkerPc.insideGate, Option.some.injEq, reduceCtorEq] at at_pc <;>
          subst at_pc <;> trivial
      exact (records.lockGate _).moveWorker recorded (WorkerPc.result?_of_insideGate at_pc)
  | announce at_pc =>
      refine ((records.setGate _).notify).moveWorker trivial ?_
      simpa [State.result, State.notify, State.setGate] using running at_pc rfl
  | awaitStart at_pc unstarted healthy =>
      exact records.unlockGate.moveWorker trivial (running at_pc rfl)
  | seeFailure at_pc failed => exact records.unlockGate.moveWorker trivial (running at_pc rfl)
  | pass at_pc started healthy =>
      exact records.unlockGate.moveWorker trivial (running at_pc rfl)
  | originMissing at_pc unset => exact records.moveWorker trivial (running at_pc rfl)
  | loadOrigin at_pc set =>
      exact records.moveWorker ⟨Nat.zero_le _, rfl⟩ (running at_pc rfl)
  | @operate tid origin iter results sample at_pc more measured =>
      have keys := records.worker tid
      rw [at_pc] at keys
      refine records.moveWorker ⟨more, ?_⟩ (running at_pc rfl)
      rw [RunConfig.keys_succ, List.map_append, keys.2]
      rfl
  | operateFailed at_pc more failed => exact records.moveWorker trivial (running at_pc rfl)
  | @operated tid origin iter results at_pc all =>
      have keys := records.worker tid
      rw [at_pc] at keys
      obtain ⟨le, keys⟩ := keys
      refine records.moveWorker ?_ (running at_pc rfl)
      rw [WorkerRecords, keys, le_antisymm le all]
  | wakeMain => exact records.moveMain records.main.notify
  | wakeWorker tid => exact records.notifyWorker tid

/-- A run which returns its measurements has collected every worker's. -/
theorem collected_of_returned {state : State} {output : RunOutput}
    (reachable : (runExternal host).Reachable state)
    (returned : state.main = .returned (.ok output)) :
    Collected host.config state.result host.workers output.measurements := by
  have records : Records host state := by
    refine reachable.invariant (Records host) ?_ fun records step => records_step records step
    rintro _ rfl
    exact records_init
  have main := records.main
  rwa [returned] at main

end External

end Bench
end HermOS
