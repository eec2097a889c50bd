import HermOS.Bench.PrepareGate

/-!
# The gate of `run_external`

The main thread and its workers as a step machine, at the grain of `run_external_with_prepare`.
There is nothing to prepare and no finish gate: a worker announces itself at once and leaves with
its last operation, and the main thread joins the workers as soon as it has started them.
-/

namespace HermOS
namespace Bench
namespace External

/-- Program points of the main thread. -/
inductive MainPc
  | spawning (tid : ℕ)
  /-- Acquiring the gate, first or after a wake-up. -/
  | lockingGate
  /-- Testing `ready_workers < workers && failure.is_none()`. -/
  | checkingReady
  | waitingReady
  | starting
  | joining (totalBefore : UsageSnapshot) (tid : ℕ) (allResults : List Measurement)
  | returned (output : Except String RunOutput)

inductive WorkerPc
  | unspawned
  /-- Acquiring the gate for the first time. -/
  | lockingReady
  | announcing
  /-- Testing `!start && failure.is_none()`, then `failure`. -/
  | checkingStart
  | waitingStart
  /-- Acquiring the gate after a wake-up. -/
  | lockingStart
  /-- Reading `run_origin`. -/
  | loadingOrigin
  | running (runOrigin : ℕ) (iter : ℕ) (results : List Measurement)
  | done (result : ThreadResult)

def MainPc.notify : MainPc → MainPc
  | .waitingReady => .lockingGate
  | pc => pc

def WorkerPc.notify : WorkerPc → WorkerPc
  | .waitingStart => .lockingStart
  | pc => pc

/-- Where a worker continues once it has acquired the gate. -/
def WorkerPc.insideGate : WorkerPc → Option WorkerPc
  | .lockingReady => some .announcing
  | .lockingStart => some .checkingStart
  | _ => none

/-- The shared data and all threads. -/
structure State where
  gate : Mutex StartState
  runOrigin : Option ℕ
  main : MainPc
  worker : ℕ → WorkerPc

namespace State

/-- The state before the first worker is spawned. -/
def init : State where
  gate := ⟨none, ⟨0, false, none⟩⟩
  runOrigin := none
  main := .spawning 0
  worker _ := .unspawned

def moveMain (state : State) (pc : MainPc) : State :=
  { state with main := pc }

def moveWorker (state : State) (tid : ℕ) (pc : WorkerPc) : State :=
  { state with worker := Function.update state.worker tid pc }

def lockGate (state : State) (actor : Actor) : State :=
  { state with gate := { state.gate with owner := some actor } }

def unlockGate (state : State) : State :=
  { state with gate := { state.gate with owner := none } }

/-- Write the data of the gate. -/
def setGate (state : State) (data : StartState) : State :=
  { state with gate := { state.gate with data } }

def notify (state : State) : State :=
  { state with main := state.main.notify, worker := fun tid => (state.worker tid).notify }

def setOrigin (state : State) (runStart : ℕ) : State :=
  { state with runOrigin := some runStart }

end State

/-- What a run depends on besides the order of its steps. -/
structure Host where
  config : RunConfig
  /-- The calls of `op_fn` by a worker. -/
  opFn : ℕ → PreparedRunner
  /-- `capture_current_process_usage()` at the gate. -/
  totalBefore : Except String UsageSnapshot
  /-- `Instant::now()` at the gate. -/
  runStart : ℕ
  /-- `run_start.elapsed()` after the joins. -/
  elapsed : ℕ
  /-- `capture_current_process_usage()` after the joins. -/
  totalAfter : Except String UsageSnapshot

namespace Host

variable (host : Host)

def workers : ℕ :=
  workerCount host.config

/-- Iterations of a worker. -/
def count (tid : ℕ) : ℕ :=
  iterationCount host.config.total host.workers tid

/-- First instance of a worker. -/
def offset (tid : ℕ) : ℕ :=
  iterationOffset host.config.total host.workers tid

/-- The measurement of one iteration. -/
def measure (runOrigin tid iter : ℕ) : Except String (ℕ × ℕ × UsageDelta) :=
  measureOperation runOrigin host.config.measurePerOpUsage (host.opFn tid iter)

/-- The result of one iteration. -/
def record (tid iter : ℕ) (sample : ℕ × ℕ × UsageDelta) : Measurement :=
  sample.2.2.intoMeasurement tid iter (host.offset tid + iter) "run" sample.1 sample.2.1

def wallUs : ℕ :=
  asMicros host.elapsed

/-- What the main thread returns once it has joined all workers. -/
def output (totalBefore : UsageSnapshot) (allResults : List Measurement) :
    Except String RunOutput := do
  let totalAfter ← host.totalAfter
  return ⟨allResults, host.wallUs, totalAfter.deltaSince totalBefore host.wallUs⟩

end Host

/-- One step of `run_external` on a given host. -/
inductive Step (host : Host) : State → Label → State → Prop
  | spawn {state : State} {tid : ℕ} (at_pc : state.main = .spawning tid)
      (more : tid < host.workers) :
      Step host state (.run .main)
        ((state.moveWorker tid .lockingReady).moveMain (.spawning (tid + 1)))
  | spawned {state : State} {tid : ℕ} (at_pc : state.main = .spawning tid)
      (all : host.workers ≤ tid) :
      Step host state (.run .main) (state.moveMain .lockingGate)
  | mainLockGate {state : State} (at_pc : state.main = .lockingGate)
      (free : state.gate.owner = none) :
      Step host state (.run .main) ((state.lockGate .main).moveMain .checkingReady)
  | awaitReady {state : State} (at_pc : state.main = .checkingReady)
      (unready : state.gate.data.Unready host.workers) :
      Step host state (.run .main) (state.unlockGate.moveMain .waitingReady)
  | ready {state : State} (at_pc : state.main = .checkingReady)
      (ready : ¬ state.gate.data.Unready host.workers) :
      Step host state (.run .main) (state.moveMain .starting)
  | captureFailed {state : State} {err : String} (at_pc : state.main = .starting)
      (failed : host.totalBefore = .error err) :
      Step host state (.run .main) (state.unlockGate.moveMain (.returned (.error err)))
  | originTaken {state : State} {totalBefore : UsageSnapshot} {origin : ℕ}
      (at_pc : state.main = .starting) (captured : host.totalBefore = .ok totalBefore)
      (taken : state.runOrigin = some origin) :
      Step host state (.run .main)
        (state.unlockGate.moveMain (.returned (.error "run origin already initialized")))
  | start {state : State} {totalBefore : UsageSnapshot}
      (at_pc : state.main = .starting) (captured : host.totalBefore = .ok totalBefore)
      (unset : state.runOrigin = none) :
      Step host state (.run .main)
        (((((state.setOrigin host.runStart).setGate
          { state.gate.data with
            start := state.gate.data.start || state.gate.data.failure.isNone }).notify).unlockGate
              ).moveMain (.joining totalBefore 0 []))
  | join {state : State} {totalBefore : UsageSnapshot} {tid : ℕ}
      {allResults threadResults : List Measurement}
      (at_pc : state.main = .joining totalBefore tid allResults) (more : tid < host.workers)
      (finished : state.worker tid = .done (.ok threadResults)) :
      Step host state (.run .main)
        (state.moveMain (.joining totalBefore (tid + 1) (allResults ++ threadResults)))
  | joinFailed {state : State} {totalBefore : UsageSnapshot} {tid : ℕ}
      {allResults : List Measurement} {err : String}
      (at_pc : state.main = .joining totalBefore tid allResults) (more : tid < host.workers)
      (failed : state.worker tid = .done (.error err)) :
      Step host state (.run .main) (state.moveMain (.returned (.error err)))
  | joined {state : State} {totalBefore : UsageSnapshot} {tid : ℕ}
      {allResults : List Measurement}
      (at_pc : state.main = .joining totalBefore tid allResults) (all : host.workers ≤ tid) :
      Step host state (.run .main)
        (state.moveMain (.returned (host.output totalBefore allResults)))
  | workerLockGate {state : State} {tid : ℕ} {inside : WorkerPc}
      (at_pc : (state.worker tid).insideGate = some inside) (free : state.gate.owner = none) :
      Step host state (.run (.worker tid))
        ((state.lockGate (.worker tid)).moveWorker tid inside)
  | announce {state : State} {tid : ℕ} (at_pc : state.worker tid = .announcing) :
      Step host state (.run (.worker tid))
        ((state.setGate { state.gate.data with
          readyWorkers := state.gate.data.readyWorkers + 1 }).notify.moveWorker tid
            .checkingStart)
  | awaitStart {state : State} {tid : ℕ} (at_pc : state.worker tid = .checkingStart)
      (unstarted : state.gate.data.start = false) (healthy : state.gate.data.failure = none) :
      Step host state (.run (.worker tid)) (state.unlockGate.moveWorker tid .waitingStart)
  | seeFailure {state : State} {tid : ℕ} {err : String}
      (at_pc : state.worker tid = .checkingStart) (failed : state.gate.data.failure = some err) :
      Step host state (.run (.worker tid))
        (state.unlockGate.moveWorker tid (.done (.error err)))
  | pass {state : State} {tid : ℕ} (at_pc : state.worker tid = .checkingStart)
      (started : state.gate.data.start = true) (healthy : state.gate.data.failure = none) :
      Step host state (.run (.worker tid)) (state.unlockGate.moveWorker tid .loadingOrigin)
  | originMissing {state : State} {tid : ℕ} (at_pc : state.worker tid = .loadingOrigin)
      (unset : state.runOrigin = none) :
      Step host state (.run (.worker tid))
        (state.moveWorker tid (.done (.error "run origin missing")))
  | loadOrigin {state : State} {tid origin : ℕ} (at_pc : state.worker tid = .loadingOrigin)
      (set : state.runOrigin = some origin) :
      Step host state (.run (.worker tid)) (state.moveWorker tid (.running origin 0 []))
  | operate {state : State} {tid origin iter : ℕ} {results : List Measurement}
      {sample : ℕ × ℕ × UsageDelta} (at_pc : state.worker tid = .running origin iter results)
      (more : iter < host.count tid) (measured : host.measure origin tid iter = .ok sample) :
      Step host state (.run (.worker tid))
        (state.moveWorker tid
          (.running origin (iter + 1) (results ++ [host.record tid iter sample])))
  | operateFailed {state : State} {tid origin iter : ℕ} {results : List Measurement}
      {err : String} (at_pc : state.worker tid = .running origin iter results)
      (more : iter < host.count tid) (failed : host.measure origin tid iter = .error err) :
      Step host state (.run (.worker tid)) (state.moveWorker tid (.done (.error err)))
  | operated {state : State} {tid origin iter : ℕ} {results : List Measurement}
      (at_pc : state.worker tid = .running origin iter results) (all : host.count tid ≤ iter) :
      Step host state (.run (.worker tid)) (state.moveWorker tid (.done (.ok results)))
  | wakeMain (state : State) :
      Step host state (.spurious .main) (state.moveMain state.main.notify)
  | wakeWorker (state : State) (tid : ℕ) :
      Step host state (.spurious (.worker tid)) (state.moveWorker tid (state.worker tid).notify)

end External

def runExternal (host : External.Host) : TransitionSystem External.State Label where
  Initial state := state = .init
  Step := External.Step host

end Bench
end HermOS
