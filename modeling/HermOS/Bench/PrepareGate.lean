import HermOS.Bench.Workers
import HermOS.Library.TransitionSystem
import Mathlib.Logic.Function.Basic

/-!
# The gates of `run_external_with_prepare`

The main thread and its workers as a step machine.  Every acquisition of a mutex, every section
under it and every operation is a step of its own.  A thread in `Condvar::wait` holds nothing; a
notification sends it back to acquire the mutex, after which it tests its predicate again.
-/

namespace HermOS
namespace Bench

/-- The main thread or a worker. -/
inductive Actor
  | main
  | worker (tid : ℕ)
  deriving DecidableEq

/-- Data under the mutex of the start gate. -/
structure StartState where
  readyWorkers : ℕ
  start : Bool
  failure : Option String

/-- Data under the mutex of the finish gate. -/
structure FinishState where
  finishedWorkers : ℕ
  releaseWorkers : Bool

/-- A mutex: the thread which holds it and the data it protects. -/
structure Mutex (Data : Type) where
  owner : Option Actor
  data : Data

abbrev ThreadResult :=
  Except String (List Measurement)

/-- Program points of the main thread. -/
inductive MainPc
  | spawning (tid : ℕ)
  /-- Acquiring the start gate, first or after a wake-up. -/
  | lockingGate
  /-- Testing `ready_workers < workers && failure.is_none()`. -/
  | checkingReady
  | waitingReady
  | starting
  /-- Acquiring the finish gate, first or after a wake-up. -/
  | lockingFinish (totalBefore : UsageSnapshot)
  /-- Testing `finished_workers < workers`. -/
  | checkingFinished (totalBefore : UsageSnapshot)
  | waitingFinished (totalBefore : UsageSnapshot)
  /-- Joining the workers, with the usage of the run if it was started. -/
  | joining (usage : Option UsageDelta) (tid : ℕ) (allResults : List Measurement)
  | returned (output : Except String RunOutput)

inductive WorkerPc
  | unspawned
  | preparing
  | lockingFailure (err : String)
  | reportingFailure (err : String)
  /-- Acquiring the start gate for the first time. -/
  | lockingReady (runner : PreparedRunner)
  | announcing (runner : PreparedRunner)
  /-- Testing `!start && failure.is_none()`, then `failure`. -/
  | checkingStart (runner : PreparedRunner)
  | waitingStart (runner : PreparedRunner)
  /-- Acquiring the start gate after a wake-up. -/
  | lockingStart (runner : PreparedRunner)
  /-- Reading `run_origin`. -/
  | loadingOrigin (runner : PreparedRunner)
  | running (runner : PreparedRunner) (runOrigin : ℕ) (iter : ℕ) (results : List Measurement)
  /-- Acquiring the finish gate for the first time. -/
  | lockingFinish (results : List Measurement)
  | reporting (results : List Measurement)
  /-- Testing `!release_workers`. -/
  | checkingRelease (results : List Measurement)
  | waitingRelease (results : List Measurement)
  /-- Acquiring the finish gate after a wake-up. -/
  | lockingRelease (results : List Measurement)
  | done (result : ThreadResult)

def MainPc.notifyGate : MainPc → MainPc
  | .waitingReady => .lockingGate
  | pc => pc

def MainPc.notifyFinish : MainPc → MainPc
  | .waitingFinished totalBefore => .lockingFinish totalBefore
  | pc => pc

def WorkerPc.notifyGate : WorkerPc → WorkerPc
  | .waitingStart runner => .lockingStart runner
  | pc => pc

def WorkerPc.notifyFinish : WorkerPc → WorkerPc
  | .waitingRelease results => .lockingRelease results
  | pc => pc

/-- Where a worker continues once it has acquired the start gate. -/
def WorkerPc.insideGate : WorkerPc → Option WorkerPc
  | .lockingFailure err => some (.reportingFailure err)
  | .lockingReady runner => some (.announcing runner)
  | .lockingStart runner => some (.checkingStart runner)
  | _ => none

/-- Where a worker continues once it has acquired the finish gate. -/
def WorkerPc.insideFinish : WorkerPc → Option WorkerPc
  | .lockingFinish results => some (.reporting results)
  | .lockingRelease results => some (.checkingRelease results)
  | _ => none

/-- The shared data and all threads. -/
structure State where
  gate : Mutex StartState
  finishGate : Mutex FinishState
  runOrigin : Option ℕ
  main : MainPc
  worker : ℕ → WorkerPc

namespace State

/-- The state before the first worker is spawned. -/
def init : State where
  gate := ⟨none, ⟨0, false, none⟩⟩
  finishGate := ⟨none, ⟨0, false⟩⟩
  runOrigin := none
  main := .spawning 0
  worker _ := .unspawned

def moveMain (state : State) (pc : MainPc) : State :=
  { state with main := pc }

def moveWorker (state : State) (tid : ℕ) (pc : WorkerPc) : State :=
  { state with worker := Function.update state.worker tid pc }

/-- Acquire the start gate. -/
def lockGate (state : State) (actor : Actor) : State :=
  { state with gate := { state.gate with owner := some actor } }

/-- Release the start gate. -/
def unlockGate (state : State) : State :=
  { state with gate := { state.gate with owner := none } }

/-- Write the data of the start gate. -/
def setGate (state : State) (data : StartState) : State :=
  { state with gate := { state.gate with data } }

def notifyGate (state : State) : State :=
  { state with main := state.main.notifyGate, worker := fun tid => (state.worker tid).notifyGate }

/-- Acquire the finish gate. -/
def lockFinish (state : State) (actor : Actor) : State :=
  { state with finishGate := { state.finishGate with owner := some actor } }

/-- Release the finish gate. -/
def unlockFinish (state : State) : State :=
  { state with finishGate := { state.finishGate with owner := none } }

/-- Write the data of the finish gate. -/
def setFinish (state : State) (data : FinishState) : State :=
  { state with finishGate := { state.finishGate with data } }

def notifyFinish (state : State) : State :=
  { state with
    main := state.main.notifyFinish
    worker := fun tid => (state.worker tid).notifyFinish }

def setOrigin (state : State) (runStart : ℕ) : State :=
  { state with runOrigin := some runStart }

end State

/-- What a run depends on besides the order of its steps. -/
structure Host where
  config : RunConfig
  prepareFn : WorkerRunConfig → Except String PreparedRunner
  /-- `capture_current_process_usage()` at the start gate. -/
  totalBefore : Except String UsageSnapshot
  /-- `Instant::now()` at the start gate. -/
  runStart : ℕ
  /-- `run_start.elapsed()` at the finish gate. -/
  elapsed : ℕ
  /-- `capture_current_process_usage()` at the finish gate. -/
  totalAfter : Except String UsageSnapshot

namespace Host

variable (host : Host)

def workers : ℕ :=
  workerCount host.config

/-- Iterations of a worker. -/
def count (tid : ℕ) : ℕ :=
  iterationCount host.config.total host.workers tid

/-- First instance of a worker. -/
def offset (tid : ℕ) : ℕ :=
  iterationOffset host.config.total host.workers tid

/-- The result of a worker's `prepare_fn`. -/
def prepare (tid : ℕ) : Except String PreparedRunner :=
  host.prepareFn ⟨tid, host.count tid⟩

def measure (runOrigin : ℕ) (call : Call) : Except String (ℕ × ℕ × UsageDelta) :=
  measureOperation runOrigin host.config.measurePerOpUsage call

/-- The result of one iteration. -/
def record (tid iter : ℕ) (sample : ℕ × ℕ × UsageDelta) : Measurement :=
  sample.2.2.intoMeasurement tid iter (host.offset tid + iter) "run" sample.1 sample.2.1

def wallUs : ℕ :=
  asMicros host.elapsed

/-- Where the main thread continues once it has released the workers. -/
def afterRelease (totalBefore : UsageSnapshot) : MainPc :=
  match host.totalAfter with
  | .error err => .returned (.error err)
  | .ok totalAfter => .joining (some (totalAfter.deltaSince totalBefore host.wallUs)) 0 []

/-- What the main thread returns once it has joined all workers. -/
def output (usage : Option UsageDelta) (allResults : List Measurement) : Except String RunOutput :=
  match usage with
  | some totalUsage => .ok ⟨allResults, host.wallUs, totalUsage⟩
  | none => .error "benchmark preparation failed before start"

end Host

/-- The predicate on which the main thread waits at the start gate. -/
def StartState.Unready (data : StartState) (workers : ℕ) : Prop :=
  data.readyWorkers < workers ∧ data.failure = none

/-- A step of one thread, or a wake-up which no thread caused. -/
inductive Label
  | run (actor : Actor)
  | spurious (actor : Actor)

/-- One step of `run_external_with_prepare` on a given host. -/
inductive Step (host : Host) : State → Label → State → Prop
  | spawn {state : State} {tid : ℕ} (at_pc : state.main = .spawning tid)
      (more : tid < host.workers) :
      Step host state (.run .main)
        ((state.moveWorker tid .preparing).moveMain (.spawning (tid + 1)))
  | spawned {state : State} {tid : ℕ} (at_pc : state.main = .spawning tid)
      (all : host.workers ≤ tid) :
      Step host state (.run .main) (state.moveMain .lockingGate)
  | mainLockGate {state : State} (at_pc : state.main = .lockingGate)
      (free : state.gate.owner = none) :
      Step host state (.run .main) ((state.lockGate .main).moveMain .checkingReady)
  | awaitReady {state : State} (at_pc : state.main = .checkingReady)
      (unready : state.gate.data.Unready host.workers) :
      Step host state (.run .main) (state.unlockGate.moveMain .waitingReady)
  | ready {state : State} (at_pc : state.main = .checkingReady)
      (ready : ¬ state.gate.data.Unready host.workers) :
      Step host state (.run .main) (state.moveMain .starting)
  | captureFailed {state : State} {err : String} (at_pc : state.main = .starting)
      (failed : host.totalBefore = .error err) :
      Step host state (.run .main) (state.unlockGate.moveMain (.returned (.error err)))
  | originTaken {state : State} {totalBefore : UsageSnapshot} {origin : ℕ}
      (at_pc : state.main = .starting) (captured : host.totalBefore = .ok totalBefore)
      (healthy : state.gate.data.failure = none) (taken : state.runOrigin = some origin) :
      Step host state (.run .main)
        (state.unlockGate.moveMain (.returned (.error "run origin already initialized")))
  | start {state : State} {totalBefore : UsageSnapshot}
      (at_pc : state.main = .starting) (captured : host.totalBefore = .ok totalBefore)
      (healthy : state.gate.data.failure = none) (unset : state.runOrigin = none) :
      Step host state (.run .main)
        (((((state.setOrigin host.runStart).setGate
          { state.gate.data with start := true }).notifyGate).unlockGate).moveMain
            (.lockingFinish totalBefore))
  | giveUp {state : State} {totalBefore : UsageSnapshot} {err : String}
      (at_pc : state.main = .starting) (captured : host.totalBefore = .ok totalBefore)
      (failed : state.gate.data.failure = some err) :
      Step host state (.run .main) (state.notifyGate.unlockGate.moveMain (.joining none 0 []))
  | mainLockFinish {state : State} {totalBefore : UsageSnapshot}
      (at_pc : state.main = .lockingFinish totalBefore) (free : state.finishGate.owner = none) :
      Step host state (.run .main)
        ((state.lockFinish .main).moveMain (.checkingFinished totalBefore))
  | awaitFinished {state : State} {totalBefore : UsageSnapshot}
      (at_pc : state.main = .checkingFinished totalBefore)
      (unfinished : state.finishGate.data.finishedWorkers < host.workers) :
      Step host state (.run .main) (state.unlockFinish.moveMain (.waitingFinished totalBefore))
  | release {state : State} {totalBefore : UsageSnapshot}
      (at_pc : state.main = .checkingFinished totalBefore)
      (finished : host.workers ≤ state.finishGate.data.finishedWorkers) :
      Step host state (.run .main)
        ((((state.setFinish { state.finishGate.data with releaseWorkers := true }).notifyFinish
          ).unlockFinish).moveMain (host.afterRelease totalBefore))
  | join {state : State} {usage : Option UsageDelta} {tid : ℕ}
      {allResults threadResults : List Measurement}
      (at_pc : state.main = .joining usage tid allResults) (more : tid < host.workers)
      (finished : state.worker tid = .done (.ok threadResults)) :
      Step host state (.run .main)
        (state.moveMain (.joining usage (tid + 1) (allResults ++ threadResults)))
  | joinFailed {state : State} {usage : Option UsageDelta} {tid : ℕ}
      {allResults : List Measurement} {err : String}
      (at_pc : state.main = .joining usage tid allResults) (more : tid < host.workers)
      (failed : state.worker tid = .done (.error err)) :
      Step host state (.run .main) (state.moveMain (.returned (.error err)))
  | joined {state : State} {usage : Option UsageDelta} {tid : ℕ} {allResults : List Measurement}
      (at_pc : state.main = .joining usage tid allResults) (all : host.workers ≤ tid) :
      Step host state (.run .main) (state.moveMain (.returned (host.output usage allResults)))
  | prepared {state : State} {tid : ℕ} {runner : PreparedRunner}
      (at_pc : state.worker tid = .preparing) (prepared : host.prepare tid = .ok runner) :
      Step host state (.run (.worker tid)) (state.moveWorker tid (.lockingReady runner))
  | prepareFailed {state : State} {tid : ℕ} {err : String}
      (at_pc : state.worker tid = .preparing) (failed : host.prepare tid = .error err) :
      Step host state (.run (.worker tid)) (state.moveWorker tid (.lockingFailure err))
  | workerLockGate {state : State} {tid : ℕ} {inside : WorkerPc}
      (at_pc : (state.worker tid).insideGate = some inside) (free : state.gate.owner = none) :
      Step host state (.run (.worker tid))
        ((state.lockGate (.worker tid)).moveWorker tid inside)
  | reportFailure {state : State} {tid : ℕ} {err : String}
      (at_pc : state.worker tid = .reportingFailure err) :
      Step host state (.run (.worker tid))
        (((state.setGate { state.gate.data with
          failure := state.gate.data.failure.or (some err) }).notifyGate.unlockGate).moveWorker tid
            (.done (.error err)))
  | announce {state : State} {tid : ℕ} {runner : PreparedRunner}
      (at_pc : state.worker tid = .announcing runner) :
      Step host state (.run (.worker tid))
        ((state.setGate { state.gate.data with
          readyWorkers := state.gate.data.readyWorkers + 1 }).notifyGate.moveWorker tid
            (.checkingStart runner))
  | awaitStart {state : State} {tid : ℕ} {runner : PreparedRunner}
      (at_pc : state.worker tid = .checkingStart runner)
      (unstarted : state.gate.data.start = false) (healthy : state.gate.data.failure = none) :
      Step host state (.run (.worker tid))
        (state.unlockGate.moveWorker tid (.waitingStart runner))
  | seeFailure {state : State} {tid : ℕ} {runner : PreparedRunner} {err : String}
      (at_pc : state.worker tid = .checkingStart runner)
      (failed : state.gate.data.failure = some err) :
      Step host state (.run (.worker tid))
        (state.unlockGate.moveWorker tid (.done (.error err)))
  | pass {state : State} {tid : ℕ} {runner : PreparedRunner}
      (at_pc : state.worker tid = .checkingStart runner)
      (started : state.gate.data.start = true) (healthy : state.gate.data.failure = none) :
      Step host state (.run (.worker tid))
        (state.unlockGate.moveWorker tid (.loadingOrigin runner))
  | originMissing {state : State} {tid : ℕ} {runner : PreparedRunner}
      (at_pc : state.worker tid = .loadingOrigin runner) (unset : state.runOrigin = none) :
      Step host state (.run (.worker tid))
        (state.moveWorker tid (.done (.error "run origin missing")))
  | loadOrigin {state : State} {tid : ℕ} {runner : PreparedRunner} {origin : ℕ}
      (at_pc : state.worker tid = .loadingOrigin runner) (set : state.runOrigin = some origin) :
      Step host state (.run (.worker tid)) (state.moveWorker tid (.running runner origin 0 []))
  | operate {state : State} {tid : ℕ} {runner : PreparedRunner} {origin iter : ℕ}
      {results : List Measurement} {sample : ℕ × ℕ × UsageDelta}
      (at_pc : state.worker tid = .running runner origin iter results)
      (more : iter < host.count tid) (measured : host.measure origin (runner iter) = .ok sample) :
      Step host state (.run (.worker tid))
        (state.moveWorker tid
          (.running runner origin (iter + 1) (results ++ [host.record tid iter sample])))
  | operateFailed {state : State} {tid : ℕ} {runner : PreparedRunner} {origin iter : ℕ}
      {results : List Measurement} {err : String}
      (at_pc : state.worker tid = .running runner origin iter results)
      (more : iter < host.count tid) (failed : host.measure origin (runner iter) = .error err) :
      Step host state (.run (.worker tid)) (state.moveWorker tid (.done (.error err)))
  | operated {state : State} {tid : ℕ} {runner : PreparedRunner} {origin iter : ℕ}
      {results : List Measurement}
      (at_pc : state.worker tid = .running runner origin iter results)
      (all : host.count tid ≤ iter) :
      Step host state (.run (.worker tid)) (state.moveWorker tid (.lockingFinish results))
  | workerLockFinish {state : State} {tid : ℕ} {inside : WorkerPc}
      (at_pc : (state.worker tid).insideFinish = some inside)
      (free : state.finishGate.owner = none) :
      Step host state (.run (.worker tid))
        ((state.lockFinish (.worker tid)).moveWorker tid inside)
  | report {state : State} {tid : ℕ} {results : List Measurement}
      (at_pc : state.worker tid = .reporting results) :
      Step host state (.run (.worker tid))
        ((state.setFinish { state.finishGate.data with
          finishedWorkers := state.finishGate.data.finishedWorkers + 1 }).notifyFinish.moveWorker
            tid (.checkingRelease results))
  | awaitRelease {state : State} {tid : ℕ} {results : List Measurement}
      (at_pc : state.worker tid = .checkingRelease results)
      (unreleased : state.finishGate.data.releaseWorkers = false) :
      Step host state (.run (.worker tid))
        (state.unlockFinish.moveWorker tid (.waitingRelease results))
  | finish {state : State} {tid : ℕ} {results : List Measurement}
      (at_pc : state.worker tid = .checkingRelease results)
      (released : state.finishGate.data.releaseWorkers = true) :
      Step host state (.run (.worker tid))
        (state.unlockFinish.moveWorker tid (.done (.ok results)))
  | wakeMain (state : State) :
      Step host state (.spurious .main) (state.moveMain state.main.notifyGate.notifyFinish)
  | wakeWorker (state : State) (tid : ℕ) :
      Step host state (.spurious (.worker tid))
        (state.moveWorker tid (state.worker tid).notifyGate.notifyFinish)

def runExternalWithPrepare (host : Host) : TransitionSystem State Label where
  Initial state := state = .init
  Step := Step host

end Bench
end HermOS
