import HermOS.Bench.NetnsStages
import HermOS.Library.TransitionSystem
import Mathlib.Logic.Function.Basic

/-!
# The batches of `netns_step_shell`

`step_shell::run` as a step machine.  A batch is a group of threads, each of which sets up one
namespace stage by stage; a barrier of its own separates the stages.  Threads are named by the
first instance of their batch and their position in it.  A stage command and the clean-up are each
left by a later step than the one which enters them, so that commands of different threads
overlap.
-/

namespace HermOS
namespace Bench
namespace StepShell

open Netns

abbrev ThreadResult :=
  Except String (List Measurement)

/-- Data of a `std::sync::Barrier`. -/
structure Barrier where
  /-- Threads which have arrived in this generation. -/
  count : ℕ
  /-- How often the barrier has opened. -/
  generation : ℕ

/-- Program points of the main thread. -/
inductive MainPc
  | detecting
  /-- Testing `next_seq < config.total`. -/
  | batching (totalBefore : UsageSnapshot) (nextSeq : ℕ) (allResults : List Measurement)
  | spawning (totalBefore : UsageSnapshot) (nextSeq tid : ℕ) (allResults : List Measurement)
  | joining (totalBefore : UsageSnapshot) (nextSeq tid : ℕ) (allResults : List Measurement)
  | returned (output : Except String RunOutput)

inductive WorkerPc
  | unspawned
  /-- At the head of the loop over the stages. -/
  | looping (index : ℕ) (results : List Measurement) (error : Option String)
  | executing (index : ℕ) (results : List Measurement)
  | arriving (index : ℕ) (results : List Measurement) (error : Option String)
  /-- In `barrier.wait()`, until the barrier leaves a generation. -/
  | waiting (index generation : ℕ) (results : List Measurement) (error : Option String)
  | cleaning (results : List Measurement) (error : Option String)
  | done (result : ThreadResult)

/-- Not running. -/
def WorkerPc.settled : WorkerPc → Bool
  | .unspawned | .done _ => true
  | _ => false

theorem WorkerPc.settled_cases {pc : WorkerPc} (settled : pc.settled = true) :
    pc = .unspawned ∨ ∃ result, pc = .done result := by
  cases pc <;> simp_all [WorkerPc.settled]

/-- The barriers of the batches and all threads. -/
structure State where
  main : MainPc
  barrier : ℕ → Barrier
  worker : ℕ → ℕ → WorkerPc

namespace State

/-- The state before the first batch. -/
def init : State where
  main := .detecting
  barrier _ := ⟨0, 0⟩
  worker _ _ := .unspawned

def moveMain (state : State) (pc : MainPc) : State :=
  { state with main := pc }

def moveWorker (state : State) (first tid : ℕ) (pc : WorkerPc) : State :=
  { state with
    worker := Function.update state.worker first
      (Function.update (state.worker first) tid pc) }

/-- Write the data of a batch's barrier. -/
def setBarrier (state : State) (first : ℕ) (barrier : Barrier) : State :=
  { state with barrier := Function.update state.barrier first barrier }

end State

theorem moveWorker_worker (state : State) (first tid : ℕ) (pc : WorkerPc) (other index : ℕ) :
    (state.moveWorker first tid pc).worker other index =
      if other = first ∧ index = tid then pc else state.worker other index := by
  rcases eq_or_ne other first with rfl | ne
  · rcases eq_or_ne index tid with rfl | ne
    · simp [State.moveWorker]
    · simp [State.moveWorker, ne]
  · simp [State.moveWorker, ne]

/-- What a run depends on besides the order of its steps. -/
structure Host where
  config : RunConfig
  /-- `detect_upstream_device()`. -/
  upstream : Except String String
  root : Bool
  token : String
  /-- `Instant::now()` before the first batch. -/
  wallStart : ℕ
  /-- `wall_start.elapsed()` after the last batch. -/
  elapsed : ℕ
  /-- `capture_run_total_before()`. -/
  totalBefore : Except String UsageSnapshot
  /-- `capture_current_process_usage()` after the last batch. -/
  totalAfter : Except String UsageSnapshot
  /-- How the command of an instance at a stage ends. -/
  status : ℕ → ℕ → Except String (Option ℤ)
  /-- Usage and clock around that command. -/
  around : ℕ → ℕ → Call

namespace Host

variable (host : Host)

/-- The device which the threads are handed; there are none if it was not detected. -/
def device : String :=
  match host.upstream with
  | .ok device => device
  | .error _ => ""

def batchSize (nextSeq : ℕ) : ℕ :=
  min host.config.concurrency (host.config.total - nextSeq)

/-- The command of an instance at a stage. -/
def call (seq index : ℕ) (stage : Stage) : Call :=
  let command := stage.build host.root (buildInstance host.token seq) host.device
  { host.around seq index with
    outcome := runCommand (host.status seq index) command stage.allowFailure }

/-- The measurement of a stage. -/
def measure (seq index : ℕ) (stage : Stage) : Except String (ℕ × ℕ × UsageDelta) :=
  measureOperation host.wallStart host.config.measurePerOpUsage (host.call seq index stage)

def wallUs : ℕ :=
  asMicros host.elapsed

/-- What the main thread returns after the last batch. -/
def output (totalBefore : UsageSnapshot) (allResults : List Measurement) :
    Except String RunOutput := do
  let totalAfter ← host.totalAfter
  return ⟨allResults, host.wallUs, totalAfter.deltaSince totalBefore host.wallUs⟩

end Host

def stageRecord (tid seq : ℕ) (stage : Stage) (sample : ℕ × ℕ × UsageDelta) : Measurement :=
  sample.2.2.intoMeasurement tid seq seq stage.name sample.1 sample.2.1

/-- What a thread returns after its clean-up. -/
def threadResult (results : List Measurement) : Option String → ThreadResult
  | some err => .error err
  | none => .ok results

/-- A step of the main thread or of one thread of a batch. -/
inductive Label
  | main
  | worker (first tid : ℕ)

/-- One step of `step_shell::run` on a given host. -/
inductive Step (host : Host) : State → Label → State → Prop
  | detectFailed {state : State} {err : String} (at_pc : state.main = .detecting)
      (failed : host.upstream = .error err) :
      Step host state .main (state.moveMain (.returned (.error err)))
  | captureFailed {state : State} {device err : String} (at_pc : state.main = .detecting)
      (detected : host.upstream = .ok device) (failed : host.totalBefore = .error err) :
      Step host state .main (state.moveMain (.returned (.error err)))
  | begin {state : State} {device : String} {totalBefore : UsageSnapshot}
      (at_pc : state.main = .detecting) (detected : host.upstream = .ok device)
      (captured : host.totalBefore = .ok totalBefore) :
      Step host state .main (state.moveMain (.batching totalBefore 0 []))
  | batch {state : State} {totalBefore : UsageSnapshot} {nextSeq : ℕ}
      {allResults : List Measurement}
      (at_pc : state.main = .batching totalBefore nextSeq allResults)
      (more : nextSeq < host.config.total) :
      Step host state .main (state.moveMain (.spawning totalBefore nextSeq 0 allResults))
  | complete {state : State} {totalBefore : UsageSnapshot} {nextSeq : ℕ}
      {allResults : List Measurement}
      (at_pc : state.main = .batching totalBefore nextSeq allResults)
      (all : host.config.total ≤ nextSeq) :
      Step host state .main
        (state.moveMain (.returned (host.output totalBefore allResults)))
  | spawn {state : State} {totalBefore : UsageSnapshot} {nextSeq tid : ℕ}
      {allResults : List Measurement}
      (at_pc : state.main = .spawning totalBefore nextSeq tid allResults)
      (more : tid < host.batchSize nextSeq) :
      Step host state .main
        ((state.moveWorker nextSeq tid (.looping 0 [] none)).moveMain
          (.spawning totalBefore nextSeq (tid + 1) allResults))
  | spawned {state : State} {totalBefore : UsageSnapshot} {nextSeq tid : ℕ}
      {allResults : List Measurement}
      (at_pc : state.main = .spawning totalBefore nextSeq tid allResults)
      (all : host.batchSize nextSeq ≤ tid) :
      Step host state .main (state.moveMain (.joining totalBefore nextSeq 0 allResults))
  | join {state : State} {totalBefore : UsageSnapshot} {nextSeq tid : ℕ}
      {allResults threadResults : List Measurement}
      (at_pc : state.main = .joining totalBefore nextSeq tid allResults)
      (more : tid < host.batchSize nextSeq)
      (finished : state.worker nextSeq tid = .done (.ok threadResults)) :
      Step host state .main
        (state.moveMain
          (.joining totalBefore nextSeq (tid + 1) (allResults ++ threadResults)))
  | joinFailed {state : State} {totalBefore : UsageSnapshot} {nextSeq tid : ℕ}
      {allResults : List Measurement} {err : String}
      (at_pc : state.main = .joining totalBefore nextSeq tid allResults)
      (more : tid < host.batchSize nextSeq)
      (failed : state.worker nextSeq tid = .done (.error err)) :
      Step host state .main (state.moveMain (.returned (.error err)))
  | joined {state : State} {totalBefore : UsageSnapshot} {nextSeq tid : ℕ}
      {allResults : List Measurement}
      (at_pc : state.main = .joining totalBefore nextSeq tid allResults)
      (all : host.batchSize nextSeq ≤ tid) :
      Step host state .main
        (state.moveMain
          (.batching totalBefore (nextSeq + host.batchSize nextSeq) allResults))
  | execute {state : State} {first tid index : ℕ} {results : List Measurement} {stage : Stage}
      (at_pc : state.worker first tid = .looping index results none)
      (at_stage : stages[index]? = some stage) :
      Step host state (.worker first tid)
        (state.moveWorker first tid (.executing index results))
  | skip {state : State} {first tid index : ℕ} {results : List Measurement} {stage : Stage}
      {err : String} (at_pc : state.worker first tid = .looping index results (some err))
      (at_stage : stages[index]? = some stage) :
      Step host state (.worker first tid)
        (state.moveWorker first tid (.arriving index results (some err)))
  | executed {state : State} {first tid index : ℕ} {results : List Measurement} {stage : Stage}
      {sample : ℕ × ℕ × UsageDelta} (at_pc : state.worker first tid = .executing index results)
      (at_stage : stages[index]? = some stage)
      (measured : host.measure (first + tid) index stage = .ok sample) :
      Step host state (.worker first tid)
        (state.moveWorker first tid
          (.arriving index (results ++ [stageRecord tid (first + tid) stage sample]) none))
  | executeFailed {state : State} {first tid index : ℕ} {results : List Measurement}
      {stage : Stage} {err : String} (at_pc : state.worker first tid = .executing index results)
      (at_stage : stages[index]? = some stage)
      (failed : host.measure (first + tid) index stage = .error err) :
      Step host state (.worker first tid)
        (state.moveWorker first tid (.arriving index results (some err)))
  | arrive {state : State} {first tid index : ℕ} {results : List Measurement}
      {error : Option String} (at_pc : state.worker first tid = .arriving index results error)
      (short : (state.barrier first).count + 1 < host.batchSize first) :
      Step host state (.worker first tid)
        ((state.setBarrier first { state.barrier first with
          count := (state.barrier first).count + 1 }).moveWorker first tid
            (.waiting index (state.barrier first).generation results error))
  | arriveLast {state : State} {first tid index : ℕ} {results : List Measurement}
      {error : Option String} (at_pc : state.worker first tid = .arriving index results error)
      (full : host.batchSize first ≤ (state.barrier first).count + 1) :
      Step host state (.worker first tid)
        ((state.setBarrier first ⟨0, (state.barrier first).generation + 1⟩).moveWorker first tid
          (.looping (index + 1) results error))
  | leave {state : State} {first tid index generation : ℕ} {results : List Measurement}
      {error : Option String}
      (at_pc : state.worker first tid = .waiting index generation results error)
      (opened : (state.barrier first).generation ≠ generation) :
      Step host state (.worker first tid)
        (state.moveWorker first tid (.looping (index + 1) results error))
  | leaveLoop {state : State} {first tid index : ℕ} {results : List Measurement}
      {error : Option String} (at_pc : state.worker first tid = .looping index results error)
      (all : stages[index]? = none) :
      Step host state (.worker first tid)
        (state.moveWorker first tid (.cleaning results error))
  | cleanedUp {state : State} {first tid : ℕ} {results : List Measurement}
      {error : Option String} (at_pc : state.worker first tid = .cleaning results error) :
      Step host state (.worker first tid)
        (state.moveWorker first tid (.done (threadResult results error)))

end StepShell

def stepShellRun (host : StepShell.Host) :
    TransitionSystem StepShell.State StepShell.Label where
  Initial state := state = .init
  Step := StepShell.Step host

end Bench
end HermOS
