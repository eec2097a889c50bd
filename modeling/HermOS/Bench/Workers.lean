import Mathlib.Algebra.Group.Nat.Defs

/-!
# Benchmark workers and their measurements

How `ops/mod.rs` divides a run among worker threads and what it records for each operation.
`Instant` and `Duration` are nanosecond counts; the answers of `getrusage` and of the clock during
one operation are given by a `Call`.
-/

namespace HermOS
namespace Bench

/-- Largest `u64`, and largest `usize` of the 64-bit hosts. -/
def u64Max : ℕ :=
  2 ^ 64 - 1

/-- `saturating_add` on `u64`. -/
def saturatingAdd (left right : ℕ) : ℕ :=
  min (left + right) u64Max

/-- `saturating_mul` on `usize`. -/
def saturatingMul (left right : ℕ) : ℕ :=
  min (left * right) u64Max

/-- `as_micros() as u64`. -/
def asMicros (nanos : ℕ) : ℕ :=
  nanos / 1000 % 2 ^ 64

structure RunConfig where
  total : ℕ
  concurrency : ℕ
  measurePerOpUsage : Bool

structure WorkerRunConfig where
  threadId : ℕ
  iterations : ℕ

structure UsageSnapshot where
  userCpuUs : ℕ
  sysCpuUs : ℕ
  minflt : ℕ
  majflt : ℕ
  nvcsw : ℕ
  nivcsw : ℕ

structure UsageDelta where
  userCpuUs : ℕ
  sysCpuUs : ℕ
  blockedUs : ℕ
  minflt : ℕ
  majflt : ℕ
  nvcsw : ℕ
  nivcsw : ℕ

structure Measurement where
  threadId : ℕ
  iteration : ℕ
  instanceId : ℕ
  stage : String
  startUs : ℕ
  endUs : ℕ
  elapsedUs : ℕ
  userCpuUs : ℕ
  sysCpuUs : ℕ
  blockedUs : ℕ
  minflt : ℕ
  majflt : ℕ
  nvcsw : ℕ
  nivcsw : ℕ

structure RunOutput where
  measurements : List Measurement
  wallUs : ℕ
  totalUsage : UsageDelta

/-- Truncated subtraction of `ℕ` is `saturating_sub`. -/
def UsageSnapshot.deltaSince (after before : UsageSnapshot) (elapsedUs : ℕ) : UsageDelta :=
  let userCpuUs := after.userCpuUs - before.userCpuUs
  let sysCpuUs := after.sysCpuUs - before.sysCpuUs
  let cpuUs := saturatingAdd userCpuUs sysCpuUs
  { userCpuUs
    sysCpuUs
    blockedUs := elapsedUs - cpuUs
    minflt := after.minflt - before.minflt
    majflt := after.majflt - before.majflt
    nvcsw := after.nvcsw - before.nvcsw
    nivcsw := after.nivcsw - before.nivcsw }

def UsageDelta.zero : UsageDelta :=
  ⟨0, 0, 0, 0, 0, 0, 0⟩

def UsageDelta.intoMeasurement (usage : UsageDelta) (threadId iteration instanceId : ℕ)
    (stage : String) (startUs endUs : ℕ) : Measurement :=
  { threadId
    iteration
    instanceId
    stage
    startUs
    endUs
    elapsedUs := endUs - startUs
    userCpuUs := usage.userCpuUs
    sysCpuUs := usage.sysCpuUs
    blockedUs := usage.blockedUs
    minflt := usage.minflt
    majflt := usage.majflt
    nvcsw := usage.nvcsw
    nivcsw := usage.nivcsw }

/-- What the host answers while one operation is measured. -/
structure Call where
  /-- `UsageSnapshot::capture(RUSAGE_THREAD)` before the operation. -/
  usageBefore : Except String UsageSnapshot
  start : ℕ
  outcome : Except String Unit
  elapsed : ℕ
  /-- `UsageSnapshot::capture(RUSAGE_THREAD)` after the operation. -/
  usageAfter : Except String UsageSnapshot

/-- The calls which a worker's runner answers, in the order in which they are made. -/
abbrev PreparedRunner :=
  ℕ → Call

def measureCurrentThread (runOrigin : ℕ) (call : Call) : Except String (ℕ × ℕ × UsageDelta) := do
  let before ← call.usageBefore
  let startUs := asMicros (call.start - runOrigin)
  call.outcome
  let elapsedUs := asMicros call.elapsed
  let endUs := saturatingAdd startUs elapsedUs
  let after ← call.usageAfter
  return (startUs, endUs, after.deltaSince before elapsedUs)

def measureOperation (runOrigin : ℕ) (measurePerOpUsage : Bool) (call : Call) :
    Except String (ℕ × ℕ × UsageDelta) := do
  if measurePerOpUsage then
    measureCurrentThread runOrigin call
  else
    let startUs := asMicros (call.start - runOrigin)
    call.outcome
    let endUs := saturatingAdd startUs (asMicros call.elapsed)
    return (startUs, endUs, .zero)

def workerCount (config : RunConfig) : ℕ :=
  min config.concurrency config.total

def iterationCount (total workers tid : ℕ) : ℕ :=
  let base := total / workers
  let remainder := total % workers
  base + if tid < remainder then 1 else 0

def iterationOffset (total workers tid : ℕ) : ℕ :=
  let base := total / workers
  let remainder := total % workers
  saturatingAdd (saturatingMul tid base) (min tid remainder)

/-- The operation succeeds, and so do its usage captures where they are made. -/
def Call.Succeeds (measurePerOpUsage : Bool) (call : Call) : Prop :=
  call.outcome = .ok () ∧ (measurePerOpUsage = true →
    (∃ before, call.usageBefore = .ok before) ∧ ∃ after, call.usageAfter = .ok after)

theorem measureOperation_succeeds {measurePerOpUsage : Bool} {call : Call} (runOrigin : ℕ)
    (succeeds : call.Succeeds measurePerOpUsage) :
    ∃ sample, measureOperation runOrigin measurePerOpUsage call = .ok sample := by
  obtain ⟨outcome, captures⟩ := succeeds
  cases measurePerOpUsage with
  | false =>
      simp only [measureOperation, Bool.false_eq_true, if_false, outcome]
      exact ⟨_, rfl⟩
  | true =>
      obtain ⟨⟨before, first⟩, after, last⟩ := captures rfl
      simp only [measureOperation, measureCurrentThread, if_true, first, outcome, last]
      exact ⟨_, rfl⟩

end Bench
end HermOS
