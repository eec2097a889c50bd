import HermOS.Library.PythonText
import HermOS.Library.TransitionSystem
import Mathlib.Algebra.Ring.Int.Defs
import Mathlib.Logic.Function.Basic

/-!
# The batch of `run_fc_batch.sh`

The script forks a subshell for every task of its file, which calls `run_fc_task.py` once for every
repeat and ends at the first call which fails.  The script itself counts its subshells and waits for
one of them whenever there are as many as it may have.  The subshells proceed in any order, and a
signal may arrive at any point.
-/

namespace HermOS
namespace Batch

open Python

/-! ### Arguments -/

/-- The numbers of `$(( … ))` have 64 bits. -/
def arith (value : ℤ) : ℤ :=
  (BitVec.ofInt 64 value).toInt

theorem arith_lt (value : ℤ) : arith value < 2 ^ 63 :=
  BitVec.toInt_lt

theorem arith_injOn {first second : ℤ} (near : first - second < 2 ^ 64)
    (near' : second - first < 2 ^ 64) (same : arith first = arith second) : first = second := by
  have bits := BitVec.toInt_inj.mp same
  have numbers := congrArg BitVec.toNat bits
  rw [BitVec.toNat_ofInt, BitVec.toNat_ofInt] at numbers
  omega

/-- A number which has passed the checks of the script. -/
structure Count where
  value : ℕ
  positive : 1 ≤ value
  small : value < 2 ^ 63
  deriving DecidableEq

/-- `""|*[!0-9]*` does not match. -/
def isNumber (text : Text) : Bool :=
  !text.isEmpty && text.all Char.isDigit

/-- `$((10#$TEXT))`, unless it is less than one. -/
def Count.read (text : Text) : Option Count :=
  let value := arith (ofDigits (text.map fun c => c.toNat - 48))
  if positive : 1 ≤ value then
    have small : value < 2 ^ 63 := arith_lt _
    some ⟨value.toNat, by omega, by omega⟩
  else none

/-- `${PARAMETER:-${ENVIRONMENT:-1}}`. -/
def orDefault (parameter environment : Text) : Text :=
  if parameter ≠ [] then parameter else if environment ≠ [] then environment else ['1']

/-- The lines of the task file, without empty ones and comments. -/
def readTasks (file : Text) : List Text :=
  ((split '\n' file).map (List.filter (· ≠ Char.ofNat 0))).filter fun line =>
    line ≠ [] ∧ ¬ startsWith ['#'] line

structure Args where
  tasks : List Text
  repeatCount : Count
  jobs : Count
  startRun : Count

def mustBePositive (name : String) : Text :=
  name.toList ++ " must be a positive integer".toList

def usage : Text :=
  "usage: run_fc_batch.sh TASK_FILE REPEAT_COUNT [JOBS] [START_RUN]
       FC_BATCH_JOBS can also set JOBS
       FC_BATCH_START_RUN can also set START_RUN".toList

/-- The checks before the first fork, on the content of the task file, the parameters and two
variables of the environment.  An error is the message of `exit 2`. -/
def Args.parse (taskFile : Text) (parameters : List Text) (fcBatchJobs fcBatchStartRun : Text) :
    Except Text Args := do
  if parameters.length < 2 ∨ 4 < parameters.length then throw usage
  let repeatCount := parameters.getD 1 []
  let jobs := orDefault (parameters.getD 2 []) fcBatchJobs
  let startRun := orDefault (parameters.getD 3 []) fcBatchStartRun
  if !isNumber repeatCount then throw (mustBePositive "REPEAT_COUNT")
  if !isNumber jobs then throw (mustBePositive "JOBS")
  if !isNumber startRun then throw (mustBePositive "START_RUN")
  let some repeats := Count.read repeatCount | throw (mustBePositive "REPEAT_COUNT")
  let some parallel := Count.read jobs | throw (mustBePositive "JOBS")
  let some first := Count.read startRun | throw (mustBePositive "START_RUN")
  return ⟨readTasks taskFile, repeats, parallel, first⟩

namespace Args

variable (args : Args)

/-- `run-$((START_RUN + i - 1))`, with rounds counted from zero. -/
def runId (round : ℕ) : Text :=
  "run-".toList ++ str (arith (args.startRun.value + round))

/-- The arguments of `run_fc_task.py` in a round of a task. -/
def argv (task round : ℕ) : Option (Text × Text) :=
  args.tasks[task]?.map fun instanceId => (instanceId, args.runId round)

/-- Every call which the batch is asked for. -/
def plan : List (Text × Text) :=
  args.tasks.flatMap fun instanceId =>
    (List.range args.repeatCount.value).map fun round => (instanceId, args.runId round)

end Args

/-! ### States -/

/-- A call of `run_fc_task.py` which has returned. -/
structure Call where
  task : ℕ
  round : ℕ
  status : ℕ
  deriving DecidableEq

/-- Where a subshell stands. -/
inductive Phase
  | unborn
  | running
  /-- Ended, and not yet waited for. -/
  | ended (status : ℕ)
  | reaped (status : ℕ)
  deriving DecidableEq

/-- The subshell of a task. -/
structure Group where
  phase : Phase
  /-- Calls which have returned to it. -/
  done : ℕ
  /-- A call goes on which the subshell has not outlived. -/
  orphan : Bool
  deriving DecidableEq

/-- Where the script stands. -/
inductive Pc
  | launching (index : ℕ)
  /-- `ACTIVE` has been raised. -/
  | forked (index : ℕ)
  /-- In `wait -n`, called from the `for` loop or from the `while` loop. -/
  | waiting (back : Option ℕ)
  | draining
  | exited (code : ℕ)
  deriving DecidableEq

/-- Where `wait_for_one` returns to. -/
def Pc.returned : Option ℕ → Pc
  | some index => .launching index
  | none => .draining

structure State where
  pc : Pc
  active : ℕ
  failures : ℕ
  group : ℕ → Group
  /-- The calls which have returned to a subshell, oldest first. -/
  calls : List Call

/-- The status of a process which `SIGTERM` has ended. -/
def terminated : ℕ :=
  143

namespace Group

def fresh : Group :=
  ⟨.unborn, 0, false⟩

def kill (group : Group) : Group :=
  match group.phase with
  | .running => { group with phase := .ended terminated, orphan := true }
  | _ => group

/-- A call has returned, and `set -e` or the end of the loop ends the subshell. -/
def ran (repeats status : ℕ) (group : Group) : Group :=
  { group with
    done := group.done + 1
    phase := if status ≠ 0 then .ended status
      else if group.done + 1 < repeats then .running else .ended 0 }

/-- Neither unborn nor waited for: a job of the script. -/
def isJob (group : Group) : Bool :=
  match group.phase with
  | .running | .ended _ => true
  | _ => false

/-- A call may be going on. -/
def isBusy (group : Group) : Bool :=
  group.phase = .running || group.orphan

end Group

namespace State

/-- The state after the task file has been read. -/
def initial (args : Args) : State where
  pc := if args.tasks = [] then .exited 0 else .launching 0
  active := 0
  failures := 0
  group _ := .fresh
  calls := []

variable (state : State)

def setGroup (task : ℕ) (group : Group) : State :=
  { state with group := Function.update state.group task group }

@[simp] theorem setGroup_group (task : ℕ) (group : Group) :
    (state.setGroup task group).group = Function.update state.group task group :=
  rfl

def cleanupJobs : State :=
  { state with group := fun task => (state.group task).kill }

/-- The rest of `wait_for_one` after `wait -n`. -/
def waitedFor (back : Option ℕ) (status : ℕ) : State :=
  { state with
    pc := .returned back
    active := state.active - 1
    failures := if status ≠ 0 then state.failures + 1 else state.failures }

/-- `run_task_group … &`. -/
def launch (index : ℕ) : State :=
  { state.setGroup index ⟨.running, 0, false⟩ with
    pc := .forked (index + 1)
    active := state.active + 1 }

/-- A call of the task returns. -/
def ran (repeats task status : ℕ) : State :=
  { state.setGroup task ((state.group task).ran repeats status) with
    calls := state.calls ++ [⟨task, (state.group task).done, status⟩] }

@[simp] theorem launch_group (index : ℕ) :
    (state.launch index).group = Function.update state.group index ⟨.running, 0, false⟩ :=
  rfl

@[simp] theorem ran_group (repeats task status : ℕ) : (state.ran repeats task status).group =
    Function.update state.group task ((state.group task).ran repeats status) :=
  rfl

/-- The end of the script after the `while` loop, with its trap. -/
def conclude : State :=
  if state.failures ≠ 0 then { state.cleanupJobs with pc := .exited 1 }
  else { state with pc := .exited 0 }

theorem conclude_well {state : State} (well : state.failures = 0) :
    state.conclude = { state with pc := .exited 0 } :=
  if_neg (not_not.mpr well)

theorem conclude_failed {state : State} (failed : state.failures ≠ 0) :
    state.conclude = { state.cleanupJobs with pc := .exited 1 } :=
  if_pos failed

end State

/-! ### Steps -/

inductive Label
  | launch
  | check
  | leave
  | await
  | reap (task : ℕ)
  | conclude
  | ran (task status : ℕ)
  /-- The subshell of the task fails between two calls. -/
  | stopped (task status : ℕ)
  /-- A call returns whose subshell has been killed. -/
  | abandoned (task : ℕ)
  | signal (number : ℕ)
  deriving DecidableEq

/-- One step of the script, of a subshell or of the world. -/
inductive Step (args : Args) : State → Label → State → Prop
  | launch {state : State} {index : ℕ} (at_head : state.pc = .launching index)
      (more : index < args.tasks.length) (well : state.failures = 0) :
      Step args state .launch (state.launch index)
  | full {state : State} {index : ℕ} (at_check : state.pc = .forked index)
      (full : args.jobs.value ≤ state.active) :
      Step args state .check { state with pc := .waiting (some index) }
  | room {state : State} {index : ℕ} (at_check : state.pc = .forked index)
      (room : state.active < args.jobs.value) :
      Step args state .check { state with pc := .launching index }
  | leave {state : State} {index : ℕ} (at_head : state.pc = .launching index)
      (decided : args.tasks.length ≤ index ∨ state.failures ≠ 0) :
      Step args state .leave { state with pc := .draining }
  | await {state : State} (at_head : state.pc = .draining) (some_left : 0 < state.active) :
      Step args state .await { state with pc := .waiting none }
  | reap {state : State} {back : Option ℕ} {task status : ℕ} (waits : state.pc = .waiting back)
      (ended : (state.group task).phase = .ended status) :
      Step args state (.reap task)
        ((state.setGroup task { state.group task with phase := .reaped status }).waitedFor
          back status)
  | conclude {state : State} (at_head : state.pc = .draining) (none_left : state.active = 0) :
      Step args state .conclude state.conclude
  | ran {state : State} {task status : ℕ} (runs : (state.group task).phase = .running) :
      Step args state (.ran task status) (state.ran args.repeatCount.value task status)
  | stopped {state : State} {task status : ℕ} (runs : (state.group task).phase = .running)
      (fails : status ≠ 0) :
      Step args state (.stopped task status)
        (state.setGroup task { state.group task with phase := .ended status })
  | abandoned {state : State} {task : ℕ} (left : (state.group task).orphan = true) :
      Step args state (.abandoned task)
        (state.setGroup task { state.group task with orphan := false })
  /-- A trap lets `wait` return at once. -/
  | interrupt {state : State} {back : Option ℕ} {number : ℕ} (waits : state.pc = .waiting back) :
      Step args state (.signal number) (state.cleanupJobs.waitedFor back (128 + number))
  | trap {state : State} {number : ℕ} (works : ∀ back, state.pc ≠ .waiting back)
      (live : ∀ code, state.pc ≠ .exited code) :
      Step args state (.signal number) state.cleanupJobs

/-- The script with its subshells. -/
def batch (args : Args) : TransitionSystem State Label where
  Initial state := state = .initial args
  Step := Step args

/-! ### A run -/

/-- Three tasks with two rounds, of which two may run at once. -/
def sampleArgs : Args :=
  ⟨["a".toList, "b".toList, "c".toList], ⟨2, by decide, by decide⟩, ⟨2, by decide, by decide⟩,
    ⟨1, by decide, by decide⟩⟩

def sampleForked : State :=
  { (State.initial sampleArgs).launch 0 with pc := .launching 1 }.launch 1

theorem sampleForked_reachable : (batch sampleArgs).Reachable sampleForked :=
  ⟨[.launch, .check, .launch], _, rfl, .cons (.launch rfl (by decide) rfl)
    (.cons (.room rfl (by decide)) (.cons (.launch rfl (by decide) rfl) (.nil _)))⟩

/-- The script waits for the first two subshells. -/
def sampleFull : State :=
  { sampleForked with pc := .waiting (some 2) }

def sampleRan : State :=
  ((sampleFull.ran 2 0 0).ran 2 1 0).ran 2 0 0

def sampleReaped : State :=
  (sampleRan.setGroup 0 { sampleRan.group 0 with phase := .reaped 0 }).waitedFor (some 2) 0

/-- The third subshell has taken the place of the first. -/
def sampleRefilled : State :=
  ({ sampleReaped.launch 2 with pc := .waiting (some 3) }.ran 2 1 0).ran 2 2 0

def sampleSecond : State :=
  (sampleRefilled.setGroup 1 { sampleRefilled.group 1 with phase := .reaped 0 }).waitedFor
    (some 3) 0

def sampleDrained : State :=
  { sampleSecond with pc := .waiting none }.ran 2 2 0

def sampleEnd : State :=
  ((sampleDrained.setGroup 2 { sampleDrained.group 2 with phase := .reaped 0 }).waitedFor none
    0).conclude

def sampleTrace : List Label :=
  [.launch, .check, .launch, .check, .ran 0 0, .ran 1 0, .ran 0 0, .reap 0, .launch, .check,
    .ran 1 0, .ran 2 0, .reap 1, .leave, .await, .ran 2 0, .reap 2, .conclude]

theorem sample_run : (batch sampleArgs).Run sampleTrace sampleEnd := by
  refine ⟨_, rfl, .cons (.launch rfl (by decide) rfl) (.cons (.room rfl (by decide)) ?_)⟩
  refine .cons (.launch rfl (by decide) rfl) (.cons (.full rfl le_rfl) ?_)
  refine .cons (.ran rfl) (.cons (.ran rfl) (.cons (.ran rfl) (.cons (.reap rfl rfl) ?_)))
  refine .cons (.launch rfl (by decide) rfl) (.cons (.full rfl le_rfl) ?_)
  refine .cons (.ran rfl) (.cons (.ran rfl) (.cons (.reap rfl rfl) ?_))
  refine .cons (.leave rfl (.inl le_rfl)) (.cons (.await rfl (by decide)) ?_)
  exact .cons (.ran rfl) (.cons (.reap rfl rfl) (.cons (.conclude rfl rfl) (.nil _)))

end Batch
end HermOS
